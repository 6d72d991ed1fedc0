import KeliNode.Lib.Durable
import KeliNode.Lib.FileName
import KeliNode.Lib.Utf8
import KeliNode.Lib.Denotes
import KeliNode.Config.Paths
import KeliNode.User.Sync

/-!
# The user lists on disk (`user.rs`)

Each panel node has a file of its own under the configuration directory.  A save writes a temporary file next to it
and renames that over it; a load that fails counts as no file.

| here | there |
|---|---|
| `userSyncStateDir`, `userSyncStatePath`, `sha1Hex` | `user.rs:350`, `:315`, `:357` |
| `loadUserSyncState`, `saveUserSyncState` | `user.rs:328`, `:336` |

SHA-1 and `serde_json` are parameters.  A call of the file system may fail at any point, and what it says is an
answer of the world (`SaveOutcome`); directories are not modelled.
-/

namespace KeliNode

open Lib

/-- What the code takes from its libraries and its surroundings: SHA-1, `serde_json` and `V2NODE_STATE_DIR`. -/
structure UserStore where
  sha1 : Bytes → Bytes
  encode : UserSyncState → Bytes
  decode : Bytes → Except Text UserSyncState
  stateDir : Option Text

/-- `serde_json` reads back what it wrote. -/
def UserStore.Lawful (store : UserStore) : Prop := ∀ state, store.decode (store.encode state) = .ok state

/-- How the file system answers a save. -/
inductive SaveOutcome where
  | saved
  | dirFailed (error : Text)
  | writeFailed (error : Text) (torn : Option Bytes)
  | renameFailed (error : Text)
  deriving DecidableEq

namespace UserStore

variable (store : UserStore)

def sha1Hex (data : Bytes) : Text := (store.sha1 data).flatMap Json.hexByte

def userSyncStateDir : Text := (store.stateDir.filter fun value => trim value ≠ []).getD defaultConfigDir

def userSyncStatePath (configDir apiHost : Text) (nodeId : Nat) : Text :=
  let baseDir := normalizeConfigDir configDir
  let baseDir := if baseDir = defaultConfigDir then store.userSyncStateDir else baseDir
  trimEndMatches (· = '/') baseDir ++ "/user_sync_" ++ store.sha1Hex (utf8 apiHost) ++ "_" ++ decimal nodeId ++ ".json"

/-- The read fails with an error of its own, or because there is no file. -/
def loadUserSyncState (path : Text) (readError : Option Text) (files : Files Text Bytes) : Except Text UserSyncState :=
  match readError, files path with
  | some error, _ => .error ("read user sync state " ++ path ++ ": " ++ error)
  | none, none => .error ("read user sync state " ++ path ++ ": No such file or directory (os error 2)")
  | none, some data => (store.decode data).mapError fun error => "decode user sync state " ++ path ++ ": " ++ error

def temporaryPath (path : Text) : Text := withExtension path "json.tmp"

/-- The writes of a save, from where the directory is there. -/
def saveSteps (path : Text) (state : UserSyncState) : List (FileStep Text Bytes) :=
  replaceFile (temporaryPath path) path (store.encode state)

def saveUserSyncState (path : Text) (state : UserSyncState) (outcome : SaveOutcome) (files : Files Text Bytes) :
    Except Text Unit × Files Text Bytes :=
  let tmp := temporaryPath path
  match outcome with
  | .dirFailed error =>
    (.error ("create user sync state dir " ++ (parentPath path).getD [] ++ ": " ++ error), files)
  | .writeFailed error torn =>
    (.error ("write user sync state " ++ tmp ++ ": " ++ error), leave (store.saveSteps path state) ⟨0, torn⟩ files)
  | .renameFailed error =>
    (.error ("replace user sync state " ++ path ++ ": " ++ error), leave (store.saveSteps path state) ⟨1, none⟩ files)
  | .saved => (.ok (), finish (store.saveSteps path state) files)

end UserStore

/-! ## The names of the files -/

section

variable {store : UserStore} {configDir apiHost : Text} {nodeId : Nat}

theorem hexDigit_spec : ∀ n < 16, Json.hexDigit n ≠ '/' ∧ Json.hexDigit n ≠ '_' := by decide

theorem mem_sha1Hex {data : Bytes} {c : Char} (h : c ∈ store.sha1Hex data) : c ≠ '/' ∧ c ≠ '_' := by
  rw [UserStore.sha1Hex, List.mem_flatMap] at h
  obtain ⟨byte, -, hc⟩ := h
  rcases List.mem_pair.1 hc with rfl | rfl
  · exact hexDigit_spec _ (by have := byte.toNat_lt; omega)
  · exact hexDigit_spec _ (by omega)

theorem hexByte_inj {a b : UInt8} (h : Json.hexByte a = Json.hexByte b) : a = b := by
  have hdigit : ∀ m < 16, ∀ n < 16, Json.hexDigit m = Json.hexDigit n → m = n := by decide
  have ha := a.toNat_lt
  have hb := b.toNat_lt
  simp only [Json.hexByte, List.cons.injEq, and_true] at h
  have hhigh := hdigit _ (by omega) _ (by omega) h.1
  have hlow := hdigit _ (by omega) _ (by omega) h.2
  exact UInt8.toNat.inj (by omega)

theorem flatMap_hexByte_inj : ∀ {a b : Bytes}, a.flatMap Json.hexByte = b.flatMap Json.hexByte → a = b
  | [], [], _ => rfl
  | [], _ :: _, h => by simp [Json.hexByte] at h
  | _ :: _, [], h => by simp [Json.hexByte] at h
  | byte :: a, byte' :: b, h => by
    rw [List.flatMap_cons, List.flatMap_cons] at h
    obtain ⟨hbyte, hrest⟩ := List.append_inj h rfl
    rw [hexByte_inj hbyte, flatMap_hexByte_inj hrest]

/-- The file name without its extension. -/
def UserStore.fileStemOf (store : UserStore) (apiHost : Text) (nodeId : Nat) : Text :=
  "user_sync_" ++ store.sha1Hex (utf8 apiHost) ++ "_" ++ decimal nodeId

def UserStore.baseDir (store : UserStore) (configDir : Text) : Text :=
  let baseDir := normalizeConfigDir configDir
  trimEndMatches (· = '/') (if baseDir = defaultConfigDir then store.userSyncStateDir else baseDir)

theorem slash_literal : (("/user_sync_" : String) : Text) = '/' :: ("user_sync_" : String).toList := by decide

theorem underscore_literal : (("_" : String) : Text) = ['_'] := by decide

theorem dot_literal : ((".json" : String) : Text) = '.' :: ("json" : String).toList := by decide

theorem userSyncStatePath_eq : store.userSyncStatePath configDir apiHost nodeId =
    store.baseDir configDir ++ '/' :: (store.fileStemOf apiHost nodeId ++ '.' :: ("json" : String).toList) := by
  have hassoc : ∀ dir front hash middle id extension : Text,
      dir ++ '/' :: front ++ hash ++ middle ++ id ++ '.' :: extension =
        dir ++ '/' :: (front ++ hash ++ middle ++ id ++ '.' :: extension) := by
    intro dir front hash middle id extension
    simp only [List.append_assoc, List.cons_append]
  unfold UserStore.userSyncStatePath UserStore.baseDir UserStore.fileStemOf
  rw [slash_literal, dot_literal]
  exact hassoc _ _ _ _ _ _

theorem fileStemOf_free : '/' ∉ store.fileStemOf apiHost nodeId := by
  unfold UserStore.fileStemOf
  simp only [List.mem_append, not_or]
  refine ⟨⟨⟨by decide, fun h => (mem_sha1Hex h).1 rfl⟩, by decide⟩, not_mem_decimal (by decide) nodeId⟩

theorem fileStemOf_ne_nil : store.fileStemOf apiHost nodeId ≠ [] := by
  unfold UserStore.fileStemOf
  rw [List.append_assoc, List.append_assoc]
  exact List.append_ne_nil_of_left_ne_nil (by decide) _

theorem isName_fileName : IsName (store.fileStemOf apiHost nodeId ++ '.' :: ("json" : String).toList) :=
  isName_append fileStemOf_free (by decide) (by decide) (by decide)

/-- The temporary file of a save stands next to the file. -/
theorem temporaryPath_eq : UserStore.temporaryPath (store.userSyncStatePath configDir apiHost nodeId) =
    store.baseDir configDir ++ '/' :: (store.fileStemOf apiHost nodeId ++ '.' :: ("json.tmp" : String).toList) := by
  rw [UserStore.temporaryPath, userSyncStatePath_eq]
  exact withExtension_append fileStemOf_ne_nil fileStemOf_free (by decide) (by decide) (by decide) (by decide)

theorem getLast?_userSyncStatePath : (store.userSyncStatePath configDir apiHost nodeId).getLast? = some 'n' := by
  rw [userSyncStatePath_eq, List.getLast?_append, List.getLast?_cons, List.getLast?_append, List.getLast?_cons]
  rfl

theorem getLast?_temporaryPath :
    (UserStore.temporaryPath (store.userSyncStatePath configDir apiHost nodeId)).getLast? = some 'p' := by
  rw [temporaryPath_eq, List.getLast?_append, List.getLast?_cons, List.getLast?_append, List.getLast?_cons]
  rfl

variable {configDir' apiHost' : Text} {nodeId' : Nat}

/-- **No temporary file is in the way** of the file of any node. -/
theorem temporaryPath_ne : UserStore.temporaryPath (store.userSyncStatePath configDir apiHost nodeId) ≠
    store.userSyncStatePath configDir' apiHost' nodeId' := by
  intro h
  have hlast := congrArg List.getLast? h
  rw [getLast?_temporaryPath, getLast?_userSyncStatePath] at hlast
  cases hlast

/-- **A file of its own**: nodes share a file only if they share the hash of the panel and the identifier. -/
theorem userSyncStatePath_inj (h : store.userSyncStatePath configDir apiHost nodeId =
    store.userSyncStatePath configDir' apiHost' nodeId') :
    store.sha1 (utf8 apiHost) = store.sha1 (utf8 apiHost') ∧ nodeId = nodeId' := by
  rw [userSyncStatePath_eq, userSyncStatePath_eq] at h
  have hname := congrArg lastComponent h
  rw [lastComponent_append isName_fileName, lastComponent_append isName_fileName] at hname
  have hstem := List.append_cancel_right (Prod.mk.inj (Option.some.inj hname)).2
  unfold UserStore.fileStemOf at hstem
  rw [underscore_literal, List.append_assoc, List.append_assoc, List.append_assoc, List.append_assoc] at hstem
  obtain ⟨hhash, hid⟩ := append_cons_inj (fun h => (mem_sha1Hex h).2 rfl) (fun h => (mem_sha1Hex h).2 rfl)
    (List.append_cancel_left hstem)
  exact ⟨flatMap_hexByte_inj hhash, decimal_inj hid⟩

end

/-! ## Saving and loading -/

section

variable {store : UserStore} {path : Text} {state : UserSyncState} {files : Files Text Bytes}

/-- Whatever a save comes to, it is its program cut somewhere, and not cut if it returns without an error. -/
theorem saveUserSyncState_files (outcome : SaveOutcome) :
    ∃ cut, (store.saveUserSyncState path state outcome files).2 = leave (store.saveSteps path state) cut files ∧
      ((store.saveUserSyncState path state outcome files).1 = .ok () → 2 ≤ cut.after) := by
  cases outcome with
  | saved =>
    exact ⟨⟨2, none⟩, (leave_of_length_le (by simp [UserStore.saveSteps, replaceFile])).symm, fun _ => le_rfl⟩
  | dirFailed error =>
    refine ⟨⟨0, files (UserStore.temporaryPath path)⟩, ?_, fun h => by cases h⟩
    exact (Function.update_eq_self _ _).symm
  | writeFailed error torn => exact ⟨⟨0, torn⟩, rfl, fun h => by cases h⟩
  | renameFailed error => exact ⟨⟨1, none⟩, rfl, fun h => by cases h⟩

theorem load_congr {files' : Files Text Bytes} (h : files' path = files path) :
    store.loadUserSyncState path none files' = store.loadUserSyncState path none files := by
  simp only [UserStore.loadUserSyncState, h]

variable {configDir apiHost configDir' apiHost' : Text} {nodeId nodeId' : Nat}

/-- **A save is all or nothing** for the loads after it, wherever it ends. -/
theorem load_leave (hlawful : store.Lawful) {cut : Cut Bytes} :
    store.loadUserSyncState (store.userSyncStatePath configDir apiHost nodeId) none
        (leave (store.saveSteps (store.userSyncStatePath configDir apiHost nodeId) state) cut files) =
      if cut.after < 2 then
        store.loadUserSyncState (store.userSyncStatePath configDir apiHost nodeId) none files
      else .ok state := by
  have hfile : leave (store.saveSteps (store.userSyncStatePath configDir apiHost nodeId) state) cut files
      (store.userSyncStatePath configDir apiHost nodeId) = _ := leave_replaceFile temporaryPath_ne
  split
  · rename_i hcut
    rw [if_pos hcut] at hfile
    exact load_congr hfile
  · rename_i hcut
    rw [if_neg hcut] at hfile
    simp only [UserStore.loadUserSyncState, hfile, hlawful state, Except.mapError]

/-- The file of another node loads as before. -/
theorem load_leave_other {cut : Cut Bytes} (hne : store.userSyncStatePath configDir' apiHost' nodeId' ≠
    store.userSyncStatePath configDir apiHost nodeId) :
    store.loadUserSyncState (store.userSyncStatePath configDir' apiHost' nodeId') none
        (leave (store.saveSteps (store.userSyncStatePath configDir apiHost nodeId) state) cut files) =
      store.loadUserSyncState (store.userSyncStatePath configDir' apiHost' nodeId') none files :=
  load_congr (leave_replaceFile_other temporaryPath_ne.symm hne)

end

end KeliNode
