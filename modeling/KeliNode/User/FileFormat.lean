import KeliNode.Lib.Denotes
import KeliNode.User.Store

/-!
# The file of a user list (`user.rs`)

`UserSyncState` as `serde_json` writes it: the fields in the order of the declarations.  A limit that is missing is
read as zero, members with other names are passed over.  The bounds of the integers, the time of the last save and
members that stand twice are left out.

What is written is read back as it was (`serde_lawful`), so the store the other modules ask for is there.
-/

namespace KeliNode

open Lib

def UserInfo.members (user : UserInfo) : List (Text × Json) :=
  [("id", .posInt user.id), ("uuid", .string user.uuid), ("speed_limit", .posInt user.speedLimit),
   ("device_limit", .posInt user.deviceLimit)]

/-- The members of a state, each with its text. -/
def UserSyncState.texts (state : UserSyncState) : List (Text × Text) :=
  [("revision", Json.print (Json.signed state.revision)),
   ("users", '[' :: join [','] (state.users.map fun user => Json.printObject user.members) ++ [']'])]

def UserSyncState.text (state : UserSyncState) : Text := '{' :: join [','] (Json.printMembers state.texts) ++ ['}']

/-- `#[serde(default)]` on a number. -/
def readLimit (key : Text) (value : Json) : Option Nat :=
  match value.get key with
  | none => some 0
  | some limit => limit.asU64

def readUser (value : Json) : Option UserInfo := do
  some
    { id := ← (value.get "id").bind Json.asU64
      uuid := ← (value.get "uuid").bind Json.asStr
      speedLimit := ← readLimit "speed_limit" value
      deviceLimit := ← readLimit "device_limit" value }

def asInt : Json → Option Int
  | .posInt n => some n
  | .negInt n => some (-n)
  | _ => none

def readUserSyncState (value : Json) : Option UserSyncState := do
  let users ← (value.get "users").bind Json.asArray
  some { revision := ← (value.get "revision").bind asInt, users := ← users.mapM readUser }

def UserStore.serde (sha1 : Bytes → Bytes) (stateDir : Option Text) : UserStore where
  sha1
  encode state := utf8 state.text
  decode data :=
    match (fromUtf8 data).bind fun text => (Json.parse text).bind readUserSyncState with
    | some state => .ok state
    | none => .error "invalid user sync state"
  stateDir

/-! ## The round trip -/

theorem readUser_members (user : UserInfo) : readUser (Json.ofFields user.members) = some user := by
  have hget : ∀ {key : Text} {value : Json} (place : Nat), user.members[place]? = some (key, value) →
      (Json.ofFields user.members).get key = some value :=
    fun place h => Json.get_ofFields_at ["id", "uuid", "speed_limit", "device_limit"] (by decide) rfl place h
  rw [readUser, readLimit, readLimit, hget 0 rfl, hget 1 rfl, hget 2 rfl, hget 3 rfl]
  rfl

theorem denotes_user (user : UserInfo) :
    Json.Denotes (Json.printObject user.members) (Json.ofFields user.members) := by
  refine Json.denotes_printObject fun field hfield => ?_
  simp only [UserInfo.members, List.mem_cons, List.not_mem_nil, or_false] at hfield
  rcases hfield with rfl | rfl | rfl | rfl
  · exact Json.denotes_posInt _
  · exact Json.denotes_string _
  · exact Json.denotes_posInt _
  · exact Json.denotes_posInt _

theorem mapM_readUser (users : List UserInfo) :
    (users.map fun user => Json.ofFields user.members).mapM readUser = some users := by
  rw [List.mapM_map]
  induction users with
  | nil => rfl
  | cons user users ih => rw [List.mapM_cons, Function.comp_apply, readUser_members, ih]; rfl

theorem asInt_signed (n : Int) : asInt (Json.signed n) = some n := by
  rw [Json.signed]
  split
  · rename_i hneg
    rw [asInt, Int.ofNat_natAbs_of_nonpos (by omega), Int.neg_neg]
  · rename_i hpos
    rw [asInt, Int.natAbs_of_nonneg (by omega)]

def UserSyncState.fields (state : UserSyncState) : List (Text × Json) :=
  [("revision", Json.signed state.revision), ("users", .array (state.users.map fun user => Json.ofFields user.members))]

theorem denotes_state (state : UserSyncState) : Json.Denotes state.text (Json.ofFields state.fields) := by
  refine Json.denotes_object (.cons ⟨rfl, Json.denotes_signed _⟩ (.cons ⟨rfl, ?_⟩ .nil))
  refine Json.denotes_array (List.forall₂_map_left_iff.2 (List.forall₂_map_right_iff.2 (List.forall₂_same.2 ?_)))
  exact fun user _ => denotes_user user

theorem readUserSyncState_fields (state : UserSyncState) :
    readUserSyncState (Json.ofFields state.fields) = some state := by
  have hget : ∀ {key : Text} {value : Json} (place : Nat), state.fields[place]? = some (key, value) →
      (Json.ofFields state.fields).get key = some value :=
    fun place h => Json.get_ofFields_at ["revision", "users"] (by decide) rfl place h
  rw [readUserSyncState, hget 0 rfl, hget 1 rfl]
  simp only [Option.bind_some, Json.asArray, asInt_signed, mapM_readUser, Option.bind_eq_bind]

/-- **Round trip** of the file. -/
theorem serde_lawful (sha1 : Bytes → Bytes) (stateDir : Option Text) : (UserStore.serde sha1 stateDir).Lawful := by
  intro state
  have hparse : Json.parse state.text = some (Json.ofFields state.fields) := by
    have hreads := (denotes_state state).reads (state.text.length + 1) [] (Nat.le_succ _) Json.ends_nil
    rw [List.append_nil] at hreads
    rw [Json.parse, hreads]
    rfl
  simp only [UserStore.serde, fromUtf8_utf8, Option.bind_some, hparse, readUserSyncState_fields]

end KeliNode
