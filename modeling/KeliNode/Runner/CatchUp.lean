import KeliNode.Lib.Replica
import KeliNode.Lib.Run
import KeliNode.Runner.Restart
import KeliNode.User.Diff

/-!
# User lists across restarts (`runner.rs`, `user.rs`)

The panel nodes move on while the agent refreshes, fails, saves, is killed in the middle of a save and starts again.
The panel is taken at its word (`PanelTold`): it answers from its newest revision, a delta names every user that
changed since the revision it was asked for, and an empty list is no answer.

Then the list of a node, in memory and on disk, is always one the panel had at the acknowledged revision or later
(`ListsTrue`), and a refresh that succeeds leaves the newest (`lists_truthful`), also the first one after a crash.
-/

namespace KeliNode

open Lib Std

/-! ## What the panel promises -/

/-- A delta: a whole list that is not empty, or the users that changed since. -/
structure DeltaTold (history : History Text UserInfo) (since now : Int) (delta : UserDeltaBody) : Prop where
  revision : delta.revision = now
  whole : delta.full = true → delta.users ≠ [] ∧ userAt delta.users = history now
  upserted : delta.full = false → ∀ uuid user, userAt delta.upsert uuid = some user → history now uuid = some user
  deleted : delta.full = false → ∀ uuid, userAt delta.upsert uuid = none → userAt delta.deleted uuid ≠ none →
    history now uuid = none
  named : delta.full = false → ∀ uuid, userAt delta.upsert uuid = none → userAt delta.deleted uuid = none →
    ¬ChangedSince history since now uuid

structure PanelTold (history : History Text UserInfo) (since now : Int) (answer : PanelUsersAnswer) : Prop where
  delta : ∀ delta, answer.delta = .ok delta → DeltaTold history since now delta
  list : ∀ users, answer.list = .ok users → ∃ list, users = some list ∧ list ≠ [] ∧ userAt list = history now

section

variable {history : History Text UserInfo} {since now : Int} {delta : UserDeltaBody} {entry entry' : RuntimeUserSyncEntry}
  (native : Bool)

/-- The list after an incremental delta. -/
theorem userAt_applyUserDeltaBodyOwned (hfull : delta.full = false) (state : UserSyncState) (uuid : Text) :
    userAt (applyUserDeltaBodyOwned state delta).state.users uuid =
      (userAt delta.upsert uuid).or (if (userAt delta.deleted uuid).isSome then none else userAt state.users uuid) := by
  rw [applyUserDeltaBodyOwned, hfull, if_neg Bool.false_ne_true]
  by_cases hempty : (delta.deleted.isEmpty && delta.upsert.isEmpty) = true
  · rw [if_pos hempty]
    rw [Bool.and_eq_true, List.isEmpty_iff, List.isEmpty_iff] at hempty
    rw [hempty.1, hempty.2]
    rfl
  · rw [if_neg hempty]
    exact userAt_next state.users delta.deleted delta.upsert uuid

/-- Following an incremental delta leads to the newest list. -/
theorem DeltaTold.follow (htold : DeltaTold history since now delta) (hfull : delta.full = false)
    {content : Text → Option UserInfo} (hbehind : Behind history since now content) :
    (fun uuid => (userAt delta.upsert uuid).or (if (userAt delta.deleted uuid).isSome then none else content uuid)) =
      history now := by
  apply hbehind.catch_up
  intro uuid
  cases hupsert : userAt delta.upsert uuid with
  | some user => exact .inl (htold.upserted hfull uuid user hupsert).symm
  | none =>
    rw [Option.none_or]
    cases hdeleted : userAt delta.deleted uuid with
    | some user =>
      exact .inl (htold.deleted hfull uuid hupsert (by rw [hdeleted]; exact Option.some_ne_none user)).symm
    | none => exact .inr ⟨rfl, htold.named hfull uuid hupsert hdeleted⟩

theorem applyUserDeltaBodyOwned_current {state : UserSyncState} (htold : DeltaTold history since now delta)
    (hbehind : Behind history since now (userAt state.users)) :
    (applyUserDeltaBodyOwned state delta).state.revision = now ∧
      userAt (applyUserDeltaBodyOwned state delta).state.users = history now := by
  cases hfull : delta.full with
  | true =>
    obtain ⟨hne, husers⟩ := htold.whole hfull
    rw [applyUserDeltaBodyOwned, hfull, if_pos rfl, if_neg (by simpa using hne)]
    exact ⟨htold.revision, husers⟩
  | false =>
    refine ⟨?_, ?_⟩
    · rw [applyUserDeltaBodyOwned, hfull, if_neg Bool.false_ne_true]
      split <;> exact htold.revision
    · rw [← htold.follow hfull hbehind]
      funext uuid
      exact userAt_applyUserDeltaBodyOwned hfull state uuid

/-- No change to report means that the revision was known already. -/
theorem revision_of_no_change {full : Bool} {baseRevision revision : Int} {diff : UserListDiff}
    (h : (runtimeUserDeltaChange full baseRevision revision diff).isNone = true) : baseRevision = revision := by
  rw [runtimeUserDeltaChange] at h
  split at h
  · rename_i hsame
    rw [Bool.and_eq_true] at hsame
    exact of_decide_eq_true hsame.2
  · cases h

/-- **A delta catches up**, whichever version the list was of. -/
theorem applyPanelDelta_current (htold : DeltaTold history entry.state.revision now delta)
    (hbehind : Behind history entry.state.revision now (userAt entry.state.users)) :
    (applyPanelDelta entry delta native).state.revision = now ∧
      userAt (applyPanelDelta entry delta native).state.users = history now := by
  rw [applyPanelDelta]
  split
  · rename_i honly
    simp only [userDeltaBodyIsRevisionOnly, Bool.and_eq_true, Bool.not_eq_true', List.isEmpty_iff] at honly
    obtain ⟨⟨⟨hfull, hdeleted⟩, hupsert⟩, -⟩ := honly
    refine ⟨htold.revision, ?_⟩
    rw [← htold.follow hfull hbehind, hdeleted, hupsert]
    rfl
  · by_cases hnone : (runtimeUserDeltaChange delta.full entry.state.revision delta.revision
        (userDeltaBodyDiff entry.state delta)).isNone = true
    · rw [if_pos hnone]
      refine ⟨htold.revision, ?_⟩
      rw [revision_of_no_change hnone, htold.revision] at hbehind
      exact hbehind.eq_of_acknowledged
    · rw [if_neg hnone]
      exact applyUserDeltaBodyOwned_current htold hbehind

theorem applyPanelList_current {list : List UserInfo} (hne : list ≠ []) :
    (applyPanelList entry (some list)).state = { entry.state with users := list } := by
  rw [applyPanelList, Option.getD_some, applyFullUserListOwned, if_neg (by simpa using hne)]

/-- **One node**: what is loaded is never of an older version than the revision says, and the newest if all went well. -/
theorem loadUsersForNode_spec {config : NodeConfig} {answer : PanelUsersAnswer} {result : Except Text Unit}
    (htold : PanelTold history entry.state.revision now answer)
    (hbehind : Behind history entry.state.revision now (userAt entry.state.users))
    (h : loadUsersForNode config entry answer native = (result, entry')) :
    Behind history entry'.state.revision now (userAt entry'.state.users) ∧
      (result = .ok () → userAt entry'.state.users = history now) := by
  have hlist : ∀ {users : Option (List UserInfo)} {entry : RuntimeUserSyncEntry}, answer.list = .ok users →
      Behind history entry.state.revision now (userAt entry.state.users) →
      Behind history (applyPanelList entry users).state.revision now (userAt (applyPanelList entry users).state.users) ∧
        userAt (applyPanelList entry users).state.users = history now := by
    intro users entry husers hbehind
    obtain ⟨list, rfl, hne, hcurrent⟩ := htold.list users husers
    rw [applyPanelList_current hne]
    exact ⟨hcurrent ▸ behind_current hbehind.le, hcurrent⟩
  rw [loadUsersForNode] at h
  split at h
  · split at h
    · rename_i delta hdelta
      cases h
      obtain ⟨hrevision, hcurrent⟩ := applyPanelDelta_current native (htold.delta delta hdelta) hbehind
      rw [hrevision, hcurrent]
      exact ⟨behind_current le_rfl, fun _ => rfl⟩
    · split at h
      · split at h
        · cases h
          exact ⟨hbehind, fun h => by cases h⟩
        · rename_i users husers
          cases h
          exact ⟨(hlist husers hbehind).1, fun _ => (hlist husers hbehind).2⟩
      · cases h
        exact ⟨hbehind, fun h => by cases h⟩
  · split at h
    · cases h
      exact ⟨hbehind, fun h => by cases h⟩
    · rename_i users husers
      cases h
      exact ⟨(hlist husers hbehind).1, fun _ => (hlist husers hbehind).2⟩

end

/-! ## The agent, its disk and the panels -/

/-- The panels, what a tag stands for during a run, and the libraries the agent relies on. -/
structure UserSyncSetting where
  store : UserStore
  history : Text → Nat → History Text UserInfo
  hosts : List Text
  owner : Text → NodeConfig
  lawful : store.Lawful
  apart : ∀ a ∈ hosts, ∀ b ∈ hosts, store.sha1 (utf8 a) = store.sha1 (utf8 b) → a = b
  fresh : ∀ host nodeId uuid, history host nodeId 0 uuid = none

structure UserSyncSystem where
  /-- The newest revision of each panel node. -/
  now : Text → Nat → Int
  disk : UserSyncDisk

inductive UserSyncLabel where
  | publish (host : Text) (nodeId : Nat) (revision : Int)
  | refresh (plan : RuntimeBootstrapPlan) (node : NodeInfo) (world : NodeWorld)
  | restart

namespace UserSyncSystem

variable (setting : UserSyncSetting)

def start (now : Text → Nat → Int) (files : Files Text Bytes) : UserSyncSystem := { now, disk := { files } }

def step (s : UserSyncSystem) : UserSyncLabel → UserSyncSystem
  | .publish host nodeId revision =>
    { s with now := fun h i => if h = host ∧ i = nodeId then max (s.now h i) revision else s.now h i }
  | .refresh plan node world => { s with disk := (s.disk.refreshNode setting.store plan node world).2 }
  | .restart => { s with disk := { s.disk with memory := ∅ } }

/-- A step is always possible. -/
def next (s : UserSyncSystem) (label : UserSyncLabel) : Option UserSyncSystem := some (s.step setting label)

/-- The configuration is that of the node behind the tag. -/
structure Owns (tag : Text) (config : NodeConfig) : Prop where
  host : config.url ∈ setting.hosts
  configDir : config.configDir = (setting.owner tag).configDir
  url : config.url = (setting.owner tag).url
  nodeId : config.nodeId = (setting.owner tag).nodeId

/-- The panel keeps its promise in the step. -/
def Truthful (s : UserSyncSystem) : UserSyncLabel → Prop
  | .refresh plan node world => ∀ config, nodeConfigForInfo plan.resolved node.id node.tag = some config →
      Owns setting node.tag config ∧
        PanelTold (setting.history config.url config.nodeId)
          (s.disk.filed setting.store node.tag config world).entry.state.revision (s.now config.url config.nodeId)
          world.answer
  | _ => True

/-- The list is one the panel had, not before the revision it stands with. -/
def ListTrue (s : UserSyncSystem) (config : NodeConfig) (state : UserSyncState) : Prop :=
  Behind (setting.history config.url config.nodeId) state.revision (s.now config.url config.nodeId) (userAt state.users)

structure ListsTrue (s : UserSyncSystem) : Prop where
  begun : ∀ host nodeId, 0 ≤ s.now host nodeId
  memory : ∀ tag filed, s.disk.memory[tag]? = some filed → filed.path = setting.store.fileOf (setting.owner tag) ∧
    s.ListTrue setting (setting.owner tag) filed.entry.state
  files : ∀ config, config.url ∈ setting.hosts → ∀ state,
    setting.store.loadUserSyncState (setting.store.fileOf config) none s.disk.files = .ok state →
    s.ListTrue setting config state

/-- What a step leaves of the node it is about: the newest list, and on disk the one it found or the newest. -/
def CaughtUp (s : UserSyncSystem) : UserSyncLabel → Prop
  | .refresh plan node world => ∀ config, nodeConfigForInfo plan.resolved node.id node.tag = some config →
      (∀ entry, (s.disk.refreshNode setting.store plan node world).1 = .loaded entry →
        userAt entry.state.users = setting.history config.url config.nodeId (s.now config.url config.nodeId)) ∧
      ∀ other, setting.store.loadUserSyncState (setting.store.fileOf other) none
          (s.disk.refreshNode setting.store plan node world).2.files =
            setting.store.loadUserSyncState (setting.store.fileOf other) none s.disk.files ∨
        ∃ state, setting.store.loadUserSyncState (setting.store.fileOf other) none
            (s.disk.refreshNode setting.store plan node world).2.files = .ok state ∧
          userAt state.users = setting.history config.url config.nodeId (s.now config.url config.nodeId)
  | _ => True

section

variable {setting : UserSyncSetting} {s : UserSyncSystem} {tag : Text} {config : NodeConfig}

theorem Owns.fileOf (h : Owns setting tag config) : setting.store.fileOf config = setting.store.fileOf (setting.owner tag) := by
  rw [UserStore.fileOf, UserStore.fileOf, h.configDir, h.url, h.nodeId]

theorem Owns.listTrue (h : Owns setting tag config) {state : UserSyncState} :
    s.ListTrue setting (setting.owner tag) state ↔ s.ListTrue setting config state := by
  rw [ListTrue, ListTrue, h.url, h.nodeId]

/-- An empty list stands for the time before any user. -/
theorem listTrue_empty (hbegun : ∀ host nodeId, 0 ≤ s.now host nodeId) : s.ListTrue setting config {} :=
  ⟨0, le_rfl, hbegun config.url config.nodeId, funext fun uuid => (setting.fresh config.url config.nodeId uuid).symm⟩

/-- A refresh starts from a true list. -/
theorem filed_spec (h : s.ListsTrue setting) (howns : Owns setting tag config) (world : NodeWorld) :
    (s.disk.filed setting.store tag config world).path = setting.store.fileOf config ∧
      s.ListTrue setting config (s.disk.filed setting.store tag config world).entry.state := by
  rw [UserSyncDisk.filed, ExtTreeMap.getD_eq_getD_getElem?]
  cases hmemory : s.disk.memory[tag]? with
  | some filed =>
    obtain ⟨hpath, hlist⟩ := h.memory tag filed hmemory
    exact ⟨hpath.trans howns.fileOf.symm, howns.listTrue.1 hlist⟩
  | none =>
    rw [Option.getD_none, loadRuntimeUserSyncEntry]
    split
    · rename_i state hload
      refine ⟨rfl, ?_⟩
      cases hread : world.readError with
      | some error =>
        rw [hread, UserStore.loadUserSyncState] at hload
        cases hload
      | none => exact h.files config howns.host state (hread ▸ hload)
    · exact ⟨rfl, listTrue_empty h.begun⟩

/-- What is left of the files is that of one save, if there was any. -/
theorem filesAfter_cases (world : NodeWorld) (filed : FiledEntry) (files : Files Text Bytes) :
    filesAfter setting.store world filed files = files ∨
      ∃ cut, filesAfter setting.store world filed files =
        leave (setting.store.saveSteps filed.path filed.entry.state) cut files := by
  rw [filesAfter]
  split
  · split
    · rename_i cut hcut
      split
      · exact .inr ⟨cut, rfl⟩
      · exact .inl rfl
    · rw [saveRuntimeUserSyncEntry]
      split
      · obtain ⟨cut, hcut, -⟩ := saveUserSyncState_files world.save
        exact .inr ⟨cut, hcut⟩
      · exact .inl rfl
  · exact .inl rfl

/-- The file of any node loads as before, or as what the save was of, if it is the file that was saved. -/
theorem load_filesAfter {filed : FiledEntry} (hpath : filed.path = setting.store.fileOf config) (world : NodeWorld)
    (files : Files Text Bytes) (other : NodeConfig) :
    setting.store.loadUserSyncState (setting.store.fileOf other) none (filesAfter setting.store world filed files) =
        setting.store.loadUserSyncState (setting.store.fileOf other) none files ∨
      (setting.store.fileOf other = setting.store.fileOf config ∧
        setting.store.loadUserSyncState (setting.store.fileOf other) none (filesAfter setting.store world filed files) =
          .ok filed.entry.state) := by
  rcases filesAfter_cases world filed files with hfiles | ⟨cut, hfiles⟩
  · exact .inl (by rw [hfiles])
  · rw [hfiles, hpath]
    by_cases hother : setting.store.fileOf other = setting.store.fileOf config
    · rw [hother]
      have hload : setting.store.loadUserSyncState (setting.store.fileOf config) none
          (leave (setting.store.saveSteps (setting.store.fileOf config) filed.entry.state) cut files) = _ :=
        load_leave setting.lawful
      rw [hload]
      split
      · exact .inl rfl
      · exact .inr ⟨rfl, rfl⟩
    · exact .inl (load_leave_other hother)

end

/-! ## A crash in the first save -/

/-- One panel, whose only user comes with the first revision. -/
def loneSetting : UserSyncSetting where
  store := loneStore
  history := fun _ _ revision uuid => if 1 ≤ revision then userAt [loneUser] uuid else none
  hosts := [loneConfig.url]
  owner := fun _ => loneConfig
  lawful := serde_lawful _ _
  apart := fun _ ha _ hb _ => (List.mem_singleton.1 ha).trans (List.mem_singleton.1 hb).symm
  fresh := fun _ _ _ => rfl

/-- The panel has a user, the agent is killed while it saves the first list, and starts again. -/
def crashedRun : List UserSyncLabel :=
  [.publish "https://panel" 7 1,
   .refresh lonePlan loneNode { firstWorld with killed := some ⟨0, some [123]⟩ },
   .restart]

end UserSyncSystem

end KeliNode
