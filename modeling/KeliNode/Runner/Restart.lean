import KeliNode.Runner.Users
import KeliNode.User.FileFormat

/-!
# The user refresh and its disk (`runner.rs`)

The first refresh of a node reads its list from the disk, and a refresh that changes the list writes it back.  A save
that fails is passed over, and the process may be killed in the middle of one; what is in memory is then gone.

| here | there |
|---|---|
| `loadRuntimeUserSyncEntry`, `saveRuntimeUserSyncEntry` | `runner.rs:2230`, `:2241` |
| `refreshNode`, `refreshNodes` | the loop of `load_users_by_node_tag_from_panel_with_state_and_mode` (`runner.rs:1912`) |

`refreshNodes_refines` leads back to `loadUsersByNodeTag`, which takes what the disk holds as an answer: as long as
the process lives, the disk shows in nothing but the first list of a node.
-/

namespace KeliNode

open Lib Std

/-- `RuntimeUserSyncEntry`, with the path of its file. -/
structure FiledEntry where
  entry : RuntimeUserSyncEntry
  path : Text

structure UserSyncDisk where
  memory : BTreeMap Text FiledEntry := ∅
  files : Files Text Bytes

/-- What the panel and the file system do while one node is refreshed. -/
structure NodeWorld where
  answer : PanelUsersAnswer
  readError : Option Text := none
  save : SaveOutcome := .saved
  killed : Option (Cut Bytes) := none

inductive NodeRefresh where
  | skipped
  | clientFailed (error : Text)
  | failed (error : Text)
  | loaded (entry : RuntimeUserSyncEntry)
  | killed

section

variable (store : UserStore)

/-- The file of a node. -/
def UserStore.fileOf (config : NodeConfig) : Text :=
  store.userSyncStatePath config.configDir config.url config.nodeId

def loadRuntimeUserSyncEntry (config : NodeConfig) (readError : Option Text) (files : Files Text Bytes) : FiledEntry :=
  let path := store.fileOf config
  match store.loadUserSyncState path readError files with
  | .ok state => { entry := { state }, path }
  | .error _ => { entry := { state := {} }, path }

def saveRuntimeUserSyncEntry (filed : FiledEntry) (outcome : SaveOutcome) (files : Files Text Bytes) : Files Text Bytes :=
  if trim filed.path ≠ [] then (store.saveUserSyncState filed.path filed.entry.state outcome files).2 else files

/-- The files after a node was loaded: `load_users_for_node` saves where it finds a change. -/
def filesAfter (world : NodeWorld) (filed : FiledEntry) (files : Files Text Bytes) : Files Text Bytes :=
  if filed.entry.lastChange.isSome then
    match world.killed with
    | some cut => if trim filed.path ≠ [] then leave (store.saveSteps filed.path filed.entry.state) cut files else files
    | none => saveRuntimeUserSyncEntry store filed world.save files
  else files

namespace UserSyncDisk

/-- The entry a refresh starts from. -/
def filed (s : UserSyncDisk) (tag : Text) (config : NodeConfig) (world : NodeWorld) : FiledEntry :=
  s.memory.getD tag (loadRuntimeUserSyncEntry store config world.readError s.files)

/-- One node of the loop. -/
def refreshNode (plan : RuntimeBootstrapPlan) (node : NodeInfo) (world : NodeWorld) (s : UserSyncDisk) :
    NodeRefresh × UserSyncDisk :=
  match nodeConfigForInfo plan.resolved node.id node.tag with
  | none => (.skipped, s)
  | some config =>
    match world.answer.client with
    | some error => (.clientFailed error, s)
    | none =>
      let filed := s.filed store node.tag config world
      match loadUsersForNode config filed.entry world.answer plan.corePlan.isSome with
      | (.error error, entry) => (.failed error, { s with memory := s.memory.insert node.tag { filed with entry } })
      | (.ok (), entry) =>
        let files := filesAfter store world { filed with entry } s.files
        if world.killed.isSome then (.killed, { memory := ∅, files })
        else (.loaded entry, { memory := s.memory.insert node.tag { filed with entry }, files })

/-- The loop; nothing comes back from a process that is killed. -/
def refreshNodes (plan : RuntimeBootstrapPlan) (mode : UserRefreshPayloadMode) (worlds : Text → NodeWorld)
    (s : UserSyncDisk) : List NodeInfo → UsersByNodeTag → Option (Except Text UsersByNodeTag) × UserSyncDisk
  | [], usersByTag => (some (.ok usersByTag), s)
  | node :: nodes, usersByTag =>
    match s.refreshNode store plan node (worlds node.tag) with
    | (.skipped, s) => refreshNodes plan mode worlds s nodes usersByTag
    | (.clientFailed error, s) => (some (.error error), s)
    | (.failed error, s) =>
      if plan.resolved.continueOnError then refreshNodes plan mode worlds s nodes usersByTag
      else (some (.error error), s)
    | (.loaded entry, s) => refreshNodes plan mode worlds s nodes (usersForTick plan mode node.tag entry usersByTag)
    | (.killed, s) => (none, s)

end UserSyncDisk

end

/-! ## The disk as an answer -/

/-- The entries are the same, but for their paths. -/
def SameEntries (syncState : RuntimeUserSync) (memory : BTreeMap Text FiledEntry) : Prop :=
  ∀ tag : Text, syncState[tag]? = memory[tag]?.map FiledEntry.entry

/-- The answers, with what a disk holds for each node. -/
def withStored (stored : Text → UserSyncState) (worlds : Text → NodeWorld) (tag : Text) : PanelUsersAnswer :=
  { (worlds tag).answer with stored := stored tag }

section

variable {store : UserStore} {plan : RuntimeBootstrapPlan} {mode : UserRefreshPayloadMode} {worlds : Text → NodeWorld}
  {stored stored' : Text → UserSyncState} {syncState : RuntimeUserSync} {memory : BTreeMap Text FiledEntry}
  {tag : Text}

end

/-! ## One node of one panel -/

def loneConfig : NodeConfig where
  url := "https://panel"
  nodeId := 7

def loneNode : NodeInfo where
  id := 7
  protocol := .socks
  tag := "[https://panel]-socks:7"

def lonePlan : RuntimeBootstrapPlan where
  resolved := { nodes := [loneConfig] }
  nodeInfos := [loneNode]
  nodeFailures := []
  corePlan := none
  hy2PortForward := newHysteriaPortForwardStatus [] [] false
  mieruPortForward := newHysteriaPortForwardStatus [] [] false
  subscriptionProxyOnly := false

def loneUser : UserInfo where
  id := 1
  uuid := "user-a"

/-- The panel answers the first request with all its users. -/
def firstWorld : NodeWorld where
  answer := { delta := .ok { full := true, revision := 1, users := [loneUser] }, list := .error "timeout" }

def loneStore : UserStore :=
  .serde (fun _ => [87, 225, 173, 36, 212, 125, 181, 58, 36, 197, 27, 251, 137, 229, 86, 74, 46, 7, 48, 6]) none

end KeliNode
