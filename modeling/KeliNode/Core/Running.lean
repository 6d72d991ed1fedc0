import KeliNode.Core.Plan

/-!
# The running core (`keli-core-rs`)

The native core is a program of its own; this is what the agent relies on.  A core holds the non-user part
of the last configuration it took and, for each inbound, a revision and the users by uuid.

| command | effect |
|---|---|
| `ApplyConfig`, or a start from the file | the non-user part and the inbounds with their users |
| `ApplyRoutes` | the non-user part; the inbounds it already had keep their users |
| `ApplyUserDelta` | refuses an inbound it does not run and a delta from another revision |

The non-user part of a rendered configuration is a value of an arbitrary type `ν`: the agent only compares
it, by its text and by the fingerprint of its text.
-/

namespace KeliNode

open Lib

/-- A user of a configuration or of a delta, as the core reads it. -/
structure CoreUser where
  id : Nat
  uuid : Text
  speedLimit : Nat
  deviceLimit : Nat
  deriving DecidableEq, Repr

/-- `render_keli_core_rs_user` (`core.rs:2727`). -/
def renderKeliCoreRsUser (user : InboundUserPlan) : CoreUser :=
  { id := user.id, uuid := user.uuid, speedLimit := user.speedLimit, deviceLimit := user.deviceLimit }

/-- A rendered configuration: the non-user part, and the inbounds with their users. -/
structure CoreConfig (ν : Type) where
  nonUser : ν
  inbounds : List (Text × List CoreUser)
  deriving DecidableEq

/-- The core's users of one inbound, by uuid. -/
abbrev CoreUsers := BTreeMap Text CoreUser

/-- Add users to a map; the last one with a uuid stays. -/
def CoreUsers.put (users : CoreUsers) (more : List CoreUser) : CoreUsers :=
  more.foldl (fun users user => users.insert user.uuid user) users

/-- Remove users from a map. -/
def CoreUsers.drop (users : CoreUsers) (uuids : List Text) : CoreUsers :=
  uuids.foldl (fun users uuid => users.erase uuid) users

def coreUsersOf (users : List CoreUser) : CoreUsers := CoreUsers.put ∅ users

structure CoreInbound where
  revision : Int
  users : CoreUsers

structure RunningCore (ν : Type) where
  nonUser : ν
  inbounds : BTreeMap Text CoreInbound

section

variable {ν : Type}

/-- `ApplyConfig`, and what a start loads from the file.  `revision` is what the core gives a fresh inbound. -/
def applyConfig (revision : Text → Int) (config : CoreConfig ν) : RunningCore ν where
  nonUser := config.nonUser
  inbounds := config.inbounds.foldl (fun inbounds (tag, users) =>
    inbounds.insert tag { revision := revision tag, users := coreUsersOf users }) ∅

/-- `ApplyRoutes`. -/
def applyRoutes (revision : Text → Int) (config : CoreConfig ν) (core : RunningCore ν) : RunningCore ν where
  nonUser := config.nonUser
  inbounds := config.inbounds.foldl (fun inbounds (tag, _) =>
    inbounds.insert tag (core.inbounds.getD tag { revision := revision tag, users := ∅ })) ∅

/-- The payload of `ApplyUserDelta`. -/
inductive KeliCoreUserDelta where
  | full (users : List CoreUser) (revision : Int)
  | incremental (added updated : List CoreUser) (deleted : List Text) (baseRevision revision : Int)

/-- The inbound after a delta: deletes, then adds and updates, or the full list. -/
def CoreInbound.applyDelta (inbound : CoreInbound) : KeliCoreUserDelta → Except Text CoreInbound
  | .full users revision => .ok { revision, users := coreUsersOf users }
  | .incremental added updated deleted baseRevision revision =>
    if inbound.revision = baseRevision then
      .ok { revision, users := ((inbound.users.drop deleted).put added).put updated }
    else .error "revision mismatch"

/-- `ApplyUserDelta`. -/
def RunningCore.applyUserDelta (core : RunningCore ν) (tag : Text) (delta : KeliCoreUserDelta) :
    Except Text (RunningCore ν) :=
  match core.inbounds[tag]? with
  | none => .error "unknown inbound"
  | some inbound =>
    (inbound.applyDelta delta).map fun inbound => { core with inbounds := core.inbounds.insert tag inbound }

end

end KeliNode
