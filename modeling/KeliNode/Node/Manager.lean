import KeliNode.Runtime.Plan
import Mathlib.Data.List.Nodup

/-!
# The node manager (`node.rs`)

A manager holds one runtime for each node.  It is built from a list of configs and reconciled with later lists;
both ask a loader for the node of each config, and the loader may answer anything.

| here | there |
|---|---|
| `buildWithLoader`, `buildFromPanel` | `node.rs:207`, `:53` |
| `NodeManager.reconcileWithLoader` | `node.rs:91` |
| `NodeManager.currentSlots` | `node.rs:332` |
| `machineReconcileNeedsFullReload` | `node.rs:402` |
| `machineNodeKey` | `node.rs:434` |

`reconcile_with_loader` walks over its list in `reconcileConfig`, which stops at the first failure unless the
manager goes on after errors, and then places one key after the other (`placeKey`).  A loader is a function with a
state, as a closure has one.  The manager compares nodes with `==` and reads only their routes: `rest` is
everything else in one.
-/

namespace KeliNode

open Lib

/-- A `NodeInfo`, of which only the routes are read. -/
structure PanelNode (Rest : Type) where
  routes : List Route := []
  rest : Rest
  deriving DecidableEq

structure RealtimeConfig where
  enabled : Bool := false
  url : Text := []
  pingInterval : Nat := 0
  reconnectInterval : Nat := 0
  deriving DecidableEq

structure NodeManagerOptions where
  continueOnError : Bool := false

structure NodeRuntime (Rest : Type) where
  config : NodeConfig
  info : PanelNode Rest
  deriving DecidableEq

structure ReconcileResult where
  added : Nat := 0
  removed : Nat := 0
  restarted : Nat := 0
  unchanged : Nat := 0
  skipped : Nat := 0
  fullReloadRequired : Bool := false
  failures : List NodeFailure := []
  deriving DecidableEq

structure NodeManager (Rest : Type) where
  runtimes : List (NodeRuntime Rest) := []
  failures : List NodeFailure := []
  realtime : RealtimeConfig := {}
  continueOnError : Bool := false
  deriving DecidableEq

/-- What a loader says of one config. -/
abbrev LoadAnswer (Rest : Type) := Except Text (Option (PanelNode Rest))

/-- `machine_node_key` (`node.rs:434`). -/
def machineNodeKey (config : NodeConfig) : Text :=
  let apiHost := trimEndMatches (· = '/') (trim config.url)
  if apiHost = [] ∨ config.nodeId = 0 then [] else apiHost ++ "#" ++ decimal config.nodeId

/-- `format_node_error` (`node.rs:365`). -/
def formatNodeError (action : Text) (config : NodeConfig) (error : Text) : Text :=
  action ++ " [" ++ trimEndMatches (· = '/') config.url ++ "-" ++ decimal config.nodeId ++ "] error: " ++ error

def emptyNodeInfo : Text := "received empty node info"

section

variable {Rest σ : Type}

/-! ## Building -/

/-- One config of a build. -/
def buildConfig (load : NodeConfig → σ → LoadAnswer Rest × σ) (options : NodeManagerOptions)
    (state : NodeManager Rest × σ) (config : NodeConfig) : Except Text (NodeManager Rest × σ) :=
  let (manager, s) := state
  let (answer, s) := load config s
  let failed (error : Text) : Except Text (NodeManager Rest × σ) :=
    if options.continueOnError then .ok ({ manager with failures := manager.failures ++ [{ config, error }] }, s)
    else .error (formatNodeError "get node info" config error)
  match answer with
  | .ok (some info) => .ok ({ manager with runtimes := manager.runtimes ++ [{ config, info }] }, s)
  | .ok none => failed emptyNodeInfo
  | .error error => failed error

/-- `build_with_loader` (`node.rs:207`). -/
def buildWithLoader (nodes : List NodeConfig) (realtime : RealtimeConfig) (options : NodeManagerOptions)
    (load : NodeConfig → σ → LoadAnswer Rest × σ) (s : σ) : Except Text (NodeManager Rest) := do
  let state ← nodes.foldlM (buildConfig load options) ({ realtime, continueOnError := options.continueOnError }, s)
  return state.1

/-- `build_from_panel` (`node.rs:53`): the same loop, asking the panel. -/
def buildFromPanel (loadPanelNodeInfo : NodeConfig → σ → LoadAnswer Rest × σ) (nodes : List NodeConfig)
    (realtime : RealtimeConfig) (options : NodeManagerOptions) (s : σ) : Except Text (NodeManager Rest) :=
  buildWithLoader nodes realtime options loadPanelNodeInfo s

/-! ## Reconciling -/

/-- One runtime of `current_slots`. -/
def addSlot (printConfig : NodeConfig → Text) (current : BTreeMap Text (NodeRuntime Rest)) (runtime : NodeRuntime Rest) :
    Except Text (BTreeMap Text (NodeRuntime Rest)) :=
  let key := machineNodeKey runtime.config
  if key = [] then .error ("current node config requires api host and node id: " ++ printConfig runtime.config)
  else if current.contains key then .error ("duplicate current node config: " ++ key)
  else .ok (current.insert key runtime)

/-- `current_slots` (`node.rs:332`); `printConfig` is the derived `Debug`. -/
def NodeManager.currentSlots (printConfig : NodeConfig → Text) (manager : NodeManager Rest) :
    Except Text (BTreeMap Text (NodeRuntime Rest)) :=
  manager.runtimes.foldlM (addSlot printConfig) ∅

/-- `handle_reconcile_failure` (`node.rs:384`). -/
def handleReconcileFailure (result : ReconcileResult) (config : NodeConfig) (error : Text)
    (options : NodeManagerOptions) : Except Text ReconcileResult :=
  if options.continueOnError then
    .ok { result with skipped := result.skipped + 1, failures := result.failures ++ [{ config, error }] }
  else .error error

/-- The variables of the first loop. -/
structure ReconcileScan (Rest : Type) where
  result : ReconcileResult := {}
  desiredKeys : List Text := []
  candidates : BTreeMap Text (NodeRuntime Rest) := ∅
  orderedKeys : List Text := []

/-- What the first loop makes of a config, once its key is new, and the answer for it. -/
def recordAnswer (current : BTreeMap Text (NodeRuntime Rest)) (options : NodeManagerOptions)
    (scan : ReconcileScan Rest) (config : NodeConfig) (key : Text) :
    LoadAnswer Rest → Except Text (ReconcileScan Rest)
  | .ok (some info) => .ok { scan with candidates := scan.candidates.insert key { config, info } }
  | .ok none =>
    if current.contains key then .ok { scan with result := { scan.result with skipped := scan.result.skipped + 1 } }
    else (handleReconcileFailure scan.result config emptyNodeInfo options).map fun result => { scan with result }
  | .error error => (handleReconcileFailure scan.result config error options).map fun result => { scan with result }

/-- One config of the first loop. -/
def reconcileConfig (load : NodeConfig → σ → LoadAnswer Rest × σ) (current : BTreeMap Text (NodeRuntime Rest))
    (options : NodeManagerOptions) (state : ReconcileScan Rest × σ) (config : NodeConfig) :
    Except Text (ReconcileScan Rest × σ) :=
  let (scan, s) := state
  let key := machineNodeKey config
  if key = [] then
    (handleReconcileFailure scan.result config "node config requires api host and node id" options).map
      fun result => ({ scan with result }, s)
  else if scan.desiredKeys.contains key then
    (handleReconcileFailure scan.result config ("duplicate node config: " ++ key) options).map
      fun result => ({ scan with result }, s)
  else
    let scan := { scan with desiredKeys := scan.desiredKeys ++ [key], orderedKeys := scan.orderedKeys ++ [key] }
    let (answer, s) := load config s
    (recordAnswer current options scan config key answer).map fun scan => (scan, s)

/-- `node_has_custom_routes` (`node.rs:430`). -/
def nodeHasCustomRoutes (info : PanelNode Rest) : Bool := !info.routes.isEmpty

variable [DecidableEq Rest]

/-- `machine_reconcile_needs_full_reload` (`node.rs:402`). -/
def machineReconcileNeedsFullReload (current : BTreeMap Text (NodeRuntime Rest)) (desiredKeys : List Text)
    (candidates : BTreeMap Text (NodeRuntime Rest)) : Bool :=
  current.toList.any (fun (key, slot) => !desiredKeys.contains key && nodeHasCustomRoutes slot.info) ||
  candidates.toList.any fun (key, candidate) =>
    match current[key]? with
    | none => nodeHasCustomRoutes candidate.info
    | some slot =>
      slot ≠ candidate && (nodeHasCustomRoutes slot.info || nodeHasCustomRoutes candidate.info)

/-- One key of the second loop. -/
def placeKey (current candidates : BTreeMap Text (NodeRuntime Rest))
    (state : List (NodeRuntime Rest) × ReconcileResult) (key : Text) : List (NodeRuntime Rest) × ReconcileResult :=
  let (next, result) := state
  match candidates[key]?, current[key]? with
  | none, some existing => (next ++ [existing], { result with unchanged := result.unchanged + 1 })
  | none, none => (next, result)
  | some candidate, some existing =>
    if candidate = existing then (next ++ [existing], { result with unchanged := result.unchanged + 1 })
    else (next ++ [candidate], { result with restarted := result.restarted + 1 })
  | some candidate, none => (next ++ [candidate], { result with added := result.added + 1 })

/-- `reconcile_with_loader` (`node.rs:91`). -/
def NodeManager.reconcileWithLoader (printConfig : NodeConfig → Text) (manager : NodeManager Rest)
    (desired : List NodeConfig) (realtime : RealtimeConfig) (options : NodeManagerOptions)
    (load : NodeConfig → σ → LoadAnswer Rest × σ) (s : σ) : Except Text ReconcileResult × NodeManager Rest :=
  match manager.currentSlots printConfig with
  | .error error => (.error error, manager)
  | .ok current =>
    match desired.foldlM (reconcileConfig load current options) ({}, s) with
    | .error error => (.error error, manager)
    | .ok (scan, _) =>
      if scan.candidates.isEmpty && !scan.result.failures.isEmpty && options.continueOnError then
        (.ok scan.result, { manager with failures := scan.result.failures })
      else if machineReconcileNeedsFullReload current scan.desiredKeys scan.candidates then
        (.ok { scan.result with fullReloadRequired := true }, manager)
      else
        let removed := (current.keys.filter fun key => !scan.desiredKeys.contains key).length
        let (next, result) := scan.orderedKeys.foldl (placeKey current scan.candidates)
          ([], { scan.result with removed := scan.result.removed + removed })
        (.ok result, { runtimes := next, failures := result.failures, realtime
                       continueOnError := options.continueOnError })

end

end KeliNode
