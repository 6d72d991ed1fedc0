import KeliNode.Proxy.Plan

/-!
# The proxy's runtime manager (`subscription_proxy.rs`)

The manager keeps the fingerprint it applied last, the status it reports and the handles of two running servers.
A call plans from a configuration and then starts or stops servers.

| here | there |
|---|---|
| `SubscriptionProxyRuntimeManager` | `subscription_proxy.rs:133` |
| `SubscriptionProxyRuntimeManager.apply` | `subscription_proxy.rs:341` |
| `applyAndStartWithFileSystem` | `subscription_proxy.rs:401` |
| `syncServersForApplyPlan` | `subscription_proxy.rs:421` |
| `spawnSubscriptionProxyMainServer` | `subscription_proxy.rs:796`, `subscription_proxy.rs:823` |
| `spawnSubscriptionProxyHttpChallengeServer` | `subscription_proxy.rs:843` |

What a call meets outside is `ProxyOutside`: the files, the TLS loader and the addresses that other programs hold.
Listeners are exclusive: binding an address fails while another program holds it or while a handle of the manager
is live on an address that clashes with it.  A handle keeps what its server serves; replacing or dropping the
handle stops the server and frees its address.
-/

namespace KeliNode

open Lib

/-! ## Outside -/

structure ProxyOutside where
  /-- A regular file is there. -/
  isFile : Text → Bool
  storeFile : SubscriptionProxyFileWrite → Except Text Unit
  ensureCsr : Text → Text → Except Text Text
  /-- Reading and parsing the certificate and the key. -/
  loadTls : Text → Text → Except Text Unit
  /-- The system refuses the address: another program holds it. -/
  refuses : Text → Bool
  bindError : Text

/-- `subscription_proxy_file_readable` (`subscription_proxy.rs:1348`). -/
def ProxyOutside.fileReadable (outside : ProxyOutside) (path : Text) : Bool :=
  !(trim path).isEmpty && outside.isFile (trim path)

/-- `write_subscription_proxy_file` (`subscription_proxy.rs:1330`). -/
def ProxyOutside.writeFile (outside : ProxyOutside) (write : SubscriptionProxyFileWrite) : Except Text Unit :=
  if (trim write.path).isEmpty then .error "subscription proxy file path is empty"
  else outside.storeFile { write with path := trim write.path }

/-! ## Handles -/

/-- `SubscriptionProxyServerHandle`, with what its thread serves. -/
structure SubscriptionProxyServerHandle (σ : Type) where
  listen : Text
  serves : σ
  deriving DecidableEq

structure SubscriptionProxyRuntimeManager where
  fingerprint : Text := []
  status : SubscriptionProxyStatus := {}
  mainServer : Option (SubscriptionProxyServerHandle SubscriptionProxyMainServerPlan) := none
  httpServer : Option (SubscriptionProxyServerHandle SubscriptionProxyHttpServerPlan) := none
  deriving DecidableEq

namespace SubscriptionProxyRuntimeManager

/-- The addresses the manager's live servers hold. -/
def live (manager : SubscriptionProxyRuntimeManager) : List Text :=
  (manager.mainServer.map (·.listen)).toList ++ (manager.httpServer.map (·.listen)).toList

def stopMainServer (manager : SubscriptionProxyRuntimeManager) : SubscriptionProxyRuntimeManager :=
  { manager with mainServer := none }

def stopServers (manager : SubscriptionProxyRuntimeManager) : SubscriptionProxyRuntimeManager :=
  { manager.stopMainServer with httpServer := none }

end SubscriptionProxyRuntimeManager

section

variable (clash : Text → Text → Bool) (outside : ProxyOutside)

/-- `TcpListener::bind`, while the addresses `live` are held by the manager. -/
def bindListener (what : Text) (live : List Text) (listen : Text) : Except Text Unit :=
  if outside.refuses listen || live.any (clash listen) then
    .error ("bind subscription proxy " ++ what ++ " " ++ listen ++ ": " ++ outside.bindError)
  else .ok ()

/-- `load_subscription_proxy_tls_config` (`subscription_proxy.rs:1782`). -/
def loadSubscriptionProxyTlsConfig (certFile keyFile : Text) : Except Text Unit :=
  let certFile := trim certFile
  let keyFile := trim keyFile
  if certFile.isEmpty || keyFile.isEmpty then .error "subscription proxy HTTPS requires cert_file and key_file"
  else outside.loadTls certFile keyFile

/-- `spawn_subscription_proxy_http_challenge_server` (`subscription_proxy.rs:843`). -/
def spawnSubscriptionProxyHttpChallengeServer (live : List Text) (config : SubscriptionProxyConfig) :
    Except Text (Option (SubscriptionProxyServerHandle SubscriptionProxyHttpServerPlan)) :=
  match planSubscriptionProxyHttpServer config with
  | none => .ok none
  | some plan => do
    bindListener clash outside "server" live plan.listen
    .ok (some { listen := plan.listen, serves := plan })

/-- `spawn_subscription_proxy_main_http_fallback_server` and `spawn_subscription_proxy_main_https_server`; the
caller picks the one for the plan's mode, so neither refuses it. -/
def spawnSubscriptionProxyMainServer (live : List Text) (plan : SubscriptionProxyMainServerPlan) :
    Except Text (SubscriptionProxyServerHandle SubscriptionProxyMainServerPlan) := do
  match plan.mode with
  | .httpFallback => bindListener clash outside "server" live plan.listen
  | .https =>
    loadSubscriptionProxyTlsConfig outside plan.certFile plan.keyFile
    bindListener clash outside "HTTPS server" live plan.listen
  .ok { listen := plan.listen, serves := plan }

namespace SubscriptionProxyRuntimeManager

/-- `self.http_server = spawn_subscription_proxy_http_challenge_server(config)?`: the new server is bound while the
old handle is held. -/
def restartHttpServer (manager : SubscriptionProxyRuntimeManager) (config : SubscriptionProxyConfig) :
    Except Text Unit × SubscriptionProxyRuntimeManager :=
  match spawnSubscriptionProxyHttpChallengeServer clash outside manager.live config with
  | .error error => (.error error, manager)
  | .ok httpServer => (.ok (), { manager with httpServer })

/-- `self.main_server = Some(spawn_subscription_proxy_main_…_server(plan)?)`. -/
def restartMainServer (manager : SubscriptionProxyRuntimeManager) (plan : SubscriptionProxyMainServerPlan) :
    Except Text Unit × SubscriptionProxyRuntimeManager :=
  match spawnSubscriptionProxyMainServer clash outside manager.live plan with
  | .error error => (.error error, manager)
  | .ok server => (.ok (), { manager with mainServer := some server })

/-- `sync_servers_for_apply_plan` (`subscription_proxy.rs:421`). -/
def syncServersForApplyPlan (manager : SubscriptionProxyRuntimeManager) (config : SubscriptionProxyConfig)
    (plan : SubscriptionProxyApplyPlan) : Except Text Unit × SubscriptionProxyRuntimeManager :=
  match plan.action with
  | .disabled => (.ok (), manager.stopServers)
  | .unchanged => (.ok (), manager)
  | .error => manager.stopMainServer.restartHttpServer clash outside config
  | .start =>
    match manager.restartHttpServer clash outside config with
    | (.error error, manager) => (.error error, manager)
    | (.ok (), manager) =>
      match plan.serveMode with
      | none => (.ok (), manager.stopMainServer)
      | some mode => manager.restartMainServer clash outside (planSubscriptionProxyMainServer config mode)

/-- What `apply` does with a normalised configuration. -/
def applyNormalized (manager : SubscriptionProxyRuntimeManager) (normalized : SubscriptionProxyConfig) :
    SubscriptionProxyApplyPlan × SubscriptionProxyRuntimeManager :=
  let certificateStatus := prepareSubscriptionProxyCertificateStatus normalized (fun _ => []) outside.ensureCsr
    outside.fileReadable outside.writeFile
  let plan := planSubscriptionProxyApply normalized manager.fingerprint certificateStatus outside.fileReadable
  let plan :=
    if plan.action = .unchanged then { plan with status := mergeSubscriptionProxyStatus manager.status plan.status }
    else plan
  let fingerprint :=
    match plan.action with
    | .disabled => []
    | .unchanged | .start | .error => plan.fingerprint
  (plan, { manager with fingerprint, status := plan.status })

/-- `apply` (`subscription_proxy.rs:341`), as `apply_with_file_system` calls it. -/
def apply (manager : SubscriptionProxyRuntimeManager) (config : SubscriptionProxyConfig) :
    Except Text SubscriptionProxyApplyPlan × SubscriptionProxyRuntimeManager :=
  match normalizeSubscriptionProxyConfig config with
  | .error error => (.error error, manager)
  | .ok normalized =>
    let (plan, manager) := manager.applyNormalized outside normalized
    (.ok plan, manager)

/-- The status after servers failed to start. -/
def failed (manager : SubscriptionProxyRuntimeManager) (error : Text) : SubscriptionProxyRuntimeManager :=
  { manager with
    status := { manager.status with status := "error", running := false, mode := "error", lastError := error } }

/-- `apply_and_start_with_file_system` (`subscription_proxy.rs:401`).  The configuration is normalised here and once
more in `apply`; the plan comes from the second result, the servers from the first. -/
def applyAndStartWithFileSystem (manager : SubscriptionProxyRuntimeManager) (config : SubscriptionProxyConfig) :
    Except Text SubscriptionProxyApplyPlan × SubscriptionProxyRuntimeManager :=
  match normalizeSubscriptionProxyConfig config with
  | .error error => (.error error, manager)
  | .ok normalized =>
    match manager.apply outside normalized with
    | (.error error, manager) => (.error error, manager)
    | (.ok plan, manager) =>
      match manager.syncServersForApplyPlan clash outside normalized plan with
      | (.error error, manager) => (.error error, manager.failed error)
      | (.ok (), manager) => (.ok plan, manager)

end SubscriptionProxyRuntimeManager

end

end KeliNode
