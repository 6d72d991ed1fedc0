import KeliNode.Proxy.Servers
import KeliNode.Proxy.Fingerprint
import KeliNode.Lib.Run

/-!
# Does the proxy run what it was last asked to?

A call should leave exactly the servers its configuration asks for (`Serves`), and should succeed whenever no other
program stands in its way (`Free`), whatever earlier calls left behind: `Converges` is both, for one call.

It fails in three ways (`failed_start_not_retried`).  The fingerprint is stored before the servers are started, and
for the `Error` action too, so a call that did not start its servers makes the next one with its configuration answer
`Unchanged`.  So does one whose websites are listed in another order, though the last one under a prefix takes its
requests.  And a new server is bound while the old handle is held, so a changed configuration cannot be applied at an
address it keeps.  In a run that meets none of them (`Clear`), every call converges (`run_converges`).
-/

namespace KeliNode

open Lib SubscriptionProxyRuntimeManager

/-! ## What a configuration asks for -/

/-- The main server a normalised configuration asks for, with the files as they are. -/
def askedMain (outside : ProxyOutside) (config : SubscriptionProxyConfig) : Option SubscriptionProxyMainServerPlan :=
  if config.isIdle then none
  else match planSubscriptionProxyServeMode config outside.fileReadable with
    | .ok mode => some (planSubscriptionProxyMainServer config mode)
    | .error _ => none

/-- The challenge server it asks for. -/
def askedHttp (config : SubscriptionProxyConfig) : Option SubscriptionProxyHttpServerPlan :=
  if config.isIdle then none else planSubscriptionProxyHttpServer config

/-- A server that was started for `server` does what `plan` asks for: it has the settings and the profiles, in some order
that routes every request alike. -/
structure RunsAs (server plan : SubscriptionProxyMainServerPlan) : Prop where
  same : SameServer server plan
  requests : ∀ request, planSubscriptionProxyRequest server.profiles server.websiteProfiles request =
    planSubscriptionProxyRequest plan.profiles plan.websiteProfiles request

/-- The live servers are those the configuration asks for, each listening where its plan says. -/
structure Serves (outside : ProxyOutside) (manager : SubscriptionProxyRuntimeManager)
    (config : SubscriptionProxyConfig) : Prop where
  main : Option.Rel RunsAs (manager.mainServer.map (·.serves)) (askedMain outside config)
  http : manager.httpServer.map (·.serves) = askedHttp config
  mainListen : ∀ server, manager.mainServer = some server → server.listen = server.serves.listen
  httpListen : ∀ server, manager.httpServer = some server → server.listen = server.serves.listen

/-- Nothing but the manager itself can stand in the way of the servers the configuration asks for: no other program
holds their addresses, they do not clash with one another, and the TLS files load. -/
structure Free (clash : Text → Text → Bool) (outside : ProxyOutside) (config : SubscriptionProxyConfig) : Prop where
  main : ∀ plan, askedMain outside config = some plan → outside.refuses plan.listen = false
  http : ∀ plan, askedHttp config = some plan → outside.refuses plan.listen = false
  apart : ∀ plan challenge, askedMain outside config = some plan → askedHttp config = some challenge →
    clash plan.listen challenge.listen = false
  tls : ∀ plan, askedMain outside config = some plan → plan.mode = .https →
    loadSubscriptionProxyTlsConfig outside plan.certFile plan.keyFile = .ok ()

structure ProxyCall where
  outside : ProxyOutside
  config : SubscriptionProxyConfig

/-- The call, at the manager it meets: when it returns `Ok` the live servers are those its configuration asks for,
and it does return `Ok` when nothing but the manager could stand in the way. -/
def Converges (clash : Text → Text → Bool) (manager : SubscriptionProxyRuntimeManager) (call : ProxyCall) : Prop :=
  ∀ normalized, normalizeSubscriptionProxyConfig call.config = .ok normalized →
    (∀ plan, (manager.applyAndStartWithFileSystem clash call.outside call.config).1 = .ok plan →
      Serves call.outside (manager.applyAndStartWithFileSystem clash call.outside call.config).2 normalized) ∧
    (Free clash call.outside normalized →
      ∃ plan, (manager.applyAndStartWithFileSystem clash call.outside call.config).1 = .ok plan)

/-! ## Runs -/

/-- How the call that stored the fingerprint ended. -/
inductive ProxyOutcome where
  | started (mode : SubscriptionProxyServeMode)
  | waiting
  | failed
  deriving DecidableEq

/-- The manager, and beside it the configuration whose fingerprint it stores with how that call ended. -/
structure ProxyRun where
  manager : SubscriptionProxyRuntimeManager := {}
  applied : Option (SubscriptionProxyConfig × ProxyOutcome) := none

/-- What a finished call leaves on record. -/
def applyOutcome (applied : Option (SubscriptionProxyConfig × ProxyOutcome)) (normalized : SubscriptionProxyConfig)
    (result : Except Text SubscriptionProxyApplyPlan) : Option (SubscriptionProxyConfig × ProxyOutcome) :=
  match result with
  | .error _ => some (normalized, .failed)
  | .ok plan =>
    match plan.action with
    | .disabled => none
    | .unchanged => applied
    | .error => some (normalized, .waiting)
    | .start => plan.serveMode.map fun mode => (normalized, .started mode)

section

variable (clash : Text → Text → Bool)

def ProxyRun.next (run : ProxyRun) (call : ProxyCall) : Option ProxyRun :=
  let result := run.manager.applyAndStartWithFileSystem clash call.outside call.config
  some
    { manager := result.2
      applied :=
        match normalizeSubscriptionProxyConfig call.config with
        | .error _ => run.applied
        | .ok normalized => applyOutcome run.applied normalized result.1 }

/-- The call that stored the fingerprint ended as a call with this configuration would end now. -/
def ProxyOutcome.Stands (outside : ProxyOutside) (config : SubscriptionProxyConfig) : ProxyOutcome → Prop
  | .started mode => planSubscriptionProxyServeMode config outside.fileReadable = .ok mode
  | .waiting => ∃ error, planSubscriptionProxyServeMode config outside.fileReadable = .error error
  | .failed => False

/-- No live handle of the manager holds an address while the new server for it is bound: the challenge server is
bound beside the old one, and, when the main server is to run, beside the old main server; the main server is bound
beside the old one. -/
structure Unhindered (outside : ProxyOutside) (manager : SubscriptionProxyRuntimeManager)
    (config : SubscriptionProxyConfig) : Prop where
  http : ∀ plan server, planSubscriptionProxyHttpServer config = some plan → manager.httpServer = some server →
    clash plan.listen server.listen = false
  httpMain : ∀ plan server mode, planSubscriptionProxyHttpServer config = some plan →
    planSubscriptionProxyServeMode config outside.fileReadable = .ok mode → manager.mainServer = some server →
    clash plan.listen server.listen = false
  main : ∀ server mode, planSubscriptionProxyServeMode config outside.fileReadable = .ok mode →
    manager.mainServer = some server → clash (planSubscriptionProxyMainServer config mode).listen server.listen = false

/-- The call meets no defect.  Where its fingerprint is the stored one, the call that stored it asked for the same servers
and ended as this one would; the last website listed under a prefix, which takes its requests, is the same too.
Elsewhere no new server meets an old one at its address. -/
def Clear (run : ProxyRun) (call : ProxyCall) : Prop :=
  ∀ normalized again, normalizeSubscriptionProxyConfig call.config = .ok normalized →
    normalizeSubscriptionProxyConfig normalized = .ok again → normalized.isIdle = false →
    (run.manager.fingerprint = subscriptionProxyFingerprint again →
      ∀ prior outcome, run.applied = some (prior, outcome) →
        SameAsked prior normalized ∧ SameOwners prior.websiteProfiles normalized.websiteProfiles ∧
          outcome.Stands call.outside normalized) ∧
    (run.manager.fingerprint ≠ subscriptionProxyFingerprint again →
      Unhindered clash call.outside run.manager normalized)

end

/-- The record is true: with no fingerprint stored there is nothing on record, what is on record is normalised, and a
call that started its servers left them running. -/
structure Recorded (run : ProxyRun) : Prop where
  normal : ∀ prior outcome, run.applied = some (prior, outcome) → NormalizedConfig prior
  unstored : run.applied = none → run.manager.fingerprint = []
  started : ∀ prior mode, run.applied = some (prior, .started mode) →
    run.manager.mainServer = some (mainHandle (planSubscriptionProxyMainServer prior mode)) ∧
      run.manager.httpServer = httpHandle prior
  waiting : ∀ prior, run.applied = some (prior, .waiting) →
    run.manager.mainServer = none ∧ run.manager.httpServer = httpHandle prior

section

variable {clash : Text → Text → Bool} {outside : ProxyOutside} {manager : SubscriptionProxyRuntimeManager}
  {config : SubscriptionProxyConfig}

theorem serves_httpHandle (hserving : config.isIdle = false) (hhttp : manager.httpServer = httpHandle config) :
    manager.httpServer.map (·.serves) = askedHttp config := by
  rw [hhttp, httpHandle, askedHttp, hserving]
  cases planSubscriptionProxyHttpServer config <;> rfl

theorem listen_httpHandle (hhttp : manager.httpServer = httpHandle config)
    (server : SubscriptionProxyServerHandle SubscriptionProxyHttpServerPlan) (h : manager.httpServer = some server) :
    server.listen = server.serves.listen := by
  rw [hhttp, httpHandle, Option.map_eq_some_iff] at h
  obtain ⟨plan, _, rfl⟩ := h
  rfl

theorem askedMain_of_ok {mode : SubscriptionProxyServeMode} (hserving : config.isIdle = false)
    (hmode : planSubscriptionProxyServeMode config outside.fileReadable = .ok mode) :
    askedMain outside config = some (planSubscriptionProxyMainServer config mode) := by
  simp [askedMain, hserving, hmode]

theorem askedMain_of_error {error : Text} (hserving : config.isIdle = false)
    (hmode : planSubscriptionProxyServeMode config outside.fileReadable = .error error) :
    askedMain outside config = none := by
  simp [askedMain, hserving, hmode]

/-- A server runs as a configuration asks that asks for the same and has the same owners. -/
theorem runsAs_of_owners {prior : SubscriptionProxyConfig} (hnormal : NormalizedConfig prior) (hsame : SameAsked prior config)
    (howners : SameOwners prior.websiteProfiles config.websiteProfiles) (mode : SubscriptionProxyServeMode) :
    RunsAs (planSubscriptionProxyMainServer prior mode) (planSubscriptionProxyMainServer config mode) :=
  ⟨hsame.main mode, requests_eq_of_owners hnormal (hsame.main mode).profiles (hsame.main mode).websites howners⟩

/-- Servers started for a configuration serve one that they run for as well. -/
theorem serves_of_running {prior : SubscriptionProxyConfig} {mode : SubscriptionProxyServeMode}
    (hserving : config.isIdle = false)
    (hmode : planSubscriptionProxyServeMode config outside.fileReadable = .ok mode)
    (hmain : manager.mainServer = some (mainHandle (planSubscriptionProxyMainServer prior mode)))
    (hhttp : manager.httpServer = httpHandle prior)
    (hruns : RunsAs (planSubscriptionProxyMainServer prior mode) (planSubscriptionProxyMainServer config mode))
    (hsame : planSubscriptionProxyHttpServer prior = planSubscriptionProxyHttpServer config) :
    Serves outside manager config := by
  have hhttp' : manager.httpServer = httpHandle config := by rw [hhttp, httpHandle, httpHandle, hsame]
  constructor
  case main =>
    rw [hmain, askedMain_of_ok hserving hmode]
    exact .some hruns
  case http => exact serves_httpHandle hserving hhttp'
  case mainListen =>
    intro server hserver
    rw [hmain] at hserver
    cases hserver
    rfl
  case httpListen => exact listen_httpHandle hhttp'

theorem serves_of_waiting {error : Text} (hserving : config.isIdle = false)
    (hmode : planSubscriptionProxyServeMode config outside.fileReadable = .error error)
    (hmain : manager.mainServer = none) (hhttp : manager.httpServer = httpHandle config) :
    Serves outside manager config := by
  constructor
  case main =>
    rw [hmain, askedMain_of_error hserving hmode]
    exact .none
  case http => exact serves_httpHandle hserving hhttp
  case mainListen => rw [hmain]; exact fun _ h => nomatch h
  case httpListen => exact listen_httpHandle hhttp

theorem serves_of_idle (hidle : config.isIdle = true) (hmain : manager.mainServer = none)
    (hhttp : manager.httpServer = none) : Serves outside manager config := by
  constructor
  case main =>
    rw [hmain, askedMain, if_pos hidle]
    exact .none
  case http => rw [hhttp, askedHttp, if_pos hidle]; rfl
  case mainListen => rw [hmain]; exact fun _ h => nomatch h
  case httpListen => rw [hhttp]; exact fun _ h => nomatch h

/-- With no other program in the way and no old handle at its address, the challenge server can be bound. -/
theorem httpFree_of_unhindered {live : List Text} (hserving : config.isIdle = false) (hfree : Free clash outside config)
    (hlive : ∀ plan, planSubscriptionProxyHttpServer config = some plan → ∀ address ∈ live,
      clash plan.listen address = false) : HttpFree clash outside live config := by
  intro plan hplan
  refine ⟨hfree.http plan ?_, hlive plan hplan⟩
  rw [askedHttp, hserving]
  exact hplan

end

/-- A call that plans to start servers, with the address condition met, converges. -/
theorem Started.converges {clash : Text → Text → Bool} {outside : ProxyOutside}
    {manager : SubscriptionProxyRuntimeManager} {normalized : SubscriptionProxyConfig}
    {result : Except Text SubscriptionProxyApplyPlan × SubscriptionProxyRuntimeManager}
    (h : Started clash outside manager normalized result) (hserving : normalized.isIdle = false)
    (hclear : Unhindered clash outside manager normalized) :
    (∀ plan, result.1 = .ok plan → Serves outside result.2 normalized) ∧
      (Free clash outside normalized → ∃ plan, result.1 = .ok plan) := by
  cases h with
  | waiting hmode _ hmain hhttp =>
    exact ⟨fun _ _ => serves_of_waiting hserving hmode hmain hhttp, fun _ => ⟨_, rfl⟩⟩
  | running hmode _ _ hmain hhttp =>
    exact ⟨fun _ _ => serves_of_running hserving hmode hmain hhttp ⟨SameServer.refl _, fun _ => rfl⟩ rfl, fun _ => ⟨_, rfl⟩⟩
  | waitingFailed hmode hheld =>
    refine ⟨(fun _ h => nomatch h), fun hfree => absurd (httpFree_of_unhindered hserving hfree ?_) hheld⟩
    intro plan hplan address haddress
    rcases mem_live.1 haddress with ⟨server, hserver, _⟩ | ⟨server, hserver, rfl⟩
    · cases hserver
    · exact hclear.http plan server hplan hserver
  | @runningFailed mode _ _ hmode hheld =>
    have hasked := askedMain_of_ok hserving hmode
    refine ⟨(fun _ h => nomatch h), fun hfree => absurd ⟨httpFree_of_unhindered hserving hfree ?_, ?_⟩ hheld⟩
    · intro plan hplan address haddress
      rcases mem_live.1 haddress with ⟨server, hserver, rfl⟩ | ⟨server, hserver, rfl⟩
      · exact hclear.httpMain plan server mode hplan hmode hserver
      · exact hclear.http plan server hplan hserver
    · refine ⟨hfree.main _ hasked, fun address haddress => ?_, fun hhttps => hfree.tls _ hasked hhttps⟩
      rcases mem_live.1 haddress with ⟨server, hserver, rfl⟩ | ⟨server, hserver, rfl⟩
      · exact hclear.main server mode hmode hserver
      · obtain ⟨plan, hplan, rfl⟩ := Option.map_eq_some_iff.1 hserver
        refine hfree.apart _ plan hasked ?_
        rw [askedHttp, hserving]
        exact hplan

section

variable {clash : Text → Text → Bool} {run : ProxyRun} {call : ProxyCall}

theorem Started.recorded {outside : ProxyOutside} {manager : SubscriptionProxyRuntimeManager}
    {normalized : SubscriptionProxyConfig} {result : Except Text SubscriptionProxyApplyPlan × SubscriptionProxyRuntimeManager}
    (h : Started clash outside manager normalized result) (hnormal : NormalizedConfig normalized)
    (applied : Option (SubscriptionProxyConfig × ProxyOutcome)) :
    Recorded { manager := result.2, applied := applyOutcome applied normalized result.1 } := by
  cases h with
  | waiting hmode haction hmain hhttp =>
    simp only [applyOutcome, haction]
    constructor
    case normal =>
      rintro prior outcome ⟨⟩
      exact hnormal
    case unstored => rintro ⟨⟩
    case started => rintro prior mode ⟨⟩
    case waiting =>
      rintro prior ⟨⟩
      exact ⟨hmain, hhttp⟩
  | running hmode haction hserve hmain hhttp =>
    simp only [applyOutcome, haction, hserve]
    constructor
    case normal =>
      rintro prior outcome ⟨⟩
      exact hnormal
    case unstored => rintro ⟨⟩
    case started =>
      rintro prior mode ⟨⟩
      exact ⟨hmain, hhttp⟩
    case waiting => rintro prior ⟨⟩
  | waitingFailed | runningFailed =>
    constructor
    case normal =>
      rintro prior outcome ⟨⟩
      exact hnormal
    case unstored => rintro ⟨⟩
    case started => rintro prior mode ⟨⟩
    case waiting => rintro prior ⟨⟩

/-- An unchanged configuration finds its servers as the record says. -/
theorem serves_of_recorded {normalized again : SubscriptionProxyConfig} (hrecorded : Recorded run)
    (hserving : normalized.isIdle = false) (hprint : run.manager.fingerprint = subscriptionProxyFingerprint again)
    (hclear : ∀ prior outcome, run.applied = some (prior, outcome) →
      SameAsked prior normalized ∧ SameOwners prior.websiteProfiles normalized.websiteProfiles ∧
        outcome.Stands call.outside normalized) :
    Serves call.outside run.manager normalized := by
  cases happlied : run.applied with
  | none =>
    rw [hrecorded.unstored happlied] at hprint
    exact absurd hprint.symm (subscriptionProxyFingerprint_ne_nil again)
  | some record =>
    obtain ⟨prior, outcome⟩ := record
    obtain ⟨hsame, howners, hstands⟩ := hclear prior outcome happlied
    cases outcome with
    | started mode =>
      obtain ⟨hmain, hhttp⟩ := hrecorded.started prior mode happlied
      have hruns := runsAs_of_owners (hrecorded.normal prior _ happlied) hsame howners mode
      exact serves_of_running hserving hstands hmain hhttp hruns hsame.http
    | waiting =>
      obtain ⟨hmain, hhttp⟩ := hrecorded.waiting prior happlied
      obtain ⟨error, hmode⟩ := hstands
      exact serves_of_waiting hserving hmode hmain (by rw [hhttp, httpHandle, httpHandle, hsame.http])
    | failed => exact hstands.elim

/-- A call that changes nothing but its status serves what was served. -/
theorem Serves.of_eq {outside : ProxyOutside} {before after : SubscriptionProxyRuntimeManager}
    {config : SubscriptionProxyConfig} (h : Serves outside before config) (hmain : after.mainServer = before.mainServer)
    (hhttp : after.httpServer = before.httpServer) : Serves outside after config :=
  ⟨hmain ▸ h.main, hhttp ▸ h.http, hmain ▸ h.mainListen, hhttp ▸ h.httpListen⟩

/-- **Step**: a clear call converges and leaves a true record. -/
theorem step_converges (hrecorded : Recorded run) (hclear : Clear clash run call) :
    Converges clash run.manager call ∧ ∀ after, run.next clash call = some after → Recorded after := by
  cases hnormal : normalizeSubscriptionProxyConfig call.config with
  | error error =>
    refine ⟨fun normalized h => (by rw [hnormal] at h; cases h), fun after hafter => ?_⟩
    simp only [ProxyRun.next, applyAndStartWithFileSystem, hnormal, Option.some.injEq] at hafter
    rw [← hafter]
    exact ⟨hrecorded.normal, hrecorded.unstored, hrecorded.started, hrecorded.waiting⟩
  | ok normalized =>
    obtain ⟨again, hagain, hidle⟩ := normalize_again hnormal
    obtain ⟨result, hresult, hcases⟩ :=
      call_cases clash call.outside run.manager hnormal hagain hidle
    have hclear := hclear normalized again hnormal hagain
    have hgoal : ((∀ plan, result.1 = .ok plan → Serves call.outside result.2 normalized) ∧
        (Free clash call.outside normalized → ∃ plan, result.1 = .ok plan)) ∧
        Recorded { manager := result.2, applied := applyOutcome run.applied normalized result.1 } := by
      rcases hcases with ⟨hempty, ⟨plan, hplan, haction⟩, hprint, hmain, hhttp⟩ |
        ⟨hserving, hsame, ⟨plan, hplan, haction⟩, hprint, hmain, hhttp⟩ | ⟨hserving, hchanged, hprint, hstarted⟩
      · refine ⟨⟨fun _ _ => serves_of_idle hempty hmain hhttp, fun _ => ⟨plan, hplan⟩⟩, ?_⟩
        simp only [applyOutcome, hplan, haction]
        exact ⟨(by rintro _ _ ⟨⟩), fun _ => hprint, (by rintro _ _ ⟨⟩), (by rintro _ ⟨⟩)⟩
      · have hserves := serves_of_recorded hrecorded hserving hsame ((hclear hserving).1 hsame)
        refine ⟨⟨fun _ _ => hserves.of_eq hmain hhttp, fun _ => ⟨plan, hplan⟩⟩, ?_⟩
        simp only [applyOutcome, hplan, haction]
        constructor
        case normal => exact hrecorded.normal
        case unstored => exact fun happlied => hprint.trans (hrecorded.unstored happlied)
        case started =>
          rw [hmain, hhttp]
          exact hrecorded.started
        case waiting =>
          rw [hmain, hhttp]
          exact hrecorded.waiting
      · exact ⟨hstarted.converges hserving ((hclear hserving).2 hchanged), hstarted.recorded (normalized_of_ok hnormal) run.applied⟩
    refine ⟨fun normalized' hnormal' => ?_, fun after hafter => ?_⟩
    · rw [hnormal] at hnormal'
      cases hnormal'
      rw [hresult]
      exact hgoal.1
    · simp only [ProxyRun.next, hresult, hnormal, Option.some.injEq] at hafter
      rw [← hafter]
      exact hgoal.2

end

/-! ## Example calls -/

/-- Addresses clash when they are the same. -/
def sameAddress (left right : Text) : Bool := left = right

/-- No certificate, and every address free. -/
def quietOutside : ProxyOutside where
  isFile _ := false
  storeFile _ := .ok ()
  ensureCsr _ _ := .error "no openssl"
  loadTls _ _ := .ok ()
  refuses _ := false
  bindError := "Address already in use (os error 98)"

/-- Another program holds the address. -/
def busyOutside : ProxyOutside := { quietOutside with refuses := (· = "0.0.0.0:443") }

/-- A configuration in normal form that serves one site over plain HTTP. -/
def plainConfig (listen base : Text) : SubscriptionProxyConfig where
  enabled := true
  httpsListen := listen
  challengeDir := defaultChallengeDir
  allowHttpFallback := true
  maxResponseBytes := defaultMaxResponseBytes
  profiles := [{ siteId := "a", upstreamBaseUrl := base, subscribePath := "s" }]

/-- The site's configuration, at the usual address. -/
def siteConfig : SubscriptionProxyConfig := plainConfig "0.0.0.0:443" "https://a"

/-- The site has moved to another upstream. -/
def movedConfig : SubscriptionProxyConfig := plainConfig "0.0.0.0:443" "https://b"

theorem free_quiet {config : SubscriptionProxyConfig}
    (hmode : planSubscriptionProxyServeMode config quietOutside.fileReadable = .ok .httpFallback)
    (hhttp : planSubscriptionProxyHttpServer config = none) : Free sameAddress quietOutside config := by
  have hnone : askedHttp config = none := by
    rw [askedHttp, hhttp]
    split <;> rfl
  constructor
  case main => exact fun _ _ => rfl
  case http => exact fun _ _ => rfl
  case apart =>
    intro _ _ _ h
    rw [hnone] at h
    cases h
  case tls =>
    intro plan hplan hhttps
    simp only [askedMain, hmode] at hplan
    split at hplan <;> cases hplan
    cases hhttps

/-! ## Runs that converge, and three that do not -/

section

variable {clash : Text → Text → Bool}

/-- The first call of a new manager meets no defect. -/
theorem clear_new (call : ProxyCall) : Clear clash {} call := by
  intro normalized again _ _ _
  refine ⟨fun hprint => ?_, fun _ => ?_⟩
  · exact absurd hprint.symm (subscriptionProxyFingerprint_ne_nil again)
  · exact ⟨(fun _ _ _ h => nomatch h), (fun _ _ _ _ _ h => nomatch h), fun _ _ _ h => nomatch h⟩

variable (clash)

/-- **Every clear run converges**: from a new manager on, after each call that returns `Ok` the live servers are
those its configuration asks for, and each call returns `Ok` that only the manager itself could stop. -/
theorem run_converges (calls : List ProxyCall) (hclear : Along (ProxyRun.next clash) (Clear clash) calls {}) :
    Along (ProxyRun.next clash) (fun run call => Converges clash run.manager call) calls {} :=
  Along.of_invariant (fun _ _ => step_converges)
    ⟨(by rintro _ _ ⟨⟩), fun _ => rfl, (by rintro _ _ ⟨⟩), (by rintro _ ⟨⟩)⟩ hclear

end

/-- The manager after one call on a new one. -/
def managerAfter (call : ProxyCall) : SubscriptionProxyRuntimeManager :=
  (applyAndStartWithFileSystem sameAddress call.outside {} call.config).2

/-- The site moves to another address and stays there. -/
theorem run_converges_moved : Along (ProxyRun.next sameAddress) (fun run call => Converges sameAddress run.manager call)
    [⟨quietOutside, siteConfig⟩, ⟨quietOutside, plainConfig "0.0.0.0:8443" "https://a"⟩] {} := by
  refine run_converges sameAddress _ ⟨clear_new _, fun run hrun => ⟨?_, fun _ _ => trivial⟩⟩
  cases hrun
  have hnormal : normalizeSubscriptionProxyConfig (plainConfig "0.0.0.0:8443" "https://a") =
      .ok (plainConfig "0.0.0.0:8443" "https://a") := by decide +kernel
  intro normalized again hfirst hsecond _
  rw [hnormal] at hfirst
  cases hfirst
  rw [hnormal] at hsecond
  cases hsecond
  have hmain : (managerAfter ⟨quietOutside, siteConfig⟩).mainServer =
      some (mainHandle (planSubscriptionProxyMainServer siteConfig .httpFallback)) := by decide +kernel
  refine ⟨fun hprint => ?_, fun _ => ?_⟩
  · change (managerAfter ⟨quietOutside, siteConfig⟩).fingerprint = _ at hprint
    exact absurd hprint (by decide +kernel)
  · constructor
    case http => exact fun _ _ h => nomatch h
    case httpMain => exact fun _ _ _ h => nomatch h
    case main =>
      intro server mode _ hserver
      change (managerAfter ⟨quietOutside, siteConfig⟩).mainServer = _ at hserver
      rw [hmain] at hserver
      cases hserver
      cases mode <;> decide +kernel

/-- Two websites under one prefix, served over plain HTTP. -/
def sharedPrefixConfig (first second : WebsiteProxyProfile) : SubscriptionProxyConfig :=
  { siteConfig with profiles := [], websiteProfiles := [first, second] }

theorem not_runsAs_reordered :
    ¬ RunsAs (planSubscriptionProxyMainServer (sharedPrefixConfig (siteA "/x") (siteB "/x")) .httpFallback)
      (planSubscriptionProxyMainServer (sharedPrefixConfig (siteB "/x") (siteA "/x")) .httpFallback) := by
  intro h
  have hupstream := congrArg rewrittenUpstream (h.requests (getRequest "/x"))
  exact absurd hupstream (by decide +kernel)

/-- The address is busy in the first call and free in the second, which answers `Unchanged` and starts nothing; a
profile that changes at a kept address fails although no other program is in the way; and websites that are listed in
another order are routed as before. -/
theorem failed_start_not_retried :
    ¬ Along (ProxyRun.next sameAddress) (fun run call => Converges sameAddress run.manager call)
        [⟨busyOutside, siteConfig⟩, ⟨quietOutside, siteConfig⟩] {} ∧
    ¬ Along (ProxyRun.next sameAddress) (fun run call => Converges sameAddress run.manager call)
        [⟨quietOutside, siteConfig⟩, ⟨quietOutside, movedConfig⟩] {} ∧
    ¬ Along (ProxyRun.next sameAddress) (fun run call => Converges sameAddress run.manager call)
        [⟨quietOutside, sharedPrefixConfig (siteA "/x") (siteB "/x")⟩, ⟨quietOutside, sharedPrefixConfig (siteB "/x") (siteA "/x")⟩]
        {} := by
  refine ⟨?_, ?_, ?_⟩
  · rintro ⟨_, hnext⟩
    obtain ⟨hsecond, _⟩ := hnext _ rfl
    obtain ⟨hserves, _⟩ := hsecond siteConfig (by decide +kernel)
    obtain ⟨plan, hplan⟩ : ∃ plan, (applyAndStartWithFileSystem sameAddress quietOutside
        (managerAfter ⟨busyOutside, siteConfig⟩) siteConfig).1 = .ok plan := exists_ok (by decide +kernel)
    have hmain := (hserves plan hplan).main
    have hnone : (applyAndStartWithFileSystem sameAddress quietOutside
        (managerAfter ⟨busyOutside, siteConfig⟩) siteConfig).2.mainServer = none := by decide +kernel
    have hasked : askedMain quietOutside siteConfig =
        some (planSubscriptionProxyMainServer siteConfig .httpFallback) := by decide +kernel
    change Option.Rel RunsAs ((applyAndStartWithFileSystem sameAddress quietOutside
        (managerAfter ⟨busyOutside, siteConfig⟩) siteConfig).2.mainServer.map (·.serves)) _ at hmain
    rw [hnone, hasked] at hmain
    cases hmain
  · rintro ⟨_, hnext⟩
    obtain ⟨hsecond, _⟩ := hnext _ rfl
    obtain ⟨_, hstarts⟩ := hsecond movedConfig (by decide +kernel)
    obtain ⟨plan, hplan⟩ := hstarts (free_quiet (by decide +kernel) (by decide +kernel))
    have hfails : (applyAndStartWithFileSystem sameAddress quietOutside
        (managerAfter ⟨quietOutside, siteConfig⟩) movedConfig).1.toOption = none := by decide +kernel
    change (applyAndStartWithFileSystem sameAddress quietOutside
        (managerAfter ⟨quietOutside, siteConfig⟩) movedConfig).1 = .ok plan at hplan
    rw [hplan] at hfails
    cases hfails
  · rintro ⟨_, hnext⟩
    obtain ⟨hsecond, _⟩ := hnext _ rfl
    obtain ⟨hserves, _⟩ := hsecond (sharedPrefixConfig (siteB "/x") (siteA "/x")) (by decide +kernel)
    obtain ⟨plan, hplan⟩ : ∃ plan, (applyAndStartWithFileSystem sameAddress quietOutside
        (managerAfter ⟨quietOutside, sharedPrefixConfig (siteA "/x") (siteB "/x")⟩)
        (sharedPrefixConfig (siteB "/x") (siteA "/x"))).1 = .ok plan := exists_ok (by decide +kernel)
    have hmain := (hserves plan hplan).main
    have hkept : ((applyAndStartWithFileSystem sameAddress quietOutside
        (managerAfter ⟨quietOutside, sharedPrefixConfig (siteA "/x") (siteB "/x")⟩)
        (sharedPrefixConfig (siteB "/x") (siteA "/x"))).2.mainServer.map (·.serves)) =
        some (planSubscriptionProxyMainServer (sharedPrefixConfig (siteA "/x") (siteB "/x")) .httpFallback) := by decide +kernel
    have hasked : askedMain quietOutside (sharedPrefixConfig (siteB "/x") (siteA "/x")) =
        some (planSubscriptionProxyMainServer (sharedPrefixConfig (siteB "/x") (siteA "/x")) .httpFallback) := by decide +kernel
    change Option.Rel RunsAs ((applyAndStartWithFileSystem sameAddress quietOutside
        (managerAfter ⟨quietOutside, sharedPrefixConfig (siteA "/x") (siteB "/x")⟩)
        (sharedPrefixConfig (siteB "/x") (siteA "/x"))).2.mainServer.map (·.serves)) _ at hmain
    rw [hkept, hasked] at hmain
    cases hmain with
    | some hruns => exact not_runsAs_reordered hruns

end KeliNode
