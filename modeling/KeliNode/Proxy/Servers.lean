import KeliNode.Proxy.Manager
import KeliNode.Proxy.Normalized

/-!
# What a call of the manager does to its servers

The plan has four answers (`planSubscriptionProxyApply_cases`), a server starts or its address was held
(`restartHttpServer_cases`, `restartMainServer_cases`), and so a call whose configuration normalises stops the
servers, leaves them alone or starts them (`call_cases`).  Starting can end in four ways (`Started`).
-/

namespace KeliNode

open Lib SubscriptionProxyRuntimeManager

/-! ## What planning does -/

theorem subscriptionProxyFingerprint_ne_nil (config : SubscriptionProxyConfig) : subscriptionProxyFingerprint config ≠ [] := by
  intro h
  have hmem : '\x00' ∈ subscriptionProxyFingerprint config := by
    rw [subscriptionProxyFingerprint, fixedParts, join]
    simp only [List.cons_append, List.intercalate_cons_cons]
    exact List.mem_append_left _ (List.mem_append_right _ List.mem_cons_self)
  rw [h] at hmem
  cases hmem

/-- The four answers of the plan. -/
theorem planSubscriptionProxyApply_cases (config : SubscriptionProxyConfig) (current : Text)
    (status : SubscriptionProxyStatus) (readable : Text → Bool) :
    ∃ plan, planSubscriptionProxyApply config current status readable = plan ∧
      ((config.isIdle = true ∧ plan.action = .disabled) ∨
       (config.isIdle = false ∧ plan.fingerprint = subscriptionProxyFingerprint config ∧
          ((current = subscriptionProxyFingerprint config ∧ plan.action = .unchanged) ∨
           (current ≠ subscriptionProxyFingerprint config ∧
              ((∃ mode, planSubscriptionProxyServeMode config readable = .ok mode ∧ plan.action = .start ∧
                  plan.serveMode = some mode) ∨
               (∃ error, planSubscriptionProxyServeMode config readable = .error error ∧ plan.action = .error)))))) := by
  refine ⟨_, rfl, ?_⟩
  by_cases hidle : config.isIdle = true
  · refine .inl ⟨hidle, ?_⟩
    rw [planSubscriptionProxyApply, if_pos hidle]
  · rw [planSubscriptionProxyApply, if_neg hidle]
    refine .inr ⟨by simpa using hidle, ?_⟩
    by_cases hsame : current = subscriptionProxyFingerprint config
    · have hguard : (!current.isEmpty && decide (current = subscriptionProxyFingerprint config)) = true := by
        simp [hsame, subscriptionProxyFingerprint_ne_nil]
      simp only [hguard, if_true]
      exact ⟨trivial, .inl ⟨hsame, trivial⟩⟩
    · have hguard : (!current.isEmpty && decide (current = subscriptionProxyFingerprint config)) = false := by
        simp [hsame]
      simp only [hguard]
      cases hmode : planSubscriptionProxyServeMode config readable with
      | ok mode => exact ⟨rfl, .inr ⟨hsame, .inl ⟨mode, rfl, rfl, rfl⟩⟩⟩
      | error error => exact ⟨rfl, .inr ⟨hsame, .inr ⟨error, rfl, rfl⟩⟩⟩

/-! ## Starting and stopping servers -/

section

variable {clash : Text → Text → Bool} {outside : ProxyOutside}

theorem bindListener_eq_ok {what listen : Text} {live : List Text} :
    bindListener clash outside what live listen = .ok () ↔
      outside.refuses listen = false ∧ ∀ address ∈ live, clash listen address = false := by
  rw [bindListener]
  by_cases h : (outside.refuses listen || live.any (clash listen)) = true
  · rw [if_pos h]
    refine ⟨(fun h' => nomatch h'), fun ⟨hrefuses, hlive⟩ => ?_⟩
    rw [hrefuses, Bool.false_or, List.any_eq_true] at h
    obtain ⟨address, hmem, hclash⟩ := h
    rw [hlive address hmem] at hclash
    cases hclash
  · rw [if_neg h]
    simp only [Bool.or_eq_true, List.any_eq_true, not_or, Bool.not_eq_true, not_exists, not_and] at h
    exact ⟨fun _ => h, fun _ => rfl⟩

variable (clash outside) in
/-- What holds the address when a server that listens there is bound. -/
theorem spawnHttp_cases (live : List Text) (config : SubscriptionProxyConfig) :
    (∃ error, spawnSubscriptionProxyHttpChallengeServer clash outside live config = .error error ∧
      ∃ plan, planSubscriptionProxyHttpServer config = some plan ∧
        ¬ (outside.refuses plan.listen = false ∧ ∀ address ∈ live, clash plan.listen address = false)) ∨
    spawnSubscriptionProxyHttpChallengeServer clash outside live config =
      .ok ((planSubscriptionProxyHttpServer config).map fun plan => { listen := plan.listen, serves := plan }) := by
  rw [spawnSubscriptionProxyHttpChallengeServer]
  cases hplan : planSubscriptionProxyHttpServer config with
  | none => exact .inr rfl
  | some plan =>
    cases hbind : bindListener clash outside "server" live plan.listen with
    | error error =>
      refine .inl ⟨error, by simp only [hbind]; rfl, plan, rfl, fun hfree => ?_⟩
      rw [bindListener_eq_ok.2 hfree] at hbind
      cases hbind
    | ok _ => exact .inr (by simp only [hbind]; rfl)

variable (clash outside) in
theorem spawnMain_cases (live : List Text) (plan : SubscriptionProxyMainServerPlan) :
    (∃ error, spawnSubscriptionProxyMainServer clash outside live plan = .error error ∧
      ¬ (outside.refuses plan.listen = false ∧ (∀ address ∈ live, clash plan.listen address = false) ∧
        (plan.mode = .https → loadSubscriptionProxyTlsConfig outside plan.certFile plan.keyFile = .ok ()))) ∨
    spawnSubscriptionProxyMainServer clash outside live plan = .ok { listen := plan.listen, serves := plan } := by
  have hbound : ∀ what, (∃ error, bindListener clash outside what live plan.listen = .error error ∧
      ¬ (outside.refuses plan.listen = false ∧ ∀ address ∈ live, clash plan.listen address = false)) ∨
      bindListener clash outside what live plan.listen = .ok () := by
    intro what
    cases hbind : bindListener clash outside what live plan.listen with
    | ok _ => exact .inr rfl
    | error error =>
      refine .inl ⟨error, rfl, fun hfree => ?_⟩
      rw [bindListener_eq_ok.2 hfree] at hbind
      cases hbind
  rw [spawnSubscriptionProxyMainServer]
  cases hmode : plan.mode with
  | httpFallback =>
    rcases hbound "server" with ⟨error, hbind, hheld⟩ | hbind
    · exact .inl ⟨error, by simp only [hbind]; rfl, fun hfree => hheld ⟨hfree.1, hfree.2.1⟩⟩
    · exact .inr (by simp only [hbind]; rfl)
  | https =>
    cases htls : loadSubscriptionProxyTlsConfig outside plan.certFile plan.keyFile with
    | error error => exact .inl ⟨error, rfl, fun hfree => nomatch hfree.2.2 rfl⟩
    | ok _ =>
      rcases hbound "HTTPS server" with ⟨error, hbind, hheld⟩ | hbind
      · exact .inl ⟨error, by simp only [hbind]; rfl, fun hfree => hheld ⟨hfree.1, hfree.2.1⟩⟩
      · exact .inr (by simp only [hbind]; rfl)

theorem mem_live {manager : SubscriptionProxyRuntimeManager} {address : Text} : address ∈ manager.live ↔
    (∃ server, manager.mainServer = some server ∧ server.listen = address) ∨
      ∃ server, manager.httpServer = some server ∧ server.listen = address := by
  simp [live, Option.map_eq_some_iff]

def httpHandle (config : SubscriptionProxyConfig) :
    Option (SubscriptionProxyServerHandle SubscriptionProxyHttpServerPlan) :=
  (planSubscriptionProxyHttpServer config).map fun plan => { listen := plan.listen, serves := plan }

def mainHandle (plan : SubscriptionProxyMainServerPlan) : SubscriptionProxyServerHandle SubscriptionProxyMainServerPlan where
  listen := plan.listen
  serves := plan

variable (clash outside)

/-- The challenge server of the configuration can be bound while `live` is held. -/
def HttpFree (live : List Text) (config : SubscriptionProxyConfig) : Prop :=
  ∀ plan, planSubscriptionProxyHttpServer config = some plan →
    outside.refuses plan.listen = false ∧ ∀ address ∈ live, clash plan.listen address = false

/-- The main server can be bound while `live` is held, and its TLS files load. -/
def MainFree (live : List Text) (plan : SubscriptionProxyMainServerPlan) : Prop :=
  outside.refuses plan.listen = false ∧ (∀ address ∈ live, clash plan.listen address = false) ∧
    (plan.mode = .https → loadSubscriptionProxyTlsConfig outside plan.certFile plan.keyFile = .ok ())

variable {clash outside}

variable (clash outside) in
theorem restartHttpServer_cases (manager : SubscriptionProxyRuntimeManager) (config : SubscriptionProxyConfig) :
    (∃ error, manager.restartHttpServer clash outside config = (.error error, manager) ∧
      ¬ HttpFree clash outside manager.live config) ∨
    manager.restartHttpServer clash outside config = (.ok (), { manager with httpServer := httpHandle config }) := by
  rw [restartHttpServer]
  rcases spawnHttp_cases clash outside manager.live config with ⟨error, hspawn, plan, hplan, hheld⟩ | hspawn
  · exact .inl ⟨error, by rw [hspawn], fun hfree => hheld (hfree plan hplan)⟩
  · exact .inr (by rw [hspawn]; rfl)

variable (clash outside) in
theorem restartMainServer_cases (manager : SubscriptionProxyRuntimeManager) (plan : SubscriptionProxyMainServerPlan) :
    (∃ error, manager.restartMainServer clash outside plan = (.error error, manager) ∧
      ¬ MainFree clash outside manager.live plan) ∨
    manager.restartMainServer clash outside plan = (.ok (), { manager with mainServer := some (mainHandle plan) }) := by
  rw [restartMainServer]
  rcases spawnMain_cases clash outside manager.live plan with ⟨error, hspawn, hheld⟩ | hspawn
  · exact .inl ⟨error, by rw [hspawn], hheld⟩
  · exact .inr (by rw [hspawn]; rfl)

/-- The second normalisation sees the same files. -/
theorem serveMode_again {normalized again : SubscriptionProxyConfig}
    (h : normalizeSubscriptionProxyConfig normalized = .ok again) (readable : Text → Bool) :
    planSubscriptionProxyServeMode again readable = planSubscriptionProxyServeMode normalized readable := by
  obtain ⟨_, _, _, _, _, _, rfl⟩ := normalize_eq_ok h
  simp only [planSubscriptionProxyServeMode, trimSubscriptionProxyConfig, trim_trim]

/-! ## One call -/

/-- What a call that plans to start servers came to. -/
inductive Started (clash : Text → Text → Bool) (outside : ProxyOutside) (manager : SubscriptionProxyRuntimeManager)
    (normalized : SubscriptionProxyConfig) :
    Except Text SubscriptionProxyApplyPlan × SubscriptionProxyRuntimeManager → Prop where
  /-- The certificate files are not readable; only the challenge server runs. -/
  | waiting {error plan after} (hmode : planSubscriptionProxyServeMode normalized outside.fileReadable = .error error)
      (haction : plan.action = .error) (hmain : after.mainServer = none) (hhttp : after.httpServer = httpHandle normalized) :
      Started clash outside manager normalized (.ok plan, after)
  | waitingFailed {error message after}
      (hmode : planSubscriptionProxyServeMode normalized outside.fileReadable = .error error)
      (hheld : ¬ HttpFree clash outside manager.stopMainServer.live normalized) :
      Started clash outside manager normalized (.error message, after)
  | running {mode plan after} (hmode : planSubscriptionProxyServeMode normalized outside.fileReadable = .ok mode)
      (haction : plan.action = .start) (hserve : plan.serveMode = some mode)
      (hmain : after.mainServer = some (mainHandle (planSubscriptionProxyMainServer normalized mode)))
      (hhttp : after.httpServer = httpHandle normalized) :
      Started clash outside manager normalized (.ok plan, after)
  | runningFailed {mode message after}
      (hmode : planSubscriptionProxyServeMode normalized outside.fileReadable = .ok mode)
      (hheld : ¬ (HttpFree clash outside manager.live normalized ∧
        MainFree clash outside { manager with httpServer := httpHandle normalized }.live
          (planSubscriptionProxyMainServer normalized mode))) :
      Started clash outside manager normalized (.error message, after)

variable (outside) in
/-- Planning touches the fingerprint and the status only. -/
theorem applyNormalized_cases (manager : SubscriptionProxyRuntimeManager) (config : SubscriptionProxyConfig) :
    ∃ plan fingerprint status,
      manager.applyNormalized outside config = (plan, { manager with fingerprint, status }) ∧
      ((config.isIdle = true ∧ plan.action = .disabled ∧ fingerprint = []) ∨
       (config.isIdle = false ∧ fingerprint = subscriptionProxyFingerprint config ∧
          ((manager.fingerprint = subscriptionProxyFingerprint config ∧ plan.action = .unchanged) ∨
           (manager.fingerprint ≠ subscriptionProxyFingerprint config ∧
              ((∃ mode, planSubscriptionProxyServeMode config outside.fileReadable = .ok mode ∧ plan.action = .start ∧
                  plan.serveMode = some mode) ∨
               (∃ error, planSubscriptionProxyServeMode config outside.fileReadable = .error error ∧
                  plan.action = .error)))))) := by
  simp only [applyNormalized]
  generalize prepareSubscriptionProxyCertificateStatus config _ _ _ _ = certificate
  obtain ⟨plan, hplan, hcases⟩ :=
    planSubscriptionProxyApply_cases config manager.fingerprint certificate outside.fileReadable
  rw [hplan]
  rcases hcases with ⟨hidle, haction⟩ | ⟨hserving, hprint, ⟨hsame, haction⟩ | ⟨hchanged, hstart⟩⟩
  · simp only [haction, reduceCtorEq, if_false]
    exact ⟨plan, _, _, rfl, .inl ⟨hidle, haction, rfl⟩⟩
  · simp only [haction, if_true]
    exact ⟨_, _, _, rfl, .inr ⟨hserving, hprint, .inl ⟨hsame, rfl⟩⟩⟩
  · have hne : plan.action ≠ .unchanged := by
      rcases hstart with ⟨_, _, haction, _⟩ | ⟨_, _, haction⟩ <;> rw [haction] <;> decide
    rw [if_neg hne]
    refine ⟨plan, _, _, rfl, .inr ⟨hserving, ?_, .inr ⟨hchanged, hstart⟩⟩⟩
    rcases hstart with ⟨_, _, haction, _⟩ | ⟨_, _, haction⟩ <;> rw [haction, ← hprint]

variable (clash outside) in
/-- The three ways of a call whose configuration normalises: stop, leave alone, start. -/
theorem call_cases (manager : SubscriptionProxyRuntimeManager) {config normalized again : SubscriptionProxyConfig}
    (hnormal : normalizeSubscriptionProxyConfig config = .ok normalized)
    (hagain : normalizeSubscriptionProxyConfig normalized = .ok again) (hidle : again.isIdle = normalized.isIdle) :
    ∃ result, manager.applyAndStartWithFileSystem clash outside config = result ∧
      ((normalized.isIdle = true ∧ (∃ plan, result.1 = .ok plan ∧ plan.action = .disabled) ∧
          result.2.fingerprint = [] ∧ result.2.mainServer = none ∧ result.2.httpServer = none) ∨
       (normalized.isIdle = false ∧ manager.fingerprint = subscriptionProxyFingerprint again ∧
          (∃ plan, result.1 = .ok plan ∧ plan.action = .unchanged) ∧ result.2.fingerprint = manager.fingerprint ∧
          result.2.mainServer = manager.mainServer ∧ result.2.httpServer = manager.httpServer) ∨
       (normalized.isIdle = false ∧ manager.fingerprint ≠ subscriptionProxyFingerprint again ∧
          result.2.fingerprint = subscriptionProxyFingerprint again ∧ Started clash outside manager normalized result)) := by
  refine ⟨_, rfl, ?_⟩
  obtain ⟨plan, fingerprint, status, happly, hcases⟩ := applyNormalized_cases outside manager again
  rw [serveMode_again hagain] at hcases
  simp only [applyAndStartWithFileSystem, hnormal, SubscriptionProxyRuntimeManager.apply, hagain, happly, ← hidle,
    syncServersForApplyPlan]
  rcases hcases with ⟨hempty, haction, rfl⟩ | ⟨hserving, rfl, ⟨hsame, haction⟩ | ⟨hchanged, hstart⟩⟩
  · left
    simp only [haction]
    exact ⟨hempty, ⟨_, rfl, haction⟩, rfl, rfl, rfl⟩
  · right; left
    simp only [haction]
    exact ⟨hserving, hsame, ⟨_, rfl, haction⟩, hsame.symm, trivial, trivial⟩
  · right; right
    refine ⟨hserving, hchanged, ?_⟩
    generalize hprint : subscriptionProxyFingerprint again = fingerprint
    rcases hstart with ⟨mode, hmode, haction, hserve⟩ | ⟨error, hmode, haction⟩
    · simp only [haction]
      rcases restartHttpServer_cases clash outside { manager with fingerprint, status } normalized
        with ⟨message, hhttp, hheld⟩ | hhttp
      · simp only [hhttp]
        exact ⟨rfl, .runningFailed hmode fun hfree => hheld hfree.1⟩
      · simp only [hhttp, hserve]
        rcases restartMainServer_cases clash outside
            { manager with fingerprint, status, httpServer := httpHandle normalized }
            (planSubscriptionProxyMainServer normalized mode) with ⟨message, hmain, hheld⟩ | hmain
        · simp only [hmain]
          exact ⟨rfl, .runningFailed hmode fun hfree => hheld hfree.2⟩
        · simp only [hmain]
          exact ⟨trivial, .running hmode haction hserve rfl rfl⟩
    · simp only [haction]
      rcases restartHttpServer_cases clash outside
          ({ manager with fingerprint, status } : SubscriptionProxyRuntimeManager).stopMainServer normalized with
        ⟨message, hhttp, hheld⟩ | hhttp
      · simp only [hhttp]
        exact ⟨rfl, .waitingFailed hmode hheld⟩
      · simp only [hhttp]
        exact ⟨rfl, .waiting hmode haction rfl rfl⟩

end

end KeliNode
