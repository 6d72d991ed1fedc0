import KeliNode.Lib.Except
import KeliNode.Machine.Resolve

/-!
# No profile is lost

What an enabled proxy serves under a key is what its first profile with that key says (`served`).  The merges of the
panels' answers are left-biased in that, for subscription profiles and for websites (`leftBiased_profiles`,
`leftBiased_websites`), so the summary serves whatever the first panel to list the key does.  The last merge, into the
agent's own configuration, appends the subscription profiles of the summary and forgets its websites.
-/

namespace KeliNode

open Lib

/-! ## Keys -/

/-- A site, whatever its case. -/
def SubscriptionProxyProfile.siteKey (profile : SubscriptionProxyProfile) : Text := asciiLower profile.siteId

/-- A site, whatever its case, and a prefix in normal form. -/
def WebsiteProxyProfile.siteKey (profile : WebsiteProxyProfile) : Text × Text :=
  (asciiLower profile.siteId, normalizeProxyPathPrefix profile.pathPrefix)

theorem sameSite_eq (existing profile : SubscriptionProxyProfile) :
    sameSite existing profile = decide (existing.siteKey = profile.siteKey) := rfl

theorem sameWebsite_eq (existing profile : WebsiteProxyProfile) :
    sameWebsite existing profile = decide (existing.siteKey = profile.siteKey) := by
  simp [sameWebsite, eqIgnoreCase, WebsiteProxyProfile.siteKey, Prod.ext_iff]

/-! ## Contributors -/

/-- The answer of a panel, if it came with a proxy. -/
def MachineProfileInput.answer (input : MachineProfileInput) : Option (MachineProfileConfig × SubscriptionProxyConfig) :=
  match input.result with
  | .error _ => none
  | .ok response => (response.agent.bind (·.subscriptionProxy)).map fun proxy => (input.profile, proxy)

/-- The proxies of the panels that answered, each with the profile it was asked for. -/
def answers (inputs : List MachineProfileInput) : List (MachineProfileConfig × SubscriptionProxyConfig) :=
  inputs.filterMap (·.answer)

def contributedProfiles (own : SubscriptionProxyConfig) (inputs : List MachineProfileInput) :
    List SubscriptionProxyProfile :=
  (if own.enabled then own.profiles else []) ++ (answers inputs).flatMap fun answer => panelProfiles answer.1 answer.2

def contributedWebsites (own : SubscriptionProxyConfig) (inputs : List MachineProfileInput) :
    List WebsiteProxyProfile :=
  (if own.enabled then own.websiteProfiles else []) ++
    (answers inputs).flatMap fun answer => panelWebsites answer.1 answer.2

/-- Nothing that a contributor lists is missing, and the earlier contributor wins. -/
structure NoProfileLost (own : SubscriptionProxyConfig) (inputs : List MachineProfileInput)
    (merged : SubscriptionProxyConfig) : Prop where
  profiles : Kept SubscriptionProxyProfile.siteKey (contributedProfiles own inputs) merged.profiles
  websites : Kept WebsiteProxyProfile.siteKey (contributedWebsites own inputs) merged.websiteProfiles

/-! ## Merging enabled proxies -/

/-- What is seen of a proxy, while it is enabled. -/
def whileEnabled {γ : Type} (view : SubscriptionProxyConfig → Option γ) (proxy : SubscriptionProxyConfig) : Option γ :=
  if proxy.enabled then view proxy else none

section

variable {γ : Type} {view : SubscriptionProxyConfig → Option γ} {proxy : SubscriptionProxyConfig}

theorem whileEnabled_of_enabled (h : proxy.enabled = true) : whileEnabled view proxy = view proxy := if_pos h

theorem whileEnabled_of_not_enabled (h : proxy.enabled = false) : whileEnabled view proxy = none :=
  if_neg (by rw [h]; exact Bool.false_ne_true)

theorem view_of_whileEnabled {seen : γ} (h : whileEnabled view proxy = some seen) : view proxy = some seen := by
  cases hon : proxy.enabled with
  | false => rw [whileEnabled_of_not_enabled hon] at h; cases h
  | true => rwa [whileEnabled_of_enabled hon] at h

/-- A merge that leaves the one enabled proxy as it is, and is left-biased for two enabled ones. -/
theorem leftBiased_whileEnabled {merge combine : SubscriptionProxyConfig → SubscriptionProxyConfig → SubscriptionProxyConfig}
    (hmerge : ∀ target source, merge target source =
      if !source.enabled then target else if !target.enabled then source else combine target source)
    (henabled : ∀ target source, (combine target source).enabled = target.enabled) (hview : LeftBiased combine view) :
    LeftBiased merge (whileEnabled view) := by
  intro target source
  rw [hmerge]
  cases hsource : source.enabled with
  | false => rw [whileEnabled_of_not_enabled hsource, Option.or_none]; rfl
  | true =>
    cases htarget : target.enabled with
    | false => rw [whileEnabled_of_not_enabled htarget, Option.none_or]; rfl
    | true =>
      have hcombined : (combine target source).enabled = true := by rw [henabled, htarget]
      simp only [Bool.not_true, Bool.false_eq_true, if_false]
      rw [whileEnabled_of_enabled hcombined, whileEnabled_of_enabled htarget, whileEnabled_of_enabled hsource, hview]

end

theorem leftBiased_profiles (k : Text) :
    LeftBiased mergeRuntimeProxy (whileEnabled fun proxy => firstWith SubscriptionProxyProfile.siteKey proxy.profiles k) := by
  refine leftBiased_whileEnabled (fun _ _ => rfl) (fun _ _ => rfl) fun target source => ?_
  rw [← firstWith_append]
  exact firstWith_appendNew sameSite_eq _ _ _

theorem leftBiased_websites (k : Text × Text) :
    LeftBiased mergeRuntimeProxy (whileEnabled fun proxy => firstWith WebsiteProxyProfile.siteKey proxy.websiteProfiles k) := by
  refine leftBiased_whileEnabled (fun _ _ => rfl) (fun _ _ => rfl) fun target source => ?_
  rw [← firstWith_append]
  exact firstWith_appendNew sameWebsite_eq _ _ _

theorem leftBiased_own_profiles (k : Text) :
    LeftBiased Runtime.mergeSubscriptionProxy
      (whileEnabled fun proxy => firstWith SubscriptionProxyProfile.siteKey proxy.profiles k) := by
  refine leftBiased_whileEnabled (fun _ _ => rfl) (fun _ _ => rfl) fun target source => ?_
  rw [← firstWith_append]
  exact firstWith_appendNew sameSite_eq _ _ _

/-! ## One answer -/

/-- An answer takes part if it has a valid profile of either kind. -/
def takesPart (answer : MachineProfileConfig × SubscriptionProxyConfig) : Bool :=
  !((panelProfiles answer.1 answer.2).isEmpty && (panelWebsites answer.1 answer.2).isEmpty)

/-- The proxy that one answer resolves to. -/
def panelProxy (answer : MachineProfileConfig × SubscriptionProxyConfig) : SubscriptionProxyConfig :=
  Machine.mergeSubscriptionProxy {} answer.1 answer.2

section

variable (answer : MachineProfileConfig × SubscriptionProxyConfig)

theorem panelProxy_cases :
    (takesPart answer = false ∧ panelProfiles answer.1 answer.2 = [] ∧ panelWebsites answer.1 answer.2 = [] ∧
      panelProxy answer = {}) ∨
    (takesPart answer = true ∧ (panelProxy answer).enabled = true ∧
      (panelProxy answer).profiles = appendNew sameSite [] (panelProfiles answer.1 answer.2) ∧
      (panelProxy answer).websiteProfiles = appendNew sameWebsite [] (panelWebsites answer.1 answer.2)) := by
  rw [takesPart, panelProxy, Machine.mergeSubscriptionProxy]
  cases hempty : (panelProfiles answer.1 answer.2).isEmpty && (panelWebsites answer.1 answer.2).isEmpty with
  | true =>
    obtain ⟨hprofiles, hwebsites⟩ := Bool.and_eq_true_iff.1 hempty
    exact .inl ⟨rfl, List.isEmpty_iff.1 hprofiles, List.isEmpty_iff.1 hwebsites, rfl⟩
  | false => exact .inr ⟨rfl, rfl, rfl, rfl⟩

theorem panelProxy_profiles (k : Text) :
    whileEnabled (fun proxy => firstWith SubscriptionProxyProfile.siteKey proxy.profiles k) (panelProxy answer) =
      firstWith SubscriptionProxyProfile.siteKey (panelProfiles answer.1 answer.2) k := by
  rcases panelProxy_cases answer with ⟨-, hprofiles, -, hproxy⟩ | ⟨-, hon, hprofiles, -⟩
  · rw [hprofiles, hproxy]
    rfl
  · rw [whileEnabled_of_enabled hon, hprofiles, firstWith_appendNew sameSite_eq, List.nil_append]

theorem panelProxy_websites (k : Text × Text) :
    whileEnabled (fun proxy => firstWith WebsiteProxyProfile.siteKey proxy.websiteProfiles k) (panelProxy answer) =
      firstWith WebsiteProxyProfile.siteKey (panelWebsites answer.1 answer.2) k := by
  rcases panelProxy_cases answer with ⟨-, -, hwebsites, hproxy⟩ | ⟨-, hon, -, hwebsites⟩
  · rw [hwebsites, hproxy]
    rfl
  · rw [whileEnabled_of_enabled hon, hwebsites, firstWith_appendNew sameWebsite_eq, List.nil_append]

end

/-! ## All answers -/

section

variable {continueOnError : Bool} {profile : MachineProfileConfig} {state state' : ResolveState}
  {summary : MachineResolveSummary} {inputs : List MachineProfileInput} {own : SubscriptionProxyConfig}

theorem agent_fail {error : Text} (h : state.fail continueOnError profile error = .ok state') :
    state'.summary.agent = state.summary.agent := by
  rw [ResolveState.fail] at h
  split at h
  · cases h
  · cases h
    rfl

theorem agent_addNode {node : NodeConfig} (h : state.addNode continueOnError profile node = .ok state') :
    state'.summary.agent = state.summary.agent := by
  simp only [ResolveState.addNode] at h
  split at h
  · exact agent_fail h
  · cases h
    rfl

theorem answer_of_error {input : MachineProfileInput} {error : Text} (h : input.result = .error error) :
    input.answer = none := by
  rw [MachineProfileInput.answer, h]

theorem answer_of_ok {input : MachineProfileInput} {response : MachineNodesResponse} (h : input.result = .ok response) :
    input.answer = (response.agent.bind (·.subscriptionProxy)).map fun proxy => (input.profile, proxy) := by
  rw [MachineProfileInput.answer, h]

/-- **Step lemma**: one input merges its answer, if it has one. -/
theorem agent_resolveInput {input : MachineProfileInput} (h : state.resolveInput continueOnError input = .ok state') :
    state'.summary.agent.subscriptionProxy =
      (input.answer.toList.map panelProxy).foldl mergeRuntimeProxy state.summary.agent.subscriptionProxy := by
  rw [ResolveState.resolveInput] at h
  cases hresult : input.result with
  | error error =>
    rw [hresult] at h
    rw [agent_fail h, answer_of_error hresult]
    rfl
  | ok response =>
    rw [hresult] at h
    have hagent := foldlM_invariant (fun st : ResolveState => st.summary.agent = (state.addAnswer
      (resolveMachineProfileResult input.profile response)).summary.agent)
      (fun st hst node _ st' hst' => (agent_addNode hst').trans hst) rfl h
    rw [hagent, answer_of_ok hresult, ResolveState.addAnswer, mergeRuntimeAgent, resolveMachineProfileResult]
    cases response.agent.bind (·.subscriptionProxy) with
    | none => rfl
    | some proxy => rfl

/-- **Run lemma**: the proxy of the summary is the merge of all answers. -/
theorem agent_resolveInputs (h : inputs.foldlM (ResolveState.resolveInput continueOnError) state = .ok state') :
    state'.summary.agent.subscriptionProxy =
      ((answers inputs).map panelProxy).foldl mergeRuntimeProxy state.summary.agent.subscriptionProxy := by
  induction inputs generalizing state with
  | nil =>
    cases h
    rfl
  | cons input inputs ih =>
    rw [List.foldlM_cons, bind_eq_ok] at h
    obtain ⟨middle, hmiddle, h⟩ := h
    have hcons : answers (input :: inputs) = input.answer.toList ++ answers inputs := by
      rw [answers, List.filterMap_cons]
      cases input.answer <;> rfl
    rw [ih h, agent_resolveInput hmiddle, hcons, List.map_append, List.foldl_append]

theorem summary_proxy (h : resolveMachineProfiles inputs continueOnError = .ok summary) :
    summary.agent.subscriptionProxy = ((answers inputs).map panelProxy).foldl mergeRuntimeProxy {} := by
  rw [resolveMachineProfiles, bind_eq_ok] at h
  obtain ⟨state, hstate, hfinish⟩ := h
  obtain ⟨proxyOnly, rfl⟩ := ResolveState.finish_eq_ok hfinish
  exact agent_resolveInputs hstate

/-- The panels' answers, seen through a merge that is left-biased. -/
theorem view_summary {γ : Type} {view : SubscriptionProxyConfig → Option γ}
    (h : resolveMachineProfiles inputs continueOnError = .ok summary)
    (hbiased : LeftBiased mergeRuntimeProxy (whileEnabled view)) :
    whileEnabled view summary.agent.subscriptionProxy =
      (answers inputs).findSome? fun answer => whileEnabled view (panelProxy answer) := by
  rw [summary_proxy h, hbiased.view_foldl_of_none rfl, List.findSome?_map]
  rfl

theorem summary_profiles (h : resolveMachineProfiles inputs continueOnError = .ok summary) (k : Text) :
    whileEnabled (fun proxy => firstWith SubscriptionProxyProfile.siteKey proxy.profiles k)
        summary.agent.subscriptionProxy =
      firstWith SubscriptionProxyProfile.siteKey
        ((answers inputs).flatMap fun answer => panelProfiles answer.1 answer.2) k := by
  rw [view_summary h (leftBiased_profiles k), firstWith_flatMap]
  simp only [panelProxy_profiles]

theorem summary_websites (h : resolveMachineProfiles inputs continueOnError = .ok summary) (k : Text × Text) :
    whileEnabled (fun proxy => firstWith WebsiteProxyProfile.siteKey proxy.websiteProfiles k)
        summary.agent.subscriptionProxy =
      firstWith WebsiteProxyProfile.siteKey
        ((answers inputs).flatMap fun answer => panelWebsites answer.1 answer.2) k := by
  rw [view_summary h (leftBiased_websites k), firstWith_flatMap]
  simp only [panelProxy_websites]

/-! ## The agent's own proxy -/

theorem merge_of_source_off {source : SubscriptionProxyConfig} (h : source.enabled = false) :
    Runtime.mergeSubscriptionProxy own source = own := by
  rw [Runtime.mergeSubscriptionProxy, h]
  rfl

theorem merge_of_own_off {source : SubscriptionProxyConfig} (hown : own.enabled = false) (h : source.enabled = true) :
    Runtime.mergeSubscriptionProxy own source = source := by
  rw [Runtime.mergeSubscriptionProxy, h, hown]
  rfl

theorem firstWith_ite {α κ : Type} [DecidableEq κ] {key : α → κ} (on : Bool) (xs : List α) (k : κ) :
    firstWith key (if on then xs else []) k = if on then firstWith key xs k else none := by
  cases on <;> rfl

/-- Subscription profiles are kept in every case. -/
theorem kept_profiles (h : resolveMachineProfiles inputs continueOnError = .ok summary) :
    Kept SubscriptionProxyProfile.siteKey (contributedProfiles own inputs)
      (Runtime.mergeSubscriptionProxy own summary.agent.subscriptionProxy).profiles := by
  apply kept_of_firstWith
  intro k profile hprofile
  have hview := leftBiased_own_profiles k own summary.agent.subscriptionProxy
  rw [contributedProfiles, firstWith_append, firstWith_ite, ← summary_profiles h] at hprofile
  exact view_of_whileEnabled (hview.trans hprofile)

/-- Websites are kept by an agent whose own proxy is off. -/
theorem kept_websites_of_not_enabled (h : resolveMachineProfiles inputs continueOnError = .ok summary)
    (hown : own.enabled = false) :
    Kept WebsiteProxyProfile.siteKey (contributedWebsites own inputs)
      (Runtime.mergeSubscriptionProxy own summary.agent.subscriptionProxy).websiteProfiles := by
  apply kept_of_firstWith
  intro k website hwebsite
  rw [contributedWebsites, hown, if_neg Bool.false_ne_true, List.nil_append, ← summary_websites h] at hwebsite
  cases hon : summary.agent.subscriptionProxy.enabled with
  | false =>
    rw [whileEnabled_of_not_enabled hon] at hwebsite
    cases hwebsite
  | true =>
    rw [merge_of_own_off hown hon]
    exact view_of_whileEnabled hwebsite

/-- An enabled proxy of the agent is left with its own websites. -/
theorem websiteProfiles_of_enabled {source : SubscriptionProxyConfig} (hown : own.enabled = true) :
    (Runtime.mergeSubscriptionProxy own source).websiteProfiles = own.websiteProfiles := by
  rw [Runtime.mergeSubscriptionProxy]
  split
  · rfl
  · rw [hown]
    rfl

/-- Each website that a panel offers has the site and the prefix of one of the agent's own. -/
def WebsitesOwned (own : SubscriptionProxyConfig) (inputs : List MachineProfileInput) : Prop :=
  ∀ answer ∈ answers inputs, ∀ website ∈ panelWebsites answer.1 answer.2,
    ∃ mine ∈ own.websiteProfiles, mine.siteKey = website.siteKey

/-- An enabled proxy of the agent keeps what the panels offer if it has it already. -/
theorem kept_websites_of_enabled {source : SubscriptionProxyConfig} (hown : own.enabled = true) :
    Kept WebsiteProxyProfile.siteKey (contributedWebsites own inputs)
        (Runtime.mergeSubscriptionProxy own source).websiteProfiles ↔ WebsitesOwned own inputs := by
  rw [websiteProfiles_of_enabled hown, contributedWebsites, if_pos hown, kept_append_self]
  constructor
  · intro h answer hanswer website hwebsite
    exact h website (List.mem_flatMap.2 ⟨answer, hanswer, hwebsite⟩)
  · intro h website hwebsite
    obtain ⟨answer, hanswer, hmem⟩ := List.mem_flatMap.1 hwebsite
    exact h answer hanswer website hmem

end

/-- **No profile lost**: the agent serves all that it and the panels list, the earlier of two with one key, exactly when
its own proxy is off or has every website of the panels already. -/
theorem no_profile_lost_iff {inputs : List MachineProfileInput} {continueOnError : Bool}
    {summary : MachineResolveSummary} (h : resolveMachineProfiles inputs continueOnError = .ok summary)
    (resolved : Config.ResolvedConfig) :
    NoProfileLost resolved.agent.subscriptionProxy inputs
        (applyMachineSummary resolved summary).agent.subscriptionProxy ↔
      resolved.agent.subscriptionProxy.enabled = false ∨ WebsitesOwned resolved.agent.subscriptionProxy inputs := by
  constructor
  · intro hlost
    cases hown : resolved.agent.subscriptionProxy.enabled with
    | false => exact .inl rfl
    | true => exact .inr ((kept_websites_of_enabled hown).1 hlost.websites)
  · intro hcondition
    refine ⟨kept_profiles h, ?_⟩
    cases hown : resolved.agent.subscriptionProxy.enabled with
    | false => exact kept_websites_of_not_enabled h hown
    | true =>
      rw [hown] at hcondition
      exact (kept_websites_of_enabled hown).2 (hcondition.resolve_left (by simp))

/-! ## An agent with a proxy of its own -/

/-- It serves one site. -/
def agentWithProxy : Config.ResolvedConfig :=
  { agent.subscriptionProxy :=
    { enabled := true
      profiles := [{ siteId := "mine", upstreamBaseUrl := "https://mine.example", subscribePath := "s" }] } }

def shopWebsite : WebsiteProxyProfile where
  siteId := "shop"
  upstreamBaseUrl := "https://shop.example"
  pathPrefix := "/"

/-- The panel names a node and a website. -/
def websiteInput : MachineProfileInput where
  profile := { name := "panel", url := "https://panel.example", token := "token", machineId := 1 }
  result := .ok
    { nodes := [{ id := 1 }]
      agent := some { subscriptionProxy := some { enabled := true, websiteProfiles := [shopWebsite] } } }

theorem websiteInput_resolves : ∃ summary, resolveMachineProfiles [websiteInput] true = .ok summary := ⟨_, rfl⟩

theorem websiteInput_answers :
    answers [websiteInput] = [(websiteInput.profile, { enabled := true, websiteProfiles := [shopWebsite] })] := rfl

theorem websiteInput_websites :
    panelWebsites websiteInput.profile { enabled := true, websiteProfiles := [shopWebsite] } = [shopWebsite] := by
  decide

/-- The website is nowhere in what the agent serves. -/
theorem panel_website_lost : ∃ summary, resolveMachineProfiles [websiteInput] true = .ok summary ∧
    ¬NoProfileLost agentWithProxy.agent.subscriptionProxy [websiteInput]
      (applyMachineSummary agentWithProxy summary).agent.subscriptionProxy := by
  obtain ⟨summary, hsummary⟩ := websiteInput_resolves
  refine ⟨summary, hsummary, fun h => ?_⟩
  have howned : WebsitesOwned agentWithProxy.agent.subscriptionProxy [websiteInput] :=
    (kept_websites_of_enabled rfl).1 h.websites
  rw [WebsitesOwned, websiteInput_answers] at howned
  obtain ⟨mine, hmine, -⟩ := howned _ (List.mem_singleton_self _) shopWebsite
    (by rw [websiteInput_websites]; exact List.mem_singleton_self _)
  exact List.not_mem_nil hmine

/-- This agent has the website already, at an upstream of its own. -/
def agentWithWebsite : Config.ResolvedConfig :=
  { agent.subscriptionProxy :=
    { agentWithProxy.agent.subscriptionProxy with
      websiteProfiles := [{ shopWebsite with upstreamBaseUrl := "https://mine.example" }] } }

def theirSite : SubscriptionProxyProfile where
  siteId := "theirs"
  upstreamBaseUrl := "https://theirs.example"
  subscribePath := "s"

/-- The other panel lists a subscription site. -/
def siteInput : MachineProfileInput where
  profile := { name := "other", url := "https://other.example", token := "token", machineId := 2 }
  result := .ok
    { nodes := [{ id := 2 }]
      agent := some { subscriptionProxy := some { enabled := true, profiles := [theirSite] } } }

/-- The agent serves the sites of both panels, and its own website for the one they share. -/
theorem no_profile_lost_of_panels : ∃ summary, resolveMachineProfiles [websiteInput, siteInput] true = .ok summary ∧
    NoProfileLost agentWithWebsite.agent.subscriptionProxy [websiteInput, siteInput]
      (applyMachineSummary agentWithWebsite summary).agent.subscriptionProxy := by
  obtain ⟨summary, hsummary⟩ : ∃ summary, resolveMachineProfiles [websiteInput, siteInput] true = .ok summary := ⟨_, rfl⟩
  have howned : WebsitesOwned agentWithWebsite.agent.subscriptionProxy [websiteInput, siteInput] := by
    unfold WebsitesOwned
    decide +kernel
  exact ⟨summary, hsummary, (no_profile_lost_iff hsummary agentWithWebsite).2 (.inr howned)⟩

end KeliNode
