import KeliNode.Machine.Merge

/-!
# Where the merged fields come from

The merges fill each blank field by itself.  So a field of the merged proxy is what the first contributor gives that
gives any (`filled_merged`), and two fields may come from different contributors: a certificate id from a panel whose
certificate is pending and the certificate from another (`material_of_two_panels`).  The fields of a group come from
one contributor when the first that gives any of them gives all that are given (`merged_fields`).
-/

namespace KeliNode

open Lib

/-! ## Fields -/

/-- The fields that `fill_if_empty` merges in all three merges; `site_id`, `upstream_base_url` and `subscribe_path`, which
no panel's proxy carries along (`machine.rs:414`), are left out. -/
inductive ProxyField where
  | httpsListen | httpListen | certFile | keyFile | certificateDomain | challengeDir
  | status | certificateId | validationPath | validationContent | certificatePem | caBundlePem | expiresAt
  deriving DecidableEq

namespace ProxyField

def get (proxy : SubscriptionProxyConfig) : ProxyField → Text
  | httpsListen => proxy.httpsListen
  | httpListen => proxy.httpListen
  | certFile => proxy.certFile
  | keyFile => proxy.keyFile
  | certificateDomain => proxy.certificateDomain
  | challengeDir => proxy.challengeDir
  | status => proxy.zerossl.status
  | certificateId => proxy.zerossl.certificateId
  | validationPath => proxy.zerossl.validationPath
  | validationContent => proxy.zerossl.validationContent
  | certificatePem => proxy.zerossl.certificatePem
  | caBundlePem => proxy.zerossl.caBundlePem
  | expiresAt => proxy.zerossl.expiresAt

/-- The certificate material of ZeroSSL. -/
def zeroSsl : List ProxyField := [certificateId, validationPath, validationContent, certificatePem, caBundlePem]

/-- The files of a certificate and its key. -/
def files : List ProxyField := [certFile, keyFile]

end ProxyField

/-- A text that is not blank, trimmed. -/
def filled (text : Text) : Option Text := if trim text = [] then none else some (trim text)

theorem filled_trim (text : Text) : filled (trim text) = filled text := by
  rw [filled, filled, trim_trim]

theorem filled_fillIfEmpty (target value : Text) : filled (fillIfEmpty target value) = (filled target).or (filled value) := by
  rw [fillIfEmpty]
  by_cases htarget : trim target = []
  · have hnone : filled target = none := if_pos htarget
    rw [if_pos htarget, filled_trim, hnone, Option.none_or]
  · have hsome : filled target = some (trim target) := if_neg htarget
    rw [if_neg htarget, hsome, Option.some_or]

/-- What a proxy gives for a field. -/
def given (field : ProxyField) (proxy : SubscriptionProxyConfig) : Option Text := filled (field.get proxy)

theorem leftBiased_given (field : ProxyField) : LeftBiased fillSubscriptionProxy (given field) := by
  intro target source
  cases field <;> exact filled_fillIfEmpty _ _

theorem leftBiased_summary (field : ProxyField) : LeftBiased mergeRuntimeProxy (whileEnabled (given field)) := by
  refine leftBiased_whileEnabled (fun _ _ => rfl) (fun _ _ => rfl) fun target source => ?_
  rw [← leftBiased_given]
  cases field <;> rfl

theorem leftBiased_own (field : ProxyField) : LeftBiased Runtime.mergeSubscriptionProxy (whileEnabled (given field)) := by
  refine leftBiased_whileEnabled (fun _ _ => rfl) (fun _ _ => rfl) fun target source => ?_
  rw [← leftBiased_given]
  cases field <;> rfl

/-! ## Contributors -/

/-- The enabled proxies, the agent's own first. -/
def enabledProxies (own : SubscriptionProxyConfig) (inputs : List MachineProfileInput) : List SubscriptionProxyConfig :=
  (if own.enabled then [own] else []) ++ ((answers inputs).filter takesPart).map Prod.snd

/-- Without any the agent is left with its own. -/
def contributors (own : SubscriptionProxyConfig) (inputs : List MachineProfileInput) : List SubscriptionProxyConfig :=
  if enabledProxies own inputs = [] then [own] else enabledProxies own inputs

/-- What is given for the fields in the merged proxy is what one contributor gives. -/
def OneSource (fields : List ProxyField) (contributors : List SubscriptionProxyConfig)
    (merged : SubscriptionProxyConfig) : Prop :=
  ∃ source ∈ contributors, ∀ field ∈ fields, ∀ value, given field merged = some value → given field source = some value

def givesAny (fields : List ProxyField) (contributor : SubscriptionProxyConfig) : Bool :=
  fields.any fun field => (given field contributor).isSome

/-- The first contributor that gives any of the fields gives every one that is given. -/
def FirstComplete (fields : List ProxyField) (contributors : List SubscriptionProxyConfig) : Prop :=
  ∀ first, contributors.find? (givesAny fields) = some first → ∀ field ∈ fields,
    (∃ other ∈ contributors, (given field other).isSome = true) → (given field first).isSome = true

/-! ## Every field -/

section

variable {inputs : List MachineProfileInput} {continueOnError : Bool} {summary : MachineResolveSummary}
  {own : SubscriptionProxyConfig}

theorem given_panelProxy (field : ProxyField) (answer : MachineProfileConfig × SubscriptionProxyConfig) :
    whileEnabled (given field) (panelProxy answer) = if takesPart answer then given field answer.2 else none := by
  rw [takesPart, panelProxy, Machine.mergeSubscriptionProxy]
  cases hempty : (panelProfiles answer.1 answer.2).isEmpty && (panelWebsites answer.1 answer.2).isEmpty with
  | true => rfl
  | false => cases field <;> first | exact filled_trim _ | rfl

/-- **Run lemma**: what the merged proxy shows while it is enabled is what the first enabled proxy shows that shows
anything. -/
theorem view_enabledProxies {γ : Type} {view : SubscriptionProxyConfig → Option γ}
    (h : resolveMachineProfiles inputs continueOnError = .ok summary)
    (hsummary : LeftBiased mergeRuntimeProxy (whileEnabled view))
    (hown : LeftBiased Runtime.mergeSubscriptionProxy (whileEnabled view))
    (hpanel : ∀ answer, whileEnabled view (panelProxy answer) = if takesPart answer then view answer.2 else none) :
    whileEnabled view (Runtime.mergeSubscriptionProxy own summary.agent.subscriptionProxy) =
      (enabledProxies own inputs).findSome? view := by
  rw [hown, view_summary h hsummary, enabledProxies, List.findSome?_append, List.findSome?_map, Function.comp_def,
    ← findSome?_filter]
  simp only [hpanel]
  congr 1
  cases hon : own.enabled with
  | false => exact whileEnabled_of_not_enabled hon
  | true => rw [whileEnabled_of_enabled hon, if_pos rfl, List.findSome?_singleton]

/-- The merged proxy is on when a contributor's is. -/
theorem enabled_merged (h : resolveMachineProfiles inputs continueOnError = .ok summary) :
    whileEnabled (fun _ => some ()) (Runtime.mergeSubscriptionProxy own summary.agent.subscriptionProxy) =
      (enabledProxies own inputs).findSome? fun _ => some () := by
  apply view_enabledProxies h
  · exact leftBiased_whileEnabled (fun _ _ => rfl) (fun _ _ => rfl) fun _ _ => rfl
  · exact leftBiased_whileEnabled (fun _ _ => rfl) (fun _ _ => rfl) fun _ _ => rfl
  · intro answer
    rcases panelProxy_cases answer with ⟨hpart, -, -, hproxy⟩ | ⟨hpart, hon, -⟩
    · rw [hpart, hproxy]
      rfl
    · rw [whileEnabled_of_enabled hon, hpart, if_pos rfl]

/-- **First come**: a merged field is what the first contributor gives that gives any. -/
theorem given_merged (h : resolveMachineProfiles inputs continueOnError = .ok summary) (field : ProxyField) :
    given field (Runtime.mergeSubscriptionProxy own summary.agent.subscriptionProxy) =
      (contributors own inputs).findSome? (given field) := by
  have hon := @enabled_merged _ _ _ own h
  rw [contributors]
  by_cases hnone : enabledProxies own inputs = []
  · rw [hnone] at hon
    have hown : own.enabled = false := by
      cases howned : own.enabled with
      | false => rfl
      | true =>
        rw [enabledProxies, howned] at hnone
        cases hnone
    have hsource : summary.agent.subscriptionProxy.enabled = false := by
      cases hsource : summary.agent.subscriptionProxy.enabled with
      | false => rfl
      | true =>
        rw [merge_of_own_off hown hsource, whileEnabled_of_enabled hsource] at hon
        cases hon
    rw [if_pos hnone, List.findSome?_singleton, merge_of_source_off hsource]
  · obtain ⟨first, rest, hcons⟩ := List.exists_cons_of_ne_nil hnone
    have hmerged : (Runtime.mergeSubscriptionProxy own summary.agent.subscriptionProxy).enabled = true := by
      cases hoff : (Runtime.mergeSubscriptionProxy own summary.agent.subscriptionProxy).enabled with
      | false =>
        rw [whileEnabled_of_not_enabled hoff, hcons] at hon
        cases hon
      | true => rfl
    rw [if_neg hnone]
    exact (whileEnabled_of_enabled hmerged).symm.trans
      (view_enabledProxies h (leftBiased_summary field) (leftBiased_own field) (given_panelProxy field))

theorem contributors_ne_nil : contributors own inputs ≠ [] := by
  rw [contributors]
  split
  · exact List.cons_ne_nil _ _
  · assumption

end

/-- The first contributor to give any field of a group is the source of the group, if it gives all that are given. -/
theorem oneSource_of_firstComplete {fields : List ProxyField} {contributors : List SubscriptionProxyConfig}
    {merged : SubscriptionProxyConfig} (hne : contributors ≠ [])
    (hmerged : ∀ field, given field merged = contributors.findSome? (given field))
    (h : FirstComplete fields contributors) : OneSource fields contributors merged := by
  have hgives : ∀ field ∈ fields, ∀ contributor, (given field contributor).isSome = true →
      givesAny fields contributor = true :=
    fun field hfield _ hsome => List.any_eq_true.2 ⟨field, hfield, hsome⟩
  cases hfirst : contributors.find? (givesAny fields) with
  | none =>
    obtain ⟨source, rest, rfl⟩ := List.exists_cons_of_ne_nil hne
    refine ⟨source, List.mem_cons_self, fun field hfield value hvalue => ?_⟩
    rw [hmerged] at hvalue
    obtain ⟨giver, hgiver, hsome⟩ := List.exists_of_findSome?_eq_some hvalue
    have hany := hgives field hfield giver (by rw [hsome]; rfl)
    exact absurd hany (List.find?_eq_none.1 hfirst giver hgiver)
  | some first =>
    refine ⟨first, List.mem_of_find?_eq_some hfirst, fun field hfield value hvalue => ?_⟩
    rw [hmerged] at hvalue
    obtain ⟨giver, hgiver, hsome⟩ := List.exists_of_findSome?_eq_some hvalue
    obtain ⟨own, hown⟩ := Option.isSome_iff_exists.1 (h first hfirst field hfield ⟨giver, hgiver, by rw [hsome]; rfl⟩)
    have hshown := findSome?_of_find? hfirst (hgives field hfield) hown
    rw [hown, ← hshown, hvalue]

/-- **Material**: a merged field is what the first contributor gives that gives any, so the fields of a group come from
one contributor as soon as the first that gives any of them gives all that are given. -/
theorem merged_fields {inputs : List MachineProfileInput} {continueOnError : Bool} {summary : MachineResolveSummary}
    (h : resolveMachineProfiles inputs continueOnError = .ok summary) (resolved : Config.ResolvedConfig) :
    (∀ field, given field (applyMachineSummary resolved summary).agent.subscriptionProxy =
        (contributors resolved.agent.subscriptionProxy inputs).findSome? (given field)) ∧
      ∀ fields, FirstComplete fields (contributors resolved.agent.subscriptionProxy inputs) →
        OneSource fields (contributors resolved.agent.subscriptionProxy inputs)
          (applyMachineSummary resolved summary).agent.subscriptionProxy :=
  ⟨given_merged h, fun _ => oneSource_of_firstComplete contributors_ne_nil (given_merged h)⟩

/-! ## Two panels -/

/-- The certificate of this panel is pending. -/
def pendingProxy : SubscriptionProxyConfig where
  enabled := true
  certFile := "/etc/a.crt"
  zerossl := { status := "pending", certificateId := "order-a", validationPath := "/a.txt", validationContent := "a" }
  profiles := [{ siteId := "a", upstreamBaseUrl := "https://a.example", subscribePath := "s" }]

/-- That of this one is issued. -/
def issuedProxy : SubscriptionProxyConfig where
  enabled := true
  keyFile := "/etc/b.key"
  zerossl := { status := "issued", certificatePem := "pem-b" }
  profiles := [{ siteId := "b", upstreamBaseUrl := "https://b.example", subscribePath := "s" }]

def panelInput (name : Text) (machineId : Nat) (proxy : SubscriptionProxyConfig) : MachineProfileInput where
  profile := { name, url := "https://panel.example", token := "token", machineId }
  result := .ok { nodes := [{ id := 1 }], agent := some { subscriptionProxy := some proxy } }

def twoPanels : List MachineProfileInput := [panelInput "a" 1 pendingProxy, panelInput "b" 2 issuedProxy]

theorem twoPanels_contributors : contributors {} twoPanels = [pendingProxy, issuedProxy] := by
  decide +kernel

theorem twoPanels_resolve : ∃ summary, resolveMachineProfiles twoPanels true = .ok summary := ⟨_, rfl⟩

/-- The order of one panel stands beside the certificate of the other, and so do the files. -/
theorem material_of_two_panels : ∃ summary, resolveMachineProfiles twoPanels true = .ok summary ∧
    ¬OneSource ProxyField.zeroSsl (contributors {} twoPanels) (applyMachineSummary {} summary).agent.subscriptionProxy ∧
    ¬OneSource ProxyField.files (contributors {} twoPanels) (applyMachineSummary {} summary).agent.subscriptionProxy := by
  obtain ⟨summary, hsummary⟩ := twoPanels_resolve
  have hmerged : ∀ field, given field (applyMachineSummary {} summary).agent.subscriptionProxy =
      [pendingProxy, issuedProxy].findSome? (given field) := by
    intro field
    rw [← twoPanels_contributors]
    exact given_merged hsummary field
  refine ⟨summary, hsummary, ?_, ?_⟩
  · rintro ⟨source, hsource, hgiven⟩
    have hid := hgiven .certificateId (by decide) "order-a" (by rw [hmerged]; decide)
    have hpem := hgiven .certificatePem (by decide) "pem-b" (by rw [hmerged]; decide)
    rw [twoPanels_contributors, List.mem_pair] at hsource
    rcases hsource with rfl | rfl
    · exact absurd hpem (by decide)
    · exact absurd hid (by decide)
  · rintro ⟨source, hsource, hgiven⟩
    have hcert := hgiven .certFile (by decide) "/etc/a.crt" (by rw [hmerged]; decide)
    have hkey := hgiven .keyFile (by decide) "/etc/b.key" (by rw [hmerged]; decide)
    rw [twoPanels_contributors, List.mem_pair] at hsource
    rcases hsource with rfl | rfl
    · exact absurd hkey (by decide)
    · exact absurd hcert (by decide)

/-- This panel has its certificate and all that belongs to it. -/
def renewedProxy : SubscriptionProxyConfig :=
  { pendingProxy with
    zerossl := { pendingProxy.zerossl with status := "issued", certificatePem := "pem-a", caBundlePem := "ca-a" } }

def renewedPanels : List MachineProfileInput := [panelInput "a" 1 renewedProxy, panelInput "b" 2 issuedProxy]

theorem renewedPanels_contributors : contributors {} renewedPanels = [renewedProxy, issuedProxy] := by
  decide +kernel

theorem renewed_firstComplete : FirstComplete ProxyField.zeroSsl [renewedProxy, issuedProxy] := by
  have hfind : [renewedProxy, issuedProxy].find? (givesAny ProxyField.zeroSsl) = some renewedProxy := by decide +kernel
  have hall : ∀ field ∈ ProxyField.zeroSsl, (given field renewedProxy).isSome = true := by decide +kernel
  intro first hfirst field hfield _
  rw [hfind, Option.some.injEq] at hfirst
  rw [← hfirst]
  exact hall field hfield

/-- The second panel's certificate is not taken over. -/
theorem merged_fields_of_panels : ∃ summary, resolveMachineProfiles renewedPanels true = .ok summary ∧
    OneSource ProxyField.zeroSsl [renewedProxy, issuedProxy] (applyMachineSummary {} summary).agent.subscriptionProxy := by
  obtain ⟨summary, hsummary⟩ : ∃ summary, resolveMachineProfiles renewedPanels true = .ok summary := ⟨_, rfl⟩
  refine ⟨summary, hsummary, ?_⟩
  have hmerged := (merged_fields hsummary {}).2 ProxyField.zeroSsl
  rw [renewedPanels_contributors] at hmerged
  exact hmerged renewed_firstComplete

end KeliNode
