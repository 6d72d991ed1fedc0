import KeliNode.Runtime.History
import Mathlib.Data.List.Induction

/-!
# Nodes that a build does not skip

The listener filter of a build skips a tag only where one of its inbounds conflicts with an inbound before it
(`skipped_conflicts`).  So the nodes of some tags all stay in the plan, through every rebuild, if none of them
conflicts with a node that is listed before it (`build_keeps`).
-/

namespace KeliNode

open Lib

/-! ## The condition -/

/-- The inbounds of two nodes would listen in the same place. -/
def nodesConflict (a b : NodeInfo) : Bool :=
  match buildInboundPlanWithUsers a [], buildInboundPlanWithUsers b [] with
  | .ok first, .ok second =>
    blocked runtimeListenerSpecs runtimeListenerSpecsConflict (runtimeListenerSpecs first) second
  | _, _ => false

/-- No node of the tags conflicts with one listed before it. -/
def ListenersApart (tags : List Text) (nodes : List NodeInfo) : Prop :=
  nodes.Pairwise fun a b => b.tag ∈ tags → nodesConflict a b = false

instance (tags : List Text) (nodes : List NodeInfo) : Decidable (ListenersApart tags nodes) :=
  inferInstanceAs (Decidable (List.Pairwise _ _))

/-! ## The scan -/

section

variable {resolved : ResolvedConfig} {nodeInfos : List NodeInfo} {nodeFailures : List NodeFailure}
  {inbounds : List InboundPlan}

/-- What a scan has noted and skipped, in terms of the inbounds it went through. -/
structure ScannedFrom (inbounds : List InboundPlan) (scan : ListenerScan) : Prop where
  seen : ∀ spec ∈ scan.seen, ∃ inbound ∈ inbounds, spec ∈ runtimeListenerSpecs inbound
  skipped : ∀ tag ∈ scan.skippedTags, ∃ before inbound after, inbounds = before ++ inbound :: after ∧
    inbound.tag = tag ∧ ∃ earlier ∈ before, SpecsConflict earlier inbound

theorem ScannedFrom.step {scan : ListenerScan} (h : ScannedFrom inbounds scan) (inbound : InboundPlan) :
    ScannedFrom (inbounds ++ [inbound]) (scanOne resolved nodeInfos scan inbound) := by
  have hearlier : ∀ spec ∈ scan.seen, ∃ other ∈ inbounds ++ [inbound], spec ∈ runtimeListenerSpecs other := by
    intro spec hspec
    obtain ⟨other, hother, hmem⟩ := h.seen spec hspec
    exact ⟨other, List.mem_append_left _ hother, hmem⟩
  have hskipped : ∀ tag ∈ scan.skippedTags, ∃ before found after, inbounds ++ [inbound] = before ++ found :: after ∧
      found.tag = tag ∧ ∃ earlier ∈ before, SpecsConflict earlier found := by
    intro tag htag
    obtain ⟨before, found, after, heq, hfound, hconflict⟩ := h.skipped tag htag
    exact ⟨before, found, after ++ [inbound], by rw [heq, List.append_assoc, List.cons_append], hfound, hconflict⟩
  cases hblocked : blocked runtimeListenerSpecs runtimeListenerSpecsConflict scan.seen inbound with
  | false =>
    rw [scanOne_free hblocked]
    refine ⟨fun spec hspec => ?_, hskipped⟩
    rcases List.mem_append.1 hspec with hspec | hspec
    · exact hearlier spec hspec
    · exact ⟨inbound, List.mem_append_right _ List.mem_cons_self, hspec⟩
  | true =>
    obtain ⟨added, hscan, -⟩ := scanOne_blocked resolved nodeInfos hblocked
    rw [hscan]
    refine ⟨fun spec hspec => ?_, fun tag htag => ?_⟩
    · rcases List.mem_append.1 hspec with hspec | hspec
      · exact hearlier spec hspec
      · exact ⟨inbound, List.mem_append_right _ List.mem_cons_self, (List.takeWhile_sublist _).subset hspec⟩
    · rcases List.mem_append.1 htag with htag | htag
      · exact hskipped tag htag
      · obtain rfl := List.mem_singleton.1 htag
        obtain ⟨spec, hspec, old, hold, hconflict⟩ := (blocked_iff ..).1 hblocked
        obtain ⟨earlier, hmem, hof⟩ := h.seen old hold
        exact ⟨inbounds, inbound, [], rfl, rfl, earlier, hmem, old, hof, spec, hspec, hconflict⟩

theorem scannedFrom_foldl (inbounds : List InboundPlan) :
    ScannedFrom inbounds (scanOf resolved nodeInfos nodeFailures inbounds) := by
  induction inbounds using List.reverseRecOn with
  | nil => exact ⟨fun _ h => (by cases h), fun _ h => (by cases h)⟩
  | append_singleton inbounds inbound ih =>
    rw [scanOf, List.foldl_append]
    exact ih.step inbound

/-- **A skipped tag** is that of an inbound that conflicts with an earlier one. -/
theorem skipped_conflicts {tag : Text} (h : tag ∈ (scanOf resolved nodeInfos nodeFailures inbounds).skippedTags) :
    ∃ before inbound after, inbounds = before ++ inbound :: after ∧ inbound.tag = tag ∧
      ∃ earlier ∈ before, SpecsConflict earlier inbound :=
  (scannedFrom_foldl inbounds).skipped tag h

/-- Where errors stop the scan, nothing is skipped. -/
theorem scanListeners_strict (hstrict : resolved.continueOnError = false) {scan scan' : ListenerScan}
    (h : scanListeners resolved nodeInfos scan inbounds = .ok scan') : scan'.skippedTags = scan.skippedTags := by
  induction inbounds generalizing scan with
  | nil =>
    cases h
    rfl
  | cons inbound inbounds ih =>
    rw [scanListeners] at h
    generalize recordListenerSpecs scan.seen (runtimeListenerSpecs inbound) = recorded at h
    obtain ⟨seen, _ | error⟩ := recorded
    · have hrest := ih h
      exact hrest
    · simp only [hstrict] at h
      cases h

end

/-! ## The build -/

theorem nodesConflict_of_specs {users : UsersByNodeTag} {a b : NodeInfo} {first second : InboundPlan}
    (hfirst : InboundOf users a first) (hsecond : InboundOf users b second) (h : SpecsConflict first second) :
    nodesConflict a b = true := by
  rw [nodesConflict, hfirst.settings, hsecond.settings]
  -- the specs do not depend on the users
  exact specsConflict_iff.1 h

theorem inbounds_apart {users : UsersByNodeTag} {tags : List Text} {nodes : List NodeInfo} {inbounds : List InboundPlan}
    (h : List.Forall₂ (InboundOf users) nodes inbounds) (hapart : ListenersApart tags nodes) :
    inbounds.Pairwise fun a b => b.tag ∈ tags → ¬SpecsConflict a b := by
  induction h with
  | nil => exact .nil
  | @cons node inbound nodes inbounds hhead htail ih =>
    obtain ⟨hfirst, hrest⟩ := List.pairwise_cons.1 hapart
    refine List.pairwise_cons.2 ⟨fun other hother htag hconflict => ?_, ih hrest⟩
    obtain ⟨later, hlater, hof⟩ := exists_node_of_mem htail hother
    have hnone := hfirst later hlater (hof.tag ▸ htag)
    rw [nodesConflict_of_specs hhead hof hconflict] at hnone
    cases hnone

section

variable {validate : InboundPlan → Except Text Unit} {plan rebuilt : RuntimeBootstrapPlan} {users : UsersByNodeTag}
  {tags : List Text}

/-- Where errors stop it, a build keeps all nodes. -/
theorem rebuild_strict (hstrict : plan.resolved.continueOnError = false)
    (h : rebuildRuntimePlanWithUsers validate plan users = .ok rebuilt) : rebuilt.nodeInfos = plan.nodeInfos := by
  obtain ⟨core, -, h⟩ := bind_eq_ok.1 h
  obtain ⟨⟨nodeInfos', nodeFailures', core'⟩, hfilter, h⟩ := bind_eq_ok.1 h
  cases h
  cases core with
  | none =>
    cases hfilter
    rfl
  | some corePlan =>
    obtain ⟨scan, hscan, hfilter⟩ := bind_eq_ok.1 hfilter
    rw [if_pos (by rw [scanListeners_strict hstrict hscan]; rfl)] at hfilter
    cases hfilter
    rfl

/-- **A rebuild keeps** the nodes that conflict with none before them. -/
theorem rebuild_keeps (hapart : plan.resolved.continueOnError = true → ListenersApart tags plan.nodeInfos)
    (h : rebuildRuntimePlanWithUsers validate plan users = .ok rebuilt) {node : NodeInfo} (hnode : node ∈ plan.nodeInfos)
    (htag : node.tag ∈ tags) : node ∈ rebuilt.nodeInfos := by
  cases hcontinue : plan.resolved.continueOnError with
  | false =>
    rw [rebuild_strict hcontinue h]
    exact hnode
  | true =>
    obtain ⟨hbuilt, -⟩ := build_built h
    rw [hbuilt.nodes, List.mem_filter, Bool.not_eq_true', List.contains_eq_mem, decide_eq_false_iff_not]
    refine ⟨hnode, fun hskipped => ?_⟩
    obtain ⟨before, inbound, after, hinbounds, hsame, earlier, hearlier, hconflict⟩ := skipped_conflicts hskipped
    have hpairs := inbounds_apart hbuilt.inboundOf ((hapart hcontinue).sublist List.filter_sublist)
    rw [hinbounds] at hpairs
    exact (List.pairwise_append.1 hpairs).2.2 earlier hearlier inbound List.mem_cons_self (hsame ▸ htag) hconflict

end

end KeliNode
