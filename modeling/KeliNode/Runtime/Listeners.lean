import KeliNode.Lib.Greedy
import KeliNode.Core.Validate
import KeliNode.Runtime.Build
import Mathlib.Data.List.TakeWhile

/-!
# The listener filter keeps a maximal plan

`filter_conflicting_runtime_listeners` (`runtime.rs:225`) goes through the inbounds like a greedy selection
(`Lib.Selection`), but it notes the specs of an inbound one by one before it knows whether the inbound stays, and it
takes inbounds out by their tags afterwards.  What it leaves is the greedy selection exactly where nothing selected
meets a spec noted for a dropped inbound or shares its tag with one (`maximal_iff`).
-/

namespace KeliNode

open Lib

/-! ## What is asked of the filter -/

/-- A spec of the one conflicts with a spec of the other. -/
def SpecsConflict (a b : InboundPlan) : Prop :=
  ∃ spec ∈ runtimeListenerSpecs a, ∃ next ∈ runtimeListenerSpecs b, runtimeListenerSpecsConflict spec next = true

/-- The node list has a node for the inbound. -/
def hasNode (nodeInfos : List NodeInfo) (inbound : InboundPlan) : Bool := nodeInfos.any (·.tag = inbound.tag)

/-- A failure reported for the node of an inbound. -/
def FailureOf (resolved : ResolvedConfig) (nodeInfos : List NodeInfo) (inbound : InboundPlan) (failure : NodeFailure) :
    Prop :=
  ∃ node, nodeInfos.find? (·.tag = inbound.tag) = some node ∧
    failure.config = (nodeConfigForInfo resolved node.id node.tag).getD { nodeId := node.id }

section

variable (resolved : ResolvedConfig) (nodeInfos : List NodeInfo) (nodeFailures : List NodeFailure)
  (corePlan : CorePlan) (core : Option CorePlan)

/-- The tags of the plan that no kept inbound has. -/
def droppedTags : List Text :=
  (corePlan.inbounds.map (·.tag)).filter fun tag => !((inboundsOf core).map (·.tag)).contains tag

/-- A maximal plan without conflicts, and the dropped rest accounted for. -/
structure Maximal (nodeInfos' : List NodeInfo) (nodeFailures' : List NodeFailure) : Prop where
  apart : (inboundsOf core).Pairwise fun a b => ¬SpecsConflict a b
  justified : ∀ before inbound after, corePlan.inbounds = before ++ inbound :: after →
    inbound.tag ∈ droppedTags corePlan core → ∃ kept ∈ before, kept ∈ inboundsOf core ∧ SpecsConflict kept inbound
  first : ∀ inbound inbounds, corePlan.inbounds = inbound :: inbounds → inbound ∈ inboundsOf core
  inbounds : inboundsOf core =
    corePlan.inbounds.filter fun inbound => !(droppedTags corePlan core).contains inbound.tag
  listenTags : core.elim [] (·.listenTags) =
    corePlan.listenTags.filter fun tag => !(droppedTags corePlan core).contains tag
  nodes : nodeInfos' = nodeInfos.filter fun node => !(droppedTags corePlan core).contains node.tag
  failures : ∃ new, nodeFailures' = nodeFailures ++ new ∧ List.Forall₂ (FailureOf resolved nodeInfos)
    ((corePlan.inbounds.filter fun inbound => (droppedTags corePlan core).contains inbound.tag).filter
      (hasNode nodeInfos)) new

end

/-- The greedy selection of inbounds by their listener specs. -/
def selectListeners (inbounds : List InboundPlan) : Selection InboundPlan RuntimeListenerSpec :=
  Selection.run runtimeListenerSpecs runtimeListenerSpecsConflict {} inbounds

/-- Nothing selected meets a spec noted for a dropped inbound, or shares its tag with one. -/
structure ListenersClear (inbounds : List InboundPlan) : Prop where
  leftovers : Selection.Clear runtimeListenerSpecs runtimeListenerSpecsConflict {} inbounds
  tags : ∀ kept ∈ (selectListeners inbounds).kept, ∀ dropped ∈ (selectListeners inbounds).dropped,
    kept.tag ≠ dropped.tag

instance (inbounds : List InboundPlan) : Decidable (ListenersClear inbounds) :=
  decidable_of_iff (_ ∧ _) ⟨fun h => ⟨h.1, h.2⟩, fun h => ⟨h.leftovers, h.tags⟩⟩

/-! ## One inbound -/

theorem specsConflict_iff {a b : InboundPlan} : SpecsConflict a b ↔
    blocked runtimeListenerSpecs runtimeListenerSpecsConflict (runtimeListenerSpecs a) b = true := by
  rw [blocked_iff]
  constructor
  · rintro ⟨spec, hspec, next, hnext, hconflict⟩
    exact ⟨next, hnext, spec, hspec, hconflict⟩
  · rintro ⟨next, hnext, spec, hspec, hconflict⟩
    exact ⟨spec, hspec, next, hnext, hconflict⟩

/-- The specs of one inbound are for different networks. -/
theorem own_specs_apart (inbound : InboundPlan) :
    (runtimeListenerSpecs inbound).Pairwise fun a b => runtimeListenerSpecsConflict a b = false := by
  unfold runtimeListenerSpecs
  cases inboundBindsTcp inbound <;> cases inboundBindsUdp inbound
  case true.true =>
    refine List.pairwise_cons.2 ⟨fun next hnext => ?_, List.pairwise_singleton _ _⟩
    rcases List.mem_singleton.1 hnext with rfl
    have hnetworks : decide (("tcp" : Text) = "udp") = false := by decide
    simp only [runtimeListenerSpecsConflict, hnetworks, Bool.false_and]
  case true.false | false.true => exact List.pairwise_singleton _ _
  case false.false => exact List.Pairwise.nil

section

variable {seen specs : List RuntimeListenerSpec} {free : RuntimeListenerSpec → Bool}

/-- The inner loop: it notes the specs up to the first that conflicts with one noted before. -/
theorem recordListenerSpecs_spec (hown : specs.Pairwise fun a b => runtimeListenerSpecsConflict a b = false)
    (hfree : ∀ spec ∈ specs, free spec = !seen.any (runtimeListenerSpecsConflict · spec)) :
    (recordListenerSpecs seen specs).1 = seen ++ specs.takeWhile free ∧
      (recordListenerSpecs seen specs).2.isSome = specs.any fun spec => !free spec := by
  induction specs generalizing seen with
  | nil => exact ⟨(List.append_nil _).symm, rfl⟩
  | cons spec specs ih =>
    obtain ⟨hspec, hspecs⟩ := List.pairwise_cons.1 hown
    have hhead := hfree spec List.mem_cons_self
    rw [recordListenerSpecs]
    cases hfind : seen.find? (runtimeListenerSpecsConflict · spec) with
    | some existing =>
      have hany : seen.any (runtimeListenerSpecsConflict · spec) = true :=
        List.any_eq_true.2 ⟨existing, List.mem_of_find?_eq_some hfind, by simpa using List.find?_some hfind⟩
      rw [hany, Bool.not_true] at hhead
      rw [List.takeWhile_cons_of_neg (by simp [hhead]), List.any_cons, hhead]
      exact ⟨(List.append_nil _).symm, rfl⟩
    | none =>
      have hany : seen.any (runtimeListenerSpecsConflict · spec) = false := by
        simpa [List.find?_eq_none] using hfind
      rw [hany, Bool.not_false] at hhead
      have hrest : ∀ next ∈ specs, free next = !(seen ++ [spec]).any (runtimeListenerSpecsConflict · next) := by
        intro next hnext
        rw [hfree next (List.mem_cons_of_mem _ hnext), List.any_append, List.any_cons, hspec next hnext]
        simp
      obtain ⟨hnoted, herror⟩ := ih hspecs hrest
      rw [List.takeWhile_cons_of_pos hhead, List.any_cons, hhead]
      exact ⟨by rw [hnoted, List.append_assoc]; rfl, by rw [herror]; rfl⟩

end

/-! ## The scan -/

section

variable (resolved : ResolvedConfig) (nodeInfos : List NodeInfo)

/-- One round of the outer loop, where errors do not stop it. -/
def scanOne (scan : ListenerScan) (inbound : InboundPlan) : ListenerScan :=
  match recordListenerSpecs scan.seen (runtimeListenerSpecs inbound) with
  | (seen, none) => { scan with seen }
  | (seen, some error) =>
    { seen
      skippedTags := scan.skippedTags ++ [inbound.tag]
      failures := match nodeInfos.find? (·.tag = inbound.tag) with
        | some node => scan.failures ++
            [{ config := (nodeConfigForInfo resolved node.id node.tag).getD { nodeId := node.id }, error }]
        | none => scan.failures }

variable {resolved nodeInfos}

theorem scanListeners_eq (hcontinue : resolved.continueOnError = true) (scan : ListenerScan)
    (inbounds : List InboundPlan) :
    scanListeners resolved nodeInfos scan inbounds = .ok (inbounds.foldl (scanOne resolved nodeInfos) scan) := by
  induction inbounds generalizing scan with
  | nil => rfl
  | cons inbound inbounds ih =>
    rw [scanListeners, List.foldl_cons, scanOne]
    rcases recordListenerSpecs scan.seen (runtimeListenerSpecs inbound) with ⟨seen, _ | error⟩
    · exact ih _
    · rw [hcontinue]
      exact ih _

theorem scanListeners_ok {scan scan' : ListenerScan} {inbounds : List InboundPlan}
    (h : scanListeners resolved nodeInfos scan inbounds = .ok scan') :
    scan' = inbounds.foldl (scanOne resolved nodeInfos) scan := by
  induction inbounds generalizing scan with
  | nil =>
    cases h
    rfl
  | cons inbound inbounds ih =>
    rw [scanListeners] at h
    rw [List.foldl_cons, scanOne]
    generalize recordListenerSpecs scan.seen (runtimeListenerSpecs inbound) = recorded at h ⊢
    obtain ⟨seen, _ | error⟩ := recorded
    · exact ih h
    · cases hcontinue : resolved.continueOnError with
      | false =>
        rw [hcontinue] at h
        cases h
      | true =>
        rw [hcontinue] at h
        exact ih h

/-- The scan, against the greedy selection: what it has noted, the tags it skips and the failures it adds. -/
structure Represents (resolved : ResolvedConfig) (nodeInfos : List NodeInfo) (nodeFailures : List NodeFailure)
    (s : Selection InboundPlan RuntimeListenerSpec) (scan : ListenerScan) : Prop where
  seen : ∀ spec, spec ∈ scan.seen ↔ spec ∈ s.keptSpecs runtimeListenerSpecs ++ s.left
  tags : scan.skippedTags = s.dropped.map (·.tag)
  failures : ∃ new, scan.failures = nodeFailures ++ new ∧
    List.Forall₂ (FailureOf resolved nodeInfos) (s.dropped.filter (hasNode nodeInfos)) new

variable {nodeFailures : List NodeFailure} {s : Selection InboundPlan RuntimeListenerSpec} {scan : ListenerScan}
  {inbound : InboundPlan}

/-- The specs that are free of conflicts with everything noted so far. -/
def freeOf (noted : List RuntimeListenerSpec) (spec : RuntimeListenerSpec) : Bool :=
  !noted.any (runtimeListenerSpecsConflict · spec)

theorem Represents.freeOf_eq (h : Represents resolved nodeInfos nodeFailures s scan)
    (spec : RuntimeListenerSpec) : freeOf scan.seen spec = freeOf (s.keptSpecs runtimeListenerSpecs ++ s.left) spec := by
  refine congrArg (! ·) (Bool.eq_iff_iff.2 ?_)
  simp only [List.any_eq_true, h.seen]

theorem any_not_freeOf (noted : List RuntimeListenerSpec) :
    ((runtimeListenerSpecs inbound).any fun spec => !freeOf noted spec) =
      blocked runtimeListenerSpecs runtimeListenerSpecsConflict noted inbound := by
  simp only [freeOf, Bool.not_not, blocked]

/-- What the inner loop does with the specs of one inbound. -/
theorem record_inbound (noted : List RuntimeListenerSpec) (inbound : InboundPlan) :
    ∃ error, recordListenerSpecs noted (runtimeListenerSpecs inbound) =
        (noted ++ (runtimeListenerSpecs inbound).takeWhile (freeOf noted), error) ∧
      error.isSome = blocked runtimeListenerSpecs runtimeListenerSpecsConflict noted inbound := by
  obtain ⟨hnoted, herror⟩ := recordListenerSpecs_spec (own_specs_apart inbound) fun spec _ =>
    (rfl : freeOf noted spec = _)
  refine ⟨_, Prod.ext hnoted rfl, ?_⟩
  rw [herror, any_not_freeOf]

/-- An inbound that conflicts with nothing noted: its specs are noted. -/
theorem scanOne_free (h : blocked runtimeListenerSpecs runtimeListenerSpecsConflict scan.seen inbound = false) :
    scanOne resolved nodeInfos scan inbound = { scan with seen := scan.seen ++ runtimeListenerSpecs inbound } := by
  obtain ⟨error, hrecord, herror⟩ := record_inbound scan.seen inbound
  rw [h] at herror
  have hnone : error = none := by simpa using herror
  have hall : (runtimeListenerSpecs inbound).takeWhile (freeOf scan.seen) = runtimeListenerSpecs inbound := by
    rw [List.takeWhile_eq_self_iff]
    intro spec hspec
    rw [← any_not_freeOf, List.any_eq_false] at h
    simpa using h spec hspec
  rw [scanOne, hrecord, hnone, hall]

variable (resolved nodeInfos) in
/-- An inbound that conflicts with something noted: its tag is skipped, and what was noted of it stays. -/
theorem scanOne_blocked (h : blocked runtimeListenerSpecs runtimeListenerSpecsConflict scan.seen inbound = true) :
    ∃ added, scanOne resolved nodeInfos scan inbound = {
        seen := scan.seen ++ (runtimeListenerSpecs inbound).takeWhile (freeOf scan.seen)
        skippedTags := scan.skippedTags ++ [inbound.tag]
        failures := scan.failures ++ added } ∧
      List.Forall₂ (FailureOf resolved nodeInfos) ([inbound].filter (hasNode nodeInfos)) added := by
  obtain ⟨error, hrecord, herror⟩ := record_inbound scan.seen inbound
  rw [h] at herror
  obtain ⟨error, rfl⟩ := Option.isSome_iff_exists.1 herror
  rw [scanOne, hrecord]
  cases hfind : nodeInfos.find? (·.tag = inbound.tag) with
  | some node =>
    have hhas : hasNode nodeInfos inbound = true :=
      List.any_eq_true.2 ⟨node, List.mem_of_find?_eq_some hfind, by simpa using List.find?_some hfind⟩
    rw [List.filter_cons_of_pos hhas]
    exact ⟨_, rfl, .cons ⟨node, hfind, rfl⟩ .nil⟩
  | none =>
    have hhas : hasNode nodeInfos inbound = false := by
      simpa [hasNode, List.find?_eq_none] using hfind
    rw [List.filter_cons_of_neg (by simp [hhas])]
    exact ⟨[], by simp, .nil⟩

theorem Represents.blocked_eq (h : Represents resolved nodeInfos nodeFailures s scan) (inbound : InboundPlan) :
    blocked runtimeListenerSpecs runtimeListenerSpecsConflict scan.seen inbound =
      (blocked runtimeListenerSpecs runtimeListenerSpecsConflict (s.keptSpecs runtimeListenerSpecs) inbound ||
        blocked runtimeListenerSpecs runtimeListenerSpecsConflict s.left inbound) := by
  refine Bool.eq_iff_iff.2 ?_
  simp only [Bool.or_eq_true, blocked_iff, h.seen, List.mem_append]
  constructor
  · rintro ⟨spec, hspec, old, hold | hold, hconflict⟩
    · exact .inl ⟨spec, hspec, old, hold, hconflict⟩
    · exact .inr ⟨spec, hspec, old, hold, hconflict⟩
  · rintro (⟨spec, hspec, old, hold, hconflict⟩ | ⟨spec, hspec, old, hold, hconflict⟩)
    · exact ⟨spec, hspec, old, .inl hold, hconflict⟩
    · exact ⟨spec, hspec, old, .inr hold, hconflict⟩

/-- One round: the scan follows the selection, unless the inbound is selected and meets a leftover. -/
theorem Represents.step (h : Represents resolved nodeInfos nodeFailures s scan)
    (hclear : blocked runtimeListenerSpecs runtimeListenerSpecsConflict (s.keptSpecs runtimeListenerSpecs) inbound =
      false → blocked runtimeListenerSpecs runtimeListenerSpecsConflict s.left inbound = false) :
    Represents resolved nodeInfos nodeFailures (s.step runtimeListenerSpecs runtimeListenerSpecsConflict inbound)
      (scanOne resolved nodeInfos scan inbound) := by
  have hseen := h.blocked_eq inbound
  cases hblocked : blocked runtimeListenerSpecs runtimeListenerSpecsConflict (s.keptSpecs runtimeListenerSpecs) inbound with
  | false =>
    obtain ⟨hkept, hdropped, hleft⟩ := Selection.step_kept hblocked
    rw [hblocked, hclear hblocked, Bool.or_self] at hseen
    rw [scanOne_free hseen]
    refine ⟨fun spec => ?_, ?_, ?_⟩
    · rw [List.mem_append, h.seen, Selection.keptSpecs_step_kept hblocked, hleft]
      simp only [List.mem_append]
      tauto
    · rw [hdropped]
      exact h.tags
    · rw [hdropped]
      exact h.failures
  | true =>
    obtain ⟨hkept, hdropped, hleft⟩ := Selection.step_dropped hblocked
    rw [hblocked, Bool.true_or] at hseen
    obtain ⟨added, hscan, hadded⟩ := scanOne_blocked resolved nodeInfos hseen
    obtain ⟨new, hnew, hfailures⟩ := h.failures
    rw [hscan]
    refine ⟨fun spec => ?_, ?_, new ++ added, ?_, ?_⟩
    · rw [funext h.freeOf_eq, List.mem_append, h.seen, Selection.keptSpecs_step_dropped hblocked, hleft]
      simp only [List.mem_append, or_assoc]
      rfl
    · rw [hdropped, h.tags, List.map_append]
      rfl
    · rw [hnew, List.append_assoc]
    · rw [hdropped, List.filter_append]
      exact List.rel_append hfailures hadded

theorem Represents.run {inbounds : List InboundPlan} (h : Represents resolved nodeInfos nodeFailures s scan)
    (hclear : Selection.Clear runtimeListenerSpecs runtimeListenerSpecsConflict s inbounds) :
    Represents resolved nodeInfos nodeFailures (s.run runtimeListenerSpecs runtimeListenerSpecsConflict inbounds)
      (inbounds.foldl (scanOne resolved nodeInfos) scan) := by
  induction inbounds generalizing s scan with
  | nil => exact h
  | cons inbound inbounds ih => exact ih (h.step hclear.1) hclear.2

variable (resolved nodeInfos nodeFailures) in
/-- The scan starts like the selection, with nothing noted. -/
theorem represents_nil : Represents resolved nodeInfos nodeFailures {} { failures := nodeFailures } :=
  ⟨fun _ => Iff.rfl, rfl, [], (List.append_nil _).symm, .nil⟩

variable (resolved nodeInfos) in
/-- What a scan adds, whatever it has noted: the tags of some inbounds, and failures for the nodes they have. -/
theorem scan_accounts (scan : ListenerScan) (inbounds : List InboundPlan) :
    ∃ skipped new, List.Sublist skipped inbounds ∧
      (inbounds.foldl (scanOne resolved nodeInfos) scan).skippedTags = scan.skippedTags ++ skipped.map (·.tag) ∧
      (inbounds.foldl (scanOne resolved nodeInfos) scan).failures = scan.failures ++ new ∧
      List.Forall₂ (FailureOf resolved nodeInfos) (skipped.filter (hasNode nodeInfos)) new := by
  induction inbounds generalizing scan with
  | nil => exact ⟨[], [], .slnil, (List.append_nil _).symm, (List.append_nil _).symm, .nil⟩
  | cons inbound inbounds ih =>
    rw [List.foldl_cons]
    obtain ⟨skipped, new, hsub, htags, hfailures, hof⟩ := ih (scanOne resolved nodeInfos scan inbound)
    cases h : blocked runtimeListenerSpecs runtimeListenerSpecsConflict scan.seen inbound with
    | false =>
      rw [scanOne_free h] at htags hfailures ⊢
      exact ⟨skipped, new, hsub.cons _, htags, hfailures, hof⟩
    | true =>
      obtain ⟨added, hscan, hadded⟩ := scanOne_blocked resolved nodeInfos h
      rw [hscan] at htags hfailures ⊢
      refine ⟨inbound :: skipped, added ++ new, hsub.cons_cons _, ?_, ?_, ?_⟩
      · rw [htags, List.append_assoc]
        rfl
      · rw [hfailures, List.append_assoc]
      · rw [← List.singleton_append, List.filter_append]
        exact List.rel_append hadded hof

/-- Skipped tags stay skipped. -/
theorem skippedTags_subset (scan : ListenerScan) (inbounds : List InboundPlan) :
    scan.skippedTags ⊆ (inbounds.foldl (scanOne resolved nodeInfos) scan).skippedTags := by
  obtain ⟨skipped, new, -, htags, -⟩ := scan_accounts resolved nodeInfos scan inbounds
  rw [htags]
  exact List.subset_append_left _ _

/-! ## The whole filter -/

variable {corePlan : CorePlan} {core : Option CorePlan} {nodeInfos' : List NodeInfo} {nodeFailures' : List NodeFailure}

variable (resolved nodeInfos nodeFailures) in
/-- The scan of the inbounds of a plan. -/
def scanOf (inbounds : List InboundPlan) : ListenerScan :=
  inbounds.foldl (scanOne resolved nodeInfos) { failures := nodeFailures }

variable (resolved nodeInfos nodeFailures) in
/-- A clear scan follows the selection. -/
theorem represents_scanOf {inbounds : List InboundPlan}
    (h : Selection.Clear runtimeListenerSpecs runtimeListenerSpecsConflict {} inbounds) :
    Represents resolved nodeInfos nodeFailures (selectListeners inbounds)
      (scanOf resolved nodeInfos nodeFailures inbounds) :=
  (represents_nil resolved nodeInfos nodeFailures).run h

/-- Every skipped tag is one of an inbound. -/
theorem skippedTags_of_inbound {inbounds : List InboundPlan} {tag : Text}
    (h : tag ∈ (scanOf resolved nodeInfos nodeFailures inbounds).skippedTags) : tag ∈ inbounds.map (·.tag) := by
  obtain ⟨skipped, new, hsub, htags, -⟩ := scan_accounts resolved nodeInfos { failures := nodeFailures } inbounds
  rw [scanOf, htags, List.nil_append] at h
  exact (hsub.map _).subset h

/-- What the filter makes of a finished scan. -/
structure Filtered (corePlan : CorePlan) (nodeInfos : List NodeInfo) (scan : ListenerScan) (nodeInfos' : List NodeInfo)
    (nodeFailures' : List NodeFailure) (core : Option CorePlan) : Prop where
  inbounds : inboundsOf core = corePlan.inbounds.filter fun inbound => !scan.skippedTags.contains inbound.tag
  listenTags : core.elim [] (·.listenTags) = corePlan.listenTags.filter fun tag => !scan.skippedTags.contains tag
  nodes : nodeInfos' = nodeInfos.filter fun node => !scan.skippedTags.contains node.tag
  failures : nodeFailures' = scan.failures

theorem filtered_of_ok (htags : corePlan.listenTags = corePlan.inbounds.map (·.tag))
    (h : filterConflictingRuntimeListeners resolved nodeInfos nodeFailures (some corePlan) =
      .ok (nodeInfos', nodeFailures', core)) :
    Filtered corePlan nodeInfos (scanOf resolved nodeInfos nodeFailures corePlan.inbounds) nodeInfos' nodeFailures'
      core := by
  obtain ⟨scan, hscan, h⟩ := bind_eq_ok.1 h
  rw [scanOf, ← scanListeners_ok hscan]
  by_cases hnone : scan.skippedTags.isEmpty = true
  · rw [if_pos hnone] at h
    cases h
    have hall : ∀ tag : Text, (!scan.skippedTags.contains tag) = true := by
      rw [List.isEmpty_iff.1 hnone]
      exact fun _ => rfl
    refine ⟨?_, ?_, ?_, rfl⟩
    · exact (List.filter_eq_self.2 fun inbound _ => hall inbound.tag).symm
    · exact (List.filter_eq_self.2 fun tag _ => hall tag).symm
    · exact (List.filter_eq_self.2 fun node _ => hall node.tag).symm
  · rw [if_neg hnone] at h
    cases h
    by_cases hempty : (corePlan.inbounds.filter fun inbound => !scan.skippedTags.contains inbound.tag).isEmpty = true
    · rw [if_pos hempty]
      refine ⟨(List.isEmpty_iff.1 hempty).symm, ?_, rfl, rfl⟩
      rw [htags, List.filter_map]
      exact (congrArg (List.map _) (List.isEmpty_iff.1 hempty)).symm
    · rw [if_neg hempty]
      exact ⟨rfl, rfl, rfl, rfl⟩

variable (nodeInfos nodeFailures corePlan) in
/-- Where errors do not stop it, the filter goes through. -/
theorem filterConflicting_ok (hcontinue : resolved.continueOnError = true) : ∃ nodeInfos' nodeFailures' core,
    filterConflictingRuntimeListeners resolved nodeInfos nodeFailures (some corePlan) =
      .ok (nodeInfos', nodeFailures', core) := by
  rw [filterConflictingRuntimeListeners, scanListeners_eq hcontinue]
  generalize corePlan.inbounds.foldl (scanOne resolved nodeInfos) { failures := nodeFailures } = scan
  by_cases hnone : scan.skippedTags.isEmpty = true
  · exact ⟨_, _, _, if_pos hnone⟩
  · exact ⟨_, _, _, if_neg hnone⟩

/-- The dropped tags are the skipped ones. -/
theorem Filtered.droppedTags_eq (h : Filtered corePlan nodeInfos scan nodeInfos' nodeFailures' core)
    (hskipped : ∀ tag ∈ scan.skippedTags, tag ∈ corePlan.inbounds.map (·.tag)) (tag : Text) :
    (droppedTags corePlan core).contains tag = scan.skippedTags.contains tag := by
  rw [droppedTags, h.inbounds, Bool.eq_iff_iff, List.contains_iff_mem, List.contains_iff_mem, List.mem_filter,
    Bool.not_eq_true', ← Bool.not_eq_true, List.contains_iff_mem]
  constructor
  · rintro ⟨htag, hkept⟩
    obtain ⟨inbound, hinbound, rfl⟩ := List.mem_map.1 htag
    by_contra hnot
    refine hkept (List.mem_map_of_mem (List.mem_filter.2 ⟨hinbound, ?_⟩))
    simpa using hnot
  · intro htag
    refine ⟨hskipped tag htag, fun hkept => ?_⟩
    obtain ⟨inbound, hinbound, rfl⟩ := List.mem_map.1 hkept
    have hnot := (List.mem_filter.1 hinbound).2
    simp [htag] at hnot

/-- A core plan lists the tags of its inbounds. -/
theorem coreBundle_listenTags {validate : InboundPlan → Except Text Unit} {users : UsersByNodeTag}
    (h : coreBundle validate resolved nodeInfos users = .ok (some corePlan)) :
    corePlan.listenTags = corePlan.inbounds.map (·.tag) := by
  unfold coreBundle at h
  by_cases hempty : nodeInfos.isEmpty = true
  · rw [if_pos hempty] at h
    cases h
  · rw [if_neg hempty] at h
    obtain ⟨-, -, h⟩ := bind_eq_ok.1 h
    obtain ⟨coreNodes, -, h⟩ := bind_eq_ok.1 h
    by_cases hnone : coreNodes.isEmpty = true
    · rw [if_pos hnone] at h
      cases h
    · rw [if_neg hnone] at h
      obtain ⟨plan, hplan, h⟩ := bind_eq_ok.1 h
      cases h
      obtain ⟨inbounds, -, hplan⟩ := bind_eq_ok.1 hplan
      cases hplan
      rfl

/-! ## When the filter is the greedy selection -/

/-- An inbound of a clear run that the scan does not skip is selected. -/
theorem mem_kept_of_not_skipped {inbounds before after : List InboundPlan} (hinbounds : inbounds = before ++ after)
    (hclear : Selection.Clear runtimeListenerSpecs runtimeListenerSpecsConflict {} before) (hmem : inbound ∈ before)
    (hnot : inbound.tag ∉ (scanOf resolved nodeInfos nodeFailures inbounds).skippedTags) :
    inbound ∈ (selectListeners before).kept := by
  have hrun := represents_scanOf resolved nodeInfos nodeFailures hclear
  refine (Selection.mem_run hmem).resolve_right fun hdropped => hnot ?_
  rw [scanOf, hinbounds, List.foldl_append]
  refine skippedTags_subset (scanOf resolved nodeInfos nodeFailures before) after ?_
  rw [hrun.tags]
  exact List.mem_map_of_mem hdropped

end

section

variable {resolved : ResolvedConfig} {nodeInfos nodeInfos' : List NodeInfo} {nodeFailures nodeFailures' : List NodeFailure}
  {corePlan : CorePlan} {core : Option CorePlan} {inbound : InboundPlan}

/-- Nothing that is dropped was free to be selected where it stands, if what the filter keeps is maximal. -/
theorem Maximal.not_free (h : Maximal resolved nodeInfos nodeFailures corePlan core nodeInfos' nodeFailures')
    {before after : List InboundPlan} (hplace : corePlan.inbounds = before ++ inbound :: after)
    (hskipped : inbound.tag ∈ droppedTags corePlan core)
    (hkept : ∀ kept ∈ before, kept ∈ inboundsOf core → kept ∈ (selectListeners before).kept) :
    blocked runtimeListenerSpecs runtimeListenerSpecsConflict
      ((selectListeners before).keptSpecs runtimeListenerSpecs) inbound = true := by
  obtain ⟨kept, hbefore, hcore, hconflict⟩ := h.justified before inbound after hplace hskipped
  exact Selection.blocked_kept_iff.2 ⟨kept, hkept kept hbefore hcore, specsConflict_iff.1 hconflict⟩

/-- The tags the scan skips are the ones the filter drops. -/
theorem mem_droppedTags_iff (hfiltered : Filtered corePlan nodeInfos
      (scanOf resolved nodeInfos nodeFailures corePlan.inbounds) nodeInfos' nodeFailures' core)
    (tag : Text) : tag ∈ droppedTags corePlan core ↔
      tag ∈ (scanOf resolved nodeInfos nodeFailures corePlan.inbounds).skippedTags := by
  rw [← List.contains_iff_mem, ← List.contains_iff_mem, hfiltered.droppedTags_eq]
  exact fun tag htag => skippedTags_of_inbound htag

theorem Filtered.not_skipped {scan : ListenerScan} (h : Filtered corePlan nodeInfos scan nodeInfos' nodeFailures' core)
    (hkept : inbound ∈ inboundsOf core) : inbound.tag ∉ scan.skippedTags := by
  rw [h.inbounds] at hkept
  simpa using (List.mem_filter.1 hkept).2

theorem listenersClear_of_maximal (hfiltered : Filtered corePlan nodeInfos
      (scanOf resolved nodeInfos nodeFailures corePlan.inbounds) nodeInfos' nodeFailures' core)
    (h : Maximal resolved nodeInfos nodeFailures corePlan core nodeInfos' nodeFailures') :
    ListenersClear corePlan.inbounds := by
  have hskipped := mem_droppedTags_iff hfiltered
  have hclear : Selection.Clear runtimeListenerSpecs runtimeListenerSpecsConflict {} corePlan.inbounds := by
    -- the first selected inbound that meets a leftover is skipped, with nothing selected to blame
    by_contra hnot
    obtain ⟨before, inbound, after, hplace, hclear, hfree, hleft⟩ := Selection.exists_of_not_clear hnot
    have hrun := (represents_nil resolved nodeInfos nodeFailures).run hclear
    have hblocked := hrun.blocked_eq inbound
    rw [hleft, Bool.or_true] at hblocked
    obtain ⟨added, hscan, -⟩ := scanOne_blocked resolved nodeInfos hblocked
    have hdropped : inbound.tag ∈ droppedTags corePlan core := by
      rw [hskipped, scanOf, hplace, List.foldl_append, List.foldl_cons, hscan]
      exact skippedTags_subset _ after (List.mem_append_right _ List.mem_cons_self)
    have hblames := h.not_free hplace hdropped fun kept hbefore hkept =>
      mem_kept_of_not_skipped hplace hclear hbefore (hfiltered.not_skipped hkept)
    rw [selectListeners, hfree] at hblames
    cases hblames
  refine ⟨hclear, fun kept hkept dropped hdropped htag => ?_⟩
  have hrun := represents_scanOf resolved nodeInfos nodeFailures hclear
  obtain ⟨before, after, hplace, hfree⟩ := (Selection.kept_at hkept).resolve_left List.not_mem_nil
  have hkeptDropped : kept.tag ∈ droppedTags corePlan core := by
    rw [hskipped, hrun.tags, htag]
    exact List.mem_map_of_mem hdropped
  have hbefore : Selection.Clear runtimeListenerSpecs runtimeListenerSpecsConflict {} before := by
    rw [hplace] at hclear
    exact hclear.of_append
  have hblames := h.not_free hplace hkeptDropped fun other hother hcore =>
    mem_kept_of_not_skipped hplace hbefore hother (hfiltered.not_skipped hcore)
  rw [selectListeners, hfree] at hblames
  cases hblames

/-- The filter keeps the greedy selection and drops the rest. -/
theorem selects_of_clear (hfiltered : Filtered corePlan nodeInfos
      (scanOf resolved nodeInfos nodeFailures corePlan.inbounds) nodeInfos' nodeFailures' core)
    (h : ListenersClear corePlan.inbounds) :
    (selectListeners corePlan.inbounds).kept = inboundsOf core ∧
      (selectListeners corePlan.inbounds).dropped =
        corePlan.inbounds.filter fun inbound => (droppedTags corePlan core).contains inbound.tag := by
  have hrun := represents_scanOf resolved nodeInfos nodeFailures h.leftovers
  have hskipped : ∀ tag, (droppedTags corePlan core).contains tag =
      (scanOf resolved nodeInfos nodeFailures corePlan.inbounds).skippedTags.contains tag :=
    fun tag => Bool.eq_iff_iff.2 (by rw [List.contains_iff_mem, List.contains_iff_mem, mem_droppedTags_iff hfiltered])
  have htags : ∀ tag, (droppedTags corePlan core).contains tag = true ↔
      tag ∈ (selectListeners corePlan.inbounds).dropped.map (·.tag) := fun tag => by
    rw [hskipped, List.contains_iff_mem, hrun.tags]
  have hkept : ∀ kept ∈ (selectListeners corePlan.inbounds).kept,
      (!(droppedTags corePlan core).contains kept.tag) = true := by
    intro kept hkept
    rw [Bool.not_eq_true', ← Bool.not_eq_true, htags]
    intro hdropped
    obtain ⟨dropped, hdropped, htag⟩ := List.mem_map.1 hdropped
    exact h.tags kept hkept dropped hdropped htag.symm
  have hdropped : ∀ dropped ∈ (selectListeners corePlan.inbounds).dropped,
      (!(droppedTags corePlan core).contains dropped.tag) = false := by
    intro dropped hdropped
    rw [Bool.not_eq_false', htags]
    exact List.mem_map_of_mem hdropped
  obtain ⟨hkept, hdropped⟩ := Selection.run_eq_filter hkept hdropped
  refine ⟨hkept.trans ?_, hdropped.trans ?_⟩
  · rw [hfiltered.inbounds]
    simp only [hskipped]
    rfl
  · simp only [Bool.not_not]
    rfl

theorem maximal_of_listenersClear (hfiltered : Filtered corePlan nodeInfos
      (scanOf resolved nodeInfos nodeFailures corePlan.inbounds) nodeInfos' nodeFailures' core)
    (h : ListenersClear corePlan.inbounds) :
    Maximal resolved nodeInfos nodeFailures corePlan core nodeInfos' nodeFailures' := by
  have hrun := represents_scanOf resolved nodeInfos nodeFailures h.leftovers
  obtain ⟨hkept, hdropped⟩ := selects_of_clear hfiltered h
  have hskipped : ∀ tag, (scanOf resolved nodeInfos nodeFailures corePlan.inbounds).skippedTags.contains tag = (droppedTags corePlan core).contains tag :=
    fun tag => Bool.eq_iff_iff.2 (by rw [List.contains_iff_mem, List.contains_iff_mem, mem_droppedTags_iff hfiltered])
  refine ⟨?_, fun before inbound after hplace hinbound => ?_, fun inbound inbounds hplace => ?_, ?_, ?_, ?_, ?_⟩
  · rw [← hkept]
    refine (Selection.kept_pairwise List.Pairwise.nil).imp fun hapart hconflict => ?_
    rw [specsConflict_iff.1 hconflict] at hapart
    cases hapart
  · -- an inbound that nothing selected before it conflicts with is selected, so it is not dropped
    have hblocked : blocked runtimeListenerSpecs runtimeListenerSpecsConflict
        ((selectListeners before).keptSpecs runtimeListenerSpecs) inbound = true := by
      by_contra hfree
      have hselected : inbound ∈ (selectListeners corePlan.inbounds).kept := by
        rw [selectListeners, hplace]
        exact Selection.mem_kept_of_free (Bool.not_eq_true _ ▸ hfree)
      rw [hkept] at hselected
      exact hfiltered.not_skipped hselected ((mem_droppedTags_iff hfiltered _).1 hinbound)
    obtain ⟨kept, hmem, hconflict⟩ := Selection.blocked_kept_iff.1 hblocked
    refine ⟨kept, Selection.kept_subset hmem, ?_, specsConflict_iff.2 hconflict⟩
    rw [← hkept, selectListeners, hplace, Selection.run_append]
    exact Selection.subset_run.1 hmem
  · rw [← hkept, selectListeners, hplace]
    exact Selection.head_kept (by simp [blocked, Selection.keptSpecs])
  · rw [hfiltered.inbounds]
    simp only [hskipped]
  · rw [hfiltered.listenTags]
    simp only [hskipped]
  · rw [hfiltered.nodes]
    simp only [hskipped]
  · obtain ⟨new, hnew, hfailures⟩ := hrun.failures
    refine ⟨new, by rw [hfiltered.failures, hnew], ?_⟩
    rwa [← hdropped]

variable {validate : InboundPlan → Except Text Unit} {users : UsersByNodeTag}

variable (nodeFailures) in
theorem filterConflicting_built (hcontinue : resolved.continueOnError = true)
    (hbuilt : coreBundle validate resolved nodeInfos users = .ok (some corePlan)) :
    ∃ nodeInfos' nodeFailures' core, filterConflictingRuntimeListeners resolved nodeInfos nodeFailures
        (some (corePlan.applyKernelDnsOptions resolved.kernel)) = .ok (nodeInfos', nodeFailures', core) ∧
      Filtered (corePlan.applyKernelDnsOptions resolved.kernel) nodeInfos
        (scanOf resolved nodeInfos nodeFailures corePlan.inbounds) nodeInfos' nodeFailures' core := by
  have htags : (corePlan.applyKernelDnsOptions resolved.kernel).listenTags =
      (corePlan.applyKernelDnsOptions resolved.kernel).inbounds.map (·.tag) :=
    show corePlan.listenTags = corePlan.inbounds.map (·.tag) from coreBundle_listenTags hbuilt
  obtain ⟨nodeInfos', nodeFailures', core, hfilter⟩ := filterConflicting_ok nodeInfos nodeFailures
    (corePlan.applyKernelDnsOptions resolved.kernel) hcontinue
  exact ⟨nodeInfos', nodeFailures', core, hfilter, filtered_of_ok htags hfilter⟩

variable (nodeFailures) in
/-- **The listener filter**, for every core plan built from a node list: where errors do not stop it, it keeps a maximal
plan without conflicts exactly if nothing it should keep meets what is left of a dropped inbound. -/
theorem maximal_iff (hcontinue : resolved.continueOnError = true)
    (hbuilt : coreBundle validate resolved nodeInfos users = .ok (some corePlan)) :
    ∃ nodeInfos' nodeFailures' core, filterConflictingRuntimeListeners resolved nodeInfos nodeFailures
        (some (corePlan.applyKernelDnsOptions resolved.kernel)) = .ok (nodeInfos', nodeFailures', core) ∧
      (Maximal resolved nodeInfos nodeFailures (corePlan.applyKernelDnsOptions resolved.kernel) core nodeInfos'
        nodeFailures' ↔ ListenersClear corePlan.inbounds) := by
  obtain ⟨nodeInfos', nodeFailures', core, hfilter, hfiltered⟩ := filterConflicting_built nodeFailures hcontinue hbuilt
  exact ⟨nodeInfos', nodeFailures', core, hfilter, listenersClear_of_maximal hfiltered,
    maximal_of_listenersClear hfiltered⟩

end

/-- Three nodes on port 443, where the first binds UDP and the last TCP. -/
def nodesOn443 (second : NodeInfo) : List NodeInfo :=
  [{ id := 1, protocol := .hysteria2, security := .tls, tag := "first"
     common := { serverPort := 443
                 certInfo := some { certFile := "/etc/keli/cert.pem", keyFile := "/etc/keli/key.pem" } } },
   second,
   { id := 3, protocol := .socks, tag := "third", common := { serverPort := 443 } }]

/-- A node with both networks. -/
def bothNetworksNode : NodeInfo where
  id := 2
  protocol := .shadowsocks
  tag := "second"
  common := { serverPort := 443, network := "tcp,udp", cipher := "aes-128-gcm" }

def secondUsers : UsersByNodeTag := (∅ : UsersByNodeTag).insert "second".toList [{ id := 1, uuid := "a" }]

/-- The core plan of three nodes on one port. -/
def bundleOn443 (second : NodeInfo) : Except Text (Option CorePlan) :=
  coreBundle (validateKeliCoreRsInbound · none) { continueOnError := true } (nodesOn443 second) secondUsers

/-- A node with TCP alone in the middle: the third node is dropped for it, and nothing is left behind. -/
def tcpNode : NodeInfo where
  id := 2
  protocol := .http
  tag := "second"
  common := { serverPort := 443 }

theorem exists_bundle (second : NodeInfo) (test : CorePlan → Bool)
    (h : ((bundleOn443 second).toOption.join.any test) = true) :
    ∃ corePlan, bundleOn443 second = .ok (some corePlan) ∧ test corePlan = true := by
  obtain ⟨corePlan, hsome, htest⟩ := Option.any_eq_true _ _ |>.1 h
  refine ⟨corePlan, ?_, htest⟩
  cases hbundle : bundleOn443 second with
  | error error =>
    rw [hbundle] at hsome
    cases hsome
  | ok core =>
    rw [hbundle] at hsome
    rw [show core = some corePlan from hsome]

/-- Two of three nodes bind TCP on the port, and the second of them is dropped for the first. -/
theorem maximal_iff_tcp : ∃ corePlan nodeInfos' nodeFailures' core, bundleOn443 tcpNode = .ok (some corePlan) ∧
    filterConflictingRuntimeListeners { continueOnError := true } (nodesOn443 tcpNode) []
      (some (corePlan.applyKernelDnsOptions {})) = .ok (nodeInfos', nodeFailures', core) ∧
    Maximal { continueOnError := true } (nodesOn443 tcpNode) [] (corePlan.applyKernelDnsOptions {}) core nodeInfos'
      nodeFailures' := by
  obtain ⟨corePlan, hbundle, hclear⟩ := exists_bundle tcpNode
    (fun plan => decide (ListenersClear plan.inbounds)) (by decide +kernel)
  obtain ⟨nodeInfos', nodeFailures', core, hfilter, hmaximal⟩ := maximal_iff [] rfl hbundle
  exact ⟨corePlan, nodeInfos', nodeFailures', core, hbundle, hfilter, hmaximal.2 (of_decide_eq_true hclear)⟩

/-- The second node binds both networks and is dropped for its UDP socket; its TCP spec stays behind, and the third node
is dropped for it. -/
theorem third_node_dropped : ∃ corePlan nodeInfos' nodeFailures' core,
    bundleOn443 bothNetworksNode = .ok (some corePlan) ∧
    filterConflictingRuntimeListeners { continueOnError := true } (nodesOn443 bothNetworksNode) []
      (some (corePlan.applyKernelDnsOptions {})) = .ok (nodeInfos', nodeFailures', core) ∧
    ¬Maximal { continueOnError := true } (nodesOn443 bothNetworksNode) [] (corePlan.applyKernelDnsOptions {}) core
      nodeInfos' nodeFailures' := by
  obtain ⟨corePlan, hbundle, hunclear⟩ := exists_bundle bothNetworksNode
    (fun plan => !decide (ListenersClear plan.inbounds)) (by decide +kernel)
  obtain ⟨nodeInfos', nodeFailures', core, hfilter, hfiltered⟩ := filterConflicting_built [] rfl hbundle
  refine ⟨corePlan, nodeInfos', nodeFailures', core, hbundle, hfilter, fun hmaximal => ?_⟩
  have hclear : ListenersClear corePlan.inbounds :=
    show ListenersClear (corePlan.applyKernelDnsOptions {}).inbounds from listenersClear_of_maximal hfiltered hmaximal
  rw [decide_eq_true hclear] at hunclear
  cases hunclear

end KeliNode
