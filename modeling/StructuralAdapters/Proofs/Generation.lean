import Mathlib.Data.List.Forall2
import StructuralAdapters.Proofs.Binding
import StructuralAdapters.Proofs.Reports

/-!
# When generation succeeds and what it reports

An adapter type is generated if each requirement has a single candidate among the members of the source
type.  Otherwise the failures say which requirements do not, in the order of the requirements.

* `TypeDescriptor.failure?`, `TypeDescriptor.failures` — what is wrong with a requirement, by the number of
  its candidates, and with a list of requirements;
* `SynthesisError.leaves_collapse` — putting failures into one error loses none and keeps their order;
* `AdapterType.BindsAll` — the adapter type binds each requirement to its only candidate, and nothing else;
* `AdapterType.generate_binds_or_reports` — generation succeeds exactly if nothing fails, and reports what
  fails otherwise.
-/

namespace StructuralAdapters

/-! ### Failures as one error -/

namespace SynthesisError

/-- The underlying failures of a collapsed list are those of its elements, one after the other. -/
theorem leaves_collapse (errors : List SynthesisError) :
    (collapse errors).leaves = leavesAll errors := by
  cases errors with
  | nil => rfl
  | cons e rest =>
      cases rest with
      | nil => rw [collapse, leavesAll, leavesAll, List.append_nil]
      | cons e' rest => rfl

/-- Failures that are not composed are their own underlying failures. -/
theorem leavesAll_eq_self {errors : List SynthesisError} (h : ∀ e ∈ errors, e.leaves = [e]) :
    leavesAll errors = errors := by
  rw [leavesAll_eq_flatMap, List.flatMap_congr h, List.flatMap_singleton']

end SynthesisError

namespace TypeDescriptor

variable {source : TypeDescriptor} {strict : Bool} {r : Requirement} {e : SynthesisError}

/-! ### Failing requirements -/

/-- What is wrong with a requirement: it has no candidate, or several, which are all named in the order of
the table.  A requirement with a single candidate does not fail. -/
def failure? (source : TypeDescriptor) (strict : Bool) (r : Requirement) : Option SynthesisError :=
  let accepted := source.candidates strict r.signature
  if accepted.length = 1 then none
  else if accepted.length = 0 then some (.missingMember r.signature.display r.owner source.name)
  else some (.ambiguousMember r.signature.display r.owner source.name
    (accepted.map (·.signature.display)))

/-- The failures of several requirements, in their order. -/
def failures (source : TypeDescriptor) (strict : Bool) (rs : List Requirement) :
    List SynthesisError :=
  rs.filterMap (source.failure? strict)

/-- A requirement is bound if it does not fail. -/
theorem failure?_of_resolve_ok {m : Member} (h : source.resolve strict r = .ok m) :
    source.failure? strict r = none := by
  rw [failure?, resolve_eq_ok_iff.mp h]
  rfl

/-- A requirement is refused with its failure. -/
theorem failure?_of_resolve_error (h : source.resolve strict r = .error e) :
    source.failure? strict r = some e := by
  unfold resolve at h
  unfold failure?
  -- The number of candidates decides on both sides.
  generalize source.candidates strict r.signature = accepted at h
  rcases accepted with _ | ⟨m, _ | ⟨m', rest⟩⟩
  · exact congrArg some (Except.error.inj h)
  · cases h
  · exact congrArg some (Except.error.inj h)

/-- A failure is not composed of others. -/
theorem leaves_of_failure (h : source.failure? strict r = some e) : e.leaves = [e] := by
  unfold failure? at h
  simp only at h
  split at h
  · cases h
  · split at h
    · cases h
      rfl
    · cases h
      rfl

/-- No failure is lost, and none is added. -/
theorem resolveEach_failures (rs : List Requirement) :
    (source.resolveEach strict rs).2 = source.failures strict rs := by
  induction rs with
  | nil => rfl
  | cons r rs ih =>
      rw [resolveEach, failures]
      cases hr : source.resolve strict r with
      | ok m =>
          rw [List.filterMap_cons_none (failure?_of_resolve_ok hr)]
          exact ih
      | error e =>
          rw [List.filterMap_cons_some (failure?_of_resolve_error hr)]
          exact congrArg (e :: ·) ih

theorem leavesAll_failures (source : TypeDescriptor) (strict : Bool) (rs : List Requirement) :
    SynthesisError.leavesAll (source.failures strict rs) = source.failures strict rs := by
  apply SynthesisError.leavesAll_eq_self
  intro e he
  obtain ⟨r, -, hr⟩ := List.mem_filterMap.mp he
  exact leaves_of_failure hr

/-! ### Binding all requirements -/

variable {settings : Settings} {rs : List Requirement}

/-- If no requirement fails, all are bound. -/
theorem exists_resolveAll_eq_ok (h : source.failures settings.strictReturns rs = []) :
    ∃ bound, source.resolveAll settings rs = .ok bound := by
  rw [← resolveEach_failures] at h
  rw [resolveAll]
  rcases hrs : source.resolveEach settings.strictReturns rs with ⟨bound, failures⟩
  rw [hrs] at h
  obtain rfl : failures = [] := h
  exact ⟨bound, rfl⟩

/-- If some requirement fails, the error is made of all failures, or of the first one alone. -/
theorem exists_resolveAll_eq_error (h : source.failures settings.strictReturns rs ≠ []) :
    ∃ e, source.resolveAll settings rs = .error e ∧
      e.leaves = if settings.reportAllMissing then source.failures settings.strictReturns rs
        else (source.failures settings.strictReturns rs).take 1 := by
  have hleaves := leavesAll_failures source settings.strictReturns rs
  rw [← resolveEach_failures] at h hleaves ⊢
  rw [resolveAll]
  rcases hrs : source.resolveEach settings.strictReturns rs with ⟨bound, failures⟩
  rw [hrs] at h hleaves
  cases failures with
  | nil => exact absurd rfl h
  | cons first others =>
      refine ⟨_, rfl, ?_⟩
      by_cases hall : settings.reportAllMissing = true
      · rw [if_pos hall, if_pos hall, SynthesisError.leaves_collapse]
        exact hleaves
      · rw [if_neg hall, if_neg hall]
        have hfirst : source.failures settings.strictReturns rs = first :: others := by
          rw [← resolveEach_failures, hrs]
        obtain ⟨r, -, hr⟩ := List.mem_filterMap.mp
          (hfirst ▸ List.mem_cons_self : first ∈ source.failures settings.strictReturns rs)
        exact leaves_of_failure hr

/-- Requirements that are all bound do not fail. -/
theorem failures_of_resolveAll_ok {bound : List (Requirement × Member)}
    (h : source.resolveAll settings rs = .ok bound) :
    source.failures settings.strictReturns rs = [] := by
  by_contra hfails
  obtain ⟨e, he, -⟩ := exists_resolveAll_eq_error hfails
  cases h.symm.trans he

end TypeDescriptor

namespace AdapterType

/-! ### What is generated -/

/-- The adapter type binds the requirements `rs`, in order, to the members `ms`: each of these is the only
candidate of its requirement, each requirement has one binding and one member that forwards, a call finds
that member under the key of the requirement, and it finds nothing under any other key. -/
structure BindsAll (a : AdapterType) (source : TypeDescriptor) (strict : Bool) (rs : List Requirement)
    (ms : List Member) : Prop where
  unique : List.Forall₂ (fun r m => source.candidates strict r.signature = [m]) rs ms
  bindings : a.bindings =
    List.zipWith (fun r m => ⟨r.signature, m.signature, m.declaredOn, r.owner⟩) rs ms
  members : a.descriptor.members =
    List.zipWith (fun r m => ⟨r.signature, .forward m.body, a.name⟩) rs ms
  found : List.Forall₂ (fun r m' => a.descriptor.member? r.key = some m') rs a.descriptor.members
  keys : ∀ k m', a.descriptor.member? k = some m' → k ∈ rs.map Requirement.key

variable {settings : Settings} {c : Contract} {source : TypeDescriptor} {key : TypeKey}

/-- An adapter type made of bound requirements binds them all. -/
theorem bindsAll_ofBound {name : String} {bound : List (Requirement × Member)}
    (h : source.resolveAll settings c.requirements = .ok bound) :
    (ofBound name key c source bound).BindsAll source settings.strictReturns c.requirements
      (bound.map (·.2)) := by
  obtain ⟨hrequirements, hunique⟩ := TypeDescriptor.resolveAll_eq_ok_iff.mp h
  have hfound : ∀ p ∈ bound, (ofBound name key c source bound).descriptor.member? p.1.key =
      some ⟨p.1.signature, .forward p.2.body, name⟩ :=
    fun p hp => member?_ofBound hrequirements hp
  rw [← hrequirements]
  refine ⟨?_, ?_, ?_, ?_, ?_⟩
  · rw [List.forall₂_map_left_iff, List.forall₂_map_right_iff, List.forall₂_same]
    exact hunique
  · rw [List.zipWith_map, List.zipWith_self]
    rfl
  · rw [List.zipWith_map, List.zipWith_self]
    rfl
  · rw [List.forall₂_map_left_iff]
    show List.Forall₂ _ bound (bound.map _)
    rw [List.forall₂_map_right_iff, List.forall₂_same]
    exact hfound
  · intro k m' hm'
    have hkey : m'.key = k := by simpa using List.find?_some hm'
    obtain ⟨p, hp, rfl⟩ := List.mem_map.mp (List.mem_reverse.mp (List.mem_of_find?_eq_some hm'))
    exact hkey ▸ List.mem_map.mpr ⟨p.1, List.mem_map_of_mem hp, rfl⟩

/-- **Generation binds every requirement or reports what fails.**  An open contract is refused.  For any
other contract there is an adapter type exactly if each requirement has a single candidate.  It then binds
each to this candidate, and otherwise the error is made of all failures in the order of the requirements,
or of the first one alone, as the settings say. -/
theorem generate_binds_or_reports (settings : Settings) (c : Contract) (source : TypeDescriptor)
    (key : TypeKey) :
    (c.isOpen = true →
      generate settings c source key = .error (.openContract c.displayName)) ∧
    (c.isOpen = false →
      ((∃ a, generate settings c source key = .ok a) ↔
        source.failures settings.strictReturns c.requirements = []) ∧
      (∀ a, generate settings c source key = .ok a →
        ∃ ms, a.BindsAll source settings.strictReturns c.requirements ms) ∧
      (source.failures settings.strictReturns c.requirements ≠ [] →
        ∃ e, generate settings c source key = .error e ∧
          e.leaves =
            if settings.reportAllMissing then source.failures settings.strictReturns c.requirements
            else (source.failures settings.strictReturns c.requirements).take 1)) := by
  refine ⟨fun hopen => if_pos hopen, fun hopen => ⟨⟨?_, ?_⟩, ?_, ?_⟩⟩
  · rintro ⟨a, ha⟩
    obtain ⟨-, bound, hbound, -⟩ := generate_eq_ok_iff.mp ha
    exact TypeDescriptor.failures_of_resolveAll_ok hbound
  · intro hnone
    obtain ⟨bound, hbound⟩ := TypeDescriptor.exists_resolveAll_eq_ok hnone
    exact ⟨_, generate_eq_ok_iff.mpr ⟨hopen, bound, hbound, rfl⟩⟩
  · intro a ha
    obtain ⟨-, bound, hbound, rfl⟩ := generate_eq_ok_iff.mp ha
    exact ⟨_, bindsAll_ofBound hbound⟩
  · intro hfails
    obtain ⟨e, he, hleaves⟩ := TypeDescriptor.exists_resolveAll_eq_error hfails
    refine ⟨e, ?_, hleaves⟩
    simp only [generate, hopen, he, Bool.false_eq_true, if_false]

end AdapterType

/-! ### A stall that fails twice -/

namespace Stall

/-- `Sell(int)` with the given returned shape. -/
def sell (returns : Shape) : Signature :=
  { Signature.method "Sell" with params := [⟨.int, .value⟩], returns }

/-- A contract with three requirements. -/
def vendor : Contract :=
  { handle := 0, id := ⟨1, []⟩, name := "Vendor", typeParams := [], parents := []
    members := [.method "Open", sell .int, .method "Close"] }

/-- A type that sells in two ways and never closes. -/
def stall : TypeDescriptor :=
  TypeDraft.build
    { name := "Stall"
      members := [.method (sell .float) [], .method (.method "Open") [], .method (sell .int) []] } ⟨1⟩

theorem requirements_vendor : vendor.requirements =
    [⟨"Vendor", .method "Open"⟩, ⟨"Vendor", sell .int⟩, ⟨"Vendor", .method "Close"⟩] :=
  Contract.requirements_of_root rfl (by decide)

/-- Selling is ambiguous, unless returned shapes are compared, and closing is missing. -/
theorem stall_reports : vendor.isOpen = false ∧
    (∃ e, AdapterType.generate {} vendor stall ⟨2⟩ = .error e ∧ e.leaves =
      [.ambiguousMember (sell .int).display "Vendor" "Stall" [(sell .float).display, (sell .int).display],
       .missingMember (Signature.method "Close").display "Vendor" "Stall"]) ∧
    (∃ e, AdapterType.generate { reportAllMissing := false } vendor stall ⟨2⟩ = .error e ∧ e.leaves =
      [.ambiguousMember (sell .int).display "Vendor" "Stall" [(sell .float).display, (sell .int).display]]) ∧
    ∃ e, AdapterType.generate { strictReturns := true } vendor stall ⟨2⟩ = .error e ∧ e.leaves =
      [.missingMember (Signature.method "Close").display "Vendor" "Stall"] := by
  have hloose : stall.failures false vendor.requirements =
      [.ambiguousMember (sell .int).display "Vendor" "Stall"
        [(sell .float).display, (sell .int).display],
       .missingMember (Signature.method "Close").display "Vendor" "Stall"] := by
    rw [requirements_vendor]
    rfl
  have hstrict : stall.failures true vendor.requirements =
      [.missingMember (Signature.method "Close").display "Vendor" "Stall"] := by
    rw [requirements_vendor]
    rfl
  have hreports := fun settings =>
    ((AdapterType.generate_binds_or_reports settings vendor stall ⟨2⟩).2 rfl).2.2
  refine ⟨rfl, ?_, ?_, ?_⟩
  · simpa [hloose] using hreports {}
  · simpa [hloose] using hreports { reportAllMissing := false }
  · simpa [hstrict] using hreports { strictReturns := true }

end Stall

end StructuralAdapters
