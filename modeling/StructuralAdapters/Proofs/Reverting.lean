import Mathlib.Logic.Function.Iterate
import StructuralAdapters.Proofs.Forwarding
import StructuralAdapters.Proofs.Program

/-!
# Reverting

An object that was wrapped or coerced any number of times leads back to the source object that it was made from.

* `Reverting` — the search for an instance of a source type, one round at a time, with `Reverting.iterate_next`;
* `Call.Becomes` — the call was asked about one object and handed out another, with `Call.Becomes.wraps_or_eq`;
* `Leads` — what a sequence of such calls makes of an object;
* `Leads.layers_eq`, `Leads.revert_eq`, `Leads.real?_of_last` — what the sequence does to the number of layers, to the
  source object behind them, and to the object held by the uppermost one;
* `Leads.undone` — reverting undoes the whole sequence, and taking one adapter off undoes the last call that made one.

## Calls and layers

There are fewer layers than calls, for the native path hands out the object that it was asked about.  So nothing is
said of the number of calls: a call adds a layer around the object or changes nothing, and the invariants follow.
-/

namespace StructuralAdapters

/-! ### The search, round by round -/

namespace Object

/-- The object itself, where it is an instance of the source type. -/
def ofType? (type : TypeKey) : Object → Option Object
  | o@(source _ actual) => if actual.key = type then some o else none
  | adapter _ _ _ => none

/-- How many adapter instances there are around the source object. -/
def layers : Object → Nat
  | source _ _ => 0
  | adapter _ _ real => real.layers + 1

theorem real?_eq_none_iff {o : Object} : o.real? = none ↔ o.layers = 0 := by
  cases o <;> simp [real?, layers]

end Object

/-- A search for an instance of a source type behind an object. -/
inductive Reverting where
  /-- It goes on: the object that it will look at. -/
  | running (current : Object)
  /-- It has ended. -/
  | ended (found : Option Object)

namespace Reverting

/-- One round: the object is an instance of the source type, or what it holds comes next, or it holds nothing. -/
def next (type : TypeKey) : Reverting → Reverting
  | running current =>
      match current.ofType? type with
      | some found => ended (some found)
      | none =>
          match current.real? with
          | some real => running real
          | none => ended none
  | ended found => ended found

/-- **The search ends** in the round after the last layer, with the instance that is behind the object. -/
theorem iterate_next (type : TypeKey) (o : Object) :
    (next type)^[o.layers + 1] (running o) = ended (o.revert type) := by
  induction o with
  | source identity actual =>
      show next type (running (.source identity actual)) = _
      by_cases htype : actual.key = type
      · simp [next, Object.ofType?, Object.revert, htype]
      · simp [next, Object.ofType?, Object.revert, htype, Object.real?]
  | adapter identity actual real ih =>
      -- The first round goes on with the object inside.
      rw [Function.iterate_succ_apply]
      exact ih

end Reverting

/-! ### What one call does -/

/-- The call was asked about the object `x`, and handed out the object `y`. -/
def Call.Becomes (call : Call) (x y : Object) : Prop :=
  call.request.object? = some x ∧ ∃ k : Contracted, call.reply.result = .ok (.value k) ∧ k.object = y

/-- The call puts an adapter instance around the object, or leaves it as it is. -/
theorem Call.Becomes.wraps_or_eq {call : Call} {x y : Object} (h : call.Becomes x y) :
    (call.request.NeedsAdapter ∧ ∃ identity type, y = .adapter identity type x) ∨
      (¬ call.request.NeedsAdapter ∧ y = x) := by
  obtain ⟨hasked, k, hreply, rfl⟩ := h
  by_cases hneeds : call.request.NeedsAdapter
  · refine .inl ⟨hneeds, ?_⟩
    rw [Call.reply, Synthesizer.serve_of_needsAdapter hneeds] at hreply
    rcases hadapter : call.before.adapterFor call.request.contract call.request.source call.supply
      with ⟨e | a, s, supply⟩
    · rw [hadapter] at hreply
      cases hreply
    · rw [hadapter] at hreply
      obtain ⟨-, o, ho, identity, hobject⟩ := Request.fulfil_eq_value (Except.ok.inj hreply)
      obtain rfl : x = o := Option.some.inj (hasked.symm.trans ho)
      exact ⟨identity, a.descriptor, hobject⟩
  · refine .inr ⟨hneeds, ?_⟩
    rw [Call.reply, Synthesizer.serve_of_not_needsAdapter hneeds] at hreply
    rcases hverified : call.before.verifyNative call.request.contract call.request.source with ⟨e | _, s⟩
    · rw [hverified] at hreply
      cases hreply
    · rw [hverified] at hreply
      obtain ⟨-, ho⟩ := Request.grant_eq_value (Except.ok.inj hreply)
      exact Option.some.inj (ho.symm.trans hasked)

/-! ### What a sequence of calls does -/

/-- The calls make `y` of `x`, each of them asked about what the one before has handed out.  They may be calls of
different synthesizers. -/
inductive Leads : (x : Object) → (calls : List Call) → (y : Object) → Prop
  | nil (x : Object) : Leads x [] x
  | cons {x o y : Object} {call : Call} {calls : List Call} (hcall : call.Becomes x o) (hrest : Leads o calls y) :
      Leads x (call :: calls) y

/-- How many of the calls put an adapter instance around an object. -/
def layersMade (calls : List Call) : Nat := calls.countP fun call => call.request.NeedsAdapter

theorem layersMade_cons (call : Call) (calls : List Call) :
    layersMade (call :: calls) = layersMade calls + if call.request.NeedsAdapter then 1 else 0 := by
  simp only [layersMade, List.countP_cons, decide_eq_true_iff]

theorem layersMade_eq_zero_iff {calls : List Call} :
    layersMade calls = 0 ↔ ∀ call ∈ calls, ¬ call.request.NeedsAdapter := by
  simp only [layersMade, List.countP_eq_zero, decide_eq_true_iff]

namespace Leads

variable {x y : Object} {calls before after : List Call} {call : Call}

/-- A sequence can be taken apart. -/
theorem exists_of_append (h : Leads x (before ++ after) y) : ∃ o, Leads x before o ∧ Leads o after y := by
  induction before generalizing x with
  | nil => exact ⟨x, .nil x, h⟩
  | cons call before ih =>
      cases h with
      | cons hcall hrest =>
          obtain ⟨o, hbefore, hafter⟩ := ih hrest
          exact ⟨o, .cons hcall hbefore, hafter⟩

theorem layers_eq (h : Leads x calls y) : y.layers = x.layers + layersMade calls := by
  induction h with
  | nil => rfl
  | cons hcall _ ih =>
      rcases hcall.wraps_or_eq with ⟨hneeds, identity, type, rfl⟩ | ⟨hneeds, rfl⟩
      · rw [ih, layersMade_cons, if_pos hneeds, Object.layers]
        omega
      · rw [ih, layersMade_cons, if_neg hneeds, Nat.add_zero]

theorem revert_eq (h : Leads x calls y) (type : TypeKey) : y.revert type = x.revert type := by
  induction h with
  | nil => rfl
  | cons hcall _ ih =>
      rcases hcall.wraps_or_eq with ⟨-, identity, actual, rfl⟩ | ⟨-, rfl⟩
      · exact ih
      · exact ih

/-- Calls that make no adapter instance lead nowhere else. -/
theorem eq_of_native (h : Leads x calls y) (hnative : ∀ call ∈ calls, ¬ call.request.NeedsAdapter) : y = x := by
  induction h with
  | nil => rfl
  | cons hcall _ ih =>
      rcases hcall.wraps_or_eq with ⟨hneeds, -⟩ | ⟨-, rfl⟩
      · exact absurd hneeds (hnative _ List.mem_cons_self)
      · exact ih fun later hlater => hnative later (List.mem_cons_of_mem _ hlater)

/-- The object inside is the one that the last call with an adapter was asked about. -/
theorem real?_of_last (h : Leads x (before ++ call :: after) y) (hneeds : call.request.NeedsAdapter)
    (hnative : ∀ later ∈ after, ¬ later.request.NeedsAdapter) :
    ∃ o, Leads x before o ∧ call.request.object? = some o ∧ y.real? = some o := by
  obtain ⟨o, hbefore, hlast⟩ := h.exists_of_append
  cases hlast with
  | cons hcall hafter =>
      obtain rfl := hafter.eq_of_native hnative
      rcases hcall.wraps_or_eq with ⟨-, identity, type, rfl⟩ | ⟨hnot, -⟩
      · exact ⟨o, hbefore, hcall.1, rfl⟩
      · exact absurd hneeds hnot

/-- **Reverting undoes a sequence of calls.**  Whatever was made of a source object, by any number of calls of any
synthesizers, the search for an instance of a source type ends in the round after the last layer that was made, with
the source object itself for its own type and with nothing for any other.  There is an object inside exactly if some
call made an adapter instance, and it is the one that the last such call was asked about. -/
theorem undone {identity : Nat} {type : TypeDescriptor} (h : Leads (.source identity type) calls y) :
    (∀ t, (Reverting.next t)^[layersMade calls + 1] (.running y) = .ended (y.revert t) ∧
      y.revert t = if type.key = t then some (.source identity type) else none) ∧
    (y.real? = none ↔ ∀ call ∈ calls, ¬ call.request.NeedsAdapter) ∧
    ∀ before call after, calls = before ++ call :: after → call.request.NeedsAdapter →
      (∀ later ∈ after, ¬ later.request.NeedsAdapter) →
      ∃ o, Leads (.source identity type) before o ∧ call.request.object? = some o ∧ y.real? = some o := by
  have hlayers : y.layers = layersMade calls := h.layers_eq.trans (Nat.zero_add _)
  refine ⟨?_, ?_, ?_⟩
  · intro t
    refine ⟨?_, h.revert_eq t⟩
    rw [← hlayers]
    exact Reverting.iterate_next t y
  · rw [Object.real?_eq_none_iff, hlayers, layersMade_eq_zero_iff]
  · rintro before call after rfl hneeds hnative
    exact h.real?_of_last hneeds hnative

end Leads

/-! ### A cell that is wrapped twice -/

namespace Swapping

/-- A cell in the lower adapter. -/
def lowered : Object := lower.instantiate 1 (.source 0 cell)

/-- The same in the upper adapter. -/
def raised : Object := upper.instantiate 2 lowered

/-- The cell is wrapped. -/
def lowering : Call := ⟨0, .wrap readable (.source 0 cell), {}, ⟨3, 1⟩⟩

/-- What was made is coerced to the contract that it was wrapped for. -/
def keeping : Call := ⟨0, .coerce readable lowered, {}, {}⟩

/-- It is wrapped again, by a synthesizer in strict mode. -/
def raising : Call := ⟨1, .wrap exchange lowered, { settings := { strictReturns := true } }, ⟨4, 2⟩⟩

theorem lowering_becomes : lowering.Becomes (.source 0 cell) lowered := by
  refine ⟨rfl, ⟨readable, lowered⟩, ?_, rfl⟩
  rw [lowering, Call.reply, Synthesizer.serve_of_needsAdapter (Request.needsAdapter_wrap _ _),
    Synthesizer.adapterFor_of_ok rfl rfl generate_lower]
  rfl

theorem not_needsAdapter_keeping : ¬ keeping.request.NeedsAdapter :=
  ne_false_of_eq_true (TypeDescriptor.implements_of_mem List.mem_cons_self)

theorem keeping_becomes : keeping.Becomes lowered lowered := by
  refine ⟨rfl, ⟨readable, lowered⟩, ?_, rfl⟩
  have hverified : ∃ s, keeping.before.verifyNative readable lowered.type = (.ok (), s) := by
    rw [Synthesizer.verifyNative, requirements_readable]
    exact ⟨_, rfl⟩
  obtain ⟨s, hs⟩ := hverified
  rw [Call.reply, Synthesizer.serve_of_not_needsAdapter not_needsAdapter_keeping,
    show keeping.before.verifyNative keeping.request.contract keeping.request.source = _ from hs]
  rfl

theorem raising_becomes : raising.Becomes lowered raised := by
  refine ⟨rfl, ⟨exchange, raised⟩, ?_, rfl⟩
  rw [raising, Call.reply, Synthesizer.serve_of_needsAdapter (Request.needsAdapter_wrap _ _),
    Synthesizer.adapterFor_of_ok rfl rfl generate_upper]
  rfl

theorem leads_raised : Leads (.source 0 cell) [lowering, keeping, raising] raised :=
  .cons lowering_becomes (.cons keeping_becomes (.cons raising_becomes (.nil raised)))

/-- Three calls have made two layers.  The cell is found in the third round, a store never, and the object inside is
the one that was coerced. -/
theorem raised_undone : Leads (.source 0 cell) [lowering, keeping, raising] raised ∧
    (Reverting.next cell.key)^[3] (.running raised) = .ended (some (.source 0 cell)) ∧
    raised.revert cell.key = some (.source 0 cell) ∧ raised.revert store.key = none ∧
    ∃ o, Leads (.source 0 cell) [lowering, keeping] o ∧ raised.real? = some o := by
  obtain ⟨hfound, -, hinside⟩ := leads_raised.undone
  obtain ⟨hends, hcell⟩ := hfound cell.key
  have hlayers : layersMade [lowering, keeping, raising] = 2 := by
    rw [layersMade_cons, layersMade_cons, layersMade_cons, if_neg not_needsAdapter_keeping]
    rfl
  rw [hcell, hlayers, if_pos rfl] at hends
  obtain ⟨o, hbefore, -, hreal⟩ :=
    hinside [lowering, keeping] raising [] rfl trivial fun _ hlater => absurd hlater List.not_mem_nil
  exact ⟨leads_raised, hends, hcell.trans (if_pos rfl), (hfound store.key).2.trans (if_neg (by decide)), o, hbefore,
    hreal⟩

end Swapping

end StructuralAdapters
