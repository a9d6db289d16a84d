import StructuralAdapters.Proofs.Loose

/-!
# Identities and requirements

Adapters are cached by the identity of the contract that they were made for, so contracts with one
identity had better require the same.

* `ContractPool.IdentityLaw` — contracts of the pool with one identity require the same signatures, in
  the same order;
* `ContractPool.identityLaw_iff_scoped` — the law holds, and goes on holding, exactly if every definition
  is scoped;
* `ContractPool.identityLaw_fails` — a program that breaks it.

## Why the law fails out of scope

A definition that is not generic keeps its identity when type arguments are pushed through it, and so
does a bare definition that was completed with too few arguments, but their members change with the
arguments.
-/

namespace StructuralAdapters

namespace Contract

/-! ### A contract with an identity of its own -/

/-- A contract over canonical ones is coherent if none of them has its identity. -/
theorem coherent_of_new {defs : Nat → Contract} {c : Contract}
    (hparents : ∀ p ∈ c.parents, p.Lineage (Canonical defs))
    (hnew : ∀ p ∈ c.parents, ∀ a, p.Ancestor a → a.id ≠ c.id) : c.Coherent := by
  apply coherent_of_agree
  intro a b ha hb hid
  rcases ancestor_iff.mp ha with rfl | ⟨p, hp, hpa⟩
  · rcases ancestor_iff.mp hb with rfl | ⟨q, hq, hqb⟩
    · exact Levels.Agree.refl _
    · exact absurd hid.symm (hnew q hq b hqb)
  · rcases ancestor_iff.mp hb with rfl | ⟨q, hq, hqb⟩
    · exact absurd hid (hnew p hp a hpa)
    · have hagree := (hparents p hp a hpa).agree
      rw [hid] at hagree
      exact hagree.trans (hparents q hq b hqb).agree.symm

/-! ### Filling one placeholder -/

/-- `int` for one placeholder, every other placeholder for itself. -/
def fill (i : UInt16) : UInt16 → Shape := fun j => if j = i then .int else .typeParam j

/-- Nothing is left of the placeholder. -/
theorem not_mem_placeholders_fill (i : UInt16) (s : Signature) :
    i ∉ (s.substituteTypeParams (allArgs (fill i))).placeholders := by
  rw [Signature.mem_placeholders_substituteTypeParams]
  rintro ⟨j, -, hij⟩
  rw [argument_allArgs, fill] at hij
  split at hij
  · exact absurd hij List.not_mem_nil
  · rename_i hne
    exact hne (List.mem_singleton.mp hij).symm

/-- A loose contract has the identity of what it becomes when its loose placeholder is filled. -/
theorem Loose.pushedArgs_fill {defs : Nat → Contract} {x : Contract} (h : x.Loose defs) {i : UInt16}
    (hi : x.id.args.length ≤ i.toNat) : x.pushedArgs (allArgs (fill i)) = x.id.args := by
  refine h.pushedArgs_eq_self ?_ (Nat.le_trans hi (Nat.le_of_lt i.toNat_lt))
  intro j hj
  rw [fill, if_neg]
  rintro rfl
  exact absurd hj (Nat.not_lt.mpr hi)

/-- **Filling the loose placeholder of a contract changes its requirements.** -/
theorem Loose.signatures_ne {defs : Nat → Contract} {x x' : Contract} (h : x.Loose defs) {k : Nat}
    {s : Signature} (hs : s ∈ Levels.visible Signature.key x.signatureLevels k) {i : UInt16}
    (hi : i ∈ s.placeholders) (hle : x.id.args.length ≤ i.toNat)
    (hpushed : Pushed defs (allArgs (fill i)) x x') : x'.id = x.id ∧ x.signatures ≠ x'.signatures := by
  have hid : x'.id = x.id := by rw [hpushed.id_eq, h.pushedArgs_fill hle]
  refine ⟨hid, ?_⟩
  intro heq
  have hcoherent : x.Coherent := coherent_of_canonical <| lineage_iff.mpr
    ⟨h.canonical, fun p hp => (h.parents p hp).mono fun _ ha => ha.toCanonical⟩
  -- Sound contracts cannot have an identity that does not speak for every placeholder.
  have hcoherent' : x'.Coherent := by
    refine coherent_of_new (fun p hp => (hpushed.parents p hp).mono fun _ ha => ha.toCanonical) ?_
    intro p hp a ha hsame
    rw [hid] at hsame
    exact h.not_covers (hsame ▸ (hpushed.parents p hp a ha).covers)
  have hmem : s ∈ x'.signatures := heq ▸ (mem_signatures_iff hcoherent).mpr ⟨k, hs⟩
  obtain ⟨k', hs'⟩ := (mem_signatures_iff hcoherent').mp hmem
  rw [show Levels.visible Signature.key x'.signatureLevels = _ from hpushed.agree] at hs'
  obtain ⟨s₀, -, rfl⟩ := Levels.exists_of_mem_visible_map
    (Signature.key_substituteTypeParams (allArgs (fill i))) hs'
  exact not_mem_placeholders_fill i s₀ hi

end Contract

namespace ContractPool

open Contract

variable {pool : ContractPool}

/-! ### The law -/

/-- Contracts of the pool with one identity require the same signatures, in the same order. -/
def IdentityLaw (pool : ContractPool) : Prop :=
  ∀ c ∈ pool.contracts, ∀ d ∈ pool.contracts, c.id = d.id → c.signatures = d.signatures

theorem Consistent.identityLaw {defs : Nat → Contract} (h : Consistent defs pool) :
    pool.IdentityLaw := by
  intro c hc d hd hid
  exact signatures_eq_of_canonical ((h c hc).mono fun _ ha => ha.toCanonical)
    ((h d hd).mono fun _ ha => ha.toCanonical) hid

/-- A pool whose definitions are scoped is consistent, and stays so. -/
theorem Reachable.exists_consistent (h : Reachable pool) (hbuilt : ∀ c ∈ pool.built, c.Scoped)
    {pool' : ContractPool} (hcontinues : Continues Scoped pool pool') :
    ∃ defs, Consistent defs pool' := by
  obtain ⟨numbers, hhistory⟩ := h
  obtain ⟨defs, hpool⟩ := (continues_of_built hhistory hbuilt).exists_consistent
    (consistent_initial numbers fun _ => ⟨0, ⟨0, []⟩, "", [], [], []⟩)
  exact hcontinues.exists_consistent hpool

/-- **Identity determines requirements exactly in scope.**  Whatever contracts a program has built,
instantiated and stepped to: all its definitions are scoped if and only if contracts with one identity
require the same signatures in the same order, now and in every continuation with scoped definitions. -/
theorem identityLaw_iff_scoped (h : Reachable pool) :
    (∀ c ∈ pool.built, c.Scoped) ↔
      ∀ pool', Continues Scoped pool pool' → pool'.IdentityLaw := by
  constructor
  · intro hbuilt pool' hcontinues
    obtain ⟨defs, hconsistent⟩ := h.exists_consistent hbuilt hcontinues
    exact hconsistent.identityLaw
  · intro hlaw
    by_contra hbuilt
    obtain ⟨defs, bound, c, hc, hunscoped⟩ := h.exists_unscoped hbuilt
    obtain ⟨pool₁, x, hfirst, hx, hloose⟩ := hunscoped.exists_loose hc
    obtain ⟨k, s, hs, i, hi, hle⟩ := hloose.exists_placeholder
    obtain ⟨pool₂, x', hsecond, hx', hpushed⟩ :=
      exists_pushed hx hloose.parents hloose.isTouched (fill i)
    obtain ⟨hid, hne⟩ := hloose.signatures_ne hs hi hle hpushed
    have hx₂ : x ∈ pool₂.contracts := hsecond.contracts_subset hx
    exact hne (hlaw pool₂ (hfirst.trans hsecond) x hx₂ x' hx' hid.symm)

/-! ### A program that breaks the law -/

/-- A contract without parameters whose only member returns `item`. -/
def reader (handle : Nat) (item : Shape) : Contract :=
  { handle, id := ⟨1, []⟩, name := "Reader", typeParams := [], parents := []
    members := [{ Signature.method "read" with returns := item }] }

/-- A generic contract, or an instantiation of it, that extends the given one. -/
def shelf (handle : Nat) (args : List Shape) (extended : Contract) : Contract :=
  { handle, id := ⟨2, args⟩, name := "Shelf", typeParams := ["T"], parents := [extended]
    members := [] }

/-- The reader mentions a placeholder without having a parameter.  What an instantiation of the shelf
extends is the reader with the placeholder filled. -/
def leak : ContractPool :=
  let original := reader 0 (.typeParam 0)
  let rebuilt := reader 2 .int
  { built := [shelf 1 [] original, original]
    contracts := [rebuilt, shelf 3 [.int] rebuilt, shelf 1 [] original, original]
    numbers := { origin := 3, handle := 4 } }

theorem reachable_leak : leak.Reachable := by
  let readerDraft : ContractDraft :=
    { name := "Reader"
      members := [.method { Signature.method "read" with returns := .typeParam 0 }] }
  let original := reader 0 (.typeParam 0)
  let shelfDraft : ContractDraft := { name := "Shelf", typeParams := ["T"], parents := [original] }
  let rebuilt := reader 2 .int
  have hreader : Continues (fun _ => True) (initial {}) ((initial {}).build readerDraft) :=
    .single (.build _ readerDraft (fun p hp => absurd hp List.not_mem_nil) trivial)
  have hshelf := hreader.tail (.build _ shelfDraft (fun p hp => hp) trivial)
  have hinstance := hshelf.tail (.instantiate _ (shelf 1 [] original) List.mem_cons_self [.int]
    (shelf 3 [.int] rebuilt) { origin := 3, handle := 4 } rfl)
  exact ⟨{}, hinstance.tail (.parent _ _ List.mem_cons_self rebuilt List.mem_cons_self)⟩

theorem signatures_reader (handle : Nat) (item : Shape) :
    (reader handle item).signatures = [{ Signature.method "read" with returns := item }] := by
  simp [reader, signatures, requirements, breadthFirst, declared, Requirement.firstOfEachKey]

theorem not_identityLaw_leak : ¬ leak.IdentityLaw := by
  intro hlaw
  have hsame := hlaw (reader 2 .int) List.mem_cons_self (reader 0 (.typeParam 0))
    (by simp [leak]) rfl
  rw [signatures_reader, signatures_reader] at hsame
  revert hsame
  decide

/-- The law is no invariant of programs that build whatever they like. -/
theorem identityLaw_fails : ¬ ∀ pool, Reachable pool → pool.IdentityLaw :=
  fun hlaw => not_identityLaw_leak (hlaw leak reachable_leak)

/-- One of the definitions of the program above is out of scope, for the law fails. -/
theorem leak_not_scoped : leak.Reachable ∧ ¬ ∀ c ∈ leak.built, c.Scoped :=
  ⟨reachable_leak, fun hbuilt =>
    not_identityLaw_leak ((identityLaw_iff_scoped reachable_leak).mp hbuilt leak .refl)⟩

end ContractPool

end StructuralAdapters
