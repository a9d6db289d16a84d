import StructuralAdapters.Proofs.Pool

/-!
# Loose contracts

A definition that is out of scope leads to a contract with a **loose** placeholder: one that the
contract requires and that its identity does not speak for.  Type arguments reach the placeholder and
leave the identity alone.

* `Contract.Loose` — a contract with a loose placeholder over sound ones;
* `ContractPool.exists_loose` — a definition out of scope leads to a loose contract;
* `ContractPool.exists_pushed` — a program can push any arguments through a contract, provided that they
  are as many as there are placeholders.

## The probe

To push arguments through `x` one builds a generic definition that extends `x`, instantiates it, and
steps to what has become of `x`.  With 65536 parameters the definition is scoped whatever `x` is, since
placeholders are 16-bit numbers.
-/

namespace StructuralAdapters

namespace Contract

/-! ### Arguments that are placeholders -/

/-- The first `n` placeholders, as type arguments. -/
def placeholderArgs (n : Nat) : List Shape :=
  (List.range n).map fun j => .typeParam (UInt16.ofNat j)

@[simp] theorem length_placeholderArgs (n : Nat) : (placeholderArgs n).length = n := by
  rw [placeholderArgs, List.length_map, List.length_range]

theorem take_placeholderArgs (m n : Nat) :
    (placeholderArgs n).take m = placeholderArgs (min m n) := by
  rw [placeholderArgs, ← List.map_take, List.take_range, placeholderArgs]

/-- Each placeholder is replaced by itself. -/
theorem argument_placeholderArgs (n : Nat) (i : UInt16) :
    Shape.argument (placeholderArgs n) i = .typeParam i := by
  by_cases h : i.toNat < n
  · rw [Shape.argument_of_lt (by simpa using h)]
    simp [placeholderArgs]
  · exact Shape.argument_of_ge (by simpa using h)

theorem substitute_placeholderArgs (L : Levels Signature) (n : Nat) :
    L.substitute (placeholderArgs n) = L := by
  have hid : ∀ s : Signature, s.substituteTypeParams (placeholderArgs n) = s :=
    fun s => Signature.substituteTypeParams_eq_self s fun i _ => argument_placeholderArgs n i
  funext k
  exact (List.map_congr_left fun s _ => hid s).trans (List.map_id' (L k))

/-- An argument for every placeholder. -/
def allArgs (f : UInt16 → Shape) : List Shape :=
  (List.range 65536).map fun j => f (UInt16.ofNat j)

@[simp] theorem length_allArgs (f : UInt16 → Shape) : (allArgs f).length = 65536 := by
  rw [allArgs, List.length_map, List.length_range]

@[simp] theorem argument_allArgs (f : UInt16 → Shape) (i : UInt16) :
    Shape.argument (allArgs f) i = f i := by
  rw [Shape.argument_of_lt (by rw [length_allArgs]; exact i.toNat_lt)]
  simp [allArgs]

/-- Every bound is met that leaves room for all placeholders. -/
theorem within_of_large {n : Nat} (h : 65536 ≤ n) (L : Levels Signature) : L.Within n :=
  fun _ _ _ i _ => Nat.lt_of_lt_of_le i.toNat_lt h

/-- A definition with a parameter for every placeholder is scoped. -/
theorem scoped_of_large {c : Contract} (h : 65536 ≤ c.arity) : c.Scoped := by
  have hwithin : ∀ d : Contract, d.Within c.arity :=
    fun d s _ i _ => Nat.lt_of_lt_of_le i.toNat_lt h
  exact ⟨hwithin c, fun _ g _ _ _ => hwithin g⟩

/-! ### Loose placeholders -/

/-- The contract extends sound contracts only, and its identity does not speak for every placeholder of
its definition. -/
structure Loose (defs : Nat → Contract) (x : Contract) : Prop where
  canonical : x.Canonical defs
  parents : ∀ p ∈ x.parents, p.Lineage (Sound defs)
  not_covers : ¬ Covers defs x.id
  /-- The arguments of the identity, if any, are placeholders in their own positions. -/
  args_eq : x.id.args = placeholderArgs x.id.args.length
  not_bare : x.id.args = [] → x.typeParams = []

variable {defs : Nat → Contract} {x : Contract}

theorem Loose.span_eq (h : x.Loose defs) : span defs x.id = x.id.args.length := by
  by_cases hargs : x.id.args = []
  · rw [span_of_args_nil hargs, ← h.canonical.arity_eq, arity, h.not_bare hargs, hargs]
    rfl
  · exact span_of_args_ne_nil hargs

/-- The loose placeholder is one of the contract's own requirements. -/
theorem Loose.exists_placeholder (h : x.Loose defs) :
    ∃ k, ∃ s ∈ Levels.visible Signature.key x.signatureLevels k, ∃ i ∈ s.placeholders,
      x.id.args.length ≤ i.toNat := by
  have hagree := h.canonical.agree
  rw [standsFor, h.args_eq, substitute_placeholderArgs] at hagree
  have hnot : ¬ x.signatureLevels.Within (span defs x.id) :=
    fun hwithin => h.not_covers (hwithin.of_agree hagree)
  rw [h.span_eq] at hnot
  simp only [Levels.Within, Signature.Within, not_forall, Nat.not_lt] at hnot
  obtain ⟨k, s, hs, i, hi, hle⟩ := hnot
  exact ⟨k, s, hs, i, hi, hle⟩

/-- Type arguments can change a loose contract. -/
theorem Loose.isTouched (h : x.Loose defs) : x.isTouched = true := by
  rw [← Bool.not_eq_false]
  intro htouched
  have hclosed := within_zero_of_untouched (fun p hp => (h.parents p hp).self) htouched
  obtain ⟨k, s, hs, i, hi, -⟩ := h.exists_placeholder
  exact Nat.not_lt_zero _ (hclosed k s hs i hi)

theorem Loose.pushedArgs_eq (h : x.Loose defs) (args : List Shape) :
    x.pushedArgs args = x.id.args.map (Shape.substituteTypeParams args) := by
  by_cases hargs : x.id.args = []
  · exact pushedArgs_of_not_generic (h.not_bare hargs)
  · exact pushedArgs_of_args_ne_nil hargs

/-- Arguments that keep the placeholders which the identity has as its arguments keep the identity. -/
theorem Loose.pushedArgs_eq_self (h : x.Loose defs) {f : UInt16 → Shape}
    (hf : ∀ j : UInt16, j.toNat < x.id.args.length → f j = .typeParam j)
    (hsmall : x.id.args.length ≤ 65536) : x.pushedArgs (allArgs f) = x.id.args := by
  rw [h.pushedArgs_eq, h.args_eq, placeholderArgs, List.map_map]
  apply List.map_congr_left
  intro j hj
  rw [List.mem_range] at hj
  have hj' : j < 65536 := Nat.lt_of_lt_of_le hj hsmall
  rw [Function.comp_apply, Shape.substituteTypeParams_eq_bind, Shape.bind, argument_allArgs]
  exact hf _ (by rwa [UInt16.toNat_ofNat_of_lt' hj'])

/-! ### Pushing arguments through a contract -/

/-- `x'` is what has become of `x` when `args` were pushed through it. -/
structure Pushed (defs : Nat → Contract) (args : List Shape) (x x' : Contract) : Prop where
  id_eq : x'.id = ⟨x.id.origin, x.pushedArgs args⟩
  typeParams_eq : x'.typeParams = x.typeParams
  agree : Levels.Agree Signature.key x'.signatureLevels (x.signatureLevels.substitute args)
  parents : ∀ p ∈ x'.parents, p.Lineage (Sound defs)

/-- Arguments for all placeholders keep the contracts sound that are rebuilt. -/
theorem pushed_rebuild (hparents : ∀ p ∈ x.parents, p.Lineage (Sound defs)) {args : List Shape}
    (hlarge : 65536 ≤ args.length) (handle handle' : Nat) :
    Pushed defs args x
      (x.rebuild args handle' (substituteAll args x.parents ⟨[], handle⟩).1) := by
  have hnil : args ≠ [] := by
    rintro rfl
    exact absurd hlarge (by decide)
  obtain ⟨himages, -⟩ := images_of_parents (P := fun a => Covers defs a.id) (fun a ha => ha)
    (fun a ha => ha.covers) hnil
    (fun a handle parents ha _ => ha.covers_pushedArgs hnil fun _ => within_of_large hlarge _)
    hparents handle
  refine ⟨rfl, rfl, ?_, ?_⟩
  · exact agree_rebuild (fun p hp => (hparents p hp).self.toCanonical) himages
  · intro p hp
    obtain ⟨q, -, himage⟩ := exists_mem_of_forall₂ himages hp
    exact fun a ha => ⟨himage.canonical a ha, himage.lineage a ha⟩

end Contract

namespace ContractPool

open Contract

variable {defs : Nat → Contract} {pool : ContractPool}

/-- A definition that extends `x` alone and has a parameter for every placeholder. -/
def probe (x : Contract) : ContractDraft :=
  { name := "Probe", typeParams := List.replicate 65536 "T", parents := [x] }

theorem arity_build_probe (x : Contract) (numbers : ContractNumbers) :
    ((probe x).build numbers).1.arity = 65536 := List.length_replicate

/-- Instantiating the probe does to `x` what is done to a contract that is extended, and nothing else. -/
theorem instantiate_probe (x : Contract) {args : List Shape} (hlength : args.length = 65536)
    (numbers numbers' : ContractNumbers) :
    ∃ result numbers'', ((probe x).build numbers).1.instantiate args numbers' = .ok (result, numbers'') ∧
      result.id.origin = numbers.origin ∧ result.members = [] ∧
      result.parents = [(x.substitute args ⟨[], numbers'.handle⟩).1] := by
  have harity := arity_build_probe x numbers
  have hparams : ((probe x).build numbers).1.typeParams ≠ [] := by
    intro hnil
    rw [arity, hnil] at harity
    cases harity
  have hok := instantiate_eq_rebuild rfl hparams (hlength.trans harity.symm) numbers'
  refine ⟨_, _, hok, rfl, rfl, ?_⟩
  show (substituteAll args [x] ⟨[], numbers'.handle⟩).1 = _
  rw [substituteAll_cons]
  simp only [substituteAll]

/-- **A program can push any arguments through a contract**, building scoped definitions only. -/
theorem exists_pushed {x : Contract} (hx : x ∈ pool.contracts)
    (hparents : ∀ p ∈ x.parents, p.Lineage (Sound defs)) (htouched : x.isTouched = true)
    (f : UInt16 → Shape) :
    ∃ pool' x', Continues Scoped pool pool' ∧ x' ∈ pool'.contracts ∧
      Pushed defs (allArgs f) x x' := by
  have hlarge := Nat.le_of_eq (arity_build_probe x pool.numbers).symm
  have hbuild : Step Scoped pool (pool.build (probe x)) := by
    refine .build pool (probe x) ?_ (scoped_of_large hlarge)
    intro p hp
    rwa [List.mem_singleton.mp hp]
  obtain ⟨result, numbers, hok, -, -, hresult⟩ :=
    instantiate_probe x (length_allArgs f) pool.numbers (pool.build (probe x)).numbers
  rw [substitute_of_touched rfl htouched] at hresult
  have hinstantiate : Step Scoped (pool.build (probe x))
      ⟨(pool.build (probe x)).built, result :: (pool.build (probe x)).contracts, numbers⟩ :=
    .instantiate _ _ List.mem_cons_self (allArgs f) result numbers hok
  refine ⟨_, _, ((Relation.ReflTransGen.single hbuild).tail hinstantiate).tail
    (.parent _ result List.mem_cons_self _ (hresult ▸ List.mem_cons_self)), List.mem_cons_self, ?_⟩
  exact pushed_rebuild hparents (Nat.le_of_eq (length_allArgs f).symm) _ _

/-! ### Where loose contracts come from -/

/-- A definition that is out of scope, over known contracts. -/
structure Unscoped (defs : Nat → Contract) (bound : Nat) (c : Contract) : Prop where
  args_nil : c.id.args = []
  defs_eq : defs c.id.origin = c
  parents : ∀ p ∈ c.parents, p.Lineage (Known defs bound)
  not_scoped : ¬ c.Scoped

variable {bound : Nat} {c : Contract}

theorem Unscoped.canonical (h : Unscoped defs bound c) : c.Lineage (Canonical defs) :=
  lineage_iff.mpr ⟨canonical_of_eq h.args_nil h.defs_eq,
    fun p hp => (h.parents p hp).mono fun _ ha => ha.toCanonical⟩

/-- A definition without parameters is loose itself. -/
theorem Unscoped.loose_of_not_generic (h : Unscoped defs bound c) (hparams : c.typeParams = []) :
    c.Loose defs := by
  refine ⟨h.canonical.self, fun p hp => (h.parents p hp).mono fun _ ha => ha.sound, ?_, ?_,
    fun _ => hparams⟩
  · intro hcovers
    rw [Covers, span_of_args_nil h.args_nil, h.defs_eq] at hcovers
    refine h.not_scoped ⟨?_, fun hgeneric => absurd hparams hgeneric⟩
    exact (within_iff (coherent_of_canonical h.canonical)).mpr hcovers
  · rw [h.args_nil]
    rfl

/-- If all that an instantiation leads to is sound, the definition was scoped. -/
theorem Unscoped.not_sound (h : Unscoped defs bound c) {P : Contract → Prop} {args : List Shape}
    (hnil : args ≠ []) (hlength : args.length = c.arity) {c' : Contract}
    (hinst : Instantiated defs args P c c') : ¬ c'.Lineage (Sound defs) := by
  intro hsound
  refine h.not_scoped ⟨?_, ?_⟩
  · have hcovers := hsound.self.covers
    rw [hinst.id_eq, Covers, span_of_args_ne_nil hnil] at hcovers
    rw [within_iff (coherent_of_canonical h.canonical), ← hlength]
    show c.signatureLevels.Within args.length
    rwa [← h.defs_eq]
  · intro _ g hg hgargs hgid
    obtain ⟨a, ha, henough⟩ := hinst.enough g.id hgid hgargs
    have hg' := h.canonical.ancestor hg
    have hagree := hg'.self.agree
    rw [standsFor_of_args_nil hgargs] at hagree
    rw [within_iff (coherent_of_canonical hg'), ← hlength]
    exact (henough (hsound a ha).covers).of_agree hagree.symm

/-- **A definition out of scope leads to a loose contract**: itself, if it is not generic, or one that is
found in its instantiation with its own placeholders. -/
theorem Unscoped.exists_loose (h : Unscoped defs bound c) (hc : c ∈ pool.contracts) :
    ∃ pool' x, Continues Scoped pool pool' ∧ x ∈ pool'.contracts ∧ x.Loose defs := by
  by_cases hparams : c.typeParams = []
  · exact ⟨pool, c, .refl, hc, h.loose_of_not_generic hparams⟩
  have hlength := length_placeholderArgs c.arity
  have hnil : placeholderArgs c.arity ≠ [] := by
    intro heq
    rw [heq] at hlength
    exact hparams (List.length_eq_zero_iff.mp hlength.symm)
  -- What is rebuilt is accounted for, or has got a part of the arguments.
  let P : Contract → Prop := fun a =>
    Covers defs a.id ∨ a.id.args ≠ [] ∧ a.id.args = placeholderArgs a.id.args.length
  have hrebuild : ∀ (a : Contract) handle parents, a.Sound defs → a.id ∈ c.rebuiltIds →
      P (a.rebuild (placeholderArgs c.arity) handle parents) := by
    intro a handle parents ha _
    by_cases hbare : a.id.args = [] ∧ a.typeParams ≠ []
    · refine .inr ⟨pushedArgs_ne_nil_of_bare hnil hbare.1 hbare.2, ?_⟩
      rw [rebuild, pushedArgs_of_bare hbare.1 hbare.2, take_placeholderArgs, length_placeholderArgs]
    · refine .inl (ha.covers_pushedArgs hnil ?_)
      intro hargs
      have hplain : a.typeParams = [] := by simpa [hargs] using hbare
      have hcovers := ha.covers
      rw [Covers, span_of_args_nil hargs, ← ha.arity_eq, arity, hplain] at hcovers
      exact hcovers.mono (Nat.zero_le _)
  obtain ⟨c', numbers', hok⟩ :=
    exists_instantiate_eq_ok h.args_nil hparams hlength pool.numbers
  obtain ⟨hinst, -⟩ := instantiated_of_eq_ok (fun a (ha : a.Sound defs) => ha) (fun a ha => .inl ha.covers)
    hrebuild h.canonical.self (fun p hp => (h.parents p hp).mono fun _ ha => ha.sound) hok
  -- The lowest contract that is not sound extends sound ones only.
  obtain ⟨x, hx, hunsound, hbelow⟩ := exists_minimal (h.not_sound hnil hlength hinst)
  have hcanonical := hinst.canonical x hx
  have hcovers : ¬ Covers defs x.id := fun hcovers => hunsound ⟨hcanonical, hcovers⟩
  have hargs : x.id.args ≠ [] ∧ x.id.args = placeholderArgs x.id.args.length := by
    rcases ancestor_iff.mp hx with rfl | ⟨p, hp, hpx⟩
    · rw [hinst.id_eq]
      exact ⟨hnil, by rw [hlength]⟩
    · exact (hinst.parents p hp x hpx).resolve_left hcovers
  have hstep : Step Scoped pool ⟨pool.built, c' :: pool.contracts, numbers'⟩ :=
    .instantiate pool c hc _ c' numbers' hok
  obtain ⟨contracts, hmem, hcontinues⟩ := continues_of_ancestor
    ⟨pool.built, c' :: pool.contracts, numbers'⟩ List.mem_cons_self hx
  exact ⟨_, x, .head hstep hcontinues, hmem,
    ⟨hcanonical, hbelow, hcovers, hargs.2, fun heq => absurd heq hargs.1⟩⟩

/-- In the history of a pool the first definition that is out of scope extends known contracts. -/
theorem Reachable.exists_unscoped (h : Reachable pool) (hbuilt : ¬ ∀ c ∈ pool.built, c.Scoped) :
    ∃ defs bound, ∃ c ∈ pool.contracts, Unscoped defs bound c := by
  obtain ⟨numbers, hhistory⟩ := h
  -- Up to the first definition out of scope the history consists of scoped steps.
  suffices hcases : Continues Scoped (initial numbers) pool ∨
      ∃ defs bound, ∃ c ∈ pool.contracts, Unscoped defs bound c by
    exact hcases.resolve_left fun hscoped => hbuilt hscoped.allowed_of_mem_built
  clear hbuilt
  induction hhistory with
  | refl => exact .inl .refl
  | @tail before after _ hstep ih =>
      rcases ih with hscoped | ⟨defs, bound, c, hc, hunscoped⟩
      · cases hstep with
        | build draft hparents _ =>
            by_cases hallowed : (draft.build before.numbers).1.Scoped
            · exact .inl (hscoped.tail (.build before draft hparents hallowed))
            · obtain ⟨defs, hconsistent⟩ :=
                hscoped.exists_consistent (consistent_initial numbers (fun _ => (draft.build before.numbers).1))
              exact .inr ⟨_, _, _, List.mem_cons_self,
                ⟨rfl, Function.update_self .., hconsistent.parents_update hparents, hallowed⟩⟩
        | instantiate c hc args c' numbers' hok =>
            exact .inl (hscoped.tail (.instantiate before c hc args c' numbers' hok))
        | parent c hc p hp => exact .inl (hscoped.tail (.parent before c hc p hp))
      · exact .inr ⟨defs, bound, c, hstep.contracts_subset hc, hunscoped⟩

end ContractPool

end StructuralAdapters
