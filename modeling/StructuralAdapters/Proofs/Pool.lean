import StructuralAdapters.Proofs.Images

/-!
# Pools of contracts

A program obtains contracts by building them, by instantiating generic definitions, and by stepping from
a contract to one that it extends.

* `ContractPool` — the contracts obtained so far;
* `ContractPool.Step`, `ContractPool.Continues` — one step, and any number of steps;
* `Contract.Scoped` — a definition whose own parameters account for every placeholder that it, or an
  instantiation of it, can show;
* `ContractPool.exists_consistent` — as long as only scoped definitions are built, every contract of the
  pool is sound.

## Two ways out of scope

A definition can mention a placeholder that it has no parameter for.  And a generic definition can extend
a bare one that needs more arguments than the former has parameters: instantiating it would complete the
bare definition with too few.  `Contract.Scoped` excludes both.  The second part looks only at what an
instantiation rebuilds.
-/

namespace StructuralAdapters

namespace Contract

/-! ### Scoped definitions -/

/-- Each placeholder among the requirements is one of the first `n`. -/
def Within (n : Nat) (c : Contract) : Prop := ∀ s ∈ c.signatures, s.Within n

/-- An instantiation has enough arguments for each bare definition that it completes. -/
def Completes (c : Contract) : Prop :=
  ∀ g, c.Ancestor g → g.id.args = [] → g.id ∈ c.rebuiltIds → g.Within c.arity

/-- The parameters of the definition account for every placeholder. -/
structure Scoped (c : Contract) : Prop where
  within : c.Within c.arity
  completes : c.typeParams ≠ [] → c.Completes

variable {defs : Nat → Contract} {c : Contract} {n : Nat}

/-- On coherent contracts the bound may be checked level by level. -/
theorem within_iff (h : c.Coherent) : c.Within n ↔ c.signatureLevels.Within n := by
  constructor
  · intro hwithin k s hs
    exact hwithin s ((mem_signatures_iff h).mpr ⟨k, hs⟩)
  · intro hwithin s hs
    obtain ⟨k, hs⟩ := (mem_signatures_iff h).mp hs
    exact hwithin k s hs

end Contract

/-! ### Pools -/

/-- The contracts that a program has obtained. -/
structure ContractPool where
  /-- Those that it built itself. -/
  built : List Contract
  /-- All of them. -/
  contracts : List Contract
  numbers : ContractNumbers

namespace ContractPool

/-- No contract yet. -/
def initial (numbers : ContractNumbers) : ContractPool := ⟨[], [], numbers⟩

/-- The pool with a contract built from `draft`. -/
def build (pool : ContractPool) (draft : ContractDraft) : ContractPool :=
  let (c, numbers) := draft.build pool.numbers
  ⟨c :: pool.built, c :: pool.contracts, numbers⟩

/-- One step of a program; the definitions that it builds are `allowed`. -/
inductive Step (allowed : Contract → Prop) : ContractPool → ContractPool → Prop
  /-- Build a contract that extends known ones. -/
  | build (pool : ContractPool) (draft : ContractDraft)
      (hparents : ∀ p ∈ draft.parents, p ∈ pool.contracts)
      (hallowed : allowed (draft.build pool.numbers).1) : Step allowed pool (pool.build draft)
  /-- Instantiate a known contract. -/
  | instantiate (pool : ContractPool) (c : Contract) (hc : c ∈ pool.contracts) (args : List Shape)
      (c' : Contract) (numbers : ContractNumbers)
      (hok : c.instantiate args pool.numbers = .ok (c', numbers)) :
      Step allowed pool ⟨pool.built, c' :: pool.contracts, numbers⟩
  /-- Look at a contract that a known one extends. -/
  | parent (pool : ContractPool) (c : Contract) (hc : c ∈ pool.contracts) (p : Contract)
      (hp : p ∈ c.parents) : Step allowed pool ⟨pool.built, p :: pool.contracts, pool.numbers⟩

/-- Any number of steps. -/
def Continues (allowed : Contract → Prop) : ContractPool → ContractPool → Prop :=
  Relation.ReflTransGen (Step allowed)

/-- Some sequence of steps leads to the pool. -/
def Reachable (pool : ContractPool) : Prop :=
  ∃ numbers, Continues (fun _ => True) (initial numbers) pool

variable {allowed : Contract → Prop} {pool pool' : ContractPool}

/-- Nothing is lost. -/
theorem Step.contracts_subset (h : Step allowed pool pool') : pool.contracts ⊆ pool'.contracts := by
  cases h with
  | build draft hparents hallowed => exact List.subset_cons_self _ _
  | instantiate c hc args c' numbers hok => exact List.subset_cons_self _ _
  | parent c hc p hp => exact List.subset_cons_self _ _

theorem Continues.contracts_subset (h : Continues allowed pool pool') :
    pool.contracts ⊆ pool'.contracts := by
  induction h with
  | refl => exact List.Subset.refl _
  | tail _ hstep ih => exact List.Subset.trans ih hstep.contracts_subset

/-- What is extended by a known contract can be obtained. -/
theorem continues_of_ancestor (pool : ContractPool) {c a : Contract} (hc : c ∈ pool.contracts)
    (ha : c.Ancestor a) :
    ∃ contracts, a ∈ contracts ∧ Continues allowed pool ⟨pool.built, contracts, pool.numbers⟩ := by
  induction ha with
  | refl => exact ⟨pool.contracts, hc, .refl⟩
  | @tail b p _ hp ih =>
      obtain ⟨contracts, hb, hcontinues⟩ := ih
      exact ⟨p :: contracts, List.mem_cons_self, hcontinues.tail (.parent _ b hb p hp)⟩

/-- A pool in which every built contract is allowed was obtained by allowed steps. -/
theorem continues_of_built {start : ContractPool} (h : Continues (fun _ => True) start pool)
    (hbuilt : ∀ c ∈ pool.built, allowed c) : Continues allowed start pool := by
  induction h with
  | refl => exact .refl
  | @tail before after _ hstep ih =>
      cases hstep with
      | build draft hparents _ =>
          refine (ih fun c hc => hbuilt c (List.mem_cons_of_mem _ hc)).tail ?_
          exact .build before draft hparents (hbuilt _ List.mem_cons_self)
      | instantiate c hc args c' numbers hok =>
          exact (ih hbuilt).tail (.instantiate before c hc args c' numbers hok)
      | parent c hc p hp => exact (ih hbuilt).tail (.parent before c hc p hp)

/-- What is built by allowed steps is allowed. -/
theorem Continues.allowed_of_mem_built {numbers : ContractNumbers}
    (h : Continues allowed (initial numbers) pool) : ∀ c ∈ pool.built, allowed c := by
  induction h with
  | refl =>
      intro c hc
      exact absurd hc List.not_mem_nil
  | tail _ hstep ih =>
      cases hstep with
      | build draft hparents hallowed =>
          intro c hc
          rcases List.mem_cons.mp hc with rfl | hc
          · exact hallowed
          · exact ih c hc
      | instantiate c hc args c' numbers hok => exact ih
      | parent c hc p hp => exact ih

/-! ### Serials -/

/-- Every contract of the pool, with everything that it extends, comes from a definition that took an
earlier serial than the next one. -/
def Aged (pool : ContractPool) : Prop :=
  ∀ c ∈ pool.contracts, c.Lineage fun a => a.id.origin < pool.numbers.origin

/-- Instantiating keeps serials and type parameters: a rebuilt contract has those of its original. -/
theorem lineage_instantiate {P : Contract → Prop}
    (hP : ∀ a b : Contract, a.id.origin = b.id.origin → a.typeParams = b.typeParams → P a → P b)
    {c c' : Contract} {args : List Shape} {numbers numbers' : ContractNumbers} (hc : c.Lineage P)
    (hok : c.instantiate args numbers = .ok (c', numbers')) :
    c'.Lineage P ∧ numbers'.origin = numbers.origin := by
  obtain ⟨rfl, rfl⟩ := Contract.eq_rebuild_of_instantiate_eq_ok hok
  let old : Contract → Prop := Contract.Lineage P
  have hparents : ∀ {cs ds : List Contract}, List.Forall₂ (fun _ d => old d) cs ds →
      ∀ d ∈ ds, old d := by
    intro cs ds himages d hd
    obtain ⟨c, -, hold⟩ := exists_mem_of_forall₂ himages hd
    exact hold
  obtain ⟨himages, -⟩ := Contract.substituteAll_image (U := old) (K := fun _ => True)
    (R := fun _ d => old d)
    (fun a ha p hp => ha.parent hp) (fun a ha _ => ha)
    (fun a handle ps ha _ _ himages =>
      Contract.lineage_iff.mpr ⟨hP a _ rfl rfl ha.self, hparents himages⟩)
    (fun p hp => hc.parent hp) (fun _ _ => trivial)
  exact ⟨Contract.lineage_iff.mpr ⟨hP c _ rfl rfl hc.self, hparents himages⟩, rfl⟩

theorem Step.aged (h : Step allowed pool pool') (hpool : pool.Aged) : pool'.Aged := by
  cases h with
  | build draft hparents _ =>
      intro c hc
      rcases List.mem_cons.mp hc with rfl | hc
      · refine Contract.lineage_iff.mpr ⟨Nat.lt_succ_self _, ?_⟩
        intro p hp
        exact (hpool p (hparents p hp)).mono fun _ ha => Nat.lt_succ_of_lt ha
      · exact (hpool c hc).mono fun _ ha => Nat.lt_succ_of_lt ha
  | instantiate c hc args c' numbers hok =>
      obtain ⟨haged, horigin⟩ := lineage_instantiate
        (fun a b hab _ (ha : a.id.origin < pool.numbers.origin) => hab ▸ ha) (hpool c hc) hok
      intro d hd
      show d.Lineage fun a => a.id.origin < numbers.origin
      rw [horigin]
      rcases List.mem_cons.mp hd with rfl | hd
      · exact haged
      · exact hpool d hd
  | parent c hc p hp =>
      intro d hd
      rcases List.mem_cons.mp hd with rfl | hd
      · exact (hpool c hc).parent hp
      · exact hpool d hd

theorem Continues.aged (h : Continues allowed pool pool') (hpool : pool.Aged) : pool'.Aged := by
  induction h with
  | refl => exact hpool
  | tail _ hstep ih => exact hstep.aged ih

theorem Reachable.aged (h : Reachable pool) : pool.Aged := by
  obtain ⟨numbers, hhistory⟩ := h
  exact hhistory.aged fun c hc => absurd hc List.not_mem_nil

/-- Each serial stands for one list of type parameters. -/
def Parametrized (params : Nat → List String) (pool : ContractPool) : Prop :=
  ∀ c ∈ pool.contracts, c.Lineage fun a => a.typeParams = params a.id.origin

theorem Step.exists_parametrized (h : Step allowed pool pool') (haged : pool.Aged)
    {params : Nat → List String} (hpool : pool.Parametrized params) :
    ∃ params', pool'.Parametrized params' := by
  cases h with
  | build draft hparents _ =>
      -- The new serial stands for the parameters of the new definition.
      refine ⟨Function.update params pool.numbers.origin draft.typeParams, ?_⟩
      have hold : ∀ c ∈ pool.contracts, c.Lineage fun a =>
          a.typeParams = Function.update params pool.numbers.origin draft.typeParams a.id.origin := by
        intro c hc a ha
        rw [Function.update_of_ne (Nat.ne_of_lt (haged c hc a ha))]
        exact hpool c hc a ha
      intro c hc
      rcases List.mem_cons.mp hc with rfl | hc
      · refine Contract.lineage_iff.mpr ⟨?_, fun p hp => hold p (hparents p hp)⟩
        exact (Function.update_self pool.numbers.origin draft.typeParams params).symm
      · exact hold c hc
  | instantiate c hc args c' numbers hok =>
      obtain ⟨hlineage, -⟩ := lineage_instantiate
        (fun a b hab hparams (ha : a.typeParams = params a.id.origin) => hparams ▸ hab ▸ ha)
        (hpool c hc) hok
      refine ⟨params, ?_⟩
      intro d hd
      rcases List.mem_cons.mp hd with rfl | hd
      · exact hlineage
      · exact hpool d hd
  | parent c hc p hp =>
      refine ⟨params, ?_⟩
      intro d hd
      rcases List.mem_cons.mp hd with rfl | hd
      · exact (hpool c hc).parent hp
      · exact hpool d hd

theorem Continues.exists_parametrized (h : Continues allowed pool pool') (haged : pool.Aged)
    {params : Nat → List String} (hpool : pool.Parametrized params) :
    ∃ params', pool'.Parametrized params' := by
  induction h with
  | refl => exact ⟨params, hpool⟩
  | tail hbefore hstep ih =>
      obtain ⟨params', hparams⟩ := ih
      exact hstep.exists_parametrized (Continues.aged hbefore haged) hparams

/-- In a pool each serial stands for one list of type parameters. -/
theorem Reachable.exists_parametrized (h : Reachable pool) : ∃ params, pool.Parametrized params := by
  obtain ⟨numbers, hhistory⟩ := h
  have hinitial : (initial numbers).Parametrized fun _ => [] :=
    fun c hc => absurd hc List.not_mem_nil
  exact hhistory.exists_parametrized (fun c hc => absurd hc List.not_mem_nil) hinitial

/-- Whether a contract is open can be told from its identity. -/
theorem Reachable.isOpen_eq (h : Reachable pool) {c d : Contract} (hc : c ∈ pool.contracts)
    (hd : d ∈ pool.contracts) (hid : c.id = d.id) : c.isOpen = d.isOpen := by
  obtain ⟨params, hparams⟩ := h.exists_parametrized
  have htypeParams : c.typeParams = d.typeParams := by
    rw [(hparams c hc).self, (hparams d hd).self, hid]
  rw [Contract.isOpen, Contract.isOpen, htypeParams, hid]

/-! ### The invariant -/

/-- The identity of the contract is an old one that accounts for what the contract, or an instantiation of
it, shows. -/
structure Accountable (defs : Nat → Contract) (bound : Nat) (c : Contract) : Prop where
  covers : Contract.Covers defs c.id
  completes : c.typeParams ≠ [] → c.id.args = [] → c.Completes
  old : c.id.origin < bound

/-- The contract requires what its identity stands for, and its identity is accountable. -/
structure Known (defs : Nat → Contract) (bound : Nat) (c : Contract) : Prop extends
    Contract.Canonical defs c, Accountable defs bound c

/-- Every contract of the pool is known, with everything that it extends. -/
def Consistent (defs : Nat → Contract) (pool : ContractPool) : Prop :=
  ∀ c ∈ pool.contracts, c.Lineage (Known defs pool.numbers.origin)

variable {defs : Nat → Contract} {bound : Nat} {c : Contract}

theorem Known.sound (h : Known defs bound c) : c.Sound defs := ⟨h.toCanonical, h.covers⟩

/-- The next definition changes nothing for the contracts that are known. -/
theorem Known.update (h : Known defs bound c) (d : Contract) :
    Known (Function.update defs bound d) (bound + 1) c := by
  have horigin : Function.update defs bound d c.id.origin = defs c.id.origin :=
    Function.update_of_ne (Nat.ne_of_lt h.old) d defs
  have hcovers := h.covers
  have hagree := h.agree
  refine ⟨⟨?_, ?_⟩, ⟨?_, h.completes, Nat.lt_succ_of_lt h.old⟩⟩
  · rw [horigin]
    exact h.typeParams_eq
  · rwa [Contract.standsFor, horigin]
  · rwa [Contract.Covers, Contract.span, horigin]

/-- A definition is canonical for the serial that it takes. -/
theorem canonical_of_eq (hargs : c.id.args = []) (hdefs : defs c.id.origin = c) :
    c.Canonical defs := by
  refine ⟨by rw [hdefs], ?_⟩
  rw [Contract.standsFor_of_args_nil hargs, hdefs]
  exact Levels.Agree.refl _

/-- A scoped definition over known contracts is known. -/
theorem known_of_scoped (hargs : c.id.args = []) (hdefs : defs c.id.origin = c)
    (hold : c.id.origin < bound) (hparents : ∀ p ∈ c.parents, p.Lineage (Known defs bound))
    (hscoped : c.Scoped) : Known defs bound c := by
  have hcanonical := canonical_of_eq hargs hdefs
  have hcoherent : c.Coherent := Contract.coherent_of_canonical <| Contract.lineage_iff.mpr
    ⟨hcanonical, fun p hp => (hparents p hp).mono fun a ha => ha.toCanonical⟩
  refine ⟨hcanonical, ⟨?_, fun hparams _ => hscoped.completes hparams, hold⟩⟩
  rw [Contract.Covers, Contract.span_of_args_nil hargs, hdefs]
  exact (Contract.within_iff hcoherent).mp hscoped.within

/-- What is rebuilt from a known contract is accountable, if there are enough arguments. -/
theorem Known.accountable_rebuild (h : Known defs bound c) {args : List Shape} (hnil : args ≠ [])
    (henough : c.id.args = [] → (defs c.id.origin).signatureLevels.Within args.length)
    (handle : Nat) (parents : List Contract) :
    Accountable defs bound (c.rebuild args handle parents) := by
  refine ⟨h.sound.covers_pushedArgs hnil henough, ?_, h.old⟩
  intro hparams hargs
  -- A rebuilt contract is never a bare generic definition.
  by_cases hown : c.id.args = []
  · exact absurd hargs (Contract.pushedArgs_ne_nil_of_bare hnil hown hparams)
  · rw [Contract.rebuild, Contract.pushedArgs_of_args_ne_nil hown, List.map_eq_nil_iff] at hargs
    exact absurd hargs hown

/-! ### Each step keeps the invariant -/

/-- Building a contract keeps the contracts that were known before, as long as the new definition is
entered under its serial. -/
theorem Consistent.parents_update (h : Consistent defs pool) {draft : ContractDraft}
    (hparents : ∀ p ∈ draft.parents, p ∈ pool.contracts) :
    ∀ p ∈ draft.parents, p.Lineage
      (Known (Function.update defs pool.numbers.origin (draft.build pool.numbers).1)
        (pool.numbers.origin + 1)) :=
  fun p hp => (h p (hparents p hp)).mono fun _ ha => ha.update _

theorem Consistent.build (h : Consistent defs pool) {draft : ContractDraft}
    (hparents : ∀ p ∈ draft.parents, p ∈ pool.contracts)
    (hscoped : (draft.build pool.numbers).1.Scoped) :
    Consistent (Function.update defs pool.numbers.origin (draft.build pool.numbers).1)
      (pool.build draft) := by
  intro c hc
  rcases List.mem_cons.mp hc with rfl | hc
  · have hbelow := h.parents_update hparents
    refine Contract.lineage_iff.mpr ⟨known_of_scoped rfl ?_ (Nat.lt_succ_self _) hbelow hscoped, hbelow⟩
    exact Function.update_self ..
  · exact (h c hc).mono fun a ha => ha.update _

/-- **An instantiation of a known contract is known**, and it requires what the arguments make of the
definition's members. -/
theorem known_of_instantiate (h : c.Lineage (Known defs bound)) {args : List Shape} {c' : Contract}
    {numbers numbers' : ContractNumbers}
    (hok : c.instantiate args numbers = .ok (c', numbers')) :
    c'.Lineage (Known defs bound) ∧ numbers'.origin = numbers.origin ∧
      Levels.Agree Signature.key c'.signatureLevels (c.signatureLevels.substitute args) := by
  obtain ⟨hargs, hparams, hlength⟩ := Contract.of_instantiate_eq_ok hok
  have hnil : args ≠ [] := by
    rintro rfl
    exact hparams (List.length_eq_zero_iff.mp hlength.symm)
  have hself := h.self
  -- Everything below `c` is walked over as an ancestor of `c`, which is what `Completes` speaks of.
  have hrebuild : ∀ a handle parents, Known defs bound a ∧ c.Ancestor a → a.id ∈ c.rebuiltIds →
      Accountable defs bound (a.rebuild args handle parents) := by
    rintro a handle parents ⟨ha, hancestor⟩ hid
    refine ha.accountable_rebuild hnil ?_ handle parents
    intro haargs
    have hwithin := hself.completes hparams hargs a hancestor haargs hid
    have hcoherent := Contract.coherent_of_canonical
      ((h.ancestor hancestor).mono fun _ hb => hb.toCanonical)
    rw [Contract.within_iff hcoherent, ← hlength] at hwithin
    have hagree := ha.agree
    rw [Contract.standsFor_of_args_nil haargs] at hagree
    exact hwithin.of_agree hagree
  obtain ⟨hinst, horigin⟩ := Contract.instantiated_of_eq_ok
    (fun a (ha : Known defs bound a ∧ c.Ancestor a) => ha.1.sound)
    (fun a ha => ha.1.toAccountable) hrebuild hself.toCanonical
    (fun p hp a ha => ⟨h.parent hp a ha, (Contract.Ancestor.parent hp).trans ha⟩) hok
  have haccountable : Accountable defs bound c' := by
    refine ⟨?_, ?_, ?_⟩
    · have hspan := hself.covers
      rw [Contract.Covers, Contract.span_of_args_nil hargs, ← hself.arity_eq, ← hlength] at hspan
      rw [hinst.id_eq, Contract.Covers, Contract.span_of_args_ne_nil hnil]
      exact hspan
    · intro _ hc'
      rw [hinst.id_eq] at hc'
      exact absurd hc' hnil
    · rw [hinst.id_eq]
      exact hself.old
  have hlineage : c'.Lineage (Accountable defs bound) :=
    Contract.lineage_iff.mpr ⟨haccountable, hinst.parents⟩
  exact ⟨fun a ha => ⟨hinst.canonical a ha, hlineage a ha⟩, horigin, hinst.agree⟩

theorem Step.exists_consistent (h : Step Contract.Scoped pool pool') (hpool : Consistent defs pool) :
    ∃ defs', Consistent defs' pool' := by
  cases h with
  | build draft hparents hscoped => exact ⟨_, hpool.build hparents hscoped⟩
  | instantiate c hc args c' numbers hok =>
      obtain ⟨hknown, horigin, -⟩ := known_of_instantiate (hpool c hc) hok
      -- No serial is taken, so the definitions stay as they are.
      refine ⟨defs, ?_⟩
      intro d hd
      show d.Lineage (Known defs numbers.origin)
      rw [horigin]
      rcases List.mem_cons.mp hd with rfl | hd
      · exact hknown
      · exact hpool d hd
  | parent c hc p hp =>
      refine ⟨defs, ?_⟩
      intro d hd
      rcases List.mem_cons.mp hd with rfl | hd
      · exact (hpool c hc).parent hp
      · exact hpool d hd

/-- **While only scoped definitions are built, every contract is known.** -/
theorem Continues.exists_consistent (h : Continues Contract.Scoped pool pool')
    (hpool : Consistent defs pool) : ∃ defs', Consistent defs' pool' := by
  induction h with
  | refl => exact ⟨defs, hpool⟩
  | tail _ hstep ih =>
      obtain ⟨defs', hconsistent⟩ := ih
      exact hstep.exists_consistent hconsistent

theorem consistent_initial (numbers : ContractNumbers) (defs : Nat → Contract) :
    Consistent defs (initial numbers) :=
  fun _ hc => absurd hc List.not_mem_nil

end ContractPool

end StructuralAdapters
