import StructuralAdapters.Proofs.Fresh
import StructuralAdapters.Proofs.Identity
import StructuralAdapters.Proofs.NominalExtension
import StructuralAdapters.Proofs.Progress

/-!
# Instantiations of bare parents

A generic definition may extend another one bare, without arguments: its own arguments are then meant to
be those of the other, too.  An instantiation should so extend the instantiation of what its definition
extends.

* `Contract.exists_parent_of_touched` — a bare parent that is rebuilt has taken the arguments;
* `ContractPool.ExtendsInstantiation` — whatever definition of the pool extends the bare one, its
  instantiations extend those of the bare one;
* `ContractPool.extendsInstantiation_iff` — this holds, and goes on holding, exactly if a member of the
  bare definition mentions a placeholder or one of its direct parents is open;
* `ContractPool.extendsInstantiation_fails` — a program in which it does not.

## Markers

A definition whose parameters are used nowhere, or only by what its parents extend, looks as if arguments
could not change it.  It is left bare, although its identity ought to take the arguments.
-/

namespace StructuralAdapters

namespace Contract

variable {args : List Shape} {b d d' : Contract} {numbers numbers' : ContractNumbers}

/-! ### One bare parent -/

/-- Without arguments, a contract is touched for the sake of its members or its parents. -/
theorem isTouched_iff_of_bare (hargs : b.id.args = []) :
    b.isTouched = true ↔
      (∃ s ∈ b.members, s.hasTypeParams = true) ∨ ∃ p ∈ b.parents, p.isOpen = true := by
  simp [isTouched, hargs]

/-- **A bare parent that is rebuilt has taken the arguments.** -/
theorem exists_parent_of_touched {params : Nat → List String}
    (hd : d.Lineage fun a => a.typeParams = params a.id.origin)
    (hok : d.instantiate args numbers = .ok (d', numbers')) (hb : b ∈ d.parents)
    (hargs : b.id.args = []) (hparams : b.typeParams ≠ []) (htouched : b.isTouched = true) :
    ∃ p ∈ d'.parents, p.id = ⟨b.id.origin, args.take b.arity⟩ := by
  obtain ⟨rfl, -⟩ := eq_rebuild_of_instantiate_eq_ok hok
  have hprogress := progress_substituteAll args d.parents ⟨[], numbers.handle⟩
  obtain ⟨p, hp, hdone⟩ := hprogress.exists_of_touched hb htouched
  refine ⟨p, hp, ?_⟩
  obtain ⟨q, hq, a, hwalks, hid, hrebuilt⟩ := hprogress.exists_rebuilt hdone
  -- The result was made of a contract with the identity of `b`, which has the parameters of `b`.
  have htypeParams : a.typeParams = b.typeParams := by
    rw [hd a ((Ancestor.parent hq).trans hwalks.ancestor), (hd.parent hb).self, hid]
  have hpushed : a.pushedArgs args = args.take b.arity := by
    rw [pushedArgs_of_bare (hid ▸ hargs) (htypeParams ▸ hparams), arity, htypeParams, arity]
  rw [hrebuilt.eq_rebuild, rebuild, hid, hpushed]

/-- The only parent of a definition stays as it is if arguments cannot change it. -/
theorem parents_eq_of_untouched (hok : d.instantiate args numbers = .ok (d', numbers'))
    (hparents : d.parents = [b]) (huntouched : b.isTouched = false) : d'.parents = [b] := by
  obtain ⟨rfl, -⟩ := eq_rebuild_of_instantiate_eq_ok hok
  show (substituteAll args d.parents ⟨[], numbers.handle⟩).1 = [b]
  rw [hparents, substituteAll_cons, substitute_of_untouched rfl huntouched]
  simp only [substituteAll]

end Contract

namespace ContractPool

open Contract

variable {pool : ContractPool} {b : Contract}

/-! ### All definitions that extend it -/

/-- Each definition of the pool that extends `b`, with as many parameters, has instantiations that extend
the instantiations of `b` with the same arguments.  Types that implement the former implement the
latter. -/
def ExtendsInstantiation (pool : ContractPool) (b : Contract) : Prop :=
  ∀ d ∈ pool.contracts, d.id.args = [] → b ∈ d.parents → d.arity = b.arity →
    ∀ args : List Shape, args.length = b.arity → ∀ n m : ContractNumbers, ∃ d' n' b' m',
      d.instantiate args n = .ok (d', n') ∧ b.instantiate args m = .ok (b', m') ∧
        d'.isOrExtends b'.id = true ∧
          ∀ t : TypeDescriptor, d' ∈ t.contracts → t.implements b'.id = true

theorem Reachable.extendsInstantiation (h : Reachable pool) (hargs : b.id.args = [])
    (hparams : b.typeParams ≠ []) (htouched : b.isTouched = true) : pool.ExtendsInstantiation b := by
  intro d hd hdargs hb harity args hlength n m
  have hdparams : d.typeParams ≠ [] := by
    intro hnil
    rw [arity, hnil] at harity
    exact hparams (List.length_eq_zero_iff.mp harity.symm)
  obtain ⟨d', n', hdok⟩ := exists_instantiate_eq_ok hdargs hdparams (hlength.trans harity.symm) n
  obtain ⟨b', m', hbok⟩ := exists_instantiate_eq_ok hargs hparams hlength m
  obtain ⟨params, hpool⟩ := h.exists_parametrized
  obtain ⟨p, hp, hid⟩ := exists_parent_of_touched (hpool d hd) hdok hb hargs hparams htouched
  rw [← hlength, List.take_length, ← id_of_instantiate_eq_ok hbok] at hid
  have hextends : d'.isOrExtends b'.id = true := hid ▸ isOrExtends_of_mem_parents hp
  exact ⟨d', n', b', m', hdok, hbok, hextends, fun t ht => List.any_eq_true.mpr ⟨d', ht, hextends⟩⟩

/-- A definition that extends `b` alone, with as many parameters. -/
def heir (b : Contract) : ContractDraft :=
  { name := "Heir", typeParams := b.typeParams, parents := [b] }

/-- What the heir of an untouched definition extends, it extends bare. -/
theorem not_extendsInstantiation_build_heir (hpool : pool.Aged) (hb : b ∈ pool.contracts)
    (hparams : b.typeParams ≠ []) (huntouched : b.isTouched = false) :
    ¬ (pool.build (heir b)).ExtendsInstantiation b := by
  intro hextends
  -- An argument that no identity of the lineage mentions.
  obtain ⟨name, hname⟩ := Shape.exists_named_notMem (b.nearestFirst.flatMap fun a => a.id.args)
  let args := List.replicate b.arity (Shape.named name)
  obtain ⟨d', n', b', m', hdok, hbok, hfound, -⟩ :=
    hextends ((heir b).build pool.numbers).1 List.mem_cons_self rfl List.mem_cons_self rfl args
      List.length_replicate pool.numbers pool.numbers
  obtain ⟨a, ha, haid⟩ := exists_ancestor_of_isOrExtends hfound
  rw [id_of_instantiate_eq_ok hbok] at haid
  rcases ancestor_iff.mp ha with rfl | ⟨p, hp, hpa⟩
  · -- The heir itself has a new serial.
    have horigin := congrArg ContractId.origin ((id_of_instantiate_eq_ok hdok).symm.trans haid)
    exact Nat.ne_of_gt (hpool b hb).self horigin
  · rw [parents_eq_of_untouched hdok rfl huntouched, List.mem_singleton] at hp
    subst hp
    refine hname (List.mem_flatMap.mpr ⟨a, mem_nearestFirst.mpr hpa, ?_⟩)
    rw [haid]
    exact List.mem_replicate.mpr ⟨fun hzero => hparams (List.length_eq_zero_iff.mp hzero), rfl⟩

/-- **An instantiation extends the instantiations of its definition's bare parents, except for markers.**
For a bare generic definition of any pool: all definitions that extend it, now and in every continuation,
have instantiations that extend its own ones, if and only if one of its members mentions a placeholder or
one of its direct parents is open. -/
theorem extendsInstantiation_iff (h : Reachable pool) (hb : b ∈ pool.contracts)
    (hargs : b.id.args = []) (hparams : b.typeParams ≠ []) :
    ((∃ s ∈ b.members, s.hasTypeParams = true) ∨ ∃ p ∈ b.parents, p.isOpen = true) ↔
      ∀ pool', Continues (fun _ => True) pool pool' → pool'.ExtendsInstantiation b := by
  rw [← isTouched_iff_of_bare hargs]
  constructor
  · intro htouched pool' hcontinues
    obtain ⟨numbers, hhistory⟩ := h
    exact Reachable.extendsInstantiation ⟨numbers, hhistory.trans hcontinues⟩ hargs hparams htouched
  · intro hextends
    by_contra huntouched
    rw [Bool.not_eq_true] at huntouched
    refine not_extendsInstantiation_build_heir h.aged hb hparams huntouched (hextends _ ?_)
    refine .single (.build pool (heir b) ?_ trivial)
    intro p hp
    rwa [List.mem_singleton.mp hp]

/-! ### A marker and a source -/

/-- A generic contract that extends nothing. -/
def feed (members : List MemberDeclaration) : Contract :=
  { handle := 0, id := ⟨1, []⟩, name := "Feed", typeParams := ["T"], parents := []
    members := members.flatMap MemberDeclaration.signatures }

/-- A shelf that extends the feed. -/
def stocked (members : List MemberDeclaration) : ContractPool :=
  { built := [shelf 1 [] (feed members), feed members]
    contracts := [shelf 1 [] (feed members), feed members]
    numbers := { origin := 3, handle := 2 } }

theorem reachable_stocked (members : List MemberDeclaration) : (stocked members).Reachable := by
  let feedDraft : ContractDraft := { name := "Feed", typeParams := ["T"], members }
  let shelfDraft : ContractDraft := { name := "Shelf", typeParams := ["T"], parents := [feed members] }
  have hfeed : Continues (fun _ => True) (initial {}) ((initial {}).build feedDraft) :=
    .single (.build _ feedDraft (fun p hp => absurd hp List.not_mem_nil) trivial)
  exact ⟨{}, hfeed.tail (.build _ shelfDraft (fun p hp => hp) trivial)⟩

/-- The feed without members is a marker: the shelf for `int` does not extend the feed for `int`. -/
theorem extendsInstantiation_fails :
    ¬ ∀ pool, Reachable pool → ∀ b ∈ pool.contracts, b.id.args = [] → b.typeParams ≠ [] →
      pool.ExtendsInstantiation b := by
  intro hall
  obtain ⟨d', n', b', m', hdok, hbok, hextends, -⟩ :=
    hall (stocked []) (reachable_stocked []) (feed []) (by simp [stocked]) rfl (by decide)
      (shelf 1 [] (feed [])) List.mem_cons_self rfl List.mem_cons_self rfl [.int] rfl {} {}
  have hshelf : (shelf 1 [] (feed [])).instantiate [.int] {} =
      .ok (shelf 0 [.int] (feed []), { handle := 1 }) := rfl
  obtain ⟨rfl, -⟩ := Prod.mk.inj (Except.ok.inj (hshelf.symm.trans hdok))
  rw [id_of_instantiate_eq_ok hbok] at hextends
  revert hextends
  simp [shelf, feed, isOrExtends, reaches]

/-- A feed from which something can be read is extended with the argument. -/
theorem feed_extendsInstantiation :
    let next := MemberDeclaration.method { Signature.method "next" with returns := .typeParam 0 }
    (stocked [next]).Reachable ∧ feed [next] ∈ (stocked [next]).contracts ∧
      (stocked [next]).ExtendsInstantiation (feed [next]) := by
  intro next
  have hreachable := reachable_stocked [next]
  have hfeed : feed [next] ∈ (stocked [next]).contracts := by simp [stocked]
  refine ⟨hreachable, hfeed, ?_⟩
  exact (extendsInstantiation_iff hreachable hfeed rfl (by decide)).mp
    (.inl ⟨_, List.mem_cons_self, rfl⟩) (stocked [next]) .refl

end ContractPool

end StructuralAdapters
