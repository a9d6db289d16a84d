import StructuralAdapters.Proofs.Canonical

/-!
# Pushing type arguments through sound contracts

What `Contract.substitute` makes of a sound contract requires what the arguments make of the contract's
members, and it is canonical again.

* `Contract.Image` — what pushing type arguments makes of an identity;
* `Contract.image_rebuild` — rebuilding a contract over images yields an image;
* `Contract.images_of_parents` — the walk yields images;
* `Contract.instantiate_eq_rebuild` — an instantiation is one more rebuilding.

## Short instantiations

A bare generic definition takes as many of the pushed arguments as it has parameters.  There may be too
few.  The result is canonical all the same, but its identity does not speak for every placeholder of its
definition: it is not sound.
-/

namespace StructuralAdapters

namespace Contract

variable {defs : Nat → Contract} {args : List Shape} {c d : Contract}

/-! ### The identity of a rebuilt contract -/

/-- A definition without arguments takes them by position. -/
theorem pushedArgs_of_bare (hargs : c.id.args = []) (hparams : c.typeParams ≠ []) :
    c.pushedArgs args = args.take c.arity := by
  simp [pushedArgs, hargs, hparams]

/-- With as many arguments as it has parameters, it takes all of them. -/
theorem pushedArgs_of_length_eq (hargs : c.id.args = []) (hparams : c.typeParams ≠ [])
    (hlength : args.length = c.arity) : c.pushedArgs args = args := by
  rw [pushedArgs_of_bare hargs hparams, ← hlength, List.take_length]

/-- An instantiation has the arguments put into its own. -/
theorem pushedArgs_of_args_ne_nil (hargs : c.id.args ≠ []) :
    c.pushedArgs args = c.id.args.map (Shape.substituteTypeParams args) := by
  simp [pushedArgs, hargs]

theorem pushedArgs_of_not_generic (hparams : c.typeParams = []) :
    c.pushedArgs args = c.id.args.map (Shape.substituteTypeParams args) := by
  simp [pushedArgs, hparams]

/-- A bare generic definition gets at least one argument. -/
theorem pushedArgs_ne_nil_of_bare (hnil : args ≠ []) (hargs : c.id.args = [])
    (hparams : c.typeParams ≠ []) : c.pushedArgs args ≠ [] := by
  rw [pushedArgs_of_bare hargs hparams, Ne, List.take_eq_nil_iff, not_or]
  exact ⟨by simpa [arity] using hparams, hnil⟩

/-- Pushing arguments through what an identity stands for is pushing them through the identity. -/
theorem Sound.agree_pushedArgs (h : c.Sound defs) (args : List Shape) :
    Levels.Agree Signature.key ((standsFor defs c.id).substitute args)
      (standsFor defs ⟨c.id.origin, c.pushedArgs args⟩) := by
  have hcovers := h.covers
  -- A bare definition takes the arguments by position, everything else has them put into its own.
  by_cases hargs : c.id.args = []
  · rw [Covers, span_of_args_nil hargs, ← h.arity_eq] at hcovers
    rw [standsFor_of_args_nil hargs]
    by_cases hparams : c.typeParams = []
    · rw [pushedArgs_of_not_generic hparams, hargs]
      apply hcovers.agree_substitute
      intro i hi
      simp [arity, hparams] at hi
    · rw [pushedArgs_of_bare hargs hparams]
      exact hcovers.agree_substitute fun i hi => (Shape.argument_take hi).symm
  · rw [Covers, span_of_args_ne_nil hargs] at hcovers
    rw [pushedArgs_of_args_ne_nil hargs]
    exact hcovers.agree_substitute_substitute args

/-- The identity of a rebuilt contract speaks for every placeholder, unless it is that of a bare generic
definition which has been given too few arguments. -/
theorem Sound.covers_pushedArgs (h : c.Sound defs) (hnil : args ≠ [])
    (henough : c.id.args = [] → (defs c.id.origin).signatureLevels.Within args.length) :
    Covers defs ⟨c.id.origin, c.pushedArgs args⟩ := by
  have hcovers := h.covers
  by_cases hargs : c.id.args = []
  · rw [Covers, span_of_args_nil hargs, ← h.arity_eq] at hcovers
    by_cases hparams : c.typeParams = []
    · rw [pushedArgs_of_not_generic hparams, hargs, Covers, List.map_nil, span_of_args_nil rfl]
      show (defs c.id.origin).signatureLevels.Within (defs c.id.origin).arity
      rwa [← h.arity_eq]
    · rw [Covers, span_of_args_ne_nil (pushedArgs_ne_nil_of_bare hnil hargs hparams)]
      show (defs c.id.origin).signatureLevels.Within (c.pushedArgs args).length
      rw [pushedArgs_of_bare hargs hparams, List.length_take]
      intro k s hs i hi
      exact Nat.lt_min.mpr ⟨hcovers k s hs i hi, henough hargs k s hs i hi⟩
  · rw [Covers, span_of_args_ne_nil hargs] at hcovers
    rw [pushedArgs_of_args_ne_nil hargs, Covers, span_of_args_ne_nil (by simpa using hargs)]
    show (defs c.id.origin).signatureLevels.Within (c.id.args.map _).length
    rwa [List.length_map]

/-- Conversely, the arguments are enough for a bare definition if the rebuilt identity speaks for every
placeholder. -/
theorem Sound.within_of_covers_pushedArgs (h : c.Sound defs) (hargs : c.id.args = [])
    (hcovers : Covers defs ⟨c.id.origin, c.pushedArgs args⟩) (hnil : args ≠ []) :
    (defs c.id.origin).signatureLevels.Within args.length := by
  by_cases hparams : c.typeParams = []
  · have hown := h.covers
    rw [Covers, span_of_args_nil hargs, ← h.arity_eq, arity, hparams] at hown
    exact hown.mono (Nat.zero_le _)
  · rw [Covers, span_of_args_ne_nil (pushedArgs_ne_nil_of_bare hnil hargs hparams)] at hcovers
    apply hcovers.mono
    show (c.pushedArgs args).length ≤ args.length
    rw [pushedArgs_of_bare hargs hparams, List.length_take]
    exact Nat.min_le_right _ _

/-! ### Images -/

/-- What pushing type arguments makes of an identity; `P` holds of everything in its lineage. -/
structure Image (defs : Nat → Contract) (args : List Shape) (P : Contract → Prop) (id : ContractId)
    (d : Contract) : Prop where
  agree : Levels.Agree Signature.key d.signatureLevels ((standsFor defs id).substitute args)
  canonical : d.Lineage (Canonical defs)
  lineage : d.Lineage P
  /-- An identity without arguments comes to speak for every placeholder only if the arguments are
  enough. -/
  enough : id.args = [] → Covers defs d.id → (defs id.origin).signatureLevels.Within args.length

variable {P Q : Contract → Prop}

/-- A contract that type arguments cannot change is its own image. -/
theorem image_of_untouched (hsound : c.Lineage (Sound defs)) (hP : c.Lineage P)
    (htouched : c.isTouched = false) : Image defs args P c.id c := by
  have hclosed : (standsFor defs c.id).Within 0 :=
    (within_zero_of_untouched (fun p hp => (hsound.parent hp).self) htouched).of_agree
      hsound.self.agree
  refine ⟨?_, hsound.mono fun a ha => ha.toCanonical, hP, ?_⟩
  · refine hsound.self.agree.trans (hclosed.agree_substitute_self ?_).symm
    intro i hi
    exact absurd hi (Nat.not_lt_zero _)
  · intro hargs _
    rw [standsFor_of_args_nil hargs] at hclosed
    exact hclosed.mono (Nat.zero_le _)

/-- The levels of a contract that is rebuilt over images. -/
theorem agree_rebuild {handle : Nat} {parents : List Contract}
    (hcanonical : ∀ p ∈ c.parents, p.Canonical defs)
    (himages : List.Forall₂ (fun p p' => Image defs args P p.id p') c.parents parents) :
    Levels.Agree Signature.key (c.rebuild args handle parents).signatureLevels
      (c.signatureLevels.substitute args) := by
  have hparents : List.Forall₂ (Levels.Agree Signature.key) (parents.map signatureLevels)
      (c.parents.map fun p => p.signatureLevels.substitute args) := by
    generalize c.parents = cs at hcanonical himages
    induction himages with
    | nil => exact .nil
    | cons himage _ ih =>
        refine .cons (himage.agree.trans ?_) (ih fun p hp => hcanonical p (List.mem_cons_of_mem _ hp))
        exact ((hcanonical _ List.mem_cons_self).agree.substitute args).symm
  have hsubstitute : c.signatureLevels.substitute args =
      Levels.cons (c.members.map (Signature.substituteTypeParams args))
        (Levels.merge (c.parents.map fun p => p.signatureLevels.substitute args)) := by
    rw [signatureLevels_eq]
    funext k
    cases k with
    | zero => rfl
    | succ k =>
        simp only [Levels.substitute, Levels.map, Levels.cons, Levels.merge, List.map_flatMap,
          List.flatMap_map]
  rw [signatureLevels_eq, hsubstitute]
  exact (Levels.Agree.merge hparents).cons _

/-- **Rebuilding a sound contract over images yields an image.** -/
theorem image_rebuild {handle : Nat} {parents : List Contract} (hsound : c.Lineage (Sound defs))
    (hnil : args ≠ []) (hP : P (c.rebuild args handle parents))
    (himages : List.Forall₂ (fun p p' => Image defs args P p.id p') c.parents parents) :
    Image defs args P c.id (c.rebuild args handle parents) := by
  have hlevels : Levels.Agree Signature.key (c.rebuild args handle parents).signatureLevels
      (c.signatureLevels.substitute args) :=
    agree_rebuild (fun p hp => (hsound.parent hp).self.toCanonical) himages
  have hagree := hlevels.trans (hsound.self.agree.substitute args)
  refine ⟨hagree, lineage_iff.mpr ⟨⟨?_, ?_⟩, ?_⟩, lineage_iff.mpr ⟨hP, ?_⟩, ?_⟩
  · exact hsound.self.typeParams_eq
  · exact hagree.trans (hsound.self.agree_pushedArgs args)
  · intro p' hp'
    obtain ⟨p, -, himage⟩ := exists_mem_of_forall₂ himages hp'
    exact himage.canonical
  · intro p' hp'
    obtain ⟨p, -, himage⟩ := exists_mem_of_forall₂ himages hp'
    exact himage.lineage
  · intro hargs hcovers
    exact hsound.self.within_of_covers_pushedArgs hargs hcovers hnil

/-- **The walk yields images.**  `Q` is what is known of the contracts that are walked over, and `P` what
is to be shown of the results. -/
theorem images_of_parents (hQ : ∀ a, Q a → a.Sound defs) (hQP : ∀ a, Q a → P a) (hnil : args ≠ [])
    (hrebuild : ∀ a handle parents, Q a → a.id ∈ c.rebuiltIds → P (a.rebuild args handle parents))
    (hparents : ∀ p ∈ c.parents, p.Lineage Q) (handle : Nat) :
    List.Forall₂ (fun p p' => Image defs args P p.id p') c.parents
        (substituteAll args c.parents ⟨[], handle⟩).1 ∧
      ∀ e ∈ (substituteAll args c.parents ⟨[], handle⟩).2.done, Image defs args P e.1 e.2 := by
  refine substituteAll_image (U := Lineage Q) (K := (· ∈ c.rebuiltIds)) (fun a ha p hp => ha.parent hp)
    (fun a ha htouched => ?_) (fun a handle parents ha hid _ himages => ?_) hparents (fun e he => ?_)
  · exact image_of_untouched (ha.mono hQ) (ha.mono hQP) htouched
  · exact image_rebuild (ha.mono hQ) hnil (hrebuild a handle parents ha.self hid) himages
  · have hmem : e.1 ∈ (substituteAll args c.parents ⟨[], handle⟩).2.done.map (·.1) :=
      List.mem_map_of_mem he
    rwa [map_done_eq_rebuiltIds] at hmem

/-! ### Instantiation -/

/-- **Instantiating is rebuilding** a bare generic definition, over what the walk makes of its
parents. -/
theorem instantiate_eq_rebuild (hargs : c.id.args = []) (hparams : c.typeParams ≠ [])
    (hlength : args.length = c.arity) (numbers : ContractNumbers) :
    c.instantiate args numbers =
      let walked := substituteAll args c.parents ⟨[], numbers.handle⟩
      .ok (c.rebuild args walked.2.handle walked.1, { numbers with handle := walked.2.handle + 1 }) := by
  have hpushed := pushedArgs_of_length_eq hargs hparams hlength
  simp only [instantiate, rebuild, hpushed, hargs, hlength]
  simp [hparams]

/-- Instantiating a bare generic definition with as many arguments as it has parameters succeeds. -/
theorem exists_instantiate_eq_ok (hargs : c.id.args = []) (hparams : c.typeParams ≠ [])
    (hlength : args.length = c.arity) (numbers : ContractNumbers) :
    ∃ c' numbers', c.instantiate args numbers = .ok (c', numbers') :=
  ⟨_, _, instantiate_eq_rebuild hargs hparams hlength numbers⟩

/-- An instantiation that succeeds was one of a bare generic definition, with as many arguments as it
has parameters. -/
theorem of_instantiate_eq_ok {numbers : ContractNumbers} {result : Contract × ContractNumbers}
    (h : c.instantiate args numbers = .ok result) :
    c.id.args = [] ∧ c.typeParams ≠ [] ∧ args.length = c.arity := by
  rw [instantiate] at h
  split at h
  · cases h
  · rename_i hbare
    split at h
    · cases h
    · rename_i hlength
      simp only [Bool.or_eq_true, not_or, List.isEmpty_iff, Bool.not_eq_true',
        Bool.not_eq_false] at hbare
      exact ⟨by simpa using hbare.2, by simpa using hbare.1, Classical.not_not.mp hlength⟩

/-- What an instantiation that succeeds has rebuilt. -/
theorem eq_rebuild_of_instantiate_eq_ok {c' : Contract} {numbers numbers' : ContractNumbers}
    (h : c.instantiate args numbers = .ok (c', numbers')) :
    c' = c.rebuild args (substituteAll args c.parents ⟨[], numbers.handle⟩).2.handle
        (substituteAll args c.parents ⟨[], numbers.handle⟩).1 ∧
      numbers' =
        { numbers with
          handle := (substituteAll args c.parents ⟨[], numbers.handle⟩).2.handle + 1 } := by
  obtain ⟨hargs, hparams, hlength⟩ := of_instantiate_eq_ok h
  rw [instantiate_eq_rebuild hargs hparams hlength] at h
  obtain ⟨rfl, rfl⟩ := Prod.mk.inj (Except.ok.inj h)
  exact ⟨rfl, rfl⟩

/-- An instantiation has the serial of its definition, and the arguments. -/
theorem id_of_instantiate_eq_ok {c' : Contract} {numbers numbers' : ContractNumbers}
    (h : c.instantiate args numbers = .ok (c', numbers')) : c'.id = ⟨c.id.origin, args⟩ := by
  obtain ⟨hargs, hparams, hlength⟩ := of_instantiate_eq_ok h
  obtain ⟨rfl, -⟩ := eq_rebuild_of_instantiate_eq_ok h
  rw [rebuild, pushedArgs_of_length_eq hargs hparams hlength]

/-- What is known of an instantiation `c'` of `c`. -/
structure Instantiated (defs : Nat → Contract) (args : List Shape) (P : Contract → Prop)
    (c c' : Contract) : Prop where
  id_eq : c'.id = ⟨c.id.origin, args⟩
  typeParams_eq : c'.typeParams = c.typeParams
  agree : Levels.Agree Signature.key c'.signatureLevels (c.signatureLevels.substitute args)
  canonical : c'.Lineage (Canonical defs)
  parents : ∀ p ∈ c'.parents, p.Lineage P
  /-- Each definition that is completed is found in the outcome; its identity there speaks for every
  placeholder only if the arguments are enough. -/
  enough : ∀ id ∈ c.rebuiltIds, id.args = [] → ∃ a, c'.Ancestor a ∧
    (Covers defs a.id → (defs id.origin).signatureLevels.Within args.length)

/-- **An instantiation requires what the arguments make of the definition's members**, if the definition
extends sound contracts only. -/
theorem instantiated_of_eq_ok (hQ : ∀ a, Q a → a.Sound defs) (hQP : ∀ a, Q a → P a)
    (hrebuild : ∀ a handle parents, Q a → a.id ∈ c.rebuiltIds → P (a.rebuild args handle parents))
    (hcanonical : c.Canonical defs) (hparents : ∀ p ∈ c.parents, p.Lineage Q) {c' : Contract}
    {numbers numbers' : ContractNumbers}
    (hok : c.instantiate args numbers = .ok (c', numbers')) :
    Instantiated defs args P c c' ∧ numbers'.origin = numbers.origin := by
  obtain ⟨hargs, hparams, hlength⟩ := of_instantiate_eq_ok hok
  have hnil : args ≠ [] := by
    rintro rfl
    exact hparams (List.length_eq_zero_iff.mp hlength.symm)
  obtain ⟨himages, hdone⟩ := images_of_parents hQ hQP hnil hrebuild hparents numbers.handle
  obtain ⟨rfl, rfl⟩ := eq_rebuild_of_instantiate_eq_ok hok
  have hpushed := pushedArgs_of_length_eq hargs hparams hlength
  have hagree : Levels.Agree Signature.key
      (c.rebuild args (substituteAll args c.parents ⟨[], numbers.handle⟩).2.handle
        (substituteAll args c.parents ⟨[], numbers.handle⟩).1).signatureLevels
      (c.signatureLevels.substitute args) :=
    agree_rebuild (fun p hp => (hQ p (hparents p hp).self).toCanonical) himages
  refine ⟨⟨?_, rfl, hagree, lineage_iff.mpr ⟨⟨hcanonical.typeParams_eq, ?_⟩, ?_⟩, ?_, ?_⟩, rfl⟩
  · rw [rebuild, hpushed]
  · have hstands := hcanonical.agree.substitute args
    rw [standsFor_of_args_nil hargs] at hstands
    show Levels.Agree Signature.key _ (standsFor defs ⟨c.id.origin, c.pushedArgs args⟩)
    rw [hpushed]
    exact hagree.trans hstands
  · intro p hp
    obtain ⟨q, -, himage⟩ := exists_mem_of_forall₂ himages hp
    exact himage.canonical
  · intro p hp
    obtain ⟨q, -, himage⟩ := exists_mem_of_forall₂ himages hp
    exact himage.lineage
  · intro id hid hidargs
    rw [← map_done_eq_rebuiltIds c numbers.handle] at hid
    obtain ⟨e, he, rfl⟩ := List.mem_map.mp hid
    obtain ⟨p, hp, ha⟩ := ancestor_of_mem_substituteAll c.parents numbers.handle e he
    exact ⟨e.2, (Ancestor.parent hp).trans ha, (hdone e he).enough hidargs⟩

end Contract

end StructuralAdapters
