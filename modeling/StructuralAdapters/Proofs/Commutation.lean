import StructuralAdapters.Proofs.Fresh
import StructuralAdapters.Proofs.Identity

/-!
# Instantiating and flattening

Instead of instantiating a generic definition and flattening the result one may flatten the definition,
put the arguments into the list, and drop the repetitions that appear.

* `ContractPool.CommutationLaw` — both ways lead to the same signatures, in the same order;
* `ContractPool.commutationLaw_iff_scoped` — the law holds, and goes on holding, exactly if every
  definition is scoped;
* `ContractPool.commutationLaw_fails` — a program that breaks it.

## Why the law fails out of scope

Whether a contract is rebuilt is decided by its own arguments, its own members and the openness of its
direct parents.  A contract with a loose placeholder is not open if its identity mentions no placeholder.
Behind a contract without members that extends it, it is never reached.
-/

namespace StructuralAdapters

namespace Contract

/-! ### The law for one definition -/

/-- What flattening first and putting in the arguments afterwards leads to. -/
def substitutedSignatures (args : List Shape) (c : Contract) : List Signature :=
  keepFirst Signature.key [] (c.signatures.map (Signature.substituteTypeParams args))

/-- Contracts whose levels agree up to the arguments have signatures that agree up to them. -/
theorem signatures_eq_substituted {c c' : Contract} {args : List Shape} (hc : c.Coherent)
    (hc' : c'.Coherent)
    (h : Levels.Agree Signature.key c'.signatureLevels (c.signatureLevels.substitute args)) :
    c'.signatures = c.substitutedSignatures args := by
  have hle := Nat.le_max_left c.weight c'.weight
  have hle' := Nat.le_max_right c.weight c'.weight
  rw [signatures_eq_flat hc' hle', h, ← Levels.keepFirst_flat, Levels.substitute, ← Levels.map_flat,
    substitutedSignatures, signatures_eq_flat hc hle, ← Levels.keepFirst_flat]
  refine (keepFirst_map_keepFirst (Signature.key_substituteTypeParams args) ?_ _).symm
  intro k hk
  exact absurd hk List.not_mem_nil

/-- Nothing of a filled placeholder is left when the arguments are put in after flattening. -/
theorem not_mem_substituted_fill {c : Contract} {s : Signature} {i : UInt16} (hi : i ∈ s.placeholders) :
    s ∉ c.substitutedSignatures (allArgs (fill i)) := by
  intro hs
  obtain ⟨s₀, -, rfl⟩ := List.mem_map.mp (mem_of_mem_keepFirst hs)
  exact not_mem_placeholders_fill i s₀ hi

/-! ### Extending a single contract -/

/-- A contract that extends a coherent one and has an identity of its own is coherent. -/
theorem Coherent.of_parent {c p : Contract} (hparents : c.parents = [p]) (hp : p.Coherent)
    (hnew : ∀ a, p.Ancestor a → a.id ≠ c.id) : c.Coherent := by
  have hancestor : ∀ {a}, c.Ancestor a → a = c ∨ p.Ancestor a := by
    intro a ha
    rw [ancestor_iff, hparents] at ha
    simpa using ha
  intro a b ha hb hid k x
  rcases hancestor ha with rfl | hpa
  · rcases hancestor hb with rfl | hpb
    · exact Iff.rfl
    · exact absurd hid.symm (hnew b hpb)
  · rcases hancestor hb with rfl | hpb
    · exact absurd hid (hnew a hpa)
    · exact hp a b hpa hpb hid k x

/-- What a contract without members shows is what its only parent shows, one level lower. -/
theorem visible_of_parent {c p : Contract} (hparents : c.parents = [p]) (hmembers : c.members = [])
    (k : Nat) : Levels.visible Signature.key c.signatureLevels (k + 1) =
      Levels.visible Signature.key p.signatureLevels k := by
  rw [signatureLevels_eq, hparents, hmembers, List.map_singleton, Levels.merge_singleton,
    Levels.visible_cons_nil]

/-! ### Loose contracts that are not open -/

/-- What becomes of a loose contract has an identity that does not speak for every placeholder either. -/
theorem Loose.not_covers_pushed {defs : Nat → Contract} {x y : Contract} (h : x.Loose defs)
    {args : List Shape} (hpushed : Pushed defs args x y) : ¬ Covers defs y.id := by
  have hargs : y.id.args = x.id.args.map (Shape.substituteTypeParams args) := by
    rw [hpushed.id_eq, h.pushedArgs_eq]
  have horigin : y.id.origin = x.id.origin := by rw [hpushed.id_eq]
  have hspan : span defs y.id = span defs x.id := by
    by_cases hnil : x.id.args = []
    · rw [span_of_args_nil hnil, span_of_args_nil (by rw [hargs, hnil, List.map_nil]), horigin]
    · rw [span_of_args_ne_nil hnil, span_of_args_ne_nil (by simpa [hargs] using hnil), hargs,
        List.length_map]
  intro hcovers
  apply h.not_covers
  rwa [Covers, hspan, horigin] at hcovers

/-- A loose contract is not open any more when its identity's arguments have been filled with names. -/
theorem Loose.isOpen_pushed {defs : Nat → Contract} {x y : Contract} (h : x.Loose defs)
    {f : UInt16 → Shape} (hpushed : Pushed defs (allArgs f) x y) (hsmall : x.id.args.length ≤ 65536)
    (hnamed : ∀ i : UInt16, i.toNat < x.id.args.length → ∃ name, f i = .named name) :
    y.isOpen = false := by
  have hargs : y.id.args = x.id.args.map (Shape.substituteTypeParams (allArgs f)) := by
    rw [hpushed.id_eq, h.pushedArgs_eq]
  rw [isOpen, Bool.or_eq_false_iff]
  constructor
  · by_cases hnil : x.id.args = []
    · simp [hpushed.typeParams_eq, h.not_bare hnil]
    · simp [hargs, hnil]
  · rw [List.any_eq_false]
    intro t ht
    rw [hargs, h.args_eq, placeholderArgs] at ht
    simp only [List.mem_map, List.mem_range] at ht
    obtain ⟨_, ⟨j, hj, rfl⟩, rfl⟩ := ht
    have hj' : (UInt16.ofNat j).toNat < x.id.args.length := by
      rwa [UInt16.toNat_ofNat_of_lt' (Nat.lt_of_lt_of_le hj hsmall)]
    obtain ⟨name, hname⟩ := hnamed _ hj'
    rw [Shape.substituteTypeParams_eq_bind, Shape.bind, argument_allArgs, hname]
    simp [Shape.hasTypeParams]

/-- The names that a contract requires. -/
def requiredNames (c : Contract) : List String :=
  (c.signatureLevels.flat c.weight).flatMap fun s => s.key.names

theorem names_subset_requiredNames {c : Contract} {k : Nat} {s : Signature}
    (hs : s ∈ c.signatureLevels k) : s.key.names ⊆ requiredNames c := by
  have hlt : k < c.weight := by
    apply Nat.lt_of_not_le
    intro hle
    rw [signatureLevels_eq_nil hle] at hs
    exact List.not_mem_nil hs
  exact fun x hx => List.mem_flatMap.mpr ⟨s, Levels.mem_flat.mpr ⟨k, hlt, hs⟩, hx⟩

/-- New names keep different keys apart, so what is visible stays visible. -/
theorem mem_visible_substitute {x : Contract} {f : UInt16 → Shape}
    (hfresh : Shape.IsFresh (requiredNames x) f) {k : Nat} {s : Signature}
    (hs : s ∈ Levels.visible Signature.key x.signatureLevels k) :
    s.substituteTypeParams (allArgs f) ∈
      Levels.visible Signature.key (x.signatureLevels.substitute (allArgs f)) k := by
  refine Levels.mem_visible_map_of_injOn (Signature.key_substituteTypeParams (allArgs f))
    (S := fun key => key.names ⊆ requiredNames x) ?_ ?_ hs
  · intro a b ha hb heq
    refine SignatureKey.mapShapes_injOn hfresh ?_ ha hb heq
    intro t
    rw [Shape.substituteTypeParams_eq_bind]
    refine congrArg (fun g => t.bind g .methodParam) ?_
    funext j
    exact argument_allArgs f j
  · intro j a ha
    exact names_subset_requiredNames ha

end Contract

namespace ContractPool

open Contract

variable {pool : ContractPool}

/-! ### The law in scope -/

/-- Every generic definition of the pool can be instantiated with as many arguments as it has
parameters, and flattening the result is putting the arguments into the flattened definition. -/
def CommutationLaw (pool : ContractPool) : Prop :=
  ∀ c ∈ pool.contracts, c.id.args = [] → c.typeParams ≠ [] →
    ∀ args : List Shape, args.length = c.arity →
      ∃ c' numbers, c.instantiate args pool.numbers = .ok (c', numbers) ∧
        c'.signatures = c.substitutedSignatures args

theorem Consistent.commutationLaw {defs : Nat → Contract} (h : Consistent defs pool) :
    pool.CommutationLaw := by
  intro c hc hargs hparams args hlength
  obtain ⟨c', numbers, hok⟩ := exists_instantiate_eq_ok hargs hparams hlength pool.numbers
  obtain ⟨hknown, -, hagree⟩ := known_of_instantiate (h c hc) hok
  refine ⟨c', numbers, hok, signatures_eq_substituted ?_ ?_ hagree⟩
  · exact coherent_of_canonical ((h c hc).mono fun _ ha => ha.toCanonical)
  · exact coherent_of_canonical (hknown.mono fun _ ha => ha.toCanonical)

/-! ### The law out of scope -/

/-- From a loose contract one obtains one that is not open but still shows a placeholder: its own
arguments are filled with new names. -/
theorem exists_closed_of_loose {defs : Nat → Contract} {x : Contract} (hx : x ∈ pool.contracts)
    (hloose : x.Loose defs) :
    ∃ pool' y, Continues Scoped pool pool' ∧ y ∈ pool'.contracts ∧ y.Coherent ∧ y.isOpen = false ∧
      ∃ k, ∃ s ∈ Levels.visible Signature.key y.signatureLevels k, ∃ i, i ∈ s.placeholders := by
  obtain ⟨k, s, hs, i, hi, hle⟩ := hloose.exists_placeholder
  obtain ⟨f, hfresh, hnamed, hkept⟩ := Shape.exists_isFresh (requiredNames x) x.id.args.length
  obtain ⟨pool', y, hcontinues, hy, hpushed⟩ :=
    exists_pushed hx hloose.parents hloose.isTouched f
  have hsmall : x.id.args.length ≤ 65536 := Nat.le_trans hle (Nat.le_of_lt i.toNat_lt)
  refine ⟨pool', y, hcontinues, hy, ?_, hloose.isOpen_pushed hpushed hsmall hnamed, k,
    s.substituteTypeParams (allArgs f), ?_, i, ?_⟩
  · refine coherent_of_new (fun p hp => (hpushed.parents p hp).mono fun _ ha => ha.toCanonical) ?_
    intro p hp a ha hsame
    exact hloose.not_covers_pushed hpushed (hsame ▸ (hpushed.parents p hp a ha).covers)
  · rw [show Levels.visible Signature.key y.signatureLevels = _ from hpushed.agree]
    exact mem_visible_substitute hfresh hs
  · rw [Signature.mem_placeholders_substituteTypeParams]
    refine ⟨i, hi, ?_⟩
    rw [argument_allArgs, hkept i hle]
    exact List.mem_cons_self

/-- **A placeholder that is never reached.**  Two definitions without members stand above a contract that
is not open.  The lower one is not rebuilt, so that a placeholder of the contract is still there after the
upper one has been instantiated. -/
theorem exists_not_commutationLaw (hpool : pool.Aged) {y : Contract} (hy : y ∈ pool.contracts)
    (hcoherent : y.Coherent) (hopen : y.isOpen = false) {k : Nat} {s : Signature}
    (hs : s ∈ Levels.visible Signature.key y.signatureLevels k) {i : UInt16}
    (hi : i ∈ s.placeholders) : ∃ pool', Continues Scoped pool pool' ∧ ¬ pool'.CommutationLaw := by
  let lower := ((probe y).build pool.numbers).1
  let pool₁ := pool.build (probe y)
  let upper := ((probe lower).build pool₁.numbers).1
  have hscoped : ∀ x numbers, ((probe x).build numbers).1.Scoped := fun x numbers =>
    scoped_of_large (Nat.le_of_eq (arity_build_probe x numbers).symm)
  have hlower : Step Scoped pool pool₁ := by
    refine .build pool (probe y) ?_ (hscoped y _)
    intro p hp
    rwa [List.mem_singleton.mp hp]
  have hupper : Step Scoped pool₁ (pool₁.build (probe lower)) := by
    refine .build pool₁ (probe lower) ?_ (hscoped lower _)
    intro p hp
    rw [List.mem_singleton.mp hp]
    exact List.mem_cons_self
  refine ⟨_, .tail (.single hlower) hupper, ?_⟩
  intro hlaw
  obtain ⟨result, numbers, hok, horigin, hmembers, hparents⟩ :=
    instantiate_probe lower (length_allArgs (fill i)) pool₁.numbers (pool₁.build (probe lower)).numbers
  obtain ⟨-, hparams, hlength⟩ := of_instantiate_eq_ok hok
  obtain ⟨result', numbers', hok', hsignatures⟩ :=
    hlaw upper List.mem_cons_self rfl hparams (allArgs (fill i)) hlength
  obtain ⟨rfl, -⟩ := Prod.mk.inj (Except.ok.inj (hok.symm.trans hok'))
  have huntouched : lower.isTouched = false := by
    show (false || (false || y.isOpen) || false) = false
    rw [hopen]
    rfl
  rw [substitute_of_untouched rfl huntouched] at hparents
  -- Both definitions took serials that nothing below them has.
  have hlowerCoherent : lower.Coherent := by
    refine hcoherent.of_parent rfl ?_
    intro a ha hid
    exact absurd (congrArg ContractId.origin hid) (Nat.ne_of_lt (hpool y hy a ha))
  have hresultCoherent : result.Coherent := by
    refine hlowerCoherent.of_parent hparents ?_
    intro a ha hid
    have hold := hlower.aged hpool lower List.mem_cons_self a ha
    exact absurd ((congrArg ContractId.origin hid).trans horigin) (Nat.ne_of_lt hold)
  have hmem : s ∈ result.signatures := by
    refine (mem_signatures_iff hresultCoherent).mpr ⟨k + 1 + 1, ?_⟩
    rwa [visible_of_parent hparents hmembers, visible_of_parent rfl rfl]
  rw [hsignatures] at hmem
  exact not_mem_substituted_fill hi hmem

/-- **Instantiating and flattening commute exactly in scope.**  Whatever contracts a program has built,
instantiated and stepped to: all its definitions are scoped if and only if instantiating any generic
definition leads to the signatures that one gets from the flattened definition, now and in every
continuation with scoped definitions. -/
theorem commutationLaw_iff_scoped (h : Reachable pool) :
    (∀ c ∈ pool.built, c.Scoped) ↔
      ∀ pool', Continues Scoped pool pool' → pool'.CommutationLaw := by
  constructor
  · intro hbuilt pool' hcontinues
    obtain ⟨defs, hconsistent⟩ := h.exists_consistent hbuilt hcontinues
    exact hconsistent.commutationLaw
  · intro hlaw
    by_contra hbuilt
    obtain ⟨defs, bound, c, hc, hunscoped⟩ := h.exists_unscoped hbuilt
    obtain ⟨pool₁, x, hfirst, hx, hloose⟩ := hunscoped.exists_loose hc
    obtain ⟨pool₂, y, hsecond, hy, hcoherent, hopen, k, s, hs, i, hi⟩ :=
      exists_closed_of_loose hx hloose
    have haged : pool₂.Aged := hsecond.aged (hfirst.aged h.aged)
    obtain ⟨pool₃, hthird, hnot⟩ := exists_not_commutationLaw haged hy hcoherent hopen hs hi
    exact hnot (hlaw pool₃ ((hfirst.trans hsecond).trans hthird))

/-! ### A program that breaks the law -/

/-- A contract without parameters and members that extends the reader. -/
def rack : Contract :=
  { handle := 1, id := ⟨2, []⟩, name := "Rack", typeParams := [], members := []
    parents := [reader 0 (.typeParam 0)] }

/-- A generic contract without members that extends the rack. -/
def cabinet : Contract :=
  { handle := 2, id := ⟨3, []⟩, name := "Cabinet", typeParams := ["T"], members := []
    parents := [rack] }

/-- The reader mentions a placeholder without having a parameter, and the rack stands between it and the
cabinet. -/
def hidden : ContractPool :=
  { built := [cabinet, rack, reader 0 (.typeParam 0)]
    contracts := [cabinet, rack, reader 0 (.typeParam 0)]
    numbers := { origin := 4, handle := 3 } }

theorem reachable_hidden : hidden.Reachable := by
  let readerDraft : ContractDraft :=
    { name := "Reader"
      members := [.method { Signature.method "read" with returns := .typeParam 0 }] }
  let rackDraft : ContractDraft := { name := "Rack", parents := [reader 0 (.typeParam 0)] }
  let cabinetDraft : ContractDraft := { name := "Cabinet", typeParams := ["T"], parents := [rack] }
  have hreader : Continues (fun _ => True) (initial {}) ((initial {}).build readerDraft) :=
    .single (.build _ readerDraft (fun p hp => absurd hp List.not_mem_nil) trivial)
  have hrack := hreader.tail (.build _ rackDraft (fun p hp => hp) trivial)
  refine ⟨{}, hrack.tail (.build _ cabinetDraft ?_ trivial)⟩
  intro p hp
  rw [List.mem_singleton.mp hp]
  exact List.mem_cons_self

/-- Instantiated or not, the cabinet requires what the reader requires as it stands. -/
theorem signatures_cabinet (handle : Nat) (args : List Shape) :
    { cabinet with handle, id := ⟨3, args⟩ }.signatures =
      [{ Signature.method "read" with returns := .typeParam 0 }] := by
  simp [cabinet, rack, reader, signatures, requirements, breadthFirst, declared,
    Requirement.firstOfEachKey]

/-- The instantiated cabinet extends the rack as it is: the placeholder has not been filled. -/
theorem not_commutationLaw_hidden : ¬ hidden.CommutationLaw := by
  intro hlaw
  obtain ⟨result, numbers, hok, hsignatures⟩ :=
    hlaw cabinet List.mem_cons_self rfl (by decide) [.int] rfl
  have hresult : cabinet.instantiate [.int] hidden.numbers =
      .ok ({ cabinet with handle := 3, id := ⟨3, [.int]⟩ }, { origin := 4, handle := 4 }) := rfl
  obtain ⟨rfl, -⟩ := Prod.mk.inj (Except.ok.inj (hresult.symm.trans hok))
  have hdefinition : cabinet.signatures = _ := signatures_cabinet 2 []
  rw [signatures_cabinet, substitutedSignatures, hdefinition] at hsignatures
  revert hsignatures
  decide

/-- The law is no invariant of programs that build whatever they like. -/
theorem commutationLaw_fails : ¬ ∀ pool, Reachable pool → pool.CommutationLaw :=
  fun hlaw => not_commutationLaw_hidden (hlaw hidden reachable_hidden)

/-- One of the definitions of the program above is out of scope, for the law fails. -/
theorem hidden_not_scoped : hidden.Reachable ∧ ¬ ∀ c ∈ hidden.built, c.Scoped :=
  ⟨reachable_hidden, fun hbuilt =>
    not_commutationLaw_hidden ((commutationLaw_iff_scoped reachable_hidden).mp hbuilt hidden .refl)⟩

end ContractPool

end StructuralAdapters
