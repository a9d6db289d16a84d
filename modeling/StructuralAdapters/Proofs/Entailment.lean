import StructuralAdapters.Proofs.Keys
import StructuralAdapters.Proofs.OpenContracts
import StructuralAdapters.Proofs.Traversal

/-!
# Entailment between contracts

A contract *entails* another one if every type that satisfies the one satisfies the other.

* `TypeDescriptor.Satisfies` — each required signature has a single candidate among the members;
* `Contract.Entails`, `Contract.entails_iff` — entailment, requirement by requirement and by types;
* `Contract.entails_ancestor_iff` — when a contract entails what it extends;
* `Synthesizer.Honest` — the cached adapter types were generated for what they are handed out for;
* `Contract.Carries`, `Contract.carries_ancestor_iff` — the same for the replies of synthesizers;
* `Program.carriesAncestors` — in which programs what a contract extends never lacks an adapter type;
* `Redeclared.extension_not_satisfied` — a type that satisfies a contract and not what it extends;
* `Crowding.not_satisfied_of_confused`, `Shells.not_carried_after_store`,
  `Shells.not_carried_after_shared_identity` — the same without strict mode, where one of the conditions on
  generic parameters and on caches is missing.

## Returned shapes

Of several members with one structural key a contract requires the nearest, and a key says nothing about
what is returned.  So a redeclaration may change the returned shape, and then a type that satisfies the
extending contract in strict mode does not satisfy the extended one.  This is all that can go wrong, as
long as a key tells generic arities apart and caches hold what they should.
-/

namespace StructuralAdapters

/-! ### Matching is an equivalence -/

namespace Signature

variable {strict : Bool} {s t u : Signature}

/-- Signatures match if they have one key, one generic arity and, in strict mode, one returned shape. -/
theorem accepts_iff_key : s.accepts strict t = true ↔
    s.key = t.key ∧ s.genericArity = t.genericArity ∧ (strict = true → s.returns = t.returns) := by
  constructor
  · intro h
    obtain ⟨-, harity, -, hreturns⟩ := accepts_iff.mp h
    exact ⟨(key_eq_of_accepts h).symm, harity.symm, fun hstrict => (hreturns hstrict).symm⟩
  · rintro ⟨hkey, harity, hreturns⟩
    obtain ⟨hname, -, hparams⟩ := key_eq_iff.mp hkey
    exact accepts_iff.mpr ⟨hname.symm, harity.symm, hparams.symm, fun hstrict => (hreturns hstrict).symm⟩

theorem accepts_refl (strict : Bool) (s : Signature) : s.accepts strict s = true :=
  accepts_iff_key.mpr ⟨rfl, rfl, fun _ => rfl⟩

theorem accepts_symm (h : s.accepts strict t = true) : t.accepts strict s = true := by
  obtain ⟨hkey, harity, hreturns⟩ := accepts_iff_key.mp h
  exact accepts_iff_key.mpr ⟨hkey.symm, harity.symm, fun hstrict => (hreturns hstrict).symm⟩

theorem accepts_trans (h : s.accepts strict t = true) (h' : t.accepts strict u = true) :
    s.accepts strict u = true := by
  obtain ⟨hkey, harity, hreturns⟩ := accepts_iff_key.mp h
  obtain ⟨hkey', harity', hreturns'⟩ := accepts_iff_key.mp h'
  exact accepts_iff_key.mpr ⟨hkey.trans hkey', harity.trans harity',
    fun hstrict => (hreturns hstrict).trans (hreturns' hstrict)⟩

/-- Signatures that match accept the same candidates. -/
theorem accepts_congr (h : s.accepts strict t = true) (u : Signature) :
    s.accepts strict u = t.accepts strict u := by
  rw [Bool.eq_iff_iff]
  exact ⟨accepts_trans (accepts_symm h), accepts_trans h⟩

end Signature

/-! ### Types that satisfy a contract -/

namespace TypeDescriptor

variable {t : TypeDescriptor} {c d : Contract} {strict : Bool}

/-- Each signature that the contract requires has a single candidate. -/
def Satisfies (strict : Bool) (t : TypeDescriptor) (c : Contract) : Prop :=
  ∀ s ∈ c.signatures, ∃ m, t.candidates strict s = [m]

theorem candidates_congr {s s' : Signature} (h : s.accepts strict s' = true) :
    t.candidates strict s = t.candidates strict s' :=
  List.filter_congr fun m _ => Signature.accepts_congr h m.signature

/-- A type satisfies a contract if its requirements can be bound. -/
theorem satisfies_iff (settings : Settings) :
    t.Satisfies settings.strictReturns c ↔
      ∃ bound, t.resolveAll settings c.requirements = .ok bound := by
  simp only [resolveAll_eq_ok_iff]
  constructor
  · intro h
    have hbind : ∀ r ∈ c.requirements, ∃ m, t.candidates settings.strictReturns r.signature = [m] :=
      fun r hr => h _ (List.mem_map_of_mem hr)
    choose member hmember using hbind
    refine ⟨c.requirements.attach.map fun r => (r.1, member r.1 r.2), ?_, ?_⟩
    · simp
    · intro p hp
      obtain ⟨r, -, rfl⟩ := List.mem_map.mp hp
      exact hmember r.1 r.2
  · rintro ⟨bound, hmap, hcandidates⟩ s hs
    obtain ⟨r, hr, rfl⟩ := List.mem_map.mp hs
    obtain ⟨p, hp, rfl⟩ := List.mem_map.mp (hmap ▸ hr)
    exact ⟨p.2, hcandidates p hp⟩

/-- Where no key is repeated, a member that matches is the only one. -/
theorem candidates_of_nodup (hkeys : (t.members.map Member.key).Nodup) {s : Signature} {m : Member}
    (hm : m ∈ t.members) (haccepts : s.accepts strict m.signature = true) :
    t.candidates strict s = [m] := by
  apply filter_of_nodup hkeys hm
  intro m' hm'
  constructor
  · intro haccepts'
    exact (Signature.key_eq_of_accepts haccepts').trans (Signature.key_eq_of_accepts haccepts).symm
  · intro hkey
    exact List.inj_on_of_nodup_map hkeys hm' hm hkey ▸ haccepts

/-- An adapter type can be generated if the contract is not open and the type satisfies it. -/
theorem exists_generate_iff {settings : Settings} {key : TypeKey} :
    (∃ a, AdapterType.generate settings c t key = .ok a) ↔
      c.isOpen = false ∧ t.Satisfies settings.strictReturns c := by
  simp only [AdapterType.generate_eq_ok_iff, satisfies_iff]
  constructor
  · rintro ⟨_, hopen, bound, hbound, -⟩
    exact ⟨hopen, bound, hbound⟩
  · rintro ⟨hopen, bound, hbound⟩
    exact ⟨_, hopen, bound, hbound, rfl⟩

end TypeDescriptor

/-! ### Entailment -/

namespace Contract

variable {c b : Contract} {strict : Bool}

/-- Whatever `b` requires, `c` requires a signature that matches it. -/
def Entails (strict : Bool) (c b : Contract) : Prop :=
  ∀ s ∈ b.signatures, ∃ s' ∈ c.signatures, s'.accepts strict s = true

/-- The type with a member for each requirement satisfies the contract. -/
theorem satisfies_offer (strict : Bool) (c : Contract) (key : TypeKey) :
    ((c.offer strict).build key).Satisfies strict c :=
  (TypeDescriptor.satisfies_iff { strictReturns := strict }).mpr
    ⟨_, resolveAll_offer { strictReturns := strict } c key⟩

/-- **A contract entails another one if every type that satisfies it satisfies the other.** -/
theorem entails_iff :
    c.Entails strict b ↔ ∀ t : TypeDescriptor, t.Satisfies strict c → t.Satisfies strict b := by
  constructor
  · intro h t ht s hs
    obtain ⟨s', hs', haccepts⟩ := h s hs
    exact TypeDescriptor.candidates_congr haccepts ▸ ht s' hs'
  · intro h s hs
    -- The members offered for `c` are all there is, so one of them stands for `s`.
    obtain ⟨m, hm⟩ := h _ (c.satisfies_offer strict ⟨0⟩) s hs
    obtain ⟨hmem, haccepts⟩ := TypeDescriptor.accepts_of_candidates hm
    rw [members_offer] at hmem
    obtain ⟨r, hr, rfl⟩ := List.mem_map.mp hmem
    exact ⟨r.signature, List.mem_map_of_mem hr,
      Signature.accepts_trans (Signature.accepts_offered strict r.signature)
        (Signature.accepts_symm haccepts)⟩

/-! ### What a contract extends -/

/-- Every signature declared in the lineage has fewer generic parameters than a key can count. -/
def FewGenerics (c : Contract) : Prop :=
  c.Lineage fun a => ∀ s ∈ a.members, s.genericArity < 65536

theorem FewGenerics.ancestor (h : c.FewGenerics) (hb : c.Ancestor b) : b.FewGenerics :=
  Lineage.ancestor h hb

instance {P : Contract → Prop} [DecidablePred P] (c : Contract) : Decidable (c.Lineage P) :=
  decidable_of_iff (∀ a ∈ c.nearestFirst, P a) (forall_congr' fun _ => imp_congr_left mem_nearestFirst)

instance (c : Contract) : Decidable c.FewGenerics :=
  inferInstanceAs (Decidable (c.Lineage fun a => ∀ s ∈ a.members, s.genericArity < 65536))

theorem nodup_keys_signatures (c : Contract) : (c.signatures.map Signature.key).Nodup := by
  rw [signatures, List.map_map]
  exact c.nodup_keys_requirements

/-- A contract that extends nothing and declares no key twice requires the signatures that it declares. -/
theorem signatures_of_root (hparents : c.parents = []) (hkeys : (c.members.map Signature.key).Nodup) :
    c.signatures = c.members := by
  rw [signatures, requirements_of_root hparents hkeys, declared, List.map_map]
  exact List.map_id _

theorem FewGenerics.genericArity_lt (h : c.FewGenerics) (hc : c.Unambiguous) {s : Signature}
    (hs : s ∈ c.signatures) : s.genericArity < 65536 := by
  obtain ⟨r, hr, rfl⟩ := List.mem_map.mp hs
  obtain ⟨k, a, ha⟩ := (mem_requirements_iff hc).mp hr
  exact h a ha.ancestor _ (List.mem_of_find?_eq_some ha.first)

/-- What an ancestor requires, the contract requires under the same key. -/
theorem exists_key_eq_of_ancestor (hc : c.Unambiguous) (hb : c.Ancestor b) {s : Signature}
    (hs : s ∈ b.signatures) : ∃ s' ∈ c.signatures, s'.key = s.key := by
  obtain ⟨r, hr, rfl⟩ := List.mem_map.mp hs
  obtain ⟨r', hr', hkey⟩ :=
    List.mem_map.mp (keys_requirements_subset hc hb (List.mem_map_of_mem (f := Requirement.key) hr))
  exact ⟨r'.signature, List.mem_map_of_mem hr', hkey⟩

/-- **A contract entails what it extends, up to returned shapes.** -/
theorem entails_ancestor_iff (hc : c.Unambiguous) (hfew : c.FewGenerics) (hb : c.Ancestor b) :
    c.Entails strict b ↔ (strict = true →
      ∀ s ∈ b.signatures, ∀ s' ∈ c.signatures, s'.key = s.key → s'.returns = s.returns) := by
  constructor
  · intro h hstrict s hs s' hs' hkey
    obtain ⟨s'', hs'', haccepts⟩ := h s hs
    obtain ⟨hkey'', -, hreturns⟩ := Signature.accepts_iff_key.mp haccepts
    -- No key is required twice, so what matches `s` is what has its key.
    obtain rfl : s' = s'' :=
      List.inj_on_of_nodup_map c.nodup_keys_signatures hs' hs'' (hkey.trans hkey''.symm)
    exact hreturns hstrict
  · intro h s hs
    obtain ⟨s', hs', hkey⟩ := exists_key_eq_of_ancestor hc hb hs
    have harity : s'.genericArity = s.genericArity :=
      Signature.genericArity_eq_of_key_eq (hfew.genericArity_lt hc hs')
        ((hfew.ancestor hb).genericArity_lt (hc.ancestor hb) hs) hkey
    exact ⟨s', hs', Signature.accepts_iff_key.mpr ⟨hkey, harity, fun hstrict => h hstrict s hs s' hs' hkey⟩⟩

end Contract

/-! ### Replies of synthesizers -/

namespace Synthesizer

variable {s : Synthesizer} {c : Contract} {t : TypeDescriptor} {supply : Supply}

/-- What the cache holds for the contract and the type was generated under the synthesizer's settings, for
the type and for a contract that requires the same. -/
def Honest (s : Synthesizer) (c : Contract) (t : TypeDescriptor) : Prop :=
  ∀ a, s.cache.lookup (.of c t) = some a →
    ∃ d key, d.signatures = c.signatures ∧ AdapterType.generate s.settings d t key = .ok a

/-- Where nothing is cached, nothing is wrong. -/
theorem honest_of_miss (hmiss : s.cache.lookup (.of c t) = none) : s.Honest c t := by
  intro a hfound
  rw [hmiss] at hfound
  cases hfound

/-- A synthesizer that has not been asked yet is honest. -/
theorem honest_of_empty (hcache : s.cache = {}) (c : Contract) (t : TypeDescriptor) : s.Honest c t := by
  apply honest_of_miss
  rw [hcache]
  rfl

/-- Without a cached adapter type the reply is what generating one gives. -/
theorem result_adapterFor_of_miss (hopen : c.isOpen = false)
    (hmiss : s.cache.lookup (.of c t) = none) (supply : Supply) :
    (s.adapterFor c t supply).result = AdapterType.generate s.settings c t supply.typeKey := by
  unfold adapterFor SlotCache.getOrGenerate Supply.generate
  simp only [hopen, Bool.false_eq_true, if_false, SlotCache.lookup_claim, hmiss]
  cases AdapterType.generate s.settings c t supply.typeKey <;> rfl

/-- There is an adapter type for each type that satisfies the contract. -/
theorem exists_adapterFor (hopen : c.isOpen = false) (ht : t.Satisfies s.settings.strictReturns c)
    (supply : Supply) : ∃ a, (s.adapterFor c t supply).result = .ok a := by
  cases hfound : s.cache.lookup (.of c t) with
  | some a => exact ⟨a, by rw [adapterFor_of_lookup hopen hfound]⟩
  | none =>
      rw [result_adapterFor_of_miss hopen hfound]
      exact TypeDescriptor.exists_generate_iff.mpr ⟨hopen, ht⟩

/-- An honest synthesizer has an adapter type only for types that satisfy the contract. -/
theorem Honest.satisfies (h : s.Honest c t) {a : AdapterType}
    (ha : (s.adapterFor c t supply).result = .ok a) : t.Satisfies s.settings.strictReturns c := by
  cases hopen : c.isOpen with
  | true =>
      rw [adapterFor_of_open hopen] at ha
      cases ha
  | false =>
      cases hfound : s.cache.lookup (.of c t) with
      | some a' =>
          obtain ⟨d, key, hsignatures, hgenerate⟩ := h a' hfound
          have hd : t.Satisfies s.settings.strictReturns d :=
            (TypeDescriptor.exists_generate_iff.mp ⟨a', hgenerate⟩).2
          unfold TypeDescriptor.Satisfies at hd
          rwa [hsignatures] at hd
      | none =>
          rw [result_adapterFor_of_miss hopen hfound] at ha
          exact (TypeDescriptor.exists_generate_iff.mp ⟨a, ha⟩).2

end Synthesizer

/-- Where equal identities mean equal requirements and nothing is put into caches by hand, the synthesizers
of a program are honest. -/
theorem Program.Sound.honest {known : Contract → Prop} {settings : Nat → Settings} {p : Program}
    (h : p.Sound known (fun _ _ => False) settings)
    (hlaw : ∀ c d, known c → known d → c.id = d.id → c.signatures = d.signatures) (i : Nat) {c : Contract}
    (hc : known c) {t : TypeDescriptor} (ht : t ∈ p.types) : (p.synthesizers i).Honest c t := by
  intro a hfound
  obtain ⟨hknown, hid, key, hgenerate⟩ := h.generated_of_lookup (fun _ _ => not_false) ht hfound
  rw [← (h.kept i).settings_eq] at hgenerate
  exact ⟨a.contract, key, hlaw _ _ hknown hc hid, hgenerate⟩

namespace Contract

variable {c b : Contract}

/-- Under these settings, whichever type an honest synthesizer has an adapter type for `c` for, every
synthesizer has one for `b`. -/
def Carries (settings : Settings) (c b : Contract) : Prop :=
  ∀ (s s' : Synthesizer) (t : TypeDescriptor) (supply supply' : Supply),
    s.settings = settings → s'.settings = settings → s.Honest c t →
      (∃ a, (s.adapterFor c t supply).result = .ok a) →
        ∃ a, (s'.adapterFor b t supply').result = .ok a

/-- Among contracts that are not open, replies follow entailment. -/
theorem carries_iff_entails (hc : c.isOpen = false) (hb : b.isOpen = false) (settings : Settings) :
    c.Carries settings b ↔ c.Entails settings.strictReturns b := by
  rw [entails_iff]
  constructor
  · intro h t ht
    let s : Synthesizer := { settings }
    obtain ⟨a, ha⟩ := h s s t {} {} rfl rfl (s.honest_of_empty rfl c t) (s.exists_adapterFor hc ht {})
    exact (s.honest_of_empty rfl b t).satisfies ha
  · rintro h s s' t supply supply' rfl hsettings hhonest ⟨a, ha⟩
    exact s'.exists_adapterFor hb (hsettings ▸ h t (hhonest.satisfies ha)) supply'

/-- **Satisfying a contract means satisfying what it extends, up to returned shapes.**  Whichever type has
an adapter type for a contract has one for each contract that it extends; in strict mode this holds if and
only if no requirement of the extended contract was replaced by one that returns another shape. -/
theorem carries_ancestor_iff (hc : c.Unambiguous) (hfew : c.FewGenerics) (hopen : c.isOpen = false)
    (hb : c.Ancestor b) (hbopen : b.isOpen = false) (settings : Settings) :
    c.Carries settings b ↔ (settings.strictReturns = true →
      ∀ s ∈ b.signatures, ∀ s' ∈ c.signatures, s'.key = s.key → s'.returns = s.returns) := by
  rw [carries_iff_entails hopen hbopen, entails_ancestor_iff hc hfew hb]

end Contract

/-! ### Programs -/

namespace Program

/-- Whichever program can be reached, a synthesizer without strict mode that has an adapter type for a contract
has one for each contract that it extends. -/
def CarriesAncestors (known : Contract → Prop) (storable : AdapterKey → AdapterType → Prop) : Prop :=
  ∀ settings p, Reachable known storable settings p →
    ∀ i c b t, known c → t ∈ p.declared → c.Unambiguous → c.FewGenerics → c.isOpen = false →
      c.Ancestor b → b.isOpen = false → (settings i).strictReturns = false →
        (∃ a, ((p.synthesizers i).adapterFor c t p.supply).result = .ok a) →
          ∃ a, ((p.synthesizers i).adapterFor b t p.supply).result = .ok a

/-- **Programs carry what contracts extend**, where equal identities mean equal requirements and nothing is
put into caches by hand. -/
theorem carriesAncestors {known : Contract → Prop}
    (hlaw : ∀ c d, known c → known d → c.id = d.id → c.signatures = d.signatures) :
    CarriesAncestors known fun _ _ => False := by
  intro settings p hp i c b t hknown ht hc hfew hopen hb hbopen hloose
  have hsettings : (p.synthesizers i).settings = settings i := (hp.sound.kept i).settings_eq
  have hentails : c.Entails (settings i).strictReturns b := by
    refine (Contract.entails_ancestor_iff hc hfew hb).mpr fun hstrict => ?_
    cases hloose.symm.trans hstrict
  exact (Contract.carries_iff_entails hopen hbopen _).mpr hentails _ _ t _ _ hsettings hsettings
    (hp.sound.honest hlaw i hknown (mem_types.mpr (.inl ht)))

end Program

/-! ### A member that is declared again -/

namespace Redeclared

/-- `Size()` with the given returned shape. -/
def size (returns : Shape) : Signature := { Signature.method "Size" with returns }

def sized : Contract :=
  { handle := 0, id := ⟨1, []⟩, name := "Sized", typeParams := [], parents := []
    members := [size .float] }

/-- A contract that extends it and declares the member again, with a whole number. -/
def counted : Contract :=
  { handle := 1, id := ⟨2, []⟩, name := "Counted", typeParams := [], parents := [sized]
    members := [size .int] }

/-- A source type that counts. -/
def basket : TypeDescriptor :=
  TypeDraft.build { name := "Basket", members := [.method (size .int) [.produce (.int 3)]] } ⟨1⟩

theorem signatures_sized : sized.signatures = [size .float] :=
  Contract.signatures_of_root rfl (List.nodup_singleton _)

theorem signatures_counted : counted.signatures = [size .int] := by
  have hkey : (size .float).key = (size .int).key := rfl
  simp [counted, sized, Contract.signatures, Contract.requirements, Contract.breadthFirst,
    Contract.declared, Contract.displayName, Requirement.firstOfEachKey, Requirement.key, hkey]

theorem unambiguous_counted : counted.Unambiguous := by decide +kernel

theorem fewGenerics_counted : counted.FewGenerics := by decide +kernel

theorem ancestor_sized : counted.Ancestor sized := .parent List.mem_cons_self

/-- The contract carries what it extends as long as returned shapes are not compared. -/
theorem counted_carries_sized : counted.Unambiguous ∧ counted.FewGenerics ∧ counted.Ancestor sized ∧
    counted.Carries {} sized ∧ ¬ counted.Carries { strictReturns := true } sized := by
  have hiff := Contract.carries_ancestor_iff unambiguous_counted fewGenerics_counted rfl ancestor_sized rfl
  refine ⟨unambiguous_counted, fewGenerics_counted, ancestor_sized, (hiff {}).mpr nofun, ?_⟩
  intro hcarries
  have hreturns := (hiff { strictReturns := true }).mp hcarries rfl (size .float)
    (signatures_sized ▸ List.mem_cons_self) (size .int) (signatures_counted ▸ List.mem_cons_self) rfl
  exact absurd hreturns (by decide)

theorem basket_satisfies_counted : basket.Satisfies true counted := by
  intro s hs
  rw [signatures_counted] at hs
  obtain rfl := List.mem_singleton.mp hs
  exact ⟨_, rfl⟩

theorem basket_not_satisfies_sized : ¬ basket.Satisfies true sized := by
  intro hsatisfies
  obtain ⟨m, hm⟩ := hsatisfies (size .float) (signatures_sized ▸ List.mem_cons_self)
  have hnone : basket.candidates true (size .float) = [] := rfl
  cases hnone.symm.trans hm

/-- **In strict mode a type can satisfy a contract and not what it extends**: the basket has an adapter
type for the one that counts and none for the one that it extends. -/
theorem extension_not_satisfied : ¬ ∀ (s : Synthesizer) (t : TypeDescriptor) (c b : Contract)
    (supply supply' : Supply), s.cache = {} → t.Declared → c.Unambiguous → c.FewGenerics →
      c.isOpen = false → c.Ancestor b → b.isOpen = false →
        (∃ a, (s.adapterFor c t supply).result = .ok a) →
          ∃ a, (s.adapterFor b t supply').result = .ok a := by
  intro hall
  let strict : Synthesizer := { settings := { strictReturns := true } }
  have hdeclared : basket.Declared := .of_draft _ _ nofun
  obtain ⟨a, ha⟩ := hall strict basket counted sized {} {} rfl hdeclared unambiguous_counted
    fewGenerics_counted rfl ancestor_sized rfl
    (strict.exists_adapterFor rfl basket_satisfies_counted {})
  exact basket_not_satisfies_sized ((strict.honest_of_empty rfl sized basket).satisfies ha)

end Redeclared

/-! ### A generic member that is declared again without its parameters -/

namespace Crowding

open Signature

/-- A contract that requires `M` with more generic parameters than a key can count. -/
def generic : Contract :=
  { handle := 0, id := ⟨1, []⟩, name := "Generic", typeParams := [], parents := []
    members := [crowded] }

/-- A contract that extends it and declares `M` without generic parameters. -/
def plain : Contract :=
  { handle := 1, id := ⟨2, []⟩, name := "Plain", typeParams := [], parents := [generic]
    members := [method "M"] }

/-- A source type with the plain member. -/
def source : TypeDescriptor :=
  TypeDraft.build { name := "Source", members := [.method (method "M") []] } ⟨1⟩

theorem signatures_generic : generic.signatures = [crowded] :=
  Contract.signatures_of_root rfl (List.nodup_singleton _)

/-- The keys are the same, so what is declared anew stands for both. -/
theorem signatures_plain : plain.signatures = [method "M"] := by
  have hkey : crowded.key = (method "M").key := confused_crowded.key_eq
  simp [plain, generic, Contract.signatures, Contract.requirements, Contract.breadthFirst,
    Contract.declared, Contract.displayName, Requirement.firstOfEachKey, Requirement.key, hkey]

theorem ancestor_generic : plain.Ancestor generic := .parent List.mem_cons_self

theorem unambiguous_plain : plain.Unambiguous := by
  apply Contract.unambiguous_of_injective
  have hcases : ∀ a, plain.Ancestor a → a = plain ∨ a = generic := by
    intro a ha
    rcases Contract.ancestor_iff.mp ha with rfl | ⟨p, hp, ha⟩
    · exact .inl rfl
    · obtain rfl := List.mem_singleton.mp hp
      rcases Contract.ancestor_iff.mp ha with rfl | ⟨q, hq, -⟩
      · exact .inr rfl
      · exact absurd hq List.not_mem_nil
  intro a b ha hb hid
  have hne : plain.id ≠ generic.id := by decide
  rcases hcases a ha with rfl | rfl <;> rcases hcases b hb with rfl | rfl
  · rfl
  · exact absurd hid hne
  · exact absurd hid.symm hne
  · rfl

theorem source_satisfies_plain : source.Satisfies false plain := by
  intro s hs
  rw [signatures_plain] at hs
  obtain rfl := List.mem_singleton.mp hs
  exact ⟨_, rfl⟩

theorem source_not_satisfies_generic : ¬ source.Satisfies false generic := by
  intro hsatisfies
  obtain ⟨m, hm⟩ := hsatisfies crowded (signatures_generic ▸ List.mem_cons_self)
  obtain ⟨hmem, haccepts⟩ := TypeDescriptor.accepts_of_candidates hm
  obtain rfl := List.mem_singleton.mp hmem
  cases confused_crowded.accepts_eq_false.symm.trans haccepts

/-- **Few generic parameters are needed**: the source type has an adapter type for the contract that declares
the member anew and none for the one that it extends, although returned shapes are not compared. -/
theorem not_satisfied_of_confused : ¬ ∀ (s : Synthesizer) (t : TypeDescriptor) (c b : Contract)
    (supply supply' : Supply), s.cache = {} → s.settings.strictReturns = false → t.Declared →
      c.Unambiguous → c.isOpen = false → c.Ancestor b → b.isOpen = false →
        (∃ a, (s.adapterFor c t supply).result = .ok a) →
          ∃ a, (s.adapterFor b t supply').result = .ok a := by
  intro hall
  let s : Synthesizer := {}
  have hdeclared : source.Declared := .of_draft _ _ nofun
  obtain ⟨a, ha⟩ := hall s source plain generic {} {} rfl rfl hdeclared unambiguous_plain rfl
    ancestor_generic rfl (s.exists_adapterFor rfl source_satisfies_plain {})
  exact source_not_satisfies_generic ((s.honest_of_empty rfl generic source).satisfies ha)

end Crowding

/-! ### Adapter types that require nothing -/

namespace Shells

open Program Redeclared

/-- A contract that requires nothing. -/
def blank (origin : Nat) : Contract :=
  { handle := 2, id := ⟨origin, []⟩, name := "Blank", typeParams := [], parents := [], members := [] }

/-- A source type without members, which takes the first key. -/
def hollow : TypeDescriptor := Description.build ⟨"Hollow", []⟩ ⟨1⟩

/-- The adapter type for hollow objects as blank ones. -/
def shell (origin : Nat) : AdapterType :=
  .ofBound (AdapterType.nameFor {} (blank origin) hollow) ⟨2⟩ (blank origin) hollow []

theorem generate_shell (origin : Nat) :
    AdapterType.generate {} (blank origin) hollow ⟨2⟩ = .ok (shell origin) := by
  have hnone : (blank origin).requirements = [] := Contract.requirements_of_root rfl List.nodup_nil
  refine AdapterType.generate_eq_ok_iff.mpr ⟨rfl, [], ?_, rfl⟩
  rw [hnone]
  rfl

/-- The program has declared the type. -/
def ready : Program := (Program.initial fun _ => {}).declare ⟨"Hollow", []⟩

theorem reachable_ready {known : Contract → Prop} {storable : AdapterKey → AdapterType → Prop} :
    Reachable known storable (fun _ => {}) ready :=
  .of_declare rfl

theorem hollow_not_satisfies_sized : ¬ hollow.Satisfies false sized := by
  intro hsatisfies
  obtain ⟨m, hm⟩ := hsatisfies (size .float) (signatures_sized ▸ List.mem_cons_self)
  exact absurd (TypeDescriptor.accepts_of_candidates hm).1 List.not_mem_nil

/-- With a shell in the place of the adapter type for hollow objects that count, a synthesizer has an adapter
type for the contract that counts and none for the one that it extends. -/
theorem not_carried {s : Synthesizer} {origin : Nat} (hloose : s.settings.strictReturns = false)
    (hcache : s.cache = SlotCache.store {} (.of counted hollow) (shell origin)) (supply : Supply) :
    (∃ a, (s.adapterFor counted hollow supply).result = .ok a) ∧
      ¬ ∃ a, (s.adapterFor sized hollow supply).result = .ok a := by
  constructor
  · have hfound : s.cache.lookup (.of counted hollow) = some (shell origin) := by
      rw [hcache, SlotCache.lookup_store, if_pos rfl]
    exact ⟨_, by rw [Synthesizer.adapterFor_of_lookup rfl hfound]⟩
  · rintro ⟨a, ha⟩
    have hmiss : s.cache.lookup (.of sized hollow) = none := by
      rw [hcache, SlotCache.lookup_store, if_neg (by decide)]
      rfl
    exact hollow_not_satisfies_sized (hloose ▸ (Synthesizer.honest_of_miss hmiss).satisfies ha)

/-- **Nothing may be put into caches by hand**, also where no two contracts share an identity. -/
theorem not_carried_after_store : ¬ ∀ known : Contract → Prop,
    (∀ c d, known c → known d → c.id = d.id → c.signatures = d.signatures) →
      CarriesAncestors known fun _ _ => True := by
  intro hall
  let known (c : Contract) : Prop := c ∈ [counted, sized, blank 3]
  have hlaw (c d : Contract) (hc : known c) (hd : known d) (hid : c.id = d.id) :
      c.signatures = d.signatures :=
    congrArg _ (List.inj_on_of_nodup_map (f := Contract.id) (by decide) hc hd hid)
  let p : Program := (ready.generate (shell 3)).store 0 (.of counted hollow) (shell 3)
  have hp : Reachable known (fun _ _ => True) (fun _ => {}) p := by
    have hknown : known (blank 3) := .tail _ (.tail _ (.head _))
    refine (reachable_ready.tail ?_).tail (.store (ready.generate (shell 3)) 0 _ _ List.mem_cons_self trivial)
    exact .generate ready {} (blank 3) hknown hollow List.mem_cons_self _ (generate_shell 3)
  obtain ⟨hhas, hnone⟩ := not_carried (s := p.synthesizers 0) rfl rfl p.supply
  exact hnone (hall known hlaw _ p hp 0 counted sized hollow (.head _) List.mem_cons_self unambiguous_counted
    fewGenerics_counted rfl ancestor_sized rfl rfl hhas)

/-- **Equal identities have to mean equal requirements**, also where nothing is put into caches by hand. -/
theorem not_carried_after_shared_identity : ¬ ∀ known : Contract → Prop,
    CarriesAncestors known fun _ _ => False := by
  intro hall
  let q : Request := .adapter (blank 2) hollow
  have hasked : Reachable (fun _ => True) (fun _ _ => False) (fun _ => {}) (ready.ask 0 q) :=
    reachable_ready.tail (.ask _ 0 q ⟨trivial, List.mem_cons_self⟩)
  -- The blank contract has the identity of the one that counts, so its shell is cached in that one's place.
  have hcache : ((ready.ask 0 q).synthesizers 0).cache =
      SlotCache.store {} (.of counted hollow) (shell 2) := by
    rw [synthesizers_ask_self, reply, Synthesizer.serve_of_needsAdapter (q := q) trivial,
      Synthesizer.adapterFor_of_ok rfl rfl (generate_shell 2)]
    rfl
  obtain ⟨hhas, hnone⟩ := not_carried (s := (ready.ask 0 q).synthesizers 0) rfl hcache _
  exact hnone (hall _ _ _ hasked 0 counted sized hollow trivial List.mem_cons_self unambiguous_counted
    fewGenerics_counted rfl ancestor_sized rfl rfl hhas)

end Shells

end StructuralAdapters
