import StructuralAdapters.Proofs.Binding
import StructuralAdapters.Proofs.Targets

/-!
# Inheritance chains

Types can be built one upon the other, each inheriting from the one before and declaring members of its own.  Of the
members with one structural key the most derived one is left, and a call of it runs on that type's part of the
instance.

* `Tier`, `Chain` — the types of a chain, each described step by step, in whatever order the steps stand;
* `MostDerived` — the first tier from the top that declares a key, and what it declares, with `exists_mostDerived`
  and `MostDerived.unique`;
* `Chain.most_derived_wins` — which keys the type on top has, and what is found and run under each.

## What a tier adds

Building a type copies the table of its base, puts one more projection in front of every body, and leaves out what
the type declares itself.  So whatever holds of the members of the base goes on holding of those that are passed on,
and all statements about chains are proved from the bottom up, one tier at a time.
-/

namespace StructuralAdapters

/-! ### Tiers and chains -/

/-- A type of a chain: how it is described, and its key. -/
structure Tier extends Description where
  key : TypeKey

/-- The member as a type derived from `base` passes it on. -/
def Member.passedOn (m : Member) (type base : TypeKey) : Member :=
  { m with body := .inherited type base m.body }

@[simp] theorem Member.key_passedOn (m : Member) (type base : TypeKey) : (m.passedOn type base).key = m.key := rfl

namespace Tier

variable (tier base : Tier)

/-- The type that is built. -/
def type : TypeDescriptor := tier.toDescription.build tier.key

/-- The types that it inherits from. -/
def bases : List TypeDescriptor := tier.draft.bases

/-- The members that the type declares itself, accessors one by one, with what they run. -/
def entries : List (Signature × Behaviour) := tier.draft.members.flatMap MemberDefinition.entries

/-- The structural keys that the type declares itself. -/
def keys : List SignatureKey := tier.entries.map fun entry => entry.1.key

/-- The member for an entry. -/
def member (entry : Signature × Behaviour) : Member := ⟨entry.1, .own tier.key entry.2, tier.name⟩

@[simp] theorem key_member (entry : Signature × Behaviour) : (tier.member entry).key = entry.1.key := rfl

theorem map_key_member : (tier.entries.map tier.member).map Member.key = tier.keys := by
  rw [List.map_map]
  rfl

variable {tier base}

/-- The test for shadowing asks whether the type declares the key itself. -/
theorem any_ownMembers {k : SignatureKey} :
    ((tier.draft.ownMembers tier.key).any fun m => m.key = k) = decide (k ∈ tier.keys) := by
  rw [Bool.eq_iff_iff, decide_eq_true_iff, ← map_key_member, List.mem_map, List.any_eq_true]
  simp only [decide_eq_true_iff]
  rfl

/-- A type without bases has the members that it declares. -/
theorem members_of_root (h : tier.bases = []) : tier.type.members = tier.entries.map tier.member := by
  show (tier.draft.inheritedMembers tier.key).filter _ ++ _ = _
  rw [TypeDraft.inheritedMembers, show tier.draft.bases = [] from h]
  rfl

/-- A type with one base has what the base passes on, but for the keys that it declares itself, and then the members
that it declares. -/
theorem members_of_base (h : tier.bases = [base.type]) :
    tier.type.members =
      ((base.type.members.map (·.passedOn tier.key base.key)).filter fun m => m.key ∉ tier.keys) ++
        tier.entries.map tier.member := by
  show (tier.draft.inheritedMembers tier.key).filter _ ++ _ = _
  rw [TypeDraft.inheritedMembers, show tier.draft.bases = [base.type] from h, List.flatMap_singleton]
  simp only [any_ownMembers, decide_not]
  rfl

/-- A type with one base has the keys that it declares itself and those of the base. -/
theorem mem_keys_of_base (h : tier.bases = [base.type]) {k : SignatureKey} :
    k ∈ tier.type.members.map Member.key ↔ k ∈ tier.keys ∨ k ∈ base.type.members.map Member.key := by
  rw [members_of_base h, List.map_append, List.mem_append, map_key_member]
  have hpassed : k ∈ (((base.type.members.map (·.passedOn tier.key base.key)).filter
      fun m => m.key ∉ tier.keys).map Member.key) ↔
      k ∈ base.type.members.map Member.key ∧ k ∉ tier.keys := by
    simp only [List.mem_map, List.mem_filter, decide_eq_true_iff]
    constructor
    · rintro ⟨_, ⟨⟨m, hm, rfl⟩, hnot⟩, rfl⟩
      exact ⟨⟨m, hm, rfl⟩, hnot⟩
    · rintro ⟨⟨m, hm, rfl⟩, hnot⟩
      exact ⟨_, ⟨⟨m, hm, rfl⟩, hnot⟩, rfl⟩
  rw [hpassed]
  by_cases hk : k ∈ tier.keys <;> simp [hk]

end Tier

/-- Each type of a chain inherits from exactly the next one below, and the last one from nothing. -/
inductive Chain : (top : Tier) → (below : List Tier) → Prop
  | root {tier : Tier} (hbases : tier.bases = []) : Chain tier []
  | derive {tier base : Tier} {below : List Tier} (hbase : Chain base below)
      (hbases : tier.bases = [base.type]) : Chain tier (base :: below)

/-- The tier is the first of them that declares the key of the signature, as the key of a member with this signature
and this behaviour. -/
inductive MostDerived : List Tier → Tier → Signature → Behaviour → Prop
  | here {tier : Tier} {below : List Tier} {s : Signature} {behaviour : Behaviour}
      (hdeclares : (s, behaviour) ∈ tier.entries) : MostDerived (tier :: below) tier s behaviour
  | further {top tier : Tier} {below : List Tier} {s : Signature} {behaviour : Behaviour}
      (hnot : s.key ∉ top.keys) (hbelow : MostDerived below tier s behaviour) :
      MostDerived (top :: below) tier s behaviour

/-- There is a most derived tier for each key that some tier declares. -/
theorem exists_mostDerived {tiers : List Tier} {k : SignatureKey} (h : ∃ tier ∈ tiers, k ∈ tier.keys) :
    ∃ tier s behaviour, MostDerived tiers tier s behaviour ∧ s.key = k := by
  induction tiers with
  | nil =>
      obtain ⟨tier, htier, -⟩ := h
      exact absurd htier List.not_mem_nil
  | cons top below ih =>
      by_cases htop : k ∈ top.keys
      · obtain ⟨⟨s, behaviour⟩, hentry, rfl⟩ := List.mem_map.mp htop
        exact ⟨top, s, behaviour, .here hentry, rfl⟩
      · obtain ⟨tier, htier, hk⟩ := h
        have hbelow : tier ∈ below := by
          refine (List.mem_cons.mp htier).resolve_left ?_
          rintro rfl
          exact htop hk
        obtain ⟨tier', s, behaviour, hmost, rfl⟩ := ih ⟨tier, hbelow, hk⟩
        exact ⟨tier', s, behaviour, .further htop hmost, rfl⟩

/-- There is no other one. -/
theorem MostDerived.unique {tiers : List Tier} {tier tier' : Tier} {s s' : Signature} {behaviour behaviour' : Behaviour}
    (hdistinct : ∀ tier ∈ tiers, tier.keys.Nodup) (h : MostDerived tiers tier s behaviour)
    (h' : MostDerived tiers tier' s' behaviour') (hkey : s'.key = s.key) :
    tier' = tier ∧ s' = s ∧ behaviour' = behaviour := by
  induction h with
  | here hdeclares =>
      cases h' with
      | here hdeclares' =>
          have hentry := List.inj_on_of_nodup_map (hdistinct _ List.mem_cons_self) hdeclares' hdeclares hkey
          cases hentry
          exact ⟨rfl, rfl, rfl⟩
      | further hnot => exact absurd (List.mem_map.mpr ⟨_, hdeclares, hkey.symm⟩) hnot
  | further hnot _ ih =>
      cases h' with
      | here hdeclares' => exact absurd (List.mem_map.mpr ⟨_, hdeclares', hkey⟩) hnot
      | further _ hbelow' =>
          exact ih (fun tier htier => hdistinct tier (List.mem_cons_of_mem _ htier)) hbelow' hkey

/-! ### The table of the type on top -/

namespace Chain

variable {top : Tier} {below : List Tier}

/-- The type has the keys that are declared somewhere in the chain. -/
theorem mem_keys_iff (h : Chain top below) {k : SignatureKey} :
    k ∈ top.type.members.map Member.key ↔ ∃ tier ∈ top :: below, k ∈ tier.keys := by
  induction h with
  | root hbases =>
      rw [Tier.members_of_root hbases, Tier.map_key_member]
      simp
  | @derive tier _ _ _ hbases ih => rw [Tier.mem_keys_of_base hbases, ih, List.exists_mem_cons_iff (a := tier)]

/-- If no tier declares a key twice, the type has no key twice. -/
theorem nodup_keys (h : Chain top below) (hdistinct : ∀ tier ∈ top :: below, tier.keys.Nodup) :
    (top.type.members.map Member.key).Nodup := by
  induction h with
  | root hbases =>
      rw [Tier.members_of_root hbases, Tier.map_key_member]
      exact hdistinct _ List.mem_cons_self
  | @derive tier base below _ hbases ih =>
      rw [Tier.members_of_base hbases, List.map_append, Tier.map_key_member, List.nodup_append]
      refine ⟨?_, hdistinct _ List.mem_cons_self, ?_⟩
      · have hpassed : ((base.type.members.map (·.passedOn tier.key base.key)).map Member.key).Nodup := by
          rw [List.map_map]
          exact ih fun tier htier => hdistinct tier (List.mem_cons_of_mem _ htier)
        exact hpassed.sublist (List.filter_sublist.map _)
      · -- What is passed on has none of the keys that are declared anew.
        intro k hk k' hk' heq
        obtain ⟨m, hm, rfl⟩ := List.mem_map.mp hk
        exact of_decide_eq_true (List.mem_filter.mp hm).2 (heq ▸ hk')

/-- What the most derived tier declares is in the table, reached through the projections to that tier. -/
theorem exists_member (h : Chain top below) {tier : Tier} {s : Signature} {behaviour : Behaviour}
    (hmost : MostDerived (top :: below) tier s behaviour) :
    ∃ m ∈ top.type.members, m.signature = s ∧ m.declaredOn = tier.name ∧
      ∀ identity, m.body.Arrives (.part identity top.key) ⟨behaviour, identity, tier.key⟩ := by
  induction h with
  | root hbases =>
      cases hmost with
      | here hdeclares =>
          rw [Tier.members_of_root hbases]
          exact ⟨_, List.mem_map_of_mem hdeclares, rfl, rfl, fun identity => .own _ _ identity⟩
      | further _ hbelow => cases hbelow
  | @derive top base below _ hbases ih =>
      rw [Tier.members_of_base hbases]
      cases hmost with
      | here hdeclares =>
          exact ⟨_, List.mem_append_right _ (List.mem_map_of_mem hdeclares), rfl, rfl,
            fun identity => .own _ _ identity⟩
      | further hnot hbelow =>
          obtain ⟨m, hm, rfl, hdeclared, harrives⟩ := ih hbelow
          refine ⟨m.passedOn top.key base.key, List.mem_append_left _ ?_, rfl, hdeclared,
            fun identity => .inherited _ (harrives identity)⟩
          exact List.mem_filter.mpr ⟨List.mem_map_of_mem hm, decide_eq_true hnot⟩

/-! ### Look-ups and calls -/

section Distinct

variable {tier : Tier} {s : Signature} {behaviour : Behaviour}

/-- Under its key the type has the member that the most derived tier declares. -/
theorem exists_member?_eq (h : Chain top below) (hdistinct : ∀ tier ∈ top :: below, tier.keys.Nodup)
    (hmost : MostDerived (top :: below) tier s behaviour) :
    ∃ m, top.type.member? s.key = some m ∧ m.signature = s ∧ m.declaredOn = tier.name ∧
      ∀ identity, m.body.Arrives (.part identity top.key) ⟨behaviour, identity, tier.key⟩ := by
  obtain ⟨m, hm, rfl, hdeclared, harrives⟩ := h.exists_member hmost
  exact ⟨m, TypeDescriptor.member?_of_nodup (h.nodup_keys hdistinct) hm, rfl, hdeclared, harrives⟩

/-- A call by the key runs what the most derived tier declares. -/
theorem targetOf_eq (h : Chain top below) (hdistinct : ∀ tier ∈ top :: below, tier.keys.Nodup)
    (hmost : MostDerived (top :: below) tier s behaviour) {sig : Signature} (hkey : sig.key = s.key)
    (identity : Nat) :
    (Object.source identity top.type).targetOf sig = .ok ⟨behaviour, identity, tier.key⟩ := by
  obtain ⟨m, hfound, -, -, harrives⟩ := h.exists_member?_eq hdistinct hmost
  rw [← hkey] at hfound
  rw [Object.targetOf, show (Object.source identity top.type).type.member? sig.key = some m from hfound]
  exact Member.target_of_arrives (harrives identity)

/-- **The most derived member wins.**  In a chain in which no type declares a key twice, the type on top has each key
that is declared by some type once, and no other.  Under each it has the member that the most derived of these types
declares, and a call of it runs what that type declares, once, on that type's part of the instance, with the invocation
as it is. -/
theorem most_derived_wins (h : Chain top below) (hdistinct : ∀ tier ∈ top :: below, tier.keys.Nodup) :
    (top.type.members.map Member.key).Nodup ∧
    (∀ k, k ∈ top.type.members.map Member.key ↔ ∃ tier ∈ top :: below, k ∈ tier.keys) ∧
    (∀ k ∈ top.type.members.map Member.key,
      ∃ tier s behaviour, MostDerived (top :: below) tier s behaviour ∧ s.key = k) ∧
    ∀ tier s behaviour, MostDerived (top :: below) tier s behaviour →
      (∃ m, top.type.member? s.key = some m ∧ m.signature = s ∧ m.declaredOn = tier.name ∧
        ∀ identity, m.body.Arrives (.part identity top.key) ⟨behaviour, identity, tier.key⟩) ∧
      ∀ identity sig, sig.key = s.key →
        (Object.source identity top.type).targetOf sig = .ok ⟨behaviour, identity, tier.key⟩ ∧
        ∀ inv w,
          (Object.source identity top.type).dispatch sig inv w =
            Target.run ⟨behaviour, identity, tier.key⟩ inv w ∧
          Target.RunsOnce ⟨behaviour, identity, tier.key⟩ inv w
            ((Object.source identity top.type).dispatch sig inv w) := by
  refine ⟨h.nodup_keys hdistinct, fun k => h.mem_keys_iff, ?_, ?_⟩
  · intro k hk
    exact exists_mostDerived (h.mem_keys_iff.mp hk)
  · intro tier s behaviour hmost
    refine ⟨h.exists_member?_eq hdistinct hmost, ?_⟩
    intro identity sig hkey
    have htarget := h.targetOf_eq hdistinct hmost hkey identity
    refine ⟨htarget, fun inv w => ⟨?_, Outcome.runsOnce_ofTarget htarget inv w⟩⟩
    rw [Object.dispatch, htarget]
    rfl

end Distinct

end Chain

/-! ### Accounts -/

namespace Accounts

/-- `Describe()`, which returns a whole number. -/
def describe : Signature := { Signature.method "Describe" with returns := .int }

/-- A type with a property, which takes two keys. -/
def account : Tier where
  name := "Account"
  key := ⟨1⟩
  steps := [.declare (.property "Balance" .int "balance" none), .declare (.method describe [.produce (.int 1)])]

/-- A contract that requires the description and the reader of the property. -/
def reporting : Contract :=
  { handle := 0, id := ⟨1, []⟩, name := "Reporting", typeParams := [], parents := []
    members := [describe, .getter "Balance" .int] }

/-- A type that reads the property from another field, and declares the contract.  The getter stands before what is
inherited. -/
def savings : Tier where
  name := "Savings"
  key := ⟨2⟩
  steps := [.declare (.getter "Balance" .int "saved"), .inherit account.type, .declare (.event "Closed" .string),
    .implement reporting]

/-- A type that has a description of its own. -/
def youth : Tier where
  name := "Youth"
  key := ⟨3⟩
  steps := [.inherit savings.type, .declare (.method describe [.produce (.int 3)])]

theorem chain_youth : Chain youth [savings, account] := .derive (.derive (.root rfl) rfl) rfl

theorem nodup_keys_tiers : ∀ tier ∈ [youth, savings, account], tier.keys.Nodup := by decide +kernel

/-- The balance is written as accounts do it, read as savings do it, and the description is that of the type
itself. -/
theorem youth_runs_most_derived :
    Chain youth [savings, account] ∧ (∀ tier ∈ [youth, savings, account], tier.keys.Nodup) ∧
    ∀ inv w,
      (Object.source 0 youth.type).dispatch (.setter "Balance" .int) inv w =
        Target.run ⟨.writeField "balance" none, 0, account.key⟩ inv w ∧
      (Object.source 0 youth.type).dispatch (.getter "Balance" .int) inv w =
        Target.run ⟨.readField "saved", 0, savings.key⟩ inv w ∧
      (Object.source 0 youth.type).dispatch describe inv w =
        Target.run ⟨.script [.produce (.int 3)], 0, youth.key⟩ inv w := by
  obtain ⟨-, -, -, hwins⟩ := Chain.most_derived_wins chain_youth nodup_keys_tiers
  have hset : MostDerived [youth, savings, account] account (.setter "Balance" .int)
      (.writeField "balance" none) :=
    .further (by decide +kernel) (.further (by decide +kernel) (.here (.tail _ (.head _))))
  have hget : MostDerived [youth, savings, account] savings (.getter "Balance" .int) (.readField "saved") :=
    .further (by decide +kernel) (.here (.head _))
  have hdescribe : MostDerived [youth, savings, account] youth describe (.script [.produce (.int 3)]) :=
    .here (.head _)
  refine ⟨chain_youth, nodup_keys_tiers, ?_⟩
  intro inv w
  exact ⟨(((hwins _ _ _ hset).2 0 _ rfl).2 inv w).1, (((hwins _ _ _ hget).2 0 _ rfl).2 inv w).1,
    (((hwins _ _ _ hdescribe).2 0 _ rfl).2 inv w).1⟩

end Accounts

end StructuralAdapters
