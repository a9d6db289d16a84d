import StructuralAdapters.Proofs.Inheritance
import StructuralAdapters.Proofs.NamedCalls
import StructuralAdapters.Proofs.Upcasting

/-!
# Native implementations are inherited

A type that declares a contract and satisfies it hands both on to every type that is derived from it.  An object of a
derived type is coerced to the contract as it is, and calls run the most derived members.

* `Chain.contracts_subset`, `Chain.keys_subset` — what is declared below is there on top;
* `Chain.satisfies_of_base` — where returned shapes are not compared, the type on top satisfies what a type below
  satisfies;
* `Chain.native_survives` — the native path stays open for derived types, and leads to their own members.

## One candidate, not two

A derived type keeps every key of its base, so a requirement that had a candidate goes on having one.  It does not get
a second one, for candidates share the key of the requirement and the type on top has no key twice.  What the candidate
returns can change on the way, which is why strict mode is left out.
-/

namespace StructuralAdapters

/-- A type that declares more contracts implements no fewer. -/
theorem TypeDescriptor.implements_mono {t u : TypeDescriptor} (hsubset : t.contracts ⊆ u.contracts) {i : ContractId}
    (h : t.implements i = true) : u.implements i = true := by
  obtain ⟨c, hc, hextends⟩ := List.any_eq_true.mp h
  exact List.any_eq_true.mpr ⟨c, hsubset hc, hextends⟩

/-- A pair that is verified for the first time is one of a type that satisfies the contract. -/
theorem Synthesizer.satisfies_of_verifyNative {s : Synthesizer} {c : Contract} {t : TypeDescriptor}
    (hfresh : s.verified = []) (h : (s.verifyNative c t).1 = .ok ()) :
    t.Satisfies s.settings.strictReturns c := by
  rw [verifyNative, hfresh, if_neg List.not_mem_nil] at h
  cases hbound : t.resolveAll s.settings c.requirements with
  | ok bound => exact (TypeDescriptor.satisfies_iff _).mpr ⟨bound, hbound⟩
  | error e =>
      rw [hbound] at h
      cases h

/-- The contracts of the base are taken over, wherever the step stands that inherits from it. -/
theorem Tier.contracts_subset_of_base {tier base : Tier} (h : tier.bases = [base.type]) :
    base.type.contracts ⊆ tier.type.contracts := by
  have hmem : base.type ∈ tier.steps.filterMap Declaration.base? :=
    (show tier.steps.filterMap Declaration.base? = [base.type] from h) ▸ List.mem_cons_self
  obtain ⟨step, hstep, hbase⟩ := List.mem_filterMap.mp hmem
  cases step with
  | implement | declare => cases hbase
  | inherit t =>
      cases hbase
      intro c hc
      exact List.mem_flatMap.mpr ⟨_, hstep, hc⟩

namespace Chain

variable {top base : Tier} {below : List Tier} {c : Contract}

/-! ### What is there on top -/

/-- What each type takes over from its base is there on top. -/
theorem subset_of_step {α : Type} (list : TypeDescriptor → List α)
    (hstep : ∀ {tier base : Tier}, tier.bases = [base.type] → list base.type ⊆ list tier.type)
    (h : Chain top below) (hbase : base ∈ top :: below) : list base.type ⊆ list top.type := by
  induction h with
  | root =>
      obtain rfl := List.mem_singleton.mp hbase
      exact List.Subset.refl _
  | derive _ hbases ih =>
      rcases List.mem_cons.mp hbase with rfl | hbase
      · exact List.Subset.refl _
      · exact List.Subset.trans (ih hbase) (hstep hbases)

theorem contracts_subset (h : Chain top below) (hbase : base ∈ top :: below) :
    base.type.contracts ⊆ top.type.contracts :=
  subset_of_step _ Tier.contracts_subset_of_base h hbase

theorem keys_subset (h : Chain top below) (hbase : base ∈ top :: below) :
    base.type.members.map Member.key ⊆ top.type.members.map Member.key :=
  subset_of_step (·.members.map Member.key) (fun hbases _ hk => (Tier.mem_keys_of_base hbases).mpr (.inr hk)) h
    hbase

/-- Every member is declared somewhere in the chain. -/
theorem exists_entry (h : Chain top below) {m : Member} (hm : m ∈ top.type.members) :
    ∃ tier ∈ top :: below, ∃ entry ∈ tier.entries, m.signature = entry.1 := by
  induction h generalizing m with
  | root hbases =>
      rw [Tier.members_of_root hbases] at hm
      obtain ⟨entry, hentry, rfl⟩ := List.mem_map.mp hm
      exact ⟨_, List.mem_cons_self, entry, hentry, rfl⟩
  | derive _ hbases ih =>
      rw [Tier.members_of_base hbases] at hm
      rcases List.mem_append.mp hm with hpassed | hown
      · obtain ⟨m', hm', rfl⟩ := List.mem_map.mp (List.mem_filter.mp hpassed).1
        obtain ⟨tier, htier, hentry⟩ := ih hm'
        exact ⟨tier, List.mem_cons_of_mem _ htier, hentry⟩
      · obtain ⟨entry, hentry, rfl⟩ := List.mem_map.mp hown
        exact ⟨_, List.mem_cons_self, entry, hentry, rfl⟩

/-! ### Satisfying a contract -/

/-- The signatures that the chain declares and those that the contract requires have fewer generic parameters than a
key can count. -/
structure FewGenerics (tiers : List Tier) (c : Contract) : Prop where
  declared : ∀ tier ∈ tiers, ∀ entry ∈ tier.entries, entry.1.genericArity < 65536
  required : ∀ s ∈ c.signatures, s.genericArity < 65536

/-- **What a type satisfies, the types derived from it satisfy**, if returned shapes are not compared. -/
theorem satisfies_of_base (h : Chain top below) (hdistinct : ∀ tier ∈ top :: below, tier.keys.Nodup)
    (hfew : FewGenerics (top :: below) c) (hbase : base ∈ top :: below)
    (hsatisfies : base.type.Satisfies false c) : top.type.Satisfies false c := by
  intro s hs
  obtain ⟨m, hm⟩ := hsatisfies s hs
  obtain ⟨hmem, haccepts⟩ := TypeDescriptor.accepts_of_candidates hm
  have hkey : s.key ∈ top.type.members.map Member.key := by
    rw [← Signature.key_eq_of_accepts haccepts]
    exact h.keys_subset hbase (List.mem_map_of_mem (f := Member.key) hmem)
  -- Some member on top has the key, and as no other has it, it is the only candidate.
  obtain ⟨m', hm', hkey'⟩ := List.mem_map.mp hkey
  obtain ⟨tier, htier, entry, hentry, hsignature⟩ := h.exists_entry hm'
  have harity : s.genericArity = m'.signature.genericArity := by
    refine Signature.genericArity_eq_of_key_eq (hfew.required s hs) ?_ hkey'.symm
    rw [hsignature]
    exact hfew.declared tier htier entry hentry
  exact ⟨m', TypeDescriptor.candidates_of_nodup (h.nodup_keys hdistinct) hm'
    (Signature.accepts_false_iff.mpr ⟨hkey'.symm, harity⟩)⟩

/-- Where the type on top satisfies the contract, a required key is declared somewhere in the chain, and a call that
the contract allows runs what the most derived tier declares. -/
theorem exists_invoke_eq (h : Chain top below) (hdistinct : ∀ tier ∈ top :: below, tier.keys.Nodup)
    {strict : Bool} (hsatisfies : top.type.Satisfies strict c) (identity : Nat) {sig : Signature}
    {inv : Invocation} (hadmits : Contracted.Admits ⟨c, .source identity top.type⟩ sig inv) :
    ∃ tier s behaviour, MostDerived (top :: below) tier s behaviour ∧ s.key = sig.key ∧
      Contracted.target ⟨c, .source identity top.type⟩ sig inv = .ok ⟨behaviour, identity, tier.key⟩ ∧
      ∀ w, Contracted.invoke ⟨c, .source identity top.type⟩ sig inv w =
        Target.run ⟨behaviour, identity, tier.key⟩ inv w := by
  obtain ⟨r, hr, hkey⟩ := hadmits.requires
  obtain ⟨m, hm⟩ := hsatisfies r.signature (List.mem_map_of_mem hr)
  obtain ⟨hmem, haccepts⟩ := TypeDescriptor.accepts_of_candidates hm
  have hdeclared : sig.key ∈ top.type.members.map Member.key := by
    rw [← hkey, Requirement.key, ← Signature.key_eq_of_accepts haccepts]
    exact List.mem_map_of_mem (f := Member.key) hmem
  obtain ⟨tier, s, behaviour, hmost, hs⟩ := exists_mostDerived (h.mem_keys_iff.mp hdeclared)
  have htarget : Contracted.target ⟨c, .source identity top.type⟩ sig inv =
      .ok ⟨behaviour, identity, tier.key⟩ := by
    rw [hadmits.target_eq]
    exact h.targetOf_eq hdistinct hmost hs.symm identity
  refine ⟨tier, s, behaviour, hmost, hs, htarget, ?_⟩
  intro w
  rw [Contracted.invoke_eq_ofTarget, htarget]
  rfl

/-! ### The native path -/

/-- **Native implementations survive inheritance.**  Somewhere in a chain in which no type declares a key twice, a
type implements a contract and has been verified for it, without strict mode.  Then the type on top implements the
contract, and whatever a synthesizer without strict mode was asked before, it coerces each object of this type to the
object itself and does not look for an adapter type.  A call through the contract, by signature or by name, runs what
the most derived type declares under the key in question. -/
theorem native_survives (h : Chain top below) (hdistinct : ∀ tier ∈ top :: below, tier.keys.Nodup)
    (hfew : FewGenerics (top :: below) c) (hbase : base ∈ top :: below)
    (himplements : base.type.implements c.id = true) {s : Synthesizer} (hfresh : s.verified = [])
    (hloose : s.settings.strictReturns = false) (hverified : (s.verifyNative c base.type).1 = .ok ()) :
    top.type.implements c.id = true ∧
    ∀ identity,
      (∀ (s' : Synthesizer) (supply : Supply), s'.settings.strictReturns = false → ∃ verified,
        s'.coerce c (.source identity top.type) supply =
          ⟨.ok ⟨c, .source identity top.type⟩, { s' with verified }, supply⟩) ∧
      (∀ sig inv, Contracted.Admits ⟨c, .source identity top.type⟩ sig inv →
        ∃ tier sig' behaviour, MostDerived (top :: below) tier sig' behaviour ∧ sig'.key = sig.key ∧
          Contracted.target ⟨c, .source identity top.type⟩ sig inv = .ok ⟨behaviour, identity, tier.key⟩ ∧
          ∀ w, Contracted.invoke ⟨c, .source identity top.type⟩ sig inv w =
            Target.run ⟨behaviour, identity, tier.key⟩ inv w) ∧
      ∀ name inv r, taking Requirement.signature name inv c.requirements = [r] →
        ∃ tier sig' behaviour, MostDerived (top :: below) tier sig' behaviour ∧ sig'.key = r.key ∧
          Contracted.target ⟨c, .source identity top.type⟩ r.signature inv =
            .ok ⟨behaviour, identity, tier.key⟩ ∧
          ∀ w, Contracted.call ⟨c, .source identity top.type⟩ name inv w =
            Target.run ⟨behaviour, identity, tier.key⟩ inv w := by
  have htop : top.type.implements c.id = true :=
    TypeDescriptor.implements_mono (h.contracts_subset hbase) himplements
  have hsatisfies : top.type.Satisfies false c :=
    h.satisfies_of_base hdistinct hfew hbase (hloose ▸ Synthesizer.satisfies_of_verifyNative hfresh hverified)
  refine ⟨htop, fun identity => ⟨?_, ?_, ?_⟩⟩
  · intro s' supply hloose'
    exact Synthesizer.coerce_of_implements (o := .source identity top.type) htop (hloose' ▸ hsatisfies) supply
  · intro sig inv hadmits
    exact h.exists_invoke_eq hdistinct hsatisfies identity hadmits
  · intro name inv r hr
    have hadmits : Contracted.Admits ⟨c, .source identity top.type⟩ r.signature inv :=
      Contracted.check_eq_ok_iff.mp (Contracted.check_of_taking hr)
    obtain ⟨tier, sig', behaviour, hmost, hkey, htarget, hinvoke⟩ :=
      h.exists_invoke_eq hdistinct hsatisfies identity hadmits
    refine ⟨tier, sig', behaviour, hmost, hkey, htarget, ?_⟩
    intro w
    rw [← hinvoke w]
    exact (Contracted.selects _ name inv w).single r hr

end Chain

/-! ### Accounts, once more -/

namespace Accounts

theorem requirements_reporting :
    reporting.requirements = [⟨"Reporting", describe⟩, ⟨"Reporting", .getter "Balance" .int⟩] :=
  Contract.requirements_of_root rfl (by decide)

theorem fewGenerics_reporting : Chain.FewGenerics [youth, savings, account] reporting := by
  refine ⟨by decide +kernel, ?_⟩
  rw [Contract.signatures, requirements_reporting]
  decide

/-- Savings have been verified for reporting.  A youth account is coerced as it is, and its own description runs. -/
theorem youth_reports : youth.type.implements reporting.id = true ∧
    (∃ verified, ({} : Synthesizer).coerce reporting (.source 0 youth.type) {} =
      ⟨.ok ⟨reporting, .source 0 youth.type⟩, { verified }, {}⟩) ∧
    ∀ w, Contracted.call ⟨reporting, .source 0 youth.type⟩ "Describe" ⟨[], []⟩ w =
      Target.run ⟨.script [.produce (.int 3)], 0, youth.key⟩ ⟨[], []⟩ w := by
  have hdeclares : savings.type.implements reporting.id = true :=
    TypeDescriptor.implements_of_mem List.mem_cons_self
  have hverified : (({} : Synthesizer).verifyNative reporting savings.type).1 = .ok () := by
    rw [Synthesizer.verifyNative, requirements_reporting]
    rfl
  obtain ⟨himplements, hnative⟩ := Chain.native_survives chain_youth nodup_keys_tiers fewGenerics_reporting
    (.tail _ (.head _)) hdeclares rfl rfl hverified
  obtain ⟨hcoerce, -, hnamed⟩ := hnative 0
  refine ⟨himplements, hcoerce {} {} rfl, ?_⟩
  obtain ⟨tier, s, behaviour, hmost, hkey, -, hcall⟩ :=
    hnamed "Describe" ⟨[], []⟩ ⟨"Reporting", describe⟩ (requirements_reporting ▸ rfl)
  have hown : MostDerived [youth, savings, account] youth describe (.script [.produce (.int 3)]) :=
    .here (.head _)
  obtain ⟨rfl, -, rfl⟩ := hown.unique nodup_keys_tiers hmost hkey
  exact hcall

end Accounts

end StructuralAdapters
