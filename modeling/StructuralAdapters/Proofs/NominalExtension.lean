import Mathlib.Logic.Function.Iterate
import StructuralAdapters.Proofs.Traversal

/-!
# Nominal extension

A contract is, or extends, the contract with an identity if that identity is found by following what
contracts extend.  The search goes depth first and remembers which identities it has expanded.

* `ExtensionGraph` — contracts with everything that they extend, no two different ones with one identity;
* `Search` — the search for an identity, one round at a time;
* `ExtensionGraph.nominal_extension` — the search ends and finds exactly what can be reached; nominal
  extension is reflexive and transitive, types implement what their contracts reach, and what is extended
  requires no key that is not required.

## Twins

As for the traversals, contracts are different if they say different things of themselves.  Two values
built with the same content may share an identity, so `a.isOrExtends b.id` does not say that `a` extends the
very value `b`.  What `b` reaches, `a` then reaches under the same identities.
-/

namespace StructuralAdapters

/-! ### What a search finds -/

namespace Contract

variable {i : ContractId}

/-- A search finds only what the pending contracts are or extend. -/
theorem exists_ancestor_of_reaches {visited : List ContractId} {pending : List Contract}
    (h : reaches i visited pending = true) : ∃ c ∈ pending, ∃ a, c.Ancestor a ∧ a.id = i := by
  induction visited, pending using reaches.induct i with
  | case1 visited => simp [reaches] at h
  | case2 visited c rest hid => exact ⟨c, List.mem_cons_self, c, Ancestor.refl c, hid⟩
  | case3 visited c rest hid hmet ih =>
      rw [reaches, if_neg hid, if_pos hmet] at h
      obtain ⟨d, hd, hfound⟩ := ih h
      exact ⟨d, List.mem_cons_of_mem c hd, hfound⟩
  | case4 visited c rest hid hnew ih =>
      rw [reaches, if_neg hid, if_neg hnew] at h
      rw [List.unattach_reverse, List.unattach_attach] at ih
      obtain ⟨d, hd, a, ha, hai⟩ := ih h
      rcases List.mem_append.mp hd with hparent | hrest
      · -- What a parent reaches, the contract itself reaches.
        exact ⟨c, List.mem_cons_self, a, (Ancestor.parent (List.mem_reverse.mp hparent)).trans ha, hai⟩
      · exact ⟨d, List.mem_cons_of_mem c hrest, a, ha, hai⟩

/-- A contract extends only identities of its ancestors, whatever identities these share. -/
theorem exists_ancestor_of_isOrExtends {c : Contract} (h : c.isOrExtends i = true) :
    ∃ a, c.Ancestor a ∧ a.id = i := by
  obtain ⟨d, hd, hfound⟩ := exists_ancestor_of_reaches h
  rwa [List.mem_singleton.mp hd] at hfound

/-- A pending contract is found, whatever has been expanded before. -/
theorem reaches_of_mem {visited : List ContractId} {pending : List Contract} {p : Contract}
    (hp : p ∈ pending) (hid : p.id = i) (hi : i ∉ visited) : reaches i visited pending = true := by
  induction visited, pending using reaches.induct i with
  | case1 visited => exact absurd hp List.not_mem_nil
  | case2 visited c rest hc => rw [reaches, if_pos hc]
  | case3 visited c rest hc hmet ih =>
      rw [reaches, if_neg hc, if_pos hmet]
      refine ih ((List.mem_cons.mp hp).resolve_left ?_) hi
      rintro rfl
      exact hc hid
  | case4 visited c rest hc hnew ih =>
      rw [reaches, if_neg hc, if_neg hnew]
      rw [List.unattach_reverse, List.unattach_attach] at ih
      refine ih (List.mem_append_right _ ((List.mem_cons.mp hp).resolve_left ?_))
        (List.not_mem_cons_of_ne_of_not_mem (Ne.symm hc) hi)
      rintro rfl
      exact hc hid

/-- A contract extends its direct parents, whatever identities its ancestors share. -/
theorem isOrExtends_of_mem_parents {c p : Contract} (hp : p ∈ c.parents) : c.isOrExtends p.id = true := by
  rw [isOrExtends, reaches]
  split
  · rfl
  · rename_i hne
    rw [if_neg List.not_mem_nil]
    exact reaches_of_mem (List.mem_append_left _ (List.mem_reverse.mpr hp)) rfl
      (List.not_mem_cons_of_ne_of_not_mem (Ne.symm hne) List.not_mem_nil)

end Contract

/-! ### The search, round by round -/

/-- A search for an identity. -/
inductive Search where
  /-- It goes on: the identities expanded so far, and the contracts that it will look at, next one
  first. -/
  | running (visited : List ContractId) (pending : List Contract)
  /-- It has ended. -/
  | answered (found : Bool)

namespace Search

/-- Before the first round only the contract itself is pending. -/
def start (c : Contract) : Search := running [] [c]

/-- One round: the next pending contract is the one that is looked for, or it is passed over, or what it
extends is put before the others, the last parent first. -/
def next (i : ContractId) : Search → Search
  | running _ [] => answered false
  | running visited (c :: rest) =>
      if c.id = i then answered true
      else if c.id ∈ visited then running visited rest
      else running (c.id :: visited) (c.parents.reverse ++ rest)
  | answered found => answered found

theorem exists_answered_of_running (i : ContractId) (visited : List ContractId)
    (pending : List Contract) :
    ∃ n, (next i)^[n] (running visited pending) =
      answered (Contract.reaches i visited pending) := by
  induction visited, pending using Contract.reaches.induct i with
  | case1 visited => exact ⟨1, by simp [next, Contract.reaches]⟩
  | case2 visited c rest hid => exact ⟨1, by simp [next, Contract.reaches, hid]⟩
  | case3 visited c rest hid hmet ih =>
      obtain ⟨n, hn⟩ := ih
      refine ⟨n + 1, ?_⟩
      rw [Function.iterate_succ_apply, next, if_neg hid, if_pos hmet, hn, Contract.reaches,
        if_neg hid, if_pos hmet]
  | case4 visited c rest hid hnew ih =>
      rw [List.unattach_reverse, List.unattach_attach] at ih
      obtain ⟨n, hn⟩ := ih
      refine ⟨n + 1, ?_⟩
      rw [Function.iterate_succ_apply, next, if_neg hid, if_neg hnew, hn, Contract.reaches,
        if_neg hid, if_neg hnew]

/-- **The search ends**, with the answer whether the contract is, or extends, the one looked for. -/
theorem exists_answered (i : ContractId) (c : Contract) :
    ∃ n, (next i)^[n] (start c) = answered (c.isOrExtends i) :=
  exists_answered_of_running i [] [c]

end Search

/-! ### Graphs -/

/-- Finitely many contracts with everything that they extend, in which no two different contracts share an
identity. -/
structure ExtensionGraph where
  contracts : List Contract
  closed : ∀ c ∈ contracts, ∀ p ∈ c.parents, p ∈ contracts
  sameNode : ∀ a ∈ contracts, ∀ b ∈ contracts, a.id = b.id → a.SameNode b

namespace ExtensionGraph

open Contract

variable {G : ExtensionGraph} {a b c x : Contract} {i : ContractId}

/-- The graph of one contract. -/
def lineageOf (c : Contract) (hc : c.Unambiguous) : ExtensionGraph where
  contracts := c.nearestFirst
  closed _ hd _ hp := mem_nearestFirst.mpr ((mem_nearestFirst.mp hd).tail hp)
  sameNode a ha b hb := hc a b (mem_nearestFirst.mp ha) (mem_nearestFirst.mp hb)

theorem mem_of_ancestor (hc : c ∈ G.contracts) (ha : c.Ancestor a) : a ∈ G.contracts := by
  induction ha with
  | refl => exact hc
  | tail _ hp ih => exact G.closed _ ih _ hp

theorem unambiguous (hc : c ∈ G.contracts) : c.Unambiguous :=
  fun a b ha hb => G.sameNode a (mem_of_ancestor hc ha) b (mem_of_ancestor hc hb)

/-- Contracts that share an identity reach the same identities. -/
theorem exists_ancestor_of_id_eq (ha : a ∈ G.contracts) (hb : b ∈ G.contracts) (hid : a.id = b.id)
    (hx : b.Ancestor x) : ∃ y, a.Ancestor y ∧ y.id = x.id := by
  induction hx using Relation.ReflTransGen.head_induction_on generalizing a with
  | refl => exact ⟨a, Ancestor.refl a, hid⟩
  | @head b p hp _ ih =>
      have hpid : p.id ∈ a.parents.map Contract.id :=
        (G.sameNode a ha b hb hid).parents ▸ List.mem_map_of_mem hp
      obtain ⟨q, hq, hqp⟩ := List.mem_map.mp hpid
      obtain ⟨y, hy, hyx⟩ := ih (G.closed a ha q hq) (G.closed b hb p hp) hqp
      exact ⟨y, (Ancestor.parent hq).trans hy, hyx⟩

/-- A contract that extends another's identity reaches all identities that the other one reaches. -/
theorem exists_ancestor_of_isOrExtends (ha : a ∈ G.contracts) (hb : b ∈ G.contracts)
    (h : a.isOrExtends b.id = true) (hx : b.Ancestor x) : ∃ y, a.Ancestor y ∧ y.id = x.id := by
  obtain ⟨b', hb', hid⟩ := (isOrExtends_iff (unambiguous ha)).mp h
  obtain ⟨y, hy, hyx⟩ := exists_ancestor_of_id_eq (mem_of_ancestor ha hb') hb hid hx
  exact ⟨y, hb'.trans hy, hyx⟩

theorem isOrExtends_trans (ha : a ∈ G.contracts) (hb : b ∈ G.contracts)
    (hab : a.isOrExtends b.id = true) (hbi : b.isOrExtends i = true) : a.isOrExtends i = true := by
  obtain ⟨x, hx, rfl⟩ := (isOrExtends_iff (unambiguous hb)).mp hbi
  exact (isOrExtends_iff (unambiguous ha)).mpr (exists_ancestor_of_isOrExtends ha hb hab hx)

/-- What is extended requires no key that is not required. -/
theorem keys_subset_of_isOrExtends (ha : a ∈ G.contracts) (hb : b ∈ G.contracts)
    (h : a.isOrExtends b.id = true) :
    b.requirements.map Requirement.key ⊆ a.requirements.map Requirement.key := by
  intro key hkey
  obtain ⟨x, hx, hdeclares⟩ := (mem_keys_requirements_iff (unambiguous hb)).mp hkey
  obtain ⟨y, hy, hyx⟩ := exists_ancestor_of_isOrExtends ha hb h hx
  have hsame := G.sameNode y (mem_of_ancestor ha hy) x (mem_of_ancestor hb hx) hyx
  refine (mem_keys_requirements_iff (unambiguous ha)).mpr ⟨y, hy, ?_⟩
  rwa [Declares, hsame.members]

/-- A type implements what its declared contracts reach. -/
theorem implements_iff_exists {t : TypeDescriptor} (ht : ∀ c ∈ t.contracts, c.Unambiguous) :
    t.implements i = true ↔ ∃ c ∈ t.contracts, ∃ a, c.Ancestor a ∧ a.id = i := by
  rw [TypeDescriptor.implements, List.any_eq_true]
  constructor
  · rintro ⟨c, hc, hfound⟩
    exact ⟨c, hc, (isOrExtends_iff (ht c hc)).mp hfound⟩
  · rintro ⟨c, hc, hreached⟩
    exact ⟨c, hc, (isOrExtends_iff (ht c hc)).mpr hreached⟩

/-- **Nominal extension is reachability, and what is extended is required.**  The search for an identity
ends and finds it exactly if some contract that is reached has it.  So nominal extension is reflexive and
transitive, a type implements what one of its declared contracts reaches, and a contract requires every
key that a contract which it extends requires. -/
theorem nominal_extension (G : ExtensionGraph) (hc : c ∈ G.contracts) :
    (∀ i, (∃ n, (Search.next i)^[n] (Search.start c) = .answered (c.isOrExtends i)) ∧
      (c.isOrExtends i = true ↔ ∃ a, c.Ancestor a ∧ a.id = i)) ∧
    c.isOrExtends c.id = true ∧
    (∀ b ∈ G.contracts, ∀ i,
      c.isOrExtends b.id = true → b.isOrExtends i = true → c.isOrExtends i = true) ∧
    (∀ t : TypeDescriptor, (∀ d ∈ t.contracts, d.Unambiguous) → ∀ i,
      (t.implements i = true ↔ ∃ d ∈ t.contracts, ∃ a, d.Ancestor a ∧ a.id = i)) ∧
    ∀ b ∈ G.contracts, c.isOrExtends b.id = true →
      b.requirements.map Requirement.key ⊆ c.requirements.map Requirement.key := by
  have hfound : ∀ i, c.isOrExtends i = true ↔ ∃ a, c.Ancestor a ∧ a.id = i :=
    fun _ => isOrExtends_iff (unambiguous hc)
  refine ⟨fun i => ⟨Search.exists_answered i c, hfound i⟩, ?_, ?_, ?_, ?_⟩
  · exact (hfound c.id).mpr ⟨c, Ancestor.refl c, rfl⟩
  · exact fun b hb i hcb hbi => isOrExtends_trans hc hb hcb hbi
  · exact fun t ht i => implements_iff_exists ht
  · exact fun b hb hcb => keys_subset_of_isOrExtends hc hb hcb

end ExtensionGraph

/-! ### The diamond, once more -/

namespace Diamond

/-- Both sides lead to the root, and neither side leads to the other. -/
theorem both_extends_root : both.Unambiguous ∧
    both.isOrExtends root.id = true ∧ left.isOrExtends right.id = false ∧
    (∃ n, (Search.next root.id)^[n] (Search.start both) = .answered true) ∧
    root.requirements.map Requirement.key ⊆ both.requirements.map Requirement.key := by
  have hboth : both.Unambiguous := by decide +kernel
  let G := ExtensionGraph.lineageOf both hboth
  have hleft : both.Ancestor left := .parent List.mem_cons_self
  have hroot : left.Ancestor root := .parent List.mem_cons_self
  obtain ⟨hfound, -, -, -, hkeys⟩ := ExtensionGraph.nominal_extension G
    (Contract.mem_nearestFirst.mpr (Contract.Ancestor.refl both))
  have hextends : both.isOrExtends root.id = true :=
    (hfound root.id).2.mpr ⟨root, hleft.trans hroot, rfl⟩
  refine ⟨hboth, hextends, ?_, hextends ▸ (hfound root.id).1,
    hkeys root (Contract.mem_nearestFirst.mpr (hleft.trans hroot)) hextends⟩
  simp [left, right, root, Contract.isOrExtends, Contract.reaches]

end Diamond

end StructuralAdapters
