import StructuralAdapters.Proofs.Binding
import StructuralAdapters.Proofs.Flattening

/-!
# The traversals of a contract

Two traversals walk over what a contract extends: the breadth-first one that collects the requirements,
and the depth-first one that looks for an identity.  Both expand an identity once.

* `Contract.Unambiguous` — no two different contracts of the lineage share an identity;
* `Contract.atDistance` — the contracts at an extension distance, in the order of declaration;
* `Explored` — the invariant of a walk, in whatever order it takes the pending contracts;
* `Contract.isOrExtends_iff` — the depth-first walk finds exactly the identities of the ancestors;
* `Worklist` — the loop that collects the requirements, one round at a time;
* `Contract.NearestDeclaration` — the first declaration of a key, nearest contracts first;
* `Contract.requirements_nearest_first` — the loop ends, expands each ancestor once and leaves the
  nearest declaration of each key that an ancestor declares.

## Different contracts

A contract that is built twice with the same content is not two different contracts: only the handle
tells the two values apart, and nothing that a traversal looks at depends on it.
-/

namespace StructuralAdapters

namespace Contract

/-! ### Contracts with one identity -/

/-- The two contracts say the same of themselves and extend the same identities. -/
structure SameNode (a b : Contract) : Prop where
  name : a.name = b.name
  typeParams : a.typeParams = b.typeParams
  members : a.members = b.members
  parents : a.parents.map Contract.id = b.parents.map Contract.id

instance (a b : Contract) : Decidable (a.SameNode b) :=
  decidable_of_iff
    (a.name = b.name ∧ a.typeParams = b.typeParams ∧ a.members = b.members ∧
      a.parents.map Contract.id = b.parents.map Contract.id)
    ⟨fun ⟨name, typeParams, members, parents⟩ => ⟨name, typeParams, members, parents⟩,
      fun h => ⟨h.name, h.typeParams, h.members, h.parents⟩⟩

theorem SameNode.refl (a : Contract) : a.SameNode a := ⟨rfl, rfl, rfl, rfl⟩

/-- In the lineage of the contract no two different contracts share an identity. -/
def Unambiguous (c : Contract) : Prop :=
  ∀ a b, c.Ancestor a → c.Ancestor b → a.id = b.id → a.SameNode b

/-- Where an identity stands for one contract, handle included, nothing is ambiguous. -/
theorem unambiguous_of_injective {c : Contract}
    (h : ∀ a b, c.Ancestor a → c.Ancestor b → a.id = b.id → a = b) : c.Unambiguous := by
  intro a b ha hb hid
  exact h a b ha hb hid ▸ SameNode.refl a

/-- Lists of contracts with the same identities can be replaced by each other under a function that goes
by identity. -/
theorem map_eq_of_map_id_eq {α : Type} {f : Contract → α} {cs ds : List Contract}
    (hids : cs.map Contract.id = ds.map Contract.id)
    (h : ∀ c ∈ cs, ∀ d ∈ ds, c.id = d.id → f c = f d) : cs.map f = ds.map f := by
  induction cs generalizing ds with
  | nil => rw [List.map_eq_nil_iff.mp hids.symm]
  | cons c cs ih =>
      cases ds with
      | nil => cases hids
      | cons d ds =>
          obtain ⟨hid, hids⟩ := List.cons.inj hids
          rw [List.map_cons, List.map_cons, h c List.mem_cons_self d List.mem_cons_self hid,
            ih hids fun c' hc' d' hd' => h c' (.tail _ hc') d' (.tail _ hd')]

namespace Unambiguous

variable {c a b : Contract}

theorem ancestor (h : c.Unambiguous) (ha : c.Ancestor a) : a.Unambiguous :=
  fun d e hd he => h d e (ha.trans hd) (ha.trans he)

/-- Contracts that share an identity require the same, level by level. -/
theorem levels_eq (h : c.Unambiguous) (ha : c.Ancestor a) (hb : c.Ancestor b) (hid : a.id = b.id) :
    a.levels = b.levels := by
  funext k
  have hsame := h a b ha hb hid
  induction k generalizing a b with
  | zero =>
      have hname : a.displayName = b.displayName := by
        simp only [displayName, hsame.name, hsame.typeParams, hid]
      show a.declared = b.declared
      rw [declared, declared, hname, hsame.members]
  | succ k ih =>
      rw [levels_succ, levels_succ, List.flatMap_def, List.flatMap_def]
      refine congrArg List.flatten (map_eq_of_map_id_eq hsame.parents ?_)
      intro p hp q hq hpq
      exact ih (ha.tail hp) (hb.tail hq) hpq (h p q (ha.tail hp) (hb.tail hq) hpq)

theorem coherent (h : c.Unambiguous) : c.Coherent := by
  intro a b ha hb hid k x
  rw [h.levels_eq ha hb hid]

end Unambiguous

/-! ### Extension distance -/

/-- The contracts at extension distance `k`, along all extension paths, in the order of declaration. -/
def atDistance : Nat → Contract → List Contract
  | 0, c => [c]
  | k + 1, c => c.parents.flatMap (atDistance k)

/-- A level holds what the contracts at its distance declare. -/
theorem levels_eq_flatMap_atDistance (k : Nat) (c : Contract) :
    c.levels k = (atDistance k c).flatMap declared := by
  induction k generalizing c with
  | zero => simp [levels, declaredAt, atDistance]
  | succ k ih => simp only [levels_succ, ih, atDistance, List.flatMap_assoc]

theorem ancestor_of_mem_atDistance {k : Nat} {c a : Contract} (h : a ∈ atDistance k c) :
    c.Ancestor a := by
  induction k generalizing c with
  | zero => exact List.mem_singleton.mp h ▸ Ancestor.refl c
  | succ k ih =>
      obtain ⟨p, hp, ha⟩ := List.mem_flatMap.mp h
      exact (Ancestor.parent hp).trans (ih ha)

/-- The ancestors are the contracts at some distance. -/
theorem ancestor_iff_mem_atDistance {c a : Contract} : c.Ancestor a ↔ ∃ k, a ∈ atDistance k c := by
  constructor
  · intro h
    induction h using Relation.ReflTransGen.head_induction_on with
    | refl => exact ⟨0, List.mem_singleton.mpr rfl⟩
    | head hp _ ih =>
        obtain ⟨k, hk⟩ := ih
        exact ⟨k + 1, List.mem_flatMap.mpr ⟨_, hp, hk⟩⟩
  · rintro ⟨k, hk⟩
    exact ancestor_of_mem_atDistance hk

theorem weight_le_weightAll {c : Contract} {cs : List Contract} (h : c ∈ cs) :
    c.weight ≤ weightAll cs := by
  induction cs with
  | nil => exact absurd h List.not_mem_nil
  | cons d cs ih =>
      rw [weightAll]
      rcases List.mem_cons.mp h with rfl | h
      · exact Nat.le_add_right _ _
      · exact Nat.le_add_left_of_le (ih h)

/-- No contract is further away than there are extension paths. -/
theorem lt_weight_of_mem_atDistance {k : Nat} {c a : Contract} (h : a ∈ atDistance k c) :
    k < c.weight := by
  induction k generalizing c with
  | zero => exact weight_pos c
  | succ k ih =>
      obtain ⟨p, hp, ha⟩ := List.mem_flatMap.mp h
      have hpath := ih ha
      have hle := weight_le_weightAll hp
      have hlt := weightAll_parents_lt c
      omega

/-- Everything that the contract extends, along all extension paths, nearest contracts first. -/
def nearestFirst (c : Contract) : List Contract :=
  (List.range c.weight).flatMap fun k => atDistance k c

theorem mem_nearestFirst {c a : Contract} : a ∈ c.nearestFirst ↔ c.Ancestor a := by
  simp only [nearestFirst, List.mem_flatMap, List.mem_range, ancestor_iff_mem_atDistance]
  constructor
  · rintro ⟨k, -, hk⟩
    exact ⟨k, hk⟩
  · rintro ⟨k, hk⟩
    exact ⟨k, lt_weight_of_mem_atDistance hk, hk⟩

instance (c : Contract) : Decidable c.Unambiguous :=
  decidable_of_iff
    (∀ a ∈ c.nearestFirst, ∀ b ∈ c.nearestFirst, a.id = b.id → a.SameNode b) <| by
      simp only [mem_nearestFirst, Unambiguous]
      exact ⟨fun h a b ha hb => h a ha b hb, fun h a ha b hb => h a b ha hb⟩

end Contract

/-! ### Walks that expand an identity once -/

/-- The walk has expanded the identities `visited`, and it will look at the contracts `pending` before it
ends. -/
structure Explored (c : Contract) (visited : List ContractId) (pending : List Contract) : Prop where
  nodup : visited.Nodup
  sound : ∀ i ∈ visited, ∃ a, c.Ancestor a ∧ a.id = i
  inside : ∀ p ∈ pending, c.Ancestor p
  root : c.id ∈ visited ∨ c.id ∈ pending.map Contract.id
  /-- What an expanded contract extends is expanded, or it is pending. -/
  closed : ∀ a, c.Ancestor a → a.id ∈ visited →
    ∀ p ∈ a.parents, p.id ∈ visited ∨ p.id ∈ pending.map Contract.id

namespace Explored

variable {c d : Contract} {visited : List ContractId} {pending rest : List Contract}

theorem start (c : Contract) : Explored c [] [c] where
  nodup := List.nodup_nil
  sound _ hi := absurd hi List.not_mem_nil
  inside _ hp := List.mem_singleton.mp hp ▸ Contract.Ancestor.refl c
  root := .inr List.mem_cons_self
  closed _ _ ha := absurd ha List.not_mem_nil

/-- A pending contract whose identity has been expanded is passed over. -/
theorem skip (h : Explored c visited (d :: rest)) (hmet : d.id ∈ visited) :
    Explored c visited rest := by
  have hpass : ∀ i, i ∈ visited ∨ i ∈ (d :: rest).map Contract.id →
      i ∈ visited ∨ i ∈ rest.map Contract.id := by
    rintro i (hi | hi)
    · exact .inl hi
    · rcases List.mem_cons.mp hi with rfl | hi
      · exact .inl hmet
      · exact .inr hi
  exact
    { nodup := h.nodup
      sound := h.sound
      inside := fun p hp => h.inside p (List.mem_cons_of_mem d hp)
      root := hpass _ h.root
      closed := fun a ha hvisited p hp => hpass _ (h.closed a ha hvisited p hp) }

/-- A pending contract with a new identity is expanded: what it extends becomes pending, in whatever
place. -/
theorem expand (hc : c.Unambiguous) (h : Explored c visited (d :: rest)) (hnew : d.id ∉ visited)
    (hpending : ∀ p, p ∈ pending ↔ p ∈ rest ∨ p ∈ d.parents) :
    Explored c (d.id :: visited) pending := by
  have hd : c.Ancestor d := h.inside d List.mem_cons_self
  have hids : ∀ i, i ∈ pending.map Contract.id ↔
      i ∈ rest.map Contract.id ∨ i ∈ d.parents.map Contract.id := by
    intro i
    simp only [List.mem_map, hpending, or_and_right, exists_or]
  have hkeep : ∀ i, i ∈ visited ∨ i ∈ (d :: rest).map Contract.id →
      i ∈ d.id :: visited ∨ i ∈ pending.map Contract.id := by
    rintro i (hi | hi)
    · exact .inl (List.mem_cons_of_mem _ hi)
    · rcases List.mem_cons.mp hi with rfl | hi
      · exact .inl List.mem_cons_self
      · exact .inr ((hids i).mpr (.inl hi))
  refine ⟨List.nodup_cons.mpr ⟨hnew, h.nodup⟩, ?_, ?_, hkeep _ h.root, ?_⟩
  · intro i hi
    rcases List.mem_cons.mp hi with rfl | hi
    · exact ⟨d, hd, rfl⟩
    · exact h.sound i hi
  · intro p hp
    rcases (hpending p).mp hp with hp | hp
    · exact h.inside p (List.mem_cons_of_mem d hp)
    · exact hd.tail hp
  · intro a ha hvisited p hp
    rcases List.mem_cons.mp hvisited with hid | hvisited
    · -- What shares its identity with `d` extends the same identities.
      have hpid : p.id ∈ d.parents.map Contract.id :=
        (hc a d ha hd hid).parents ▸ List.mem_map_of_mem hp
      exact .inr ((hids p.id).mpr (.inr hpid))
    · exact hkeep _ (h.closed a ha hvisited p hp)

/-- **A walk that has ended has expanded the identities of all ancestors**, and no others. -/
theorem mem_visited_iff (h : Explored c visited []) {i : ContractId} :
    i ∈ visited ↔ ∃ a, c.Ancestor a ∧ a.id = i := by
  constructor
  · exact h.sound i
  · rintro ⟨a, ha, rfl⟩
    induction ha with
    | refl => exact h.root.resolve_right List.not_mem_nil
    | tail ha hp ih => exact (h.closed _ ha ih _ hp).resolve_right List.not_mem_nil

end Explored

namespace Contract

theorem reaches_iff {c : Contract} (hc : c.Unambiguous) {i : ContractId} {visited : List ContractId}
    {pending : List Contract} (h : Explored c visited pending) (hi : i ∉ visited) :
    reaches i visited pending = true ↔ ∃ a, c.Ancestor a ∧ a.id = i := by
  induction visited, pending using reaches.induct i with
  | case1 visited => simpa [reaches] using mt h.mem_visited_iff.mpr hi
  | case2 visited d rest hid =>
      rw [reaches, if_pos hid]
      exact ⟨fun _ => ⟨d, h.inside d List.mem_cons_self, hid⟩, fun _ => rfl⟩
  | case3 visited d rest hid hmet ih =>
      rw [reaches, if_neg hid, if_pos hmet]
      exact ih (h.skip hmet) hi
  | case4 visited d rest hid hnew ih =>
      rw [reaches, if_neg hid, if_neg hnew]
      rw [List.unattach_reverse, List.unattach_attach] at ih
      refine ih (h.expand hc hnew ?_) (List.not_mem_cons_of_ne_of_not_mem (Ne.symm hid) hi)
      intro p
      rw [List.mem_append, List.mem_reverse, or_comm]

/-- **Extension is reachability.** -/
theorem isOrExtends_iff {c : Contract} (hc : c.Unambiguous) {i : ContractId} :
    c.isOrExtends i = true ↔ ∃ a, c.Ancestor a ∧ a.id = i :=
  reaches_iff hc (Explored.start c) List.not_mem_nil

end Contract

/-! ### The loop that collects the requirements -/

/-- What the loop holds between two rounds. -/
structure Worklist where
  /-- The identities expanded so far, the latest first. -/
  visited : List ContractId
  pending : List Contract
  /-- The keys of the members met so far. -/
  seen : List SignatureKey
  found : List Requirement

namespace Worklist

/-- Before the first round only the contract itself is pending. -/
def start (c : Contract) : Worklist := ⟨[], [c], [], []⟩

/-- One round: the first pending contract is passed over or expanded. -/
def next : Worklist → Worklist
  | ⟨visited, [], seen, found⟩ => ⟨visited, [], seen, found⟩
  | ⟨visited, c :: rest, seen, found⟩ =>
      if c.id ∈ visited then ⟨visited, rest, seen, found⟩
      else
        { visited := c.id :: visited
          pending := rest ++ c.parents
          seen := c.declared.map Requirement.key ++ seen
          found := found ++ Requirement.firstOfEachKey seen c.declared }

/-- What is found in the end. -/
def result (w : Worklist) : List Requirement :=
  w.found ++ Requirement.firstOfEachKey w.seen
    ((Contract.breadthFirst w.visited w.pending).flatMap Contract.declared)

/-- The number of rounds that are left: each contract that is pending or becomes so takes one. -/
def rounds (w : Worklist) : Nat :=
  w.pending.length + ((Contract.breadthFirst w.visited w.pending).flatMap Contract.parents).length

theorem result_start (c : Contract) : (start c).result = c.requirements := List.nil_append _

/-- A round does not change what is found in the end. -/
theorem result_next (w : Worklist) : w.next.result = w.result := by
  obtain ⟨visited, pending, seen, found⟩ := w
  cases pending with
  | nil => rfl
  | cons c rest =>
      simp only [result, next, Contract.breadthFirst]
      split
      · rfl
      · simp only [List.flatMap_cons, firstOfEachKey_eq_keepFirst, keepFirst_append, List.append_assoc]

/-- A round is one of the rounds that are left. -/
theorem rounds_next (w : Worklist) : w.next.rounds = w.rounds - 1 := by
  obtain ⟨visited, pending, seen, found⟩ := w
  cases pending with
  | nil => simp [next, rounds, Contract.breadthFirst]
  | cons c rest =>
      simp only [rounds, next, Contract.breadthFirst]
      split
      · simp only [List.length_cons]
        omega
      · simp only [List.length_append, List.length_cons, List.flatMap_cons]
        omega

/-- No rounds are left once nothing is pending. -/
theorem pending_eq_nil_of_rounds {w : Worklist} (h : w.rounds = 0) : w.pending = [] := by
  rw [rounds] at h
  exact List.eq_nil_of_length_eq_zero (by omega)

theorem explored_next {c : Contract} (hc : c.Unambiguous) {w : Worklist}
    (h : Explored c w.visited w.pending) : Explored c w.next.visited w.next.pending := by
  obtain ⟨visited, pending, seen, found⟩ := w
  cases pending with
  | nil => exact h
  | cons d rest =>
      simp only [next]
      split
      · rename_i hmet
        exact h.skip hmet
      · rename_i hnew
        exact h.expand hc hnew fun p => List.mem_append

/-- The loop after `n` rounds. -/
def after (c : Contract) : Nat → Worklist
  | 0 => start c
  | n + 1 => (after c n).next

/-- No number of rounds changes what is found in the end. -/
theorem result_after (c : Contract) (n : Nat) : (after c n).result = c.requirements := by
  induction n with
  | zero => exact result_start c
  | succ n ih => rw [after, result_next, ih]

theorem explored_after {c : Contract} (hc : c.Unambiguous) (n : Nat) :
    Explored c (after c n).visited (after c n).pending := by
  induction n with
  | zero => exact Explored.start c
  | succ n ih => exact explored_next hc ih

theorem rounds_after (c : Contract) (n : Nat) : (after c n).rounds = (start c).rounds - n := by
  induction n with
  | zero => rfl
  | succ n ih => rw [after, rounds_next, ih, Nat.sub_sub]

/-- The loop ends. -/
theorem exists_pending_eq_nil (c : Contract) : ∃ n, (after c n).pending = [] := by
  refine ⟨(start c).rounds, pending_eq_nil_of_rounds ?_⟩
  rw [rounds_after, Nat.sub_self]

/-- What has been found when nothing is pending are the requirements. -/
theorem found_after {c : Contract} {n : Nat} (h : (after c n).pending = []) :
    (after c n).found = c.requirements := by
  have hresult := result_after c n
  rw [result, h, Contract.breadthFirst] at hresult
  simpa [Requirement.firstOfEachKey] using hresult

end Worklist

/-! ### First declarations -/

/-- What is kept is the first of its key. -/
theorem mem_keepFirst_iff {α κ : Type} [DecidableEq κ] {key : α → κ} {seen : List κ} {l : List α}
    {a : α} : a ∈ keepFirst key seen l ↔
      key a ∉ seen ∧ l.find? (fun b => key b = key a) = some a := by
  induction l generalizing seen with
  | nil => simp [keepFirst]
  | cons b l ih =>
      rw [keepFirst, List.find?_cons]
      by_cases hkey : key b = key a
      · -- The front has the key of `a`, so it is `a` or hides it.
        have hhidden : ∀ seen', key a ∈ seen' → a ∉ keepFirst key seen' l :=
          fun _ hseen ha => (ih.mp ha).1 hseen
        rw [hkey, decide_eq_true rfl, Option.some.injEq]
        by_cases hseen : key a ∈ seen
        · rw [if_pos hseen]
          exact iff_of_false (hhidden seen hseen) fun h => h.1 hseen
        · rw [if_neg hseen, List.mem_cons, or_iff_left (hhidden _ List.mem_cons_self)]
          exact ⟨fun h => ⟨hseen, h.symm⟩, fun h => h.2.symm⟩
      · have hne : a ≠ b := fun h => hkey (congrArg key h.symm)
        rw [decide_eq_false hkey]
        by_cases hseen : key b ∈ seen
        · rw [if_pos hseen, ih]
        · rw [if_neg hseen, List.mem_cons, or_iff_right hne, ih, List.mem_cons,
            or_iff_right (Ne.symm hkey)]

namespace Contract

/-- The contract declares a member with this key itself. -/
def Declares (c : Contract) (key : SignatureKey) : Prop := ∃ s ∈ c.members, s.key = key

theorem declares_iff {c : Contract} {key : SignatureKey} :
    c.Declares key ↔ key ∈ c.declared.map Requirement.key := by
  simp only [Declares, declared, List.map_map, List.mem_map]
  rfl

/-- The requirement `r` is the first declaration of its key in the lineage of `c`, nearest contracts
first: it is declared by `a`, which `c` extends at distance `k`. -/
structure NearestDeclaration (c : Contract) (k : Nat) (a : Contract) (r : Requirement) : Prop where
  owner : r.owner = a.displayName
  /-- Nothing that `a` declares before has the key. -/
  first : a.members.find? (fun s => s.key = r.key) = some r.signature
  /-- Nothing at the same distance that is declared to be extended before `a` has the key. -/
  leftmost : ∃ before after, atDistance k c = before ++ a :: after ∧
    ∀ b ∈ before, ¬ b.Declares r.key
  /-- Nothing at a smaller distance has the key. -/
  nearest : ∀ j < k, ∀ b ∈ atDistance j c, ¬ b.Declares r.key

theorem NearestDeclaration.ancestor {c a : Contract} {k : Nat} {r : Requirement}
    (h : c.NearestDeclaration k a r) : c.Ancestor a := by
  obtain ⟨before, after, hlevel, -⟩ := h.leftmost
  exact ancestor_of_mem_atDistance (hlevel ▸ List.mem_append_right before List.mem_cons_self)

/-- The first declaration of a key in a contract. -/
theorem find?_declared {a : Contract} {key : SignatureKey} {r : Requirement} :
    a.declared.find? (fun r' => r'.key = key) = some r ↔
      r.owner = a.displayName ∧ a.members.find? (fun s => s.key = key) = some r.signature := by
  rw [declared, List.find?_map, Option.map_eq_some_iff]
  constructor
  · rintro ⟨s, hs, rfl⟩
    exact ⟨rfl, hs⟩
  · rintro ⟨howner, hs⟩
    exact ⟨r.signature, hs, by rw [← howner]⟩

/-- **What is visible in a level is the nearest declaration of its key.** -/
theorem mem_visible_levels_iff {c : Contract} {k : Nat} {r : Requirement} :
    r ∈ Levels.visible Requirement.key c.levels k ↔ ∃ a, c.NearestDeclaration k a r := by
  have hnearest : r.key ∉ Levels.keysAbove Requirement.key c.levels k ↔
      ∀ j < k, ∀ b ∈ atDistance j c, ¬ b.Declares r.key := by
    simp only [Levels.mem_keysAbove, levels_eq_flatMap_atDistance, List.map_flatMap,
      List.mem_flatMap, ← declares_iff, not_exists, not_and]
  have hfirst : (c.levels k).find? (fun r' => r'.key = r.key) = some r ↔
      ∃ before a after, atDistance k c = before ++ a :: after ∧
        a.declared.find? (fun r' => r'.key = r.key) = some r ∧ ∀ b ∈ before, ¬ b.Declares r.key := by
    -- The first match in the level is the first one in some contract, with none in those before it.
    rw [levels_eq_flatMap_atDistance, List.find?_flatMap, List.findSome?_eq_some_iff]
    simp only [List.find?_eq_none, decide_eq_true_eq, declares_iff, List.mem_map, not_exists, not_and]
  rw [Levels.visible, mem_keepFirst_iff, hnearest, hfirst]
  constructor
  · rintro ⟨hnear, before, a, after, hlevel, hdeclared, hleft⟩
    obtain ⟨howner, hmember⟩ := find?_declared.mp hdeclared
    exact ⟨a, howner, hmember, ⟨before, after, hlevel, hleft⟩, hnear⟩
  · rintro ⟨a, h⟩
    obtain ⟨before, after, hlevel, hleft⟩ := h.leftmost
    exact ⟨h.nearest, before, a, after, hlevel, find?_declared.mpr ⟨h.owner, h.first⟩, hleft⟩

/-- A contract requires the nearest declarations of its lineage. -/
theorem mem_requirements_iff {c : Contract} (hc : c.Unambiguous) {r : Requirement} :
    r ∈ c.requirements ↔ ∃ k a, c.NearestDeclaration k a r := by
  rw [requirements_eq_flat hc.coherent (Nat.le_refl _), Levels.mem_flat]
  simp only [mem_visible_levels_iff]
  constructor
  · rintro ⟨k, -, ha⟩
    exact ⟨k, ha⟩
  · rintro ⟨k, a, ha⟩
    obtain ⟨before, after, hlevel, -⟩ := ha.leftmost
    have hmem : a ∈ atDistance k c := hlevel ▸ List.mem_append_right before List.mem_cons_self
    exact ⟨k, lt_weight_of_mem_atDistance hmem, a, ha⟩

/-- A key is required if some ancestor declares it. -/
theorem mem_keys_requirements_iff {c : Contract} (hc : c.Unambiguous) {key : SignatureKey} :
    key ∈ c.requirements.map Requirement.key ↔ ∃ a, c.Ancestor a ∧ a.Declares key := by
  rw [requirements_eq_flat hc.coherent (Nat.le_refl _), Levels.map_key_flat,
    Levels.mem_keysAbove_visible, Levels.mem_keysAbove]
  simp only [levels_eq_flatMap_atDistance, List.map_flatMap, List.mem_flatMap, ← declares_iff]
  constructor
  · rintro ⟨k, -, a, ha, hkey⟩
    exact ⟨a, ancestor_of_mem_atDistance ha, hkey⟩
  · rintro ⟨a, ha, hkey⟩
    obtain ⟨k, hk⟩ := ancestor_iff_mem_atDistance.mp ha
    exact ⟨k, lt_weight_of_mem_atDistance hk, a, hk, hkey⟩

/-- What an ancestor requires, the contract requires under the same key. -/
theorem keys_requirements_subset {c b : Contract} (hc : c.Unambiguous) (hb : c.Ancestor b) :
    b.requirements.map Requirement.key ⊆ c.requirements.map Requirement.key := by
  intro key hkey
  obtain ⟨a, ha, hdeclares⟩ := (mem_keys_requirements_iff (hc.ancestor hb)).mp hkey
  exact (mem_keys_requirements_iff hc).mpr ⟨a, hb.trans ha, hdeclares⟩

/-- **The requirements are the nearest declarations.**  The loop ends, and when it does it has expanded
each identity of the lineage once and has found the requirements.  These have different keys, the ones
that some ancestor declares, and each of them is the first declaration of its key, nearest contracts
first. -/
theorem requirements_nearest_first {c : Contract} (hc : c.Unambiguous) :
    (∃ n, (Worklist.after c n).pending = []) ∧
    (∀ n, (Worklist.after c n).pending = [] →
      (Worklist.after c n).found = c.requirements ∧
        (Worklist.after c n).visited.Nodup ∧
          ∀ i, i ∈ (Worklist.after c n).visited ↔ ∃ a, c.Ancestor a ∧ a.id = i) ∧
    (c.requirements.map Requirement.key).Nodup ∧
    (∀ key, key ∈ c.requirements.map Requirement.key ↔ ∃ a, c.Ancestor a ∧ a.Declares key) ∧
    ∀ r, r ∈ c.requirements ↔ ∃ k a, c.NearestDeclaration k a r := by
  refine ⟨Worklist.exists_pending_eq_nil c, ?_, c.nodup_keys_requirements,
    fun _ => mem_keys_requirements_iff hc, fun _ => mem_requirements_iff hc⟩
  intro n hn
  have hexplored := Worklist.explored_after hc n
  refine ⟨Worklist.found_after hn, hexplored.nodup, ?_⟩
  intro i
  rw [hn] at hexplored
  exact hexplored.mem_visited_iff

end Contract

/-! ### A diamond -/

namespace Diamond

def root : Contract :=
  { handle := 0, id := ⟨1, []⟩, name := "Root", typeParams := [], parents := []
    members := [.method "Close"] }

def left : Contract :=
  { handle := 1, id := ⟨2, []⟩, name := "Left", typeParams := [], parents := [root]
    members := [.method "Read"] }

/-- The right side declares the root's member once more. -/
def right : Contract :=
  { handle := 2, id := ⟨3, []⟩, name := "Right", typeParams := [], parents := [root]
    members := [.method "Write", .method "Close"] }

def both : Contract :=
  { handle := 3, id := ⟨4, []⟩, name := "Both", typeParams := [], parents := [left, right]
    members := [] }

/-- The declaration at distance one wins over the one at distance two. -/
theorem both_nearest_first : both.Unambiguous ∧
    both.requirements =
      [⟨"Left", .method "Read"⟩, ⟨"Right", .method "Write"⟩, ⟨"Right", .method "Close"⟩] ∧
    ∃ k a, both.NearestDeclaration k a ⟨"Right", .method "Close"⟩ := by
  have hboth : both.Unambiguous := by decide +kernel
  obtain ⟨-, hloop, -, -, hnearest⟩ := Contract.requirements_nearest_first hboth
  -- The root is pending twice, once for each side, so there are five rounds.
  have hrequirements := (hloop 5 rfl).1.symm
  refine ⟨hboth, hrequirements, (hnearest _).mp ?_⟩
  rw [hrequirements]
  exact .tail _ (.tail _ (.head _))

end Diamond

end StructuralAdapters
