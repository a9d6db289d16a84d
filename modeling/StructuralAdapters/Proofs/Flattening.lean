import Mathlib.Logic.Relation
import StructuralAdapters.Proofs.Levels

/-!
# Flattening a contract

The requirements of a contract are found by a breadth-first traversal that expands each identity once.
This module shows that the bookkeeping by identity cannot be seen in the result: one gets the same list
from the full tree of extension paths, level by level, keeping the first member of each structural key.

* `Contract.Ancestor` — the contract itself and everything it extends;
* `Contract.levels` — what is declared at each extension distance, along all paths;
* `Contract.Coherent` — contracts that share an identity require the same keys, level by level;
* `Contract.requirements_eq_flat` — the requirements of a coherent contract are what is visible in its
  levels.

## The simulation

`breadthFirst` and the traversal of the tree run side by side on one queue.  When the traversal by
identity drops a contract that it has met before, the tree still expands it, so from then on the queue
holds contracts that only the tree knows of; they are marked.  The invariant says that a marked contract
is *covered*: each key that it would contribute at some distance has been seen already or will be
contributed by an unmarked contract of the queue in time, at a smaller distance if that contract stands
behind the marked one.
-/

namespace StructuralAdapters

namespace Contract

/-! ### Ancestors -/

/-- Induction on contracts: the claim for a contract may use it for those that it extends. -/
@[elab_as_elim]
theorem inductionOn {motive : Contract → Prop} (c : Contract)
    (step : ∀ c, (∀ p ∈ c.parents, motive p) → motive c) : motive c :=
  match c with
  | ⟨_, _, _, _, parents, _⟩ => step _ fun p (_ : p ∈ parents) => inductionOn p step

/-- `a` is `c` itself or one of the contracts that it extends, directly or not. -/
def Ancestor (c a : Contract) : Prop := Relation.ReflTransGen (fun c p => p ∈ c.parents) c a

theorem Ancestor.refl (c : Contract) : c.Ancestor c := Relation.ReflTransGen.refl

theorem Ancestor.parent {c p : Contract} (h : p ∈ c.parents) : c.Ancestor p :=
  Relation.ReflTransGen.single h

theorem Ancestor.trans {a b c : Contract} (h : a.Ancestor b) (h' : b.Ancestor c) : a.Ancestor c :=
  Relation.ReflTransGen.trans h h'

theorem Ancestor.tail {a b p : Contract} (h : a.Ancestor b) (hp : p ∈ b.parents) : a.Ancestor p :=
  Relation.ReflTransGen.tail h hp

/-- An ancestor is the contract itself or an ancestor of a direct parent. -/
theorem ancestor_iff {c a : Contract} : c.Ancestor a ↔ a = c ∨ ∃ p ∈ c.parents, p.Ancestor a := by
  rw [Ancestor, Relation.ReflTransGen.cases_head_iff]
  exact or_congr_left eq_comm

/-! ### Levels of a contract -/

/-- What is declared at extension distance `k`, along all extension paths. -/
def declaredAt : Nat → Contract → List Requirement
  | 0, c => c.declared
  | k + 1, c => c.parents.flatMap (declaredAt k)

/-- What a contract requires, level by level. -/
def levels (c : Contract) : Levels Requirement := fun k => declaredAt k c

/-- The signatures that a contract requires, level by level. -/
def signatureLevels (c : Contract) : Levels Signature := c.levels.map Requirement.signature

theorem levels_succ (c : Contract) (k : Nat) :
    c.levels (k + 1) = c.parents.flatMap fun p => p.levels k := rfl

theorem signatureLevels_eq (c : Contract) :
    c.signatureLevels = Levels.cons c.members (Levels.merge (c.parents.map signatureLevels)) := by
  funext k
  cases k with
  | zero =>
      show c.declared.map Requirement.signature = c.members
      rw [declared, List.map_map]
      exact List.map_id c.members
  | succ k =>
      show (c.levels (k + 1)).map Requirement.signature = _
      rw [levels_succ, List.map_flatMap, Levels.cons, Levels.merge, List.flatMap_map]
      rfl

theorem keysAbove_signatureLevels (c : Contract) (k : Nat) :
    Levels.keysAbove Signature.key c.signatureLevels k =
      Levels.keysAbove Requirement.key c.levels k := by
  simp only [Levels.keysAbove, signatureLevels, Levels.map, List.map_map]
  rfl

/-- Following one extension from each of several contracts leaves as many paths fewer. -/
theorem weightAll_eq (cs : List Contract) :
    weightAll cs = weightAll (cs.flatMap parents) + cs.length := by
  induction cs with
  | nil => rfl
  | cons c cs ih =>
      rw [weightAll, weight_eq, ih, List.flatMap_cons, weightAll_append, List.length_cons]
      omega

/-- A level beyond the number of extension paths is empty. -/
theorem flatMap_levels_eq_nil {cs : List Contract} {k : Nat} (h : weightAll cs ≤ k) :
    (cs.flatMap fun c => c.levels k) = [] := by
  have hweight := weightAll_eq cs
  induction k generalizing cs with
  | zero => rw [List.length_eq_zero_iff.mp (show cs.length = 0 by omega), List.flatMap_nil]
  | succ k ih =>
      simp only [levels_succ]
      rw [← List.flatMap_assoc]
      cases cs with
      | nil => rfl
      | cons c cs =>
          rw [List.length_cons] at hweight
          exact ih (by omega) (weightAll_eq _)

/-! ### The tree of extension paths -/

/-- The contracts at the ends of all extension paths, nearest first. -/
def treeOrder : List Contract → List Contract
  | [] => []
  | c :: pending => c :: treeOrder (pending ++ c.parents)
termination_by pending => weightAll pending
decreasing_by
  have := weightAll_parents_lt c
  simp only [weightAll, weightAll_append]
  omega

theorem treeOrder_nil : treeOrder [] = [] := by rw [treeOrder]

theorem treeOrder_cons (c : Contract) (pending : List Contract) :
    treeOrder (c :: pending) = c :: treeOrder (pending ++ c.parents) := by rw [treeOrder]

/-- The pending contracts come first, then all that they extend. -/
theorem treeOrder_append (cs pending : List Contract) :
    treeOrder (cs ++ pending) = cs ++ treeOrder (pending ++ cs.flatMap parents) := by
  induction cs generalizing pending with
  | nil => rw [List.nil_append, List.nil_append, List.flatMap_nil, List.append_nil]
  | cons c cs ih =>
      rw [List.cons_append, treeOrder_cons, List.append_assoc, ih, List.cons_append,
        List.flatMap_cons, List.append_assoc]

/-- The tree lists the levels one after the other. -/
theorem treeOrder_flatMap_declared (cs : List Contract) (n : Nat) (h : weightAll cs ≤ n) :
    (treeOrder cs).flatMap declared = (Levels.merge (cs.map levels)).flat n := by
  have hweight := weightAll_eq cs
  induction n generalizing cs with
  | zero =>
      rw [List.length_eq_zero_iff.mp (show cs.length = 0 by omega), treeOrder_nil]
      rfl
  | succ n ih =>
      cases cs with
      | nil => simp [treeOrder_nil, Levels.flat, Levels.merge]
      | cons c cs =>
          have hlevels : Levels.merge ((c :: cs).map levels) =
              Levels.cons ((c :: cs).flatMap declared)
                (Levels.merge (((c :: cs).flatMap parents).map levels)) := by
            funext k
            cases k with
            | zero =>
                simp only [Levels.merge, Levels.cons, List.flatMap_map]
                rfl
            | succ k =>
                simp only [Levels.merge, Levels.cons, List.flatMap_map, levels_succ]
                rw [List.flatMap_assoc]
          have htree := treeOrder_append (c :: cs) []
          rw [List.append_nil, List.nil_append] at htree
          rw [List.length_cons] at hweight
          rw [htree, List.flatMap_append, hlevels, Levels.flat_cons, ih _ (by omega) (weightAll_eq _)]

/-! ### The joint queue -/

/-- The queue of the tree traversal.  A contract is marked if the traversal by identity does not have
it in its queue. -/
abbrev JointQueue := List (Bool × Contract)

/-- What the traversal by identity has in its queue. -/
def unmarked (queue : JointQueue) : List Contract :=
  queue.filterMap fun (marked, c) => if marked then none else some c

@[simp] theorem unmarked_nil : unmarked [] = [] := rfl

@[simp] theorem unmarked_cons_true (c : Contract) (queue : JointQueue) :
    unmarked ((true, c) :: queue) = unmarked queue := rfl

@[simp] theorem unmarked_cons_false (c : Contract) (queue : JointQueue) :
    unmarked ((false, c) :: queue) = c :: unmarked queue := rfl

@[simp] theorem unmarked_append (queue rest : JointQueue) :
    unmarked (queue ++ rest) = unmarked queue ++ unmarked rest :=
  List.filterMap_append ..

@[simp] theorem unmarked_map_true (cs : List Contract) : unmarked (cs.map (true, ·)) = [] := by
  induction cs with
  | nil => rfl
  | cons c cs ih => rw [List.map_cons, unmarked_cons_true, ih]

@[simp] theorem unmarked_map_false (cs : List Contract) : unmarked (cs.map (false, ·)) = cs := by
  induction cs with
  | nil => rfl
  | cons c cs ih => rw [List.map_cons, unmarked_cons_false, ih]

/-- One of the contracts contributes the key at a distance below `k`. -/
def Offers (cs : List Contract) (k : Nat) (x : SignatureKey) : Prop :=
  ∃ c ∈ cs, x ∈ Levels.keysAbove Requirement.key c.levels k

theorem Offers.mono {cs ds : List Contract} {j k : Nat} {x : SignatureKey} (h : Offers cs j x)
    (hsub : ∀ c ∈ cs, c ∈ ds) (hle : j ≤ k) : Offers ds k x := by
  obtain ⟨c, hc, hx⟩ := h
  exact ⟨c, hsub c hc, Levels.keysAbove_mono hle hx⟩

/-- A contract's key at some distance is one that it declares itself or one of a direct parent, a step
nearer. -/
theorem declared_or_offers {c : Contract} {k : Nat} {x : SignatureKey}
    (h : x ∈ Levels.keysAbove Requirement.key c.levels (k + 1)) :
    x ∈ c.declared.map Requirement.key ∨ Offers c.parents k x := by
  obtain ⟨_ | j, hj, hx⟩ := Levels.mem_keysAbove.mp h
  · exact .inl hx
  · rw [levels_succ, List.map_flatMap, List.mem_flatMap] at hx
    obtain ⟨p, hp, hx⟩ := hx
    exact .inr ⟨p, hp, Levels.mem_keysAbove.mpr ⟨j, Nat.lt_of_succ_lt_succ hj, hx⟩⟩

theorem mem_levels_succ_of_parent {c p : Contract} (hp : p ∈ c.parents) {k : Nat} {x : SignatureKey}
    (hx : x ∈ (p.levels k).map Requirement.key) :
    x ∈ (c.levels (k + 1)).map Requirement.key := by
  rw [levels_succ, List.map_flatMap, List.mem_flatMap]
  exact ⟨p, hp, hx⟩

/-- Each key that the contract would contribute has been seen, or one of `cs` contributes it at a smaller
distance. -/
def Covered (seen : List SignatureKey) (cs : List Contract) (c : Contract) : Prop :=
  ∀ k x, x ∈ (c.levels k).map Requirement.key → x ∈ seen ∨ Offers cs k x

namespace Covered

variable {seen : List SignatureKey} {cs : List Contract} {c d : Contract}

/-- A covered contract declares nothing new. -/
theorem key_mem_seen (h : Covered seen cs c) : ∀ r ∈ c.declared, r.key ∈ seen := by
  intro r hr
  rcases h 0 r.key (List.mem_map_of_mem hr) with hseen | ⟨_, _, habove⟩
  · exact hseen
  · simp [Levels.keysAbove] at habove

/-- What a covered contract offers is seen or offered by the others, even a step nearer. -/
theorem offers (h : Covered seen cs c) {k : Nat} {x : SignatureKey}
    (habove : x ∈ Levels.keysAbove Requirement.key c.levels (k + 1)) : x ∈ seen ∨ Offers cs k x := by
  obtain ⟨j, hj, hx⟩ := Levels.mem_keysAbove.mp habove
  refine (h j x hx).imp_right ?_
  intro hoffers
  exact hoffers.mono (fun _ hd => hd) (Nat.le_of_lt_succ hj)

/-- No contract is needed to cover itself. -/
theorem without_self (h : Covered seen (c :: cs) c) : Covered seen cs c := by
  intro k
  -- By induction on the distance: a key is charged to smaller distances only.
  induction k using Nat.strongRecOn with
  | ind k ih =>
      intro x hx
      rcases h k x hx with hseen | ⟨d, hd, habove⟩
      · exact .inl hseen
      · rcases List.mem_cons.mp hd with rfl | hd
        · obtain ⟨j, hj, hx⟩ := Levels.mem_keysAbove.mp habove
          refine (ih j hj x hx).imp_right ?_
          intro hoffers
          exact hoffers.mono (fun _ hd => hd) (Nat.le_of_lt hj)
        · exact .inr ⟨d, hd, habove⟩

/-- A contract that is covered by the others is not needed to cover another one. -/
theorem without (h : Covered seen (c :: cs) d) (hc : Covered seen cs c) : Covered seen cs d := by
  intro k x hx
  rcases h k x hx with hseen | ⟨e, he, habove⟩
  · exact .inl hseen
  · rcases List.mem_cons.mp he with rfl | he
    · refine (hc.offers (Levels.keysAbove_mono k.le_succ habove)).imp_right ?_
      intro hoffers
      exact hoffers.mono (fun _ hd => hd) (Nat.le_refl _)
    · exact .inr ⟨e, he, habove⟩

/-- The marked parents of a covered contract are covered when they are put behind the others. -/
theorem parent {queue rest after : JointQueue} (h : Covered seen (unmarked queue) c)
    (hnew : c.parents.map (true, ·) = rest ++ (true, d) :: after) {k : Nat} {x : SignatureKey}
    (hx : x ∈ (d.levels k).map Requirement.key) :
    x ∈ seen ∨ Offers (unmarked (queue ++ rest)) (k + 1) x := by
  obtain ⟨p, hp, hpd⟩ := List.mem_map.mp (hnew ▸ List.mem_append_right rest List.mem_cons_self)
  obtain rfl : p = d := congrArg Prod.snd hpd
  refine (h (k + 1) x (mem_levels_succ_of_parent hp hx)).imp_right ?_
  intro hoffers
  exact hoffers.mono (by simp +contextual) (Nat.le_refl _)

end Covered

/-- The invariant of the two traversals. -/
structure Simulated (U : Contract → Prop) (visited : List ContractId) (seen : List SignatureKey)
    (queue : JointQueue) : Prop where
  inside : ∀ q ∈ queue, U q.2
  /-- What a marked contract would contribute is contributed in time. -/
  covered : ∀ before m after, queue = before ++ (true, m) :: after → ∀ k x,
    x ∈ (m.levels k).map Requirement.key →
      x ∈ seen ∨ Offers (unmarked before) (k + 1) x ∨ Offers (unmarked after) k x
  /-- What a contract with an expanded identity would contribute is contributed in time. -/
  expanded : ∀ c, U c → c.id ∈ visited → ∀ k x, x ∈ (c.levels k).map Requirement.key →
    x ∈ seen ∨ Offers (unmarked queue) k x

/-- An element of a concatenation stands in its first or in its second part. -/
private theorem cut_append {α : Type} {queue new before after : List α} {q : α}
    (h : queue ++ new = before ++ q :: after) :
    (∃ rest, queue = before ++ q :: rest ∧ after = rest ++ new) ∨
      ∃ rest, before = queue ++ rest ∧ new = rest ++ q :: after := by
  rcases List.append_eq_append_iff.mp h with ⟨rest, hbefore, hnew⟩ | ⟨rest, hqueue, hafter⟩
  · exact .inr ⟨rest, hbefore, hnew⟩
  · cases rest with
    | nil => exact .inr ⟨[], by simpa using hqueue.symm, by simpa using hafter.symm⟩
    | cons r rest =>
        rw [List.cons_append, List.cons.injEq] at hafter
        exact .inl ⟨rest, hafter.1 ▸ hqueue, hafter.2⟩

namespace Simulated

variable {U : Contract → Prop} {visited : List ContractId} {seen : List SignatureKey}
variable {queue : JointQueue} {c : Contract}

/-- What stands in the queue when the front has been replaced by its parents. -/
theorem inside_append (hparents : ∀ c, U c → ∀ p ∈ c.parents, U p) {marked : Bool}
    (h : Simulated U visited seen ((marked, c) :: queue)) (mark : Bool) :
    ∀ q ∈ queue ++ c.parents.map (mark, ·), U q.2 := by
  intro q hq
  rcases List.mem_append.mp hq with hq | hq
  · exact h.inside q (List.mem_cons_of_mem _ hq)
  · obtain ⟨p, hp, rfl⟩ := List.mem_map.mp hq
    exact hparents c (h.inside (marked, c) List.mem_cons_self) p hp

/-- A marked contract at the front has nothing new to declare, and its parents can be marked. -/
theorem popMarked (hparents : ∀ c, U c → ∀ p ∈ c.parents, U p)
    (h : Simulated U visited seen ((true, c) :: queue)) :
    (∀ r ∈ c.declared, r.key ∈ seen) ∧
      Simulated U visited seen (queue ++ c.parents.map (true, ·)) := by
  have hfront : Covered seen (unmarked queue) c := by
    intro k x hx
    rcases h.covered [] c queue rfl k x hx with hseen | ⟨_, hnil, _⟩ | hoffers
    · exact .inl hseen
    · exact absurd hnil List.not_mem_nil
    · exact .inr hoffers
  refine ⟨hfront.key_mem_seen, h.inside_append hparents true, ?_, ?_⟩
  · intro before m after hcut k x hx
    rcases cut_append hcut with ⟨rest, rfl, rfl⟩ | ⟨rest, rfl, hnew⟩
    · simpa using h.covered ((true, c) :: before) m rest rfl k x hx
    · exact (hfront.parent hnew hx).imp_right .inl
  · simpa using h.expanded

/-- An unmarked contract at the front whose identity has been expanded has nothing new to declare, and
its parents can be marked. -/
theorem popExpanded (hparents : ∀ c, U c → ∀ p ∈ c.parents, U p)
    (h : Simulated U visited seen ((false, c) :: queue)) (hmet : c.id ∈ visited) :
    (∀ r ∈ c.declared, r.key ∈ seen) ∧
      Simulated U visited seen (queue ++ c.parents.map (true, ·)) := by
  have hfront : Covered seen (unmarked queue) c :=
    Covered.without_self (h.expanded c (h.inside (false, c) List.mem_cons_self) hmet)
  refine ⟨hfront.key_mem_seen, h.inside_append hparents true, ?_, ?_⟩
  · intro before m after hcut k x hx
    rcases cut_append hcut with ⟨rest, rfl, rfl⟩ | ⟨rest, rfl, hnew⟩
    · rcases h.covered ((false, c) :: before) m rest rfl k x hx with hseen | ⟨d, hd, habove⟩ | hoffers
      · exact .inl hseen
      · rw [unmarked_cons_false] at hd
        rcases List.mem_cons.mp hd with rfl | hd
        · rcases hfront.offers habove with hseen | ⟨d, hd, habove⟩
          · exact .inl hseen
          · rw [unmarked_append, unmarked_cons_true] at hd
            rcases List.mem_append.mp hd with hd | hd
            · exact .inr (.inl ⟨d, hd, Levels.keysAbove_mono k.le_succ habove⟩)
            · exact .inr (.inr ⟨d, by simpa using hd, habove⟩)
        · exact .inr (.inl ⟨d, hd, habove⟩)
      · exact .inr (.inr (hoffers.mono (by simp +contextual) (Nat.le_refl _)))
    · exact (hfront.parent hnew hx).imp_right .inl
  · intro d hd hvisited
    rw [unmarked_append, unmarked_map_true, List.append_nil]
    exact Covered.without (h.expanded d hd hvisited) hfront

/-- An unmarked contract at the front with a new identity is expanded by both traversals. -/
theorem popNew (hparents : ∀ c, U c → ∀ p ∈ c.parents, U p)
    (hcoherent : ∀ a b, U a → U b → a.id = b.id → ∀ k x,
      x ∈ Levels.keysAbove Requirement.key a.levels k ↔
        x ∈ Levels.keysAbove Requirement.key b.levels k)
    (h : Simulated U visited seen ((false, c) :: queue)) :
    Simulated U (c.id :: visited) (c.declared.map Requirement.key ++ seen)
      (queue ++ c.parents.map (false, ·)) := by
  have hU : U c := h.inside (false, c) List.mem_cons_self
  -- What the contract offered is seen now, or its parents offer it, a step nearer.
  have hbelow : ∀ k x, x ∈ Levels.keysAbove Requirement.key c.levels (k + 1) →
      x ∈ c.declared.map Requirement.key ++ seen ∨ Offers c.parents k x :=
    fun k x habove => (declared_or_offers habove).imp_left (List.mem_append_left _)
  refine ⟨h.inside_append hparents false, ?_, ?_⟩
  · intro before m after hcut k x hx
    rcases cut_append hcut with ⟨rest, rfl, rfl⟩ | ⟨rest, rfl, hnew⟩
    · rcases h.covered ((false, c) :: before) m rest rfl k x hx with hseen | ⟨d, hd, habove⟩ | hoffers
      · exact .inl (List.mem_append_right _ hseen)
      · rw [unmarked_cons_false] at hd
        rcases List.mem_cons.mp hd with rfl | hd
        · exact (hbelow k x habove).imp_right fun hoffers =>
            .inr (hoffers.mono (by simp +contextual) (Nat.le_refl _))
        · exact .inr (.inl ⟨d, hd, habove⟩)
      · exact .inr (.inr (hoffers.mono (by simp +contextual) (Nat.le_refl _)))
    · obtain ⟨p, hp, hpm⟩ := List.mem_map.mp (hnew ▸ List.mem_append_right rest List.mem_cons_self)
      cases hpm
  · intro d hd hvisited k x hx
    rcases List.mem_cons.mp hvisited with heq | hvisited
    · -- A contract with the same identity offers the same, so `c` may stand for it.
      have habove : x ∈ Levels.keysAbove Requirement.key c.levels (k + 1) :=
        (hcoherent d c hd hU heq (k + 1) x).mp (Levels.mem_keysAbove.mpr ⟨k, k.lt_succ_self, hx⟩)
      exact (hbelow k x habove).imp_right fun hoffers => hoffers.mono (by simp +contextual) (Nat.le_refl _)
    · rcases h.expanded d hd hvisited k x hx with hseen | ⟨e, he, habove⟩
      · exact .inl (List.mem_append_right _ hseen)
      · rw [unmarked_cons_false] at he
        rcases List.mem_cons.mp he with rfl | he
        · exact (hbelow k x (Levels.keysAbove_mono k.le_succ habove)).imp_right fun hoffers =>
            hoffers.mono (by simp +contextual) (Nat.le_refl _)
        · exact .inr ⟨e, by simp [he], habove⟩

end Simulated

/-! ### The traversals agree -/

/-- **Expanding each identity once is enough.**  From queues that satisfy the invariant, the tree of
extension paths and the traversal by identity leave the same requirements. -/
theorem keepFirst_treeOrder {U : Contract → Prop} (hparents : ∀ c, U c → ∀ p ∈ c.parents, U p)
    (hcoherent : ∀ a b, U a → U b → a.id = b.id → ∀ k x,
      x ∈ Levels.keysAbove Requirement.key a.levels k ↔
        x ∈ Levels.keysAbove Requirement.key b.levels k)
    {visited : List ContractId} {seen : List SignatureKey} {queue : JointQueue}
    (h : Simulated U visited seen queue) :
    keepFirst Requirement.key seen ((treeOrder (queue.map (·.2))).flatMap declared) =
      keepFirst Requirement.key seen ((breadthFirst visited (unmarked queue)).flatMap declared) := by
  -- Each step of the tree traversal leaves fewer extension paths, whatever the other one does.
  induction hn : weightAll (queue.map (·.2)) using Nat.strongRecOn
    generalizing visited seen queue with
  | ind n ih =>
      subst hn
      match queue, h, ih with
      | [], _, _ => rw [List.map_nil, treeOrder_nil, unmarked_nil, breadthFirst]
      | (marked, c) :: queue, h, ih =>
          have hlt : ∀ mark : Bool, weightAll ((queue ++ c.parents.map (mark, ·)).map (·.2)) <
              weightAll (((marked, c) :: queue).map (·.2)) := by
            intro mark
            have := weightAll_parents_lt c
            simp only [List.map_append, List.map_map, Function.comp_def, List.map_id',
              weightAll_append, List.map_cons, weightAll]
            omega
          have htree : ∀ mark : Bool, treeOrder (((marked, c) :: queue).map (·.2)) =
              c :: treeOrder ((queue ++ c.parents.map (mark, ·)).map (·.2)) := by
            intro mark
            simp only [List.map_append, List.map_map, Function.comp_def, List.map_id',
              List.map_cons, treeOrder_cons]
          cases marked with
          | true =>
              -- A contract that declares nothing new can be left out.
              obtain ⟨hdeclared, hnext⟩ := h.popMarked hparents
              rw [htree true, List.flatMap_cons, keepFirst_append_of_seen hdeclared,
                ih _ (hlt true) hnext rfl]
              simp only [unmarked_append, unmarked_map_true, List.append_nil, unmarked_cons_true]
          | false =>
              rw [unmarked_cons_false, breadthFirst]
              by_cases hmet : c.id ∈ visited
              · obtain ⟨hdeclared, hnext⟩ := h.popExpanded hparents hmet
                rw [if_pos hmet, htree true, List.flatMap_cons, keepFirst_append_of_seen hdeclared,
                  ih _ (hlt true) hnext rfl]
                simp only [unmarked_append, unmarked_map_true, List.append_nil]
              · rw [if_neg hmet, htree false, List.flatMap_cons, List.flatMap_cons,
                  keepFirst_append, keepFirst_append,
                  ih _ (hlt false) (h.popNew hparents hcoherent) rfl]
                simp only [unmarked_append, unmarked_map_false]

/-- Contracts in the lineage that share an identity require the same keys, level by level. -/
def Coherent (c : Contract) : Prop :=
  ∀ a b, c.Ancestor a → c.Ancestor b → a.id = b.id → ∀ k x,
    x ∈ Levels.keysAbove Requirement.key a.levels k ↔
      x ∈ Levels.keysAbove Requirement.key b.levels k

/-- **The requirements, level by level.**  What a coherent contract requires is what is visible in its
levels, nearest first. -/
theorem requirements_eq_flat {c : Contract} (h : c.Coherent) {n : Nat} (hn : c.weight ≤ n) :
    c.requirements = (Levels.visible Requirement.key c.levels).flat n := by
  have hstart : Simulated c.Ancestor [] [] [(false, c)] := by
    refine ⟨?_, ?_, ?_⟩
    · intro q hq
      rw [List.mem_singleton.mp hq]
      exact Ancestor.refl c
    · intro before m after hcut
      have hmem : (true, m) ∈ [(false, c)] := hcut ▸ List.mem_append_right before List.mem_cons_self
      cases List.mem_singleton.mp hmem
    · intro d _ hmem
      exact absurd hmem List.not_mem_nil
  have hsame := keepFirst_treeOrder (fun a ha p hp => ha.tail hp) h hstart
  rw [requirements, firstOfEachKey_eq_keepFirst]
  calc keepFirst Requirement.key [] ((breadthFirst [] [c]).flatMap declared)
      = keepFirst Requirement.key [] ((treeOrder [c]).flatMap declared) := hsame.symm
    _ = keepFirst Requirement.key [] (c.levels.flat n) := by
        rw [treeOrder_flatMap_declared [c] n (by simpa [weightAll] using hn), List.map_singleton,
          Levels.merge_singleton]
    _ = (Levels.visible Requirement.key c.levels).flat n := Levels.keepFirst_flat c.levels n

/-- The signatures that a contract requires, in order. -/
def signatures (c : Contract) : List Signature := c.requirements.map Requirement.signature

/-- The signatures that a coherent contract requires are those visible in its levels. -/
theorem signatures_eq_flat {c : Contract} (h : c.Coherent) {n : Nat} (hn : c.weight ≤ n) :
    c.signatures = (Levels.visible Signature.key c.signatureLevels).flat n := by
  rw [signatures, requirements_eq_flat h hn, ← Levels.keepFirst_flat, ← Levels.keepFirst_flat,
    signatureLevels, ← Levels.map_flat]
  exact map_keepFirst (fun _ => rfl) [] _

/-- Beyond the number of extension paths nothing is visible. -/
theorem signatureLevels_eq_nil {c : Contract} {k : Nat} (h : c.weight ≤ k) :
    c.signatureLevels k = [] := by
  have hnil : ([c].flatMap fun d => d.levels k) = [] :=
    flatMap_levels_eq_nil (by simpa [weightAll] using h)
  rw [List.flatMap_singleton] at hnil
  rw [signatureLevels, Levels.map, hnil, List.map_nil]

/-- A coherent contract requires the signatures that are visible at some level. -/
theorem mem_signatures_iff {c : Contract} (h : c.Coherent) {s : Signature} :
    s ∈ c.signatures ↔ ∃ k, s ∈ Levels.visible Signature.key c.signatureLevels k := by
  rw [signatures_eq_flat h (Nat.le_refl _), Levels.mem_flat]
  constructor
  · rintro ⟨k, -, hs⟩
    exact ⟨k, hs⟩
  · rintro ⟨k, hs⟩
    refine ⟨k, Nat.lt_of_not_le ?_, hs⟩
    intro hle
    have hmem := Levels.mem_of_mem_visible hs
    rw [signatureLevels_eq_nil hle] at hmem
    exact List.not_mem_nil hmem

/-- Coherence may be checked on the signatures. -/
theorem coherent_of_agree {c : Contract}
    (h : ∀ a b, c.Ancestor a → c.Ancestor b → a.id = b.id →
      Levels.Agree Signature.key a.signatureLevels b.signatureLevels) : c.Coherent := by
  intro a b ha hb hid k x
  rw [← keysAbove_signatureLevels, ← keysAbove_signatureLevels]
  exact (h a b ha hb hid).mem_keysAbove_iff k x

/-- Coherent contracts with agreeing levels require the same signatures in the same order. -/
theorem signatures_eq_of_agree {c d : Contract} (hc : c.Coherent) (hd : d.Coherent)
    (h : Levels.Agree Signature.key c.signatureLevels d.signatureLevels) :
    c.signatures = d.signatures := by
  rw [signatures_eq_flat hc (Nat.le_max_left c.weight d.weight),
    signatures_eq_flat hd (Nat.le_max_right c.weight d.weight), h]

end Contract

end StructuralAdapters
