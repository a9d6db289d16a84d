import StructuralAdapters.Contract.Instantiation
import StructuralAdapters.Proofs.Flattening

/-!
# What an instantiation rebuilds

Pushing type arguments through a contract walks over what it extends, depth first, and remembers what
it has rebuilt by the identity that it had before.  This module is about the walk alone and knows nothing
of members.

* `Contract.substitute_of_done`, `substitute_of_untouched`, `substitute_of_touched` — the three things
  that can happen to a contract;
* `Contract.substituteAll_image` — the induction over the walk: a relation between identities and results
  that every rebuilding keeps holds of the outcome;
* `Contract.rebuiltIds` — the identities that an instantiation rebuilds, which depend on the contract
  alone.
-/

namespace StructuralAdapters

/-! ### Lists that are related entry by entry -/

/-- Each place of the one list has its counterpart in the other. -/
theorem exists_getElem?_of_forall₂ {α β : Type} {R : α → β → Prop} {l : List α} {m : List β}
    (h : List.Forall₂ R l m) {i : Nat} {x : α} (hx : l[i]? = some x) :
    ∃ y, m[i]? = some y ∧ R x y := by
  obtain ⟨hlength, hentries⟩ := List.forall₂_iff_get.mp h
  obtain ⟨hi, rfl⟩ := List.getElem?_eq_some_iff.mp hx
  have hi' : i < m.length := hlength ▸ hi
  exact ⟨m[i], List.getElem?_eq_getElem hi', hentries i hi hi'⟩

/-- Each entry of the second list has its counterpart in the first. -/
theorem exists_mem_of_forall₂ {α β : Type} {R : α → β → Prop} {l : List α} {m : List β}
    (h : List.Forall₂ R l m) {y : β} (hy : y ∈ m) : ∃ x ∈ l, R x y := by
  have hflip : List.Forall₂ (fun y x => R x y) m l := h.flip
  obtain ⟨i, hi⟩ := List.mem_iff_getElem?.mp hy
  obtain ⟨x, hx, hR⟩ := exists_getElem?_of_forall₂ hflip hi
  exact ⟨x, List.mem_of_getElem? hx, hR⟩

namespace Contract

variable {args : List Shape}

/-! ### One contract of the walk -/

/-- A contract whose identity has been rebuilt is replaced by the result. -/
theorem substitute_of_done {c d : Contract} {r : Rebuilding} (h : r.done.lookup c.id = some d) :
    c.substitute args r = (d, r) := by
  cases c
  simp only at h
  rw [substitute, h]

/-- A contract that type arguments cannot change is left alone. -/
theorem substitute_of_untouched {c : Contract} {r : Rebuilding} (h : r.done.lookup c.id = none)
    (htouched : c.isTouched = false) : c.substitute args r = (c, r) := by
  cases c
  simp only at h
  rw [substitute, h]
  simp only [htouched]
  rfl

/-- Any other contract is rebuilt, after the contracts that it extends. -/
theorem substitute_of_touched {c : Contract} {r : Rebuilding} (h : r.done.lookup c.id = none)
    (htouched : c.isTouched = true) :
    c.substitute args r =
      let parents := substituteAll args c.parents r
      let rebuilt := c.rebuild args parents.2.handle parents.1
      (rebuilt, ⟨(c.id, rebuilt) :: parents.2.done, parents.2.handle + 1⟩) := by
  cases c
  simp only at h
  rw [substitute, h]
  simp only [htouched]
  rfl

theorem substituteAll_cons (c : Contract) (cs : List Contract) (r : Rebuilding) :
    substituteAll args (c :: cs) r =
      let first := c.substitute args r
      let rest := substituteAll args cs first.2
      (first.1 :: rest.1, rest.2) := by
  rw [substituteAll]

/-! ### What is remembered -/

private theorem done_subset_substituteAll_of {cs : List Contract}
    (h : ∀ c ∈ cs, ∀ r, r.done ⊆ (c.substitute args r).2.done) (r : Rebuilding) :
    r.done ⊆ (substituteAll args cs r).2.done := by
  induction cs generalizing r with
  | nil =>
      rw [substituteAll]
      exact List.Subset.refl _
  | cons c cs ih =>
      rw [substituteAll_cons]
      exact List.Subset.trans (h c List.mem_cons_self r)
        (ih (fun d hd => h d (List.mem_cons_of_mem c hd)) (c.substitute args r).2)

/-- What has been rebuilt stays remembered. -/
theorem done_subset_substitute (c : Contract) (r : Rebuilding) :
    r.done ⊆ (c.substitute args r).2.done := by
  induction c using inductionOn generalizing r with
  | step c ih =>
      cases hlookup : r.done.lookup c.id with
      | some d =>
          rw [substitute_of_done hlookup]
          exact List.Subset.refl _
      | none =>
          cases htouched : c.isTouched with
          | false =>
              rw [substitute_of_untouched hlookup htouched]
              exact List.Subset.refl _
          | true =>
              rw [substitute_of_touched hlookup htouched]
              exact List.Subset.trans (done_subset_substituteAll_of ih r) (List.subset_cons_self _ _)

theorem done_subset_substituteAll (cs : List Contract) (r : Rebuilding) :
    r.done ⊆ (substituteAll args cs r).2.done :=
  done_subset_substituteAll_of (fun c _ => done_subset_substitute c) r

/-! ### Induction over the walk -/

/-- What the walk keeps of a relation between the identities it meets and the contracts it returns. -/
private structure ImageKept (R : ContractId → Contract → Prop) (id : ContractId)
    (result : Contract × Rebuilding) : Prop where
  image : R id result.1
  done : ∀ e ∈ result.2.done, R e.1 e.2

variable {U : Contract → Prop} {K : ContractId → Prop} {R : ContractId → Contract → Prop}

private theorem substituteAll_image_of {cs : List Contract}
    (h : ∀ c ∈ cs, ∀ r, (∀ e ∈ r.done, R e.1 e.2) →
      (∀ e ∈ (c.substitute args r).2.done, K e.1) → ImageKept R c.id (c.substitute args r))
    {r : Rebuilding} (hdone : ∀ e ∈ r.done, R e.1 e.2)
    (hK : ∀ e ∈ (substituteAll args cs r).2.done, K e.1) :
    List.Forall₂ (fun c d => R c.id d) cs (substituteAll args cs r).1 ∧
      ∀ e ∈ (substituteAll args cs r).2.done, R e.1 e.2 := by
  induction cs generalizing r with
  | nil =>
      rw [substituteAll]
      exact ⟨.nil, hdone⟩
  | cons c cs ih =>
      rw [substituteAll_cons] at hK ⊢
      have hfirst := h c List.mem_cons_self r hdone fun e he =>
        hK e (done_subset_substituteAll cs _ he)
      obtain ⟨himages, hafter⟩ :=
        ih (fun d hd => h d (List.mem_cons_of_mem c hd)) hfirst.done hK
      exact ⟨.cons hfirst.image himages, hafter⟩

private theorem imageKept_substitute (hparents : ∀ c, U c → ∀ p ∈ c.parents, U p)
    (huntouched : ∀ c, U c → c.isTouched = false → R c.id c)
    (hrebuild : ∀ c handle parents, U c → K c.id → c.isTouched = true →
      List.Forall₂ (fun p p' => R p.id p') c.parents parents →
        R c.id (c.rebuild args handle parents))
    {c : Contract} (hc : U c) {r : Rebuilding} (hdone : ∀ e ∈ r.done, R e.1 e.2)
    (hK : ∀ e ∈ (c.substitute args r).2.done, K e.1) :
    ImageKept R c.id (c.substitute args r) := by
  induction c using inductionOn generalizing r with
  | step c ih =>
      cases hlookup : r.done.lookup c.id with
      | some d =>
          rw [substitute_of_done hlookup]
          -- What is found was remembered when its identity was rebuilt.
          obtain ⟨before, after, hsplit, -⟩ := List.lookup_eq_some_iff.mp hlookup
          have hmem : (c.id, d) ∈ r.done := by rw [hsplit]; simp
          exact ⟨hdone _ hmem, hdone⟩
      | none =>
          cases htouched : c.isTouched with
          | false =>
              rw [substitute_of_untouched hlookup htouched]
              exact ⟨huntouched c hc htouched, hdone⟩
          | true =>
              rw [substitute_of_touched hlookup htouched] at hK ⊢
              obtain ⟨himages, hafter⟩ := substituteAll_image_of
                (fun p hp r hr => ih p hp (hparents c hc p hp) hr) hdone
                fun e he => hK e (List.mem_cons_of_mem _ he)
              have himage := hrebuild c (substituteAll args c.parents r).2.handle _ hc
                (hK _ List.mem_cons_self) htouched himages
              refine ⟨himage, ?_⟩
              intro e he
              rcases List.mem_cons.mp he with rfl | he
              · exact himage
              · exact hafter e he

/-- **Induction over the walk.**  A relation between identities and results holds of each contract and
its outcome if it holds of contracts that are left alone and is kept by rebuilding.  `K` holds of the
identities that are rebuilt. -/
theorem substituteAll_image (hparents : ∀ c, U c → ∀ p ∈ c.parents, U p)
    (huntouched : ∀ c, U c → c.isTouched = false → R c.id c)
    (hrebuild : ∀ c handle parents, U c → K c.id → c.isTouched = true →
      List.Forall₂ (fun p p' => R p.id p') c.parents parents →
        R c.id (c.rebuild args handle parents))
    {cs : List Contract} (hcs : ∀ c ∈ cs, U c) {handle : Nat}
    (hK : ∀ e ∈ (substituteAll args cs ⟨[], handle⟩).2.done, K e.1) :
    List.Forall₂ (fun c d => R c.id d) cs (substituteAll args cs ⟨[], handle⟩).1 ∧
      ∀ e ∈ (substituteAll args cs ⟨[], handle⟩).2.done, R e.1 e.2 :=
  substituteAll_image_of
    (fun c hc _ hr => imageKept_substitute hparents huntouched hrebuild (hcs c hc) hr)
    (fun _ he => absurd he List.not_mem_nil) hK

/-! ### Where the rebuilt contracts stand -/

private theorem ancestor_of_mem_substituteAll_of {cs : List Contract}
    (h : ∀ c ∈ cs, ∀ r, ∀ e ∈ (c.substitute args r).2.done,
      e ∈ r.done ∨ (c.substitute args r).1.Ancestor e.2)
    (r : Rebuilding) : ∀ e ∈ (substituteAll args cs r).2.done,
      e ∈ r.done ∨ ∃ d ∈ (substituteAll args cs r).1, d.Ancestor e.2 := by
  induction cs generalizing r with
  | nil =>
      rw [substituteAll]
      intro e he
      exact .inl he
  | cons c cs ih =>
      rw [substituteAll_cons]
      intro e he
      rcases ih (fun d hd => h d (List.mem_cons_of_mem c hd)) _ e he with hfirst | ⟨d, hd, ha⟩
      · rcases h c List.mem_cons_self r e hfirst with hr | ha
        · exact .inl hr
        · exact .inr ⟨_, List.mem_cons_self, ha⟩
      · exact .inr ⟨d, List.mem_cons_of_mem _ hd, ha⟩

/-- What is rebuilt for a contract is found in the outcome. -/
theorem ancestor_of_mem_substitute (c : Contract) (r : Rebuilding) :
    ∀ e ∈ (c.substitute args r).2.done, e ∈ r.done ∨ (c.substitute args r).1.Ancestor e.2 := by
  induction c using inductionOn generalizing r with
  | step c ih =>
      cases hlookup : r.done.lookup c.id with
      | some d =>
          rw [substitute_of_done hlookup]
          exact fun e he => .inl he
      | none =>
          cases htouched : c.isTouched with
          | false =>
              rw [substitute_of_untouched hlookup htouched]
              exact fun e he => .inl he
          | true =>
              rw [substitute_of_touched hlookup htouched]
              intro e he
              rcases List.mem_cons.mp he with rfl | he
              · exact .inr (Ancestor.refl _)
              · rcases ancestor_of_mem_substituteAll_of ih r e he with hr | ⟨d, hd, ha⟩
                · exact .inl hr
                · exact .inr ((Ancestor.parent hd).trans ha)

theorem ancestor_of_mem_substituteAll (cs : List Contract) (handle : Nat) :
    ∀ e ∈ (substituteAll args cs ⟨[], handle⟩).2.done,
      ∃ d ∈ (substituteAll args cs ⟨[], handle⟩).1, d.Ancestor e.2 := by
  intro e he
  rcases ancestor_of_mem_substituteAll_of (fun c _ => ancestor_of_mem_substitute c) _ e he with
    hnil | hfound
  · exact absurd hnil List.not_mem_nil
  · exact hfound

/-! ### The rebuilt identities -/

/-- The identities that instantiating the contract rebuilds, the latest first. -/
def rebuiltIds (c : Contract) : List ContractId :=
  (substituteAll [] c.parents ⟨[], 0⟩).2.done.map (·.1)

private theorem lookup_eq_none_congr {l l' : List (ContractId × Contract)} {id : ContractId}
    (h : l.map (·.1) = l'.map (·.1)) (hl : l.lookup id = none) : l'.lookup id = none := by
  rw [List.lookup_eq_none_iff] at hl ⊢
  intro e he
  have hmem : e.1 ∈ l.map (·.1) := h ▸ List.mem_map_of_mem he
  obtain ⟨e', he', heq⟩ := List.mem_map.mp hmem
  exact heq ▸ hl e' he'

private theorem substituteAll_ids_congr_of {args' : List Shape} {cs : List Contract}
    (h : ∀ c ∈ cs, ∀ r r' : Rebuilding, r.done.map (·.1) = r'.done.map (·.1) →
      (c.substitute args r).2.done.map (·.1) = (c.substitute args' r').2.done.map (·.1))
    {r r' : Rebuilding} (hr : r.done.map (·.1) = r'.done.map (·.1)) :
    (substituteAll args cs r).2.done.map (·.1) = (substituteAll args' cs r').2.done.map (·.1) := by
  induction cs generalizing r r' with
  | nil =>
      unfold substituteAll
      exact hr
  | cons c cs ih =>
      rw [substituteAll_cons, substituteAll_cons]
      exact ih (fun d hd => h d (List.mem_cons_of_mem c hd)) (h c List.mem_cons_self r r' hr)

/-- Which identities are rebuilt is no matter of the arguments. -/
theorem substitute_ids_congr {args' : List Shape} (c : Contract) {r r' : Rebuilding}
    (hr : r.done.map (·.1) = r'.done.map (·.1)) :
    (c.substitute args r).2.done.map (·.1) = (c.substitute args' r').2.done.map (·.1) := by
  induction c using inductionOn generalizing r r' with
  | step c ih =>
      -- Both walks remember the same identities, so they find something at the same places.
      cases hlookup : r.done.lookup c.id with
      | some d =>
          cases hlookup' : r'.done.lookup c.id with
          | some d' =>
              rw [substitute_of_done hlookup, substitute_of_done hlookup']
              exact hr
          | none => cases hlookup.symm.trans (lookup_eq_none_congr hr.symm hlookup')
      | none =>
          have hlookup' := lookup_eq_none_congr hr hlookup
          cases htouched : c.isTouched with
          | false =>
              rw [substitute_of_untouched hlookup htouched,
                substitute_of_untouched hlookup' htouched]
              exact hr
          | true =>
              rw [substitute_of_touched hlookup htouched, substitute_of_touched hlookup' htouched]
              exact congrArg (c.id :: ·) (substituteAll_ids_congr_of (fun p hp _ _ => ih p hp) hr)

/-- Every instantiation of the contract rebuilds the same identities. -/
theorem map_done_eq_rebuiltIds (c : Contract) (handle : Nat) :
    (substituteAll args c.parents ⟨[], handle⟩).2.done.map (·.1) = c.rebuiltIds :=
  substituteAll_ids_congr_of (fun p _ _ _ => substitute_ids_congr p) rfl

end Contract

end StructuralAdapters
