import StructuralAdapters.Proofs.Canonical
import StructuralAdapters.Proofs.Rebuilding

/-!
# The progress of a walk

An instantiation walks over what a definition extends and remembers what it has rebuilt.  This module
says what a walk over several contracts leaves behind, with nothing assumed about their identities.

* `Contract.Walks` — the contracts that a walk comes to;
* `Contract.Settled` — what has become of a contract that the walk has passed;
* `Contract.Progress` — the invariant: each contract is settled, and each result that is new was rebuilt
  from a contract to which the walk has come;
* `Contract.progress_substituteAll` — every walk makes progress.

## Settled twice

A contract that is left alone is not remembered.  If another contract with its identity is rebuilt, the
same walk may both leave the one alone and return the result of the other, so a contract can be settled
in two ways.
-/

namespace StructuralAdapters

/-- The later state remembers more, and one handle was taken for each result that is new. -/
def Rebuilding.Grows (r r' : Rebuilding) : Prop :=
  ∃ new, r'.done = new ++ r.done ∧ r'.handle = r.handle + new.length

namespace Rebuilding.Grows

variable {r r' r'' : Rebuilding}

theorem refl (r : Rebuilding) : r.Grows r := ⟨[], rfl, rfl⟩

theorem trans (h : r.Grows r') (h' : r'.Grows r'') : r.Grows r'' := by
  obtain ⟨new, hdone, hhandle⟩ := h
  obtain ⟨new', hdone', hhandle'⟩ := h'
  refine ⟨new' ++ new, ?_, ?_⟩
  · rw [hdone', hdone, List.append_assoc]
  · rw [hhandle', hhandle, List.length_append]
    omega

theorem done_subset (h : r.Grows r') : r.done ⊆ r'.done := by
  obtain ⟨new, hdone, -⟩ := h
  exact hdone ▸ List.subset_append_right new r.done

theorem handle_le (h : r.Grows r') : r.handle ≤ r'.handle := by
  obtain ⟨new, -, hhandle⟩ := h
  exact hhandle ▸ Nat.le_add_right _ _

end Rebuilding.Grows

namespace Contract

variable {args : List Shape} {r r₁ r₂ : Rebuilding} {a c d : Contract} {cs ds : List Contract}

/-! ### What becomes of a contract -/

/-- A walk that starts at `c` comes to `a`: only what rebuilt contracts extend is looked at. -/
def Walks (c a : Contract) : Prop :=
  Relation.ReflTransGen (fun c p => c.isTouched = true ∧ p ∈ c.parents) c a

theorem Walks.refl (c : Contract) : c.Walks c := Relation.ReflTransGen.refl

theorem Walks.ancestor (h : c.Walks a) : c.Ancestor a :=
  Relation.ReflTransGen.mono (fun _ _ hstep => hstep.2) _ _ h

/-- The contract has become `d`: a result that is remembered under its identity, or itself. -/
def Settled (r : Rebuilding) (c d : Contract) : Prop :=
  (c.id, d) ∈ r.done ∨ c.isTouched = false ∧ d = c

theorem Settled.grow (h : Settled r c d) (hgrows : r.Grows r₁) : Settled r₁ c d :=
  h.imp_left fun hdone => hgrows.done_subset hdone

theorem forall₂_settled_grow (h : List.Forall₂ (Settled r) cs ds) (hgrows : r.Grows r₁) :
    List.Forall₂ (Settled r₁) cs ds :=
  h.imp fun _ _ hsettled => hsettled.grow hgrows

/-- The walk from `r` to `r₁` has rebuilt `c`, and the result is `d`. -/
structure Rebuilt (args : List Shape) (r r₁ : Rebuilding) (c d : Contract) : Prop where
  touched : c.isTouched = true
  eq_rebuild : d = c.rebuild args d.handle d.parents
  parents : List.Forall₂ (Settled r₁) c.parents d.parents
  /-- The handle was taken during the walk. -/
  le_handle : r.handle ≤ d.handle
  handle_lt : d.handle < r₁.handle

theorem Rebuilt.grow {r₀ : Rebuilding} (h : Rebuilt args r r₁ c d) (hbefore : r₀.Grows r)
    (hafter : r₁.Grows r₂) : Rebuilt args r₀ r₂ c d where
  touched := h.touched
  eq_rebuild := h.eq_rebuild
  parents := forall₂_settled_grow h.parents hafter
  le_handle := Nat.le_trans hbefore.handle_le h.le_handle
  handle_lt := Nat.lt_of_lt_of_le h.handle_lt hafter.handle_le

/-- No contract of the lineage extends one with its own identity. -/
def Acyclic (c : Contract) : Prop :=
  c.Lineage fun a => ∀ p ∈ a.parents, ∀ x, p.Ancestor x → x.id ≠ a.id

/-! ### The invariant -/

/-- What a walk over the contracts `cs` has done that started with `r`, ended with `r₁` and returned
`ds`. -/
structure Progress (args : List Shape) (r : Rebuilding) (cs ds : List Contract) (r₁ : Rebuilding) :
    Prop where
  grows : r.Grows r₁
  settled : List.Forall₂ (Settled r₁) cs ds
  sourced : ∀ e ∈ r₁.done, e ∈ r.done ∨
    ∃ c ∈ cs, ∃ a, c.Walks a ∧ a.id = e.1 ∧ Rebuilt args r r₁ a e.2
  /-- If no contract extends its own identity, each identity is rebuilt once. -/
  nodup : (∀ c ∈ cs, c.Acyclic) → (r.done.map (·.1)).Nodup → (r₁.done.map (·.1)).Nodup

namespace Progress

theorem nil (r : Rebuilding) : Progress args r [] [] r where
  grows := .refl r
  settled := .nil
  sourced _ he := .inl he
  nodup _ h := h

/-- One contract after the other. -/
theorem cons (h : Progress args r [c] [d] r₁) (h' : Progress args r₁ cs ds r₂) :
    Progress args r (c :: cs) (d :: ds) r₂ where
  grows := h.grows.trans h'.grows
  settled := by
    obtain ⟨hsettled, -⟩ := List.forall₂_cons.mp h.settled
    exact .cons (hsettled.grow h'.grows) h'.settled
  sourced := by
    intro e he
    rcases h'.sourced e he with hfirst | ⟨b, hb, a, hwalks, hid, hrebuilt⟩
    · rcases h.sourced e hfirst with hr | ⟨b, hb, a, hwalks, hid, hrebuilt⟩
      · exact .inl hr
      · rw [List.mem_singleton.mp hb] at hwalks
        exact .inr ⟨c, List.mem_cons_self, a, hwalks, hid, hrebuilt.grow (.refl r) h'.grows⟩
    · exact .inr ⟨b, List.mem_cons_of_mem c hb, a, hwalks, hid, hrebuilt.grow h.grows (.refl r₂)⟩
  nodup := by
    intro hacyclic hr
    refine h'.nodup (fun b hb => hacyclic b (List.mem_cons_of_mem c hb)) (h.nodup ?_ hr)
    intro b hb
    rw [List.mem_singleton.mp hb]
    exact hacyclic c List.mem_cons_self

/-- The contract has been rebuilt before. -/
theorem of_done (h : (c.id, d) ∈ r.done) : Progress args r [c] [d] r where
  grows := .refl r
  settled := .cons (.inl h) .nil
  sourced _ he := .inl he
  nodup _ h := h

theorem of_untouched (h : c.isTouched = false) : Progress args r [c] [c] r where
  grows := .refl r
  settled := .cons (.inr ⟨h, rfl⟩) .nil
  sourced _ he := .inl he
  nodup _ h := h

/-- After the contracts that it extends, the contract is rebuilt and remembered. -/
theorem of_touched (hnew : r.done.lookup c.id = none) (htouched : c.isTouched = true)
    (h : Progress args r c.parents ds r₁) :
    Progress args r [c] [c.rebuild args r₁.handle ds]
      ⟨(c.id, c.rebuild args r₁.handle ds) :: r₁.done, r₁.handle + 1⟩ := by
  have hgrows : r₁.Grows ⟨(c.id, c.rebuild args r₁.handle ds) :: r₁.done, r₁.handle + 1⟩ :=
    ⟨[_], rfl, rfl⟩
  refine ⟨h.grows.trans hgrows, .cons (.inl List.mem_cons_self) .nil, ?_, ?_⟩
  · intro e he
    rcases List.mem_cons.mp he with rfl | he
    · refine .inr ⟨c, List.mem_cons_self, c, Walks.refl c, rfl, htouched, rfl, ?_, ?_, ?_⟩
      · exact forall₂_settled_grow h.settled hgrows
      · exact h.grows.handle_le
      · exact Nat.lt_succ_self _
    · rcases h.sourced e he with hr | ⟨p, hp, a, hwalks, hid, hrebuilt⟩
      · exact .inl hr
      · exact .inr ⟨c, List.mem_cons_self, a, hwalks.head ⟨htouched, hp⟩, hid,
          hrebuilt.grow (.refl r) hgrows⟩
  · intro hacyclic hr
    have hc : c.Acyclic := hacyclic c List.mem_cons_self
    refine List.nodup_cons.mpr ⟨?_, h.nodup (fun p hp => hc.parent hp) hr⟩
    intro hmem
    obtain ⟨e, he, hid⟩ := List.mem_map.mp hmem
    rcases h.sourced e he with he | ⟨p, hp, a, hwalks, haid, -⟩
    · exact bne_iff_ne.mp (List.lookup_eq_none_iff.mp hnew e he) hid.symm
    · exact hc.self p hp a hwalks.ancestor (haid.trans hid)

end Progress

/-! ### Walks make progress -/

private theorem progress_substituteAll_of
    (h : ∀ c ∈ cs, ∀ r, Progress args r [c] [(c.substitute args r).1] (c.substitute args r).2)
    (r : Rebuilding) :
    Progress args r cs (substituteAll args cs r).1 (substituteAll args cs r).2 := by
  induction cs generalizing r with
  | nil =>
      rw [substituteAll]
      exact .nil r
  | cons c cs ih =>
      rw [substituteAll_cons]
      exact (h c List.mem_cons_self r).cons (ih (fun d hd => h d (List.mem_cons_of_mem c hd)) _)

theorem progress_substitute (c : Contract) (r : Rebuilding) :
    Progress args r [c] [(c.substitute args r).1] (c.substitute args r).2 := by
  induction c using inductionOn generalizing r with
  | step c ih =>
      cases hlookup : r.done.lookup c.id with
      | some d =>
          rw [substitute_of_done hlookup]
          obtain ⟨before, after, hsplit, -⟩ := List.lookup_eq_some_iff.mp hlookup
          exact .of_done (by rw [hsplit]; simp)
      | none =>
          cases htouched : c.isTouched with
          | false =>
              rw [substitute_of_untouched hlookup htouched]
              exact .of_untouched htouched
          | true =>
              rw [substitute_of_touched hlookup htouched]
              exact .of_touched hlookup htouched (progress_substituteAll_of ih r)

/-- **Every walk makes progress.** -/
theorem progress_substituteAll (args : List Shape) (cs : List Contract) (r : Rebuilding) :
    Progress args r cs (substituteAll args cs r).1 (substituteAll args cs r).2 :=
  progress_substituteAll_of (fun c _ => progress_substitute c) r

/-! ### A whole walk -/

namespace Progress

variable {start : Nat}

/-- What a whole walk remembers, it has rebuilt. -/
theorem exists_rebuilt (h : Progress args ⟨[], start⟩ cs ds r₁) {id : ContractId}
    (hdone : (id, d) ∈ r₁.done) :
    ∃ c ∈ cs, ∃ a, c.Walks a ∧ a.id = id ∧ Rebuilt args ⟨[], start⟩ r₁ a d :=
  (h.sourced _ hdone).resolve_left List.not_mem_nil

/-- A whole walk takes one handle for each contract that it rebuilds. -/
theorem handle_eq (h : Progress args ⟨[], start⟩ cs ds r₁) :
    r₁.handle = start + r₁.done.length := by
  obtain ⟨new, hdone, hhandle⟩ := h.grows
  rw [hhandle, hdone, List.append_nil]

/-- The handles of what a whole walk returns have been taken before its end. -/
theorem lineage_handle_lt (h : Progress args ⟨[], start⟩ cs ds r₁)
    (hcs : ∀ c ∈ cs, c.Lineage fun a => a.handle < start) :
    ∀ d ∈ ds, d.Lineage fun a => a.handle < r₁.handle := by
  have hsettled : ∀ d c, Settled r₁ c d → (c.Lineage fun a => a.handle < start) →
      d.Lineage fun a => a.handle < r₁.handle := by
    intro d
    induction d using inductionOn with
    | step d ih =>
        rintro c (hdone | ⟨-, rfl⟩) hc
        · obtain ⟨p, hp, a, hwalks, -, hrebuilt⟩ := h.exists_rebuilt hdone
          have ha := (hcs p hp).ancestor hwalks.ancestor
          refine lineage_iff.mpr ⟨hrebuilt.handle_lt, ?_⟩
          intro q hq
          obtain ⟨x, hx, hsettled⟩ := exists_mem_of_forall₂ hrebuilt.parents hq
          exact ih q hq x hsettled (ha.parent hx)
        · exact hc.mono fun a ha => Nat.lt_of_lt_of_le ha h.grows.handle_le
  intro d hd
  obtain ⟨c, hc, hcd⟩ := exists_mem_of_forall₂ h.settled hd
  exact hsettled d c hcd (hcs c hc)

/-- A touched contract has become what is remembered under its identity. -/
theorem exists_of_touched (h : Progress args r cs ds r₁) (hc : c ∈ cs) (htouched : c.isTouched = true) :
    ∃ d ∈ ds, (c.id, d) ∈ r₁.done := by
  obtain ⟨i, hi⟩ := List.mem_iff_getElem?.mp hc
  obtain ⟨d, hd, hsettled⟩ := exists_getElem?_of_forall₂ h.settled hi
  refine ⟨d, List.mem_of_getElem? hd, hsettled.resolve_right ?_⟩
  rintro ⟨huntouched, -⟩
  cases huntouched.symm.trans htouched

end Progress

end Contract

end StructuralAdapters
