import StructuralAdapters.Proofs.BareParents
import StructuralAdapters.Proofs.Commutation
import StructuralAdapters.Proofs.PlainRecursion
import StructuralAdapters.Session.Run

/-!
# Sharing

An instantiation remembers what it has rebuilt, so that a contract that is reached along several extension
paths is rebuilt once.  What is left alone is not remembered: the walk does not look at what it extends.

* `Contract.SharedIn` — paths that lead to one contract lead to one contract in the result;
* `Contract.Separated` — nothing that is left alone extends what is rebuilt;
* `Contract.sharedIn_rebuild_iff` — the result shares what the definition shares exactly if these are
  separate;
* `Contract.length_rebuiltIds_lt` — no more contracts are built than there are identities in the lineage;
* `ContractPool.instantiate_remembering` — what remembering does to an instantiation;
* `ContractPool.sharing_fails` — a program that instantiates a definition and finds one contract twice in the
  result, once rebuilt and once as it was.

## Identity and instance

Sharing is about values: the two ends of the paths are the same one, handle included.  It is only asked for
where an identity stands for one value.
-/

namespace StructuralAdapters

namespace Contract

open Session.Run (follow)

variable {args : List Shape} {r₁ : Rebuilding} {a c x x' y y' : Contract} {ds : List Contract}
  {start handle i : Nat} {path : List Nat}

/-! ### Extension paths -/

theorem follow_append (c : Contract) (path path' : List Nat) :
    follow c (path ++ path') = (follow c path).bind fun a => follow a path' := by
  induction path generalizing c with
  | nil => rfl
  | cons i path ih =>
      rw [List.cons_append, follow, follow, Option.bind_assoc]
      simp only [ih]

theorem follow_cons_eq_some_iff :
    follow c (i :: path) = some a ↔ ∃ p, c.parents[i]? = some p ∧ follow p path = some a := by
  rw [follow, Option.bind_eq_some_iff]

/-- One more extension. -/
theorem follow_concat (h : follow c path = some a) (hp : a.parents[i]? = some x) :
    follow c (path ++ [i]) = some x := by
  rw [follow_append, h, Option.bind_some, follow, hp]
  rfl

theorem ancestor_of_follow (h : follow c path = some a) : c.Ancestor a := by
  induction path generalizing c with
  | nil => exact Option.some.inj h ▸ Ancestor.refl c
  | cons i path ih =>
      obtain ⟨p, hp, hpath⟩ := follow_cons_eq_some_iff.mp h
      exact (Ancestor.parent (List.mem_of_getElem? hp)).trans (ih hpath)

theorem exists_follow_of_ancestor (h : c.Ancestor a) : ∃ path, follow c path = some a := by
  induction h with
  | refl => exact ⟨[], rfl⟩
  | tail _ hp ih =>
      obtain ⟨path, hpath⟩ := ih
      obtain ⟨i, hi⟩ := List.mem_iff_getElem?.mp hp
      exact ⟨path ++ [i], follow_concat hpath hi⟩

/-! ### What is met and what is kept -/

/-- In the lineage of the contract each identity stands for one value. -/
def IdentifiesInstances (c : Contract) : Prop :=
  ∀ a b, c.Ancestor a → c.Ancestor b → a.id = b.id → a = b

theorem IdentifiesInstances.acyclic (h : c.IdentifiesInstances) : c.Acyclic :=
  (unambiguous_of_injective h).acyclic

/-- An instantiation of `c` comes to `a`. -/
def Met (c a : Contract) : Prop := ∃ p ∈ c.parents, p.Walks a

/-- An instantiation of `c` leaves `x` alone, or something that extends it. -/
def Kept (c x : Contract) : Prop := ∃ u, c.Met u ∧ u.isTouched = false ∧ u.Ancestor x

/-- Nothing that an instantiation leaves alone extends something that it rebuilds. -/
def Separated (c : Contract) : Prop := ∀ x, c.Kept x → c.Met x → x.isTouched = false

/-- After the walk `x'` stands where `x` was: it is what has become of `x`, or `x` was kept. -/
def Becomes (r₁ : Rebuilding) (c x x' : Contract) : Prop :=
  c.Met x ∧ Settled r₁ x x' ∨ c.Kept x ∧ x' = x

/-- Extension paths that lead from `c` to one contract lead from `c'` to one contract. -/
def SharedIn (c c' : Contract) : Prop :=
  ∀ path path' a, follow c path = some a → follow c path' = some a →
    ∃ a', follow c' path = some a' ∧ follow c' path' = some a'

theorem Met.ancestor (h : c.Met a) : c.Ancestor a := by
  obtain ⟨p, hp, hwalks⟩ := h
  exact (Ancestor.parent hp).trans hwalks.ancestor

theorem Met.parent (h : c.Met a) (htouched : a.isTouched = true) (hx : x ∈ a.parents) : c.Met x := by
  obtain ⟨p, hp, hwalks⟩ := h
  exact ⟨p, hp, hwalks.tail ⟨htouched, hx⟩⟩

/-- What is met and touched becomes what is remembered, if it was not kept. -/
theorem Becomes.mem_done (hx : Becomes r₁ c x x') (hseparated : c.Separated) (hmet : c.Met x)
    (htouched : x.isTouched = true) : (x.id, x') ∈ r₁.done := by
  rcases hx with ⟨-, hdone | ⟨huntouched, -⟩⟩ | ⟨hkept, -⟩
  · exact hdone
  · cases huntouched.symm.trans htouched
  · cases (hseparated x hkept hmet).symm.trans htouched

/-! ### From the definition to the result -/

namespace Progress

/-- A contract that is met and touched has been rebuilt. -/
theorem rebuilt (h : Progress args ⟨[], start⟩ c.parents ds r₁) (hc : c.IdentifiesInstances)
    (hx : c.Met x) (hdone : (x.id, x') ∈ r₁.done) : Rebuilt args ⟨[], start⟩ r₁ x x' := by
  obtain ⟨p, hp, a, hwalks, hid, hrebuilt⟩ := h.exists_rebuilt hdone
  have ha : c.Ancestor a := (Ancestor.parent hp).trans hwalks.ancestor
  exact hc a x ha hx.ancestor hid ▸ hrebuilt

/-- A contract that is met has been rebuilt, or it was left alone. -/
theorem rebuilt_or_eq (h : Progress args ⟨[], start⟩ c.parents ds r₁) (hc : c.IdentifiesInstances)
    (hx : c.Met x) (hsettled : Settled r₁ x x') :
    (x.id, x') ∈ r₁.done ∧ Rebuilt args ⟨[], start⟩ r₁ x x' ∨ x.isTouched = false ∧ x' = x :=
  hsettled.imp_left fun hdone => ⟨hdone, h.rebuilt hc hx hdone⟩

/-- Each path from a contract that is met has its counterpart in what the contract has become. -/
theorem exists_follow (h : Progress args ⟨[], start⟩ c.parents ds r₁) (hc : c.IdentifiesInstances)
    (hx : c.Met x) (hsettled : Settled r₁ x x') (hpath : follow x path = some y) :
    ∃ y', follow x' path = some y' ∧ Becomes r₁ c y y' := by
  induction path generalizing x x' with
  | nil =>
      obtain rfl := Option.some.inj hpath
      exact ⟨x', rfl, .inl ⟨hx, hsettled⟩⟩
  | cons i path ih =>
      rcases h.rebuilt_or_eq hc hx hsettled with ⟨-, hrebuilt⟩ | ⟨huntouched, rfl⟩
      · obtain ⟨p, hp, hpath⟩ := follow_cons_eq_some_iff.mp hpath
        obtain ⟨p', hp', hparent⟩ := exists_getElem?_of_forall₂ hrebuilt.parents hp
        obtain ⟨y', hy', hbecomes⟩ :=
          ih (hx.parent hrebuilt.touched (List.mem_of_getElem? hp)) hparent hpath
        exact ⟨y', follow_cons_eq_some_iff.mpr ⟨p', hp', hy'⟩, hbecomes⟩
      · exact ⟨y, hpath, .inr ⟨⟨x', hx, huntouched, ancestor_of_follow hpath⟩, rfl⟩⟩

/-- Each path from the definition, but for the empty one, has its counterpart in the result. -/
theorem exists_follow_rebuild (h : Progress args ⟨[], start⟩ c.parents ds r₁)
    (hc : c.IdentifiesInstances) (handle : Nat) (hpath : follow c (i :: path) = some y) :
    ∃ y', follow (c.rebuild args handle ds) (i :: path) = some y' ∧ Becomes r₁ c y y' := by
  obtain ⟨p, hp, hpath⟩ := follow_cons_eq_some_iff.mp hpath
  obtain ⟨d, hd, hsettled⟩ := exists_getElem?_of_forall₂ h.settled hp
  have hmet : c.Met p := ⟨p, List.mem_of_getElem? hp, Walks.refl p⟩
  obtain ⟨y', hy', hbecomes⟩ := h.exists_follow hc hmet hsettled hpath
  exact ⟨y', follow_cons_eq_some_iff.mpr ⟨d, hd, hy'⟩, hbecomes⟩

/-- A path comes to each contract that is met, and in the result to what it has become. -/
theorem exists_path (h : Progress args ⟨[], start⟩ c.parents ds r₁) (hc : c.IdentifiesInstances)
    (handle : Nat) (hx : c.Met x) :
    ∃ path x', follow c path = some x ∧ follow (c.rebuild args handle ds) path = some x' ∧
      Settled r₁ x x' := by
  obtain ⟨p, hp, hwalks⟩ := hx
  induction hwalks with
  | refl =>
      obtain ⟨i, hi⟩ := List.mem_iff_getElem?.mp hp
      obtain ⟨d, hd, hsettled⟩ := exists_getElem?_of_forall₂ h.settled hi
      exact ⟨[i], d, follow_cons_eq_some_iff.mpr ⟨p, hi, rfl⟩,
        follow_cons_eq_some_iff.mpr ⟨d, hd, rfl⟩, hsettled⟩
  | @tail a x hwalks hstep ih =>
      obtain ⟨path, a', hpath, hpath', hsettled⟩ := ih
      obtain ⟨htouched, hx⟩ := hstep
      have hdone : (a.id, a') ∈ r₁.done := hsettled.resolve_right fun ⟨huntouched, _⟩ =>
        Bool.noConfusion (huntouched.symm.trans htouched)
      obtain ⟨i, hi⟩ := List.mem_iff_getElem?.mp hx
      obtain ⟨x', hx', hparent⟩ :=
        exists_getElem?_of_forall₂ (h.rebuilt hc ⟨p, hp, hwalks⟩ hdone).parents hi
      exact ⟨path ++ [i], x', follow_concat hpath hi, follow_concat hpath' hx', hparent⟩

/-- What arguments cannot change stays as it is. -/
theorem eq_of_untouched (h : Progress args ⟨[], start⟩ c.parents ds r₁) (hc : c.IdentifiesInstances)
    (huntouched : x.isTouched = false) (hx : Becomes r₁ c x x') : x' = x := by
  rcases hx with ⟨hmet, hsettled⟩ | ⟨-, heq⟩
  · rcases h.rebuilt_or_eq hc hmet hsettled with ⟨-, hrebuilt⟩ | ⟨-, heq⟩
    · cases huntouched.symm.trans hrebuilt.touched
    · exact heq
  · exact heq

/-- **Nothing becomes two things** if what is kept and what is rebuilt are separate. -/
theorem becomes_unique (h : Progress args ⟨[], start⟩ c.parents ds r₁) (hc : c.IdentifiesInstances)
    (hseparated : c.Separated) (hy : Becomes r₁ c x y) (hy' : Becomes r₁ c x y') : y = y' := by
  cases htouched : x.isTouched with
  | false => rw [h.eq_of_untouched hc htouched hy, h.eq_of_untouched hc htouched hy']
  | true =>
      by_cases hmet : c.Met x
      · -- Each identity is remembered once.
        have hnodup := h.nodup (fun p hp => hc.acyclic.parent hp) List.nodup_nil
        have hentries := List.inj_on_of_nodup_map hnodup
          (hy.mem_done hseparated hmet htouched) (hy'.mem_done hseparated hmet htouched) rfl
        exact congrArg Prod.snd hentries
      · rw [(hy.resolve_left fun hx => hmet hx.1).2, (hy'.resolve_left fun hx => hmet hx.1).2]

end Progress

/-! ### When the result shares what the definition shares -/

/-- A contract is at the end of no path but the empty one. -/
theorem IdentifiesInstances.follow_cons_ne (hc : c.IdentifiesInstances) :
    follow c (i :: path) ≠ some c := by
  intro hpath
  obtain ⟨p, hp, hpath⟩ := follow_cons_eq_some_iff.mp hpath
  exact hc.acyclic.self p (List.mem_of_getElem? hp) c (ancestor_of_follow hpath) rfl

theorem Progress.sharedIn (h : Progress args ⟨[], start⟩ c.parents ds r₁) (hc : c.IdentifiesInstances)
    (hseparated : c.Separated) (handle : Nat) : c.SharedIn (c.rebuild args handle ds) := by
  intro path path' a hpath hpath'
  cases path with
  | nil =>
      obtain rfl := Option.some.inj hpath
      cases path' with
      | nil => exact ⟨_, rfl, rfl⟩
      | cons i path' => exact absurd hpath' hc.follow_cons_ne
  | cons i path =>
      cases path' with
      | nil =>
          obtain rfl := Option.some.inj hpath'
          exact absurd hpath hc.follow_cons_ne
      | cons j path' =>
          obtain ⟨y, hy, hbecomes⟩ := h.exists_follow_rebuild hc handle hpath
          obtain ⟨y', hy', hbecomes'⟩ := h.exists_follow_rebuild hc handle hpath'
          obtain rfl := h.becomes_unique hc hseparated hbecomes hbecomes'
          exact ⟨y, hy, hy'⟩

/-- A rebuilt contract that is extended by something that was kept is there twice: its handle is new. -/
theorem Progress.separated (h : Progress args ⟨[], start⟩ c.parents ds r₁)
    (hc : c.IdentifiesInstances) (hold : c.Lineage fun a => a.handle < start)
    (hshared : c.SharedIn (c.rebuild args handle ds)) : c.Separated := by
  rintro x ⟨u, hu, huntouched, hux⟩ hx
  by_contra htouched
  -- One path goes through what was kept, the other comes to what was rebuilt.
  obtain ⟨path, u', hpath, hpath', hsettledU⟩ := h.exists_path hc handle hu
  obtain rfl : u' = u := h.eq_of_untouched hc huntouched (.inl ⟨hu, hsettledU⟩)
  obtain ⟨rest, hrest⟩ := exists_follow_of_ancestor hux
  have hkept : follow c (path ++ rest) = some x := by rw [follow_append, hpath]; exact hrest
  have hkept' : follow (c.rebuild args handle ds) (path ++ rest) = some x := by
    rw [follow_append, hpath']
    exact hrest
  obtain ⟨short, x', hshort, hshort', hsettled⟩ := h.exists_path hc handle hx
  obtain ⟨y, hy, hy'⟩ := hshared _ _ x hkept hshort
  obtain rfl : x = x' := Option.some.inj (hkept'.symm.trans (hy.trans (hy'.symm.trans hshort')))
  rcases h.rebuilt_or_eq hc hx hsettled with ⟨-, hrebuilt⟩ | ⟨huntouched, -⟩
  · exact Nat.not_lt.mpr hrebuilt.le_handle (hold x hx.ancestor)
  · exact htouched huntouched

/-- **The result shares what the definition shares, exactly if what is kept and what is rebuilt are
separate.** -/
theorem Progress.sharedIn_iff (h : Progress args ⟨[], start⟩ c.parents ds r₁)
    (hc : c.IdentifiesInstances) (hold : c.Lineage fun a => a.handle < start) (handle : Nat) :
    c.SharedIn (c.rebuild args handle ds) ↔ c.Separated :=
  ⟨h.separated hc hold, fun hseparated => h.sharedIn hc hseparated handle⟩

/-! ### How much is built -/

/-- The identities of the lineage, each once. -/
def identities (c : Contract) : List ContractId := (c.nearestFirst.map Contract.id).dedup

theorem mem_identities {id : ContractId} : id ∈ c.identities ↔ ∃ a, c.Ancestor a ∧ a.id = id := by
  simp only [identities, List.mem_dedup, List.mem_map, mem_nearestFirst]

/-- **No identity is rebuilt twice**, and what the definition itself becomes is built besides. -/
theorem length_rebuiltIds_lt (hc : c.Acyclic) : c.rebuiltIds.length < c.identities.length := by
  have hprogress := progress_substituteAll [] c.parents ⟨[], 0⟩
  have hsource : ∀ id ∈ c.rebuiltIds, ∃ p ∈ c.parents, ∃ a, p.Ancestor a ∧ a.id = id := by
    intro id hid
    obtain ⟨⟨id, d⟩, hdone, rfl⟩ := List.mem_map.mp hid
    obtain ⟨p, hp, a, hwalks, ha, -⟩ := hprogress.exists_rebuilt hdone
    exact ⟨p, hp, a, hwalks.ancestor, ha⟩
  have hnodup : (c.id :: c.rebuiltIds).Nodup := by
    refine List.nodup_cons.mpr ⟨?_, ?_⟩
    · intro hid
      obtain ⟨p, hp, a, ha, haid⟩ := hsource _ hid
      exact hc.self p hp a ha haid
    · exact hprogress.nodup (fun p hp => hc.parent hp) List.nodup_nil
  have hsubset : c.id :: c.rebuiltIds ⊆ c.identities := by
    intro id hid
    rcases List.mem_cons.mp hid with rfl | hid
    · exact mem_identities.mpr ⟨c, Ancestor.refl c, rfl⟩
    · obtain ⟨p, hp, a, ha, haid⟩ := hsource id hid
      exact mem_identities.mpr ⟨a, (Ancestor.parent hp).trans ha, haid⟩
  exact (hnodup.subperm hsubset).length_le

end Contract

namespace ContractPool

open Contract

variable {allowed : Contract → Prop} {pool pool' : ContractPool} {c : Contract} {args : List Shape}

/-! ### Handles -/

/-- Each value of the pool has taken an earlier handle than the next one. -/
def Numbered (pool : ContractPool) : Prop :=
  ∀ c ∈ pool.contracts, c.Lineage fun a => a.handle < pool.numbers.handle

theorem Step.numbered (h : Step allowed pool pool') (hpool : pool.Numbered) : pool'.Numbered := by
  cases h with
  | build draft hparents _ =>
      intro c hc
      rcases List.mem_cons.mp hc with rfl | hc
      · refine lineage_iff.mpr ⟨Nat.lt_succ_self _, ?_⟩
        intro p hp
        exact (hpool p (hparents p hp)).mono fun _ ha => Nat.lt_succ_of_lt ha
      · exact (hpool c hc).mono fun _ ha => Nat.lt_succ_of_lt ha
  | instantiate c hc args c' numbers hok =>
      obtain ⟨rfl, rfl⟩ := eq_rebuild_of_instantiate_eq_ok hok
      have hprogress := progress_substituteAll args c.parents ⟨[], pool.numbers.handle⟩
      have hparents := hprogress.lineage_handle_lt fun p hp => (hpool c hc).parent hp
      intro d hd
      rcases List.mem_cons.mp hd with rfl | hd
      · refine lineage_iff.mpr ⟨Nat.lt_succ_self _, ?_⟩
        intro p hp
        exact (hparents p hp).mono fun _ ha => Nat.lt_succ_of_lt ha
      · exact (hpool d hd).mono fun _ ha =>
          Nat.lt_succ_of_lt (Nat.lt_of_lt_of_le ha hprogress.grows.handle_le)
  | parent c hc p hp =>
      intro d hd
      rcases List.mem_cons.mp hd with rfl | hd
      · exact (hpool c hc).parent hp
      · exact hpool d hd

theorem Reachable.numbered (h : Reachable pool) : pool.Numbered := by
  obtain ⟨numbers, hhistory⟩ := h
  induction hhistory with
  | refl => exact fun c hc => absurd hc List.not_mem_nil
  | tail _ hstep ih => exact hstep.numbered ih

/-! ### What remembering does -/

/-- **Remembering changes nothing but sharing.**  An instantiation of a bare generic definition with as
many arguments as it has parameters succeeds, and so does the plain one; both build the same at every depth.
It builds one contract for each identity that is rebuilt and one for the definition, together no more than
there are identities in the lineage.  Where an identity stands for one value, the result shares what the
definition shares if and only if nothing that is left alone extends something that is rebuilt. -/
theorem instantiate_remembering (hpool : Reachable pool) (hmem : c ∈ pool.contracts)
    (hc : c.Unambiguous) (hargs : c.id.args = []) (hparams : c.typeParams ≠ [])
    (hlength : args.length = c.arity) :
    ∃ c' numbers plain numbers',
      c.instantiate args pool.numbers = .ok (c', numbers) ∧
      c.instantiatePlainly args pool.numbers = .ok (plain, numbers') ∧
      c'.unnumbered = plain.unnumbered ∧
      numbers.handle = pool.numbers.handle + (c.rebuiltIds.length + 1) ∧
      c.rebuiltIds.length + 1 ≤ c.identities.length ∧
      (c.IdentifiesInstances → (c.SharedIn c' ↔ c.Separated)) := by
  obtain ⟨c', numbers, plain, numbers', hok, hplain, hsame⟩ :=
    unnumbered_instantiate hc hargs hparams hlength pool.numbers
  refine ⟨c', numbers, plain, numbers', hok, hplain, hsame, ?_⟩
  obtain ⟨rfl, rfl⟩ := eq_rebuild_of_instantiate_eq_ok hok
  have hprogress := progress_substituteAll args c.parents ⟨[], pool.numbers.handle⟩
  refine ⟨?_, length_rebuiltIds_lt hc.acyclic, fun hinstances => ?_⟩
  · have hids : (substituteAll args c.parents ⟨[], pool.numbers.handle⟩).2.done.map (·.1) =
        c.rebuiltIds := map_done_eq_rebuiltIds c pool.numbers.handle
    rw [← hids, List.length_map]
    exact congrArg (· + 1) hprogress.handle_eq
  · exact hprogress.sharedIn_iff hinstances (hpool.numbered c hmem) _

/-! ### Two ways to one contract -/

/-- A generic definition that extends `near` directly, and once more through `far`. -/
def twoWays (far near : Contract) : ContractDraft :=
  { name := "TwoWays", typeParams := ["T"], parents := [far, near] }

theorem ancestor_twoWays {far near a : Contract} {numbers : ContractNumbers}
    (hfar : far.parents = [near]) (hnear : near.parents = [])
    (ha : ((twoWays far near).build numbers).1.Ancestor a) :
    a = ((twoWays far near).build numbers).1 ∨ a = far ∨ a = near := by
  have hends : ∀ x, near.Ancestor x → x = near := by
    intro x hx
    rcases ancestor_iff.mp hx with rfl | ⟨p, hp, -⟩
    · rfl
    · rw [hnear] at hp
      exact absurd hp List.not_mem_nil
  rcases ancestor_iff.mp ha with rfl | ⟨p, hp, hpa⟩
  · exact .inl rfl
  · rcases List.mem_cons.mp hp with rfl | hp
    · rcases ancestor_iff.mp hpa with rfl | ⟨q, hq, hqa⟩
      · exact .inr (.inl rfl)
      · rw [hfar, List.mem_singleton] at hq
        exact .inr (.inr (hends a (hq ▸ hqa)))
    · exact .inr (.inr (hends a (List.mem_singleton.mp hp ▸ hpa)))

theorem identifiesInstances_twoWays {far near : Contract} {numbers : ContractNumbers}
    (hfar : far.parents = [near]) (hnear : near.parents = [])
    (hids : [⟨numbers.origin, []⟩, far.id, near.id].Nodup) :
    ((twoWays far near).build numbers).1.IdentifiesInstances := by
  intro a b ha hb hid
  have hnodup : ([((twoWays far near).build numbers).1, far, near].map Contract.id).Nodup := hids
  refine List.inj_on_of_nodup_map hnodup ?_ ?_ hid
  · simpa using ancestor_twoWays hfar hnear ha
  · simpa using ancestor_twoWays hfar hnear hb

/-- A definition that extends the reader directly, and through the rack. -/
def cupboard : Contract := ((twoWays rack (reader 0 (.typeParam 0))).build hidden.numbers).1

/-- The rack is left alone, with the reader as it was, but the reader is rebuilt. -/
theorem sharing_fails :
    ¬ ∀ pool, Reachable pool → ∀ c ∈ pool.contracts, c.IdentifiesInstances → c.id.args = [] →
      c.typeParams ≠ [] → ∀ args, args.length = c.arity →
        ∃ c' numbers, c.instantiate args pool.numbers = .ok (c', numbers) ∧ c.SharedIn c' := by
  intro hall
  have hreachable : (hidden.build (twoWays rack (reader 0 (.typeParam 0)))).Reachable := by
    obtain ⟨numbers, hhistory⟩ := reachable_hidden
    refine ⟨numbers, hhistory.tail (.build hidden _ ?_ trivial)⟩
    intro p hp
    exact List.mem_cons_of_mem cabinet hp
  obtain ⟨c', numbers, hok, hshared⟩ :=
    hall _ hreachable cupboard List.mem_cons_self (identifiesInstances_twoWays rfl rfl (by decide)) rfl
      (by decide) [.int] rfl
  have hresult : cupboard.instantiate [.int] { origin := 5, handle := 4 } =
      .ok ({ cupboard with handle := 5, id := ⟨4, [.int]⟩, parents := [rack, reader 4 .int] },
        { origin := 5, handle := 6 }) := rfl
  obtain ⟨rfl, -⟩ := Prod.mk.inj (Except.ok.inj (hresult.symm.trans hok))
  obtain ⟨a, hthrough, hdirect⟩ := hshared [0, 0] [1] (reader 0 (.typeParam 0)) rfl rfl
  have hsame : reader 0 (.typeParam 0) = reader 4 .int :=
    (Option.some.inj hthrough).trans (Option.some.inj hdirect).symm
  cases congrArg Contract.handle hsame

/-- A definition that extends a feed directly, and through a shelf.  Both are rebuilt, so the instantiation
shares the feed. -/
theorem depot_shares :
    let next := MemberDeclaration.method { Signature.method "next" with returns := .typeParam 0 }
    let draft := twoWays (shelf 1 [] (feed [next])) (feed [next])
    let pool := (stocked [next]).build draft
    let depot := (draft.build (stocked [next]).numbers).1
    pool.Reachable ∧ depot ∈ pool.contracts ∧ depot.Unambiguous ∧
      ∃ c' numbers, depot.instantiate [.int] pool.numbers = .ok (c', numbers) ∧
        numbers.handle = pool.numbers.handle + 3 ∧ depot.SharedIn c' := by
  intro next draft pool depot
  have hreachable : pool.Reachable := by
    obtain ⟨numbers, hhistory⟩ := reachable_stocked [next]
    exact ⟨numbers, hhistory.tail (.build _ draft (fun p hp => hp) trivial)⟩
  have hinstances : depot.IdentifiesInstances := identifiesInstances_twoWays rfl rfl (by decide)
  have hmem : depot ∈ pool.contracts := List.mem_cons_self
  have hunambiguous := unambiguous_of_injective hinstances
  have hlength : [Shape.int].length = depot.arity := rfl
  refine ⟨hreachable, hmem, hunambiguous, ?_⟩
  obtain ⟨c', numbers, -, -, hok, -, -, hcount, -, hshared⟩ :=
    instantiate_remembering hreachable hmem hunambiguous rfl (by decide) hlength
  refine ⟨c', numbers, hok, hcount, (hshared hinstances).mpr ?_⟩
  -- All that is met is touched, so nothing is kept.
  rintro x ⟨u, ⟨p, hp, hwalks⟩, huntouched, -⟩ -
  exfalso
  have hu : depot.Ancestor u := (Ancestor.parent hp).trans hwalks.ancestor
  rcases ancestor_twoWays rfl rfl hu with rfl | rfl | rfl
  · cases huntouched
  · cases huntouched
  · cases huntouched

end ContractPool

end StructuralAdapters
