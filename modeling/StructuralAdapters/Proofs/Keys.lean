import StructuralAdapters.Proofs.Binding

/-!
# Structural keys and matching

Two things decide whether one member stands for another.  Requirements are bound by matching; repeated
requirements, shadowed members and the member of a call are found by structural key.

* `Signature.accepts_false_iff` — without strict mode a candidate matches if it has the key of the requirement
  and its generic arity;
* `Signature.Confused` — signatures that share a key although their generic arities differ;
* `Signature.accepts_iff_key_eq_iff` — matching and keys say the same of two signatures exactly if they are not
  confused;
* `TypeDescriptor.candidates_eq_filter_iff` — so they find the same members of a table exactly if none is confused
  with the requirement;
* `Signature.accepts_differs_from_key` — two signatures on which they differ.

## The arity in the key

Matching compares generic arities as numbers, but the key keeps sixteen bits of them.
-/

namespace StructuralAdapters

namespace Signature

variable {s t required candidate : Signature}

/-- What the key keeps: the name, the arity modulo `65536`, and the parameters. -/
theorem key_eq_iff :
    s.key = t.key ↔
      s.name = t.name ∧ s.genericArity % 65536 = t.genericArity % 65536 ∧
        s.key.params = t.key.params := by
  have harity : UInt16.ofNat s.genericArity = UInt16.ofNat t.genericArity ↔
      s.genericArity % 65536 = t.genericArity % 65536 := by
    rw [← UInt16.toNat_inj, UInt16.toNat_ofNat', UInt16.toNat_ofNat']
  rw [← harity]
  constructor
  · intro h
    exact ⟨congrArg SignatureKey.name h, congrArg SignatureKey.arity h, congrArg SignatureKey.params h⟩
  · rintro ⟨hname, harity, hparams⟩
    show SignatureKey.mk _ _ _ = SignatureKey.mk _ _ _
    rw [hname, harity]
    exact congrArg _ hparams

/-- Small arities are kept in full. -/
theorem genericArity_eq_of_key_eq (hs : s.genericArity < 65536) (ht : t.genericArity < 65536)
    (h : s.key = t.key) : s.genericArity = t.genericArity := by
  have hmod := (key_eq_iff.mp h).2.1
  rwa [Nat.mod_eq_of_lt hs, Nat.mod_eq_of_lt ht] at hmod

/-- Without strict mode matching compares keys, and arities in full. -/
theorem accepts_false_iff :
    required.accepts false candidate = true ↔
      required.key = candidate.key ∧ required.genericArity = candidate.genericArity := by
  constructor
  · intro h
    exact ⟨(key_eq_of_accepts h).symm, (accepts_iff.mp h).2.1.symm⟩
  · rintro ⟨hkey, harity⟩
    obtain ⟨hname, -, hparams⟩ := key_eq_iff.mp hkey
    exact accepts_iff.mpr ⟨hname.symm, harity.symm, hparams.symm, fun hstrict => by cases hstrict⟩

/-- Name and parameters are the same, and the generic arities differ in nothing that the key keeps. -/
structure Confused (s t : Signature) : Prop where
  name_eq : s.name = t.name
  params_eq : s.params.map (fun p => (p.mode.isByRef, p.shape)) =
    t.params.map fun p => (p.mode.isByRef, p.shape)
  arity_ne : s.genericArity ≠ t.genericArity
  arity_mod_eq : s.genericArity % 65536 = t.genericArity % 65536

/-- Confused signatures are those with one key and two arities. -/
theorem confused_iff : s.Confused t ↔ s.key = t.key ∧ s.genericArity ≠ t.genericArity := by
  rw [key_eq_iff]
  constructor
  · intro h
    exact ⟨⟨h.name_eq, h.arity_mod_eq, h.params_eq⟩, h.arity_ne⟩
  · rintro ⟨⟨hname, hmod, hparams⟩, hne⟩
    exact ⟨hname, hparams, hne, hmod⟩

theorem Confused.key_eq (h : s.Confused t) : s.key = t.key :=
  (confused_iff.mp h).1

/-- Matching tells confused signatures apart. -/
theorem Confused.accepts_eq_false (h : required.Confused candidate) :
    required.accepts false candidate = false :=
  Bool.eq_false_iff.mpr fun haccepts => h.arity_ne (accepts_false_iff.mp haccepts).2

/-- On everything else matching is equality of keys. -/
theorem accepts_eq_of_not_confused (h : ¬ required.Confused candidate) :
    required.accepts false candidate = decide (required.key = candidate.key) := by
  rw [Bool.eq_iff_iff, accepts_false_iff, decide_eq_true_iff, and_iff_left_iff_imp]
  intro hkey
  by_contra hne
  exact h (confused_iff.mpr ⟨hkey, hne⟩)

/-- **One structural identity, up to confusion.**  Whatever the two signatures are, matching without strict mode
and equality of keys say the same of them if and only if they are not confused. -/
theorem accepts_iff_key_eq_iff (required candidate : Signature) :
    (required.accepts false candidate = true ↔ required.key = candidate.key) ↔
      ¬ required.Confused candidate := by
  constructor
  · intro hsame hconfused
    rw [hconfused.accepts_eq_false] at hsame
    exact Bool.false_ne_true (hsame.mpr hconfused.key_eq)
  · intro h
    rw [accepts_eq_of_not_confused h, decide_eq_true_iff]

/-- `M` with as many generic parameters as the key can no longer tell from none. -/
def crowded : Signature := { method "M" with generics := List.replicate 65536 "T" }

theorem genericArity_crowded : crowded.genericArity = 65536 := List.length_replicate

theorem confused_crowded : crowded.Confused (method "M") where
  name_eq := rfl
  params_eq := rfl
  arity_ne := by
    rw [genericArity_crowded]
    exact Nat.succ_ne_zero _
  arity_mod_eq := by
    rw [genericArity_crowded]
    rfl

/-- Matching and keys are not the same relation. -/
theorem accepts_differs_from_key : ¬ ∀ required candidate : Signature,
    required.accepts false candidate = true ↔ required.key = candidate.key := by
  intro hsame
  have haccepts := (hsame crowded (method "M")).mpr confused_crowded.key_eq
  rw [confused_crowded.accepts_eq_false] at haccepts
  exact Bool.false_ne_true haccepts

end Signature

/-- **Binding and look-up see the same members.**  The candidates for a requirement are the members with its key
if and only if no member is confused with it. -/
theorem TypeDescriptor.candidates_eq_filter_iff (t : TypeDescriptor) (required : Signature) :
    t.candidates false required = t.members.filter (fun m => required.key = m.key) ↔
      ∀ m ∈ t.members, ¬ required.Confused m.signature := by
  unfold candidates
  constructor
  · intro heq m hm hconfused
    have hfound : m ∈ t.members.filter fun m => required.key = m.key :=
      List.mem_filter.mpr ⟨hm, decide_eq_true hconfused.key_eq⟩
    rw [← heq, List.mem_filter, hconfused.accepts_eq_false] at hfound
    exact Bool.false_ne_true hfound.2
  · intro h
    exact List.filter_congr fun m hm => Signature.accepts_eq_of_not_confused (h m hm)

end StructuralAdapters
