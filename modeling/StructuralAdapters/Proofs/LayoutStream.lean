import Mathlib.Data.List.Basic
import StructuralAdapters.Proofs.Forwarding
import StructuralAdapters.Proofs.Substitution

/-!
# Reading layouts back

The bytes of a layout are hashed one component after the other, and the hash says nothing about where one
component ends.  The bytes do: a text ends at the first null byte, provided that no null character occurs in it.

* `NulFree` — a text without null characters;
* `Shape.words`, `Signature.words`, `Contract.words`, `TypeDescriptor.words` — the names that are written out;
* `LayoutComponent.stream_text_eq_iff`, `LayoutComponent.stream_flag_eq_iff` — the first component can be told;
* `Binding.row`, `Binding.stream_eq_iff` — what a binding adds to a layout, and that it can be told;
* `AdapterType.stream_layout_eq_iff` — adapter types with one stream have one layout.

A flag is a byte that may be null itself.  It is told from the end of a text by its place: two texts come before it,
and what comes after it is the next binding or nothing.
-/

namespace StructuralAdapters

/-! ### Null characters and null bytes -/

/-- The null character does not occur in the text. -/
def NulFree (s : String) : Prop := Char.ofNat 0 ∉ s.toList

instance (s : String) : Decidable (NulFree s) := inferInstanceAs (Decidable (_ ∉ _))

namespace NulFree

variable {s t : String}

theorem append_iff : NulFree (s ++ t) ↔ NulFree s ∧ NulFree t := by
  simp [NulFree, not_or]

theorem append (hs : NulFree s) (ht : NulFree t) : NulFree (s ++ t) := append_iff.mpr ⟨hs, ht⟩

theorem intercalate (hs : NulFree s) {texts : List String} (h : ∀ t ∈ texts, NulFree t) :
    NulFree (s.intercalate texts) := by
  induction texts with
  | nil => simp [NulFree]
  | cons t texts ih =>
      obtain ⟨ht, htexts⟩ := List.forall_mem_cons.mp h
      cases texts with
      | nil => simpa using ht
      | cons t' texts =>
          rw [String.intercalate_cons_cons]
          exact (ht.append hs).append (ih htexts)

/-- Numbers are written in digits. -/
theorem repr (n : Nat) : NulFree n.repr := by
  intro h
  rw [Nat.toList_repr] at h
  have hdigit := Nat.isDigit_of_mem_toDigits (by decide) (by decide) h
  exact absurd hdigit (by decide)

end NulFree

/-- Listing the bytes of an array from a place on. -/
theorem toList_loop (bytes : ByteArray) (i : Nat) (before : List UInt8) :
    ByteArray.toList.loop bytes i before = before.reverse ++ bytes.data.toList.drop i := by
  fun_induction ByteArray.toList.loop bytes i before with
  | case1 i before hi ih =>
      have hlength : i < bytes.data.toList.length := hi
      have hbyte : bytes.get! i = bytes.data.toList[i] := by simp [ByteArray.get!, getElem!_pos, hi]
      rw [ih, List.drop_eq_getElem_cons hlength, List.reverse_cons, List.append_assoc,
        List.singleton_append, hbyte]
  | case2 i before hi =>
      have hlength : bytes.data.toList.length ≤ i := Nat.not_lt.mp hi
      rw [List.drop_eq_nil_of_le hlength, List.append_nil]

/-- The bytes of a text are those of its characters. -/
theorem toList_toUTF8 (s : String) : s.toUTF8.toList = s.toList.flatMap String.utf8EncodeChar := by
  rw [ByteArray.toList, toList_loop, List.reverse_nil, List.nil_append, List.drop_zero,
    String.toUTF8_eq_toByteArray, ← String.utf8Encode_toList, List.utf8Encode, List.toList_data_toByteArray]

theorem toUTF8_injective {s t : String} (h : s.toUTF8.toList = t.toUTF8.toList) : s = t := by
  simp only [ByteArray.toList, toList_loop, List.reverse_nil, List.nil_append, List.drop_zero] at h
  exact String.toByteArray_inj.mp (ByteArray.ext (Array.toList_inj.mp h))

/-- A null byte stands for the null character: all other characters begin with another byte, and the bytes that
follow are at least 128. -/
theorem eq_nul_of_mem_utf8EncodeChar {c : Char} (h : 0 ∈ String.utf8EncodeChar c) : c = Char.ofNat 0 := by
  have hzero : ∀ n : Nat, (0 : UInt8) = UInt8.ofNat n ↔ n % 256 = 0 := by
    intro n
    rw [← UInt8.toNat_inj, UInt8.toNat_ofNat']
    exact eq_comm
  have hval : c.val.toNat = 0 := by
    unfold String.utf8EncodeChar at h
    simp only at h
    -- One, two, three or four bytes.
    split at h
    · simp only [List.mem_singleton, hzero] at h
      omega
    · split at h
      · simp only [List.mem_cons, List.not_mem_nil, or_false, hzero] at h
        omega
      · split at h
        · simp only [List.mem_cons, List.not_mem_nil, or_false, hzero] at h
          omega
        · simp only [List.mem_cons, List.not_mem_nil, or_false, hzero] at h
          omega
  exact Char.toNat_inj.mp hval

/-- A text without null characters has no null byte. -/
theorem NulFree.zero_notMem {s : String} (h : NulFree s) : 0 ∉ s.toUTF8.toList := by
  rw [toList_toUTF8, List.mem_flatMap]
  rintro ⟨c, hc, hzero⟩
  exact h (eq_nul_of_mem_utf8EncodeChar hzero ▸ hc)

/-- What comes before the first null byte can be told from what comes after it. -/
theorem append_zero_cons_eq_iff {as bs cs ds : List UInt8} (has : 0 ∉ as) (hbs : 0 ∉ bs) :
    as ++ 0 :: cs = bs ++ 0 :: ds ↔ as = bs ∧ cs = ds := by
  induction as generalizing bs with
  | nil =>
      cases bs with
      | nil => simp
      | cons b bs =>
          simp [List.ne_of_not_mem_cons hbs]
  | cons a as ih =>
      cases bs with
      | nil => simp [Ne.symm (List.ne_of_not_mem_cons has)]
      | cons b bs =>
          simp [ih (List.not_mem_of_not_mem_cons has) (List.not_mem_of_not_mem_cons hbs), and_assoc]

/-! ### Components -/

namespace LayoutComponent

variable {s t : String} {x y : Bool} {as bs : List LayoutComponent}

theorem stream_cons (a : LayoutComponent) (as : List LayoutComponent) :
    stream (a :: as) = a.bytes ++ stream as := List.flatMap_cons

/-- A text ends at the first null byte. -/
theorem stream_text_eq_iff (hs : NulFree s) (ht : NulFree t) :
    stream (.text s :: as) = stream (.text t :: bs) ↔ s = t ∧ stream as = stream bs := by
  have hterminated : ∀ (u : String) (cs : List LayoutComponent),
      stream (.text u :: cs) = u.toUTF8.toList ++ 0 :: stream cs := by
    intro u cs
    rw [stream_cons, bytes, List.append_assoc, List.singleton_append]
  rw [hterminated, hterminated, append_zero_cons_eq_iff hs.zero_notMem ht.zero_notMem]
  exact and_congr_left fun _ => ⟨toUTF8_injective, fun heq => heq ▸ rfl⟩

/-- A flag is one byte. -/
theorem stream_flag_eq_iff :
    stream (.flag x :: as) = stream (.flag y :: bs) ↔ x = y ∧ stream as = stream bs := by
  rw [stream_cons, stream_cons, bytes, bytes, List.singleton_append, List.singleton_append, List.cons.injEq]
  exact and_congr_left fun _ => by cases x <;> cases y <;> decide

/-- A layout that begins with a text has a byte. -/
theorem stream_text_ne_nil : stream (.text s :: as) ≠ [] := by
  rw [stream_cons, bytes]
  simp

end LayoutComponent

/-! ### Names that are written out -/

namespace Shape

mutual

/-- The names of the nominal leaves and of the constructors, from left to right. -/
def words : Shape → List String
  | named name => [name]
  | applied head args => head :: wordsAll args
  | unit | typeParam _ | methodParam _ => []

/-- The names in several shapes. -/
def wordsAll : List Shape → List String
  | [] => []
  | s :: rest => words s ++ wordsAll rest

end

@[simp] theorem wordsAll_eq_flatMap (shapes : List Shape) : wordsAll shapes = shapes.flatMap words := by
  induction shapes with
  | nil => rfl
  | cons s rest ih => rw [wordsAll, ih, List.flatMap_cons]

theorem nulFree_display {s : Shape} (h : ∀ w ∈ s.words, NulFree w) : NulFree s.display := by
  induction s using inductionOn with
  | unit => decide
  | named name => exact h name List.mem_cons_self
  | applied head args ih =>
      rw [words, wordsAll_eq_flatMap, List.forall_mem_cons, List.forall_mem_flatMap] at h
      rw [display, displayAll_eq_map]
      have hargs : ∀ t ∈ args.map display, NulFree t := by
        rintro t ht
        obtain ⟨arg, harg, rfl⟩ := List.mem_map.mp ht
        exact ih arg harg (h.2 arg harg)
      exact ((h.1.append (by decide)).append (.intercalate (by decide) hargs)).append (by decide)
  | typeParam i => exact NulFree.append (by decide) (.repr _)
  | methodParam i => exact NulFree.append (by decide) (.repr _)

end Shape

namespace Signature

/-- The names in a signature: its own, those of its generic parameters, and those in its shapes. -/
def words (s : Signature) : List String :=
  s.name :: s.generics ++ s.params.flatMap (·.shape.words) ++ s.returns.words

theorem nulFree_displayGenerics {generics : List String} (h : ∀ w ∈ generics, NulFree w) :
    NulFree (displayGenerics generics) := by
  cases generics with
  | nil => decide
  | cons w rest =>
      rw [displayGenerics]
      exact (NulFree.append (by decide) (.intercalate (by decide) h)).append (by decide)
      exact List.cons_ne_nil w rest

theorem nulFree_display {s : Signature} (h : ∀ w ∈ s.words, NulFree w) : NulFree s.display := by
  rw [words, List.cons_append, List.cons_append, List.forall_mem_cons, List.forall_mem_append,
    List.forall_mem_append, List.forall_mem_flatMap] at h
  obtain ⟨hname, ⟨hgenerics, hparams⟩, hreturns⟩ := h
  have hdisplays : ∀ t ∈ s.params.map fun p => p.mode.display ++ p.shape.display, NulFree t := by
    intro t ht
    obtain ⟨p, hp, rfl⟩ := List.mem_map.mp ht
    refine NulFree.append ?_ (Shape.nulFree_display (hparams p hp))
    cases p.mode <;> decide
  exact ((((hname.append (nulFree_displayGenerics hgenerics)).append (by decide)).append
    (.intercalate (by decide) hdisplays)).append (by decide)).append (Shape.nulFree_display hreturns)

end Signature

namespace Contract

/-- The names in a contract: its own, those of its type parameters, and those in its type arguments and in its
requirements. -/
def words (c : Contract) : List String :=
  c.name :: c.typeParams ++ c.id.args.flatMap Shape.words ++
    c.requirements.flatMap (·.signature.words)

theorem nulFree_displayName {c : Contract} (h : ∀ w ∈ c.words, NulFree w) : NulFree c.displayName := by
  rw [words, List.cons_append, List.cons_append, List.forall_mem_cons, List.forall_mem_append,
    List.forall_mem_append, List.forall_mem_flatMap] at h
  obtain ⟨hname, ⟨hparams, hargs⟩, -⟩ := h
  have hdisplays : ∀ t ∈ if c.id.args.isEmpty then c.typeParams else c.id.args.map Shape.display,
      NulFree t := by
    split
    · exact hparams
    · intro t ht
      obtain ⟨arg, harg, rfl⟩ := List.mem_map.mp ht
      exact Shape.nulFree_display (hargs arg harg)
  unfold displayName
  split
  · exact hname
  · exact ((hname.append (by decide)).append (.intercalate (by decide) hdisplays)).append (by decide)

end Contract

/-- The names in a source type: its own and those in the signatures of its members. -/
def TypeDescriptor.words (t : TypeDescriptor) : List String :=
  t.name :: t.members.flatMap (·.signature.words)

/-! ### Bindings -/

namespace Binding

/-- What a layout tells of a binding: the two written signatures, and how the requirement was matched. -/
def row (b : Binding) : String × String × MatchMode :=
  (b.required.display, b.bound.display, MatchMode.of b.required)

/-- Neither written signature has a null character. -/
structure Plain (b : Binding) : Prop where
  required : NulFree b.required.display
  bound : NulFree b.bound.display

variable {bs cs : List Binding}

/-- **Bindings can be read back.**  There are as many as the bytes last for. -/
theorem stream_eq_iff (hbs : ∀ b ∈ bs, b.Plain) (hcs : ∀ c ∈ cs, c.Plain) :
    LayoutComponent.stream (bs.flatMap AdapterType.bindingLayout) =
      LayoutComponent.stream (cs.flatMap AdapterType.bindingLayout) ↔ bs.map row = cs.map row := by
  induction bs generalizing cs with
  | nil =>
      cases cs with
      | nil => simp
      | cons c cs =>
          refine iff_of_false (Ne.symm ?_) (by simp)
          exact LayoutComponent.stream_text_ne_nil
  | cons b bs ih =>
      cases cs with
      | nil => exact iff_of_false LayoutComponent.stream_text_ne_nil (by simp)
      | cons c cs =>
          obtain ⟨hb, hbs⟩ := List.forall_mem_cons.mp hbs
          obtain ⟨hc, hcs⟩ := List.forall_mem_cons.mp hcs
          have hmode : (MatchMode.of b.required == .erased) = (MatchMode.of c.required == .erased) ↔
              MatchMode.of b.required = MatchMode.of c.required := by
            cases MatchMode.of b.required <;> cases MatchMode.of c.required <;> decide
          simp only [List.flatMap_cons, AdapterType.bindingLayout, List.cons_append, List.nil_append]
          rw [LayoutComponent.stream_text_eq_iff hb.required hc.required,
            LayoutComponent.stream_text_eq_iff hb.bound hc.bound, LayoutComponent.stream_flag_eq_iff,
            ih hbs hcs, hmode]
          simp [row, and_assoc]

end Binding

/-! ### Layouts -/

namespace AdapterType

variable {settings settings' : Settings} {contract contract' : Contract}
variable {source source' : TypeDescriptor} {key key' : TypeKey} {a b : AdapterType}

/-- The bindings of a generated adapter type are of the contract's requirements, to members of the source type. -/
theorem plain_of_generate (h : generate settings contract source key = .ok a)
    (hcontract : ∀ w ∈ contract.words, NulFree w) (hsource : ∀ w ∈ source.words, NulFree w) :
    ∀ b ∈ a.bindings, b.Plain := by
  obtain ⟨-, bound, hbound, rfl⟩ := generate_eq_ok_iff.mp h
  obtain ⟨hrequirements, hcandidates⟩ := TypeDescriptor.resolveAll_eq_ok_iff.mp hbound
  intro b hb
  obtain ⟨p, hp, rfl⟩ := List.mem_map.mp hb
  refine ⟨Signature.nulFree_display fun w hw => hcontract w ?_,
    Signature.nulFree_display fun w hw => hsource w ?_⟩
  · have hrequirement : p.1 ∈ contract.requirements := hrequirements ▸ List.mem_map_of_mem hp
    exact List.mem_append_right _ (List.mem_flatMap.mpr ⟨p.1, hrequirement, hw⟩)
  · have hmember : p.2 ∈ source.members :=
      List.mem_of_mem_filter (hcandidates p hp ▸ List.mem_singleton_self p.2)
    exact List.mem_cons_of_mem _ (List.mem_flatMap.mpr ⟨p.2, hmember, hw⟩)

/-- **Layouts can be read back from their bytes.**  Two generated adapter types have the same bytes hashed if and
only if they tell the same: the written name of the contract, the name of the source type, and for each binding, in
order, the two written signatures and the mode.  No null character may occur in a name. -/
theorem stream_layout_eq_iff (ha : generate settings contract source key = .ok a)
    (hb : generate settings' contract' source' key' = .ok b)
    (hcontract : ∀ w ∈ contract.words, NulFree w) (hsource : ∀ w ∈ source.words, NulFree w)
    (hcontract' : ∀ w ∈ contract'.words, NulFree w) (hsource' : ∀ w ∈ source'.words, NulFree w) :
    LayoutComponent.stream a.layout = LayoutComponent.stream b.layout ↔
      contract.displayName = contract'.displayName ∧ source.name = source'.name ∧
        a.bindings.map Binding.row = b.bindings.map Binding.row := by
  obtain ⟨hac, has, -⟩ := of_generate_eq_ok ha
  obtain ⟨hbc, hbs, -⟩ := of_generate_eq_ok hb
  have hname := hsource source.name List.mem_cons_self
  have hname' := hsource' source'.name List.mem_cons_self
  rw [layout, layout, hac, has, hbc, hbs,
    LayoutComponent.stream_text_eq_iff (Contract.nulFree_displayName hcontract)
      (Contract.nulFree_displayName hcontract'),
    LayoutComponent.stream_text_eq_iff hname hname',
    Binding.stream_eq_iff (plain_of_generate ha hcontract hsource)
      (plain_of_generate hb hcontract' hsource')]

/-- With null characters in its name, a source type without bindings can have the bytes of one with a binding. -/
example : LayoutComponent.stream [.text "C", .text "S", .text "r", .text "b", .flag false] =
    LayoutComponent.stream [.text "C", .text "S\x00r\x00b\x00"] := by
  simp only [LayoutComponent.stream_cons, LayoutComponent.bytes, toList_toUTF8]
  decide

end AdapterType

/-! ### A layout that goes on where another one ends -/

namespace Swapping

/-- A contract with the name of `readable` that requires less. -/
def shorter : Contract :=
  { handle := 2, id := ⟨3, []⟩, name := "Readable", typeParams := [], parents := []
    members := [.getter "value" .int] }

/-- The adapter type that makes the cell satisfy it. -/
def shortened : AdapterType :=
  .ofBound (AdapterType.nameFor {} shorter cell) ⟨4⟩ shorter cell (lowerBound.take 1)

theorem requirements_shorter : shorter.requirements = [⟨"Readable", .getter "value" .int⟩] :=
  Contract.requirements_of_root rfl (List.nodup_singleton _)

theorem generate_shortened : AdapterType.generate {} shorter cell ⟨4⟩ = .ok shortened := by
  refine AdapterType.generate_eq_ok_iff.mpr ⟨rfl, lowerBound.take 1, ?_, rfl⟩
  rw [TypeDescriptor.resolveAll_eq_ok_iff, requirements_shorter]
  refine ⟨rfl, List.forall_mem_cons.mpr ⟨rfl, ?_⟩⟩
  exact fun p hp => absurd hp List.not_mem_nil

/-- The layouts begin alike, and one of them has a binding more. -/
theorem streams_differ :
    AdapterType.generate {} shorter cell ⟨4⟩ = .ok shortened ∧
      AdapterType.generate {} readable cell ⟨3⟩ = .ok lower ∧ shortened.layout <+: lower.layout ∧
        LayoutComponent.stream shortened.layout ≠ LayoutComponent.stream lower.layout := by
  refine ⟨generate_shortened, generate_lower, by decide, ?_⟩
  have hcell : ∀ w ∈ cell.words, NulFree w := by decide
  have hshorter : ∀ w ∈ shorter.words, NulFree w := by
    rw [Contract.words, requirements_shorter]
    decide
  have hreadable : ∀ w ∈ readable.words, NulFree w := by
    rw [Contract.words, requirements_readable]
    decide
  rw [Ne, AdapterType.stream_layout_eq_iff generate_shortened generate_lower hshorter hcell hreadable hcell]
  rintro ⟨-, -, hrows⟩
  exact absurd (congrArg List.length hrows) (by decide)

end Swapping

end StructuralAdapters
