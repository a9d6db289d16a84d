import Mathlib.Data.List.Induction
import Mathlib.Data.List.Nodup
import StructuralAdapters.SynthesisError

/-!
# Reports of composed errors

An error may be composed of others, to any depth, and is reported as one diagnostic.  The report says all that the
reports of its leaves say, in their order, and gives each piece of advice once.

* `Diagnostic.foldl_suggestOnce` — taking over suggestions one by one keeps the first occurrence of each;
* `SynthesisError.part?` — the part of an error at a position;
* `SynthesisError.IsWalk` — all parts of an error with their positions, from left to right;
* `SynthesisError.leaves_eq_filter_nodes` — the leaves are the parts that are not composed;
* `SynthesisError.lines_eq`, `SynthesisError.suggestions_eq` — the lines and the suggestions of a report;
* `SynthesisError.reports_everything_once` — these facts about one and the same walk.

Suggestions are dropped at every level, among what the levels below have left.  That comes to the same as dropping
them once, among the suggestions of all leaves.
-/

namespace StructuralAdapters

/-! ### Lines and suggestions -/

namespace Diagnostic

/-- The message, and the context under it. -/
def lines (d : Diagnostic) : List String := d.message :: d.context

/-- One more suggestion is kept if it is new. -/
theorem eraseDups_concat (xs : List String) (x : String) :
    (xs ++ [x]).eraseDups = suggestOnce xs.eraseDups x := by
  rw [List.eraseDups_append, List.cons_removeAll, suggestOnce]
  by_cases hx : x ∈ xs <;> simp [hx, List.eraseDups_cons]

/-- Suggestions that are taken over one by one are kept where they occur first. -/
theorem foldl_suggestOnce (xs ys : List String) :
    ys.foldl suggestOnce xs.eraseDups = (xs ++ ys).eraseDups := by
  induction ys generalizing xs with
  | nil => rw [List.foldl_nil, List.append_nil]
  | cons y ys ih => rw [List.foldl_cons, ← eraseDups_concat, ih, List.append_assoc, List.singleton_append]

/-- It makes no difference if later repetitions have been dropped among the suggestions that follow. -/
theorem eraseDups_append_eraseDups (xs ys : List String) :
    (xs ++ ys.eraseDups).eraseDups = (xs ++ ys).eraseDups := by
  induction ys using List.reverseRecOn with
  | nil => rfl
  | append_singleton ys y ih =>
      rw [eraseDups_concat, ← List.append_assoc, eraseDups_concat, ← ih, suggestOnce]
      by_cases hy : y ∈ ys.eraseDups
      · have hmem : y ∈ (xs ++ ys.eraseDups).eraseDups :=
          List.mem_eraseDups.mpr (List.mem_append_right xs hy)
        rw [if_pos hy, suggestOnce, if_pos hmem]
      · rw [if_neg hy, ← List.append_assoc, eraseDups_concat]

/-- Dropping repetitions in each list and then in all of them is dropping them in all of them. -/
theorem eraseDups_flatMap_eraseDups {α : Type} (f : α → List String) (xs : List α) :
    (xs.flatMap fun x => (f x).eraseDups).eraseDups = (xs.flatMap f).eraseDups := by
  induction xs using List.reverseRecOn with
  | nil => rfl
  | append_singleton xs x ih =>
      have hconcat : ∀ g : α → List String, (xs ++ [x]).flatMap g = xs.flatMap g ++ g x := by simp
      rw [hconcat, hconcat, eraseDups_append_eraseDups, ← foldl_suggestOnce, ih, foldl_suggestOnce]

/-- No suggestion is kept twice. -/
theorem nodup_eraseDups (xs : List String) : xs.eraseDups.Nodup := by
  induction xs using List.reverseRecOn with
  | nil => exact List.nodup_nil
  | append_singleton xs x ih =>
      rw [eraseDups_concat, suggestOnce]
      by_cases hx : x ∈ xs.eraseDups
      · rwa [if_pos hx]
      · rw [if_neg hx]
        exact List.concat_eq_append ▸ ih.concat hx

end Diagnostic

namespace SynthesisError

/-! ### The parts of an error -/

/-- The error is composed of others. -/
def isMultiple : SynthesisError → Bool
  | multiple _ => true
  | _ => false

/-- The errors that it is composed of. -/
def components : SynthesisError → List SynthesisError
  | multiple errors => errors
  | _ => []

/-- The part at a position, which says for each level which way to go down. -/
def part? (e : SynthesisError) : List Nat → Option SynthesisError
  | [] => some e
  | i :: position => e.components[i]?.bind fun component => component.part? position

/-- All parts of the error with their positions, from left to right and each before its own parts. -/
structure IsWalk (e : SynthesisError) (walk : List (List Nat × SynthesisError)) : Prop where
  ordered : walk.Pairwise fun x y => x.1 < y.1
  complete : ∀ position part, (position, part) ∈ walk ↔ e.part? position = some part

/-- What a part says itself: its message and, unless others say more, the context. -/
def ownLines (part : SynthesisError) : List String :=
  part.diagnostic.message :: if part.isMultiple then [] else part.diagnostic.context

/-- Induction on errors: the claim for a composed error may use it for each component. -/
@[elab_as_elim]
theorem inductionOn {motive : SynthesisError → Prop} (e : SynthesisError)
    (single : ∀ e, e.isMultiple = false → motive e)
    (multiple : ∀ errors, (∀ e ∈ errors, motive e) → motive (multiple errors)) : motive e :=
  match e with
  | .missingMember .. => single _ rfl
  | .ambiguousMember .. => single _ rfl
  | .openContract _ => single _ rfl
  | .multiple errors => multiple errors fun e _ => inductionOn e single multiple

/-! ### Walking through an error -/

mutual

/-- The parts with their positions. -/
def walk : SynthesisError → List (List Nat × SynthesisError)
  | multiple errors => ([], multiple errors) :: walkFrom 0 errors
  | single => [([], single)]

/-- The parts of several components, the first of which has this number. -/
def walkFrom (i : Nat) : List SynthesisError → List (List Nat × SynthesisError)
  | [] => []
  | e :: rest => (walk e).map (fun (position, part) => (i :: position, part)) ++ walkFrom (i + 1) rest

end

variable {e part : SynthesisError} {errors : List SynthesisError} {i : Nat} {position : List Nat}

theorem walk_eq (e : SynthesisError) : e.walk = ([], e) :: walkFrom 0 e.components := by
  cases e <;> rfl

theorem mem_walkFrom : (position, part) ∈ walkFrom i errors ↔
    ∃ j rest component, position = (i + j) :: rest ∧ errors[j]? = some component ∧
      (rest, part) ∈ component.walk := by
  induction errors generalizing i with
  | nil => simp [walkFrom]
  | cons e errors ih =>
      rw [walkFrom, List.mem_append, List.mem_map, ih]
      constructor
      · rintro (⟨⟨rest, part⟩, hpart, heq⟩ | ⟨j, rest, component, rfl, hj, hpart⟩)
        · cases heq
          exact ⟨0, rest, e, rfl, rfl, hpart⟩
        · exact ⟨j + 1, rest, component, by rw [Nat.add_assoc, Nat.add_comm 1], hj, hpart⟩
      · rintro ⟨_ | j, rest, component, rfl, hj, hpart⟩
        · exact .inl ⟨(rest, part), Option.some.inj hj ▸ hpart, rfl⟩
        · exact .inr ⟨j, rest, component, by rw [Nat.add_assoc, Nat.add_comm 1], hj, hpart⟩

/-- The walk meets the part at each position. -/
theorem mem_walk : (position, part) ∈ e.walk ↔ e.part? position = some part := by
  induction position generalizing e with
  | nil =>
      rw [walk_eq, List.mem_cons, part?]
      constructor
      · rintro (heq | hbelow)
        · cases heq
          rfl
        · obtain ⟨j, rest, component, hposition, -⟩ := mem_walkFrom.mp hbelow
          cases hposition
      · intro heq
        cases heq
        exact .inl rfl
  | cons i position ih =>
      rw [walk_eq, List.mem_cons, part?, Option.bind_eq_some_iff]
      constructor
      · rintro (heq | hbelow)
        · cases heq
        · obtain ⟨j, rest, component, hposition, hj, hpart⟩ := mem_walkFrom.mp hbelow
          rw [Nat.zero_add] at hposition
          cases hposition
          exact ⟨component, hj, ih.mp hpart⟩
      · rintro ⟨component, hi, hpart⟩
        exact .inr (mem_walkFrom.mpr ⟨i, position, component, by rw [Nat.zero_add], hi, ih.mpr hpart⟩)

/-- Components are walked through one after the other. -/
theorem pairwise_walkFrom (h : ∀ e ∈ errors, e.walk.Pairwise fun x y => x.1 < y.1) :
    (walkFrom i errors).Pairwise fun x y => x.1 < y.1 := by
  induction errors generalizing i with
  | nil => exact .nil
  | cons e errors ih =>
      obtain ⟨he, herrors⟩ := List.forall_mem_cons.mp h
      rw [walkFrom, List.pairwise_append, List.pairwise_map]
      refine ⟨he.imp fun hlt => List.cons_lt_cons_iff.mpr (.inr ⟨rfl, hlt⟩), ih herrors, ?_⟩
      rintro x hx ⟨_, part⟩ hy
      obtain ⟨y, -, rfl⟩ := List.mem_map.mp hx
      obtain ⟨j, rest, component, rfl, -⟩ := mem_walkFrom.mp hy
      exact List.cons_lt_cons_iff.mpr (.inl (by omega))

theorem pairwise_walk (e : SynthesisError) : e.walk.Pairwise fun x y => x.1 < y.1 := by
  induction e using inductionOn with
  | single e hsingle => cases e <;> first | exact List.pairwise_singleton .. | cases hsingle
  | multiple errors ih =>
      rw [walk_eq, List.pairwise_cons]
      refine ⟨?_, pairwise_walkFrom ih⟩
      rintro ⟨_, part⟩ hx
      obtain ⟨j, rest, component, rfl, -⟩ := mem_walkFrom.mp hx
      exact List.nil_lt_cons ..

theorem isWalk_walk (e : SynthesisError) : e.IsWalk e.walk := ⟨pairwise_walk e, fun _ _ => mem_walk⟩

/-- The parts without their positions. -/
def nodes (e : SynthesisError) : List SynthesisError := e.walk.map Prod.snd

theorem map_snd_walkFrom : (walkFrom i errors).map Prod.snd = errors.flatMap nodes := by
  induction errors generalizing i with
  | nil => rfl
  | cons e errors ih => rw [walkFrom, List.map_append, List.map_map, ih, List.flatMap_cons, nodes]; rfl

theorem nodes_multiple (errors : List SynthesisError) :
    (multiple errors).nodes = multiple errors :: errors.flatMap nodes := by
  rw [nodes, walk_eq, List.map_cons, map_snd_walkFrom]
  rfl

theorem nodes_of_single (h : e.isMultiple = false) : e.nodes = [e] := by
  cases e with
  | multiple errors => cases h
  | _ => rfl

/-! ### Leaves -/

theorem leavesAll_eq_flatMap (errors : List SynthesisError) :
    leavesAll errors = errors.flatMap leaves := by
  induction errors with
  | nil => rfl
  | cons e errors ih => rw [leavesAll, ih, List.flatMap_cons]

theorem leaves_of_single (h : e.isMultiple = false) : e.leaves = [e] := by
  cases e with
  | multiple errors => cases h
  | _ => rfl

/-- The leaves are the parts that are not composed. -/
theorem leaves_eq_filter_nodes (e : SynthesisError) :
    e.leaves = e.nodes.filter fun part => !part.isMultiple := by
  induction e using inductionOn with
  | single e hsingle => simp [leaves_of_single hsingle, nodes_of_single hsingle, hsingle]
  | multiple errors ih =>
      rw [leaves, leavesAll_eq_flatMap, nodes_multiple, List.filter_cons_of_neg (by simp [isMultiple]),
        List.filter_flatMap, List.flatMap_congr ih]

/-! ### What is reported -/

/-- Several reports put under a diagnostic, each with its message and its context. -/
theorem absorbAll_eq (d : Diagnostic) (errors : List SynthesisError) : absorbAll d errors =
    { message := d.message
      context := d.context ++ errors.flatMap fun e => e.diagnostic.lines
      suggestions := (errors.flatMap fun e => e.diagnostic.suggestions).foldl Diagnostic.suggestOnce
        d.suggestions } := by
  induction errors generalizing d with
  | nil => rw [absorbAll]; simp
  | cons e errors ih =>
      rw [absorbAll, ih, List.flatMap_cons, List.flatMap_cons, List.foldl_append, ← List.append_assoc]
      rfl

/-- The report of a composed error is put together from those of its components. -/
theorem diagnostic_multiple (errors : List SynthesisError) : (multiple errors).diagnostic =
    { message := (multiple errors).message
      context := errors.flatMap fun e => e.diagnostic.lines
      suggestions := (errors.flatMap fun e => e.diagnostic.suggestions).eraseDups } := by
  have hsuggestions :=
    Diagnostic.foldl_suggestOnce [] (errors.flatMap fun e => e.diagnostic.suggestions)
  rw [List.eraseDups_nil, List.nil_append] at hsuggestions
  show absorbAll { message := (multiple errors).message } errors = _
  rw [absorbAll_eq, hsuggestions, List.nil_append]

/-- The lines of a report are those that the parts of the error say themselves. -/
theorem lines_eq (e : SynthesisError) : e.diagnostic.lines = e.nodes.flatMap ownLines := by
  induction e using inductionOn with
  | single e hsingle => simp [nodes_of_single hsingle, ownLines, hsingle, Diagnostic.lines]
  | multiple errors ih =>
      rw [nodes_multiple, List.flatMap_cons, List.flatMap_assoc, ← List.flatMap_congr ih]
      simp [ownLines, isMultiple, diagnostic_multiple, Diagnostic.lines]

/-- An error that is not composed suggests nothing twice. -/
theorem eraseDups_suggestions_of_single (h : e.isMultiple = false) :
    e.diagnostic.suggestions.eraseDups = e.diagnostic.suggestions := by
  cases e with
  | multiple errors => cases h
  | missingMember member contract sourceType =>
      -- The two suggestions begin with different letters.
      have hne : "Check that by-reference parameters are declared by reference on both sides" ≠
          "Add `" ++ member ++ "` to `" ++ sourceType ++ "`" := by
        intro heq
        have hchars := congrArg (fun text : String => text.toList.head?) heq
        simp at hchars
      show List.eraseDups [_, _] = _
      rw [List.eraseDups_cons, List.filter_cons_of_pos (by simpa using hne)]
      rfl
  | _ => rfl

/-- The suggestions of a report are those of the leaves, each where it occurs first. -/
theorem suggestions_eq (e : SynthesisError) : e.diagnostic.suggestions =
    (e.leaves.flatMap fun leaf => leaf.diagnostic.suggestions).eraseDups := by
  induction e using inductionOn with
  | single e hsingle =>
      rw [leaves_of_single hsingle, List.flatMap_singleton, eraseDups_suggestions_of_single hsingle]
  | multiple errors ih =>
      rw [diagnostic_multiple, leaves, leavesAll_eq_flatMap, List.flatMap_assoc, List.flatMap_congr ih,
        Diagnostic.eraseDups_flatMap_eraseDups]

/-- **A report says everything, and suggests nothing twice.**  Below an error there are its parts, from left to
right.  The leaves are those that are not composed; the suggestions are those of the leaves, each where it occurs
first; and the context of a composed error is what the parts below it say: the message and the context of each leaf,
and the message of each composed part. -/
theorem reports_everything_once (e : SynthesisError) :
    ∃ below : List (List Nat × SynthesisError),
      e.IsWalk (([], e) :: below) ∧
      e.leaves = (e :: below.map Prod.snd).filter (fun part => !part.isMultiple) ∧
      e.diagnostic.suggestions.Nodup ∧
      e.diagnostic.suggestions = (e.leaves.flatMap fun leaf => leaf.diagnostic.suggestions).eraseDups ∧
      (e.isMultiple = true → e.diagnostic.context = (below.map Prod.snd).flatMap ownLines) := by
  have hnodes : e.nodes = e :: (walkFrom 0 e.components).map Prod.snd := by rw [nodes, walk_eq]; rfl
  refine ⟨walkFrom 0 e.components, ?_, ?_, ?_, suggestions_eq e, ?_⟩
  · exact walk_eq e ▸ isWalk_walk e
  · rw [← hnodes]
    exact leaves_eq_filter_nodes e
  · rw [suggestions_eq]
    exact Diagnostic.nodup_eraseDups _
  · intro hmultiple
    have hlines := lines_eq e
    rw [hnodes, List.flatMap_cons, ownLines, if_pos hmultiple] at hlines
    exact List.tail_eq_of_cons_eq hlines

/-- Advice that is due at two depths is given once. -/
example : (multiple [openContract "IBox", multiple [openContract "IBox", openContract "IBag"]]).diagnostic =
    { message := "2 members could not be bound"
      context := ["cannot adapt to open contract `IBox`", "2 members could not be bound",
        "cannot adapt to open contract `IBox`", "cannot adapt to open contract `IBag`"]
      suggestions := ["Instantiate `IBox` first", "Instantiate `IBag` first"] } := by decide

end SynthesisError

end StructuralAdapters
