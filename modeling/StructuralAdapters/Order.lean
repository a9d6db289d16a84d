import StructuralAdapters.Signature

/-!
# The order of shapes and of signature keys

Layouts are listed in a fixed order, so shapes and keys are ordered by content.

* `Shape.compare`: nothing before names before constructed shapes before contract-level before
  member-level placeholders; names by their characters, constructed shapes by constructor and then
  by their arguments, placeholders by position;
* `SignatureKey.compare`: by name, by arity, then parameter by parameter;
* `sortedBy`, `equalPositions`: a list put in order, and where each of its elements recurs.
-/

namespace StructuralAdapters

/-- Lexicographic order of lists; a proper initial part comes first. -/
def compareLists {α : Type} (cmp : α → α → Ordering) : List α → List α → Ordering
  | [], [] => .eq
  | [], _ :: _ => .lt
  | _ :: _, [] => .gt
  | x :: xs, y :: ys => (cmp x y).then (compareLists cmp xs ys)

namespace Shape

/-- The place of a shape's form among the five forms. -/
def rank : Shape → Nat
  | unit => 0
  | named _ => 1
  | applied _ _ => 2
  | typeParam _ => 3
  | methodParam _ => 4

mutual

/-- The total order of shapes. -/
def compare : Shape → Shape → Ordering
  | named a, named b => Ord.compare a b
  | applied f xs, applied g ys => (Ord.compare f g).then (compareAll xs ys)
  | typeParam i, typeParam j => Ord.compare i j
  | methodParam i, methodParam j => Ord.compare i j
  | s, t => Ord.compare s.rank t.rank

/-- The lexicographic order of argument lists. -/
def compareAll : List Shape → List Shape → Ordering
  | [], [] => .eq
  | [], _ :: _ => .lt
  | _ :: _, [] => .gt
  | x :: xs, y :: ys => (compare x y).then (compareAll xs ys)

end

end Shape

/-- The total order of signature keys. -/
def SignatureKey.compare (k l : SignatureKey) : Ordering :=
  (Ord.compare k.name l.name).then <|
    (Ord.compare k.arity l.arity).then <|
      compareLists (fun (r, s) (r', s') => (Ord.compare r r').then (s.compare s'))
        k.params l.params

/-- The elements in the order `cmp`; equal ones keep their places relative to each other. -/
def sortedBy {α : Type} (cmp : α → α → Ordering) (xs : List α) : List α :=
  xs.mergeSort fun x y => (cmp x y).isLE

/-- For each element, the positions of the elements that are `same` as it. -/
def equalPositions {α : Type} (same : α → α → Bool) (xs : List α) : List (List Nat) :=
  xs.map fun x => xs.zipIdx.filterMap fun (y, i) => if same x y then some i else none

end StructuralAdapters
