/-!
# Shapes

A **shape** is what two members are compared on: the structural type of a parameter or of a
returned value.  Generic definitions use placeholders, and substitution fills them in.

* `Shape`: no value, a nominal leaf, a constructed shape, or one of two sorts of placeholder;
* `Shape.bind`: the simultaneous replacement of every placeholder;
* `Shape.substituteTypeParams`, `Shape.substituteMethodParams`: replacement by position of one
  sort of placeholder, keeping the other;
* `Shape.hasTypeParams`: whether a contract-level placeholder occurs;
* `Shape.display`: the written form.

## Two sorts of placeholder

A contract's own parameters (`typeParam`) are replaced when the contract is instantiated.  A
member's generic parameters (`methodParam`) stay placeholders, for the call site supplies their
arguments.  Both are positional, so two generic members agree exactly when their placeholders do,
whatever their parameters are called.
-/

namespace StructuralAdapters

/-- Structural type of a value that crosses a member boundary. -/
inductive Shape where
  /-- No value at all. -/
  | unit
  /-- A nominal leaf: a built-in type such as `int`, or any other type name. -/
  | named (name : String)
  /-- A constructed shape such as `list<int>`. -/
  | applied (head : String) (args : List Shape)
  /-- A contract-level generic parameter, by position. -/
  | typeParam (index : UInt16)
  /-- A member-level generic parameter, by position. -/
  | methodParam (index : UInt16)
  deriving Inhabited

namespace Shape

/-! ### Built-in shapes -/

/-- The shape of whole numbers. -/
def int : Shape := named "int"

/-- The shape of floating-point numbers. -/
def float : Shape := named "float"

/-- The shape of truth values. -/
def bool : Shape := named "bool"

/-- The shape of texts. -/
def string : Shape := named "string"

/-- The shape of points in time. -/
def timestamp : Shape := named "timestamp"

/-- The shape of lists of `item`. -/
def list (item : Shape) : Shape := applied "list" [item]

/-- The shape of a callable: its parameters, then what it returns. -/
def func (params : List Shape) (returns : Shape) : Shape := applied "fn" (params ++ [returns])

/-- `item` wrapped `times` times in the constructor `head`. -/
def wrap (head : String) (times : Nat) (item : Shape) : Shape :=
  times.repeat (fun inner => applied head [inner]) item

/-! ### Equality -/

mutual

/-- Equality of shapes is decided structurally. -/
def decEq : (s t : Shape) → Decidable (s = t)
  | unit, unit => isTrue rfl
  | named a, named b => if h : a = b then isTrue (by rw [h]) else isFalse (by simp [h])
  | applied f xs, applied g ys =>
      if h : f = g then
        match decEqAll xs ys with
        | isTrue hargs => isTrue (by rw [h, hargs])
        | isFalse hargs => isFalse (by simp [hargs])
      else isFalse (by simp [h])
  | typeParam i, typeParam j => if h : i = j then isTrue (by rw [h]) else isFalse (by simp [h])
  | methodParam i, methodParam j =>
      if h : i = j then isTrue (by rw [h]) else isFalse (by simp [h])
  | unit, named _ | unit, applied _ _ | unit, typeParam _ | unit, methodParam _
  | named _, unit | named _, applied _ _ | named _, typeParam _ | named _, methodParam _
  | applied _ _, unit | applied _ _, named _ | applied _ _, typeParam _
  | applied _ _, methodParam _
  | typeParam _, unit | typeParam _, named _ | typeParam _, applied _ _
  | typeParam _, methodParam _
  | methodParam _, unit | methodParam _, named _ | methodParam _, applied _ _
  | methodParam _, typeParam _ => isFalse (by simp)

/-- Argument lists are equal when they agree shape by shape. -/
def decEqAll : (xs ys : List Shape) → Decidable (xs = ys)
  | [], [] => isTrue rfl
  | [], _ :: _ | _ :: _, [] => isFalse (by simp)
  | x :: xs, y :: ys =>
      match decEq x y with
      | isTrue h =>
          match decEqAll xs ys with
          | isTrue hrest => isTrue (by rw [h, hrest])
          | isFalse hrest => isFalse (by simp [hrest])
      | isFalse h => isFalse (by simp [h])

end

instance : DecidableEq Shape := decEq

/-! ### Substitution -/

mutual

/-- Replace every placeholder at once: contract-level ones through `onType`, member-level ones
through `onMethod`. -/
def bind (onType onMethod : UInt16 → Shape) : Shape → Shape
  | unit => unit
  | named name => named name
  | applied head args => applied head (bindAll onType onMethod args)
  | typeParam i => onType i
  | methodParam i => onMethod i

/-- `bind` on each shape of an argument list. -/
def bindAll (onType onMethod : UInt16 → Shape) : List Shape → List Shape
  | [] => []
  | s :: rest => bind onType onMethod s :: bindAll onType onMethod rest

end

@[simp] theorem bindAll_eq_map (onType onMethod : UInt16 → Shape) (args : List Shape) :
    bindAll onType onMethod args = args.map (bind onType onMethod) := by
  induction args with
  | nil => rfl
  | cons s rest ih => simp [bindAll, ih]

/-- The shape at position `i` of `args`, or `fallback` when the position is out of range. -/
def pick (args : List Shape) (i : UInt16) (fallback : Shape) : Shape :=
  args[i.toNat]?.getD fallback

/-- Replace contract-level placeholders by position.  Positions out of range are kept. -/
def substituteTypeParams (args : List Shape) (s : Shape) : Shape :=
  s.bind (fun i => pick args i (typeParam i)) methodParam

/-- Replace member-level placeholders by position.  Positions out of range are kept. -/
def substituteMethodParams (args : List Shape) (s : Shape) : Shape :=
  s.bind typeParam (fun i => pick args i (methodParam i))

mutual

/-- Whether a contract-level placeholder occurs anywhere in the shape. -/
def hasTypeParams : Shape → Bool
  | typeParam _ => true
  | applied _ args => anyHasTypeParams args
  | unit | named _ | methodParam _ => false

/-- Whether a contract-level placeholder occurs in one of the shapes. -/
def anyHasTypeParams : List Shape → Bool
  | [] => false
  | s :: rest => hasTypeParams s || anyHasTypeParams rest

end

@[simp] theorem anyHasTypeParams_eq_any (args : List Shape) :
    anyHasTypeParams args = args.any hasTypeParams := by
  induction args with
  | nil => rfl
  | cons s rest ih => simp [anyHasTypeParams, ih]

/-! ### Written form -/

mutual

/-- The written form: `()`, `int`, `list<int>`, `$T0` for a contract's parameter and `$M0` for a
member's. -/
def display : Shape → String
  | unit => "()"
  | named name => name
  | applied head args => head ++ "<" ++ ", ".intercalate (displayAll args) ++ ">"
  | typeParam i => "$T" ++ i.toNat.repr
  | methodParam i => "$M" ++ i.toNat.repr

/-- The written form of each shape of an argument list. -/
def displayAll : List Shape → List String
  | [] => []
  | s :: rest => display s :: displayAll rest

end

@[simp] theorem displayAll_eq_map (args : List Shape) : displayAll args = args.map display := by
  induction args with
  | nil => rfl
  | cons s rest ih => simp [displayAll, ih]

/-- Written forms of a list of shapes, separated by commas. -/
def displayList (shapes : List Shape) : String :=
  ", ".intercalate (shapes.map display)

end Shape

end StructuralAdapters
