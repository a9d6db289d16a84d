import StructuralAdapters.Decimal.Shortest
import StructuralAdapters.Object
import StructuralAdapters.Text.Quoted

/-!
# Values

* `Value`: what is passed to members and returned by them;
* `Value.kind`: the name of a value's kind, as errors show it;
* `Value.defaultOf`: the default value of a shape, if it has one;
* `Value.same`: equality, structural except for objects and callbacks, which have an identity;
* `Value.showFloat`, `Value.display`: the written forms of numbers and of values.
-/

namespace StructuralAdapters

/-- A callback, known by its number. -/
structure Callback where
  number : Nat
  deriving DecidableEq

/-- A value at run time. -/
inductive Value where
  | unit
  | bool (b : Bool)
  | int (n : Int64)
  | float (x : Binary64)
  | text (s : String)
  | timestamp (t : Timestamp)
  | list (items : List Value)
  | object (o : Object)
  | func (c : Callback)

mutual

/-- The value of a literal. -/
def Literal.value : Literal → Value
  | unit => .unit
  | bool b => .bool b
  | int n => .int n
  | float x => .float x
  | text s => .text s
  | timestamp t => .timestamp t
  | list items => .list (Literal.values items)

/-- The values of literals. -/
def Literal.values : List Literal → List Value
  | [] => []
  | l :: rest => l.value :: Literal.values rest

end

namespace Value

/-- The name of the value's kind. -/
def kind : Value → String
  | unit => "unit"
  | bool _ => "bool"
  | int _ => "int"
  | float _ => "float"
  | text _ => "string"
  | timestamp _ => "timestamp"
  | list _ => "list"
  | object _ => "object"
  | func _ => "fn"

/-- The truth value, if the value is one. -/
def bool? : Value → Option Bool
  | bool b => some b
  | _ => none

/-- The whole number, if the value is one. -/
def int? : Value → Option Int64
  | int n => some n
  | _ => none

/-- The text, if the value is one. -/
def text? : Value → Option String
  | text s => some s
  | _ => none

/-- The items, if the value is a list. -/
def list? : Value → Option (List Value)
  | list items => some items
  | _ => none

/-- The object, if the value is one. -/
def object? : Value → Option Object
  | object o => some o
  | _ => none

/-- The callback, if the value is one. -/
def func? : Value → Option Callback
  | func c => some c
  | _ => none

/-- The default value of a shape: nothing, the built-in leaves and lists have one. -/
def defaultOf : Shape → Option Value
  | .unit => some unit
  | .named "bool" => some (bool false)
  | .named "int" => some (int 0)
  | .named "float" => some (float .zero)
  | .named "string" => some (text "")
  | .named "timestamp" => some (timestamp .earliest)
  | .applied "list" _ => some (list [])
  | _ => none

mutual

/-- Equality of values.  Objects and callbacks are equal when they are the same instance. -/
def same : Value → Value → Bool
  | unit, unit => true
  | bool a, bool b => a == b
  | int a, int b => a == b
  | float a, float b => a.same b
  | text a, text b => a == b
  | timestamp a, timestamp b => a == b
  | list a, list b => sameAll a b
  | object a, object b => a.same b
  | func a, func b => a == b
  | _, _ => false

/-- Equality of lists of values. -/
def sameAll : List Value → List Value → Bool
  | [], [] => true
  | a :: as, b :: bs => same a b && sameAll as bs
  | _, _ => false

end

/-! ### Written form -/

/-- The digits of a positive decimal, with the point where the number has it or, for very large and
very small numbers, after the first digit. -/
def layDecimal (d : Decimal) : String :=
  let digits := Nat.toDigits 10 d.digits
  let leading : Int := d.exponent + digits.length - 1
  if leading < -4 ∨ 15 < leading then
    let fraction := digits.drop 1
    String.ofList (digits.take 1)
      ++ (if fraction.isEmpty then "" else "." ++ String.ofList fraction) ++ "e" ++ leading.repr
  else if 0 ≤ d.exponent then
    String.ofList (digits ++ List.replicate d.exponent.toNat '0') ++ ".0"
  else if 0 ≤ leading then
    let whole := leading.toNat + 1
    String.ofList (digits.take whole) ++ "." ++ String.ofList (digits.drop whole)
  else
    "0." ++ String.ofList (List.replicate (-leading - 1).toNat '0' ++ digits)

/-- The written form of a floating-point number: the fewest digits that identify it.  From `1e16` on
and below `1e-4` the exponent is written out. -/
def showFloat (x : Binary64) : String :=
  let sign := if x.isNegative then "-" else ""
  match x.magnitude? with
  | none => if x.isNaN then "NaN" else sign ++ "inf"
  | some m => sign ++ (if m.significand = 0 then "0.0" else layDecimal (Decimal.shortest m))

mutual

/-- The written form of a value, with `onObject` and `onFunc` for objects and callbacks. -/
def showWith (onObject : Object → String) (onFunc : Callback → String) : Value → String
  | unit => "()"
  | bool b => if b then "true" else "false"
  | int n => n.toInt.repr
  | float x => showFloat x
  | text s => Text.quote s
  | timestamp t => t.display
  | list items => "[" ++ ", ".intercalate (showAllWith onObject onFunc items) ++ "]"
  | object o => onObject o
  | func c => onFunc c

/-- The written forms of several values. -/
def showAllWith (onObject : Object → String) (onFunc : Callback → String) :
    List Value → List String
  | [] => []
  | v :: rest => showWith onObject onFunc v :: showAllWith onObject onFunc rest

end

/-- The written form of a value.  Where an instance stands in memory is left out. -/
def display : Value → String :=
  showWith (fun o => o.type.name ++ "@ptr") (fun _ => "fn@ptr")

end Value

end StructuralAdapters
