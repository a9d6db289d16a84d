import StructuralAdapters.Value

/-!
# Terms

* `Term`: a value in which objects and callbacks stand by their names;
* `Term.evaluate`: the value of a term, if every name in it stands for something;
* `Term.ofValue`: a value written as a term.

A term that is read has a name for every object and callback.  A term that is shown has none for an
object or a callback that was never given a name, so the names of the two have different types.
-/

namespace StructuralAdapters

/-- A value in which objects and callbacks stand by names of type `ν`. -/
inductive Term (ν : Type) where
  | unit
  | bool (b : Bool)
  | int (n : Int64)
  | float (x : Binary64)
  | text (s : String)
  | timestamp (t : Timestamp)
  | list (items : List (Term ν))
  | object (name : ν)
  | func (name : ν)

namespace Term

variable {ν ε : Type}

mutual

/-- The value of a term, with the objects and callbacks that its names stand for. -/
def evaluate (object? : ν → Except ε Object) (func? : ν → Except ε Callback) :
    Term ν → Except ε Value
  | unit => .ok .unit
  | bool b => .ok (.bool b)
  | int n => .ok (.int n)
  | float x => .ok (.float x)
  | text s => .ok (.text s)
  | timestamp t => .ok (.timestamp t)
  | list items => (evaluateAll object? func? items).map .list
  | object name => (object? name).map .object
  | func name => (func? name).map .func

/-- The values of several terms; the first name that stands for nothing is reported. -/
def evaluateAll (object? : ν → Except ε Object) (func? : ν → Except ε Callback) :
    List (Term ν) → Except ε (List Value)
  | [] => .ok []
  | t :: rest => do
      let v ← evaluate object? func? t
      let vs ← evaluateAll object? func? rest
      return v :: vs

end

mutual

/-- The term of a value, with the names of the objects and callbacks in it. -/
def ofValue (onObject : Object → ν) (onFunc : Callback → ν) : Value → Term ν
  | .unit => unit
  | .bool b => bool b
  | .int n => int n
  | .float x => float x
  | .text s => text s
  | .timestamp t => timestamp t
  | .list items => list (ofValues onObject onFunc items)
  | .object o => object (onObject o)
  | .func c => func (onFunc c)

/-- The terms of several values. -/
def ofValues (onObject : Object → ν) (onFunc : Callback → ν) : List Value → List (Term ν)
  | [] => []
  | v :: rest => ofValue onObject onFunc v :: ofValues onObject onFunc rest

end

end Term

end StructuralAdapters
