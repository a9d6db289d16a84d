import StructuralAdapters.Shape

/-!
# Member signatures and their structural keys

* `Signature`: a member's name, parameters, returned shape, own generic parameters and kind;
* `Signature.key`: the **structural identity** used to drop repeated requirements, to shadow
  inherited members and to find a member at call time;
* `Signature.substituteTypeParams`, `Signature.close`: what instantiating a contract and closing a
  generic member do to a signature;
* `Signature.display`, `SignatureKey.display`: the written forms.

## What is not part of a member's identity

The key keeps the name, the generic arity, and each parameter's by-reference flag and shape.  The
returned shape, the kind, and the names of the generic parameters are left out, and passing by
reference and passing out share one flag.  The arity is a 16-bit number, so a signature with 65536
generic parameters has the key of a non-generic one.
-/

namespace StructuralAdapters

/-- How an argument is passed. -/
inductive PassMode where
  /-- By value: the callee cannot affect the caller's storage. -/
  | value
  /-- By reference, read and written. -/
  | ref
  /-- By reference, written by the callee. -/
  | out
  deriving DecidableEq

/-- `ref` and `out` are one by-reference flag to every comparison. -/
def PassMode.isByRef : PassMode → Bool
  | .value => false
  | .ref | .out => true

/-- The mode as it stands before a parameter's shape. -/
def PassMode.display : PassMode → String
  | .value => ""
  | .ref => "ref "
  | .out => "out "

/-- A single parameter. -/
structure Param where
  shape : Shape
  mode : PassMode
  deriving DecidableEq

/-- Change a parameter's shape and keep its mode. -/
def Param.mapShape (f : Shape → Shape) (p : Param) : Param :=
  { p with shape := f p.shape }

/-- What a member was declared as.  Matching ignores it. -/
inductive MemberKind where
  | method
  | getter
  | setter
  | adder
  | remover
  deriving DecidableEq

/-- The kind as a word. -/
def MemberKind.name : MemberKind → String
  | .method => "method"
  | .getter => "getter"
  | .setter => "setter"
  | .adder => "adder"
  | .remover => "remover"

/-- Full signature of a required or provided member. -/
structure Signature where
  name : String
  params : List Param
  returns : Shape
  /-- Names of the member's own generic parameters. -/
  generics : List String
  kind : MemberKind
  deriving DecidableEq

/-- Structural identity of a member. -/
structure SignatureKey where
  name : String
  arity : UInt16
  /-- Each parameter's by-reference flag and shape. -/
  params : List (Bool × Shape)
  deriving DecidableEq

namespace Signature

/-! ### Accessors -/

/-- A method called `name` with no parameters and nothing returned. -/
def method (name : String) : Signature :=
  { name, params := [], returns := .unit, generics := [], kind := .method }

/-- The member that reads a property. -/
def getter (property : String) (shape : Shape) : Signature :=
  { method ("get_" ++ property) with returns := shape, kind := .getter }

/-- The member that writes a property. -/
def setter (property : String) (shape : Shape) : Signature :=
  { method ("set_" ++ property) with params := [⟨shape, .value⟩], kind := .setter }

/-- The member that registers a handler of an event. -/
def adder (event : String) (handler : Shape) : Signature :=
  { method ("add_" ++ event) with params := [⟨handler, .value⟩], kind := .adder }

/-- The member that removes a handler of an event. -/
def remover (event : String) (handler : Shape) : Signature :=
  { method ("remove_" ++ event) with params := [⟨handler, .value⟩], kind := .remover }

/-! ### Structure -/

/-- The number of the member's own generic parameters. -/
def genericArity (s : Signature) : Nat := s.generics.length

/-- Whether the member has generic parameters of its own. -/
def isGeneric (s : Signature) : Bool := !s.generics.isEmpty

/-- The by-reference flags of the parameters. -/
def byRefFlags (s : Signature) : List Bool := s.params.map (·.mode.isByRef)

/-- The structural identity of the member. -/
def key (s : Signature) : SignatureKey :=
  { name := s.name
    arity := UInt16.ofNat s.genericArity
    params := s.params.map fun p => (p.mode.isByRef, p.shape) }

/-- Apply `f` to the shape of every parameter and to the returned shape. -/
def mapShapes (f : Shape → Shape) (s : Signature) : Signature :=
  { s with params := s.params.map (Param.mapShape f), returns := f s.returns }

/-- Replace contract-level placeholders in every parameter and in the returned shape. -/
def substituteTypeParams (args : List Shape) (s : Signature) : Signature :=
  s.mapShapes (Shape.substituteTypeParams args)

/-- The concrete member that a generic call resolves to, given the call's type arguments. -/
def close (typeArgs : List Shape) (s : Signature) : Signature :=
  { s.mapShapes (Shape.substituteMethodParams typeArgs) with generics := [] }

/-- Whether a contract-level placeholder occurs in a parameter or in the returned shape. -/
def hasTypeParams (s : Signature) : Bool :=
  s.returns.hasTypeParams || s.params.any (·.shape.hasTypeParams)

/-! ### Written form -/

/-- The names of the generic parameters in angle brackets, or nothing when there are none. -/
def displayGenerics : List String → String
  | [] => ""
  | names => "<" ++ ", ".intercalate names ++ ">"

/-- The written form, such as `Swap<T>(ref $M0, ref $M0) -> ()`. -/
def display (s : Signature) : String :=
  s.name ++ displayGenerics s.generics ++ "("
    ++ ", ".intercalate (s.params.map fun p => p.mode.display ++ p.shape.display)
    ++ ") -> " ++ s.returns.display

end Signature

/-- The written form: the arity follows a back quote unless it is zero, and a by-reference
parameter is marked with an ampersand. -/
def SignatureKey.display (k : SignatureKey) : String :=
  k.name ++ (if k.arity = 0 then "" else "`" ++ k.arity.toNat.repr) ++ "("
    ++ ", ".intercalate (k.params.map fun (byRef, shape) =>
        (if byRef then "&" else "") ++ shape.display)
    ++ ")"

end StructuralAdapters
