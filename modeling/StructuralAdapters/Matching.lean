import StructuralAdapters.Object
import StructuralAdapters.SynthesisError

/-!
# Matching required members

A required member is bound to exactly one member of a source type.

* `MatchMode`: how a requirement is compared with candidates;
* `Signature.accepts`: whether a candidate satisfies a required signature;
* `TypeDescriptor.resolve`: the single member that satisfies a requirement.

A generic requirement is compared by its generic definition, in which the member's own parameters
are positional placeholders, and any other requirement by its shapes as they stand.  A generic
member never satisfies a requirement that is not generic, nor the other way round.
-/

namespace StructuralAdapters

/-- How a requirement is compared with candidates. -/
inductive MatchMode where
  /-- By name, by-reference flags and shapes; the candidate is not generic. -/
  | literal
  /-- By name, generic arity, by-reference flags and shapes, placeholders by position. -/
  | erased
  deriving DecidableEq

/-- The mode for a required signature. -/
def MatchMode.of (s : Signature) : MatchMode :=
  if s.isGeneric then .erased else .literal

/-- The mode as a word. -/
def MatchMode.name : MatchMode → String
  | literal => "literal"
  | erased => "erased"

/-- Whether the generic arity of a candidate fits. -/
def MatchMode.arityFits (mode : MatchMode) (required candidate : Signature) : Bool :=
  match mode with
  | literal => !candidate.isGeneric
  | erased => candidate.genericArity == required.genericArity

/-- Whether two parameters have one by-reference flag and one shape. -/
def Param.agrees (p q : Param) : Bool :=
  p.mode.isByRef == q.mode.isByRef && p.shape == q.shape

/-- Whether a candidate satisfies a required signature; with `strict`, it also has to return the
same shape. -/
def Signature.accepts (strict : Bool) (required candidate : Signature) : Bool :=
  candidate.name == required.name
    && candidate.params.length == required.params.length
    && (MatchMode.of required).arityFits required candidate
    && (required.params.zip candidate.params).all (fun (p, q) => p.agrees q)
    && (!strict || required.returns == candidate.returns)

namespace TypeDescriptor

/-- The members that satisfy a required signature, in the order of the table. -/
def candidates (source : TypeDescriptor) (strict : Bool) (required : Signature) : List Member :=
  source.members.filter fun m => required.accepts strict m.signature

/-- The single member that satisfies a requirement. -/
def resolve (source : TypeDescriptor) (strict : Bool) (r : Requirement) :
    Except SynthesisError Member :=
  match source.candidates strict r.signature with
  | [member] => .ok member
  | [] => .error (.missingMember r.signature.display r.owner source.name)
  | several =>
      .error (.ambiguousMember r.signature.display r.owner source.name
        (several.map (·.signature.display)))

end TypeDescriptor

end StructuralAdapters
