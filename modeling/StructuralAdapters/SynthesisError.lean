import StructuralAdapters.Diagnostic

/-!
# Why an adapter cannot be made

* `SynthesisError`: the cause, possibly several at once;
* `SynthesisError.collapse`: a list of failures as one error;
* `SynthesisError.leaves`: the underlying failures;
* `SynthesisError.message`, `SynthesisError.diagnostic`: what a user is told.

Such an error is raised before there is an adapter, never when one is called.
-/

namespace StructuralAdapters

/-- Why an adapter for a contract and a source type cannot be made. -/
inductive SynthesisError where
  /-- No member matches a required one. -/
  | missingMember (member contract sourceType : String)
  /-- Several members match a required one. -/
  | ambiguousMember (member contract sourceType : String) (candidates : List String)
  /-- The contract has type parameters without arguments. -/
  | openContract (contract : String)
  /-- Several failures at once. -/
  | multiple (errors : List SynthesisError)

namespace SynthesisError

/-- A list of failures as one error; a single failure stands for itself. -/
def collapse : List SynthesisError → SynthesisError
  | [single] => single
  | errors => multiple errors

mutual

/-- The underlying failures, from left to right. -/
def leaves : SynthesisError → List SynthesisError
  | multiple errors => leavesAll errors
  | single => [single]

/-- The underlying failures of several errors. -/
def leavesAll : List SynthesisError → List SynthesisError
  | [] => []
  | e :: rest => leaves e ++ leavesAll rest

end

/-- The message of the error. -/
def message : SynthesisError → String
  | missingMember member contract sourceType =>
      "`" ++ sourceType ++ "` has no member matching `" ++ member ++ "` required by `" ++ contract
        ++ "`"
  | ambiguousMember member contract sourceType _ =>
      "`" ++ member ++ "` required by `" ++ contract ++ "` matches more than one member of `"
        ++ sourceType ++ "`"
  | openContract contract => "contract `" ++ contract ++ "` still has unbound type parameters"
  | multiple errors => errors.length.repr ++ " members could not be bound"

/-- The code under which the error is documented. -/
def code : SynthesisError → String
  | missingMember _ _ _ => "duckwrap::synth::missing_member"
  | ambiguousMember _ _ _ _ => "duckwrap::synth::ambiguous_member"
  | openContract _ => "duckwrap::synth::open_contract"
  | multiple _ => "duckwrap::synth::multiple"

/-- What to do about the error, in general. -/
def help? : SynthesisError → Option String
  | missingMember _ _ _ =>
      some "add a member with the same name, parameter shapes and pass modes"
  | ambiguousMember _ _ _ _ => some "remove or rename all but one candidate member"
  | openContract _ => some "instantiate the contract with concrete type arguments first"
  | multiple _ => none

mutual

/-- The diagnostic of the error. -/
def diagnostic : SynthesisError → Diagnostic
  | missingMember member contract sourceType =>
      { message := "cannot adapt `" ++ sourceType ++ "` to `" ++ contract ++ "`: missing member `"
          ++ member ++ "`"
        context := ["`" ++ contract ++ "` requires `" ++ member ++ "`"]
        suggestions :=
          ["Add `" ++ member ++ "` to `" ++ sourceType ++ "`",
           "Check that by-reference parameters are declared by reference on both sides"] }
  | ambiguousMember member contract sourceType candidates =>
      { message := "cannot adapt `" ++ sourceType ++ "` to `" ++ contract ++ "`: `" ++ member
          ++ "` is ambiguous"
        context := candidates.map fun candidate => "candidate: " ++ candidate
        suggestions := ["Remove or rename all but one candidate on `" ++ sourceType ++ "`"] }
  | openContract contract =>
      { message := "cannot adapt to open contract `" ++ contract ++ "`"
        suggestions := ["Instantiate `" ++ contract ++ "` first"] }
  | multiple errors =>
      absorbAll { message := (multiple errors).message } errors

/-- A diagnostic with those of several errors put under it, in order. -/
def absorbAll (d : Diagnostic) : List SynthesisError → Diagnostic
  | [] => d
  | e :: rest => absorbAll (d.absorb (diagnostic e)) rest

end

end SynthesisError

end StructuralAdapters
