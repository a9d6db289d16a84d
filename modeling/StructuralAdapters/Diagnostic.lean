/-!
# Diagnostics

* `Diagnostic`: a message with context lines and suggestions;
* `Diagnostic.absorb`: another diagnostic put under this one, without repeating a suggestion;
* `Diagnostic.format`: the text shown to a user, with or without color.
-/

namespace StructuralAdapters

/-- A message with context and suggestions. -/
structure Diagnostic where
  message : String
  context : List String := []
  suggestions : List String := []
  deriving DecidableEq

namespace Diagnostic

/-- Add a context line. -/
def withContext (d : Diagnostic) (line : String) : Diagnostic :=
  { d with context := d.context ++ [line] }

/-- Add a suggestion. -/
def withSuggestion (d : Diagnostic) (suggestion : String) : Diagnostic :=
  { d with suggestions := d.suggestions ++ [suggestion] }

/-- Add a suggestion unless it is there already. -/
def suggestOnce (suggestions : List String) (suggestion : String) : List String :=
  if suggestion ∈ suggestions then suggestions else suggestions ++ [suggestion]

/-- Append the lines of another diagnostic. -/
def absorb (d other : Diagnostic) : Diagnostic :=
  { message := d.message
    context := d.context ++ other.message :: other.context
    suggestions := other.suggestions.foldl suggestOnce d.suggestions }

/-- A heading, in bold and in the terminal color `code` if color is wanted. -/
def heading (color : Bool) (code text : String) : String :=
  if color then "\x1b[1;" ++ code ++ "m" ++ text ++ "\x1b[0m" else text

/-- The text shown to a user. -/
def format (d : Diagnostic) (color : Bool) : String :=
  heading color "31" "error" ++ ": " ++ d.message ++ "\n"
    ++ String.join (d.context.map fun line => "  -> " ++ line ++ "\n")
    ++ (if d.suggestions.isEmpty then ""
      else "\n" ++ heading color "32" "help" ++ ": consider:\n"
        ++ String.join (d.suggestions.mapIdx fun i suggestion =>
            "  " ++ (i + 1).repr ++ ". " ++ suggestion ++ "\n"))

/-- The text without color. -/
def display (d : Diagnostic) : String := d.format false

end Diagnostic

end StructuralAdapters
