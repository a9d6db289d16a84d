import StructuralAdapters.Text.Invisible

/-!
# Quoted texts

A text is shown between double quotes, so that what it holds can be told from what surrounds it.

* `Text.escape`: how one character is shown;
* `Text.quote`: a whole text.

The double quote, the backslash, the line breaks, the tab and the null character have a short
escape.  A character with no glyph of its own is shown by its code point, because it would vanish or
attach itself to its neighbour.  Every other character stands for itself, the single quote included.
-/

namespace StructuralAdapters.Text

/-- The hexadecimal digits of a number, in lower case and without leading zeros. -/
def hex (n : Nat) : String := String.ofList (Nat.toDigits 16 n)

/-- How one character is shown inside quotes. -/
def escape (c : Char) : String :=
  match c with
  | '\x00' => "\\0"
  | '\t' => "\\t"
  | '\r' => "\\r"
  | '\n' => "\\n"
  | '"' => "\\\""
  | '\\' => "\\\\"
  | _ =>
      if isGraphemeExtend c || isUnprintable c then "\\u\x7b" ++ hex c.toNat ++ "\x7d"
      else c.toString

/-- The text between double quotes. -/
def quote (s : String) : String :=
  "\"" ++ String.join (s.toList.map escape) ++ "\""

end StructuralAdapters.Text
