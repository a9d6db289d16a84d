import StructuralAdapters.Toml.Document

/-!
# TOML numbers, dates and words

Which words are values: booleans, integers, floating-point numbers, dates and times.

* `Toml.isInteger`: decimal, hexadecimal, octal and binary integers of 64 bits;
* `Toml.isFloat`: decimal fractions and powers of ten that are not too large, and the words `inf`
  and `nan`;
* `Toml.isDateTime`: a date, a time, or both, the latter with or without an offset;
* `Toml.scalar?`: the value that a word stands for.

Digits may be separated by single underscores, and a decimal number has no leading zero.
-/

namespace StructuralAdapters.Toml

/-- Whether the characters are digits, with underscores between digits only. -/
def digitRun (isDigit : Char → Bool) : List Char → Bool
  | [] => false
  | [c] => isDigit c
  | c :: '_' :: rest => isDigit c && digitRun isDigit rest
  | c :: rest => isDigit c && digitRun isDigit rest

/-- The value of a digit in a base up to sixteen. -/
def digitValue (c : Char) : Nat :=
  if c.isDigit then c.toNat - '0'.toNat
  else if 'a' ≤ c ∧ c ≤ 'f' then c.toNat - 'a'.toNat + 10
  else if 'A' ≤ c ∧ c ≤ 'F' then c.toNat - 'A'.toNat + 10
  else 16

/-- The number that digits stand for; underscores are passed over. -/
def numeral (base : Nat) (digits : List Char) : Nat :=
  digits.foldl (fun n c => if c = '_' then n else n * base + digitValue c) 0

/-- Whether the characters are decimal digits without a leading zero. -/
def isUnsigned (s : List Char) : Bool :=
  digitRun Char.isDigit s && (s == ['0'] || s.head? != some '0')

/-- The sign of a number, whether it is negative, and what follows. -/
def unsign : List Char → Bool × List Char
  | '+' :: rest => (false, rest)
  | '-' :: rest => (true, rest)
  | s => (false, s)

/-- Whether the characters are digits of a base whose number fits into 63 bits. -/
def isBased (base : Nat) (s : List Char) : Bool :=
  digitRun (fun c => digitValue c < base) s && decide (numeral base s < 0x8000000000000000)

/-- Whether a word is an integer. -/
def isInteger : List Char → Bool
  | '0' :: 'x' :: digits => isBased 16 digits
  | '0' :: 'o' :: digits => isBased 8 digits
  | '0' :: 'b' :: digits => isBased 2 digits
  | s =>
      let (negative, digits) := unsign s
      isUnsigned digits
        && decide (numeral 10 digits < 0x8000000000000000 + (if negative then 1 else 0))

/-- Whether the characters are an exponent after its letter. -/
def isExponent (s : List Char) : Bool :=
  digitRun Char.isDigit (unsign s).2

/-- Whether `digits * 10 ^ exponent` is so large that it rounds to infinity. -/
def overflows (digits : Nat) (exponent : Int) : Bool :=
  let size : Int := exponent + (Nat.toDigits 10 digits).length
  if digits = 0 ∨ size < 300 then false
  else if 320 < size then true
  else
    -- Halfway between the largest number and the next power of two.
    let limit := 0x3fffffffffffff * Nat.pow 2 970
    decide (limit * Nat.pow 10 (-exponent).toNat ≤ digits * Nat.pow 10 exponent.toNat)

/-- Whether a word is a floating-point number.  A positive one must not be too large. -/
def isFloat (s : List Char) : Bool :=
  let (negative, body) := unsign s
  if body = ['i', 'n', 'f'] ∨ body = ['n', 'a', 'n'] then true
  else
    let (whole, rest) := body.span fun c => c.isDigit || c == '_'
    let (fraction, rest') : List Char × List Char :=
      match rest with
      | '.' :: after => after.span fun c => c.isDigit || c == '_'
      | _ => ([], rest)
    let hasFraction := rest.head? == some '.'
    let exponent := rest'.drop 1
    let hasExponent := rest'.head? == some 'e' || rest'.head? == some 'E'
    let wellFormed := isUnsigned whole
      && (!hasFraction || digitRun Char.isDigit fraction)
      && (if hasExponent then isExponent exponent else rest'.isEmpty)
      && (hasFraction || hasExponent)
    let (below, exponentDigits) := unsign exponent
    let written : Int := numeral 10 exponentDigits
    let power : Int := (if below then -written else written)
      - (fraction.filter (· ≠ '_')).length
    wellFormed && (negative || !overflows (numeral 10 (whole ++ fraction)) power)

/-! ### Dates and times -/

/-- The number that two digits stand for. -/
def twoDigits (a b : Char) : Option Nat :=
  if a.isDigit && b.isDigit then some (numeral 10 [a, b]) else none

/-- The number of days of a month. -/
def daysOfMonth (year month : Nat) : Nat :=
  if month = 2 then
    if year % 4 = 0 ∧ (year % 100 ≠ 0 ∨ year % 400 = 0) then 29 else 28
  else if month = 4 ∨ month = 6 ∨ month = 9 ∨ month = 11 then 30
  else 31

/-- What follows a date. -/
def afterDate? : List Char → Option (List Char)
  | y₁ :: y₂ :: y₃ :: y₄ :: '-' :: m₁ :: m₂ :: '-' :: d₁ :: d₂ :: rest => do
      let century ← twoDigits y₁ y₂
      let ofCentury ← twoDigits y₃ y₄
      let month ← twoDigits m₁ m₂
      let day ← twoDigits d₁ d₂
      if 1 ≤ month ∧ month ≤ 12 ∧ 1 ≤ day
          ∧ day ≤ daysOfMonth (100 * century + ofCentury) month then
        return rest
      else none
  | _ => none

/-- What follows a time of the day. -/
def afterTime? : List Char → Option (List Char)
  | h₁ :: h₂ :: ':' :: m₁ :: m₂ :: ':' :: s₁ :: s₂ :: rest => do
      let hour ← twoDigits h₁ h₂
      let minute ← twoDigits m₁ m₂
      let second ← twoDigits s₁ s₂
      if hour ≤ 23 ∧ minute ≤ 59 ∧ second ≤ 60 then
        match rest with
        | '.' :: d :: after => if d.isDigit then return after.dropWhile Char.isDigit else none
        | _ => return rest
      else none
  | _ => none

/-- Whether the characters are nothing or an offset from coordinated universal time. -/
def isOffset : List Char → Bool
  | [] | ['Z'] | ['z'] => true
  | [sign, h₁, h₂, ':', m₁, m₂] =>
      match twoDigits h₁ h₂, twoDigits m₁ m₂ with
      | some hour, some minute =>
          (sign == '+' || sign == '-') && decide (hour ≤ 23) && decide (minute ≤ 59)
      | _, _ => false
  | _ => false

/-- Whether a word is a date, a time, or a date with a time. -/
def isDateTime (s : List Char) : Bool :=
  match afterDate? s with
  | some [] => true
  | some (separator :: time) =>
      (separator == 'T' || separator == 't' || separator == ' ')
        && ((afterTime? time).map isOffset).getD false
  | none => afterTime? s == some []

/-- The value that a word stands for. -/
def scalar? (s : List Char) : Option Node :=
  if s = ['t', 'r', 'u', 'e'] then some (.boolean true)
  else if s = ['f', 'a', 'l', 's', 'e'] then some (.boolean false)
  else if isDateTime s then some .dateTime
  else if isFloat s then some .float
  else if isInteger s then some .integer
  else none

end StructuralAdapters.Toml
