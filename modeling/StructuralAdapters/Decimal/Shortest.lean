import StructuralAdapters.Binary64

/-!
# Shortest decimals

The fewest decimal digits that identify a floating-point number.

* `Decimal`: `digits * 10 ^ exponent`;
* `Decimal.readsBack`: whether a decimal lies among the reals that round to a given number;
* `Decimal.shortest`: the decimal with the fewest digits that reads back, and of those the nearest.

## Search

Decimals with `n` significant digits form a grid.  If a point of the grid reads back, so does one of
the two neighbours of the number on it, so it is enough to test these two on the grids of one, two
and more digits.  Seventeen digits always suffice.  All arithmetic is exact.
-/

namespace StructuralAdapters

/-- The decimal `digits * 10 ^ exponent`. -/
structure Decimal where
  digits : Nat
  exponent : Int
  deriving DecidableEq

namespace Decimal

/-- The power `base ^ e`, or one where the exponent is negative. -/
def power (base : Nat) (e : Int) : Nat := Nat.pow base e.toNat

/-- Compare `a * 10 ^ i` with `b * 2 ^ j`. -/
def compareScaled (a : Nat) (i : Int) (b : Nat) (j : Int) : Ordering :=
  compare (a * power 10 i * power 2 (-j)) (b * power 2 j * power 10 (-i))

/-- Whether a decimal lies among the reals that round to the number: those up to halfway to its
neighbours, the halfway points included when the significand is even. -/
def readsBack (x : Binary64.Magnitude) (d : Decimal) : Bool :=
  let below := if x.narrowBelow then 4 * x.significand - 1 else 4 * x.significand - 2
  let above := 4 * x.significand + 2
  let fromBelow := compareScaled d.digits d.exponent below (x.exponent - 2)
  let fromAbove := compareScaled d.digits d.exponent above (x.exponent - 2)
  if x.significand % 2 = 0 then fromBelow.isGE && fromAbove.isLE
  else fromBelow.isGT && fromAbove.isLT

/-- The number of decimal digits, none for zero. -/
def digitCount (n : Nat) : Nat :=
  if n = 0 then 0 else (Nat.toDigits 10 n).length

/-- The least `k` for which the positive number `num / den` is less than `10 ^ k`. -/
def scale (num den : Nat) : Int :=
  if den ≤ num then digitCount (num / den)
  else 1 - digitCount ((den + num - 1) / num - 1)

/-- The neighbours of `num / den` among the multiples of `10 ^ exponent`: the one not above it, and
whether the next one is at least as near. -/
def floorOnGrid (num den : Nat) (exponent : Int) : Nat × Bool :=
  let num' := num * power 10 (-exponent)
  let den' := den * power 10 exponent
  (num' / den', decide ((2 * (num' / den') + 1) * den' ≤ 2 * num'))

/-- The nearer of the two neighbours that reads back; halfway between them, the larger one. -/
def onGrid? (x : Binary64.Magnitude) (num den : Nat) (exponent : Int) : Option Decimal :=
  let (lower, upperIsNearer) := floorOnGrid num den exponent
  let low : Decimal := ⟨lower, exponent⟩
  let high : Decimal := ⟨lower + 1, exponent⟩
  match low.readsBack x, high.readsBack x with
  | true, true => some (if upperIsNearer then high else low)
  | true, false => some low
  | false, true => some high
  | false, false => none

/-- Move trailing zeros of the digits into the exponent. -/
def strip : (fuel : Nat) → Decimal → Decimal
  | 0, d => d
  | fuel + 1, d =>
      if d.digits % 10 = 0 && d.digits != 0 then strip fuel ⟨d.digits / 10, d.exponent + 1⟩ else d

/-- The shortest decimal of a positive number. -/
def shortest (x : Binary64.Magnitude) : Decimal :=
  let num := x.significand * power 2 x.exponent
  let den := power 2 (-x.exponent)
  let k := scale num den
  let found := (List.range 17).findSome? fun (n : Nat) => onGrid? x num den (k - (n + 1 : Nat))
  -- The exact value, should no grid have a point that reads back.
  let exact : Decimal := ⟨num * power 5 (-x.exponent), -(-x.exponent).toNat⟩
  let d := found.getD exact
  strip (digitCount d.digits) d

end Decimal

end StructuralAdapters
