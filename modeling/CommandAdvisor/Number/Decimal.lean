import CommandAdvisor.Number.Binary64
import CommandAdvisor.Text.Basic

/-!
# Decimal text of binary numbers

A number is written with the fewest digits that read back as the same number; of
the decimals with so many digits the one nearest to the number is taken. How the
digits are laid out is a format's own decision and is kept in one record.

## Main definitions
* `Decimal`: digits and a power of ten.
* `shortest`: the fewest digits that read back.
* `Layout`: where positional notation ends and how exponents are written.
* `Layout.write`: the text of a finite number.
-/
namespace CommandAdvisor.Number

-- Powers are those of the core library, whatever is imported besides.
attribute [local instance(high)] instPowNat

/-- The decimal `digits * 10 ^ exponent`. -/
structure Decimal where
  digits : Nat
  exponent : Int
  deriving DecidableEq

namespace Decimal

/-- The decimal with `count` digits whose exponent is `place - count`, as a quotient of
least units. -/
def inUnits (digits : Nat) (exponent : Int) : Nat × Nat :=
  (digits * 10 ^ exponent.toNat * 2 ^ unitPlaces, 10 ^ (-exponent).toNat)

/-- Whether a decimal is read back as `units`: it lies no further than half a spacing
away, and at exactly half only when the significand of `units` is even. Below a power
of two the spacing is half as wide. -/
def readsBack (units digits : Nat) (exponent : Int) : Bool :=
  let (num, den) := inUnits digits exponent
  let gap := 2 ^ spacing units
  let even := units / gap % 2 == 0
  let below := if units == 2 ^ units.log2 && 0 < spacing units then gap else 2 * gap
  let low := (4 * units - below) * den
  let high := (4 * units + 2 * gap) * den
  if even then low ≤ 4 * num && 4 * num ≤ high else low < 4 * num && 4 * num < high

/-- The place of the leading digit: the least `p` with `units` below `10 ^ p`. -/
def leadingPlace (units : Nat) : Int :=
  let below (p : Int) : Bool :=
    let (num, den) := inUnits 1 p
    units * den < num
  let guess := ((units.log2 : Int) - unitPlaces) * 30103 / 100000 + 1
  if below (guess - 1) then guess - 1 else if below guess then guess else guess + 1

/-- Among the two decimals next to `units` on the grid of `10 ^ exponent`, the nearest
that reads back; a tie goes to the even digit. -/
def onGrid? (units : Nat) (exponent : Int) : Option Decimal :=
  let (num, den) := inUnits 1 exponent
  let low := units * den / num
  let nearer := roundQuotient (units * den) num
  let other := if nearer = low then low + 1 else low
  if readsBack units nearer exponent then some ⟨nearer, exponent⟩
  else if readsBack units other exponent then some ⟨other, exponent⟩
  else none

/-- A decimal with no zero digit at its end, found by dropping at most `count` zeros. -/
def dropZeros : Nat → Decimal → Decimal
  | 0, d => d
  | count + 1, d =>
    if d.digits % 10 = 0 then dropZeros count ⟨d.digits / 10, d.exponent + 1⟩ else d

/-- The fewest digits that read back as a positive number of units: the first grid, from
the coarsest on, that has such a decimal. Seventeen digits always do. -/
def shortest (units : Nat) : Decimal :=
  let place := leadingPlace units
  match (List.range 17).findSome? fun (k : Nat) => onGrid? units (place - (k + 1)) with
  | some d => dropZeros 17 d
  | none => ⟨0, 0⟩

end Decimal

/-- How the digits of a number are laid out. -/
structure Layout where
  /-- The least place of the leading digit that is still written positionally. -/
  leastPlace : Int
  /-- The greatest such place. -/
  greatestPlace : Int
  /-- Whether a positive exponent has a plus sign. -/
  plus : Bool
  /-- The least number of digits of an exponent. -/
  exponentWidth : Nat

namespace Layout

/-- Digits of a natural number, at least `width` of them. -/
def padded (width n : Nat) : Text :=
  let ds := Text.ofNat n
  Text.repeated (width - ds.length) '0' ++ ds

/-- The text of a decimal that is not zero. -/
def writeDecimal (layout : Layout) (d : Decimal) : Text :=
  let ds := Text.ofNat d.digits
  let place : Int := ds.length + d.exponent
  if layout.leastPlace ≤ place && place ≤ layout.greatestPlace then
    if place ≤ 0 then "0." ++ Text.repeated (-place).toNat '0' ++ ds
    else
      let whole := ds.take place.toNat ++ Text.repeated (place.toNat - ds.length) '0'
      let rest := ds.drop place.toNat
      if rest.isEmpty then whole ++ ".0" else whole ++ "." ++ rest
  else
    let lead := ds.take 1
    let rest := ds.drop 1
    let mantissa := if rest.isEmpty then lead else lead ++ "." ++ rest
    let exponent := place - 1
    let sign : Text := if exponent < 0 then "-" else if layout.plus then "+" else ""
    mantissa ++ "e" ++ sign ++ padded layout.exponentWidth exponent.natAbs

/-- The text of a finite number; `none` for the others, which have no digits. -/
def write? (layout : Layout) : Binary64 → Option Text
  | .finite negative m =>
    let body : Text := if m.units = 0 then "0.0" else layout.writeDecimal (.shortest m.units)
    some (if negative then "-" ++ body else body)
  | _ => none

/-- Positional from a ten thousandth up to sixteen places; exponents have a sign and at
least two digits. -/
def plain : Layout := ⟨-3, 16, true, 2⟩

/-- Positional from a hundred thousandth up to sixteen places; exponents are as short
as they can be. -/
def compact : Layout := ⟨-4, 16, false, 1⟩

example : plain.write? (.ofScaled false 1 (-1)) = some ("0.1" : Text) := by decide +kernel

example : plain.write? (.ofScaled true 5 (-324)) = some ("-5e-324" : Text) := by decide +kernel

end Layout

end CommandAdvisor.Number
