import CommandAdvisor.Number.Binary64

/-!
# Quantities

A quantity is a whole number of any size or a binary number. Whole numbers among themselves
are exact; as soon as a binary number takes part, a whole number is rounded to one first,
which fails beyond the largest. Comparing is always exact.

## Main definitions
* `Quantity` and `Quantity.toBinary64?`.
* `Quantity.mul?` and `Quantity.sub?`: arithmetic, `none` when a number is too large.
* `Quantity.lt` and `Quantity.eq`.
-/
namespace CommandAdvisor.Number

-- Powers are those of the core library, whatever is imported besides.
attribute [local instance(high)] instPowNat

/-- A whole number or a binary one. -/
inductive Quantity where
  | whole (n : Int)
  | real (x : Binary64)
  deriving DecidableEq, Inhabited

namespace Quantity

/-- The binary number that a quantity is or is rounded to; `none` for a whole number beyond
the largest. -/
def toBinary64? : Quantity → Option Binary64
  | whole n => if (Binary64.ofInt n).isFinite then some (.ofInt n) else none
  | real x => some x

/-- The product. -/
def mul? : Quantity → Quantity → Option Quantity
  | whole a, whole b => some (whole (a * b))
  | a, b => do return real ((← a.toBinary64?).mul (← b.toBinary64?))

/-- The difference. -/
def sub? : Quantity → Quantity → Option Quantity
  | whole a, whole b => some (whole (a - b))
  | a, b => do return real ((← a.toBinary64?).sub (← b.toBinary64?))

/-- Whether a whole number is less than a binary one. -/
def wholeLt (n : Int) (x : Binary64) : Bool :=
  match x with
  | .nan => false
  | .infinite negative => !negative
  | .finite _ _ => n * 2 ^ unitPlaces < x.units?.getD 0

/-- Whether a binary number is less than a whole one. -/
def ltWhole (x : Binary64) (n : Int) : Bool :=
  match x with
  | .nan => false
  | .infinite negative => negative
  | .finite _ _ => x.units?.getD 0 < n * 2 ^ unitPlaces

/-- Whether the first of two quantities is less. -/
def lt : Quantity → Quantity → Bool
  | whole a, whole b => a < b
  | whole a, real y => wholeLt a y
  | real x, whole b => ltWhole x b
  | real x, real y => x.lt y

/-- Whether two quantities are the same number. -/
def eq : Quantity → Quantity → Bool
  | whole a, whole b => a = b
  | whole a, real y => y.units? = some (a * 2 ^ unitPlaces)
  | real x, whole b => x.units? = some (b * 2 ^ unitPlaces)
  | real x, real y => x.le y && y.le x

example : lt (whole (2 ^ 53)) (real (.ofInt (2 ^ 53 + 2))) := by decide +kernel

end Quantity

end CommandAdvisor.Number
