/-!
# Binary floating point numbers of 64 bits

Every finite number of this format is a whole number of least units, `2 ^ -1074`
each. A magnitude is kept as that number of units, so comparing, adding and
multiplying are exact natural number arithmetic, followed by one rounding to the
nearest number of the format; of two nearest ones the even one is taken.

## Main definitions
* `spacing n`: numbers of about `n` units lie `2 ^ spacing n` units apart.
* `Magnitude`: a number of units that the format has.
* `Binary64`: a signed magnitude, an infinity, or no number at all.
* `Binary64.ofUnits`, `Binary64.ofInt` and `Binary64.ofScaled` round to the format.
* `Binary64.le`, `Binary64.lt`, `Binary64.sub` and `Binary64.mul`.
-/
namespace CommandAdvisor.Number

-- Powers are those of the core library, whatever is imported besides.
attribute [local instance(high)] instPowNat

/-- One is `2 ^ unitPlaces` least units. -/
def unitPlaces : Nat := 1074

/-- The first magnitude above the format, in least units. -/
def limit : Nat := 2 ^ (unitPlaces + 1024)

/-- The binary logarithm of the distance between neighbouring numbers near `n` units:
a number has at most 53 significant binary places. -/
def spacing (n : Nat) : Nat := n.log2 - 52

/-- The whole number nearest to a quotient; a tie goes to the even neighbour. -/
def roundQuotient (num den : Nat) : Nat :=
  let q := num / den
  let twice := 2 * (num % den)
  if twice < den then q else if den < twice then q + 1 else q + q % 2

/-- The number of units, among those with 53 significant places, that is nearest to a
quotient of units. -/
def nearestUnits (num den : Nat) : Nat :=
  let e := spacing (num / den)
  roundQuotient num (den * 2 ^ e) * 2 ^ e

theorem roundQuotient_le (num den : Nat) : roundQuotient num den ≤ num / den + 1 := by
  unfold roundQuotient
  dsimp only
  split
  · omega
  · split <;> omega

theorem lt_two_pow_spacing (n : Nat) : n < 2 ^ (53 + spacing n) := by
  refine Nat.lt_of_lt_of_le Nat.lt_log2_self (Nat.pow_le_pow_right (by decide) ?_)
  unfold spacing
  omega

/-- Rounding stays within the format: the result is a multiple of its own spacing. -/
theorem spacing_dvd_nearestUnits (num den : Nat) :
    2 ^ spacing (nearestUnits num den) ∣ nearestUnits num den := by
  unfold nearestUnits
  dsimp only
  generalize he : spacing (num / den) = e
  have hk : roundQuotient num (den * 2 ^ e) ≤ 2 ^ 53 := by
    refine Nat.le_trans (roundQuotient_le _ _) ?_
    have h := lt_two_pow_spacing (num / den)
    rw [he, Nat.pow_add] at h
    have : num / (den * 2 ^ e) < 2 ^ 53 := by
      rw [← Nat.div_div_eq_div_mul]
      exact (Nat.div_lt_iff_lt_mul (Nat.two_pow_pos e)).2 h
    omega
  generalize roundQuotient num (den * 2 ^ e) = k at hk
  rcases Nat.lt_or_eq_of_le hk with hlt | rfl
  · have hle : spacing (k * 2 ^ e) ≤ e := by
      unfold spacing
      rcases Nat.eq_zero_or_pos k with rfl | hpos
      · simp
      · have hn : k * 2 ^ e ≠ 0 := Nat.ne_of_gt (Nat.mul_pos hpos (Nat.two_pow_pos e))
        have : (k * 2 ^ e).log2 < 53 + e := by
          rw [Nat.log2_lt hn, Nat.pow_add]
          exact Nat.mul_lt_mul_of_pos_right hlt (Nat.two_pow_pos e)
        omega
    exact Nat.dvd_trans (Nat.pow_dvd_pow 2 hle) (Nat.dvd_mul_left _ _)
  · rw [← Nat.pow_add]
    refine Nat.pow_dvd_pow 2 ?_
    unfold spacing
    rw [Nat.log2_two_pow]
    omega

/-- A magnitude of the format, in least units. -/
structure Magnitude where
  units : Nat
  units_lt : units < limit
  spacing_dvd : 2 ^ spacing units ∣ units
  deriving DecidableEq

namespace Magnitude

/-- Nothing. -/
def zero : Magnitude := ⟨0, Nat.two_pow_pos (unitPlaces + 1024), Nat.dvd_zero _⟩

instance : Inhabited Magnitude := ⟨zero⟩

end Magnitude

/-- A number of the format. There is one value that is no number. -/
inductive Binary64 where
  | nan
  | infinite (negative : Bool)
  | finite (negative : Bool) (magnitude : Magnitude)
  deriving DecidableEq, Inhabited

namespace Binary64

/-- The number nearest to `num / den` units with the given sign; an infinity when
that is above the format. -/
def ofUnits (negative : Bool) (num den : Nat) : Binary64 :=
  if h : nearestUnits num den < limit then
    .finite negative ⟨nearestUnits num den, h, spacing_dvd_nearestUnits num den⟩
  else .infinite negative

/-- The number nearest to an integer. -/
def ofInt (n : Int) : Binary64 := ofUnits (n < 0) (n.natAbs * 2 ^ unitPlaces) 1

/-- The number nearest to `digits * 10 ^ exponent` with the given sign. An exponent far
outside the format is settled without writing the power out. -/
def ofScaled (negative : Bool) (digits : Nat) (exponent : Int) : Binary64 :=
  if digits = 0 ∨ (digits.log2 / 3 : Nat) + 1 + exponent ≤ -330 then
    .finite negative .zero
  else if 310 ≤ exponent then .infinite negative
  else ofUnits negative (digits * 10 ^ exponent.toNat * 2 ^ unitPlaces) (10 ^ (-exponent).toNat)

/-- The value of a finite number in least units. -/
def units? : Binary64 → Option Int
  | .finite negative m => some (if negative then -(m.units : Int) else m.units)
  | _ => none

/-- Whether `a` is at most `b`. What is no number compares with nothing. -/
def le : Binary64 → Binary64 → Bool
  | .nan, _ | _, .nan => false
  | .infinite true, _ | _, .infinite false => true
  | .infinite false, _ | _, .infinite true => false
  | .finite sa a, .finite sb b =>
    (if sa then -(a.units : Int) else a.units) ≤ (if sb then -(b.units : Int) else b.units)

/-- Whether `a` is less than `b`. -/
def lt (a b : Binary64) : Bool := le a b && !le b a

/-- The number with the other sign. -/
def neg : Binary64 → Binary64
  | .nan => .nan
  | .infinite negative => .infinite !negative
  | .finite negative m => .finite (!negative) m

/-- The rounded sum. A sum of nothing is negative only when both parts are. -/
def add : Binary64 → Binary64 → Binary64
  | .nan, _ | _, .nan => .nan
  | .infinite sa, .infinite sb => if sa = sb then .infinite sa else .nan
  | .infinite s, _ | _, .infinite s => .infinite s
  | .finite sa a, .finite sb b =>
    let total : Int :=
      (if sa then -(a.units : Int) else a.units) + (if sb then -(b.units : Int) else b.units)
    ofUnits (if total = 0 then sa && sb else total < 0) total.natAbs 1

/-- The rounded difference. -/
def sub (a b : Binary64) : Binary64 := add a (neg b)

/-- The rounded product. -/
def mul : Binary64 → Binary64 → Binary64
  | .nan, _ | _, .nan => .nan
  | .infinite sa, .infinite sb => .infinite (sa != sb)
  | .infinite sa, .finite sb m | .finite sb m, .infinite sa =>
    if m.units = 0 then .nan else .infinite (sa != sb)
  | .finite sa a, .finite sb b => ofUnits (sa != sb) (a.units * b.units) (2 ^ unitPlaces)

/-- Whether the number is neither an infinity nor no number. -/
def isFinite : Binary64 → Bool
  | .finite _ _ => true
  | _ => false

/-- The whole number that a finite number without a fraction is. -/
def wholeValue? : Binary64 → Option Int
  | .finite negative m =>
    if m.units % 2 ^ unitPlaces = 0 then
      let n : Int := (m.units / 2 ^ unitPlaces : Nat)
      some (if negative then -n else n)
    else none
  | _ => none

example : ofScaled false 1 (-1) = ofUnits false (2 ^ unitPlaces) 10 := by decide +kernel

example : (ofInt 3).wholeValue? = some 3 := by decide +kernel

end Binary64

end CommandAdvisor.Number
