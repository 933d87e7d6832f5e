import CommandAdvisor.Number.Decimal
import Mathlib.Algebra.Group.Nat.Defs

/-!
# Quotients that are rounded to a number

A number of the format is what every quotient is rounded to that lies within half a spacing of
it; at exactly half, only if the significand is even. Below a power of two the numbers lie
twice as close.

## Main definitions
* `lowerGap`: twice the distance to the number below.
* `RoundsTo`: a quotient lies where it is rounded to a number.

## Main statements
* `RoundsTo.nearestUnits_eq`: it is rounded to that number.
* `RoundsTo.ofScaled_eq`: and so is a decimal with its value.
-/
namespace CommandAdvisor.Number

-- Powers are those of the core library, whatever is imported besides.
attribute [local instance(high)] instPowNat

/-! ## The nearest whole number -/

/-- A quotient is rounded to a whole number that is at most one half away, to an even one if it
is exactly one half away. -/
theorem roundQuotient_eq {num den k : Nat} (hden : 0 < den)
    (hlow : 2 * (k * den) ≤ 2 * num + den) (hhigh : 2 * num ≤ 2 * (k * den) + den)
    (htie : k % 2 = 0 ∨ 2 * (k * den) < 2 * num + den ∧ 2 * num < 2 * (k * den) + den) :
    roundQuotient num den = k := by
  have hnum := Nat.div_add_mod' num den
  have hrest := Nat.mod_lt num hden
  unfold roundQuotient
  dsimp only
  generalize num / den = q at *
  generalize num % den = r at *
  have hupper : q ≤ k := Nat.le_of_not_lt fun h => by
    have hmul := Nat.mul_le_mul_right den h
    rw [Nat.succ_mul] at hmul
    omega
  have hlower : k ≤ q + 1 := Nat.le_of_not_lt fun h => by
    have hmul := Nat.mul_le_mul_right den h
    rw [Nat.succ_mul, Nat.succ_mul] at hmul
    omega
  obtain rfl | rfl : k = q ∨ k = q + 1 := by omega
  · split
    · rfl
    · split <;> omega
  · rw [Nat.add_mul, Nat.one_mul] at hlow hhigh htie
    split
    · omega
    · split <;> omega

/-- The spacing of a number by its binary places. -/
theorem spacing_eq {n e : Nat} (hlt : n < 2 ^ (53 + e)) (hle : e = 0 ∨ 2 ^ (52 + e) ≤ n) :
    spacing n = e := by
  rw [spacing]
  rcases Nat.eq_zero_or_pos n with rfl | hpos
  · rcases hle with rfl | hle
    · rfl
    · exact absurd hle (Nat.not_le.2 (Nat.two_pow_pos _))
  · have hne : n ≠ 0 := Nat.ne_of_gt hpos
    have hlog : n.log2 < 53 + e := (Nat.log2_lt hne).2 hlt
    rcases hle with rfl | hle
    · omega
    · have hlog' : 52 + e ≤ n.log2 := (Nat.le_log2 hne).2 hle
      omega

/-! ## The numbers of the format -/

/-- Twice the distance between a number and the one below it. -/
def lowerGap (units : Nat) : Nat :=
  if units = 2 ^ units.log2 ∧ 0 < spacing units then 2 ^ spacing units
  else 2 * 2 ^ spacing units

/-- A quotient of units lies where it is rounded to a number: no further than half a spacing
away, and exactly that far only if the significand is even. -/
structure RoundsTo (units num den : Nat) : Prop where
  le_above : 4 * (units * den) ≤ 4 * num + lowerGap units * den
  le_below : 4 * num ≤ 4 * (units * den) + 2 * (2 ^ spacing units * den)
  tie : units / 2 ^ spacing units % 2 = 0 ∨
    4 * (units * den) < 4 * num + lowerGap units * den ∧
      4 * num < 4 * (units * den) + 2 * (2 ^ spacing units * den)

variable {units num den : Nat}

/-- What a number is by its significand: fewer than 54 binary places, and exactly 53 where the
spacing is not that of the least unit. -/
theorem exists_significand (hdvd : 2 ^ spacing units ∣ units) :
    ∃ s, units = s * 2 ^ spacing units ∧ s < 2 ^ 53 ∧ (spacing units = 0 ∨ 2 ^ 52 ≤ s) := by
  obtain ⟨s, hs⟩ := hdvd
  rw [Nat.mul_comm] at hs
  have hpos := Nat.two_pow_pos (spacing units)
  refine ⟨s, hs, ?_, ?_⟩
  · have hlt := lt_two_pow_spacing units
    rw [Nat.pow_add] at hlt
    refine Nat.lt_of_mul_lt_mul_right (a := 2 ^ spacing units) ?_
    omega
  · rcases Nat.eq_zero_or_pos (spacing units) with hzero | hsp
    · exact .inl hzero
    · refine .inr ?_
      have hlog : units.log2 = 52 + spacing units := by
        rw [spacing] at hsp ⊢
        omega
      have hne : units ≠ 0 := by
        rintro rfl
        simp [spacing] at hsp
      have hle : 2 ^ (52 + spacing units) ≤ units := (Nat.le_log2 hne).1 (Nat.le_of_eq hlog.symm)
      rw [Nat.pow_add] at hle
      refine Nat.le_of_mul_le_mul_right (c := 2 ^ spacing units) ?_ hpos
      omega

theorem lowerGap_le (units : Nat) : lowerGap units ≤ 2 * 2 ^ spacing units := by
  rw [lowerGap]
  split <;> omega

/-- Below the least significand the gap is half as wide. -/
theorem lowerGap_eq_of_two_pow (h : 0 < spacing units) (hs : units = 2 ^ 52 * 2 ^ spacing units) :
    lowerGap units = 2 ^ spacing units := by
  have hlog : units.log2 = 52 + spacing units := by
    rw [spacing] at h ⊢
    omega
  rw [lowerGap, hlog, Nat.pow_add, if_pos ⟨hs, h⟩]

theorem nearestUnits_eq_mul {e k : Nat} (hspacing : spacing (num / den) = e)
    (hround : roundQuotient num (den * 2 ^ e) = k) : nearestUnits num den = k * 2 ^ e := by
  rw [nearestUnits, hspacing, hround]

/-- A quotient about a number of the same spacing. -/
theorem nearestUnits_eq_of_le {s e : Nat} (hden : 0 < den) (hs : s < 2 ^ 53)
    (hlow : 4 * (s * (2 ^ e * den)) ≤ 4 * num + 2 * (2 ^ e * den))
    (hhigh : 4 * num ≤ 4 * (s * (2 ^ e * den)) + 2 * (2 ^ e * den))
    (htie : s % 2 = 0 ∨ 4 * (s * (2 ^ e * den)) < 4 * num + 2 * (2 ^ e * den) ∧
      4 * num < 4 * (s * (2 ^ e * den)) + 2 * (2 ^ e * den))
    (hle : e = 0 ∨ 2 ^ 52 * (2 ^ e * den) ≤ num) : nearestUnits num den = s * 2 ^ e := by
  have hpos : 0 < 2 ^ e * den := Nat.mul_pos (Nat.two_pow_pos e) hden
  refine nearestUnits_eq_mul (spacing_eq ?_ ?_) ?_
  · -- The significand and the half behind it stay below the next power of two.
    have hsmall : s * (2 ^ e * den) + 2 ^ e * den ≤ 2 ^ 53 * (2 ^ e * den) := by
      rw [← Nat.succ_mul]
      exact Nat.mul_le_mul_right _ hs
    rw [Nat.div_lt_iff_lt_mul hden, Nat.pow_add, Nat.mul_assoc]
    omega
  · rcases hle with he | hle
    · exact .inl he
    · refine .inr ((Nat.le_div_iff_mul_le hden).2 ?_)
      rw [Nat.pow_add, Nat.mul_assoc]
      exact hle
  · rw [Nat.mul_comm den]
    exact roundQuotient_eq hpos (by omega) (by omega) (by omega)

/-- A quotient right below a power of two: the numbers there lie twice as close. -/
theorem nearestUnits_eq_of_lt {e : Nat} (hden : 0 < den)
    (hlow : 4 * (2 ^ 52 * (2 ^ (e + 1) * den)) ≤ 4 * num + 2 ^ (e + 1) * den)
    (hlt : num < 2 ^ 52 * (2 ^ (e + 1) * den)) : nearestUnits num den = 2 ^ 52 * 2 ^ (e + 1) := by
  have hpos : 0 < 2 ^ e * den := Nat.mul_pos (Nat.two_pow_pos e) hden
  have hdouble : 2 ^ (e + 1) * den = 2 * (2 ^ e * den) := by
    rw [Nat.pow_succ, Nat.mul_comm (2 ^ e), Nat.mul_assoc]
  have hunits : 2 ^ 52 * 2 ^ (e + 1) = 2 ^ 53 * 2 ^ e := by
    rw [← Nat.pow_add, ← Nat.pow_add]
    congr 1
    omega
  rw [hdouble] at hlow hlt
  rw [hunits]
  refine nearestUnits_eq_mul (spacing_eq ?_ ?_) ?_
  · rw [Nat.div_lt_iff_lt_mul hden, Nat.pow_add, Nat.mul_assoc]
    omega
  · refine .inr ((Nat.le_div_iff_mul_le hden).2 ?_)
    rw [Nat.pow_add, Nat.mul_assoc]
    omega
  · rw [Nat.mul_comm den]
    exact roundQuotient_eq hpos (by omega) (by omega) (.inl rfl)

namespace RoundsTo

/-- **A quotient that lies where it is rounded to a number is rounded to it.** -/
theorem nearestUnits_eq (h : RoundsTo units num den) (hden : 0 < den)
    (hdvd : 2 ^ spacing units ∣ units) : nearestUnits num den = units := by
  obtain ⟨s, hs, hlt, hleast⟩ := exists_significand hdvd
  have hquotient : units / 2 ^ spacing units = s :=
    Nat.div_eq_of_eq_mul_left (Nat.two_pow_pos _) hs
  obtain ⟨hlow, hhigh, htie⟩ := h
  have hunits : units * den = s * (2 ^ spacing units * den) := by
    rw [← Nat.mul_assoc, ← hs]
  rw [hunits] at hlow hhigh htie
  rw [hquotient] at htie
  have hgap : lowerGap units * den ≤ 2 * (2 ^ spacing units * den) := by
    rw [← Nat.mul_assoc]
    exact Nat.mul_le_mul_right den (lowerGap_le units)
  have hpos : 0 < 2 ^ spacing units * den := Nat.mul_pos (Nat.two_pow_pos _) hden
  by_cases hle : spacing units = 0 ∨ 2 ^ 52 * (2 ^ spacing units * den) ≤ num
  · rw [nearestUnits_eq_of_le hden hlt (by omega) hhigh (by omega) hle, ← hs]
  · rw [not_or, Nat.not_le] at hle
    obtain ⟨hsp, hless⟩ := hle
    -- Only the least significand has quotients below it with fewer places.
    have hs52 : s = 2 ^ 52 := by
      refine Nat.le_antisymm (Nat.le_of_not_lt fun hmore => ?_) (hleast.resolve_left hsp)
      have hmul := Nat.mul_le_mul_right (2 ^ spacing units * den) hmore
      rw [Nat.succ_mul] at hmul
      omega
    rw [hs52] at hs hlow
    rw [lowerGap_eq_of_two_pow (Nat.pos_of_ne_zero hsp) hs] at hlow
    obtain ⟨e, he⟩ := Nat.exists_eq_succ_of_ne_zero hsp
    rw [he] at hs hlow hless
    rw [nearestUnits_eq_of_lt hden hlow hless, ← hs]

/-- Where a quotient lies is a matter of its value. -/
theorem of_eq {num' den' : Nat} (h : RoundsTo units num den) (hden : 0 < den) (hden' : 0 < den')
    (heq : num * den' = num' * den) : RoundsTo units num' den' := by
  obtain ⟨hlow, hhigh, htie⟩ := h
  have hunits : 4 * (units * den) * den' = 4 * (units * den') * den := by ac_rfl
  have hnum : 4 * num * den' = 4 * num' * den := by
    rw [Nat.mul_assoc, heq, ← Nat.mul_assoc]
  have hbelow : lowerGap units * den * den' = lowerGap units * den' * den := by ac_rfl
  have habove : 2 * (2 ^ spacing units * den) * den' = 2 * (2 ^ spacing units * den') * den := by
    ac_rfl
  refine ⟨?_, ?_, htie.imp_right fun ⟨hlow', hhigh'⟩ => ⟨?_, ?_⟩⟩
  · have hmul := Nat.mul_le_mul_right den' hlow
    rw [Nat.add_mul, hunits, hnum, hbelow, ← Nat.add_mul] at hmul
    exact Nat.le_of_mul_le_mul_right hmul hden
  · have hmul := Nat.mul_le_mul_right den' hhigh
    rw [Nat.add_mul, hunits, hnum, habove, ← Nat.add_mul] at hmul
    exact Nat.le_of_mul_le_mul_right hmul hden
  · have hmul := Nat.mul_lt_mul_of_pos_right hlow' hden'
    rw [Nat.add_mul, hunits, hnum, hbelow, ← Nat.add_mul] at hmul
    exact Nat.lt_of_mul_lt_mul_right hmul
  · have hmul := Nat.mul_lt_mul_of_pos_right hhigh' hden'
    rw [Nat.add_mul, hunits, hnum, habove, ← Nat.add_mul] at hmul
    exact Nat.lt_of_mul_lt_mul_right hmul

/-- A quotient that is rounded to a number that is not zero is at least half a unit. -/
theorem le_two_mul (h : RoundsTo units num den) (hpos : 0 < units)
    (hdvd : 2 ^ spacing units ∣ units) : den ≤ 2 * num := by
  have hgap : lowerGap units * den ≤ 2 * (units * den) := by
    rw [← Nat.mul_assoc]
    refine Nat.mul_le_mul_right den (Nat.le_trans (lowerGap_le units) ?_)
    exact Nat.mul_le_mul_left 2 (Nat.le_of_dvd hpos hdvd)
  have hone : den ≤ units * den := Nat.le_mul_of_pos_left den hpos
  have hlow := h.le_above
  omega

/-- A quotient that is rounded to a number is at most twice as large. -/
theorem le_mul (h : RoundsTo units num den) (hpos : 0 < units)
    (hdvd : 2 ^ spacing units ∣ units) : num ≤ 2 * (units * den) := by
  have hgap : 2 ^ spacing units * den ≤ units * den :=
    Nat.mul_le_mul_right den (Nat.le_of_dvd hpos hdvd)
  have hhigh := h.le_below
  omega

end RoundsTo

/-! ## Decimals -/

theorem lt_ten_pow (n : Nat) : n < 10 ^ (n.log2 / 3 + 1) :=
  calc n < 2 ^ (n.log2 + 1) := Nat.lt_log2_self
    _ ≤ 2 ^ (3 * (n.log2 / 3 + 1)) := Nat.pow_le_pow_right (by decide) (by omega)
    _ = 8 ^ (n.log2 / 3 + 1) := Nat.pow_mul 2 3 _
    _ ≤ 10 ^ (n.log2 / 3 + 1) := Nat.pow_le_pow_left (by decide) _

/-- Half a unit is more than the greatest decimal that counts as nothing. -/
theorem two_mul_two_pow_le : 2 * 2 ^ unitPlaces ≤ 10 ^ 330 := by decide +kernel

/-- Decimals that count as infinite are above the format. -/
theorem two_mul_limit_le {n : Nat} (h : 310 ≤ n) : 2 * limit ≤ 10 ^ n * 2 ^ unitPlaces :=
  Nat.le_trans (by decide +kernel)
    (Nat.mul_le_mul_right _ (Nat.pow_le_pow_right (by decide : 0 < 10) h))

namespace Decimal

theorem den_inUnits_pos (digits : Nat) (exponent : Int) : 0 < (inUnits digits exponent).2 :=
  Nat.pow_pos (by decide)

/-- Zeros at the end of the digits may be made up for in the exponent. -/
theorem inUnits_shift (digits k : Nat) (exponent : Int) :
    (inUnits digits exponent).1 * (inUnits (digits * 10 ^ k) (exponent - k)).2 =
      (inUnits (digits * 10 ^ k) (exponent - k)).1 * (inUnits digits exponent).2 := by
  have hpow : 10 ^ exponent.toNat * 10 ^ (-(exponent - k)).toNat =
      10 ^ k * (10 ^ (exponent - k).toNat * 10 ^ (-exponent).toNat) := by
    rw [← Nat.pow_add, ← Nat.pow_add, ← Nat.pow_add]
    congr 1
    omega
  unfold inUnits
  dsimp only
  generalize 2 ^ unitPlaces = t
  have hleft : digits * 10 ^ exponent.toNat * t * 10 ^ (-(exponent - k)).toNat =
      digits * t * (10 ^ exponent.toNat * 10 ^ (-(exponent - k)).toNat) := by ac_rfl
  have hright : digits * 10 ^ k * 10 ^ (exponent - k).toNat * t * 10 ^ (-exponent).toNat =
      digits * t * (10 ^ k * (10 ^ (exponent - k).toNat * 10 ^ (-exponent).toNat)) := by ac_rfl
  rw [hleft, hright, hpow]

end Decimal

/-- A decimal lies where it is rounded to a number. -/
def Decimal.ReadsAs (units : Nat) (d : Decimal) : Prop :=
  RoundsTo units (inUnits d.digits d.exponent).1 (inUnits d.digits d.exponent).2

namespace Decimal.ReadsAs

variable {d : Decimal}

theorem shift (h : ReadsAs units d) (k : Nat) : ReadsAs units ⟨d.digits * 10 ^ k, d.exponent - k⟩ :=
  h.of_eq (den_inUnits_pos _ _) (den_inUnits_pos _ _) (inUnits_shift _ _ _)

theorem of_shift {digits k : Nat} {exponent : Int}
    (h : ReadsAs units ⟨digits * 10 ^ k, exponent - k⟩) : ReadsAs units ⟨digits, exponent⟩ :=
  h.of_eq (den_inUnits_pos _ _) (den_inUnits_pos _ _) (inUnits_shift _ _ _).symm

theorem digits_pos (h : ReadsAs units d) (hpos : 0 < units) (hdvd : 2 ^ spacing units ∣ units) :
    0 < d.digits := by
  obtain ⟨digits, exponent⟩ := d
  refine Nat.pos_of_ne_zero ?_
  rintro rfl
  have hleast := h.le_two_mul hpos hdvd
  have hden := den_inUnits_pos 0 exponent
  simp only [inUnits, Nat.zero_mul] at hleast hden
  omega

/-- **A decimal that lies where it is rounded to a number is read as it.** -/
theorem ofScaled_eq {m : Magnitude} (h : ReadsAs m.units d) (hpos : 0 < m.units)
    (negative : Bool) : .ofScaled negative d.digits d.exponent = Binary64.finite negative m := by
  have hdigits := Nat.ne_of_gt (h.digits_pos hpos m.spacing_dvd)
  obtain ⟨digits, exponent⟩ := d
  have hleast := h.le_two_mul hpos m.spacing_dvd
  have hgreatest := h.le_mul hpos m.spacing_dvd
  have hsmall : ¬((digits.log2 / 3 : Nat) + 1 + exponent ≤ -330) := by
    intro hfar
    have hzero : exponent.toNat = 0 := by omega
    have hplaces : 330 + (digits.log2 / 3 + 1) ≤ (-exponent).toNat := by omega
    have hpow := Nat.pow_le_pow_right (by decide : 0 < 10) hplaces
    have hfew := lt_ten_pow digits
    simp only [inUnits, hzero, Nat.pow_zero, Nat.mul_one] at hleast
    refine Nat.lt_irrefl (10 ^ (-exponent).toNat) ?_
    calc 10 ^ (-exponent).toNat ≤ 2 * (digits * 2 ^ unitPlaces) := hleast
      _ = 2 * 2 ^ unitPlaces * digits := by rw [Nat.mul_comm digits, Nat.mul_assoc]
      _ < 2 * 2 ^ unitPlaces * 10 ^ (digits.log2 / 3 + 1) :=
        Nat.mul_lt_mul_of_pos_left hfew (Nat.mul_pos Nat.zero_lt_two (Nat.two_pow_pos unitPlaces))
      _ ≤ 10 ^ 330 * 10 ^ (digits.log2 / 3 + 1) := Nat.mul_le_mul_right _ two_mul_two_pow_le
      _ = 10 ^ (330 + (digits.log2 / 3 + 1)) := by rw [Nat.pow_add 10 330]
      _ ≤ 10 ^ (-exponent).toNat := hpow
  have hlarge : ¬310 ≤ exponent := by
    intro hfar
    have hzero : (-exponent).toNat = 0 := by omega
    have hplaces : 310 ≤ exponent.toNat := by omega
    simp only [inUnits, hzero, Nat.pow_zero, Nat.mul_one] at hgreatest
    refine Nat.lt_irrefl (2 * limit) ?_
    calc 2 * limit ≤ 10 ^ exponent.toNat * 2 ^ unitPlaces := two_mul_limit_le hplaces
      _ ≤ digits * 10 ^ exponent.toNat * 2 ^ unitPlaces :=
        Nat.mul_le_mul_right _ (Nat.le_mul_of_pos_left _ (Nat.pos_of_ne_zero hdigits))
      _ ≤ 2 * m.units := hgreatest
      _ < 2 * limit := Nat.mul_lt_mul_of_pos_left m.units_lt Nat.zero_lt_two
  have hnearest := h.nearestUnits_eq (den_inUnits_pos _ _) m.spacing_dvd
  rw [Binary64.ofScaled, if_neg (not_or.2 ⟨hdigits, hsmall⟩), if_neg hlarge, Binary64.ofUnits]
  have hnearest : nearestUnits (digits * 10 ^ exponent.toNat * 2 ^ unitPlaces)
      (10 ^ (-exponent).toNat) = m.units := hnearest
  simp only [hnearest, dif_pos m.units_lt]

end Decimal.ReadsAs

end CommandAdvisor.Number
