import CommandAdvisor.Proofs.Number.Rounding

/-!
# The shortest decimal is read back

A decimal is searched for on ever finer grids until one is found that is read back. On the grid
of the seventeenth digit there is always one: its decimals lie closer than the numbers of the
format. So the search never fails, and what it finds is read as the number that it was
searched for.

## Main statements
* `Decimal.le_of_leadingPlace`: a number has the place that was found for its leading digit.
* `Decimal.exists_onGrid?`: seventeen digits always do.
* `Decimal.readsAs_shortest`: the decimal that is found is read back.
-/
namespace CommandAdvisor.Number

-- Powers are those of the core library, whatever is imported besides.
attribute [local instance(high)] instPowNat

namespace Decimal

variable {units digits : Nat} {exponent : Int}

/-! ## Decimals that are read back -/

theorem lowerGap_eq_ite (units : Nat) :
    (if units == 2 ^ units.log2 && 0 < spacing units then 2 ^ spacing units
      else 2 * 2 ^ spacing units) = lowerGap units := by
  simp only [lowerGap, Bool.and_eq_true, beq_iff_eq, decide_eq_true_eq]

/-- What the search checks of a decimal is that it lies where it is rounded to the number. -/
theorem readsBack_iff (hpos : 0 < units) (hdvd : 2 ^ spacing units ∣ units) :
    readsBack units digits exponent = true ↔ ReadsAs units ⟨digits, exponent⟩ := by
  have hgap : lowerGap units ≤ 2 * units :=
    Nat.le_trans (lowerGap_le units) (Nat.mul_le_mul_left 2 (Nat.le_of_dvd hpos hdvd))
  have hden := den_inUnits_pos digits exponent
  unfold readsBack ReadsAs
  generalize inUnits digits exponent = value at hden ⊢
  obtain ⟨num, den⟩ := value
  dsimp only at hden ⊢
  rw [lowerGap_eq_ite]
  have hlower : lowerGap units * den ≤ 2 * (units * den) := by
    rw [← Nat.mul_assoc]
    exact Nat.mul_le_mul_right den hgap
  have hone : 0 < units * den := Nat.mul_pos hpos hden
  have hlow : (4 * units - lowerGap units) * den = 4 * (units * den) - lowerGap units * den := by
    rw [Nat.sub_mul, Nat.mul_assoc]
  have hhigh : (4 * units + 2 * 2 ^ spacing units) * den =
      4 * (units * den) + 2 * (2 ^ spacing units * den) := by
    rw [Nat.add_mul, Nat.mul_assoc, Nat.mul_assoc]
  rw [hlow, hhigh]
  constructor
  · intro h
    split at h
    · next heven =>
      simp only [Bool.and_eq_true, decide_eq_true_eq] at h
      exact ⟨by omega, h.2, .inl (beq_iff_eq.1 heven)⟩
    · simp only [Bool.and_eq_true, decide_eq_true_eq] at h
      exact ⟨by omega, by omega, .inr ⟨by omega, h.2⟩⟩
  · rintro ⟨hle, hle', htie⟩
    split
    · simp only [Bool.and_eq_true, decide_eq_true_eq]
      exact ⟨by omega, hle'⟩
    · next hodd =>
      rw [beq_iff_eq] at hodd
      obtain ⟨hlt, hlt'⟩ := htie.resolve_left hodd
      simp only [Bool.and_eq_true, decide_eq_true_eq]
      exact ⟨by omega, hlt'⟩

theorem readsAs_of_onGrid? {d : Decimal} (hpos : 0 < units) (hdvd : 2 ^ spacing units ∣ units)
    (h : onGrid? units exponent = some d) : ReadsAs units d := by
  unfold onGrid? at h
  dsimp only at h
  generalize roundQuotient _ _ = nearer at h
  generalize (if nearer = _ then _ else _ : Nat) = other at h
  split at h
  · next hback =>
    obtain rfl := Option.some.inj h
    exact (readsBack_iff hpos hdvd).1 hback
  · split at h
    · next hback =>
      obtain rfl := Option.some.inj h
      exact (readsBack_iff hpos hdvd).1 hback
    · cases h

/-! ## The place of the leading digit -/

/-- Ten is less than the 59th root of `2 ^ 196`. -/
theorem ten_pow_le_two_pow {q x : Nat} (h : 196 * q ≤ 59 * x) : 10 ^ q ≤ 2 ^ x := by
  refine (Nat.pow_le_pow_iff_left (by decide : 59 ≠ 0)).1 ?_
  calc (10 ^ q) ^ 59 = (10 ^ 59) ^ q := Nat.pow_right_comm 10 q 59
    _ ≤ (2 ^ 196) ^ q := Nat.pow_le_pow_left (by decide) q
    _ = 2 ^ (196 * q) := (Nat.pow_mul 2 196 q).symm
    _ ≤ 2 ^ (x * 59) := Nat.pow_le_pow_right (by decide) (by omega)
    _ = (2 ^ x) ^ 59 := Nat.pow_mul 2 x 59

/-- Ten is more than the 28th root of `2 ^ 93`. -/
theorem two_pow_le_ten_pow {x q : Nat} (h : 28 * x ≤ 93 * q) : 2 ^ x ≤ 10 ^ q := by
  refine (Nat.pow_le_pow_iff_left (by decide : 93 ≠ 0)).1 ?_
  calc (2 ^ x) ^ 93 = (2 ^ 93) ^ x := Nat.pow_right_comm 2 x 93
    _ ≤ (10 ^ 28) ^ x := Nat.pow_le_pow_left (by decide) x
    _ = 10 ^ (28 * x) := (Nat.pow_mul 10 28 x).symm
    _ ≤ 10 ^ (q * 93) := Nat.pow_le_pow_right (by decide) (by omega)
    _ = (10 ^ q) ^ 93 := Nat.pow_mul 10 q 93

/-- The place that is guessed first from the binary places is one too high at most. -/
theorem inUnits_guess_le {log : Nat} (h : log < unitPlaces + 1024) :
    (inUnits 1 (((log : Int) - unitPlaces) * 30103 / 100000 + 1 - 1 - 1)).1 ≤
      2 ^ log * (inUnits 1 (((log : Int) - unitPlaces) * 30103 / 100000 + 1 - 1 - 1)).2 := by
  have hplaces : unitPlaces = 1074 := rfl
  generalize hguess : ((log : Int) - unitPlaces) * 30103 / 100000 + 1 - 1 - 1 = guess
  unfold inUnits
  dsimp only
  rw [Nat.one_mul]
  rcases Int.lt_or_le guess 0 with hneg | hpos
  · have hzero : guess.toNat = 0 := by omega
    rw [hzero, Nat.pow_zero, Nat.one_mul]
    calc 2 ^ unitPlaces ≤ 2 ^ (log + (unitPlaces - log)) :=
        Nat.pow_le_pow_right (by decide) (by omega)
      _ = 2 ^ log * 2 ^ (unitPlaces - log) := Nat.pow_add 2 log _
      _ ≤ 2 ^ log * 10 ^ (-guess).toNat :=
        Nat.mul_le_mul_left _ (two_pow_le_ten_pow (by omega))
  · have hzero : (-guess).toNat = 0 := by omega
    rw [hzero, Nat.pow_zero, Nat.mul_one]
    calc 10 ^ guess.toNat * 2 ^ unitPlaces ≤ 2 ^ (log - unitPlaces) * 2 ^ unitPlaces :=
        Nat.mul_le_mul_right _ (ten_pow_le_two_pow (by omega))
      _ = 2 ^ (log - unitPlaces + unitPlaces) := (Nat.pow_add 2 _ _).symm
      _ = 2 ^ log := by rw [Nat.sub_add_cancel (by omega)]

/-- A number has the place that was found for its leading digit, or more. -/
theorem le_of_leadingPlace (hpos : 0 < units) (hlimit : units < limit) :
    (inUnits 1 (leadingPlace units - 1)).1 ≤ units * (inUnits 1 (leadingPlace units - 1)).2 := by
  have hne : units ≠ 0 := Nat.ne_of_gt hpos
  unfold leadingPlace
  dsimp only
  split
  · have hlog : units.log2 < unitPlaces + 1024 := (Nat.log2_lt hne).2 hlimit
    exact Nat.le_trans (inUnits_guess_le hlog)
      (Nat.mul_le_mul_right _ (Nat.log2_self_le hne))
  · next hless =>
    split
    · simpa using hless
    · next hless' => simpa using hless'

/-! ## Seventeen digits -/

theorem inUnits_mul (a digits : Nat) (exponent : Int) :
    inUnits (a * digits) exponent = (a * (inUnits digits exponent).1, (inUnits digits exponent).2) := by
  unfold inUnits
  simp only [Nat.mul_assoc]

/-- The nearest whole number is at most one half away. -/
theorem roundQuotient_spec (num : Nat) {den : Nat} (hden : 0 < den) :
    2 * (roundQuotient num den * den) ≤ 2 * num + den ∧
      2 * num ≤ 2 * (roundQuotient num den * den) + den := by
  have hnum := Nat.div_add_mod' num den
  have hrest := Nat.mod_lt num hden
  unfold roundQuotient
  dsimp only
  generalize num / den = q at *
  generalize num % den = r at *
  split
  · omega
  · split
    · rw [Nat.add_mul, Nat.one_mul]
      omega
    · rcases Nat.mod_two_eq_zero_or_one q with h | h <;> rw [h, Nat.add_mul] <;> omega

/-- The decimals of seventeen digits lie closer than the numbers of the format. -/
theorem two_mul_lt_lowerGap {num den : Nat} (hden : 0 < den) (hdvd : 2 ^ spacing units ∣ units)
    (h : 10 ^ 16 * num ≤ units * den) : 2 * num < lowerGap units * den := by
  obtain ⟨s, hs, hlt, -⟩ := exists_significand hdvd
  have hpos : 0 < 2 ^ spacing units * den := Nat.mul_pos (Nat.two_pow_pos _) hden
  rw [lowerGap]
  split
  · next hpower =>
    have hlog : units.log2 = 52 + spacing units := by
      have hsp := hpower.2
      rw [spacing] at hsp ⊢
      omega
    have hleast : units = 2 ^ 52 * 2 ^ spacing units :=
      calc units = 2 ^ units.log2 := hpower.1
        _ = 2 ^ 52 * 2 ^ spacing units := by rw [hlog, Nat.pow_add]
    have hunits : units * den = 2 ^ 52 * (2 ^ spacing units * den) := by
      rw [← Nat.mul_assoc, ← hleast]
    rw [hunits] at h
    omega
  · have hunits : units * den = s * (2 ^ spacing units * den) := by
      rw [← Nat.mul_assoc, ← hs]
    have hmul := Nat.mul_lt_mul_of_pos_right hlt hpos
    rw [hunits] at h
    rw [Nat.mul_assoc]
    omega

/-- A grid that is finer than the numbers of the format has a decimal that is read back. -/
theorem readsAs_roundQuotient (hgrid : 0 < (inUnits 1 exponent).1)
    (h : 2 * (inUnits 1 exponent).1 < lowerGap units * (inUnits 1 exponent).2) :
    ReadsAs units
      ⟨roundQuotient (units * (inUnits 1 exponent).2) (inUnits 1 exponent).1, exponent⟩ := by
  have hvalue := inUnits_mul
    (roundQuotient (units * (inUnits 1 exponent).2) (inUnits 1 exponent).1) 1 exponent
  rw [Nat.mul_one] at hvalue
  rw [ReadsAs, hvalue]
  generalize inUnits 1 exponent = value at hgrid h ⊢
  obtain ⟨num, den⟩ := value
  dsimp only at hgrid h ⊢
  obtain ⟨hle, hle'⟩ := roundQuotient_spec (units * den) hgrid
  have hgap := Nat.mul_le_mul_right den (lowerGap_le units)
  rw [Nat.mul_assoc] at hgap
  exact ⟨by omega, by omega, .inr ⟨by omega, by omega⟩⟩

/-- **On the grid of the seventeenth digit there is always a decimal that is read back.** -/
theorem exists_onGrid? (hpos : 0 < units) (hlimit : units < limit)
    (hdvd : 2 ^ spacing units ∣ units) :
    ∃ d, onGrid? units (leadingPlace units - (16 + 1 : Nat)) = some d := by
  have hleading := le_of_leadingPlace hpos hlimit
  generalize leadingPlace units = place at hleading ⊢
  -- The grid is by sixteen places finer than the place of the leading digit.
  have hshift := inUnits_shift 1 16 (place - 1)
  have hexponent : place - 1 - (16 : Nat) = place - (16 + 1 : Nat) := by omega
  rw [hexponent, Nat.one_mul, ← Nat.mul_one (10 ^ 16), inUnits_mul] at hshift
  generalize place - (16 + 1 : Nat) = exponent at hshift ⊢
  have hgrid : 0 < (inUnits 1 exponent).1 :=
    Nat.mul_pos (Nat.mul_pos Nat.one_pos (Nat.pow_pos (by decide))) (Nat.two_pow_pos unitPlaces)
  have hfine : 10 ^ 16 * (inUnits 1 exponent).1 ≤ units * (inUnits 1 exponent).2 := by
    refine Nat.le_of_mul_le_mul_right ?_ (den_inUnits_pos 1 (place - 1))
    rw [← hshift, Nat.mul_right_comm]
    exact Nat.mul_le_mul_right _ hleading
  have hback := (readsBack_iff hpos hdvd).2
    (readsAs_roundQuotient hgrid (two_mul_lt_lowerGap (den_inUnits_pos 1 exponent) hdvd hfine))
  refine ⟨⟨roundQuotient (units * (inUnits 1 exponent).2) (inUnits 1 exponent).1, exponent⟩, ?_⟩
  unfold onGrid?
  dsimp only
  rw [if_pos hback]

theorem readsAs_dropZeros {d : Decimal} (count : Nat) (h : ReadsAs units d) :
    ReadsAs units (dropZeros count d) := by
  induction count generalizing d with
  | zero => exact h
  | succ count ih =>
    rw [dropZeros]
    split
    · next hzero =>
      refine ih (ReadsAs.of_shift (k := 1) ?_)
      have hdigits : d.digits / 10 * 10 ^ 1 = d.digits := by omega
      have hexponent : d.exponent + 1 - (1 : Nat) = d.exponent := by omega
      rw [hdigits, hexponent]
      exact h
    · exact h

/-- **The shortest decimal is read back.** -/
theorem readsAs_shortest (hpos : 0 < units) (hlimit : units < limit)
    (hdvd : 2 ^ spacing units ∣ units) : ReadsAs units (shortest units) := by
  unfold shortest
  dsimp only
  split
  · next d hd =>
    obtain ⟨k, -, hgrid⟩ := List.exists_of_findSome?_eq_some hd
    exact readsAs_dropZeros 17 (readsAs_of_onGrid? hpos hdvd hgrid)
  · next hnone =>
    obtain ⟨d, hd⟩ := exists_onGrid? hpos hlimit hdvd
    have hmissed := List.findSome?_eq_none_iff.1 hnone 16 (by decide)
    cases hd.symm.trans hmissed

end Decimal

end CommandAdvisor.Number
