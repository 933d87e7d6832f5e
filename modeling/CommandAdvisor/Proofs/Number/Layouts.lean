import CommandAdvisor.Proofs.Number.Numerals
import CommandAdvisor.Proofs.Number.Shortest

/-!
# Written numbers are read back

However the digits of a decimal are laid out, with zeros in front or behind, with a point among
them or with an exponent, the grammar of numerals finds a numeral of the same value in them. So
a number that is written is read as that number.

## Main definitions
* `Numeral.StandsFor`: a numeral has the sign and the value of a decimal.

## Main statements
* `Layout.exists_match?_writeDecimal`: the numeral in a decimal that was laid out.
* `Layout.exists_match?_write`: a number that was written is read back.
-/
namespace CommandAdvisor.Number

-- Powers are those of the core library, whatever is imported besides.
attribute [local instance(high)] instPowNat

/-- A numeral with a fraction or an exponent has a sign and the value of a decimal; its digits
may be followed by more zeros. -/
structure Numeral.StandsFor (n : Numeral) (negative : Bool) (d : Decimal) : Prop where
  negative : n.negative = negative
  isWhole : n.isWhole = false
  value : ∃ k : Nat, n.significand = d.digits * 10 ^ k ∧ n.exponent = d.exponent - k

theorem Numeral.StandsFor.toBinary64_eq {n : Numeral} {negative : Bool} {d : Decimal}
    {m : Magnitude} (h : n.StandsFor negative d) (hd : d.ReadsAs m.units) (hpos : 0 < m.units) :
    n.toBinary64 = .finite negative m := by
  obtain ⟨k, hsignificand, hexponent⟩ := h.value
  rw [Numeral.toBinary64, h.negative, hsignificand, hexponent]
  exact (hd.shift k).ofScaled_eq hpos negative

/-! ## Exponents -/

theorem isDigit_of_mem_padded {width n : Nat} : ∀ l ∈ Layout.padded width n, isDigit l = true := by
  intro l hl
  rcases List.mem_append.1 hl with h | h
  · exact isDigit_of_mem_repeated l h
  · exact isDigit_of_mem_ofNat l h

theorem natOfDigits_padded (width n : Nat) : natOfDigits 0 (Layout.padded width n) = n := by
  rw [Layout.padded, natOfDigits_append, natOfDigits_repeated, Nat.mul_zero, natOfDigits_ofNat]

theorem padded_ne_nil (width n : Nat) : Layout.padded width n ≠ [] :=
  List.append_ne_nil_of_right_ne_nil _ (ofNat_ne_nil n)

theorem sign_of_digits {digits : Text} (h : ∀ l ∈ digits, isDigit l = true) :
    (match ("" ++ digits : Text) with
    | .char '-' :: tail => (true, tail)
    | .char '+' :: tail => (false, tail)
    | _ => (false, "" ++ digits)) = (false, digits) := by
  have hdigits : ("" ++ digits : Text) = digits := rfl
  split
  · next tail heq =>
    exact absurd (h _ (hdigits ▸ heq ▸ List.mem_cons_self)) (by decide)
  · next tail heq =>
    exact absurd (h _ (hdigits ▸ heq ▸ List.mem_cons_self)) (by decide)
  · rfl

/-- An exponent is read by its digits and the sign in front of them. -/
theorem exponent?_of_digits (negative : Bool) {s digits : Text}
    (hsign : (match s with
      | .char '-' :: tail => (true, tail)
      | .char '+' :: tail => (false, tail)
      | _ => (false, s)) = (negative, digits))
    (hdigits : ∀ l ∈ digits, isDigit l = true) (hne : digits ≠ []) :
    exponent? (.char 'e' :: s) =
      some ((if negative then -(natOfDigits 0 digits : Int) else natOfDigits 0 digits), []) := by
  have hspan : spanDigits digits = (digits, []) := by
    have h : spanDigits (digits ++ []) = (digits, []) := spanDigits_append hdigits (by simp)
    rwa [List.append_nil] at h
  have he : Letter.char 'e' = .char 'e' ∨ Letter.char 'e' = .char 'E' := .inl rfl
  have hcut := (congrArg (fun cut => spanDigits cut.2) hsign).trans hspan
  have hnegative := congrArg Prod.fst hsign
  unfold exponent?
  dsimp only
  rw [if_pos he]
  split
  · next tail heq => exact absurd (Prod.mk.inj (hcut.symm.trans heq)).1 hne
  · next ds tail hno heq =>
    obtain ⟨rfl, rfl⟩ := Prod.mk.inj (hcut.symm.trans heq)
    exact congrArg (fun negative : Bool => some
      ((if negative then -(natOfDigits 0 digits : Int) else natOfDigits 0 digits), [])) hnegative

/-- An exponent that was written is read back. -/
theorem exponent?_padded (plus : Bool) (width : Nat) (x : Int) :
    exponent? (.char 'e' ::
      ((if x < 0 then "-" else if plus then "+" else "" : Text) ++ Layout.padded width x.natAbs)) =
        some (x, []) := by
  have hdigits : ∀ l ∈ Layout.padded width x.natAbs, isDigit l = true := isDigit_of_mem_padded
  have hne := padded_ne_nil width x.natAbs
  have hvalue := natOfDigits_padded width x.natAbs
  generalize Layout.padded width x.natAbs = digits at hdigits hne hvalue ⊢
  split
  · next hneg =>
    have hx : -(x.natAbs : Int) = x := by omega
    rw [exponent?_of_digits true rfl hdigits hne, hvalue, if_pos rfl, hx]
  · next hpos =>
    have hx : (x.natAbs : Int) = x := by omega
    cases plus with
    | true =>
      rw [exponent?_of_digits false rfl hdigits hne, hvalue, if_neg (by decide), hx]
    | false =>
      have hread := exponent?_of_digits false (sign_of_digits hdigits) hdigits hne
      rw [hvalue, if_neg (by decide), hx] at hread
      exact hread

/-! ## Layouts -/

theorem head?_ofNat_ne {n : Nat} (h : 0 < n) : (Text.ofNat n).head? ≠ some (.char '0') := by
  intro hzero
  have hvalue := natOfDigits_ofNat n
  rw [(isWholePart_ofNat n).zero hzero] at hvalue
  exact Nat.ne_of_lt h hvalue

/-- Digits that do not start with a zero may stand in front of the point. -/
theorem isWholePart_of_head?_ne {s : Text} (hdigits : ∀ l ∈ s, isDigit l = true) (hne : s ≠ [])
    (hhead : s.head? ≠ some (.char '0')) : IsWholePart s :=
  ⟨hdigits, hne, fun h => absurd h hhead⟩

namespace Layout

variable {d : Decimal}

/-- A numeral in a text that has the value of a decimal, with not too many digits in front of
the point. -/
def Reads (most : Nat) (negative : Bool) (d : Decimal) (s : Text) : Prop :=
  ∃ n : Numeral, Numeral.match? (signed negative s) = some (n, []) ∧ n.StandsFor negative d ∧
    n.wholeLength ≤ most

/-- Digits behind a point and a zero. -/
theorem reads_small (negative : Bool) {count : Nat}
    (hplace : ((Text.ofNat d.digits).length : Int) + d.exponent = -count) :
    Reads 1 negative d ("0." ++ Text.repeated count '0' ++ Text.ofNat d.digits) := by
  have hfraction : ∀ l ∈ Text.repeated count '0' ++ Text.ofNat d.digits, isDigit l = true := by
    intro l hl
    rcases List.mem_append.1 hl with h | h
    · exact isDigit_of_mem_repeated l h
    · exact isDigit_of_mem_ofNat l h
  have hpointed : pointed (Text.repeated count '0' ++ Text.ofNat d.digits) =
      .char '.' :: (Text.repeated count '0' ++ Text.ofNat d.digits) := by
    rw [pointed, if_neg]
    simp [ofNat_ne_nil]
  have hread := Numeral.match?_signed negative _ [] (isWholePart_ofNat 0) hfraction (by simp)
  rw [hpointed, List.append_nil] at hread
  refine ⟨_, hread, ⟨rfl, ?_, 0, ?_, ?_⟩, Nat.le_refl 1⟩
  · simp [ofNat_ne_nil]
  · rw [natOfDigits_append, natOfDigits_ofNat, natOfDigits_repeated, Nat.mul_zero,
      natOfDigits_ofNat, Nat.pow_zero, Nat.mul_one]
  · have hlength : (Text.repeated count '0').length = count := List.length_replicate
    dsimp only
    rw [List.length_append, hlength]
    omega

/-- The first of the digits in front of the point and the others behind it. -/
theorem isWholePart_take {count : Nat} (hd : 0 < d.digits) (hcount : 0 < count) :
    IsWholePart ((Text.ofNat d.digits).take count) := by
  obtain ⟨l, ls, hls⟩ := List.exists_cons_of_ne_nil (ofNat_ne_nil d.digits)
  have hhead := head?_ofNat_ne hd
  obtain ⟨rest, rfl⟩ := Nat.exists_eq_succ_of_ne_zero (Nat.ne_of_gt hcount)
  refine isWholePart_of_head?_ne ?_ ?_ ?_
  · exact fun l hl => isDigit_of_mem_ofNat l (List.mem_of_mem_take hl)
  · simp [hls]
  · simpa [hls] using hhead

theorem natOfDigits_take_drop (count n : Nat) :
    natOfDigits (natOfDigits 0 ((Text.ofNat n).take count)) ((Text.ofNat n).drop count) = n := by
  rw [← natOfDigits_append, List.take_append_drop, natOfDigits_ofNat]

/-- A point among the digits. -/
theorem reads_among (negative : Bool) {count : Nat} (hd : 0 < d.digits) (hcount : 0 < count)
    (hless : count < (Text.ofNat d.digits).length)
    (hplace : ((Text.ofNat d.digits).length : Int) + d.exponent = count) :
    Reads count negative d
      ((Text.ofNat d.digits).take count ++ "." ++ (Text.ofNat d.digits).drop count) := by
  have hne : (Text.ofNat d.digits).drop count ≠ [] := by
    rw [Ne, List.drop_eq_nil_iff]
    omega
  have hpointed : pointed ((Text.ofNat d.digits).drop count) =
      .char '.' :: (Text.ofNat d.digits).drop count := by
    rw [pointed, if_neg]
    simpa using hne
  have hfraction : ∀ l ∈ (Text.ofNat d.digits).drop count, isDigit l = true :=
    fun l hl => isDigit_of_mem_ofNat l (List.mem_of_mem_drop hl)
  have hread := Numeral.match?_signed negative _ [] (isWholePart_take hd hcount) hfraction
    (by simp)
  rw [hpointed, List.append_nil, ← List.singleton_append, ← List.append_assoc] at hread
  refine ⟨_, hread, ⟨rfl, ?_, 0, ?_, ?_⟩, ?_⟩
  · simpa using hne
  · rw [natOfDigits_take_drop, Nat.pow_zero, Nat.mul_one]
  · dsimp only
    rw [List.length_drop]
    omega
  · dsimp only
    rw [List.length_take]
    omega

/-- Zeros behind the digits. -/
theorem reads_large (negative : Bool) {count : Nat} (hd : 0 < d.digits)
    (hexponent : d.exponent = count) :
    Reads ((Text.ofNat d.digits).length + count) negative d
      (Text.ofNat d.digits ++ Text.repeated count '0' ++ ".0") := by
  have hwhole : IsWholePart (Text.ofNat d.digits ++ Text.repeated count '0') := by
    refine isWholePart_of_head?_ne ?_ (List.append_ne_nil_of_left_ne_nil (ofNat_ne_nil _) _) ?_
    · intro l hl
      rcases List.mem_append.1 hl with h | h
      · exact isDigit_of_mem_ofNat l h
      · exact isDigit_of_mem_repeated l h
    · obtain ⟨l, ls, hls⟩ := List.exists_cons_of_ne_nil (ofNat_ne_nil d.digits)
      have hhead := head?_ofNat_ne hd
      simpa [hls] using hhead
  have hread := Numeral.match?_signed negative "0" [] hwhole (by decide)
    (by simp)
  rw [List.append_nil] at hread
  refine ⟨_, hread, ⟨rfl, rfl, count + 1, ?_, ?_⟩, ?_⟩
  · rw [natOfDigits_append, natOfDigits_ofNat, natOfDigits_repeated]
    have hzero (n : Nat) : natOfDigits n "0" = 10 * n := rfl
    rw [hzero, Nat.pow_succ, Nat.mul_comm (10 ^ count), Nat.mul_comm 10, Nat.mul_assoc]
  · rw [hexponent]
    have hone : List.length (Text.ofString "0") = 1 := rfl
    dsimp only
    rw [hone]
    omega
  · have hlength : (Text.repeated count '0').length = count := List.length_replicate
    exact Nat.le_of_eq (by rw [List.length_append, hlength])

/-- One digit, a point and an exponent. -/
theorem reads_exponent (negative plus : Bool) (width : Nat) (hd : 0 < d.digits) {x : Int}
    (hx : ((Text.ofNat d.digits).length : Int) + d.exponent = x + 1) :
    Reads 1 negative d ((if ((Text.ofNat d.digits).drop 1).isEmpty then (Text.ofNat d.digits).take 1
      else (Text.ofNat d.digits).take 1 ++ "." ++ (Text.ofNat d.digits).drop 1) ++ "e" ++
        (if x < 0 then "-" else if plus then "+" else "" : Text) ++ padded width x.natAbs) := by
  have hmantissa : (if ((Text.ofNat d.digits).drop 1).isEmpty then (Text.ofNat d.digits).take 1
      else (Text.ofNat d.digits).take 1 ++ "." ++ (Text.ofNat d.digits).drop 1) =
        (Text.ofNat d.digits).take 1 ++ pointed ((Text.ofNat d.digits).drop 1) := by
    rw [pointed]
    split
    · rw [List.append_nil]
    · rw [List.append_assoc]
      rfl
  have hfraction : ∀ l ∈ (Text.ofNat d.digits).drop 1, isDigit l = true :=
    fun l hl => isDigit_of_mem_ofNat l (List.mem_of_mem_drop hl)
  have hpos : 0 < (Text.ofNat d.digits).length := List.length_pos_iff.2 (ofNat_ne_nil _)
  have hread := Numeral.match?_signed negative _
    (.char 'e' :: ((if x < 0 then "-" else if plus then "+" else "" : Text) ++
      padded width x.natAbs))
    (isWholePart_take hd Nat.one_pos) hfraction (by simp [isDigit, Letter.code])
  rw [exponent?_padded, ← List.append_assoc, ← List.singleton_append, ← List.append_assoc,
    ← List.append_assoc, ← hmantissa] at hread
  refine ⟨_, hread, ⟨rfl, rfl, 0, ?_, ?_⟩, ?_⟩
  · rw [natOfDigits_take_drop, Nat.pow_zero, Nat.mul_one]
  · dsimp only
    rw [List.length_drop]
    omega
  · dsimp only
    rw [List.length_take]
    omega

/-- **However a decimal is laid out, it is read back.** -/
theorem reads_writeDecimal (layout : Layout) (negative : Bool) (hd : 0 < d.digits) :
    Reads (max 1 layout.greatestPlace.toNat) negative d (layout.writeDecimal d) := by
  have hmono {most : Nat} {s : Text} (h : Reads most negative d s)
      (hmost : most ≤ max 1 layout.greatestPlace.toNat) :
      Reads (max 1 layout.greatestPlace.toNat) negative d s := by
    obtain ⟨n, hmatch, hstands, hlength⟩ := h
    exact ⟨n, hmatch, hstands, Nat.le_trans hlength hmost⟩
  have hpos : 0 < (Text.ofNat d.digits).length := List.length_pos_iff.2 (ofNat_ne_nil _)
  unfold writeDecimal
  dsimp only
  generalize hplace : ((Text.ofNat d.digits).length : Int) + d.exponent = place
  split
  · next hpositional =>
    simp only [Bool.and_eq_true, decide_eq_true_eq] at hpositional
    split
    · next hsmall => exact hmono (reads_small negative (by omega)) (by omega)
    · next hlarge =>
      split
      · next hrest =>
        have hall : (Text.ofNat d.digits).length ≤ place.toNat :=
          List.drop_eq_nil_iff.1 (by simpa using hrest)
        rw [List.take_of_length_le hall]
        exact hmono (reads_large negative hd (by omega)) (by omega)
      · next hrest =>
        have hless : place.toNat < (Text.ofNat d.digits).length :=
          Nat.lt_of_not_le fun h => hrest (by simpa using h)
        have hnone : place.toNat - (Text.ofNat d.digits).length = 0 := by omega
        have hwhole : (Text.ofNat d.digits).take place.toNat ++ Text.repeated 0 '0' =
            (Text.ofNat d.digits).take place.toNat := List.append_nil _
        rw [hnone, hwhole]
        exact hmono (reads_among negative hd (by omega) hless (by omega)) (by omega)
  · exact hmono (reads_exponent negative layout.plus layout.exponentWidth hd (by omega)) (by omega)

/-- **A number that is written is read back.** -/
theorem exists_match?_write (layout : Layout) (negative : Bool) (m : Magnitude) :
    ∃ s n, layout.write? (.finite negative m) = some s ∧ Numeral.match? s = some (n, []) ∧
      n.isWhole = false ∧ n.toBinary64 = .finite negative m ∧
      n.wholeSpan ≤ max 1 layout.greatestPlace.toNat + 1 := by
  have hwrite : layout.write? (.finite negative m) = some (signed negative
      (if m.units = 0 then "0.0" else layout.writeDecimal (.shortest m.units))) := by
    cases negative <;> rfl
  rw [hwrite]
  rcases Nat.eq_zero_or_pos m.units with hzero | hpos
  · rw [if_pos hzero]
    have hm : m = .zero := by
      obtain ⟨units, hlt, hdvd⟩ := m
      obtain rfl : units = 0 := hzero
      rfl
    refine ⟨_, ⟨negative, 1, false, 0, -1⟩, rfl, ?_, rfl, ?_, ?_⟩
    · cases negative <;> decide
    · rw [hm]
      rfl
    · rw [Numeral.wholeSpan]
      dsimp only
      split <;> omega
  · rw [if_neg (Nat.ne_of_gt hpos)]
    have hreads := Decimal.readsAs_shortest hpos m.units_lt m.spacing_dvd
    obtain ⟨n, hmatch, hstands, hlength⟩ :=
      reads_writeDecimal layout negative (hreads.digits_pos hpos m.spacing_dvd)
    refine ⟨_, n, rfl, hmatch, hstands.isWhole, hstands.toBinary64_eq hreads hpos, ?_⟩
    rw [Numeral.wholeSpan]
    split <;> omega

end Layout

end CommandAdvisor.Number
