import CommandAdvisor.Number.Numeral
import Mathlib.Algebra.Group.Nat.Defs

/-!
# Digits and the numerals that they make up

The digits of a number are read as that number. A sign, digits, a point with digits behind it
and whatever follows are taken apart into just these by the grammar of numerals, so a text
that is put together of such parts is known to be the numeral that it was written for.

## Main definitions
* `IsWholePart`: what may stand in front of the point of a numeral.
* `signed` and `pointed`: a sign and a fraction as they are written.

## Main statements
* `natOfDigits_ofNat`: the digits of a number are read as it.
* `Numeral.match?_signed`: the numeral at the head of a text that is put together of its parts.
-/
namespace CommandAdvisor.Number

/-! ## Digits -/

theorem isDigit_char (c : Char) : isDigit (.char c) = c.isDigit := by
  have hcode : isDigit (.char c) = (decide (48 ≤ c.val.toNat) && decide (c.val.toNat ≤ 57)) := rfl
  rw [hcode]
  simp only [Char.isDigit, ge_iff_le, UInt32.le_iff_toNat_le]
  rfl

theorem isDigit_of_mem_ofNat {n : Nat} : ∀ l ∈ Text.ofNat n, isDigit l = true := by
  intro l hl
  obtain ⟨c, hc, rfl⟩ := List.mem_map.1 hl
  rw [isDigit_char]
  exact Nat.isDigit_of_mem_toDigits (by decide) (by decide) hc

theorem isDigit_of_mem_repeated {count : Nat} : ∀ l ∈ Text.repeated count '0', isDigit l = true := by
  intro l hl
  rw [List.eq_of_mem_replicate hl]
  rfl

theorem natOfDigits_ofChars (n : Nat) (cs : List Char) :
    natOfDigits n (Text.ofChars cs) = Nat.ofDigitChars 10 cs n := by
  rw [natOfDigits, Text.ofChars, List.foldl_map, Nat.ofDigitChars_eq_foldl]
  rfl

theorem natOfDigits_append (n : Nat) (ds es : Text) :
    natOfDigits n (ds ++ es) = natOfDigits (natOfDigits n ds) es := List.foldl_append

/-- The digits of a number are read as it. -/
@[simp] theorem natOfDigits_ofNat (n : Nat) : natOfDigits 0 (Text.ofNat n) = n := by
  rw [Text.ofNat, natOfDigits_ofChars, Nat.ofDigitChars_ten_toDigits]

theorem natOfDigits_repeated (n count : Nat) :
    natOfDigits n (Text.repeated count '0') = 10 ^ count * n := by
  have hzeros : Text.repeated count '0' = Text.ofChars (List.replicate count '0') := by
    simp [Text.repeated, Text.ofChars]
  rw [hzeros, natOfDigits_ofChars, Nat.ofDigitChars_replicate_zero]

/-- Digits end where something else begins. -/
theorem spanDigits_append {ds rest : Text} (hds : ∀ l ∈ ds, isDigit l = true)
    (hrest : ∀ l ∈ rest.head?, isDigit l = false) : spanDigits (ds ++ rest) = (ds, rest) := by
  have hstop : rest.takeWhile isDigit = [] ∧ rest.dropWhile isDigit = rest := by
    cases rest with
    | nil => exact ⟨rfl, rfl⟩
    | cons l rest =>
      have hl := hrest l rfl
      simp [hl]
  rw [spanDigits, List.takeWhile_append_of_pos hds, List.dropWhile_append_of_pos hds, hstop.1,
    hstop.2, List.append_nil]

/-! ## Numerals -/

/-- What may stand in front of the point of a numeral: digits, of which the first is zero only
if it is the only one. -/
structure IsWholePart (s : Text) : Prop where
  digits : ∀ l ∈ s, isDigit l = true
  ne_nil : s ≠ []
  zero : s.head? = some (.char '0') → s = [.char '0']

/-- A text with a minus in front of it, or without. -/
def signed (negative : Bool) (s : Text) : Text := if negative then .char '-' :: s else s

/-- A point and digits behind it; nothing where there are none. -/
def pointed (fraction : Text) : Text := if fraction.isEmpty then [] else .char '.' :: fraction

theorem ofNat_ne_nil (n : Nat) : Text.ofNat n ≠ [] := by
  simp [Text.ofNat, Text.ofChars, Nat.toDigits_ne_nil]

/-- A number is written without zeros in front of its other digits. -/
theorem isWholePart_ofNat (n : Nat) : IsWholePart (Text.ofNat n) where
  digits := isDigit_of_mem_ofNat
  ne_nil := ofNat_ne_nil n
  zero := by
    induction n using Nat.strongRecOn with
    | ind n ih =>
      intro hzero
      rcases Nat.lt_or_ge n 10 with hlt | hge
      · rw [Text.ofNat, Nat.toDigits_of_lt_base hlt] at hzero ⊢
        simpa [Text.ofChars] using hzero
      · -- The digit at the head is that of a smaller number, which is not zero.
        have hdigits : Text.ofNat n = Text.ofNat (n / 10) ++ [.char (Nat.digitChar (n % 10))] := by
          rw [Text.ofNat, Nat.toDigits_of_base_le (by decide) hge, Text.ofChars_append]
          rfl
        obtain ⟨d, ds, hds⟩ := List.exists_cons_of_ne_nil (ofNat_ne_nil (n / 10))
        have hhead : (Text.ofNat (n / 10)).head? = some (.char '0') := by
          rw [hdigits, hds] at hzero
          rw [hds]
          exact hzero
        have hsmaller := ih (n / 10) (by omega) hhead
        have hnumber := natOfDigits_ofNat (n / 10)
        rw [hsmaller] at hnumber
        have hnumber : 0 = n / 10 := hnumber
        omega

/-! ### The parts of a numeral -/

theorem sign_signed (negative : Bool) {body : Text} (h : ∀ l ∈ body.head?, isDigit l = true) :
    (match signed negative body with
    | .char '-' :: tail => (true, tail)
    | _ => (false, signed negative body)) = (negative, body) := by
  cases negative with
  | true => rfl
  | false =>
    have hbody : signed false body = body := rfl
    rw [hbody]
    split
    · exact absurd (h _ rfl) (by decide)
    · rfl

theorem whole_append {whole rest : Text} (h : IsWholePart whole)
    (hrest : ∀ l ∈ rest.head?, isDigit l = false) :
    (match whole ++ rest with
    | .char '0' :: tail => (Text.ofString "0", tail)
    | _ => spanDigits (whole ++ rest)) = (whole, rest) := by
  split
  · next tail heq =>
    obtain ⟨d, ds, rfl⟩ := List.exists_cons_of_ne_nil h.ne_nil
    obtain ⟨rfl, rfl⟩ := List.cons.inj heq
    obtain rfl := (List.cons.inj (h.zero rfl)).2
    rfl
  · exact spanDigits_append h.digits hrest

theorem fraction_pointed {fraction tail : Text} (h : ∀ l ∈ fraction, isDigit l = true)
    (htail : ∀ l ∈ tail.head?, isDigit l = false ∧ l ≠ .char '.') :
    (match pointed fraction ++ tail with
    | .char '.' :: rest =>
      if (spanDigits rest).1.isEmpty then ([], pointed fraction ++ tail) else spanDigits rest
    | _ => ([], pointed fraction ++ tail)) = (fraction, tail) := by
  cases fraction with
  | nil =>
    have hnone : pointed [] ++ tail = tail := rfl
    rw [hnone]
    split
    · exact absurd rfl (htail _ rfl).2
    · rfl
  | cons d ds =>
    have hspan : spanDigits (d :: ds ++ tail) = (d :: ds, tail) :=
      spanDigits_append h fun l hl => (htail l hl).1
    have hpoint : pointed (d :: ds) ++ tail = .char '.' :: (d :: ds ++ tail) := rfl
    rw [hpoint]
    split
    · next rest heq =>
      obtain ⟨-, rfl⟩ := List.cons.inj heq
      rw [hspan]
      rfl
    · next hno => exact absurd rfl (hno _)

namespace Numeral

/-- **The numeral at the head of a text that is put together of its parts.** -/
theorem match?_signed (negative : Bool) {whole : Text} (fraction tail : Text)
    (hwhole : IsWholePart whole) (hfraction : ∀ l ∈ fraction, isDigit l = true)
    (htail : ∀ l ∈ tail.head?, isDigit l = false ∧ l ≠ .char '.') :
    match? (signed negative (whole ++ (pointed fraction ++ tail))) =
      match exponent? tail with
      | some (e, rest) => some (⟨negative, whole.length, false,
          natOfDigits (natOfDigits 0 whole) fraction, e - fraction.length⟩, rest)
      | none => some (⟨negative, whole.length, fraction.isEmpty,
          natOfDigits (natOfDigits 0 whole) fraction, -fraction.length⟩, tail) := by
  have hfirst : ∀ l ∈ (whole ++ (pointed fraction ++ tail)).head?, isDigit l = true := by
    obtain ⟨d, ds, rfl⟩ := List.exists_cons_of_ne_nil hwhole.ne_nil
    simpa using hwhole.digits d List.mem_cons_self
  have hbehind : ∀ l ∈ (pointed fraction ++ tail).head?, isDigit l = false := by
    cases fraction with
    | nil => exact fun l hl => (htail l hl).1
    | cons d ds => simp [pointed, isDigit, Letter.code]
  have hne : whole.isEmpty = false := by simp [hwhole.ne_nil]
  unfold match?
  split
  next negative' body hsign =>
  obtain ⟨rfl, rfl⟩ := Prod.mk.inj ((sign_signed negative hfirst).symm.trans hsign)
  split
  next whole' rest hcut =>
  obtain ⟨rfl, rfl⟩ := Prod.mk.inj ((whole_append hwhole hbehind).symm.trans hcut)
  rw [if_neg (by simp [hne])]
  split
  next fraction' tail' hpoint =>
  obtain ⟨rfl, rfl⟩ := Prod.mk.inj ((fraction_pointed hfraction htail).symm.trans hpoint)
  rfl

/-- Digits with a sign are a whole numeral. -/
theorem match?_signed_of_isWholePart (negative : Bool) {whole : Text} (h : IsWholePart whole) :
    match? (signed negative whole) =
      some (⟨negative, whole.length, true, natOfDigits 0 whole, 0⟩, []) := by
  have hmatch := match?_signed negative [] [] h (by simp) (by simp)
  have htext : whole ++ (pointed [] ++ []) = whole := by simp [pointed]
  rw [htext] at hmatch
  exact hmatch

/-- Digits alone are a whole numeral. -/
theorem match?_of_isWholePart {whole : Text} (h : IsWholePart whole) :
    match? whole = some (⟨false, whole.length, true, natOfDigits 0 whole, 0⟩, []) :=
  match?_signed_of_isWholePart false h

/-- A numeral starts with a minus or with a digit. -/
theorem match?_cons_eq_none {l : Letter} (hminus : l ≠ .char '-') (hdigit : isDigit l = false)
    (s : Text) : match? (l :: s) = none := by
  unfold match?
  split
  next negative body hsign =>
  split at hsign
  · next tail heq => exact absurd (List.cons.inj heq).1 hminus
  · cases hsign
    split
    next whole rest hwhole =>
    split at hwhole
    · next tail heq =>
      rw [(List.cons.inj heq).1] at hdigit
      exact absurd hdigit (by decide)
    · have hspan : spanDigits (l :: s) = ([], l :: s) := by simp [spanDigits, hdigit]
      cases hspan.symm.trans hwhole
      rfl

end Numeral

end CommandAdvisor.Number
