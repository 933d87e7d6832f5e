import CommandAdvisor.Json.Reading
import CommandAdvisor.Json.Writing
import CommandAdvisor.Proofs.Number.Layouts

/-!
# Numbers are read back

A real number that is written is a word that either dialect reads as that number, unless it has
no digits and the style has no names for such numbers. An integer is read back by the free
dialect, unless it has too many digits.

## Main statements
* `Dialect.scalar_writeReal`: a real number is read back.
* `Dialect.scalar_writeInteger`: an integer is read back.
-/
namespace CommandAdvisor.Json

open Number (Binary64 Numeral digitLimit)

/-- No name is a numeral. -/
theorem match?_eq_none_of_mem_names : ∀ name ∈ (["null", "true", "false", "NaN", "Infinity",
    "-Infinity"] : List Text), Numeral.match? name = none := by
  decide

namespace Dialect

/-- A word in which a numeral is found is no name. -/
theorem scalar_of_match? (d : Dialect) {word : Text} {n : Numeral}
    (h : Numeral.match? word = some (n, [])) (hsize : d.sizeFault? n = none) :
    d.scalar word = .ok (d.number n) := by
  have hname {name : Text} (hmem : name ∈ (["null", "true", "false", "NaN", "Infinity",
      "-Infinity"] : List Text)) : word ≠ name := by
    rintro rfl
    cases h.symm.trans (match?_eq_none_of_mem_names word hmem)
  rw [scalar, if_neg (hname (by simp)), if_neg (hname (by simp)), if_neg (hname (by simp)),
    if_neg (hname (by simp)), if_neg (hname (by simp)), if_neg (hname (by simp)), h]
  dsimp only
  rw [hsize]
  rfl

/-- **A real number that is written is read back.** -/
theorem scalar_writeReal (d : Dialect) (style : Style) (x : Binary64)
    (hplaces : style.layout.greatestPlace < digitLimit)
    (hnamed : style.namesSpecials = true ∨ x.isFinite = true) :
    d.scalar (writeReal style x) = .ok (.real x) := by
  cases x with
  | nan =>
    have hnames : style.namesSpecials = true := hnamed.resolve_right (by decide)
    have hword : writeReal style .nan = "NaN" := by
      unfold writeReal
      simp [Number.Layout.write?, hnames]
    rw [hword]
    rfl
  | infinite negative =>
    have hnames : style.namesSpecials = true := hnamed.resolve_right (by simp [Binary64.isFinite])
    have hword : writeReal style (.infinite negative) =
        if negative then "-Infinity" else "Infinity" := by
      unfold writeReal
      cases negative <;> simp [Number.Layout.write?, hnames]
    rw [hword]
    cases negative <;> rfl
  | finite negative m =>
    obtain ⟨s, n, hwrite, hmatch, hwhole, hvalue, hspan⟩ :=
      style.layout.exists_match?_write negative m
    have hlimit : digitLimit = 4300 := rfl
    have hsize : d.sizeFault? n = none := by
      cases d with
      | free => simp [sizeFault?, hwhole]
      | strict =>
        rw [sizeFault?, if_neg]
        omega
    have hword : writeReal style (.finite negative m) = s := by
      unfold writeReal
      rw [hwrite]
    rw [hword, scalar_of_match? d hmatch hsize]
    cases d <;> simp [number, hwhole, hvalue]

/-- **An integer that is not too long to be written is read back.** -/
theorem scalar_writeInteger {n : Int} (h : (Value.integer n).isOversized = false) :
    free.scalar (writeInteger n) = .ok (.integer n) := by
  have hword : writeInteger n = Number.signed (n < 0) (Text.ofNat n.natAbs) := by
    by_cases hneg : n < 0
    · simp only [writeInteger, hneg, if_true, Number.signed, decide_true]
      rfl
    · simp [writeInteger, hneg, Number.signed]
  have hmatch := Numeral.match?_signed_of_isWholePart (n < 0)
    (Number.isWholePart_ofNat n.natAbs)
  rw [Number.natOfDigits_ofNat, ← hword] at hmatch
  have hvalue : free.number ⟨n < 0, (Text.ofNat n.natAbs).length, true, n.natAbs, 0⟩ =
      .integer n := by
    simp only [number, Numeral.toInt, if_true, decide_eq_true_eq, Value.integer.injEq]
    split <;> omega
  rw [free.scalar_of_match? hmatch (by simpa [sizeFault?, Value.isOversized] using h), hvalue]

end Dialect

end CommandAdvisor.Json
