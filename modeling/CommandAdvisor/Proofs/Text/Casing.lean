import CommandAdvisor.Proofs.Text.Soundness

/-!
# Texts in lower case

Lower-casing leaves nothing to be done: no small letter of a capital is itself a capital, and
the two letters that are not mapped one to one are gone. So a text in lower case stays as it is,
although the form of a sigma depends on what stands around it.

## Main definitions
* `CaseBlock.clears`: no small letter of one block is a capital of another.
* `IsSmall`: the letters that lower-casing leaves as they are.

## Main statements
* `lower_lower`: a text in lower case stays as it is.
* `mem_lower_iff_of_lt`: a sign below all letters stands in the lower case of a text exactly if
  it stands in the text.
-/
namespace CommandAdvisor

theorem Letter.code_ofCode {n : Nat} (h : n.isValidChar) : (ofCode n).code = n := by
  have hn : ¬(n - firstHalf < 2048 ∧ firstHalf ≤ n) := by
    simp only [Nat.isValidChar] at h
    unfold firstHalf
    omega
  rw [ofCode, dif_neg hn, code, Char.toNat, Char.ofNat, dif_pos h]
  rfl

namespace Text

/-! ## The table of capitals -/

/-- No small letter of the block is a capital of the other one: the ranges lie apart, or their
letters take turns, or there is only one small letter. -/
def CaseBlock.clears (b c : CaseBlock) : Bool :=
  (b.small + (b.last - b.first)).blt c.first || c.last.blt b.small ||
    (b.step == 2 && c.step == 2 && (b.small + c.first) % 2 == 1) ||
    (b.first == b.last && !c.holds b.small)

/-- The dotted capital I, as a block of its own. -/
def CaseBlock.dottedI : CaseBlock := ⟨0x130, 0x130, 2, 0x69⟩

theorem clears_capitals :
    (capitals.all fun b => (CaseBlock.dottedI :: capitals).all b.clears) = true := by
  decide +kernel

theorem small_bounds : ∀ b ∈ capitals,
    0x61 ≤ b.small ∧ b.small + (b.last - b.first) < 0x110000 := by
  decide +kernel

namespace CaseBlock

variable {b c : CaseBlock} {n : Nat}

theorem holds_eq_true_iff :
    b.holds n = true ↔ b.first ≤ n ∧ n ≤ b.last ∧ (n - b.first) % b.step = 0 := by
  simp [holds, and_assoc]

theorem clears_eq_true_iff : b.clears c = true ↔
    b.small + (b.last - b.first) < c.first ∨ c.last < b.small ∨
      (b.step = 2 ∧ c.step = 2 ∧ (b.small + c.first) % 2 = 1) ∨
      (b.first = b.last ∧ c.holds b.small = false) := by
  simp [clears, or_assoc, and_assoc]

theorem holds_lower_eq_false (h : b.clears c = true) (hn : b.holds n = true) :
    c.holds (b.lower n) = false := by
  rw [← Bool.not_eq_true]
  intro hc
  obtain ⟨hfirst, hlast, hstep⟩ := holds_eq_true_iff.1 hn
  obtain ⟨hfirst', hlast', hstep'⟩ := holds_eq_true_iff.1 hc
  unfold lower at hfirst' hlast' hstep'
  rcases clears_eq_true_iff.1 h with h | h | ⟨hb, hc, hturns⟩ | ⟨hone, hsmall⟩
  · omega
  · omega
  · -- The small letters of the one block and the capitals of the other differ in parity.
    rw [hb] at hstep
    rw [hc] at hstep'
    omega
  · have hn' : n = b.first := by omega
    rw [lower, hn', Nat.sub_self, Nat.add_zero, hsmall] at hc
    cases hc

theorem isValidChar_lower (hb : b ∈ capitals) (hn : b.holds n = true) :
    (b.lower n).isValidChar := by
  have hhalves := small_lt_or_le b hb
  have hbounds := small_bounds b hb
  obtain ⟨hfirst, hlast, -⟩ := holds_eq_true_iff.1 hn
  unfold Nat.isValidChar lower
  omega

end CaseBlock

/-! ## Small letters -/

/-- The short way for the letters of ASCII agrees with the table. -/
theorem lowerAscii_eq : ∀ n < 0x80, (Letter.ofCode n).lowerAscii =
    match capitals.find? (·.holds n) with
    | some b => .ofCode (b.lower n)
    | none => .ofCode n := by
  decide +kernel

/-- A letter has its small letter from the table, or is no capital there and stays. -/
theorem lowerLetter_cases (l : Letter) :
    (∃ b ∈ capitals, b.holds l.code = true ∧ lowerLetter l = .ofCode (b.lower l.code)) ∨
      ((∀ b ∈ capitals, b.holds l.code = false) ∧ lowerLetter l = l) := by
  have htable : lowerLetter l = match capitals.find? (·.holds l.code) with
      | some b => .ofCode (b.lower l.code)
      | none => l := by
    by_cases hl : l.code < 0x80
    · have hascii := lowerAscii_eq l.code hl
      rw [Letter.ofCode_code] at hascii
      rw [lowerLetter, if_pos hl, hascii]
    · exact if_neg hl
  cases hfind : capitals.find? (·.holds l.code) with
  | some b =>
    rw [hfind] at htable
    have hholds : b.holds l.code = true := by simpa using List.find?_some hfind
    exact .inl ⟨b, List.mem_of_find?_eq_some hfind, hholds, htable⟩
  | none =>
    rw [hfind] at htable
    exact .inr ⟨fun b hb => by simpa using List.find?_eq_none.1 hfind b hb, htable⟩

/-- The letters that lower-casing leaves as they are. -/
def IsSmall (l : Letter) : Prop := lowerLetter l = l ∧ l ≠ 'Σ' ∧ l ≠ 'İ'

instance (l : Letter) : Decidable (IsSmall l) :=
  inferInstanceAs (Decidable (_ ∧ _ ∧ _))

theorem isSmall_of_holds {l : Letter}
    (h : ∀ c ∈ CaseBlock.dottedI :: capitals, c.holds l.code = false) : IsSmall l := by
  obtain ⟨hdotted, hcapitals⟩ := List.forall_mem_cons.1 h
  have hlower : lowerLetter l = l := by
    rcases lowerLetter_cases l with ⟨b, hb, hholds, -⟩ | ⟨-, hl⟩
    · rw [hcapitals b hb] at hholds
      cases hholds
    · exact hl
  refine ⟨hlower, ?_, ?_⟩
  · rintro rfl
    exact absurd hlower (by decide +kernel)
  · rintro rfl
    exact absurd hdotted (by decide)

/-- The small letter of a letter is small; the dotted I has two letters in its place. -/
theorem isSmall_lowerLetter {l : Letter} (h : l ≠ 'İ') : IsSmall (lowerLetter l) := by
  refine isSmall_of_holds fun c hc => ?_
  rcases lowerLetter_cases l with ⟨b, hb, hholds, hl⟩ | ⟨hnone, hl⟩
  · rw [hl, Letter.code_ofCode (CaseBlock.isValidChar_lower hb hholds)]
    have hclears := List.all_eq_true.1 (List.all_eq_true.1 clears_capitals b hb) c hc
    exact CaseBlock.holds_lower_eq_false hclears hholds
  · rw [hl]
    rcases List.mem_cons.1 hc with rfl | hc
    · rw [← Bool.not_eq_true, CaseBlock.holds_eq_true_iff]
      rintro ⟨hfirst, hlast, -⟩
      refine h ?_
      have hcode : l.code = 0x130 := Nat.le_antisymm hlast hfirst
      rw [← l.ofCode_code, hcode]
      rfl
    · exact hnone c hc

/-! ## Lower case -/

theorem isSmall_of_mem_lowerAfter {l : Letter} {s : Text} {inWord : Bool}
    (h : l ∈ lowerAfter inWord s) : IsSmall l := by
  induction s generalizing inWord with
  | nil => cases h
  | cons m s ih =>
    rw [lowerAfter] at h
    split at h
    · rcases List.mem_cons.1 h with rfl | h
      · split <;> decide +kernel
      · exact ih h
    · split at h
      · rcases List.mem_cons.1 h with rfl | h
        · decide +kernel
        · rcases List.mem_cons.1 h with rfl | h
          · decide +kernel
          · exact ih h
      · next hdotted =>
        rcases List.mem_cons.1 h with rfl | h
        · exact isSmall_lowerLetter hdotted
        · exact ih h

theorem lowerAfter_eq_self {s : Text} (h : ∀ l ∈ s, IsSmall l) (inWord : Bool) :
    lowerAfter inWord s = s := by
  induction s generalizing inWord with
  | nil => rfl
  | cons l s ih =>
    obtain ⟨⟨hl, hsigma, hdotted⟩, hs⟩ := List.forall_mem_cons.1 h
    rw [lowerAfter, if_neg hsigma, if_neg hdotted, hl, ih hs]

/-- **A text in lower case stays as it is.** -/
@[simp] theorem lower_lower (s : Text) : lower (lower s) = lower s :=
  lowerAfter_eq_self (fun _ hl => isSmall_of_mem_lowerAfter hl) false

/-- No letter becomes a sign that stands below all letters. -/
theorem lowerLetter_eq_iff_of_lt {l m : Letter} (hm : m.code < 0x41) :
    lowerLetter l = m ↔ l = m := by
  rcases lowerLetter_cases l with ⟨b, hb, hholds, hl⟩ | ⟨-, hl⟩
  · have hfirst : ∀ b ∈ capitals, 0x41 ≤ b.first := by decide +kernel
    have hsmall := (small_bounds b hb).1
    have hcode := (CaseBlock.holds_eq_true_iff.1 hholds).1
    constructor
    · rintro rfl
      rw [hl, Letter.code_ofCode (CaseBlock.isValidChar_lower hb hholds), CaseBlock.lower] at hm
      omega
    · rintro rfl
      have := hfirst b hb
      omega
  · rw [hl]

theorem mem_lowerAfter_iff_of_lt {m : Letter} (hm : m.code < 0x41) (s : Text) (inWord : Bool) :
    m ∈ lowerAfter inWord s ↔ m ∈ s := by
  have hne {c : Char} (hc : 0x41 ≤ c.toNat) : m ≠ c := by
    rintro rfl
    exact absurd hm (Nat.not_lt.2 hc)
  induction s generalizing inWord with
  | nil => rfl
  | cons l s ih =>
    rw [lowerAfter, List.mem_cons]
    split
    · next hl =>
      subst hl
      split <;> simp [ih, hne]
    · split
      · next hl =>
        subst hl
        simp [ih, hne]
      · have hl := lowerLetter_eq_iff_of_lt (l := l) hm
        rw [eq_comm, eq_comm (b := m)] at hl
        simp only [List.mem_cons, hl, ih]

/-- A sign below all letters stands in the lower case of a text exactly if it stands in it. -/
theorem mem_lower_iff_of_lt {m : Letter} (hm : m.code < 0x41) {s : Text} :
    m ∈ lower s ↔ m ∈ s := mem_lowerAfter_iff_of_lt hm s false

end Text

end CommandAdvisor
