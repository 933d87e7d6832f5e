import CommandAdvisor.Proofs.Text.Words
import CommandAdvisor.Text.Lowercase

/-!
# Sound texts

No white space is half of a surrogate pair, and no capital has one for its small letter. So a
text without halves has none in its words or in lower case, and neither has one whose ends
are trimmed.

## Main statements
* `isSound_trim`: what is trimmed away is sound.
* `isSound_of_mem_words`: the words of a sound text are sound.
* `isSound_lower`: a sound text is sound in lower case.
-/
namespace CommandAdvisor

/-- Code points that belong to no half are those of characters. -/
theorem Letter.isChar_ofCode {n : Nat} (h : n < 0xD800 ∨ 0xE000 ≤ n) :
    (ofCode n).isChar = true := by
  have hn : ¬(n - firstHalf < 2048 ∧ firstHalf ≤ n) := by
    unfold firstHalf
    omega
  rw [ofCode, dif_neg hn]
  rfl

namespace Text

theorem isSound_append {s t : Text} :
    (s ++ t).isSound = true ↔ s.isSound = true ∧ t.isSound = true := by
  rw [isSound, List.all_append, Bool.and_eq_true]
  rfl

theorem isSound_iff_forall {s : Text} : s.isSound = true ↔ ∀ l ∈ s, l.isChar = true := by
  rw [isSound, List.all_eq_true]

/-! ## Trimmed texts and words -/

theorem isChar_of_isBlank {l : Letter} (h : isBlank l = true) : l.isChar = true := by
  cases l with
  | char c => rfl
  | half n =>
    have hn : (Letter.half n).code = 0xD800 + n := rfl
    simp only [isBlank, hn, Bool.or_eq_true, Bool.and_eq_true, decide_eq_true_eq, beq_iff_eq] at h
    omega

theorem IsBlank.isSound {s : Text} (h : IsBlank s) : s.isSound = true :=
  isSound_iff_forall.2 fun l hl => isChar_of_isBlank (h l hl)

theorem isSound_trimEnd (s : Text) : (trimEnd s).isSound = true ↔ s.isSound = true := by
  obtain ⟨b, hb, hs⟩ := exists_trimEnd_append s
  have hsplit : s.isSound = true ↔ (trimEnd s ++ b).isSound = true := by rw [← hs]
  rw [hsplit, isSound_append, and_iff_left hb.isSound]

/-- What is trimmed away is sound. -/
theorem isSound_trim (s : Text) : (trim s).isSound = true ↔ s.isSound = true := by
  have hsplit : isSound s = true ↔
      isSound (s.takeWhile isBlank ++ s.dropWhile isBlank) = true := by
    rw [List.takeWhile_append_dropWhile]
  rw [trim, isSound_trimEnd, hsplit, isSound_append, and_iff_right (isBlank_takeWhile s).isSound]

theorem isSound_of_mem_words {s word : Text} (hs : s.isSound = true) (h : word ∈ words s) :
    word.isSound = true := by
  rw [isSound_iff_forall] at hs ⊢
  intro l hl
  refine hs l ?_
  rw [← flatten_runs s]
  exact List.mem_flatten_of_mem (List.mem_of_mem_filter h) hl

/-! ## Lower case -/

/-- No small letter of a capital is half of a surrogate pair. -/
theorem small_lt_or_le : ∀ b ∈ capitals,
    b.small + (b.last - b.first) < 0xD800 ∨ 0xE000 ≤ b.small := by
  decide +kernel

theorem isChar_lowerLetter {l : Letter} (h : l.isChar = true) : (lowerLetter l).isChar = true := by
  rw [lowerLetter]
  split
  · cases l with
    | char c => rfl
    | half n => cases h
  · split
    · next b hb =>
      have hsmall := small_lt_or_le b (List.mem_of_find?_eq_some hb)
      have hholds := List.find?_some hb
      simp only [CaseBlock.holds, Bool.and_eq_true, decide_eq_true_eq] at hholds
      refine Letter.isChar_ofCode ?_
      unfold CaseBlock.lower
      omega
    · exact h

theorem isSound_lowerAfter {s : Text} (h : s.isSound = true) (inWord : Bool) :
    (lowerAfter inWord s).isSound = true := by
  induction s generalizing inWord with
  | nil => rfl
  | cons l s ih =>
    rw [isSound_iff_forall, List.forall_mem_cons, ← isSound_iff_forall] at h
    have hrest := ih h.2 (if isCaseIgnorable l then inWord else isCased l)
    have hcons {a : Letter} (ha : a.isChar = true) {t : Text} (ht : t.isSound = true) :
        isSound (a :: t) = true := by
      rw [isSound_iff_forall] at ht ⊢
      exact List.forall_mem_cons.2 ⟨ha, ht⟩
    rw [lowerAfter]
    split
    · exact hcons (by split <;> rfl) hrest
    · split
      · exact hcons rfl (hcons rfl hrest)
      · exact hcons (isChar_lowerLetter h.1) hrest

/-- A sound text is sound in lower case. -/
theorem isSound_lower {s : Text} (h : s.isSound = true) : (lower s).isSound = true :=
  isSound_lowerAfter h false

end Text

end CommandAdvisor
