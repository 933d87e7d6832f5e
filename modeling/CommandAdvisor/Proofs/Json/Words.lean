import CommandAdvisor.Proofs.Json.Strings

/-!
# Words of written values

Names and numerals are written with letters that are neither layout nor punctuation, so the
scanner reads on to whatever ends the word.

## Main definitions
* `IsWordLetter`: the letters that names and numerals are written with.
* `EndsWord`: what may stand behind a word.

## Main statements
* `scan_word_append`: a word is read to its end.
* `isWordLetter_of_mem_writeReal` and `isWordLetter_of_mem_writeInteger`: numbers are words.
-/
namespace CommandAdvisor.Json

open Lexeme (scan ofPunctuation?)

/-- Letters of names and numerals: those of ASCII, digits, signs and the point. -/
def IsWordLetter : Letter → Prop
  | .char c => c.isAlphanum = true ∨ c = '+' ∨ c = '-' ∨ c = '.'
  | .half _ => False

instance (l : Letter) : Decidable (IsWordLetter l) :=
  match l with
  | .char c => inferInstanceAs (Decidable (c.isAlphanum = true ∨ c = '+' ∨ c = '-' ∨ c = '.'))
  | .half _ => inferInstanceAs (Decidable False)

/-- Behind a word stands a letter that is none of a word, or nothing. -/
def EndsWord (rest : Text) : Prop :=
  ∀ l ∈ rest.head?, isSpace l = true ∨ l = .char '"' ∨ (ofPunctuation? l).isSome = true

theorem endsWord_nil : EndsWord [] := by simp [EndsWord]

theorem endsWord_cons {l : Letter} {rest : Text}
    (h : isSpace l = true ∨ l = .char '"' ∨ (ofPunctuation? l).isSome = true) :
    EndsWord (l :: rest) := by simpa [EndsWord] using h

/-- The code points of the letters of words. -/
theorem IsWordLetter.code_cases {l : Letter} (h : IsWordLetter l) :
    48 ≤ l.code ∧ l.code ≤ 57 ∨ 65 ≤ l.code ∧ l.code ≤ 90 ∨ 97 ≤ l.code ∧ l.code ≤ 122 ∨
      l.code = 43 ∨ l.code = 45 ∨ l.code = 46 := by
  cases l with
  | half n => exact h.elim
  | char c =>
    rcases h with h | rfl | rfl | rfl
    · have hranges : (decide (c.val ≥ 'A'.val ∧ c.val ≤ 'Z'.val) ||
          decide (c.val ≥ 'a'.val) && decide (c.val ≤ 'z'.val) ||
            (decide (c.val ≥ '0'.val) && decide (c.val ≤ '9'.val))) = true := h
      simp only [Bool.or_eq_true, Bool.and_eq_true, decide_eq_true_eq, ge_iff_le,
        UInt32.le_iff_toNat_le] at hranges
      have hval : c.val.toNat = c.toNat := rfl
      have hdigit : '0'.val.toNat = 48 ∧ '9'.val.toNat = 57 := ⟨rfl, rfl⟩
      have hupper : 'A'.val.toNat = 65 ∧ 'Z'.val.toNat = 90 := ⟨rfl, rfl⟩
      have hlower : 'a'.val.toNat = 97 ∧ 'z'.val.toNat = 122 := ⟨rfl, rfl⟩
      rw [Letter.code]
      omega
    · decide
    · decide
    · decide

/-- Letters of words end no word. -/
theorem IsWordLetter.inWord {l : Letter} (h : IsWordLetter l) :
    isSpace l = false ∧ l ≠ .char '"' ∧ ofPunctuation? l = none := by
  have hne (m : Letter) (hm : m.code ∈ [9, 10, 13, 32, 34, 44, 58, 91, 93, 123, 125]) : l ≠ m := by
    rintro rfl
    have := h.code_cases
    simp only [List.mem_cons, List.not_mem_nil, or_false] at hm
    omega
  refine ⟨?_, hne _ (by decide), ?_⟩
  · simp [isSpace, hne (.char ' ') (by decide), hne (.char '\t') (by decide),
      hne (.char '\n') (by decide), hne (.char '\r') (by decide)]
  · simp [ofPunctuation?, hne (.char '[') (by decide), hne (.char ']') (by decide),
      hne (.char '\x7b') (by decide), hne (.char '\x7d') (by decide),
      hne (.char ',') (by decide), hne (.char ':') (by decide)]

/-- A word part way through is finished by what ends words. -/
theorem scan_word_of_endsWord {soFar rest : Text} (hs : soFar ≠ []) (h : EndsWord rest) :
    scan (.word soFar) rest = .word soFar.reverse :: scan .between rest := by
  cases rest with
  | nil => simp [scan, Lexeme.closeWord, List.isEmpty_iff, hs]
  | cons l rest =>
    have hl : isSpace l = true ∨ l = .char '"' ∨ (ofPunctuation? l).isSome = true := by
      simpa [EndsWord] using h
    rw [scan, scan]
    by_cases hspace : isSpace l = true
    · rw [if_pos hspace, if_pos hspace]
    · rw [if_neg hspace, if_neg hspace]
      by_cases hquote : l = .char '"'
      · rw [if_pos hquote, if_pos hquote]
      · rw [if_neg hquote, if_neg hquote]
        obtain ⟨lexeme, hp⟩ := Option.isSome_iff_exists.1
          ((hl.resolve_left hspace).resolve_left hquote)
        rw [hp]

theorem scan_word_append {t : Text} (ht : ∀ l ∈ t, IsWordLetter l) {soFar rest : Text}
    (hs : soFar ≠ []) (h : EndsWord rest) :
    scan (.word soFar) (t ++ rest) = .word (soFar.reverse ++ t) :: scan .between rest := by
  induction t generalizing soFar with
  | nil => simpa using scan_word_of_endsWord hs h
  | cons l t ih =>
    obtain ⟨hspace, hquote, hpunct⟩ := (ht l List.mem_cons_self).inWord
    rw [List.cons_append, scan, if_neg (by simp [hspace]), if_neg hquote, hpunct]
    dsimp only
    rw [ih (fun m hm => ht m (List.mem_cons_of_mem l hm)) (List.cons_ne_nil l soFar)]
    simp

/-! ## Numbers are words -/

theorem isWordLetter_of_mem_ofNat {n : Nat} : ∀ l ∈ Text.ofNat n, IsWordLetter l := by
  intro l hl
  obtain ⟨c, hc, rfl⟩ := List.mem_map.1 hl
  have hdigit := Nat.isDigit_of_mem_toDigits (by decide) (by decide) hc
  exact .inl (by simp [Char.isAlphanum, hdigit])

theorem isWordLetter_of_mem_repeated {n : Nat} {m : Letter} (hm : IsWordLetter m) :
    ∀ l ∈ Text.repeated n m, IsWordLetter l := by
  intro l hl
  rwa [List.eq_of_mem_replicate hl]

theorem isWordLetter_of_mem_writeInteger (n : Int) : ∀ l ∈ writeInteger n, IsWordLetter l := by
  have hsign : ∀ l ∈ Text.ofString "-", IsWordLetter l := by decide
  rw [writeInteger]
  split
  · exact List.forall_mem_append.2 ⟨hsign, isWordLetter_of_mem_ofNat⟩
  · exact isWordLetter_of_mem_ofNat

theorem writeInteger_ne_nil (n : Int) : writeInteger n ≠ [] := by
  have hdigits : Text.ofNat n.natAbs ≠ [] := by
    simp [Text.ofNat, Text.ofChars, Nat.toDigits_ne_nil]
  rw [writeInteger]
  split
  · simp [hdigits]
  · exact hdigits

namespace Layout

open Number (Decimal Layout)

theorem isWordLetter_of_mem_padded (width n : Nat) :
    ∀ l ∈ Layout.padded width n, IsWordLetter l :=
  List.forall_mem_append.2 ⟨isWordLetter_of_mem_repeated (by decide), isWordLetter_of_mem_ofNat⟩

theorem isWordLetter_of_mem_writeDecimal (layout : Layout) (d : Decimal) :
    ∀ l ∈ layout.writeDecimal d, IsWordLetter l := by
  have hdigits : ∀ l ∈ Text.ofNat d.digits, IsWordLetter l := isWordLetter_of_mem_ofNat
  have htake (n : Nat) : ∀ l ∈ (Text.ofNat d.digits).take n, IsWordLetter l :=
    fun l hl => hdigits l (List.mem_of_mem_take hl)
  have hdrop (n : Nat) : ∀ l ∈ (Text.ofNat d.digits).drop n, IsWordLetter l :=
    fun l hl => hdigits l (List.mem_of_mem_drop hl)
  have hzeros (n : Nat) : ∀ l ∈ Text.repeated n '0', IsWordLetter l :=
    isWordLetter_of_mem_repeated (by decide)
  have hpoint : ∀ l ∈ Text.ofString ".", IsWordLetter l := by decide
  rw [Layout.writeDecimal]
  dsimp only
  split
  · split
    · exact List.forall_mem_append.2
        ⟨List.forall_mem_append.2 ⟨by decide, hzeros _⟩, hdigits⟩
    · have hwhole := fun n m => List.forall_mem_append.2 ⟨htake n, hzeros m⟩
      split
      · exact List.forall_mem_append.2 ⟨hwhole _ _, by decide⟩
      · exact List.forall_mem_append.2
          ⟨List.forall_mem_append.2 ⟨hwhole _ _, hpoint⟩, hdrop _⟩
  · refine List.forall_mem_append.2 ⟨List.forall_mem_append.2 ⟨List.forall_mem_append.2
      ⟨?_, by decide⟩, ?_⟩, isWordLetter_of_mem_padded _ _⟩
    · split
      · exact htake 1
      · exact List.forall_mem_append.2
          ⟨List.forall_mem_append.2 ⟨htake 1, hpoint⟩, hdrop 1⟩
    · split
      · decide
      · split <;> decide

theorem writeDecimal_ne_nil (layout : Layout) (d : Decimal) : layout.writeDecimal d ≠ [] := by
  have hstring {t : String} (h : t.toList ≠ []) : Text.ofString t ≠ [] := by
    simpa [Text.ofString, Text.ofChars] using h
  rw [Layout.writeDecimal]
  dsimp only
  split
  · split
    · simp [hstring (t := "0.") (by decide)]
    · split
      · simp [hstring (t := ".0") (by decide)]
      · simp [hstring (t := ".") (by decide)]
  · simp [hstring (t := "e") (by decide)]

end Layout

theorem isWordLetter_of_mem_writeReal (style : Style) (x : Number.Binary64) :
    ∀ l ∈ writeReal style x, IsWordLetter l := by
  have hsign : ∀ l ∈ Text.ofString "-", IsWordLetter l := by decide
  unfold writeReal
  split
  · next digits h =>
    cases x with
    | nan => cases h
    | infinite negative => cases h
    | finite negative m =>
      have hbody : ∀ l ∈ (if m.units = 0 then Text.ofString "0.0"
          else style.layout.writeDecimal (.shortest m.units)), IsWordLetter l := by
        split
        · decide
        · exact Layout.isWordLetter_of_mem_writeDecimal _ _
      obtain rfl := Option.some.inj h
      cases negative with
      | false => exact hbody
      | true => exact List.forall_mem_append.2 ⟨hsign, hbody⟩
  · split
    · split <;> decide
    · decide

theorem writeReal_ne_nil (style : Style) (x : Number.Binary64) : writeReal style x ≠ [] := by
  unfold writeReal
  split
  · next digits h =>
    cases x with
    | nan => cases h
    | infinite negative => cases h
    | finite negative m =>
      have hbody : (if m.units = 0 then Text.ofString "0.0"
          else style.layout.writeDecimal (.shortest m.units)) ≠ [] := by
        split
        · decide
        · exact Layout.writeDecimal_ne_nil _ _
      obtain rfl := Option.some.inj h
      cases negative with
      | false => exact hbody
      | true => simp [hbody]
  · split
    · split <;> decide
    · decide

end CommandAdvisor.Json
