import CommandAdvisor.Proofs.Text.Casing
import Mathlib.Data.List.Infix

/-!
# Lower case inside a text

The lower case of a part of a text depends on two things around it: whether a word stands right
before the part, and whether that word goes on behind it. Only a capital sigma can tell the
difference. Where none can, the lower case of the part stands in that of the whole text; all
other parts stand in some text whose lower case does not hold theirs.

## Main definitions
* `lowerWithin`: the lower case of a part of a text.
* `IsSettled`: the lower case of a part is the same in all surroundings.

## Main statements
* `lowerAfter_append`: the lower case of a text in two parts.
* `isSettled_of_notMem`: without a capital sigma nothing depends on the surroundings.
* `isSettled_iff`: the settled texts are those that are found in lower case wherever they stand.
-/
namespace CommandAdvisor.Text

/-- Whether a text ends in a word, past the letters that are passed over; `inWord` says so of
what stands before it. -/
def inWordAfter (inWord : Bool) : Text → Bool
  | [] => inWord
  | l :: s => inWordAfter (if isCaseIgnorable l then inWord else isCased l) s

/-- Whether a text continues a word; `goesOn` says so of what stands behind it. -/
def continuesWithin (goesOn : Bool) : Text → Bool
  | [] => goesOn
  | l :: s => if isCaseIgnorable l then continuesWithin goesOn s else isCased l

/-- Lower-case a part of a text. `inWord` says whether a word stands right before the part, and
`goesOn` whether what stands behind it continues a word. -/
def lowerWithin (inWord goesOn : Bool) : Text → Text
  | [] => []
  | l :: s =>
    let rest := lowerWithin (if isCaseIgnorable l then inWord else isCased l) goesOn s
    if l = 'Σ' then (if inWord && !continuesWithin goesOn s then 'ς' else 'σ') :: rest
    else if l = 'İ' then 'i' :: '\u0307' :: rest
    else lowerLetter l :: rest

/-! ## A text in parts -/

theorem continuesWord_append (s t : Text) :
    continuesWord (s ++ t) = continuesWithin (continuesWord t) s := by
  induction s with
  | nil => rfl
  | cons l s ih => rw [List.cons_append, continuesWord, continuesWithin, ih]

/-- The lower case of a text in two parts. -/
theorem lowerAfter_append (inWord : Bool) (s t : Text) : lowerAfter inWord (s ++ t) =
    lowerWithin inWord (continuesWord t) s ++ lowerAfter (inWordAfter inWord s) t := by
  induction s generalizing inWord with
  | nil => rfl
  | cons l s ih =>
    rw [List.cons_append, lowerAfter, lowerWithin, inWordAfter, ih, continuesWord_append]
    split
    · rfl
    · split <;> rfl

/-- The lower case of a text around a part of it. -/
theorem lower_append_append (before s after : Text) : lower (before ++ (s ++ after)) =
    lowerWithin false (continuesWord (s ++ after)) before ++
      (lowerWithin (inWordAfter false before) (continuesWord after) s ++
        lowerAfter (inWordAfter (inWordAfter false before) s) after) := by
  rw [lower, lowerAfter_append, lowerAfter_append]

theorem lowerWithin_false (inWord : Bool) (s : Text) :
    lowerWithin inWord false s = lowerAfter inWord s := by
  have h := lowerAfter_append inWord s []
  rw [List.append_nil, lowerAfter_nil, List.append_nil] at h
  exact h.symm

/-- What surrounds a part does not change how long its lower case is. -/
theorem length_lowerWithin (inWord goesOn : Bool) (s : Text) :
    (lowerWithin inWord goesOn s).length = (lower s).length := by
  rw [lower]
  generalize false = start
  induction s generalizing inWord start with
  | nil => rfl
  | cons l s ih =>
    have hrest := ih (if isCaseIgnorable l then inWord else isCased l)
      (if isCaseIgnorable l then start else isCased l)
    rw [lowerWithin, lowerAfter]
    split
    · simp only [List.length_cons, hrest]
    · split <;> simp only [List.length_cons, hrest]

/-! ## Settled texts -/

/-- The lower case of a text is the same in all surroundings. -/
def IsSettled (s : Text) : Prop := ∀ inWord goesOn, lowerWithin inWord goesOn s = lower s

instance (s : Text) : Decidable (IsSettled s) :=
  inferInstanceAs (Decidable (∀ _ _, _ = _))

/-- Without a capital sigma nothing depends on the surroundings. -/
theorem isSettled_of_notMem {s : Text} (h : Letter.char 'Σ' ∉ s) : IsSettled s := by
  intro inWord goesOn
  rw [lower]
  generalize false = start
  induction s generalizing inWord start with
  | nil => rfl
  | cons l s ih =>
    obtain ⟨hl, hs⟩ := List.ne_and_not_mem_of_not_mem_cons h
    rw [lowerWithin, lowerAfter, if_neg hl.symm, if_neg hl.symm, ih hs]

/-- A settled text is found in lower case wherever it stands. -/
theorem IsSettled.lower_infix_lower {s text : Text} (hs : IsSettled s) (h : s <:+: text) :
    lower s <:+: lower text := by
  obtain ⟨before, after, rfl⟩ := h
  rw [List.append_assoc, lower_append_append, hs]
  exact ⟨_, _, List.append_assoc ..⟩

/-- Nothing is found between two other ends in a text of its length that is not itself. -/
theorem not_infix_of_length_eq {s t left right : Text} (hlength : t.length = s.length)
    (hne : t ≠ s) (hleft : left = [] ∨ ∃ l, left = [l] ∧ s.head? ≠ some l)
    (hright : right = [] ∨ ∃ l, right = [l] ∧ s.getLast? ≠ some l) :
    ¬s <:+: left ++ (t ++ right) := by
  have hmiddle : ¬s <:+: t := fun h => hne (h.eq_of_length hlength.symm).symm
  have hs : s ≠ [] := by
    rintro rfl
    exact hne (List.eq_nil_of_length_eq_zero hlength)
  have hend : ¬s <:+: t ++ right := by
    rcases hright with rfl | ⟨l, rfl, hl⟩
    · rwa [List.append_nil]
    · rw [List.infix_concat_iff]
      rintro (hsuffix | hin)
      · obtain ⟨before, hbefore⟩ := hsuffix
        refine hl ?_
        rw [← List.getLast?_append_of_ne_nil before hs, hbefore, List.getLast?_concat]
      · exact hmiddle hin
  rcases hleft with rfl | ⟨l, rfl, hl⟩
  · exact hend
  · rw [List.singleton_append, List.infix_cons_iff]
    rintro (hstart | hin)
    · obtain ⟨after, hafter⟩ := hstart
      refine hl ?_
      rw [← List.head?_append_of_ne_nil s hs, hafter, List.head?_cons]
    · exact hend hin

/-- Any surroundings that matter to the lower case of a part are made with at most one letter on
either side of it, and that letter can be told from one at the end of the part. -/
theorem exists_side (inWord : Bool) (l : Option Letter) :
    ∃ side : Text, inWordAfter false side = inWord ∧ continuesWord side = inWord ∧
      (∀ inWord goesOn, lowerWithin inWord goesOn side = side) ∧
      (side = [] ∨ ∃ m, side = [m] ∧ l ≠ some m) := by
  have hcased (c : Char) (hc : c = 'a' ∨ c = 'b') : inWordAfter false [.char c] = true ∧
      continuesWord [.char c] = true ∧
      ∀ inWord goesOn, lowerWithin inWord goesOn [.char c] = [.char c] := by
    rcases hc with rfl | rfl <;> decide +kernel
  cases inWord with
  | false => exact ⟨[], rfl, rfl, fun _ _ => rfl, .inl rfl⟩
  | true =>
    by_cases hl : l = some 'a'
    · obtain ⟨hin, hon, hlower⟩ := hcased 'b' (.inr rfl)
      exact ⟨['b'], hin, hon, hlower, .inr ⟨'b', rfl, by rw [hl]; decide⟩⟩
    · obtain ⟨hin, hon, hlower⟩ := hcased 'a' (.inl rfl)
      exact ⟨['a'], hin, hon, hlower, .inr ⟨'a', rfl, hl⟩⟩

/-- A text that is not settled stands in a text whose lower case does not hold its own. -/
theorem exists_lower_not_infix_lower {s : Text} (h : ¬IsSettled s) :
    ∃ text, s <:+: text ∧ ¬lower s <:+: lower text := by
  simp only [IsSettled, not_forall] at h
  obtain ⟨inWord, goesOn, hne⟩ := h
  obtain ⟨left, hin, -, hleft, hleftEnd⟩ := exists_side inWord (lower s).head?
  obtain ⟨right, -, hon, hright, hrightEnd⟩ := exists_side goesOn (lower s).getLast?
  refine ⟨left ++ (s ++ right), ⟨left, right, List.append_assoc ..⟩, ?_⟩
  rw [lower_append_append, hleft, hin, hon, ← lowerWithin_false _ right, hright]
  exact not_infix_of_length_eq (length_lowerWithin inWord goesOn s) hne hleftEnd hrightEnd

/-- **The settled texts are those that are found in lower case wherever they stand.** -/
theorem isSettled_iff {s : Text} :
    IsSettled s ↔ ∀ text, s <:+: text → lower s <:+: lower text := by
  refine ⟨fun hs text => hs.lower_infix_lower, fun h => ?_⟩
  by_contra hs
  obtain ⟨text, hin, hmissing⟩ := exists_lower_not_infix_lower hs
  exact hmissing (h text hin)

example : IsSettled "ΟΔΟΣ " := by decide +kernel

example : ¬IsSettled "ΟΔΟΣ" := by decide +kernel

end CommandAdvisor.Text
