import CommandAdvisor.Proofs.Text.Words
import CommandAdvisor.Risk.Analysis
import Mathlib.Tactic.Push

/-!
# What decides a verdict

The level of a verdict is the tier of the command, and only where there is none do flags
count: a registry holds no tier that a flag could raise. A verdict says that a line is safe
exactly when the level is low, although both are put together separately.

## Main definitions
* `HasTier` and `HasFlag`: the two things that a level depends on.

## Main statements
* `level_eq`: the level of a list of words.
* `assess_verdict`: levels, safety and explanations of all command lines.
-/
namespace CommandAdvisor.Risk

/-- The first word of a line names a command of a tier. -/
def HasTier (r : Registry) (line : Text) (tier : Level) : Prop :=
  ∃ word, (Text.words line).head? = some word ∧
    r.tier? (Registry.lookupKey word) = some tier

/-- Some word of a line is a dangerous flag. -/
def HasFlag (r : Registry) (line : Text) : Prop :=
  ∃ word ∈ Text.words line, word ∈ r.tables.dangerousFlags

/-! ## Levels -/

theorem Level.max_self_right (a b : Level) : max (max a b) b = max a b := by
  cases a <;> cases b <;> decide

theorem Level.low_max (a : Level) : max .low a = a := by
  cases a <;> decide

/-- Raising a level to another one again and again raises it once. -/
theorem Level.foldl_max {α : Type} (items : List α) (a b : Level) :
    items.foldl (fun l _ => max l b) a = if items.isEmpty then a else max a b := by
  induction items generalizing a with
  | nil => rfl
  | cons item items ih =>
    rw [List.foldl_cons, ih, Level.max_self_right]
    simp

namespace Registry

/-- Every tier that a registry knows is at least high. -/
theorem high_le_of_tier? {r : Registry} {word : Text} {tier : Level}
    (h : r.tier? word = some tier) : .high ≤ tier := by
  obtain ⟨before, after, heq, -⟩ := List.lookup_eq_some_iff.1 h
  exact r.high_le_tier (lookupKey word, tier) (by simp [heq])

theorem tier_cases (r : Registry) (word : Text) :
    r.tier? word = none ∨ r.tier? word = some .high ∨ r.tier? word = some .critical := by
  cases h : r.tier? word with
  | none => exact .inl rfl
  | some tier =>
    have hle := high_le_of_tier? h
    cases tier with
    | low => exact absurd hle (by decide)
    | medium => exact absurd hle (by decide)
    | high => exact .inr (.inl rfl)
    | critical => exact .inr (.inr rfl)

/-- The level is the tier of the command; without one, flags make it medium. -/
theorem level_eq (r : Registry) (words : List Text) :
    r.level words = match r.tier? (base words) with
      | some tier => tier
      | none => if (r.flagsIn words).isEmpty then .low else .medium := by
  rw [level, Level.foldl_max, Level.low_max]
  rcases r.tier_cases (base words) with h | h | h <;> rw [h]
  · rfl
  · exact ite_self _
  · exact ite_self _

theorem isEmpty_flagsIn {r : Registry} {words : List Text} :
    (r.flagsIn words).isEmpty = true ↔ ∀ word ∈ words, word ∉ r.tables.dangerousFlags := by
  simp [flagsIn, List.isEmpty_iff]

/-- Words trigger no rule exactly when their level is low. -/
theorem isSafe_iff_level (r : Registry) (words : List Text) :
    r.isSafe words = true ↔ r.level words = .low := by
  rw [isSafe, level_eq]
  rcases r.tier_cases (base words) with h | h | h <;> rw [h]
  · cases (r.flagsIn words).isEmpty <;> simp
  · simp
  · simp

theorem base_of_head? {words : List Text} {word : Text} (h : words.head? = some word) :
    base words = lookupKey word := by
  rw [base, List.headD_eq_head?_getD, h, Option.getD_some]

end Registry

/-! ## Verdicts -/

theorem assess_of_words_eq_nil (r : Registry) {line : Text} (h : Text.words line = []) :
    assess r line = emptyAnalysis := by
  simp [assess, h]

/-- The command of a verdict is the line without the white space around it. -/
theorem command_assess (r : Registry) (line : Text) :
    (assess r line).command = Text.trim line := by
  by_cases h : Text.words line = []
  · rw [assess_of_words_eq_nil r h, Text.trim_eq_nil_iff.2 (Text.isBlank_of_words_eq_nil h)]
    rfl
  · simp [assess, h]

theorem level_assess (r : Registry) (line : Text) :
    (assess r line).level =
      if Text.words line = [] then .low else r.level (Text.words line) := by
  simp only [assess, List.isEmpty_iff]
  split <;> rfl

theorem isSafe_assess (r : Registry) (line : Text) :
    (assess r line).isSafe = (Text.words line = [] ∨ r.isSafe (Text.words line) = true) := by
  simp only [assess, List.isEmpty_iff]
  split <;> simp_all [emptyAnalysis]

theorem isSafe_assess_iff (r : Registry) (line : Text) :
    (assess r line).isSafe = true ↔ (assess r line).level = .low := by
  rw [isSafe_assess, level_assess]
  by_cases h : Text.words line = []
  · simp [h]
  · simp [h, r.isSafe_iff_level]

/-- The level of a verdict by the tier of the first word and the flags among all words. -/
theorem level_assess_cases (r : Registry) (line : Text) :
    (∃ tier, HasTier r line tier ∧ (assess r line).level = tier ∧ .high ≤ tier) ∨
      (∀ tier, ¬HasTier r line tier) ∧
        (HasFlag r line ∧ (assess r line).level = .medium ∨
          ¬HasFlag r line ∧ (assess r line).level = .low) := by
  rw [level_assess]
  cases hw : Text.words line with
  | nil => simp [HasTier, HasFlag, hw]
  | cons word words =>
    have hbase : Registry.base (word :: words) = Registry.lookupKey word := rfl
    have htier (tier : Level) :
        HasTier r line tier ↔ r.tier? (Registry.lookupKey word) = some tier := by
      simp [HasTier, hw]
    have hflag : HasFlag r line ↔ (r.flagsIn (word :: words)).isEmpty = false := by
      rw [← Bool.not_eq_true, Registry.isEmpty_flagsIn, HasFlag, hw]
      push Not
      rfl
    rw [if_neg (List.cons_ne_nil word words), Registry.level_eq, hbase]
    simp only [htier, hflag]
    cases ht : r.tier? (Registry.lookupKey word) with
    | some tier => exact .inl ⟨tier, rfl, rfl, Registry.high_le_of_tier? ht⟩
    | none =>
      refine .inr ⟨by simp, ?_⟩
      cases (r.flagsIn (word :: words)).isEmpty <;> simp

theorem HasTier.unique {r : Registry} {line : Text} {a b : Level} (ha : HasTier r line a)
    (hb : HasTier r line b) : a = b := by
  obtain ⟨word, hword, ha⟩ := ha
  obtain ⟨word', hword', hb⟩ := hb
  obtain rfl : word = word' := Option.some.inj (hword.symm.trans hword')
  exact Option.some.inj (ha.symm.trans hb)

theorem level_assess_iff_hasTier (r : Registry) (line : Text) {tier : Level}
    (h : .high ≤ tier) : (assess r line).level = tier ↔ HasTier r line tier := by
  rcases level_assess_cases r line with ⟨t, ht, hl, -⟩ | ⟨ht, ⟨-, hl⟩ | ⟨-, hl⟩⟩
  · rw [hl]
    exact ⟨fun heq => heq ▸ ht, fun ht' => ht.unique ht'⟩
  · rw [hl, iff_false_right (ht tier)]
    rintro rfl
    exact absurd h (by decide)
  · rw [hl, iff_false_right (ht tier)]
    rintro rfl
    exact absurd h (by decide)

theorem level_assess_eq_medium_iff (r : Registry) (line : Text) :
    (assess r line).level = .medium ↔ (∀ tier, ¬HasTier r line tier) ∧ HasFlag r line := by
  rcases level_assess_cases r line with ⟨t, ht, hl, hle⟩ | ⟨ht, ⟨hf, hl⟩ | ⟨hf, hl⟩⟩
  · rw [hl]
    refine ⟨?_, fun h => absurd ht (h.1 t)⟩
    rintro rfl
    exact absurd hle (by decide)
  · simp [hl, ht, hf]
  · simp [hl, hf]

theorem level_assess_eq_low_iff (r : Registry) (line : Text) :
    (assess r line).level = .low ↔ (∀ tier, ¬HasTier r line tier) ∧ ¬HasFlag r line := by
  rcases level_assess_cases r line with ⟨t, ht, hl, hle⟩ | ⟨ht, ⟨hf, hl⟩ | ⟨hf, hl⟩⟩
  · rw [hl]
    refine ⟨?_, fun h => absurd ht (h.1 t)⟩
    rintro rfl
    exact absurd hle (by decide)
  · simp [hl, hf]
  · simp [hl, ht, hf]

theorem explanation_assess (r : Registry) {line word : Text}
    (h : (Text.words line).head? = some word) :
    (assess r line).explanation =
      if (assess r line).isSafe then
        ((r.explanation? (Registry.lookupKey word)).filter (! ·.isEmpty)).getD genericExplanation
      else caution (Registry.lookupKey word) := by
  have hne : (Text.words line).isEmpty = false := by
    cases hw : Text.words line <;> simp_all
  simp only [assess, hne, Bool.false_eq_true, if_false, Registry.safeExplanation,
    Registry.base_of_head? h]
  split
  · cases r.explanation? (Registry.lookupKey word) with
    | none => rfl
    | some text => cases text <;> rfl
  · rfl

/-- **The verdict on every command line.** The level is that of the command, medium for flags
without one, and low for everything else; a line is safe exactly when its level is low; an
unsafe line is explained by a caution, a safe one from the tables. -/
theorem assess_verdict (r : Registry) (line : Text) :
    ((assess r line).level = .critical ↔ HasTier r line .critical) ∧
    ((assess r line).level = .high ↔ HasTier r line .high) ∧
    ((assess r line).level = .medium ↔ (∀ tier, ¬HasTier r line tier) ∧ HasFlag r line) ∧
    ((assess r line).level = .low ↔ (∀ tier, ¬HasTier r line tier) ∧ ¬HasFlag r line) ∧
    ((assess r line).isSafe = true ↔ (assess r line).level = .low) ∧
    (Text.words line = [] → (assess r line).explanation = emptyExplanation) ∧
    (∀ word, (Text.words line).head? = some word →
      (assess r line).explanation =
        if (assess r line).isSafe then
          ((r.explanation? (Registry.lookupKey word)).filter (! ·.isEmpty)).getD
            genericExplanation
        else caution (Registry.lookupKey word)) ∧
    isCommandSafe r line = (assess r line).isSafe ∧
    commandWarnings r line = (assess r line).warnings := by
  refine ⟨level_assess_iff_hasTier r line (by decide), level_assess_iff_hasTier r line (by decide),
    level_assess_eq_medium_iff r line, level_assess_eq_low_iff r line, isSafe_assess_iff r line,
    ?_, fun _ h => explanation_assess r h, rfl, rfl⟩
  intro h
  rw [assess_of_words_eq_nil r h]
  rfl

end CommandAdvisor.Risk
