import CommandAdvisor.Proofs.Risk.Verdict
import CommandAdvisor.Proofs.Text.Words

/-!
# Verdicts only rise

More words behind a command line and more rules in a registry never make a verdict milder,
and nothing that was said about a line is left unsaid when words follow it. The command
stays the same, so its tier and what is said about it stay; flags are looked for in each word
by itself.

## Main definitions
* `Registry.IsCoveredBy`: another registry has all commands and flags, at least as severe.

## Main statements
* `Registry.level_le_level_append`: more words and more rules raise the level.
* `Registry.warnings_sublist_append`: more words add warnings among those there are.
* `verdict_only_rises`: the same of command lines.
-/
namespace CommandAdvisor.Risk

/-! ## Levels in order -/

namespace Level

theorem le_refl (a : Level) : a ≤ a := Nat.le_refl a.rank

theorem le_trans {a b c : Level} (hab : a ≤ b) (hbc : b ≤ c) : a ≤ c := Nat.le_trans hab hbc

theorem low_le (a : Level) : .low ≤ a := Nat.zero_le a.rank

theorem eq_low_of_le {a : Level} (h : a ≤ .low) : a = .low :=
  rank_injective (Nat.le_zero.1 h)

end Level

namespace Registry

/-- Every dangerous command of a registry is in the other one with at least the same tier, and
so is every dangerous flag. -/
structure IsCoveredBy (r r' : Registry) : Prop where
  command : ∀ word tier, r.tables.dangerousCommands.lookup word = some tier →
    ∃ tier', r'.tables.dangerousCommands.lookup word = some tier' ∧ tier ≤ tier'
  flag : ∀ word ∈ r.tables.dangerousFlags, word ∈ r'.tables.dangerousFlags

variable {r r' : Registry}

/-! ## Levels -/

theorem base_append {words : List Text} (h : words ≠ []) (more : List Text) :
    base (words ++ more) = base words := by
  obtain ⟨word, words, rfl⟩ := List.exists_cons_of_ne_nil h
  rfl

theorem flagsIn_append (r : Registry) (words more : List Text) :
    r.flagsIn (words ++ more) = r.flagsIn words ++ r.flagsIn more := List.filter_append ..

/-- A registry finds at least the flags of one that it covers. -/
theorem IsCoveredBy.isEmpty_flagsIn (h : r.IsCoveredBy r') {words : List Text}
    (hr' : (r'.flagsIn words).isEmpty = true) : (r.flagsIn words).isEmpty = true := by
  rw [Registry.isEmpty_flagsIn] at hr' ⊢
  intro word hword hflag
  exact hr' word hword (h.flag word hflag)

/-- **More words and more rules raise the level,** or leave it. -/
theorem level_le_level_append (h : r.IsCoveredBy r') {words : List Text} (hwords : words ≠ [])
    (more : List Text) : r.level words ≤ r'.level (words ++ more) := by
  rw [level_eq, level_eq, base_append hwords]
  cases htier : r.tier? (base words) with
  | some tier =>
    obtain ⟨tier', htier', hle⟩ := h.command _ _ htier
    have htier' : r'.tier? (base words) = some tier' := htier'
    simpa [htier'] using hle
  | none =>
    by_cases hflags : (r.flagsIn words).isEmpty = true
    · simpa [hflags] using Level.low_le _
    · have hmedium : (r'.flagsIn (words ++ more)).isEmpty = false := by
        rw [← Bool.not_eq_true]
        intro hempty
        refine hflags (h.isEmpty_flagsIn ?_)
        rw [flagsIn_append, List.isEmpty_iff, List.append_eq_nil_iff] at hempty
        exact List.isEmpty_iff.2 hempty.1
      cases htier' : r'.tier? (base words) with
      | none => simp [hflags, hmedium, Level.le_refl]
      | some tier' =>
        have hhigh : .medium ≤ Level.high := by decide
        simpa [hflags] using Level.le_trans hhigh (high_le_of_tier? htier')

/-! ## Warnings -/

theorem commandWarnings_append (r : Registry) {words : List Text} (h : words ≠ [])
    (more : List Text) : r.commandWarnings (words ++ more) = r.commandWarnings words := by
  rw [commandWarnings, commandWarnings, base_append h]

/-- What is said about words where one of them calls for it is said about more words too. -/
theorem sublist_of_any_append {p : Text → Bool} (words more : List Text) (warning : Text) :
    List.Sublist (if words.any p then [warning] else [])
      (if (words ++ more).any p then [warning] else []) := by
  by_cases h : words.any p = true
  · simp [h]
  · simp [h]

/-- **More words add warnings among those there are.** Those on the flags among the added
words stand before those on wildcards and system paths. -/
theorem warnings_sublist_append (r : Registry) {words : List Text} (h : words ≠ [])
    (more : List Text) : List.Sublist (r.warnings words) (r.warnings (words ++ more)) := by
  rw [warnings, warnings, commandWarnings_append r h, flagsIn_append, List.map_append]
  have hflags := List.sublist_append_left ((r.flagsIn words).map flagWarning)
    ((r.flagsIn more).map flagWarning)
  exact (((List.Sublist.refl _).append hflags).append (sublist_of_any_append words more _)).append
    (sublist_of_any_append words more _)

end Registry

/-! ## Command lines -/

theorem warnings_assess (r : Registry) (line : Text) :
    (assess r line).warnings =
      if Text.words line = [] then [] else r.warnings (Text.words line) := by
  simp only [assess, List.isEmpty_iff]
  split <;> rfl

/-- **A verdict only rises** when white space and more words follow a command line and when
another registry covers the first one; and what was said about the line is said again, in the
same order. -/
theorem verdict_only_rises (line : Text) {more : Text}
    (hmore : more = [] ∨ Text.startsBlank more = true) :
    (∀ r r' : Registry, r.IsCoveredBy r' →
      (assess r line).level ≤ (assess r' (line ++ more)).level ∧
      ((assess r' (line ++ more)).isSafe = true → (assess r line).isSafe = true)) ∧
    ∀ r : Registry,
      List.Sublist (assess r line).warnings (assess r (line ++ more)).warnings := by
  have hwords := Text.words_append line hmore
  by_cases hline : Text.words line = []
  · refine ⟨fun r r' _ => ?_, fun r => ?_⟩
    · have hlow : (assess r line).level = .low := by rw [level_assess, if_pos hline]
      refine ⟨by rw [hlow]; exact Level.low_le _, fun _ => (isSafe_assess_iff r line).2 hlow⟩
    · rw [warnings_assess, if_pos hline]
      exact List.nil_sublist _
  · have hboth : Text.words (line ++ more) ≠ [] := by
      rw [hwords]
      exact List.append_ne_nil_of_left_ne_nil hline _
    refine ⟨fun r r' h => ?_, fun r => ?_⟩
    · have hle : (assess r line).level ≤ (assess r' (line ++ more)).level := by
        rw [level_assess, level_assess, if_neg hline, if_neg hboth, hwords]
        exact Registry.level_le_level_append h hline _
      refine ⟨hle, ?_⟩
      rw [isSafe_assess_iff, isSafe_assess_iff]
      intro hlow
      exact Level.eq_low_of_le (hlow ▸ hle)
    · rw [warnings_assess, warnings_assess, if_neg hline, if_neg hboth, hwords]
      exact r.warnings_sublist_append hline _

/-- A registry with one dangerous command, of a tier. -/
def Registry.single (tier : Level) (h : .high ≤ tier) : Registry where
  tables := ⟨[("dd", tier)], [], [], [], [], [], [], []⟩
  keys_lower := by
    have hkey : Text.lower "dd" = "dd" := by decide +kernel
    simpa [Tables.keys] using hkey
  high_le_tier := by simpa using h
  priorities_ascending := .nil

/-- A higher tier, and a wildcard behind the line. -/
theorem verdict_only_rises_single :
    (assess (.single .high (by decide)) "dd if=x").level ≤
        (assess (.single .critical (by decide)) ("dd if=x" ++ " *")).level ∧
      List.Sublist (assess (.single .high (by decide)) "dd if=x").warnings
        (assess (.single .high (by decide)) ("dd if=x" ++ " *")).warnings := by
  have hcovered : (Registry.single .high (by decide)).IsCoveredBy
      (.single .critical (by decide)) := by
    refine ⟨?_, by simp [Registry.single]⟩
    intro word tier h
    by_cases hword : word = "dd"
    · subst hword
      obtain rfl : Level.high = tier := Option.some.inj h
      exact ⟨.critical, rfl, by decide⟩
    · have hne : (word == Text.ofString "dd") = false := by simpa using hword
      simp [Registry.single, List.lookup_cons, hne] at h
  have hmore : (" *" : Text) = [] ∨ Text.startsBlank " *" = true := .inr (by decide)
  have hrises := verdict_only_rises "dd if=x" hmore
  exact ⟨(hrises.1 _ _ hcovered).1, hrises.2 _⟩

end CommandAdvisor.Risk
