import CommandAdvisor.Proofs.Risk.Escalation
import Mathlib.Data.List.Infix

/-!
# What is said about a command line

The warnings of a verdict are those of five rules behind each other: on the command, on its
being critical, on each flag, on wildcards and on system paths. Wildcards and system paths are
looked for word by word. White space is no wildcard, and a system path without white space
lies within a word wherever it stands, so the whole line may as well be searched.

## Main definitions
* `HoldsSystemPath`: some word of a line holds some system path.

## Main statements
* `commandWarnings_eq`: what is said about the command itself, rule by rule.
* `any_hasWildcard_iff`: a wildcard is in some word exactly if it is in the line.
* `holdsSystemPath_iff`: the same of system paths without white space.
* `warnings_of_verdict`: the warnings of all command lines.
-/
namespace CommandAdvisor.Risk

open Text (IsSolid words)

/-- Some word of a line holds some system path. -/
def HoldsSystemPath (r : Registry) (line : Text) : Prop :=
  ∃ word ∈ words line, ∃ path ∈ r.tables.systemPaths, path <:+: word

instance (r : Registry) (line : Text) : Decidable (HoldsSystemPath r line) :=
  inferInstanceAs (Decidable (∃ word ∈ words line, ∃ path ∈ r.tables.systemPaths, path <:+: word))

/-! ## The rules one by one -/

namespace Registry

/-- What is said about the command itself, rule by rule. -/
theorem commandWarnings_eq (r : Registry) (words : List Text) :
    r.commandWarnings words =
      (if (r.tier? (base words)).isSome then [commandWarning (base words)] else []) ++
        (if r.tier? (base words) = some .critical then [r.criticalNote (base words)] else []) := by
  rw [Registry.commandWarnings]
  rcases r.tier_cases (base words) with h | h | h <;> simp [h]

theorem flagsIn_eq (r : Registry) (words : List Text) :
    r.flagsIn words = words.filter (· ∈ r.tables.dangerousFlags) :=
  List.filter_congr fun _ _ => List.contains_eq_mem ..

theorem touchesSystem_iff {r : Registry} {words : List Text} :
    r.touchesSystem words = true ↔
      ∃ word ∈ words, ∃ path ∈ r.tables.systemPaths, path <:+: word := by
  simp only [touchesSystem, List.any_eq_true, Text.mentions, Text.occursIn_iff]

/-- Words that are not safe are warned of. -/
theorem warnings_ne_nil {r : Registry} {words : List Text} (h : r.isSafe words = false) :
    r.warnings words ≠ [] := by
  intro hnone
  rw [warnings, List.append_eq_nil_iff, List.append_eq_nil_iff, List.append_eq_nil_iff,
    List.map_eq_nil_iff] at hnone
  obtain ⟨⟨⟨hcommand, hflags⟩, -⟩, -⟩ := hnone
  have htier : r.tier? (base words) = none := by
    rw [commandWarnings_eq, List.append_eq_nil_iff] at hcommand
    simpa using hcommand.1
  rw [isSafe, htier, hflags] at h
  cases h

end Registry

/-- A word holds a wildcard if one of the two signs stands in it. -/
theorem hasWildcard_iff {word : Text} :
    hasWildcard word = true ↔ Letter.char '*' ∈ word ∨ Letter.char '?' ∈ word := by
  simp [hasWildcard, and_or_left, exists_or]

/-- What is no white space is in some word of a line exactly if it is in the line. -/
theorem exists_mem_words_mem_iff {line : Text} {l : Letter} (hl : Text.isBlank l = false) :
    (∃ word ∈ words line, l ∈ word) ↔ l ∈ line := by
  have hsolid : IsSolid [l] := by simpa [IsSolid] using hl
  have h := Text.exists_mem_words_infix_iff (s := line) hsolid (List.cons_ne_nil l [])
  simpa only [List.singleton_infix_iff] using h

/-- A wildcard is in some word of a line exactly if it is in the line. -/
theorem any_hasWildcard_iff {line : Text} :
    (words line).any hasWildcard = true ↔ Letter.char '*' ∈ line ∨ Letter.char '?' ∈ line := by
  rw [← exists_mem_words_mem_iff (l := .char '*') (by decide),
    ← exists_mem_words_mem_iff (l := .char '?') (by decide)]
  simp only [List.any_eq_true, hasWildcard_iff, and_or_left, exists_or]

/-- **A system path without white space is in some word exactly if it is in the line.** The
empty path is in both, as there is a word. -/
theorem holdsSystemPath_iff {r : Registry} {line : Text} (hline : words line ≠ [])
    (hpaths : ∀ path ∈ r.tables.systemPaths, IsSolid path) :
    HoldsSystemPath r line ↔ ∃ path ∈ r.tables.systemPaths, path <:+: line := by
  have hpath : ∀ path ∈ r.tables.systemPaths,
      (∃ word ∈ words line, path <:+: word) ↔ path <:+: line := by
    intro path hmem
    by_cases hnil : path = []
    · subst hnil
      obtain ⟨word, hword⟩ := List.exists_mem_of_ne_nil _ hline
      exact ⟨fun _ => List.nil_infix, fun _ => ⟨word, hword, List.nil_infix⟩⟩
    · exact Text.exists_mem_words_infix_iff (hpaths path hmem) hnil
  constructor
  · rintro ⟨word, hword, path, hmem, hin⟩
    exact ⟨path, hmem, (hpath path hmem).1 ⟨word, hword, hin⟩⟩
  · rintro ⟨path, hmem, hin⟩
    obtain ⟨word, hword, hin⟩ := (hpath path hmem).2 hin
    exact ⟨word, hword, path, hmem, hin⟩

/-! ## Command lines -/

/-- **The warnings of every verdict,** rule by rule. Flags are warned of in the order of the
line and as often as they occur. System paths without white space may as well be looked for in
the whole line. A verdict that is not safe says why. -/
theorem warnings_of_verdict (r : Registry) (line : Text) :
    (∀ word, (words line).head? = some word →
      (assess r line).warnings =
        (if (r.tier? (Registry.lookupKey word)).isSome
          then [commandWarning (Registry.lookupKey word)] else []) ++
        (if r.tier? (Registry.lookupKey word) = some .critical
          then [r.criticalNote (Registry.lookupKey word)] else []) ++
        ((words line).filter (· ∈ r.tables.dangerousFlags)).map flagWarning ++
        (if Letter.char '*' ∈ line ∨ Letter.char '?' ∈ line then [wildcardWarning] else []) ++
        (if HoldsSystemPath r line then [systemPathWarning] else [])) ∧
    (words line ≠ [] → (∀ path ∈ r.tables.systemPaths, IsSolid path) →
      (HoldsSystemPath r line ↔ ∃ path ∈ r.tables.systemPaths, path <:+: line)) ∧
    ((assess r line).isSafe = false → (assess r line).warnings ≠ []) := by
  refine ⟨?_, holdsSystemPath_iff, ?_⟩
  · intro word hword
    have hline : words line ≠ [] := by
      intro hnil
      rw [hnil] at hword
      cases hword
    have hpath : r.touchesSystem (words line) = true ↔ HoldsSystemPath r line :=
      Registry.touchesSystem_iff
    rw [warnings_assess, if_neg hline, Registry.warnings, Registry.commandWarnings_eq,
      Registry.base_of_head? hword, Registry.flagsIn_eq]
    simp only [any_hasWildcard_iff, hpath]
  · intro hunsafe
    have hwords : ¬(words line = [] ∨ r.isSafe (words line) = true) := by
      rw [← isSafe_assess, hunsafe]
      exact Bool.false_ne_true
    rw [not_or, Bool.not_eq_true] at hwords
    rw [warnings_assess, if_neg hwords.1]
    exact Registry.warnings_ne_nil hwords.2

/-- A critical command in capitals, a flag twice, a wildcard and a system path. -/
theorem warnings_of_verdict_builtIn :
    (assess .builtIn "RM -rf  -rf /etc/*").warnings =
        [commandWarning "rm", Registry.builtIn.criticalNote "rm", flagWarning "-rf",
          flagWarning "-rf", wildcardWarning, systemPathWarning] ∧
      (HoldsSystemPath .builtIn "RM -rf  -rf /etc/*" ↔
        ∃ path ∈ Registry.builtIn.tables.systemPaths,
          path <:+: Text.ofString "RM -rf  -rf /etc/*") ∧
      (assess .builtIn "RM -rf  -rf /etc/*").warnings ≠ [] := by
  obtain ⟨hwarnings, hpath, hunsafe⟩ := warnings_of_verdict .builtIn "RM -rf  -rf /etc/*"
  refine ⟨(hwarnings "RM" (by decide +kernel)).trans ?_,
    hpath (by decide +kernel) (by decide +kernel), hunsafe (by decide +kernel)⟩
  decide +kernel

end CommandAdvisor.Risk
