import CommandAdvisor.Proofs.Json.Lexemes
import CommandAdvisor.Proofs.Risk.Verdict
import CommandAdvisor.Proofs.Text.Soundness
import CommandAdvisor.Risk.Record

/-!
# Which verdicts can be written

A verdict quotes the command line and the tables of the registry. Where the tables hold
nothing but characters, a verdict can be written for others to read exactly if the command
line holds no half of a surrogate pair.

## Main definitions
* `Registry.IsSound`: the tables that are quoted hold no halves.
* `Analysis.texts`: the texts of a verdict.

## Main statements
* `Analysis.isSound_encode`: a verdict can be written if its texts are sound.
* `isSound_assess_iff`: the texts of a verdict are sound exactly if the command line is.
-/
namespace CommandAdvisor.Risk

open Json (Value)

theorem Level.isSound_name (l : Level) : l.name.isSound = true := by
  cases l <;> exact Text.isSound_ofString _

namespace Analysis

/-- The texts of a verdict. -/
def texts (a : Analysis) : List Text :=
  a.command :: (a.warnings ++ (a.mockOutput.toList ++
    a.explanation :: (a.alternatives ++ a.safeFlags)))

/-- A verdict can be written if its texts are sound. -/
theorem isSound_encode {a : Analysis} :
    a.encode.IsSound ↔ ∀ t ∈ a.texts, t.isSound = true := by
  have hbool : (Value.bool a.isSafe).IsSound := rfl
  simp only [encode, texts, Value.isSound_object, Value.isSound_string, Value.isSound_strings,
    Value.isSound_nullable, hbool, Level.isSound_name, Text.isSound_ofString, true_and,
    List.forall_mem_cons, List.forall_mem_append, Option.mem_toList, Option.mem_def]
  simp

end Analysis

namespace Registry

/-- The texts of the tables that verdicts quote. -/
def texts (r : Registry) : List Text :=
  r.tables.criticalNotes.map Prod.snd ++ r.tables.explanations.map Prod.snd ++
    r.tables.alternatives.flatMap Prod.snd ++ r.tables.safeFlags.flatMap Prod.snd ++
    r.tables.mockOutputs.map MockRule.output

/-- No text that verdicts quote holds half of a surrogate pair. -/
def IsSound (r : Registry) : Prop := ∀ t ∈ r.texts, t.isSound = true

theorem isSound_builtIn : Registry.builtIn.IsSound := by
  simp [IsSound, texts, builtIn, BuiltIn.tables, BuiltIn.criticalNotes, BuiltIn.explanations,
    BuiltIn.alternatives, BuiltIn.safeFlags, BuiltIn.mockOutputs, BuiltIn.listing,
    BuiltIn.forCommand, Text.isSound_append]

variable {r : Registry}

theorem isSound_base {words : List Text} (h : ∀ word ∈ words, word.isSound = true) :
    (base words).isSound = true := by
  refine Text.isSound_lower ?_
  cases words with
  | nil => rfl
  | cons word rest => exact h word List.mem_cons_self

theorem mem_map_snd_of_lookup {β : Type} {entries : List (Text × β)} {key : Text} {b : β}
    (h : entries.lookup key = some b) : b ∈ entries.map Prod.snd := by
  obtain ⟨before, after, heq, -⟩ := List.lookup_eq_some_iff.1 h
  simp [heq]

theorem isSound_criticalNote (hr : r.IsSound) {word : Text} (h : word.isSound = true) :
    (r.criticalNote word).isSound = true := by
  rw [criticalNote]
  cases hnote : r.tables.criticalNotes.lookup (lookupKey word) with
  | none => exact Text.isSound_append.2 ⟨Text.isSound_lower h, Text.isSound_ofString _⟩
  | some note => exact hr note (by simp [texts, mem_map_snd_of_lookup hnote])

theorem isSound_commandWarning {base : Text} (h : base.isSound = true) :
    (commandWarning base).isSound = true := by
  simp [commandWarning, Text.isSound_append, h]

theorem isSound_of_mem_commandWarnings (hr : r.IsSound) {words : List Text}
    (h : ∀ word ∈ words, word.isSound = true) :
    ∀ t ∈ r.commandWarnings words, t.isSound = true := by
  have hwarning := isSound_commandWarning (isSound_base h)
  rw [commandWarnings]
  split
  · simp
  · simp [hwarning, isSound_criticalNote hr (isSound_base h)]
  · simp [hwarning]

/-- What is said about sound words is sound. -/
theorem isSound_of_mem_warnings (hr : r.IsSound) {words : List Text}
    (h : ∀ word ∈ words, word.isSound = true) : ∀ t ∈ r.warnings words, t.isSound = true := by
  simp only [warnings, List.forall_mem_append, List.forall_mem_map]
  refine ⟨⟨⟨isSound_of_mem_commandWarnings hr h, ?_⟩, ?_⟩, ?_⟩
  · intro flag hflag
    have hsound := h flag (List.mem_of_mem_filter hflag)
    simp [flagWarning, Text.isSound_append, hsound]
  · split <;> simp [wildcardWarning]
  · split <;> simp [systemPathWarning]

theorem isSound_safeExplanation (hr : r.IsSound) (words : List Text) :
    (r.safeExplanation words).isSound = true := by
  have hgeneric : genericExplanation.isSound = true := Text.isSound_ofString _
  rw [safeExplanation]
  split
  · next text htext =>
    split
    · exact hgeneric
    · exact hr text (by simp [texts, mem_map_snd_of_lookup htext])
  · exact hgeneric

theorem isSound_of_mem_getD_lookup {entries : List (Text × List Text)} {key : Text}
    (h : ∀ t ∈ entries.flatMap Prod.snd, t.isSound = true) :
    ∀ t ∈ (entries.lookup key).getD [], t.isSound = true := by
  intro t ht
  cases hfound : entries.lookup key with
  | none => simp [hfound] at ht
  | some ts =>
    rw [hfound] at ht
    obtain ⟨e, he, rfl⟩ := List.mem_map.1 (mem_map_snd_of_lookup hfound)
    exact h t (List.mem_flatMap.2 ⟨e, he, ht⟩)

theorem isSound_of_mem_mockOutput? (hr : r.IsSound) (line : Text) :
    ∀ t ∈ (r.mockOutput? line).toList, t.isSound = true := by
  intro t ht
  rw [mockOutput?, Option.mem_toList, Option.map_eq_some_iff] at ht
  obtain ⟨rule, hrule, rfl⟩ := ht
  exact hr rule.output (by simp [texts, List.mem_map_of_mem (List.mem_of_find?_eq_some hrule)])

end Registry

/-- **The texts of a verdict are sound exactly if the command line is,** for tables of sound
texts. -/
theorem isSound_assess_iff {r : Registry} (hr : r.IsSound) (line : Text) :
    (∀ t ∈ (assess r line).texts, t.isSound = true) ↔ line.isSound = true := by
  by_cases hwords : Text.words line = []
  · have hline : line.isSound = true := (Text.isBlank_of_words_eq_nil hwords).isSound
    rw [assess_of_words_eq_nil r hwords, iff_true_right hline]
    decide
  · constructor
    · intro h
      rw [← Text.isSound_trim, ← command_assess r]
      exact h _ List.mem_cons_self
    · intro hline
      have hsound : ∀ word ∈ Text.words line, word.isSound = true :=
        fun word hword => Text.isSound_of_mem_words hline hword
      simp only [assess, List.isEmpty_iff, hwords, if_false, Analysis.texts,
        List.forall_mem_cons, List.forall_mem_append]
      refine ⟨(Text.isSound_trim line).2 hline, Registry.isSound_of_mem_warnings hr hsound,
        Registry.isSound_of_mem_mockOutput? hr _, ?_, ?_, ?_⟩
      · split
        · exact Registry.isSound_safeExplanation hr _
        · simp [caution, Text.isSound_append, Registry.isSound_base hsound]
      · refine Registry.isSound_of_mem_getD_lookup fun t ht => hr t ?_
        simp only [Registry.texts, List.mem_append, ht, true_or, or_true]
      · refine Registry.isSound_of_mem_getD_lookup fun t ht => hr t ?_
        simp only [Registry.texts, List.mem_append, ht, true_or, or_true]

end CommandAdvisor.Risk
