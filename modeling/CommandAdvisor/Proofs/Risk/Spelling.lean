import CommandAdvisor.Proofs.Risk.Warnings
import CommandAdvisor.Proofs.Text.Casing

/-!
# The spelling of commands

Commands are looked up in lower case, and a text in lower case stays as it is. So a word and
its lower case find the same in every table, and the keys of the tables, which are in lower case,
are all found. Flags and system paths are compared as they are spelled. So verdicts on a
command in two spellings agree unless a flag or a system path tells the spellings apart.

## Main statements
* `lookupKey_lookupKey` and `lookups_lookupKey`: the spelling of the tables is looked up as it
  is, and so it finds what any other spelling finds.
* `flagsIn_cons_eq_iff` and `warnings_cons_eq_iff`: when another spelling of the first word
  changes nothing about flags and warnings.
* `verdict_of_spelling`: what the spelling of a command decides.
-/
namespace CommandAdvisor.Risk

open Text (words)

namespace Registry

variable {r : Registry} {first first' : Text}

/-! ## Looking up -/

/-- The spelling of the tables is looked up as it is. -/
@[simp] theorem lookupKey_lookupKey (word : Text) :
    lookupKey (lookupKey word) = lookupKey word := Text.lower_lower word

/-- A word and its lower case find the same in every table. -/
theorem lookups_lookupKey (r : Registry) (word : Text) :
    r.tier? (lookupKey word) = r.tier? word ∧
    r.explanation? (lookupKey word) = r.explanation? word ∧
    r.alternatives (lookupKey word) = r.alternatives word ∧
    r.safeFlags (lookupKey word) = r.safeFlags word ∧
    r.criticalNote (lookupKey word) = r.criticalNote word := by
  simp only [tier?, explanation?, alternatives, safeFlags, criticalNote, lookupKey_lookupKey,
    and_self]

/-- All keys of the tables are in lower case. -/
theorem lookupKey_of_mem (r : Registry) :
    (∀ key ∈ r.tables.dangerousCommands.map Prod.fst, lookupKey key = key) ∧
    (∀ key ∈ r.tables.explanations.map Prod.fst, lookupKey key = key) ∧
    (∀ key ∈ r.tables.alternatives.map Prod.fst, lookupKey key = key) ∧
    (∀ key ∈ r.tables.safeFlags.map Prod.fst, lookupKey key = key) ∧
    ∀ key ∈ r.tables.criticalNotes.map Prod.fst, lookupKey key = key := by
  have h := r.keys_lower
  simp only [Tables.keys, List.forall_mem_cons, List.not_mem_nil, false_imp_iff, implies_true,
    and_true] at h
  exact h

section Keys

variable {β : Type} {table : List (Text × β)} {key : Text}

/-- A key of a table is found in it as it is spelled. -/
theorem exists_lookup_of_mem (hlower : ∀ key ∈ table.map Prod.fst, lookupKey key = key)
    (hkey : key ∈ table.map Prod.fst) :
    ∃ b, table.lookup (lookupKey key) = some b ∧ (key, b) ∈ table := by
  rw [hlower key hkey]
  cases hfound : table.lookup key with
  | none =>
    obtain ⟨e, he, rfl⟩ := List.mem_map.1 hkey
    have hne := List.lookup_eq_none_iff.1 hfound e he
    simp at hne
  | some b =>
    obtain ⟨before, after, rfl, -⟩ := List.lookup_eq_some_iff.1 hfound
    exact ⟨b, rfl, List.mem_append_right before List.mem_cons_self⟩

theorem getD_lookup_mem (hlower : ∀ key ∈ table.map Prod.fst, lookupKey key = key)
    (hkey : key ∈ table.map Prod.fst) (default : β) :
    (key, (table.lookup (lookupKey key)).getD default) ∈ table := by
  obtain ⟨b, hfound, hmem⟩ := exists_lookup_of_mem hlower hkey
  rwa [hfound]

end Keys

/-! ## Two spellings of the first word -/

/-- What is recommended for a word depends on no more than how it is looked up. -/
theorem recommendations_congr (r : Registry) (h : lookupKey first = lookupKey first') :
    r.alternatives first = r.alternatives first' ∧ r.safeFlags first = r.safeFlags first' := by
  rw [alternatives, alternatives, safeFlags, safeFlags, h]
  exact ⟨rfl, rfl⟩

theorem base_cons_eq (h : lookupKey first = lookupKey first') (rest : List Text) :
    base (first :: rest) = base (first' :: rest) := h

/-- No spelling of a word has other wildcards. -/
theorem hasWildcard_lookupKey (word : Text) : hasWildcard (lookupKey word) = hasWildcard word := by
  have hstar := Text.mem_lower_iff_of_lt (m := .char '*') (by decide) (s := word)
  have hmark := Text.mem_lower_iff_of_lt (m := .char '?') (by decide) (s := word)
  rw [Bool.eq_iff_iff, hasWildcard_iff, hasWildcard_iff, lookupKey, hstar, hmark]

theorem flagsIn_cons (r : Registry) (first : Text) (rest : List Text) :
    r.flagsIn (first :: rest) =
      (if first ∈ r.tables.dangerousFlags then [first] else []) ++ r.flagsIn rest := by
  rw [flagsIn_eq, flagsIn_eq, List.filter_cons]
  by_cases h : first ∈ r.tables.dangerousFlags <;> simp [h]

/-- The flags are the same unless one of the two first words is a flag and not the other one. -/
theorem flagsIn_cons_eq_iff (rest : List Text) :
    r.flagsIn (first :: rest) = r.flagsIn (first' :: rest) ↔
      first = first' ∨ first ∉ r.tables.dangerousFlags ∧ first' ∉ r.tables.dangerousFlags := by
  rw [flagsIn_cons, flagsIn_cons, List.append_left_inj]
  by_cases h : first ∈ r.tables.dangerousFlags
  · by_cases h' : first' ∈ r.tables.dangerousFlags
    · simp [h, h']
    · have hne : first ≠ first' := fun heq => h' (heq ▸ h)
      simp [h, h', hne]
  · by_cases h' : first' ∈ r.tables.dangerousFlags
    · have hne : first ≠ first' := fun heq => h (heq ▸ h')
      simp [h, h', hne]
    · simp [h, h']

end Registry

/-! ## Warnings told apart -/

theorem flagWarning_injective : Function.Injective flagWarning := by
  intro a b h
  have hflag := List.append_cancel_right h
  exact List.append_cancel_left hflag

/-- The warning on system paths is about nothing else. -/
theorem systemPathWarning_notMem (flags : List Text) (wild : Bool) :
    systemPathWarning ∉ flags.map flagWarning ++ (if wild then [wildcardWarning] else []) := by
  have hhead (flag : Text) : (flagWarning flag).head? = some 'F' := rfl
  rw [List.mem_append, List.mem_map]
  rintro (⟨flag, -, heq⟩ | hwild)
  · have := hhead flag
    rw [heq] at this
    exact absurd this (by decide)
  · have hne : systemPathWarning ≠ wildcardWarning := by decide
    cases wild with
    | false => cases hwild
    | true => exact hne (List.mem_singleton.1 hwild)

/-- What stands at the end of one list exactly if it stands at the end of another one, and
nowhere before, leaves the rest of the lists to be compared. -/
theorem append_ite_singleton_inj {α : Type} {x : α} {s t : List α} {p q : Prop} [Decidable p]
    [Decidable q] (hs : x ∉ s) (ht : x ∉ t) :
    s ++ (if p then [x] else []) = t ++ (if q then [x] else []) ↔ s = t ∧ (p ↔ q) := by
  have hmem {u : List α} {p : Prop} [Decidable p] (hu : x ∉ u) :
      x ∈ u ++ (if p then [x] else []) ↔ p := by
    by_cases hp : p <;> simp [hp, hu]
  constructor
  · intro h
    have hiff : p ↔ q := by rw [← hmem (p := p) hs, h, hmem ht]
    simp only [hiff, List.append_left_inj] at h
    exact ⟨h, hiff⟩
  · rintro ⟨rfl, hiff⟩
    simp only [hiff]

namespace Registry

variable {r : Registry} {first first' : Text}

/-- The warnings are the same exactly if the flags are and both lists hold a system path or none
of them does. -/
theorem warnings_cons_eq_iff (h : lookupKey first = lookupKey first') {rest : List Text} :
    r.warnings (first :: rest) = r.warnings (first' :: rest) ↔
      r.flagsIn (first :: rest) = r.flagsIn (first' :: rest) ∧
        (r.touchesSystem (first :: rest) = true ↔ r.touchesSystem (first' :: rest) = true) := by
  have hcommand : r.commandWarnings (first :: rest) = r.commandWarnings (first' :: rest) := by
    rw [Registry.commandWarnings, Registry.commandWarnings, base_cons_eq h]
  have hwild : (first :: rest).any hasWildcard = (first' :: rest).any hasWildcard := by
    rw [List.any_cons, List.any_cons, ← hasWildcard_lookupKey first, h, hasWildcard_lookupKey]
  -- A critical note may be the warning on system paths word for word, so what is said about the
  -- command is cancelled before that warning is looked for.
  simp only [warnings, hcommand, hwild, List.append_assoc, List.append_right_inj]
  rw [← List.append_assoc, ← List.append_assoc,
    append_ite_singleton_inj (systemPathWarning_notMem _ _) (systemPathWarning_notMem _ _),
    List.append_left_inj, (List.map_injective_iff.2 flagWarning_injective).eq_iff]

/-- What is safe, how severe and how it is explained depends on no more than the command and the
flags. -/
theorem verdict_congr {words words' : List Text} (hbase : base words = base words')
    (hflags : r.flagsIn words = r.flagsIn words') : r.isSafe words = r.isSafe words' ∧
      r.level words = r.level words' ∧ r.safeExplanation words = r.safeExplanation words' := by
  rw [isSafe, isSafe, level, level, safeExplanation, safeExplanation, hbase, hflags]
  exact ⟨rfl, rfl, rfl⟩

end Registry

/-! ## Verdicts -/

theorem assess_of_words_eq_cons (r : Registry) {line first : Text} {rest : List Text}
    (h : words line = first :: rest) :
    assess r line =
      { command := Text.trim line
        isSafe := r.isSafe (first :: rest)
        level := r.level (first :: rest)
        warnings := r.warnings (first :: rest)
        mockOutput := r.mockOutput? (Text.trim line)
        explanation :=
          if r.isSafe (first :: rest) then r.safeExplanation (first :: rest)
          else caution (Registry.lookupKey first)
        alternatives := r.alternatives first
        safeFlags := r.safeFlags first } := by
  have hbase : Registry.base (first :: rest) = Registry.lookupKey first := rfl
  obtain ⟨-, -, halternatives, hsafeFlags, -⟩ := r.lookups_lookupKey first
  simp [assess, h, hbase, halternatives, hsafeFlags]

/-- Verdicts on a command in two spellings agree in all but the command and its sample exactly
if neither a flag nor a system path tells the spellings apart. -/
theorem assess_eq_iff_of_spelling (r : Registry) {a b first first' : Text} {rest : List Text}
    (ha : words a = first :: rest) (hb : words b = first' :: rest)
    (h : Registry.lookupKey first = Registry.lookupKey first') :
    assess r a = { assess r b with
        command := (assess r a).command, mockOutput := (assess r a).mockOutput } ↔
      (first = first' ∨ first ∉ r.tables.dangerousFlags ∧ first' ∉ r.tables.dangerousFlags) ∧
        (HoldsSystemPath r a ↔ HoldsSystemPath r b) := by
  have hpaths : (HoldsSystemPath r a ↔ HoldsSystemPath r b) ↔
      (r.touchesSystem (first :: rest) = true ↔ r.touchesSystem (first' :: rest) = true) := by
    rw [Registry.touchesSystem_iff, Registry.touchesSystem_iff, ← ha, ← hb]
    rfl
  rw [hpaths, ← Registry.flagsIn_cons_eq_iff rest, ← Registry.warnings_cons_eq_iff h]
  have hverdict (line : Text) {first : Text} (hline : words line = first :: rest) :
      (assess r line).warnings = r.warnings (first :: rest) := by
    rw [assess_of_words_eq_cons r hline]
  constructor
  · intro heq
    rw [← hverdict a ha, ← hverdict b hb, heq]
  · intro hwarnings
    have hbase := Registry.base_cons_eq h rest
    have hflags := ((Registry.warnings_cons_eq_iff h).1 hwarnings).1
    obtain ⟨halternatives, hsafeFlags⟩ := r.recommendations_congr h
    obtain ⟨hsafe, hlevel, hexplanation⟩ := Registry.verdict_congr hbase hflags
    rw [assess_of_words_eq_cons r ha, assess_of_words_eq_cons r hb, hwarnings, h, hsafe, hlevel,
      hexplanation, halternatives, hsafeFlags]

/-- **What the spelling of a command decides.** Words and their lower case find the same in every
table, and all keys are found as they are spelled. Verdicts on lines that differ in nothing but
the spelling of the first word recommend the same, and agree in all but the command and its
sample exactly if neither a flag nor a system path tells the spellings apart. -/
theorem verdict_of_spelling (r : Registry) :
    (∀ word, Registry.lookupKey (Registry.lookupKey word) = Registry.lookupKey word) ∧
    (∀ word,
      r.tier? (Registry.lookupKey word) = r.tier? word ∧
      r.explanation? (Registry.lookupKey word) = r.explanation? word ∧
      r.alternatives (Registry.lookupKey word) = r.alternatives word ∧
      r.safeFlags (Registry.lookupKey word) = r.safeFlags word ∧
      r.criticalNote (Registry.lookupKey word) = r.criticalNote word) ∧
    (∀ key ∈ r.tables.dangerousCommands.map Prod.fst,
      ∃ tier, r.tier? key = some tier ∧ (key, tier) ∈ r.tables.dangerousCommands) ∧
    (∀ key ∈ r.tables.explanations.map Prod.fst,
      ∃ text, r.explanation? key = some text ∧ (key, text) ∈ r.tables.explanations) ∧
    (∀ key ∈ r.tables.alternatives.map Prod.fst,
      (key, r.alternatives key) ∈ r.tables.alternatives) ∧
    (∀ key ∈ r.tables.safeFlags.map Prod.fst, (key, r.safeFlags key) ∈ r.tables.safeFlags) ∧
    (∀ key ∈ r.tables.criticalNotes.map Prod.fst,
      (key, r.criticalNote key) ∈ r.tables.criticalNotes) ∧
    ∀ a b first first' rest, words a = first :: rest → words b = first' :: rest →
      Registry.lookupKey first = Registry.lookupKey first' →
      (assess r a).alternatives = (assess r b).alternatives ∧
      (assess r a).safeFlags = (assess r b).safeFlags ∧
      (assess r a = { assess r b with
          command := (assess r a).command, mockOutput := (assess r a).mockOutput } ↔
        (first = first' ∨ first ∉ r.tables.dangerousFlags ∧ first' ∉ r.tables.dangerousFlags) ∧
          (HoldsSystemPath r a ↔ HoldsSystemPath r b)) := by
  obtain ⟨hcommands, hexplanations, halternatives, hsafeFlags, hnotes⟩ := r.lookupKey_of_mem
  refine ⟨Registry.lookupKey_lookupKey, r.lookups_lookupKey,
    fun _ hkey => Registry.exists_lookup_of_mem hcommands hkey,
    fun _ hkey => Registry.exists_lookup_of_mem hexplanations hkey,
    fun _ hkey => Registry.getD_lookup_mem halternatives hkey [],
    fun _ hkey => Registry.getD_lookup_mem hsafeFlags hkey [],
    fun _ hkey => Registry.getD_lookup_mem hnotes hkey _, ?_⟩
  intro a b first first' rest ha hb h
  have hsame := r.recommendations_congr h
  rw [← and_assoc]
  refine ⟨?_, assess_eq_iff_of_spelling r ha hb h⟩
  rwa [assess_of_words_eq_cons r ha, assess_of_words_eq_cons r hb]

/-- A command in capitals, and keys of the tables that are found. -/
theorem verdict_of_spelling_builtIn :
    assess .builtIn "RM -rf x" = { assess .builtIn "rm -rf x" with
        command := (assess .builtIn "RM -rf x").command
        mockOutput := (assess .builtIn "RM -rf x").mockOutput } ∧
      (∃ tier, Registry.builtIn.tier? "rm" = some tier) ∧
      (Text.ofString "rm", Registry.builtIn.criticalNote "rm") ∈
        Registry.builtIn.tables.criticalNotes := by
  obtain ⟨-, -, hcommands, -, -, -, hnotes, hverdicts⟩ := verdict_of_spelling .builtIn
  refine ⟨?_, ?_, hnotes "rm" (by decide +kernel)⟩
  · have hwords : words "RM -rf x" = ["RM", "-rf", "x"] := by decide +kernel
    have hwords' : words "rm -rf x" = ["rm", "-rf", "x"] := by decide +kernel
    refine (hverdicts _ _ _ _ _ hwords hwords' (by decide +kernel)).2.2.2 ⟨.inr ?_, ?_⟩
    · decide +kernel
    · decide +kernel
  · obtain ⟨tier, htier, -⟩ := hcommands "rm" (by decide +kernel)
    exact ⟨tier, htier⟩

/-- A flag in the place of the command is told from its other spelling. -/
theorem verdict_tells_flags_apart :
    ¬∀ (r : Registry) (a b first first' : Text) (rest : List Text),
      words a = first :: rest → words b = first' :: rest →
      Registry.lookupKey first = Registry.lookupKey first' →
      assess r a = { assess r b with
        command := (assess r a).command, mockOutput := (assess r a).mockOutput } := by
  intro h
  have hsame := h .builtIn "-F" "-f" "-F" "-f" [] (by decide +kernel) (by decide +kernel)
    (by decide +kernel)
  exact absurd (congrArg Analysis.isSafe hsame) (by decide +kernel)

end CommandAdvisor.Risk
