import CommandAdvisor.Proofs.Risk.Escalation
import Mathlib.Data.List.Nodup

/-!
# Verdicts and spacing

All of a verdict but its sample output is read off the words of a line. The sample is looked
for in the line itself, with patterns that are anchored at its start. A line is trimmed before,
so nothing stands in front of its first word, and white space behind that word is there only
where another word is. So the built-in patterns see no more than the words.

## Main definitions
* `sampledCommands`: the commands that the built-in registry has sample output for.
* `IsSampled`: the words for which the sample of a command is shown.
* `patternOf` and `sampleOf?`: the pattern and the sample output of a command.

## Main statements
* `isMatch_patternOf`: the pattern of a command fits by the words alone.
* `mockOutput?_builtIn`: the sample output by the words.
* `verdict_ignores_spacing`: spacing changes nothing about a verdict but the command.
-/
namespace CommandAdvisor.Risk

open Text (IsSolid startsBlank trim words)

/-! ## Patterns that start with a word -/

namespace Pattern

/-- The letters of a word match where the text starts with them. -/
theorem matchesAt_letters_append (word : Text) (es : List Element) (s : Text) :
    matchesAt (word.map .letter ++ es) s = true ↔
      ∃ rest, s = word ++ rest ∧ matchesAt es rest = true := by
  induction word generalizing s with
  | nil => simp
  | cons l word ih =>
    cases s with
    | nil => simp [matchesAt]
    | cons d s =>
      simp only [List.map_cons, List.cons_append, matchesAt, Bool.and_eq_true, decide_eq_true_eq,
        ih, List.cons.injEq]
      constructor
      · rintro ⟨rfl, rest, hs, hrest⟩
        exact ⟨rest, ⟨rfl, hs⟩, hrest⟩
      · rintro ⟨rest, ⟨rfl, hs⟩, hrest⟩
        exact ⟨rfl, rest, hs, hrest⟩

theorem matchesAt_blanks (s : Text) : matchesAt [.blanks] s = startsBlank s := by
  cases s with
  | nil => rfl
  | cons l s => simp [matchesAt, afterBlanks, startsBlank]

/-- A line feed at the end is white space like any other. -/
theorem matchesAt_boundary {s : Text} :
    matchesAt [.boundary] s = true ↔ s = [] ∨ startsBlank s = true := by
  cases s with
  | nil => simp [matchesAt, atEnd]
  | cons l s =>
    have hfeed : atEnd (l :: s) = true → Text.isBlank l = true := by
      intro hend
      have hline : l :: s = "\n" := by simpa [atEnd] using hend
      obtain ⟨rfl, -⟩ := List.cons.inj hline
      decide
    simpa [matchesAt, startsBlank] using hfeed

end Pattern

/-! ## Samples -/

/-- The commands that the built-in registry has sample output for. -/
def sampledCommands : List Text := ["ls", "find", "grep", "tar", "curl", "git", "ps", "df"]

/-- The sample of a command is shown for words that start with it; all but one command need
another word behind them. -/
def IsSampled (command : Text) (words : List Text) : Prop :=
  words.head? = some command ∧ (command = "ls" ∨ 2 ≤ words.length)

instance (command : Text) (words : List Text) : Decidable (IsSampled command words) :=
  inferInstanceAs (Decidable (_ ∧ _))

/-- The pattern of the lines that run a command. -/
def patternOf (command : Text) : Pattern :=
  ⟨true, command.map .letter ++ [if command = "ls" then .boundary else .blanks]⟩

/-- The sample output of a command in the built-in registry. -/
def sampleOf? (command : Text) : Option Text :=
  (BuiltIn.mockOutputs.find? fun rule => rule.pattern = patternOf command).map MockRule.output

/-- There is one rule for each of the commands. -/
theorem map_pattern_mockOutputs :
    BuiltIn.mockOutputs.map MockRule.pattern = sampledCommands.map patternOf := by
  decide +kernel

theorem patternOf_injective : Function.Injective patternOf := by
  intro a b h
  have helements := List.append_inj_left' (Pattern.mk.inj h).2 rfl
  exact List.map_injective_iff.2 (fun _ _ hl => Element.letter.inj hl) helements

theorem isSolid_of_mem_sampledCommands {command : Text} (h : command ∈ sampledCommands) :
    command ≠ [] ∧ IsSolid command := by
  revert command
  decide +kernel

/-- **The pattern of a command fits by the words alone,** once a line is trimmed. -/
theorem isMatch_patternOf {command : Text} (h : command ∈ sampledCommands) (line : Text) :
    (patternOf command).isMatch (trim line) = true ↔ IsSampled command (words line) := by
  obtain ⟨hne, hsolid⟩ := isSolid_of_mem_sampledCommands h
  have hmatch : (patternOf command).isMatch (trim line) = true ↔
      ∃ rest, trim line = command ++ rest ∧
        ((command = "ls" ∧ rest = []) ∨ startsBlank rest = true) := by
    rw [Pattern.isMatch, patternOf, if_pos rfl, Pattern.matchesAt_letters_append]
    refine exists_congr fun rest => and_congr_right fun _ => ?_
    by_cases hls : command = "ls"
    · simp [hls, Pattern.matchesAt_boundary]
    · simp [hls, Pattern.matchesAt_blanks]
  rw [hmatch]
  constructor
  · rintro ⟨rest, htrim, hrest⟩
    have hbehind : rest = [] ∨ startsBlank rest = true := hrest.imp_left And.right
    have hwords : words line = command :: words rest := by
      rw [← Text.words_trim, htrim, Text.words_append command hbehind,
        Text.words_of_isSolid hne hsolid, List.singleton_append]
    refine ⟨by rw [hwords]; rfl, ?_⟩
    rcases hrest with ⟨hls, -⟩ | hblank
    · exact .inl hls
    · -- Nothing is left behind the last word, so there is another one.
      obtain ⟨more, hmore, -, hnil⟩ := Text.exists_trim_eq_append hwords
      obtain rfl : rest = more := List.append_cancel_left (htrim.symm.trans hmore)
      have hsecond : words rest ≠ [] := by
        intro hnone
        rw [hnil.2 hnone] at hblank
        cases hblank
      rw [hwords, List.length_cons]
      exact .inr (Nat.succ_le_succ (List.length_pos_iff.2 hsecond))
  · rintro ⟨hhead, hmany⟩
    obtain ⟨others, hwords⟩ := List.head?_eq_some_iff.1 hhead
    obtain ⟨more, hmore, hbehind, hnil⟩ := Text.exists_trim_eq_append hwords
    refine ⟨more, hmore, ?_⟩
    rcases hbehind with hend | hblank
    · rcases hmany with hls | hmany
      · exact .inl ⟨hls, hend⟩
      · rw [hwords, hnil.1 hend] at hmany
        exact absurd hmany (by simp)
    · exact .inr hblank

/-- **The sample output by the words:** that of the first word where it is shown for them. -/
theorem mockOutput?_builtIn (line : Text) :
    Registry.builtIn.mockOutput? (trim line) =
      (words line).head?.bind fun first =>
        if IsSampled first (words line) then sampleOf? first else none := by
  have hrule : ∀ rule ∈ BuiltIn.mockOutputs, ∃ command ∈ sampledCommands,
      rule.pattern = patternOf command := by
    intro rule hmem
    have hpattern := List.mem_map_of_mem (f := MockRule.pattern) hmem
    rw [map_pattern_mockOutputs] at hpattern
    obtain ⟨command, hcommand, heq⟩ := List.mem_map.1 hpattern
    exact ⟨command, hcommand, heq.symm⟩
  have htables : Registry.builtIn.tables.mockOutputs = BuiltIn.mockOutputs := rfl
  rw [Registry.mockOutput?, htables]
  by_cases hshown : ∃ first, IsSampled first (words line)
  · obtain ⟨first, hfirst⟩ := hshown
    rw [hfirst.1, Option.bind_some, if_pos hfirst, sampleOf?]
    rw [← List.head?_filter, ← List.head?_filter]
    congr 2
    refine List.filter_congr fun rule hmem => ?_
    obtain ⟨command, hcommand, hpattern⟩ := hrule rule hmem
    rw [hpattern, Bool.eq_iff_iff, isMatch_patternOf hcommand, decide_eq_true_iff,
      patternOf_injective.eq_iff]
    constructor
    · intro h
      exact Option.some.inj (h.1.symm.trans hfirst.1)
    · rintro rfl
      exact hfirst
  · have hnone :
        (BuiltIn.mockOutputs.find? fun rule => rule.pattern.isMatch (trim line)) = none := by
      refine List.find?_eq_none.2 fun rule hmem hmatch => ?_
      obtain ⟨command, hcommand, hpattern⟩ := hrule rule hmem
      rw [hpattern, isMatch_patternOf hcommand] at hmatch
      exact hshown ⟨command, hmatch⟩
    rw [hnone]
    cases (words line).head? with
    | none => rfl
    | some first => simp [not_exists.1 hshown first]

/-! ## Verdicts -/

theorem mockOutput_assess (r : Registry) (line : Text) :
    (assess r line).mockOutput =
      if words line = [] then none else r.mockOutput? (trim line) := by
  simp only [assess, List.isEmpty_iff]
  split <;> rfl

/-- The words decide all of a verdict but the command and the sample output. -/
theorem assess_eq_of_words_eq (r : Registry) {a b : Text} (h : words a = words b) :
    assess r a = { assess r b with
      command := trim a
      mockOutput := (assess r a).mockOutput } := by
  by_cases hnone : words a = []
  · rw [assess_of_words_eq_nil r hnone, assess_of_words_eq_nil r (h ▸ hnone),
      Text.trim_eq_nil_iff.2 (Text.isBlank_of_words_eq_nil hnone)]
    rfl
  · have hnone' : words b ≠ [] := h ▸ hnone
    simp only [assess, List.isEmpty_iff, if_neg hnone', h]

/-- The sample output of a verdict of the built-in registry. -/
theorem mockOutput_assess_builtIn (line : Text) :
    (assess .builtIn line).mockOutput =
      (words line).head?.bind fun first =>
        if IsSampled first (words line) then sampleOf? first else none := by
  rw [mockOutput_assess, mockOutput?_builtIn]
  split
  · next hnone => rw [hnone]; rfl
  · rfl

theorem map_sampleOf? : sampledCommands.map sampleOf? =
    BuiltIn.mockOutputs.map fun rule => some rule.output := rfl

theorem isSome_sampleOf? : ∀ command ∈ sampledCommands, (sampleOf? command).isSome := by
  intro command hmem
  have hsample := List.mem_map_of_mem (f := sampleOf?) hmem
  rw [map_sampleOf?] at hsample
  obtain ⟨rule, -, hrule⟩ := List.mem_map.1 hsample
  rw [← hrule]
  rfl

/-- Every sample is that of one command. -/
theorem sampleOf?_injOn {a b : Text} (ha : a ∈ sampledCommands) (hb : b ∈ sampledCommands)
    (h : sampleOf? a = sampleOf? b) : a = b := by
  have hnodup : (sampledCommands.map sampleOf?).Nodup := by
    rw [map_sampleOf?]
    decide +kernel
  exact List.inj_on_of_nodup_map hnodup ha hb h

/-- No sample is that of another command. -/
theorem mem_sampledCommands_of_sampleOf? {command output : Text}
    (h : sampleOf? command = some output) : command ∈ sampledCommands := by
  obtain ⟨rule, hrule, -⟩ := Option.map_eq_some_iff.1 h
  have hpattern : rule.pattern = patternOf command := by simpa using List.find?_some hrule
  have hmem := List.mem_map_of_mem (f := MockRule.pattern) (List.mem_of_find?_eq_some hrule)
  rw [map_pattern_mockOutputs, hpattern] at hmem
  exact (List.mem_map_of_injective patternOf_injective).1 hmem

/-- A verdict shows the sample of a command exactly for the words it is shown for. -/
theorem mockOutput_assess_eq_sampleOf?_iff {command : Text} (h : command ∈ sampledCommands)
    (line : Text) :
    (assess .builtIn line).mockOutput = sampleOf? command ↔ IsSampled command (words line) := by
  rw [mockOutput_assess_builtIn]
  constructor
  · intro heq
    obtain ⟨output, houtput⟩ := Option.isSome_iff_exists.1 (isSome_sampleOf? command h)
    rw [houtput] at heq
    obtain ⟨first, hfirst, hshown⟩ := Option.bind_eq_some_iff.1 heq
    obtain ⟨hsampled, hsample⟩ := Option.ite_none_right_eq_some.1 hshown
    have hmem := mem_sampledCommands_of_sampleOf? hsample
    rwa [sampleOf?_injOn h hmem (houtput.trans hsample.symm)]
  · intro hsampled
    rw [hsampled.1, Option.bind_some, if_pos hsampled]

/-- A verdict shows no sample for all other words. -/
theorem mockOutput_assess_eq_none_iff (line : Text) :
    (assess .builtIn line).mockOutput = none ↔
      ∀ command ∈ sampledCommands, ¬IsSampled command (words line) := by
  constructor
  · intro hnone command hmem hsampled
    have hshown := (mockOutput_assess_eq_sampleOf?_iff hmem line).2 hsampled
    have hsome := isSome_sampleOf? command hmem
    rw [← hshown, hnone] at hsome
    cases hsome
  · intro h
    rw [mockOutput_assess_builtIn, Option.eq_none_iff_forall_ne_some]
    intro output houtput
    obtain ⟨first, -, hshown⟩ := Option.bind_eq_some_iff.1 houtput
    obtain ⟨hsampled, hsample⟩ := Option.ite_none_right_eq_some.1 hshown
    exact h first (mem_sampledCommands_of_sampleOf? hsample) hsampled

/-- **Spacing changes nothing about a verdict** of the built-in registry but the command, which
is the trimmed line. Sample output is shown for the words `ls` and whatever follows, and for
seven other commands with at least one more word. -/
theorem verdict_ignores_spacing :
    (∀ a b : Text, words a = words b →
      assess .builtIn a = { assess .builtIn b with command := trim a }) ∧
    ∀ line : Text,
      (assess .builtIn line).command = trim line ∧
      ((assess .builtIn line).mockOutput = sampleOf? "ls" ↔ (words line).head? = some "ls") ∧
      (∀ command ∈ sampledCommands, command ≠ "ls" →
        ((assess .builtIn line).mockOutput = sampleOf? command ↔
          (words line).head? = some command ∧ 2 ≤ (words line).length)) ∧
      ((assess .builtIn line).mockOutput = none ↔
        ∀ command ∈ sampledCommands, ¬IsSampled command (words line)) ∧
      ∀ command ∈ sampledCommands, (sampleOf? command).isSome := by
  refine ⟨fun a b h => ?_, fun line => ⟨command_assess .builtIn line, ?_, ?_,
    mockOutput_assess_eq_none_iff line, isSome_sampleOf?⟩⟩
  · have hsample : (assess .builtIn a).mockOutput = (assess .builtIn b).mockOutput := by
      rw [mockOutput_assess_builtIn, mockOutput_assess_builtIn, h]
    rw [assess_eq_of_words_eq .builtIn h, hsample]
  · rw [mockOutput_assess_eq_sampleOf?_iff (by decide)]
    simp [IsSampled]
  · intro command hmem hls
    rw [mockOutput_assess_eq_sampleOf?_iff hmem]
    simp [IsSampled, hls]

/-- White space of several kinds, with and without a second word. -/
theorem verdict_ignores_spacing_listing :
    assess .builtIn "\u2003ls\t\u00a0-la\n" =
        { assess .builtIn "ls -la" with command := "ls\t\u00a0-la" } ∧
      (assess .builtIn "\tls\u2028").mockOutput = sampleOf? "ls" ∧
      (assess .builtIn "git\n").mockOutput = none := by
  have hspacing := verdict_ignores_spacing
  have hwords : words "\u2003ls\t\u00a0-la\n" = words "ls -la" := by decide +kernel
  refine ⟨(hspacing.1 _ _ hwords).trans ?_, ?_, ?_⟩
  · have htrim : trim "\u2003ls\t\u00a0-la\n" = "ls\t\u00a0-la" := by decide +kernel
    rw [htrim]
  · exact (hspacing.2 _).2.1.2 (by decide +kernel)
  · exact (hspacing.2 _).2.2.2.1.2 (by decide +kernel)

end CommandAdvisor.Risk
