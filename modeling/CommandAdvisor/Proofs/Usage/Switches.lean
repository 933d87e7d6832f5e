import CommandAdvisor.Proofs.Usage.Reading

/-!
# Switches

A subcommand that takes a command line has nothing but switches, options that are on or
off. A word is one of them only when it is spelled in full. But a word is taken apart
where it starts with a switch and an equals sign, or with the letter for help: what follows
would be a value, and no switch takes one. Only the letter for help may follow itself.

## Main definitions
* `Grammar.OnlySwitches`: every option is on or off, and is spelled in full.
* `Grammar.TakesApart`: the words that are taken for a switch with a value.
* `BundlesHelp`: the words that are taken for the letter for help again and again.

## Main statements
* `OnlySwitches.read_taken_apart` and `OnlySwitches.read_other`: what a word is that is not
  a switch.
* `OnlySwitches.foldlM_flagStep`: flags are the words that are spelled like one.
* `OnlySwitches.foldlM_flagStep_of_takesApart`: a word that is taken apart ends in a message.
-/
namespace CommandAdvisor.Usage

namespace Grammar

/-- Every option is on or off and is spelled in full. The only one with a letter is the one
for help. -/
structure OnlySwitches (g : Grammar) : Prop where
  in_full : g.abbreviates = false
  distinct : (g.spelled.map Prod.fst).Nodup
  help : helpFlag ∈ g.flags
  no_values : ∀ f ∈ g.flags, f.values = []
  no_letter : ∀ f ∈ g.flags, f ≠ helpFlag → f.letter? = none
  named : ∀ f ∈ g.flags, f.word ≠ []
  no_mark : ∀ f ∈ g.flags, .char '=' ∉ f.word

/-- The words that are taken for a switch with something joined to it: the letter for help
with anything behind it, or a full spelling with an equals sign. -/
def TakesApart (g : Grammar) (word : Text) : Prop :=
  (Text.ofString "-h" <+: word ∧ word ≠ "-h") ∨
    ∃ f ∈ g.flags, f.longSpelling ++ Text.ofString "=" <+: word

instance (g : Grammar) (word : Text) : Decidable (g.TakesApart word) :=
  inferInstanceAs (Decidable ((Text.ofString "-h" <+: word ∧ word ≠ "-h") ∨
    ∃ f ∈ g.flags, f.longSpelling ++ Text.ofString "=" <+: word))

/-- What is joined to a letter: an equals sign between the two does not count. -/
def joinedToLetter : Text → Text
  | .char '=' :: value => value
  | value => value

end Grammar

/-- The letter for help with nothing but letters for help joined to it. -/
def BundlesHelp (word : Text) : Prop :=
  Text.ofString "-h" <+: word ∧ Grammar.joinedToLetter (word.drop 2) ≠ [] ∧
    ∀ l ∈ Grammar.joinedToLetter (word.drop 2), l = .char 'h'

instance (word : Text) : Decidable (BundlesHelp word) :=
  inferInstanceAs (Decidable (Text.ofString "-h" <+: word ∧
    Grammar.joinedToLetter (word.drop 2) ≠ [] ∧
      ∀ l ∈ Grammar.joinedToLetter (word.drop 2), l = .char 'h'))

/-- Words that are left over are no flags. -/
theorem foldlM_flagStep_leftovers (page : Page) (words : List Text) (flags : List Flag) :
    (words.map Occurrence.leftover).foldlM (flagStep page) flags = .ok flags := by
  induction words with
  | nil => rfl
  | cons word rest ih => exact ih

namespace Grammar.OnlySwitches

variable {g : Grammar} (hg : g.OnlySwitches)
include hg

/-! ## What a word is -/

theorem flag?_eq_some_iff {spelling : Text} {f : Flag} : g.flag? spelling = some f ↔
    f ∈ g.flags ∧ (spelling = f.longSpelling ∨ f = helpFlag ∧ spelling = "-h") := by
  rw [Grammar.flag?_eq_some_iff hg.distinct]
  refine and_congr_right fun hf => ?_
  by_cases hhelp : f = helpFlag
  · subst hhelp
    have hspellings : helpFlag.spellings = [Text.ofString "-h", helpFlag.longSpelling] := rfl
    simp [hspellings, or_comm]
  · simp [Flag.spellings, hg.no_letter f hf hhelp, hhelp, Flag.longSpelling]

theorem flag?_longSpelling {f : Flag} (hf : f ∈ g.flags) : g.flag? f.longSpelling = some f :=
  hg.flag?_eq_some_iff.2 ⟨hf, .inl rfl⟩

/-- Behind a single dash there is nothing but the letter for help. -/
theorem flag?_letter {l : Letter} (hl : l ≠ .char '-') (rest : Text) :
    g.flag? (.char '-' :: l :: rest) =
      if l = .char 'h' ∧ rest = [] then some helpFlag else none := by
  ext f
  have hletter : .char '-' :: l :: rest = Text.ofString "-h" ↔ l = .char 'h' ∧ rest = [] := by
    rw [show Text.ofString "-h" = [.char '-', .char 'h'] from rfl]
    simp
  have hlong : .char '-' :: l :: rest ≠ f.longSpelling := by
    intro h
    exact hl (List.cons.inj (List.cons.inj h).2).1
  rw [hg.flag?_eq_some_iff, or_iff_right hlong, hletter]
  split
  · next h =>
    constructor
    · rintro ⟨-, rfl, -⟩
      rfl
    · intro hf
      obtain rfl := Option.some.inj hf
      exact ⟨hg.help, rfl, h⟩
  · next h => simp [h]

/-- A letter behind a single dash is a switch only if it is the one for help. -/
theorem flag?_single (l : Letter) :
    g.flag? [.char '-', l] = if l = .char 'h' then some helpFlag else none := by
  by_cases hl : l = .char '-'
  · subst hl
    rw [if_neg (by decide), Option.eq_none_iff_forall_ne_some]
    intro f hf
    obtain ⟨hmem, heq | ⟨-, heq⟩⟩ := hg.flag?_eq_some_iff.1 hf
    · exact hg.named f hmem (List.cons.inj (List.cons.inj heq).2).2.symm
    · revert heq
      decide
  · rw [hg.flag?_letter hl]
    simp

/-- No spelling has an equals sign in it. -/
theorem flag?_of_mark {word : Text} (h : .char '=' ∈ word) : g.flag? word = none := by
  rw [Option.eq_none_iff_forall_ne_some]
  intro f hf
  obtain ⟨hmem, rfl | ⟨-, rfl⟩⟩ := hg.flag?_eq_some_iff.1 hf
  · have hword : .char '=' ∈ f.word := by
      simpa [Flag.longSpelling, Text.ofString, Text.ofChars] using h
    exact hg.no_mark f hmem hword
  · revert h
    decide

theorem readJoined?_marked {f : Flag} (hf : f ∈ g.flags) (value : Text) :
    g.readJoined? (f.longSpelling ++ .char '=' :: value) =
      some (.option f false (some value)) := by
  have hmark : .char '=' ∉ f.longSpelling := by
    have hword := hg.no_mark f hf
    simpa [Flag.longSpelling, Text.ofString, Text.ofChars] using hword
  rw [readJoined?, Text.cutAt_append hmark]
  simp only [hg.flag?_longSpelling hf]
  rfl

/-- A switch that is spelled in full with an equals sign behind it has a value. -/
theorem read_marked {f : Flag} (hf : f ∈ g.flags) (value : Text) :
    g.read (f.longSpelling ++ .char '=' :: value) = .ok (.option f false (some value)) := by
  have hword : f.longSpelling ++ .char '=' :: value =
      .char '-' :: .char '-' :: (f.word ++ .char '=' :: value) := rfl
  have hnone : g.flag? (f.longSpelling ++ .char '=' :: value) = none :=
    hg.flag?_of_mark (by simp)
  have hjoined := hg.readJoined?_marked hf value
  rw [hword] at hnone hjoined ⊢
  rw [read]
  simp only [hnone, hjoined]

/-- A single dash and a letter are the letter for help with a value or nothing. -/
theorem candidates_letter {l : Letter} (hl : l ≠ .char '-') (rest : Text) :
    g.candidates (.char '-' :: l :: rest) =
      if l = .char 'h' then [([.char '-', .char 'h'], .option helpFlag true (some rest))]
      else [] := by
  have hfound := hg.flag?_letter hl []
  rw [candidates]
  · rw [filter_fst_of_nodup hg.distinct, ← flag?, hfound]
    by_cases h : l = .char 'h'
    · simp [h]
    · simp [h]
  · exact hl

/-- Without the letter for help there is nothing that a word could be short for. -/
theorem candidates_eq_nil {word : Text} (h : ¬Text.ofString "-h" <+: word) :
    g.candidates word = [] := by
  by_cases hletter : ∃ l rest, l ≠ .char '-' ∧ word = .char '-' :: l :: rest
  · obtain ⟨l, rest, hl, rfl⟩ := hletter
    rw [hg.candidates_letter hl, if_neg]
    rintro rfl
    exact h ⟨rest, rfl⟩
  · rw [candidates.eq_def]
    split
    · simp [hg.in_full]
    · next l rest hl => exact absurd ⟨l, rest, hl, rfl⟩ hletter
    · rfl

theorem flag?_help : g.flag? "-h" = some helpFlag :=
  hg.flag?_eq_some_iff.2 ⟨hg.help, .inr ⟨rfl, rfl⟩⟩

/-- A start of a word is only taken for a switch if the word is taken apart. -/
theorem readJoined?_eq_none {word : Text} (hhelp : ¬Text.ofString "-h=" <+: word)
    (hlong : ∀ f ∈ g.flags, ¬f.longSpelling ++ Text.ofString "=" <+: word) :
    g.readJoined? word = none := by
  refine Grammar.readJoined?_eq_none ?_
  rintro start value rfl
  rw [Option.eq_none_iff_forall_ne_some]
  intro f hf
  obtain ⟨hmem, rfl | ⟨-, rfl⟩⟩ := hg.flag?_eq_some_iff.1 hf
  · exact hlong f hmem ⟨value, List.append_assoc _ _ _⟩
  · exact hhelp ⟨value, rfl⟩

theorem readJoined?_letter (value : Text) :
    g.readJoined? (.char '-' :: .char 'h' :: .char '=' :: value) =
      some (.option helpFlag true (some value)) := by
  have hcut : Text.cutAt '=' (.char '-' :: .char 'h' :: .char '=' :: value) =
      (Text.ofString "-h", some value) :=
    Text.cutAt_append (s := Text.ofString "-h") (by decide) value
  rw [readJoined?, hcut]
  simp only [hg.flag?_help]
  rfl

/-- The letter for help with something behind it has a value. -/
theorem read_letter {rest : Text} (h : rest ≠ []) :
    g.read (.char '-' :: .char 'h' :: rest) =
      .ok (.option helpFlag true (some (joinedToLetter rest))) := by
  have hnone : g.flag? (.char '-' :: .char 'h' :: rest) = none := by
    rw [hg.flag?_letter (by decide)]
    simp [h]
  rw [read]
  simp only [hnone]
  by_cases hmark : ∃ value, rest = .char '=' :: value
  · obtain ⟨value, rfl⟩ := hmark
    simp only [hg.readJoined?_letter, joinedToLetter]
  · have hjoined : g.readJoined? (.char '-' :: .char 'h' :: rest) = none := by
      refine hg.readJoined?_eq_none ?_ ?_
      · rintro ⟨value, heq⟩
        exact hmark ⟨value, (List.cons.inj (List.cons.inj heq).2).2.symm⟩
      · rintro f - ⟨value, heq⟩
        cases heq
    have hvalue : joinedToLetter rest = rest := by
      unfold joinedToLetter
      split
      · next value => exact absurd ⟨value, rfl⟩ hmark
      · rfl
    simp only [hjoined, hg.candidates_letter (l := .char 'h') (by decide), if_true, hvalue]

/-- Every other word is no option. -/
theorem read_other {word : Text} (hflag : g.flag? word = none) (happart : ¬g.TakesApart word) :
    ∃ reading, g.read word = .ok reading ∧ ∀ f l joined, reading ≠ .option f l joined := by
  obtain ⟨hhelp, hlong⟩ := not_or.1 happart
  have hletter : ¬Text.ofString "-h" <+: word := by
    intro hstarts
    by_cases heq : word = "-h"
    · rw [heq, hg.flag?_help] at hflag
      cases hflag
    · exact hhelp ⟨hstarts, heq⟩
  have hjoined : g.readJoined? word = none := by
    refine hg.readJoined?_eq_none ?_ ?_
    · rintro ⟨value, rfl⟩
      exact hletter ⟨.char '=' :: value, rfl⟩
    · intro f hf hstarts
      exact hlong ⟨f, hf, hstarts⟩
  rw [read.eq_def]
  split
  · simp only [hflag, hjoined, hg.candidates_eq_nil hletter]
    exact ⟨_, rfl, readOther_ne_option _⟩
  · exact ⟨.plain, rfl, by simp⟩

/-! ## What words say -/

/-- Letters joined to the one for help are all letters for help, or the first other one is
refused. -/
theorem unpack_help (value : Text) :
    (∃ m, g.unpack helpFlag value = .error m) ∨
      (∀ l ∈ value, l = .char 'h') ∧ ∃ more, g.unpack helpFlag value = .ok (helpFlag :: more) := by
  induction value with
  | nil => exact .inr ⟨by simp, [], rfl⟩
  | cons l rest ih =>
    rw [unpack, hg.flag?_single]
    by_cases hl : l = .char 'h'
    · subst hl
      simp only [if_true]
      rcases ih with ⟨m, hm⟩ | ⟨hrest, more, hmore⟩
      · exact .inl ⟨m, by rw [hm]; rfl⟩
      · exact .inr ⟨List.forall_mem_cons.2 ⟨rfl, hrest⟩, helpFlag :: more, by rw [hmore]; rfl⟩
    · simp [hl]

/-- What is joined to the letter for help is refused, unless it is that letter again and
again. -/
theorem joinedOccurrences_help (value : Text) :
    (∃ m, g.joinedOccurrences helpFlag true value = .error m) ∨
      (value ≠ [] ∧ ∀ l ∈ value, l = .char 'h') ∧
        ∃ more, g.joinedOccurrences helpFlag true value = .ok (.option helpFlag [] :: more) := by
  cases value with
  | nil => exact .inl ⟨.needlessValue helpFlag [], rfl⟩
  | cons l rest =>
    have hunpack : g.joinedOccurrences helpFlag true (l :: rest) =
        (g.unpack helpFlag (l :: rest)).map (·.map (.option · [])) := rfl
    rw [hunpack]
    rcases hg.unpack_help (l :: rest) with ⟨m, hm⟩ | ⟨hvalue, more, hmore⟩
    · exact .inl ⟨m, by rw [hm]; rfl⟩
    · exact .inr ⟨⟨by simp, hvalue⟩, more.map (.option · []), by rw [hmore]; rfl⟩

/-- What is joined to a switch is refused, unless it is the letter for help again and
again. -/
theorem read_taken_apart {word : Text} (h : g.TakesApart word) :
    ∃ f l value, g.read word = .ok (.option f l (some value)) ∧
      ((∃ m, g.joinedOccurrences f l value = .error m) ∨
        BundlesHelp word ∧ ∃ more,
          g.joinedOccurrences f l value = .ok (.option helpFlag [] :: more)) := by
  rcases h with ⟨⟨rest, rfl⟩, hne⟩ | ⟨f, hf, value, rfl⟩
  · have hrest : rest ≠ [] := by
      rintro rfl
      exact hne (List.append_nil _)
    refine ⟨helpFlag, true, joinedToLetter rest, hg.read_letter hrest, ?_⟩
    refine (hg.joinedOccurrences_help (joinedToLetter rest)).imp_right ?_
    exact And.imp_left fun hvalue => ⟨⟨rest, rfl⟩, hvalue⟩
  · refine ⟨f, false, value, ?_, .inl ⟨.needlessValue f value, ?_⟩⟩
    · rw [List.append_assoc]
      exact hg.read_marked hf value
    · simp [joinedOccurrences, hg.no_values f hf]

theorem exists_read (word : Text) : ∃ reading, g.read word = .ok reading := by
  cases hf : g.flag? word with
  | some f => exact ⟨_, read_of_flag? hg.distinct hf⟩
  | none =>
    by_cases happart : g.TakesApart word
    · obtain ⟨f, l, value, hread, -⟩ := hg.read_taken_apart happart
      exact ⟨_, hread⟩
    · obtain ⟨reading, hread, -⟩ := hg.read_other hf happart
      exact ⟨reading, hread⟩

theorem exists_readAll (words : List Text) : ∃ readings, g.readAll words = .ok readings :=
  exists_readAll_iff.2 fun word _ => hg.exists_read word

/-- A word that is not taken apart is a flag or none. -/
theorem foldlM_flagStep_cons (page : Page) {word : Text} (hs : word ≠ separator)
    (hhelp : g.flag? word ≠ some helpFlag) (happart : ¬g.TakesApart word) (rest : List Text)
    (flags : List Flag) :
    (g.parse (word :: rest)).foldlM (flagStep page) flags =
      (g.parse rest).foldlM (flagStep page) ((g.flag? word).toList ++ flags) := by
  cases hf : g.flag? word with
  | none =>
    obtain ⟨reading, hread, hother⟩ := hg.read_other hf happart
    obtain ⟨readings, hsays, hparse⟩ := parse_cons hs hread (hg.exists_readAll rest)
    rw [hparse, occurrences_leftover g hother, hsays]
    rfl
  | some f =>
    have hno : f.values = [] := hg.no_values f (hg.flag?_eq_some_iff.1 hf).1
    have hread := read_of_flag? hg.distinct hf
    obtain ⟨readings, hsays, hparse⟩ := parse_cons hs hread (hg.exists_readAll rest)
    have hne : f ≠ helpFlag := fun heq => hhelp (heq ▸ hf)
    have hstep : flagStep page flags (.option f []) = .ok (f :: flags) := by
      rw [flagStep, if_neg hne]
    rw [hparse, occurrences_switch g hno, hsays, List.foldlM_cons, hstep]
    rfl

/-- **Flags are the words in front of the separator that are spelled like one,** where no
word is taken apart. -/
theorem foldlM_flagStep (page : Page) {tail : List Text} (flags : List Flag)
    (h : ∀ word ∈ inFront tail, g.flag? word ≠ some helpFlag ∧ ¬g.TakesApart word) :
    (g.parse tail).foldlM (flagStep page) flags =
      .ok (((inFront tail).filterMap g.flag?).reverse ++ flags) := by
  induction tail generalizing flags with
  | nil => simp [pure, Except.pure]
  | cons word rest ih =>
    by_cases hs : word = separator
    · subst hs
      rw [parse_separator, inFront_separator]
      exact foldlM_flagStep_leftovers page (separator :: rest) flags
    · rw [inFront_cons hs] at h ⊢
      obtain ⟨⟨hhelp, happart⟩, hrest⟩ := List.forall_mem_cons.1 h
      rw [hg.foldlM_flagStep_cons page hs hhelp happart, ih _ hrest]
      cases hf : g.flag? word with
      | none => simp [hf]
      | some f => simp [hf]

/-- **A word that is taken apart ends in a message,** that of the help page only where nothing
but letters for help are joined. -/
theorem foldlM_flagStep_of_takesApart (page : Page) {tail : List Text} (flags : List Flag)
    (hhelp : ∀ word ∈ inFront tail, g.flag? word ≠ some helpFlag)
    (h : ∃ word ∈ inFront tail, g.TakesApart word) :
    ∃ stop, (g.parse tail).foldlM (flagStep page) flags = .error stop ∧
      ((∃ m, stop = .misused page m) ∨
        (∃ word ∈ inFront tail, BundlesHelp word) ∧ stop = .help page) := by
  induction tail generalizing flags with
  | nil => simp at h
  | cons word rest ih =>
    by_cases hs : word = separator
    · subst hs
      simp at h
    · rw [inFront_cons hs] at h hhelp ⊢
      obtain ⟨hword, hhelp⟩ := List.forall_mem_cons.1 hhelp
      by_cases happart : g.TakesApart word
      · obtain ⟨f, l, value, hread, hjoined⟩ := hg.read_taken_apart happart
        obtain ⟨readings, -, hparse⟩ := parse_cons hs hread (hg.exists_readAll rest)
        rw [hparse, occurrences_joined]
        rcases hjoined with ⟨m, hm⟩ | ⟨hbundle, more, hmore⟩
        · rw [hm]
          exact ⟨.misused page m, rfl, .inl ⟨m, rfl⟩⟩
        · rw [hmore]
          exact ⟨.help page, rfl, .inr ⟨⟨word, List.mem_cons_self, hbundle⟩, rfl⟩⟩
      · have hlater : ∃ word ∈ inFront rest, g.TakesApart word := by
          simpa [happart] using h
        obtain ⟨stop, hstop, hcause⟩ := ih ((g.flag? word).toList ++ flags) hhelp hlater
        rw [hg.foldlM_flagStep_cons page hs hword happart]
        refine ⟨stop, hstop, hcause.imp_right ?_⟩
        rintro ⟨⟨other, hmem, hbundle⟩, hstop⟩
        exact ⟨⟨other, List.mem_cons_of_mem _ hmem, hbundle⟩, hstop⟩

end Grammar.OnlySwitches

end CommandAdvisor.Usage
