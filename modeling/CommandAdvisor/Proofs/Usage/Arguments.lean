import CommandAdvisor.Proofs.Usage.Switches
import Mathlib.Data.List.Count

/-!
# What arguments ask for

Arguments with a subcommand that takes a command line. All words in front of the separator
are first looked at as options of the program, even those behind the subcommand, and it may
be that they cannot be read as such: options of the program may be shortened, and a bare word
is short for several. Otherwise the flags of the subcommand are on that were written, and
the command line has all other words.

## Main definitions
* `IsBare`: the words that are short for several options of the program.
* `Subcommand.lineWords` and `Subcommand.requestOf`: the words of a command line and the
  request about them.
* `Subcommand.Misreads`: the words that are taken for an option although they are no flag.

## Main statements
* `exists_read_main_iff`: a word can be read as an option of the program unless it is bare.
* `Subcommand.requestOfTail_eq` and `Subcommand.requestOfTail_of_takesApart`: the request of
  a subcommand, where no word is taken apart and where one is.
* `ofArguments_eq` and `ofArguments_of_isBare`: options in front of a subcommand.
-/
namespace CommandAdvisor.Usage

/-! ## Options of the program -/

/-- The words that could be short for any option with more than one letter, since nothing but
an equals sign is behind the dashes. -/
def IsBare (word : Text) : Prop := Text.ofString "--=" <+: word

instance (word : Text) : Decidable (IsBare word) :=
  inferInstanceAs (Decidable (Text.ofString "--=" <+: word))

theorem distinct_main : (mainGrammar.spelled.map Prod.fst).Nodup := by decide +kernel

/-- A single dash and a letter are one option at most. -/
theorem length_candidates_letter {l : Letter} (hl : l ≠ .char '-') (rest : Text) :
    (mainGrammar.candidates (.char '-' :: l :: rest)).length ≤ 1 := by
  rw [Grammar.candidates]
  · rw [filter_fst_of_nodup distinct_main]
    cases mainGrammar.spelled.lookup [.char '-', l] <;> simp
  · exact hl

/-- The letter behind two dashes tells the options apart. -/
theorem countP_spelled_le (l : Letter) (rest : Text) :
    mainGrammar.spelled.countP (fun s => (.char '-' :: .char '-' :: l :: rest).isPrefixOf s.1) ≤
      1 := by
  have hdistinct : (mainGrammar.spelled.filterMap fun s => s.1[2]?).Nodup := by decide +kernel
  calc mainGrammar.spelled.countP
        (fun s => (.char '-' :: .char '-' :: l :: rest).isPrefixOf s.1)
      ≤ mainGrammar.spelled.countP (fun s => s.1[2]? == some l) := by
        refine List.countP_mono_left ?_
        intro s _ h
        obtain ⟨more, hs⟩ := List.isPrefixOf_iff_prefix.1 h
        simp [← hs]
    _ = (mainGrammar.spelled.filterMap fun s => s.1[2]?).count l := List.count_filterMap.symm
    _ ≤ 1 := List.nodup_iff_count_le_one.1 hdistinct l

/-- A word with two dashes is short for one option at most, if a letter follows them. -/
theorem length_candidates_le {word : Text} (hs : word ≠ separator) (hb : ¬IsBare word) :
    (mainGrammar.candidates word).length ≤ 1 := by
  by_cases hletter : ∃ l rest, l ≠ .char '-' ∧ word = .char '-' :: l :: rest
  · obtain ⟨l, rest, hl, rfl⟩ := hletter
    exact length_candidates_letter hl rest
  · rw [Grammar.candidates.eq_def]
    split
    · next rest =>
      cases rest with
      | nil => exact absurd rfl hs
      | cons l rest =>
        have hl : l ≠ .char '=' := by
          rintro rfl
          exact hb ⟨rest, rfl⟩
        have hstart : (Text.cutAt '=' (.char '-' :: .char '-' :: l :: rest)).1 =
            .char '-' :: .char '-' :: l :: rest.takeWhile (· ≠ .char '=') := by
          rw [Text.fst_cutAt]
          simp [hl]
        have habbreviates : mainGrammar.abbreviates = true := rfl
        simp only [hstart, habbreviates, if_true, List.length_map]
        rw [← List.countP_eq_length_filter]
        exact countP_spelled_le l _
    · next l rest hl => exact absurd ⟨l, rest, hl, rfl⟩ hletter
    · simp

/-- A bare word is short for all options with more than one letter. -/
theorem read_bare {word : Text} (h : IsBare word) :
    mainGrammar.read word = .error (.ambiguous word ["--help", "--version", "--debug"]) := by
  obtain ⟨value, rfl⟩ := h
  have hword : Text.ofString "--=" ++ value = .char '-' :: .char '-' :: .char '=' :: value := rfl
  have hcut : Text.cutAt '=' (.char '-' :: .char '-' :: .char '=' :: value) =
      ([.char '-', .char '-'], some value) :=
    Text.cutAt_append (s := [.char '-', .char '-']) (by decide) value
  have hmark : ∀ f ∈ mainGrammar.flags, ∀ s ∈ f.spellings, .char '=' ∉ s := by decide +kernel
  have hflag : mainGrammar.flag? (.char '-' :: .char '-' :: .char '=' :: value) = none := by
    rw [Option.eq_none_iff_forall_ne_some]
    intro f hf
    obtain ⟨hmem, hspelling⟩ := (Grammar.flag?_eq_some_iff distinct_main).1 hf
    exact hmark f hmem _ hspelling (by simp)
  have hjoined : mainGrammar.readJoined? (.char '-' :: .char '-' :: .char '=' :: value) =
      none := by
    have hdashes : mainGrammar.flag? [.char '-', .char '-'] = none := by decide +kernel
    rw [Grammar.readJoined?, hcut]
    simp [hdashes]
  have hcandidates : (mainGrammar.candidates (.char '-' :: .char '-' :: .char '=' :: value)) =
      [helpFlag, versionFlag, debugFlag].map fun f =>
        (f.longSpelling, .option f false (some value)) := by
    rw [Grammar.candidates, hcut]
    rfl
  rw [hword, Grammar.read]
  simp only [hflag, hjoined, hcandidates]
  rfl

/-- A word can be read unless it is a bare one. -/
theorem exists_read_main_iff {word : Text} (hs : word ≠ separator) :
    (∃ reading, mainGrammar.read word = .ok reading) ↔ ¬IsBare word := by
  constructor
  · rintro ⟨reading, hread⟩ hb
    rw [read_bare hb] at hread
    cases hread
  · intro hb
    have hle := length_candidates_le hs hb
    rw [Grammar.read.eq_def]
    split
    · split
      · exact ⟨_, rfl⟩
      · split
        · exact ⟨_, rfl⟩
        · split
          · exact ⟨_, rfl⟩
          · exact ⟨_, rfl⟩
          · next hnone hone =>
            rcases Nat.le_one_iff_eq_zero_or_eq_one.1 hle with h | h
            · exact absurd (List.length_eq_zero_iff.1 h) hnone
            · obtain ⟨c, hc⟩ := List.length_eq_one_iff.1 h
              exact absurd hc (hone c)
    · exact ⟨_, rfl⟩

/-! ## Requests -/

namespace Subcommand

/-- A subcommand that takes a command line has nothing but switches. -/
theorem onlySwitches {c : Subcommand} (hc : c ≠ .history) : c.grammar.OnlySwitches := by
  cases c with
  | history => exact absurd rfl hc
  | _ => constructor <;> decide +kernel

/-- The words of a command line: those in front of the separator that are no flags of the
subcommand, dashed or not, and all words behind it. -/
def lineWords (c : Subcommand) (tail : List Text) : List Text :=
  (inFront tail).filter (fun word => !(c.flags.map Flag.longSpelling).contains word) ++ behind tail

/-- The words that are taken for an option although they are no flag of the subcommand: one
of its switches with something joined to it, or a bare word. -/
def Misreads (c : Subcommand) (word : Text) : Prop := IsBare word ∨ c.grammar.TakesApart word

instance (c : Subcommand) (word : Text) : Decidable (c.Misreads word) :=
  inferInstanceAs (Decidable (IsBare word ∨ c.grammar.TakesApart word))

/-- The request that a subcommand makes of the words of a command line, with the flags that
were written. -/
def requestOf (c : Subcommand) (words written : List Text) : Request :=
  match c with
  | .tokenize => .tokenize words (written.contains "--json")
  | .assess => .assess words (written.contains "--json") (written.contains "--strict")
  | .explain => .explain words (written.contains "--json") !written.contains "--no-history"
  | .history => .history .everything

theorem requestFor_eq {c : Subcommand} {flags : List Flag} {written : List Text}
    (h : ∀ f ∈ c.flags, f ∈ flags ↔ f.longSpelling ∈ written) (words : List Text) :
    requestFor c words flags = c.requestOf words written := by
  have hflag {f : Flag} (hf : f ∈ c.flags) :
      flags.contains f = written.contains f.longSpelling := by
    simp only [List.contains_eq_mem, h f hf]
  cases c with
  | tokenize =>
    rw [requestFor, hflag (by decide)]
    rfl
  | assess =>
    rw [requestFor, hflag (by decide), hflag (by decide)]
    rfl
  | explain =>
    rw [requestFor, hflag (by decide), hflag (by decide)]
    rfl
  | history => rfl

variable {c : Subcommand} (hc : c ≠ .history)
include hc

/-- A word is spelled like a flag of the subcommand, or like none, unless it asks for help. -/
theorem flag?_ne_help {word : Text} (h : word ≠ "-h" ∧ word ≠ "--help") :
    c.grammar.flag? word ≠ some helpFlag := by
  intro hf
  obtain ⟨-, heq | ⟨-, heq⟩⟩ := (onlySwitches hc).flag?_eq_some_iff.1 hf
  · exact h.2 heq
  · exact h.1 heq

/-- A word is a flag of the subcommand exactly if it is spelled in full. -/
theorem mem_filterMap_flag?_iff {f : Flag} (hf : f ∈ c.flags) (words : List Text) :
    f ∈ words.filterMap c.grammar.flag? ↔ f.longSpelling ∈ words := by
  have hne : f ≠ helpFlag := by
    rintro rfl
    revert hf
    cases c <;> decide +kernel
  have hmem : f ∈ c.grammar.flags := List.mem_cons_of_mem _ hf
  simp [(onlySwitches hc).flag?_eq_some_iff, hmem, hne]

variable {tail : List Text} (hhelp : ∀ word ∈ inFront tail, word ≠ "-h" ∧ word ≠ "--help")
include hhelp

/-- **A flag is on if it was written,** where no word is taken apart, and the request is about
all other words. -/
theorem requestOfTail_eq (happart : ∀ word ∈ inFront tail, ¬c.grammar.TakesApart word)
    (hwords : c.lineWords tail ≠ []) (unknown : List Text) :
    requestOfTail c unknown tail = .ok (c.requestOf (c.lineWords tail) (inFront tail)) := by
  have hg := onlySwitches hc
  have hread := hg.foldlM_flagStep c.page [] fun word hword =>
    ⟨flag?_ne_help hc (hhelp word hword), happart word hword⟩
  have hlong : ∀ f ∈ c.flags, f ∈ ((inFront tail).filterMap c.grammar.flag?).reverse ++ [] ↔
      f.longSpelling ∈ inFront tail := by
    intro f hf
    rw [List.append_nil, List.mem_reverse]
    exact mem_filterMap_flag?_iff hc hf _
  have hcommand : commandWords (c.flags.map Flag.longSpelling) tail = c.lineWords tail :=
    commandWords_eq _ tail
  rw [requestOfTail]
  simp only [hc, if_false, hread, hcommand, List.isEmpty_iff, hwords]
  exact congrArg Except.ok (requestFor_eq hlong _)

/-- There is no request where a word is taken apart. -/
theorem requestOfTail_of_takesApart
    (happart : ∃ word ∈ inFront tail, c.grammar.TakesApart word) (unknown : List Text) :
    ∃ stop, requestOfTail c unknown tail = .error stop ∧ ((∃ m, stop = .misused c.page m) ∨
      (∃ word ∈ inFront tail, BundlesHelp word) ∧ stop = .help c.page) := by
  obtain ⟨stop, hstop, hcause⟩ := (onlySwitches hc).foldlM_flagStep_of_takesApart c.page []
    (fun word hword => flag?_ne_help hc (hhelp word hword)) happart
  refine ⟨stop, ?_, hcause⟩
  rw [requestOfTail]
  simp only [hc, if_false, hstop]
  rfl

end Subcommand

/-! ## Invocations -/

/-- The option that changes what is reported, in either spelling. -/
def IsDebug (word : Text) : Prop := word = "-d" ∨ word = "--debug"

theorem IsDebug.ne_separator {word : Text} (h : IsDebug word) : word ≠ separator := by
  rcases h with rfl | rfl <;> decide

/-- How the option is read. -/
def debugReading (word : Text) : Reading :=
  .option debugFlag (Grammar.isLetterSpelling word) none

theorem IsDebug.read {word : Text} (h : IsDebug word) :
    mainGrammar.read word = .ok (debugReading word) := by
  rcases h with rfl | rfl <;> decide +kernel

theorem read_name (c : Subcommand) : mainGrammar.read c.name = .ok .plain := by
  cases c <;> decide +kernel

theorem name_ne_separator (c : Subcommand) : c.name ≠ separator := by
  cases c <;> decide +kernel

/-- The words in front of a subcommand as they are read. -/
def debugReadings (leading : List Text) : List (Text × Reading) :=
  leading.map fun word => (word, debugReading word)

theorem isLeading_debugReadings {leading : List Text} :
    ∀ w ∈ debugReadings leading, isLeading w = true := by
  simp [debugReadings, isLeading, debugReading]

theorem readAll_leading {leading : List Text} (h : ∀ word ∈ leading, IsDebug word)
    (rest : List Text) :
    mainGrammar.readAll (leading ++ rest) =
      (mainGrammar.readAll rest).map (debugReadings leading ++ ·) := by
  induction leading with
  | nil =>
    rw [List.nil_append]
    cases mainGrammar.readAll rest <;> rfl
  | cons word leading ih =>
    obtain ⟨hword, hleading⟩ := List.forall_mem_cons.1 h
    rw [List.cons_append, Grammar.readAll_cons_of_read hword.ne_separator hword.read, ih hleading]
    cases mainGrammar.readAll rest <;> rfl

theorem occurrences_debugReadings (leading : List Text) :
    mainGrammar.occurrences (debugReadings leading) =
      leading.map fun _ => .option debugFlag [] := by
  induction leading with
  | nil => simp [debugReadings]
  | cons word leading ih =>
    rw [debugReadings, List.map_cons, debugReading, Grammar.occurrences_switch _ rfl,
      ← debugReadings, ih]
    rfl

theorem foldlM_mainStep_leading (leading : List Text) (debug : Bool) (unknown : List Text) :
    (leading.map fun _ => Occurrence.option debugFlag []).foldlM mainStep (debug, unknown) =
      .ok (debug || !leading.isEmpty, unknown) := by
  induction leading generalizing debug with
  | nil => simp [pure, Except.pure]
  | cons word leading ih =>
    have hstep : mainStep (debug, unknown) (.option debugFlag []) = .ok (true, unknown) := rfl
    rw [List.map_cons, List.foldlM_cons, hstep]
    refine (ih true).trans ?_
    simp

/-- Options in front of the subcommand, of which there is one that changes what is
reported. -/
theorem ofArguments_eq {leading tail : List Text} (c : Subcommand)
    (hleading : ∀ word ∈ leading, IsDebug word)
    (hbare : ∀ word ∈ inFront tail, ¬IsBare word) :
    Invocation.ofArguments (leading ++ c.name :: tail) =
      (requestOfTail c [] tail).map fun request => ⟨!leading.isEmpty, request⟩ := by
  obtain ⟨readings, hreadings⟩ := Grammar.exists_readAll_iff.2 fun word hword =>
    (exists_read_main_iff (ne_separator_of_mem_inFront hword)).2 (hbare word hword)
  have hall : mainGrammar.readAll (leading ++ c.name :: tail) =
      .ok (debugReadings leading ++ (c.name, .plain) :: readings) := by
    rw [readAll_leading hleading, Grammar.readAll_cons_of_read (name_ne_separator c) (read_name c),
      hreadings]
    rfl
  have hname : ¬isLeading (c.name, .plain) = true := by simp [isLeading]
  have htake : (debugReadings leading ++ (c.name, .plain) :: readings).takeWhile isLeading =
      debugReadings leading := by
    rw [List.takeWhile_append_of_pos isLeading_debugReadings, List.takeWhile_cons_of_neg hname,
      List.append_nil]
  have hdrop : (debugReadings leading ++ (c.name, .plain) :: readings).dropWhile isLeading =
      (c.name, .plain) :: readings := by
    rw [List.dropWhile_append_of_pos isLeading_debugReadings, List.dropWhile_cons_of_neg hname]
  have hsubcommand : subcommandOf (((c.name, Reading.plain) :: readings).map Prod.fst) =
      .ok (c, tail) := by
    rw [List.map_cons, Grammar.map_fst_of_readAll hreadings, subcommandOf]
    simp
  rw [Invocation.ofArguments, hall]
  dsimp only
  rw [htake, hdrop, occurrences_debugReadings, foldlM_mainStep_leading]
  simp only [hsubcommand, Bool.false_or, bind, Except.bind]
  cases requestOfTail c [] tail <;> rfl

theorem ofArguments_of_isBare {leading tail : List Text} (c : Subcommand)
    (hleading : ∀ word ∈ leading, IsDebug word)
    (hbare : ∃ word ∈ inFront tail, IsBare word) :
    ∃ m, Invocation.ofArguments (leading ++ c.name :: tail) = .error (.misused mainPage m) := by
  obtain ⟨word, hword, hbare⟩ := hbare
  have hmem : word ∈ inFront (leading ++ c.name :: tail) := by
    rw [inFront_append fun word hword => (hleading word hword).ne_separator,
      inFront_cons (name_ne_separator c)]
    simp [hword]
  cases hall : mainGrammar.readAll (leading ++ c.name :: tail) with
  | ok readings =>
    obtain ⟨reading, hread⟩ := Grammar.exists_readAll_iff.1 ⟨readings, hall⟩ word hmem
    rw [read_bare hbare] at hread
    cases hread
  | error m =>
    refine ⟨m, ?_⟩
    rw [Invocation.ofArguments, hall]

end CommandAdvisor.Usage
