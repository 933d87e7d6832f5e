import CommandAdvisor.Proofs.Text.Words
import CommandAdvisor.Usage.Request
import Mathlib.Data.List.Nodup

/-!
# What the words of a command line are by themselves

The first pass looks at each word in front of the separator by itself, so it goes through
exactly if it does at each of these words, and the second pass goes from word to word. This
holds of every grammar; what a single word is depends on the spellings.

## Main definitions
* `inFront` and `behind`: the words around the first separator.

## Main statements
* `commandWords_eq`: the words of a command line by their place and their spelling.
* `Grammar.flag?_eq_some_iff`: a flag is found by its spellings, where these are distinct.
* `Grammar.exists_readAll_iff`: when the first pass goes through.
* `Grammar.parse_cons`: both passes, one word further.
-/
namespace CommandAdvisor.Usage

/-! ## The first separator -/

/-- The words in front of the first separator. -/
def inFront (words : List Text) : List Text := words.takeWhile (· ≠ separator)

/-- The words behind the first separator. -/
def behind (words : List Text) : List Text := (words.dropWhile (· ≠ separator)).tail

@[simp] theorem inFront_nil : inFront [] = [] := rfl

@[simp] theorem inFront_separator (rest : List Text) : inFront (separator :: rest) = [] := by
  simp [inFront]

theorem inFront_cons {word : Text} (h : word ≠ separator) (rest : List Text) :
    inFront (word :: rest) = word :: inFront rest := by
  simp [inFront, h]

theorem behind_cons {word : Text} (h : word ≠ separator) (rest : List Text) :
    behind (word :: rest) = behind rest := by
  simp [behind, h]

theorem ne_separator_of_mem_inFront {words : List Text} {word : Text} (h : word ∈ inFront words) :
    word ≠ separator := by
  simpa using List.mem_takeWhile_imp h

theorem inFront_append {front : List Text} (h : ∀ word ∈ front, word ≠ separator)
    (rest : List Text) : inFront (front ++ rest) = front ++ inFront rest := by
  rw [inFront, List.takeWhile_append_of_pos (by simpa using h)]
  rfl

/-- The words of a command line are those in front of the separator that are no flags, and
all words behind it. -/
theorem commandWords_eq (flags tail : List Text) :
    commandWords flags tail =
      (inFront tail).filter (fun word => !flags.contains word) ++ behind tail := by
  induction tail with
  | nil => rfl
  | cons word rest ih =>
    by_cases hs : word = separator
    · subst hs
      simp [commandWords_separator, behind]
    · rw [inFront_cons hs, behind_cons hs]
      by_cases hf : word ∈ flags
      · rw [commandWords_flag hs hf, ih]
        simp [hf]
      · rw [commandWords_word hs hf, ih]
        simp [hf]

/-! ## Spellings -/

/-- Where keys are distinct, the entries with a key are what is found under it. -/
theorem filter_fst_of_nodup {α β : Type} [DecidableEq α] [BEq α] [LawfulBEq α]
    {entries : List (α × β)} (h : (entries.map Prod.fst).Nodup) (a : α) :
    (entries.filter fun e => e.1 = a) = ((entries.lookup a).map fun b => (a, b)).toList := by
  induction entries with
  | nil => rfl
  | cons e entries ih =>
    obtain ⟨key, b⟩ := e
    obtain ⟨hkey, hrest⟩ := List.nodup_cons.1 h
    by_cases ha : key = a
    · subst ha
      have hnone : (entries.filter fun e => e.1 = key) = [] := by
        rw [List.filter_eq_nil_iff]
        intro e he
        have hmem : e.1 ∈ entries.map Prod.fst := List.mem_map_of_mem he
        simpa using fun (heq : e.1 = key) => hkey (heq ▸ hmem)
      simp [hnone]
    · have hne : (a == key) = false := by simpa using Ne.symm ha
      simp [ha, hne, ih hrest, List.lookup_cons]

namespace Grammar

theorem mem_spelled {g : Grammar} {spelling : Text} {f : Flag} :
    (spelling, f) ∈ g.spelled ↔ f ∈ g.flags ∧ spelling ∈ f.spellings := by
  simp only [spelled, List.mem_flatMap, List.mem_map, Prod.mk.injEq]
  constructor
  · rintro ⟨f', hf, s, hs, rfl, rfl⟩
    exact ⟨hf, hs⟩
  · rintro ⟨hf, hs⟩
    exact ⟨f, hf, spelling, hs, rfl, rfl⟩

theorem flag?_eq_some_iff {g : Grammar} (hg : (g.spelled.map Prod.fst).Nodup) {spelling : Text}
    {f : Flag} : g.flag? spelling = some f ↔ f ∈ g.flags ∧ spelling ∈ f.spellings := by
  have hmem : (spelling, f) ∈ g.spelled ↔
      (spelling, f) ∈ g.spelled.filter fun e => e.1 = spelling := by simp
  rw [← mem_spelled, hmem, filter_fst_of_nodup hg, flag?]
  simp

theorem read_of_flag? {g : Grammar} (hg : (g.spelled.map Prod.fst).Nodup) {word : Text}
    {f : Flag} (h : g.flag? word = some f) :
    g.read word = .ok (.option f (isLetterSpelling word) none) := by
  obtain ⟨-, hspelling⟩ := (flag?_eq_some_iff hg).1 h
  have hdash : ∃ l rest, word = .char '-' :: l :: rest := by
    rcases List.mem_append.1 hspelling with hletter | hlong
    · obtain ⟨l, -, rfl⟩ := by simpa using hletter
      exact ⟨l, [], rfl⟩
    · obtain rfl := List.mem_singleton.1 hlong
      exact ⟨.char '-', f.word, rfl⟩
  obtain ⟨l, rest, rfl⟩ := hdash
  simp [read, h]

/-- A value is joined to a word only by an equals sign behind a spelling. -/
theorem readJoined?_eq_none {g : Grammar} {word : Text}
    (h : ∀ start value, word = start ++ .char '=' :: value → g.flag? start = none) :
    g.readJoined? word = none := by
  rw [readJoined?]
  split
  · next start value hcut =>
    rw [h start value (Text.eq_of_cutAt hcut)]
    rfl
  · rfl

theorem readOther_ne_option (word : Text) (f : Flag) (l : Bool) (joined : Option Text) :
    readOther word ≠ .option f l joined := by
  rw [readOther]
  split <;> simp

/-! ## The first pass -/

/-- Words can be read exactly if each one in front of the separator can be. -/
theorem exists_readAll_iff {g : Grammar} {words : List Text} :
    (∃ readings, g.readAll words = .ok readings) ↔
      ∀ word ∈ inFront words, ∃ reading, g.read word = .ok reading := by
  induction words with
  | nil => simp
  | cons word rest ih =>
    by_cases hs : word = separator
    · subst hs
      simp [readAll_separator]
    · rw [inFront_cons hs, readAll_cons g hs, List.forall_mem_cons, ← ih]
      cases g.read word with
      | error m => simp [Except.bind]
      | ok reading => cases g.readAll rest <;> simp [Except.bind, Except.map]

theorem readAll_cons_of_read {g : Grammar} {word : Text} {reading : Reading}
    (hs : word ≠ separator) (h : g.read word = .ok reading) (rest : List Text) :
    g.readAll (word :: rest) = (g.readAll rest).map fun words => (word, reading) :: words := by
  rw [readAll_cons g hs, h]
  rfl

/-! ## The second pass -/

@[simp] theorem parse_nil (g : Grammar) : g.parse [] = [] := by
  simp [parse]

/-- A word that is no option is left over. -/
theorem occurrences_leftover (g : Grammar) {reading : Reading}
    (h : ∀ f l joined, reading ≠ .option f l joined) (word : Text)
    (rest : List (Text × Reading)) :
    g.occurrences ((word, reading) :: rest) = .leftover word :: g.occurrences rest := by
  rw [occurrences]
  · intro f l value heq
    exact h f l _ heq
  · intro f l heq
    exact h f l _ heq

theorem occurrences_switch (g : Grammar) {f : Flag} (h : f.values = []) (word : Text) (l : Bool)
    (rest : List (Text × Reading)) :
    g.occurrences ((word, .option f l none) :: rest) = .option f [] :: g.occurrences rest := by
  rw [occurrences]
  simp [h]

theorem occurrences_joined (g : Grammar) (word : Text) (f : Flag) (l : Bool) (value : Text)
    (rest : List (Text × Reading)) :
    g.occurrences ((word, .option f l (some value)) :: rest) =
      match g.joinedOccurrences f l value with
      | .ok os => os ++ g.occurrences rest
      | .error m => [.misuse m] := by
  cases hvalue : g.joinedOccurrences f l value <;> simp [occurrences, hvalue]

/-- Behind a separator everything is left over. -/
theorem parse_separator (g : Grammar) (rest : List Text) :
    g.parse (separator :: rest) = .leftover separator :: rest.map .leftover := by
  rw [parse, readAll_separator]
  dsimp only
  rw [occurrences_leftover g (by simp)]
  congr 1
  induction rest with
  | nil => simp
  | cons word rest ih => simp [ih]

/-- What a word and the words behind it say, where all of them can be read. -/
theorem parse_cons {g : Grammar} {word : Text} {reading : Reading} {rest : List Text}
    (hs : word ≠ separator) (h : g.read word = .ok reading)
    (hrest : ∃ readings, g.readAll rest = .ok readings) :
    ∃ readings, g.parse rest = g.occurrences readings ∧
      g.parse (word :: rest) = g.occurrences ((word, reading) :: readings) := by
  obtain ⟨readings, hreadings⟩ := hrest
  refine ⟨readings, ?_, ?_⟩
  · rw [parse, hreadings]
  · rw [parse, readAll_cons_of_read hs h, hreadings]
    rfl

end Grammar

end CommandAdvisor.Usage
