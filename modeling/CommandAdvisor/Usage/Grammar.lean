import CommandAdvisor.Text.Digit
import CommandAdvisor.Text.Quoted

/-!
# Options on a command line

A grammar lists the options that a program takes. Its arguments are read in two passes.
The first looks at each word by itself: it is an option, possibly with a value joined to
it, or something that looks like one, or plain. The second goes from left to right and
gives options the plain words behind them for values. Behind a separator all words are
plain.

## Main definitions
* `Flag` and `Grammar`.
* `Misuse`: what is wrong with arguments, and its message.
* `Grammar.read` and `Grammar.readAll`: the first pass.
* `Occurrence` and `Grammar.occurrences`: the second pass.
-/
namespace CommandAdvisor.Usage

/-- An option. It has a name of several letters and may have one of a single letter, in
which case it takes no values. -/
structure Flag where
  letter? : Option Letter
  word : Text
  /-- What the values are called; there are as many as names. -/
  values : List Text
  help : Text
  values_of_letter : letter?.isSome → values = [] := by simp
  deriving DecidableEq

namespace Flag

/-- The ways to write a flag. -/
def spellings (f : Flag) : List Text :=
  (f.letter?.map fun l => [.char '-', l]).toList ++ ["--" ++ f.word]

/-- How a flag is called in a message. -/
def title (f : Flag) : Text := Text.joinedBy "/" f.spellings

/-- The spelling of a flag behind which nothing but values follow. -/
def longSpelling (f : Flag) : Text := "--" ++ f.word

end Flag

/-- What is wrong with arguments. -/
inductive Misuse where
  /-- A shortened option that could be any of several. -/
  | ambiguous (word : Text) (spellings : List Text)
  /-- A value for a flag that takes none. -/
  | needlessValue (flag : Flag) (value : Text)
  | missingValues (flag : Flag)
  | notNumber (flag : Flag) (value : Text)
  /-- Two options that exclude each other. -/
  | conflict (flag earlier : Flag)
  | noSubcommand
  | unknownSubcommand (word : Text) (choices : List Text)
  | unrecognized (words : List Text)
  /-- A subcommand without the words of a command. -/
  | noCommand (subcommand : Text)
  deriving DecidableEq

namespace Misuse

/-- A message about a flag. -/
def about (flag : Flag) (text : Text) : Text := "argument " ++ flag.title ++ ": " ++ text

/-- What is said about wrong arguments. -/
def message : Misuse → Text
  | ambiguous word spellings =>
    "ambiguous option: " ++ word ++ " could match " ++ Text.joinedBy ", " spellings
  | needlessValue flag value =>
    about flag ("ignored explicit argument " ++ Text.quoted value)
  | missingValues flag =>
    about flag (if flag.values.length = 1 then "expected one argument"
      else "expected " ++ Text.ofNat flag.values.length ++ " arguments")
  | notNumber flag value => about flag ("invalid float value: " ++ Text.quoted value)
  | conflict flag earlier => about flag ("not allowed with argument " ++ earlier.title)
  | noSubcommand => "the following arguments are required: subcommand"
  | unknownSubcommand word choices =>
    "argument subcommand: invalid choice: " ++ Text.quoted word ++ " (choose from " ++
      Text.joinedBy ", " (choices.map Text.quoted) ++ ")"
  | unrecognized words => "unrecognized arguments: " ++ Text.joinedBy " " words
  | noCommand subcommand => subcommand ++ " needs a command"

end Misuse

/-- The word behind which all words are plain. -/
def separator : Text := "--"

/-- The options that a program takes. -/
structure Grammar where
  flags : List Flag
  /-- Whether an option may be shortened as long as no other one starts like it. -/
  abbreviates : Bool

/-- What a word is by itself. -/
inductive Reading where
  | plain
  | separator
  /-- An option that the grammar does not have. -/
  | unknown
  /-- An option, whether it is written with a single letter, and the value joined to it. -/
  | option (flag : Flag) (isLetter : Bool) (joined : Option Text)
  deriving DecidableEq

namespace Reading

/-- Whether a word is no option. -/
def isPlain : Reading → Bool
  | plain => true
  | _ => false

end Reading

/-- Whether a word is a number below zero, which is no option: a minus and digits of any
script, with a point among or before them. A line feed may follow. -/
def isNegativeNumber : Text → Bool
  | .char '-' :: rest =>
    let body := if rest.getLast? = some (.char '\n') then rest.dropLast else rest
    match body.dropWhile Text.isDecimalDigit with
    | [] => !body.isEmpty
    | .char '.' :: fraction => !fraction.isEmpty && fraction.all Text.isDecimalDigit
    | _ => false
  | _ => false

namespace Grammar

/-- All spellings of all flags, in order. -/
def spelled (g : Grammar) : List (Text × Flag) :=
  g.flags.flatMap fun f => f.spellings.map fun s => (s, f)

/-- The flag with a spelling. -/
def flag? (g : Grammar) (spelling : Text) : Option Flag := g.spelled.lookup spelling

/-- The spellings that a word could be short for, and the value joined to it. A word with
one dash is a letter with everything behind it joined. -/
def candidates (g : Grammar) (word : Text) : List (Text × Reading) :=
  match word with
  | .char '-' :: .char '-' :: _ =>
    let (start, joined) := word.cutAt '='
    if g.abbreviates then
      (g.spelled.filter fun s => start.isPrefixOf s.1).map fun s =>
        (s.1, .option s.2 false joined)
    else []
  | .char '-' :: l :: rest =>
    (g.spelled.filter fun s => s.1 = [.char '-', l]).map fun s =>
      (s.1, .option s.2 true (some rest))
  | _ => []

/-- Whether a spelling is a single letter behind a single dash. -/
def isLetterSpelling (spelling : Text) : Bool :=
  match spelling with
  | .char '-' :: l :: _ => l ≠ '-'
  | _ => false

/-- The reading of a word that starts with a full spelling and an equals sign. -/
def readJoined? (g : Grammar) (word : Text) : Option Reading :=
  match word.cutAt '=' with
  | (start, some value) =>
    (g.flag? start).map fun f => .option f (isLetterSpelling start) (some value)
  | (_, none) => none

/-- What a word is when the grammar has no option for it. A word with a blank in it is
plain even behind a dash. -/
def readOther (word : Text) : Reading :=
  if isNegativeNumber word || word.contains ' ' then .plain else .unknown

/-- What a word is by itself. -/
def read (g : Grammar) (word : Text) : Except Misuse Reading :=
  match word with
  | .char '-' :: _ :: _ =>
    match g.flag? word with
    | some f => .ok (.option f (isLetterSpelling word) none)
    | none =>
      match g.readJoined? word with
      | some r => .ok r
      | none =>
        match g.candidates word with
        | [] => .ok (readOther word)
        | [c] => .ok c.2
        | several => .error (.ambiguous word (several.map Prod.fst))
  | _ => .ok .plain

/-- What each word is by itself. -/
def readAll (g : Grammar) : List Text → Except Misuse (List (Text × Reading))
  | [] => .ok []
  | word :: rest =>
    if word = separator then .ok ((word, .separator) :: rest.map fun w => (w, .plain))
    else do
      let reading ← g.read word
      return (word, reading) :: (← g.readAll rest)

@[simp] theorem readAll_nil (g : Grammar) : g.readAll [] = .ok [] := rfl

/-- Behind a separator nothing can go wrong. -/
theorem readAll_separator (g : Grammar) (rest : List Text) :
    g.readAll (separator :: rest) =
      .ok ((separator, .separator) :: rest.map fun w => (w, .plain)) := by
  simp [readAll]

theorem readAll_cons (g : Grammar) {word : Text} (h : word ≠ separator) (rest : List Text) :
    g.readAll (word :: rest) =
      (g.read word).bind fun reading =>
        (g.readAll rest).map fun words => (word, reading) :: words := by
  rw [readAll, if_neg h]
  cases g.read word with
  | error m => rfl
  | ok reading =>
    cases g.readAll rest <;> rfl

/-- The first pass keeps the words as they are. -/
theorem map_fst_of_readAll {g : Grammar} {arguments : List Text}
    {words : List (Text × Reading)} (h : g.readAll arguments = .ok words) :
    words.map Prod.fst = arguments := by
  induction arguments generalizing words with
  | nil => cases h; rfl
  | cons word rest ih =>
    by_cases hs : word = separator
    · subst hs
      rw [readAll_separator] at h
      cases h
      simp [Function.comp_def]
    · rw [readAll_cons g hs] at h
      cases hr : g.read word with
      | error m => rw [hr] at h; cases h
      | ok reading =>
        cases ha : g.readAll rest with
        | error m => rw [hr, ha] at h; cases h
        | ok others =>
          rw [hr, ha] at h
          cases h
          simp [ih ha]

end Grammar

/-- One thing that arguments say. -/
inductive Occurrence where
  /-- An option with its values. A separator that is joined to an option is no value. -/
  | option (flag : Flag) (values : List (Option Text))
  /-- A word that belongs to no option. -/
  | leftover (word : Text)
  /-- Something is wrong, and nothing behind it counts. -/
  | misuse (m : Misuse)
  deriving DecidableEq

namespace Grammar

/-- The flags of a word of letters behind one dash. -/
def unpack (g : Grammar) (flag : Flag) : Text → Except Misuse (List Flag)
  | [] => .ok [flag]
  | l :: rest =>
    match g.flag? ['-', l] with
    | some next => (g.unpack next rest).map (flag :: ·)
    | none => .error (.needlessValue flag (l :: rest))

/-- What a word says that has a value joined to its option. -/
def joinedOccurrences (g : Grammar) (flag : Flag) (isLetter : Bool) (value : Text) :
    Except Misuse (List Occurrence) :=
  match flag.values with
  | [] =>
    if isLetter && !value.isEmpty then
      (g.unpack flag value).map (·.map (.option · []))
    else .error (.needlessValue flag value)
  | [_] => .ok [.option flag [if value = separator then none else some value]]
  | _ => .error (.missingValues flag)

/-- What arguments say, in order, up to the first thing that is wrong. -/
def occurrences (g : Grammar) : List (Text × Reading) → List Occurrence
  | [] => []
  | (_, .option flag isLetter (some value)) :: rest =>
    match g.joinedOccurrences flag isLetter value with
    | .ok os => os ++ g.occurrences rest
    | .error m => [.misuse m]
  | (_, .option flag _ none) :: rest =>
    let own := (rest.takeWhile fun w => w.2.isPlain).take flag.values.length
    if own.length < flag.values.length then [.misuse (.missingValues flag)]
    else .option flag (own.map fun w => some w.1) :: g.occurrences (rest.drop own.length)
  | (word, _) :: rest => .leftover word :: g.occurrences rest
termination_by words => words.length

@[simp] theorem occurrences_nil (g : Grammar) : g.occurrences [] = [] := by
  simp [occurrences]

@[simp] theorem occurrences_plain (g : Grammar) (word : Text)
    (rest : List (Text × Reading)) :
    g.occurrences ((word, .plain) :: rest) = .leftover word :: g.occurrences rest := by
  rw [occurrences]
  · intros; simp_all
  · intros; simp_all

/-- What all arguments say. -/
def parse (g : Grammar) (arguments : List Text) : List Occurrence :=
  match g.readAll arguments with
  | .ok words => g.occurrences words
  | .error m => [.misuse m]

end Grammar

end CommandAdvisor.Usage
