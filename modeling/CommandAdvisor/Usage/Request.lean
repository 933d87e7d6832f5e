import CommandAdvisor.Number.Amount
import CommandAdvisor.Usage.Subcommand

/-!
# Requests on the command line

What a user asks for. The words of a command line behind a subcommand need no quoting:
every word that is not one of the few flags of the subcommand belongs to the command
line, dashed or not, and behind a separator every word does.

## Main definitions
* `HistoryRequest`, `Request` and `Invocation`: what was asked for.
* `commandWords`: the words of the command line behind a subcommand.
* `Stop`: why arguments end in a message instead of a request.
* `Invocation.ofArguments`: what arguments ask for.
-/
namespace CommandAdvisor.Usage

/-- What can be done with the history. -/
inductive HistoryRequest where
  | everything
  | search (query : Text)
  | favorites
  /-- The entries with all tags. A tag that was not given is on no entry. -/
  | tagged (tags : List (Option Text))
  /-- The entries of the last days, if a number of days was given. -/
  | recent (days : Option Number.Binary64)
  | toggleFavorite (id : Text)
  | addTag (id tag : Text)
  | removeTag (id tag : Text)
  | clear
  deriving DecidableEq

/-- A request, with the words of the command line that it is about. -/
inductive Request where
  | tokenize (words : List Text) (asData : Bool)
  | assess (words : List Text) (asData strict : Bool)
  | explain (words : List Text) (asData saves : Bool)
  | history (request : HistoryRequest)
  deriving DecidableEq

/-- The subcommand of a request. -/
def Request.subcommand : Request → Subcommand
  | tokenize _ _ => .tokenize
  | assess _ _ _ => .assess
  | explain _ _ _ => .explain
  | history _ => .history

/-- What was asked for, and whether everything is to be reported. -/
structure Invocation where
  debug : Bool
  request : Request
  deriving DecidableEq

/-- The words of a command line behind a subcommand with some flags. -/
def commandWords (flags : List Text) : List Text → List Text
  | [] => []
  | word :: rest =>
    if word = separator then rest
    else if flags.contains word then commandWords flags rest
    else word :: commandWords flags rest

/-- Behind a separator every word belongs to the command line. -/
theorem commandWords_separator (flags rest : List Text) :
    commandWords flags (separator :: rest) = rest := by
  simp [commandWords]

theorem commandWords_flag {flags : List Text} {word : Text} (hs : word ≠ separator)
    (hf : word ∈ flags) (rest : List Text) :
    commandWords flags (word :: rest) = commandWords flags rest := by
  simp [commandWords, hs, hf]

theorem commandWords_word {flags : List Text} {word : Text} (hs : word ≠ separator)
    (hf : word ∉ flags) (rest : List Text) :
    commandWords flags (word :: rest) = word :: commandWords flags rest := by
  simp [commandWords, hs, hf]

/-- Why arguments end in a message. -/
inductive Stop where
  /-- A page was asked for. -/
  | help (page : Page)
  /-- The version was asked for. -/
  | version
  /-- The program was called wrongly; the page says how to call it. -/
  | misused (page : Page) (misuse : Misuse)

/-- What is known of a history request so far: the flag that was used and its meaning. -/
abbrev Chosen := Option (Flag × HistoryRequest)

/-- A text that is empty when it is not given. -/
def orEmpty (value : Option Text) : Text := value.getD []

/-- The number of days that a value of the flag says. -/
def readDays (value : Option Text) : Except Misuse (Option Number.Binary64) :=
  match value with
  | none => .ok none
  | some text =>
    match Number.readAmount? text with
    | some days => .ok (some days)
    | none => .error (.notNumber recentFlag text)

/-- The tags of a request. -/
def HistoryRequest.tags : HistoryRequest → List (Option Text)
  | tagged tags => tags
  | _ => []

/-- What a flag of the history asks for, given what was asked for before. Only tags add
up; otherwise the last use of a flag counts. -/
def requestOf (flag : Flag) (values : List (Option Text)) (before : HistoryRequest) :
    Except Misuse HistoryRequest :=
  if flag = searchFlag then .ok (.search (orEmpty values.head?.join))
  else if flag = favoritesFlag then .ok .favorites
  else if flag = tagFlag then .ok (.tagged (before.tags ++ values))
  else if flag = recentFlag then (readDays values.head?.join).map .recent
  else if flag = favoriteFlag then
    let id := orEmpty values.head?.join
    .ok (if id.isEmpty then .everything else .toggleFavorite id)
  else match values with
    | [id, tag] =>
      if flag = addTagFlag then .ok (.addTag (orEmpty id) (orEmpty tag))
      else .ok (.removeTag (orEmpty id) (orEmpty tag))
    | _ => .ok .clear

/-- One more flag of the history. -/
def choose (chosen : Chosen) (flag : Flag) (values : List (Option Text)) :
    Except Misuse Chosen := do
  let request ← requestOf flag values ((chosen.map Prod.snd).getD .everything)
  match chosen with
  | some (earlier, _) =>
    if earlier = flag then return some (flag, request) else throw (.conflict flag earlier)
  | none => return some (flag, request)

/-- What the arguments of the history ask for, and the words that nobody understands. -/
def historyStep (page : Page) (state : Chosen × List Text) :
    Occurrence → Except Stop (Chosen × List Text)
  | .leftover word => .ok (state.1, state.2 ++ [word])
  | .misuse m => .error (.misused page m)
  | .option flag values =>
    if flag = helpFlag then .error (.help page)
    else match choose state.1 flag values with
      | .ok chosen => .ok (chosen, state.2)
      | .error m => .error (.misused page m)

/-- The flags among the arguments of a subcommand that takes a command line. -/
def flagStep (page : Page) (flags : List Flag) : Occurrence → Except Stop (List Flag)
  | .leftover _ => .ok flags
  | .misuse m => .error (.misused page m)
  | .option flag _ => if flag = helpFlag then .error (.help page) else .ok (flag :: flags)

/-- One option in front of the subcommand: whether everything is to be reported, and the
words that nobody understands. -/
def mainStep (state : Bool × List Text) : Occurrence → Except Stop (Bool × List Text)
  | .leftover word => .ok (state.1, state.2 ++ [word])
  | .misuse m => .error (.misused mainPage m)
  | .option flag _ =>
    if flag = helpFlag then .error (.help mainPage)
    else if flag = versionFlag then .error .version
    else .ok (true, state.2)

/-- Whether a word in front of the subcommand is an option. -/
def isLeading (w : Text × Reading) : Bool := w.2 ≠ .plain && w.2 ≠ .separator

/-- The subcommand that comes first among words, and the words behind it. -/
def subcommandOf (words : List Text) : Except Misuse (Subcommand × List Text) :=
  let choices := Subcommand.all.map Subcommand.name
  match words with
  | [] => .error .noSubcommand
  | word :: rest =>
    match Subcommand.ofName? word with
    | some c => .ok (c, rest)
    | none =>
      if word = separator && rest.isEmpty then .error .noSubcommand
      else .error (.unknownSubcommand word choices)

/-- The request that a subcommand makes of a command line with some flags. -/
def requestFor (c : Subcommand) (words : List Text) (flags : List Flag) : Request :=
  match c with
  | .tokenize => .tokenize words (flags.contains tokensAsDataFlag)
  | .assess => .assess words (flags.contains verdictAsDataFlag) (flags.contains strictFlag)
  | .explain =>
    .explain words (flags.contains explanationAsDataFlag) (!flags.contains noHistoryFlag)
  | .history => .history .everything

/-- What the words behind a subcommand ask for. `unknown` are the words in front of it
that nobody understands; they matter only to the history. -/
def requestOfTail (c : Subcommand) (unknown tail : List Text) : Except Stop Request := do
  let said := c.grammar.parse tail
  if c = .history then
    let (chosen, leftovers) ← said.foldlM (historyStep c.page) (none, unknown)
    if leftovers.isEmpty then return .history ((chosen.map Prod.snd).getD .everything)
    else throw (.misused mainPage (.unrecognized leftovers))
  else
    let flags ← said.foldlM (flagStep c.page) []
    let words := commandWords (c.flags.map Flag.longSpelling) tail
    if words.isEmpty then throw (.misused mainPage (.noCommand c.name))
    else return requestFor c words flags

/-- What arguments ask for. Options in front of the subcommand come first, then the
subcommand, then its own arguments. -/
def Invocation.ofArguments (arguments : List Text) : Except Stop Invocation :=
  match mainGrammar.readAll arguments with
  | .error m => .error (.misused mainPage m)
  | .ok words => do
    let (debug, unknown) ← (mainGrammar.occurrences (words.takeWhile isLeading)).foldlM
      mainStep (false, [])
    match subcommandOf ((words.dropWhile isLeading).map Prod.fst) with
    | .error m => throw (.misused mainPage m)
    | .ok (c, tail) => return ⟨debug, ← requestOfTail c unknown tail⟩

end CommandAdvisor.Usage
