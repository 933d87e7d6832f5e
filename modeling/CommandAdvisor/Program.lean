import CommandAdvisor.Display
import CommandAdvisor.Explanation.Asking
import CommandAdvisor.History.Store
import CommandAdvisor.Settings.Storage
import CommandAdvisor.Usage.Request

/-!
# The program

What each request does in a workspace, and a whole run from arguments to output. A
request that fails ends the run with a message and status one; only settings that cannot
be used make the run itself fail.

## Main definitions
* `Outcome`: the status of a request and what it complains about.
* `Program.perform`: what a request does.
* `Transcript` and `Program.run`: a run and what can be seen of it.
-/
namespace CommandAdvisor

open Usage (Request HistoryRequest Invocation)
open History (Store Entry)

/-- How a request ends. -/
structure Outcome where
  status : Nat
  complaint : Option Text
  deriving DecidableEq

namespace Outcome

/-- Everything went well. -/
def done : Outcome := ⟨0, none⟩

/-- Something went wrong. -/
def failed (text : Text) : Outcome := ⟨1, some ("Error: " ++ text)⟩

end Outcome

namespace Program

/-- Whether to use colours: as the settings say, and otherwise on a terminal that is not
known to be without. -/
def usesColours (w : Workspace) (terminal : Bool) (preference : Option Bool) : Bool :=
  match preference with
  | some wanted => wanted
  | none =>
    (w.environmentValue? "NO_COLOR").isNone &&
      Text.lower ((w.environmentValue? "TERM").getD []) ≠ "dumb" && terminal

/-- The command line that words make up. -/
def joined (words : List Text) : Text := Text.joinedBy " " words

/-- Show a command line with its tokens in colour. -/
def sayTokens (colours : Bool) (tokens : List Command.Token) : Action Unit :=
  Action.say ("\n  " ++ Display.tokensText colours tokens ++ "\n")

/-- Say several lines. -/
def sayAll : List Text → Action Unit
  | [] => pure ()
  | line :: rest => do
    Action.say line
    sayAll rest

/-- Print a value for others to read. -/
def sayForOthers (v : Json.Value) : Action Unit := do
  match v.writeExchange with
  | .ok text => Action.say text
  | .error obstacle => throw (.unreadable obstacle)

/-- Show the tokens of a command line. -/
def tokenize (colours : Bool) (words : List Text) (asData : Bool) : Action Outcome := do
  let report ← Action.report (joined words)
  if asData then
    Action.say ((Json.Value.array (report.tokens.map Command.Token.encode)).write .portable
      .indented)
  else
    sayTokens colours report.tokens
    sayAll ((report.tokens.filter fun t => t.kind ≠ .whitespace).map Display.tokenLine)
  return .done

/-- Show the verdict on a command line. -/
def assess (colours : Bool) (words : List Text) (asData strict : Bool) : Action Outcome := do
  let report ← Action.report (joined words)
  if asData then sayForOthers report.analysis.encode
  else
    sayTokens colours report.tokens
    Action.say (Display.verdictText colours report.analysis)
    Action.say ""
  return if strict && !report.analysis.isSafe then ⟨1, none⟩ else .done

/-- The history by given settings. -/
def store (settings : Settings) : Action Store := do
  return ⟨← settings.historyPath, settings.maxHistory⟩

/-- Show an explanation. -/
def sayExplanation (colours : Bool) (command : Text) (e : Explanation) : Action Unit := do
  let report ← Action.report command
  sayTokens colours report.tokens
  sayAll (Display.explanationLines colours e)
  Action.say ""

/-- Explain a command line and save it in the history. -/
def explain (service : Explanation.Service) (settings : Settings) (colours : Bool)
    (words : List Text) (asData saves : Bool) : Action Outcome := do
  let command := Text.trim (joined words)
  let explanation ← Explanation.ask service settings command
  if asData then sayForOthers explanation.encode
  else sayExplanation colours command explanation
  if saves then
    let history ← store settings
    let report ← Action.report command
    let _ ← history.add command explanation (some report.analysis.level)
  return .done

/-- Change an entry, which must be there, and say so. -/
def changeEntry (history : Store) (id : Text) (change : Action Text) : Action Outcome := do
  match ← history.get? id with
  | none => return .failed ("no history entry with id " ++ id)
  | some _ =>
    Action.say (← change)
    return .done

/-- Show history entries. -/
def sayEntries (entries : List Entry) : Action Outcome := do
  if entries.isEmpty then Action.say "No saved commands."
  else sayAll (entries.map Display.entryText)
  return .done

/-- Show or change the history. -/
def useHistory (history : Store) : HistoryRequest → Action Outcome
  | .everything => do sayEntries (← history.entries)
  | .search query => do sayEntries (← history.search query)
  | .favorites => do sayEntries (← history.favorites)
  | .tagged tags => do
    let entries ← history.entries
    sayEntries (match tags.mapM id with
      | some given => History.withTags given entries
      | none => [])
  | .recent none => do throw (.noAmount (← get).clock)
  | .recent (some days) => do sayEntries (← history.recent (.real days) (← get).clock)
  | .toggleFavorite id => changeEntry history id do
    let isFavorite ← history.toggleFavorite id
    return id ++ (if isFavorite then " added to" else " removed from") ++ " favorites"
  | .addTag id tag => changeEntry history id do
    history.addTag id tag
    return id ++ " tagged " ++ tag
  | .removeTag id tag => changeEntry history id do
    history.removeTag id tag
    return id ++ " untagged " ++ tag
  | .clear => do
    history.clear
    Action.say "History cleared."
    return .done

/-- What a request does, by given settings. -/
def perform (service : Explanation.Service) (settings : Settings) (colours : Bool) :
    Request → Action Outcome
  | .tokenize words asData => tokenize colours words asData
  | .assess words asData strict => assess colours words asData strict
  | .explain words asData saves => explain service settings colours words asData saves
  | .history request => do useHistory (← store settings) request

/-- What a request does. A failure ends in a complaint. -/
def serve (service : Explanation.Service) (terminal : Bool) (request : Request) :
    Action Outcome := do
  let settings ← Settings.load
  let colours := usesColours (← get) terminal settings.color
  tryCatch (perform service settings colours request) fun failure => do
    Action.note (.subcommandFailed request.subcommand.name)
    return .failed failure.message

end Program

/-- How a run ends. -/
inductive Ending where
  /-- The request was served. -/
  | served (status : Nat)
  /-- The arguments asked for a text or were wrong. -/
  | stopped (status : Nat)
  /-- The settings cannot be used. -/
  | failed (cause : Failure)

/-- What can be seen of a run. -/
structure Transcript where
  ending : Ending
  output : Text
  complaints : Text

namespace Program

/-- Lines of text. -/
def unlines (lines : List Text) : Text := lines.flatMap (· ++ "\n")

/-- The part of the journal that is shown. -/
def shownJournal (debug : Bool) (w : Workspace) : List Text :=
  (visible debug w.journal).map Event.line

/-- The transcript of a run that got as far as a request. -/
def transcribe (debug : Bool) : EStateM.Result Failure Workspace Outcome → Transcript × Workspace
  | .ok outcome w =>
    (⟨.served outcome.status, w.printed,
      unlines (shownJournal debug w ++ outcome.complaint.toList)⟩, w)
  | .error cause w => (⟨.failed cause, w.printed, unlines (shownJournal debug w)⟩, w)

/-- How wide a terminal is when nobody says so. -/
def standardColumns : Int := 80

/-- How wide a terminal is, by the environment. -/
def columns (w : Workspace) : Int :=
  match (w.environmentValue? "COLUMNS").bind Number.readWhole? with
  | some n => if 0 < n then n else standardColumns
  | none => standardColumns

/-- How wide help pages may be: two columns stay free. -/
def pageWidth (w : Workspace) : Int := columns w - 2

/-- The transcript of a run that ends before there is a request. -/
def stopped (w : Workspace) : Usage.Stop → Transcript
  | .help page => ⟨.stopped 0, page.render (pageWidth w), []⟩
  | .version =>
    ⟨.stopped 0, Usage.Page.renderText (pageWidth w) Usage.fullName ++ "\n", []⟩
  | .misused page misuse => ⟨.stopped 2, [], page.complaint (pageWidth w) misuse⟩

/-- A run of the program: what is seen of it and the workspace afterwards. -/
def run (service : Explanation.Service) (terminal : Bool) (arguments : List Text)
    (w : Workspace) : Transcript × Workspace :=
  match Invocation.ofArguments arguments with
  | .error stop => (stopped w stop, w)
  | .ok invocation =>
    transcribe invocation.debug
      ((serve service terminal invocation.request).run { w with journal := [], printed := [] })

end Program

end CommandAdvisor
