import CommandAdvisor.Explanation.Request
import CommandAdvisor.Inspection.Cache
import CommandAdvisor.Inspection.Report
import CommandAdvisor.Journal

/-!
# The workspace of a run

Everything that a run can see or change: stored files, the environment, the clock, the
reports that are still known, the requests that were sent, what was printed and what was
noted in the journal. The host, which no run changes, knows users and has room for so many
calls. An action that fails keeps what it did before.

## Main definitions
* `Host`: what a run finds and leaves as it is.
* `Workspace` and `Action`.
* `Action.onDisk`: an access to stored files as an action.
* `Action.note` and `Action.say`: entries in the journal and lines of output.
* `Action.report`: the report on a command line, from the cache if it is known.
-/
namespace CommandAdvisor

/-- What a run finds and leaves as it is. -/
structure Host where
  /-- The home directory of whoever runs the program, if the host knows them. -/
  own : Option Text
  /-- The users that the host knows, with their home directories. -/
  users : List (Text × Text)
  /-- The room that there is where a text is read. -/
  room : Json.Room

/-- A container with nobody in it but the users that every one has, run by the first. -/
def Host.usual : Host where
  own := some "/root"
  users := [
    ("root", "/root"), ("daemon", "/usr/sbin"), ("bin", "/bin"), ("sys", "/dev"),
    ("sync", "/bin"), ("games", "/usr/games"), ("man", "/var/cache/man"),
    ("lp", "/var/spool/lpd"), ("mail", "/var/mail"), ("news", "/var/spool/news"),
    ("uucp", "/var/spool/uucp"), ("proxy", "/bin"), ("www-data", "/var/www"),
    ("backup", "/var/backups"), ("list", "/var/list"), ("irc", "/run/ircd"),
    ("_apt", "/nonexistent"), ("nobody", "/nonexistent")]
  room := .usual

/-- Everything that a run can see or change. -/
structure Workspace where
  files : Storage.FileSystem
  /-- The home directory. -/
  home : Text
  environment : List (Text × Text)
  /-- Seconds since the start of 1970. -/
  clock : Number.Quantity
  /-- How many history entries were given an identifier. -/
  issued : Nat
  /-- What tells the temporary files of this run from those of others. -/
  stamp : Text
  reports : Inspection.Cache Text Inspection.Report
  /-- The requests that were sent to the explanation service. -/
  requests : List Explanation.Request
  journal : List Event
  printed : Text
  host : Host := .usual

/-- Steps of a run; a failure keeps the workspace as it is. -/
abbrev Action := EStateM Failure Workspace

namespace Workspace

/-- The value of an environment variable. -/
def environmentValue? (w : Workspace) (name : Text) : Option Text := w.environment.lookup name

/-- The value of an environment variable that says something. -/
def nonempty? (w : Workspace) (name : Text) : Option Text :=
  (w.environmentValue? name).filter fun value => !value.isEmpty

/-- The directory in which settings and history are kept. -/
def privateDirectory (w : Workspace) : Storage.Path :=
  (Storage.Path.ofText w.home).child ".cmdlens"

/-- The file of the settings. -/
def settingsFile (w : Workspace) : Storage.Path := w.privateDirectory.child "config.json"

/-- The file of the history when the settings name no other. -/
def historyFile (w : Workspace) : Storage.Path := w.privateDirectory.child "history.json"

end Workspace

namespace Action

/-- An access to stored files. -/
def onDisk {α : Type} (d : Storage.Disk α) : Action α := fun w =>
  match d.run w.files with
  | .ok a files => .ok a { w with files }
  | .error refusal files => .error (.storage refusal) { w with files }

/-- Enter an event in the journal. -/
def note (e : Event) : Action Unit := modify fun w => { w with journal := w.journal ++ [e] }

/-- Print a line. It is taken for granted that whatever is printed can be: the halves of a
surrogate pair too, which an output of bytes would refuse. -/
def say (line : Text) : Action Unit :=
  modify fun w => { w with printed := w.printed ++ line ++ "\n" }

/-- Note what an inspection of a command line found. -/
def noteTokens (line : Text) (tokens : List Command.Token) : Action Unit := do
  match Command.unclosedQuote? line with
  | some quote => note (.unclosedQuote quote)
  | none => pure ()
  note (.tokenized line tokens.length)

/-- Note a verdict; a line without words is not worth a note. -/
def noteVerdict (analysis : Risk.Analysis) : Action Unit :=
  if analysis.command.isEmpty then pure ()
  else note (.assessed analysis.command analysis.level analysis.warnings.length)

/-- How many reports are kept. -/
def reportCapacity : Nat := 256

/-- The report on a command line. Only one that is not known yet is noted. -/
def report (line : Text) : Action Inspection.Report := do
  let w ← get
  let (report, reports) := w.reports.consult reportCapacity Inspection.inspect line
  set { w with reports }
  if w.reports.knows line then pure ()
  else
    note (.inspecting line)
    noteTokens line report.tokens
    noteVerdict report.analysis
  return report

end Action

end CommandAdvisor
