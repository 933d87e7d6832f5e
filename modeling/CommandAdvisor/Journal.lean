import CommandAdvisor.Failure
import CommandAdvisor.Risk.Level

/-!
# The journal

What a run reports about itself, apart from its results. An event knows which part of
the program it comes from and how severe it is; readers choose the least severity that
they want to see.

## Main definitions
* `Severity` and `Event`.
* `Event.source`, `Event.severity` and `Event.message`.
* `Event.line`: an event as a line of text.
-/
namespace CommandAdvisor

/-- How much an event matters. -/
inductive Severity where
  | debug
  | warning
  deriving DecidableEq

/-- The name of a severity. -/
def Severity.name : Severity → Text
  | debug => "DEBUG"
  | warning => "WARNING"

/-- Something that a run reports. -/
inductive Event where
  /-- A command line is looked at that is not in the cache. -/
  | inspecting (line : Text)
  /-- A quote was opened and never closed. -/
  | unclosedQuote (quote : Letter)
  | tokenized (line : Text) (count : Nat)
  | assessed (line : Text) (level : Risk.Level) (warnings : Nat)
  | modelChosen (model : Text)
  /-- The messages of a request, as they are sent. -/
  | requestSent (messages : Text)
  | replyReceived (content : Text)
  /-- A reply is not the record that was asked for. -/
  | replyUnusable (cause : Failure)
  | settingsLoaded (path : Storage.Path)
  /-- The settings file does not hold JSON. -/
  | settingsUnusable (path : Storage.Path) (cause : Failure)
  | settingsSaved (path : Storage.Path)
  /-- A directory could be read by others and no longer can. -/
  | directoryTightened (path : Storage.Path) (mode : Nat)
  | historySaved (count : Nat) (path : Storage.Path)
  /-- The history file cannot be read and counts as empty. -/
  | historyUnreadable (path : Storage.Path) (cause : Failure)
  | subcommandFailed (name : Text)
  deriving DecidableEq

namespace Event

/-- The part of the program that reports the event. -/
def source : Event → Text
  | inspecting _ => "cmdlens"
  | unclosedQuote _ | tokenized _ _ => "cmdlens.tokenizer"
  | assessed _ _ _ => "cmdlens.safety"
  | modelChosen _ | requestSent _ | replyReceived _ | replyUnusable _ => "cmdlens.llm"
  | settingsLoaded _ | settingsUnusable _ _ | settingsSaved _ | directoryTightened _ _ =>
    "cmdlens.config"
  | historySaved _ _ | historyUnreadable _ _ => "cmdlens.history"
  | subcommandFailed _ => "cmdlens.cli"

/-- How severe the event is. -/
def severity : Event → Severity
  | replyUnusable _ | settingsUnusable _ _ | directoryTightened _ _ | historyUnreadable _ _ =>
    .warning
  | _ => .debug

/-- A failure as it is mentioned inside an event. -/
def mention (cause : Failure) : Text := "(<" ++ cause.label ++ ">)"

/-- Permission bits in octal. -/
def octal (mode : Nat) : Text := Text.ofChars (Nat.toDigits 8 mode)

/-- What the event says. -/
def message : Event → Text
  | inspecting line => "inspecting " ++ Text.quoted line
  | unclosedQuote quote =>
    "unterminated " ++ [quote] ++ " quote, emitting remainder as one argument"
  | tokenized line count =>
    "tokenized " ++ Text.quoted line ++ " into " ++ Text.ofNat count ++ " tokens"
  | assessed line level warnings =>
    "assessed " ++ Text.quoted line ++ ": risk=" ++ level.name ++
      " warnings=" ++ Text.ofNat warnings
  | modelChosen model => "model=" ++ model
  | requestSent messages => "messages=" ++ messages
  | replyReceived content => "raw response: " ++ content
  | replyUnusable cause =>
    "could not parse explain response " ++ mention cause ++ "; using raw content"
  | settingsLoaded path => "loaded config from " ++ path.toText
  | settingsUnusable path cause =>
    "invalid config JSON in " ++ path.toText ++ " " ++ mention cause ++
      "; falling back to defaults"
  | settingsSaved path => "saved config to " ++ path.toText
  | directoryTightened path mode =>
    "updated directory permissions for " ++ path.toText ++ " from " ++ octal mode ++ " to 700"
  | historySaved count path =>
    "saved " ++ Text.ofNat count ++ " history items to " ++ path.toText
  | historyUnreadable path cause =>
    "could not read history from " ++ path.toText ++ " " ++ mention cause ++ "; ignoring it"
  | subcommandFailed name => name ++ " failed"

/-- The event as a line of text. -/
def line (e : Event) : Text := e.source ++ " " ++ e.severity.name ++ ": " ++ e.message

end Event

/-- The events that a reader wants to see who asks for everything or for warnings only. -/
def visible (everything : Bool) (events : List Event) : List Event :=
  events.filter fun e => everything || e.severity = .warning

end CommandAdvisor
