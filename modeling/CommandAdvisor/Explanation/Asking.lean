import CommandAdvisor.Json.Room
import CommandAdvisor.Workspace

/-!
# Asking for an explanation

A command is sent to an explanation service together with the verdict on it. A reply
that is not the record that was asked for becomes an explanation all the same, with the
reply as its text, unless it cannot be read to its end.

## Main definitions
* `readReply`: the explanation in a reply.
* `fallback`: the explanation that stands in for one.
* `ask`: the explanation of a command.
-/
namespace CommandAdvisor.Explanation

/-- The explanation of the only part when a reply cannot be read. -/
def fallbackPartText : Text :=
  "Failed to parse detailed explanation. The command appears to be a shell command."

/-- The safety notes when a reply cannot be read. -/
def fallbackSafetyNotes : Text := "Please verify command safety before execution."

/-- The explanation that stands in for a reply that cannot be read. -/
def fallback (command content : Text) : Explanation :=
  { parts := [⟨command, Command.TokenKind.command.name, fallbackPartText, none⟩]
    overall := content
    safetyNotes := fallbackSafetyNotes
    examples := [] }

/-- The explanation in a reply. -/
def readReply (room : Json.Room) (content : Text) : Except Failure Explanation :=
  match Json.exhaustion? room content with
  | some during => .error (.exhausted during)
  | none =>
    match Json.read .free content with
    | .error .malformed => .error .notJson
    | .error (.oversized digits) => .error (.longInteger digits)
    | .ok v =>
      match decode v with
      | .valid explanation => .ok explanation
      | .invalid issues => .error (.invalid issues)

/-- Send a request and note that it was sent. -/
def send (service : Service) (request : Request) : Action Text := do
  modify fun w => { w with requests := w.requests ++ [request] }
  match service request with
  | .ok content => return Text.trim (content.getD "")
  | .error fault => throw (.service fault)

/-- The explanation of a command by given settings. -/
def ask (service : Service) (settings : Settings) (line : Text) : Action Explanation := do
  let command := Text.trim line
  if command.isEmpty then throw .noCommand
  Action.noteVerdict (Risk.assess .builtIn command)
  let request := requestFor settings command (Risk.summary command)
  Action.note (.modelChosen request.model)
  Action.note (.requestSent
    ((Json.Value.array (request.messages.map Message.encode)).write .portable .indented))
  let content ← send service request
  Action.note (.replyReceived content)
  match readReply (← get).host.room content with
  | .ok explanation => return explanation
  | .error (.longInteger digits) => throw (.longInteger digits)
  | .error (.exhausted during) => throw (.exhausted during)
  | .error cause =>
    Action.note (.replyUnusable cause)
    return fallback command content

end CommandAdvisor.Explanation
