import CommandAdvisor.Explanation.Basic
import CommandAdvisor.Failure
import CommandAdvisor.Json.Writing
import CommandAdvisor.Settings.Basic

/-!
# Requests to an explanation service

A request names a model and carries two messages: one that says how to answer, with the
schema of the answer, and one with the command and what is known about its risk.

## Main definitions
* `Message` and `Request`.
* `Service`: what answers requests.
* `systemPrompt`, `userPrompt` and `messages`.
-/
namespace CommandAdvisor.Explanation

open Json (Value)

/-- One message of a conversation. -/
structure Message where
  role : Text
  content : Text
  deriving DecidableEq

/-- A message as a JSON value. -/
def Message.encode (m : Message) : Value :=
  .object [("role", .string m.role), ("content", .string m.content)]

/-- What is sent to a service. The key is left out when there is none. -/
structure Request where
  model : Text
  temperature : Number.Binary64
  apiKey : Option Text
  messages : List Message
  deriving DecidableEq

/-- What answers a request: with a text, with nothing, or with a report of what went
wrong. -/
abbrev Service := Request → Except ServiceFault (Option Text)

/-- How to answer, with the schema that answers have to follow. -/
def systemPrompt : Text :=
  "You are an expert system administrator and shell command educator. Provide " ++
  "accurate, detailed explanations of shell commands with proper safety warnings.\n" ++
  "\n<critical>\nReturn **ONLY** valid JSON matching this schema:\n\n" ++
  schema.toJson.write .portable .inline ++
  "\n\nHard requirements:\n" ++
  "- Output exactly one JSON object and nothing else.\n" ++
  "- The first character of your response must be `\x7b` and the last character must be " ++
  "`\x7d`.\n" ++
  "- Do not include markdown, code fences, comments, prefixes, or suffixes.\n" ++
  "- Each part \"type\" must be one of \"command\", \"option\", \"argument\", \"operator\", " ++
  "\"pipe\", \"redirect\".\n" ++
  "- Use only keys defined by the schema above.\n\n</critical>\n"

/-- The question about a command. -/
def question (command : Text) : Text :=
  "Analyze this shell command and provide a detailed breakdown: \"" ++ command ++ "\""

/-- What an answer should care about. -/
def advice : Text :=
  "Focus on accuracy and educational value. If the command contains potentially " ++
    "dangerous operations, clearly warn about them in safety_notes."

/-- What is asked about a command, with a summary of its risk if there is one. -/
def userPrompt (command summary : Text) : Text :=
  Text.joinedBy "\n\n"
    (question command ::
      (if summary.isEmpty then [] else ["Local safety check:\n" ++ summary]) ++ [advice])

/-- The messages about a command. -/
def messages (command summary : Text) : List Message :=
  [⟨"system", systemPrompt⟩, ⟨"user", userPrompt command summary⟩]

/-- The request about a command by given settings. -/
def requestFor (settings : Settings) (command summary : Text) : Request :=
  { model := settings.model
    temperature := settings.temperature
    apiKey := settings.apiKey.filter fun key => !key.isEmpty
    messages := messages command summary }

end CommandAdvisor.Explanation
