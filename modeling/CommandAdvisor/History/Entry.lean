import CommandAdvisor.Explanation.Basic
import CommandAdvisor.Risk.Record

/-!
# History entries

A command line that was saved, with its explanation, the level of its verdict, when it
was saved, and what the user noted about it.
-/
namespace CommandAdvisor.History

open Json (Value)
open Record

/-- A saved command line. -/
structure Entry where
  id : Text
  command : Text
  parts : List Explanation.Part
  overall : Text
  safetyNotes : Text
  examples : List Explanation.Example
  level : Option Risk.Level
  /-- Seconds since the start of 1970. -/
  timestamp : Number.Binary64
  isFavorite : Bool
  tags : List Text
  deriving DecidableEq, Inhabited

namespace Entry

/-- An entry as a JSON value. -/
def encode (e : Entry) : Value :=
  .object [
    ("id", .string e.id),
    ("command", .string e.command),
    ("parts", .array (e.parts.map Explanation.Part.encode)),
    ("overall_explanation", .string e.overall),
    ("safety_notes", .string e.safetyNotes),
    ("examples", .array (e.examples.map Explanation.Example.encode)),
    ("risk_level", (e.level.map fun l => Value.string l.name).getD .null),
    ("timestamp", .real e.timestamp),
    ("is_favorite", .bool e.isFavorite),
    ("tags", .array (e.tags.map .string))]

/-- The entry that a JSON value is. -/
def decode : Decoder Entry :=
  .record fun m => Entry.mk <$> required "id" .text m <*>
    required "command" .text m <*>
    withDefault "parts" [] (.list Explanation.Part.decode) m <*>
    withDefault "overall_explanation" "" .text m <*>
    withDefault "safety_notes" "" .text m <*>
    withDefault "examples" [] (.list Explanation.Example.decode) m <*>
    withDefault "risk_level" none (.optional (.choice Risk.Level.ofName?)) m <*>
    required "timestamp" .real m <*>
    withDefault "is_favorite" false .flag m <*>
    withDefault "tags" [] (.list .text) m

/-- The schema of an entry. -/
def schema : Schema where
  name := "HistoryItem"
  description := "A saved command together with its explanation."
  fields := [
    .needed "id" .text,
    .needed "command" .text,
    .collected "parts" (.named "ExplainedPart"),
    .given "overall_explanation" .text (.string ""),
    .given "safety_notes" .text (.string ""),
    .collected "examples" (.named "ExplainExample"),
    .given "risk_level" (.nullable (.named "RiskLevel")) .null,
    .needed "timestamp" .real,
    .given "is_favorite" .truth (.bool false),
    .collected "tags" .text]
  definitions := [Explanation.Example.schema.definition, Explanation.Part.schema.definition,
    Risk.Level.definition]

/-- The explanation that was saved with the command. -/
def explanation (e : Entry) : Explanation := ⟨e.parts, e.overall, e.safetyNotes, e.examples⟩

end Entry

/-- The entries that a JSON value holds. -/
def decodeEntries : Decoder (List Entry) := .list Entry.decode

/-- Entries as a JSON value. -/
def encodeEntries (entries : List Entry) : Value := .array (entries.map Entry.encode)

end CommandAdvisor.History
