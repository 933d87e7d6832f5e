import CommandAdvisor.Record.Decoder
import CommandAdvisor.Record.Schema

/-!
# Explanations

What an explanation service says about a command line: its parts one by one, the whole
in a few sentences, notes on safety, and similar commands.

## Main definitions
* `Part`, `Example` and `Explanation`, each with its form as a record.
-/
namespace CommandAdvisor

open Json (Value)
open Record

namespace Explanation

/-- One part of an explained command. -/
structure Part where
  text : Text
  type : Text
  explanation : Text
  manPage : Option Text
  deriving DecidableEq, Inhabited

/-- A similar command. -/
structure Example where
  command : Text
  description : Text
  deriving DecidableEq, Inhabited

namespace Part

/-- A part as a JSON value. -/
def encode (p : Part) : Value :=
  .object [
    ("text", .string p.text),
    ("type", .string p.type),
    ("explanation", .string p.explanation),
    ("man_page", (p.manPage.map Value.string).getD .null)]

/-- The part that a JSON value is. -/
def decode : Decoder Part :=
  .record fun m => Part.mk <$> required "text" .text m <*>
    required "type" .text m <*>
    withDefault "explanation" "" .text m <*>
    withDefault "man_page" none (.optional .text) m

/-- The schema of a part. -/
def schema : Schema where
  name := "ExplainedPart"
  description := "One piece of an explained command."
  fields := [
    (Field.needed "text" .text).describedAs "The exact text of this part of the command.",
    (Field.needed "type" .text).describedAs
      "One of 'command', 'option', 'argument', 'operator', 'pipe', 'redirect'.",
    (Field.given "explanation" .text (.string "")).describedAs "What this part does, in detail.",
    (Field.given "man_page" (.nullable .text) .null).describedAs
      "Optional command name to look up in the manual, e.g. 'grep'."]
  definitions := []

end Part

namespace Example

/-- A similar command as a JSON value. -/
def encode (e : Example) : Value :=
  .object [("command", .string e.command), ("description", .string e.description)]

/-- The similar command that a JSON value is. -/
def decode : Decoder Example :=
  .record fun m => Example.mk <$> required "command" .text m <*>
    withDefault "description" "" .text m

/-- The schema of a similar command. -/
def schema : Schema where
  name := "ExplainExample"
  description := "A related command suggested alongside an explanation."
  fields := [
    (Field.needed "command" .text).describedAs "A similar, copy-pasteable example command.",
    (Field.given "description" .text (.string "")).describedAs
      "One sentence describing the example."]
  definitions := []

end Example

end Explanation

/-- What is said about a command line. -/
structure Explanation where
  parts : List Explanation.Part
  overall : Text
  safetyNotes : Text
  examples : List Explanation.Example
  deriving DecidableEq, Inhabited

namespace Explanation

/-- Nothing said. -/
def empty : Explanation := ⟨[], "", "", []⟩

/-- An explanation as a JSON value. -/
def encode (e : Explanation) : Value :=
  .object [
    ("parts", .array (e.parts.map Part.encode)),
    ("overall_explanation", .string e.overall),
    ("safety_notes", .string e.safetyNotes),
    ("examples", .array (e.examples.map Example.encode))]

/-- The explanation that a JSON value is; every field may be left out. -/
def decode : Decoder Explanation :=
  .record fun m => Explanation.mk <$> withDefault "parts" [] (.list Part.decode) m <*>
    withDefault "overall_explanation" "" .text m <*>
    withDefault "safety_notes" "" .text m <*>
    withDefault "examples" [] (.list Example.decode) m

/-- The schema of an explanation. -/
def schema : Schema where
  name := "ExplainResponse"
  description := "Breakdown of a command returned by the explain service."
  fields := [
    (Field.collected "parts" (.named "ExplainedPart")).describedAs
      "Every part of the command in order, each with its type and explanation.",
    (Field.given "overall_explanation" .text (.string "")).describedAs
      "A comprehensive explanation of what the entire command does.",
    (Field.given "safety_notes" .text (.string "")).describedAs
      "Important safety warnings or considerations. Empty if none apply.",
    (Field.collected "examples" (.named "ExplainExample")).describedAs
      "Two or three similar example commands with brief descriptions."]
  definitions := [Example.schema.definition, Part.schema.definition]

end Explanation

end CommandAdvisor
