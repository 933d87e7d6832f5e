import CommandAdvisor.Record.Decoder
import CommandAdvisor.Record.Schema
import CommandAdvisor.Risk.Analysis

/-!
# Verdicts as records

The form in which verdicts are exchanged.
-/
namespace CommandAdvisor.Risk

open Json (Value)
open Record

/-- The definition of the risk levels. -/
def Level.definition : Definition :=
  .choice "RiskLevel" "Severity of executing a command, ordered low < medium < high < critical."
    (Level.all.map Level.name)

namespace Analysis

/-- A verdict as a JSON value. -/
def encode (a : Analysis) : Value :=
  .object [
    ("command", .string a.command),
    ("is_safe", .bool a.isSafe),
    ("risk_level", .string a.level.name),
    ("warnings", .array (a.warnings.map .string)),
    ("mock_output", (a.mockOutput.map Value.string).getD .null),
    ("explanation", .string a.explanation),
    ("alternatives", .array (a.alternatives.map .string)),
    ("safe_flags", .array (a.safeFlags.map .string))]

/-- The verdict that a JSON value is. -/
def decode : Decoder Analysis :=
  .record fun m => Analysis.mk <$> required "command" .text m <*>
    required "is_safe" .flag m <*>
    required "risk_level" (.choice Level.ofName?) m <*>
    withDefault "warnings" [] (.tuple .text) m <*>
    withDefault "mock_output" none (.optional .text) m <*>
    required "explanation" .text m <*>
    withDefault "alternatives" [] (.tuple .text) m <*>
    withDefault "safe_flags" [] (.tuple .text) m

/-- The schema of a verdict. -/
def schema : Schema where
  name := "CommandAnalysis"
  description := "Safety verdict for a single command string."
  fields := [
    .needed "command" .text,
    .needed "is_safe" .truth,
    .needed "risk_level" (.named "RiskLevel"),
    .given "warnings" (.listOf .text) (.array []),
    .given "mock_output" (.nullable .text) .null,
    .needed "explanation" .text,
    .given "alternatives" (.listOf .text) (.array []),
    .given "safe_flags" (.listOf .text) (.array [])]
  definitions := [Level.definition]

end Analysis

end CommandAdvisor.Risk
