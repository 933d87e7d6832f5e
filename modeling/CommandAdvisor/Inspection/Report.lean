import CommandAdvisor.Command.Lexer
import CommandAdvisor.Command.Record
import CommandAdvisor.Risk.Record

/-!
# Reports

A report holds both views of one command line: its tokens and the verdict on it.
-/
namespace CommandAdvisor.Inspection

open Json (Value)
open Record

/-- The tokens of a command line and the verdict on it. -/
structure Report where
  command : Text
  tokens : List Command.Token
  analysis : Risk.Analysis
  deriving DecidableEq, Inhabited

/-- The report on a command line by the built-in tables. -/
def inspect (line : Text) : Report :=
  { command := line
    tokens := Command.tokenize Command.knownCommands line
    analysis := Risk.assess .builtIn line }

namespace Report

/-- A report as a JSON value. -/
def encode (r : Report) : Value :=
  .object [
    ("command", .string r.command),
    ("tokens", .array (r.tokens.map Command.Token.encode)),
    ("analysis", r.analysis.encode)]

/-- The report that a JSON value is. -/
def decode : Decoder Report :=
  .record fun m => Report.mk <$> required "command" .text m <*>
    required "tokens" (.tuple Command.Token.decode) m <*>
    required "analysis" Risk.Analysis.decode m

/-- The schema of a report. -/
def schema : Schema where
  name := "CommandReport"
  description := "Tokens and safety verdict for the same input."
  fields := [
    .needed "command" .text,
    .needed "tokens" (.listOf (.named "Token")),
    .needed "analysis" (.named "CommandAnalysis")]
  definitions := [Risk.Analysis.schema.definition, Risk.Level.definition,
    Command.Token.schema.definition, Command.TokenKind.definition]

end Report

end CommandAdvisor.Inspection
