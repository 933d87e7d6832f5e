import CommandAdvisor.Risk.BuiltIn
import CommandAdvisor.Text.Blank

/-!
# The verdict on a command line

A command line is judged by its words alone; nothing is run. The first word decides
the tier of a dangerous command, every word may be a dangerous flag, and wildcards
and system paths are pointed out without making a command unsafe.

## Main definitions
* `Analysis`: a verdict.
* `Registry.level`: how severe a list of words is.
* `Registry.warnings`: what is said about a list of words.
* `assess`: the verdict on a command line.
-/
namespace CommandAdvisor.Risk

/-- The verdict on a command line. -/
structure Analysis where
  command : Text
  isSafe : Bool
  level : Level
  warnings : List Text
  mockOutput : Option Text
  explanation : Text
  alternatives : List Text
  safeFlags : List Text
  deriving DecidableEq, Inhabited

/-- The explanation of a line without words. -/
def emptyExplanation : Text := "Empty command."

/-- The explanation of a harmless command that is not in the tables. -/
def genericExplanation : Text := "Standard system command for file and process operations"

/-- What is said when a word holds a wildcard. -/
def wildcardWarning : Text := "Wildcard patterns may match more files than expected"

/-- What is said when a word holds a system path. -/
def systemPathWarning : Text := "Command affects system directories"

/-- The explanation of a command that is not safe. -/
def caution (base : Text) : Text :=
  "This command (" ++ base ++ ") has potential risks. Consider using safer " ++
    "alternatives or testing in a controlled environment."

/-- What is said about a dangerous command. -/
def commandWarning (base : Text) : Text :=
  "'" ++ base ++ "' can modify system files or settings"

/-- What is said about a dangerous flag. -/
def flagWarning (flag : Text) : Text := "Flag '" ++ flag ++ "' may bypass safety checks"

/-- Whether a word holds a wildcard. -/
def hasWildcard (word : Text) : Bool :=
  word.any fun l => l = '*' || l = '?'

namespace Registry

/-- The words that are dangerous flags, in order and as often as they occur. -/
def flagsIn (r : Registry) (words : List Text) : List Text :=
  words.filter r.tables.dangerousFlags.contains

/-- The command that a line runs, in the spelling of the tables. -/
def base (words : List Text) : Text := lookupKey (words.headD [])

/-- Whether the words trigger no rule that makes a command unsafe. -/
def isSafe (r : Registry) (words : List Text) : Bool :=
  (r.tier? (base words)).isNone && (r.flagsIn words).isEmpty

/-- How severe the words are: the tier of the command, but at least medium when there is
a dangerous flag. -/
def level (r : Registry) (words : List Text) : Level :=
  (r.flagsIn words).foldl (fun l _ => max l .medium) (max .low ((r.tier? (base words)).getD .low))

/-- What is said about the command itself. -/
def commandWarnings (r : Registry) (words : List Text) : List Text :=
  match r.tier? (base words) with
  | none => []
  | some .critical => [commandWarning (base words), r.criticalNote (base words)]
  | some _ => [commandWarning (base words)]

/-- Whether some word holds some system path. -/
def touchesSystem (r : Registry) (words : List Text) : Bool :=
  words.any fun word => r.tables.systemPaths.any (Text.mentions word)

/-- Everything that is said about the words: on the command, on each flag, on wildcards
and on system paths. -/
def warnings (r : Registry) (words : List Text) : List Text :=
  r.commandWarnings words ++ (r.flagsIn words).map flagWarning ++
    (if words.any hasWildcard then [wildcardWarning] else []) ++
    (if r.touchesSystem words then [systemPathWarning] else [])

/-- What a safe command does: the text of the tables unless it is missing or empty. -/
def safeExplanation (r : Registry) (words : List Text) : Text :=
  match r.explanation? (base words) with
  | some text => if text.isEmpty then genericExplanation else text
  | none => genericExplanation

end Registry

/-- The verdict on a line without words. -/
def emptyAnalysis : Analysis :=
  { command := "", isSafe := true, level := .low, warnings := [], mockOutput := none
    explanation := emptyExplanation, alternatives := [], safeFlags := [] }

/-- The verdict on a command line. -/
def assess (r : Registry) (line : Text) : Analysis :=
  let trimmed := Text.trim line
  let words := Text.words line
  if words.isEmpty then emptyAnalysis
  else
    let base := Registry.base words
    let isSafe := r.isSafe words
    { command := trimmed
      isSafe
      level := r.level words
      warnings := r.warnings words
      mockOutput := r.mockOutput? trimmed
      explanation := if isSafe then r.safeExplanation words else caution base
      alternatives := r.alternatives base
      safeFlags := r.safeFlags base }

/-- Whether a command line triggers no rule that makes it unsafe. -/
def isCommandSafe (r : Registry) (line : Text) : Bool := (assess r line).isSafe

/-- The warnings on a command line. -/
def commandWarnings (r : Registry) (line : Text) : List Text := (assess r line).warnings

/-- The verdict in short, a line for the level and one for each warning. -/
def summary (line : Text) : Text :=
  let analysis := assess .builtIn line
  Text.joinedBy "\n"
    (("risk level: " ++ analysis.level.name) :: analysis.warnings.map ("- " ++ ·))

example : (assess .builtIn "rm -rf /etc/*").level = .critical := by decide +kernel

example : (assess .builtIn " ls  -la ").isSafe = true := by decide +kernel

end CommandAdvisor.Risk
