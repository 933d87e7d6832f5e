import CommandAdvisor.Command.Token
import CommandAdvisor.History.Entry
import CommandAdvisor.History.Profile
import CommandAdvisor.Text.Lines

/-!
# Display

How tokens, verdicts, explanations and history entries look on a terminal, with or
without colour.

## Main definitions
* `Colour` and `Colour.paint`.
* `tokensText`, `verdictText`, `explanationLines` and `entryText`.
-/
namespace CommandAdvisor.Display

open Command (Token TokenKind)

/-- The looks that text can have. -/
inductive Colour where
  | red
  | green
  | yellow
  | cyan
  | bold
  | boldRed
  | boldBlue
  | boldMagenta
  | dim
  deriving DecidableEq

namespace Colour

/-- A control sequence that sets a look. -/
def sequence (code : Text) : Text := "\x1b[" ++ code ++ "m"

/-- The control sequences that switch a look on. -/
def on : Colour → Text
  | red => sequence "31"
  | green => sequence "32"
  | yellow => sequence "33"
  | cyan => sequence "36"
  | bold => sequence "1"
  | boldRed => sequence "1" ++ sequence "31"
  | boldBlue => sequence "1" ++ sequence "34"
  | boldMagenta => sequence "1" ++ sequence "35"
  | dim => sequence "2"

/-- The control sequence that switches every look off. -/
def off : Text := sequence "0"

/-- A text in a colour, if colours are wanted. -/
def paint (enabled : Bool) (colour : Colour) (text : Text) : Text :=
  if enabled then colour.on ++ text ++ off else text

end Colour

/-- The colour of a kind of tokens; white space has none. -/
def colourOfKind? : TokenKind → Option Colour
  | .command => some .boldBlue
  | .option => some .green
  | .argument => some .yellow
  | .pipe => some .boldMagenta
  | .redirect => some .red
  | .operator => some .cyan
  | .whitespace => none

/-- The colour of a risk level. -/
def colourOfLevel : Risk.Level → Colour
  | .low => .green
  | .medium => .yellow
  | .high => .red
  | .critical => .boldRed

/-- A token in the colour of its kind. -/
def tokenText (enabled : Bool) (token : Token) : Text :=
  match colourOfKind? token.kind with
  | some colour => colour.paint enabled token.text
  | none => token.text

/-- The command line of tokens, each in the colour of its kind. -/
def tokensText (enabled : Bool) (tokens : List Token) : Text :=
  tokens.flatMap (tokenText enabled)

/-- A token with its kind, for a list of tokens. -/
def tokenLine (token : Token) : Text :=
  let name := token.kind.name
  "  " ++ name ++ Text.repeated (9 - name.length) ' ' ++ " " ++ token.text

/-- The lines of a verdict that show sample output. -/
def sampleLines (enabled : Bool) (analysis : Risk.Analysis) : List Text :=
  match analysis.mockOutput.filter fun text => !text.isEmpty with
  | some text =>
    "\n  sample output:" ::
      (Text.lines text).map fun line => Colour.dim.paint enabled ("    " ++ line)
  | none => []

/-- A list under a heading; nothing for an empty list. -/
def listLines (heading : Text) (items : List Text) : List Text :=
  if items.isEmpty then [] else heading :: items.map ("    - " ++ ·)

/-- The line of a verdict that says how severe it is. -/
def levelLine (enabled : Bool) (analysis : Risk.Analysis) : Text :=
  "  risk: " ++ (colourOfLevel analysis.level).paint enabled analysis.level.headline ++
    (if analysis.isSafe then " (safe)" else " (unsafe)")

/-- The lines of the warnings of a verdict. -/
def warningLines (analysis : Risk.Analysis) : List Text := analysis.warnings.map ("  ! " ++ ·)

/-- The line of the flags that do no harm, if there are any. -/
def safeFlagLines (analysis : Risk.Analysis) : List Text :=
  if analysis.safeFlags.isEmpty then []
  else ["\n  safe flags: " ++ Text.joinedBy ", " analysis.safeFlags]

/-- A verdict in full. -/
def verdictText (enabled : Bool) (analysis : Risk.Analysis) : Text :=
  Text.joinedBy "\n"
    (levelLine enabled analysis :: warningLines analysis ++ ["\n  " ++ analysis.explanation] ++
      sampleLines enabled analysis ++
      listLines "\n  safer alternatives:" analysis.alternatives ++ safeFlagLines analysis)

/-- Whether a text has anything but white space. -/
def saysSomething (text : Text) : Bool := !(Text.trim text).isEmpty

/-- The line of a part of an explanation. -/
def partLine (enabled : Bool) (part : Explanation.Part) : Text :=
  "  " ++ Colour.bold.paint enabled part.text ++ " (" ++ part.type ++ "): " ++ part.explanation

/-- The lines of a similar command. -/
def exampleLines (sample : Explanation.Example) : Text :=
  "\n  $ " ++ sample.command ++ "\n    " ++ sample.description

/-- The lines of an explanation. -/
def explanationLines (enabled : Bool) (e : Explanation) : List Text :=
  e.parts.map (partLine enabled) ++
    (if saysSomething e.overall then ["\n  " ++ e.overall] else []) ++
    (if saysSomething e.safetyNotes then
      ["\n  " ++ Colour.red.paint enabled "safety:" ++ " " ++ e.safetyNotes] else []) ++
    e.examples.map exampleLines

/-- The tags of a history entry, if there are any. -/
def tagsText (tags : List Text) : Text :=
  if tags.isEmpty then [] else "  [" ++ Text.joinedBy ", " tags ++ "]"

/-- A history entry on one line. -/
def entryText (e : History.Entry) : Text :=
  (if e.isFavorite then "* " else "  ") ++ e.id ++ "  " ++ e.command ++
    "  (" ++ History.category e.command ++ ", " ++ (History.complexity e.command).name ++ ")" ++
    tagsText e.tags

end CommandAdvisor.Display
