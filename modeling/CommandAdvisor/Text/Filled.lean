import CommandAdvisor.Text.Basic

/-!
# Filled lines

Parts are put on lines from left to right, with a blank between two of them; a part that
goes beyond the width starts a new line, unless it is alone on its line.

## Main definitions
* `fill`: the lines of a list of parts.
* `filled`: a text of words as lines.
-/
namespace CommandAdvisor.Text

/-- The lines of parts behind a line that holds the parts `line`, the last first, and ends
at column `used`. Every new line starts at column `start`. -/
def fillFrom (width : Int) (start used : Nat) (line : List Text) : List Text → List (List Text)
  | [] => if line.isEmpty then [] else [line.reverse]
  | part :: rest =>
    if line.isEmpty then fillFrom width start (used + part.length) [part] rest
    else if width < used + 1 + part.length then
      line.reverse :: fillFrom width start (start + part.length) [part] rest
    else fillFrom width start (used + 1 + part.length) (part :: line) rest

/-- The lines of parts, of which the first starts at column `first` and all others at column
`start`. -/
def fill (width : Int) (first start : Nat) (parts : List Text) : List (List Text) :=
  fillFrom width start first [] parts

/-- The words of a text in lines of a width. -/
def filled (width : Int) (s : Text) : List Text :=
  (fill width 0 0 (List.splitOn (.char ' ') s)).map (joinedBy " ")

example : filled 7 "one two three" = (["one two", "three"] : List Text) := by decide +kernel

end CommandAdvisor.Text
