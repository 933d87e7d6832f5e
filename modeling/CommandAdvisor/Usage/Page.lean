import CommandAdvisor.Text.Filled
import CommandAdvisor.Usage.Grammar

/-!
# Help pages

A page shows how a program is called, what it is for, and its arguments in sections.
The terms of all sections are followed by their explanations in one column. A page is as
wide as it has to be and no wider than it may be.

## Main definitions
* `Row`, `Section` and `Page`.
* `Page.usage`: how a program is called.
* `Page.render`: the text of a page.
-/
namespace CommandAdvisor.Usage

/-- A term and its explanation. -/
structure Row where
  indent : Nat
  term : Text
  help : Text

/-- Rows under a heading. -/
structure Section where
  heading : Text
  rows : List Row

/-- A help page. -/
structure Page where
  program : Text
  /-- The options that a program is called with. -/
  options : List Text
  /-- What a program is called with besides options. -/
  operands : List Text
  introduction : Option Text
  sections : List Section
  closing : Option Text

/-- The least width of running text. -/
def leastWidth : Int := 11

/-- Blanks in front of a text. -/
def indented (count : Nat) (s : Text) : Text := Text.repeated count ' ' ++ s

namespace Row

/-- The row of a flag. -/
def ofFlag (f : Flag) : Row :=
  { indent := 2
    term := Text.joinedBy " " (Text.joinedBy ", " f.spellings :: f.values)
    help := f.help }

/-- The lines of an explanation that starts in a column. -/
def helpLines (width : Int) (column : Nat) (r : Row) : List Text :=
  Text.filled (max (width - column) leastWidth) r.help

/-- The lines of a row. A term that reaches the column of the explanations has a line of
its own. -/
def render (width : Int) (column : Nat) (r : Row) : List Text :=
  let room := column - r.indent - 2
  if r.help.isEmpty then [indented r.indent r.term]
  else if r.term.length ≤ room then
    match r.helpLines width column with
    | [] => []
    | line :: rest =>
      indented r.indent (r.term ++ Text.repeated (room + 2 - r.term.length) ' ' ++ line) ::
        rest.map (indented column)
  else indented r.indent r.term :: (r.helpLines width column).map (indented column)

end Row

/-- The section of the options. -/
def Section.ofFlags (flags : List Flag) : Section := ⟨"options:", flags.map Row.ofFlag⟩

namespace Page

/-- What a call starts with. -/
def callMark : Text := "usage: "

/-- The lines of parts of a call below each other. -/
def callLines (width : Int) (start : Nat) (parts : List Text) : List Text :=
  (Text.fill width start start parts).map fun line => indented start (Text.joinedBy " " line)

/-- The lines of a call behind the name of the program. -/
def linesBesideProgram (width : Int) (p : Page) : List Text :=
  let start := callMark.length + p.program.length + 1
  match Text.fill width callMark.length start (p.program :: p.options) with
  | [] => []
  | line :: rest =>
    Text.joinedBy " " line ::
      rest.map (fun line => indented start (Text.joinedBy " " line)) ++
      callLines width start p.operands

/-- The lines of a call below the name of the program. -/
def linesBelowProgram (width : Int) (p : Page) : List Text :=
  let start := callMark.length
  let together := callLines width start (p.options ++ p.operands)
  p.program ::
    (if together.length ≤ 1 then together
    else callLines width start p.options ++ callLines width start p.operands)

/-- How the program is called, on one line if that is wide enough. The name of the program
stands beside its arguments unless it takes more than three quarters of the width. -/
def usage (width : Int) (p : Page) : Text :=
  let whole := Text.joinedBy " " (p.program :: p.options ++ p.operands)
  callMark ++
    (if callMark.length + whole.length ≤ width then whole
    else if 4 * (callMark.length + p.program.length : Int) ≤ 3 * width then
      Text.joinedBy "\n" (p.linesBesideProgram width)
    else Text.joinedBy "\n" (p.linesBelowProgram width))

/-- No explanation starts further right than this, and less far where there is little
room. -/
def columnLimit (width : Int) : Nat := (min 24 (max (width - 20) 4)).toNat

/-- How far the terms are set in. -/
def termIndent : Nat := 2

/-- Where explanations start. -/
def column (width : Int) (p : Page) : Nat :=
  let widths := (p.sections.flatMap Section.rows).map fun r => termIndent + r.term.length + 2
  min (columnLimit width) (widths.foldl max 0)

/-- A section as text. -/
def renderSection (width : Int) (p : Page) (s : Section) : Text :=
  Text.joinedBy "\n" (s.heading :: s.rows.flatMap (Row.render width (p.column width)))

/-- Running text. -/
def renderText (width : Int) (s : Text) : Text :=
  Text.joinedBy "\n" (Text.filled (max width leastWidth) s)

/-- The text of a page, its blocks set apart by blank lines. -/
def render (width : Int) (p : Page) : Text :=
  Text.joinedBy "\n\n"
    (p.usage width :: (p.introduction.map (renderText width)).toList ++
      p.sections.map (p.renderSection width) ++ (p.closing.map (renderText width)).toList) ++
    "\n"

/-- What is said when the program is called wrongly. -/
def complaint (width : Int) (p : Page) (m : Misuse) : Text :=
  p.usage width ++ "\n" ++ p.program ++ ": error: " ++ m.message ++ "\n"

end Page

end CommandAdvisor.Usage
