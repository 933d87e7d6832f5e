import CommandAdvisor.Text.Blank

/-!
# Patterns of command lines

A pattern is a sequence of elements, each a character, white space, or a boundary
that is white space or the end of the line. It may be anchored at the start; otherwise
it matches wherever the sequence occurs.

## Main definitions
* `Element` and `Pattern`.
* `Pattern.matchesAt`: whether the elements match at the head of a text.
* `Pattern.isMatch`: whether the pattern matches a command line.
* `Pattern.ofText`: the pattern in its usual notation.
-/
namespace CommandAdvisor.Risk

/-- An element of a pattern. -/
inductive Element where
  /-- This letter. -/
  | letter (l : Letter)
  /-- One or more characters of white space. -/
  | blanks
  /-- One character of white space, or the end, which may be followed by one line feed. -/
  | boundary
  deriving DecidableEq

/-- A pattern of command lines. -/
structure Pattern where
  anchored : Bool
  elements : List Element
  deriving DecidableEq

namespace Pattern

/-- Whether nothing but at most a final line feed is left. -/
def atEnd (s : Text) : Bool := s.isEmpty || s = "\n"

/-- Whether `p` holds of what is left behind one or more characters of white space, for
some number of them. -/
def afterBlanks (p : Text → Bool) : Text → Bool
  | [] => false
  | c :: cs => Text.isBlank c && (p cs || afterBlanks p cs)

/-- Whether a sequence of elements matches at the head of a text. -/
def matchesAt : List Element → Text → Bool
  | [], _ => true
  | .letter l :: es, s =>
    match s with
    | [] => false
    | d :: ds => l = d && matchesAt es ds
  | .blanks :: es, s => afterBlanks (matchesAt es) s
  | .boundary :: es, s =>
    (match s with
    | [] => false
    | d :: ds => Text.isBlank d && matchesAt es ds) || (atEnd s && matchesAt es s)

/-- Whether a sequence of elements matches somewhere in a text. -/
def occurs (es : List Element) : Text → Bool
  | [] => matchesAt es []
  | c :: cs => matchesAt es (c :: cs) || occurs es cs

/-- Whether a command line has the pattern. -/
def isMatch (p : Pattern) (line : Text) : Bool :=
  if p.anchored then matchesAt p.elements line else occurs p.elements line

/-- The elements of a notation: `\s+` is white space, `(?:\s|$)` is a boundary, and
every other character is itself. -/
def elementsOf : Text → List Element
  | .char '\\' :: .char 's' :: .char '+' :: rest => .blanks :: elementsOf rest
  | .char '(' :: .char '?' :: .char ':' :: .char '\\' :: .char 's' :: .char '|' :: .char '$' ::
      .char ')' :: rest => .boundary :: elementsOf rest
  | l :: rest => .letter l :: elementsOf rest
  | [] => []

/-- The pattern that a notation stands for; a leading `^` anchors it. -/
def ofText : Text → Pattern
  | .char '^' :: rest => ⟨true, elementsOf rest⟩
  | whole => ⟨false, elementsOf whole⟩

example : (ofText "^ls(?:\\s|$)").isMatch "ls" := by decide +kernel

example : (ofText "^git\\s+").isMatch "git" = false := by decide +kernel

end Pattern

end CommandAdvisor.Risk
