import CommandAdvisor.Text.Basic

/-!
# Lines

A text is cut at every line break. A carriage return and a line feed that follow
each other are one break, and a text that ends in a break has no empty last line.
-/
namespace CommandAdvisor.Text

/-- The letters that end a line. -/
def isLineBreak (l : Letter) : Bool :=
  let n := l.code
  (10 ≤ n && n ≤ 13) || (28 ≤ n && n ≤ 30) || n == 0x85 || n == 0x2028 || n == 0x2029

/-- The lines of a text that continues a line whose letters so far are `line`, the
last one first. -/
def linesFrom (line : Text) : Text → List Text
  | [] => if line.isEmpty then [] else [line.reverse]
  | .char '\r' :: .char '\n' :: s => line.reverse :: linesFrom [] s
  | l :: s => if isLineBreak l then line.reverse :: linesFrom [] s else linesFrom (l :: line) s

/-- The lines of a text, in order. -/
def lines (s : Text) : List Text := linesFrom [] s

example : lines "a\r\nb\n\nc\n" = (["a", "b", "", "c"] : List Text) := by decide

end CommandAdvisor.Text
