import CommandAdvisor.Text.Printable

/-!
# Quoted text

A text shown inside a message is put between quotes, with every letter that
would not be seen as itself written as an escape. Single quotes are used unless the
text holds a single quote and no double quote.

## Main definitions
* `hexDigits` writes a number in lower-case hexadecimal of a fixed width.
* `quoteMark` chooses the quotes, `quotedLetter` writes one letter between them.
* `quoted` writes a text.
-/
namespace CommandAdvisor.Text

/-- The lowest `width` hexadecimal digits of `n`, the highest first. -/
def hexDigits : Nat → Nat → Text
  | 0, _ => []
  | width + 1, n => hexDigits width (n / 16) ++ [.char (Nat.digitChar (n % 16))]

/-- The quotes that need the fewest escapes, single ones in case of doubt. -/
def quoteMark (s : Text) : Letter :=
  if s.contains '\'' && !s.contains '"' then '"' else '\''

/-- One letter as an escape by its code point. -/
def escapeByCode (l : Letter) : Text :=
  if l.code < 0x100 then "\\x" ++ hexDigits 2 l.code
  else if l.code < 0x10000 then "\\u" ++ hexDigits 4 l.code
  else "\\U" ++ hexDigits 8 l.code

/-- One letter as it stands between the quotes `mark`. -/
def quotedLetter (mark l : Letter) : Text :=
  if l = '\\' || l = mark then ['\\', l]
  else if l = '\n' then "\\n"
  else if l = '\r' then "\\r"
  else if l = '\t' then "\\t"
  else if isPrintable l then [l]
  else escapeByCode l

/-- A text between quotes. -/
def quoted (s : Text) : Text :=
  let mark := quoteMark s
  mark :: s.flatMap (quotedLetter mark) ++ [mark]

example : quoted "it's" = "\"it's\"" := by decide +kernel

example : quoted "a\n\x7f" = "'a\\n\\x7f'" := by decide +kernel

example : quoted [.half 0] = "'\\ud800'" := by decide +kernel

end CommandAdvisor.Text
