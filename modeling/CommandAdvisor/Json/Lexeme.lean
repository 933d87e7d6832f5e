import CommandAdvisor.Json.Value

/-!
# JSON lexemes

The text of a value as punctuation, string bodies and bare words. The scanner reads
one letter at a time and its mode says what it is in the middle of, so it is one
recursion on the text. Two escapes that follow each other and write the halves of a
surrogate pair are one character.

## Main definitions
* `Lexeme`: one item of the text.
* `Body` and `Body.addUnit`: a string body part way through.
* `Lexeme.scan`: the items of a text in a given mode.
-/
namespace CommandAdvisor.Json

/-- White space between lexemes. -/
def isSpace (l : Letter) : Bool := l = ' ' || l = '\t' || l = '\n' || l = '\r'

/-- One item of a JSON text. -/
inductive Lexeme where
  | openArray
  | closeArray
  | openObject
  | closeObject
  | comma
  | colon
  /-- A string without its quotes and escapes. -/
  | body (s : Text)
  /-- Letters between white space and punctuation: a name or a numeral. -/
  | word (s : Text)
  /-- A string that has no end, a raw control or an unknown escape; nothing behind it
  is read. -/
  | broken
  deriving DecidableEq

/-- A string body part way through. -/
structure Body where
  /-- The letters so far, the last first, apart from a leading half at the end. -/
  before : Text
  /-- The leading half of a surrogate pair that an escape has just written, counted from
  the first one. -/
  leading : Option (Fin 1024)

namespace Body

/-- Nothing so far. -/
def empty : Body := ⟨[], none⟩

/-- The number of a leading half among all halves. -/
def halfOfLeading (n : Fin 1024) : Fin 2048 := ⟨n, by omega⟩

/-- The letters so far, the last first. -/
def letters (b : Body) : Text :=
  match b.leading with
  | some n => .half (halfOfLeading n) :: b.before
  | none => b.before

/-- The body with one more letter. -/
def add (b : Body) (l : Letter) : Body := ⟨l :: b.letters, none⟩

/-- The character that a leading and a trailing half make up. -/
def joined (leading trailing : Nat) : Letter :=
  .ofCode (0x10000 + leading * 0x400 + trailing)

/-- The body with one more unit of sixteen bits from an escape. A trailing half joins a
leading one right before it. -/
def addUnit (b : Body) (n : Nat) : Body :=
  if h : n - 0xD800 < 1024 ∧ 0xD800 ≤ n then ⟨b.letters, some ⟨n - 0xD800, h.1⟩⟩
  else match b.leading with
    | some leading =>
      if 0xDC00 ≤ n ∧ n < 0xE000 then ⟨joined leading (n - 0xDC00) :: b.before, none⟩
      else b.add (.ofCode n)
    | none => b.add (.ofCode n)

/-- The finished body. -/
def text (b : Body) : Text := b.letters.reverse

end Body

/-- What the scanner is in the middle of. -/
inductive Mode where
  | between
  /-- A word, the last letter first. -/
  | word (soFar : Text)
  | body (soFar : Body)
  /-- Behind a backslash. -/
  | escape (soFar : Body)
  /-- Behind `\u` with `left` hexadecimal digits to come. -/
  | unit (soFar : Body) (value left : Nat)

namespace Lexeme

/-- The lexeme that a punctuation character is. -/
def ofPunctuation? (l : Letter) : Option Lexeme :=
  if l = '[' then some .openArray
  else if l = ']' then some .closeArray
  else if l = '\x7b' then some .openObject
  else if l = '\x7d' then some .closeObject
  else if l = ',' then some .comma
  else if l = ':' then some .colon
  else none

/-- The character that a letter behind a backslash stands for. -/
def escapeValue? (l : Letter) : Option Letter :=
  if l = '"' ∨ l = '\\' ∨ l = '/' then some l
  else if l = 'b' then some '\x08'
  else if l = 'f' then some '\x0c'
  else if l = 'n' then some '\n'
  else if l = 'r' then some '\r'
  else if l = 't' then some '\t'
  else none

/-- The value of a hexadecimal digit in either case. -/
def hexValue? (l : Letter) : Option Nat :=
  let n := l.code
  if 0x30 ≤ n ∧ n ≤ 0x39 then some (n - 0x30)
  else if 0x61 ≤ n ∧ n ≤ 0x66 then some (n - 0x57)
  else if 0x41 ≤ n ∧ n ≤ 0x46 then some (n - 0x37)
  else none

/-- A word read so far as a list of lexemes. -/
def closeWord (soFar : Text) : List Lexeme :=
  if soFar.isEmpty then [] else [.word soFar.reverse]

/-- The lexemes of a text. A word ends at white space, punctuation or a quote. -/
def scan : Mode → Text → List Lexeme
  | .between, [] => []
  | .word soFar, [] => closeWord soFar
  | _, [] => [.broken]
  | .between, l :: s =>
    if isSpace l then scan .between s
    else if l = '"' then scan (.body .empty) s
    else match ofPunctuation? l with
      | some lexeme => lexeme :: scan .between s
      | none => scan (.word [l]) s
  | .word soFar, l :: s =>
    if isSpace l then .word soFar.reverse :: scan .between s
    else if l = '"' then .word soFar.reverse :: scan (.body .empty) s
    else match ofPunctuation? l with
      | some lexeme => .word soFar.reverse :: lexeme :: scan .between s
      | none => scan (.word (l :: soFar)) s
  | .body soFar, l :: s =>
    if l = '"' then .body soFar.text :: scan .between s
    else if l = '\\' then scan (.escape soFar) s
    else if l.code < 0x20 then [.broken]
    else scan (.body (soFar.add l)) s
  | .escape soFar, l :: s =>
    if l = 'u' then scan (.unit soFar 0 4) s
    else match escapeValue? l with
      | some c => scan (.body (soFar.add c)) s
      | none => [.broken]
  | .unit soFar value left, l :: s =>
    match hexValue? l with
    | some d =>
      if left ≤ 1 then scan (.body (soFar.addUnit (16 * value + d))) s
      else scan (.unit soFar (16 * value + d) (left - 1)) s
    | none => [.broken]

/-- The lexemes of a whole text. -/
def ofText (s : Text) : List Lexeme := scan .between s

end Lexeme

example : Lexeme.ofText "[1, \"a\\n\"]" =
    [.openArray, .word "1", .comma, .body "a\n", .closeArray] := by decide +kernel

/-- The two escapes of a pair are one character. -/
example : Lexeme.ofText "\"\\ud83d\\ude00\"" = [.body "😀"] := by decide +kernel

example : Lexeme.ofText "\"\\ud83d!\"" = [.body [.half 61, '!']] := by decide +kernel

end CommandAdvisor.Json
