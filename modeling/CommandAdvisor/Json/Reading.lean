import CommandAdvisor.Json.Lexeme
import CommandAdvisor.Number.Numeral

/-!
# Reading JSON

A value is put together from lexemes, one after the other. Containers part way
through are kept on a stack of frames, so the state of the assembly is what is being
waited for, and the whole is one fold over the lexemes. Two dialects are read: in the
free one half a surrogate pair may stand in a string and any depth is allowed, as long as
there is room to read in (`Room`); in the strict one containers with something in them nest
at most two hundred deep, and a long integer is told apart from a number of any other kind.

## Main definitions
* `ReadFault`: why a text is no value.
* `Dialect`: what a reader allows beyond the grammar.
* `Dialect.scalar`: the value of a bare word.
* `Assembly` and `Assembly.step`: the state of a reader and what a lexeme does to it.
* `read` and `readBytes`: the value of a text and of a file's content.
-/
namespace CommandAdvisor.Json

open Number (Numeral digitLimit)

/-- Why a text is no value. -/
inductive ReadFault where
  /-- It breaks the grammar. -/
  | malformed
  /-- It holds an integer with more digits than are read. -/
  | oversized (digits : Nat)
  deriving DecidableEq

/-- What a reader allows beyond the grammar. -/
inductive Dialect where
  /-- Any depth that there is room for, and strings that cannot be written as bytes. -/
  | free
  /-- At most two hundred containers within each other, and only strings that are sound. -/
  | strict
  deriving DecidableEq

/-- The most digits an integer of the strict dialect may have that is also a real number. -/
def plainDigits : Nat := 18

namespace Dialect

/-- How deep containers with something in them may nest by the rules of a dialect. The free one
has no rule for it; there it is the room to read in that runs out. -/
def depthLimit : Dialect → Option Nat
  | free => none
  | strict => some 200

/-- What is too long in a numeral. The free dialect counts the digits of integers, the
strict one everything before the fraction of any number. -/
def sizeFault? : Dialect → Numeral → Option ReadFault
  | free, n => if n.isWhole && digitLimit < n.wholeLength then some (.oversized n.wholeLength)
    else none
  | strict, n => if digitLimit < n.wholeSpan then some .malformed else none

/-- The value of a numeral. -/
def number : Dialect → Numeral → Value
  | free, n => if n.isWhole then .integer n.toInt else .real n.toBinary64
  | strict, n =>
    if n.isWhole then
      if plainDigits < n.wholeLength then .longInteger n.toInt else .integer n.toInt
    else .real n.toBinary64

/-- The value of a bare word: a name or a numeral. A numeral that is too long is
reported even when something stands behind it. -/
def scalar (d : Dialect) (word : Text) : Except ReadFault Value :=
  if word = "null" then .ok .null
  else if word = "true" then .ok (.bool true)
  else if word = "false" then .ok (.bool false)
  else if word = "NaN" then .ok (.real .nan)
  else if word = "Infinity" then .ok (.real (.infinite false))
  else if word = "-Infinity" then .ok (.real (.infinite true))
  else match Numeral.match? word with
    | none => .error .malformed
    | some (n, rest) =>
      match d.sizeFault? n with
      | some fault => .error fault
      | none => if rest.isEmpty then .ok (d.number n) else .error .malformed

/-- A string, if the dialect allows it. -/
def text (d : Dialect) (s : Text) : Except ReadFault Text :=
  if d = strict ∧ !s.isSound then .error .malformed else .ok s

end Dialect

/-- A container part way through, with a gap where the next value goes. What it holds
so far has the last first. -/
inductive Frame where
  | array (before : List Value)
  | object (before : Value.Members) (name : Text)

/-- What a reader waits for, and the containers around it, the innermost first. -/
inductive Assembly where
  /-- A value. -/
  | value (stack : List Frame)
  /-- The first item of an array, or its end. -/
  | firstItem (stack : List Frame)
  /-- The first name of an object, or its end. -/
  | firstName (stack : List Frame)
  /-- A name. -/
  | name (before : Value.Members) (stack : List Frame)
  /-- The colon behind a name. -/
  | colon (before : Value.Members) (name : Text) (stack : List Frame)
  /-- What goes on behind a value. -/
  | done (v : Value) (stack : List Frame)

namespace Assembly

/-- A lexeme where a value is due. -/
def stepValue (d : Dialect) (stack : List Frame) : Lexeme → Except ReadFault Assembly
  | .openArray => .ok (.firstItem stack)
  | .openObject => .ok (.firstName stack)
  | .body s => (d.text s).map fun s => .done (.string s) stack
  | .word s => (d.scalar s).map (.done · stack)
  | _ => .error .malformed

/-- A stack with one more frame, if the dialect allows the depth. -/
def push (d : Dialect) (frame : Frame) (stack : List Frame) : Except ReadFault (List Frame) :=
  match d.depthLimit with
  | some most => if stack.length < most then .ok (frame :: stack) else .error .malformed
  | none => .ok (frame :: stack)

/-- What one lexeme does. -/
def step (d : Dialect) : Assembly → Lexeme → Except ReadFault Assembly
  | .value stack, l => stepValue d stack l
  | .firstItem stack, .closeArray => .ok (.done (.array []) stack)
  | .firstItem stack, l => do stepValue d (← push d (.array []) stack) l
  | .firstName stack, .closeObject => .ok (.done (.object []) stack)
  | .firstName stack, .body s => do
    let key ← d.text s
    let _ ← push d (.object [] key) stack
    return .colon [] key stack
  | .name before stack, .body s => do return .colon before (← d.text s) stack
  | .colon before key stack, .colon => .ok (.value (.object before key :: stack))
  | .done v (.array before :: stack), .comma => .ok (.value (.array (v :: before) :: stack))
  | .done v (.array before :: stack), .closeArray =>
    .ok (.done (.array (v :: before).reverse) stack)
  | .done v (.object before key :: stack), .comma => .ok (.name ((key, v) :: before) stack)
  | .done v (.object before key :: stack), .closeObject =>
    .ok (.done (.object ((key, v) :: before).reverse) stack)
  | _, _ => .error .malformed

/-- The value of a finished assembly. -/
def result : Assembly → Except ReadFault Value
  | .done v [] => .ok v
  | _ => .error .malformed

end Assembly

/-- The value that a text is. -/
def read (d : Dialect) (s : Text) : Except ReadFault Value := do
  (← (Lexeme.ofText s).foldlM (Assembly.step d) (.value [])).result

/-- The value that the content of a file is in the strict dialect. Bytes that are no text
are none. -/
def readBytes (content : ByteArray) : Option Value :=
  match String.fromUTF8? content with
  | some s => (read .strict s).toOption
  | none => none

end CommandAdvisor.Json
