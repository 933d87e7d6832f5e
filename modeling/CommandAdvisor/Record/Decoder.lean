import CommandAdvisor.Json.Value
import CommandAdvisor.Number.Numeral
import CommandAdvisor.Record.Issue
import CommandAdvisor.Text.Blank

/-!
# Decoders

A decoder turns a JSON value into a value of a type, or says everything that is wrong
with it. Decoders are lenient: numbers and the usual words count as booleans, numbers
may be written in strings, and booleans are numbers. Text alone is never made from
anything but text.

## Main definitions
* `Decoder`: the type of decoders.
* `readInteger`, `readReal?` and `readFlag?`: what texts are read as.
* `Decoder.text`, `Decoder.flag`, `Decoder.whole`, `Decoder.real`, `Decoder.choice`.
* `Decoder.optional`, `Decoder.list`, `Decoder.tuple`, `Decoder.record`.
* `required` and `withDefault`: the fields of a record.
-/
namespace CommandAdvisor.Record

open Json (Value)
open Json.Value (Members)
open Number (Binary64 Numeral digitLimit)

-- Powers are those of the core library, whatever is imported besides.
attribute [local instance(high)] instPowNat

/-- What turns a JSON value into a value of a type. -/
abbrev Decoder (α : Type) := Value → Validated α

/-! ## Numbers in strings -/

/-- What is left behind zeros, of which `last` is the last letter. Underscores among the
zeros do not count. One letter stays in front of a point and at the end. -/
def behindZeros? (last : Letter) : Text → Option Text
  | [] => some [last]
  | l :: s =>
    if l = '0' ∨ l = '_' then behindZeros? l s
    else if Number.isDigit l ∨ l = '-' then some (l :: s)
    else if l = '.' then some (last :: l :: s)
    else none

/-- A text that starts with a digit, without zeros at its head. -/
def withoutLeadingZeros? : Text → Option Text
  | [] => none
  | l :: s =>
    if l = '0' then behindZeros? l s else if Number.isDigit l then some (l :: s) else none

/-- A text without a fraction that is nothing but zeros. -/
def withoutEmptyFraction (s : Text) : Text :=
  match s.cutAt '.' with
  | (whole, some zeros) => if !zeros.isEmpty && (zeros.without '0').isEmpty then whole else s
  | (_, none) => s

/-- Whether every underscore of a text stands by itself inside the text. -/
def hasLoneUnderscores (s : Text) : Bool :=
  s.head? ≠ some '_' && s.getLast? ≠ some '_' && !Text.occursIn "__" s

/-- A text without its underscores, if each of them stands by itself inside the text. -/
def withoutLoneUnderscores (s : Text) : Text :=
  if hasLoneUnderscores s then s.without '_' else s

/-- The integer that a text writes as strictly as JSON does. -/
def strictInteger? (s : Text) : Option Int :=
  match Numeral.match? s with
  | some (n, []) => if n.isWhole && n.wholeSpan ≤ digitLimit then some n.toInt else none
  | _ => none

/-- A loosely written integer in a strict form: zeros at its head, a plus, a fraction of
zeros and single underscores are taken away. -/
def strictForm? (s : Text) : Option Text :=
  let (negative, body) := Number.spanSign s
  (withoutLeadingZeros? body).map fun digits =>
    (if negative then "-" else "") ++ withoutLoneUnderscores (withoutEmptyFraction digits)

/-- Whether a text starts with an integer that is too long to be read. -/
def isOversized (s : Text) : Bool :=
  match Numeral.match? s with
  | some (n, _) => digitLimit < n.wholeSpan
  | none => false

/-- The integer that a text writes, white space around it apart. Only an integer at the very
head of the text, written strictly, can be too long; any other is not understood. -/
def readInteger (s : Text) : Except IssueKind Int :=
  let body := Text.withoutMargin s
  if isOversized s then .error .intParsingSize
  else match (strictInteger? body).or ((strictForm? body).bind strictInteger?) with
    | some n => .ok n
    | none => .error .intParsing

/-- The real number that a text writes. White space may stand around it or single
underscores within it, but not both. -/
def readReal? (s : Text) : Option Binary64 :=
  match Number.readReal? (Text.withoutMargin s) with
  | some x => some x
  | none => if hasLoneUnderscores s then Number.readReal? (s.without '_') else none

/-- The words that count as yes and as no, in any case. -/
def readFlag? (s : Text) : Option Bool :=
  let word := s.map Letter.lowerAscii
  let yes : List Text := ["1", "on", "t", "true", "y", "yes"]
  let no : List Text := ["0", "off", "f", "false", "n", "no"]
  if yes.contains word then some true else if no.contains word then some false else none

namespace Decoder

variable {α : Type}

/-- A text. -/
def text : Decoder Text
  | .string s => .valid s
  | _ => .issue .stringType

/-- What a text is read as. A text with half of a surrogate pair in it is not read. -/
def reading (read : Text → Except IssueKind α) (s : Text) : Validated α :=
  if s.isSound then
    match read s with
    | .ok a => .valid a
    | .error kind => .issue kind
  else .issue .stringUnicode

/-- A result that is there, or an issue of a kind. -/
def orElse (kind : IssueKind) : Option α → Except IssueKind α
  | some a => .ok a
  | none => .error kind

/-- A number as a truth value. -/
def flagOfNumber (n : Int) : Validated Bool :=
  if n = 0 then .valid false else if n = 1 then .valid true else .issue .boolParsing

/-- A truth value. A number has to be of sixty-four bits to be asked whether it is one. -/
def flag : Decoder Bool
  | .bool b => .valid b
  | .integer n => if -2 ^ (63 : Nat) ≤ n ∧ n < 2 ^ (63 : Nat) then flagOfNumber n else .issue .boolType
  | .real x =>
    match x.wholeValue? with
    | some n => if -2 ^ (63 : Nat) < n ∧ n < 2 ^ (63 : Nat) then flagOfNumber n else .issue .boolType
    | none => .issue .boolType
  | .string s => reading (fun s => orElse .boolParsing (readFlag? s)) s
  | _ => .issue .boolType

/-- An integer. A real number that is one has to be of sixty-four bits. -/
def whole : Decoder Int
  | .integer n | .longInteger n => .valid n
  | .bool b => .valid (if b then 1 else 0)
  | .real x =>
    if !x.isFinite then .issue .finiteNumber
    else match x.wholeValue? with
      | some n => if -2 ^ (63 : Nat) < n ∧ n < 2 ^ (63 : Nat) then .valid n else .issue .intParsingSize
      | none => .issue .intFromFloat
  | .string s => reading readInteger s
  | _ => .issue .intType

/-- A real number. A long integer is none. -/
def real : Decoder Binary64
  | .real x => .valid x
  | .integer n => if (Binary64.ofInt n).isFinite then .valid (.ofInt n) else .issue .floatType
  | .bool b => .valid (.ofInt (if b then 1 else 0))
  | .string s => reading (fun s => orElse .floatParsing (readReal? s)) s
  | _ => .issue .floatType

/-- One of a set of names. -/
def choice (ofName? : Text → Option α) : Decoder α
  | .string s => reading (fun s => orElse .choice (ofName? s)) s
  | _ => .issue .choice

/-- A value or `null`. -/
def optional (d : Decoder α) : Decoder (Option α)
  | .null => .valid none
  | v => some <$> d v

/-- The items of an array from place `n` on. -/
def items (d : Decoder α) (n : Nat) : List Value → Validated (List α)
  | [] => .valid []
  | v :: vs => List.cons <$> (d v).under (.index n) <*> items d (n + 1) vs

/-- An array of any length. -/
def list (d : Decoder α) : Decoder (List α)
  | .array vs => items d 0 vs
  | _ => .issue .listType

/-- An array of any length that is reported as a tuple. -/
def tuple (d : Decoder α) : Decoder (List α)
  | .array vs => items d 0 vs
  | _ => .issue .tupleType

/-- An object with given fields; other members are passed over. -/
def record (fields : Members → Validated α) : Decoder α
  | .object members => fields members
  | _ => .issue .recordType

end Decoder

variable {α : Type}

/-- A field that must be there. -/
def required (name : Text) (d : Decoder α) (members : Members) : Validated α :=
  match Value.find? name members with
  | some v => (d v).under (.field name)
  | none => .invalid [⟨[.field name], .missing⟩]

/-- A field that may be left out. -/
def withDefault (name : Text) (otherwise : α) (d : Decoder α)
    (members : Members) : Validated α :=
  match Value.find? name members with
  | some v => (d v).under (.field name)
  | none => .valid otherwise

example : (readInteger " +1_0.00 ").toOption = some 10 := by decide +kernel

example : (readInteger "5.").toOption = none := by decide +kernel

example : (readInteger "0__5").toOption = some 5 := by decide +kernel

end CommandAdvisor.Record
