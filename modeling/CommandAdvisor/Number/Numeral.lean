import CommandAdvisor.Number.Binary64
import CommandAdvisor.Text.Basic

/-!
# Numerals

The text forms of numbers. A numeral at the head of a text is recognised by the
grammar `-? whole fraction? exponent?`, in which a whole part has no leading zero; a
freely written number may also start with a plus sign or a point, end in a point, or
be the name of an infinity or of no number.

## Main definitions
* `Numeral` and `Numeral.match?`: the longest numeral at the head of a text.
* `digitLimit`: how long an integer may be.
* `readReal?`: a whole text as a freely written number.
* `withoutSeparators?`: drops the underscores that stand between two digits.
-/
namespace CommandAdvisor.Number

/-- Whether the letter is one of the ten ASCII digits. -/
def isDigit (l : Letter) : Bool := 0x30 ≤ l.code && l.code ≤ 0x39

/-- The number that a list of ASCII digits writes, continuing `n`. -/
def natOfDigits (n : Nat) (ds : Text) : Nat :=
  ds.foldl (fun n l => 10 * n + (l.code - 0x30)) n

/-- A text cut behind the digits at its head. -/
def spanDigits (s : Text) : Text × Text :=
  (s.takeWhile isDigit, s.dropWhile isDigit)

/-- An exponent, `e` and digits with an optional sign, at the head of a text. -/
def exponent? : Text → Option (Int × Text)
  | e :: rest =>
    if e = 'e' ∨ e = 'E' then
      let (negative, body) := match rest with
        | .char '-' :: tail => (true, tail)
        | .char '+' :: tail => (false, tail)
        | _ => (false, rest)
      match spanDigits body with
      | ([], _) => none
      | (ds, tail) =>
        let n : Int := natOfDigits 0 ds
        some (if negative then -n else n, tail)
    else none
  | [] => none

/-- The most digits that an integer may have to be read or to be stored. -/
def digitLimit : Nat := 4300

/-- A number in decimal text: `significand * 10 ^ exponent` with a sign. -/
structure Numeral where
  negative : Bool
  /-- How many digits the whole part has. -/
  wholeLength : Nat
  /-- Whether there is neither a fraction nor an exponent. -/
  isWhole : Bool
  significand : Nat
  exponent : Int
  deriving DecidableEq

namespace Numeral

/-- The longest numeral at the head of a text, and what follows it. -/
def match? (s : Text) : Option (Numeral × Text) :=
  let (negative, body) := match s with
    | .char '-' :: tail => (true, tail)
    | _ => (false, s)
  let (whole, rest) := match body with
    | .char '0' :: tail => (Text.ofString "0", tail)
    | _ => spanDigits body
  if whole.isEmpty then none else
  let (fraction, rest) := match rest with
    | .char '.' :: tail =>
      if (spanDigits tail).1.isEmpty then ([], rest) else spanDigits tail
    | _ => ([], rest)
  let significand := natOfDigits (natOfDigits 0 whole) fraction
  match exponent? rest with
  | some (e, tail) =>
    some (⟨negative, whole.length, false, significand, e - fraction.length⟩, tail)
  | none =>
    some (⟨negative, whole.length, fraction.isEmpty, significand, -fraction.length⟩, rest)

/-- How many letters of the numeral stand before its fraction and its exponent. -/
def wholeSpan (n : Numeral) : Nat := n.wholeLength + if n.negative then 1 else 0

/-- The nearest binary number. -/
def toBinary64 (n : Numeral) : Binary64 := .ofScaled n.negative n.significand n.exponent

/-- The value of a whole numeral. -/
def toInt (n : Numeral) : Int := if n.negative then -(n.significand : Int) else n.significand

end Numeral

/-- A text without a sign at its head, and whether the sign was a minus. -/
def spanSign : Text → Bool × Text
  | .char '-' :: tail => (true, tail)
  | .char '+' :: tail => (false, tail)
  | s => (false, s)

/-- A whole text as a freely written number: digits with an optional point among or
around them, an optional exponent, or a name, each with an optional sign. -/
def readReal? (s : Text) : Option Binary64 :=
  let (negative, body) := spanSign s
  let name := body.map Letter.lowerAscii
  if name = "inf" ∨ name = "infinity" then some (.infinite negative)
  else if name = "nan" then some .nan
  else
    let (whole, rest) := spanDigits body
    let (fraction, rest) := match rest with
      | .char '.' :: tail => spanDigits tail
      | _ => ([], rest)
    if whole.isEmpty && fraction.isEmpty then none else
    let significand := natOfDigits (natOfDigits 0 whole) fraction
    match rest, exponent? rest with
    | [], _ => some (.ofScaled negative significand (-fraction.length))
    | _, some (e, []) => some (.ofScaled negative significand (e - fraction.length))
    | _, _ => none

/-- A text without its underscores, each of which must stand between two digits.
`afterDigit` says whether a digit precedes the text. -/
def withoutSeparators? (afterDigit : Bool) : Text → Option Text
  | [] => some []
  | .char '_' :: l :: s =>
    if afterDigit && isDigit l then (withoutSeparators? true s).map (l :: ·) else none
  | l :: s => if l = '_' then none else (withoutSeparators? (isDigit l) s).map (l :: ·)

example : readReal? "+.5" = some (.ofUnits false (2 ^ unitPlaces) 2) := by decide +kernel

example : withoutSeparators? false "1_0" = some ("10" : Text) := by decide +kernel

end CommandAdvisor.Number
