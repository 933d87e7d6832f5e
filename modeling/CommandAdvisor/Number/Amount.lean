import CommandAdvisor.Number.Numeral
import CommandAdvisor.Text.Blank
import CommandAdvisor.Text.Digit

/-!
# Amounts

An amount is a number as a person writes it on a command line: with a margin
around it, in the decimal digits of any script, and with an underscore between any
two digits.

## Main definitions
* `readAmount?` and `readWhole?`.
-/
namespace CommandAdvisor.Number

/-- A letter with the decimal digits of every script replaced by the ASCII ones. -/
def asciiDigit (l : Letter) : Letter :=
  match Text.digitValue? l with
  | some d => .char (Nat.digitChar d)
  | none => l

/-- A written number without the margin and the underscores, in ASCII digits. -/
def unadorned? (s : Text) : Option Text :=
  withoutSeparators? false ((Text.withoutMargin s).map asciiDigit)

/-- The number that a person wrote, if the text is one. -/
def readAmount? (s : Text) : Option Binary64 := do readReal? (← unadorned? s)

/-- The whole number that a person wrote, if the text is one that is not too long. -/
def readWhole? (s : Text) : Option Int := do
  let (negative, digits) := spanSign (← unadorned? s)
  if digits.isEmpty || !digits.all isDigit || digitLimit < digits.length then none
  else
    let n : Int := natOfDigits 0 digits
    return if negative then -n else n

example : readAmount? " ３_٠ " = some (.ofInt 30) := by decide +kernel

example : readWhole? "-007" = some (-7) := by decide +kernel

end CommandAdvisor.Number
