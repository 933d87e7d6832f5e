import CommandAdvisor.Text.Case

/-!
# Lower case

Lower-casing a text is almost a map over its letters. Two letters are not mapped
one to one: the dotted capital I becomes a small i and a combining dot, and the
capital sigma has one small form inside a word and another at its end. The end of a
word is seen from both sides, past the letters that are passed over.

## Main definitions
* `lowerLetter` is the map for all letters but those two.
* `lowerAfter` lower-cases a text of which it is known whether it continues a word.
* `lower` lower-cases a text.
-/
namespace CommandAdvisor.Text

/-- The small letter of a capital with a single small letter; every other letter
stays as it is. -/
def lowerLetter (l : Letter) : Letter :=
  if l.code < 0x80 then l.lowerAscii
  else match capitals.find? (·.holds l.code) with
    | some block => .ofCode (block.lower l.code)
    | none => l

/-- Whether the text continues a word: its first letter that is not passed over
is one with case. -/
def continuesWord : Text → Bool
  | [] => false
  | l :: s => if isCaseIgnorable l then continuesWord s else isCased l

/-- Lower-case a text. `inWord` says whether the nearest letter before it that is
not passed over is one with case. -/
def lowerAfter (inWord : Bool) : Text → Text
  | [] => []
  | l :: s =>
    let rest := lowerAfter (if isCaseIgnorable l then inWord else isCased l) s
    if l = 'Σ' then (if inWord && !continuesWord s then 'ς' else 'σ') :: rest
    else if l = 'İ' then 'i' :: '\u0307' :: rest
    else lowerLetter l :: rest

/-- A text in lower case. -/
def lower (s : Text) : Text := lowerAfter false s

@[simp] theorem lowerAfter_nil (inWord : Bool) : lowerAfter inWord [] = [] := rfl

/-- A sigma at the end of a word takes its final form, a sigma elsewhere does not. -/
example : lower "ΟΔΟΣ ΣΟΦΙΑ" = "οδος σοφια" := by decide +kernel

example : lower "İ" = "i̇" := by decide +kernel

end CommandAdvisor.Text
