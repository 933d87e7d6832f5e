/-!
# Text

A text is a list of letters. A letter is a character; but a JSON string, and so everything
that is read from one, may also hold half of a surrogate pair by itself. Such a half is no
character, and a text with one in it cannot be written as it is. Strings and characters
of the language stand for texts and letters wherever these are expected.

## Main definitions
* `Letter`, `Letter.code` and `Letter.ofCode`: letters and their code points.
* `Text`: lists of letters.
* `Text.ofString` and `Text.toChars?`: texts and characters.
* `Text.isSound`: texts without halves.
* `Text.cutAt`: a text in two parts.
-/
namespace CommandAdvisor

/-- One letter of a text. -/
inductive Letter where
  | char (c : Char)
  /-- Half of a surrogate pair that stands by itself, by its number among all halves. -/
  | half (n : Fin 2048)
  deriving DecidableEq, Inhabited

namespace Letter

/-- The code point of the first of all halves. -/
def firstHalf : Nat := 0xD800

/-- The code point of a letter. -/
def code : Letter → Nat
  | char c => c.toNat
  | half n => firstHalf + n

/-- The letter with a code point. -/
def ofCode (n : Nat) : Letter :=
  if h : n - firstHalf < 2048 ∧ firstHalf ≤ n then half ⟨n - firstHalf, h.1⟩
  else char (Char.ofNat n)

/-- Whether a letter is a character. -/
def isChar : Letter → Bool
  | char _ => true
  | half _ => false

/-- A letter with a capital of ASCII made small. -/
def lowerAscii : Letter → Letter
  | char c => char c.toLower
  | half n => half n

/-- A letter with a small letter of ASCII made a capital. -/
def upperAscii : Letter → Letter
  | char c => char c.toUpper
  | half n => half n

instance : Coe Char Letter := ⟨char⟩

instance : LT Letter := ⟨fun a b => a.code < b.code⟩

instance (a b : Letter) : Decidable (a < b) := inferInstanceAs (Decidable (a.code < b.code))

/-- A letter is known by its code point. -/
@[simp] theorem ofCode_code (l : Letter) : ofCode l.code = l := by
  cases l with
  | char c =>
    have h : ¬(c.toNat - firstHalf < 2048 ∧ firstHalf ≤ c.toNat) := by
      have hc := c.valid
      simp only [UInt32.isValidChar, Nat.isValidChar] at hc
      unfold firstHalf Char.toNat
      omega
    rw [ofCode, code, dif_neg h, Char.ofNat_toNat]
  | half n =>
    have h : n.val < 2048 := n.isLt
    simp [ofCode, code, h]

end Letter

/-- A list of letters. -/
abbrev Text := List Letter

namespace Text

/-- The text of a list of characters. -/
def ofChars (cs : List Char) : Text := cs.map .char

/-- The text that a string is. -/
def ofString (s : String) : Text := ofChars s.toList

instance : Coe String Text := ⟨ofString⟩

/-- One letter over and over. -/
def repeated (count : Nat) (l : Letter) : Text := List.replicate count l

/-- The decimal digits of a number. -/
def ofNat (n : Nat) : Text := ofChars (Nat.toDigits 10 n)

/-- A text cut at the first place of a letter, which belongs to neither part. There is no
second part where the letter is missing. -/
def cutAt (mark : Letter) (s : Text) : Text × Option Text :=
  match s.dropWhile (· ≠ mark) with
  | [] => (s, none)
  | _ :: rest => (s.takeWhile (· ≠ mark), some rest)

/-- Texts with another text between any two of them. -/
def joinedBy (between : Text) (parts : List Text) : Text := List.intercalate between parts

/-- A text without the occurrences of a letter at its end. -/
def withoutEnding (l : Letter) (s : Text) : Text := (s.reverse.dropWhile (· = l)).reverse

/-- A text without a letter. -/
def without (l : Letter) (s : Text) : Text := s.filter (· ≠ l)

/-- The characters of a text, unless there is a half in it. -/
def toChars? : Text → Option (List Char)
  | [] => some []
  | .char c :: s => (toChars? s).map (c :: ·)
  | .half _ :: _ => none

/-- Whether a text holds nothing but characters. -/
def isSound (s : Text) : Bool := s.all Letter.isChar

/-- The string that a text is shown as, with a replacement for every half. -/
def asString (s : Text) : String :=
  String.ofList (s.map fun
    | .char c => c
    | .half _ => '\uFFFD')

@[simp] theorem toChars?_ofChars (cs : List Char) : toChars? (ofChars cs) = some cs := by
  induction cs with
  | nil => rfl
  | cons c cs ih => simpa [ofChars, toChars?] using ih

theorem ofChars_append (a b : List Char) : ofChars (a ++ b) = ofChars a ++ ofChars b :=
  List.map_append

theorem isSound_ofChars (cs : List Char) : isSound (ofChars cs) := by
  simp [isSound, ofChars, Letter.isChar]

/-- Two strings are different texts unless they are the same. -/
@[simp] theorem ofString_inj {a b : String} : ofString a = ofString b ↔ a = b := by
  refine ⟨fun h => ?_, fun h => h ▸ rfl⟩
  have := congrArg toChars? h
  simp only [ofString, toChars?_ofChars, Option.some.injEq] at this
  exact String.toList_inj.1 this

@[simp] theorem ofString_beq (a b : String) : (ofString a == ofString b) = (a == b) := by
  rw [Bool.eq_iff_iff]
  simp

@[simp] theorem isSound_ofString (s : String) : isSound (ofString s) = true :=
  isSound_ofChars _

/-- A text is sound exactly if it is made of characters. -/
theorem isSound_iff {s : Text} : isSound s ↔ ∃ cs, s = ofChars cs := by
  constructor
  · intro h
    induction s with
    | nil => exact ⟨[], rfl⟩
    | cons l s ih =>
      cases l with
      | half n => simp [isSound, Letter.isChar] at h
      | char c =>
        obtain ⟨cs, rfl⟩ := ih (by simpa [isSound, Letter.isChar] using h)
        exact ⟨c :: cs, rfl⟩
  · rintro ⟨cs, rfl⟩
    exact isSound_ofChars cs

end Text

end CommandAdvisor
