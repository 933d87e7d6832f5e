import CommandAdvisor.Text.Basic

/-!
# White space

The white space characters that separate words, and the two operations every
other text rule starts from: cutting a text into runs of one kind, and dropping
white space from its ends.

## Main definitions
* `isBlank` decides whether a letter is white space.
* `runs` cuts a text into maximal runs that are blank throughout or nowhere.
* `words` keeps the runs that are not blank.
* `trim` drops white space from both ends, `withoutMargin` what may surround a number.
* `mentions` looks for one text in another.
-/
namespace CommandAdvisor.Text

/-- White space: the ASCII controls from tab to carriage return and from file
separator to unit separator, next line, and the separators of Unicode. -/
def isBlank (l : Letter) : Bool :=
  let n := l.code
  (9 ≤ n && n ≤ 13) || (28 ≤ n && n ≤ 32) || n == 0x85 || n == 0xA0 || n == 0x1680 ||
  (0x2000 ≤ n && n ≤ 0x200A) || n == 0x2028 || n == 0x2029 || n == 0x202F ||
  n == 0x205F || n == 0x3000

/-- The maximal runs of `s` in order. Neighbouring runs differ in kind, no run is
empty, and together they are `s`. -/
def runs (s : Text) : List Text :=
  s.splitBy fun a b => isBlank a == isBlank b

/-- A run is blank when it starts with white space; runs are of one kind, so this
settles all their letters. -/
def startsBlank : Text → Bool
  | [] => false
  | l :: _ => isBlank l

/-- The words of `s`: its maximal runs free of white space, in order. -/
def words (s : Text) : List Text :=
  (runs s).filter fun r => !startsBlank r

/-- `s` without white space at its end. -/
def trimEnd (s : Text) : Text :=
  (s.reverse.dropWhile isBlank).reverse

/-- `s` without white space at either end. -/
def trim (s : Text) : Text :=
  trimEnd (s.dropWhile isBlank)

/-- White space that may stand around a number; the separators of ASCII may not. -/
def isMargin (l : Letter) : Bool := isBlank l && !(28 ≤ l.code && l.code ≤ 31)

/-- A number without the white space around it. -/
def withoutMargin (s : Text) : Text :=
  ((s.dropWhile isMargin).reverse.dropWhile isMargin).reverse

/-- Whether `needle` stands somewhere in the text as it is. -/
def occursIn (needle : Text) : Text → Bool
  | [] => needle.isEmpty
  | l :: s => needle.isPrefixOf (l :: s) || occursIn needle s

/-- Whether `needle` stands somewhere in `s` as it is. -/
def mentions (s needle : Text) : Bool := occursIn needle s

@[simp] theorem runs_nil : runs [] = [] := rfl

@[simp] theorem words_nil : words [] = [] := rfl

theorem occursIn_iff {needle s : Text} : occursIn needle s ↔ needle <:+: s := by
  induction s with
  | nil => simp [occursIn]
  | cons l s ih => simp [occursIn, ih, List.infix_cons_iff]

end CommandAdvisor.Text
