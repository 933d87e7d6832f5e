import CommandAdvisor.Text.Quoted

/-!
# Text as bytes

A text is written as bytes in UTF-8. Halves of surrogate pairs have no bytes; where some
of them are excused, each of those stands for one byte. The first half that is not excused
stands in the way, and with it the halves behind it up to the next character.

## Main definitions
* `Obstacle` and `Obstacle.message`: what keeps a text from being written.
* `obstacle?`: the first obstacle in a text.
* `byteLength`: how many bytes a text takes.
-/
namespace CommandAdvisor.Text

/-- Halves of surrogate pairs that keep a text from being written as bytes. -/
structure Obstacle where
  /-- How many letters stand before the halves. -/
  position : Nat
  /-- The first of the halves. -/
  first : Fin 2048
  /-- How many more halves follow it. -/
  more : Nat
  deriving DecidableEq

/-- What is said about an obstacle. -/
def Obstacle.message (o : Obstacle) : Text :=
  "'utf-8' codec can't encode " ++
    (if o.more = 0 then
      "character '" ++ escapeByCode (.half o.first) ++ "' in position " ++ ofNat o.position
    else
      "characters in position " ++ ofNat o.position ++ "-" ++ ofNat (o.position + o.more)) ++
    ": surrogates not allowed"

/-- The first obstacle in a text that stands behind `position` other letters. -/
def obstacleFrom? (excused : Fin 2048 → Bool) (position : Nat) : Text → Option Obstacle
  | [] => none
  | .char _ :: s => obstacleFrom? excused (position + 1) s
  | .half n :: s =>
    if excused n then obstacleFrom? excused (position + 1) s
    else some ⟨position, n, (s.takeWhile fun l => !l.isChar).length⟩

/-- The first obstacle in a text. -/
def obstacle? (excused : Fin 2048 → Bool) (s : Text) : Option Obstacle :=
  obstacleFrom? excused 0 s

/-- How many bytes a letter takes. -/
def letterLength : Letter → Nat
  | .char c => c.utf8Size
  | .half _ => 1

-- The sum of no lengths is the zero of the core library, whatever is imported besides.
attribute [local instance(high)] Zero.ofOfNat0

/-- How many bytes a text without obstacles takes. -/
def byteLength (s : Text) : Nat := (s.map letterLength).sum

/-- Where nothing is excused, exactly the sound texts have no obstacle. -/
theorem obstacle?_eq_none_iff {s : Text} : obstacle? (fun _ => false) s = none ↔ isSound s := by
  unfold obstacle?
  generalize 0 = position
  induction s generalizing position with
  | nil => simp [obstacleFrom?, isSound]
  | cons l s ih =>
    cases l with
    | char c => simpa [obstacleFrom?, isSound, Letter.isChar] using ih (position + 1)
    | half n => simp [obstacleFrom?, isSound, Letter.isChar]

example : (obstacle? (fun _ => false) ['a', .half 0]).map Obstacle.message =
    some ("'utf-8' codec can't encode character '\\ud800' in position 1: " ++
      "surrogates not allowed") := by
  decide +kernel

end CommandAdvisor.Text
