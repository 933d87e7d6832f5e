import CommandAdvisor.Json.Reading

/-!
# Room to read in

A reader of the free dialect makes calls, one within the other: one for each container that
is open, one where a number is written by its name, and three more to report a fault. There
is room for so many of them, and a reader that has used it up stops there, whatever the text
goes on with. If it never does, the text is what `read` makes of it.

## Main definitions
* `Strain`: what there was no room for.
* `Room`: how many calls there is room for.
* `Assembly.strainFrom?`: what there is no room for in some lexemes.
* `exhaustion?`: what there is no room for in a text.
-/
namespace CommandAdvisor.Json

/-- What there was no room for. -/
inductive Strain where
  /-- To go into an array. -/
  | array
  /-- To go into an object. -/
  | object
  /-- To call for a value or for the report on a fault. -/
  | call
  /-- To do what was called for. -/
  | body
  deriving DecidableEq

/-- What a message says about it. -/
def Strain.text : Strain → Text
  | array => " while decoding a JSON array from a unicode string"
  | object => " while decoding a JSON object from a unicode string"
  | call => " while calling a Python object"
  | body => ""

/-- How many calls, one within the other, there is room for where a text is read. -/
structure Room where
  most : Nat
  /-- Everything else that is done there, a warning above all, takes more room than this. -/
  enough : 8 ≤ most
  deriving DecidableEq

namespace Room

/-- The room for a thousand calls, of which nine have been made when a program that has just
been started reads a text. -/
def usual : Room := ⟨991, by decide⟩

/-- What there is no room for in a call where some others are going on. -/
def call? (room : Room) (going : Nat) (during : Strain) : Option Strain :=
  if going < room.most then none else some during

/-- What there is no room for in the report on a fault: it is called for, that makes the
report, and calls in turn for what every report has. -/
def report? (room : Room) (going : Nat) : Option Strain :=
  match room.most - going with
  | 0 => some .call
  | 1 => some .body
  | 2 => some .call
  | _ => none

end Room

/-- The names of numbers. -/
def numberNames : List Text := ["NaN", "Infinity", "-Infinity"]

/-- The names of values. -/
def valueNames : List Text := "null" :: "true" :: "false" :: numberNames

namespace Lexeme

/-- What a lexeme calls for where a value is due. What stands behind the name of a number
in the same word comes later. -/
def call? : Lexeme → Option Strain
  | openArray => some .array
  | openObject => some .object
  | word s => if numberNames.any (·.isPrefixOf s) then some .call else none
  | _ => none

/-- Whether a value starts here, whatever it goes on with. -/
def startsValue : Lexeme → Bool
  | openArray | openObject | body _ | broken => true
  | word s => valueNames.any (·.isPrefixOf s) || (Number.Numeral.match? s).isSome
  | _ => false

end Lexeme

namespace Assembly

/-- How many containers are open. -/
def opened : Assembly → Nat
  | value stack | done _ stack => stack.length
  | firstItem stack | firstName stack | name _ stack | colon _ _ stack => stack.length + 1

/-- Whether a value is due. -/
def awaitsValue : Assembly → Bool
  | value _ | firstItem _ => true
  | _ => false

/-- What there is no room for in a call that a lexeme takes. -/
def call? (room : Room) (a : Assembly) (l : Lexeme) : Option Strain :=
  if a.awaitsValue then l.call?.bind (room.call? a.opened) else none

/-- What there is no room for in the report on a lexeme that breaks the grammar. If it is
that no value starts where one is due, the report is made at the very end, when no container
is open any more. -/
def report? (room : Room) (a : Assembly) (l : Lexeme) : Option Strain :=
  if a.awaitsValue && !l.startsValue then none else room.report? a.opened

/-- What there is no room for in the report that a text ends too early. -/
def finalReport? (room : Room) : Assembly → Option Strain
  | done _ [] | value _ | firstItem _ => none
  | a => room.report? a.opened

/-- What there is no room for in some lexemes. -/
def strainFrom? (room : Room) : Assembly → List Lexeme → Option Strain
  | a, [] => a.finalReport? room
  | a, l :: ls =>
    match a.call? room l with
    | some during => some during
    | none =>
      match step .free a l with
      | .ok b => strainFrom? room b ls
      | .error .malformed => a.report? room l
      | .error (.oversized _) => none

end Assembly

/-- What there is no room for in a text, if there is anything. -/
def exhaustion? (room : Room) (s : Text) : Option Strain :=
  Assembly.strainFrom? room (.value []) (Lexeme.ofText s)

end CommandAdvisor.Json
