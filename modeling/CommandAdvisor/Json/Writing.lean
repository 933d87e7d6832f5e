import CommandAdvisor.Json.Value
import CommandAdvisor.Number.Decimal
import CommandAdvisor.Number.Numeral

/-!
# Writing JSON

Two styles of writing. The portable one keeps to ASCII and names the numbers that JSON
does not have; the exchange style leaves characters as they are and writes `null` for
such numbers. Either can spread a value over lines, each level indented by two more
spaces, or keep it on one line.

## Main definitions
* `Style`, `Style.portable` and `Style.exchange`.
* `escaped`: one letter inside a string.
* `Arrangement`: on one line or over many.
* `Value.write` and `Value.writeExchange`: the text of a value.
* `Value.isOversized`: whether a value is refused by the portable style.
-/
namespace CommandAdvisor.Json

/-- How strings and numbers are spelled. -/
structure Style where
  /-- Whether every character outside ASCII is escaped. -/
  asciiOnly : Bool
  /-- The digits of numbers. -/
  layout : Number.Layout
  /-- Whether the numbers without digits have names; otherwise they become `null`. -/
  namesSpecials : Bool

/-- ASCII throughout. -/
def Style.portable : Style := ⟨true, .plain, true⟩

/-- Characters as they are. -/
def Style.exchange : Style := ⟨false, .compact, false⟩

/-- The escape of one unit of sixteen bits. -/
def unitEscape (n : Nat) : Text := "\\u" ++ Text.hexDigits 4 n

/-- One letter inside a string. A character beyond sixteen bits is escaped as the two
halves of a surrogate pair. -/
def escaped (asciiOnly : Bool) (l : Letter) : Text :=
  if l = '"' then "\\\""
  else if l = '\\' then "\\\\"
  else if l = '\n' then "\\n"
  else if l = '\r' then "\\r"
  else if l = '\t' then "\\t"
  else if l = '\x08' then "\\b"
  else if l = '\x0c' then "\\f"
  else if l.code < 0x20 then unitEscape l.code
  else if !asciiOnly || l.code < 0x7F then [l]
  else if l.code < 0x10000 then unitEscape l.code
  else
    unitEscape (0xD800 + (l.code - 0x10000) / 0x400) ++
      unitEscape (0xDC00 + (l.code - 0x10000) % 0x400)

/-- A string between its quotes. -/
def writeString (style : Style) (s : Text) : Text :=
  "\"" ++ s.flatMap (escaped style.asciiOnly) ++ "\""

/-- A real number. -/
def writeReal (style : Style) (x : Number.Binary64) : Text :=
  match style.layout.write? x with
  | some digits => digits
  | none =>
    if style.namesSpecials then
      match x with
      | .nan => "NaN"
      | .infinite true => "-Infinity"
      | _ => "Infinity"
    else "null"

/-- An integer. -/
def writeInteger (n : Int) : Text :=
  if n < 0 then "-" ++ Text.ofNat n.natAbs else Text.ofNat n.natAbs

/-- How the parts of a container are set apart. -/
inductive Arrangement where
  /-- One line; a blank follows each comma. -/
  | inline
  /-- A line for each part, indented by two blanks a level. -/
  | indented

namespace Arrangement

/-- What stands between a bracket and what it encloses, at a level. -/
def edge : Arrangement → Nat → Text
  | .inline, _ => ""
  | .indented, level => "\n" ++ Text.repeated (2 * level) ' '

/-- What stands between two parts at a level. -/
def gap : Arrangement → Nat → Text
  | .inline, _ => ", "
  | .indented, level => ",\n" ++ Text.repeated (2 * level) ' '

/-- The parts of a container between its brackets. -/
def enclose (a : Arrangement) (level : Nat) (first last : Letter) (parts : List Text) : Text :=
  if parts.isEmpty then [first, last]
  else [first] ++ a.edge (level + 1) ++ (a.gap (level + 1)).intercalate parts ++
    a.edge level ++ [last]

end Arrangement

namespace Value

mutual

/-- The text of a value at a level of nesting. -/
def writeAt (style : Style) (a : Arrangement) (level : Nat) : Value → Text
  | .null => "null"
  | .bool b => if b then "true" else "false"
  | .integer n | .longInteger n => writeInteger n
  | .real x => writeReal style x
  | .string s => writeString style s
  | .array items => a.enclose level '[' ']' (writeItems style a (level + 1) items)
  | .object members =>
    a.enclose level '\x7b' '\x7d' (writeMembers style a (level + 1) members)

/-- The texts of the items of an array. -/
def writeItems (style : Style) (a : Arrangement) (level : Nat) : List Value → List Text
  | [] => []
  | v :: vs => writeAt style a level v :: writeItems style a level vs

/-- The texts of the members of an object, names included. -/
def writeMembers (style : Style) (a : Arrangement) (level : Nat) :
    Members → List Text
  | [] => []
  | (name, v) :: rest =>
    (writeString style name ++ ": " ++ writeAt style a level v) ::
      writeMembers style a level rest

end

/-- The text of a value. -/
def write (style : Style) (a : Arrangement) (v : Value) : Text := writeAt style a 0 v

mutual

/-- Whether there is an integer in a value that has more digits than the portable style
writes. -/
def isOversized : Value → Bool
  | .integer n | .longInteger n => Number.digitLimit < (Text.ofNat n.natAbs).length
  | .array items => areItemsOversized items
  | .object members => areMembersOversized members
  | _ => false

/-- Whether there is such an integer in some items. -/
def areItemsOversized : List Value → Bool
  | [] => false
  | v :: vs => isOversized v || areItemsOversized vs

/-- Whether there is such an integer in some members. -/
def areMembersOversized : Members → Bool
  | [] => false
  | (_, v) :: rest => isOversized v || areMembersOversized rest

end

@[simp] theorem isOversized_bool (b : Bool) : (bool b).isOversized = false := rfl

@[simp] theorem isOversized_real (x : Number.Binary64) : (real x).isOversized = false := rfl

@[simp] theorem isOversized_string (s : Text) : (string s).isOversized = false := rfl

/-- A text that may be missing is no integer. -/
@[simp] theorem isOversized_nullable (t : Option Text) :
    ((t.map string).getD null).isOversized = false := by
  cases t <;> rfl

theorem isOversized_array {items : List Value} :
    (array items).isOversized = false ↔ ∀ v ∈ items, v.isOversized = false := by
  rw [isOversized]
  induction items with
  | nil => simp [areItemsOversized]
  | cons v vs ih => simp [areItemsOversized, ih]

theorem isOversized_object {members : Members} :
    (object members).isOversized = false ↔ ∀ m ∈ members, m.2.isOversized = false := by
  rw [isOversized]
  induction members with
  | nil => simp [areMembersOversized]
  | cons m rest ih => simp [areMembersOversized, ih]

/-- The text of a value for others to read. Every string in it has to be sound. -/
def writeExchange (v : Value) : Except Text.Obstacle Text :=
  match v.obstacle? with
  | some obstacle => .error obstacle
  | none => .ok (v.write .exchange .indented)

example : (array [.integer 1, .array [], .string "é"]).write .portable .indented =
    "[\n  1,\n  [],\n  \"\\u00e9\"\n]" := by decide +kernel

end Value

end CommandAdvisor.Json
