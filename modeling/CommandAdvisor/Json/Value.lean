import CommandAdvisor.Number.Binary64
import CommandAdvisor.Text.Bytes

/-!
# JSON values

A value of the data format. Integers and reals are told apart by their text, so they
are two kinds. Strings and names are texts, halves of surrogate pairs included.

## Main definitions
* `Value`, `Value.Members` and `Value.find?`.
* `Value.obstacle?`: what keeps the strings of a value from being written as bytes.
-/
namespace CommandAdvisor.Json

/-- A value. An object keeps its members in the order of the text, repeated names
included. -/
inductive Value where
  | null
  | bool (b : Bool)
  | integer (n : Int)
  /-- An integer with too many digits to be taken for any other number. -/
  | longInteger (n : Int)
  | real (x : Number.Binary64)
  | string (s : Text)
  | array (items : List Value)
  | object (members : List (Text × Value))
  deriving Inhabited

namespace Value

/-- The members of an object. -/
abbrev Members := List (Text × Value)

/-- One member. -/
def member (name : Text) (v : Value) : Members := [(name, v)]

/-- A member that may be left out. -/
def member? (name : Text) (v : Option Value) : Members := (v.map fun v => (name, v)).toList

/-- The value under a name: of several members with one name the last counts. -/
def find? (name : Text) (members : Members) : Option Value :=
  members.reverse.lookup name

theorem find?_append (name : Text) (before after : Members) :
    find? name (before ++ after) = (find? name after).or (find? name before) := by
  simp [find?, List.lookup_append]

@[simp] theorem find?_member? (name other : Text) (v : Option Value) :
    find? name (member? other v) = if name = other then v else none := by
  cases v with
  | none => simp [member?, find?]
  | some v =>
    by_cases h : name = other
    · simp [member?, find?, h]
    · have hbeq : (name == other) = false := beq_eq_false_iff_ne.2 h
      simp [member?, find?, List.lookup_cons, hbeq, h]

theorem member_eq_member? (name : Text) (v : Value) : member name v = member? name (some v) := rfl

/-- A member that may be left out has a property if it is left out or has it. -/
theorem forall_mem_member? {name : Text} {v : Option Value} {P : Text × Value → Prop} :
    (∀ m ∈ member? name v, P m) ↔ ∀ a ∈ v, P (name, a) := by
  cases v <;> simp [member?]

mutual

/-- The obstacle in the first string that has one. -/
def obstacle? : Value → Option Text.Obstacle
  | .string s => Text.obstacle? (fun _ => false) s
  | .array items => obstacleOfItems? items
  | .object members => obstacleOfMembers? members
  | _ => none

/-- The obstacle in the first of some items that has one. -/
def obstacleOfItems? : List Value → Option Text.Obstacle
  | [] => none
  | v :: vs => (obstacle? v).or (obstacleOfItems? vs)

/-- The obstacle in the first of some members that has one, names included. -/
def obstacleOfMembers? : Members → Option Text.Obstacle
  | [] => none
  | (name, v) :: rest =>
    ((Text.obstacle? (fun _ => false) name).or (obstacle? v)).or (obstacleOfMembers? rest)

end

end Value

end CommandAdvisor.Json
