import CommandAdvisor.Text.Quoted

/-!
# Risk levels

Four levels in ascending order. A level is also known by its name, and compared with
a plain text it counts as that name.
-/
namespace CommandAdvisor.Risk

/-- How severe it would be to run a command. -/
inductive Level where
  | low
  | medium
  | high
  | critical
  deriving DecidableEq, Inhabited

namespace Level

/-- Every level, in ascending order. -/
def all : List Level := [.low, .medium, .high, .critical]

/-- The place of a level among all. -/
def rank : Level → Nat
  | .low => 0
  | .medium => 1
  | .high => 2
  | .critical => 3

/-- The name of a level where it is written out. -/
def name : Level → Text
  | .low => "low"
  | .medium => "medium"
  | .high => "high"
  | .critical => "critical"

/-- The name of a level in a headline. -/
def headline : Level → Text
  | .low => "LOW"
  | .medium => "MEDIUM"
  | .high => "HIGH"
  | .critical => "CRITICAL"

/-- The level with a name. -/
def ofName? (s : Text) : Option Level := all.find? fun l => l.name == s

instance : LE Level := ⟨fun a b => a.rank ≤ b.rank⟩

instance : LT Level := ⟨fun a b => a.rank < b.rank⟩

instance (a b : Level) : Decidable (a ≤ b) := inferInstanceAs (Decidable (a.rank ≤ b.rank))

instance (a b : Level) : Decidable (a < b) := inferInstanceAs (Decidable (a.rank < b.rank))

/-- The more severe of two levels; the first of two equal ones. -/
instance : Max Level := ⟨fun a b => if a < b then b else a⟩

@[simp] theorem ofName?_name (l : Level) : ofName? l.name = some l := by
  cases l <;> decide +kernel

theorem rank_injective {a b : Level} (h : a.rank = b.rank) : a = b := by
  cases a <;> cases b <;> simp_all [rank]

theorem le_def {a b : Level} : a ≤ b ↔ a.rank ≤ b.rank := Iff.rfl

theorem lt_def {a b : Level} : a < b ↔ a.rank < b.rank := Iff.rfl

/-- Two levels put in ascending order. -/
def sorted (levels : List Level) : List Level := levels.mergeSort fun a b => a ≤ b

/-- The first of the most severe levels of a list. -/
def greatest? : List Level → Option Level
  | [] => none
  | l :: ls => some (ls.foldl max l)

/-- The first of the least severe levels of a list. -/
def least? : List Level → Option Level
  | [] => none
  | l :: ls => some (ls.foldl (fun a b => if b < a then b else a) l)

end Level

/-- A name that no level has. -/
structure UnknownLevel where
  name : Text
  deriving DecidableEq

/-- What is said about an unknown name. -/
def UnknownLevel.message (e : UnknownLevel) : Text :=
  Text.quoted e.name ++ " is not a valid RiskLevel"

/-- The level with a name, or the complaint that there is none. -/
def Level.ofName (s : Text) : Except UnknownLevel Level :=
  match ofName? s with
  | some l => .ok l
  | none => .error ⟨s⟩

/-- The answers to the five comparisons of two things. -/
structure Comparison where
  eq : Bool
  lt : Bool
  le : Bool
  gt : Bool
  ge : Bool
  deriving DecidableEq

/-- Two levels compare by rank. -/
def Level.compare (a b : Level) : Comparison :=
  ⟨a = b, a < b, a ≤ b, b < a, b ≤ a⟩

/-- Texts compare by code points. -/
def compareNames (a b : Text) : Comparison :=
  ⟨a = b, a < b, !decide (b < a), b < a, !decide (a < b)⟩

end CommandAdvisor.Risk
