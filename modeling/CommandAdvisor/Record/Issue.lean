import CommandAdvisor.Text.Basic

/-!
# Issues of a record

What is wrong with a value that was to become a record, and where. Fields are checked
independently, so a value can have several issues; `Validated` carries either the
record or all of its issues, and joining two of them joins their issues in order.

## Main definitions
* `Step` and `Issue`: the place of an issue and its kind.
* `Validated`: a result with all issues.
* `Validated.under`: the issues of a part, placed in the whole.
-/
namespace CommandAdvisor.Record

/-- One step on the way to a part of a value. -/
inductive Step where
  | field (name : Text)
  | index (n : Nat)
  deriving DecidableEq

/-- What is wrong with a value. -/
inductive IssueKind where
  | missing
  | stringType
  /-- A text that should be read as something else holds half of a surrogate pair. -/
  | stringUnicode
  | boolType
  | boolParsing
  | intType
  | intParsing
  | intParsingSize
  | intFromFloat
  | finiteNumber
  | greaterThan
  | floatType
  | floatParsing
  | greaterThanEqual
  | lessThanEqual
  | choice
  | listType
  | tupleType
  | recordType
  | malformed
  deriving DecidableEq

/-- The code by which a kind of issue is reported. -/
def IssueKind.code : IssueKind → Text
  | missing => "missing"
  | stringType => "string_type"
  | stringUnicode => "string_unicode"
  | boolType => "bool_type"
  | boolParsing => "bool_parsing"
  | intType => "int_type"
  | intParsing => "int_parsing"
  | intParsingSize => "int_parsing_size"
  | intFromFloat => "int_from_float"
  | finiteNumber => "finite_number"
  | greaterThan => "greater_than"
  | floatType => "float_type"
  | floatParsing => "float_parsing"
  | greaterThanEqual => "greater_than_equal"
  | lessThanEqual => "less_than_equal"
  | choice => "enum"
  | listType => "list_type"
  | tupleType => "tuple_type"
  | recordType => "model_type"
  | malformed => "json_invalid"

/-- One thing that is wrong, with its place from the outside in. -/
structure Issue where
  place : List Step
  kind : IssueKind
  deriving DecidableEq

/-- A result, or everything that stands against it. -/
inductive Validated (α : Type) where
  | valid (a : α)
  | invalid (issues : List Issue)

namespace Validated

variable {α β : Type}

/-- One issue at the value itself. -/
def issue (kind : IssueKind) : Validated α := .invalid [⟨[], kind⟩]

/-- The result of applying a validated function to a validated argument. Issues of both
are kept, those of the function first. -/
def apply : Validated (α → β) → Validated α → Validated β
  | .valid f, .valid a => .valid (f a)
  | .valid _, .invalid issues => .invalid issues
  | .invalid issues, .valid _ => .invalid issues
  | .invalid first, .invalid second => .invalid (first ++ second)

instance : Applicative Validated where
  pure := .valid
  seq f a := f.apply (a ())

/-- The result for a part, its issues placed under a step of the whole. -/
def under (step : Step) : Validated α → Validated α
  | .valid a => .valid a
  | .invalid issues => .invalid (issues.map fun i => { i with place := step :: i.place })

/-- A result that a further check may refuse. -/
def check (ok : α → Validated β) : Validated α → Validated β
  | .valid a => ok a
  | .invalid issues => .invalid issues

/-- The result with its issues as an error. -/
def toExcept : Validated α → Except (List Issue) α
  | .valid a => .ok a
  | .invalid issues => .error issues

@[simp] theorem seq_valid (f : α → β) (a : α) :
    (Seq.seq (Validated.valid f) fun _ => .valid a) = .valid (f a) := rfl

@[simp] theorem map_valid (f : α → β) (a : α) : f <$> Validated.valid a = .valid (f a) := rfl

@[simp] theorem pure_eq_valid (a : α) : (pure a : Validated α) = .valid a := rfl

@[simp] theorem under_valid (step : Step) (a : α) : (valid a).under step = .valid a := rfl

@[simp] theorem check_valid (ok : α → Validated β) (a : α) : (valid a).check ok = ok a := rfl

end Validated

end CommandAdvisor.Record
