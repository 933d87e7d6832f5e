import CommandAdvisor.Json.Value

/-!
# Record schemas

The shape of a record as a JSON schema. Keys of the schema come in alphabetical order,
properties in the order of the fields. A shape that has a name of its own is referred
to, and its definition stands beside the record.

## Main definitions
* `Shape`, `Field` and `Definition`: what a record looks like.
* `Definition.toJson`: the schema of a definition by itself.
* `Schema`: a record with the definitions it refers to.
-/
namespace CommandAdvisor.Record

open Json (Value)
open Json.Value (Members member member?)

/-- What a field holds. -/
inductive Shape where
  | text
  | truth
  /-- An integer above a bound. -/
  | integerAbove (bound : Int)
  /-- A real number. -/
  | real
  /-- A real number between two bounds. -/
  | realWithin (least greatest : Int)
  | listOf (item : Shape)
  | nullable (inner : Shape)
  /-- What a definition says. -/
  | named (name : Text)

/-- A field of a record. -/
structure Field where
  name : Text
  shape : Shape
  isRequired : Bool
  /-- The value of a field that is left out, if the schema gives it. -/
  fallback : Option Value
  description : Option Text

namespace Field

/-- A field that must be there. -/
def needed (name : Text) (shape : Shape) : Field := ⟨name, shape, true, none, none⟩

/-- A field with a value of its own when it is left out. -/
def given (name : Text) (shape : Shape) (fallback : Value) : Field :=
  ⟨name, shape, false, some fallback, none⟩

/-- A list that is empty when it is left out. -/
def collected (name : Text) (item : Shape) : Field :=
  ⟨name, .listOf item, false, none, none⟩

/-- The field with a description. -/
def describedAs (f : Field) (description : Text) : Field :=
  { f with description := some description }

end Field

/-- A named shape: a choice between names or a record. -/
inductive Definition where
  | choice (name description : Text) (names : List Text)
  | record (name description : Text) (fields : List Field)

/-- A record and the definitions it refers to, in alphabetical order. -/
structure Schema where
  name : Text
  description : Text
  fields : List Field
  definitions : List Definition

/-- An object with its members in alphabetical order. -/
def sortedObject (members : Members) : Value :=
  .object (members.mergeSort fun a b => decide (a.1 ≤ b.1))

/-- A word with a capital. -/
def capitalized (word : Text) : Text :=
  match word with
  | [] => []
  | l :: s => l.upperAscii :: s.map Letter.lowerAscii

/-- The heading of a field: its words, separated by underscores, with capitals. -/
def heading (name : Text) : Text :=
  Text.joinedBy " " ((List.splitOn (.char '_') name).map capitalized)

/-- The keys of the schema of a shape. -/
def Shape.members : Shape → Members
  | .text => [("type", .string "string")]
  | .truth => [("type", .string "boolean")]
  | .integerAbove bound => [("exclusiveMinimum", .integer bound), ("type", .string "integer")]
  | .real => [("type", .string "number")]
  | .realWithin least greatest =>
    [("maximum", .integer greatest), ("minimum", .integer least), ("type", .string "number")]
  | .listOf item => [("items", sortedObject item.members), ("type", .string "array")]
  | .nullable inner =>
    [("anyOf", .array [sortedObject inner.members, .object [("type", .string "null")]])]
  | .named name => [("$ref", .string ("#/$defs/" ++ name))]

/-- Whether a shape is what a definition says, and so has the heading of the definition. -/
def Shape.isNamed : Shape → Bool
  | .named _ => true
  | .nullable inner => inner.isNamed
  | _ => false

/-- The schema of a field. -/
def Field.toJson (f : Field) : Value :=
  sortedObject (f.shape.members ++
    (if f.shape.isNamed then [] else member "title" (.string (heading f.name))) ++
    member? "default" f.fallback ++ member? "description" (f.description.map .string))

/-- The keys of the schema of a record. -/
def recordMembers (name description : Text) (fields : List Field) : Members :=
  let names := (fields.filter Field.isRequired).map Field.name
  member "description" (.string description) ++
    member "properties" (.object (fields.map fun f => (f.name, f.toJson))) ++
    (if names.isEmpty then [] else member "required" (.array (names.map .string))) ++
    member "title" (.string name) ++ member "type" (.string "object")

namespace Definition

/-- The name that a definition is referred to by. -/
def name : Definition → Text
  | choice name _ _ | record name _ _ => name

/-- The schema of a definition by itself. -/
def toJson : Definition → Value
  | choice name description names =>
    sortedObject [("description", .string description), ("enum", .array (names.map .string)),
      ("title", .string name), ("type", .string "string")]
  | record name description fields => sortedObject (recordMembers name description fields)

end Definition

namespace Schema

/-- The definition that a record is for others. -/
def definition (s : Schema) : Definition := .record s.name s.description s.fields

/-- The schema of a record with the definitions it refers to. -/
def toJson (s : Schema) : Value :=
  let definitions := s.definitions.map fun d => (d.name, d.toJson)
  sortedObject ((if definitions.isEmpty then [] else member "$defs" (sortedObject definitions)) ++
    recordMembers s.name s.description s.fields)

end Schema

example : heading "man_page" = "Man Page" := by decide +kernel

end CommandAdvisor.Record
