import CommandAdvisor.Text.Basic

/-!
# Paths

A path is an anchor and the names behind it. Empty names and single dots say nothing
and are dropped when a path is read; double dots are kept, because where they lead
depends on what is stored. Exactly two slashes at the head are an anchor of their own.

## Main definitions
* `Path`, `Path.ofText` and `Path.toText`.
* `Path.parent`, `Path.name` and `Path.child`.
* `Path.homeOwner?` and `Path.expandHome`: paths that start in a home directory.
-/
namespace CommandAdvisor.Storage

/-- What stands before the names of a path. -/
inductive Anchor where
  | here
  | root
  | doubleRoot
  deriving DecidableEq

/-- The text of an anchor. -/
def Anchor.text : Anchor → Text
  | here => ""
  | root => "/"
  | doubleRoot => "//"

/-- A path. -/
structure Path where
  anchor : Anchor
  parts : List Text
  deriving DecidableEq

namespace Path

/-- The anchor at the head of a path text. -/
def anchorOf : Text → Anchor
  | .char '/' :: .char '/' :: .char '/' :: _ => .root
  | .char '/' :: .char '/' :: _ => .doubleRoot
  | .char '/' :: _ => .root
  | _ => .here

/-- The names in a path text. -/
def partsOf (s : Text) : List Text :=
  (List.splitOn (.char '/') s).filter fun part => part ≠ "" && part ≠ "."

/-- The path that a text is. -/
def ofText (s : Text) : Path := ⟨anchorOf s, partsOf s⟩

/-- The text of a path; a single dot for the path that says nothing. -/
def toText (p : Path) : Text :=
  if p.anchor = .here && p.parts.isEmpty then "."
  else p.anchor.text ++ Text.joinedBy "/" p.parts

/-- The path without its last name. -/
def parent (p : Path) : Path := { p with parts := p.parts.dropLast }

/-- The last name; nothing for a path without names. -/
def name (p : Path) : Text := p.parts.getLastD []

/-- The path with one more name. -/
def child (p : Path) (name : Text) : Path := { p with parts := p.parts ++ [name] }

/-- One path behind another; an anchored one stands for itself. -/
def join (p q : Path) : Path :=
  if q.anchor = .here then { p with parts := p.parts ++ q.parts } else q

/-- Whether the last name says where the path leads by itself. -/
def endsInName (p : Path) : Bool := p.parts ≠ [] && p.name ≠ ".."

/-- The path of a home directory; `none` for a text that names no directory. Slashes at
its end say nothing. -/
def ofHome? (directory : Text) : Option Path :=
  match directory.withoutEnding '/' with
  | [] => some ⟨.root, []⟩
  | .char '~' :: _ => none
  | trimmed => some (ofText trimmed)

/-- The name of the user in whose home directory a path starts: it stands behind a tilde at
the head and is empty for whoever asks. -/
def homeOwner? (p : Path) : Option Text :=
  match p.anchor, p.parts with
  | .here, (.char '~' :: user) :: _ => some user
  | _, _ => none

/-- A path with its first name replaced by a directory. -/
def expandHome (p directory : Path) : Path :=
  { directory with parts := directory.parts ++ p.parts.drop 1 }

@[simp] theorem parent_child (p : Path) (name : Text) : (p.child name).parent = p := by
  simp [child, parent]

example : (ofText "a//b/./c/../d/").toText = "a/b/c/../d" := by decide +kernel

example : (ofText "//x").toText = "//x" ∧ (ofText "///x").toText = "/x" := by
  decide +kernel

end Path

end CommandAdvisor.Storage
