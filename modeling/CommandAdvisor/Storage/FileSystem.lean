import CommandAdvisor.Storage.Path
import CommandAdvisor.Text.Bytes

/-!
# File systems

Directories and files by place, a place being the names that lead to it from the root.
The root is always there. A path is followed name by name, and every name but the last
has to be a directory that is there.

## Main definitions
* `Fault`: why an access is refused.
* `Node` and `FileSystem`.
* `nameFault?`: what keeps a name from being used.
* `FileSystem.locate`: the place that a path leads to.
* `FileSystem.node?`, `FileSystem.put` and `FileSystem.remove`.
-/
namespace CommandAdvisor.Storage

/-- Why an access is refused. -/
inductive Fault where
  | notFound
  | exists
  | notDirectory
  | isDirectory
  | busy
  | nameTooLong
  /-- The path holds a null character and cannot be passed on. -/
  | nullCharacter
  /-- The path cannot be written as bytes. -/
  | unwritable (obstacle : Text.Obstacle)
  deriving DecidableEq

/-- The number of a fault. -/
def Fault.number : Fault → Nat
  | notFound => 2
  | busy => 16
  | «exists» => 17
  | notDirectory => 20
  | isDirectory => 21
  | nullCharacter | unwritable _ => 22
  | nameTooLong => 36

/-- What a fault says. -/
def Fault.text : Fault → Text
  | notFound => "No such file or directory"
  | busy => "Device or resource busy"
  | «exists» => "File exists"
  | notDirectory => "Not a directory"
  | isDirectory => "Is a directory"
  | nullCharacter => "embedded null byte"
  | unwritable obstacle => obstacle.message
  | nameTooLong => "File name too long"

/-- The names that lead to something from the root. -/
abbrev Place := List Text

-- Contents are compared as in the core library, whatever is imported besides.
attribute [local instance(high)] ByteArray.instDecidableEq

/-- What can be at a place. -/
inductive Node where
  | directory (mode : Nat)
  | file (mode : Nat) (content : ByteArray)
  deriving DecidableEq

/-- The permission bits of a node. -/
def Node.mode : Node → Nat
  | directory mode | file mode _ => mode

/-- Everything that is stored, and the directory that relative paths start from. -/
structure FileSystem where
  here : Place
  nodes : List (Place × Node)

namespace FileSystem

/-- What is at a place. -/
def node? (fs : FileSystem) (place : Place) : Option Node :=
  if place = [] then some (.directory 0o755) else fs.nodes.lookup place

/-- Put something at a place, instead of what was there. -/
def put (fs : FileSystem) (place : Place) (node : Node) : FileSystem :=
  { fs with nodes := (place, node) :: fs.nodes.filter fun e => e.1 != place }

/-- Take away what is at a place. -/
def remove (fs : FileSystem) (place : Place) : FileSystem :=
  { fs with nodes := fs.nodes.filter fun e => e.1 != place }

/-- The bit of a directory that passes itself and the group on to what is made in it. -/
def groupBit : Nat := 0o2000

/-- The permission bits of a directory that is made at a place with given bits. -/
def inheritedMode (fs : FileSystem) (place : Place) (mode : Nat) : Nat :=
  mode ||| (((fs.node? place.dropLast).map Node.mode).getD 0 &&& groupBit)

/-- The longest name, in bytes. -/
def nameLimit : Nat := 255

/-- Follow names from a place. -/
def follow (fs : FileSystem) (place : Place) : List Text → Except Fault Place
  | [] => .ok place
  | part :: rest =>
    match fs.node? place with
    | none => .error .notFound
    | some (.file _ _) => .error .notDirectory
    | some (.directory _) =>
      if part = ".." then follow fs place.dropLast rest
      else if nameLimit < part.byteLength then .error .nameTooLong
      else follow fs (place ++ [part]) rest

/-- The longest path, in bytes. -/
def pathLimit : Nat := 4095

/-- Whether half of a surrogate pair stands for a byte in a name that is no text. -/
def isByte (n : Fin 2048) : Bool := 0x480 ≤ n.val && n.val ≤ 0x4FF

/-- What keeps a text from being handed to the machine as a name or a path. -/
def nameFault? (s : Text) : Option Fault :=
  match s.obstacle? isByte with
  | some obstacle => some (.unwritable obstacle)
  | none => if s.contains '\x00' then some .nullCharacter else none

/-- The place that a path leads to. Nothing need be there yet. -/
def locate (fs : FileSystem) (p : Path) : Except Fault Place :=
  match nameFault? p.toText with
  | some fault => .error fault
  | none =>
    if pathLimit < p.toText.byteLength then .error .nameTooLong
    else fs.follow (if p.anchor = .here then fs.here else []) p.parts

/-- What is at the end of a path. -/
def access (fs : FileSystem) (p : Path) : Except Fault Node := do
  match fs.node? (← fs.locate p) with
  | some node => .ok node
  | none => .error .notFound

/-- Whether anything is at the end of a path. A path that cannot be followed leads to
nothing; one that is too long to be followed is a fault. -/
def isThere (fs : FileSystem) (p : Path) : Except Fault Bool :=
  match fs.access p with
  | .ok _ => .ok true
  | .error .nameTooLong => .error .nameTooLong
  | .error _ => .ok false

/-- Whether a directory is at the end of a path. -/
def isDirectory (fs : FileSystem) (p : Path) : Bool :=
  match fs.access p with
  | .ok (.directory _) => true
  | _ => false

@[simp] theorem lookup_filter_ne {α β : Type} [BEq α] [LawfulBEq α] {k k' : α} (h : k' ≠ k)
    (l : List (α × β)) : (l.filter fun e => e.1 != k).lookup k' = l.lookup k' := by
  induction l with
  | nil => rfl
  | cons e es ih =>
    obtain ⟨a, b⟩ := e
    by_cases ha : a = k
    · subst ha
      have hb : (k' == a) = false := beq_eq_false_iff_ne.2 h
      simpa [List.lookup_cons, hb] using ih
    · have : (a != k) = true := by simpa using ha
      simp [this, List.lookup_cons, ih]

theorem node?_put_self (fs : FileSystem) {place : Place} (h : place ≠ []) (node : Node) :
    (fs.put place node).node? place = some node := by
  simp [node?, put, h]

theorem node?_put_of_ne (fs : FileSystem) {place other : Place} (h : other ≠ place)
    (node : Node) : (fs.put place node).node? other = fs.node? other := by
  have hb : (other == place) = false := by simpa using h
  simp only [node?, put, List.lookup_cons, hb, lookup_filter_ne h]

theorem node?_remove_of_ne (fs : FileSystem) {place other : Place} (h : other ≠ place) :
    (fs.remove place).node? other = fs.node? other := by
  simp only [node?, remove, lookup_filter_ne h]

end FileSystem

end CommandAdvisor.Storage
