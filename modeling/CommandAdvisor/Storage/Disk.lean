import CommandAdvisor.Storage.FileSystem

/-!
# Access to a file system

The operations of a program on what is stored. A refused operation names its path, and
leaves what the steps before it have done. Permissions are kept and can be asked for, but
nothing is refused for them: the program is run by somebody who may read and write everything.

## Main definitions
* `Refusal`: a refused access and what is said about it.
* `Disk`: programs on a file system.
* `Disk.read`, `Disk.makeDirectory`, `Disk.makeDirectories`, `Disk.setMode`,
  `Disk.create` and `Disk.replace`.
-/
namespace CommandAdvisor.Storage

/-- A refused access: the fault, the path, and the second path of a replacement. -/
structure Refusal where
  fault : Fault
  path : Path
  target : Option Path
  deriving DecidableEq

/-- What is said about a refused access. -/
def Refusal.message (r : Refusal) : Text :=
  match r.fault with
  | .nullCharacter | .unwritable _ => r.fault.text
  | _ =>
    "[Errno " ++ Text.ofNat r.fault.number ++ "] " ++ r.fault.text ++ ": " ++
      Text.quoted r.path.toText ++
      (match r.target with
      | some target => " -> " ++ Text.quoted target.toText
      | none => "")

/-- Programs on a file system that may be refused an access. -/
abbrev Disk := EStateM Refusal FileSystem

namespace Disk

/-- Refuse an access to a path. -/
def refuse {α : Type} (fault : Fault) (p : Path) : Disk α := throw ⟨fault, p, none⟩

/-- The place that a path leads to. -/
def locate (p : Path) : Disk Place := do
  match (← get).locate p with
  | .ok place => return place
  | .error fault => refuse fault p

/-- What is at a place. -/
def at? (place : Place) : Disk (Option Node) := return (← get).node? place

/-- The content of a file. -/
def read (p : Path) : Disk ByteArray := do
  match ← at? (← locate p) with
  | some (.file _ content) => return content
  | some (.directory _) => refuse .isDirectory p
  | none => refuse .notFound p

/-- Make a directory in one that is there. -/
def makeDirectory (mode : Nat) (p : Path) : Disk Unit := do
  let place ← locate p
  if !p.endsInName || ((← at? place).isSome) then refuse .exists p
  else modify fun fs => fs.put place (.directory (fs.inheritedMode place mode))

/-- Make a directory unless it is there. -/
def ensureDirectory (mode : Nat) (p : Path) : Disk Unit :=
  tryCatch (makeDirectory mode p) fun refusal => do
    if refusal.fault = .notFound ∨ !(← get).isDirectory p then throw refusal

/-- The permission bits of a directory that is made on the way to another. -/
def passageMode : Nat := 0o755

/-- Make a directory and all directories on the way to it that are not there, at most
`depth` of them. -/
def makeUpTo : Nat → Nat → Path → Disk Unit
  | 0, mode, p => ensureDirectory mode p
  | depth + 1, mode, p =>
    tryCatch (ensureDirectory mode p) fun refusal =>
      if refusal.fault = .notFound then do
        makeUpTo depth passageMode p.parent
        ensureDirectory mode p
      else throw refusal

/-- Make a directory and all directories on the way to it that are not there. -/
def makeDirectories (mode : Nat) (p : Path) : Disk Unit := makeUpTo p.parts.length mode p

/-- The permission bits of what a path leads to. -/
def modeOf (p : Path) : Disk Nat := do
  match ← at? (← locate p) with
  | some node => return node.mode
  | none => refuse .notFound p

/-- Change the permission bits of a directory. -/
def setMode (mode : Nat) (p : Path) : Disk Unit := do
  let place ← locate p
  match ← at? place with
  | some (.directory _) => modify (·.put place (.directory mode))
  | some (.file _ content) => modify (·.put place (.file mode content))
  | none => refuse .notFound p

/-- Make a new file with a content. -/
def create (mode : Nat) (p : Path) (content : ByteArray) : Disk Unit := do
  let place ← locate p
  if ((← at? place).isSome) then refuse .exists p
  else modify (·.put place (.file mode content))

/-- Take a file away. -/
def discard (p : Path) : Disk Unit := do
  let place ← locate p
  modify (·.remove place)

/-- Move a file to where a path leads, in place of a file that is there. -/
def replace (p target : Path) : Disk Unit := do
  let source ← locate p
  match (← get).locate target with
  | .error fault => throw ⟨fault, p, some target⟩
  | .ok place =>
    if !target.endsInName then throw ⟨.busy, p, some target⟩
    else match ← at? place, ← at? source with
      | some (.directory _), _ => throw ⟨.isDirectory, p, some target⟩
      | _, some node => modify fun fs => (fs.remove source).put place node
      | _, none => throw ⟨.notFound, p, some target⟩

end Disk

end CommandAdvisor.Storage
