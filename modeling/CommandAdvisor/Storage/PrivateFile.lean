import CommandAdvisor.Json.Writing
import CommandAdvisor.Workspace

/-!
# Private files

Files that only their owner may read. The new content is written to a file of its own
beside the old one and then put in its place, so a write that fails leaves the old
content and nothing else behind. The private directory is kept closed to others.

## Main definitions
* `keepDirectory`: make a directory and close the private one.
* `publish`: put the new content in the place of the old one.
* `savePrivately`: write a JSON value to a private file.
-/
namespace CommandAdvisor.Storage

/-- The permission bits of a directory that only its owner may use. -/
def closedMode : Nat := 0o700

/-- The permission bits of a file that only its owner may use. -/
def privateMode : Nat := 0o600

/-- Whether permission bits let others in. -/
def letsOthersIn (mode : Nat) : Bool := mode &&& 0o077 != 0

/-- Make a directory unless it is there. The private directory is closed if it is open. -/
def keepDirectory (p : Path) : Action Unit := do
  Action.onDisk (Disk.makeDirectories closedMode p)
  if p = (← get).privateDirectory then
    let mode ← Action.onDisk (Disk.modeOf p)
    if letsOthersIn mode then
      Action.onDisk (Disk.setMode closedMode p)
      Action.note (.directoryTightened p mode)

/-- The file in which the new content of a file is prepared. -/
def draftOf (stamp : Text) (p : Path) : Path :=
  p.parent.child ("." ++ p.name ++ "." ++ stamp ++ ".tmp")

/-- Put a draft in the place of a file, unless its value could not be written to the end. -/
def publish (v : Json.Value) (draft p : Path) : Action Unit :=
  if v.isOversized then throw .oversized else Action.onDisk (Disk.replace draft p)

/-- Write a value to a private file. -/
def savePrivately (p : Path) (v : Json.Value) : Action Unit := do
  keepDirectory p.parent
  let draft := draftOf (← get).stamp p
  Action.onDisk (Disk.create privateMode draft (v.write .portable .indented).asString.toUTF8)
  tryCatch (publish v draft p) fun failure => do
    Action.onDisk (Disk.discard draft)
    throw failure

end CommandAdvisor.Storage
