import CommandAdvisor.History.Entries
import CommandAdvisor.Json.Reading
import CommandAdvisor.Storage.PrivateFile

/-!
# The stored history

A history is kept in one private file, read before every use and written after every
change. A file that cannot be read counts as empty, which is noted in the journal.

## Main definitions
* `Store`: a file and how many entries it keeps.
* `Store.entries`: what is stored.
* `Store.add`, `Store.toggleFavorite`, `Store.addTag`, `Store.removeTag` and `Store.clear`.
-/
namespace CommandAdvisor.History

open Storage (Path)

/-- A history file and how many entries it keeps. -/
structure Store where
  path : Path
  limit : Int

namespace Store

/-- The entries in the content of a file. -/
def readEntries (content : ByteArray) : Except Failure (List Entry) :=
  match Json.readBytes content with
  | none => .error (.invalid [⟨[], .malformed⟩])
  | some v =>
    match decodeEntries v with
    | .valid entries => .ok entries
    | .invalid issues => .error (.invalid issues)

/-- The entries in the file of a history. -/
def stored (path : Path) : Action (List Entry) := do
  match readEntries (← Action.onDisk (Storage.Disk.read path)) with
  | .ok entries => return entries
  | .error failure => throw failure

/-- The entries of a history, the newest first. -/
def entries (s : Store) : Action (List Entry) := do
  match (← get).files.isThere s.path with
  | .error fault => throw (.storage ⟨fault, s.path, none⟩)
  | .ok false => return []
  | .ok true =>
    tryCatch (stored s.path) fun failure => do
      Action.note (.historyUnreadable s.path failure)
      return []

/-- Store entries in place of what is stored. -/
def save (s : Store) (entries : List Entry) : Action Unit := do
  Storage.savePrivately s.path (encodeEntries entries)
  Action.note (.historySaved entries.length s.path)

/-- A new identifier: sixteen hexadecimal digits. -/
def newId : Action Text := do
  let w ← get
  set { w with issued := w.issued + 1 }
  return Text.hexDigits 16 (w.issued + 1)

/-- The time of an entry that is saved now. -/
def timestamp : Action Number.Binary64 := do
  match (← get).clock.toBinary64? with
  | some time => return time
  | none => throw (.invalid [⟨[.field "timestamp"], .floatType⟩])

/-- The entry of a command that is saved now. -/
def newEntry (command : Text) (explanation : Explanation) (level : Option Risk.Level) :
    Action Entry := do
  let id ← newId
  return { id, command, parts := explanation.parts, overall := explanation.overall
           safetyNotes := explanation.safetyNotes, examples := explanation.examples, level
           timestamp := ← timestamp, isFavorite := false, tags := [] }

/-- Save a command in front of the others. -/
def add (s : Store) (command : Text) (explanation : Explanation) (level : Option Risk.Level) :
    Action Entry := do
  let entry ← newEntry command explanation level
  s.save (remember s.limit entry (← s.entries))
  return entry

/-- The entry with an identifier. -/
def get? (s : Store) (id : Text) : Action (Option Entry) := do
  return History.get? id (← s.entries)

/-- Store an edited history, if the edit changes anything. -/
def edit (s : Store) (change : List Entry → Option (List Entry)) :
    Action (Option (List Entry)) := do
  match change (← s.entries) with
  | some entries =>
    s.save entries
    return some entries
  | none => return none

/-- Make an entry a favorite, or no longer one, and say which; no when there is no such
entry. -/
def toggleFavorite (s : Store) (id : Text) : Action Bool := do
  match ← s.edit (toggleFavorite? id) with
  | some entries => return (History.get? id entries).any Entry.isFavorite
  | none => return false

/-- Put a tag on an entry. -/
def addTag (s : Store) (id tag : Text) : Action Unit := do
  let _ ← s.edit (addTag? id tag)

/-- Take a tag off an entry. -/
def removeTag (s : Store) (id tag : Text) : Action Unit := do
  let _ ← s.edit (removeTag? id tag)

/-- The entries that hold a query. -/
def search (s : Store) (query : Text) : Action (List Entry) :=
  return History.search query (← s.entries)

/-- The favorites. -/
def favorites (s : Store) : Action (List Entry) := return History.favorites (← s.entries)

/-- The entries that carry every one of some tags. -/
def withTags (s : Store) (tags : List Text) : Action (List Entry) :=
  return History.withTags tags (← s.entries)

/-- The entries that were saved in the last days before a time. -/
def recent (s : Store) (days now : Number.Quantity) : Action (List Entry) := do
  match daysBefore? now days with
  | some time => return since time (← s.entries)
  | none => throw .hugeNumber

/-- Drop all entries. -/
def clear (s : Store) : Action Unit := s.save []

end Store

end CommandAdvisor.History
