import CommandAdvisor.History.Entry
import CommandAdvisor.Number.Quantity
import CommandAdvisor.Text.Lowercase

/-!
# Lists of history entries

A history is a list of entries, the newest first. A command stands in it once, saving it
again moves it to the front, and only so many entries are kept. Edits change the first
entry that they fit.

## Main definitions
* `remember`: a history with a new entry.
* `updateFirst?`: an edit of the first entry with a property.
* `toggleFavorite?`, `addTag?` and `removeTag?`: the edits; `none` when nothing changes.
* `search`, `favorites`, `withTags` and `since`: parts of a history.
-/
namespace CommandAdvisor.History

/-- The first `limit` items of a list; a negative limit counts from the end. -/
def truncate {α : Type} (limit : Int) (items : List α) : List α :=
  if 0 ≤ limit then items.take limit.toNat else items.take (items.length - limit.natAbs)

/-- A history with a new entry in front, without older entries of the same command. -/
def remember (limit : Int) (new : Entry) (entries : List Entry) : List Entry :=
  truncate limit (new :: entries.filter fun e => e.command ≠ new.command)

/-- A list with its first item of a kind changed. -/
def updateFirst? {α : Type} (fits : α → Bool) (change : α → α) : List α → Option (List α)
  | [] => none
  | a :: as => if fits a then some (change a :: as) else (updateFirst? fits change as).map (a :: ·)

/-- The entry with an identifier. -/
def get? (id : Text) (entries : List Entry) : Option Entry := entries.find? fun e => e.id == id

/-- A history in which an entry is a favorite exactly if it was none. -/
def toggleFavorite? (id : Text) (entries : List Entry) : Option (List Entry) :=
  updateFirst? (fun e => e.id == id) (fun e => { e with isFavorite := !e.isFavorite }) entries

/-- A history in which an entry has one more tag. -/
def addTag? (id tag : Text) (entries : List Entry) : Option (List Entry) :=
  updateFirst? (fun e => e.id == id && !e.tags.contains tag)
    (fun e => { e with tags := e.tags ++ [tag] }) entries

/-- A history in which an entry lacks a tag. -/
def removeTag? (id tag : Text) (entries : List Entry) : Option (List Entry) :=
  updateFirst? (fun e => e.id == id && e.tags.contains tag)
    (fun e => { e with tags := e.tags.filter fun t => t ≠ tag }) entries

/-- Whether a text in lower case holds the text `needle`, which is in lower case. -/
def holds (needle text : Text) : Bool := Text.mentions (Text.lower text) needle

/-- The entries whose command, explanation or tags hold a query in any case. -/
def search (query : Text) (entries : List Entry) : List Entry :=
  let needle := Text.lower query
  entries.filter fun e =>
    holds needle e.command || holds needle e.overall || e.tags.any (holds needle)

/-- The favorites. -/
def favorites (entries : List Entry) : List Entry := entries.filter Entry.isFavorite

/-- The entries that carry every one of some tags. -/
def withTags (tags : List Text) (entries : List Entry) : List Entry :=
  entries.filter fun e => tags.all e.tags.contains

/-- The entries that were saved after a time. -/
def since (time : Number.Quantity) (entries : List Entry) : List Entry :=
  entries.filter fun e => time.lt (.real e.timestamp)

/-- The time that lies some days before another, unless a number is too large. -/
def daysBefore? (now days : Number.Quantity) : Option Number.Quantity := do
  now.sub? (← days.mul? (.whole 86400))

@[simp] theorem truncate_natCast {α : Type} (n : Nat) (items : List α) :
    truncate n items = items.take n := by
  simp [truncate]

end CommandAdvisor.History
