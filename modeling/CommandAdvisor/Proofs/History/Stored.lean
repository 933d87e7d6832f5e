import CommandAdvisor.History.Store
import CommandAdvisor.Proofs.History.Record
import CommandAdvisor.Proofs.Storage.SavedFile

/-!
# What a store holds

The entries of a store are what its file holds; there are none before there is a file. What
is saved is held afterwards, provided it can be read back. Nothing but a refused access keeps
a store from being read or saved.

## Main definitions
* `Store.Holds`: a store holds some entries.

## Main statements
* `Store.Holds.run_entries`: the entries of a store are what it holds.
* `Store.holds_of_save`: sound entries that were saved are held.
* `Store.isSound_of_run_entries`: whatever is read from a store is sound.
* `Store.saved_entries_return`: saved entries are read as they were, from a file of ASCII.
-/
namespace CommandAdvisor.History

open Json (Value)

/-- What was written for sound entries is read back. -/
theorem Store.readEntries_of_isSound {entries : List Entry} (hs : ∀ e ∈ entries, e.IsSound)
    (ht : ∀ e ∈ entries, e.KeepsTime) :
    readEntries ((encodeEntries entries).write .portable .indented).asString.toUTF8 =
      .ok entries := by
  rw [readEntries, readBytes_encodeEntries hs ht]
  dsimp only
  rw [decodeEntries_encodeEntries]

namespace Store

theorem isSound_of_readEntries {content : ByteArray} {entries : List Entry}
    (h : readEntries content = .ok entries) : ∀ e ∈ entries, e.IsSound := by
  rw [readEntries] at h
  split at h
  · cases h
  · next v hv =>
    split at h
    · next decoded hdecoded =>
      obtain rfl := Except.ok.inj h
      exact isSound_of_decodeEntries (Json.isSound_of_readBytes hv) hdecoded
    · cases h

/-- A store holds some entries: they are in its file, or there are none and no file. -/
inductive Holds (s : Store) (w : Workspace) : List Entry → Prop where
  | absent (h : w.files.isThere s.path = .ok false) : Holds s w []
  | file {mode : Nat} {content : ByteArray} {entries : List Entry}
    (haccess : w.files.access s.path = .ok (.file mode content))
    (hread : readEntries content = .ok entries) : Holds s w entries

variable {s : Store} {w w' : Workspace}

/-- What a store holds is a matter of the files alone. -/
theorem Holds.of_files {entries : List Entry} (h : s.Holds w entries)
    (hfiles : w'.files = w.files) : s.Holds w' entries := by
  cases h with
  | absent hthere => exact .absent (hfiles ▸ hthere)
  | file haccess hread => exact .file (hfiles ▸ haccess) hread

theorem run_stored_of_file {p : Storage.Path} {mode : Nat} {content : ByteArray}
    (h : w.files.access p = .ok (.file mode content)) :
    (stored p).run w = match readEntries content with
      | .ok entries => .ok entries w
      | .error failure => .error failure w := by
  have hread : (Action.onDisk (Storage.Disk.read p)).run w = .ok content w :=
    Storage.run_onDisk_of_ok (Storage.Disk.run_read_of_access h)
  rw [stored, run_bind_of_ok hread]
  cases readEntries content <;> rfl

theorem run_entries_of_file {mode : Nat} {content : ByteArray}
    (h : w.files.access s.path = .ok (.file mode content)) :
    s.entries.run w = match readEntries content with
      | .ok entries => .ok entries w
      | .error failure =>
        .ok [] { w with journal := w.journal ++ [.historyUnreadable s.path failure] } := by
  rw [entries, run_bind_of_ok (EStateM.run_get w), Storage.FileSystem.isThere_of_access h]
  dsimp only
  rw [run_tryCatch, run_stored_of_file h]
  cases readEntries content <;> rfl

/-- The entries of a store are what it holds. -/
theorem Holds.run_entries {entries : List Entry} (h : s.Holds w entries) :
    s.entries.run w = .ok entries w := by
  cases h with
  | absent hthere =>
    rw [Store.entries, run_bind_of_ok (EStateM.run_get w), hthere]
    rfl
  | file haccess hread =>
    rw [run_entries_of_file haccess, hread]

/-- The file of a store after entries were saved. -/
theorem access_of_save {entries : List Entry} {u : Unit} (h : (s.save entries).run w = .ok u w') :
    w'.files.access s.path = .ok (.file Storage.privateMode
      ((encodeEntries entries).write .portable .indented).asString.toUTF8) := by
  obtain ⟨_, w₁, hsave, hnote⟩ := exists_of_run_bind_eq_ok h
  have hfiles : w'.files = w₁.files := by
    cases hnote
    rfl
  rw [hfiles]
  exact Storage.access_of_savePrivately hsave

/-- Sound entries that were saved are held. -/
theorem holds_of_save {entries : List Entry} {u : Unit} (h : (s.save entries).run w = .ok u w')
    (hs : ∀ e ∈ entries, e.IsSound) (ht : ∀ e ∈ entries, e.KeepsTime) : s.Holds w' entries :=
  .file (access_of_save h) (readEntries_of_isSound hs ht)

theorem failsByRefusal_save (entries : List Entry) : (s.save entries).FailsByRefusal :=
  (Storage.failsByRefusal_savePrivately _ (isOversized_encodeEntries entries)).bind fun _ =>
    Action.failsByRefusal_note _

/-- Entries cannot be read only where it cannot be said whether there is a file. -/
theorem failsByRefusal_entries (s : Store) : s.entries.FailsByRefusal := by
  refine Action.failsByRefusal_get.bind ?_
  intro w
  split
  · intro w₁ failure w₂ h
    cases h
    exact ⟨_, rfl⟩
  · exact Action.failsByRefusal_pure _
  · intro w₁ failure w₂ h
    obtain ⟨cause, w₃, -, hhandler⟩ := run_tryCatch_eq_error h
    cases hhandler

/-- What an edit leaves is held afterwards, if it is sound. -/
theorem holds_of_edit {change : List Entry → Option (List Entry)} {entries : List Entry}
    {result : Option (List Entry)} (h : s.Holds w entries)
    (hrun : (s.edit change).run w = .ok result w')
    (hs : ∀ e ∈ (change entries).getD entries, e.IsSound)
    (ht : ∀ e ∈ (change entries).getD entries, e.KeepsTime) :
    s.Holds w' ((change entries).getD entries) := by
  rw [edit, run_bind_of_ok h.run_entries] at hrun
  cases hchange : change entries with
  | none =>
    rw [hchange] at hrun
    cases hrun
    exact h
  | some changed =>
    rw [hchange] at hrun hs ht
    obtain ⟨_, w₁, hsave, hpure⟩ := exists_of_run_bind_eq_ok hrun
    have hw : w' = w₁ := by
      cases hpure
      rfl
    rw [hw]
    exact holds_of_save hsave hs ht

theorem failsByRefusal_edit (change : List Entry → Option (List Entry)) :
    (s.edit change).FailsByRefusal := by
  refine (failsByRefusal_entries s).bind ?_
  intro entries
  split
  · exact (failsByRefusal_save _).bind fun _ => Action.failsByRefusal_pure _
  · exact Action.failsByRefusal_pure _

/-- **Whatever is read from a store is sound.** -/
theorem isSound_of_run_entries {entries : List Entry} (h : s.entries.run w = .ok entries w') :
    ∀ e ∈ entries, e.IsSound := by
  rw [Store.entries, run_bind_of_ok (EStateM.run_get w)] at h
  split at h
  · cases h
  · cases h
    simp
  · rcases run_tryCatch_eq_ok h with hstored | ⟨failure, w₁, -, hhandler⟩
    · obtain ⟨content, w₁, -, hread⟩ := exists_of_run_bind_eq_ok hstored
      cases hcontent : readEntries content with
      | error failure =>
        rw [hcontent] at hread
        cases hread
      | ok decoded =>
        rw [hcontent] at hread
        cases hread
        exact isSound_of_readEntries hcontent
    · -- What could not be read counts as nothing.
      obtain ⟨_, w₂, -, hpure⟩ := exists_of_run_bind_eq_ok hhandler
      cases hpure
      simp

/-! ## What saved entries leave behind -/

/-- A store in the root directory that keeps two entries. -/
def inRoot : Store := ⟨.ofText "/history", 2⟩

/-- A workspace in which nothing is stored. -/
def bareWorkspace : Workspace :=
  ⟨⟨[], []⟩, "/", [], .whole 0, 0, "s", ⟨[], 0, 0⟩, [], [], [], .usual⟩

/-- What is written for entries. -/
def written (entries : List Entry) : ByteArray :=
  ((encodeEntries entries).write .portable .indented).asString.toUTF8

/-- A file system whose root directory holds the file of a history. -/
def rootFiles (content : ByteArray) : Storage.FileSystem :=
  ⟨[], [([Text.ofString "history"], .file Storage.privateMode content)]⟩

theorem access_rootFiles (content : ByteArray) :
    (rootFiles content).access inRoot.path = .ok (.file Storage.privateMode content) := by
  rfl

/-- A workspace with the file of a history. -/
def stocked (content : ByteArray) (journal : List Event) : Workspace :=
  { bareWorkspace with files := rootFiles content, journal }

theorem holds_stocked {entries : List Entry} (hs : ∀ e ∈ entries, e.IsSound)
    (ht : ∀ e ∈ entries, e.KeepsTime) (journal : List Event) :
    inRoot.Holds (stocked (written entries) journal) entries :=
  .file (access_rootFiles _) (readEntries_of_isSound hs ht)

/-- **Saved entries return as they were,** each in its place, from a store with the same file,
and nothing is noted when they are read. All bytes of the file are ASCII. -/
theorem saved_entries_return {s : Store} {entries : List Entry} {w w' : Workspace} {u : Unit}
    (hs : ∀ e ∈ entries, e.IsSound) (ht : ∀ e ∈ entries, e.KeepsTime)
    (hsave : (s.save entries).run w = .ok u w') :
    (∀ limit, (Store.mk s.path limit).entries.run w' = .ok entries w') ∧
    ∃ content, w'.files.access s.path = .ok (.file Storage.privateMode content) ∧
      ∀ b ∈ content.data, b < 0x80 := by
  have haccess := access_of_save hsave
  refine ⟨fun limit => ?_, _, haccess, ?_⟩
  · have hholds : (Store.mk s.path limit).Holds w' entries :=
      .file haccess (readEntries_of_isSound hs ht)
    exact hholds.run_entries
  · exact Text.lt_of_mem_toUTF8 (Value.isAscii_write .indented (isSound_encodeEntries.2 hs))

/-- An entry with quotes, control characters and characters of every width in its texts. -/
def manifold : Entry where
  id := "\"\\"
  command := "echo '\x00\n\x7f'"
  parts := [⟨"é", "\u2028", "\x1f", none⟩, ⟨"", "𝄞", "/", some "ﬀ"⟩]
  overall := ""
  safetyNotes := "😀"
  examples := [⟨"\t", "\u0085"⟩]
  level := some .medium
  timestamp := .ofInt 1700000000
  isFavorite := true
  tags := ["ẞ", ""]

theorem saved_entries_return_manifold : ∃ w',
    (inRoot.save [manifold]).run bareWorkspace = .ok () w' ∧
      inRoot.entries.run w' = .ok [manifold] w' := by
  have hs : ∀ e ∈ [manifold], e.IsSound := by decide +kernel
  have ht : ∀ e ∈ [manifold], e.KeepsTime := by
    rw [List.forall_mem_singleton, Entry.KeepsTime]
    decide +kernel
  have hdone : (match (inRoot.save [manifold]).run bareWorkspace with
      | .ok _ _ => true
      | .error _ _ => false) = true := by decide +kernel
  cases hsave : (inRoot.save [manifold]).run bareWorkspace with
  | error failure w' =>
    rw [hsave] at hdone
    cases hdone
  | ok u w' => exact ⟨w', rfl, (saved_entries_return hs ht hsave).1 inRoot.limit⟩

end Store

end CommandAdvisor.History
