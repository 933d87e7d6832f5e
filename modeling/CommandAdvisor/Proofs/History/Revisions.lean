import CommandAdvisor.Proofs.Frames
import CommandAdvisor.Proofs.History.Refinement
import CommandAdvisor.Proofs.Json.Reals

/-!
# What a store shows and what a call writes

What a store shows is a matter of its file alone: the entries in it, or none where there is no
file or its content cannot be read. A call writes a revision of what is shown, or nothing.

## Main definitions
* `Store.shown`: the entries that a store shows.
* `Call.revision?`: the entries that a call writes, if it writes.

## Main statements
* `Store.run_entries`: the entries that are read are those that are shown.
* `Entry.keepsTime`: the time of every entry is read back.
-/
namespace CommandAdvisor.History

open Storage (Disk FileSystem Path)

namespace Store

/-- The entries that a store shows: those in its file, if they can be read. -/
def shown (s : Store) (files : FileSystem) : List Entry :=
  match files.access s.path with
  | .ok (.file _ content) => (readEntries content).toOption.getD []
  | _ => []

variable {s : Store} {w w' : Workspace}

/-- Only a file is read. -/
theorem access_of_run_read {p : Path} {files files' : FileSystem} {content : ByteArray}
    (h : (Disk.read p).run files = .ok content files') :
    ∃ mode, files.access p = .ok (.file mode content) := by
  obtain ⟨place, files₁, hlocate, hrest⟩ := exists_of_run_bind_eq_ok h
  obtain ⟨hplace, rfl⟩ := Disk.run_locate hlocate
  have hat : (Disk.at? place).run files₁ = .ok (files₁.node? place) files₁ := rfl
  rw [run_bind_of_ok hat] at hrest
  cases hnode : files₁.node? place with
  | none =>
    rw [hnode] at hrest
    cases hrest
  | some node =>
    rw [hnode] at hrest
    cases node with
    | directory mode => cases hrest
    | file mode found =>
      cases hrest
      exact ⟨mode, FileSystem.access_eq_ok_iff.2 ⟨place, hplace, hnode⟩⟩

theorem shown_of_run_stored_eq_ok {entries : List Entry}
    (h : (stored s.path).run w = .ok entries w') : s.shown w.files = entries := by
  obtain ⟨content, w₁, hread, hentries⟩ := exists_of_run_bind_eq_ok h
  obtain ⟨mode, haccess⟩ := access_of_run_read (Storage.run_onDisk_eq_ok hread)
  rw [shown, haccess]
  dsimp only
  cases hcontent : readEntries content with
  | ok found =>
    rw [hcontent] at hentries
    cases hentries
    rfl
  | error failure =>
    rw [hcontent] at hentries
    cases hentries

theorem shown_of_run_stored_eq_error {failure : Failure}
    (h : (stored s.path).run w = .error failure w') : s.shown w.files = [] := by
  rw [shown]
  split
  · next mode content haccess =>
    rw [run_stored_of_file haccess] at h
    cases hcontent : readEntries content with
    | ok entries =>
      rw [hcontent] at h
      cases h
    | error failure => rfl
  · rfl

/-- The entries of a store are those that it shows, unless it cannot be said whether there is
a file. -/
theorem run_entries (s : Store) (w : Workspace) :
    (∃ fault failure, w.files.isThere s.path = .error fault ∧ s.entries.run w = .error failure w) ∨
      ∃ there w', w.files.isThere s.path = .ok there ∧
        s.entries.run w = .ok (s.shown w.files) w' := by
  rw [entries, run_bind_of_ok (EStateM.run_get w)]
  cases hthere : w.files.isThere s.path with
  | error fault => exact .inl ⟨fault, _, rfl, rfl⟩
  | ok there =>
    refine .inr ⟨there, ?_⟩
    cases there with
    | false =>
      have hshown : s.shown w.files = [] := by
        rw [shown]
        split
        · next haccess =>
          rw [FileSystem.isThere_of_access haccess] at hthere
          cases hthere
        · rfl
      exact ⟨w, rfl, by rw [hshown]; rfl⟩
    | true =>
      dsimp only
      rw [run_tryCatch]
      cases hstored : (stored s.path).run w with
      | ok found w₁ => exact ⟨w₁, rfl, by rw [shown_of_run_stored_eq_ok hstored]⟩
      | error failure w₁ => exact ⟨_, rfl, by rw [shown_of_run_stored_eq_error hstored]; rfl⟩

/-- Whatever is read, the files stay as they are. -/
theorem respects_sameFiles_entries (s : Store) : Respects SameFiles s.entries :=
  (respects_entries s).mono fun _ _ => SameBesidesNotes.sameFiles

theorem eq_shown_of_run_entries {entries : List Entry}
    (h : s.entries.run w = .ok entries w') : entries = s.shown w.files := by
  rcases run_entries s w with ⟨_, failure, -, hfails⟩ | ⟨_, w'', -, hshown⟩
  · cases hfails.symm.trans h
  · cases hshown.symm.trans h
    rfl

/-- What a store shows is a matter of the files alone. -/
theorem exists_run_entries_of_files {entries : List Entry} {w₁ : Workspace}
    (h : s.entries.run w = .ok entries w') (hfiles : w₁.files = w.files) :
    ∃ w₂, s.entries.run w₁ = .ok entries w₂ := by
  obtain rfl := eq_shown_of_run_entries h
  rcases run_entries s w with ⟨_, failure, -, hfails⟩ | ⟨there, -, hthere, -⟩
  · cases hfails.symm.trans h
  · rcases run_entries s w₁ with ⟨fault, -, hfault, -⟩ | ⟨-, w₂, -, hshown⟩
    · rw [hfiles, hthere] at hfault
      cases hfault
    · exact ⟨w₂, by rw [hshown, hfiles]⟩

end Store

/-- The time of every entry is read back from its digits. -/
theorem Entry.keepsTime (e : Entry) : e.KeepsTime :=
  Json.Dialect.scalar_writeReal .strict .portable e.timestamp (by decide) (.inl rfl)

/-! ## Revisions -/

namespace Call

/-- The entries that a call writes, by those that are shown before it, if it writes at all. -/
def revision? (limit : Int) (entries : List Entry) (c : Call) : Option (List Entry) :=
  match c with
  | .add .. => c.addition?.map (remember limit · entries)
  | .toggleFavorite id => History.toggleFavorite? id entries
  | .addTag id tag => History.addTag? id tag entries
  | .removeTag id tag => History.removeTag? id tag entries
  | .clear => some []

end Call

namespace Store

variable {s : Store} {w w' : Workspace}

/-- The entry of an addition is made, or its time is too large. -/
theorem run_newEntry_of_addition? (w : Workspace) (command : Text) (explanation : Explanation)
    (level : Option Risk.Level) :
    ((Call.add w.clock w.issued command explanation level).addition? = none ∧ ∃ failure w',
      SameFiles w w' ∧ (newEntry command explanation level).run w = .error failure w') ∨
    ∃ new w', (Call.add w.clock w.issued command explanation level).addition? = some new ∧
      SameFiles w w' ∧ (newEntry command explanation level).run w = .ok new w' := by
  cases hnew : (Call.add w.clock w.issued command explanation level).addition? with
  | none =>
    have hclock : w.clock.toBinary64? = none := Option.map_eq_none_iff.1 hnew
    have hid : newId.run w = .ok (Text.hexDigits 16 (w.issued + 1))
        { w with issued := w.issued + 1 } := rfl
    have hnow : timestamp.run { w with issued := w.issued + 1 } =
        .error (.invalid [⟨[.field "timestamp"], .floatType⟩]) { w with issued := w.issued + 1 } := by
      rw [timestamp, run_bind_of_ok (EStateM.run_get _)]
      dsimp only
      rw [hclock]
      rfl
    have hfails : (newEntry command explanation level).run w =
        .error (.invalid [⟨[.field "timestamp"], .floatType⟩]) { w with issued := w.issued + 1 } := by
      rw [newEntry, run_bind_of_ok hid]
      exact run_bind_of_error hnow
    exact .inl ⟨rfl, _, { w with issued := w.issued + 1 }, ⟨rfl, rfl⟩, hfails⟩
  | some new =>
    have hmade : (newEntry command explanation level).run w =
        .ok new { w with issued := w.issued + 1 } := run_newEntry hnew
    exact .inr ⟨new, { w with issued := w.issued + 1 }, rfl, ⟨rfl, rfl⟩, hmade⟩

/-- An addition that goes through has saved a new entry in front of what was there. -/
theorem exists_of_run_add {command : Text} {explanation : Explanation} {level : Option Risk.Level}
    {new : Entry} (h : (s.add command explanation level).run w = .ok new w') :
    (Call.add w.clock w.issued command explanation level).addition? = some new ∧
      ∃ prior w₁ w₂, s.entries.run w = .ok prior w₁ ∧ SameFiles w w₂ ∧
        (s.save (remember s.limit new prior)).run w₂ = .ok () w' := by
  rcases run_newEntry_of_addition? w command explanation level with
    ⟨-, failure, w₁, -, hnew⟩ | ⟨made, w₁, hsome, hsame, hnew⟩
  · rw [add, run_bind_of_error hnew] at h
    cases h
  · rw [add, run_bind_of_ok hnew] at h
    obtain ⟨prior, w₂, hentries, hrest⟩ := exists_of_run_bind_eq_ok h
    obtain ⟨_, w₃, hsave, hpure⟩ := exists_of_run_bind_eq_ok hrest
    cases hpure
    obtain ⟨w₀, hprior⟩ := exists_run_entries_of_files hentries hsame.1.symm
    have hread := (respects_sameFiles_entries s).of_run_eq_ok hentries
    exact ⟨hsome, prior, w₀, w₂, hprior, IsTrans.trans _ _ _ hsame hread, hsave⟩

end Store

/-- Of a positive number of entries the new one is the first. -/
theorem remember_of_pos {limit : Int} (h : 0 < limit) (new : Entry) (entries : List Entry) :
    remember limit new entries =
      (new :: entries.filter fun e => e.command ≠ new.command).take limit.toNat := by
  rw [remember, truncate, if_pos (Int.le_of_lt h)]

/-- **What is shown after an addition is what was saved,** exactly if the texts of the new entry
are sound. -/
theorem Store.exists_run_entries_iff_of_save {s : Store} {prior : List Entry} {new : Entry}
    {w w₁ w₂ w' : Workspace} {u : Unit} (hlimit : 0 < s.limit)
    (hprior : s.entries.run w = .ok prior w₁)
    (hsave : (s.save (remember s.limit new prior)).run w₂ = .ok u w') :
    (∃ w'', s.entries.run w' = .ok (remember s.limit new prior) w'') ↔ new.IsSound := by
  have hsaved := remember_of_pos hlimit new prior
  constructor
  · rintro ⟨w'', hentries⟩
    obtain ⟨n, hn⟩ := Nat.exists_eq_add_of_lt (Int.lt_toNat.2 hlimit)
    rw [hsaved, hn] at hentries
    exact isSound_of_run_entries hentries new List.mem_cons_self
  · intro hnew
    have hsound : ∀ e ∈ remember s.limit new prior, e.IsSound := by
      intro e he
      rw [hsaved] at he
      rcases List.mem_cons.1 (List.mem_of_mem_take he) with rfl | hold
      · exact hnew
      · exact isSound_of_run_entries hprior e (List.mem_of_mem_filter hold)
    exact ⟨w', (holds_of_save hsave hsound fun e _ => e.keepsTime).run_entries⟩

end CommandAdvisor.History
