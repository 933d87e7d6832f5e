import CommandAdvisor.Proofs.Settings.Loading

/-!
# Settings that cannot be used

Whether settings can be loaded is a matter of the settings file and of the room to read it in, and
there are six ways in which they cannot: the path of the file is too long, a directory is in its
place, it holds no text, there is no room for its containers, it holds an integer that is too
long, or it holds an object with a member that is refused.

## Main definitions
* `Settings.Unusable`: the settings of a workspace cannot be used, for a cause.

## Main statements
* `Settings.exists_run_load_eq_error_iff`: when loading fails, and for what.
-/
namespace CommandAdvisor.Settings

open CommandAdvisor.Action
open Json (StopsAtInteger Value)
open Storage (Fault)

/-- The settings of a workspace cannot be used, for a cause. -/
inductive Unusable (w : Workspace) : Failure → Prop where
  /-- It cannot be said whether there is a settings file. -/
  | hidden (h : w.files.access w.settingsFile = .error .nameTooLong) :
      Unusable w (.storage ⟨.nameTooLong, w.settingsFile, none⟩)
  | directory {mode : Nat} (h : w.files.access w.settingsFile = .ok (.directory mode)) :
      Unusable w (.storage ⟨.isDirectory, w.settingsFile, none⟩)
  | notText {mode : Nat} {content : ByteArray}
      (hfile : w.files.access w.settingsFile = .ok (.file mode content))
      (htext : String.fromUTF8? content = none) : Unusable w .notText
  | exhausted {mode : Nat} {content : ByteArray} {text : String} {during : Json.Strain}
      (hfile : w.files.access w.settingsFile = .ok (.file mode content))
      (htext : String.fromUTF8? content = some text)
      (hgiven : Json.exhaustion? w.host.room text = some during) : Unusable w (.exhausted during)
  | longInteger {mode : Nat} {content : ByteArray} {text : String} {n : Nat}
      (hfile : w.files.access w.settingsFile = .ok (.file mode content))
      (htext : String.fromUTF8? content = some text)
      (hroom : Json.exhaustion? w.host.room text = none) (hlong : StopsAtInteger text n) :
      Unusable w (.longInteger n)
  /-- What is complained about are the members that are refused. -/
  | invalid {mode : Nat} {content : ByteArray} {text : String} {members : Value.Members}
      {name : Text} {v : Value}
      (hfile : w.files.access w.settingsFile = .ok (.file mode content))
      (htext : String.fromUTF8? content = some text)
      (hroom : Json.exhaustion? w.host.room text = none)
      (hread : Json.read .free text = .ok (.object members))
      (hmember : Value.find? name members = some v) (hrefused : Refuses name v) :
      Unusable w (.invalid (decode (.object members)).issues)

variable {w w' : Workspace}

/-- Whether settings can be used depends on the files, the home directory and the host. -/
theorem Unusable.of_home {cause : Failure} (h : Unusable w cause) (hfiles : w'.files = w.files)
    (hhome : w'.home = w.home) (hhost : w'.host = w.host) : Unusable w' cause := by
  have hfile : w'.settingsFile = w.settingsFile := by
    rw [Workspace.settingsFile, Workspace.settingsFile, Workspace.privateDirectory,
      Workspace.privateDirectory, hhome]
  cases h with
  | hidden h => exact hfile ▸ .hidden (hfiles ▸ hfile ▸ h)
  | directory h => exact hfile ▸ .directory (hfiles ▸ hfile ▸ h)
  | notText hfile' htext => exact .notText (hfiles ▸ hfile ▸ hfile') htext
  | exhausted hfile' htext hgiven =>
    exact .exhausted (hfiles ▸ hfile ▸ hfile') htext (hhost ▸ hgiven)
  | longInteger hfile' htext hroom hlong =>
    exact .longInteger (hfiles ▸ hfile ▸ hfile') htext (hhost ▸ hroom) hlong
  | invalid hfile' htext hroom hread hmember hrefused =>
    exact .invalid (hfiles ▸ hfile ▸ hfile') htext (hhost ▸ hroom) hread hmember hrefused

/-! ## Reading the file -/

/-- A directory is no settings file. -/
theorem run_storedMembers_of_directory {mode : Nat}
    (h : w.files.access w.settingsFile = .ok (.directory mode)) :
    storedMembers.run w = .error (.storage ⟨.isDirectory, w.settingsFile, none⟩) w := by
  have hread : (onDisk (Storage.Disk.read w.settingsFile)).run w =
      .error (.storage ⟨.isDirectory, w.settingsFile, none⟩) w := by
    rw [run_onDisk, Storage.Disk.run_read_of_directory h]
  rw [storedMembers, run_bind_of_ok (EStateM.run_get w), run_bind_of_ok (EStateM.run_get w),
    Storage.FileSystem.isThere_of_access h]
  exact run_bind_of_error hread

/-- What cannot be followed counts as empty, but for a path that is too long. -/
theorem run_storedMembers_of_fault {fault : Fault}
    (h : w.files.access w.settingsFile = .error fault) :
    storedMembers.run w = if fault = .nameTooLong
      then .error (.storage ⟨.nameTooLong, w.settingsFile, none⟩) w else .ok [] w := by
  rw [storedMembers, run_bind_of_ok (EStateM.run_get w), run_bind_of_ok (EStateM.run_get w),
    Storage.FileSystem.isThere, h]
  cases fault <;> rfl

/-- One member that is refused is enough. -/
theorem run_load_of_refused {members : Value.Members} {name : Text} {v : Value}
    (h : storedMembers.run w = .ok members w') (hv : Value.find? name members = some v)
    (hrefused : Refuses name v) :
    load.run w = .error (.invalid (decode (.object members)).issues) w' := by
  rw [load_of_storedMembers h]
  cases hdecode : decode (.object members) with
  | valid s => exact absurd hrefused (exists_decode_eq_valid_iff.1 ⟨s, hdecode⟩ name v hv)
  | invalid issues => rfl

/-- Without members the standard settings are in force. -/
theorem not_run_load_of_nil {cause : Failure} {w₁ : Workspace}
    (h : storedMembers.run w = .ok [] w₁) : load.run w ≠ .error cause w' := by
  rw [load_of_storedMembers_nil h]
  nofun

/-- A text is in the way of loading if there is no room to read it, if it holds an integer that is
too long, or if it is an object with a member that is refused. -/
theorem unusable_of_run_load_of_text {cause : Failure} {mode : Nat} {content : ByteArray}
    {text : String} (hfile : w.files.access w.settingsFile = .ok (.file mode content))
    (htext : String.fromUTF8? content = some text) (h : load.run w = .error cause w') :
    Unusable w cause := by
  cases hroom : Json.exhaustion? w.host.room text with
  | some during =>
    cases (run_load_of_exhaustion? hfile htext hroom).symm.trans h
    exact .exhausted hfile htext hroom
  | none =>
    have hstored := run_storedMembers_of_file hfile
    simp only [htext, hroom] at hstored
    cases hread : Json.read .free text with
    | error fault =>
      rw [hread] at hstored
      cases fault with
      | malformed => exact absurd h (not_run_load_of_nil hstored)
      | oversized n =>
        have hstops := Json.read_eq_oversized_iff.1 hread
        cases (run_load_of_stopsAtInteger hfile htext hroom hstops).symm.trans h
        exact .longInteger hfile htext hroom hstops
    | ok v =>
      rw [hread] at hstored
      cases v with
      | object members =>
        by_cases hmember : ∃ name v, Value.find? name members = some v ∧ Refuses name v
        · obtain ⟨name, v, hv, hrefused⟩ := hmember
          cases (run_load_of_refused hstored hv hrefused).symm.trans h
          exact .invalid hfile htext hroom hread hv hrefused
        · push Not at hmember
          obtain ⟨s, -, hs⟩ := (load_of_members hstored).1 hmember
          cases hs.symm.trans h
      | _ => exact absurd h (not_run_load_of_nil hstored)

/-- Settings that cannot be loaded cannot be used. -/
theorem unusable_of_run_load {cause : Failure} (h : load.run w = .error cause w') :
    Unusable w cause := by
  cases haccess : w.files.access w.settingsFile with
  | error fault =>
    have hstored := run_storedMembers_of_fault haccess
    split at hstored
    next hlong =>
      subst hlong
      cases (run_bind_of_error hstored).symm.trans h
      exact .hidden haccess
    next => exact absurd h (not_run_load_of_nil hstored)
  | ok node =>
    cases node with
    | directory mode =>
      cases (run_bind_of_error (run_storedMembers_of_directory haccess)).symm.trans h
      exact .directory haccess
    | file mode content =>
      cases htext : String.fromUTF8? content with
      | none =>
        cases (run_load_of_notText haccess htext).symm.trans h
        exact .notText haccess htext
      | some text => exact unusable_of_run_load_of_text haccess htext h

/-- Settings that cannot be used are not loaded, for the same cause. -/
theorem Unusable.exists_run_load {cause : Failure} (h : Unusable w cause) :
    ∃ w', load.run w = .error cause w' := by
  cases h with
  | hidden h =>
    have hstored := run_storedMembers_of_fault h
    exact ⟨w, run_bind_of_error hstored⟩
  | directory h => exact ⟨w, run_bind_of_error (run_storedMembers_of_directory h)⟩
  | notText hfile htext => exact ⟨w, run_load_of_notText hfile htext⟩
  | exhausted hfile htext hgiven => exact ⟨w, run_load_of_exhaustion? hfile htext hgiven⟩
  | longInteger hfile htext hroom hlong =>
    exact ⟨w, run_load_of_stopsAtInteger hfile htext hroom hlong⟩
  | invalid hfile htext hroom hread hmember hrefused =>
    have hstored := run_storedMembers_of_file hfile
    simp only [htext, hroom, hread] at hstored
    exact ⟨_, run_load_of_refused hstored hmember hrefused⟩

/-- **When settings cannot be loaded, and for what.** -/
theorem exists_run_load_eq_error_iff {cause : Failure} :
    (∃ w', load.run w = .error cause w') ↔ Unusable w cause :=
  ⟨fun ⟨_, h⟩ => unusable_of_run_load h, Unusable.exists_run_load⟩

end CommandAdvisor.Settings
