import CommandAdvisor.Proofs.Actions
import CommandAdvisor.Proofs.Storage.Directories
import CommandAdvisor.Storage.PrivateFile

/-!
# Saved files

A private file that has been saved is at the end of its path, with the content that was
written for its value. A save that goes wrong was refused an access to what is stored; it
fails in no other way unless an integer of the value is too long.

## Main statements
* `access_of_savePrivately`: what is at the path of a saved file.
* `failsByRefusal_savePrivately`: a save fails only where an access is refused.
* `isOversized_of_savePrivately`: a value that was saved was written to the end.
-/
namespace CommandAdvisor

namespace Storage

open FileSystem

namespace Disk

theorem run_locate {p : Path} {fs fs' : FileSystem} {place : Place}
    (h : (locate p).run fs = .ok place fs') : fs.locate p = .ok place ∧ fs' = fs := by
  rw [locate] at h
  rw [run_bind_of_ok (EStateM.run_get fs)] at h
  cases hplace : fs.locate p with
  | error fault =>
    rw [hplace] at h
    cases h
  | ok found =>
    rw [hplace] at h
    cases h
    exact ⟨rfl, rfl⟩

theorem run_locate_of_ok {p : Path} {fs : FileSystem} {place : Place}
    (h : fs.locate p = .ok place) : (locate p).run fs = .ok place fs := by
  rw [locate]
  rw [run_bind_of_ok (EStateM.run_get fs), h]
  rfl

/-- A file is read without a change. -/
theorem run_read_of_access {p : Path} {fs : FileSystem} {mode : Nat} {content : ByteArray}
    (h : fs.access p = .ok (.file mode content)) : (read p).run fs = .ok content fs := by
  obtain ⟨place, hplace, hnode⟩ := access_eq_ok_iff.1 h
  have hat : (at? place).run fs = .ok (some (.file mode content)) fs := by
    have hrun : (at? place).run fs = .ok (fs.node? place) fs := rfl
    rw [hrun, hnode]
  rw [read]
  rw [run_bind_of_ok (run_locate_of_ok hplace), run_bind_of_ok hat]
  rfl

/-- A directory cannot be read as a file. -/
theorem run_read_of_directory {p : Path} {fs : FileSystem} {mode : Nat}
    (h : fs.access p = .ok (.directory mode)) :
    (read p).run fs = .error ⟨.isDirectory, p, none⟩ fs := by
  obtain ⟨place, hplace, hnode⟩ := access_eq_ok_iff.1 h
  have hat : (at? place).run fs = .ok (some (.directory mode)) fs := by
    have hrun : (at? place).run fs = .ok (fs.node? place) fs := rfl
    rw [hrun, hnode]
  rw [read, run_bind_of_ok (run_locate_of_ok hplace), run_bind_of_ok hat]
  rfl

/-- A file that is made is at the end of its path. -/
theorem access_of_create {mode : Nat} {p : Path} {content : ByteArray} {fs fs' : FileSystem}
    {u : Unit} (h : (create mode p content).run fs = .ok u fs') :
    fs'.access p = .ok (.file mode content) := by
  obtain ⟨place, fs₁, hlocate, hmake⟩ := exists_of_run_bind_eq_ok h
  obtain ⟨hplace, rfl⟩ := run_locate hlocate
  have hmake : (if (fs₁.node? place).isSome then refuse .exists p
      else modify (·.put place (.file mode content)) : Disk Unit).run fs₁ = .ok u fs' := hmake
  split at hmake
  · cases hmake
  · next hfree =>
    cases hmake
    have hnone : fs₁.node? place = none := by simpa using hfree
    exact access_put hplace (fun mode => by simp [hnone]) _

/-- A file that is moved is at the end of the other path. -/
theorem access_of_replace {p target : Path} {fs fs' : FileSystem} {u : Unit} {mode : Nat}
    {content : ByteArray} (h : (replace p target).run fs = .ok u fs')
    (hp : fs.access p = .ok (.file mode content)) :
    fs'.access target = .ok (.file mode content) := by
  obtain ⟨source, fs₁, hlocate, hmove⟩ := exists_of_run_bind_eq_ok h
  obtain ⟨hsource, rfl⟩ := run_locate hlocate
  have hnode : fs₁.node? source = some (.file mode content) := by
    obtain ⟨found, hfound, hnode⟩ := access_eq_ok_iff.1 hp
    rwa [Except.ok.inj (hfound.symm.trans hsource)] at hnode
  have hsourceFile : fs₁.IsNoDirectory source := fun m => by simp [hnode]
  have hat (place : Place) : (at? place).run fs₁ = .ok (fs₁.node? place) fs₁ := rfl
  rw [run_bind_of_ok (EStateM.run_get fs₁)] at hmove
  split at hmove
  · cases hmove
  · next place hplace =>
    split at hmove
    · cases hmove
    · rw [run_bind_of_ok (hat place), run_bind_of_ok (hat source), hnode] at hmove
      split at hmove
      · cases hmove
      · next hfile hnoDirectory =>
        have hplaceFile : fs₁.IsNoDirectory place := hnoDirectory
        cases hfile
        cases hmove
        exact access_put ((keepsDirectories_remove hsourceFile).locate hplace)
          (hplaceFile.remove source) _
      · next hnone _ => cases hnone

end Disk

theorem run_onDisk_eq_ok {α : Type} {d : Disk α} {w w' : Workspace} {a : α}
    (h : (Action.onDisk d).run w = .ok a w') : d.run w.files = .ok a w'.files := by
  rw [Action.run_onDisk] at h
  split at h
  · next a files hd =>
    cases h
    exact hd
  · cases h

theorem run_onDisk_of_ok {α : Type} {d : Disk α} {w : Workspace} {a : α} {files : FileSystem}
    (h : d.run w.files = .ok a files) : (Action.onDisk d).run w = .ok a { w with files } := by
  rw [Action.run_onDisk, h]

section Publish

variable {v : Json.Value}

theorem publish_of_isOversized (h : v.isOversized = true) (draft p : Path) :
    publish v draft p = throw .oversized := if_pos h

theorem publish_of_not_isOversized (h : v.isOversized = false) (draft p : Path) :
    publish v draft p = Action.onDisk (Disk.replace draft p) := if_neg (by simp [h])

/-- A draft is put in its place only if its value was written to the end. -/
theorem run_publish_eq_ok {draft p : Path} {w w' : Workspace} {u : Unit}
    (h : (publish v draft p).run w = .ok u w') :
    v.isOversized = false ∧ (Action.onDisk (Disk.replace draft p)).run w = .ok u w' := by
  cases hsize : v.isOversized with
  | true =>
    rw [publish_of_isOversized hsize] at h
    cases h
  | false =>
    rw [publish_of_not_isOversized hsize] at h
    exact ⟨rfl, h⟩

end Publish

/-- A save that goes through made a draft and put it in its place. -/
theorem exists_of_savePrivately {p : Path} {v : Json.Value} {w w' : Workspace} {u : Unit}
    (h : (savePrivately p v).run w = .ok u w') : v.isOversized = false ∧ ∃ draft w₁ w₂,
      (Action.onDisk (Disk.create privateMode draft
        (v.write .portable .indented).asString.toUTF8)).run w₁ = .ok () w₂ ∧
      (Action.onDisk (Disk.replace draft p)).run w₂ = .ok u w' := by
  obtain ⟨_, w₁, -, hdraft⟩ := exists_of_run_bind_eq_ok h
  rw [run_bind_of_ok (EStateM.run_get w₁)] at hdraft
  obtain ⟨_, w₂, hcreate, hreplace⟩ := exists_of_run_bind_eq_ok hdraft
  rcases run_tryCatch_eq_ok hreplace with hmoved | ⟨failure, w₃, -, hdiscard⟩
  · obtain ⟨hsize, hmoved⟩ := run_publish_eq_ok hmoved
    exact ⟨hsize, _, w₁, w₂, hcreate, hmoved⟩
  · -- The handler gives up the draft and fails.
    obtain ⟨_, w₄, -, hthrow⟩ := exists_of_run_bind_eq_ok hdiscard
    cases hthrow

/-- A value that was saved was written to the end. -/
theorem isOversized_of_savePrivately {p : Path} {v : Json.Value} {w w' : Workspace} {u : Unit}
    (h : (savePrivately p v).run w = .ok u w') : v.isOversized = false :=
  (exists_of_savePrivately h).1

/-- **What is at the path of a saved file:** the content that was written for its value. -/
theorem access_of_savePrivately {p : Path} {v : Json.Value} {w w' : Workspace} {u : Unit}
    (h : (savePrivately p v).run w = .ok u w') : w'.files.access p =
      .ok (.file privateMode (v.write .portable .indented).asString.toUTF8) := by
  obtain ⟨-, draft, w₁, w₂, hcreate, hmoved⟩ := exists_of_savePrivately h
  have hmade := Disk.access_of_create (run_onDisk_eq_ok hcreate)
  exact Disk.access_of_replace (run_onDisk_eq_ok hmoved) hmade

theorem failsByRefusal_keepDirectory (p : Path) : (keepDirectory p).FailsByRefusal := by
  refine (Action.failsByRefusal_onDisk _).bind fun _ => Action.failsByRefusal_get.bind ?_
  intro w
  refine .ite ((Action.failsByRefusal_onDisk _).bind ?_) (Action.failsByRefusal_pure _)
  intro mode
  exact .ite ((Action.failsByRefusal_onDisk _).bind fun _ => Action.failsByRefusal_note _)
    (Action.failsByRefusal_pure _)

/-- **A save fails only where an access is refused,** unless an integer is too long. -/
theorem failsByRefusal_savePrivately (p : Path) {v : Json.Value} (hsize : v.isOversized = false) :
    (savePrivately p v).FailsByRefusal := by
  refine (failsByRefusal_keepDirectory _).bind fun _ => Action.failsByRefusal_get.bind fun w =>
    (Action.failsByRefusal_onDisk _).bind fun _ => ?_
  intro w failure w' h
  obtain ⟨cause, w₁, hreplace, hhandler⟩ := run_tryCatch_eq_error h
  rcases run_bind_eq_error hhandler with hdiscard | ⟨_, w₂, -, hthrow⟩
  · exact Action.failsByRefusal_onDisk _ w₁ failure w' hdiscard
  · cases hthrow
    rw [publish_of_not_isOversized hsize] at hreplace
    exact Action.failsByRefusal_onDisk _ w failure w₁ hreplace

end Storage

end CommandAdvisor
