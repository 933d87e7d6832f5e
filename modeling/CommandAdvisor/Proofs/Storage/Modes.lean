import CommandAdvisor.Proofs.Storage.Passages
import CommandAdvisor.Proofs.Storage.Writes

/-!
# Who is let in

A save makes its file for the owner alone, and the directory of its file too where that is
missing. The directories on the way to that one are made for everybody. So a directory is open
to others after a save only if it was before, or if it was made on the way to another.

## Main definitions
* `Node.IsPrivate`: what only its owner may use.
* `FileSystem.MakesOpen`: directories have appeared, those that a path passes for everybody.
* `FileSystem.StaysPrivate`: nothing has appeared that is not private, but on the way to a path.

## Main statements
* `Disk.respects_makesOpen_makeDirectories` and `Disk.exists_open_of_makeDirectories`: which of
  the directories that are made are open to everybody.
* `respects_staysPrivate_savePrivately`: what a save leaves behind.
* `access_parent_of_savePrivately`: a save in the private directory closes it.
* `exists_open_of_savePrivately`: a save opens what it passes.
-/
namespace CommandAdvisor.Storage

/-! ## Permission bits -/

/-- What only its owner may use: a directory that is closed to others, or a private file. -/
def Node.IsPrivate : Node → Prop
  | .directory mode => letsOthersIn mode = false
  | .file mode _ => mode = privateMode

/-- What is private lets nobody else in. -/
theorem Node.IsPrivate.letsOthersIn {node : Node} (h : node.IsPrivate) :
    letsOthersIn node.mode = false := by
  cases node with
  | directory mode => exact h
  | file mode content =>
    obtain rfl : mode = privateMode := h
    have hclosed : Storage.letsOthersIn privateMode = false := by decide
    exact hclosed

/-- The bit that is passed on to a directory opens it to nobody. -/
theorem letsOthersIn_inherited (mode bits : Nat) :
    letsOthersIn (mode ||| (bits &&& FileSystem.groupBit)) = letsOthersIn mode := by
  have hbit : FileSystem.groupBit &&& 0o077 = 0 := by decide
  rw [letsOthersIn, letsOthersIn, Nat.and_or_distrib_right, Nat.and_assoc, hbit, Nat.and_zero,
    Nat.or_zero]

namespace FileSystem

variable {fs fs' fs'' : FileSystem} {mode : Nat} {p d : Path} {place : Place}

/-- Directories have appeared on the way to a path: the one that it leads to with given
permission bits and those that it passes with bits for everybody, besides the bit that may be
passed on. -/
structure MakesOpen (mode : Nat) (p : Path) (fs fs' : FileSystem) : Prop
    extends MakesWay p fs fs' where
  mode_of_made : ∀ place m, fs.node? place = none → fs'.node? place = some (.directory m) →
    (∃ bits, m = mode ||| (bits &&& groupBit)) ∨
      p.Passes fs.here place ∧ ∃ bits, m = Disk.passageMode ||| (bits &&& groupBit)

instance (mode : Nat) (p : Path) : IsPreorder FileSystem (MakesOpen mode p) where
  refl fs := ⟨Std.Refl.refl fs, fun place m hnone hmade => by cases hnone.symm.trans hmade⟩
  trans fs₁ fs₂ fs₃ h h' := by
    refine ⟨h.toMakesWay.trans h'.toMakesWay, fun place m hnone hmade => ?_⟩
    rcases h'.node? place with hsame | ⟨hnone', -⟩
    · exact h.mode_of_made place m hnone (hsame.symm.trans hmade)
    · rw [← h.here]
      exact h'.mode_of_made place m hnone' hmade

theorem makesOpen_put (hp : fs.locate p = .ok place) (h : fs.node? place = none) (mode : Nat) :
    MakesOpen mode p fs (fs.put place (.directory (fs.inheritedMode place mode))) := by
  refine ⟨makesWay_put hp h _, fun other m hnone hmade => .inl ?_⟩
  by_cases hother : other = place
  · subst hother
    rw [node?_put_self fs (isNoDirectory_of_node?_eq_none h).ne_nil] at hmade
    cases hmade
    exact ⟨_, rfl⟩
  · rw [node?_put_of_ne fs hother, hnone] at hmade
    cases hmade

/-- Directories that are made for everybody have bits for everybody. -/
theorem MakesOpen.exists_bits (h : MakesOpen Disk.passageMode p fs fs') {m : Nat}
    (hnone : fs.node? place = none) (hmade : fs'.node? place = some (.directory m)) :
    ∃ bits, m = Disk.passageMode ||| (bits &&& groupBit) := by
  rcases h.mode_of_made place m hnone hmade with hbits | ⟨-, hbits⟩
  · exact hbits
  · exact hbits

/-- Whatever appears on the way to where a path comes from is passed by the path. -/
theorem MakesOpen.of_parent (h : MakesOpen Disk.passageMode p.parent fs fs') (hp : p.parts ≠ [])
    (mode : Nat) : MakesOpen mode p fs fs' := by
  refine ⟨h.toMakesWay.of_parent, fun place m hnone hmade => .inr ⟨?_, h.exists_bits hnone hmade⟩⟩
  rcases h.node? place with hsame | ⟨-, -, q, hq, hlocate⟩
  · rw [hsame, hnone] at hmade
    cases hmade
  · refine ⟨q, hq.of_parent, ?_, ?_⟩
    · rintro rfl
      have hlength := hq.2.length_le
      have hpos := List.length_pos_iff.2 hp
      simp only [Path.parent, List.length_dropLast] at hlength
      omega
    · rw [← h.here]
      exact destination_of_locate hlocate

end FileSystem

namespace Disk

open FileSystem

variable {mode depth : Nat} {p : Path} {fs fs' : FileSystem} {place : Place} {u : Unit}

theorem respects_makesOpen_ensureDirectory (mode : Nat) (p : Path) :
    Respects (MakesOpen mode p) (ensureDirectory mode p) := by
  have hmake : Respects (MakesOpen mode p) (makeDirectory mode p) := by
    intro fs
    rcases run_makeDirectory mode p fs with ⟨refusal, hrun⟩ | ⟨place, hp, hnone, hrun⟩
    · rw [hrun]
      exact Std.Refl.refl fs
    · rw [hrun]
      exact makesOpen_put hp hnone mode
  exact hmake.tryCatch fun _ =>
    respects_get.bind fun _ => .ite (respects_throw _) (respects_pure _)

theorem respects_makesOpen_makeUpTo (mode : Nat) (hdepth : depth ≤ p.parts.length) :
    Respects (MakesOpen mode p) (makeUpTo depth mode p) := by
  induction depth generalizing mode p with
  | zero => exact respects_makesOpen_ensureDirectory mode p
  | succ depth ih =>
    have hp : p.parts ≠ [] := List.length_pos_iff.1 (Nat.lt_of_lt_of_le depth.succ_pos hdepth)
    have hparent : depth ≤ p.parent.parts.length := by
      rw [Path.parent, List.length_dropLast]
      exact Nat.le_sub_one_of_lt hdepth
    have hensure := respects_makesOpen_ensureDirectory mode p
    refine hensure.tryCatch fun _ => .ite (Respects.bind ?_ fun _ => hensure) (respects_throw _)
    exact (ih passageMode hparent).mono fun _ _ h => h.of_parent hp mode

/-- **Which of the directories that are made are open to everybody:** those that the path
passes. -/
theorem respects_makesOpen_makeDirectories (mode : Nat) (p : Path) :
    Respects (MakesOpen mode p) (makeDirectories mode p) :=
  respects_makesOpen_makeUpTo mode le_rfl

/-! ## Places that are passed -/

theorem final_ensureDirectory_of_error {refusal : Refusal}
    (h : (ensureDirectory mode p).run fs = .error refusal fs') : fs' = fs := by
  obtain ⟨cause, fs₁, hmake, hhandler⟩ := run_tryCatch_eq_error h
  obtain rfl : fs₁ = fs := by
    rcases run_makeDirectory mode p fs with ⟨_, hrun⟩ | ⟨_, -, -, hrun⟩
    · cases hrun.symm.trans hmake
      rfl
    · cases hrun.symm.trans hmake
  rw [run_bind_of_ok (EStateM.run_get fs₁)] at hhandler
  split at hhandler
  · cases hhandler
    rfl
  · cases hhandler

/-- A directory can be ensured only where its path leads somewhere before. -/
theorem exists_locate_of_ensureDirectory (h : (ensureDirectory mode p).run fs = .ok u fs') :
    ∃ last, fs.locate p = .ok last := by
  rcases run_makeDirectory mode p fs with ⟨refusal, hrun⟩ | ⟨last, hlast, -, -⟩
  · rcases run_tryCatch_eq_ok h with hmade | ⟨cause, fs₁, hfailed, hthere⟩
    · cases hrun.symm.trans hmade
    · cases hrun.symm.trans hfailed
      rw [run_bind_of_ok (EStateM.run_get fs)] at hthere
      split at hthere
      · cases hthere
      · next hdirectory =>
        rw [not_or] at hdirectory
        obtain ⟨m, haccess⟩ := isDirectory_iff.1 (by simpa using hdirectory.2)
        obtain ⟨last, hlast, -⟩ := access_eq_ok_iff.1 haccess
        exact ⟨last, hlast⟩
  · exact ⟨last, hlast⟩

/-- **What is passed is made for everybody** where nothing is, if the directory can be made. -/
theorem exists_open_of_makeDirectories (h : (makeDirectories mode p).run fs = .ok u fs')
    (hpasses : p.Passes fs.here place) (hnone : fs.node? place = none) :
    ∃ bits, fs'.node? place = some (.directory (passageMode ||| (bits &&& groupBit))) := by
  -- Where the path leads somewhere all that it passes is there.
  have hnowhere {m : Nat} {fs₁ : FileSystem}
      (hensure : (ensureDirectory m p).run fs = .ok u fs₁) : False := by
    obtain ⟨last, hlast⟩ := exists_locate_of_ensureDirectory hensure
    obtain ⟨m, hthere⟩ := exists_directory_of_passes hlast hpasses
    cases hnone.symm.trans hthere
  rw [makeDirectories] at h
  cases hlength : p.parts.length with
  | zero =>
    rw [hlength] at h
    exact (hnowhere h).elim
  | succ depth =>
    rw [hlength] at h
    rcases run_tryCatch_eq_ok h with hmade | ⟨refusal, fs₁, hfailed, hagain⟩
    · exact (hnowhere hmade).elim
    · obtain rfl := final_ensureDirectory_of_error hfailed
      split at hagain
      · obtain ⟨_, fs₂, hway, hensure⟩ := exists_of_run_bind_eq_ok hagain
        have hparent : depth ≤ p.parent.parts.length := by
          rw [Path.parent, List.length_dropLast, hlength]
          exact le_rfl
        have hopen := (respects_makesOpen_makeUpTo passageMode hparent).of_run_eq_ok hway
        obtain ⟨last, hlast⟩ := exists_locate_of_ensureDirectory hensure
        rw [← hopen.here] at hpasses
        obtain ⟨m, hthere⟩ := exists_directory_of_passes hlast hpasses
        obtain ⟨bits, rfl⟩ := hopen.exists_bits hnone hthere
        refine ⟨bits, ?_⟩
        rcases ((respects_ensureDirectory mode p).of_run_eq_ok hensure).node? place with
          hsame | ⟨habsent, -⟩
        · exact hsame.trans hthere
        · cases habsent.symm.trans hthere
      · cases hagain

end Disk

namespace FileSystem

variable {fs fs' fs'' : FileSystem} {d : Path} {place : Place}

/-- Directories are still there, nothing has gone, and whatever was not there is private unless
it is a directory that a path passes. -/
structure StaysPrivate (d : Path) (fs fs' : FileSystem) : Prop where
  keeps : KeepsDirectories fs fs'
  stays : ∀ place, fs'.node? place = none → fs.node? place = none
  node? : ∀ place node, fs'.node? place = some node → fs.node? place = some node ∨
    node.IsPrivate ∨ fs.node? place = none ∧ d.Passes fs.here place ∧ ∃ mode, node = .directory mode

theorem StaysPrivate.refl (d : Path) (fs : FileSystem) : StaysPrivate d fs fs :=
  ⟨⟨rfl, fun _ mode h => ⟨mode, h⟩⟩, fun _ h => h, fun _ _ h => .inl h⟩

theorem StaysPrivate.trans (h : StaysPrivate d fs fs') (h' : StaysPrivate d fs' fs'') :
    StaysPrivate d fs fs'' where
  keeps := by
    refine ⟨h'.keeps.here.trans h.keeps.here, fun place mode hnode => ?_⟩
    obtain ⟨mode', hnode'⟩ := h.keeps.directory place mode hnode
    exact h'.keeps.directory place mode' hnode'
  stays place hnone := h.stays place (h'.stays place hnone)
  node? place node hnode := by
    rcases h'.node? place node hnode with hbefore | hprivate | ⟨hnone, hpasses, hdirectory⟩
    · exact h.node? place node hbefore
    · exact .inr (.inl hprivate)
    · rw [h.keeps.here] at hpasses
      exact .inr (.inr ⟨h.stays place hnone, hpasses, hdirectory⟩)

theorem MakesOpen.staysPrivate (h : MakesOpen closedMode d fs fs') : StaysPrivate d fs fs' where
  keeps := h.keepsDirectories
  stays place hnone := by
    rcases h.toMakesWay.node? place with hsame | ⟨hbefore, -⟩
    · exact hsame.symm.trans hnone
    · exact hbefore
  node? place node hnode := by
    rcases h.toMakesWay.node? place with hsame | ⟨hnone, ⟨mode, hmade⟩, -⟩
    · exact .inl (hsame.symm.trans hnode)
    · obtain rfl : node = .directory mode := Option.some.inj (hnode.symm.trans hmade)
      rcases h.mode_of_made place mode hnone hmade with ⟨bits, rfl⟩ | ⟨hpasses, -⟩
      · exact .inr (.inl (letsOthersIn_inherited closedMode bits))
      · exact .inr (.inr ⟨hnone, hpasses, mode, rfl⟩)

/-- Something private may be put where directories stay directories. -/
theorem staysPrivate_put (d : Path) {node : Node} (hkeeps : KeepsDirectories fs (fs.put place node))
    (hnode : node.IsPrivate) : StaysPrivate d fs (fs.put place node) where
  keeps := hkeeps
  stays other hnone := by
    by_cases hother : other = place
    · subst hother
      by_cases hroot : other = []
      · subst hroot
        cases hnone
      · rw [node?_put_self fs hroot] at hnone
        cases hnone
    · rwa [node?_put_of_ne fs hother] at hnone
  node? other found hfound := by
    by_cases hother : other = place
    · subst hother
      by_cases hroot : other = []
      · subst hroot
        exact .inl hfound
      · rw [node?_put_self fs hroot] at hfound
        exact .inr (.inl (Option.some.inj hfound ▸ hnode))
    · rw [node?_put_of_ne fs hother] at hfound
      exact .inl hfound

end FileSystem

/-! ## Saves -/

/-- The same of what is stored in a workspace, whose home directory is the same as before. -/
structure StaysPrivate (d : Path) (w w' : Workspace) : Prop where
  home : w'.home = w.home
  files : FileSystem.StaysPrivate d w.files w'.files

instance (d : Path) : IsPreorder Workspace (StaysPrivate d) where
  refl w := ⟨rfl, .refl d w.files⟩
  trans _ _ _ h h' := ⟨h'.home.trans h.home, h.files.trans h'.files⟩

open FileSystem

theorem respects_staysPrivate_keepDirectory (d : Path) :
    Respects (StaysPrivate d) (keepDirectory d) := by
  intro w
  have hmade := Disk.respects_makesOpen_makeDirectories closedMode d w.files
  obtain ⟨fs, hfs, hkeep⟩ := run_keepDirectory d w
  rw [hfs] at hmade
  have hway := hmade.staysPrivate
  rcases hkeep with ⟨failure, hrun⟩ | ⟨place, mode, -, hnode, ⟨-, hrun⟩ | ⟨-, -, journal, hrun⟩⟩
  · rw [hrun]
    exact ⟨rfl, hway⟩
  · rw [hrun]
    exact ⟨rfl, hway⟩
  · have hclosed : (Node.directory closedMode).IsPrivate :=
      letsOthersIn_inherited closedMode 0
    rw [hrun]
    exact ⟨rfl, hway.trans (staysPrivate_put d (keepsDirectories_put_directory hnode _) hclosed)⟩

/-- **What a save leaves behind** is private, but for directories that the path of the file's
directory passes, whether the save goes through or not. -/
theorem respects_staysPrivate_savePrivately (p : Path) (v : Json.Value) :
    Respects (StaysPrivate p.parent) (savePrivately p v) := by
  refine (respects_staysPrivate_keepDirectory p.parent).bind fun _ =>
    respects_get.bind fun w => fun w₁ => ?_
  rcases run_create_publish privateMode v (draftOf w.stamp p) p
    (v.write .portable .indented).asString.toUTF8 w₁ with
    ⟨failure, hrun⟩ | ⟨target, -, hfree, hrun⟩
  · rw [hrun]
    exact Std.Refl.refl w₁
  · rw [hrun]
    exact ⟨rfl, staysPrivate_put _ (keepsDirectories_put hfree _) rfl⟩

variable {w w' : Workspace} {u : Unit}

/-- The private directory is not the root. -/
theorem ne_nil_of_locate_privateDirectory {fs : FileSystem} {place : Place}
    (h : fs.locate w.privateDirectory = .ok place) : place ≠ [] := by
  rw [← destination_of_locate h, Workspace.privateDirectory, Path.destination_child _ _ (by decide)]
  exact List.append_ne_nil_of_right_ne_nil _ (List.cons_ne_nil _ _)

theorem access_of_keepDirectory (h : (keepDirectory w.privateDirectory).run w = .ok u w') :
    ∃ mode, w'.files.access w.privateDirectory = .ok (.directory mode) ∧
      letsOthersIn mode = false := by
  obtain ⟨fs, -, ⟨failure, hrun⟩ | ⟨place, mode, hplace, hnode, ⟨hshut, hrun⟩ |
    ⟨-, -, journal, hrun⟩⟩⟩ := run_keepDirectory w.privateDirectory w
  · cases hrun.symm.trans h
  · cases hrun.symm.trans h
    exact ⟨mode, access_eq_ok_iff.2 ⟨place, hplace, hnode⟩, hshut rfl⟩
  · cases hrun.symm.trans h
    have hkeeps := keepsDirectories_put_directory hnode closedMode
    have hroot := ne_nil_of_locate_privateDirectory hplace
    exact ⟨closedMode, access_eq_ok_iff.2 ⟨place, hkeeps.locate hplace, node?_put_self fs hroot _⟩,
      letsOthersIn_inherited closedMode 0⟩

theorem exists_open_of_keepDirectory {d : Path} {place : Place}
    (h : (keepDirectory d).run w = .ok u w') (hd : d ≠ w.privateDirectory)
    (hpasses : d.Passes w.files.here place) (hnone : w.files.node? place = none) :
    ∃ mode, w'.files.node? place = some (.directory mode) ∧ letsOthersIn mode = true := by
  obtain ⟨_, w₁, hmade, -⟩ := exists_of_run_bind_eq_ok h
  have hmake := run_onDisk_eq_ok hmade
  obtain ⟨bits, hnode⟩ := Disk.exists_open_of_makeDirectories hmake hpasses hnone
  have hopen : letsOthersIn (Disk.passageMode ||| (bits &&& groupBit)) = true :=
    (letsOthersIn_inherited _ bits).trans (by decide)
  obtain ⟨fs, hfs, ⟨failure, hrun⟩ | ⟨_, _, -, -, ⟨-, hrun⟩ | ⟨hclosed, -⟩⟩⟩ :=
    run_keepDirectory d w
  · cases hrun.symm.trans h
  · cases hrun.symm.trans h
    rw [hmake] at hfs
    obtain rfl : w₁.files = fs := hfs
    exact ⟨_, hnode, hopen⟩
  · exact absurd hclosed hd

/-- A save that goes through kept its directory and has left all directories alone since. -/
theorem exists_keepDirectory_of_savePrivately {p : Path} {v : Json.Value}
    (h : (savePrivately p v).run w = .ok u w') :
    ∃ w₁, (keepDirectory p.parent).run w = .ok () w₁ ∧ KeepsDirectories w₁.files w'.files ∧
      ∀ place mode, w₁.files.node? place = some (.directory mode) →
        w'.files.node? place = some (.directory mode) := by
  obtain ⟨_, w₁, hkept, hrest⟩ := exists_of_run_bind_eq_ok h
  rw [run_bind_of_ok (EStateM.run_get w₁)] at hrest
  rcases run_create_publish privateMode v (draftOf w₁.stamp p) p
    (v.write .portable .indented).asString.toUTF8 w₁ with
    ⟨failure, hfails⟩ | ⟨target, -, hfree, hdone⟩
  · cases hfails.symm.trans hrest
  · cases hdone.symm.trans hrest
    refine ⟨w₁, hkept, keepsDirectories_put hfree _, fun place mode hnode => ?_⟩
    have hother : place ≠ target := by
      rintro rfl
      exact hfree mode hnode
    exact (node?_put_of_ne _ hother _).trans hnode

/-- **A save in the private directory closes it,** if it goes through. -/
theorem access_parent_of_savePrivately {p : Path} {v : Json.Value}
    (h : (savePrivately p v).run w = .ok u w') (hp : p.parent = w.privateDirectory) :
    ∃ mode, w'.files.access w.privateDirectory = .ok (.directory mode) ∧
      letsOthersIn mode = false := by
  obtain ⟨w₁, hkept, hkeeps, hsame⟩ := exists_keepDirectory_of_savePrivately h
  rw [hp] at hkept
  obtain ⟨mode, hthere, hshut⟩ := access_of_keepDirectory hkept
  obtain ⟨place, hplace, hnode⟩ := access_eq_ok_iff.1 hthere
  exact ⟨mode, access_eq_ok_iff.2 ⟨place, hkeeps.locate hplace, hsame place mode hnode⟩, hshut⟩

/-- **A save opens what it passes** where nothing was, unless it is in the private directory. -/
theorem exists_open_of_savePrivately {p : Path} {v : Json.Value} {place : Place}
    (h : (savePrivately p v).run w = .ok u w') (hp : p.parent ≠ w.privateDirectory)
    (hpasses : p.parent.Passes w.files.here place) (hnone : w.files.node? place = none) :
    ∃ mode, w'.files.node? place = some (.directory mode) ∧ letsOthersIn mode = true := by
  obtain ⟨w₁, hkept, -, hsame⟩ := exists_keepDirectory_of_savePrivately h
  obtain ⟨mode, hnode, hopen⟩ := exists_open_of_keepDirectory hkept hp hpasses hnone
  exact ⟨mode, hsame place mode hnode, hopen⟩

end CommandAdvisor.Storage
