import CommandAdvisor.Proofs.Storage.Ways

/-!
# What a save leaves behind

A save prepares the directory of a file, writes a draft there and puts the draft in the place
of the file. Whatever goes wrong on the way, nothing but the preparation is left: no file has
changed and none has appeared. A save that goes through has changed the one file.

## Main definitions
* `FileSystem.Preparation`: what a preparation may do at a place.
* `FileSystem.Prepares`: nothing else was done anywhere.

## Main statements
* `run_keepDirectory` and `run_create_publish`: the outcomes of the two parts of a save.
* `prepares_keepDirectory`: to keep a directory is a preparation.
* `prepares_of_savePrivately_eq_error`: all that a save that fails has done.
* `exists_of_savePrivately_eq_ok`: all that a save that goes through has done.
-/
namespace CommandAdvisor.Storage

namespace FileSystem

/-- What a preparation of the directory `p` may do at a place: nothing, make a directory on the
way, or close the directory that is to be closed to others. -/
inductive Preparation (closed p : Path) (fs fs' : FileSystem) (place : Place) : Prop where
  | unchanged (h : fs'.node? place = fs.node? place)
  | made {mode : Nat} {q : Path} (habsent : fs.node? place = none)
    (hmade : fs'.node? place = some (.directory mode)) (hq : q.IsOnTheWay p)
    (hplace : fs'.locate q = .ok place)
  | tightened {mode : Nat} (hclosed : p = closed) (hplace : fs'.locate p = .ok place)
    (hopen : letsOthersIn mode = true) (hbefore : fs.node? place = some (.directory mode))
    (hafter : fs'.node? place = some (.directory closedMode))

/-- Nothing was done anywhere but to prepare the directory `p`. -/
structure Prepares (closed p : Path) (fs fs' : FileSystem) : Prop where
  here : fs'.here = fs.here
  at_place : ∀ place, Preparation closed p fs fs' place

variable {closed p : Path} {fs fs' : FileSystem} {place : Place}

theorem Preparation.node?_eq_file_iff (h : Preparation closed p fs fs' place) {mode : Nat}
    {content : ByteArray} :
    fs'.node? place = some (.file mode content) ↔ fs.node? place = some (.file mode content) := by
  cases h with
  | unchanged h => rw [h]
  | made habsent hmade => simp [habsent, hmade]
  | tightened _ _ _ hbefore hafter => simp [hbefore, hafter]

/-- What was prepared is so after a change elsewhere that leaves the directories. -/
theorem Preparation.of_keepsDirectories (h : Preparation closed p fs fs' place)
    {fs'' : FileSystem} (hkeeps : KeepsDirectories fs' fs'')
    (hsame : fs''.node? place = fs'.node? place) : Preparation closed p fs fs'' place := by
  cases h with
  | unchanged h => exact .unchanged (hsame.trans h)
  | made habsent hmade hq hplace =>
    exact .made habsent (hsame.trans hmade) hq (hkeeps.locate hplace)
  | tightened hclosed hplace hopen hbefore hafter =>
    exact .tightened hclosed (hkeeps.locate hplace) hopen hbefore (hsame.trans hafter)

theorem Prepares.refl (closed p : Path) (fs : FileSystem) : Prepares closed p fs fs :=
  ⟨rfl, fun _ => .unchanged rfl⟩

theorem MakesWay.prepares (h : MakesWay p fs fs') : Prepares closed p fs fs' where
  here := h.here
  at_place place := by
    rcases h.node? place with hsame | ⟨hnone, ⟨mode, hmade⟩, q, hq, hlocate⟩
    · exact .unchanged hsame
    · exact .made hnone hmade hq hlocate

/-- A directory that gets other permission bits is still one. -/
theorem keepsDirectories_put_directory {mode : Nat} (h : fs.node? place = some (.directory mode))
    (mode' : Nat) : KeepsDirectories fs (fs.put place (.directory mode')) where
  here := rfl
  directory other m hd := by
    by_cases hother : other = place
    · subst hother
      by_cases hroot : other = []
      · subst hroot
        exact ⟨_, rfl⟩
      · exact ⟨mode', node?_put_self fs hroot _⟩
    · exact ⟨m, (node?_put_of_ne fs hother _).trans hd⟩

/-- After directories were made, the one that is to be closed may be closed. -/
theorem MakesWay.prepares_put (h : MakesWay p fs fs') (hclosed : p = closed) {mode : Nat}
    (hplace : fs'.locate p = .ok place) (hnode : fs'.node? place = some (.directory mode))
    (hopen : letsOthersIn mode = true) :
    Prepares closed p fs (fs'.put place (.directory closedMode)) where
  here := h.here
  at_place other := by
    have hkeeps := keepsDirectories_put_directory hnode closedMode
    by_cases hsame : (fs'.put place (.directory closedMode)).node? other = fs'.node? other
    · rcases h.node? other with hbefore | ⟨hnone, ⟨mode', hmade⟩, q, hq, hlocate⟩
      · exact .unchanged (hsame.trans hbefore)
      · exact .made hnone (hsame.trans hmade) hq (hkeeps.locate hlocate)
    · obtain rfl : other = place := Classical.byContradiction fun hne =>
        hsame (node?_put_of_ne fs' hne _)
      have hroot : other ≠ [] := by
        rintro rfl
        exact hsame rfl
      have hafter := node?_put_self fs' hroot (.directory closedMode)
      rcases h.node? other with hbefore | ⟨hnone, -, q, hq, hlocate⟩
      · exact .tightened hclosed (hkeeps.locate hplace) hopen (hbefore ▸ hnode) hafter
      · exact .made hnone hafter hq (hkeeps.locate hlocate)

/-- What is put where nothing was can be taken away again. -/
theorem remove_put_self (h : fs.node? place = none) (node : Node) :
    (fs.put place node).remove place = fs := by
  have hroot : place ≠ [] := (isNoDirectory_of_node?_eq_none h).ne_nil
  have hlookup : fs.nodes.lookup place = none := by
    simpa [FileSystem.node?, hroot] using h
  have hfilter : fs.nodes.filter (fun e => e.1 != place) = fs.nodes := by
    rw [List.filter_eq_self]
    intro e he
    have hne : (place != e.1) = true := List.lookup_eq_none_iff.1 hlookup e he
    exact bne_iff_ne.2 (Ne.symm (bne_iff_ne.1 hne))
  have hnodes : ((place, node) :: fs.nodes.filter fun e => e.1 != place).filter
      (fun e => e.1 != place) = fs.nodes := by
    rw [hfilter, List.filter_cons_of_neg (by simp), hfilter]
  exact congrArg (FileSystem.mk fs.here) hnodes

end FileSystem

namespace Disk

open FileSystem

variable {p target : Path} {fs : FileSystem}

theorem run_modeOf_of_access {node : Node} (h : fs.access p = .ok node) :
    (modeOf p).run fs = .ok node.mode fs := by
  obtain ⟨place, hplace, hnode⟩ := access_eq_ok_iff.1 h
  have hat : (at? place).run fs = .ok (some node) fs := congrArg (EStateM.Result.ok · fs) hnode
  rw [modeOf, run_bind_of_ok (run_locate_of_ok hplace), run_bind_of_ok hat]
  rfl

theorem run_setMode_of_directory {place : Place} {before : Nat} (hplace : fs.locate p = .ok place)
    (hnode : fs.node? place = some (.directory before)) (mode : Nat) :
    (setMode mode p).run fs = .ok () (fs.put place (.directory mode)) := by
  have hat : (at? place).run fs = .ok (some (.directory before)) fs :=
    congrArg (EStateM.Result.ok · fs) hnode
  rw [setMode, run_bind_of_ok (run_locate_of_ok hplace), run_bind_of_ok hat]
  rfl

/-- To make a file has one of two outcomes. -/
theorem run_create (mode : Nat) (p : Path) (content : ByteArray) (fs : FileSystem) :
    (∃ refusal, (create mode p content).run fs = .error refusal fs) ∨
      ∃ place, fs.locate p = .ok place ∧ fs.node? place = none ∧
        (create mode p content).run fs = .ok () (fs.put place (.file mode content)) := by
  cases hlocate : (locate p).run fs with
  | error refusal fs₁ =>
    obtain rfl := (respects_locate p).of_run_eq_error hlocate
    exact .inl ⟨refusal, run_bind_of_error hlocate⟩
  | ok place fs₁ =>
    obtain ⟨hplace, rfl⟩ := run_locate hlocate
    have hat : (at? place).run fs₁ = .ok (fs₁.node? place) fs₁ := rfl
    rw [create, run_bind_of_ok hlocate, run_bind_of_ok hat]
    split
    · exact .inl ⟨_, rfl⟩
    · next hfree => exact .inr ⟨place, hplace, by simpa using hfree, rfl⟩

/-- To move a file has one of two outcomes. -/
theorem run_replace (target : Path) {source : Place} {node : Node} (hsource : fs.locate p = .ok source)
    (hnode : fs.node? source = some node) :
    (∃ refusal, (replace p target).run fs = .error refusal fs) ∨
      ∃ place, fs.locate target = .ok place ∧ fs.IsNoDirectory place ∧
        (replace p target).run fs = .ok () ((fs.remove source).put place node) := by
  have hat (place : Place) : (at? place).run fs = .ok (fs.node? place) fs := rfl
  rw [replace, run_bind_of_ok (run_locate_of_ok hsource), run_bind_of_ok (EStateM.run_get fs)]
  split
  · exact .inl ⟨_, rfl⟩
  · next place hplace =>
    split
    · exact .inl ⟨_, rfl⟩
    · rw [run_bind_of_ok (hat place), run_bind_of_ok (hat source), hnode]
      cases hthere : fs.node? place with
      | none => exact .inr ⟨place, hplace, isNoDirectory_of_node?_eq_none hthere, rfl⟩
      | some found =>
        cases found with
        | directory mode => exact .inl ⟨_, rfl⟩
        | file mode content => exact .inr ⟨place, hplace, by simp [IsNoDirectory, hthere], rfl⟩

theorem run_discard {place : Place} (h : fs.locate p = .ok place) :
    (discard p).run fs = .ok () (fs.remove place) := by
  rw [discard, run_bind_of_ok (run_locate_of_ok h)]
  rfl

end Disk

open FileSystem

/-- **To keep a directory has one of three outcomes.** Directories on the way may be all that is
made; the directory may be there; or it may be the private one and be closed. -/
theorem run_keepDirectory (p : Path) (w : Workspace) :
    ∃ fs, final ((Disk.makeDirectories closedMode p).run w.files) = fs ∧
      ((∃ failure, (keepDirectory p).run w = .error failure { w with files := fs }) ∨
      ∃ place mode, fs.locate p = .ok place ∧ fs.node? place = some (.directory mode) ∧
        ((p = w.privateDirectory → letsOthersIn mode = false) ∧
            (keepDirectory p).run w = .ok () { w with files := fs } ∨
          p = w.privateDirectory ∧ letsOthersIn mode = true ∧
            ∃ journal, (keepDirectory p).run w = .ok ()
              { w with files := fs.put place (.directory closedMode), journal })) := by
  rw [keepDirectory]
  cases hmake : (Disk.makeDirectories closedMode p).run w.files with
  | error refusal fs =>
    have hrun : (Action.onDisk (Disk.makeDirectories closedMode p)).run w =
        .error (.storage refusal) { w with files := fs } := by
      rw [Action.run_onDisk, hmake]
    exact ⟨fs, rfl, .inl ⟨_, run_bind_of_error hrun⟩⟩
  | ok u fs =>
    obtain ⟨mode, hthere⟩ := Disk.access_of_makeDirectories hmake
    obtain ⟨place, hplace, hnode⟩ := access_eq_ok_iff.1 hthere
    refine ⟨fs, rfl, .inr ⟨place, mode, hplace, hnode, ?_⟩⟩
    rw [run_bind_of_ok (run_onDisk_of_ok hmake), run_bind_of_ok (EStateM.run_get _)]
    split
    · next hclosed =>
      rw [run_bind_of_ok (run_onDisk_of_ok (Disk.run_modeOf_of_access hthere))]
      split
      · next hopen =>
        have hset := Disk.run_setMode_of_directory hplace hnode closedMode
        rw [run_bind_of_ok (run_onDisk_of_ok hset)]
        exact .inr ⟨hclosed, hopen, _, rfl⟩
      · next hshut => exact .inl ⟨fun _ => by simpa [Node.mode] using hshut, rfl⟩
    · next hother => exact .inl ⟨fun hclosed => absurd hclosed hother, rfl⟩

/-- **To keep a directory is a preparation,** whether it can be kept or not. -/
theorem prepares_keepDirectory (p : Path) (w : Workspace) :
    Prepares w.privateDirectory p w.files (final ((keepDirectory p).run w)).files := by
  have hway := Disk.respects_makeDirectories closedMode p w.files
  obtain ⟨fs, hfs, hkeep⟩ := run_keepDirectory p w
  rw [hfs] at hway
  rcases hkeep with ⟨failure, hrun⟩ | ⟨place, mode, hplace, hnode, ⟨-, hrun⟩ |
    ⟨hclosed, hopen, journal, hrun⟩⟩
  · rw [hrun]
    exact hway.prepares
  · rw [hrun]
    exact hway.prepares
  · rw [hrun]
    exact hway.prepares_put hclosed hplace hnode hopen

/-- To put a draft in its place has one of two outcomes. -/
theorem run_publish (v : Json.Value) {draft : Path} (p : Path) {w : Workspace} {source : Place}
    {node : Node} (hsource : w.files.locate draft = .ok source)
    (hnode : w.files.node? source = some node) :
    (∃ failure, (publish v draft p).run w = .error failure w) ∨
      ∃ place, w.files.locate p = .ok place ∧ w.files.IsNoDirectory place ∧
        (publish v draft p).run w =
          .ok () { w with files := (w.files.remove source).put place node } := by
  cases hsize : v.isOversized with
  | true => exact .inl ⟨.oversized, by rw [publish_of_isOversized hsize]; rfl⟩
  | false =>
    rw [publish_of_not_isOversized hsize, Action.run_onDisk]
    rcases Disk.run_replace p hsource hnode with
      ⟨refusal, hreplace⟩ | ⟨place, hplace, hfile, hreplace⟩
    · exact .inl ⟨.storage refusal, by rw [hreplace]⟩
    · exact .inr ⟨place, hplace, hfile, by rw [hreplace]⟩

/-- A draft that is put in the place of a file is the file, and nothing is left of one that
cannot be. -/
theorem run_create_publish (mode : Nat) (v : Json.Value) (draft p : Path) (content : ByteArray)
    (w : Workspace) :
    let exchange : Action Unit := do
      Action.onDisk (Disk.create mode draft content)
      tryCatch (publish v draft p) fun failure => do
        Action.onDisk (Disk.discard draft)
        throw failure
    (∃ failure, exchange.run w = .error failure w) ∨
      ∃ target, w.files.locate p = .ok target ∧ w.files.IsNoDirectory target ∧
        exchange.run w = .ok () { w with files := w.files.put target (.file mode content) } := by
  dsimp only
  rcases Disk.run_create mode draft content w.files with
    ⟨refusal, hcreate⟩ | ⟨place, hplace, hnone, hcreate⟩
  · have hrun : (Action.onDisk (Disk.create mode draft content)).run w =
        .error (.storage refusal) w := by
      rw [Action.run_onDisk, hcreate]
    exact .inl ⟨.storage refusal, run_bind_of_error hrun⟩
  · have hfree := isNoDirectory_of_node?_eq_none hnone
    have hdraft := (keepsDirectories_put hfree (.file mode content)).locate hplace
    have hnode := node?_put_self w.files hfree.ne_nil (.file mode content)
    -- Without the draft everything is as before.
    have hwithout := remove_put_self hnone (.file mode content)
    rw [run_bind_of_ok (run_onDisk_of_ok hcreate), run_tryCatch]
    rcases run_publish v p (w := { w with files := w.files.put place (.file mode content) })
      hdraft hnode with ⟨failure, hpublish⟩ | ⟨target, htarget, hfile, hpublish⟩
    · refine .inl ⟨failure, ?_⟩
      rw [hpublish]
      dsimp only
      rw [run_bind_of_ok (run_onDisk_of_ok (Disk.run_discard hdraft)), hwithout]
      rfl
    · have hplaced : (w.files.put place (.file mode content)).IsNoDirectory place := by
        simp [IsNoDirectory, hnode]
      refine .inr ⟨target, ?_, ?_, ?_⟩
      · have hlocate := (keepsDirectories_remove hplaced).locate htarget
        rwa [hwithout] at hlocate
      · have hthere := hfile.remove place
        rwa [hwithout] at hthere
      · rw [hpublish, hwithout]

variable {p : Path} {v : Json.Value} {w w' : Workspace}

/-- **All that a save that fails has done** is to prepare the directory. -/
theorem prepares_of_savePrivately_eq_error {failure : Failure}
    (h : (savePrivately p v).run w = .error failure w') :
    Prepares w.privateDirectory p.parent w.files w'.files := by
  have hkeep := prepares_keepDirectory p.parent w
  rcases run_bind_eq_error h with hfailed | ⟨_, w₁, hkept, hrest⟩
  · rwa [hfailed] at hkeep
  · rw [hkept] at hkeep
    rw [run_bind_of_ok (EStateM.run_get w₁)] at hrest
    rcases run_create_publish privateMode v (draftOf w₁.stamp p) p
      (v.write .portable .indented).asString.toUTF8 w₁ with
      ⟨failure', hfails⟩ | ⟨target, -, -, hdone⟩
    · cases hfails.symm.trans hrest
      exact hkeep
    · cases hdone.symm.trans hrest

/-- **All that a save that goes through has done** is to prepare the directory and to put the
file where its path leads. -/
theorem exists_of_savePrivately_eq_ok {u : Unit} (h : (savePrivately p v).run w = .ok u w') :
    ∃ fs target, Prepares w.privateDirectory p.parent w.files fs ∧ fs.locate p = .ok target ∧
      fs.IsNoDirectory target ∧ w'.files =
        fs.put target (.file privateMode (v.write .portable .indented).asString.toUTF8) := by
  have hkeep := prepares_keepDirectory p.parent w
  obtain ⟨_, w₁, hkept, hrest⟩ := exists_of_run_bind_eq_ok h
  rw [hkept] at hkeep
  rw [run_bind_of_ok (EStateM.run_get w₁)] at hrest
  rcases run_create_publish privateMode v (draftOf w₁.stamp p) p
    (v.write .portable .indented).asString.toUTF8 w₁ with
    ⟨failure, hfails⟩ | ⟨target, htarget, hfile, hdone⟩
  · cases hfails.symm.trans hrest
  · cases hdone.symm.trans hrest
    exact ⟨w₁.files, target, hkeep, htarget, hfile, rfl⟩

end CommandAdvisor.Storage
