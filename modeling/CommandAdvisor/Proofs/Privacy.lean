import CommandAdvisor.Proofs.Storage.Modes
import CommandAdvisor.Proofs.Writing

/-!
# The private directory is closed to others

Whatever operations write, their files are private. The private directory is made for its owner
alone where it is to hold the file. Where it is only passed on the way to the directory of a
history file, it is made for everybody and stays so until settings are saved. So it is closed to
others as long as no history is kept behind it before it is there.

## Main definitions
* `Workspace.IsShut`: the private directory is there and lets nobody else in.
* `Workspace.IsClosed`: the private directory lets nobody else in, if it is there.
* `Workspace.HasEmptyHome`: nothing is in the home directory.
* `Writing.after`: the workspace after some operations.

## Main statements
* `Writing.staysPrivate_perform`: what one operation leaves behind.
* `Writing.private_directory_stays_closed`: what a run of operations leaves behind.
-/
namespace CommandAdvisor

open Storage (Path Place Node StaysPrivate)

theorem SameFiles.staysPrivate {w w' : Workspace} (h : SameFiles w w') (d : Path) :
    StaysPrivate d w w' := by
  refine ⟨h.2, ?_⟩
  rw [h.1]
  exact .refl d w.files

/-! ## The private directory -/

namespace Workspace

/-- The place of the home directory. -/
def homePlace (w : Workspace) : Place := (Path.ofText w.home).destination w.files.here

/-- The place of the private directory. -/
def privatePlace (w : Workspace) : Place := w.privateDirectory.destination w.files.here

/-- The private directory is there and lets nobody else in. -/
def IsShut (w : Workspace) : Prop :=
  ∃ node, w.files.node? w.privatePlace = some node ∧ Storage.letsOthersIn node.mode = false

/-- The private directory lets nobody else in, if it is there. -/
def IsClosed (w : Workspace) : Prop :=
  ∀ node, w.files.node? w.privatePlace = some node → Storage.letsOthersIn node.mode = false

/-- The home directory is there. -/
def HasHome (w : Workspace) : Prop :=
  ∃ mode, w.files.access (Path.ofText w.home) = .ok (.directory mode)

/-- The home directory is there and nothing is in it. -/
structure HasEmptyHome (w : Workspace) : Prop where
  hasHome : w.HasHome
  empty : ∀ name rest, w.files.node? (w.homePlace ++ name :: rest) = none

variable {w : Workspace}

theorem privatePlace_eq (w : Workspace) : w.privatePlace = w.homePlace ++ [(".cmdlens" : Text)] :=
  Path.destination_child _ _ (by decide)

theorem IsShut.isClosed (h : w.IsShut) : w.IsClosed := by
  obtain ⟨node, hnode, hshut⟩ := h
  intro found hfound
  cases hnode.symm.trans hfound
  exact hshut

theorem HasEmptyHome.node?_privatePlace (h : w.HasEmptyHome) :
    w.files.node? w.privatePlace = none := by
  rw [privatePlace_eq]
  exact h.empty _ []

/-- Where there is no private directory none is passed on the way to it: all that is passed is
on the way to the home directory, which is there. -/
theorem HasHome.not_passes (h : w.HasHome) (hnone : w.files.node? w.privatePlace = none) :
    ¬w.privateDirectory.Passes w.files.here w.privatePlace := by
  rintro ⟨q, hq, hne, hplace⟩
  obtain ⟨mode, hhome⟩ := h
  have hway : q.IsOnTheWay (Path.ofText w.home) := by
    obtain ⟨hanchor, hprefix⟩ := hq
    refine ⟨hanchor, ?_⟩
    rcases List.prefix_concat_iff.1 hprefix with hwhole | hprefix
    · have hsame : q = w.privateDirectory := by
        obtain ⟨anchor, parts⟩ := q
        obtain rfl : anchor = w.privateDirectory.anchor := hanchor
        obtain rfl : parts = w.privateDirectory.parts := hwhole
        rfl
      exact absurd hsame hne
    · exact hprefix
  obtain ⟨m, hthere⟩ := Storage.FileSystem.exists_directory_of_isOnTheWay hhome hway
  rw [hplace, hnone] at hthere
  cases hthere

end Workspace

namespace Storage.StaysPrivate

variable {w w' : Workspace} {d : Path}

theorem privateDirectory (h : StaysPrivate d w w') : w'.privateDirectory = w.privateDirectory := by
  rw [Workspace.privateDirectory, Workspace.privateDirectory, h.home]

theorem privatePlace (h : StaysPrivate d w w') : w'.privatePlace = w.privatePlace := by
  rw [Workspace.privatePlace, Workspace.privatePlace, h.privateDirectory, h.files.keeps.here]

theorem hasHome (h : StaysPrivate d w w') (hw : w.HasHome) : w'.HasHome := by
  obtain ⟨mode, hhome⟩ := hw
  obtain ⟨place, hplace, hnode⟩ := Storage.FileSystem.access_eq_ok_iff.1 hhome
  obtain ⟨mode', hnode'⟩ := h.files.keeps.directory place mode hnode
  refine ⟨mode', ?_⟩
  rw [h.home]
  exact Storage.FileSystem.access_eq_ok_iff.2 ⟨place, h.files.keeps.locate hplace, hnode'⟩

/-- A closed private directory stays closed unless it is passed where it is not there. -/
theorem isClosed (h : StaysPrivate d w w') (hw : w.IsClosed)
    (hpasses : w.files.node? w.privatePlace = none →
      ¬d.Passes w.files.here w.privatePlace) : w'.IsClosed := by
  intro node hnode
  rw [h.privatePlace] at hnode
  rcases h.files.node? _ _ hnode with hbefore | hprivate | ⟨hnone, hpassed, -⟩
  · exact hw node hbefore
  · exact hprivate.letsOthersIn
  · exact absurd hpassed (hpasses hnone)

/-- A closed private directory that is there stays so. -/
theorem isShut (h : StaysPrivate d w w') (hw : w.IsShut) : w'.IsShut := by
  have hclosed := hw.isClosed
  obtain ⟨node, hnode, -⟩ := hw
  have hstill : w'.IsClosed := h.isClosed hclosed fun hnone => by
    cases hnone.symm.trans hnode
  cases hafter : w'.files.node? w'.privatePlace with
  | none =>
    rw [h.privatePlace] at hafter
    cases (h.files.stays _ hafter).symm.trans hnode
  | some found => exact ⟨found, hafter, hstill found hafter⟩

end Storage.StaysPrivate

/-! ## One operation -/

namespace History.Store

/-- **What a call of a store leaves behind** is private, but for directories that the path of the
directory of its file passes. -/
theorem respects_staysPrivate_perform (s : Store) (call : Call) :
    Respects (StaysPrivate s.path.parent) (s.perform call) := by
  have hnotes : ∀ w w', SameBesidesNotes w w' → StaysPrivate s.path.parent w w' :=
    fun _ _ h => h.sameFiles.staysPrivate _
  have hread (p : Path) : Respects (StaysPrivate s.path.parent)
      (Action.onDisk (Storage.Disk.read p)) := (Action.respects_read p).mono hnotes
  have hnote (e : Event) : Respects (StaysPrivate s.path.parent) (Action.note e) :=
    (Action.respects_note e).mono hnotes
  have hcounts (w : Workspace) (clock : Number.Quantity) (issued : Nat) :
      StaysPrivate s.path.parent w { w with clock, issued } := by
    have hsame : SameFiles w { w with clock, issued } := ⟨rfl, rfl⟩
    exact hsame.staysPrivate _
  have hsave := Storage.respects_staysPrivate_savePrivately s.path
  have hedit := respects_edit hread hnote hsave
  cases call with
  | add clock issued command explanation level =>
    have hmodify : Respects (StaysPrivate s.path.parent)
        (modify fun w => { w with clock, issued } : Action Unit) := fun w => hcounts w clock issued
    have hadd := respects_add hread hnote hcounts hsave command explanation level
    exact hmodify.bind fun _ => hadd.bind fun _ => respects_pure _
  | toggleFavorite id =>
    refine Respects.bind ((hedit _).bind fun entries => ?_) fun _ => respects_pure _
    split <;> exact respects_pure _
  | addTag id tag => exact (hedit _).bind fun _ => respects_pure _
  | removeTag id tag => exact (hedit _).bind fun _ => respects_pure _
  | clear => exact respects_save hnote hsave []

end History.Store

/-- A history that is kept behind the private directory opens it if it was not there. -/
theorem History.Store.not_isClosed_of_save {s : Store} {entries : List Entry} {w w' : Workspace}
    {u : Unit} (h : (s.save entries).run w = .ok u w') (hhome : w.HasHome)
    (hpasses : s.path.parent.Passes w.files.here w.privatePlace)
    (hnone : w.files.node? w.privatePlace = none) : ¬w'.IsClosed := by
  obtain ⟨_, w₁, hsaved, hnoted⟩ := exists_of_run_bind_eq_ok h
  cases hnoted
  have hother : s.path.parent ≠ w.privateDirectory := by
    intro hsame
    rw [hsame] at hpasses
    exact hhome.not_passes hnone hpasses
  obtain ⟨mode, hnode, hopen⟩ := Storage.exists_open_of_savePrivately hsaved hother hpasses hnone
  have hstep := (Storage.respects_staysPrivate_savePrivately _ _).of_run_eq_ok hsaved
  rw [← hstep.privatePlace] at hnode
  intro hclosed
  have hshut := hclosed _ hnode
  cases hopen.symm.trans hshut

/-- Settings that have been saved are in a closed directory. -/
theorem Settings.exists_closed_of_save {s : Settings} {w w' : Workspace} {u : Unit}
    (h : s.save.run w = .ok u w') :
    ∃ mode, w'.files.access w.privateDirectory = .ok (.directory mode) ∧
      Storage.letsOthersIn mode = false := by
  rw [save, run_bind_of_ok (EStateM.run_get w)] at h
  obtain ⟨_, w₁, hsaved, hnoted⟩ := exists_of_run_bind_eq_ok h
  cases hnoted
  have hclosed := Storage.access_parent_of_savePrivately hsaved (Path.parent_child _ _)
  exact hclosed

namespace Writing

variable {w : Workspace}

/-- **What an operation leaves behind** is private, but for directories that the path of the
directory of its file passes. -/
theorem staysPrivate_perform (op : Writing) (w : Workspace) :
    StaysPrivate (op.path w).parent w (final (op.perform.run w)) := by
  cases op with
  | settings s =>
    have hsave := Storage.respects_staysPrivate_savePrivately w.settingsFile s.encodeSet
    have hnote : Respects (StaysPrivate w.settingsFile.parent)
        (Action.note (.settingsSaved w.settingsFile)) :=
      (Action.respects_note _).mono fun _ _ h => h.sameFiles.staysPrivate _
    rw [perform, Settings.save, run_bind_of_ok (EStateM.run_get w)]
    exact hsave.bind (fun _ => hnote) w
  | history s call => exact s.respects_staysPrivate_perform call w

/-- The private directory stays closed where it is not on the way to the directory of a history
file. -/
theorem isClosed_perform (op : Writing) (hhome : w.HasHome) (hclosed : w.IsClosed)
    (hpasses : ∀ s call, op = history s call →
      ¬s.path.parent.Passes w.files.here w.privatePlace) : (final (op.perform.run w)).IsClosed := by
  refine (op.staysPrivate_perform w).isClosed hclosed fun hnone => ?_
  cases op with
  | settings s =>
    have hparent : (path w (settings s)).parent = w.privateDirectory := Path.parent_child _ _
    rw [hparent]
    exact hhome.not_passes hnone
  | history s call => exact hpasses s call rfl

/-! ## A run of operations -/

/-- The workspace after some operations, of which any may have failed. -/
def after (ops : List Writing) (w : Workspace) : Workspace :=
  ops.foldl (fun w op => final (op.perform.run w)) w

theorem after_append (ops more : List Writing) (w : Workspace) :
    after (ops ++ more) w = after more (after ops w) := List.foldl_append

theorem hasHome_after (ops : List Writing) (h : w.HasHome) : (after ops w).HasHome := by
  induction ops generalizing w with
  | nil => exact h
  | cons op ops ih => exact ih ((op.staysPrivate_perform w).hasHome h)

/-- **All files that a run leaves behind are private,** but for those that were there. -/
theorem node?_after_eq_file {ops : List Writing} {place : Place} {mode : Nat} {content : ByteArray}
    (h : (after ops w).files.node? place = some (.file mode content)) :
    w.files.node? place = some (.file mode content) ∨ mode = Storage.privateMode := by
  induction ops generalizing w with
  | nil => exact .inl h
  | cons op ops ih =>
    rcases ih h with hbefore | hprivate
    · rcases (op.staysPrivate_perform w).files.node? place _ hbefore with
        hsame | hprivate | ⟨-, -, m, hdirectory⟩
      · exact .inl hsame
      · exact .inr hprivate
      · cases hdirectory
    · exact .inr hprivate

/-- **A closed private directory that is there stays so** in a run. -/
theorem isShut_after (ops : List Writing) (h : w.IsShut) : (after ops w).IsShut := by
  induction ops generalizing w with
  | nil => exact h
  | cons op ops ih => exact ih ((op.staysPrivate_perform w).isShut h)

/-- **The private directory stays closed** in a run that does not keep histories behind it. -/
theorem isClosed_after {ops : List Writing} (hhome : w.HasHome) (hclosed : w.IsClosed)
    (hpasses : ∀ s call, history s call ∈ ops →
      ¬s.path.parent.Passes w.files.here w.privatePlace) : (after ops w).IsClosed := by
  induction ops generalizing w with
  | nil => exact hclosed
  | cons op ops ih =>
    have hstep := op.staysPrivate_perform w
    refine ih (hstep.hasHome hhome) (op.isClosed_perform hhome hclosed ?_) fun s call hmem => ?_
    · rintro s call rfl
      exact hpasses s call List.mem_cons_self
    · rw [hstep.files.keeps.here, hstep.privatePlace]
      exact hpasses s call (List.mem_cons_of_mem _ hmem)

/-- Saved settings leave a closed private directory. -/
theorem isShut_of_save {s : Settings} {w' : Workspace} {u : Unit} (h : s.save.run w = .ok u w') :
    w'.IsShut := by
  have hstep := (settings s).staysPrivate_perform w
  rw [perform, h] at hstep
  obtain ⟨mode, hthere, hshut⟩ := Settings.exists_closed_of_save h
  obtain ⟨place, hplace, hnode⟩ := Storage.FileSystem.access_eq_ok_iff.1 hthere
  have hsame : w'.privateDirectory = w.privateDirectory := hstep.privateDirectory
  have hprivate : w'.privatePlace = place := by
    rw [Workspace.privatePlace, hsame]
    exact Storage.FileSystem.destination_of_locate hplace
  rw [← hprivate] at hnode
  exact ⟨_, hnode, hshut⟩

/-- **The private directory is closed to others** after any run that starts with an empty home
directory and keeps no history behind it. Once settings have been saved it is there and closed
after any run, and so it is once it is there and closed. Only a history that is kept behind it
while it is not there leaves it open. All files are private. -/
theorem private_directory_stays_closed (ops : List Writing) (hw : w.HasEmptyHome) :
    (∀ place mode content, (after ops w).files.node? place = some (.file mode content) →
      w.files.node? place = some (.file mode content) ∨ mode = Storage.privateMode) ∧
    ((∀ s call, history s call ∈ ops → ¬s.path.parent.Passes w.files.here w.privatePlace) →
      (after ops w).IsClosed) ∧
    (∀ s u w', s.save.run (after ops w) = .ok u w' →
      ∀ more, (after (ops ++ settings s :: more) w).IsShut) ∧
    ((after ops w).IsShut → ∀ more, (after (ops ++ more) w).IsShut) ∧
    (∀ (s : History.Store) entries u w', (s.save entries).run (after ops w) = .ok u w' →
      s.path.parent.Passes (after ops w).files.here (after ops w).privatePlace →
      (after ops w).files.node? (after ops w).privatePlace = none → ¬w'.IsClosed) := by
  have hclosed : w.IsClosed := by
    intro node hnode
    cases hw.node?_privatePlace.symm.trans hnode
  refine ⟨fun _ _ _ => node?_after_eq_file, isClosed_after hw.hasHome hclosed, ?_, ?_, ?_⟩
  · intro s u w' hsave more
    have hfinal : final ((settings s).perform.run (after ops w)) = w' := congrArg final hsave
    rw [after_append, after, List.foldl_cons, hfinal]
    exact isShut_after more (isShut_of_save hsave)
  · intro hshut more
    rw [after_append]
    exact isShut_after more hshut
  · intro s entries u w' hsave
    exact History.Store.not_isClosed_of_save hsave (hasHome_after ops hw.hasHome)

/-- A workspace with an empty home directory, in which relative paths start. -/
def atHome : Workspace :=
  { History.Store.bareWorkspace with
    home := "/home"
    files := ⟨[("home" : Text)], [([("home" : Text)], .directory 0o755)]⟩ }

/-- Operations that empty the history files of some paths. -/
def clearAll (paths : List Text) : List Writing :=
  paths.map fun path => history ⟨.ofText path, 100⟩ .clear

/-- Two histories are kept beside and in the private directory, and then one behind it. -/
theorem private_directory_stays_closed_beside :
    (after (clearAll ["/home/hist/history.json", "x/../.cmdlens/history.json"]) atHome).IsClosed ∧
      (after (clearAll ["/home/hist/history.json", "x/../.cmdlens/history.json"] ++
        clearAll [".cmdlens/sub/history.json"]) atHome).IsShut := by
  have hempty : atHome.HasEmptyHome := by
    refine ⟨⟨0o755, by decide +kernel⟩, fun name rest => ?_⟩
    have hplace : atHome.homePlace = [("home" : Text)] := by decide +kernel
    rw [hplace]
    rfl
  have hpaths : ∀ path ∈ [("/home/hist/history.json" : Text), "x/../.cmdlens/history.json"],
      ¬(Path.ofText path).parent.Passes atHome.files.here atHome.privatePlace := by decide +kernel
  have hpasses : ∀ s call,
      history s call ∈ clearAll ["/home/hist/history.json", "x/../.cmdlens/history.json"] →
        ¬s.path.parent.Passes atHome.files.here atHome.privatePlace := by
    intro s call hmem
    obtain ⟨path, hpath, hsame⟩ := List.mem_map.1 hmem
    cases hsame
    exact hpaths path hpath
  obtain ⟨-, hclosed, -, hstays, -⟩ := private_directory_stays_closed
    (clearAll ["/home/hist/history.json", "x/../.cmdlens/history.json"]) hempty
  exact ⟨hclosed hpasses, hstays ⟨.directory 0o700, by decide +kernel, by decide⟩ _⟩

/-- A history that is kept behind the private directory leaves it open if it was not there. -/
example : ((after (clearAll [".cmdlens/sub/history.json"]) atHome).files.node?
    atHome.privatePlace).map Node.mode = some 0o755 := by decide +kernel

end Writing

end CommandAdvisor
