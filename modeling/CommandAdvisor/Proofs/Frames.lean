import CommandAdvisor.History.Store
import CommandAdvisor.Proofs.Inspection.Reports
import CommandAdvisor.Settings.Storage
import Mathlib.Order.Defs.Unbundled

/-!
# What programs leave alone

What every step of a program leaves alone, the program leaves alone, whether it gives a result
or fails. Said of a relation between the states before and after that is reflexive and
transitive, this is one lemma for each way of putting programs together. The first relation of
this kind is that of workspaces which differ in what is noted and in nothing else.

## Main definitions
* `Respects`: a relation holds between the states before and after a program.
* `SameBesidesNotes`: two workspaces differ at most in the journal and in the known reports.
* `SameBesidesStored`: two workspaces differ at most in the journal and in what is stored.
* `SameFiles`: two workspaces have the same files and the same home directory.

## Main statements
* `Respects.bind` and `Respects.tryCatch`: programs that are put together of others.
* `Action.respects_report`, `Settings.respects_load`, `Settings.respects_historyPath` and
  `History.Store.respects_entries`: what only reads and notes.
* `Settings.respects_save`: what only stores and notes.
* `History.Store.respects_add` and `History.Store.respects_edit`: what saves a history.
-/
namespace CommandAdvisor

/-! ## Relations between states -/

section Respects

variable {ε σ α β : Type} {R : σ → σ → Prop}

/-- A relation holds between the states before and after a program. -/
def Respects (R : σ → σ → Prop) (x : EStateM ε σ α) : Prop := ∀ s, R s (final (x.run s))

theorem Respects.of_run_eq_ok {x : EStateM ε σ α} (h : Respects R x) {s t : σ} {a : α}
    (hrun : x.run s = .ok a t) : R s t := by
  have hs := h s
  rw [hrun] at hs
  exact hs

theorem Respects.of_run_eq_error {x : EStateM ε σ α} (h : Respects R x) {s t : σ} {e : ε}
    (hrun : x.run s = .error e t) : R s t := by
  have hs := h s
  rw [hrun] at hs
  exact hs

theorem Respects.mono {S : σ → σ → Prop} {x : EStateM ε σ α} (h : Respects R x)
    (hRS : ∀ s t, R s t → S s t) : Respects S x := fun s => hRS s _ (h s)

variable [IsPreorder σ R]

theorem Respects.bind {x : EStateM ε σ α} {f : α → EStateM ε σ β} (hx : Respects R x)
    (hf : ∀ a, Respects R (f a)) : Respects R (x >>= f) := by
  intro s
  rw [EStateM.run_bind]
  cases hrun : x.run s with
  | ok a t => exact IsTrans.trans _ _ _ (hx.of_run_eq_ok hrun) (hf a t)
  | error e t => exact hx.of_run_eq_error hrun

theorem Respects.tryCatch {x : EStateM ε σ α} {handler : ε → EStateM ε σ α}
    (hx : Respects R x) (hhandler : ∀ e, Respects R (handler e)) :
    Respects R (tryCatch x handler) := by
  intro s
  rw [run_tryCatch]
  cases hrun : x.run s with
  | ok a t => exact hx.of_run_eq_ok hrun
  | error e t => exact IsTrans.trans _ _ _ (hx.of_run_eq_error hrun) (hhandler e t)

omit [IsPreorder σ R] in
theorem Respects.ite {c : Prop} [Decidable c] {x y : EStateM ε σ α} (hx : Respects R x)
    (hy : Respects R y) : Respects R (if c then x else y) := by
  split
  · exact hx
  · exact hy

theorem respects_get : Respects R (get : EStateM ε σ σ) := fun s => Std.Refl.refl s

theorem respects_pure (a : α) : Respects R (pure a : EStateM ε σ α) := fun s => Std.Refl.refl s

theorem respects_throw (e : ε) : Respects R (throw e : EStateM ε σ α) := fun s => Std.Refl.refl s

/-- What changes nothing respects everything. -/
theorem Respects.of_eq {x : EStateM ε σ α} (h : Respects Eq x) : Respects R x :=
  h.mono fun s _ hsame => hsame ▸ Std.Refl.refl s

end Respects

/-! ## Notes -/

/-- Two workspaces differ at most in the reports that are known and in the journal. -/
def SameBesidesNotes (w w' : Workspace) : Prop :=
  ∃ reports journal, w' = { w with reports, journal }

instance : IsPreorder Workspace SameBesidesNotes where
  refl w := ⟨w.reports, w.journal, rfl⟩
  trans w₁ w₂ w₃ := by
    rintro ⟨_, _, rfl⟩ ⟨reports, journal, rfl⟩
    exact ⟨reports, journal, rfl⟩

/-- Two workspaces have the same files and the same home directory. -/
def SameFiles (w w' : Workspace) : Prop := w'.files = w.files ∧ w'.home = w.home

instance : IsPreorder Workspace SameFiles where
  refl _ := ⟨rfl, rfl⟩
  trans _ _ _ h h' := ⟨h'.1.trans h.1, h'.2.trans h.2⟩

theorem SameBesidesNotes.sameFiles {w w' : Workspace} (h : SameBesidesNotes w w') :
    SameFiles w w' := by
  obtain ⟨_, _, rfl⟩ := h
  exact ⟨rfl, rfl⟩

/-- A program on what is stored that changes nothing there changes nothing else. -/
theorem Action.respects_onDisk_of_eq {α : Type} {d : Storage.Disk α} (h : Respects Eq d) :
    Respects SameBesidesNotes (Action.onDisk d) := by
  intro w
  have hfiles := h w.files
  rw [run_onDisk]
  cases hrun : d.run w.files with
  | ok a files =>
    rw [hrun] at hfiles
    obtain rfl : w.files = files := hfiles
    exact Std.Refl.refl w
  | error refusal files =>
    rw [hrun] at hfiles
    obtain rfl : w.files = files := hfiles
    exact Std.Refl.refl w

namespace Action

theorem respects_note (e : Event) : Respects SameBesidesNotes (note e) :=
  fun w => ⟨w.reports, _, rfl⟩

theorem respects_noteTokens (line : Text) (tokens : List Command.Token) :
    Respects SameBesidesNotes (noteTokens line tokens) := by
  unfold noteTokens
  cases Command.unclosedQuote? line with
  | none => exact respects_note _
  | some quote => exact (respects_note _).bind fun _ => respects_note _

theorem respects_noteVerdict (analysis : Risk.Analysis) :
    Respects SameBesidesNotes (noteVerdict analysis) := .ite (respects_pure _) (respects_note _)

/-- Whatever is reported, only the journal and the known reports may change. -/
theorem respects_report (line : Text) : Respects SameBesidesNotes (report line) := by
  intro w
  have hconsulted (reports : Inspection.Cache Text Inspection.Report) :
      SameBesidesNotes w { w with reports } := ⟨reports, w.journal, rfl⟩
  rw [report, run_bind_of_ok (EStateM.run_get w)]
  dsimp only
  rw [run_bind_of_ok (EStateM.run_set _ _)]
  refine IsTrans.trans _ _ _ (hconsulted _) (Respects.ite (respects_pure _) ?_ _)
  exact (respects_note _).bind fun _ => (respects_noteTokens _ _).bind fun _ =>
    (respects_noteVerdict _).bind fun _ => respects_pure _

end Action

namespace Storage.Disk

theorem respects_locate (p : Path) : Respects Eq (locate p) := by
  refine respects_get.bind fun fs => ?_
  split
  · exact respects_pure _
  · exact respects_throw _

theorem respects_at? (place : Place) : Respects Eq (at? place) :=
  respects_get.bind fun _ => respects_pure _

theorem respects_read (p : Path) : Respects Eq (read p) := by
  refine (respects_locate p).bind fun place => (respects_at? place).bind fun node => ?_
  split
  · exact respects_pure _
  · exact respects_throw _
  · exact respects_throw _

end Storage.Disk

theorem Action.respects_read (p : Storage.Path) :
    Respects SameBesidesNotes (Action.onDisk (Storage.Disk.read p)) :=
  respects_onDisk_of_eq (Storage.Disk.respects_read p)

/-! ## Saves -/

/-- What accesses to what is stored and notes respect, a save respects. -/
theorem Storage.respects_savePrivately {R : Workspace → Workspace → Prop} [IsPreorder Workspace R]
    (hdisk : ∀ {α : Type} (d : Disk α), Respects R (Action.onDisk d))
    (hnote : ∀ e, Respects R (Action.note e)) (p : Path) (v : Json.Value) :
    Respects R (savePrivately p v) := by
  have hkeep : Respects R (keepDirectory p.parent) := by
    refine (hdisk _).bind fun _ => respects_get.bind fun w => ?_
    refine .ite ((hdisk _).bind fun mode => ?_) (respects_pure _)
    exact .ite ((hdisk _).bind fun _ => hnote _) (respects_pure _)
  have hpublish (draft : Path) : Respects R (publish v draft p) := .ite (respects_throw _) (hdisk _)
  refine hkeep.bind fun _ => respects_get.bind fun w => (hdisk _).bind fun _ => ?_
  exact (hpublish _).tryCatch fun _ => (hdisk _).bind fun _ => respects_throw _

/-- Two workspaces differ at most in what is stored and in the journal. -/
def SameBesidesStored (w w' : Workspace) : Prop := ∃ files journal, w' = { w with files, journal }

namespace SameBesidesStored

instance : IsPreorder Workspace SameBesidesStored where
  refl w := ⟨w.files, w.journal, rfl⟩
  trans w₁ w₂ w₃ := by
    rintro ⟨_, _, rfl⟩ ⟨files, journal, rfl⟩
    exact ⟨files, journal, rfl⟩

end SameBesidesStored

theorem Action.respects_sameBesidesStored_onDisk {α : Type} (d : Storage.Disk α) :
    Respects SameBesidesStored (onDisk d) := by
  intro w
  rw [run_onDisk]
  cases d.run w.files with
  | ok a files => exact ⟨files, w.journal, rfl⟩
  | error refusal files => exact ⟨files, w.journal, rfl⟩

theorem Action.respects_sameBesidesStored_note (e : Event) :
    Respects SameBesidesStored (note e) := fun w => ⟨w.files, _, rfl⟩

namespace Settings

open CommandAdvisor.Action

section Reading

variable {R : Workspace → Workspace → Prop} [IsPreorder Workspace R]
  (hread : ∀ p, Respects R (onDisk (Storage.Disk.read p))) (hnote : ∀ e, Respects R (note e))

include hread hnote

theorem respects_storedMembers_of : Respects R storedMembers := by
  refine respects_get.bind fun w => respects_get.bind fun _ => ?_
  split
  · exact respects_throw _
  · exact respects_pure _
  · refine (hread _).bind fun content => ?_
    split
    · exact respects_throw _
    · refine respects_get.bind fun _ => ?_
      split
      · exact respects_throw _
      · split
        · exact (hnote _).bind fun _ => respects_pure _
        · exact respects_throw _
        · refine (hnote _).bind fun _ => ?_
          split <;> exact respects_pure _

/-- What reading a file and notes respect, reading the settings respects. -/
theorem respects_load_of : Respects R load := by
  refine (respects_storedMembers_of hread hnote).bind fun members => ?_
  split
  · exact respects_throw _
  · exact respects_get.bind fun w => respects_pure _

end Reading

/-- Settings are read and nothing is changed but the journal. -/
theorem respects_load : Respects SameBesidesNotes load :=
  respects_load_of respects_read respects_note

/-- Settings are saved and nothing else is changed. -/
theorem respects_save (s : Settings) : Respects SameBesidesStored s.save := by
  refine respects_get.bind fun w => Respects.bind ?_ fun _ => respects_sameBesidesStored_note _
  exact Storage.respects_savePrivately respects_sameBesidesStored_onDisk
    respects_sameBesidesStored_note _ _

theorem respects_expanded (p : Storage.Path) : Respects Eq (expanded p) := by
  unfold expanded
  split
  · exact respects_pure _
  · split
    · exact respects_throw _
    · refine respects_get.bind fun w => ?_
      split
      · exact respects_pure _
      · exact respects_throw _

/-- To find out where the history is changes nothing at all. -/
theorem respects_historyPath (s : Settings) : Respects Eq s.historyPath := by
  unfold historyPath
  split
  · exact respects_get.bind fun w => respects_pure _
  · exact respects_expanded _

/-- Where a path leads depends on the environment and on the users of the host. -/
theorem run_expanded_of_environment {p q : Storage.Path} {w w' w₁ : Workspace}
    (h : (expanded p).run w = .ok q w₁) (henvironment : w'.environment = w.environment)
    (hhost : w'.host = w.host) : (expanded p).run w' = .ok q w' := by
  have howner (user : Text) : homeOf? w' user = homeOf? w user := by
    rw [homeOf?, homeOf?, Workspace.environmentValue?, Workspace.environmentValue?, henvironment,
      hhost]
  rw [expanded] at h ⊢
  split
  · next hhere =>
    rw [hhere] at h
    cases h
    rfl
  · next user huser =>
    rw [huser] at h
    dsimp only at h
    split
    · next fault hfault =>
      rw [hfault] at h
      cases h
    · next hfine =>
      rw [hfine] at h
      dsimp only at h
      rw [run_bind_of_ok (EStateM.run_get w)] at h
      rw [run_bind_of_ok (EStateM.run_get w'), howner]
      cases hhome : (homeOf? w user).bind Storage.Path.ofHome? with
      | none =>
        rw [hhome] at h
        cases h
      | some directory =>
        rw [hhome] at h
        cases h
        rfl

/-- Where the history is depends on the home directory, the environment and the users of the
host. -/
theorem run_historyPath_of_home {s : Settings} {p : Storage.Path} {w w' w₁ : Workspace}
    (h : s.historyPath.run w = .ok p w₁) (hhome : w'.home = w.home)
    (henvironment : w'.environment = w.environment) (hhost : w'.host = w.host) :
    s.historyPath.run w' = .ok p w' := by
  have hfile : w'.historyFile = w.historyFile := by
    rw [Workspace.historyFile, Workspace.historyFile, Workspace.privateDirectory,
      Workspace.privateDirectory, hhome]
  rw [historyPath] at h ⊢
  split
  · next hnone =>
    rw [hnone, run_bind_of_ok (EStateM.run_get w)] at h
    rw [run_bind_of_ok (EStateM.run_get w'), hfile]
    cases h
    rfl
  · next file hsome =>
    rw [hsome] at h
    exact run_expanded_of_environment h henvironment hhost

end Settings

namespace History.Store

open CommandAdvisor.Action

section

variable {R : Workspace → Workspace → Prop} [IsPreorder Workspace R] {s : Store}
  (hread : ∀ p, Respects R (onDisk (Storage.Disk.read p))) (hnote : ∀ e, Respects R (note e))
  (hcounts : ∀ w clock issued, R w { w with clock, issued })
  (hsave : ∀ v, Respects R (Storage.savePrivately s.path v))

include hread hnote in
/-- What reading a file and notes respect, reading a history respects. -/
theorem respects_entries_of (s : Store) : Respects R s.entries := by
  have hstored : Respects R (stored s.path) := by
    refine (hread s.path).bind fun content => ?_
    split
    · exact respects_pure _
    · exact respects_throw _
  refine respects_get.bind fun w => ?_
  split
  · exact respects_throw _
  · exact respects_pure _
  · exact hstored.tryCatch fun _ => (hnote _).bind fun _ => respects_pure _

include hnote hsave in
theorem respects_save (entries : List Entry) : Respects R (s.save entries) :=
  (hsave _).bind fun _ => hnote _

include hread hnote hsave in
theorem respects_edit (change : List Entry → Option (List Entry)) : Respects R (s.edit change) := by
  refine (respects_entries_of hread hnote s).bind fun entries => ?_
  split
  · exact (respects_save hnote hsave _).bind fun _ => respects_pure _
  · exact respects_pure _

include hread hnote hcounts hsave in
/-- What reading a file, notes, a later count of entries and saves of its file respect, an
addition respects. -/
theorem respects_add (command : Text) (e : Explanation) (level : Option Risk.Level) :
    Respects R (s.add command e level) := by
  have hid : Respects R newId := fun w => hcounts w w.clock (w.issued + 1)
  have htime : Respects R timestamp := by
    refine respects_get.bind fun w => ?_
    split
    · exact respects_pure _
    · exact respects_throw _
  have hnew : Respects R (newEntry command e level) :=
    hid.bind fun _ => htime.bind fun _ => respects_pure _
  exact hnew.bind fun _ => (respects_entries_of hread hnote s).bind fun _ =>
    (respects_save hnote hsave _).bind fun _ => respects_pure _

end

/-- Entries are read and nothing is changed but the journal. -/
theorem respects_entries (s : Store) : Respects SameBesidesNotes s.entries :=
  respects_entries_of respects_read respects_note s

end History.Store

end CommandAdvisor
