import CommandAdvisor.Proofs.History.Revisions
import CommandAdvisor.Proofs.Storage.Writes

/-!
# Operations that write

Settings are saved, and calls of a store save its entries. Each of these operations writes one
file or fails and writes none. What else it may do is to prepare the directory of that file:
directories on the way to it appear, and the private directory is closed.

## Main definitions
* `AllOrNothing`: what an operation that writes a value does to what is stored.
* `Writing`: an operation that writes.
* `Writing.value?`: what it writes.

## Main statements
* `allOrNothing_savePrivately`: what a save does.
* `Writing.all_or_nothing`: what every operation does.
-/
namespace CommandAdvisor

open Json (Value)
open Storage (Path)
open Storage.FileSystem (Preparation Prepares)

/-- What a write does to what is stored, by its result: one that fails prepares the directory
at most. One that goes through leaves what it was to write, if it was to write anything, where
the path leads, and prepares the directory at most everywhere else. -/
def AllOrNothing {α : Type} (p : Path) (v? : Option Value) (w : Workspace) :
    EStateM.Result Failure Workspace α → Prop
  | .error _ w' => Prepares w.privateDirectory p.parent w.files w'.files
  | .ok _ w' =>
    match v? with
    | none => w'.files = w.files
    | some v => ∃ target, w'.files.locate p = .ok target ∧
        w'.files.node? target =
          some (.file Storage.privateMode (v.write .portable .indented).asString.toUTF8) ∧
        ∀ place, place ≠ target →
          Preparation w.privateDirectory p.parent w.files w'.files place

namespace AllOrNothing

variable {α β : Type} {p : Path} {v? : Option Value} {w w' : Workspace}

/-- What a write does is a matter of the files that are there before. -/
theorem of_sameFiles {r : EStateM.Result Failure Workspace α} (hw : SameFiles w w')
    (h : AllOrNothing p v? w' r) : AllOrNothing p v? w r := by
  have hclosed : w'.privateDirectory = w.privateDirectory := by
    rw [Workspace.privateDirectory, Workspace.privateDirectory, hw.2]
  cases r with
  | error failure w'' =>
    rw [AllOrNothing, ← hw.1, ← hclosed]
    exact h
  | ok a w'' =>
    cases v? with
    | none =>
      rw [AllOrNothing, ← hw.1]
      exact h
    | some v =>
      rw [AllOrNothing, ← hw.1, ← hclosed]
      exact h

theorem of_error {failure : Failure} (hw : SameFiles w w') :
    AllOrNothing p v? w (.error failure w' : EStateM.Result Failure Workspace α) := by
  rw [AllOrNothing, hw.1]
  exact Prepares.refl _ _ _

/-- What leaves the files alone may come first. -/
theorem after {x : Action α} {f : α → Action β} (hx : Respects SameFiles x)
    (hf : ∀ a w', x.run w = .ok a w' → AllOrNothing p v? w' ((f a).run w')) :
    AllOrNothing p v? w ((x >>= f).run w) := by
  cases hrun : x.run w with
  | error failure w' =>
    rw [run_bind_of_error hrun]
    exact of_error (hx.of_run_eq_error hrun)
  | ok a w' =>
    rw [run_bind_of_ok hrun]
    exact (hf a w' hrun).of_sameFiles (hx.of_run_eq_ok hrun)

/-- What leaves the files alone and does not fail may come last. -/
theorem bind {x : Action α} {f : α → Action β} (hx : AllOrNothing p v? w (x.run w))
    (hf : ∀ a w', ∃ b w'', (f a).run w' = .ok b w'' ∧ SameFiles w' w'') :
    AllOrNothing p v? w ((x >>= f).run w) := by
  cases hrun : x.run w with
  | error failure w' =>
    rw [hrun] at hx
    rw [run_bind_of_error hrun]
    exact hx
  | ok a w' =>
    rw [hrun] at hx
    obtain ⟨b, w'', hlast, hsame⟩ := hf a w'
    rw [run_bind_of_ok hrun, hlast]
    cases v? <;>
    · rw [AllOrNothing, hsame.1]
      exact hx

end AllOrNothing

/-- **What a save does:** it writes its value or nothing. -/
theorem allOrNothing_savePrivately (p : Path) (v : Value) (w : Workspace) :
    AllOrNothing p (some v) w ((Storage.savePrivately p v).run w) := by
  cases hrun : (Storage.savePrivately p v).run w with
  | error failure w' => exact Storage.prepares_of_savePrivately_eq_error hrun
  | ok u w' =>
    obtain ⟨fs, target, hprepares, htarget, hfree, hfiles⟩ :=
      Storage.exists_of_savePrivately_eq_ok hrun
    have hkeeps := Storage.FileSystem.keepsDirectories_put hfree
      (.file Storage.privateMode (v.write .portable .indented).asString.toUTF8)
    rw [AllOrNothing, hfiles]
    refine ⟨target, hkeeps.locate htarget,
      Storage.FileSystem.node?_put_self fs hfree.ne_nil _, fun place hplace => ?_⟩
    exact (hprepares.at_place place).of_keepsDirectories hkeeps
      (Storage.FileSystem.node?_put_of_ne fs hplace _)

theorem sameFiles_note (e : Event) (w : Workspace) :
    ∃ u w', (Action.note e).run w = .ok u w' ∧ SameFiles w w' := ⟨(), _, rfl, rfl, rfl⟩

theorem sameFiles_pure {α : Type} (a : α) (w : Workspace) :
    ∃ b w', (pure a : Action α).run w = .ok b w' ∧ SameFiles w w' := ⟨a, w, rfl, rfl, rfl⟩

theorem Settings.allOrNothing_save (s : Settings) (w : Workspace) :
    AllOrNothing w.settingsFile (some s.encodeSet) w (s.save.run w) := by
  rw [save, run_bind_of_ok (EStateM.run_get w)]
  exact (allOrNothing_savePrivately _ _ w).bind fun _ => sameFiles_note _

namespace History.Store

variable {w : Workspace}

theorem allOrNothing_save (s : Store) (entries : List Entry) (w : Workspace) :
    AllOrNothing s.path (some (encodeEntries entries)) w ((s.save entries).run w) :=
  (allOrNothing_savePrivately _ _ w).bind fun _ => sameFiles_note _

theorem allOrNothing_edit (s : Store) (change : List Entry → Option (List Entry)) (w : Workspace) :
    AllOrNothing s.path ((change (s.shown w.files)).map encodeEntries) w ((s.edit change).run w) := by
  refine .after (respects_sameFiles_entries s) fun entries w' hrun => ?_
  obtain rfl := eq_shown_of_run_entries hrun
  cases hchange : change (s.shown w.files) with
  | none => exact rfl
  | some changed => exact (allOrNothing_save s changed w').bind fun _ => sameFiles_pure _

theorem allOrNothing_add (s : Store) (command : Text) (explanation : Explanation)
    (level : Option Risk.Level) (w : Workspace) :
    AllOrNothing s.path (((Call.add w.clock w.issued command explanation level).revision? s.limit
      (s.shown w.files)).map encodeEntries) w ((s.add command explanation level).run w) := by
  rcases run_newEntry_of_addition? w command explanation level with
    ⟨hnone, failure, w', hsame, hnew⟩ | ⟨new, w', hsome, hsame, hnew⟩
  · rw [add, run_bind_of_error hnew]
    exact .of_error hsame
  · rw [add, run_bind_of_ok hnew, Call.revision?, hsome]
    refine .of_sameFiles hsame (.after (respects_sameFiles_entries s) fun entries w'' hrun => ?_)
    obtain rfl := eq_shown_of_run_entries hrun
    rw [hsame.1]
    exact (allOrNothing_save s _ w'').bind fun _ => sameFiles_pure _

end History.Store

/-! ## Operations -/

/-- An operation that writes. -/
inductive Writing where
  | settings (s : Settings)
  | history (s : History.Store) (call : History.Call)

namespace Writing

/-- To carry out an operation. -/
def perform : Writing → Action Unit
  | settings s => s.save
  | history s call => s.perform call

/-- The path of the file that an operation writes. -/
def path (w : Workspace) : Writing → Path
  | settings _ => w.settingsFile
  | history s _ => s.path

/-- What an operation writes, if it writes at all: all that is set, or what a call makes of the
entries that its store shows. -/
def value? (w : Workspace) : Writing → Option Value
  | settings s => some s.encodeSet
  | history s call => (call.revision? s.limit (s.shown w.files)).map History.encodeEntries

theorem allOrNothing_perform (op : Writing) (w : Workspace) :
    AllOrNothing (op.path w) (op.value? w) w (op.perform.run w) := by
  cases op with
  | settings s => exact s.allOrNothing_save w
  | history s call =>
    cases call with
    | add clock issued command explanation level =>
      have hmodify : (modify fun w => { w with clock, issued } : Action Unit).run w =
          .ok () { w with clock, issued } := rfl
      have hstart : SameFiles w { w with clock, issued } := ⟨rfl, rfl⟩
      have hadd := s.allOrNothing_add command explanation level { w with clock, issued }
      rw [perform, History.Store.perform, run_bind_of_ok hmodify]
      exact .of_sameFiles hstart (hadd.bind fun _ => sameFiles_pure ())
    | toggleFavorite id =>
      refine AllOrNothing.bind (AllOrNothing.bind (s.allOrNothing_edit _ w) ?_) fun _ => sameFiles_pure _
      intro result w'
      cases result <;> exact sameFiles_pure _ w'
    | addTag id tag => exact (s.allOrNothing_edit _ w).bind fun _ => sameFiles_pure _
    | removeTag id tag => exact (s.allOrNothing_edit _ w).bind fun _ => sameFiles_pure _
    | clear => exact s.allOrNothing_save [] w

/-- **An operation that writes does all or nothing.** One that fails leaves every file as it was
and adds none; it may have made directories on the way to its file or closed the private
directory. One that goes through either had nothing to write and changes nothing, or its path
leads to a private file of exactly what was to be written, and everywhere else no file has
changed, appeared or gone. -/
theorem all_or_nothing (op : Writing) (w : Workspace) :
    match op.perform.run w with
    | .error _ w' => ∀ place,
        (∀ mode content, w'.files.node? place = some (.file mode content) ↔
          w.files.node? place = some (.file mode content)) ∧
        Preparation w.privateDirectory (op.path w).parent w.files w'.files place
    | .ok _ w' =>
      match op.value? w with
      | none => w'.files = w.files
      | some v => ∃ target, w'.files.locate (op.path w) = .ok target ∧
          w'.files.node? target =
            some (.file Storage.privateMode (v.write .portable .indented).asString.toUTF8) ∧
          ∀ place, place ≠ target →
            (∀ mode content, w'.files.node? place = some (.file mode content) ↔
              w.files.node? place = some (.file mode content)) ∧
            Preparation w.privateDirectory (op.path w).parent w.files w'.files place := by
  have h := op.allOrNothing_perform w
  cases hrun : op.perform.run w with
  | error failure w' =>
    rw [hrun, AllOrNothing] at h
    exact fun place => ⟨fun _ _ => (h.at_place place).node?_eq_file_iff, h.at_place place⟩
  | ok u w' =>
    rw [hrun] at h
    cases hvalue : op.value? w with
    | none =>
      rw [hvalue, AllOrNothing] at h
      exact h
    | some v =>
      rw [hvalue, AllOrNothing] at h
      obtain ⟨target, htarget, hnode, helsewhere⟩ := h
      refine ⟨target, htarget, hnode, fun place hplace => ?_⟩
      have hprepared := helsewhere place hplace
      exact ⟨fun _ _ => hprepared.node?_eq_file_iff, hprepared⟩

end Writing

end CommandAdvisor
