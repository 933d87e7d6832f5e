import CommandAdvisor.Program
import CommandAdvisor.Proofs.Frames

/-!
# Reports across runs

The cache of reports outlives a run. It is empty when the program is started, and a run puts
nothing into it but what inspections find, whatever it does besides and whether it fails.

## Main definitions
* `Preserves`: what holds of the known reports holds of them after an action.

## Main statements
* `keeps_perform` and `keeps_serve`: requests leave a faithful cache faithful.
* `isFaithful_run`: so does a run.
-/
namespace CommandAdvisor

open CommandAdvisor.Action
open Inspection (inspect)
open Usage (HistoryRequest Request)

/-! ## Actions that ask for no report -/

section Unasked

variable {P : Inspection.Cache Text Inspection.Report → Prop}

/-- What holds of the reports that are known before holds of those known after. -/
def Preserves (P : Inspection.Cache Text Inspection.Report → Prop) (w w' : Workspace) : Prop :=
  P w.reports → P w'.reports

instance : IsPreorder Workspace (Preserves P) where
  refl _ h := h
  trans _ _ _ h h' hP := h' (h hP)

theorem Respects.keeps {α : Type} {x : Action α} (h : Respects (Preserves P) x) : x.Keeps P := h

theorem respects_preserves_onDisk {α : Type} (d : Storage.Disk α) :
    Respects (Preserves P) (onDisk d) := keeps_onDisk d

theorem respects_preserves_note (e : Event) : Respects (Preserves P) (note e) := keeps_note e

theorem Storage.respects_preserves_savePrivately (p : Path) (v : Json.Value) :
    Respects (Preserves P) (savePrivately p v) :=
  respects_savePrivately respects_preserves_onDisk respects_preserves_note p v

namespace Settings

theorem keeps_load : load.Keeps P :=
  (respects_load_of (fun _ => respects_preserves_onDisk _) respects_preserves_note).keeps

theorem keeps_historyPath (s : Settings) : s.historyPath.Keeps P :=
  (respects_historyPath s).of_eq.keeps

end Settings

namespace History.Store

theorem keeps_entries (s : Store) : s.entries.Keeps P :=
  (respects_entries_of (fun _ => respects_preserves_onDisk _) respects_preserves_note s).keeps

theorem keeps_save (s : Store) (entries : List Entry) : (s.save entries).Keeps P :=
  (respects_save respects_preserves_note
    (Storage.respects_preserves_savePrivately s.path) entries).keeps

theorem keeps_add (s : Store) (command : Text) (e : Explanation) (level : Option Risk.Level) :
    (s.add command e level).Keeps P :=
  (respects_add (fun _ => respects_preserves_onDisk _) respects_preserves_note
    (fun _ _ _ h => h) (Storage.respects_preserves_savePrivately s.path) command e level).keeps

theorem keeps_edit (s : Store) (change : List Entry → Option (List Entry)) :
    (s.edit change).Keeps P :=
  (respects_edit (fun _ => respects_preserves_onDisk _) respects_preserves_note
    (Storage.respects_preserves_savePrivately s.path) change).keeps

theorem keeps_toggleFavorite (s : Store) (id : Text) : (s.toggleFavorite id).Keeps P := by
  refine (keeps_edit s _).bind fun result => ?_
  split
  · exact keeps_pure _
  · exact keeps_pure _

theorem keeps_recent (s : Store) (days now : Number.Quantity) : (s.recent days now).Keeps P := by
  unfold recent
  split
  · exact (keeps_entries s).bind fun _ => keeps_pure _
  · exact keeps_throw _

end History.Store

theorem Explanation.keeps_send (service : Service) (request : Request) :
    (send service request).Keeps P := by
  have hsent : Keeps P (modify fun w => { w with requests := w.requests ++ [request] }) :=
    fun _ h => h
  refine hsent.bind fun _ => ?_
  split
  · exact keeps_pure _
  · exact keeps_throw _

theorem Explanation.keeps_ask (service : Service) (settings : Settings) (line : Text) :
    (ask service settings line).Keeps P := by
  refine .ite ((keeps_throw _).bind fun _ => ?_) ?_
  all_goals
    refine (keeps_noteVerdict _).bind fun _ => (keeps_note _).bind fun _ =>
      (keeps_note _).bind fun _ => (keeps_send service _).bind fun content =>
        (keeps_note _).bind fun _ => keeps_get.bind fun _ => ?_
    split
    · exact keeps_pure _
    · exact keeps_throw _
    · exact keeps_throw _
    · exact (keeps_note _).bind fun _ => keeps_pure _

namespace Program

theorem keeps_sayAll (lines : List Text) : (sayAll lines).Keeps P := by
  induction lines with
  | nil => exact keeps_pure _
  | cons line rest ih => exact (keeps_say line).bind fun _ => ih

theorem keeps_sayForOthers (v : Json.Value) : (sayForOthers v).Keeps P := by
  unfold sayForOthers
  split
  · exact keeps_say _
  · exact keeps_throw _

theorem keeps_sayEntries (entries : List History.Entry) : (sayEntries entries).Keeps P :=
  .ite ((keeps_say _).bind fun _ => keeps_pure _) ((keeps_sayAll _).bind fun _ => keeps_pure _)

theorem keeps_store (settings : Settings) : (store settings).Keeps P :=
  (Settings.keeps_historyPath settings).bind fun _ => keeps_pure _

theorem keeps_changeEntry (history : History.Store) (id : Text) {change : Action Text}
    (h : change.Keeps P) : (changeEntry history id change).Keeps P := by
  refine ((History.Store.keeps_entries history).bind fun _ => keeps_pure _).bind fun found => ?_
  split
  · exact keeps_pure _
  · exact h.bind fun text => (keeps_say text).bind fun _ => keeps_pure _

open History.Store in
theorem keeps_useHistory (history : History.Store) (request : HistoryRequest) :
    (useHistory history request).Keeps P := by
  cases request with
  | everything => exact (keeps_entries history).bind keeps_sayEntries
  | search query =>
    exact ((keeps_entries history).bind fun _ => keeps_pure _).bind keeps_sayEntries
  | favorites => exact ((keeps_entries history).bind fun _ => keeps_pure _).bind keeps_sayEntries
  | tagged tags => exact (keeps_entries history).bind fun _ => keeps_sayEntries _
  | recent days =>
    cases days with
    | none => exact keeps_get.bind fun w => keeps_throw _
    | some days => exact keeps_get.bind fun w => (keeps_recent history _ _).bind keeps_sayEntries
  | toggleFavorite id =>
    refine keeps_changeEntry history id ?_
    exact (keeps_toggleFavorite history id).bind fun _ => keeps_pure _
  | addTag id tag =>
    refine keeps_changeEntry history id ?_
    exact ((keeps_edit history _).bind fun _ => keeps_pure _).bind fun _ => keeps_pure _
  | removeTag id tag =>
    refine keeps_changeEntry history id ?_
    exact ((keeps_edit history _).bind fun _ => keeps_pure _).bind fun _ => keeps_pure _
  | clear =>
    exact (keeps_save history []).bind fun _ => (keeps_say _).bind fun _ => keeps_pure _

end Program

end Unasked

/-! ## Requests and runs -/

namespace Program

theorem keeps_tokenize (colours : Bool) (words : List Text) (asData : Bool) :
    (tokenize colours words asData).Keeps (·.IsFaithful inspect) := by
  refine (keeps_report _).bind fun report => .ite ?_ ?_
  · exact (keeps_say _).bind fun _ => keeps_pure _
  · exact (keeps_say _).bind fun _ => (keeps_sayAll _).bind fun _ => keeps_pure _

theorem keeps_assess (colours : Bool) (words : List Text) (asData strict : Bool) :
    (assess colours words asData strict).Keeps (·.IsFaithful inspect) := by
  refine (keeps_report _).bind fun report => .ite ?_ ?_
  · exact (keeps_sayForOthers _).bind fun _ => keeps_pure _
  · exact (keeps_say _).bind fun _ => (keeps_say _).bind fun _ => (keeps_say _).bind fun _ =>
      keeps_pure _

theorem keeps_sayExplanation (colours : Bool) (command : Text) (e : Explanation) :
    (sayExplanation colours command e).Keeps (·.IsFaithful inspect) :=
  (keeps_report _).bind fun _ => (keeps_say _).bind fun _ => (keeps_sayAll _).bind fun _ =>
    keeps_say _

theorem keeps_explain (service : Explanation.Service) (settings : Settings) (colours : Bool)
    (words : List Text) (asData saves : Bool) :
    (explain service settings colours words asData saves).Keeps (·.IsFaithful inspect) := by
  refine (Explanation.keeps_ask _ _ _).bind fun explanation => .ite
    ((keeps_sayForOthers _).bind fun _ => ?_) ((keeps_sayExplanation _ _ _).bind fun _ => ?_)
  all_goals
    refine .ite ?_ (keeps_pure _)
    exact (keeps_store settings).bind fun history => (keeps_report _).bind fun report =>
      (History.Store.keeps_add history _ _ _).bind fun _ => keeps_pure _

/-- What a request does leaves a faithful cache faithful. -/
theorem keeps_perform (service : Explanation.Service) (settings : Settings) (colours : Bool)
    (request : Request) :
    (perform service settings colours request).Keeps (·.IsFaithful inspect) := by
  cases request with
  | tokenize words asData => exact keeps_tokenize colours words asData
  | assess words asData strict => exact keeps_assess colours words asData strict
  | explain words asData saves => exact keeps_explain service settings colours words asData saves
  | history request => exact (keeps_store settings).bind fun s => keeps_useHistory s request

theorem keeps_serve (service : Explanation.Service) (terminal : Bool) (request : Request) :
    (serve service terminal request).Keeps (·.IsFaithful inspect) := by
  refine Settings.keeps_load.bind fun settings => keeps_get.bind fun w => ?_
  exact (keeps_perform _ _ _ _).tryCatch fun _ => (keeps_note _).bind fun _ => keeps_pure _

/-- **A run leaves a faithful cache faithful,** however it ends. -/
theorem isFaithful_run {w : Workspace} (h : w.reports.IsFaithful inspect)
    (service : Explanation.Service) (terminal : Bool) (arguments : List Text) :
    (run service terminal arguments w).2.reports.IsFaithful inspect := by
  rw [run]
  split
  · exact h
  · next invocation _ =>
    have hafter := keeps_serve service terminal invocation.request
      { w with journal := [], printed := [] } h
    cases hrun : (serve service terminal invocation.request).run
        { w with journal := [], printed := [] } with
    | ok outcome w₁ =>
      rw [hrun] at hafter
      exact hafter
    | error failure w₁ =>
      rw [hrun] at hafter
      exact hafter

end Program

end CommandAdvisor
