import CommandAdvisor.Proofs.Explanation.Asking
import CommandAdvisor.Proofs.Program.CommandLine
import CommandAdvisor.Proofs.Writing

/-!
# Explaining a command

To explain a command one request is sent, and the explanation in the answer is printed and then
saved in front of what the history shows. Where any of this fails, every file is left alone.

## Main definitions
* `explanationText?`: what is printed of an explanation.
* `SameContents`: every file is as it was, and there is no new one.
* `FailsClean`: an action that fails leaves every file as it was.
* `SaysNothing`: nothing was printed and nothing was sent.

## Main statements
* `failsClean_explain`: a command that cannot be explained, shown or saved leaves no trace.
* `exists_of_run_explain`: what has happened when a command was explained and saved.
-/
namespace CommandAdvisor

open CommandAdvisor.Action
open History (Entry Store)
open Inspection (inspect)

/-! ## Files that are left alone -/

/-- Every file is as it was, and there is no new one. -/
def SameContents (w w' : Workspace) : Prop := ∀ place mode content,
  w'.files.node? place = some (.file mode content) ↔ w.files.node? place = some (.file mode content)

theorem SameFiles.sameContents {w w' : Workspace} (h : SameFiles w w') : SameContents w w' := by
  intro place mode content
  rw [h.1]

instance : IsPreorder Workspace SameContents where
  refl _ _ _ _ := Iff.rfl
  trans _ _ _ h h' place mode content := (h' place mode content).trans (h place mode content)

/-- An action that fails leaves every file as it was. -/
def FailsClean {α : Type} (x : Action α) : Prop :=
  ∀ w failure w', x.run w = .error failure w' → SameContents w w'

namespace FailsClean

variable {α β : Type} {x : Action α} {f : α → Action β}

theorem of_respects (h : Respects SameFiles x) : FailsClean x :=
  fun _ _ _ hrun => (h.of_run_eq_error hrun).sameContents

theorem after (hx : Respects SameFiles x) (hf : ∀ a, FailsClean (f a)) : FailsClean (x >>= f) := by
  intro w failure w' h
  rcases run_bind_eq_error h with hfails | ⟨a, w₁, hrun, hrest⟩
  · exact (hx.of_run_eq_error hfails).sameContents
  · exact IsTrans.trans _ _ _ (hx.of_run_eq_ok hrun).sameContents (hf a w₁ failure w' hrest)

theorem bind_pure (hx : FailsClean x) (b : β) : FailsClean (x >>= fun _ => pure b) := by
  intro w failure w' h
  rcases run_bind_eq_error h with hfails | ⟨a, w₁, -, hpure⟩
  · exact hx w failure w' hfails
  · cases hpure

theorem ite {c : Prop} [Decidable c] {y : Action α} (hx : FailsClean x) (hy : FailsClean y) :
    FailsClean (if c then x else y) := by
  split
  · exact hx
  · exact hy

end FailsClean

theorem History.Store.failsClean_add (s : Store) (command : Text) (e : Explanation)
    (level : Option Risk.Level) : FailsClean (s.add command e level) := by
  intro w failure w' h place mode content
  have hwrites := s.allOrNothing_add command e level w
  rw [h, AllOrNothing] at hwrites
  exact (hwrites.at_place place).node?_eq_file_iff

/-! ## Additions say nothing -/

/-- Nothing was printed and nothing was sent. -/
def SaysNothing (w w' : Workspace) : Prop := w'.printed = w.printed ∧ w'.requests = w.requests

instance : IsPreorder Workspace SaysNothing where
  refl _ := ⟨rfl, rfl⟩
  trans _ _ _ h h' := ⟨h'.1.trans h.1, h'.2.trans h.2⟩

theorem respects_saysNothing_onDisk {α : Type} (d : Storage.Disk α) :
    Respects SaysNothing (onDisk d) := by
  intro w
  rw [run_onDisk]
  cases d.run w.files <;> exact ⟨rfl, rfl⟩

theorem respects_saysNothing_note (e : Event) : Respects SaysNothing (note e) :=
  fun _ => ⟨rfl, rfl⟩

theorem History.Store.respects_saysNothing_add (s : Store) (command : Text) (e : Explanation)
    (level : Option Risk.Level) : Respects SaysNothing (s.add command e level) :=
  respects_add (fun _ => respects_saysNothing_onDisk _) respects_saysNothing_note
    (fun _ _ _ => ⟨rfl, rfl⟩)
    (Storage.respects_savePrivately respects_saysNothing_onDisk respects_saysNothing_note s.path)
    command e level

namespace Program

/-! ## Printing -/

theorem run_say (line : Text) (w : Workspace) :
    (say line).run w = .ok () { w with printed := w.printed ++ line ++ "\n" } := rfl

theorem run_sayAll (lines : List Text) (w : Workspace) :
    (sayAll lines).run w = .ok () { w with printed := w.printed ++ unlines lines } := by
  induction lines generalizing w with
  | nil => simp [sayAll, unlines, pure, EStateM.run, EStateM.pure]
  | cons line rest ih =>
    rw [sayAll, run_bind_of_ok (run_say line w), ih]
    simp [unlines]

/-- What is printed of an explanation; nothing can be printed for others to read if it holds half
of a surrogate pair. -/
def explanationText? (colours asData : Bool) (command : Text) (e : Explanation) : Option Text :=
  if asData then e.encode.writeExchange.toOption.map (· ++ "\n")
  else
    some (unlines (("\n  " ++ Display.tokensText colours (inspect command).tokens ++ "\n") ::
      Display.explanationLines colours e ++ [[]]))

/-- What printing an explanation does. -/
theorem run_sayForOthers_or_sayExplanation {w : Workspace} (h : w.reports.IsFaithful inspect)
    (colours asData : Bool) (command : Text) (e : Explanation) :
    let printing := if asData then sayForOthers e.encode else sayExplanation colours command e
    (∃ failure, printing.run w = .error failure w) ∨
      ∃ text w', explanationText? colours asData command e = some text ∧
        SameBesidesNotes { w with printed := w.printed ++ text } w' ∧
        w'.reports.IsFaithful inspect ∧ printing.run w = .ok () w' := by
  dsimp only
  cases asData with
  | true =>
    cases hwrite : e.encode.writeExchange with
    | error obstacle =>
      refine .inl ⟨.unreadable obstacle, ?_⟩
      rw [if_pos rfl, sayForOthers, hwrite]
      rfl
    | ok text =>
      refine .inr ⟨text ++ "\n", { w with printed := w.printed ++ (text ++ "\n") }, ?_,
        Std.Refl.refl _, h, ?_⟩
      · simp [explanationText?, hwrite, Except.toOption]
      · rw [if_pos rfl, sayForOthers, hwrite, ← List.append_assoc]
        rfl
  | false =>
    obtain ⟨w₁, hreport⟩ := run_report h command
    have hkeeps := keeps_report command w h
    rw [hreport] at hkeeps
    obtain ⟨reports, journal, rfl⟩ := (respects_report command).of_run_eq_ok hreport
    refine .inr ⟨_, _, rfl, ⟨reports, journal, rfl⟩, hkeeps, ?_⟩
    rw [if_neg (by decide), sayExplanation, run_bind_of_ok hreport, sayTokens,
      run_bind_of_ok (run_say _ _), run_bind_of_ok (run_sayAll _ _)]
    refine (run_say _ _).trans ?_
    have hempty : Text.ofString "" = [] := rfl
    simp [unlines, hempty]

/-! ## Explaining -/

theorem respects_store (settings : Settings) : Respects Eq (store settings) :=
  (Settings.respects_historyPath settings).bind fun _ => respects_pure _

/-- Where a history is depends on the home directory, the environment and the users of the
host. -/
theorem run_store_of_home {settings : Settings} {s : Store} {w w' w₁ : Workspace}
    (h : (store settings).run w = .ok s w₁) (hhome : w'.home = w.home)
    (henvironment : w'.environment = w.environment) (hhost : w'.host = w.host) :
    (store settings).run w' = .ok s w' := by
  obtain ⟨p, w₂, hpath, hpure⟩ := exists_of_run_bind_eq_ok h
  have hpath' := Settings.run_historyPath_of_home hpath hhome henvironment hhost
  cases hpure
  exact run_bind_of_ok hpath'

theorem limit_of_run_store {settings : Settings} {s : Store} {w w' : Workspace}
    (h : (store settings).run w = .ok s w') : s.limit = settings.maxHistory := by
  obtain ⟨p, w₁, -, hpure⟩ := exists_of_run_bind_eq_ok h
  cases hpure
  rfl

theorem respects_report_sameFiles (line : Text) : Respects SameFiles (report line) :=
  (respects_report line).mono fun _ _ => SameBesidesNotes.sameFiles

theorem respects_sayAll (lines : List Text) : Respects SameFiles (sayAll lines) := by
  intro w
  rw [run_sayAll]
  exact ⟨rfl, rfl⟩

theorem respects_sayForOthers (v : Json.Value) : Respects SameFiles (sayForOthers v) := by
  unfold sayForOthers
  split
  · exact fun _ => ⟨rfl, rfl⟩
  · exact respects_throw _

theorem respects_sayExplanation (colours : Bool) (command : Text) (e : Explanation) :
    Respects SameFiles (sayExplanation colours command e) := by
  have hsay (line : Text) : Respects SameFiles (say line) := fun _ => ⟨rfl, rfl⟩
  exact (respects_report_sameFiles command).bind fun _ => (hsay _).bind fun _ =>
    (respects_sayAll _).bind fun _ => hsay _

variable {service : Explanation.Service} {settings : Settings} {colours asData saves : Bool}
  {words : List Text} {w w' : Workspace}

/-- A command that is not to be saved leaves every file alone. -/
theorem respects_explain_unsaved (service : Explanation.Service) (settings : Settings)
    (colours : Bool) (words : List Text) (asData : Bool) :
    Respects SameFiles (explain service settings colours words asData false) :=
  (Explanation.respects_ask service settings _).bind fun _ => .ite
    ((respects_sayForOthers _).bind fun _ => respects_pure _)
    ((respects_sayExplanation _ _ _).bind fun _ => respects_pure _)

/-- **A command that cannot be explained, shown or saved leaves every file alone.** -/
theorem failsClean_explain (service : Explanation.Service) (settings : Settings)
    (colours : Bool) (words : List Text) (asData saves : Bool) :
    FailsClean (explain service settings colours words asData saves) := by
  refine .after (Explanation.respects_ask service settings _) fun e => .ite
    (.after (respects_sayForOthers _) fun _ => ?_) (.after (respects_sayExplanation _ _ _) fun _ => ?_)
  all_goals
    refine .ite ?_ (.of_respects (respects_pure _))
    have hstore : Respects SameFiles (store settings) := (respects_store settings).of_eq
    exact .after hstore fun history => .after (respects_report_sameFiles _)
      fun report => (history.failsClean_add _ _ _).bind_pure _

/-- Printing comes before saving, in either form. -/
theorem explain_saved_eq (service : Explanation.Service) (settings : Settings) (colours : Bool)
    (words : List Text) (asData : Bool) :
    explain service settings colours words asData true = (do
      let command := Text.trim (joined words)
      let e ← Explanation.ask service settings command
      (if asData then sayForOthers e.encode else sayExplanation colours command e)
      let history ← store settings
      let report ← report command
      let _ ← history.add command e (some report.analysis.level)
      return .done) := by
  cases asData <;> rfl

/-- What has happened when a command was explained and saved. -/
theorem exists_of_run_explain (hw : w.reports.IsFaithful inspect) {outcome : Outcome}
    (h : (explain service settings colours words asData true).run w = .ok outcome w') :
    let command := Text.trim (joined words)
    let request := Explanation.requestFor settings command (Risk.summary command)
    ∃ content e text s prior new,
      outcome = .done ∧
      service request = .ok content ∧
      Explanation.explanationOf w.host.room command (Text.trim (content.getD [])) = .ok e ∧
      w'.requests = w.requests ++ [request] ∧
      explanationText? colours asData command e = some text ∧
      w'.printed = w.printed ++ text ∧
      (store settings).run w = .ok s w ∧
      (∃ w₁, s.entries.run w = .ok prior w₁) ∧
      (History.Call.add w.clock w.issued command e
        (some (Risk.assess .builtIn command).level)).addition? = some new ∧
      ∃ w₁, (s.save (History.remember s.limit new prior)).run w₁ = .ok () w' := by
  intro command request
  rw [explain_saved_eq] at h
  obtain ⟨e, w₁, hask, hrest⟩ := exists_of_run_bind_eq_ok h
  have htrim : Text.trim command = command := Text.trim_trim _
  have hkept := Explanation.keeps_ask (P := (·.IsFaithful inspect)) service settings command w hw
  obtain ⟨hsent, content, hcontent, he⟩ := Explanation.exists_of_run_ask hask
  rw [hask] at hkept
  rw [htrim] at hsent hcontent he
  obtain ⟨_, w₂, hprinting, hsaving⟩ := exists_of_run_bind_eq_ok hrest
  rcases run_sayForOthers_or_sayExplanation hkept colours asData command e with
    ⟨failure, hfails⟩ | ⟨text, w₂', htext, hprinted, hfaithful, hdone⟩
  · cases hfails.symm.trans hprinting
  cases hdone.symm.trans hprinting
  obtain ⟨s, w₃, hstore, hadding⟩ := exists_of_run_bind_eq_ok hsaving
  cases (respects_store settings).of_run_eq_ok hstore
  obtain ⟨w₄, hreport⟩ := run_report hfaithful command
  rw [run_bind_of_ok hreport] at hadding
  have hnoted := (respects_report command).of_run_eq_ok hreport
  obtain ⟨new, w₅, hadd, hpure⟩ := exists_of_run_bind_eq_ok hadding
  cases hpure
  have hquiet := (s.respects_saysNothing_add _ _ _).of_run_eq_ok hadd
  -- Up to the addition nothing but notes, output and the request set the workspaces apart.
  obtain ⟨reports₁, journal₁, rfl⟩ := hsent
  obtain ⟨reports₂, journal₂, rfl⟩ := hprinted
  obtain ⟨reports₃, journal₃, rfl⟩ := hnoted
  obtain ⟨hnew, prior, w₆, w₇, hprior, -, hsave⟩ := History.Store.exists_of_run_add hadd
  exact ⟨content, e, text, s, prior, new, rfl, hcontent, he, hquiet.2, htext, hquiet.1,
    run_store_of_home hstore rfl rfl rfl, History.Store.exists_run_entries_of_files hprior rfl,
    hnew, w₇, hsave⟩

end Program

end CommandAdvisor
