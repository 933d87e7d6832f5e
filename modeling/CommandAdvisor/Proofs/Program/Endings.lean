import CommandAdvisor.Proofs.Program.EntryEdits
import CommandAdvisor.Proofs.Settings.Unusable

/-!
# How runs end

A run that gets as far as a request ends with status zero or one: whatever fails while the request
is served ends in a complaint. What is left are runs whose arguments end in a message, and runs
whose settings cannot be used: settings are loaded before anything is served, and nothing takes
care of what goes wrong there.

## Main definitions
* `Gives`: the results of an action are of a kind.
* `MayEnd`: the outcomes of a request that does not fail.

## Main statements
* `gives_perform`: what becomes of a request that does not fail.
* `ending_eq_failed_iff`: which runs fail.
* `runs_end`: how every run ends.
-/
namespace CommandAdvisor

open CommandAdvisor.Action
open History (Edit Store)
open Usage (HistoryRequest Invocation Request)

/-! ## Results of a kind -/

namespace Action

variable {α β : Type} {post : α → Prop}

/-- The results of an action are of a kind. -/
def Gives (post : α → Prop) (x : Action α) : Prop := ∀ w a w', x.run w = .ok a w' → post a

theorem Gives.after {f : β → Action α} (hf : ∀ b, Gives post (f b)) (x : Action β) :
    Gives post (x >>= f) := by
  intro w a w' h
  obtain ⟨b, w₁, -, hrest⟩ := exists_of_run_bind_eq_ok h
  exact hf b w₁ a w' hrest

theorem gives_pure {a : α} (h : post a) : Gives post (pure a) := by
  intro w b w' hrun
  cases hrun
  exact h

theorem gives_throw (failure : Failure) : Gives post (throw failure : Action α) := by
  intro w a w' hrun
  cases hrun

theorem Gives.ite {c : Prop} [Decidable c] {x y : Action α} (hx : Gives post x)
    (hy : Gives post y) : Gives post (if c then x else y) := by
  split
  · exact hx
  · exact hy

end Action

namespace Program

/-! ## Requests that do not fail -/

/-- The outcomes of a request that does not fail. -/
inductive MayEnd : Request → Outcome → Prop where
  | done (request : Request) : MayEnd request .done
  /-- An assessment was asked to tell by its status that a line is not safe. -/
  | warned (words : List Text) (asData : Bool) : MayEnd (.assess words asData true) ⟨1, none⟩
  /-- An entry is to be edited that is not there. -/
  | unknown (d : Edit) (id : Text) :
      MayEnd (.history (d.request id)) (.failed ("no history entry with id " ++ id))

theorem gives_sayEntries (request : Request) (entries : List History.Entry) :
    Gives (MayEnd request) (sayEntries entries) :=
  .ite (.after (fun _ => gives_pure (.done request)) _)
    (.after (fun _ => gives_pure (.done request)) _)

theorem gives_changeEntry (history : Store) (d : Edit) (id : Text) (change : Action Text) :
    Gives (MayEnd (.history (d.request id))) (changeEntry history id change) := by
  refine .after (fun found => ?_) _
  split
  · exact gives_pure (.unknown d id)
  · exact .after (fun _ => .after (fun _ => gives_pure (.done _)) _) _

theorem gives_useHistory (history : Store) (asked : HistoryRequest) :
    Gives (MayEnd (.history asked)) (useHistory history asked) := by
  cases asked with
  | everything => exact .after (gives_sayEntries _) _
  | search query => exact .after (gives_sayEntries _) _
  | favorites => exact .after (gives_sayEntries _) _
  | tagged tags => exact .after (fun _ => gives_sayEntries _ _) _
  | recent days =>
    cases days with
    | none => exact .after (fun _ => gives_throw _) _
    | some days => exact .after (fun _ => .after (gives_sayEntries _) _) _
  | toggleFavorite id => exact gives_changeEntry history .toggleFavorite id _
  | addTag id tag => exact gives_changeEntry history (.addTag tag) id _
  | removeTag id tag => exact gives_changeEntry history (.removeTag tag) id _
  | clear => exact .after (fun _ => .after (fun _ => gives_pure (.done _)) _) _

theorem gives_assess (colours : Bool) (words : List Text) (asData strict : Bool) :
    Gives (MayEnd (.assess words asData strict)) (assess colours words asData strict) := by
  have houtcome (report : Inspection.Report) : MayEnd (.assess words asData strict)
      (if strict && !report.analysis.isSafe then ⟨1, none⟩ else .done) := by
    split
    next h =>
      obtain ⟨rfl, -⟩ := by simpa using h
      exact .warned words asData
    next => exact .done _
  refine .after (fun report => .ite ?_ ?_) _
  · exact .after (fun _ => gives_pure (houtcome report)) _
  · exact .after (fun _ => .after (fun _ => .after (fun _ => gives_pure (houtcome report)) _) _) _

theorem gives_explain (service : Explanation.Service) (settings : Settings) (colours : Bool)
    (words : List Text) (asData saves : Bool) :
    Gives (MayEnd (.explain words asData saves))
      (explain service settings colours words asData saves) := by
  refine .after (fun e => .ite (.after (fun _ => ?_) _) (.after (fun _ => ?_) _)) _
  all_goals
    refine .ite ?_ (gives_pure (.done _))
    exact .after (fun _ => .after (fun _ => .after (fun _ => gives_pure (.done _)) _) _) _

/-- **What becomes of a request that does not fail.** -/
theorem gives_perform (service : Explanation.Service) (settings : Settings) (colours : Bool)
    (request : Request) : Gives (MayEnd request) (perform service settings colours request) := by
  cases request with
  | tokenize words asData =>
    refine .after (fun report => .ite ?_ ?_) _
    · exact .after (fun _ => gives_pure (.done _)) _
    · exact .after (fun _ => .after (fun _ => gives_pure (.done _)) _) _
  | assess words asData strict => exact gives_assess colours words asData strict
  | explain words asData saves => exact gives_explain service settings colours words asData saves
  | history asked => exact .after (fun s => gives_useHistory s asked) _

/-! ## Runs -/

theorem status_eq_of_mayEnd {request : Request} {outcome : Outcome}
    (h : MayEnd request outcome) : outcome.status = 0 ∨ outcome.status = 1 := by
  cases h with
  | done => exact .inl rfl
  | warned => exact .inr rfl
  | unknown => exact .inr rfl

/-- Settings cannot be loaded at the start of a run exactly where they cannot be used. -/
theorem exists_run_load_atStart_iff {w : Workspace} {cause : Failure} :
    (∃ w₀, Settings.load.run (atStart w) = .error cause w₀) ↔ Settings.Unusable w cause :=
  Settings.exists_run_load_eq_error_iff.trans
    ⟨fun h => h.of_home rfl rfl rfl, fun h => h.of_home rfl rfl rfl⟩

section Asked

variable {arguments : List Text} {invocation : Invocation} {w w₀ w₁ : Workspace}
  (haccepted : Invocation.ofArguments arguments = .ok invocation)
include haccepted

/-- A run fails where its settings cannot be loaded. -/
theorem ending_of_run_load_error (service : Explanation.Service) (terminal : Bool)
    {cause : Failure} (hload : Settings.load.run (atStart w) = .error cause w₀) :
    (run service terminal arguments w).1.ending = .failed cause := by
  rw [run_of_ofArguments haccepted, serve, run_bind_of_error hload]
  rfl

variable {service : Explanation.Service} {terminal : Bool} {settings : Settings}
  (hload : Settings.load.run (atStart w) = .ok settings w₀)

include hload in
/-- A request that does not fail is shown by its outcome. -/
theorem showsOutcome_of_ok {outcome : Outcome}
    (hperform : (perform service settings (usesColours w₀ terminal settings.color)
      invocation.request).run w₀ = .ok outcome w₁) :
    ShowsOutcome invocation.debug (run service terminal arguments w) outcome ∧
      MayEnd invocation.request outcome := by
  refine ⟨?_, gives_perform _ _ _ _ w₀ outcome w₁ hperform⟩
  rw [run_of_perform_ok haccepted hload hperform]
  exact ⟨rfl, rfl⟩

include hload in
/-- A request that fails is shown by a complaint about the failure. -/
theorem showsOutcome_of_error {failure : Failure}
    (hperform : (perform service settings (usesColours w₀ terminal settings.color)
      invocation.request).run w₀ = .error failure w₁) :
    ShowsOutcome invocation.debug (run service terminal arguments w)
      (.failed failure.message) := by
  rw [run_of_perform_error haccepted hload hperform]
  exact ⟨rfl, rfl⟩

/-- A run whose settings can be loaded ends with status zero or one. -/
theorem ending_of_run_load_ok (service : Explanation.Service) (terminal : Bool)
    (hload : Settings.load.run (atStart w) = .ok settings w₀) :
    (run service terminal arguments w).1.ending = .served 0 ∨
      (run service terminal arguments w).1.ending = .served 1 := by
  cases hperform : (perform service settings (usesColours w₀ terminal settings.color)
      invocation.request).run w₀ with
  | ok outcome w₁ =>
    obtain ⟨hshows, hmay⟩ := showsOutcome_of_ok haccepted hload hperform
    rw [hshows.ending, Ending.served.injEq, Ending.served.injEq]
    exact status_eq_of_mayEnd hmay
  | error failure w₁ => exact .inr (showsOutcome_of_error haccepted hload hperform).ending

end Asked

section Unusable

variable {arguments : List Text} {invocation : Invocation} {w : Workspace}
  (haccepted : Invocation.ofArguments arguments = .ok invocation)
  (service : Explanation.Service) (terminal : Bool)
include haccepted

/-- A run fails exactly where its settings cannot be used, and for the same cause. -/
theorem ending_eq_failed_iff {cause : Failure} :
    (run service terminal arguments w).1.ending = .failed cause ↔ Settings.Unusable w cause := by
  constructor
  · intro h
    cases hload : Settings.load.run (atStart w) with
    | error cause' w₀ =>
      cases (ending_of_run_load_error haccepted service terminal hload).symm.trans h
      exact exists_run_load_atStart_iff.1 ⟨w₀, hload⟩
    | ok settings w₀ =>
      rcases ending_of_run_load_ok haccepted service terminal hload with hserved | hserved
      · cases hserved.symm.trans h
      · cases hserved.symm.trans h
  · intro h
    obtain ⟨w₀, hload⟩ := exists_run_load_atStart_iff.2 h
    exact ending_of_run_load_error haccepted service terminal hload

theorem ending_of_usable (h : ∀ cause, ¬Settings.Unusable w cause) :
    (run service terminal arguments w).1.ending = .served 0 ∨
      (run service terminal arguments w).1.ending = .served 1 := by
  cases hload : Settings.load.run (atStart w) with
  | error cause w₀ =>
    exact absurd (exists_run_load_atStart_iff.1 ⟨w₀, hload⟩) (h cause)
  | ok settings w₀ => exact ending_of_run_load_ok haccepted service terminal hload

end Unusable

/-- **How every run ends.** Arguments that end in a message end the run before anything is done.
A run whose settings cannot be used fails for the same cause, and only such a run does. Every
other run ends with status zero or one: if what was asked for fails, it complains about the
failure and the status is one; if not, the status is zero unless an assessment was to tell by it
that a line is not safe, or an entry is complained about that is not there. -/
theorem runs_end (service : Explanation.Service) (terminal : Bool) (arguments : List Text)
    (w : Workspace) :
    let result := run service terminal arguments w
    (∀ stop, Invocation.ofArguments arguments = .error stop →
      (result.1.ending = .stopped 0 ∨ result.1.ending = .stopped 2) ∧ result.2 = w) ∧
    ∀ invocation, Invocation.ofArguments arguments = .ok invocation →
      (∀ cause, result.1.ending = .failed cause ↔ Settings.Unusable w cause) ∧
      ((∀ cause, ¬Settings.Unusable w cause) →
        result.1.ending = .served 0 ∨ result.1.ending = .served 1) ∧
      ∀ settings w₀, Settings.load.run (atStart w) = .ok settings w₀ →
        let served := (perform service settings (usesColours w₀ terminal settings.color)
          invocation.request).run w₀
        (∀ failure w₁, served = .error failure w₁ →
          ShowsOutcome invocation.debug result (.failed failure.message)) ∧
        ∀ outcome w₁, served = .ok outcome w₁ →
          ShowsOutcome invocation.debug result outcome ∧ MayEnd invocation.request outcome := by
  intro result
  refine ⟨fun stop hstop => ?_, fun invocation haccepted => ?_⟩
  · have hresult : result = (stopped w stop, w) := run_of_stop hstop service terminal w
    rw [hresult]
    refine ⟨?_, rfl⟩
    cases stop with
    | help page => exact .inl rfl
    | version => exact .inl rfl
    | misused page misuse => exact .inr rfl
  · refine ⟨fun cause => ending_eq_failed_iff haccepted service terminal,
      ending_of_usable haccepted service terminal, fun settings w₀ hload => ⟨?_, ?_⟩⟩
    · exact fun failure w₁ hperform => showsOutcome_of_error haccepted hload hperform
    · exact fun outcome w₁ hperform => showsOutcome_of_ok haccepted hload hperform

/-- No setting says to keep no entry. -/
theorem refuses_zero : Settings.Refuses "max_history" (.integer 0) := by
  intro s hs
  have hdecode : Settings.decode (.object [("max_history", .integer 0)]) = .invalid _ := rfl
  cases hdecode.symm.trans hs

/-- A service that is out of reach is complained about; settings that are to keep no entry make
the run fail, and so do a thousand brackets in their place. -/
theorem runs_end_unreachable :
    (∃ before, (run unreachable false ["explain", "ls"] Store.bareWorkspace).1.complaints =
        unlines (before ++ [Text.ofString "Error: unreachable"])) ∧
      (run unreachable false ["explain", "ls"] Store.bareWorkspace).1.ending = .served 1 ∧
      (∃ issues, (run unreachable false ["explain", "ls"]
        (Settings.withStored "\x7b\"max_history\": 0\x7d".toUTF8)).1.ending =
          .failed (.invalid issues)) ∧
      (run unreachable false ["explain", "ls"]
        (Settings.withStored Settings.brackets.toUTF8)).1.ending =
          .failed (.exhausted .array) := by
  have haccepted : Invocation.ofArguments ["explain", "ls"] =
      .ok ⟨false, .explain ["ls"] false true⟩ := eq_ok_of_toOption (by decide +kernel)
  have hload : Settings.load.run (atStart Store.bareWorkspace) =
      .ok .standard (atStart Store.bareWorkspace) := rfl
  obtain ⟨w₁, hfails⟩ : ∃ w₁, (perform unreachable .standard
      (usesColours (atStart Store.bareWorkspace) false none) (.explain ["ls"] false true)).run
        (atStart Store.bareWorkspace) = .error (.service (.outage "unreachable")) w₁ := ⟨_, rfl⟩
  have hends (w : Workspace) := (runs_end unreachable false ["explain", "ls"] w).2 _ haccepted
  obtain ⟨-, -, hserved⟩ := hends Store.bareWorkspace
  obtain ⟨hcomplains, -⟩ := hserved .standard _ hload
  have hshows := hcomplains _ w₁ hfails
  have hfile (content : ByteArray) : (Settings.withStored content).files.access
      (Settings.withStored content).settingsFile = .ok (.file 0o600 content) := rfl
  have hread : Json.read .free "\x7b\"max_history\": 0\x7d" =
      .ok (.object [("max_history", .integer 0)]) := rfl
  have hroom : Json.exhaustion? .usual "\x7b\"max_history\": 0\x7d" = none :=
    Json.exhaustion?_eq_none_of_nesting (by decide)
  have hzero := Settings.Unusable.invalid (hfile "\x7b\"max_history\": 0\x7d".toUTF8)
    (Text.fromUTF8?_toUTF8 "\x7b\"max_history\": 0\x7d") hroom hread rfl refuses_zero
  have hdeep := Settings.Unusable.exhausted (hfile Settings.brackets.toUTF8)
    (Text.fromUTF8?_toUTF8 Settings.brackets) Settings.exhaustion?_brackets
  exact ⟨⟨_, hshows.complaints⟩, hshows.ending,
    ⟨_, ((hends _).1 _).2 hzero⟩, ((hends _).1 _).2 hdeep⟩

end Program

end CommandAdvisor
