import CommandAdvisor.Proofs.History.Stored
import CommandAdvisor.Proofs.Program.Reports
import CommandAdvisor.Proofs.Risk.Soundness
import CommandAdvisor.Proofs.Usage.Arguments

/-!
# Runs with a command line

A run whose arguments name a subcommand with a command line either serves the request about
that line, or ends before anything is done because a word was misread. The status of an
assessment tells whether the line is safe, where this is asked for and the verdict can be
printed.

## Main definitions
* `atStart`: a workspace as a run finds it.

## Main statements
* `run_assess` and `status_assess`: the outcome of an assessment and its status.
* `ending_of_misreads`: how a run with a misread word ends.
* `run_command_line`: the whole way from the arguments to the status.
-/
namespace CommandAdvisor

open Inspection (inspect)
open Usage (Invocation Request Subcommand inFront)

namespace Program

open CommandAdvisor.Action

/-! ## Verdicts -/

theorem run_sayForOthers_of_isSound {v : Json.Value} (h : v.IsSound) (w : Workspace) :
    ∃ w', (sayForOthers v).run w = .ok () w' := by
  rw [sayForOthers, Json.Value.writeExchange, h]
  exact ⟨_, rfl⟩

theorem run_sayForOthers_of_not_isSound {v : Json.Value} (h : ¬v.IsSound) (w : Workspace) :
    ∃ failure, (sayForOthers v).run w = .error failure w := by
  obtain ⟨obstacle, hobstacle⟩ := Option.ne_none_iff_exists'.1 h
  rw [sayForOthers, Json.Value.writeExchange, hobstacle]
  exact ⟨_, rfl⟩

theorem isSound_inspect (line : Text) :
    (inspect line).analysis.encode.IsSound ↔ line.isSound = true :=
  Risk.Analysis.isSound_encode.trans (Risk.isSound_assess_iff Risk.Registry.isSound_builtIn line)

/-- The outcome of an assessment that can be shown. -/
theorem run_assess {w : Workspace} (h : w.reports.IsFaithful inspect) (colours : Bool)
    {words : List Text} {asData : Bool} (hshown : asData = true → (joined words).isSound = true)
    (strict : Bool) :
    ∃ w', (assess colours words asData strict).run w =
      .ok (if strict && !Risk.isCommandSafe .builtIn (joined words) then ⟨1, none⟩ else .done)
        w' := by
  obtain ⟨w₁, hreport⟩ := run_report h (joined words)
  rw [assess, run_bind_of_ok hreport]
  cases asData with
  | true =>
    obtain ⟨w₂, hsay⟩ := run_sayForOthers_of_isSound ((isSound_inspect _).2 (hshown rfl)) w₁
    refine ⟨w₂, ?_⟩
    exact run_bind_of_ok hsay
  | false =>
    exact ⟨_, rfl⟩

/-- A verdict that holds half of a surrogate pair cannot be printed for others to read. -/
theorem run_assess_of_not_isSound {w : Workspace} (h : w.reports.IsFaithful inspect)
    (colours : Bool) {words : List Text} (hline : (joined words).isSound ≠ true) (strict : Bool) :
    ∃ failure w', (assess colours words true strict).run w = .error failure w' := by
  obtain ⟨w₁, hreport⟩ := run_report h (joined words)
  obtain ⟨failure, hfails⟩ := run_sayForOthers_of_not_isSound
    (fun hsound => hline ((isSound_inspect _).1 hsound)) w₁
  refine ⟨failure, w₁, ?_⟩
  rw [assess, run_bind_of_ok hreport]
  exact run_bind_of_error hfails

/-! ## Runs -/

section Serve

variable {service : Explanation.Service} {terminal : Bool} {request : Request}
  {settings : Settings} {w w₁ w₂ : Workspace}

theorem run_serve_of_ok (hload : Settings.load.run w = .ok settings w₁) {outcome : Outcome}
    (hperform : (perform service settings (usesColours w₁ terminal settings.color) request).run w₁ =
      .ok outcome w₂) :
    (serve service terminal request).run w = .ok outcome w₂ := by
  rw [serve, run_bind_of_ok hload, run_bind_of_ok (EStateM.run_get w₁)]
  dsimp only
  rw [run_tryCatch, hperform]

/-- A failure ends in a complaint. -/
theorem run_serve_of_error (hload : Settings.load.run w = .ok settings w₁) {failure : Failure}
    (hperform : (perform service settings (usesColours w₁ terminal settings.color) request).run w₁ =
      .error failure w₂) :
    (serve service terminal request).run w = .ok (.failed failure.message)
      { w₂ with journal := w₂.journal ++ [.subcommandFailed request.subcommand.name] } := by
  rw [serve, run_bind_of_ok hload, run_bind_of_ok (EStateM.run_get w₁)]
  dsimp only
  rw [run_tryCatch, hperform]
  rfl

end Serve

/-- **The status of an assessment** that can be made: one where the command line is not safe
and this was asked for, and where the verdict cannot be printed. -/
theorem status_assess (service : Explanation.Service) (terminal : Bool) {settings : Settings}
    {w w₁ : Workspace} (h : w.reports.IsFaithful inspect)
    (hload : Settings.load.run w = .ok settings w₁) (words : List Text) (asData strict : Bool) :
    ∃ outcome w₂, (serve service terminal (.assess words asData strict)).run w = .ok outcome w₂ ∧
      (outcome.status = 1 ↔
        strict = true ∧ Risk.isCommandSafe .builtIn (joined words) = false ∨
          asData = true ∧ (joined words).isSound = false) := by
  have hloaded := Settings.keeps_load (P := (·.IsFaithful inspect)) w h
  rw [hload] at hloaded
  by_cases hshown : asData = true → (joined words).isSound = true
  · obtain ⟨w₂, hrun⟩ := run_assess hloaded (usesColours w₁ terminal settings.color) hshown strict
    refine ⟨_, w₂, run_serve_of_ok hload hrun, ?_⟩
    have hno : ¬(asData = true ∧ (joined words).isSound = false) := by
      rintro ⟨hdata, hline⟩
      rw [hshown hdata] at hline
      cases hline
    rw [or_iff_left hno]
    cases strict <;> cases Risk.isCommandSafe .builtIn (joined words) <;> simp [Outcome.done]
  · obtain ⟨hdata, hline⟩ := Classical.not_imp.1 hshown
    subst hdata
    obtain ⟨failure, w₂, hrun⟩ :=
      run_assess_of_not_isSound hloaded (usesColours w₁ terminal settings.color) hline strict
    have hperform : (perform service settings (usesColours w₁ terminal settings.color)
        (.assess words true strict)).run w₁ = .error failure w₂ := hrun
    refine ⟨_, _, run_serve_of_error hload hperform, ?_⟩
    simp [Outcome.failed, Bool.eq_false_iff.2 hline]

theorem joined_singleton (line : Text) : joined [line] = line := by
  simp [joined, Text.joinedBy]

/-- Only the command line in one piece matters to a request. -/
theorem serve_requestOf (service : Explanation.Service) (terminal : Bool) (c : Subcommand)
    (words written : List Text) :
    serve service terminal (c.requestOf words written) =
      serve service terminal (c.requestOf [joined words] written) := by
  have hjoined := joined_singleton (joined words)
  cases c with
  | tokenize => simp only [serve, Subcommand.requestOf, perform, tokenize, hjoined]; rfl
  | assess => simp only [serve, Subcommand.requestOf, perform, assess, hjoined]; rfl
  | explain => simp only [serve, Subcommand.requestOf, perform, explain, hjoined]; rfl
  | history => rfl

theorem ending_transcribe_ne_stopped (debug : Bool)
    (result : EStateM.Result Failure Workspace Outcome) (status : Nat) :
    (transcribe debug result).1.ending ≠ .stopped status := by
  cases result <;> simp [transcribe]

/-- A workspace as a run finds it: nothing has been noted or printed yet. -/
def atStart (w : Workspace) : Workspace := { w with journal := [], printed := [] }

/-- A run whose arguments ask for something serves the request. -/
theorem run_of_ofArguments {arguments : List Text} {invocation : Invocation}
    (h : Invocation.ofArguments arguments = .ok invocation) (service : Explanation.Service)
    (terminal : Bool) (w : Workspace) :
    run service terminal arguments w = transcribe invocation.debug
      ((serve service terminal invocation.request).run (atStart w)) := by
  rw [run, h]
  rfl

section Asked

variable {arguments : List Text} {invocation : Invocation} {service : Explanation.Service}
  {terminal : Bool} {settings : Settings} {w w₀ w₁ : Workspace}

/-- A run shows what became of the request. -/
theorem run_of_perform_ok (h : Invocation.ofArguments arguments = .ok invocation)
    (hload : Settings.load.run (atStart w) = .ok settings w₀) {outcome : Outcome}
    (hperform : (perform service settings (usesColours w₀ terminal settings.color)
      invocation.request).run w₀ = .ok outcome w₁) :
    run service terminal arguments w = transcribe invocation.debug (.ok outcome w₁) := by
  rw [run_of_ofArguments h, run_serve_of_ok hload hperform]

/-- A run shows a complaint where the request failed. -/
theorem run_of_perform_error (h : Invocation.ofArguments arguments = .ok invocation)
    (hload : Settings.load.run (atStart w) = .ok settings w₀) {failure : Failure}
    (hperform : (perform service settings (usesColours w₀ terminal settings.color)
      invocation.request).run w₀ = .error failure w₁) :
    run service terminal arguments w = transcribe invocation.debug (.ok (.failed failure.message)
      { w₁ with journal :=
        w₁.journal ++ [.subcommandFailed invocation.request.subcommand.name] }) := by
  rw [run_of_ofArguments h, run_serve_of_error hload hperform]

end Asked

/-- A run whose arguments end in a message does nothing else. -/
theorem run_of_stop {arguments : List Text} {stop : Usage.Stop}
    (h : Invocation.ofArguments arguments = .error stop) (service : Explanation.Service)
    (terminal : Bool) (w : Workspace) :
    run service terminal arguments w = (stopped w stop, w) := by
  rw [run, h]

theorem ending_of_misused {arguments : List Text} {page : Usage.Page} {m : Usage.Misuse}
    (h : Invocation.ofArguments arguments = .error (.misused page m))
    (service : Explanation.Service) (terminal : Bool) (w : Workspace) :
    (run service terminal arguments w).1.ending = .stopped 2 := by
  rw [run_of_stop h]
  rfl

theorem ending_of_help {arguments : List Text} {page : Usage.Page}
    (h : Invocation.ofArguments arguments = .error (.help page))
    (service : Explanation.Service) (terminal : Bool) (w : Workspace) :
    (run service terminal arguments w).1.ending = .stopped 0 := by
  rw [run_of_stop h]
  rfl

/-- A misread word ends a run before anything is done. -/
theorem ending_of_misreads {c : Subcommand} {leading tail : List Text} (hc : c ≠ .history)
    (hleading : ∀ word ∈ leading, Usage.IsDebug word)
    (hhelp : ∀ word ∈ inFront tail, word ≠ "-h" ∧ word ≠ "--help")
    (hmisread : ∃ word ∈ inFront tail, c.Misreads word) (service : Explanation.Service)
    (terminal : Bool) (w : Workspace) :
    (run service terminal (leading ++ c.name :: tail) w).1.ending = .stopped 2 ∨
      (∃ word ∈ inFront tail, Usage.BundlesHelp word) ∧
        (run service terminal (leading ++ c.name :: tail) w).1.ending = .stopped 0 := by
  by_cases hbare : ∃ word ∈ inFront tail, Usage.IsBare word
  · obtain ⟨m, hm⟩ := Usage.ofArguments_of_isBare c hleading hbare
    exact .inl (ending_of_misused hm service terminal w)
  · have hnone : ∀ word ∈ inFront tail, ¬Usage.IsBare word := by simpa using hbare
    have happart : ∃ word ∈ inFront tail, c.grammar.TakesApart word := by
      obtain ⟨word, hword, hcase⟩ := hmisread
      exact ⟨word, hword, hcase.resolve_left (hnone word hword)⟩
    obtain ⟨stop, hstop, hcause⟩ := Subcommand.requestOfTail_of_takesApart hc hhelp happart []
    have harguments : Invocation.ofArguments (leading ++ c.name :: tail) = .error stop := by
      rw [Usage.ofArguments_eq c hleading hnone, hstop]
      rfl
    rcases hcause with ⟨m, rfl⟩ | ⟨hbundle, rfl⟩
    · exact .inl (ending_of_misused harguments service terminal w)
    · exact .inr ⟨hbundle, ending_of_help harguments service terminal w⟩

/-- **The words behind a subcommand make up the command line** where none of them is misread:
the run serves the request about all words but the flags, joined by spaces, and an assessment
that was asked to tells by its status whether the line is safe, unless its verdict cannot be
printed. A word that is misread ends the run before anything is done: in the message that the
program was called wrongly, or in the help page. -/
theorem run_command_line {c : Subcommand} {leading tail : List Text} (hc : c ≠ .history)
    (hleading : ∀ word ∈ leading, word = "-d" ∨ word = "--debug")
    (hhelp : ∀ word ∈ inFront tail, word ≠ "-h" ∧ word ≠ "--help")
    (hwords : c.lineWords tail ≠ []) (service : Explanation.Service) (terminal : Bool)
    (w : Workspace) :
    let line := joined (c.lineWords tail)
    let result := run service terminal (leading ++ c.name :: tail) w
    ((∀ word ∈ inFront tail, ¬c.Misreads word) →
      (∀ status, result.1.ending ≠ .stopped status) ∧
      result = transcribe (!leading.isEmpty)
        ((serve service terminal (c.requestOf [line] (inFront tail))).run (atStart w)) ∧
      (c = .assess → Text.ofString "--strict" ∈ inFront tail → w.reports.IsFaithful inspect →
        ∀ settings w', Settings.load.run (atStart w) = .ok settings w' →
          ∃ status, result.1.ending = .served status ∧
            (status = 1 ↔ Risk.isCommandSafe .builtIn line = false ∨
              Text.ofString "--json" ∈ inFront tail ∧ line.isSound = false))) ∧
    ((∃ word ∈ inFront tail, c.Misreads word) →
      result.1.ending = .stopped 2 ∨
        (∃ word ∈ inFront tail, Usage.BundlesHelp word) ∧ result.1.ending = .stopped 0) := by
  intro line result
  refine ⟨fun hclear => ?_, fun hmisread =>
    ending_of_misreads hc hleading hhelp hmisread service terminal w⟩
  have harguments : Invocation.ofArguments (leading ++ c.name :: tail) =
      .ok ⟨!leading.isEmpty, c.requestOf (c.lineWords tail) (inFront tail)⟩ := by
    rw [Usage.ofArguments_eq c hleading fun word hword hbare => hclear word hword (.inl hbare),
      Subcommand.requestOfTail_eq hc hhelp
        (fun word hword happart => hclear word hword (.inr happart)) hwords]
    rfl
  have hresult : result = transcribe (!leading.isEmpty)
      ((serve service terminal (c.requestOf [line] (inFront tail))).run (atStart w)) := by
    rw [← serve_requestOf]
    exact run_of_ofArguments harguments service terminal w
  rw [hresult]
  refine ⟨ending_transcribe_ne_stopped _ _, rfl, ?_⟩
  rintro rfl hstrict hfaithful settings w' hload
  have hstart : (atStart w).reports.IsFaithful inspect := hfaithful
  obtain ⟨outcome, w₂, hserve, hstatus⟩ := status_assess service terminal hstart hload [line]
    ((inFront tail).contains "--json") ((inFront tail).contains "--strict")
  refine ⟨outcome.status, ?_, ?_⟩
  · rw [Subcommand.requestOf, hserve]
    rfl
  · rw [hstatus, joined_singleton]
    simp [hstrict]

/-- A service that is out of reach. -/
def unreachable : Explanation.Service := fun _ => .error (.outage "unreachable")

/-- A flag behind the separator is a word, and a word that starts like the letter for help is
misread. -/
theorem run_command_line_separated :
    (run unreachable false ["-d", "assess", "rm", "--strict", "-x", "--", "--json"]
        History.Store.bareWorkspace).1.ending = .served 1 ∧
      (run unreachable false ["tokenize", "psql", "-hlocalhost"]
        History.Store.bareWorkspace).1.ending = .stopped 2 := by
  constructor
  · obtain ⟨settings, w', hload⟩ : ∃ settings w', Settings.load.run
        (atStart History.Store.bareWorkspace) = .ok settings w' := ⟨_, _, rfl⟩
    have hleading : ∀ word ∈ [Text.ofString "-d"], word = "-d" ∨ word = "--debug" := by decide
    have hhelp : ∀ word ∈ inFront ["rm", "--strict", "-x", "--", "--json"],
        word ≠ "-h" ∧ word ≠ "--help" := by decide
    have hfaithful : History.Store.bareWorkspace.reports.IsFaithful inspect :=
      Inspection.Cache.isFaithful_empty inspect
    have hunsafe : Risk.isCommandSafe .builtIn (joined (Subcommand.assess.lineWords
        ["rm", "--strict", "-x", "--", "--json"])) = false := by decide +kernel
    obtain ⟨hserves, -⟩ := run_command_line (c := .assess) (by decide) hleading hhelp (by decide)
      unreachable false History.Store.bareWorkspace
    obtain ⟨-, -, hassess⟩ := hserves (by decide)
    obtain ⟨status, hending, hstatus⟩ := hassess rfl (by decide) hfaithful settings w' hload
    rw [hstatus.2 (.inl hunsafe)] at hending
    exact hending
  · have hleading : ∀ word ∈ ([] : List Text), word = "-d" ∨ word = "--debug" := by decide
    have hhelp : ∀ word ∈ inFront ["psql", "-hlocalhost"], word ≠ "-h" ∧ word ≠ "--help" := by
      decide
    obtain ⟨-, hmisread⟩ := run_command_line (c := .tokenize) (by decide) hleading hhelp
      (by decide) unreachable false History.Store.bareWorkspace
    exact (hmisread (by decide)).resolve_right fun hbundle => absurd hbundle.1 (by decide)

end Program

end CommandAdvisor
