import CommandAdvisor.Proofs.Command.Record
import CommandAdvisor.Proofs.Explanation.Asking
import CommandAdvisor.Proofs.Program.CommandLine
import CommandAdvisor.Proofs.Program.Explaining

/-!
# Data that runs print

Tokens are printed in the portable style, verdicts and explanations in the one for exchange, and
whoever reads them may be of either dialect. What is read is what was to be printed, unless there
is half of a surrogate pair in it.

## Main statements
* `ofArguments_line`: every command line can be asked for as data.
* `run_tokenize_asData`: what is printed of the tokens of a line.
* `printed_data_returns`: what is read in printed data.
-/
namespace CommandAdvisor.Program

open CommandAdvisor.Action
open Command (Token knownCommands)
open Explanation (IsSoundAnswer)
open Inspection (inspect)
open Json (Value)
open Record (Returns)
open Usage (Invocation Subcommand inFront)

/-- Behind the separator every line can be given in one piece. -/
theorem ofArguments_line (line : Text) :
    Invocation.ofArguments ["tokenize", "--json", "--", line] =
      .ok ⟨false, .tokenize [line] true⟩ := by
  have hfront : inFront ["--json", "--", line] = ["--json"] := rfl
  have hwords : Subcommand.tokenize.lineWords ["--json", "--", line] = [line] := rfl
  have hread : ∀ word ∈ inFront ["--json", "--", line],
      (word ≠ "-h" ∧ word ≠ "--help") ∧ ¬Subcommand.tokenize.Misreads word := by
    rw [hfront]
    decide
  have hrequest := Subcommand.requestOfTail_eq (c := .tokenize) (by decide)
    (fun word hword => (hread word hword).1)
    (fun word hword happart => (hread word hword).2 (.inr happart)) (by simp [hwords]) []
  have hleading : ∀ word ∈ ([] : List Text), Usage.IsDebug word := by simp
  have harguments := Usage.ofArguments_eq .tokenize hleading
    fun word hword hbare => (hread word hword).2 (.inl hbare)
  rw [hrequest, hwords, hfront] at harguments
  exact harguments

/-- Tokens are printed in the portable style, on lines of their own. -/
theorem run_tokenize_asData {w : Workspace} (h : w.reports.IsFaithful inspect) (colours : Bool)
    (words : List Text) :
    ∃ w', (tokenize colours words true).run w = .ok .done w' ∧
      w'.printed = w.printed ++
        (Value.array ((Command.tokenize knownCommands (joined words)).map Token.encode)).write
          .portable .indented ++ "\n" := by
  obtain ⟨w₁, hreport⟩ := run_report h (joined words)
  have hprinted : w₁.printed = w.printed := by
    obtain ⟨_, _, rfl⟩ := (respects_report (joined words)).of_run_eq_ok hreport
    rfl
  have hsay := run_say ((Value.array ((inspect (joined words)).tokens.map Token.encode)).write
    .portable .indented) w₁
  rw [hprinted] at hsay
  rw [tokenize, run_bind_of_ok hreport]
  exact ⟨_, run_bind_of_ok hsay, rfl⟩

/-- A run that prints the tokens of a line ends well, and prints nothing else. -/
theorem run_of_tokenize_asData {arguments words : List Text} {debug : Bool}
    (harguments : Invocation.ofArguments arguments = .ok ⟨debug, .tokenize words true⟩)
    (service : Explanation.Service) (terminal : Bool) {settings : Settings} {w w₀ : Workspace}
    (hw : w.reports.IsFaithful inspect)
    (hload : Settings.load.run (atStart w) = .ok settings w₀) :
    (run service terminal arguments w).1.ending = .served 0 ∧
      (run service terminal arguments w).1.output =
        (Value.array ((Command.tokenize knownCommands (joined words)).map Token.encode)).write
          .portable .indented ++ "\n" := by
  have hloaded := Settings.keeps_load (P := (·.IsFaithful inspect)) (atStart w) hw
  rw [hload] at hloaded
  obtain ⟨_, _, rfl⟩ := Settings.respects_load.of_run_eq_ok hload
  obtain ⟨w₁, hrun, hprinted⟩ := run_tokenize_asData hloaded
    (usesColours (atStart w) terminal settings.color) words
  rw [run_of_perform_ok harguments hload hrun]
  exact ⟨rfl, hprinted⟩

/-- **What is printed for others to read returns as it was.** The tokens of every sound line can
be asked for, and either reader finds their texts and kinds in what the run prints, in their order,
however little room there is; so the texts that are read make up the line. A verdict or an
explanation is printed and read back by both readers exactly if its texts are sound. This is so of
the verdict on every sound line if the registry holds sound texts, and of what a service with sound
answers says about one. -/
theorem printed_data_returns :
    (∀ line, Invocation.ofArguments ["tokenize", "--json", "--", line] =
      .ok ⟨false, .tokenize [line] true⟩) ∧
    (∀ arguments debug words, Invocation.ofArguments arguments = .ok ⟨debug, .tokenize words true⟩ →
      (joined words).isSound = true → ∀ service terminal settings w w₀,
        w.reports.IsFaithful inspect → Settings.load.run (atStart w) = .ok settings w₀ →
          let tokens := Command.tokenize knownCommands (joined words)
          let result := (run service terminal arguments w).1
          result.ending = .served 0 ∧
          (∀ room, Json.exhaustion? room result.output = none) ∧
          (∀ d, Json.read d result.output = .ok (.array (tokens.map fun t =>
            .object [("text", .string t.text), ("kind", .string t.kind.name)]))) ∧
          Token.join tokens = joined words) ∧
    (∀ a : Risk.Analysis,
      Returns Risk.Analysis.decode a.encode a ↔ ∀ t ∈ a.texts, t.isSound = true) ∧
    (∀ e : Explanation, Returns Explanation.decode e.encode e ↔ ∀ t ∈ e.texts, t.isSound = true) ∧
    (∀ r : Risk.Registry, r.IsSound → ∀ line,
      Returns Risk.Analysis.decode (Risk.assess r line).encode (Risk.assess r line) ↔
        line.isSound = true) ∧
    ∀ service settings line w e w', (Explanation.ask service settings line).run w = .ok e w' →
      line.isSound = true →
        (∀ request content, service request = .ok content →
          IsSoundAnswer (Text.trim (content.getD []))) →
        Returns Explanation.decode e.encode e := by
  refine ⟨ofArguments_line, ?_, Risk.Analysis.returns_encode_iff, Explanation.returns_encode_iff,
    fun r hr line => Risk.returns_assess_iff hr line, ?_⟩
  · intro arguments debug words harguments hline service terminal settings w w₀ hw hload tokens
      result
    obtain ⟨hending, houtput⟩ := run_of_tokenize_asData harguments service terminal hw hload
    have hsound : ∀ t ∈ tokens, t.text.isSound = true := Command.isSound_of_mem_tokenize hline
    have hend : ∀ l ∈ Text.ofString "\n", Json.isSpace l = true := by decide
    refine ⟨hending, fun room => ?_, fun d => ?_,
      Command.join_tokenize knownCommands (joined words)⟩
    · rw [houtput]
      exact Command.exhaustion?_write_tokens hsound hend room _ _
    · rw [houtput]
      exact Command.read_write_tokens hsound hend d _ _
  · intro service settings line w e w' hask hline hservice
    exact (Explanation.returns_encode_iff e).2
      (Explanation.isSound_of_run_ask hask hline hservice)

/-- A line with quotes, a backslash, an end of line, a character outside of the basic plane and a
control character. -/
def manifoldLine : Text := "echo \"a\\\n😀\x1f\""

/-- All of it is read back, also where the answer about it is no record; half of a surrogate pair
is not even printed. -/
theorem printed_data_returns_manifold :
    (∃ result, result = (run unreachable false ["tokenize", "--json", "--", manifoldLine]
        History.Store.bareWorkspace).1 ∧
      result.ending = .served 0 ∧
      Json.read .strict result.output = .ok (.array
        [.object [("text", .string "echo"), ("kind", .string "argument")],
          .object [("text", .string " "), ("kind", .string "whitespace")],
          .object [("text", .string "\"a\\\n😀\x1f\""), ("kind", .string "argument")]])) ∧
    Returns Risk.Analysis.decode (Risk.assess .builtIn manifoldLine).encode
      (Risk.assess .builtIn manifoldLine) ∧
    ¬Returns Risk.Analysis.decode (Risk.assess .builtIn [.half 0]).encode
      (Risk.assess .builtIn [.half 0]) ∧
    ∃ e w', (Explanation.ask (fun _ => .ok (some "\"😀\"\t\"")) .standard manifoldLine).run
        History.Store.bareWorkspace = .ok e w' ∧
      Returns Explanation.decode e.encode e := by
  obtain ⟨hasked, htokens, -, -, hassess, hask⟩ := printed_data_returns
  obtain ⟨settings, w₀, hload⟩ : ∃ settings w₀, Settings.load.run
      (atStart History.Store.bareWorkspace) = .ok settings w₀ := ⟨_, _, rfl⟩
  have hsound : manifoldLine.isSound = true := by decide +kernel
  have hfaithful : History.Store.bareWorkspace.reports.IsFaithful inspect :=
    Inspection.Cache.isFaithful_empty inspect
  refine ⟨?_, (hassess .builtIn Risk.Registry.isSound_builtIn manifoldLine).2 hsound,
    fun hreturns => ?_, ?_⟩
  · obtain ⟨hending, -, hread, -⟩ := htokens _ _ _ (hasked manifoldLine) hsound unreachable false
      settings _ w₀ hfaithful hload
    refine ⟨_, rfl, hending, (hread .strict).trans ?_⟩
    rfl
  · exact absurd ((hassess .builtIn Risk.Registry.isSound_builtIn [.half 0]).1 hreturns) (by decide)
  · obtain ⟨e, w', hrun⟩ : ∃ e w', (Explanation.ask (fun _ => .ok (some "\"😀\"\t\"")) .standard
        manifoldLine).run History.Store.bareWorkspace = .ok e w' := ⟨_, _, rfl⟩
    refine ⟨e, w', hrun, hask _ _ _ _ _ _ hrun hsound ?_⟩
    rintro request content ⟨⟩
    refine ⟨by decide, fun v hv => ?_⟩
    have hread : Json.read .free (Text.trim (Text.ofString "\"😀\"\t\"")) = .error .malformed := rfl
    exact nomatch hread.symm.trans hv

end CommandAdvisor.Program
