import CommandAdvisor.Proofs.Program.Explaining
import CommandAdvisor.Proofs.Settings.Loading
import CommandAdvisor.Proofs.Usage.Lines

/-!
# Runs that explain a command

A run that explains a command either leaves every file alone or has saved the whole of the
explanation that it printed, with the level that it told the service. What it has saved is shown
afterwards in front of what was shown before, unless a text in it holds half of a surrogate
pair.

## Main statements
* `serve_explain`: what serving the request does to the files.
* `run_explains`: what a run does, from its arguments to the history.
-/
namespace CommandAdvisor

open CommandAdvisor.Action
open History (Entry)
open Inspection (inspect)
open Usage (Subcommand inFront)

namespace Program

/-- What serving a request to explain a command does to the files. -/
theorem serve_explain (service : Explanation.Service) (terminal : Bool) (words : List Text)
    (asData saves : Bool) {settings : Settings} {w w₀ : Workspace}
    (hw : w.reports.IsFaithful inspect) (hload : Settings.load.run w = .ok settings w₀) :
    ∃ outcome w', (serve service terminal (.explain words asData saves)).run w = .ok outcome w' ∧
      (outcome.status ≠ 0 ∨ saves = false → SameContents w w') ∧
      (outcome.status = 0 → (explain service settings (usesColours w₀ terminal settings.color)
        words asData saves).run w₀ = .ok outcome w') := by
  have hloaded := (Settings.respects_load.of_run_eq_ok hload).sameFiles.sameContents
  cases hexplain : (explain service settings (usesColours w₀ terminal settings.color) words asData
      saves).run w₀ with
  | error failure w₁ =>
    have hclean := failsClean_explain _ _ _ _ _ _ w₀ failure w₁ hexplain
    exact ⟨_, _, run_serve_of_error hload hexplain, fun _ => IsTrans.trans _ _ _ hloaded hclean,
      nofun⟩
  | ok outcome w₁ =>
    refine ⟨outcome, w₁, run_serve_of_ok hload hexplain, fun hcase => ?_, fun _ => rfl⟩
    cases saves with
    | false =>
      have hsame := (respects_explain_unsaved _ _ _ _ _).of_run_eq_ok hexplain
      exact IsTrans.trans _ _ _ hloaded hsame.sameContents
    | true =>
      -- What was saved has been a success.
      have hkept := Settings.keeps_load (P := (·.IsFaithful inspect)) w hw
      rw [hload] at hkept
      obtain ⟨-, -, -, -, -, -, rfl, -⟩ := exists_of_run_explain hkept hexplain
      simp [Outcome.done] at hcase

/-- **A run that explains a command saves the whole explanation or nothing.** Where it does not
end well or is not to save, every file is left alone, and there is no new one. Otherwise the
explanation of the answer was printed, and the history shows it in front of what it showed
before, with the level that was told to the service, exactly if the texts of the new entry are
sound. -/
theorem run_explains {leading : List Text} (hleading : ∀ word ∈ leading, Usage.IsOption word)
    (tail : List Text) (service : Explanation.Service) (terminal : Bool) {settings : Settings}
    {w w₀ : Workspace} (hw : w.reports.IsFaithful inspect)
    (hload : Settings.load.run (atStart w) = .ok settings w₀) :
    let command := Text.trim (joined (Subcommand.explain.lineWords tail))
    let level := (Risk.assess .builtIn command).level
    let result := run service terminal (leading ++ Subcommand.explain.name :: tail) w
    (result.1.ending ≠ .served 0 ∨ Text.ofString "--no-history" ∈ inFront tail →
      ∀ place mode content, result.2.files.node? place = some (.file mode content) ↔
        w.files.node? place = some (.file mode content)) ∧
    (result.1.ending = .served 0 → Text.ofString "--no-history" ∉ inFront tail →
      ∃ request rest content e s prior time,
        result.2.requests = w.requests ++ [request] ∧
        ⟨"user", Explanation.question command ++
          ("\n\nLocal safety check:\nrisk level: " ++ level.name ++ "\n" ++ rest)⟩ ∈
            request.messages ∧
        service request = .ok content ∧
        Explanation.explanationOf w.host.room command (Text.trim (content.getD [])) = .ok e ∧
        explanationText? (usesColours w terminal settings.color)
          ((inFront tail).contains "--json") command e = some result.1.output ∧
        (store settings).run w = .ok s w ∧ (∃ w', s.entries.run w = .ok prior w') ∧
        w.clock.toBinary64? = some time ∧
        let new : Entry :=
          { id := Text.hexDigits 16 (w.issued + 1), command, parts := e.parts
            overall := e.overall, safetyNotes := e.safetyNotes, examples := e.examples
            level := some level, timestamp := time, isFavorite := false, tags := [] }
        ((∃ w', s.entries.run result.2 =
          .ok ((new :: prior.filter fun e => e.command ≠ command).take settings.maxHistory.toNat)
            w') ↔ new.IsSound)) := by
  intro command level result
  have hstart : (atStart w).reports.IsFaithful inspect := hw
  have hexplains : Subcommand.explain ≠ .history := by decide
  rcases Usage.ofArguments_eq_or hexplains hleading tail with ⟨stop, hstop⟩ | ⟨debug, hinvocation⟩
  · have hresult : result = (stopped w stop, w) := by
      simp only [result, run, hstop]
    have hending : (stopped w stop).ending ≠ .served 0 := by
      cases stop <;> simp [stopped]
    rw [hresult]
    exact ⟨fun _ _ _ _ => Iff.rfl, fun hserved => absurd hserved hending⟩
  · obtain ⟨outcome, w', hserve, hclean, hexplain⟩ := serve_explain service terminal
      (Subcommand.explain.lineWords tail) ((inFront tail).contains "--json")
      (!(inFront tail).contains "--no-history") hstart hload
    have hresult : result = transcribe debug (.ok outcome w') := by
      rw [← hserve]
      exact run_of_ofArguments hinvocation service terminal w
    rw [hresult]
    refine ⟨fun hcase => hclean ?_, fun hserved hsaves => ?_⟩
    · refine hcase.imp (fun hending hstatus => hending (congrArg _ hstatus)) fun hflag => ?_
      simpa using hflag
    · have hstatus : outcome.status = 0 := Ending.served.inj hserved
      have hrun := hexplain hstatus
      have hflag : (!(inFront tail).contains "--no-history") = true := by simpa using hsaves
      rw [hflag] at hrun
      have hkept := Settings.keeps_load (P := (·.IsFaithful inspect)) (atStart w) hstart
      rw [hload] at hkept
      obtain ⟨reports, journal, rfl⟩ := Settings.respects_load.of_run_eq_ok hload
      obtain ⟨content, e, text, s, prior, new, -, hcontent, he, hrequests, htext, hprinted, hstore,
        ⟨w₁, hprior⟩, hnew, w₂, hsave⟩ := exists_of_run_explain hkept hrun
      obtain ⟨rest, hmessage⟩ := Explanation.exists_mem_messages settings command
      obtain ⟨time, htime, rfl⟩ := Option.map_eq_some_iff.1 hnew
      have hlimit := limit_of_run_store hstore
      have hpositive : 0 < s.limit := hlimit ▸ Settings.maxHistory_pos_of_load hload
      have hstore' : (store settings).run w = .ok s w := run_store_of_home hstore rfl rfl rfl
      have hprior' : ∃ w₃, s.entries.run w = .ok prior w₃ :=
        History.Store.exists_run_entries_of_files hprior rfl
      have hshown := History.Store.exists_run_entries_iff_of_save hpositive hprior hsave
      rw [History.remember_of_pos hpositive, hlimit] at hshown
      exact ⟨_, rest, content, e, s, prior, time, hrequests, hmessage, hcontent, he,
        htext.trans (congrArg some hprinted.symm), hstore', hprior', htime, hshown⟩

/-- How a served run ended can be decided. -/
instance (e : Ending) (status : Nat) : Decidable (e = .served status) :=
  match e with
  | .served n => decidable_of_iff (n = status) (by simp)
  | .stopped _ => .isFalse nofun
  | .failed _ => .isFalse nofun

/-- A service with one answer to everything. -/
def answering (reply : Text) : Explanation.Service := fun _ => .ok (some reply)

/-- An answer with half of a surrogate pair in a text that is not shown. -/
def halvedReply : Text :=
  "\x7b\"parts\":[\x7b\"text\":\"ls\",\"type\":\"command\",\"man_page\":\"\\ud800\"\x7d]\x7d"

/-- The first entry of a command with some parts. -/
def firstEntry (parts : List Explanation.Part) : Entry where
  id := "0000000000000001"
  command := "ls"
  parts := parts
  overall := ""
  safetyNotes := ""
  examples := []
  level := some .low
  timestamp := .ofInt 0
  isFavorite := false
  tags := []

/-- An empty record is saved and shown. A record with half of a surrogate pair is saved just as
well, and then not shown. -/
theorem run_explains_halved :
    let after (reply : Text) :=
      (run (answering reply) false ["-d", "explain", "ls"] History.Store.bareWorkspace).2
    let history : History.Store := ⟨History.Store.bareWorkspace.historyFile, 100⟩
    (∃ w', history.entries.run (after "\x7b\x7d") = .ok [firstEntry []] w') ∧
      ∀ w', history.entries.run (after halvedReply) ≠
        .ok [firstEntry [⟨"ls", "command", "", some [.half 0]⟩]] w' := by
  intro after history
  have hload : Settings.load.run (atStart History.Store.bareWorkspace) =
      .ok .standard (atStart History.Store.bareWorkspace) := rfl
  have hleading : ∀ word ∈ [Text.ofString "-d"], Usage.IsOption word :=
    List.forall_mem_singleton.2 (Usage.IsDebug.isOption (.inl rfl))
  have hfaithful : History.Store.bareWorkspace.reports.IsFaithful inspect :=
    Inspection.Cache.isFaithful_empty inspect
  have hstore : (store .standard).run History.Store.bareWorkspace =
      .ok history History.Store.bareWorkspace := rfl
  have hprior : history.entries.run History.Store.bareWorkspace =
      .ok [] History.Store.bareWorkspace := rfl
  have htime : History.Store.bareWorkspace.clock.toBinary64? = some (.ofInt 0) := by
    decide +kernel
  have hshown {reply : Text} {parts : List Explanation.Part}
      (hending : (run (answering reply) false ["-d", "explain", "ls"]
        History.Store.bareWorkspace).1.ending = .served 0)
      (hreply : Explanation.explanationOf .usual "ls" (Text.trim reply) =
        .ok ⟨parts, "", "", []⟩) :
      (∃ w', history.entries.run (after reply) = .ok [firstEntry parts] w') ↔
        (firstEntry parts).IsSound := by
    obtain ⟨-, hsaves⟩ := run_explains hleading ["ls"] (answering reply) false hfaithful hload
    obtain ⟨request, -, content, e, s, prior, time, -, -, hcontent, he, -, hstore', ⟨_, hprior'⟩,
      htime', hnew⟩ := hsaves hending (by decide)
    cases hcontent
    cases hreply.symm.trans he
    cases hstore.symm.trans hstore'
    cases hprior.symm.trans hprior'
    obtain rfl := Option.some.inj (htime.symm.trans htime')
    exact hnew
  constructor
  · exact (hshown (by decide +kernel) rfl).2 (by decide +kernel)
  · intro w' hentries
    exact absurd ((hshown (by decide +kernel) rfl).1 ⟨w', hentries⟩) (by decide +kernel)

end Program

end CommandAdvisor
