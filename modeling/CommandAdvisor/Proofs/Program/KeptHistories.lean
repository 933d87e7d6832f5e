import CommandAdvisor.Proofs.Program.ExplainedRuns

/-!
# Histories within their limit

A limit on the number of entries would be of no use if it were not positive: a history that is
cut at nothing is empty, and one that is cut at a negative number loses its last entries. Settings
in force keep a positive number of entries, whatever they were read from, so a run that saves an
explanation leaves that one, and no more of the others than there is room for.

## Main definitions
* `IsNewEntry`: the entry that an explanation of a command becomes.

## Main statements
* `exists_save_of_run`: what a run that was to save has saved.
* `run_stays_within_limits`: settings in force and the history that a run leaves are within
  their limits.
-/
namespace CommandAdvisor

open CommandAdvisor.Action
open History (Entry Store)
open Inspection (inspect)
open Usage (Subcommand inFront)

namespace History

section Remember

variable {limit : Int} (h : 0 < limit) (new : Entry) (entries : List Entry)
include h

/-- The newest entry comes first. -/
theorem head?_remember : (remember limit new entries).head? = some new := by
  obtain ⟨n, hn⟩ := Nat.exists_eq_add_of_lt (Int.lt_toNat.2 h)
  rw [remember_of_pos h, hn]
  rfl

theorem length_remember_pos : 0 < (remember limit new entries).length :=
  List.length_pos_iff.2 fun hnil => by simpa [hnil] using head?_remember h new entries

theorem length_remember_le : ((remember limit new entries).length : Int) ≤ limit := by
  have hle := List.length_take_le limit.toNat
    (new :: entries.filter fun e => e.command ≠ new.command)
  rw [remember_of_pos h]
  omega

end Remember

/-- Entries that are written as no value of the strict dialect are not read. -/
theorem Store.readEntries_eq_error {s : Text} (hs : s.isSound = true)
    (h : (Json.read .strict s).toOption.isNone = true) :
    readEntries s.asString.toUTF8 = .error (.invalid [⟨[], .malformed⟩]) := by
  rw [readEntries, Json.readBytes, Text.fromUTF8?_toUTF8]
  dsimp only
  rw [Text.ofString_asString hs, Option.isNone_iff_eq_none.1 h]

end History

namespace Program

variable {leading : List Text} {tail : List Text} {service : Explanation.Service} {terminal : Bool}
  {settings : Settings} {w w₀ : Workspace}

/-- The entry of a command that was explained with its level is new in a workspace. -/
def IsNewEntry (w : Workspace) (command : Text) (e : Explanation) (new : Entry) : Prop :=
  (History.Call.add w.clock w.issued command e
    (some (Risk.assess .builtIn command).level)).addition? = some new

/-- What a run that was to save has saved when it ended well. -/
theorem exists_save_of_run (hleading : ∀ word ∈ leading, Usage.IsOption word)
    (hw : w.reports.IsFaithful inspect) (hload : Settings.load.run (atStart w) = .ok settings w₀)
    (hserved : (run service terminal (leading ++ Subcommand.explain.name :: tail) w).1.ending =
      .served 0) (hsaves : Text.ofString "--no-history" ∉ inFront tail) :
    let command := Text.trim (joined (Subcommand.explain.lineWords tail))
    ∃ request content e s prior new w₁, service request = .ok content ∧
      Explanation.explanationOf w.host.room command (Text.trim (content.getD [])) = .ok e ∧
      IsNewEntry w command e new ∧
      (store settings).run w = .ok s w ∧ (∃ w₂, s.entries.run w = .ok prior w₂) ∧
      (s.save (History.remember s.limit new prior)).run w₁ =
        .ok () (run service terminal (leading ++ Subcommand.explain.name :: tail) w).2 := by
  have hexplains : Subcommand.explain ≠ .history := by decide
  rcases Usage.ofArguments_eq_or hexplains hleading tail with ⟨stop, hstop⟩ | ⟨debug, hinvocation⟩
  · -- A run that is stopped is not served.
    simp only [run, hstop] at hserved
    cases stop <;> cases hserved
  · have hresult := run_of_ofArguments hinvocation service terminal w
    have hflag : (!(inFront tail).contains "--no-history") = true := by simpa using hsaves
    obtain ⟨outcome, w', hserve, -, hexplain⟩ := serve_explain service terminal
      (Subcommand.explain.lineWords tail) ((inFront tail).contains "--json")
      (!(inFront tail).contains "--no-history") (w := atStart w) hw hload
    have hkept := Settings.keeps_load (P := (·.IsFaithful inspect)) (atStart w) hw
    rw [hload] at hkept
    obtain ⟨reports, journal, rfl⟩ := Settings.respects_load.of_run_eq_ok hload
    rw [Subcommand.requestOf, hserve] at hresult
    rw [hresult] at hserved ⊢
    have hrun := hexplain (Ending.served.inj hserved)
    rw [hflag] at hrun
    obtain ⟨content, e, _, s, prior, new, -, hcontent, he, -, -, -, hstore, ⟨w₁, hprior⟩, hnew, w₂,
      hsave⟩ := exists_of_run_explain hkept hrun
    exact ⟨_, content, e, s, prior, new, w₂, hcontent, he, hnew,
      run_store_of_home hstore rfl rfl rfl, History.Store.exists_run_entries_of_files hprior rfl,
      hsave⟩

/-- **Settings in force and the history that a run leaves are within their limits.** The file of
the history holds the new entry in front of those that were shown before, as many of them as there
is room for. They are shown exactly if the texts of the new entry are sound. -/
theorem run_stays_within_limits {settings : Settings} {u u' : Workspace}
    (hload : Settings.load.run u = .ok settings u') :
    settings.WithinLimits ∧
    ∀ (leading tail : List Text) (service : Explanation.Service) (terminal : Bool) (w : Workspace),
      (∀ word ∈ leading, Usage.IsOption word) → u = atStart w → w.reports.IsFaithful inspect →
      let command := Text.trim (joined (Subcommand.explain.lineWords tail))
      let result := run service terminal (leading ++ Subcommand.explain.name :: tail) w
      result.1.ending = .served 0 → Text.ofString "--no-history" ∉ inFront tail →
      ∃ request content e s prior new, service request = .ok content ∧
        Explanation.explanationOf w.host.room command (Text.trim (content.getD [])) = .ok e ∧
        IsNewEntry w command e new ∧
        (store settings).run w = .ok s w ∧ (∃ w', s.entries.run w = .ok prior w') ∧
        let kept := History.remember settings.maxHistory new prior
        kept.head? = some new ∧ 1 ≤ kept.length ∧ kept.length ≤ settings.maxHistory ∧
        result.2.files.access s.path = .ok (.file Storage.privateMode
          ((History.encodeEntries kept).write .portable .indented).asString.toUTF8) ∧
        ((∃ w', s.entries.run result.2 = .ok kept w') ↔ new.IsSound) := by
  have hlimits : settings.WithinLimits := Settings.withinLimits_of_load hload
  have hpositive : 0 < settings.maxHistory := hlimits.maxHistory
  refine ⟨hlimits, ?_⟩
  rintro leading tail service terminal w hleading rfl hw command result hserved hsaves
  obtain ⟨request, content, e, s, prior, new, w₁, hcontent, he, hnew, hstore, ⟨w₂, hprior⟩,
    hsave⟩ := exists_save_of_run hleading hw hload hserved hsaves
  have hlimit : s.limit = settings.maxHistory := limit_of_run_store hstore
  have hshown := Store.exists_run_entries_iff_of_save (hlimit ▸ hpositive) hprior hsave
  have haccess := Store.access_of_save hsave
  rw [hlimit] at hshown haccess
  exact ⟨request, content, e, s, prior, new, hcontent, he, hnew, hstore, ⟨w₂, hprior⟩,
    History.head?_remember hpositive new prior, History.length_remember_pos hpositive new prior,
    History.length_remember_le hpositive new prior, haccess, hshown⟩

/-- The standard settings, but for a history of one entry. -/
def keepingOne : Settings :=
  ⟨none, Settings.standardModel, none, Settings.standardTemperature, none, 1, none⟩

/-- A part of a command with half of a surrogate pair in a text. -/
def halvedParts : List Explanation.Part := [⟨"ls", "command", "", some [.half 0]⟩]

theorem isNewEntry_firstEntry {w : Workspace} (hclock : w.clock = .whole 0) (hissued : w.issued = 0)
    (parts : List Explanation.Part) :
    IsNewEntry w "ls" ⟨parts, "", "", []⟩ (firstEntry parts) := by
  have htime : Number.Quantity.toBinary64? (.whole 0) = some (.ofInt 0) := by decide +kernel
  have hlevel : (Risk.assess .builtIn "ls").level = .low := by decide +kernel
  have hid : Text.hexDigits 16 (0 + 1) = "0000000000000001" := by decide +kernel
  rw [IsNewEntry, History.Call.addition?, hclock, hissued, htime, hlevel, hid]
  rfl

theorem readEntries_halved :
    Store.readEntries ((History.encodeEntries [firstEntry halvedParts]).write .portable
      .indented).asString.toUTF8 = .error (.invalid [⟨[], .malformed⟩]) :=
  Store.readEntries_eq_error (by decide +kernel) (by decide +kernel)

/-- Settings that keep one entry, written as a truth value. A sound entry is shown; of one with
half of a surrogate pair nothing is. -/
theorem run_stays_within_limits_single :
    let w := Settings.withStored "\x7b\"max_history\": true\x7d".toUTF8
    let after (reply : Text) := (run (answering reply) false ["explain", "ls"] w).2
    let history : Store := ⟨w.historyFile, 1⟩
    (∃ w', history.entries.run (after "\x7b\x7d") = .ok [firstEntry []] w') ∧
      ∃ w', history.entries.run (after halvedReply) = .ok [] w' := by
  intro w after history
  have hread : Json.read .free "\x7b\"max_history\": true\x7d" =
      .ok (.object [("max_history", .bool true)]) := rfl
  have hs : Settings.decode (.object [("max_history", .bool true)]) = .valid keepingOne := rfl
  have hfile : (atStart w).files.access (atStart w).settingsFile =
      .ok (.file 0o600 "\x7b\"max_history\": true\x7d".toUTF8) := rfl
  have hload : Settings.load.run (atStart w) =
      .ok keepingOne (Settings.noting (atStart w) (.settingsLoaded (atStart w).settingsFile)) :=
    Settings.run_load_of_decode hfile (Text.fromUTF8?_toUTF8 _)
      (Json.exhaustion?_eq_none_of_nesting (by decide)) hread hs
  have hfaithful : w.reports.IsFaithful inspect := Inspection.Cache.isFaithful_empty inspect
  have hstore : (store keepingOne).run w = .ok history w := rfl
  have hprior : history.entries.run w = .ok [] w := rfl
  have hkept (reply : Text) (parts : List Explanation.Part)
      (hending : (run (answering reply) false ["explain", "ls"] w).1.ending = .served 0)
      (hreply : Explanation.explanationOf .usual "ls" (Text.trim reply) =
        .ok ⟨parts, "", "", []⟩) :
      (after reply).files.access history.path = .ok (.file Storage.privateMode
        ((History.encodeEntries [firstEntry parts]).write .portable .indented).asString.toUTF8) ∧
      ((∃ w', history.entries.run (after reply) = .ok [firstEntry parts] w') ↔
        (firstEntry parts).IsSound) := by
    obtain ⟨-, hruns⟩ := run_stays_within_limits hload
    obtain ⟨request, content, e, s, prior, new, hcontent, he, hnew, hstore', ⟨_, hprior'⟩, -, -, -,
      haccess, hshown⟩ := hruns [] ["ls"] (answering reply) false w (by simp) rfl hfaithful
        hending (by decide)
    cases hcontent
    cases hreply.symm.trans he
    cases hstore.symm.trans hstore'
    cases hprior.symm.trans hprior'
    obtain rfl := Option.some.inj ((isNewEntry_firstEntry rfl rfl parts).symm.trans hnew)
    exact ⟨haccess, hshown⟩
  constructor
  · obtain ⟨-, hshown⟩ := hkept "\x7b\x7d" [] (by decide +kernel) rfl
    exact hshown.2 (by decide +kernel)
  · obtain ⟨hfile, -⟩ := hkept halvedReply halvedParts (by decide +kernel) rfl
    rw [Store.run_entries_of_file hfile, readEntries_halved]
    exact ⟨_, rfl⟩

end Program

end CommandAdvisor
