import CommandAdvisor.Proofs.History.Editing
import CommandAdvisor.Proofs.Program.Explaining
import CommandAdvisor.Proofs.Usage.Values

/-!
# Runs that edit an entry

A flag of the history names an entry that is to be edited. Where the history shows no entry by
that name, the run complains about the name, prints nothing and leaves all files as they are.
But a name that is empty counts as none where the favorite flag is to be toggled: such a run
shows everything, and complains about nothing.

## Main definitions
* `Edit.words`: the words behind the subcommand that ask for an edit.
* `ShowsOutcome`: a run shows an outcome by its status and its complaint.
* `IsRefusedWith`: a run that does nothing but complain.
* `listing`: what is printed of some entries.

## Main statements
* `Edit.request_of_words`: what the words ask for.
* `run_useHistory_of_not_mem` and `run_useHistory_of_mem`: edits of entries that are not shown
  and of those that are.
* `run_edits_entry`: the whole way from the arguments to the complaint.
-/
namespace CommandAdvisor

open CommandAdvisor.Action
open History (Edit Entry Store)
open Usage (Flag HistoryRequest Invocation Request Subcommand)

/-! ## What is asked for -/

namespace History.Edit

/-- The flag that asks for an edit. -/
def flag : Edit → Flag
  | .toggleFavorite => Usage.favoriteFlag
  | .addTag _ => Usage.addTagFlag
  | .removeTag _ => Usage.removeTagFlag

/-- The values of the flag for the entry with an identifier. -/
def values (d : Edit) (id : Text) : List Text :=
  match d with
  | .toggleFavorite => [id]
  | .addTag tag | .removeTag tag => [id, tag]

/-- The words behind the subcommand that ask for an edit. -/
def words (d : Edit) (id : Text) : List Text := d.flag.longSpelling :: d.values id

/-- The request for an edit. -/
def request (d : Edit) (id : Text) : HistoryRequest :=
  match d with
  | .toggleFavorite => .toggleFavorite id
  | .addTag tag => .addTag id tag
  | .removeTag tag => .removeTag id tag

/-- An edit names an entry, unless it is to toggle a flag and the name is empty. -/
def Names (d : Edit) (id : Text) : Prop := d = .toggleFavorite → id ≠ []

variable {d : Edit} {id : Text}

/-- A toggle without a name asks for everything. -/
theorem requestOf_favorite (id : Text) :
    Usage.requestOf Usage.favoriteFlag [some id] .everything =
      .ok (if id.isEmpty then .everything else .toggleFavorite id) := rfl

theorem requestOf_values (h : d.Names id) :
    Usage.requestOf d.flag ((d.values id).map some) .everything = .ok (d.request id) := by
  cases d with
  | toggleFavorite =>
    have hid : ¬id.isEmpty = true := by simpa using h rfl
    refine (requestOf_favorite id).trans ?_
    rw [if_neg hid]
    rfl
  | addTag tag => rfl
  | removeTag tag => rfl

variable {leading : List Text} {invocation : Invocation}

/-- The words behind the subcommand ask for what the flag and its values ask for. -/
theorem exists_asked (hleading : ∀ word ∈ leading, Usage.IsOption word)
    (h : Invocation.ofArguments (leading ++ Subcommand.history.name :: d.words id) =
      .ok invocation) :
    ∃ asked, Usage.requestOf d.flag ((d.values id).map some) .everything = .ok asked ∧
      invocation.request = .history asked := by
  obtain ⟨unknown, hrequest⟩ := Usage.exists_requestOfTail_of_ofArguments hleading h
  have hflag : d.flag ∈ Usage.historyFlags := by cases d <;> simp [flag, Usage.historyFlags]
  have hvalues : (d.values id).length = d.flag.values.length := by cases d <;> rfl
  exact Usage.request_of_values hflag hvalues hrequest

/-- An edit is asked for by its words. -/
theorem request_of_words (hleading : ∀ word ∈ leading, Usage.IsOption word)
    (h : Invocation.ofArguments (leading ++ Subcommand.history.name :: d.words id) =
      .ok invocation) (hnames : d.Names id) :
    invocation.request = .history (d.request id) := by
  obtain ⟨asked, hasked, hrequest⟩ := exists_asked hleading h
  cases hasked.symm.trans (requestOf_values hnames)
  exact hrequest

/-- Everything is asked for by a toggle without a name. -/
theorem request_of_nameless (hleading : ∀ word ∈ leading, Usage.IsOption word)
    (h : Invocation.ofArguments (leading ++ Subcommand.history.name :: d.words id) =
      .ok invocation) (hnameless : ¬d.Names id) :
    invocation.request = .history .everything := by
  obtain ⟨rfl, rfl⟩ : d = .toggleFavorite ∧ id = [] := by
    simpa [Names] using hnameless
  obtain ⟨asked, hasked, hrequest⟩ := exists_asked hleading h
  cases hasked.symm.trans (requestOf_favorite [])
  exact hrequest

end History.Edit

namespace Program

/-! ## Edits of entries -/

variable {s : Store} {w w₁ : Workspace} {entries : List Entry} {id : Text}

theorem get?_eq_none_iff : History.get? id entries = none ↔ id ∉ entries.map Entry.id := by
  simp [History.get?, List.find?_eq_none, List.mem_map]

/-- An entry that is not shown is complained about, and nothing is changed. -/
theorem run_changeEntry_of_not_mem (hentries : s.entries.run w = .ok entries w₁)
    (h : id ∉ entries.map Entry.id) (change : Action Text) :
    (changeEntry s id change).run w =
      .ok (.failed ("no history entry with id " ++ id)) w₁ := by
  have hget : (s.get? id).run w = .ok none w₁ := by
    rw [Store.get?, run_bind_of_ok hentries, get?_eq_none_iff.2 h]
    rfl
  rw [changeEntry, run_bind_of_ok hget]
  rfl

/-- The change of an entry that is shown goes through unless an access is refused. -/
theorem run_changeEntry_of_mem (hentries : s.entries.run w = .ok entries w₁)
    (h : id ∈ entries.map Entry.id) {change : Action Text} (hchange : change.FailsByRefusal) :
    (∃ w', (changeEntry s id change).run w = .ok .done w') ∨
      ∃ refusal w', (changeEntry s id change).run w = .error (.storage refusal) w' := by
  obtain ⟨e, he⟩ := Option.ne_none_iff_exists'.1 (mt get?_eq_none_iff.1 (not_not_intro h))
  have hget : (s.get? id).run w = .ok (some e) w₁ := by
    rw [Store.get?, run_bind_of_ok hentries, he]
    rfl
  rw [changeEntry, run_bind_of_ok hget]
  dsimp only
  cases hrun : change.run w₁ with
  | ok text w₂ => exact .inl ⟨_, run_bind_of_ok hrun⟩
  | error failure w₂ =>
    obtain ⟨refusal, rfl⟩ := hchange w₁ failure w₂ hrun
    exact .inr ⟨refusal, w₂, run_bind_of_error hrun⟩

/-- An edit is a change of its entry, and only a refused access keeps it from being made. -/
theorem exists_change (s : Store) (d : Edit) (id : Text) :
    ∃ change : Action Text, change.FailsByRefusal ∧
      useHistory s (d.request id) = changeEntry s id change := by
  cases d with
  | toggleFavorite =>
    exact ⟨_, (Store.failsByRefusal_toggleFavorite id).bind fun _ => failsByRefusal_pure _, rfl⟩
  | addTag tag =>
    refine ⟨_, ?_, rfl⟩
    exact ((Store.failsByRefusal_edit _).bind fun _ => failsByRefusal_pure _).bind fun _ =>
      failsByRefusal_pure _
  | removeTag tag =>
    refine ⟨_, ?_, rfl⟩
    exact ((Store.failsByRefusal_edit _).bind fun _ => failsByRefusal_pure _).bind fun _ =>
      failsByRefusal_pure _

/-- What is printed of some entries. -/
def listing (entries : List Entry) : Text :=
  if entries.isEmpty then Text.ofString "No saved commands." ++ Text.ofString "\n"
  else unlines (entries.map Display.entryText)

theorem run_sayEntries (entries : List Entry) (w : Workspace) :
    (sayEntries entries).run w =
      .ok .done { w with printed := w.printed ++ listing entries } := by
  rw [sayEntries, listing]
  split
  · rw [run_bind_of_ok (run_say _ w), List.append_assoc]
    rfl
  · rw [run_bind_of_ok (run_sayAll _ w)]
    rfl

/-- A history that cannot be read can neither be shown nor edited. -/
theorem run_useHistory_of_error {failure : Failure}
    (hentries : s.entries.run w = .error failure w₁) (d : Edit) (id : Text) :
    (useHistory s .everything).run w = .error failure w₁ ∧
      (useHistory s (d.request id)).run w = .error failure w₁ := by
  obtain ⟨change, -, hchange⟩ := exists_change s d id
  have hget : (s.get? id).run w = .error failure w₁ := run_bind_of_error hentries
  rw [hchange]
  exact ⟨run_bind_of_error hentries, run_bind_of_error hget⟩

/-! ## Runs -/

/-- A run shows an outcome by its status, and what is complained about behind the journal. -/
structure ShowsOutcome (debug : Bool) (result : Transcript × Workspace) (outcome : Outcome) :
    Prop where
  ending : result.1.ending = .served outcome.status
  complaints : result.1.complaints =
    unlines (shownJournal debug result.2 ++ outcome.complaint.toList)

/-- A run does nothing but complain: it prints nothing and leaves all files as they are. -/
structure IsRefusedWith (debug : Bool) (w : Workspace) (result : Transcript × Workspace)
    (text : Text) : Prop extends ShowsOutcome debug result (.failed text) where
  output : result.1.output = []
  files : result.2.files = w.files

section Runs

variable {arguments : List Text} {invocation : Invocation} {service : Explanation.Service}
  {terminal : Bool} {settings : Settings} {w₀ w₂ : Workspace} {asked : HistoryRequest} {d : Edit}
  (haccepted : Invocation.ofArguments arguments = .ok invocation)
  (hload : Settings.load.run (atStart w) = .ok settings w₀)

include hload in
/-- Before a run does anything, it has printed nothing and changed no file. -/
theorem unchanged_of_load (h : SameBesidesNotes w₀ w₁) :
    w₁.printed = [] ∧ w₁.files = w.files := by
  obtain ⟨_, _, rfl⟩ := Settings.respects_load.of_run_eq_ok hload
  obtain ⟨_, _, rfl⟩ := h
  exact ⟨rfl, rfl⟩

variable (hstore : (store settings).run w₀ = .ok s w₀)
include haccepted hload hstore

theorem run_of_useHistory_ok (hasked : invocation.request = .history asked) {outcome : Outcome}
    (hrun : (useHistory s asked).run w₀ = .ok outcome w₂) :
    run service terminal arguments w = transcribe invocation.debug (.ok outcome w₂) := by
  refine run_of_perform_ok haccepted hload ?_
  rw [hasked]
  exact (run_bind_of_ok hstore).trans hrun

theorem run_of_useHistory_error (hasked : invocation.request = .history asked)
    {failure : Failure} (hrun : (useHistory s asked).run w₀ = .error failure w₂) :
    run service terminal arguments w = transcribe invocation.debug (.ok (.failed failure.message)
      { w₂ with journal := w₂.journal ++ [.subcommandFailed "history"] }) := by
  have hperform : (perform service settings (usesColours w₀ terminal settings.color)
      invocation.request).run w₀ = .error failure w₂ := by
    rw [hasked]
    exact (run_bind_of_ok hstore).trans hrun
  rw [run_of_perform_error haccepted hload hperform, hasked]
  rfl

/-- An entry that is not shown is complained about. -/
theorem isRefusedWith_of_not_mem (hasked : invocation.request = .history (d.request id))
    (hentries : s.entries.run w₀ = .ok entries w₁) (h : id ∉ entries.map Entry.id) :
    IsRefusedWith invocation.debug w (run service terminal arguments w)
      ("no history entry with id " ++ id) := by
  obtain ⟨change, -, hchange⟩ := exists_change s d id
  have hrun := run_changeEntry_of_not_mem hentries h change
  rw [← hchange] at hrun
  obtain ⟨hprinted, hfiles⟩ :=
    unchanged_of_load hload ((Store.respects_entries s).of_run_eq_ok hentries)
  rw [run_of_useHistory_ok haccepted hload hstore hasked hrun]
  exact ⟨⟨rfl, rfl⟩, hprinted, hfiles⟩

/-- The edit of an entry that is shown ends well unless an access is refused. -/
theorem showsOutcome_of_mem (hasked : invocation.request = .history (d.request id))
    (hentries : s.entries.run w₀ = .ok entries w₁) (h : id ∈ entries.map Entry.id) :
    let result := run service terminal arguments w
    ShowsOutcome invocation.debug result .done ∨
      ∃ refusal : Storage.Refusal,
        ShowsOutcome invocation.debug result (.failed refusal.message) := by
  obtain ⟨change, hfails, hchange⟩ := exists_change s d id
  rcases run_changeEntry_of_mem hentries h hfails with ⟨w₂, hrun⟩ | ⟨refusal, w₂, hrun⟩
  · rw [← hchange] at hrun
    rw [run_of_useHistory_ok haccepted hload hstore hasked hrun]
    exact .inl ⟨rfl, rfl⟩
  · rw [← hchange] at hrun
    rw [run_of_useHistory_error haccepted hload hstore hasked hrun]
    exact .inr ⟨refusal, ⟨rfl, rfl⟩⟩

/-- Everything is listed where it is asked for. -/
theorem showsOutcome_of_everything (hasked : invocation.request = .history .everything)
    (hentries : s.entries.run w₀ = .ok entries w₁) :
    let result := run service terminal arguments w
    ShowsOutcome invocation.debug result .done ∧ result.1.output = listing entries ∧
      result.2.files = w.files := by
  have hrun : (useHistory s .everything).run w₀ =
      .ok .done { w₁ with printed := w₁.printed ++ listing entries } :=
    (run_bind_of_ok hentries).trans (run_sayEntries entries w₁)
  obtain ⟨hprinted, hfiles⟩ :=
    unchanged_of_load hload ((Store.respects_entries s).of_run_eq_ok hentries)
  rw [run_of_useHistory_ok haccepted hload hstore hasked hrun, hprinted]
  exact ⟨⟨rfl, rfl⟩, rfl, hfiles⟩

/-- A history that cannot be read is complained about. -/
theorem exists_isRefusedWith_of_error (d : Edit) (id : Text) {failure : Failure}
    (hentries : s.entries.run w₀ = .error failure w₁)
    (hasked : invocation.request = .history .everything ∨
      invocation.request = .history (d.request id)) :
    ∃ refusal : Storage.Refusal,
      IsRefusedWith invocation.debug w (run service terminal arguments w) refusal.message := by
  obtain ⟨heverything, hedit⟩ := run_useHistory_of_error hentries d id
  obtain ⟨refusal, rfl⟩ := Store.failsByRefusal_entries s w₀ failure w₁ hentries
  obtain ⟨hprinted, hfiles⟩ :=
    unchanged_of_load hload ((Store.respects_entries s).of_run_eq_error hentries)
  refine ⟨refusal, ?_⟩
  rcases hasked with hasked | hasked
  · rw [run_of_useHistory_error haccepted hload hstore hasked heverything]
    exact ⟨⟨rfl, rfl⟩, hprinted, hfiles⟩
  · rw [run_of_useHistory_error haccepted hload hstore hasked hedit]
    exact ⟨⟨rfl, rfl⟩, hprinted, hfiles⟩

end Runs

/-- **Runs that edit an entry.** Where the history does not show the entry that is named, the run
complains about its name, prints nothing and leaves all files as they are; where it shows the
entry, the run ends well, unless an access is refused. A toggle without a name is taken for no
edit at all: the run shows everything. A history that cannot be read is complained about. -/
theorem run_edits_entry {leading : List Text} (hleading : ∀ word ∈ leading, Usage.IsOption word)
    (d : Edit) (id : Text) (service : Explanation.Service) (terminal : Bool)
    {settings : Settings} {s : Store} {w w₀ : Workspace} {invocation : Invocation}
    (haccepted : Invocation.ofArguments (leading ++ Subcommand.history.name :: d.words id) =
      .ok invocation)
    (hload : Settings.load.run (atStart w) = .ok settings w₀)
    (hstore : (store settings).run w = .ok s w) :
    let result := run service terminal (leading ++ Subcommand.history.name :: d.words id) w
    (∀ entries, s.Shows w entries →
      (d.Names id → id ∉ entries.map Entry.id →
        IsRefusedWith invocation.debug w result ("no history entry with id " ++ id)) ∧
      (id ∈ entries.map Entry.id → ShowsOutcome invocation.debug result .done ∨
        ∃ refusal : Storage.Refusal,
          ShowsOutcome invocation.debug result (.failed refusal.message)) ∧
      (¬d.Names id → ShowsOutcome invocation.debug result .done ∧
        result.1.output = listing entries ∧ result.2.files = w.files)) ∧
    ((∀ entries, ¬s.Shows w entries) →
      ∃ refusal : Storage.Refusal, IsRefusedWith invocation.debug w result refusal.message) := by
  intro result
  obtain ⟨reports, journal, hw₀⟩ := Settings.respects_load.of_run_eq_ok hload
  have hstore₀ : (store settings).run w₀ = .ok s w₀ :=
    run_store_of_home hstore (by rw [hw₀]; rfl) (by rw [hw₀]; rfl) (by rw [hw₀]; rfl)
  have hfiles₀ : w₀.files = w.files := by rw [hw₀]; rfl
  have hedit (h : d.Names id) := Edit.request_of_words hleading haccepted h
  have heverything (h : ¬d.Names id) := Edit.request_of_nameless hleading haccepted h
  refine ⟨fun entries hshows => ?_, fun hnone => ?_⟩
  · obtain ⟨w₁, hentries⟩ := hshows.of_files hfiles₀
    refine ⟨fun hnames hid => ?_, fun hid => ?_, fun hnameless => ?_⟩
    · exact isRefusedWith_of_not_mem haccepted hload hstore₀ (hedit hnames) hentries hid
    · by_cases hnames : d.Names id
      · exact showsOutcome_of_mem haccepted hload hstore₀ (hedit hnames) hentries hid
      · exact .inl (showsOutcome_of_everything haccepted hload hstore₀ (heverything hnames)
          hentries).1
    · exact showsOutcome_of_everything haccepted hload hstore₀ (heverything hnameless) hentries
  · cases hentries : s.entries.run w₀ with
    | ok entries w₁ =>
      exact absurd (Store.Shows.of_files ⟨w₁, hentries⟩ hfiles₀.symm) (hnone entries)
    | error failure w₁ =>
      refine exists_isRefusedWith_of_error haccepted hload hstore₀ d id hentries ?_
      by_cases hnames : d.Names id
      · exact .inr (hedit hnames)
      · exact .inl (heverything hnames)

theorem eq_ok_of_toOption {ε α : Type} {x : Except ε α} {a : α} (h : x.toOption = some a) :
    x = .ok a := by
  cases x with
  | error e => cases h
  | ok b => exact congrArg Except.ok (Option.some.inj h)

/-- In a history without entries a tag for an entry is refused, and so is one for an entry without
a name; but a toggle without a name ends well. -/
theorem run_edits_entry_bare :
    let result (words : List Text) :=
      run unreachable false ("-d" :: "history" :: words) Store.bareWorkspace
    IsRefusedWith true Store.bareWorkspace (result ["--add-tag", "nope", "x"])
        "no history entry with id nope" ∧
      IsRefusedWith true Store.bareWorkspace (result ["--remove-tag", "", "x"])
        "no history entry with id " ∧
      (result ["--favorite", ""]).1.ending = .served 0 := by
  intro result
  have hload : Settings.load.run (atStart Store.bareWorkspace) =
      .ok .standard (atStart Store.bareWorkspace) := rfl
  have hleading : ∀ word ∈ [Text.ofString "-d"], Usage.IsOption word :=
    List.forall_mem_singleton.2 (Usage.IsDebug.isOption (.inl rfl))
  have hstore : (store .standard).run Store.bareWorkspace =
      .ok ⟨Store.bareWorkspace.historyFile, 100⟩ Store.bareWorkspace := rfl
  have hshows : Store.Shows ⟨Store.bareWorkspace.historyFile, 100⟩ Store.bareWorkspace [] :=
    ⟨Store.bareWorkspace, rfl⟩
  have hedits (d : Edit) (id : Text) (request : HistoryRequest)
      (haccepted : (Invocation.ofArguments ("-d" :: "history" :: d.words id)).toOption =
        some ⟨true, .history request⟩) :=
    (run_edits_entry hleading d id unreachable false (eq_ok_of_toOption haccepted) hload hstore).1
      [] hshows
  refine ⟨?_, ?_, ?_⟩
  · exact (hedits (.addTag "x") "nope" (.addTag "nope" "x") (by decide +kernel)).1 nofun
      List.not_mem_nil
  · exact (hedits (.removeTag "x") [] (.removeTag "" "x") (by decide +kernel)).1 nofun
      List.not_mem_nil
  · exact ((hedits .toggleFavorite [] .everything (by decide +kernel)).2.2
      (by simp [Edit.Names])).1.ending

end Program

end CommandAdvisor
