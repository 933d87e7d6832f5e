import CommandAdvisor.Proofs.Frames
import CommandAdvisor.Proofs.History.Stored
import CommandAdvisor.Proofs.Json.LongIntegers
import CommandAdvisor.Proofs.Json.Nesting
import CommandAdvisor.Proofs.Settings.Environment
import CommandAdvisor.Proofs.Settings.Fields

/-!
# What becomes of a settings file

A settings file that does not hold JSON counts as empty, and so does one that holds anything
but an object; an object is refused for its members only. Three kinds of files make loading
fail in another way: those that hold no text, those in which the reader is stopped by an
integer that is too long, and those whose containers are within each other so deep that there
is no room to read them.

## Main statements
* `Json.read_cons_eq_malformed` and `Json.exhaustion?_cons_eq_none`: a text that starts like no
  value is no JSON, and there is room enough to tell.
* `Settings.maxHistory_pos_of_load`: settings in force keep a positive number of entries.
* `Settings.load_stored`: what becomes of each content of a settings file.
* `Settings.load_resolves`: what is in force where an object is accepted.
-/
namespace CommandAdvisor

open Json (StopsAtInteger Value)
open Number (Numeral isDigit)

/-! ## Texts that start like no value -/

namespace Json

open Lexeme (scan ofPunctuation?)

/-- A word goes on where it was left. -/
theorem exists_scan_word_eq (soFar : Text) (hs : soFar ≠ []) (s : Text) :
    ∃ t rest, scan (.word soFar) s = .word (soFar.reverse ++ t) :: rest := by
  induction s generalizing soFar with
  | nil => exact ⟨[], [], by simp [scan, Lexeme.closeWord, hs]⟩
  | cons l s ih =>
    rw [scan]
    split
    · exact ⟨[], _, by rw [List.append_nil]⟩
    · split
      · exact ⟨[], _, by rw [List.append_nil]⟩
      · split
        · exact ⟨[], _, by rw [List.append_nil]⟩
        · obtain ⟨t, rest, hrest⟩ := ih (l :: soFar) (List.cons_ne_nil l soFar)
          exact ⟨l :: t, rest, by rw [hrest, List.reverse_cons, List.append_assoc]; rfl⟩

/-- No name of a value starts with a letter of no value. -/
theorem isPrefixOf_cons_eq_false {l : Letter} (hl : ¬IsWordLetter l) (t : Text) {name : Text}
    (hname : name ∈ valueNames) : name.isPrefixOf (l :: t) = false := by
  have hheads : ∀ name ∈ valueNames, ∃ m ∈ name.head?, IsWordLetter m := by decide
  obtain ⟨m, hm, hword⟩ := hheads name hname
  obtain ⟨ms, rfl⟩ := List.head?_eq_some_iff.1 hm
  have hne : (m == l) = false := beq_eq_false_iff_ne.2 fun heq => hl (heq ▸ hword)
  rw [List.isPrefixOf, hne, Bool.false_and]

theorem match?_cons_of_not_isWordLetter {l : Letter} (hl : ¬IsWordLetter l) (t : Text) :
    Numeral.match? (l :: t) = none := by
  have hdigit : isDigit l = false := by
    cases h : isDigit l with
    | false => rfl
    | true => exact absurd (isWordLetter_of_isDigit h) hl
  have hminus : l ≠ .char '-' := by
    rintro rfl
    exact hl (by decide)
  exact Numeral.match?_cons_eq_none hminus hdigit t

theorem scalar_cons_eq_malformed (d : Dialect) {l : Letter} (hl : ¬IsWordLetter l) (t : Text) :
    d.scalar (l :: t) = .error .malformed := by
  have hname {name : Text} (h : name ∈ valueNames) : l :: t ≠ name := by
    rintro rfl
    have hsame := isPrefixOf_cons_eq_false hl t h
    rw [List.isPrefixOf_iff_prefix.2 (List.prefix_refl _)] at hsame
    cases hsame
  rw [Dialect.scalar, if_neg (hname (by decide)), if_neg (hname (by decide)),
    if_neg (hname (by decide)), if_neg (hname (by decide)), if_neg (hname (by decide)),
    if_neg (hname (by decide)), match?_cons_of_not_isWordLetter hl]

section LetterOfNoValue

variable {l : Letter} (hspace : isSpace l = false) (hquote : l ≠ .char '"')
  (hpunct : ofPunctuation? l = none)

include hspace hquote hpunct

theorem exists_ofText_cons_eq (s : Text) :
    ∃ t rest, Lexeme.ofText (l :: s) = .word (l :: t) :: rest := by
  obtain ⟨t, rest, hscan⟩ := exists_scan_word_eq [l] (List.cons_ne_nil l []) s
  refine ⟨t, rest, ?_⟩
  rw [Lexeme.ofText, scan, if_neg (by simp [hspace]), if_neg hquote, hpunct]
  exact hscan

variable (hl : ¬IsWordLetter l)

include hl

/-- A text that starts with a letter of no value is no JSON. -/
theorem read_cons_eq_malformed (d : Dialect) (s : Text) : read d (l :: s) = .error .malformed := by
  obtain ⟨t, rest, hlexemes⟩ := exists_ofText_cons_eq hspace hquote hpunct s
  have hstep : Assembly.step d (.value []) (.word (l :: t)) = .error .malformed := by
    rw [Assembly.step, Assembly.stepValue, scalar_cons_eq_malformed d hl]
    rfl
  rw [read, hlexemes, List.foldlM_cons, hstep]
  rfl

/-- To tell that takes no more room than there is. -/
theorem exhaustion?_cons_eq_none (room : Room) (s : Text) : exhaustion? room (l :: s) = none := by
  obtain ⟨t, rest, hlexemes⟩ := exists_ofText_cons_eq hspace hquote hpunct s
  have hnames : valueNames.any (·.isPrefixOf (l :: t)) = false :=
    List.any_eq_false.2 fun name hname => by simp [isPrefixOf_cons_eq_false hl t hname]
  have hnumbers : numberNames.any (·.isPrefixOf (l :: t)) = false := by
    have hnumber : ∀ name ∈ numberNames, name ∈ valueNames := by decide
    exact List.any_eq_false.2 fun name hname => by
      simp [isPrefixOf_cons_eq_false hl t (hnumber name hname)]
  have hcall : Assembly.call? room (.value []) (.word (l :: t)) = none := by
    have hawaits : (Assembly.value []).awaitsValue = true := rfl
    rw [Assembly.call?, if_pos hawaits, Lexeme.call?, hnumbers]
    rfl
  have hstep : Assembly.step .free (.value []) (.word (l :: t)) = .error .malformed := by
    rw [Assembly.step, Assembly.stepValue, scalar_cons_eq_malformed .free hl]
    rfl
  have hstarts : (Lexeme.word (l :: t)).startsValue = false := by
    rw [Lexeme.startsValue, hnames, match?_cons_of_not_isWordLetter hl]
    rfl
  rw [exhaustion?, hlexemes, Assembly.strainFrom?, hcall, hstep]
  dsimp only
  rw [Assembly.report?, hstarts]
  rfl

end LetterOfNoValue

end Json

namespace Settings

open CommandAdvisor.Action

/-! ## Loading -/

variable {w : Workspace} {mode : Nat} {content : ByteArray}

/-- A workspace with one more event in its journal. -/
def noting (w : Workspace) (e : Event) : Workspace := { w with journal := w.journal ++ [e] }

theorem run_storedMembers_of_file (h : w.files.access w.settingsFile = .ok (.file mode content)) :
    storedMembers.run w = match String.fromUTF8? content with
      | none => .error .notText w
      | some text =>
        match Json.exhaustion? w.host.room text with
        | some during => .error (.exhausted during) w
        | none =>
          match Json.read .free text with
          | .error .malformed => .ok [] (noting w (.settingsUnusable w.settingsFile .notJson))
          | .error (.oversized n) => .error (.longInteger n) w
          | .ok (.object members) => .ok members (noting w (.settingsLoaded w.settingsFile))
          | .ok _ => .ok [] (noting w (.settingsLoaded w.settingsFile)) := by
  have hread : (Action.onDisk (Storage.Disk.read w.settingsFile)).run w = .ok content w :=
    Storage.run_onDisk_of_ok (Storage.Disk.run_read_of_access h)
  rw [storedMembers, run_bind_of_ok (EStateM.run_get w), run_bind_of_ok (EStateM.run_get w),
    Storage.FileSystem.isThere_of_access h]
  dsimp only
  rw [run_bind_of_ok hread]
  cases String.fromUTF8? content with
  | none => rfl
  | some text =>
    dsimp only
    rw [run_bind_of_ok (EStateM.run_get w)]
    cases Json.exhaustion? w.host.room text with
    | some during => rfl
    | none =>
      dsimp only
      cases Json.read .free text with
      | error fault => cases fault <;> rfl
      | ok v => cases v <;> rfl

/-- Loading fails where the file holds no text. -/
theorem run_load_of_notText (h : w.files.access w.settingsFile = .ok (.file mode content))
    (htext : String.fromUTF8? content = none) : load.run w = .error .notText w := by
  have hstored := run_storedMembers_of_file h
  rw [htext] at hstored
  exact run_bind_of_error hstored

section Readable

variable {text : String} (h : w.files.access w.settingsFile = .ok (.file mode content))
  (htext : String.fromUTF8? content = some text)

include h htext

/-- Loading fails where there is no room to read the text of the file. -/
theorem run_load_of_exhaustion? {during : Json.Strain}
    (hgiven : Json.exhaustion? w.host.room text = some during) :
    load.run w = .error (.exhausted during) w := by
  have hstored := run_storedMembers_of_file h
  simp only [htext, hgiven] at hstored
  exact run_bind_of_error hstored

/-- Loading fails where the text of the file is read up to an integer that is too long. -/
theorem run_load_of_stopsAtInteger {n : Nat} (hroom : Json.exhaustion? w.host.room text = none)
    (hstops : StopsAtInteger text n) : load.run w = .error (.longInteger n) w := by
  have hstored := run_storedMembers_of_file h
  simp only [htext, hroom, Json.read_eq_oversized_iff.2 hstops] at hstored
  exact run_bind_of_error hstored

end Readable

theorem load_of_storedMembers {members : Value.Members} {w' : Workspace}
    (h : storedMembers.run w = .ok members w') : load.run w = match decode (.object members) with
      | .valid s => .ok (s.overridden w') w'
      | .invalid issues => .error (.invalid issues) w' := by
  rw [load, run_bind_of_ok h]
  cases decode (.object members) <;> rfl

theorem load_of_storedMembers_nil {w' : Workspace} (h : storedMembers.run w = .ok [] w') :
    load.run w = .ok (standard.overridden w') w' := by
  rw [load_of_storedMembers h, decode_nil]

/-- Members are refused only for one of them, and a member that is refused is enough. -/
theorem load_of_members {members : Value.Members} {w' : Workspace}
    (h : storedMembers.run w = .ok members w') :
    ((∀ name value, Value.find? name members = some value → ¬Refuses name value) →
      ∃ s, decode (.object members) = .valid s ∧ load.run w = .ok (s.overridden w') w') ∧
    ((∃ name value, Value.find? name members = some value ∧ Refuses name value) →
      ∃ issues, load.run w = .error (.invalid issues) w' ∧
        ∀ i ∈ issues, ∃ name value, Value.find? name members = some value ∧
          i.place.head? = some (.field name) ∧
          i ∈ (decode (.object [(name, value)])).issues) := by
  have hload := load_of_storedMembers h
  refine ⟨fun haccepted => ?_, fun hexists => ?_⟩
  · obtain ⟨s, hs⟩ := exists_decode_eq_valid_iff.2 haccepted
    rw [hs] at hload
    exact ⟨s, hs, hload⟩
  · obtain ⟨name, value, hvalue, hrefused⟩ := hexists
    cases hdecode : decode (.object members) with
    | valid s => exact absurd hrefused (exists_decode_eq_valid_iff.1 ⟨s, hdecode⟩ name value hvalue)
    | invalid issues =>
      rw [hdecode] at hload
      refine ⟨issues, hload, fun i hi => exists_of_mem_issues_decode ?_⟩
      rw [hdecode]
      exact hi

/-- Settings in force are those of an object that is accepted, as the environment changes them. -/
theorem exists_of_run_load {settings : Settings} {w w' : Workspace}
    (h : load.run w = .ok settings w') :
    ∃ v s, decode v = .valid s ∧ settings = s.overridden w' := by
  obtain ⟨members, w₁, -, hrest⟩ := exists_of_run_bind_eq_ok h
  cases hdecode : decode (.object members) with
  | invalid issues =>
    rw [hdecode] at hrest
    cases hrest
  | valid s =>
    rw [hdecode] at hrest
    cases hrest
    exact ⟨_, s, hdecode, rfl⟩

/-- Settings in force are within their limits. -/
theorem withinLimits_of_load {settings : Settings} {w w' : Workspace}
    (h : load.run w = .ok settings w') : settings.WithinLimits := by
  obtain ⟨v, s, hdecode, rfl⟩ := exists_of_run_load h
  obtain ⟨hmaxHistory, htemperature⟩ := overridden_numbers w' s
  have hlimits := withinLimits_of_decode hdecode
  exact ⟨hmaxHistory ▸ hlimits.maxHistory, htemperature ▸ hlimits.temperature⟩

/-- Settings in force keep a positive number of entries. -/
theorem maxHistory_pos_of_load {settings : Settings} {w w' : Workspace}
    (h : load.run w = .ok settings w') : 0 < settings.maxHistory :=
  (withinLimits_of_load h).maxHistory

/-- **What becomes of each content of a settings file.** Without text, without room for its
containers or with an integer that is too long, loading fails in a way of its own; without JSON
or with anything but an object, the standard settings are in force; an object is refused for its
members only. The environment overrides whatever settings there are. There is room for a text
whose containers stay three short of filling it, and none for a value whose containers do not
fit. -/
theorem load_stored (h : w.files.access w.settingsFile = .ok (.file mode content)) :
    (String.fromUTF8? content = none → load.run w = .error .notText w) ∧
    ∀ text, String.fromUTF8? content = some text →
      (Json.nesting text + 3 ≤ w.host.room.most → Json.exhaustion? w.host.room text = none) ∧
      (∀ v, Json.read .free text = .ok v → w.host.room.most < Json.nesting text →
        Json.exhaustion? w.host.room text ≠ none) ∧
      (∀ during, Json.exhaustion? w.host.room text = some during →
        load.run w = .error (.exhausted during) w) ∧
      ((text = "" ∨ text.toList.head? = some '\uFEFF') →
        Json.exhaustion? w.host.room text = none ∧ Json.read .free text = .error .malformed) ∧
      (Json.exhaustion? w.host.room text = none →
        (∀ n, StopsAtInteger text n → load.run w = .error (.longInteger n) w) ∧
        (Json.read .free text = .error .malformed → load.run w =
          .ok (standard.overridden w) (noting w (.settingsUnusable w.settingsFile .notJson))) ∧
        ∀ v, Json.read .free text = .ok v →
          ((∀ members, v ≠ .object members) → load.run w =
            .ok (standard.overridden w) (noting w (.settingsLoaded w.settingsFile))) ∧
          ∀ members, v = .object members →
            ((∀ name value, Value.find? name members = some value → ¬Refuses name value) →
              ∃ s, decode v = .valid s ∧
                load.run w = .ok (s.overridden w) (noting w (.settingsLoaded w.settingsFile))) ∧
            ((∃ name value, Value.find? name members = some value ∧ Refuses name value) →
              ∃ issues, load.run w =
                  .error (.invalid issues) (noting w (.settingsLoaded w.settingsFile)) ∧
                ∀ i ∈ issues, ∃ name value, Value.find? name members = some value ∧
                  i.place.head? = some (.field name) ∧
                  i ∈ (decode (.object [(name, value)])).issues)) := by
  refine ⟨run_load_of_notText h, fun text htext => ⟨Json.exhaustion?_eq_none_of_nesting, ?_,
    fun during hgiven => run_load_of_exhaustion? h htext hgiven, ?_, fun hroom => ?_⟩⟩
  · intro v hv hdeep hroom
    exact Nat.not_lt.2 (Json.nesting_le_of_read hroom hv) hdeep
  · rintro (rfl | hmark)
    · exact ⟨rfl, rfl⟩
    · obtain ⟨cs, hcs⟩ := List.head?_eq_some_iff.1 hmark
      have hletters : Text.ofString text = .char '\uFEFF' :: Text.ofChars cs := by
        rw [Text.ofString, hcs]
        rfl
      rw [hletters]
      exact ⟨Json.exhaustion?_cons_eq_none (by decide) (by decide) (by decide) (by decide) _ _,
        Json.read_cons_eq_malformed (by decide) (by decide) (by decide) (by decide) .free _⟩
  · have hstored := run_storedMembers_of_file h
    simp only [htext, hroom] at hstored
    refine ⟨fun n hstops => run_load_of_stopsAtInteger h htext hroom hstops, fun hmalformed => ?_,
      fun v hv => ⟨fun hother => ?_, ?_⟩⟩
    · rw [hmalformed] at hstored
      exact load_of_storedMembers_nil hstored
    · rw [hv] at hstored
      cases v with
      | object members => exact absurd rfl (hother members)
      | _ => exact load_of_storedMembers_nil hstored
    · rintro members rfl
      rw [hv] at hstored
      exact load_of_members hstored

/-- A workspace with a settings file of a content. -/
def withStored (content : ByteArray) : Workspace :=
  { History.Store.bareWorkspace with
    files := ⟨[], [([".cmdlens"], .directory 0o700),
      ([".cmdlens", "config.json"], .file 0o600 content)]⟩ }

/-- More brackets than there usually is room for. -/
def brackets : String := String.ofList (List.replicate 1000 '[')

theorem exhaustion?_brackets : Json.exhaustion? .usual brackets = some .array := by
  have hletters (n : Nat) : Text.ofString (String.ofList (List.replicate n '[')) =
      List.replicate n (.char '[') ++ [] := by
    rw [Text.ofString, String.toList_ofList, Text.ofChars, List.map_replicate, List.append_nil]
  have hmore : Json.Room.usual.most < 1000 := by decide
  exact (congrArg _ (hletters 1000)).trans (Json.exhaustion?_brackets hmore [])

/-- A byte that is no text is no settings, a thousand brackets are too many to read, and a model
that is nothing is refused; an array counts as if nothing were set. -/
theorem load_stored_refused :
    load.run (withStored ⟨#[0xFF]⟩) = .error .notText (withStored ⟨#[0xFF]⟩) ∧
      load.run (withStored brackets.toUTF8) =
        .error (.exhausted .array) (withStored brackets.toUTF8) ∧
      (∃ issues w', load.run (withStored "\x7b\"model\": null\x7d".toUTF8) =
        .error (.invalid issues) w') ∧
      ∃ w', load.run (withStored "[null]".toUTF8) = .ok .standard w' := by
  have hfile (content : ByteArray) : (withStored content).files.access
      (withStored content).settingsFile = .ok (.file 0o600 content) := rfl
  refine ⟨?_, ?_, ?_, ?_⟩
  · exact (load_stored (hfile _)).1 (by decide +kernel)
  · obtain ⟨-, htext⟩ := load_stored (hfile brackets.toUTF8)
    obtain ⟨-, -, hfails, -⟩ := htext _ (Text.fromUTF8?_toUTF8 _)
    exact hfails .array exhaustion?_brackets
  · have hread : Json.read .free "\x7b\"model\": null\x7d" = .ok (.object [("model", .null)]) := rfl
    have hrefused : Refuses "model" .null := by
      intro s hs
      have hmodel := (decode_eq_valid_iff.1 hs).model
      rw [Record.withDefault_alone] at hmodel
      cases hmodel
    obtain ⟨-, htext⟩ := load_stored (hfile "\x7b\"model\": null\x7d".toUTF8)
    obtain ⟨hroom, -, -, -, hjson⟩ := htext _ (Text.fromUTF8?_toUTF8 _)
    obtain ⟨-, -, hvalue⟩ := hjson (hroom (by decide))
    obtain ⟨issues, hload, -⟩ := ((hvalue _ hread).2 _ rfl).2 ⟨"model", .null, rfl, hrefused⟩
    exact ⟨issues, _, hload⟩
  · have hread : Json.read .free "[null]" = .ok (.array [.null]) := rfl
    obtain ⟨-, htext⟩ := load_stored (hfile "[null]".toUTF8)
    obtain ⟨hroom, -, -, -, hjson⟩ := htext _ (Text.fromUTF8?_toUTF8 _)
    obtain ⟨-, -, hvalue⟩ := hjson (hroom (by decide))
    exact ⟨_, (hvalue _ hread).1 nofun⟩

/-- An object that is accepted is what is loaded, as the environment changes it, if there is room
to read it. -/
theorem run_load_of_decode {text : String} {s : Settings} {members : Value.Members}
    (hfile : w.files.access w.settingsFile = .ok (.file mode content))
    (htext : String.fromUTF8? content = some text)
    (hroom : Json.exhaustion? w.host.room text = none)
    (hread : Json.read .free text = .ok (.object members))
    (hs : decode (.object members) = .valid s) :
    load.run w = .ok (s.overridden w) (noting w (.settingsLoaded w.settingsFile)) := by
  have hstored := run_storedMembers_of_file hfile
  simp only [htext, hroom, hread] at hstored
  rw [load_of_storedMembers hstored, hs]
  rfl

/-- **The settings in force.** Where an object that is accepted is read from the settings file, they
are those of the file, each member for itself, the standard ones for what it leaves out, as the
environment changes them; the keys that the environment has for services that are not in use make
no difference. -/
theorem load_resolves {text : String} {s : Settings} {members : Value.Members}
    (hfile : w.files.access w.settingsFile = .ok (.file mode content))
    (htext : String.fromUTF8? content = some text)
    (hroom : Json.exhaustion? w.host.room text = none)
    (hread : Json.read .free text = .ok (.object members))
    (hs : decode (.object members) = .valid s) :
    (∀ name, Value.find? name members = none → s.field? name = standard.field? name) ∧
    (∀ name v, Value.find? name members = some v → ∃ alone,
      decode (.object [(name, v)]) = .valid alone ∧ s.field? name = alone.field? name) ∧
    ∃ t, Resolves w s t ∧
      load.run w = .ok t (noting w (.settingsLoaded w.settingsFile)) ∧
      ∀ environment : List (Text × Text),
        (∀ name, environment.lookup name ≠ w.environment.lookup name →
          IsKeyOfOther s.provider t.model name) →
        load.run { w with environment } =
          .ok t (noting { w with environment } (.settingsLoaded w.settingsFile)) := by
  refine ⟨fun name => field?_of_absent hs, fun name v => exists_field?_of_find? hs,
    s.overridden w, resolves_overridden w s, run_load_of_decode hfile htext hroom hread hs,
    fun environment hagree => ?_⟩
  have hsame : s.overridden { w with environment } = s.overridden w := overridden_of_agree hagree
  rw [← hsame]
  exact run_load_of_decode hfile htext hroom hread hs

/-- A workspace with a settings file of a content and with an environment. -/
def withEnvironment (content : ByteArray) (environment : List (Text × Text)) : Workspace :=
  { withStored content with environment }

/-- A file that names no service, and an environment whose model does. -/
theorem load_resolves_openai :
    let content := "\x7b\"api_key\": \"filed\", \"max_history\": \"7\"\x7d".toUTF8
    let environment (key : Text) : List (Text × Text) := [("GROQ_API_KEY", key),
      ("CMDLENS_MODEL", "openai/gpt-4o"), ("CMDLENS_COLOR", " YES "), ("OPENAI_API_KEY", "o")]
    ∃ t : Settings, t.model = "openai/gpt-4o" ∧ t.color = some true ∧
      t.apiKey = some (Text.ofString "o") ∧ t.maxHistory = 7 ∧ t.provider = none ∧
      (∃ w', load.run (withEnvironment content (environment "g")) = .ok t w') ∧
      ∃ w', load.run (withEnvironment content (environment "")) = .ok t w' := by
  intro content environment
  have inUse_iff {name : Text} :
      activeProvider? { standard with model := "openai/gpt-4o" } = some name ↔
        InUse none "openai/gpt-4o" name := activeProvider?_eq_some_iff
  have hread : Json.read .free "\x7b\"api_key\": \"filed\", \"max_history\": \"7\"\x7d" =
      .ok (.object [("api_key", .string "filed"), ("max_history", .string "7")]) := rfl
  have hs : decode (.object [("api_key", .string "filed"), ("max_history", .string "7")]) =
      .valid ⟨none, standardModel, some "filed", standardTemperature, none, 7, none⟩ := rfl
  have hfile : (withEnvironment content (environment "g")).files.access
      (withEnvironment content (environment "g")).settingsFile = .ok (.file 0o600 content) := rfl
  obtain ⟨-, -, t, hresolves, hload, hagree⟩ :=
    load_resolves hfile (Text.fromUTF8?_toUTF8 _)
      (Json.exhaustion?_eq_none_of_nesting (by decide)) hread hs
  have hmodel : t.model = "openai/gpt-4o" := hresolves.model_said _ ⟨rfl, by decide⟩
  have hrest := hresolves.rest
  have hkey : t.apiKey = some (Text.ofString "o") := by
    refine hresolves.key_said _ ⟨⟨"openai", some "OPENAI_API_KEY"⟩, by simp [providers], ?_,
      "OPENAI_API_KEY", rfl, rfl, by decide⟩
    rw [hmodel]
    exact inUse_iff.1 rfl
  refine ⟨t, hmodel, hresolves.color_yes " YES " rfl (by decide), hkey, ?_, ?_, ⟨_, hload⟩,
    ⟨_, hagree (environment "") fun name hname => ?_⟩⟩
  · rw [hrest]
  · rw [hrest]
  · refine ⟨⟨"groq", some "GROQ_API_KEY"⟩, by simp [providers], ?_, ?_⟩
    · by_contra hne
      have hother : (name == "GROQ_API_KEY") = false :=
        beq_eq_false_iff_ne.2 fun heq => hne (congrArg some heq.symm)
      refine hname ?_
      change List.lookup name (_ :: _) = List.lookup name (_ :: _)
      simp only [List.lookup_cons, hother]
    · rw [hmodel, ← inUse_iff]
      decide

end Settings

end CommandAdvisor
