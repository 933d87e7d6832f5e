import CommandAdvisor.Proofs.Json.Reals
import CommandAdvisor.Proofs.Settings.Loading
import Mathlib.Data.Option.Basic

/-!
# Saved settings are loaded as they were

Settings that are not set are left out of their file, and every field that may be left out is
not set where nothing is said about it. So what is saved of settings is decoded to the same
settings, whichever of them are set. The file is read back to what was written, so the settings
are in force again unless the environment has its say.

## Main definitions
* `IsSound`: the texts of settings hold no half of a surrogate pair.
* `IsUnset`: the environment has no say in the settings.

## Main statements
* `overridden_of_isUnset`: an environment without a say changes nothing.
* `read_encodeSet`: what is written of settings is read back.
* `load_saved`: settings that were saved are loaded.
-/
namespace CommandAdvisor.Settings

open CommandAdvisor.Action
open Json (Value Dialect)
open Json.Value (Members)

variable {s : Settings} {w w' : Workspace}

/-! ## Without an environment -/

/-- None of the variables that change settings says anything: those for the model and for colour
and those for the keys of all services. -/
structure IsUnset (w : Workspace) : Prop where
  model : w.nonempty? "CMDLENS_MODEL" = none
  color : w.nonempty? "CMDLENS_COLOR" = none
  key : ∀ p ∈ providers, ∀ name ∈ p.keyVariable, w.nonempty? name = none

theorem key?_of_isUnset (h : IsUnset w) (s : Settings) : s.key? w = none := by
  rw [Option.eq_none_iff_forall_ne_some]
  intro key hkey
  obtain ⟨p, hp, -, name, hname, hsays⟩ := key?_eq_some_iff.1 hkey
  rw [← nonempty?_eq_some_iff, h.key p hp name hname] at hsays
  cases hsays

/-- An environment without a say changes nothing. -/
theorem overridden_of_isUnset (h : IsUnset w) (s : Settings) : s.overridden w = s := by
  rw [overridden_eq, h.model, h.color, key?_of_isUnset h]
  rfl

/-! ## What is written -/

/-- The texts of settings. -/
def texts (s : Settings) : List Text :=
  s.model :: (s.provider.toList ++ s.apiKey.toList ++ s.historyFile.toList)

/-- No text of the settings holds half of a surrogate pair. -/
def IsSound (s : Settings) : Prop := ∀ t ∈ s.texts, t.isSound = true

instance (s : Settings) : Decidable s.IsSound :=
  inferInstanceAs (Decidable (∀ t ∈ s.texts, t.isSound = true))

/-- The members that are saved. -/
def membersSet (s : Settings) : Members :=
  Value.member? "provider" (s.provider.map .string) ++ Value.member "model" (.string s.model) ++
    Value.member? "api_key" (s.apiKey.map .string) ++
    Value.member "temperature" (.real s.temperature) ++
    Value.member? "history_file" (s.historyFile.map .string) ++
    Value.member "max_history" (.integer s.maxHistory) ++
    Value.member? "color" (s.color.map .bool)

theorem encodeSet_eq (s : Settings) : s.encodeSet = .object s.membersSet := rfl

/-- What has to be shown of each member that is saved. -/
theorem forall_mem_membersSet {P : Text × Value → Prop} :
    (∀ m ∈ s.membersSet, P m) ↔
      (∀ t ∈ s.provider, P ("provider", .string t)) ∧ P ("model", .string s.model) ∧
      (∀ t ∈ s.apiKey, P ("api_key", .string t)) ∧ P ("temperature", .real s.temperature) ∧
      (∀ t ∈ s.historyFile, P ("history_file", .string t)) ∧
      P ("max_history", .integer s.maxHistory) ∧ ∀ b ∈ s.color, P ("color", .bool b) := by
  simp only [membersSet, List.forall_mem_append, Value.member_eq_member?, Value.forall_mem_member?,
    Option.forall_mem_map, Option.mem_some_iff, forall_eq', and_assoc]

theorem isSound_encodeSet (h : s.IsSound) : s.encodeSet.IsSound := by
  simp only [IsSound, texts, List.forall_mem_cons, List.forall_mem_append, Option.mem_toList] at h
  obtain ⟨hmodel, ⟨hprovider, hkey⟩, hfile⟩ := h
  rw [encodeSet_eq, Value.isSound_object, forall_mem_membersSet]
  have hstring {t : Text} (ht : t.isSound = true) : (Value.string t).IsSound :=
    Value.isSound_string.2 ht
  exact ⟨fun t ht => ⟨by simp, hstring (hprovider t ht)⟩, ⟨by simp, hstring hmodel⟩,
    fun t ht => ⟨by simp, hstring (hkey t ht)⟩, ⟨by simp, rfl⟩,
    fun t ht => ⟨by simp, hstring (hfile t ht)⟩, ⟨by simp, rfl⟩, fun b _ => ⟨by simp, rfl⟩⟩

/-- Both numbers are read back, the integer unless it is too long to be written. -/
theorem keepsNumbers_encodeSet (h : s.encodeSet.isOversized = false) :
    s.encodeSet.KeepsNumbers .free .portable := by
  rw [encodeSet_eq, Value.isOversized_object, forall_mem_membersSet] at h
  obtain ⟨-, -, -, -, -, hmaxHistory, -⟩ := h
  have htemperature := Dialect.free.scalar_writeReal .portable s.temperature (by decide) (.inl rfl)
  rw [encodeSet_eq]
  refine Value.membersKeepNumbers_iff.2 (forall_mem_membersSet.2 ?_)
  exact ⟨fun _ _ => trivial, trivial, fun _ _ => trivial, htemperature, fun _ _ => trivial,
    Dialect.scalar_writeInteger hmaxHistory, fun _ _ => trivial⟩

theorem depth_encodeSet_le (s : Settings) : s.encodeSet.depth ≤ 1 :=
  Value.depth_object_le (forall_mem_membersSet.2 (by simp [Value.depth]))

/-- **What is written of settings is read back.** -/
theorem read_encodeSet (hs : s.IsSound) (hsize : s.encodeSet.isOversized = false) :
    Json.read .free (Text.ofString (s.encodeSet.write .portable .indented).asString) =
      .ok s.encodeSet := by
  have hsound := isSound_encodeSet hs
  rw [Text.ofString_asString (Value.isSound_write .portable .indented hsound)]
  exact Value.read_write hsound (keepsNumbers_encodeSet hsize) nofun

/-- There is always room to read it. -/
theorem exhaustion?_encodeSet (room : Json.Room) (hs : s.IsSound) :
    Json.exhaustion? room (Text.ofString (s.encodeSet.write .portable .indented).asString) =
      none := by
  have hsound := isSound_encodeSet hs
  rw [Text.ofString_asString (Value.isSound_write .portable .indented hsound)]
  exact Value.exhaustion?_write hsound (Nat.le_trans s.depth_encodeSet_le (by decide))

/-! ## Saving and loading -/

/-- Settings that were saved are in their file, and the rest of the workspace is as it was. -/
theorem access_of_save {u : Unit} (h : s.save.run w = .ok u w') :
    s.encodeSet.isOversized = false ∧ w'.environment = w.environment ∧
      w'.files.access w'.settingsFile = .ok (.file Storage.privateMode
        (s.encodeSet.write .portable .indented).asString.toUTF8) := by
  obtain ⟨files, journal, hw'⟩ := (respects_save s).of_run_eq_ok h
  rw [save, run_bind_of_ok (EStateM.run_get w)] at h
  obtain ⟨_, w₁, hsave, hnote⟩ := exists_of_run_bind_eq_ok h
  have hfiles : w'.files = w₁.files := by
    cases hnote
    rfl
  have hpath : w'.settingsFile = w.settingsFile := by
    rw [hw']
    rfl
  rw [hpath, hfiles]
  exact ⟨Storage.isOversized_of_savePrivately hsave, by rw [hw'],
    Storage.access_of_savePrivately hsave⟩

/-- **Settings that were saved are loaded as they were,** whatever was in their file before.
Nothing is noted but that there was a file, and no one is warned of that. -/
theorem load_saved {u : Unit} (hs : s.IsSound) (hlimits : s.WithinLimits) (hunset : IsUnset w)
    (hsave : s.save.run w = .ok u w') :
    load.run w' = .ok s (noting w' (.settingsLoaded w'.settingsFile)) ∧
      (Event.settingsLoaded w'.settingsFile).severity ≠ .warning := by
  obtain ⟨hsize, henvironment, haccess⟩ := access_of_save hsave
  have hunset' : IsUnset w' := by
    have hsame (name : Text) : w'.nonempty? name = w.nonempty? name := by
      rw [Workspace.nonempty?, Workspace.environmentValue?, henvironment]
      rfl
    exact ⟨(hsame _).trans hunset.model, (hsame _).trans hunset.color,
      fun p hp name hname => (hsame name).trans (hunset.key p hp name hname)⟩
  have hload := run_load_of_decode haccess (Text.fromUTF8?_toUTF8 _)
    (exhaustion?_encodeSet w'.host.room hs) (read_encodeSet hs hsize) (decode_encodeSet hlimits)
  rw [overridden_of_isUnset hunset'] at hload
  have hquiet : Severity.debug ≠ Severity.warning := by decide
  exact ⟨hload, hquiet⟩

/-- Settings of which some are empty, some are off and some are not set. -/
def sparse : Settings where
  provider := some ""
  model := "\"é\\\u2028😀"
  apiKey := none
  temperature := .ofScaled false 7 (-1)
  historyFile := some "~/\x00"
  maxHistory := 1
  color := some false

/-- What was in the file was no text. -/
theorem load_saved_sparse : ∃ w', sparse.save.run (withStored ⟨#[0xFF]⟩) = .ok () w' ∧
    load.run w' = .ok sparse (noting w' (.settingsLoaded w'.settingsFile)) := by
  have hsound : sparse.IsSound := by decide +kernel
  have hlimits : sparse.WithinLimits :=
    ⟨by decide, isTemperature_of_le (by decide +kernel) (by decide +kernel)⟩
  have hunset : IsUnset (withStored ⟨#[0xFF]⟩) := ⟨rfl, rfl, fun _ _ _ _ => rfl⟩
  have hdone : (match sparse.save.run (withStored ⟨#[0xFF]⟩) with
      | .ok _ _ => true
      | .error _ _ => false) = true := by decide +kernel
  cases hsave : sparse.save.run (withStored ⟨#[0xFF]⟩) with
  | error failure w' =>
    rw [hsave] at hdone
    cases hdone
  | ok u w' => exact ⟨w', rfl, (load_saved hsound hlimits hunset hsave).1⟩

end CommandAdvisor.Settings
