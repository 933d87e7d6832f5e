import CommandAdvisor.Proofs.Text.Words
import CommandAdvisor.Settings.Storage

/-!
# Settings in an environment

The environment changes three settings: the model, colour, and the key of the service in use.
Which service is in use depends on the model in force, so the key comes last, and no other key
is looked at.

## Main definitions
* `Says`: an environment variable says something.
* `InUse` and `HasKey`: the service in use, and the key that the environment has for it.
* `IsKeyOfOther`: a variable for the key of a service that is not in use.
* `Resolves`: the settings in force by those of the file and by the environment.

## Main statements
* `resolves_overridden`: the environment makes these exceptions and no others.
* `overridden_of_agree`: keys of services that are not in use make no difference.
-/
namespace CommandAdvisor.Settings

variable {w : Workspace} {s t : Settings} {name : Text}

/-! ## What the environment says -/

/-- An environment variable has a value that is not empty. -/
def Says (w : Workspace) (name value : Text) : Prop :=
  w.environmentValue? name = some value ∧ value ≠ []

theorem nonempty?_eq_some_iff {value : Text} :
    w.nonempty? name = some value ↔ Says w name value := by
  simp [Workspace.nonempty?, Says, Option.filter_eq_some_iff]

theorem nonempty?_eq_none_iff : w.nonempty? name = none ↔ ∀ value, ¬Says w name value := by
  simp only [← nonempty?_eq_some_iff, Option.eq_none_iff_forall_ne_some, ne_eq]

/-- The words for yes in a colour variable. -/
def yesWords : List Text := ["1", "true", "yes", "on"]

/-- The words for no in a colour variable. -/
def noWords : List Text := ["0", "false", "no", "off"]

/-! ## The service in use -/

/-- The service in use is the one that is set. Where none is set it is the one that the model
names before its first slash, if that is known. -/
inductive InUse (provider : Option Text) (model name : Text) : Prop where
  | set (hset : provider = some name) (hname : name ≠ [])
  | ofModel (hunset : provider = none ∨ provider = some []) (p : Provider) (hp : p ∈ providers)
      (hname : p.name = name) (rest : Text) (hmodel : model = name ++ Letter.char '/' :: rest)
      (hslash : Letter.char '/' ∉ name)

theorem provider?_of_mem {p : Provider} (h : p ∈ providers) : provider? p.name = some p := by
  simp only [providers, List.mem_cons, List.not_mem_nil, or_false] at h
  rcases h with rfl | rfl | rfl | rfl | rfl <;> rfl

theorem provider?_eq_some_iff {p : Provider} :
    provider? name = some p ↔ p ∈ providers ∧ p.name = name := by
  constructor
  · intro h
    exact ⟨List.mem_of_find?_eq_some h, by simpa using List.find?_some h⟩
  · rintro ⟨hp, rfl⟩
    exact provider?_of_mem hp

theorem providerOfModel?_eq_some_iff {model : Text} : providerOfModel? model = some name ↔
    (∃ p ∈ providers, p.name = name) ∧
      ∃ rest, model = name ++ Letter.char '/' :: rest ∧ Letter.char '/' ∉ name := by
  rw [providerOfModel?]
  constructor
  · intro h
    split at h
    · next start rest hcut =>
      obtain ⟨p, hp, rfl⟩ := Option.map_eq_some_iff.1 h
      obtain ⟨hmem, rfl⟩ := provider?_eq_some_iff.1 hp
      have hstart : p.name = model.takeWhile (· ≠ Letter.char '/') := by
        rw [← Text.fst_cutAt, hcut]
      refine ⟨⟨p, hmem, rfl⟩, rest, Text.eq_of_cutAt hcut, ?_⟩
      rw [hstart]
      intro hslash
      simpa using List.mem_takeWhile_imp hslash
    · cases h
  · rintro ⟨⟨p, hp, rfl⟩, rest, rfl, hslash⟩
    rw [Text.cutAt_append hslash]
    dsimp only
    rw [provider?_of_mem hp]
    rfl

theorem activeProvider?_eq_some_iff :
    s.activeProvider? = some name ↔ InUse s.provider s.model name := by
  rw [activeProvider?]
  constructor
  · intro h
    split at h
    · next found hfound =>
      obtain ⟨hset, hname⟩ := (Option.filter_eq_some_iff).1 hfound
      cases h
      exact .set hset (by simpa using hname)
    · next hunset =>
      obtain ⟨⟨p, hp, hname⟩, rest, hmodel, hslash⟩ := providerOfModel?_eq_some_iff.1 h
      refine .ofModel ?_ p hp hname rest hmodel hslash
      cases hprovider : s.provider with
      | none => exact .inl rfl
      | some found =>
        rw [hprovider] at hunset
        simpa using hunset
  · rintro (⟨hset, hname⟩ | ⟨hunset, p, hp, hname, rest, hmodel, hslash⟩)
    · have hfilter : s.provider.filter (fun name => !name.isEmpty) = some name := by
        simpa [hset] using hname
      rw [hfilter]
    · have hfilter : s.provider.filter (fun name => !name.isEmpty) = none := by
        rcases hunset with h | h <;> rw [h] <;> rfl
      rw [hfilter]
      exact providerOfModel?_eq_some_iff.2 ⟨⟨p, hp, hname⟩, rest, hmodel, hslash⟩

/-- The environment has a key of the service in use. -/
def HasKey (w : Workspace) (provider : Option Text) (model key : Text) : Prop :=
  ∃ p ∈ providers, InUse provider model p.name ∧
    ∃ keyName, p.keyVariable = some keyName ∧ Says w keyName key

/-- The key of the service in use, if the environment has one. -/
def key? (w : Workspace) (s : Settings) : Option Text :=
  ((s.activeProvider?.bind provider?).bind Provider.keyVariable).bind w.nonempty?

theorem key?_eq_some_iff {key : Text} :
    s.key? w = some key ↔ HasKey w s.provider s.model key := by
  simp only [key?, Option.bind_eq_some_iff, HasKey, activeProvider?_eq_some_iff,
    provider?_eq_some_iff, nonempty?_eq_some_iff]
  constructor
  · rintro ⟨keyName, ⟨p, ⟨name, hname, hp, rfl⟩, hkeyName⟩, hsays⟩
    exact ⟨p, hp, hname, keyName, hkeyName, hsays⟩
  · rintro ⟨p, hp, hname, keyName, hkeyName, hsays⟩
    exact ⟨keyName, ⟨p, ⟨p.name, hname, hp, rfl⟩, hkeyName⟩, hsays⟩

/-! ## What the environment changes -/

/-- The settings in force by those of the file: the environment has its say in the model, in
colour and in the key of the service in use, and in nothing else. -/
structure Resolves (w : Workspace) (s t : Settings) : Prop where
  /-- A model that the environment names is in force. -/
  model_said : ∀ model, Says w "CMDLENS_MODEL" model → t.model = model
  model_unsaid : (∀ model, ¬Says w "CMDLENS_MODEL" model) → t.model = s.model
  /-- A colour variable that says yes or no in its own words counts, any other does not. -/
  color_yes : ∀ value, w.environmentValue? "CMDLENS_COLOR" = some value →
    Text.lower (Text.trim value) ∈ yesWords → t.color = some true
  color_no : ∀ value, w.environmentValue? "CMDLENS_COLOR" = some value →
    Text.lower (Text.trim value) ∈ noWords → t.color = some false
  color_unsaid : (∀ value, w.environmentValue? "CMDLENS_COLOR" = some value →
    Text.lower (Text.trim value) ∉ yesWords ∧ Text.lower (Text.trim value) ∉ noWords) →
    t.color = s.color
  /-- A key of the service in use, by the model in force, takes the place of the one in the
  file. -/
  key_said : ∀ key, HasKey w s.provider t.model key → t.apiKey = some key
  key_unsaid : (∀ key, ¬HasKey w s.provider t.model key) → t.apiKey = s.apiKey
  rest : t = { s with model := t.model, color := t.color, apiKey := t.apiKey }

theorem withModel_eq (w : Workspace) (s : Settings) :
    s.withModel w = { s with model := (w.nonempty? "CMDLENS_MODEL").getD s.model } := by
  rw [withModel]
  cases w.nonempty? "CMDLENS_MODEL" <;> rfl

theorem withColor_eq (w : Workspace) (s : Settings) : s.withColor w =
    { s with color := ((w.nonempty? "CMDLENS_COLOR").bind readColor?).or s.color } := by
  rw [withColor]
  cases (w.nonempty? "CMDLENS_COLOR").bind readColor? <;> rfl

theorem withKey_eq (w : Workspace) (s : Settings) :
    s.withKey w = { s with apiKey := (s.key? w).or s.apiKey } := by
  rw [withKey, key?]
  cases (s.activeProvider?.bind provider?).bind Provider.keyVariable with
  | none => rfl
  | some keyName =>
    rw [Option.bind_some]
    cases hkey : w.nonempty? keyName <;> simp [hkey]

/-- The service in use, and so its key, depends on the provider and the model only. -/
theorem overridden_eq (w : Workspace) (s : Settings) :
    let model := (w.nonempty? "CMDLENS_MODEL").getD s.model
    s.overridden w = { s with
      model := model
      color := ((w.nonempty? "CMDLENS_COLOR").bind readColor?).or s.color
      apiKey := (key? w { s with model := model }).or s.apiKey } := by
  rw [overridden, withKey_eq, withColor_eq, withModel_eq]
  rfl

/-- The environment has no say in the numbers. -/
theorem overridden_numbers (w : Workspace) (s : Settings) :
    (s.overridden w).maxHistory = s.maxHistory ∧ (s.overridden w).temperature = s.temperature := by
  rw [overridden_eq]
  exact ⟨rfl, rfl⟩

theorem readColor?_eq (value : Text) : readColor? value =
    if Text.lower (Text.trim value) ∈ yesWords then some true
    else if Text.lower (Text.trim value) ∈ noWords then some false else none := by
  simp only [readColor?, List.contains_iff_mem]
  rfl

theorem not_mem_yesWords : ∀ word ∈ noWords, word ∉ yesWords := by decide

/-- An empty colour variable says no more than one that is not there. -/
theorem bind_nonempty?_readColor? (w : Workspace) (name : Text) :
    (w.nonempty? name).bind readColor? = (w.environmentValue? name).bind readColor? := by
  rw [Workspace.nonempty?]
  cases w.environmentValue? name with
  | none => rfl
  | some value =>
    cases value with
    | nil => rfl
    | cons l rest => rfl

/-- The environment makes the exceptions that it should and no others. -/
theorem resolves_overridden (w : Workspace) (s : Settings) : Resolves w s (s.overridden w) := by
  rw [overridden_eq, bind_nonempty?_readColor?]
  refine ⟨?_, ?_, ?_, ?_, ?_, ?_, ?_, rfl⟩
  · intro model hsays
    rw [nonempty?_eq_some_iff.2 hsays]
    rfl
  · intro hunsaid
    rw [nonempty?_eq_none_iff.2 hunsaid]
    rfl
  · intro value hvalue hyes
    simp [hvalue, readColor?_eq, hyes]
  · intro value hvalue hno
    simp [hvalue, readColor?_eq, hno, not_mem_yesWords _ hno]
  · intro hneither
    cases hvalue : w.environmentValue? "CMDLENS_COLOR" with
    | none => rfl
    | some value =>
      obtain ⟨hyes, hno⟩ := hneither value hvalue
      simp [readColor?_eq, hyes, hno]
  · intro key hkey
    rw [key?_eq_some_iff.2 hkey]
    rfl
  · intro hnone
    rw [Option.eq_none_iff_forall_ne_some.2 fun key hkey => hnone key (key?_eq_some_iff.1 hkey)]
    rfl

/-! ## Keys of other services -/

/-- The variable is for the key of a service that is not in use. -/
def IsKeyOfOther (provider : Option Text) (model name : Text) : Prop :=
  ∃ p ∈ providers, p.keyVariable = some name ∧ ¬InUse provider model p.name

theorem keyVariable_ne_model : ∀ p ∈ providers, p.keyVariable ≠ some "CMDLENS_MODEL" := by decide

theorem keyVariable_ne_color : ∀ p ∈ providers, p.keyVariable ≠ some "CMDLENS_COLOR" := by decide

/-- Every service has a key variable of its own. -/
theorem name_eq_of_keyVariable_eq :
    ∀ p ∈ providers, ∀ q ∈ providers, p.keyVariable = q.keyVariable → p.name = q.name := by
  decide

theorem not_isKeyOfOther_of_inUse {provider : Option Text} {model : Text} {p : Provider}
    (hp : p ∈ providers) (huse : InUse provider model p.name) (hname : p.keyVariable = some name) :
    ¬IsKeyOfOther provider model name := by
  rintro ⟨q, hq, hother, hunused⟩
  rw [name_eq_of_keyVariable_eq p hp q hq (hname.trans hother.symm)] at huse
  exact hunused huse

theorem nonempty?_congr {w' : Workspace}
    (h : w'.environmentValue? name = w.environmentValue? name) :
    w'.nonempty? name = w.nonempty? name := by
  rw [Workspace.nonempty?, h]
  rfl

/-- In two environments that differ in keys of other services only, the same key is found. -/
theorem key?_of_agree {w' : Workspace} (h : ∀ name,
      w'.environmentValue? name ≠ w.environmentValue? name → IsKeyOfOther s.provider s.model name) :
    s.key? w' = s.key? w := by
  rw [key?, key?]
  refine Option.bind_congr fun keyName hkeyName => nonempty?_congr ?_
  simp only [Option.bind_eq_some_iff, activeProvider?_eq_some_iff, provider?_eq_some_iff]
    at hkeyName
  obtain ⟨p, ⟨_, huse, hp, rfl⟩, hvariable⟩ := hkeyName
  by_contra hne
  exact not_isKeyOfOther_of_inUse hp huse hvariable (h keyName hne)

/-- **Keys of services that are not in use make no difference.** -/
theorem overridden_of_agree {w' : Workspace} (h : ∀ name,
      w'.environmentValue? name ≠ w.environmentValue? name →
      IsKeyOfOther s.provider (s.overridden w).model name) :
    s.overridden w' = s.overridden w := by
  have hsame {name : Text} (hno : ∀ p ∈ providers, p.keyVariable ≠ some name) :
      w'.nonempty? name = w.nonempty? name := by
    refine nonempty?_congr (by_contra fun hne => ?_)
    obtain ⟨p, hp, hvariable, -⟩ := h name hne
    exact hno p hp hvariable
  rw [overridden_eq w] at h
  rw [overridden_eq, overridden_eq, hsame keyVariable_ne_model, hsame keyVariable_ne_color,
    key?_of_agree h]

end CommandAdvisor.Settings
