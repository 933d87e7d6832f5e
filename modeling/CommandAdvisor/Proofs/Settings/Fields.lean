import CommandAdvisor.Proofs.Record.Decoding
import CommandAdvisor.Settings.Basic
import Mathlib.Algebra.Group.Int.Defs

/-!
# Fields of the settings

The fields of the settings are checked one by one, and a member of an object counts for the
field of its name only. So an object is refused exactly if some member of it is refused when
it stands alone, and every issue is the issue of such a member. A field that is left out is as in
the standard settings.

## Main definitions
* `Validated.issues`: everything that stands against a result.
* `Settings.Refuses`: an object with this member and no other is refused.
* `Settings.field?`: a setting by its name in a settings file.
* `Settings.WithinLimits`: the limits of the two settings that have some.

## Main statements
* `Settings.exists_decode_eq_valid_iff`: objects are refused for their members only.
* `Settings.exists_of_mem_issues_decode`: the issues of an object are those of its members.
* `Settings.field?_of_absent`: what an object leaves out is as in the standard settings.
* `Settings.exists_field?_of_find?`: what an object says counts as it would alone.
* `Settings.withinLimits_of_decode`: what is accepted is within its limits.
* `Settings.decode_encodeSet`: settings are decoded from what is saved of them.
-/
namespace CommandAdvisor

open Json (Value)
open Json.Value (Members)
open Number (Binary64 unitPlaces)

/-! ## Numbers within limits -/

namespace Number.Binary64

/-- Numbers of least units are compared as they are. -/
theorem le_iff_of_units? {x y : Binary64} {m n : Int} (hx : x.units? = some m)
    (hy : y.units? = some n) : x.le y = true ↔ m ≤ n := by
  cases x with
  | finite s a =>
    cases y with
    | finite t b =>
      cases hx
      cases hy
      exact decide_eq_true_iff
    | _ => cases hy
  | _ => cases hx

/-- Between two numbers of least units there are no others. -/
theorem exists_units?_between {x low high : Binary64} {m n : Int} (hlow : low.units? = some m)
    (hhigh : high.units? = some n) (hx : x.lt low = false) (hx' : x.le high = true) :
    ∃ units, x.units? = some units ∧ m ≤ units ∧ units ≤ n := by
  cases x with
  | nan => cases hx'
  | infinite negative =>
    -- An infinity is below or above both.
    cases low with
    | finite s a =>
      cases high with
      | finite t b => cases negative <;> simp [lt, le] at hx hx'
      | _ => cases hhigh
    | _ => cases hlow
  | finite s a =>
    refine ⟨_, rfl, ?_, (le_iff_of_units? rfl hhigh).1 hx'⟩
    by_contra hless
    have hle : (finite s a).le low = true := (le_iff_of_units? rfl hlow).2 (by omega)
    rw [lt, hle, Bool.true_and, Bool.not_eq_false', le_iff_of_units? hlow rfl] at hx
    exact hless hx

end Number.Binary64

namespace Record

namespace Validated

variable {α β : Type}

/-- Everything that stands against a result. -/
def issues : Validated α → List Issue
  | .valid _ => []
  | .invalid issues => issues

@[simp] theorem issues_seq (f : Validated (α → β)) (a : Validated α) :
    (f <*> a).issues = f.issues ++ a.issues := by
  have hseq : f <*> a = f.apply a := rfl
  rw [hseq]
  cases f <;> cases a <;> simp [apply, issues]

@[simp] theorem issues_map (f : α → β) (a : Validated α) : (f <$> a).issues = a.issues := by
  have hmap : f <$> a = (valid f).apply a := rfl
  rw [hmap]
  cases a <;> simp [apply, issues]

theorem check_eq_valid_iff {ok : α → Validated β} {a : Validated α} {b : β} :
    a.check ok = .valid b ↔ ∃ x, a = .valid x ∧ ok x = .valid b := by
  cases a <;> simp [check]

end Validated

/-! ## One field -/

section Field

variable {α : Type} {d : Decoder α} {name : Text} {otherwise : α} {members : Members} {v : Value}

theorem withDefault_alone (name : Text) (otherwise : α) (d : Decoder α) (v : Value) :
    withDefault name otherwise d [(name, v)] = (d v).under (.field name) := by
  simp [withDefault, Value.find?]

theorem withDefault_of_ne {other : Text} (h : name ≠ other) :
    withDefault name otherwise d [(other, v)] = .valid otherwise := by
  have hnone : Value.find? name [(other, v)] = none := by
    have hbeq : (name == other) = false := beq_eq_false_iff_ne.2 h
    simp [Value.find?, List.lookup_cons, hbeq]
  rw [withDefault, hnone]

theorem withDefault_of_find? (h : Value.find? name members = some v) :
    withDefault name otherwise d members = withDefault name otherwise d [(name, v)] := by
  rw [withDefault_alone, withDefault, h]

/-- A field is accepted if the member of its name is, when it stands alone. -/
theorem exists_withDefault_of_alone (h : ∀ v, Value.find? name members = some v →
      ∃ a, withDefault name otherwise d [(name, v)] = .valid a) :
    ∃ a, withDefault name otherwise d members = .valid a := by
  cases hv : Value.find? name members with
  | none => exact ⟨otherwise, by rw [withDefault, hv]⟩
  | some v =>
    rw [withDefault_of_find? hv]
    exact h v hv

/-- A field that is accepted is accepted with any member standing alone. -/
theorem exists_withDefault_alone (h : ∃ a, withDefault name otherwise d members = .valid a)
    {other : Text} (hv : Value.find? other members = some v) :
    ∃ a, withDefault name otherwise d [(other, v)] = .valid a := by
  by_cases hname : name = other
  · subst hname
    rwa [withDefault_of_find? hv] at h
  · exact ⟨otherwise, withDefault_of_ne hname⟩

/-- The issues of a field are those of the member of its name when it stands alone, and they
are placed under the name. -/
theorem exists_of_mem_issues_withDefault {i : Issue}
    (h : i ∈ (withDefault name otherwise d members).issues) :
    ∃ v, Value.find? name members = some v ∧ i.place.head? = some (.field name) ∧
      i ∈ (withDefault name otherwise d [(name, v)]).issues := by
  cases hv : Value.find? name members with
  | none =>
    rw [withDefault, hv] at h
    cases h
  | some v =>
    rw [withDefault_of_find? hv] at h
    refine ⟨v, rfl, ?_, h⟩
    rw [withDefault_alone] at h
    cases hd : d v with
    | valid a =>
      rw [hd] at h
      cases h
    | invalid issues =>
      rw [hd] at h
      obtain ⟨j, -, rfl⟩ := List.mem_map.1 h
      rfl

/-- What is so of the default and of everything that is accepted is so of a field. -/
theorem of_withDefault_eq_valid {P : α → Prop} {a : α} (hotherwise : P otherwise)
    (hd : ∀ v a, d v = .valid a → P a) (h : withDefault name otherwise d members = .valid a) :
    P a := by
  rw [withDefault] at h
  split at h
  · next v hv => exact hd v a (Validated.under_eq_valid_iff.1 h)
  · cases h
    exact hotherwise

/-- A field depends on the member of its name only. -/
theorem eq_of_find?_eq {members' : Members} {a b : α}
    (h : Value.find? name members = Value.find? name members')
    (ha : withDefault name otherwise d members = .valid a)
    (hb : withDefault name otherwise d members' = .valid b) : a = b := by
  rw [withDefault, h] at ha
  rw [withDefault] at hb
  exact Validated.valid.inj (ha.symm.trans hb)

end Field

end Record

namespace Settings

open Record Record.Validated

variable {members : Members}

/-! ## All fields -/

/-- The fields give these settings for the members of an object. -/
structure FieldsGive (members : Members) (s : Settings) : Prop where
  provider : withDefault "provider" none (.optional .text) members = .valid s.provider
  model : withDefault "model" standardModel .text members = .valid s.model
  apiKey : withDefault "api_key" none (.optional .text) members = .valid s.apiKey
  temperature : withDefault "temperature" standardTemperature temperature? members =
    .valid s.temperature
  historyFile : withDefault "history_file" none (.optional .text) members = .valid s.historyFile
  maxHistory : withDefault "max_history" standardMaxHistory positive? members = .valid s.maxHistory
  color : withDefault "color" none (.optional .flag) members = .valid s.color

theorem decode_eq_valid_iff {s : Settings} :
    decode (.object members) = .valid s ↔ FieldsGive members s := by
  constructor
  · intro hs
    simp only [decode, Decoder.record, seq_eq_valid_iff, map_eq_valid_iff] at hs
    obtain ⟨_, color, ⟨_, maxHistory, ⟨_, historyFile, ⟨_, temperature, ⟨_, apiKey, ⟨_, model,
      ⟨provider, hprovider, rfl⟩, hmodel, rfl⟩, hapiKey, rfl⟩, htemperature, rfl⟩, hhistoryFile,
      rfl⟩, hmaxHistory, rfl⟩, hcolor, rfl⟩ := hs
    exact ⟨hprovider, hmodel, hapiKey, htemperature, hhistoryFile, hmaxHistory, hcolor⟩
  · intro h
    simp [decode, Decoder.record, h.provider, h.model, h.apiKey, h.temperature, h.historyFile,
      h.maxHistory, h.color]

/-- Every field accepts the members of an object. -/
structure FieldsAccept (members : Members) : Prop where
  provider : ∃ a, withDefault "provider" none (.optional .text) members = .valid a
  model : ∃ a, withDefault "model" standardModel .text members = .valid a
  apiKey : ∃ a, withDefault "api_key" none (.optional .text) members = .valid a
  temperature : ∃ a, withDefault "temperature" standardTemperature temperature? members = .valid a
  historyFile : ∃ a, withDefault "history_file" none (.optional .text) members = .valid a
  maxHistory : ∃ a, withDefault "max_history" standardMaxHistory positive? members = .valid a
  color : ∃ a, withDefault "color" none (.optional .flag) members = .valid a

theorem exists_decode_iff_fieldsAccept :
    (∃ s, decode (.object members) = .valid s) ↔ FieldsAccept members := by
  simp only [decode_eq_valid_iff]
  constructor
  · rintro ⟨s, h⟩
    exact ⟨⟨_, h.provider⟩, ⟨_, h.model⟩, ⟨_, h.apiKey⟩, ⟨_, h.temperature⟩, ⟨_, h.historyFile⟩,
      ⟨_, h.maxHistory⟩, ⟨_, h.color⟩⟩
  · rintro ⟨⟨provider, hprovider⟩, ⟨model, hmodel⟩, ⟨apiKey, hapiKey⟩, ⟨temperature, htemperature⟩,
      ⟨historyFile, hhistoryFile⟩, ⟨maxHistory, hmaxHistory⟩, ⟨color, hcolor⟩⟩
    exact ⟨⟨provider, model, apiKey, temperature, historyFile, maxHistory, color⟩,
      hprovider, hmodel, hapiKey, htemperature, hhistoryFile, hmaxHistory, hcolor⟩

/-- An object with this member and no other is refused. -/
def Refuses (name : Text) (v : Value) : Prop := ∀ s, decode (.object [(name, v)]) ≠ .valid s

/-- **Objects are refused for their members only,** and each member counts by itself. -/
theorem exists_decode_eq_valid_iff : (∃ s, decode (.object members) = .valid s) ↔
    ∀ name v, Value.find? name members = some v → ¬Refuses name v := by
  have halone (name : Text) (v : Value) : ¬Refuses name v ↔ FieldsAccept [(name, v)] := by
    rw [← exists_decode_iff_fieldsAccept]
    simp [Refuses]
  simp only [halone, exists_decode_iff_fieldsAccept]
  constructor
  · intro h name v hv
    exact ⟨exists_withDefault_alone h.provider hv, exists_withDefault_alone h.model hv,
      exists_withDefault_alone h.apiKey hv, exists_withDefault_alone h.temperature hv,
      exists_withDefault_alone h.historyFile hv, exists_withDefault_alone h.maxHistory hv,
      exists_withDefault_alone h.color hv⟩
  · intro h
    exact ⟨exists_withDefault_of_alone fun v hv => (h _ v hv).provider,
      exists_withDefault_of_alone fun v hv => (h _ v hv).model,
      exists_withDefault_of_alone fun v hv => (h _ v hv).apiKey,
      exists_withDefault_of_alone fun v hv => (h _ v hv).temperature,
      exists_withDefault_of_alone fun v hv => (h _ v hv).historyFile,
      exists_withDefault_of_alone fun v hv => (h _ v hv).maxHistory,
      exists_withDefault_of_alone fun v hv => (h _ v hv).color⟩

theorem issues_decode (members : Members) : (decode (.object members)).issues =
    (withDefault "provider" none (.optional .text) members).issues ++
    (withDefault "model" standardModel .text members).issues ++
    (withDefault "api_key" none (.optional .text) members).issues ++
    (withDefault "temperature" standardTemperature temperature? members).issues ++
    (withDefault "history_file" none (.optional .text) members).issues ++
    (withDefault "max_history" standardMaxHistory positive? members).issues ++
    (withDefault "color" none (.optional .flag) members).issues := by
  simp only [decode, Decoder.record, issues_seq, issues_map]

/-- **The issues of an object are those of its members** when each of them stands alone. -/
theorem exists_of_mem_issues_decode {i : Issue} (h : i ∈ (decode (.object members)).issues) :
    ∃ name v, Value.find? name members = some v ∧ i.place.head? = some (.field name) ∧
      i ∈ (decode (.object [(name, v)])).issues := by
  simp only [issues_decode, List.mem_append] at h ⊢
  -- One case for each field.
  rcases h with (((((h | h) | h) | h) | h) | h) | h
  all_goals
    obtain ⟨v, hv, hplace, halone⟩ := exists_of_mem_issues_withDefault h
    refine ⟨_, v, hv, hplace, ?_⟩
    simp only [halone, true_or, or_true]

/-! ## What the file leaves out -/

/-- A setting by its name in a settings file. -/
def field? (s : Settings) (name : Text) : Option Value :=
  match s.encode with
  | .object members => Value.find? name members
  | _ => none

/-- A setting depends on the member of its name only. -/
theorem field?_eq_of_find?_eq {members' : Members} {s t : Settings} {name : Text}
    (hs : decode (.object members) = .valid s) (ht : decode (.object members') = .valid t)
    (h : Value.find? name members = Value.find? name members') : s.field? name = t.field? name := by
  have hgives : FieldsGive members s := decode_eq_valid_iff.1 hs
  have hgives' : FieldsGive members' t := decode_eq_valid_iff.1 ht
  have hfield {α : Type} {d : Decoder α} {otherwise a b : α} {other : Text} (f : α → Value)
      (hname : (name == other) = true) (ha : withDefault other otherwise d members = .valid a)
      (hb : withDefault other otherwise d members' = .valid b) : some (f a) = some (f b) := by
    obtain rfl : name = other := beq_iff_eq.1 hname
    rw [eq_of_find?_eq h ha hb]
  simp only [field?, encode, Value.find?, List.reverse_cons, List.reverse_nil, List.nil_append,
    List.cons_append, List.lookup_cons]
  -- One case for each field, the last one first, and one for the other names.
  split
  · next hname =>
    exact hfield (fun a => (a.map Value.bool).getD .null) hname hgives.color hgives'.color
  split
  · next hname => exact hfield Value.integer hname hgives.maxHistory hgives'.maxHistory
  split
  · next hname =>
    exact hfield (fun a => (a.map Value.string).getD .null) hname hgives.historyFile
      hgives'.historyFile
  split
  · next hname => exact hfield Value.real hname hgives.temperature hgives'.temperature
  split
  · next hname =>
    exact hfield (fun a => (a.map Value.string).getD .null) hname hgives.apiKey hgives'.apiKey
  split
  · next hname => exact hfield Value.string hname hgives.model hgives'.model
  split
  · next hname =>
    exact hfield (fun a => (a.map Value.string).getD .null) hname hgives.provider hgives'.provider
  · rfl

theorem decode_nil : decode (.object []) = .valid standard := rfl

/-- **What an object leaves out is as in the standard settings.** -/
theorem field?_of_absent {s : Settings} {name : Text} (hs : decode (.object members) = .valid s)
    (habsent : Value.find? name members = none) : s.field? name = standard.field? name :=
  field?_eq_of_find?_eq hs decode_nil habsent

/-- **What an object says counts as it would alone.** -/
theorem exists_field?_of_find? {s : Settings} {name : Text} {v : Value}
    (hs : decode (.object members) = .valid s) (hv : Value.find? name members = some v) :
    ∃ alone, decode (.object [(name, v)]) = .valid alone ∧ s.field? name = alone.field? name := by
  have haccepted : ¬Refuses name v := exists_decode_eq_valid_iff.1 ⟨s, hs⟩ name v hv
  obtain ⟨alone, halone⟩ : ∃ alone, decode (.object [(name, v)]) = .valid alone := by
    simpa [Refuses] using haccepted
  have hfound : Value.find? name [(name, v)] = some v := by simp [Value.find?]
  exact ⟨alone, halone, field?_eq_of_find?_eq hs halone (hv.trans hfound.symm)⟩

/-! ## Limits -/

theorem pos_of_positive? {v : Value} {n : Int} (h : positive? v = .valid n) : 0 < n := by
  obtain ⟨m, -, hm⟩ := check_eq_valid_iff.1 h
  split at hm
  · next hpos =>
    cases hm
    exact hpos
  · cases hm

/-- A number from zero to two, in least units. -/
def IsTemperature (x : Binary64) : Prop :=
  ∃ units, x.units? = some units ∧ 0 ≤ units ∧ units ≤ 2 * 2 ^ unitPlaces

theorem isTemperature_of_le {x : Binary64} (hlow : x.lt (.ofInt 0) = false)
    (hhigh : x.le (.ofInt 2) = true) : IsTemperature x := by
  have hzero : (Binary64.ofInt 0).units? = some 0 := by decide +kernel
  have htwo : (Binary64.ofInt 2).units? = some (2 * 2 ^ unitPlaces) := by decide +kernel
  exact Binary64.exists_units?_between hzero htwo hlow hhigh

theorem isTemperature_of_temperature? {v : Value} {x : Binary64} (h : temperature? v = .valid x) :
    IsTemperature x := by
  obtain ⟨y, -, hy⟩ := check_eq_valid_iff.1 h
  split at hy
  · cases hy
  · next hlow =>
    split at hy
    · next hhigh =>
      cases hy
      exact isTemperature_of_le (by simpa using hlow) hhigh
    · cases hy

/-- The settings are within their limits. -/
structure WithinLimits (s : Settings) : Prop where
  maxHistory : 0 < s.maxHistory
  temperature : IsTemperature s.temperature

/-- A temperature within its limits is accepted. -/
theorem temperature?_real {x : Binary64} (h : IsTemperature x) :
    temperature? (.real x) = .valid x := by
  obtain ⟨units, hunits, hlow, hhigh⟩ := h
  have hzero : (Binary64.ofInt 0).units? = some 0 := by decide +kernel
  have htwo : (Binary64.ofInt 2).units? = some (2 * 2 ^ unitPlaces) := by decide +kernel
  have habove : x.lt (.ofInt 0) = false := by
    rw [Binary64.lt, (Binary64.le_iff_of_units? hzero hunits).2 hlow]
    simp
  have hbelow : x.le (.ofInt 2) = true := (Binary64.le_iff_of_units? hunits htwo).2 hhigh
  simp [temperature?, Decoder.real, check, habove, hbelow]

/-- **Settings that are accepted are within their limits.** -/
theorem withinLimits_of_decode {v : Value} {s : Settings} (h : decode v = .valid s) :
    s.WithinLimits := by
  cases v with
  | object members =>
    have hgiven : FieldsGive members s := decode_eq_valid_iff.1 h
    constructor
    · exact of_withDefault_eq_valid (by decide) (fun _ _ => pos_of_positive?) hgiven.maxHistory
    · have hstandard : IsTemperature standardTemperature :=
        isTemperature_of_le (by decide +kernel) (by decide +kernel)
      exact of_withDefault_eq_valid hstandard (fun _ _ => isTemperature_of_temperature?)
        hgiven.temperature
  | _ => cases h

/-- **Settings within their limits are decoded from what is saved of them,** also those that are
left out. -/
theorem decode_encodeSet {s : Settings} (h : s.WithinLimits) : decode s.encodeSet = .valid s := by
  have htext {name : Text} {a : Option Text} {members : Members}
      (ha : Value.find? name members = a.map .string) :
      withDefault name none (.optional .text) members = .valid a :=
    Decoder.withDefault_optional_encode Decoder.text_string (by simp) ha
  have hpositive : positive? (.integer s.maxHistory) = .valid s.maxHistory := by
    rw [positive?, Decoder.whole, check, if_pos h.maxHistory]
  refine decode_eq_valid_iff.2 ⟨htext ?_, Decoder.withDefault_encode ?_ (Decoder.text_string _),
    htext ?_, Decoder.withDefault_encode ?_ (temperature?_real h.temperature), htext ?_,
    Decoder.withDefault_encode ?_ hpositive,
    Decoder.withDefault_optional_encode Decoder.flag_bool (by simp) ?_⟩
  -- Each field finds its own member, or none.
  all_goals simp [Value.find?_append, Value.member_eq_member?]

end Settings

end CommandAdvisor
