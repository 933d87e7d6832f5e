import CommandAdvisor.Risk.Registry
import Mathlib.Data.List.Sort

/-!
# Which drafts become registries

A draft has four conditions to meet, and they are checked one after the other: that keys
are in lower case, that all tiers are known, that they are high enough, and that no priority
occurs twice. The first condition that fails is what a draft is refused for. A registry holds
what its draft held.

## Main definitions
* `Draft.IsValid`: what a draft must be like.
* `Draft.IsRefusedFor`: the first thing that is wrong with a draft.
* `Registry.Keeps`: a registry with the entries of a draft.

## Main statements
* `Registry.ascending_ordered_iff`: sorted priorities ascend if none occurs twice.
* `Registry.build_eq_ok_iff`: the registry that a draft becomes.
* `build_accepts_exactly`: drafts that become registries, and why the others do not.
-/
namespace CommandAdvisor

/-! ## The order of texts -/

/-- Letters are compared by code points. -/
instance : LE Letter := ⟨fun a b => a.code ≤ b.code⟩

namespace Letter

theorem le_iff_code {a b : Letter} : a ≤ b ↔ a.code ≤ b.code := Iff.rfl

theorem lt_iff_code {a b : Letter} : a < b ↔ a.code < b.code := Iff.rfl

instance : Std.IsLinearOrder Letter where
  le_refl a := Nat.le_refl a.code
  le_trans a b c := Nat.le_trans (n := a.code)
  le_antisymm a b hab hba := by
    rw [← ofCode_code a, ← ofCode_code b, Nat.le_antisymm hab hba]
  le_total a b := Nat.le_total a.code b.code

instance : Std.LawfulOrderLT Letter where
  lt_iff a b := by simp only [le_iff_code, lt_iff_code]; omega

end Letter

namespace Risk

/-! ## What a draft must be like -/

namespace Draft

/-- All keys that are looked up are in lower case. -/
def HasLowerKeys (d : Draft) : Prop := ∀ t ∈ d.keys, ∀ key ∈ t.2, Text.lower key = key

/-- All tiers are names of levels. -/
def HasKnownTiers (d : Draft) : Prop :=
  ∀ e ∈ d.dangerousCommands, ∃ level : Level, e.2 = level.name

/-- All tiers are names of levels that are at least high. -/
def HasHighTiers (d : Draft) : Prop :=
  ∀ e ∈ d.dangerousCommands, ∃ level : Level, e.2 = level.name ∧ .high ≤ level

theorem HasHighTiers.known {d : Draft} (h : d.HasHighTiers) : d.HasKnownTiers :=
  fun e he => (h e he).imp fun _ hlevel => hlevel.1

/-- No two sample rules have one priority. -/
def HasOwnPriorities (d : Draft) : Prop := (d.mockOutputs.map MockRule.priority).Nodup

/-- What a draft must be like to become a registry. -/
structure IsValid (d : Draft) : Prop where
  lowerKeys : d.HasLowerKeys
  highTiers : d.HasHighTiers
  ownPriorities : d.HasOwnPriorities

end Draft

/-- The keys of a list that are not in lower case, in ascending order. -/
structure AreCapitalKeys (bad keys : List Text) : Prop where
  perm : bad.Perm (keys.filter fun key => Text.lower key ≠ key)
  ascending : bad.Pairwise (· ≤ ·)

/-- The first thing that is wrong with a draft. -/
inductive Draft.IsRefusedFor (d : Draft) : RegistryFault → Prop where
  /-- A table has keys that are not in lower case, and no table in front of it has any. -/
  | capitalKeys {before after : List (Text × List Text)} {table : Text} {keys bad : List Text}
      (heq : d.keys = before ++ (table, keys) :: after)
      (hbefore : ∀ t ∈ before, ∀ key ∈ t.2, Text.lower key = key)
      (hbad : AreCapitalKeys bad keys) (hne : bad ≠ []) : IsRefusedFor d (.capitalKeys table bad)
  /-- The first tier that is unknown, however low other tiers are. -/
  | unknownTier {before after : List (Text × Text)} {command name : Text}
      (hkeys : d.HasLowerKeys) (heq : d.dangerousCommands = before ++ (command, name) :: after)
      (hbefore : ∀ e ∈ before, ∃ level : Level, e.2 = level.name)
      (hname : ∀ level : Level, name ≠ level.name) : IsRefusedFor d (.unknownTier ⟨name⟩)
  /-- The first tier below high, all tiers being known. -/
  | mildTier {before after : List (Text × Text)} {command : Text} {level : Level}
      (hkeys : d.HasLowerKeys) (hknown : d.HasKnownTiers)
      (heq : d.dangerousCommands = before ++ (command, level.name) :: after)
      (hbefore : ∀ e ∈ before, ∃ tier : Level, e.2 = tier.name ∧ .high ≤ tier)
      (hmild : level < .high) : IsRefusedFor d (.mildTier level)
  | repeatedPriority (hkeys : d.HasLowerKeys) (htiers : d.HasHighTiers)
      (hrepeated : ¬d.HasOwnPriorities) : IsRefusedFor d .repeatedPriority

/-- The tables with tiers by name. -/
def Tables.named (t : Tables Level) : Draft :=
  { dangerousCommands := t.dangerousCommands.map fun e => (e.1, e.2.name)
    dangerousFlags := t.dangerousFlags
    systemPaths := t.systemPaths
    explanations := t.explanations
    alternatives := t.alternatives
    safeFlags := t.safeFlags
    criticalNotes := t.criticalNotes
    mockOutputs := t.mockOutputs }

/-- A registry holds the entries of a draft, each where it was, but for the sample rules,
which are in order of priority. -/
structure Registry.Keeps (r : Registry) (d : Draft) : Prop where
  tables : r.tables.named = { d with mockOutputs := r.tables.mockOutputs }
  rules : r.tables.mockOutputs.Perm d.mockOutputs
  ascending : (r.tables.mockOutputs.map MockRule.priority).Pairwise (· < ·)

namespace Registry

/-! ## Keys -/

theorem pairwise_capitalKeys (keys : List Text) : (capitalKeys keys).Pairwise (· ≤ ·) := by
  have htrans (a b c : Text) (hab : decide (a ≤ b) = true) (hbc : decide (b ≤ c) = true) :
      decide (a ≤ c) = true :=
    decide_eq_true (List.le_trans (of_decide_eq_true hab) (of_decide_eq_true hbc))
  have htotal (a b : Text) : (decide (a ≤ b) || decide (b ≤ a)) = true := by
    simpa using List.le_total a b
  exact (List.pairwise_mergeSort htrans htotal _).imp of_decide_eq_true

theorem capitalKeys_perm (keys : List Text) :
    (capitalKeys keys).Perm (keys.filter fun key => Text.lower key ≠ key) :=
  List.mergeSort_perm _ _

/-- There is one way to put the keys in order. -/
theorem capitalKeys_eq_iff {keys bad : List Text} :
    capitalKeys keys = bad ↔ AreCapitalKeys bad keys := by
  constructor
  · rintro rfl
    exact ⟨capitalKeys_perm keys, pairwise_capitalKeys keys⟩
  · intro h
    exact ((capitalKeys_perm keys).trans h.perm.symm).eq_of_pairwise
      (fun _ _ _ _ => List.le_antisymm) (pairwise_capitalKeys keys) h.ascending

theorem capitalKeys_eq_nil_iff {keys : List Text} :
    capitalKeys keys = [] ↔ ∀ key ∈ keys, Text.lower key = key := by
  rw [capitalKeys, ← List.length_eq_zero_iff, List.length_mergeSort, List.length_eq_zero_iff,
    List.filter_eq_nil_iff]
  simp

theorem keyFault?_eq_none_iff {tables : List (Text × List Text)} :
    keyFault? tables = none ↔ ∀ t ∈ tables, ∀ key ∈ t.2, Text.lower key = key := by
  refine ⟨keys_lower_of_keyFault?, fun h => List.findSome?_eq_none_iff.2 fun t ht => ?_⟩
  rw [if_pos]
  simpa using h t ht

/-- The first table with keys that are not in lower case is complained about. -/
theorem keyFault?_eq_some_iff {tables : List (Text × List Text)} {fault : RegistryFault} :
    keyFault? tables = some fault ↔
      ∃ before t after, tables = before ++ t :: after ∧
        (capitalKeys t.2 ≠ [] ∧ fault = .capitalKeys t.1 (capitalKeys t.2)) ∧
        ∀ t ∈ before, ∀ key ∈ t.2, Text.lower key = key := by
  have hall (t : Text × List Text) :
      (t.2.all fun key => Text.lower key = key) = true ↔ ∀ key ∈ t.2, Text.lower key = key := by
    simp
  simp only [keyFault?, List.findSome?_eq_some_iff, hall, ← capitalKeys_eq_nil_iff,
    ite_eq_left_iff, Option.ite_none_left_eq_some, Option.some.injEq,
    reduceCtorEq, imp_false, not_not, eq_comm (b := fault)]

end Registry

/-! ## Tiers -/

namespace Level

theorem name_inj {a b : Level} : a.name = b.name ↔ a = b := by
  refine ⟨fun h => ?_, fun h => h ▸ rfl⟩
  simpa using congrArg ofName? h

theorem ofName_eq_ok_iff {name : Text} {level : Level} :
    ofName name = .ok level ↔ name = level.name := by
  constructor
  · intro h
    unfold ofName at h
    split at h
    next found hfound =>
      cases h
      exact (by simpa using List.find?_some hfound : level.name = name).symm
    next => cases h
  · rintro rfl
    rw [ofName, ofName?_name]

theorem ofName_eq_error_iff {name : Text} {e : UnknownLevel} :
    ofName name = .error e ↔ (∀ level : Level, name ≠ level.name) ∧ e = ⟨name⟩ := by
  cases h : ofName name with
  | ok level => simp [ofName_eq_ok_iff.1 h]
  | error e' =>
    have hname (level : Level) : name ≠ level.name := fun heq => by
      rw [ofName_eq_ok_iff.2 heq] at h
      cases h
    have he : e' = ⟨name⟩ := by
      unfold ofName at h
      split at h <;> cases h
      rfl
    simp [hname, he, eq_comm]

end Level

namespace Registry

theorem readTiers_cons (command name : Text) (rest : List (Text × Text)) :
    readTiers ((command, name) :: rest) = (match Level.ofName name with
      | .error e => .error e
      | .ok level => (readTiers rest).map ((command, level) :: ·)) := by
  rw [readTiers]
  cases Level.ofName name with
  | error e => rfl
  | ok level => cases readTiers rest <;> rfl

/-- Tiers are read as the levels that have these names. -/
theorem readTiers_eq_ok_iff {commands : List (Text × Text)} {tiers : List (Text × Level)} :
    readTiers commands = .ok tiers ↔ commands = tiers.map fun e => (e.1, e.2.name) := by
  constructor
  · intro h
    induction commands generalizing tiers with
    | nil =>
      cases h
      rfl
    | cons c rest ih =>
      rw [readTiers_cons] at h
      cases hl : Level.ofName c.2 with
      | error e => rw [hl] at h; cases h
      | ok level =>
        cases hr : readTiers rest with
        | error e => rw [hl, hr] at h; cases h
        | ok levels =>
          rw [hl, hr] at h
          cases h
          rw [List.map_cons, ← ih hr, ← Level.ofName_eq_ok_iff.1 hl]
  · rintro rfl
    induction tiers with
    | nil => rfl
    | cons e tiers ih =>
      rw [List.map_cons, readTiers_cons, Level.ofName_eq_ok_iff.2 rfl, ih]
      rfl

/-- The first name that no level has is complained about. -/
theorem readTiers_eq_error_iff {commands : List (Text × Text)} {unknown : UnknownLevel} :
    readTiers commands = .error unknown ↔
      ∃ before e after, commands = before ++ e :: after ∧
        ((∀ level : Level, e.2 ≠ level.name) ∧ unknown = ⟨e.2⟩) ∧
        ∀ e ∈ before, ∃ level : Level, e.2 = level.name := by
  constructor
  · intro h
    induction commands with
    | nil => cases h
    | cons c rest ih =>
      rw [readTiers_cons] at h
      cases hl : Level.ofName c.2 with
      | error e =>
        rw [hl] at h
        cases h
        exact ⟨[], c, rest, rfl, Level.ofName_eq_error_iff.1 hl, by simp⟩
      | ok level =>
        cases hr : readTiers rest with
        | ok levels => rw [hl, hr] at h; cases h
        | error e =>
          rw [hl, hr] at h
          cases h
          obtain ⟨before, e, after, heq, he, hbefore⟩ := ih hr
          refine ⟨c :: before, e, after, by rw [heq, List.cons_append], he, ?_⟩
          exact List.forall_mem_cons.2 ⟨⟨level, Level.ofName_eq_ok_iff.1 hl⟩, hbefore⟩
  · rintro ⟨before, e, after, rfl, he, hbefore⟩
    induction before with
    | nil => rw [List.nil_append, readTiers_cons, Level.ofName_eq_error_iff.2 he]
    | cons c before ih =>
      obtain ⟨⟨level, hlevel⟩, hbefore⟩ := List.forall_mem_cons.1 hbefore
      rw [List.cons_append, readTiers_cons, Level.ofName_eq_ok_iff.2 hlevel, ih hbefore]
      rfl

theorem mildTier?_eq_none_iff {tiers : List (Text × Level)} :
    mildTier? tiers = none ↔ ∀ e ∈ tiers, .high ≤ e.2 := by
  refine ⟨high_le_of_mildTier?, fun h => ?_⟩
  simpa [mildTier?, Level.le_def, Level.lt_def] using h

/-- The first level below high is complained about. -/
theorem mildTier?_eq_some_iff {tiers : List (Text × Level)} {level : Level} :
    mildTier? tiers = some level ↔
      ∃ before e after, tiers = before ++ e :: after ∧ (e.2 < .high ∧ level = e.2) ∧
        ∀ e ∈ before, .high ≤ e.2 := by
  have hmild (l : Level) : (!decide (l < .high)) = true ↔ .high ≤ l := by
    simp [Level.le_def, Level.lt_def]
  simp only [mildTier?, List.find?_map, Option.map_eq_some_iff, List.find?_eq_some_iff_append,
    Function.comp_apply, decide_eq_true_eq, hmild]
  constructor
  · rintro ⟨e, ⟨he, before, after, heq, hbefore⟩, rfl⟩
    exact ⟨before, e, after, heq, ⟨he, rfl⟩, hbefore⟩
  · rintro ⟨before, e, after, heq, ⟨he, rfl⟩, hbefore⟩
    exact ⟨e, ⟨he, before, after, heq, hbefore⟩, rfl⟩

/-- Names are all known if levels can be read off them. -/
theorem hasKnownTiers_iff {d : Draft} :
    d.HasKnownTiers ↔ ∃ tiers, readTiers d.dangerousCommands = .ok tiers := by
  constructor
  · intro h
    cases hr : readTiers d.dangerousCommands with
    | ok tiers => exact ⟨tiers, rfl⟩
    | error e =>
      obtain ⟨before, c, after, heq, ⟨hc, -⟩, -⟩ := readTiers_eq_error_iff.1 hr
      obtain ⟨level, hlevel⟩ := h c (by simp [heq])
      exact absurd hlevel (hc level)
  · rintro ⟨tiers, h⟩ e he
    rw [readTiers_eq_ok_iff.1 h] at he
    obtain ⟨tier, -, rfl⟩ := List.mem_map.1 he
    exact ⟨tier.2, rfl⟩

theorem hasHighTiers_iff {d : Draft} {tiers : List (Text × Level)}
    (h : readTiers d.dangerousCommands = .ok tiers) :
    d.HasHighTiers ↔ mildTier? tiers = none := by
  rw [mildTier?_eq_none_iff, Draft.HasHighTiers, readTiers_eq_ok_iff.1 h, List.forall_mem_map]
  refine forall₂_congr fun e _ => ?_
  simp [Level.name_inj]

/-! ## Priorities -/

theorem pairwise_ordered (rules : List MockRule) :
    ((ordered rules).map MockRule.priority).Pairwise (· ≤ ·) := by
  have htrans (a b c : MockRule) (hab : decide (a.priority ≤ b.priority) = true)
      (hbc : decide (b.priority ≤ c.priority) = true) :
      decide (a.priority ≤ c.priority) = true :=
    decide_eq_true (Int.le_trans (of_decide_eq_true hab) (of_decide_eq_true hbc))
  have htotal (a b : MockRule) :
      (decide (a.priority ≤ b.priority) || decide (b.priority ≤ a.priority)) = true := by
    simpa using Int.le_total a.priority b.priority
  exact List.pairwise_map.2
    ((List.pairwise_mergeSort htrans htotal rules).imp of_decide_eq_true)

theorem ordered_perm (rules : List MockRule) : (ordered rules).Perm rules :=
  List.mergeSort_perm rules _

/-- Priorities in order ascend from each rule to the next if none occurs twice. -/
theorem ascending_ordered_iff {rules : List MockRule} :
    ((ordered rules).map MockRule.priority).Pairwise (· < ·) ↔
      (rules.map MockRule.priority).Nodup := by
  rw [← ((ordered_perm rules).map MockRule.priority).nodup_iff]
  constructor
  · intro h
    exact h.imp Int.ne_of_lt
  · intro h
    exact (pairwise_ordered rules).imp₂ (fun _ _ => lt_of_le_of_ne) h

/-! ## Construction -/

variable {d : Draft} {tiers : List (Text × Level)}

theorem build_of_keyFault {fault : RegistryFault} (h : keyFault? d.keys = some fault) :
    build d = .error fault := by
  unfold build
  split <;> simp_all

theorem build_of_unknownTier {unknown : UnknownLevel} (hk : keyFault? d.keys = none)
    (h : readTiers d.dangerousCommands = .error unknown) :
    build d = .error (.unknownTier unknown) := by
  unfold build
  split
  next fault hfault => simp [hk] at hfault
  next => split <;> simp_all

theorem build_of_mildTier {level : Level} (hk : keyFault? d.keys = none)
    (ht : readTiers d.dangerousCommands = .ok tiers) (h : mildTier? tiers = some level) :
    build d = .error (.mildTier level) := by
  unfold build
  split
  next fault hfault => simp [hk] at hfault
  next =>
    split
    next => simp_all
    next tiers' ht' =>
      obtain rfl : tiers' = tiers := Except.ok.inj (ht'.symm.trans ht)
      split <;> simp_all

/-- A draft with keys in lower case and with high tiers becomes a registry exactly if no
priority occurs twice. -/
theorem build_of_hasHighTiers (hk : d.HasLowerKeys) (ht : d.HasHighTiers) :
    (d.HasOwnPriorities → ∃ r, build d = .ok r) ∧
      (¬d.HasOwnPriorities → build d = .error .repeatedPriority) := by
  obtain ⟨tiers, htiers⟩ := hasKnownTiers_iff.1 ht.known
  have hmild := (hasHighTiers_iff htiers).1 ht
  rw [Draft.HasOwnPriorities, ← ascending_ordered_iff]
  unfold build
  split
  next fault hfault => simp [keyFault?_eq_none_iff.2 hk] at hfault
  next =>
    split
    next => simp_all
    next tiers' htiers' =>
      obtain rfl : tiers' = tiers := Except.ok.inj (htiers'.symm.trans htiers)
      split
      next => simp_all
      next => split <;> simp_all

/-- The tables of a registry are those of its draft, with tiers read and rules in order. -/
theorem exists_settle_of_build {r : Registry} (h : build d = .ok r) :
    ∃ tiers, readTiers d.dangerousCommands = .ok tiers ∧ r.tables = settle d tiers := by
  unfold build at h
  split at h
  next => cases h
  next =>
    split at h
    next => cases h
    next tiers htiers =>
      split at h
      next => cases h
      next =>
        split at h
        next =>
          cases h
          exact ⟨tiers, htiers, rfl⟩
        next => cases h

theorem keeps_of_build {r : Registry} (h : build d = .ok r) : r.Keeps d := by
  obtain ⟨tiers, htiers, hr⟩ := exists_settle_of_build h
  refine ⟨?_, ?_, r.priorities_ascending⟩
  · rw [hr, Tables.named, settle, ← readTiers_eq_ok_iff.1 htiers]
  · rw [hr]
    exact ordered_perm d.mockOutputs

end Registry

/-- A draft is as it must be, or there is a first thing that is wrong with it. -/
theorem Draft.isValid_or_isRefusedFor (d : Draft) :
    d.IsValid ∨ ∃ fault, d.IsRefusedFor fault := by
  cases hk : Registry.keyFault? d.keys with
  | some fault =>
    obtain ⟨before, t, after, heq, ⟨hne, -⟩, hbefore⟩ := Registry.keyFault?_eq_some_iff.1 hk
    exact .inr ⟨_, .capitalKeys heq hbefore (Registry.capitalKeys_eq_iff.1 rfl) hne⟩
  | none =>
    have hkeys := Registry.keyFault?_eq_none_iff.1 hk
    cases ht : Registry.readTiers d.dangerousCommands with
    | error unknown =>
      obtain ⟨before, e, after, heq, ⟨hname, -⟩, hbefore⟩ := Registry.readTiers_eq_error_iff.1 ht
      exact .inr ⟨_, .unknownTier hkeys heq hbefore hname⟩
    | ok tiers =>
      cases hm : Registry.mildTier? tiers with
      | some level =>
        obtain ⟨before, e, after, rfl, ⟨hmild, -⟩, hbefore⟩ :=
          Registry.mildTier?_eq_some_iff.1 hm
        have heq := Registry.readTiers_eq_ok_iff.1 ht
        rw [List.map_append, List.map_cons] at heq
        refine .inr ⟨_, .mildTier hkeys (Registry.hasKnownTiers_iff.2 ⟨_, ht⟩) heq ?_ hmild⟩
        exact List.forall_mem_map.2 fun e he => ⟨e.2, rfl, hbefore e he⟩
      | none =>
        have htiers := (Registry.hasHighTiers_iff ht).2 hm
        by_cases hp : d.HasOwnPriorities
        · exact .inl ⟨hkeys, htiers, hp⟩
        · exact .inr ⟨_, .repeatedPriority hkeys htiers hp⟩

theorem Draft.IsValid.exists_build {d : Draft} (h : d.IsValid) : ∃ r, Registry.build d = .ok r :=
  (Registry.build_of_hasHighTiers h.lowerKeys h.highTiers).1 h.ownPriorities

/-- A draft is refused for the first thing that is wrong with it. -/
theorem Draft.IsRefusedFor.build_eq {d : Draft} {fault : RegistryFault}
    (h : d.IsRefusedFor fault) : Registry.build d = .error fault := by
  cases h with
  | capitalKeys heq hbefore hbad hne =>
    obtain rfl := Registry.capitalKeys_eq_iff.2 hbad
    exact Registry.build_of_keyFault
      (Registry.keyFault?_eq_some_iff.2 ⟨_, _, _, heq, ⟨hne, rfl⟩, hbefore⟩)
  | unknownTier hkeys heq hbefore hname =>
    exact Registry.build_of_unknownTier (Registry.keyFault?_eq_none_iff.2 hkeys)
      (Registry.readTiers_eq_error_iff.2 ⟨_, _, _, heq, ⟨hname, rfl⟩, hbefore⟩)
  | mildTier hkeys hknown heq hbefore hmild =>
    obtain ⟨tiers, htiers⟩ := Registry.hasKnownTiers_iff.1 hknown
    refine Registry.build_of_mildTier (Registry.keyFault?_eq_none_iff.2 hkeys) htiers
      (Registry.mildTier?_eq_some_iff.2 ?_)
    -- the names in front of the first mild one are those of the levels in front of it
    rw [Registry.readTiers_eq_ok_iff.1 htiers] at heq
    obtain ⟨levels, rest, rfl, rfl, hrest⟩ := List.map_eq_append_iff.1 heq
    obtain ⟨e, others, rfl, he, -⟩ := List.map_eq_cons_iff.1 hrest
    have hlevel := Level.name_inj.1 (congrArg Prod.snd he)
    refine ⟨levels, e, others, rfl, ⟨hlevel ▸ hmild, hlevel.symm⟩, fun e he => ?_⟩
    obtain ⟨tier, htier, hhigh⟩ := hbefore _ (List.mem_map_of_mem he)
    exact Level.name_inj.1 htier ▸ hhigh
  | repeatedPriority hkeys htiers hrepeated =>
    exact (Registry.build_of_hasHighTiers hkeys htiers).2 hrepeated

/-- **What becomes of every draft.** It becomes a registry exactly if its keys are in lower
case, its tiers are known and high, and no priority occurs twice. Otherwise it is refused for
the first of the four conditions that fails, and for the first place where that one fails. The
registry holds all that the draft held, its sample rules in ascending order of priority. -/
theorem build_accepts_exactly (d : Draft) :
    ((∃ r, Registry.build d = .ok r) ↔ d.IsValid) ∧
      (∀ fault, Registry.build d = .error fault ↔ d.IsRefusedFor fault) ∧
      ∀ r, Registry.build d = .ok r → r.Keeps d := by
  refine ⟨⟨?_, fun h => h.exists_build⟩, fun fault => ⟨?_, fun h => h.build_eq⟩,
    fun r h => Registry.keeps_of_build h⟩
  · rintro ⟨r, hr⟩
    rcases d.isValid_or_isRefusedFor with h | ⟨fault, h⟩
    · exact h
    · exact absurd (hr.symm.trans h.build_eq) (by simp)
  · intro hfault
    rcases d.isValid_or_isRefusedFor with h | ⟨fault', h⟩
    · obtain ⟨r, hr⟩ := h.exists_build
      exact absurd (hr.symm.trans hfault) (by simp)
    · obtain rfl : fault' = fault := Except.error.inj (h.build_eq.symm.trans hfault)
      exact h

/-- An unknown tier is complained about before a mild one in front of it. -/
example : Registry.build { (Tables.empty : Draft) with
    dangerousCommands := [("dd", "low"), ("rm", "lethal")] } =
    .error (.unknownTier ⟨"lethal"⟩) :=
  Registry.build_of_unknownTier (by decide +kernel) (by decide +kernel)

end Risk

end CommandAdvisor
