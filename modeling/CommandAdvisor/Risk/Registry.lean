import CommandAdvisor.Risk.Level
import CommandAdvisor.Risk.Pattern
import CommandAdvisor.Text.Lowercase

/-!
# Rule registries

The tables a verdict is read off. A registry is built from a draft whose tiers are
still names; it is refused unless all keys are in lower case, all tiers are at least
high, and no two sample rules have one priority. What was checked stays with the
registry as proofs.

## Main definitions
* `MockRule`: sample output for commands with a pattern.
* `Tables`: what a draft and a registry hold.
* `RegistryFault`: why a draft is refused.
* `Registry` and `Registry.build`.
* `Registry.tier?` and the other look-ups, which do not mind the case of a word.
-/
namespace CommandAdvisor.Risk

/-- Sample output for the commands with a pattern. -/
structure MockRule where
  priority : Int
  pattern : Pattern
  output : Text
  /-- Commands that the pattern is meant for. -/
  samples : List Text
  deriving DecidableEq

/-- The tables of a rule set, tiers being of any type. -/
structure Tables (Tier : Type) where
  dangerousCommands : List (Text × Tier)
  dangerousFlags : List Text
  systemPaths : List Text
  explanations : List (Text × Text)
  alternatives : List (Text × List Text)
  safeFlags : List (Text × List Text)
  criticalNotes : List (Text × Text)
  mockOutputs : List MockRule

namespace Tables

variable {Tier : Type}

/-- The keys of all tables that are looked up by command, table by table, with the names
that the tables have in complaints. -/
def keys (t : Tables Tier) : List (Text × List Text) := [
  ("dangerous_commands", t.dangerousCommands.map Prod.fst),
  ("explanations", t.explanations.map Prod.fst),
  ("alternatives", t.alternatives.map Prod.fst),
  ("safe_flags", t.safeFlags.map Prod.fst),
  ("critical_notes", t.criticalNotes.map Prod.fst)]

/-- The tables that hold nothing. -/
def empty : Tables Tier := ⟨[], [], [], [], [], [], [], []⟩

end Tables

/-- Tables with tiers by name. -/
abbrev Draft := Tables Text

/-- Why a draft is refused. -/
inductive RegistryFault where
  /-- Keys of one table that are not in lower case, in ascending order. -/
  | capitalKeys (table : Text) (keys : List Text)
  | unknownTier (level : UnknownLevel)
  /-- A dangerous command of a tier below high. -/
  | mildTier (level : Level)
  | repeatedPriority
  deriving DecidableEq

/-- What is said about a refused draft. -/
def RegistryFault.message : RegistryFault → Text
  | capitalKeys table keys => table ++ " keys must be lower-case: " ++ Text.joinedBy ", " keys
  | unknownTier level => level.message
  | mildTier level => "dangerous commands must be at least high risk, got " ++ level.name
  | repeatedPriority => "mock output priorities must be unique"

/-- Tables that a verdict can be read off. -/
structure Registry where
  tables : Tables Level
  keys_lower : ∀ t ∈ tables.keys, ∀ key ∈ t.2, Text.lower key = key
  high_le_tier : ∀ e ∈ tables.dangerousCommands, Level.high ≤ e.2
  priorities_ascending : (tables.mockOutputs.map MockRule.priority).Pairwise (· < ·)

namespace Registry

/-- The keys of a table that are not in lower case, in ascending order. -/
def capitalKeys (keys : List Text) : List Text :=
  (keys.filter fun key => Text.lower key ≠ key).mergeSort fun a b => decide (a ≤ b)

/-- The first table with a key that is not in lower case. -/
def keyFault? (tables : List (Text × List Text)) : Option RegistryFault :=
  tables.findSome? fun t =>
    if t.2.all fun key => Text.lower key = key then none
    else some (.capitalKeys t.1 (capitalKeys t.2))

/-- The tiers by which the commands of a draft are known. -/
def readTiers : List (Text × Text) → Except UnknownLevel (List (Text × Level))
  | [] => .ok []
  | (command, tier) :: rest => do
    let level ← Level.ofName tier
    let levels ← readTiers rest
    return (command, level) :: levels

/-- The first tier below high. -/
def mildTier? (commands : List (Text × Level)) : Option Level :=
  (commands.map Prod.snd).find? fun level => level < .high

/-- Sample rules in ascending order of priority. -/
def ordered (rules : List MockRule) : List MockRule :=
  rules.mergeSort fun a b => a.priority ≤ b.priority

theorem keys_lower_of_keyFault? {tables : List (Text × List Text)}
    (h : keyFault? tables = none) : ∀ t ∈ tables, ∀ key ∈ t.2, Text.lower key = key := by
  intro t ht key hk
  have := List.findSome?_eq_none_iff.1 h t ht
  split at this <;> simp_all

theorem high_le_of_mildTier? {commands : List (Text × Level)}
    (h : mildTier? commands = none) : ∀ e ∈ commands, Level.high ≤ e.2 := by
  intro e he
  have := List.find?_eq_none.1 h e.2 (List.mem_map_of_mem he)
  simp only [decide_eq_true_eq, Level.lt_def] at this
  exact Level.le_def.2 (Nat.not_lt.1 this)

/-- The tables of a draft with its tiers read and its sample rules in order. -/
def settle (d : Draft) (tiers : List (Text × Level)) : Tables Level :=
  { dangerousCommands := tiers
    dangerousFlags := d.dangerousFlags
    systemPaths := d.systemPaths
    explanations := d.explanations
    alternatives := d.alternatives
    safeFlags := d.safeFlags
    criticalNotes := d.criticalNotes
    mockOutputs := ordered d.mockOutputs }

theorem map_fst_of_readTiers {commands : List (Text × Text)} {tiers : List (Text × Level)}
    (h : readTiers commands = .ok tiers) : tiers.map Prod.fst = commands.map Prod.fst := by
  induction commands generalizing tiers with
  | nil => cases h; rfl
  | cons c cs ih =>
    unfold readTiers at h
    cases hl : Level.ofName c.2 with
    | error e => rw [hl] at h; cases h
    | ok level =>
      cases hr : readTiers cs with
      | error e => rw [hl, hr] at h; cases h
      | ok levels =>
        rw [hl, hr] at h
        cases h
        simp [ih hr]

theorem keys_settle {d : Draft} {tiers : List (Text × Level)}
    (h : readTiers d.dangerousCommands = .ok tiers) : (settle d tiers).keys = d.keys := by
  simp [Tables.keys, settle, map_fst_of_readTiers h]

/-- The registry of a draft. Keys are checked first, then whether all tiers are known,
then whether they are high enough, and priorities last. -/
def build (d : Draft) : Except RegistryFault Registry :=
  match hk : keyFault? d.keys with
  | some fault => .error fault
  | none =>
    match ht : readTiers d.dangerousCommands with
    | .error level => .error (.unknownTier level)
    | .ok tiers =>
      match hm : mildTier? tiers with
      | some level => .error (.mildTier level)
      | none =>
        if hp : ((ordered d.mockOutputs).map MockRule.priority).Pairwise (· < ·) then
          .ok ⟨settle d tiers, keys_lower_of_keyFault? (keys_settle ht ▸ hk),
            high_le_of_mildTier? hm, hp⟩
        else .error .repeatedPriority

/-- The spelling under which a word is looked up. -/
def lookupKey (word : Text) : Text := Text.lower word

/-- The tier of a dangerous command. -/
def tier? (r : Registry) (word : Text) : Option Level :=
  r.tables.dangerousCommands.lookup (lookupKey word)

/-- What a command does. -/
def explanation? (r : Registry) (word : Text) : Option Text :=
  r.tables.explanations.lookup (lookupKey word)

/-- What may be run instead of a command. -/
def alternatives (r : Registry) (word : Text) : List Text :=
  (r.tables.alternatives.lookup (lookupKey word)).getD []

/-- Flags of a command that do no harm. -/
def safeFlags (r : Registry) (word : Text) : List Text :=
  (r.tables.safeFlags.lookup (lookupKey word)).getD []

/-- The note on a critical command; there is one for every word. -/
def criticalNote (r : Registry) (word : Text) : Text :=
  (r.tables.criticalNotes.lookup (lookupKey word)).getD
    (lookupKey word ++ " command can cause irreversible damage")

/-- The output of the first sample rule whose pattern a command line has. -/
def mockOutput? (r : Registry) (line : Text) : Option Text :=
  (r.tables.mockOutputs.find? fun rule => rule.pattern.isMatch line).map MockRule.output

end Registry

end CommandAdvisor.Risk
