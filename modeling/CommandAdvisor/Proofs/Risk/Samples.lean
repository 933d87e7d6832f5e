import CommandAdvisor.Proofs.Risk.Drafts

/-!
# Which sample output is shown

A registry tries its sample rules in ascending order of priority, whatever the order that its
draft lists them in: rules with a priority of their own can be sorted in one way only. So the
first rule that matches is the matching rule of least priority. Which lines a rule matches does
not matter for this.

## Main definitions
* `Registry.sampleBy?`: the sample output for a line, for any way to match lines.

## Main statements
* `ordered_eq_of_perm`: rules with a priority of their own are sorted in one way.
* `build_perm`: drafts that list the same rules become the same registry.
* `samples_by_priority`: the sample output for every line.
-/
namespace CommandAdvisor.Risk

namespace Registry

/-- The output of the first sample rule that fits a command line. -/
def sampleBy? (fits : MockRule → Text → Bool) (r : Registry) (line : Text) : Option Text :=
  (r.tables.mockOutputs.find? fun rule => fits rule line).map MockRule.output

theorem mockOutput?_eq (r : Registry) :
    r.mockOutput? = r.sampleBy? fun rule line => rule.pattern.isMatch line := rfl

/-! ## The order of rules -/

variable {rules rules' : List MockRule}

/-- Two rules of a list in which no priority occurs twice are one if their priority is. -/
theorem eq_of_priority (h : (rules.map MockRule.priority).Nodup) {a b : MockRule}
    (ha : a ∈ rules) (hb : b ∈ rules) (hab : a.priority = b.priority) : a = b :=
  List.inj_on_of_nodup_map h ha hb hab

/-- Rules with a priority of their own are sorted in one way. -/
theorem ordered_eq_of_perm (h : rules.Perm rules') (hp : (rules.map MockRule.priority).Nodup) :
    ordered rules = ordered rules' := by
  have hperm : (ordered rules).Perm (ordered rules') :=
    ((ordered_perm rules).trans h).trans (ordered_perm rules').symm
  refine hperm.eq_of_pairwise (fun a b ha hb hab hba => ?_)
    (List.pairwise_map.1 (pairwise_ordered rules)) (List.pairwise_map.1 (pairwise_ordered rules'))
  have hb : b ∈ ordered rules := hperm.mem_iff.2 hb
  exact eq_of_priority hp ((ordered_perm rules).mem_iff.1 ha) ((ordered_perm rules).mem_iff.1 hb)
    (le_antisymm hab hba)

/-- In ascending order of priority, the first rule of a kind is the one of least priority. -/
theorem find?_eq_some_iff_least {p : MockRule → Bool} {rule : MockRule}
    (h : (rules.map MockRule.priority).Pairwise (· < ·)) :
    rules.find? p = some rule ↔
      rule ∈ rules ∧ p rule = true ∧
        ∀ other ∈ rules, p other = true → rule.priority ≤ other.priority := by
  rw [List.pairwise_map] at h
  rw [List.find?_eq_some_iff_append]
  constructor
  · rintro ⟨hrule, before, after, rfl, hbefore⟩
    refine ⟨by simp, hrule, fun other hother hp => ?_⟩
    rcases List.mem_append.1 hother with hother | hother
    · exact absurd (hbefore other hother) (by simp [hp])
    · rcases List.mem_cons.1 hother with rfl | hother
      · exact le_refl _
      · exact le_of_lt (List.rel_of_pairwise_cons (List.pairwise_append.1 h).2.1 hother)
  · rintro ⟨hmem, hrule, hleast⟩
    obtain ⟨before, after, rfl⟩ := List.append_of_mem hmem
    refine ⟨hrule, before, after, rfl, fun other hother => ?_⟩
    -- a rule in front has lower priority, so it cannot be of the kind
    have hlt : other.priority < rule.priority :=
      (List.pairwise_append.1 h).2.2 other hother rule (by simp)
    cases hp : p other with
    | false => rfl
    | true => exact absurd (hleast other (by simp [hother]) hp) (not_le_of_gt hlt)

/-! ## Drafts that list the same rules -/

theorem eq_of_tables {r r' : Registry} (h : r.tables = r'.tables) : r = r' := by
  cases r
  cases r'
  cases h
  rfl

end Registry

namespace Draft

variable {d : Draft} {rules : List MockRule}

theorem hasOwnPriorities_perm (h : rules.Perm d.mockOutputs) :
    HasOwnPriorities { d with mockOutputs := rules } ↔ d.HasOwnPriorities :=
  (h.map MockRule.priority).nodup_iff

/-- What is wrong with a draft does not depend on the order of its rules. -/
theorem IsRefusedFor.perm {fault : RegistryFault} (hd : d.IsRefusedFor fault)
    (h : rules.Perm d.mockOutputs) :
    IsRefusedFor { d with mockOutputs := rules } fault := by
  cases hd with
  | capitalKeys heq hbefore hbad hne => exact .capitalKeys heq hbefore hbad hne
  | unknownTier hkeys heq hbefore hname => exact .unknownTier hkeys heq hbefore hname
  | mildTier hkeys hknown heq hbefore hmild => exact .mildTier hkeys hknown heq hbefore hmild
  | repeatedPriority hkeys htiers hrepeated =>
    exact .repeatedPriority hkeys htiers fun hp => hrepeated ((hasOwnPriorities_perm h).1 hp)

theorem IsValid.perm (hd : d.IsValid) (h : rules.Perm d.mockOutputs) :
    IsValid { d with mockOutputs := rules } :=
  ⟨hd.lowerKeys, hd.highTiers, (hasOwnPriorities_perm h).2 hd.ownPriorities⟩

end Draft

/-- Drafts that list the same rules become the same registry, or are refused for the same. -/
theorem build_perm {d : Draft} {rules : List MockRule} (h : rules.Perm d.mockOutputs) :
    Registry.build { d with mockOutputs := rules } = Registry.build d := by
  rcases d.isValid_or_isRefusedFor with hd | ⟨fault, hd⟩
  · obtain ⟨r, hr⟩ := hd.exists_build
    obtain ⟨r', hr'⟩ := (hd.perm h).exists_build
    obtain ⟨tiers, htiers, hr_tables⟩ := Registry.exists_settle_of_build hr
    obtain ⟨tiers', htiers', hr_tables'⟩ := Registry.exists_settle_of_build hr'
    obtain rfl : tiers' = tiers := Except.ok.inj (htiers'.symm.trans htiers)
    have htables : r'.tables = r.tables := by
      rw [hr_tables, hr_tables', Registry.settle, Registry.settle,
        Registry.ordered_eq_of_perm h.symm hd.ownPriorities]
    rw [hr, hr', Registry.eq_of_tables htables]
  · rw [hd.build_eq, (hd.perm h).build_eq]

/-! ## The sample output -/

/-- The sample output for a line is that of the rule of least priority among those that fit. -/
theorem Registry.sampleBy?_eq_some_iff {d : Draft} {r : Registry} (hr : r.Keeps d)
    (fits : MockRule → Text → Bool) (line output : Text) :
    r.sampleBy? fits line = some output ↔
      ∃ rule ∈ d.mockOutputs, fits rule line = true ∧ rule.output = output ∧
        ∀ other ∈ d.mockOutputs, fits other line = true → rule.priority ≤ other.priority := by
  simp only [sampleBy?, Option.map_eq_some_iff, find?_eq_some_iff_least hr.ascending,
    hr.rules.mem_iff]
  constructor
  · rintro ⟨rule, ⟨hmem, hfits, hleast⟩, houtput⟩
    exact ⟨rule, hmem, hfits, houtput, hleast⟩
  · rintro ⟨rule, hmem, hfits, houtput, hleast⟩
    exact ⟨rule, ⟨hmem, hfits, hleast⟩, houtput⟩

theorem Registry.sampleBy?_eq_none_iff {d : Draft} {r : Registry} (hr : r.Keeps d)
    (fits : MockRule → Text → Bool) (line : Text) :
    r.sampleBy? fits line = none ↔ ∀ rule ∈ d.mockOutputs, fits rule line = false := by
  simp [sampleBy?, Option.map_eq_none_iff, List.find?_eq_none, hr.rules.mem_iff]

/-- **Sample output goes by priority.** However a draft lists its rules, it becomes the same
registry. With a priority of its own for every rule, and all else being as it must be, there is
a registry, and the sample output for a line is that of the fitting rule of least priority;
there is none only if no rule fits. With a priority that occurs twice there is no registry. -/
theorem samples_by_priority (d : Draft) {rules : List MockRule}
    (h : rules.Perm d.mockOutputs) :
    Registry.build { d with mockOutputs := rules } = Registry.build d ∧
      (d.HasLowerKeys → d.HasHighTiers → d.HasOwnPriorities →
        ∃ r, Registry.build { d with mockOutputs := rules } = .ok r) ∧
      (d.HasLowerKeys → d.HasHighTiers → ¬d.HasOwnPriorities →
        Registry.build { d with mockOutputs := rules } = .error .repeatedPriority) ∧
      (¬d.HasOwnPriorities →
        ∃ fault, Registry.build { d with mockOutputs := rules } = .error fault) ∧
      ∀ r, Registry.build { d with mockOutputs := rules } = .ok r →
        r.mockOutput? = r.sampleBy? (fun rule line => rule.pattern.isMatch line) ∧
        ∀ fits line,
          (∀ output, r.sampleBy? fits line = some output ↔
            ∃ rule ∈ d.mockOutputs, fits rule line = true ∧ rule.output = output ∧
              ∀ other ∈ d.mockOutputs, fits other line = true →
                rule.priority ≤ other.priority) ∧
          (r.sampleBy? fits line = none ↔
            ∀ rule ∈ d.mockOutputs, fits rule line = false) := by
  rw [build_perm h]
  refine ⟨rfl, fun hkeys htiers hp => Draft.IsValid.exists_build ⟨hkeys, htiers, hp⟩,
    fun hkeys htiers hp => (Draft.IsRefusedFor.repeatedPriority hkeys htiers hp).build_eq, ?_, ?_⟩
  · intro hp
    rcases d.isValid_or_isRefusedFor with hd | ⟨fault, hd⟩
    · exact absurd hd.ownPriorities hp
    · exact ⟨fault, hd.build_eq⟩
  · intro r hr
    have hkeeps := Registry.keeps_of_build hr
    exact ⟨r.mockOutput?_eq, fun fits line => ⟨Registry.sampleBy?_eq_some_iff hkeeps fits line,
      Registry.sampleBy?_eq_none_iff hkeeps fits line⟩⟩

/-- Two rules that fit the same line, the second one to be tried being listed first. -/
def Draft.overlapping : Draft :=
  { (Tables.empty : Draft) with
    mockOutputs := [⟨20, ⟨false, [.letter 'l']⟩, "late", []⟩, ⟨10, ⟨true, []⟩, "early", []⟩] }

theorem Draft.isValid_overlapping : Draft.overlapping.IsValid where
  lowerKeys := by unfold HasLowerKeys; decide +kernel
  highTiers := by simp [overlapping, HasHighTiers, Tables.empty]
  ownPriorities := by unfold HasOwnPriorities; decide +kernel

theorem samples_by_priority_overlapping :
    ∃ r, Registry.build { Draft.overlapping with
      mockOutputs := Draft.overlapping.mockOutputs.reverse } = .ok r ∧
      Registry.build Draft.overlapping = .ok r ∧ r.mockOutput? "ls" = some ("early" : Text) := by
  obtain ⟨hsame, hbuilt, -, -, hsample⟩ :=
    samples_by_priority Draft.overlapping (List.reverse_perm Draft.overlapping.mockOutputs)
  obtain ⟨hkeys, htiers, hp⟩ := Draft.isValid_overlapping
  obtain ⟨r, hr⟩ := hbuilt hkeys htiers hp
  obtain ⟨heq, hleast⟩ := hsample r hr
  refine ⟨r, hr, hsame ▸ hr, ?_⟩
  rw [heq, (hleast _ "ls").1]
  exact ⟨⟨10, ⟨true, []⟩, "early", []⟩, by decide +kernel, by decide +kernel, rfl,
    by decide +kernel⟩

end CommandAdvisor.Risk
