import CommandAdvisor.Text.Blank
import Mathlib.Data.List.SplitBy

/-!
# Runs of a text

The runs of a text are the one way to cut it into nonempty pieces that are blank
throughout or nowhere and that alternate in this. Everything about words rests on it.

## Main statements
* `runs_flatten`: pieces with these properties are the runs of what they are cut from.
* `areRuns_runs`: the runs of a text have them.
* `runs_append`: a cut between white space and anything else cuts no run.
-/
namespace CommandAdvisor.Text

/-- All of a text is white space. -/
def IsBlank (s : Text) : Prop := ∀ l ∈ s, isBlank l = true

/-- No letter of a text is white space. -/
def IsSolid (s : Text) : Prop := ∀ l ∈ s, isBlank l = false

instance (s : Text) : Decidable (IsBlank s) :=
  inferInstanceAs (Decidable (∀ l ∈ s, isBlank l = true))

instance (s : Text) : Decidable (IsSolid s) :=
  inferInstanceAs (Decidable (∀ l ∈ s, isBlank l = false))

/-- A nonempty text whose first letter tells whether all are white space. -/
structure IsRun (r : Text) : Prop where
  ne_nil : r ≠ []
  uniform : ∀ l ∈ r, isBlank l = startsBlank r

/-- Runs that alternate between white space and anything else. -/
structure AreRuns (rs : List Text) : Prop where
  run : ∀ r ∈ rs, IsRun r
  alternate : rs.IsChain fun a b => startsBlank a ≠ startsBlank b

theorem AreRuns.tail {r : Text} {rs : List Text} (h : AreRuns (r :: rs)) : AreRuns rs :=
  ⟨fun r' hr' => h.run r' (List.mem_cons_of_mem r hr'), h.alternate.tail⟩

theorem startsBlank_append {s : Text} (h : s ≠ []) (t : Text) :
    startsBlank (s ++ t) = startsBlank s := by
  obtain ⟨l, s, rfl⟩ := List.exists_cons_of_ne_nil h
  rfl

theorem IsBlank.startsBlank {s : Text} (h : IsBlank s) (hs : s ≠ []) :
    startsBlank s = true := by
  obtain ⟨l, s, rfl⟩ := List.exists_cons_of_ne_nil hs
  exact h l List.mem_cons_self

theorem IsSolid.startsBlank {s : Text} (h : IsSolid s) : startsBlank s = false := by
  cases s with
  | nil => rfl
  | cons l s => exact h l List.mem_cons_self

namespace IsRun

variable {r : Text}

theorem isBlank (h : IsRun r) (hr : startsBlank r = true) : IsBlank r :=
  fun l hl => (h.uniform l hl).trans hr

theorem isSolid (h : IsRun r) (hr : startsBlank r = false) : IsSolid r :=
  fun l hl => (h.uniform l hl).trans hr

theorem of_isBlank (h : IsBlank r) (hr : r ≠ []) : IsRun r :=
  ⟨hr, fun l hl => (h l hl).trans (h.startsBlank hr).symm⟩

theorem of_isSolid (h : IsSolid r) (hr : r ≠ []) : IsRun r :=
  ⟨hr, fun l hl => (h l hl).trans h.startsBlank.symm⟩

end IsRun

theorem isRun_of_mem_runs {s r : Text} (h : r ∈ runs s) : IsRun r := by
  have hne : r ≠ [] := List.ne_nil_of_mem_splitBy h
  obtain ⟨l, t, rfl⟩ := List.exists_cons_of_ne_nil hne
  have hchain : (l :: t).IsChain fun a b => isBlank a = isBlank b := by
    simpa only [beq_iff_eq] using List.isChain_of_mem_splitBy h
  have : Trans (fun a b : Letter => isBlank a = isBlank b) (fun a b => isBlank a = isBlank b)
      fun a b => isBlank a = isBlank b := ⟨Eq.trans⟩
  refine ⟨hne, ?_⟩
  intro m hm
  rcases List.mem_cons.1 hm with rfl | hm
  · rfl
  · exact (List.rel_of_pairwise_cons hchain.pairwise hm).symm

/-- Two neighbours in a cut differ in kind exactly if the letters that meet do. -/
private theorem meeting_iff {a b : Text} (ha : IsRun a) (hb : IsRun b) :
    (∃ (h : a ≠ []) (h' : b ≠ []), (isBlank (a.getLast h) == isBlank (b.head h')) = false) ↔
      startsBlank a ≠ startsBlank b := by
  have hlast := ha.uniform _ (List.getLast_mem ha.ne_nil)
  have hhead := hb.uniform _ (List.head_mem hb.ne_nil)
  simp only [beq_eq_false_iff_ne, hlast, hhead]
  exact ⟨fun ⟨_, _, h⟩ => h, fun h => ⟨ha.ne_nil, hb.ne_nil, h⟩⟩

theorem areRuns_runs (s : Text) : AreRuns (runs s) := by
  refine ⟨fun r hr => isRun_of_mem_runs hr, ?_⟩
  refine (List.isChain_getLast_head_splitBy _ s).imp_of_mem_imp ?_
  intro a b ha hb h
  exact (meeting_iff (isRun_of_mem_runs ha) (isRun_of_mem_runs hb)).1 h

@[simp] theorem flatten_runs (s : Text) : (runs s).flatten = s := List.flatten_splitBy _ s

/-- Runs are found again in what they make up. -/
theorem runs_flatten {rs : List Text} (h : AreRuns rs) : runs rs.flatten = rs := by
  refine List.splitBy_flatten (fun hn => (h.run [] hn).ne_nil rfl) ?_ ?_
  · intro r hr
    refine List.Pairwise.isChain (List.pairwise_of_forall_mem_list ?_)
    intro a ha b hb
    rw [beq_iff_eq, (h.run r hr).uniform a ha, (h.run r hr).uniform b hb]
  · refine h.alternate.imp_of_mem_imp ?_
    intro a b ha hb hab
    exact (meeting_iff (h.run a ha) (h.run b hb)).2 hab

theorem runs_of_isRun {r : Text} (h : IsRun r) : runs r = [r] := by
  have hr : AreRuns [r] := ⟨by simpa using h, List.isChain_singleton r⟩
  simpa using runs_flatten hr

/-- A cut at which white space meets anything else cuts no run. -/
theorem runs_append {s t : Text}
    (h : ∀ a ∈ s.getLast?, ∀ b ∈ t.head?, isBlank a ≠ isBlank b) :
    runs (s ++ t) = runs s ++ runs t :=
  List.splitBy_append fun a ha b hb => beq_eq_false_iff_ne.2 (h a ha b hb)

theorem runs_eq_nil_iff {s : Text} : runs s = [] ↔ s = [] := List.splitBy_eq_nil

end CommandAdvisor.Text
