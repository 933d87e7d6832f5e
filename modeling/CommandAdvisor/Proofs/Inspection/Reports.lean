import CommandAdvisor.Proofs.Actions

/-!
# Reports from the cache

A cache that holds nothing but what inspections found is consulted like an inspection, and
still holds nothing else afterwards.

## Main definitions
* `Cache.IsFaithful`: a cache holds nothing but true answers.

## Main statements
* `Cache.IsFaithful.fst_consult` and `Cache.IsFaithful.snd_consult`: one consultation of a
  faithful cache.
* `Action.exists_run_report`: to report is to consult the cache once.
* `Action.keeps_report` and `Action.run_report`: the report on a command line is what an
  inspection finds, and the cache stays faithful.
-/
namespace CommandAdvisor

namespace Inspection.Cache

variable {Question Answer : Type}

/-- A cache holds nothing but true answers. -/
def IsFaithful (answer : Question → Answer) (c : Cache Question Answer) : Prop :=
  ∀ e ∈ c.entries, e.2 = answer e.1

theorem isFaithful_empty (answer : Question → Answer) :
    (empty : Cache Question Answer).IsFaithful answer := by
  simp [IsFaithful]

variable [DecidableEq Question] {answer : Question → Answer} {c : Cache Question Answer}

theorem IsFaithful.eq_of_lookup (h : c.IsFaithful answer) {q : Question} {a : Answer}
    (hfound : c.entries.lookup q = some a) : a = answer q := by
  obtain ⟨before, after, heq, -⟩ := List.lookup_eq_some_iff.1 hfound
  exact h (q, a) (by simp [heq])

/-- A faithful cache gives the true answer. -/
theorem IsFaithful.fst_consult (h : c.IsFaithful answer) (capacity : Nat) (q : Question) :
    (c.consult capacity answer q).1 = answer q := by
  rw [consult]
  split
  · next a hfound => exact h.eq_of_lookup hfound
  · rfl

/-- A faithful cache is faithful afterwards. -/
theorem IsFaithful.snd_consult (h : c.IsFaithful answer) (capacity : Nat) (q : Question) :
    (c.consult capacity answer q).2.IsFaithful answer := by
  rw [consult]
  split
  · next a hfound =>
    refine List.forall_mem_cons.2 ⟨h.eq_of_lookup hfound, ?_⟩
    intro e he
    exact h e (List.mem_filter.1 he).1
  · intro e he
    rcases List.mem_cons.1 (List.mem_of_mem_take he) with rfl | he
    · rfl
    · exact h e he

end Inspection.Cache

namespace Action

open Inspection (inspect)

theorem succeeds_noteTokens (line : Text) (tokens : List Command.Token) :
    (noteTokens line tokens).Succeeds := by
  unfold noteTokens
  cases Command.unclosedQuote? line with
  | none => exact succeeds_note _
  | some quote => exact (succeeds_note _).bind fun _ => succeeds_note _

theorem succeeds_noteVerdict (analysis : Risk.Analysis) : (noteVerdict analysis).Succeeds :=
  .ite (succeeds_pure _) (succeeds_note _)

section Keeps

variable {P : Inspection.Cache Text Inspection.Report → Prop}

theorem keeps_noteTokens (line : Text) (tokens : List Command.Token) :
    (noteTokens line tokens).Keeps P := by
  unfold noteTokens
  cases Command.unclosedQuote? line with
  | none => exact keeps_note _
  | some quote => exact (keeps_note _).bind fun _ => keeps_note _

theorem keeps_noteVerdict (analysis : Risk.Analysis) : (noteVerdict analysis).Keeps P :=
  .ite (keeps_pure _) (keeps_note _)

end Keeps

/-- A report is what one consultation of the cache gives, and leaves the cache behind that the
consultation leaves. -/
theorem exists_run_report (line : Text) (w : Workspace) :
    ∃ w', (report line).run w = .ok (w.reports.consult reportCapacity inspect line).1 w' ∧
      w'.reports = (w.reports.consult reportCapacity inspect line).2 := by
  generalize hconsult : w.reports.consult reportCapacity inspect line = consulted
  obtain ⟨found, after⟩ := consulted
  let notes : Action Unit := do
    note (.inspecting line)
    noteTokens line found.tokens
    noteVerdict found.analysis
  have hsucceeds : notes.Succeeds :=
    (succeeds_note _).bind fun _ => (succeeds_noteTokens _ _).bind fun _ => succeeds_noteVerdict _
  have hkeeps : notes.Keeps (· = after) :=
    (keeps_note _).bind fun _ => (keeps_noteTokens _ _).bind fun _ => keeps_noteVerdict _
  rw [report, run_bind_of_ok (EStateM.run_get w)]
  dsimp only
  rw [hconsult, run_bind_of_ok (EStateM.run_set _ _)]
  split
  · exact ⟨_, rfl, rfl⟩
  · -- What is noted of a new report does not touch the cache.
    obtain ⟨_, w', hnoted⟩ := hsucceeds { w with reports := after }
    have hafter := hkeeps { w with reports := after } rfl
    rw [hnoted] at hafter
    refine ⟨w', ?_, hafter⟩
    simp only [notes, ← bind_assoc] at hnoted ⊢
    exact run_bind_of_ok hnoted

/-- Whatever is reported, a faithful cache stays faithful. -/
theorem keeps_report (line : Text) : (report line).Keeps (·.IsFaithful inspect) := by
  intro w hw
  obtain ⟨w', hrun, hafter⟩ := exists_run_report line w
  have hfaithful := hw.snd_consult reportCapacity line
  rw [← hafter] at hfaithful
  rw [hrun]
  exact hfaithful

/-- **The report on a command line is what an inspection finds** where the cache is
faithful. -/
theorem run_report {w : Workspace} (h : w.reports.IsFaithful inspect) (line : Text) :
    ∃ w', (report line).run w = .ok (inspect line) w' := by
  obtain ⟨w', hrun, -⟩ := exists_run_report line w
  rw [h.fst_consult] at hrun
  exact ⟨w', hrun⟩

end Action

end CommandAdvisor
