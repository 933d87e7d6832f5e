import CommandAdvisor.Proofs.Command.Segmentation
import CommandAdvisor.Proofs.History.Stored
import CommandAdvisor.Proofs.Inspection.Reports
import CommandAdvisor.Proofs.Repetitions

/-!
# What a cache remembers

A cache knows the answers to the questions that were asked last, as many different ones as it
has room for. Whether it knows a question is therefore a matter of what was asked: the question
was asked before, and not too many others have been asked since. One consultation keeps this,
and so do any number of them.

## Main definitions
* `Cache.IsRecent`: a question was asked before, with few others since.
* `Cache.Remembers`: what holds of a cache after some questions.

## Main statements
* `Cache.Remembers.consult`: one more question.
* `Cache.Remembers.knows_iff`: a question is known if it is recent.
* `reports_memoised`: reports come from the cache exactly if their command lines are recent, and
  nobody can tell.
-/
namespace CommandAdvisor

namespace Inspection.Cache

variable {Question Answer : Type}

/-- The questions to which a cache knows the answer, the latest first. -/
def questions (c : Cache Question Answer) : List Question := c.entries.map Prod.fst

theorem length_questions (c : Cache Question Answer) : c.questions.length = c.size :=
  List.length_map _

variable [DecidableEq Question]

/-- A question was asked before, and fewer different ones than there is room for were asked
since. -/
def IsRecent (capacity : Nat) (asked : List Question) (q : Question) : Prop :=
  ∃ earlier since, asked = earlier ++ q :: since ∧ q ∉ since ∧ since.toFinset.card < capacity

/-- What holds of a cache after some questions: it knows the true answers to the latest different
ones, and each question was a hit or a miss. -/
structure Remembers (capacity : Nat) (answer : Question → Answer) (asked : List Question)
    (c : Cache Question Answer) : Prop where
  questions_eq : c.questions = asked.reverse.eraseDups.take capacity
  isFaithful : c.IsFaithful answer
  calls : c.hits + c.misses = asked.length

variable {capacity : Nat} {answer : Question → Answer} {asked : List Question}
  {c : Cache Question Answer} {q : Question}

theorem remembers_empty (capacity : Nat) (answer : Question → Answer) :
    (empty : Cache Question Answer).Remembers capacity answer [] :=
  ⟨by simp [questions], isFaithful_empty answer, rfl⟩

/-! ## One question -/

theorem knows_iff_mem : c.knows q = true ↔ q ∈ c.questions := by
  simp [knows, questions, List.lookup_isSome_iff]

theorem hits_consult (capacity : Nat) (answer : Question → Answer) (c : Cache Question Answer)
    (q : Question) :
    (c.consult capacity answer q).2.hits = if c.knows q then c.hits + 1 else c.hits := by
  rw [consult, knows]
  cases c.entries.lookup q <;> rfl

/-- The question that was asked comes to the front; the last one is forgotten if there is no
room. -/
theorem questions_consult (answer : Question → Answer) (h : c.size ≤ capacity) (q : Question) :
    (c.consult capacity answer q).2.questions =
      (q :: c.questions.filter fun b => !b == q).take capacity := by
  rw [consult]
  cases hfound : c.entries.lookup q with
  | some a =>
    have hmem : q ∈ c.questions := knows_iff_mem.1 (by rw [knows, hfound]; rfl)
    have hshorter : (c.questions.filter fun b => !b == q).length < c.questions.length :=
      List.length_filter_lt_length_iff_exists.2 ⟨q, hmem, by simp⟩
    have hroom : (q :: c.questions.filter fun b => !b == q).length ≤ capacity := by
      rw [length_questions] at hshorter
      rw [List.length_cons]
      omega
    rw [List.take_of_length_le hroom]
    simp only [questions, List.map_cons, List.filter_map]
    congr 3
    funext e
    simp [Bool.beq_eq_decide_eq]
  | none =>
    have hkeep : (c.questions.filter fun b => !b == q) = c.questions := by
      refine List.filter_eq_self.2 fun b hb => ?_
      obtain ⟨e, he, rfl⟩ := List.mem_map.1 hb
      have hne : q ≠ e.1 := bne_iff_ne.1 (List.lookup_eq_none_iff.1 hfound e he)
      simpa using hne.symm
    rw [hkeep]
    simp only [questions, List.map_take, List.map_cons]

/-! ## Any questions -/

namespace Remembers

theorem size_eq (h : c.Remembers capacity answer asked) :
    c.size = min capacity asked.toFinset.card := by
  rw [← length_questions, h.questions_eq, List.length_take, length_eraseDups,
    List.toFinset_reverse]

/-- One more question. -/
theorem consult (h : c.Remembers capacity answer asked) (q : Question) :
    (c.consult capacity answer q).2.Remembers capacity answer (asked ++ [q]) where
  questions_eq := by
    have hroom : c.size ≤ capacity := by
      rw [h.size_eq]
      exact Nat.min_le_left _ _
    rw [questions_consult answer hroom, h.questions_eq,
      take_cons_filter_ne_take q (nodup_eraseDups _), List.reverse_append, List.reverse_singleton,
      List.singleton_append, List.eraseDups_cons, eraseDups_filter_ne]
  isFaithful := h.isFaithful.snd_consult capacity q
  calls := by
    rw [calls_consult, h.calls, List.length_append, List.length_singleton]

/-- **A question is known exactly if it is recent.** -/
theorem knows_iff (h : c.Remembers capacity answer asked) (q : Question) :
    c.knows q = true ↔ IsRecent capacity asked q := by
  rw [knows_iff_mem, h.questions_eq, mem_take_eraseDups_iff]
  constructor
  · rintro ⟨since, earlier, hasked, hsince, hfew⟩
    refine ⟨earlier.reverse, since.reverse, ?_, by simpa using hsince, by simpa using hfew⟩
    rw [← List.reverse_reverse asked, hasked]
    simp
  · rintro ⟨earlier, since, rfl, hsince, hfew⟩
    exact ⟨since.reverse, earlier.reverse, by simp, by simpa using hsince, by simpa using hfew⟩

end Remembers

end Inspection.Cache

namespace Action

open Inspection (inspect)
open Inspection.Cache (IsRecent Remembers)

variable {w : Workspace} {asked : List Text}

/-- One more report. -/
theorem exists_run_report_of_remembers (h : w.reports.Remembers reportCapacity inspect asked)
    (line : Text) :
    ∃ w', (report line).run w = .ok (inspect line) w' ∧
      w'.reports.Remembers reportCapacity inspect (asked ++ [line]) ∧
      (w'.reports.hits = w.reports.hits + 1 ↔ IsRecent reportCapacity asked line) := by
  obtain ⟨w', hrun, hafter⟩ := exists_run_report line w
  rw [h.isFaithful.fst_consult] at hrun
  refine ⟨w', hrun, hafter ▸ h.consult line, ?_⟩
  rw [hafter, Inspection.Cache.hits_consult, ← h.knows_iff]
  split <;> simp_all

/-- Any number of reports. -/
theorem exists_run_reports (h : w.reports.Remembers reportCapacity inspect asked)
    (lines : List Text) :
    ∃ w', (lines.mapM report).run w = .ok (lines.map inspect) w' ∧
      w'.reports.Remembers reportCapacity inspect (asked ++ lines) := by
  induction lines generalizing w asked with
  | nil => exact ⟨w, rfl, by rwa [List.append_nil]⟩
  | cons line rest ih =>
    obtain ⟨w₁, hfirst, hkept, -⟩ := exists_run_report_of_remembers h line
    obtain ⟨w₂, hrest, hkept⟩ := ih hkept
    rw [List.append_assoc, List.singleton_append] at hkept
    refine ⟨w₂, ?_, hkept⟩
    rw [List.mapM_cons, run_bind_of_ok hfirst, run_bind_of_ok hrest]
    rfl

/-- **Reports are memoised, and nobody can tell.** From an empty cache, command lines get the
reports that an inspection finds, whatever was reported before; each of them is a hit or a miss;
there are as many reports in the cache as there are different lines, up to its capacity; and a
line is a hit exactly if it was reported before and fewer different others than the capacity
have been reported since. -/
theorem reports_memoised (h : w.reports = .empty) (lines : List Text) :
    ∃ w', (lines.mapM report).run w = .ok (lines.map inspect) w' ∧
      w'.reports.hits + w'.reports.misses = lines.length ∧
      w'.reports.size = min 256 lines.toFinset.card ∧
      (∀ before line after, lines = before ++ line :: after → ∃ w₁ w₂,
        (before.mapM report).run w = .ok (before.map inspect) w₁ ∧
        (report line).run w₁ = .ok (inspect line) w₂ ∧
        (after.mapM report).run w₂ = .ok (after.map inspect) w' ∧
        (w₂.reports.hits = w₁.reports.hits + 1 ↔ IsRecent 256 before line)) ∧
      ∀ line, (inspect line).command = line ∧
        (inspect line).tokens = Command.tokenize Command.knownCommands line ∧
        (inspect line).analysis = Risk.assess .builtIn line ∧
        Command.Token.join (inspect line).tokens = line ∧
        (inspect line).analysis.command = Text.trim line := by
  have hstart : w.reports.Remembers reportCapacity inspect [] :=
    h ▸ Inspection.Cache.remembers_empty reportCapacity inspect
  obtain ⟨w', hrun, hkept⟩ := exists_run_reports hstart lines
  rw [List.nil_append] at hkept
  refine ⟨w', hrun, hkept.calls, hkept.size_eq, ?_, fun line => ⟨rfl, rfl, rfl,
    Command.join_tokenize _ line, Risk.command_assess .builtIn line⟩⟩
  rintro before line after rfl
  obtain ⟨w₁, hbefore, hkept₁⟩ := exists_run_reports hstart before
  rw [List.nil_append] at hkept₁
  obtain ⟨w₂, hline, hkept₂, hhit⟩ := exists_run_report_of_remembers hkept₁ line
  obtain ⟨w₃, hafter, -⟩ := exists_run_reports hkept₂ after
  -- The three parts make up the run of all lines, so they end where it does.
  have hsame : w₃ = w' := by
    rw [List.mapM_append, run_bind_of_ok hbefore, List.mapM_cons, bind_assoc,
      run_bind_of_ok hline, bind_assoc, run_bind_of_ok hafter] at hrun
    exact (EStateM.Result.ok.inj hrun).2
  exact ⟨w₁, w₂, hbefore, hline, hsame ▸ hafter, hhit⟩

/-- Four reports of three lines; the line that is reported twice is a hit the second time, although
another one came between. -/
theorem reports_memoised_again : ∃ w₁ w₂ w' : Workspace,
    (["ls", "pwd", "ls", "cat"].mapM report).run History.Store.bareWorkspace =
        .ok [inspect "ls", inspect "pwd", inspect "ls", inspect "cat"] w' ∧
      w'.reports.hits + w'.reports.misses = 4 ∧ w'.reports.size = 3 ∧
      (["ls", "pwd"].mapM report).run History.Store.bareWorkspace =
        .ok [inspect "ls", inspect "pwd"] w₁ ∧
      (report "ls").run w₁ = .ok (inspect "ls") w₂ ∧ w₂.reports.hits = w₁.reports.hits + 1 := by
  have hempty : History.Store.bareWorkspace.reports = .empty := rfl
  obtain ⟨w', hrun, hcalls, hsize, hcall, -⟩ :=
    reports_memoised hempty ["ls", "pwd", "ls", "cat"]
  obtain ⟨w₁, w₂, hbefore, hline, -, hhit⟩ := hcall ["ls", "pwd"] "ls" ["cat"] rfl
  have hrecent : IsRecent 256 [Text.ofString "ls", "pwd"] "ls" :=
    ⟨[], ["pwd"], rfl, by decide, by decide⟩
  have hthree : min 256 [Text.ofString "ls", "pwd", "ls", "cat"].toFinset.card = 3 := by decide
  exact ⟨w₁, w₂, w', hrun, hcalls, hsize.trans hthree, hbefore, hline, hhit.2 hrecent⟩

end Action

end CommandAdvisor
