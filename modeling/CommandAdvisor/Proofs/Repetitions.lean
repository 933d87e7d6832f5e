import Mathlib.Data.Finset.Card
import Mathlib.Data.List.Nodup

/-!
# Recent items, without repetitions

A list of what happened, the latest first, tells which items are the most recent ones: its first
items when repetitions are left out. Such a list may be cut after every step instead of once at
the end, and an item is among the first ones exactly if not too many others have happened since.

## Main statements
* `take_cons_filter_ne_take`: cutting at every step is cutting once.
* `mem_take_eraseDups_iff`: an item is recent if few others have happened since.
-/
namespace CommandAdvisor

section Repetitions

variable {α : Type}

section Lawful

variable [BEq α] [LawfulBEq α]

omit [LawfulBEq α] in
theorem length_filter_ne_lt (a : α) (l : List α) :
    (l.filter fun b => !b == a).length < (a :: l).length :=
  Nat.lt_succ_of_le (List.length_filter_le _ l)

theorem nodup_eraseDups : ∀ l : List α, l.eraseDups.Nodup
  | [] => by simp
  | a :: l => by
    rw [List.eraseDups_cons, List.nodup_cons]
    refine ⟨?_, nodup_eraseDups (l.filter fun b => !b == a)⟩
    simp [List.mem_eraseDups]
termination_by l => l.length
decreasing_by exact length_filter_ne_lt a l

/-- It does not matter whether an item is left out before or after repetitions. -/
theorem eraseDups_filter_ne (c : α) : ∀ l : List α,
    (l.filter fun b => !b == c).eraseDups = l.eraseDups.filter fun b => !b == c
  | [] => rfl
  | a :: l => by
    have hrest := eraseDups_filter_ne c (l.filter fun b => !b == a)
    by_cases hac : a = c
    · subst hac
      have hdrop (m : List α) : ((a :: m).filter fun b => !b == a) = m.filter fun b => !b == a :=
        List.filter_cons_of_neg (by simp)
      rw [hdrop, List.eraseDups_cons, hdrop, ← hrest, List.filter_filter]
      simp only [Bool.and_self]
    · have hkeep (m : List α) :
          ((a :: m).filter fun b => !b == c) = a :: m.filter fun b => !b == c :=
        List.filter_cons_of_pos (by simpa using hac)
      have hcomm : (l.filter fun b => !b == a).filter (fun b => !b == c) =
          (l.filter fun b => !b == c).filter fun b => !b == a := by
        simp only [List.filter_filter, Bool.and_comm]
      rw [hkeep, List.eraseDups_cons, List.eraseDups_cons, hkeep, ← hrest, hcomm]
termination_by l => l.length
decreasing_by exact length_filter_ne_lt a l

/-- To leave one item out makes room for at most one: of a list without repetitions that was
cut before, all that can be asked for is there. -/
theorem take_filter_ne_take (c : α) {l : List α} (h : l.Nodup) (n : Nat) :
    ((l.take (n + 1)).filter fun b => !b == c).take n = (l.filter fun b => !b == c).take n := by
  induction l generalizing n with
  | nil => rfl
  | cons a l ih =>
    obtain ⟨ha, hl⟩ := List.nodup_cons.1 h
    cases n with
    | zero => simp only [List.take_zero]
    | succ n =>
      rw [List.take_succ_cons]
      by_cases hac : a = c
      · subst hac
        have hdrop (m : List α) (hm : m ⊆ l) : ((a :: m).filter fun b => !b == a) = m := by
          rw [List.filter_cons_of_neg (by simp)]
          refine List.filter_eq_self.2 ?_
          intro b hb
          have hne : b ≠ a := fun hba => ha (hba ▸ hm hb)
          simpa using hne
        rw [hdrop _ (List.take_subset _ l), hdrop l (List.Subset.refl l), List.take_take,
          Nat.min_self]
      · have hkeep (m : List α) :
            ((a :: m).filter fun b => !b == c) = a :: m.filter fun b => !b == c :=
          List.filter_cons_of_pos (by simpa using hac)
        rw [hkeep, hkeep, List.take_succ_cons, List.take_succ_cons, ih hl]

/-- What is cut at every addition is what would be cut once. -/
theorem take_cons_filter_ne_take (c : α) {l : List α} (h : l.Nodup)
    (n : Nat) : (c :: (l.take n).filter fun b => !b == c).take n =
      (c :: l.filter fun b => !b == c).take n := by
  cases n with
  | zero => rfl
  | succ n => rw [List.take_succ_cons, List.take_succ_cons, take_filter_ne_take c h]

end Lawful

variable [DecidableEq α]

/-- Repetitions left out, there are as many items as different ones. -/
theorem length_eraseDups (l : List α) : l.eraseDups.length = l.toFinset.card := by
  have hsame : l.eraseDups.toFinset = l.toFinset := by
    ext a
    rw [List.mem_toFinset, List.mem_toFinset, List.mem_eraseDups]
  rw [← hsame, List.toFinset_card_of_nodup (nodup_eraseDups l)]

/-- Repetitions left out, an item stands behind the different ones in front of its first place. -/
theorem exists_eraseDups_append_cons {a : α} {since : List α} (h : a ∉ since)
    (earlier : List α) :
    ∃ rest, (since ++ a :: earlier).eraseDups = since.eraseDups ++ a :: rest := by
  rw [List.eraseDups_append, List.cons_removeAll, if_pos (by simpa using h), List.eraseDups_cons]
  exact ⟨_, rfl⟩

/-- **An item is among the first different ones of a list** exactly if it is in the list and
fewer different items stand in front of its first place. -/
theorem mem_take_eraseDups_iff {a : α} {l : List α} {n : Nat} :
    a ∈ l.eraseDups.take n ↔
      ∃ since earlier, l = since ++ a :: earlier ∧ a ∉ since ∧ since.toFinset.card < n := by
  constructor
  · intro h
    obtain ⟨since, earlier, rfl, hsince⟩ :=
      List.eq_append_cons_of_mem (List.mem_eraseDups.1 (List.mem_of_mem_take h))
    refine ⟨since, earlier, rfl, hsince, ?_⟩
    obtain ⟨rest, hrest⟩ := exists_eraseDups_append_cons hsince earlier
    by_contra hlt
    -- All places that are kept are taken by the items in front.
    have hfull : n ≤ since.eraseDups.length := by
      rw [length_eraseDups]
      omega
    rw [hrest, List.take_append_of_le_length hfull] at h
    exact hsince (List.mem_eraseDups.1 (List.mem_of_mem_take h))
  · rintro ⟨since, earlier, rfl, hsince, hlt⟩
    obtain ⟨rest, hrest⟩ := exists_eraseDups_append_cons hsince earlier
    have hroom : n - since.eraseDups.length ≠ 0 := by
      rw [length_eraseDups]
      omega
    obtain ⟨m, hm⟩ := Nat.exists_eq_succ_of_ne_zero hroom
    rw [hrest, List.take_append, hm, List.take_succ_cons]
    exact List.mem_append_right _ List.mem_cons_self

end Repetitions

end CommandAdvisor
