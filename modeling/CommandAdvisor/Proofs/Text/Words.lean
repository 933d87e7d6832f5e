import CommandAdvisor.Proofs.Text.Runs
import Mathlib.Data.List.TakeWhile

/-!
# Words of a text

White space separates words and belongs to none of them, so the words of two texts of which
the second starts with white space are the words of the one and then those of the other.

## Main statements
* `words_append_of_isBlank`: white space in front adds no words.
* `words_append`: the words of a text with another one behind it.
* `words_trim` and `exists_trim_eq_append`: the words of a text that is trimmed.
* `exists_mem_words_infix_iff`: what holds no white space stands in words if it stands anywhere.
* `cutAt_append` and `eq_of_cutAt`: a text that is cut at a letter, and its parts.
-/
namespace CommandAdvisor.Text

/-! ## White space at the ends -/

theorem IsBlank.append {s t : Text} (hs : IsBlank s) (ht : IsBlank t) : IsBlank (s ++ t) := by
  intro l hl
  rcases List.mem_append.1 hl with hl | hl
  · exact hs l hl
  · exact ht l hl

theorem isBlank_takeWhile (s : Text) : IsBlank (s.takeWhile isBlank) :=
  fun _ hl => List.mem_takeWhile_imp hl

/-- What is left of a text without the white space at its head starts with something else. -/
theorem isBlank_head_dropWhile {s : Text} :
    ∀ l ∈ (s.dropWhile isBlank).head?, isBlank l = false := by
  intro l hl
  have := List.head?_dropWhile_not isBlank s
  rw [Option.mem_def.1 hl] at this
  simpa using this

/-- A text ends in the white space that is taken off its end. -/
theorem exists_trimEnd_append (s : Text) : ∃ b, IsBlank b ∧ s = trimEnd s ++ b := by
  refine ⟨(s.reverse.takeWhile isBlank).reverse, ?_, ?_⟩
  · intro l hl
    exact isBlank_takeWhile s.reverse l (List.mem_reverse.1 hl)
  · rw [trimEnd, ← List.reverse_append, List.takeWhile_append_dropWhile, List.reverse_reverse]

theorem isBlank_getLast_trimEnd {s : Text} : ∀ l ∈ (trimEnd s).getLast?, isBlank l = false := by
  intro l hl
  rw [trimEnd, List.getLast?_reverse] at hl
  exact isBlank_head_dropWhile l hl

/-- Nothing is left of white space, and of nothing else. -/
theorem trim_eq_nil_iff {s : Text} : trim s = [] ↔ IsBlank s := by
  constructor
  · intro h
    obtain ⟨b, hb, hs⟩ := exists_trimEnd_append (s.dropWhile isBlank)
    have hend : trimEnd (s.dropWhile isBlank) = [] := h
    rw [hend, List.nil_append] at hs
    rw [← List.takeWhile_append_dropWhile (p := isBlank) (l := s)]
    exact (isBlank_takeWhile s).append (hs ▸ hb)
  · intro h
    have hdrop : s.dropWhile isBlank = [] := List.dropWhile_eq_nil_iff.2 h
    rw [trim, hdrop]
    rfl

/-- Nothing is taken off a text that starts with something else than white space. -/
theorem dropWhile_isBlank_eq_self {s : Text} (h : ∀ l ∈ s.head?, isBlank l = false) :
    s.dropWhile isBlank = s := by
  cases s with
  | nil => rfl
  | cons l s => exact List.dropWhile_cons_of_neg (by simp [h l rfl])

/-- A text with something else than white space at both ends is not trimmed. -/
theorem trim_eq_self {s : Text} (hhead : ∀ l ∈ s.head?, isBlank l = false)
    (hlast : ∀ l ∈ s.getLast?, isBlank l = false) : trim s = s := by
  have hreverse : ∀ l ∈ s.reverse.head?, isBlank l = false := by rwa [List.head?_reverse]
  rw [trim, dropWhile_isBlank_eq_self hhead, trimEnd, dropWhile_isBlank_eq_self hreverse,
    List.reverse_reverse]

/-- A text that was trimmed starts with something else than white space. -/
theorem isBlank_head_trim {s : Text} : ∀ l ∈ (trim s).head?, isBlank l = false := by
  intro l hl
  obtain ⟨rest, hrest⟩ := List.head?_eq_some_iff.1 hl
  obtain ⟨b, -, hsplit⟩ := exists_trimEnd_append (s.dropWhile isBlank)
  have htrim : trimEnd (s.dropWhile isBlank) = l :: rest := hrest
  rw [htrim] at hsplit
  exact isBlank_head_dropWhile l (by rw [hsplit]; rfl)

/-- What has been trimmed stays as it is. -/
@[simp] theorem trim_trim (s : Text) : trim (trim s) = trim s :=
  trim_eq_self isBlank_head_trim isBlank_getLast_trimEnd

/-! ## Words -/

/-- Where white space meets anything else no word is cut. -/
theorem words_append_of_meeting {s t : Text}
    (h : ∀ a ∈ s.getLast?, ∀ b ∈ t.head?, isBlank a ≠ isBlank b) :
    words (s ++ t) = words s ++ words t := by
  rw [words, runs_append h, List.filter_append]
  rfl

theorem words_eq_nil_of_isBlank {s : Text} (h : IsBlank s) : words s = [] := by
  by_cases hs : s = []
  · rw [hs, words_nil]
  · rw [words, runs_of_isRun (.of_isBlank h hs)]
    simp [h.startsBlank hs]

theorem words_of_isSolid {s : Text} (hs : s ≠ []) (h : IsSolid s) : words s = [s] := by
  rw [words, runs_of_isRun (.of_isSolid h hs)]
  simp [h.startsBlank]

/-- A text without words is white space. -/
theorem isBlank_of_words_eq_nil {s : Text} (h : words s = []) : IsBlank s := by
  intro l hl
  rw [← flatten_runs s] at hl
  obtain ⟨r, hr, hl⟩ := List.mem_flatten.1 hl
  have hblank : startsBlank r = true := by
    simpa using List.filter_eq_nil_iff.1 h r hr
  exact (isRun_of_mem_runs hr).isBlank hblank l hl

/-- White space in front adds no words. -/
theorem words_append_of_isBlank {s : Text} (h : IsBlank s) (t : Text) :
    words (s ++ t) = words t := by
  have hcut := List.takeWhile_append_dropWhile (p := isBlank) (l := t)
  have hrest {b : Text} (hb : IsBlank b) :
      words (b ++ t.dropWhile isBlank) = words (t.dropWhile isBlank) := by
    rw [words_append_of_meeting, words_eq_nil_of_isBlank hb, List.nil_append]
    intro a ha c hc
    rw [hb a (List.mem_of_getLast? ha), isBlank_head_dropWhile c hc]
    decide
  -- White space at the head of the second text makes one run with the first.
  calc words (s ++ t) = words ((s ++ t.takeWhile isBlank) ++ t.dropWhile isBlank) := by
        rw [List.append_assoc, hcut]
    _ = words (t.takeWhile isBlank ++ t.dropWhile isBlank) := by
        rw [hrest (h.append (isBlank_takeWhile t)), hrest (isBlank_takeWhile t)]
    _ = words t := by rw [hcut]

/-- **The words of a text with another one behind it** that starts with white space. -/
theorem words_append (s : Text) {t : Text} (ht : t = [] ∨ startsBlank t = true) :
    words (s ++ t) = words s ++ words t := by
  have hmeet {u : Text} (hu : u = [] ∨ startsBlank u = true) :
      words (trimEnd s ++ u) = words (trimEnd s) ++ words u := by
    refine words_append_of_meeting ?_
    intro a ha c hc
    obtain ⟨v, rfl⟩ := List.head?_eq_some_iff.1 hc
    have hblank : isBlank c = true := by simpa [startsBlank] using hu
    rw [isBlank_getLast_trimEnd a ha, hblank]
    decide
  obtain ⟨b, hb, hs⟩ := exists_trimEnd_append s
  have hbt : b ++ t = [] ∨ startsBlank (b ++ t) = true := by
    by_cases hnil : b = []
    · simpa [hnil] using ht
    · exact .inr ((startsBlank_append hnil t).trans (hb.startsBlank hnil))
  have hb' : b = [] ∨ startsBlank b = true := by
    by_cases hnil : b = []
    · exact .inl hnil
    · exact .inr (hb.startsBlank hnil)
  calc words (s ++ t) = words (trimEnd s ++ (b ++ t)) := by rw [← List.append_assoc, ← hs]
    _ = words (trimEnd s) ++ words t := by rw [hmeet hbt, words_append_of_isBlank hb]
    _ = words (trimEnd s ++ b) ++ words t := by
        rw [hmeet hb', words_eq_nil_of_isBlank hb, List.append_nil]
    _ = words s ++ words t := by rw [← hs]

/-- What is trimmed away holds no word. -/
@[simp] theorem words_trim (s : Text) : words (trim s) = words s := by
  obtain ⟨b, hb, hend⟩ := exists_trimEnd_append (s.dropWhile isBlank)
  have hb' : b = [] ∨ startsBlank b = true := by
    by_cases hnil : b = []
    · exact .inl hnil
    · exact .inr (hb.startsBlank hnil)
  calc words (trim s) = words (trim s ++ b) := by
        rw [words_append _ hb', words_eq_nil_of_isBlank hb, List.append_nil]
    _ = words (s.dropWhile isBlank) := congrArg words hend.symm
    _ = words (s.takeWhile isBlank ++ s.dropWhile isBlank) :=
        (words_append_of_isBlank (isBlank_takeWhile s) _).symm
    _ = words s := by rw [List.takeWhile_append_dropWhile]

/-- A text with words starts, once trimmed, with the first of them; nothing else follows than
white space with the other words behind it. -/
theorem exists_trim_eq_append {s word : Text} {rest : List Text} (h : words s = word :: rest) :
    ∃ more, trim s = word ++ more ∧ (more = [] ∨ startsBlank more = true) ∧
      (more = [] ↔ rest = []) := by
  rw [← words_trim] at h
  have hne : runs (trim s) ≠ [] := by
    intro hnil
    rw [words, hnil] at h
    cases h
  obtain ⟨first, others, hruns⟩ := List.exists_cons_of_ne_nil hne
  have hall := areRuns_runs (trim s)
  have htrim := flatten_runs (trim s)
  rw [hruns] at hall htrim
  rw [List.flatten_cons] at htrim
  have hsolid : startsBlank first = false := by
    obtain ⟨l, t, rfl⟩ := List.exists_cons_of_ne_nil (hall.run first List.mem_cons_self).ne_nil
    exact isBlank_head_trim l (by rw [← htrim]; rfl)
  rw [words, hruns, List.filter_cons_of_pos (by simp [hsolid])] at h
  obtain ⟨rfl, hrest⟩ := List.cons.inj h
  have hothers : AreRuns others := hall.tail
  have hwords : words others.flatten = rest := by
    rw [words, runs_flatten hothers]
    exact hrest
  refine ⟨others.flatten, htrim.symm, ?_, ?_⟩
  · cases others with
    | nil => exact .inl rfl
    | cons r rs =>
      have hkind := (List.isChain_cons_cons.1 hall.alternate).1
      rw [hsolid] at hkind
      refine .inr ?_
      rw [List.flatten_cons, startsBlank_append (hothers.run r List.mem_cons_self).ne_nil]
      simpa using hkind.symm
  · constructor
    · intro hnil
      rw [← hwords, hnil, words_nil]
    · intro hnil
      by_contra hmore
      have hblank := isBlank_of_words_eq_nil (hwords.trans hnil)
      have hlast : (trim s).getLast? = some (others.flatten.getLast hmore) := by
        rw [← htrim, List.getLast?_append_of_ne_nil _ hmore, List.getLast?_eq_some_getLast hmore]
      have hsolidLast := isBlank_getLast_trimEnd _ hlast
      rw [hblank _ (List.getLast_mem hmore)] at hsolidLast
      cases hsolidLast

/-! ## What stands in words -/

/-- A word of a text stands in it. -/
theorem infix_of_mem_words {s word : Text} (h : word ∈ words s) : word <:+: s := by
  have hrun : word ∈ runs s := List.mem_of_mem_filter h
  have hin : word <:+: (runs s).flatten := List.infix_of_mem_flatten hrun
  rwa [flatten_runs] at hin

/-- What starts in a run and ends behind it has white space in it or ends in white space. -/
theorem AreRuns.not_isSolid_of_meeting {r : Text} {rs : List Text} (h : AreRuns (r :: rs))
    {before after : Text} (hbefore : before ≠ []) (hafter : after ≠ []) (hstart : before <:+ r)
    (hend : after <+: rs.flatten) : ¬IsSolid (before ++ after) := by
  intro hsolid
  obtain ⟨a, before, rfl⟩ := List.exists_cons_of_ne_nil hbefore
  obtain ⟨b, after, rfl⟩ := List.exists_cons_of_ne_nil hafter
  obtain ⟨rest, hrest⟩ := hend
  cases rs with
  | nil => cases hrest
  | cons r' rs =>
    have hr' := h.tail.run r' List.mem_cons_self
    obtain ⟨c, t, rfl⟩ := List.exists_cons_of_ne_nil hr'.ne_nil
    obtain rfl : b = c := (List.cons.inj hrest).1
    have hfirst := (h.run r List.mem_cons_self).uniform a (hstart.subset List.mem_cons_self)
    have hmeet := (List.isChain_cons_cons.1 h.alternate).1
    rw [← hfirst, hsolid a (by simp)] at hmeet
    exact hmeet (hsolid b (by simp)).symm

/-- A text without white space that stands in runs stands in one of them. -/
theorem AreRuns.exists_mem_infix_of_flatten {rs : List Text} (hrs : AreRuns rs) {t : Text} (ht : IsSolid t)
    (hne : t ≠ []) (h : t <:+: rs.flatten) : ∃ r ∈ rs, t <:+: r := by
  induction rs with
  | nil => exact absurd (List.infix_nil.1 h) hne
  | cons r rs ih =>
    have hlater (h : t <:+: rs.flatten) : ∃ r' ∈ r :: rs, t <:+: r' := by
      obtain ⟨r', hr', hin⟩ := ih hrs.tail h
      exact ⟨r', List.mem_cons_of_mem r hr', hin⟩
    rw [List.flatten_cons, List.infix_append_iff] at h
    rcases h with h | h | ⟨before, after, rfl, hstart, hend⟩
    · exact ⟨r, List.mem_cons_self, h⟩
    · exact hlater h
    · by_cases hbefore : before = []
      · subst hbefore
        exact hlater hend.isInfix
      · by_cases hafter : after = []
        · subst hafter
          exact ⟨r, List.mem_cons_self, by simpa using hstart.isInfix⟩
        · exact absurd ht (hrs.not_isSolid_of_meeting hbefore hafter hstart hend)

/-- **A text without white space stands in a text exactly if it stands in one of its words.** -/
theorem exists_mem_words_infix_iff {s t : Text} (ht : IsSolid t) (hne : t ≠ []) :
    (∃ word ∈ words s, t <:+: word) ↔ t <:+: s := by
  constructor
  · rintro ⟨word, hword, h⟩
    exact h.trans (infix_of_mem_words hword)
  · intro h
    rw [← flatten_runs s] at h
    obtain ⟨r, hr, hin⟩ := (areRuns_runs s).exists_mem_infix_of_flatten ht hne h
    refine ⟨r, List.mem_filter.2 ⟨hr, ?_⟩, hin⟩
    obtain ⟨l, t, rfl⟩ := List.exists_cons_of_ne_nil hne
    have hl := (isRun_of_mem_runs hr).uniform l (hin.subset List.mem_cons_self)
    simp [← hl, ht l List.mem_cons_self]

/-! ## Texts that are cut at a letter -/

theorem fst_cutAt (mark : Letter) (s : Text) : (cutAt mark s).1 = s.takeWhile (· ≠ mark) := by
  have hsplit := List.takeWhile_append_dropWhile (p := fun l => decide (l ≠ mark)) (l := s)
  rw [cutAt]
  split
  · next hdrop =>
    rw [hdrop, List.append_nil] at hsplit
    exact hsplit.symm
  · rfl

theorem cutAt_append {mark : Letter} {s : Text} (h : mark ∉ s) (rest : Text) :
    cutAt mark (s ++ mark :: rest) = (s, some rest) := by
  have hs : ∀ l ∈ s, decide (l ≠ mark) = true := by
    intro l hl
    simpa using fun (heq : l = mark) => h (heq ▸ hl)
  have hdrop : (s ++ mark :: rest).dropWhile (· ≠ mark) = mark :: rest := by
    rw [List.dropWhile_append_of_pos hs]
    simp
  rw [cutAt, hdrop]
  dsimp only
  rw [List.takeWhile_append_of_pos hs]
  simp

/-- The two parts of a text that is cut, with the letter between them. -/
theorem eq_of_cutAt {mark : Letter} {s start rest : Text}
    (h : cutAt mark s = (start, some rest)) : s = start ++ mark :: rest := by
  have hsplit := List.takeWhile_append_dropWhile (p := fun l => decide (l ≠ mark)) (l := s)
  rw [cutAt] at h
  split at h
  · cases h
  · next l rest' hdrop =>
    have hl := List.head?_dropWhile_not (fun l => decide (l ≠ mark)) s
    rw [hdrop] at hsplit hl
    cases h
    have hmark : l = mark := by simpa using hl
    rw [hmark] at hsplit
    exact hsplit.symm

end CommandAdvisor.Text
