import CommandAdvisor.Command.Lexer
import CommandAdvisor.Proofs.Text.Runs

/-!
# The segmentation of a command line

The texts of the tokens of a line follow a grammar of their own, and every list of texts
that follows it is the segmentation of what it makes up. Nothing is lost on either way.

## Main definitions
* `IsPlain`, `IsSpan` and `IsOpen`: the three kinds of pieces that are not white space.
* `Segmented`: the lists of texts that follow the grammar.

## Main statements
* `segmented_letters`: the pieces of a line follow the grammar.
* `letters_ofLine_flatten`: a list that follows the grammar is found again.
* `tokenize_lossless` and `tokenize_segmentation`: the same of tokens.
-/
namespace CommandAdvisor.Command

open Text (IsBlank IsSolid IsRun AreRuns startsBlank isBlank runs words)

/-! ## The grammar -/

/-- A word that opens no quote, or closes the quote that it opens. -/
def IsPlain (t : Text) : Prop :=
  IsSolid t ∧ ∀ q s, t = q :: s → isQuote q = true → q ∈ s

/-- A quoted span of several words. Its quote stands at its head, nowhere else before the
last word, and in the last word. -/
def IsSpan (t : Text) : Prop :=
  ∃ q w interior last, isQuote q = true ∧ t.head? = some q ∧ (∃ l ∈ t, isBlank l = true) ∧
    (∃ l, t.getLast? = some l ∧ isBlank l = false) ∧
    words t = (q :: w) :: interior ++ [last] ∧
    q ∉ w ∧ (∀ v ∈ interior, q ∉ v) ∧ q ∈ last

/-- A quoted span that is never closed. -/
def IsOpen (t : Text) : Prop := ∃ q s, t = q :: s ∧ isQuote q = true ∧ q ∉ s

/-- What may stand before the texts `after`. -/
def IsElement (t : Text) (after : List Text) : Prop :=
  IsBlank t ∨ IsPlain t ∨ IsSpan t ∨ IsOpen t ∧ after = []

/-- Lists of texts that follow the grammar of segmentations. -/
structure Segmented (ts : List Text) : Prop where
  ne_nil : ∀ t ∈ ts, t ≠ []
  alternate : ts.IsChain fun a b => IsBlank a ↔ ¬IsBlank b
  element : ∀ before t after, ts = before ++ t :: after → IsElement t after

theorem isBlank_of_isQuote {q : Letter} (h : isQuote q = true) : isBlank q = false := by
  simp only [isQuote, Bool.or_eq_true, decide_eq_true_eq] at h
  rcases h with rfl | rfl <;> decide

theorem segmented_nil : Segmented [] :=
  ⟨by simp, List.isChain_nil, by simp⟩

theorem segmented_cons {t : Text} {ts : List Text} :
    Segmented (t :: ts) ↔ t ≠ [] ∧ (∀ u ∈ ts.head?, (IsBlank t ↔ ¬IsBlank u)) ∧
      IsElement t ts ∧ Segmented ts := by
  constructor
  · rintro ⟨hne, halt, hel⟩
    rw [List.isChain_cons] at halt
    refine ⟨hne t List.mem_cons_self, halt.1, hel [] t ts rfl, ?_, halt.2, ?_⟩
    · exact fun u hu => hne u (List.mem_cons_of_mem t hu)
    · rintro before u after rfl
      exact hel (t :: before) u after rfl
  · rintro ⟨hne, halt, hel, h⟩
    refine ⟨?_, List.isChain_cons.2 ⟨halt, h.alternate⟩, ?_⟩
    · intro u hu
      rcases List.mem_cons.1 hu with rfl | hu
      · exact hne
      · exact h.ne_nil u hu
    · intro before u after heq
      cases before with
      | nil =>
        obtain ⟨rfl, rfl⟩ := List.cons.inj heq
        exact hel
      | cons b before =>
        exact h.element before u after (List.cons.inj heq).2

/-- The head of an element tells whether it is white space. -/
theorem IsElement.startsBlank_iff {t : Text} {after : List Text} (h : IsElement t after)
    (ht : t ≠ []) : startsBlank t = true ↔ IsBlank t := by
  have hne : startsBlank t = false → (startsBlank t = true ↔ IsBlank t) := fun hs =>
    ⟨fun hb => absurd hb (by simp [hs]), fun hb => hb.startsBlank ht⟩
  rcases h with h | h | ⟨q, w, interior, last, hq, hhead, _⟩ | ⟨⟨q, s, rfl, hq, _⟩, _⟩
  · exact ⟨fun _ => h, fun _ => h.startsBlank ht⟩
  · exact hne h.1.startsBlank
  · obtain ⟨l, s, rfl⟩ := List.exists_cons_of_ne_nil ht
    obtain rfl : l = q := by simpa using hhead
    exact hne (isBlank_of_isQuote hq)
  · exact hne (isBlank_of_isQuote hq)

/-- The end of an element with something behind it tells the same. -/
theorem IsElement.getLast_iff {t u : Text} {us : List Text} (h : IsElement t (u :: us))
    {l : Letter} (hl : t.getLast? = some l) : isBlank l = true ↔ IsBlank t := by
  have hmem : l ∈ t := List.mem_of_getLast? hl
  have hne : isBlank l = false → (isBlank l = true ↔ IsBlank t) := fun hs =>
    ⟨fun hb => absurd hb (by simp [hs]), fun hb => hb l hmem⟩
  rcases h with h | h | ⟨q, w, interior, last, _, _, _, ⟨m, hm, hs⟩, _⟩ | ⟨_, h⟩
  · exact ⟨fun _ => h, fun _ => h l hmem⟩
  · exact hne (h.1 l hmem)
  · obtain rfl : l = m := by simpa [hl] using hm
    exact hne hs
  · exact absurd h (by simp)

/-! ## The pieces of a line follow the grammar -/

namespace Piece

/-- A span part way through: its quote stands at the head of its first run only. -/
structure IsPending (q : Letter) (soFar : List Text) : Prop where
  quote : isQuote q = true
  runs : ∃ w interior, soFar.reverse = (q :: w) :: interior ∧ q ∉ w ∧ ∀ m ∈ interior, q ∉ m

/-- What holds of a pending span and the runs that are still to come. -/
def Ready : Option (Letter × List Text) → List Text → Prop
  | none, rs => AreRuns rs
  | some (q, soFar), rs => IsPending q soFar ∧ AreRuns (soFar.reverse ++ rs)

theorem openedQuote?_eq_some_iff {t : Text} {q : Letter} :
    openedQuote? t = some q ↔ ∃ s, t = q :: s ∧ isQuote q = true ∧ q ∉ s := by
  cases t with
  | nil => simp [openedQuote?]
  | cons l s =>
    simp only [openedQuote?, Option.ite_none_right_eq_some, Option.some.injEq,
      Bool.and_eq_true, Bool.not_eq_true', List.contains_eq_mem, decide_eq_false_iff_not]
    constructor
    · rintro ⟨h, rfl⟩
      exact ⟨s, rfl, h⟩
    · rintro ⟨_, heq, h⟩
      obtain ⟨rfl, rfl⟩ := List.cons.inj heq
      exact ⟨h, rfl⟩

theorem isPlain_of_openedQuote? {t : Text} (ht : IsSolid t) (h : openedQuote? t = none) :
    IsPlain t := by
  refine ⟨ht, ?_⟩
  rintro q s rfl hq
  by_contra hs
  have : openedQuote? (q :: s) = some q := openedQuote?_eq_some_iff.2 ⟨s, rfl, hq, hs⟩
  rw [h] at this
  cases this

namespace IsPending

variable {q : Letter} {soFar : List Text}

theorem of_openedQuote? {t : Text} (h : openedQuote? t = some q) : IsPending q [t] := by
  obtain ⟨s, rfl, hq, hs⟩ := openedQuote?_eq_some_iff.1 h
  exact ⟨hq, s, [], rfl, hs, by simp⟩

theorem cons (h : IsPending q soFar) {run : Text} (hrun : q ∉ run) :
    IsPending q (run :: soFar) := by
  obtain ⟨w, interior, heq, hw, hint⟩ := h.runs
  refine ⟨h.quote, w, interior ++ [run], by simp [heq], hw, ?_⟩
  intro m hm
  rcases List.mem_append.1 hm with hm | hm
  · exact hint m hm
  · rwa [List.mem_singleton.1 hm]

theorem joined_eq (h : IsPending q soFar) : ∃ s, joined soFar = q :: s ∧ q ∉ s := by
  obtain ⟨w, interior, heq, hw, hint⟩ := h.runs
  refine ⟨w ++ interior.flatten, by simp [joined, heq], ?_⟩
  rw [List.mem_append, List.mem_flatten]
  rintro (hq | ⟨m, hm, hq⟩)
  · exact hw hq
  · exact hint m hm hq

/-- A pending span that nothing closes is open. -/
theorem isOpen (h : IsPending q soFar) : IsOpen (joined soFar) := by
  obtain ⟨s, heq, hs⟩ := h.joined_eq
  exact ⟨q, s, heq, h.quote, hs⟩

/-- A run that holds the quote closes a pending span. -/
theorem isSpan (h : IsPending q soFar) {run : Text} (hruns : AreRuns (soFar.reverse ++ [run]))
    (hrun : q ∈ run) : IsSpan (joined (run :: soFar)) := by
  obtain ⟨w, interior, heq, hw, hint⟩ := h.runs
  rw [heq, List.cons_append] at hruns
  have hq : isBlank q = false := isBlank_of_isQuote h.quote
  have htext : joined (run :: soFar) = ((q :: w) :: (interior ++ [run])).flatten := by
    simp [joined, heq]
  have hfirst : startsBlank (q :: w) = false := hq
  have hlast : startsBlank run = false :=
    ((hruns.run run (by simp)).uniform q hrun).symm.trans hq
  -- The second run is white space, so it is neither the first nor the last.
  have hblank : ∃ m ∈ interior, startsBlank m = true := by
    have halt := hruns.alternate
    cases interior with
    | nil =>
      rw [List.nil_append, List.isChain_pair] at halt
      exact absurd (hfirst.trans hlast.symm) halt
    | cons m interior =>
      rw [List.cons_append, List.isChain_cons_cons] at halt
      refine ⟨m, List.mem_cons_self, ?_⟩
      have := halt.1
      rw [hfirst] at this
      simpa using this.symm
  refine ⟨q, w, interior.filter fun r => !startsBlank r, run, h.quote, by simp [htext], ?_, ?_,
    ?_, hw, ?_, hrun⟩
  · obtain ⟨m, hm, hblank⟩ := hblank
    have hr : IsRun m := hruns.run m (by simp [hm])
    obtain ⟨l, hl⟩ := List.exists_mem_of_ne_nil m hr.ne_nil
    refine ⟨l, ?_, hr.isBlank hblank l hl⟩
    rw [htext]
    exact List.mem_flatten.2 ⟨m, by simp [hm], hl⟩
  · have hr : IsRun run := hruns.run run (by simp)
    refine ⟨run.getLast hr.ne_nil, ?_, hr.isSolid hlast _ (List.getLast_mem hr.ne_nil)⟩
    rw [joined_cons, List.getLast?_append_of_ne_nil _ hr.ne_nil]
    exact List.getLast?_eq_some_getLast hr.ne_nil
  · rw [words, htext, Text.runs_flatten hruns]
    simp [hfirst, hlast]
  · exact fun v hv => hint v (List.mem_of_mem_filter hv)

end IsPending

/-- A pending span stays at the head of what is gathered. -/
theorem head?_gather_some (q : Letter) (soFar rs : List Text) :
    ∃ s, ((gather (some (q, soFar)) rs).map letters).head? = some (joined soFar ++ s) := by
  induction rs generalizing soFar with
  | nil => exact ⟨[], by simp [gather, letters]⟩
  | cons run rest ih =>
    rw [gather]
    split
    · exact ⟨run, by simp [letters]⟩
    · obtain ⟨s, hs⟩ := ih (run :: soFar)
      exact ⟨run ++ s, by simpa using hs⟩

/-- The first piece starts as the first run does. -/
theorem startsBlank_head_gather {rs : List Text} (h : AreRuns rs) :
    ∀ u ∈ ((gather none rs).map letters).head?, ∃ r ∈ rs.head?, startsBlank u = startsBlank r := by
  cases rs with
  | nil => simp [gather]
  | cons run rest =>
    have hne : run ≠ [] := (h.run run List.mem_cons_self).ne_nil
    intro u hu
    refine ⟨run, rfl, ?_⟩
    rw [gather] at hu
    split at hu
    · obtain rfl : run = u := by simpa [letters] using hu
      rfl
    · split at hu
      · next q _ =>
        obtain ⟨s, hs⟩ := head?_gather_some q [run] rest
        obtain rfl : run ++ s = u := by simpa [hs] using hu
        exact Text.startsBlank_append hne s
      · obtain rfl : run = u := by simpa [letters] using hu
        rfl

/-- A finished piece may stand in front of the pieces of the runs behind its last one. -/
theorem segmented_cons_gather {t run : Text} {rest : List Text} (ht : t ≠ [])
    (hel : ∀ after, IsElement t after) (hkind : startsBlank t = startsBlank run)
    (hruns : AreRuns (run :: rest)) (h : Segmented ((gather none rest).map letters)) :
    Segmented (t :: (gather none rest).map letters) := by
  have hsplit := List.isChain_cons.1 hruns.alternate
  have hrest : AreRuns rest :=
    ⟨fun r hr => hruns.run r (List.mem_cons_of_mem run hr), hsplit.2⟩
  refine segmented_cons.2 ⟨ht, ?_, hel _, h⟩
  intro u hu
  obtain ⟨r, hr, hur⟩ := startsBlank_head_gather hrest u hu
  have hne : startsBlank t ≠ startsBlank u := by
    rw [hkind, hur]
    exact hsplit.1 r hr
  obtain ⟨us, hus⟩ : ∃ us, (gather none rest).map letters = u :: us :=
    List.head?_eq_some_iff.1 hu
  rw [hus, segmented_cons] at h
  rw [← (hel []).startsBlank_iff ht, ← h.2.2.1.startsBlank_iff h.1, Bool.eq_not.2 hne]
  simp

/-- The pieces of runs follow the grammar. -/
theorem segmented_gather (pending : Option (Letter × List Text)) (rs : List Text)
    (h : Ready pending rs) : Segmented ((gather pending rs).map letters) := by
  have htail {run : Text} {rest : List Text} (hr : AreRuns (run :: rest)) : AreRuns rest :=
    ⟨fun r hm => hr.run r (List.mem_cons_of_mem run hm), hr.alternate.tail⟩
  fun_induction gather pending rs with
  | case1 => exact segmented_nil
  | case2 q soFar =>
    obtain ⟨s, heq, _⟩ := h.1.joined_eq
    exact segmented_cons.2 ⟨by simp [letters, heq], by simp,
      .inr (.inr (.inr ⟨h.1.isOpen, rfl⟩)), segmented_nil⟩
  | case3 q soFar run rest hrun ih =>
    obtain ⟨hpending, hruns⟩ := h
    have hq : q ∈ run := List.contains_iff_mem.1 hrun
    obtain ⟨s, heq, _⟩ := hpending.joined_eq
    have hstart : AreRuns (soFar.reverse ++ [run]) := by
      refine ⟨fun r hr => hruns.run r ?_, ?_⟩
      · simp only [List.mem_append, List.mem_singleton] at hr
        simp only [List.mem_append, List.mem_cons]
        exact hr.imp_right .inl
      · have := hruns.alternate
        rw [← List.singleton_append, ← List.append_assoc] at this
        exact this.left_of_append
    have hend : AreRuns (run :: rest) :=
      ⟨fun r hr => hruns.run r (List.mem_append_right _ hr), hruns.alternate.right_of_append⟩
    have hspan := hpending.isSpan hstart hq
    have hkind : startsBlank (joined (run :: soFar)) = startsBlank run := by
      have hr := (hend.run run List.mem_cons_self).uniform q hq
      rw [← hr, joined_cons, heq]
      rfl
    exact segmented_cons_gather (by simp [letters, heq]) (fun _ => .inr (.inr (.inl hspan)))
      hkind hend (ih (htail hend))
  | case4 q soFar run rest hrun ih =>
    obtain ⟨hpending, hruns⟩ := h
    have hq : q ∉ run := fun hm => hrun (List.contains_iff_mem.2 hm)
    exact ih ⟨hpending.cons hq, by simpa using hruns⟩
  | case5 run rest hblank ih =>
    have hrun := h.run run List.mem_cons_self
    exact segmented_cons_gather hrun.ne_nil (fun _ => .inl (hrun.isBlank hblank)) rfl h
      (ih (htail h))
  | case6 run rest hsolid q hq ih =>
    exact ih ⟨.of_openedQuote? hq, h⟩
  | case7 run rest hsolid hq ih =>
    have hrun := h.run run List.mem_cons_self
    have hplain := isPlain_of_openedQuote? (hrun.isSolid (by simpa using hsolid)) hq
    exact segmented_cons_gather hrun.ne_nil (fun _ => .inr (.inl hplain)) rfl h (ih (htail h))

/-- The letters of the pieces of a line are the line. -/
theorem flatten_letters_ofLine (line : Text) : ((ofLine line).map letters).flatten = line := by
  rw [← List.flatMap_def, ofLine, flatMap_letters_gather]
  simp

/-- The pieces of a line follow the grammar. -/
theorem segmented_letters (line : Text) : Segmented ((ofLine line).map letters) :=
  segmented_gather none (runs line) (Text.areRuns_runs line)

/-! ## Every list that follows the grammar is found again -/

/-- Runs without the quote are taken into a pending span. -/
theorem gather_append_of_notMem {q : Letter} {interior : List Text}
    (h : ∀ m ∈ interior, q ∉ m) (soFar rs : List Text) :
    gather (some (q, soFar)) (interior ++ rs) =
      gather (some (q, interior.reverse ++ soFar)) rs := by
  induction interior generalizing soFar with
  | nil => rfl
  | cons m interior ih =>
    have hm : q ∉ m := h m List.mem_cons_self
    rw [List.cons_append, gather, if_neg (by simpa using hm),
      ih fun m' hm' => h m' (List.mem_cons_of_mem m hm')]
    simp

theorem gather_blank {t : Text} (ht : t ≠ []) (h : IsBlank t) (rs : List Text) :
    gather none (runs t ++ rs) = .blank t :: gather none rs := by
  rw [Text.runs_of_isRun (.of_isBlank h ht), List.singleton_append, gather,
    if_pos (h.startsBlank ht)]

theorem gather_plain {t : Text} (ht : t ≠ []) (h : IsPlain t) (rs : List Text) :
    gather none (runs t ++ rs) = .word t :: gather none rs := by
  have hquote : openedQuote? t = none := by
    rw [Option.eq_none_iff_forall_not_mem]
    intro q hq
    obtain ⟨s, rfl, hq, hs⟩ := openedQuote?_eq_some_iff.1 hq
    exact hs (h.2 q s rfl hq)
  rw [Text.runs_of_isRun (.of_isSolid h.1 ht), List.singleton_append, gather,
    if_neg (by simp [h.1.startsBlank]), hquote]

theorem gather_opening {q : Letter} {w : Text} (hq : isQuote q = true) (hw : q ∉ w)
    (rs : List Text) :
    gather none ((q :: w) :: rs) = gather (some (q, [q :: w])) rs := by
  have hsolid : startsBlank (q :: w) = false := isBlank_of_isQuote hq
  rw [gather, if_neg (by simp [hsolid]), openedQuote?_eq_some_iff.2 ⟨w, rfl, hq, hw⟩]

/-- The runs of a text with a quote at its head: the first one starts with it too. -/
theorem runs_of_isQuote {q : Letter} (hq : isQuote q = true) (s : Text) :
    ∃ w rest, runs (q :: s) = (q :: w) :: rest ∧ startsBlank (q :: w) = false ∧
      s = w ++ rest.flatten := by
  have hne : runs (q :: s) ≠ [] := fun h => absurd (Text.runs_eq_nil_iff.1 h) (by simp)
  obtain ⟨r, rest, hr⟩ := List.exists_cons_of_ne_nil hne
  obtain ⟨l, w, rfl⟩ :=
    List.exists_cons_of_ne_nil ((Text.areRuns_runs (q :: s)).run r (by simp [hr])).ne_nil
  have hflat := Text.flatten_runs (q :: s)
  rw [hr, List.flatten_cons, List.cons_append] at hflat
  obtain ⟨rfl, hs⟩ := List.cons.inj hflat
  exact ⟨w, rest, hr, isBlank_of_isQuote hq, hs.symm⟩

theorem gather_open {t : Text} (h : IsOpen t) : ∃ q, gather none (runs t) = [.unclosed q t] := by
  obtain ⟨q, s, rfl, hq, hs⟩ := h
  obtain ⟨w, rest, hruns, _, rfl⟩ := runs_of_isQuote hq s
  rw [List.mem_append, not_or] at hs
  have hrest : ∀ m ∈ rest, q ∉ m := fun m hm hqm => hs.2 (List.mem_flatten.2 ⟨m, hm, hqm⟩)
  refine ⟨q, ?_⟩
  rw [hruns, gather_opening hq hs.1]
  have := gather_append_of_notMem hrest [q :: w] []
  rw [List.append_nil] at this
  simp [this, gather, joined]

/-- The runs of a span: the quote is in the first and in the last of them only. -/
theorem IsSpan.runs_eq {t : Text} (h : IsSpan t) :
    ∃ q w interior last, runs t = (q :: w) :: interior ++ [last] ∧ isQuote q = true ∧
      q ∉ w ∧ (∀ m ∈ interior, q ∉ m) ∧ q ∈ last := by
  obtain ⟨q, w, inner, last, hq, hhead, _, ⟨l, hl, hsolid⟩, hwords, hw, hinner, hlast⟩ := h
  obtain ⟨s, rfl⟩ : ∃ s, t = q :: s := List.head?_eq_some_iff.1 hhead
  obtain ⟨w', rest, hruns, hfirst, hs⟩ := runs_of_isQuote hq s
  have hall : ∀ r ∈ rest, IsRun r := fun r hr =>
    Text.isRun_of_mem_runs (by rw [hruns]; exact List.mem_cons_of_mem _ hr)
  rw [words, hruns, List.filter_cons_of_pos (by simp [hfirst]), List.cons_append] at hwords
  obtain ⟨hhead', htail⟩ := List.cons.inj hwords
  obtain rfl : w' = w := (List.cons.inj hhead').2
  -- The last run holds the last letter, so it is a word.
  obtain ⟨interior, z, rfl⟩ : ∃ interior z, rest = interior ++ [z] := by
    rcases List.eq_nil_or_concat rest with rfl | ⟨interior, z, h⟩
    · simp at htail
    · exact ⟨interior, z, by simpa using h⟩
  have hz : IsRun z := hall z (by simp)
  have hzl : l ∈ z := by
    have htext : q :: s = (q :: (w' ++ interior.flatten)) ++ z := by simp [hs]
    rw [htext, List.getLast?_append_of_ne_nil _ hz.ne_nil] at hl
    exact List.mem_of_getLast? hl
  have hzsolid : startsBlank z = false := (hz.uniform l hzl).symm.trans hsolid
  rw [List.filter_append, List.filter_cons_of_pos (by simp [hzsolid]), List.filter_nil] at htail
  obtain ⟨hinterior, hlastz⟩ := List.append_inj' htail rfl
  obtain rfl : z = last := by simpa using hlastz
  refine ⟨q, w', interior, z, by simp [hruns], hq, hw, ?_, hlast⟩
  intro m hm hqm
  have hrun : IsRun m := hall m (by simp [hm])
  have hmsolid : startsBlank m = false :=
    (hrun.uniform q hqm).symm.trans (isBlank_of_isQuote hq)
  refine hinner m ?_ hqm
  rw [← hinterior]
  exact List.mem_filter.2 ⟨hm, by simp [hmsolid]⟩

theorem gather_span {t : Text} (h : IsSpan t) (rs : List Text) :
    gather none (runs t ++ rs) = .span t :: gather none rs := by
  obtain ⟨q, w, interior, last, hruns, hq, hw, hinterior, hlast⟩ := IsSpan.runs_eq h
  have htext : joined (last :: (interior.reverse ++ [q :: w])) = t := by
    rw [← Text.flatten_runs t, hruns]
    simp [joined]
  rw [hruns, List.append_assoc, List.cons_append, gather_opening hq hw,
    gather_append_of_notMem hinterior, List.singleton_append, gather,
    if_pos (List.contains_iff_mem.2 hlast), htext]

/-- Texts that follow the grammar meet where runs end. -/
theorem runs_append_of_segmented {t : Text} {ts : List Text} (h : Segmented (t :: ts)) :
    runs (t ++ ts.flatten) = runs t ++ runs ts.flatten := by
  cases ts with
  | nil => simp
  | cons u us =>
    obtain ⟨ht, halt, hel, h⟩ := segmented_cons.1 h
    obtain ⟨hu, _, hel', _⟩ := segmented_cons.1 h
    refine Text.runs_append ?_
    intro a ha b hb
    obtain ⟨l, s, rfl⟩ := List.exists_cons_of_ne_nil hu
    obtain rfl : l = b := by simpa using hb
    have hlast := hel.getLast_iff ha
    have hhead : isBlank l = true ↔ IsBlank (l :: s) := hel'.startsBlank_iff hu
    intro hab
    rw [hab, hhead, halt (l :: s) rfl] at hlast
    exact (not_iff_self hlast.symm).elim

/-- A piece is what an element of the grammar is found as. -/
inductive Fits (t : Text) : Piece → Prop where
  | blank (h : IsBlank t) : Fits t (.blank t)
  | word (h : IsPlain t) : Fits t (.word t)
  | span (h : IsSpan t) : Fits t (.span t)
  | unclosed (q : Letter) (h : IsOpen t) : Fits t (.unclosed q t)

theorem Fits.letters_eq {t : Text} {piece : Piece} (h : Fits t piece) : piece.letters = t := by
  cases h <;> rfl

/-- The first of texts that follow the grammar is found as a piece of its own. -/
theorem exists_ofLine_flatten_cons {t : Text} {ts : List Text} (h : Segmented (t :: ts)) :
    ∃ piece, Fits t piece ∧ ofLine (t :: ts).flatten = piece :: ofLine ts.flatten := by
  obtain ⟨ht, _, hel, -⟩ := segmented_cons.1 h
  rw [ofLine, List.flatten_cons, runs_append_of_segmented h]
  rcases hel with hel | hel | hel | ⟨hel, rfl⟩
  · exact ⟨.blank t, .blank hel, gather_blank ht hel _⟩
  · exact ⟨.word t, .word hel, gather_plain ht hel _⟩
  · exact ⟨.span t, .span hel, gather_span hel _⟩
  · obtain ⟨q, hq⟩ := gather_open hel
    exact ⟨.unclosed q t, .unclosed q hel, by simp [hq, ofLine, gather]⟩

/-- The pieces of what texts that follow the grammar make up are these texts. -/
theorem letters_ofLine_flatten {ts : List Text} (h : Segmented ts) :
    (ofLine ts.flatten).map letters = ts := by
  induction ts with
  | nil => rfl
  | cons t ts ih =>
    obtain ⟨piece, hfits, hline⟩ := exists_ofLine_flatten_cons h
    rw [hline, List.map_cons, hfits.letters_eq, ih (segmented_cons.1 h).2.2.2]

end Piece

/-! ## Tokens -/

/-- Tokens are told by their texts where nothing but the cut matters. -/
theorem map_text_classify (known : List Text) (atStart : Bool) (pieces : List Piece) :
    (classify known atStart pieces).map Token.text = pieces.map Piece.letters := by
  induction pieces generalizing atStart with
  | nil => rfl
  | cons piece rest ih => cases piece <;> simp [classify, ih, Piece.letters]

theorem map_text_tokenize (known : List Text) (line : Text) :
    (tokenize known line).map Token.text = (Piece.ofLine line).map Piece.letters :=
  map_text_classify known true _

theorem join_eq_flatten (tokens : List Token) :
    Token.join tokens = (tokens.map Token.text).flatten := by
  rw [Token.join, List.flatMap_def]

theorem join_tokenize (known : List Text) (line : Text) :
    Token.join (tokenize known line) = line := by
  rw [join_eq_flatten, map_text_tokenize, Piece.flatten_letters_ofLine]

/-- Cutting a line into tokens loses nothing, and no token is empty. -/
theorem tokenize_lossless (known : List Text) (line : Text) :
    Token.join (tokenize known line) = line ∧ (∀ t ∈ tokenize known line, t.text ≠ []) ∧
      (tokenize known line = [] ↔ line = []) := by
  refine ⟨join_tokenize known line, ?_, ?_⟩
  · intro t ht
    have hseg := Piece.segmented_letters line
    rw [← map_text_tokenize known] at hseg
    exact hseg.ne_nil t.text (List.mem_map_of_mem ht)
  · constructor
    · intro h
      rw [← join_tokenize known line, h, Token.join_nil]
    · rintro rfl
      exact tokenize_empty known

/-- The texts of the tokens of a line follow the grammar of segmentations, and a list that
follows it is the list of these texts for the line that it makes up. -/
theorem tokenize_segmentation (known : List Text) :
    (∀ line, Segmented ((tokenize known line).map Token.text)) ∧
      ∀ ts, Segmented ts → (tokenize known ts.flatten).map Token.text = ts := by
  constructor
  · intro line
    rw [map_text_tokenize]
    exact Piece.segmented_letters line
  · intro ts h
    rw [map_text_tokenize, Piece.letters_ofLine_flatten h]

/-- A span, white space and an open quote. -/
theorem tokenize_segmentation_span_open :
    Segmented ["'a \" b'", "\t", "\"c "] ∧
      (tokenize knownCommands "'a \" b'\t\"c ").map Token.text =
        ["'a \" b'", "\t", "\"c "] := by
  have hspan : IsSpan "'a \" b'" :=
    ⟨'\'', ['a'], ["\""], "b'", by decide, by decide, ⟨' ', by decide, by decide⟩,
      ⟨'\'', by decide, by decide⟩, by decide, by decide, by decide, by decide⟩
  have hopen : IsOpen "\"c " := ⟨'"', ['c', ' '], by decide, by decide, by decide⟩
  have h : Segmented ["'a \" b'", "\t", "\"c "] := by
    refine segmented_cons.2 ⟨by decide, ?_, .inr (.inr (.inl hspan)), ?_⟩
    · rintro _ ⟨⟩
      decide
    refine segmented_cons.2 ⟨by decide, ?_, .inl (by decide), ?_⟩
    · rintro _ ⟨⟩
      decide
    exact segmented_cons.2 ⟨by decide, by simp, .inr (.inr (.inr ⟨hopen, rfl⟩)), segmented_nil⟩
  exact ⟨h, (tokenize_segmentation knownCommands).2 _ h⟩

end CommandAdvisor.Command
