import CommandAdvisor.Proofs.Command.Segmentation

/-!
# Stages of a pipeline

A separator with white space around it cuts a command line in two. If the part in front leaves
no quote open, both parts are cut into tokens as if the other one were not there: nothing that
is carried along while a line is cut gets past the separator.

## Main definitions
* `EndsClosed`: pieces of which the last one leaves no quote open.

## Main statements
* `Piece.gather_append`: runs behind a closed end are gathered afresh.
* `exists_classify_append`: the kinds of some pieces do not depend on what comes behind them.
* `tokenize_stages`: the tokens of two stages with a separator between them.
-/
namespace CommandAdvisor.Command

open Text (IsBlank isBlank runs)

/-! ## Pieces -/

namespace Piece

/-- No quote is open behind some pieces. -/
def EndsClosed (pieces : List Piece) : Prop := ∀ q cs, pieces.getLast? ≠ some (.unclosed q cs)

theorem EndsClosed.of_cons {piece : Piece} {pieces : List Piece}
    (h : EndsClosed (piece :: pieces)) : EndsClosed pieces := by
  intro q cs hlast
  refine h q cs ?_
  rw [List.getLast?_cons, hlast]
  rfl

/-- Runs behind a closed end are gathered as if there were nothing in front of them. -/
theorem gather_append (pending : Option (Letter × List Text)) (rs rs' : List Text)
    (h : EndsClosed (gather pending rs)) :
    gather pending (rs ++ rs') = gather pending rs ++ gather none rs' := by
  fun_induction gather pending rs with
  | case1 => rfl
  | case2 q soFar => exact absurd rfl (h q (joined soFar))
  | case3 q soFar run rest hrun ih =>
    rw [List.cons_append, gather, if_pos hrun, ih h.of_cons, List.cons_append]
  | case4 q soFar run rest hrun ih => rw [List.cons_append, gather, if_neg hrun, ih h]
  | case5 run rest hblank ih =>
    rw [List.cons_append, gather, if_pos hblank, ih h.of_cons, List.cons_append]
  | case6 run rest hsolid q hq ih =>
    rw [List.cons_append, gather, if_neg hsolid, hq]
    exact ih h
  | case7 run rest hsolid hq ih =>
    rw [List.cons_append, gather, if_neg hsolid, hq]
    dsimp only
    rw [ih h.of_cons, List.cons_append]

/-- White space and other letters meet where one text ends and the other starts. -/
theorem isBlank_ne_of_meet {s t : Text} {blank : Bool} (hs : ∀ l ∈ s.getLast?, isBlank l = blank)
    (ht : ∀ l ∈ t.head?, isBlank l = !blank) :
    ∀ l ∈ s.getLast?, ∀ m ∈ t.head?, isBlank l ≠ isBlank m := by
  intro l hl m hm
  rw [hs l hl, ht m hm]
  cases blank <;> decide

/-- Where white space follows a closed end, the rest is cut as if it stood alone. -/
theorem ofLine_append {a rest : Text} (hclosed : EndsClosed (ofLine a))
    (ha : ∀ l ∈ a.getLast?, isBlank l = false) (hrest : ∀ l ∈ rest.head?, isBlank l = true) :
    ofLine (a ++ rest) = ofLine a ++ ofLine rest := by
  rw [ofLine, Text.runs_append (isBlank_ne_of_meet ha hrest), gather_append none _ _ hclosed]
  rfl

/-- White space in front of anything else is a piece of its own. -/
theorem ofLine_blank_append {w rest : Text} (hw : IsBlank w) (hne : w ≠ [])
    (hrest : ∀ l ∈ rest.head?, isBlank l = false) :
    ofLine (w ++ rest) = .blank w :: ofLine rest := by
  have hlast : ∀ l ∈ w.getLast?, isBlank l = true := fun l hl => hw l (List.mem_of_getLast? hl)
  rw [ofLine, Text.runs_append (isBlank_ne_of_meet hlast hrest), gather_blank hne hw]
  rfl

/-- A plain word in front of white space is a piece of its own. -/
theorem ofLine_plain_append {t rest : Text} (ht : IsPlain t) (hne : t ≠ [])
    (hrest : ∀ l ∈ rest.head?, isBlank l = true) :
    ofLine (t ++ rest) = .word t :: ofLine rest := by
  have hlast : ∀ l ∈ t.getLast?, isBlank l = false := fun l hl => ht.1 l (List.mem_of_getLast? hl)
  rw [ofLine, Text.runs_append (isBlank_ne_of_meet hlast hrest), gather_plain hne ht]
  rfl

/-- Every piece of a line is what an element of the grammar is found as. -/
theorem fits_of_mem_ofLine_flatten {ts : List Text} (h : Segmented ts) :
    ∀ piece ∈ ofLine ts.flatten, Fits piece.letters piece := by
  induction ts with
  | nil => exact fun _ hmem => absurd hmem List.not_mem_nil
  | cons t ts ih =>
    obtain ⟨piece, hfits, hline⟩ := exists_ofLine_flatten_cons h
    rw [hline]
    refine List.forall_mem_cons.2 ⟨?_, ih (segmented_cons.1 h).2.2.2⟩
    rwa [hfits.letters_eq]

theorem fits_of_mem_ofLine {line : Text} {piece : Piece} (h : piece ∈ ofLine line) :
    Fits piece.letters piece := by
  have hfits := fits_of_mem_ofLine_flatten (segmented_letters line)
  rw [flatten_letters_ofLine] at hfits
  exact hfits piece h

end Piece

/-! ## Kinds -/

/-- Whether a command may stand behind a piece. -/
def mayStart (atStart : Bool) : Piece → Bool
  | .blank _ => atStart
  | .word cs => isSeparator cs
  | .span _ | .unclosed _ _ => false

theorem classify_cons (known : List Text) (atStart : Bool) (piece : Piece) (rest : List Piece) :
    classify known atStart (piece :: rest) =
      classify known atStart [piece] ++ classify known (mayStart atStart piece) rest := by
  cases piece <;> rfl

/-- What pieces leave to those behind them is whether a command may stand next. -/
theorem classify_append (known : List Text) (atStart : Bool) (pieces behind : List Piece) :
    classify known atStart (pieces ++ behind) =
      classify known atStart pieces ++ classify known (pieces.foldl mayStart atStart) behind := by
  induction pieces generalizing atStart with
  | nil => rfl
  | cons piece rest ih =>
    rw [List.cons_append, classify_cons, ih, ← List.append_assoc, ← classify_cons]
    rfl

/-! ## Separators -/

/-- The words that separate the stages of a pipeline. -/
def IsSeparator (s : Text) : Prop := s = "|" ∨ s = ";" ∨ s = "&"

namespace IsSeparator

variable {s : Text}

theorem ne_nil (h : IsSeparator s) : s ≠ [] := by
  rcases h with rfl | rfl | rfl <;> decide

theorem isPlain (h : IsSeparator s) : IsPlain s := by
  refine ⟨?_, ?_⟩
  · rcases h with rfl | rfl | rfl <;> decide
  · rintro q rest hq hquote
    rcases h with rfl | rfl | rfl <;> obtain ⟨rfl, -⟩ := List.cons.inj hq <;>
      exact absurd hquote (by decide)

/-- A separator is a pipe or an operator wherever it stands. -/
theorem kindOfWord_eq (h : IsSeparator s) (known : List Text) (atStart : Bool) :
    kindOfWord known atStart s = if s = "|" then .pipe else .operator := by
  rcases h with rfl | rfl | rfl <;> rfl

/-- A command may stand behind a separator. -/
theorem isSeparator (h : IsSeparator s) : Command.isSeparator s = true := by
  rcases h with rfl | rfl | rfl <;> rfl

end IsSeparator

/-! ## Stages -/

theorem isBlank_head_append {w : Text} (hw : IsBlank w) (hne : w ≠ []) (rest : Text) :
    ∀ l ∈ (w ++ rest).head?, isBlank l = true := by
  obtain ⟨l, w, rfl⟩ := List.exists_cons_of_ne_nil hne
  rintro _ ⟨⟩
  exact hw l List.mem_cons_self

theorem isBlank_head_append_of_isPlain {t : Text} (ht : IsPlain t) (hne : t ≠ []) (rest : Text) :
    ∀ l ∈ (t ++ rest).head?, isBlank l = false := by
  obtain ⟨l, t, rfl⟩ := List.exists_cons_of_ne_nil hne
  rintro _ ⟨⟩
  exact ht.1 l List.mem_cons_self

variable {a b w₁ w₂ s : Text}

/-- The pieces of two stages are those of each of them, with the separator between. -/
theorem Piece.ofLine_stages (hs : IsSeparator s) (hw₁ : IsBlank w₁ ∧ w₁ ≠ [])
    (hw₂ : IsBlank w₂ ∧ w₂ ≠ []) (ha : ∀ l ∈ a.getLast?, isBlank l = false)
    (hb : ∀ l ∈ b.head?, isBlank l = false) (hclosed : EndsClosed (ofLine a)) :
    ofLine (a ++ w₁ ++ s ++ w₂ ++ b) = ofLine a ++ [.blank w₁, .word s, .blank w₂] ++ ofLine b := by
  have hsplit : a ++ w₁ ++ s ++ w₂ ++ b = a ++ (w₁ ++ (s ++ (w₂ ++ b))) := by
    simp only [List.append_assoc]
  rw [hsplit, ofLine_append hclosed ha (isBlank_head_append hw₁.1 hw₁.2 _),
    ofLine_blank_append hw₁.1 hw₁.2 (isBlank_head_append_of_isPlain hs.isPlain hs.ne_nil _),
    ofLine_plain_append hs.isPlain hs.ne_nil (isBlank_head_append hw₂.1 hw₂.2 _),
    ofLine_blank_append hw₂.1 hw₂.2 hb, List.append_assoc]
  rfl

/-- A line whose last token opens no quote leaves none open. -/
theorem endsClosed_of_tokenize {known : List Text}
    (h : ∀ t ∈ (tokenize known a).getLast?, ¬IsOpen t.text) :
    Piece.EndsClosed (Piece.ofLine a) := by
  intro q cs hlast
  have htext : ((tokenize known a).getLast?).map Token.text = some cs := by
    rw [← List.getLast?_map, map_text_tokenize, List.getLast?_map, hlast]
    rfl
  obtain ⟨t, ht, rfl⟩ := Option.map_eq_some_iff.1 htext
  cases Piece.fits_of_mem_ofLine (List.mem_of_getLast? hlast) with
  | unclosed _ hopen => exact h t ht hopen

/-- **Two stages are cut into tokens as if each stood alone,** with the separator and the white
space around it between them, provided that the first one leaves no quote open. -/
theorem tokenize_stages (known : List Text) (hs : IsSeparator s) (hw₁ : IsBlank w₁ ∧ w₁ ≠ [])
    (hw₂ : IsBlank w₂ ∧ w₂ ≠ []) (ha : ∀ l ∈ a.getLast?, isBlank l = false)
    (hb : ∀ l ∈ b.head?, isBlank l = false)
    (hclosed : ∀ t ∈ (tokenize known a).getLast?, ¬IsOpen t.text) :
    tokenize known (a ++ w₁ ++ s ++ w₂ ++ b) =
      tokenize known a ++ [⟨w₁, .whitespace⟩, ⟨s, if s = "|" then .pipe else .operator⟩,
        ⟨w₂, .whitespace⟩] ++ tokenize known b := by
  have hpieces := Piece.ofLine_stages hs hw₁ hw₂ ha hb (endsClosed_of_tokenize hclosed)
  -- Whatever the first stage leaves behind, the separator overrides it.
  have hmiddle (atStart : Bool) : classify known atStart [.blank w₁, .word s, .blank w₂] =
      [⟨w₁, .whitespace⟩, ⟨s, if s = "|" then .pipe else .operator⟩, ⟨w₂, .whitespace⟩] := by
    rw [← hs.kindOfWord_eq known atStart]
    rfl
  have hnext (atStart : Bool) :
      [Piece.blank w₁, .word s, .blank w₂].foldl mayStart atStart = true := hs.isSeparator
  rw [tokenize, hpieces, List.append_assoc, classify_append, classify_append, hmiddle, hnext,
    ← List.append_assoc]
  rfl

/-- A stage with a span and a stray quote in front, one with an open quote behind. -/
theorem tokenize_stages_quoted :
    tokenize knownCommands "grep 'a b' c'\t ;\nls \"x " =
      tokenize knownCommands "grep 'a b' c'" ++ [⟨"\t ", .whitespace⟩, ⟨";", .operator⟩,
        ⟨"\n", .whitespace⟩] ++ tokenize knownCommands "ls \"x " := by
  have hlast : (tokenize knownCommands "grep 'a b' c'").getLast? =
      some ⟨"c'", .argument⟩ := by decide +kernel
  have hclosed : ∀ t ∈ (tokenize knownCommands "grep 'a b' c'").getLast?, ¬IsOpen t.text := by
    rw [hlast]
    rintro _ ⟨⟩ ⟨q, rest, hq, hquote, -⟩
    obtain ⟨rfl, -⟩ := List.cons.inj hq
    exact absurd hquote (by decide)
  have hseparator : IsSeparator ";" := .inr (.inl rfl)
  have htab : IsBlank "\t " ∧ Text.ofString "\t " ≠ [] := by decide
  have hnewline : IsBlank "\n" ∧ Text.ofString "\n" ≠ [] := by decide
  have hend : ∀ l ∈ (Text.ofString "grep 'a b' c'").getLast?, isBlank l = false := by decide
  have hstart : ∀ l ∈ (Text.ofString "ls \"x ").head?, isBlank l = false := by decide
  exact tokenize_stages knownCommands hseparator htab hnewline hend hstart hclosed

end CommandAdvisor.Command
