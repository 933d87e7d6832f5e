import CommandAdvisor.Proofs.Command.Kinds
import CommandAdvisor.Proofs.Risk.Escalation

/-!
# Tokens and words

A command line is cut twice: into tokens for the reader, and into words for the verdict. A
quoted span may take in several words with the white space between them, but no word is ever
divided between two tokens. So both cuts see the same words in the same order.

## Main definitions
* `visibleTokens`: the tokens that are not white space.

## Main statements
* `words_flatten`: the words of a segmentation are those of its elements.
* `flatMap_words_tokenize`: the words of the tokens of a line are the words of the line.
* `tokens_share_words`: what the verdict on a line is read off stands in its tokens.
-/
namespace CommandAdvisor.Command

open Text (IsBlank IsSolid isBlank words)
open Risk (Registry assess flagWarning)

/-! ## Words of a segmentation -/

/-- **The words of a segmentation are those of its elements,** since these meet where white
space meets anything else. -/
theorem words_flatten {ts : List Text} (h : Segmented ts) :
    words ts.flatten = ts.flatMap words := by
  induction ts with
  | nil => rfl
  | cons t ts ih =>
    rw [List.flatMap_cons, ← ih (segmented_cons.1 h).2.2.2, List.flatten_cons]
    simp only [words, Piece.runs_append_of_segmented h, List.filter_append]

/-! ## Words of tokens -/

/-- **The words of the tokens of a line are the words of the line.** -/
theorem flatMap_words_tokenize (known : List Text) (line : Text) :
    (tokenize known line).flatMap (fun t => words t.text) = words line := by
  have hwords := words_flatten (Piece.segmented_letters line)
  rw [Piece.flatten_letters_ofLine, ← map_text_tokenize known, List.flatMap_map] at hwords
  exact hwords.symm

/-- The tokens that are not white space. -/
def visibleTokens (tokens : List Token) : List Token := tokens.filter fun t => t.kind ≠ .whitespace

section Tokens

variable {known : List Text} {line : Text}

theorem text_ne_nil_of_mem_tokenize {t : Token} (h : t ∈ tokenize known line) : t.text ≠ [] := by
  have htext : t.text ∈ (Piece.ofLine line).map Piece.letters := by
    rw [← map_text_tokenize known]
    exact List.mem_map_of_mem h
  exact (Piece.segmented_letters line).ne_nil _ htext

/-- Only white space is of the kind of white space. -/
theorem kind_eq_whitespace_iff {t : Token} (h : t ∈ tokenize known line) :
    t.kind = .whitespace ↔ IsBlank t.text := by
  obtain ⟨before, after, hsplit⟩ := List.mem_iff_append.1 h
  rw [tokenize_eq_label] at hsplit
  rw [kind_of_label_eq_append hsplit]
  exact kindBehind_eq_whitespace_iff

/-- A token that is not white space holds a word. -/
theorem words_ne_nil_of_mem_visibleTokens {t : Token}
    (h : t ∈ visibleTokens (tokenize known line)) : words t.text ≠ [] := by
  obtain ⟨hmem, hkind⟩ := List.mem_filter.1 h
  intro hnone
  have hblank := Text.isBlank_of_words_eq_nil hnone
  exact of_decide_eq_true hkind ((kind_eq_whitespace_iff hmem).2 hblank)

/-- White space may be left out. -/
theorem flatMap_words_visibleTokens (known : List Text) (line : Text) :
    (visibleTokens (tokenize known line)).flatMap (fun t => words t.text) = words line := by
  have hblank : ∀ t ∈ tokenize known line, ¬t.kind ≠ .whitespace → words t.text = [] := by
    intro t ht hkind
    exact Text.words_eq_nil_of_isBlank ((kind_eq_whitespace_iff ht).1 (not_not.1 hkind))
  rw [← flatMap_words_tokenize known line, visibleTokens]
  generalize tokenize known line = tokens at hblank ⊢
  induction tokens with
  | nil => rfl
  | cons t tokens ih =>
    have hrest := ih fun u hu => hblank u (List.mem_cons_of_mem t hu)
    by_cases hkind : t.kind ≠ .whitespace
    · rw [List.filter_cons_of_pos (by simpa using hkind), List.flatMap_cons, List.flatMap_cons,
        hrest]
    · rw [List.filter_cons_of_neg (by simpa using hkind), List.flatMap_cons, hrest,
        hblank t List.mem_cons_self hkind, List.nil_append]

/-- The first word of a line is the first one of its first token that is not white space. -/
theorem head?_words (known : List Text) (line : Text) : (words line).head? =
    (visibleTokens (tokenize known line)).head?.bind fun first => (words first.text).head? := by
  have hwords := flatMap_words_visibleTokens known line
  have hne : ∀ t ∈ visibleTokens (tokenize known line), words t.text ≠ [] := fun _ =>
    words_ne_nil_of_mem_visibleTokens
  rw [← hwords]
  cases hvisible : visibleTokens (tokenize known line) with
  | nil => rfl
  | cons first rest =>
    rw [hvisible] at hne
    obtain ⟨word, others, hfirst⟩ := List.exists_cons_of_ne_nil (hne first List.mem_cons_self)
    simp [hfirst]

/-- Where every token is all white space or none, those that are none are the words. -/
theorem map_text_visibleTokens
    (h : ∀ t ∈ tokenize known line, IsBlank t.text ∨ IsSolid t.text) :
    (visibleTokens (tokenize known line)).map Token.text = words line := by
  have hone : ∀ t ∈ visibleTokens (tokenize known line), words t.text = [t.text] := by
    intro t ht
    have hmem := List.mem_of_mem_filter ht
    rcases h t hmem with hblank | hsolid
    · exact absurd (Text.words_eq_nil_of_isBlank hblank) (words_ne_nil_of_mem_visibleTokens ht)
    · exact Text.words_of_isSolid (text_ne_nil_of_mem_tokenize hmem) hsolid
  rw [← flatMap_words_visibleTokens known line, List.flatMap_congr hone, ← List.map_eq_flatMap]

end Tokens

/-! ## What the verdict sees -/

theorem flagWarning_mem_warnings {r : Registry} {line flag : Text}
    (h : flag ∈ r.flagsIn (words line)) : flagWarning flag ∈ (assess r line).warnings := by
  have hwords : words line ≠ [] := List.ne_nil_of_mem (List.mem_of_mem_filter h)
  rw [Risk.warnings_assess, if_neg hwords, Registry.warnings]
  simp only [List.mem_append]
  exact .inl (.inl (.inr (List.mem_map_of_mem h)))

/-- **The cut into tokens and the verdict see the same words.** The words of all tokens are those
of the line; the command that is judged is the first word of the first token that is not white
space, and every flag that is warned about stands in a token. Where no token holds white space
besides other letters, the tokens that are not white space are the words. -/
theorem tokens_share_words (known : List Text) (line : Text) :
    (tokenize known line).flatMap (fun t => words t.text) = words line ∧
    (words line).head? =
      (visibleTokens (tokenize known line)).head?.bind (fun first => (words first.text).head?) ∧
    (∀ first ∈ (visibleTokens (tokenize known line)).head?,
      Registry.base (words line) = Registry.base (words first.text)) ∧
    (∀ (r : Registry) (flag : Text), flag ∈ r.flagsIn (words line) →
      flagWarning flag ∈ (assess r line).warnings ∧
        ∃ t ∈ tokenize known line, flag ∈ words t.text ∧ flag <:+: t.text) ∧
    ((∀ t ∈ tokenize known line,
        ¬((∃ l ∈ t.text, isBlank l = true) ∧ ∃ l ∈ t.text, isBlank l = false)) →
      (visibleTokens (tokenize known line)).map Token.text = words line) := by
  have hhead := head?_words known line
  refine ⟨flatMap_words_tokenize known line, hhead, ?_, ?_, ?_⟩
  · intro first hfirst
    rw [Option.mem_def.1 hfirst, Option.bind_some] at hhead
    rw [Registry.base, Registry.base, List.headD_eq_head?_getD, List.headD_eq_head?_getD, hhead]
  · intro r flag hflag
    have hword : flag ∈ words line := List.mem_of_mem_filter hflag
    rw [← flatMap_words_tokenize known line] at hword
    obtain ⟨t, ht, hword⟩ := List.mem_flatMap.1 hword
    exact ⟨flagWarning_mem_warnings hflag, t, ht, hword, Text.infix_of_mem_words hword⟩
  · intro hunmixed
    refine map_text_visibleTokens fun t ht => ?_
    by_cases hblank : IsBlank t.text
    · exact .inl hblank
    · refine .inr fun l hl => ?_
      by_contra hl'
      have hsolid : ∃ l ∈ t.text, isBlank l = false := by
        simpa [IsBlank] using hblank
      exact hunmixed t ht ⟨⟨l, hl, by simpa using hl'⟩, hsolid⟩

/-- A flag inside a span is judged as any other; without spans, tokens are words. -/
theorem tokens_share_words_quoted :
    (tokenize knownCommands "ls 'a  -rf b'").map Token.text = ["ls", " ", "'a  -rf b'"] ∧
      words "ls 'a  -rf b'" = ["ls", "'a", "-rf", "b'"] ∧
      flagWarning "-rf" ∈ (assess .builtIn "ls 'a  -rf b'").warnings ∧
      (visibleTokens (tokenize knownCommands "  rm\t-f . ")).map Token.text =
        ["rm", "-f", "."] := by
  have hspan := tokens_share_words knownCommands "ls 'a  -rf b'"
  have hplain := tokens_share_words knownCommands "  rm\t-f . "
  have hflag : Text.ofString "-rf" ∈ Registry.builtIn.flagsIn (words "ls 'a  -rf b'") := by
    decide +kernel
  refine ⟨by decide +kernel, hspan.1.symm.trans (by decide +kernel),
    (hspan.2.2.2.1 _ _ hflag).1, ?_⟩
  exact (hplain.2.2.2.2 (by decide +kernel)).trans (by decide +kernel)

end CommandAdvisor.Command
