import CommandAdvisor.Proofs.Usage.Lines

/-!
# Flags with values

The history is asked for by one flag and its values. Where as many words stand behind the flag as
it takes, and arguments ask for anything at all, these words are its values: no other reading of
them ends in a request, since a word that is not plain is no value and leaves one missing.

## Main statements
* `Grammar.parse_values`: what a flag and the words behind it say.
* `request_of_values`: what a flag of the history asks for.
-/
namespace CommandAdvisor.Usage

open Json (exists_of_bind_eq_ok)

/-! ## A flag and its values -/

namespace Grammar

variable {g : Grammar} {f : Flag}

/-- The words behind a flag are its values, if there are as many as it takes, or one of them is
missing. -/
theorem occurrences_values (g : Grammar) (word : Text) (l : Bool)
    {readings : List (Text × Reading)} (h : readings.length = f.values.length) :
    g.occurrences ((word, .option f l none) :: readings) = [.misuse (.missingValues f)] ∨
      g.occurrences ((word, .option f l none) :: readings) =
        [.option f ((readings.map Prod.fst).map some)] := by
  rw [occurrences]
  split
  · exact .inl rfl
  · next hfull =>
    -- As many words are plain as there are, so all are.
    have hplain : (readings.takeWhile fun w => w.2.isPlain).take f.values.length = readings := by
      have hprefix := (List.take_prefix f.values.length _).trans
        (List.takeWhile_prefix (l := readings) fun w => w.2.isPlain)
      exact hprefix.eq_of_length_le (by omega)
    refine .inr ?_
    rw [hplain, List.drop_length, occurrences_nil, List.map_map]
    rfl

theorem parse_values (hg : (g.spelled.map Prod.fst).Nodup) {word : Text} {values : List Text}
    (hs : word ≠ separator) (hf : g.flag? word = some f) (h : values.length = f.values.length) :
    (∃ m, g.parse (word :: values) = [.misuse m]) ∨
      g.parse (word :: values) = [.option f (values.map some)] := by
  rw [parse, readAll_cons_of_read hs (read_of_flag? hg hf)]
  cases hall : g.readAll values with
  | error m => exact .inl ⟨m, rfl⟩
  | ok readings =>
    have hwords := map_fst_of_readAll hall
    have hlength : readings.length = f.values.length := by
      rw [← h, ← hwords, List.length_map]
    have hsaid := occurrences_values g word (isLetterSpelling word) hlength
    rw [hwords] at hsaid
    exact hsaid.imp_left fun hmissing => ⟨_, hmissing⟩

end Grammar

/-! ## Flags of the history -/

theorem distinct_history : (Subcommand.history.grammar.spelled.map Prod.fst).Nodup := by
  decide +kernel

theorem flag?_history : ∀ f ∈ historyFlags, f.longSpelling ≠ separator ∧
    Subcommand.history.grammar.flag? f.longSpelling = some f ∧ f ≠ helpFlag := by
  decide +kernel

/-- What a flag of the history with its values asks for. -/
theorem request_of_values {f : Flag} (hf : f ∈ historyFlags) {unknown values : List Text}
    (hvalues : values.length = f.values.length) {request : Request}
    (h : requestOfTail .history unknown (f.longSpelling :: values) = .ok request) :
    ∃ asked, requestOf f (values.map some) .everything = .ok asked ∧
      request = .history asked := by
  obtain ⟨hs, hfound, hne⟩ := flag?_history f hf
  rw [requestOfTail] at h
  simp only [if_true] at h
  obtain ⟨⟨chosen, leftovers⟩, hsaid, hrest⟩ := exists_of_bind_eq_ok h
  rcases Grammar.parse_values distinct_history hs hfound hvalues with ⟨m, hm⟩ | hoption
  · rw [hm] at hsaid
    cases hsaid
  · rw [hoption, List.foldlM_cons, historyStep, if_neg hne, choose] at hsaid
    cases hasked : requestOf f (values.map some) .everything with
    | error m =>
      rw [Option.map_none, Option.getD_none, hasked] at hsaid
      cases hsaid
    | ok asked =>
      rw [Option.map_none, Option.getD_none, hasked] at hsaid
      cases hsaid
      refine ⟨asked, rfl, ?_⟩
      split at hrest
      · cases hrest
        rfl
      · cases hrest

end CommandAdvisor.Usage
