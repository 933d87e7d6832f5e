import CommandAdvisor.Proofs.Json.Soundness
import CommandAdvisor.Proofs.Usage.Arguments

/-!
# Lines with a subcommand

Options may stand in front of a subcommand. Whatever they are, and whatever the words behind the
subcommand are, arguments with a subcommand that takes a command line either end in a message or
ask for one thing: what the subcommand makes of the words that are no flags of it.

## Main definitions
* `IsOption`: a word that does not count as a subcommand.

## Main statements
* `Subcommand.requestOfTail_eq_or`: what the words behind a subcommand ask for, if they ask for
  anything.
* `exists_requestOfTail_of_ofArguments` and `ofArguments_eq_or`: what arguments with a subcommand
  ask for, if they ask for anything.
* `exists_of_ofArguments_eq_ok`: all arguments that ask for anything are of this form.
-/
namespace CommandAdvisor.Usage

open Json (exists_of_bind_eq_ok)

/-! ## The words behind a subcommand -/

/-- A word that asks for help or is taken apart ends in a message. -/
theorem Grammar.OnlySwitches.exists_foldlM_flagStep_eq_error {g : Grammar} (hg : g.OnlySwitches)
    (page : Page) {tail : List Text} (flags : List Flag)
    (h : ∃ word ∈ inFront tail, g.flag? word = some helpFlag ∨ g.TakesApart word) :
    ∃ stop, (g.parse tail).foldlM (flagStep page) flags = .error stop := by
  induction tail generalizing flags with
  | nil => simp at h
  | cons word rest ih =>
    by_cases hs : word = separator
    · subst hs
      simp at h
    · by_cases hhelp : g.flag? word = some helpFlag
      · have hread := read_of_flag? hg.distinct hhelp
        obtain ⟨readings, -, hparse⟩ := parse_cons hs hread (hg.exists_readAll rest)
        rw [hparse, occurrences_switch g (hg.no_values _ hg.help)]
        exact ⟨.help page, rfl⟩
      · by_cases happart : g.TakesApart word
        · obtain ⟨f, l, value, hread, hjoined⟩ := hg.read_taken_apart happart
          obtain ⟨readings, -, hparse⟩ := parse_cons hs hread (hg.exists_readAll rest)
          rw [hparse, occurrences_joined]
          rcases hjoined with ⟨m, hm⟩ | ⟨-, more, hmore⟩
          · rw [hm]
            exact ⟨.misused page m, rfl⟩
          · rw [hmore]
            exact ⟨.help page, rfl⟩
        · have hlater : ∃ word ∈ inFront rest, g.flag? word = some helpFlag ∨ g.TakesApart word := by
            rw [inFront_cons hs] at h
            simpa [hhelp, happart] using h
          rw [hg.foldlM_flagStep_cons page hs hhelp happart]
          exact ih _ hlater

namespace Subcommand

variable {c : Subcommand} (hc : c ≠ .history)
include hc

/-- **The words behind a subcommand end in a message or ask for one thing.** -/
theorem requestOfTail_eq_or (unknown tail : List Text) :
    (∃ stop, requestOfTail c unknown tail = .error stop) ∨
      requestOfTail c unknown tail = .ok (c.requestOf (c.lineWords tail) (inFront tail)) := by
  have hg := onlySwitches hc
  by_cases hmisread : ∃ word ∈ inFront tail,
      c.grammar.flag? word = some helpFlag ∨ c.grammar.TakesApart word
  · obtain ⟨stop, hstop⟩ := hg.exists_foldlM_flagStep_eq_error c.page [] hmisread
    refine .inl ⟨stop, ?_⟩
    rw [requestOfTail]
    simp only [hc, if_false, hstop]
    rfl
  · have hclear : ∀ word ∈ inFront tail,
        c.grammar.flag? word ≠ some helpFlag ∧ ¬c.grammar.TakesApart word :=
      fun word hword => not_or.1 fun h => hmisread ⟨word, hword, h⟩
    have hhelp : ∀ word ∈ inFront tail, word ≠ "-h" ∧ word ≠ "--help" := by
      intro word hword
      have hno := (hclear word hword).1
      refine ⟨fun heq => hno ?_, fun heq => hno ?_⟩
      · rw [heq]
        exact hg.flag?_help
      · rw [heq]
        exact hg.flag?_longSpelling hg.help
    by_cases hwords : c.lineWords tail = []
    · have hcommand : commandWords (c.flags.map Flag.longSpelling) tail = [] :=
        (commandWords_eq _ tail).trans hwords
      refine .inl ⟨.misused mainPage (.noCommand c.name), ?_⟩
      rw [requestOfTail]
      simp only [hc, if_false, hg.foldlM_flagStep c.page [] hclear, hcommand]
      rfl
    · exact .inr (requestOfTail_eq hc hhelp (fun word hword => (hclear word hword).2) hwords unknown)

end Subcommand

/-! ## Options in front of a subcommand -/

/-- A word that does not count as a subcommand: an option or something that looks like one. -/
def IsOption (word : Text) : Prop := word ≠ separator ∧ mainGrammar.read word ≠ .ok .plain

theorem IsDebug.isOption {word : Text} (h : IsDebug word) : IsOption word := by
  refine ⟨h.ne_separator, ?_⟩
  rw [h.read]
  simp [debugReading]

theorem Grammar.ne_separator_of_mem_candidates {g : Grammar} {word : Text} {c : Text × Reading}
    (h : c ∈ g.candidates word) : c.2 ≠ .separator := by
  rw [candidates.eq_def] at h
  split at h
  · dsimp only at h
    split at h
    · obtain ⟨s, -, rfl⟩ := List.mem_map.1 h
      simp
    · exact absurd h List.not_mem_nil
  · obtain ⟨s, -, rfl⟩ := List.mem_map.1 h
    simp
  · exact absurd h List.not_mem_nil

/-- No word by itself is read as the separator. -/
theorem Grammar.read_ne_separator (g : Grammar) (word : Text) :
    g.read word ≠ .ok .separator := by
  intro h
  rw [read.eq_def] at h
  split at h
  · split at h
    · cases h
    · split at h
      · next r hjoined =>
        rw [readJoined?] at hjoined
        split at hjoined
        · obtain ⟨f, -, rfl⟩ := Option.map_eq_some_iff.1 hjoined
          cases h
        · cases hjoined
      · split at h
        · rw [readOther] at h
          split at h <;> cases h
        · next c hc =>
          exact ne_separator_of_mem_candidates (hc ▸ List.mem_cons_self) (Except.ok.inj h)
        · cases h
  · cases h

/-- Behind the options that are read in front of it stands the subcommand. -/
theorem map_dropWhile_isLeading {leading tail : List Text} (c : Subcommand)
    (hleading : ∀ word ∈ leading, IsOption word) {words : List (Text × Reading)}
    (h : mainGrammar.readAll (leading ++ c.name :: tail) = .ok words) :
    (words.dropWhile isLeading).map Prod.fst = c.name :: tail := by
  induction leading generalizing words with
  | nil =>
    have hfirst := Grammar.map_fst_of_readAll h
    rw [List.nil_append, Grammar.readAll_cons_of_read (name_ne_separator c) (read_name c)] at h
    cases hrest : mainGrammar.readAll tail with
    | error m =>
      rw [hrest] at h
      cases h
    | ok readings =>
      rw [hrest] at h
      cases h
      exact hfirst
  | cons word leading ih =>
    obtain ⟨⟨hs, hplain⟩, hleading⟩ := List.forall_mem_cons.1 hleading
    rw [List.cons_append, Grammar.readAll_cons _ hs] at h
    cases hread : mainGrammar.read word with
    | error m =>
      rw [hread] at h
      cases h
    | ok reading =>
      cases hrest : mainGrammar.readAll (leading ++ c.name :: tail) with
      | error m =>
        rw [hread, hrest] at h
        cases h
      | ok readings =>
        rw [hread, hrest] at h
        cases h
        have hno : reading ≠ .plain ∧ reading ≠ .separator :=
          ⟨fun heq => hplain (heq ▸ hread),
            fun heq => mainGrammar.read_ne_separator word (heq ▸ hread)⟩
        rw [List.dropWhile_cons_of_pos (by simp [isLeading, hno]), ih hleading hrest]

/-- Where arguments ask for anything, it is what the words behind the subcommand ask for. -/
theorem exists_requestOfTail_of_ofArguments {c : Subcommand} {leading tail : List Text}
    (hleading : ∀ word ∈ leading, IsOption word) {invocation : Invocation}
    (h : Invocation.ofArguments (leading ++ c.name :: tail) = .ok invocation) :
    ∃ unknown, requestOfTail c unknown tail = .ok invocation.request := by
  have hsubcommand : subcommandOf (c.name :: tail) = .ok (c, tail) := by
    rw [subcommandOf]
    simp
  rw [Invocation.ofArguments] at h
  cases hall : mainGrammar.readAll (leading ++ c.name :: tail) with
  | error m =>
    rw [hall] at h
    cases h
  | ok words =>
    rw [hall] at h
    dsimp only at h
    rw [map_dropWhile_isLeading c hleading hall, hsubcommand] at h
    obtain ⟨⟨debug, unknown⟩, -, hrest⟩ := exists_of_bind_eq_ok h
    obtain ⟨request, hrequest, hpure⟩ := exists_of_bind_eq_ok hrest
    cases hpure
    exact ⟨unknown, hrequest⟩

/-- **Arguments with a subcommand end in a message or ask for one thing,** whatever options
stand in front of it. -/
theorem ofArguments_eq_or {c : Subcommand} (hc : c ≠ .history) {leading : List Text}
    (hleading : ∀ word ∈ leading, IsOption word) (tail : List Text) :
    (∃ stop, Invocation.ofArguments (leading ++ c.name :: tail) = .error stop) ∨
      ∃ debug, Invocation.ofArguments (leading ++ c.name :: tail) =
        .ok ⟨debug, c.requestOf (c.lineWords tail) (inFront tail)⟩ := by
  cases hasked : Invocation.ofArguments (leading ++ c.name :: tail) with
  | error stop => exact .inl ⟨stop, rfl⟩
  | ok invocation =>
    obtain ⟨debug, request⟩ := invocation
    obtain ⟨unknown, hrequest⟩ := exists_requestOfTail_of_ofArguments hleading hasked
    rcases Subcommand.requestOfTail_eq_or hc unknown tail with ⟨stop, hstop⟩ | hone
    · cases hstop.symm.trans hrequest
    · cases hone.symm.trans hrequest
      exact .inr ⟨debug, rfl⟩

/-! ## Every request has a subcommand behind options -/

theorem isOption_of_mem_takeWhile {arguments : List Text} {words : List (Text × Reading)}
    (h : mainGrammar.readAll arguments = .ok words) :
    ∀ word ∈ words.takeWhile isLeading, IsOption word.1 := by
  induction arguments generalizing words with
  | nil =>
    cases h
    simp
  | cons first rest ih =>
    by_cases hs : first = separator
    · subst hs
      rw [Grammar.readAll_separator] at h
      cases h
      simp [isLeading]
    · rw [Grammar.readAll_cons _ hs] at h
      cases hread : mainGrammar.read first with
      | error m =>
        rw [hread] at h
        cases h
      | ok reading =>
        cases hrest : mainGrammar.readAll rest with
        | error m =>
          rw [hread, hrest] at h
          cases h
        | ok readings =>
          rw [hread, hrest] at h
          cases h
          by_cases hleading : isLeading (first, reading) = true
          · have hoption : IsOption first := by
              refine ⟨hs, fun hplain => ?_⟩
              cases hread.symm.trans hplain
              simp [isLeading] at hleading
            rw [List.takeWhile_cons_of_pos hleading]
            exact List.forall_mem_cons.2 ⟨hoption, ih hrest⟩
          · rw [List.takeWhile_cons_of_neg hleading]
            simp

/-- What is found among words is the subcommand that the first of them names. -/
theorem eq_cons_of_subcommandOf {words tail : List Text} {c : Subcommand}
    (h : subcommandOf words = .ok (c, tail)) : words = c.name :: tail := by
  cases words with
  | nil => cases h
  | cons word rest =>
    rw [subcommandOf] at h
    cases hname : Subcommand.ofName? word with
    | none =>
      simp only [hname] at h
      split at h <;> cases h
    | some found =>
      simp only [hname] at h
      cases h
      have hfound := List.find?_some hname
      rw [beq_iff_eq] at hfound
      rw [hfound]

theorem Subcommand.subcommand_requestOfTail {c : Subcommand} {unknown tail : List Text}
    {request : Request} (h : requestOfTail c unknown tail = .ok request) :
    request.subcommand = c := by
  rw [requestOfTail] at h
  dsimp only at h
  split at h
  · next hc =>
    obtain ⟨state, -, hrest⟩ := exists_of_bind_eq_ok h
    split at hrest
    · cases hrest
      exact hc.symm
    · cases hrest
  · next hc =>
    obtain ⟨flags, -, hrest⟩ := exists_of_bind_eq_ok h
    split at hrest
    · cases hrest
    · cases hrest
      cases c with
      | history => exact absurd rfl hc
      | _ => rfl

/-- **Every request stems from a subcommand with nothing but options in front of it.** -/
theorem exists_of_ofArguments_eq_ok {arguments : List Text} {invocation : Invocation}
    (h : Invocation.ofArguments arguments = .ok invocation) :
    ∃ leading tail, arguments = leading ++ invocation.request.subcommand.name :: tail ∧
      ∀ word ∈ leading, IsOption word := by
  rw [Invocation.ofArguments] at h
  cases hall : mainGrammar.readAll arguments with
  | error m =>
    rw [hall] at h
    cases h
  | ok words =>
    rw [hall] at h
    dsimp only at h
    obtain ⟨⟨debug, unknown⟩, -, hrest⟩ := exists_of_bind_eq_ok h
    cases hfirst : subcommandOf ((words.dropWhile isLeading).map Prod.fst) with
    | error m =>
      rw [hfirst] at hrest
      cases hrest
    | ok found =>
      obtain ⟨c, tail⟩ := found
      rw [hfirst] at hrest
      obtain ⟨request, hrequest, hpure⟩ := exists_of_bind_eq_ok hrest
      cases hpure
      refine ⟨(words.takeWhile isLeading).map Prod.fst, tail, ?_, ?_⟩
      · dsimp only
        rw [Subcommand.subcommand_requestOfTail hrequest, ← eq_cons_of_subcommandOf hfirst,
          ← List.map_append, List.takeWhile_append_dropWhile, Grammar.map_fst_of_readAll hall]
      · exact List.forall_mem_map.2 (isOption_of_mem_takeWhile hall)

end CommandAdvisor.Usage
