import CommandAdvisor.Json.Room
import CommandAdvisor.Proofs.Json.Lexemes
import CommandAdvisor.Proofs.Number.Numerals
import Mathlib.Tactic.SplitIfs

/-!
# Integers that are too long to be read

A reader takes lexemes one after the other and stops at the first that does not fit. So the
free dialect refuses a text for the length of an integer exactly if that integer stands where
a value is due and nothing in front of it breaks the grammar. What stands behind it does not
matter.

## Main definitions
* `StartsLongInteger`: a word that starts with an integer that is too long.
* `StopsAtInteger`: a text that is read up to such a word.

## Main statements
* `foldlM_eq_error_iff`: the step at which a fold fails.
* `read_eq_oversized_iff`: the texts that are refused for the length of an integer.
* `stopsAtInteger_of_isWholePart`: too many digits and nothing else.
-/
namespace CommandAdvisor.Json

open Number (IsWholePart Numeral digitLimit isDigit)

/-- A fold fails at one of its steps, and the steps before it do not. -/
theorem foldlM_eq_error_iff {ε σ α : Type} {f : σ → α → Except ε σ} {l : List α} {s : σ} {e : ε} :
    l.foldlM f s = .error e ↔
      ∃ before a after t, l = before ++ a :: after ∧ before.foldlM f s = .ok t ∧ f t a = .error e := by
  constructor
  · intro h
    induction l generalizing s with
    | nil => cases h
    | cons a l ih =>
      rw [List.foldlM_cons] at h
      cases hstep : f s a with
      | error e' =>
        rw [hstep] at h
        cases h
        exact ⟨[], a, l, s, rfl, rfl, hstep⟩
      | ok t =>
        rw [hstep] at h
        obtain ⟨before, b, after, u, rfl, hbefore, hfails⟩ := ih h
        refine ⟨a :: before, b, after, u, rfl, ?_, hfails⟩
        rw [List.foldlM_cons, hstep]
        exact hbefore
  · rintro ⟨before, a, after, t, rfl, hbefore, hfails⟩
    rw [List.foldlM_append, hbefore]
    exact congrArg (· >>= fun u => after.foldlM f u) hfails

/-- A word starts with an integer of `n` digits, which are more than are read. -/
def StartsLongInteger (word : Text) (n : Nat) : Prop :=
  digitLimit < n ∧ ∃ numeral rest, Numeral.match? word = some (numeral, rest) ∧
    numeral.isWhole = true ∧ numeral.wholeLength = n

theorem Dialect.scalar_eq_oversized_iff (word : Text) (n : Nat) :
    free.scalar word = .error (.oversized n) ↔ StartsLongInteger word n := by
  constructor
  · intro h
    rw [scalar] at h
    split_ifs at h
    split at h
    · cases h
    · next numeral rest hmatch =>
      split at h
      · next fault hfault =>
        obtain rfl := Except.error.inj h
        rw [sizeFault?] at hfault
        split_ifs at hfault with hlong
        obtain ⟨hwhole, hlength⟩ := Bool.and_eq_true_iff.1 hlong
        cases hfault
        exact ⟨of_decide_eq_true hlength, numeral, rest, hmatch, hwhole, rfl⟩
      · split_ifs at h
        cases h
  · rintro ⟨hlong, numeral, rest, hmatch, hwhole, rfl⟩
    have hname {name : Text} (hnone : Numeral.match? name = none) : word ≠ name := by
      rintro rfl
      rw [hnone] at hmatch
      cases hmatch
    rw [scalar, if_neg (hname (by decide)), if_neg (hname (by decide)), if_neg (hname (by decide)),
      if_neg (hname (by decide)), if_neg (hname (by decide)), if_neg (hname (by decide)), hmatch]
    simp [sizeFault?, hwhole, hlong]

namespace Assembly

theorem step_eq_oversized_iff {a : Assembly} {l : Lexeme} {n : Nat} :
    step .free a l = .error (.oversized n) ↔
      a.awaitsValue = true ∧ ∃ word, l = .word word ∧ StartsLongInteger word n := by
  have hvalue (stack : List Frame) : stepValue .free stack l = .error (.oversized n) ↔
      ∃ word, l = .word word ∧ StartsLongInteger word n := by
    cases l with
    | word word =>
      have hscalar := Dialect.scalar_eq_oversized_iff word n
      cases hread : Dialect.free.scalar word with
      | ok v => simpa [stepValue, Except.map, hread] using hscalar
      | error fault => simpa [stepValue, Except.map, hread] using hscalar
    | body s => simp [stepValue, Dialect.text, Except.map]
    | _ => simp [stepValue]
  cases a with
  | value stack => exact (hvalue stack).trans (by simp [awaitsValue])
  | firstItem stack =>
    by_cases hclose : l = .closeArray
    · subst hclose
      simp [step]
    · have hstep : step .free (.firstItem stack) l = stepValue .free (.array [] :: stack) l := by
        cases l with
        | closeArray => exact absurd rfl hclose
        | _ => rfl
      rw [hstep]
      exact (hvalue _).trans (by simp [awaitsValue])
  | firstName stack =>
    cases l <;> simp [step, Dialect.text, push, Dialect.depthLimit, awaitsValue, bind, Except.bind,
      pure, Except.pure]
  | name before stack =>
    cases l <;> simp [step, Dialect.text, awaitsValue, bind, Except.bind, pure, Except.pure]
  | colon before key stack => cases l <;> simp [step, awaitsValue]
  | done v stack =>
    have hmoves : step .free (.done v stack) l ≠ .error (.oversized n) := by
      unfold step
      split <;> simp_all
    simp [hmoves, awaitsValue]

end Assembly

/-- The free dialect reads a text up to an integer of `n` digits where a value is due, and
these are more than are read. -/
def StopsAtInteger (s : Text) (n : Nat) : Prop :=
  ∃ before word after a, Lexeme.ofText s = before ++ .word word :: after ∧
    before.foldlM (Assembly.step .free) (.value []) = .ok a ∧ a.awaitsValue = true ∧
    StartsLongInteger word n

/-- **The texts that are refused for the length of an integer** are read up to it, and it
stands where a value is due. -/
theorem read_eq_oversized_iff {s : Text} {n : Nat} :
    read .free s = .error (.oversized n) ↔ StopsAtInteger s n := by
  have hresult (a : Assembly) : a.result ≠ .error (.oversized n) := by
    unfold Assembly.result
    split <;> simp
  have hread : read .free s = .error (.oversized n) ↔
      (Lexeme.ofText s).foldlM (Assembly.step .free) (.value []) = .error (.oversized n) := by
    rw [read]
    cases (Lexeme.ofText s).foldlM (Assembly.step .free) (.value []) with
    | error fault => simp [bind, Except.bind]
    | ok a => simpa [bind, Except.bind] using hresult a
  rw [hread, foldlM_eq_error_iff]
  constructor
  · rintro ⟨before, l, after, a, hs, hbefore, hfails⟩
    obtain ⟨ha, word, rfl, hlong⟩ := Assembly.step_eq_oversized_iff.1 hfails
    exact ⟨before, word, after, a, hs, hbefore, ha, hlong⟩
  · rintro ⟨before, word, after, a, hs, hbefore, ha, hlong⟩
    exact ⟨before, .word word, after, a, hs, hbefore,
      Assembly.step_eq_oversized_iff.2 ⟨ha, word, rfl, hlong⟩⟩

theorem isWordLetter_of_isDigit {l : Letter} (h : isDigit l = true) : IsWordLetter l := by
  cases l with
  | half n =>
    have hcode : Letter.firstHalf + n.val ≤ 0x39 := of_decide_eq_true (Bool.and_eq_true_iff.1 h).2
    exact absurd hcode (by simp [Letter.firstHalf]; omega)
  | char c =>
    rw [Number.isDigit_char] at h
    exact .inl (by simp [Char.isAlphanum, h])

theorem ofText_of_isWholePart {s : Text} (h : IsWholePart s) : Lexeme.ofText s = [.word s] := by
  have hscan := scans_word h.ne_nil (fun l hl => isWordLetter_of_isDigit (h.digits l hl)) []
    endsWord_nil
  rwa [List.append_nil] at hscan

/-- Too many digits and nothing else are read up to their end. -/
theorem stopsAtInteger_of_isWholePart {s : Text} (h : IsWholePart s)
    (hlong : digitLimit < s.length) : StopsAtInteger s s.length :=
  ⟨[], s, [], .value [], ofText_of_isWholePart h, rfl, rfl, hlong, _, [],
    Numeral.match?_of_isWholePart h, rfl, rfl⟩

/-- Ones, so many that they are no integer any more. -/
def ones : Text := Text.repeated 4301 '1'

theorem length_ones : ones.length = 4301 := List.length_replicate

theorem isWholePart_ones : IsWholePart ones where
  digits l hl := by
    rw [List.eq_of_mem_replicate hl]
    rfl
  ne_nil := List.ne_nil_of_length_pos (by rw [length_ones]; decide)
  zero h := absurd h (by decide)

theorem stopsAtInteger_ones : StopsAtInteger ones 4301 := by
  have hstops := stopsAtInteger_of_isWholePart isWholePart_ones (by rw [length_ones]; decide)
  rwa [length_ones] at hstops

end CommandAdvisor.Json
