import CommandAdvisor.Json.Reading
import CommandAdvisor.Proofs.Json.Lexemes

/-!
# The strict dialect reads sound values

The strict dialect refuses a string with half of a surrogate pair in it. So everything that
a reader has put together part way through is sound, whatever it was given, and the value in
the end is.

## Main definitions
* `Frame.IsSound` and `Assembly.IsSound`: what has been read so far is sound.

## Main statements
* `Assembly.isSound_step`: one lexeme leaves what has been read sound.
* `isSound_of_read` and `isSound_of_readBytes`: what is read is sound.
-/
namespace CommandAdvisor.Json

open Value (isSound_array isSound_object isSound_string)

/-- A result of two steps has a result of the first behind it. -/
theorem exists_of_bind_eq_ok {ε α β : Type} {x : Except ε α} {f : α → Except ε β} {b : β}
    (h : x >>= f = .ok b) : ∃ a, x = .ok a ∧ f a = .ok b := by
  cases x with
  | error e => cases h
  | ok a => exact ⟨a, rfl, h⟩

theorem exists_of_map_eq_ok {ε α β : Type} {x : Except ε α} {f : α → β} {b : β}
    (h : x.map f = .ok b) : ∃ a, x = .ok a ∧ f a = b := by
  cases x with
  | error e => cases h
  | ok a => exact ⟨a, rfl, Except.ok.inj h⟩

/-- What a container part way through holds is sound. -/
def Frame.IsSound : Frame → Prop
  | .array before => ∀ v ∈ before, v.IsSound
  | .object before name =>
    name.isSound = true ∧ ∀ m ∈ before, m.1.isSound = true ∧ m.2.IsSound

/-- Everything that has been read so far is sound. -/
def Assembly.IsSound : Assembly → Prop
  | .value stack | .firstItem stack | .firstName stack => ∀ f ∈ stack, f.IsSound
  | .name before stack =>
    (∀ m ∈ before, m.1.isSound = true ∧ m.2.IsSound) ∧ ∀ f ∈ stack, f.IsSound
  | .colon before key stack =>
    (Frame.object before key).IsSound ∧ ∀ f ∈ stack, f.IsSound
  | .done v stack => v.IsSound ∧ ∀ f ∈ stack, f.IsSound

namespace Dialect

theorem isSound_of_scalar {d : Dialect} {word : Text} {v : Value} (h : d.scalar word = .ok v) :
    v.IsSound := by
  rw [scalar] at h
  split_ifs at h
  iterate 6
    obtain rfl := Except.ok.inj h
    rfl
  split at h
  · cases h
  · next n rest _ =>
    split at h
    · cases h
    · split_ifs at h
      obtain rfl := Except.ok.inj h
      cases d with
      | free =>
        simp only [number]
        split_ifs <;> rfl
      | strict =>
        simp only [number]
        split_ifs <;> rfl

theorem isSound_of_text {s t : Text} (h : strict.text s = .ok t) : t.isSound = true := by
  rw [text] at h
  split_ifs at h with hs
  obtain rfl := Except.ok.inj h
  simpa using hs

end Dialect

namespace Assembly

theorem isSound_stepValue {stack : List Frame} {l : Lexeme} {a : Assembly}
    (hs : ∀ f ∈ stack, f.IsSound) (h : stepValue .strict stack l = .ok a) : a.IsSound := by
  cases l with
  | openArray =>
    cases h
    exact hs
  | openObject =>
    cases h
    exact hs
  | body s =>
    obtain ⟨t, ht, rfl⟩ := exists_of_map_eq_ok h
    exact ⟨isSound_string.2 (Dialect.isSound_of_text ht), hs⟩
  | word s =>
    obtain ⟨v, hv, rfl⟩ := exists_of_map_eq_ok h
    exact ⟨Dialect.isSound_of_scalar hv, hs⟩
  | _ => cases h

theorem eq_of_push {d : Dialect} {frame : Frame} {stack pushed : List Frame}
    (h : push d frame stack = .ok pushed) : pushed = frame :: stack := by
  rw [push] at h
  split at h
  · split_ifs at h
    exact (Except.ok.inj h).symm
  · exact (Except.ok.inj h).symm

/-- One lexeme leaves what has been read sound. -/
theorem isSound_step {a b : Assembly} {l : Lexeme} (ha : a.IsSound)
    (h : step .strict a l = .ok b) : b.IsSound := by
  unfold step at h
  split at h
  · exact isSound_stepValue ha h
  · cases h
    exact ⟨isSound_array.2 (by simp), ha⟩
  · obtain ⟨pushed, hpushed, h⟩ := exists_of_bind_eq_ok h
    rw [eq_of_push hpushed] at h
    exact isSound_stepValue (List.forall_mem_cons.2 ⟨by simp [Frame.IsSound], ha⟩) h
  · cases h
    exact ⟨isSound_object.2 (by simp), ha⟩
  · obtain ⟨key, hkey, h⟩ := exists_of_bind_eq_ok h
    obtain ⟨pushed, -, h⟩ := exists_of_bind_eq_ok h
    cases h
    exact ⟨⟨Dialect.isSound_of_text hkey, by simp⟩, ha⟩
  · obtain ⟨key, hkey, h⟩ := exists_of_bind_eq_ok h
    cases h
    exact ⟨⟨Dialect.isSound_of_text hkey, ha.1⟩, ha.2⟩
  · cases h
    exact List.forall_mem_cons.2 ha
  · cases h
    obtain ⟨hv, hstack⟩ := ha
    obtain ⟨hframe, hstack⟩ := List.forall_mem_cons.1 hstack
    exact List.forall_mem_cons.2 ⟨List.forall_mem_cons.2 ⟨hv, hframe⟩, hstack⟩
  · cases h
    obtain ⟨hv, hstack⟩ := ha
    obtain ⟨hframe, hstack⟩ := List.forall_mem_cons.1 hstack
    refine ⟨isSound_array.2 ?_, hstack⟩
    intro w hw
    exact List.forall_mem_cons.2 ⟨hv, hframe⟩ w (List.mem_reverse.1 hw)
  · cases h
    obtain ⟨hv, hstack⟩ := ha
    obtain ⟨⟨hname, hbefore⟩, hstack⟩ := List.forall_mem_cons.1 hstack
    exact ⟨List.forall_mem_cons.2 ⟨⟨hname, hv⟩, hbefore⟩, hstack⟩
  · cases h
    obtain ⟨hv, hstack⟩ := ha
    obtain ⟨⟨hname, hbefore⟩, hstack⟩ := List.forall_mem_cons.1 hstack
    refine ⟨isSound_object.2 ?_, hstack⟩
    intro m hm
    exact List.forall_mem_cons.2 ⟨⟨hname, hv⟩, hbefore⟩ m (List.mem_reverse.1 hm)
  · cases h

/-- Any number of lexemes leave what has been read sound. -/
theorem isSound_foldlM {ls : List Lexeme} {a b : Assembly} (ha : a.IsSound)
    (h : ls.foldlM (step .strict) a = .ok b) : b.IsSound := by
  induction ls generalizing a with
  | nil =>
    cases h
    exact ha
  | cons l ls ih =>
    rw [List.foldlM_cons] at h
    obtain ⟨c, hc, h⟩ := exists_of_bind_eq_ok h
    exact ih (isSound_step ha hc) h

end Assembly

/-- **What the strict dialect reads is sound.** -/
theorem isSound_of_read {s : Text} {v : Value} (h : read .strict s = .ok v) : v.IsSound := by
  obtain ⟨a, ha, h⟩ := exists_of_bind_eq_ok h
  have hsound : a.IsSound := Assembly.isSound_foldlM (by simp [Assembly.IsSound]) ha
  unfold Assembly.result at h
  split at h
  · cases h
    exact hsound.1
  · cases h

theorem isSound_of_readBytes {content : ByteArray} {v : Value}
    (h : readBytes content = some v) : v.IsSound := by
  rw [readBytes] at h
  split at h
  · next s _ =>
    cases hread : read .strict s with
    | ok w =>
      rw [hread] at h
      obtain rfl := Option.some.inj h
      exact isSound_of_read hread
    | error fault =>
      rw [hread] at h
      cases h
  · cases h

end CommandAdvisor.Json
