import CommandAdvisor.Proofs.Json.Lexemes
import CommandAdvisor.Record.Decoder

/-!
# Decoders, forwards and backwards

A record is decoded field by field. Forwards, a list of encoded values is decoded to what
was encoded. Backwards, a result that is there has a result behind each of its fields, and
what a decoder makes of a sound value is made of sound texts.

## Main definitions
* `Decoder.Yields`: every result of a decoder has a property.

## Main statements
* `Decoder.list_encode`: encoded items are decoded.
* `Decoder.withDefault_optional_encode`: a value that is left out where there is none is decoded.
* `Decoder.yields_list`, `yields_required` and `yields_withDefault`: properties of results
  are properties of their parts.
-/
namespace CommandAdvisor.Record

open Json (Value)
open Json.Value (Members)

namespace Validated

variable {α β : Type}

theorem seq_eq_valid_iff {f : Validated (α → β)} {a : Validated α} {b : β} :
    f <*> a = .valid b ↔ ∃ g x, f = .valid g ∧ a = .valid x ∧ g x = b := by
  have hseq : f <*> a = f.apply a := rfl
  rw [hseq]
  cases f with
  | valid g => cases a <;> simp [apply]
  | invalid issues => cases a <;> simp [apply]

theorem map_eq_valid_iff {f : α → β} {a : Validated α} {b : β} :
    f <$> a = .valid b ↔ ∃ x, a = .valid x ∧ f x = b := by
  have hmap : f <$> a = (valid f).apply a := rfl
  rw [hmap]
  cases a <;> simp [apply]

theorem under_eq_valid_iff {step : Step} {a : Validated α} {b : α} :
    a.under step = .valid b ↔ a = .valid b := by
  cases a <;> simp [under]

end Validated

namespace Decoder

variable {α : Type}

/-! ## Forwards -/

theorem text_string (s : Text) : text (.string s) = .valid s := rfl

theorem flag_bool (b : Bool) : flag (.bool b) = .valid b := rfl

theorem items_encode {d : Decoder α} {encode : α → Value} (h : ∀ a, d (encode a) = .valid a)
    (n : Nat) (as : List α) : items d n (as.map encode) = .valid as := by
  induction as generalizing n with
  | nil => rfl
  | cons a as ih => simp [items, h, ih]

/-- Encoded items are decoded. -/
theorem list_encode {d : Decoder α} {encode : α → Value} (h : ∀ a, d (encode a) = .valid a)
    (as : List α) : list d (.array (as.map encode)) = .valid as := items_encode h 0 as

/-- What is there or `null` is decoded. -/
theorem optional_encode {d : Decoder α} {encode : α → Value} (h : ∀ a, d (encode a) = .valid a)
    (hnull : ∀ a, encode a ≠ .null) (a : Option α) :
    optional d ((a.map encode).getD .null) = .valid a := by
  cases a with
  | none => rfl
  | some a =>
    have heq : optional d (encode a) = some <$> d (encode a) := by
      cases hv : encode a with
      | null => exact absurd hv (hnull a)
      | _ => rfl
    simp [heq, h]

/-- A field whose member is an encoded value. -/
theorem withDefault_encode {d : Decoder α} {name : Text} {otherwise a : α} {members : Members}
    {v : Value} (hv : Value.find? name members = some v) (h : d v = .valid a) :
    withDefault name otherwise d members = .valid a := by
  rw [withDefault, hv]
  exact Validated.under_eq_valid_iff.2 h

/-- A field that is left out where there is no value. -/
theorem withDefault_optional_encode {d : Decoder α} {encode : α → Value} {name : Text}
    {members : Members} (h : ∀ a, d (encode a) = .valid a) (hnull : ∀ a, encode a ≠ .null)
    {a : Option α} (ha : Value.find? name members = a.map encode) :
    withDefault name none (.optional d) members = .valid a := by
  cases a with
  | none => rw [withDefault, ha]; rfl
  | some a => exact withDefault_encode ha (optional_encode h hnull (some a))

/-! ## Backwards -/

/-- Whatever a decoder makes of a sound value has a property. -/
def Yields (d : Decoder α) (P : α → Prop) : Prop :=
  ∀ v a, v.IsSound → d v = .valid a → P a

variable {d : Decoder α} {P : α → Prop}

theorem yields_text : Yields text fun s => s.isSound = true := by
  intro v s hv h
  cases v with
  | string t =>
    cases h
    exact Value.isSound_string.1 hv
  | _ => cases h

theorem yields_optional (h : d.Yields P) : (optional d).Yields fun a => ∀ x ∈ a, P x := by
  intro v a hv ha
  by_cases hnull : v = .null
  · subst hnull
    cases ha
    simp
  · have heq : optional d v = some <$> d v := by
      cases v with
      | null => exact absurd rfl hnull
      | _ => rfl
    rw [heq, Validated.map_eq_valid_iff] at ha
    obtain ⟨x, hx, rfl⟩ := ha
    simpa using h v x hv hx

theorem yields_items (h : d.Yields P) {n : Nat} {vs : List Value} (hvs : ∀ v ∈ vs, v.IsSound)
    {as : List α} (has : items d n vs = .valid as) : ∀ a ∈ as, P a := by
  induction vs generalizing n as with
  | nil =>
    cases has
    simp
  | cons v vs ih =>
    simp only [items, Validated.seq_eq_valid_iff, Validated.map_eq_valid_iff,
      Validated.under_eq_valid_iff] at has
    obtain ⟨_, rest, ⟨a, ha, rfl⟩, hrest, rfl⟩ := has
    have hfirst := h v a (hvs v List.mem_cons_self) ha
    have htail := ih (fun w hw => hvs w (List.mem_cons_of_mem v hw)) hrest
    exact List.forall_mem_cons.2 ⟨hfirst, htail⟩

theorem yields_list (h : d.Yields P) : (list d).Yields fun as => ∀ a ∈ as, P a := by
  intro v as hv has
  cases v with
  | array vs => exact yields_items h (Value.isSound_array.1 hv) has
  | _ => cases has

/-- A record is decoded from the members of an object. -/
theorem yields_record {fields : Members → Validated α}
    (h : ∀ members a, (∀ m ∈ members, m.2.IsSound) → fields members = .valid a → P a) :
    (record fields).Yields P := by
  intro v a hv ha
  cases v with
  | object members => exact h members a (fun m hm => (Value.isSound_object.1 hv m hm).2) ha
  | _ => cases ha

end Decoder

variable {α : Type} {d : Decoder α} {P : α → Prop} {name : Text} {members : Members}

theorem isSound_of_find? (h : ∀ m ∈ members, m.2.IsSound) {v : Value}
    (hv : Value.find? name members = some v) : v.IsSound := by
  obtain ⟨before, after, heq, -⟩ := List.lookup_eq_some_iff.1 hv
  have hmem : (name, v) ∈ members.reverse := by
    rw [heq]
    simp
  exact h _ (List.mem_reverse.1 hmem)

theorem yields_required (hd : d.Yields P) (h : ∀ m ∈ members, m.2.IsSound) {a : α}
    (ha : required name d members = .valid a) : P a := by
  rw [required] at ha
  split at ha
  · next v hv => exact hd v a (isSound_of_find? h hv) (Validated.under_eq_valid_iff.1 ha)
  · cases ha

theorem yields_withDefault (hd : d.Yields P) (h : ∀ m ∈ members, m.2.IsSound) {otherwise a : α}
    (hP : P otherwise) (ha : withDefault name otherwise d members = .valid a) : P a := by
  rw [withDefault] at ha
  split at ha
  · next v hv => exact hd v a (isSound_of_find? h hv) (Validated.under_eq_valid_iff.1 ha)
  · cases ha
    exact hP

end CommandAdvisor.Record
