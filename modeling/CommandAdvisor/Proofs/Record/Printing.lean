import CommandAdvisor.Proofs.Json.Bytes
import CommandAdvisor.Proofs.Json.Nesting
import CommandAdvisor.Record.Decoder

/-!
# Records that are printed

A value can be printed for others to read exactly if its strings are sound. What is printed of a
record is then read back in two ways: by the free reader, who takes it as a text and never runs out
of room, and by the strict one, who takes it as bytes.

## Main definitions
* `ReadsBack`: both readers find a result of a decoder in a text.
* `Returns`: a record is printed and read back.

## Main statements
* `Value.writeExchange_eq_ok_iff`: what can be printed, and how.
* `returns_iff`: a record is printed and read back exactly if it is sound.
-/
namespace CommandAdvisor

theorem Json.Value.writeExchange_eq_ok_iff {v : Json.Value} {text : Text} :
    v.writeExchange = .ok text ↔ v.IsSound ∧ v.write .exchange .indented = text := by
  rw [writeExchange, IsSound]
  cases v.obstacle? <;> simp

namespace Record

open Json (Dialect Value)

variable {α : Type}

/-- Both readers find a value in a text, and a decoder makes the same of either. -/
structure ReadsBack (decode : Decoder α) (text : Text) (a : α) : Prop where
  /-- The text can be sent as bytes. -/
  isSound : text.isSound = true
  hasRoom : ∀ room, Json.exhaustion? room text = none
  read : ∃ v, Json.read .free text = .ok v ∧ decode v = .valid a
  readBytes : ∃ v, Json.readBytes text.asString.toUTF8 = some v ∧ decode v = .valid a

/-- What is printed of a sound value is read back by both readers. -/
theorem readsBack_write {decode : Decoder α} {v : Value} {a : α} (hdecode : decode v = .valid a)
    (hs : v.IsSound) (hn : ∀ d, v.KeepsNumbers d .exchange) (hd : v.depth ≤ 4) :
    ReadsBack decode (v.write .exchange .indented) a := by
  have hadmits (d : Dialect) : d.Admits v.depth := d.admits_of_le (Nat.le_trans hd (by decide))
  exact {
    isSound := Value.isSound_write .exchange .indented hs
    hasRoom := fun _ => Value.exhaustion?_write hs hd
    read := ⟨v, Value.read_write hs (hn .free) (hadmits .free), hdecode⟩
    readBytes := ⟨v, Value.readBytes_write hs (hn .strict) (hadmits .strict), hdecode⟩ }

/-- A record is printed for others to read, and what it is the record of is read back. -/
def Returns (decode : Decoder α) (v : Value) (a : α) : Prop :=
  ∃ text, v.writeExchange = .ok text ∧ ReadsBack decode text a

/-- **A record is printed and read back exactly if it is sound.** -/
theorem returns_iff {decode : Decoder α} {v : Value} {a : α} (hdecode : decode v = .valid a)
    (hn : ∀ d, v.KeepsNumbers d .exchange) (hd : v.depth ≤ 4) :
    Returns decode v a ↔ v.IsSound := by
  constructor
  · rintro ⟨text, hwrite, -⟩
    exact (Value.writeExchange_eq_ok_iff.1 hwrite).1
  · intro hs
    exact ⟨_, Value.writeExchange_eq_ok_iff.2 ⟨hs, rfl⟩, readsBack_write hdecode hs hn hd⟩

end Record

end CommandAdvisor
