import CommandAdvisor.Command.Record
import CommandAdvisor.Proofs.Command.Segmentation
import CommandAdvisor.Proofs.Json.Nesting
import CommandAdvisor.Proofs.Text.Soundness

/-!
# The record of tokens

The tokens of a sound command line hold sound texts, so their records are written as they are, and
what is written is read again as the records of the same tokens.

## Main statements
* `isSound_of_mem_tokenize`: the tokens of a sound line are sound.
* `read_write_tokens`: what is written of tokens is read as their records.
* `exhaustion?_write_tokens`: there is always room to read it.
-/
namespace CommandAdvisor.Command

open Json (Arrangement Dialect Style Value)

theorem TokenKind.isSound_name (k : TokenKind) : k.name.isSound = true := by
  cases k <;> exact Text.isSound_ofString _

namespace Token

theorem isSound_encode {t : Token} : t.encode.IsSound ↔ t.text.isSound = true := by
  simp [encode, Value.isSound_object, Value.isSound_string, TokenKind.isSound_name]

theorem keepsNumbers_encode {d : Dialect} {style : Style} (t : Token) :
    t.encode.KeepsNumbers d style := ⟨trivial, trivial, trivial⟩

theorem depth_encode_le (t : Token) : t.encode.depth ≤ 1 :=
  Value.depth_object_le (by simp)

end Token

/-- The tokens of a sound line are sound, since they make up the line. -/
theorem isSound_of_mem_tokenize {known : List Text} {line : Text} (h : line.isSound = true) :
    ∀ t ∈ tokenize known line, t.text.isSound = true := by
  rw [← join_tokenize known line, Text.isSound_iff_forall, Token.join,
    List.forall_mem_flatMap] at h
  exact fun t ht => Text.isSound_iff_forall.2 (h t ht)

section Written

variable {tokens : List Token} (h : ∀ t ∈ tokens, t.text.isSound = true) {rest : Text}
  (hrest : ∀ l ∈ rest, Json.isSpace l = true)

include h

theorem isSound_array_encode : (Value.array (tokens.map Token.encode)).IsSound :=
  Value.isSound_array.2 (List.forall_mem_map.2 fun t ht => Token.isSound_encode.2 (h t ht))

include hrest

/-- **What is written of tokens is read as their records,** whatever white space is behind it. -/
theorem read_write_tokens (d : Dialect) (style : Style) (a : Arrangement) :
    Json.read d ((Value.array (tokens.map Token.encode)).write style a ++ rest) =
      .ok (.array (tokens.map Token.encode)) := by
  have hdepth := Value.depth_array_map_le tokens Token.depth_encode_le
  exact Value.read_write_append (isSound_array_encode h)
    (Value.keepsNumbers_array_map tokens Token.keepsNumbers_encode)
    (d.admits_of_le (Nat.le_trans hdepth (by decide))) hrest

/-- There is always room to read it. -/
theorem exhaustion?_write_tokens (room : Json.Room) (style : Style) (a : Arrangement) :
    Json.exhaustion? room ((Value.array (tokens.map Token.encode)).write style a ++ rest) =
      none := by
  have hdepth := Value.depth_array_map_le tokens Token.depth_encode_le
  exact Value.exhaustion?_write_append (isSound_array_encode h)
    (Nat.le_trans hdepth (by decide)) hrest

end Written

end CommandAdvisor.Command
