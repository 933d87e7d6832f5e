import CommandAdvisor.Command.Token
import CommandAdvisor.Record.Decoder
import CommandAdvisor.Record.Schema

/-!
# Tokens as records

The form in which tokens are exchanged.
-/
namespace CommandAdvisor.Command

open Json (Value)
open Record

/-- The definition of the kinds of tokens. -/
def TokenKind.definition : Definition :=
  .choice "TokenKind" "Lexical category of a token." (TokenKind.all.map TokenKind.name)

namespace Token

/-- A token as a JSON value. -/
def encode (t : Token) : Value :=
  .object [("text", .string t.text), ("kind", .string t.kind.name)]

/-- The token that a JSON value is. -/
def decode : Decoder Token :=
  .record fun m => Token.mk <$> required "text" .text m <*>
    required "kind" (.choice TokenKind.ofName?) m

/-- The schema of a token. -/
def schema : Schema where
  name := "Token"
  description := "A classified substring of a command line."
  fields := [.needed "text" .text, .needed "kind" (.named "TokenKind")]
  definitions := [TokenKind.definition]

/-- What is written is read back. -/
@[simp] theorem decode_encode (t : Token) : decode t.encode = .valid t := by
  have h : t.kind.name.isSound := by cases t.kind <;> simp [TokenKind.name]
  simp [decode, encode, Decoder.record, required, Value.find?, Decoder.text, Decoder.choice,
    Decoder.reading, Decoder.orElse, List.lookup_cons, h]

end Token

end CommandAdvisor.Command
