import CommandAdvisor.Proofs.Record.Decoding
import CommandAdvisor.Proofs.Record.Printing
import CommandAdvisor.Proofs.Risk.Soundness

/-!
# The record of a verdict

The record of a verdict is decoded to that verdict. It names its level and holds nothing but texts
besides, so it is printed and read back exactly if its texts are sound; and this is the case
exactly if the command line is, where the registry holds sound texts.

## Main statements
* `Analysis.decode_encode`: the record of a verdict is decoded to it.
* `Analysis.returns_encode_iff`: the verdicts that are printed and read back.
* `returns_assess_iff`: the command lines whose verdicts are.
-/
namespace CommandAdvisor.Risk

open Json (Dialect Style Value)
open Record

/-- A level is known by its name. -/
theorem Level.choice_name (l : Level) : Decoder.choice ofName? (.string l.name) = .valid l := by
  simp [Decoder.choice, Decoder.reading, Decoder.orElse, l.isSound_name]

namespace Analysis

theorem decode_encode (a : Analysis) : decode a.encode = .valid a := by
  have hlist (texts : List Text) :
      Decoder.tuple .text (.array (texts.map .string)) = .valid texts :=
    Decoder.list_encode Decoder.text_string texts
  have houtput : Decoder.optional .text ((a.mockOutput.map Value.string).getD .null) =
      .valid a.mockOutput := Decoder.optional_encode Decoder.text_string (by simp) a.mockOutput
  simp [decode, encode, Decoder.record, required, withDefault, Value.find?, List.lookup_cons,
    Decoder.text, Decoder.flag, Level.choice_name, hlist, houtput]

theorem keepsNumbers_encode {d : Dialect} {style : Style} (a : Analysis) :
    a.encode.KeepsNumbers d style :=
  ⟨trivial, trivial, trivial, Value.keepsNumbers_strings a.warnings,
    Value.keepsNumbers_nullable a.mockOutput, trivial, Value.keepsNumbers_strings a.alternatives,
    Value.keepsNumbers_strings a.safeFlags, trivial⟩

theorem depth_encode_le (a : Analysis) : a.encode.depth ≤ 2 := by
  refine Value.depth_object_le ?_
  simp [Value.depth_strings_le]

/-- **A verdict is printed and read back exactly if its texts are sound.** -/
theorem returns_encode_iff (a : Analysis) :
    Returns decode a.encode a ↔ ∀ t ∈ a.texts, t.isSound = true :=
  (returns_iff a.decode_encode (fun _ => a.keepsNumbers_encode)
    (Nat.le_trans a.depth_encode_le (by decide))).trans isSound_encode

end Analysis

/-- A verdict of sound tables is printed and read back exactly if the command line is sound. -/
theorem returns_assess_iff {r : Registry} (hr : r.IsSound) (line : Text) :
    Returns Analysis.decode (assess r line).encode (assess r line) ↔ line.isSound = true :=
  (assess r line).returns_encode_iff.trans (isSound_assess_iff hr line)

end CommandAdvisor.Risk
