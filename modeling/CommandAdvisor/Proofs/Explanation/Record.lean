import CommandAdvisor.Explanation.Basic
import CommandAdvisor.Proofs.Record.Decoding
import CommandAdvisor.Proofs.Record.Printing

/-!
# The record of an explanation

The record of an explanation is decoded to that explanation, and it holds nothing but texts. So it
is printed and read back exactly if these are sound. An explanation that is decoded from sound
texts has sound texts itself.

## Main definitions
* `Part.texts`, `Example.texts` and `Explanation.texts`: what an explanation says.

## Main statements
* `Explanation.decode_encode`: the record of an explanation is decoded to it.
* `Explanation.returns_encode_iff`: the explanations that are printed and read back.
* `Explanation.yields_decode`: explanations from sound values are sound.
-/
namespace CommandAdvisor

open Json (Dialect Style Value)
open Record

namespace Explanation

namespace Part

/-- The texts of a part. -/
def texts (p : Part) : List Text := p.text :: p.type :: p.explanation :: p.manPage.toList

theorem decode_encode (p : Part) : decode p.encode = .valid p := by
  have hpage : Decoder.optional .text ((p.manPage.map Value.string).getD .null) =
      .valid p.manPage := Decoder.optional_encode Decoder.text_string (by simp) p.manPage
  simp [decode, encode, Decoder.record, required, withDefault, Value.find?, List.lookup_cons,
    Decoder.text, hpage]

theorem isSound_encode {p : Part} : p.encode.IsSound ↔ ∀ t ∈ p.texts, t.isSound = true := by
  simp [encode, texts, Value.isSound_object, Value.isSound_string, Value.isSound_nullable]

theorem keepsNumbers_encode {d : Dialect} {style : Style} (p : Part) :
    p.encode.KeepsNumbers d style :=
  ⟨trivial, trivial, trivial, Value.keepsNumbers_nullable p.manPage, trivial⟩

theorem depth_encode_le (p : Part) : p.encode.depth ≤ 1 :=
  Value.depth_object_le (by simp)

theorem yields_decode : decode.Yields fun p => ∀ t ∈ p.texts, t.isSound = true := by
  refine Decoder.yields_record ?_
  intro members p hm hp
  simp only [Validated.seq_eq_valid_iff, Validated.map_eq_valid_iff] at hp
  obtain ⟨_, page, ⟨_, explanation, ⟨_, type, ⟨text, htext, rfl⟩, htype, rfl⟩, hexplanation, rfl⟩,
    hpage, rfl⟩ := hp
  have hpageSound := yields_withDefault (Decoder.yields_optional Decoder.yields_text) hm
    (by simp) hpage
  have htypeSound := yields_required Decoder.yields_text hm htype
  have htextSound := yields_required Decoder.yields_text hm htext
  have hexplanationSound := yields_withDefault Decoder.yields_text hm (by simp) hexplanation
  simpa [texts] using ⟨htextSound, htypeSound, hexplanationSound, hpageSound⟩

end Part

namespace Example

/-- The texts of a similar command. -/
def texts (e : Example) : List Text := [e.command, e.description]

theorem decode_encode (e : Example) : decode e.encode = .valid e := by
  simp [decode, encode, Decoder.record, required, withDefault, Value.find?, List.lookup_cons,
    Decoder.text]

theorem isSound_encode {e : Example} : e.encode.IsSound ↔ ∀ t ∈ e.texts, t.isSound = true := by
  simp [encode, texts, Value.isSound_object, Value.isSound_string]

theorem keepsNumbers_encode {d : Dialect} {style : Style} (e : Example) :
    e.encode.KeepsNumbers d style := ⟨trivial, trivial, trivial⟩

theorem depth_encode_le (e : Example) : e.encode.depth ≤ 1 :=
  Value.depth_object_le (by simp)

theorem yields_decode : decode.Yields fun e => ∀ t ∈ e.texts, t.isSound = true := by
  refine Decoder.yields_record ?_
  intro members e hm he
  simp only [Validated.seq_eq_valid_iff, Validated.map_eq_valid_iff] at he
  obtain ⟨_, description, ⟨command, hcommand, rfl⟩, hdescription, rfl⟩ := he
  have hcommandSound := yields_required Decoder.yields_text hm hcommand
  have hdescriptionSound := yields_withDefault Decoder.yields_text hm (by simp) hdescription
  simpa [texts] using ⟨hcommandSound, hdescriptionSound⟩

end Example

/-- The texts of an explanation. -/
def texts (e : Explanation) : List Text :=
  e.parts.flatMap Part.texts ++ e.overall :: e.safetyNotes :: e.examples.flatMap Example.texts

theorem decode_encode (e : Explanation) : decode e.encode = .valid e := by
  have hparts : Decoder.list Part.decode (.array (e.parts.map Part.encode)) = .valid e.parts :=
    Decoder.list_encode Part.decode_encode e.parts
  have hexamples : Decoder.list Example.decode (.array (e.examples.map Example.encode)) =
      .valid e.examples := Decoder.list_encode Example.decode_encode e.examples
  simp [decode, encode, Decoder.record, withDefault, Value.find?, List.lookup_cons, Decoder.text,
    hparts, hexamples]

theorem isSound_encode {e : Explanation} :
    e.encode.IsSound ↔ ∀ t ∈ e.texts, t.isSound = true := by
  have hparts := Value.isSound_array_map @Part.isSound_encode e.parts
  have hexamples := Value.isSound_array_map @Example.isSound_encode e.examples
  simp only [encode, texts, Value.isSound_object, Value.isSound_string, hparts, hexamples,
    List.forall_mem_cons, List.forall_mem_append, Text.isSound_ofString, true_and]
  simp

theorem keepsNumbers_encode {d : Dialect} {style : Style} (e : Explanation) :
    e.encode.KeepsNumbers d style :=
  ⟨Value.keepsNumbers_array_map e.parts Part.keepsNumbers_encode, trivial, trivial,
    Value.keepsNumbers_array_map e.examples Example.keepsNumbers_encode, trivial⟩

theorem depth_encode_le (e : Explanation) : e.encode.depth ≤ 3 := by
  have hparts := Value.depth_array_map_le e.parts Part.depth_encode_le
  have hexamples := Value.depth_array_map_le e.examples Example.depth_encode_le
  exact Value.depth_object_le (by simp [hparts, hexamples])

/-- **An explanation is printed and read back exactly if its texts are sound.** -/
theorem returns_encode_iff (e : Explanation) :
    Returns decode e.encode e ↔ ∀ t ∈ e.texts, t.isSound = true :=
  (returns_iff e.decode_encode (fun _ => e.keepsNumbers_encode)
    (Nat.le_trans e.depth_encode_le (by decide))).trans isSound_encode

theorem yields_decode : decode.Yields fun e => ∀ t ∈ e.texts, t.isSound = true := by
  refine Decoder.yields_record ?_
  intro members e hm he
  simp only [Validated.seq_eq_valid_iff, Validated.map_eq_valid_iff] at he
  obtain ⟨_, examples, ⟨_, notes, ⟨_, overall, ⟨parts, hparts, rfl⟩, hoverall, rfl⟩, hnotes, rfl⟩,
    hexamples, rfl⟩ := he
  have hpartsSound := yields_withDefault (Decoder.yields_list Part.yields_decode) hm (by simp) hparts
  have hoverallSound := yields_withDefault Decoder.yields_text hm (by simp) hoverall
  have hnotesSound := yields_withDefault Decoder.yields_text hm (by simp) hnotes
  have hexamplesSound := yields_withDefault (Decoder.yields_list Example.yields_decode) hm (by simp)
    hexamples
  simp only [texts, List.forall_mem_cons, List.forall_mem_append, List.forall_mem_flatMap]
  exact ⟨hpartsSound, hoverallSound, hnotesSound, hexamplesSound⟩

end Explanation

end CommandAdvisor
