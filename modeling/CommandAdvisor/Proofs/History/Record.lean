import CommandAdvisor.History.Entry
import CommandAdvisor.Proofs.Explanation.Record
import CommandAdvisor.Proofs.Json.Soundness
import CommandAdvisor.Proofs.Risk.Record

/-!
# Stored entries are read back

Entries are stored as records. The record of an entry is decoded to that entry, and it can
be written and read if the texts of the entry hold no half of a surrogate pair and its time
is read back from its digits. A file that is read holds only entries with such texts.

## Main definitions
* `Entry.texts` and `Entry.IsSound`: the texts of an entry, and that all of them are sound.
* `Entry.KeepsTime`: the time of an entry is read back from its digits.

## Main statements
* `decodeEntries_encodeEntries`: the record of entries is decoded to them.
* `readBytes_encodeEntries`: the bytes that are written for entries are read as their record.
* `isSound_of_decodeEntries`: entries decoded from a sound value are sound.
-/
namespace CommandAdvisor

open Json (Value Dialect Style)
open Record

namespace History

open Explanation (Part Example)

namespace Entry

/-- The texts of an entry. -/
def texts (e : Entry) : List Text :=
  e.id :: e.command :: e.overall :: e.safetyNotes ::
    (e.parts.flatMap Part.texts ++ e.examples.flatMap Example.texts ++ e.tags)

/-- No text of an entry holds half of a surrogate pair. -/
def IsSound (e : Entry) : Prop := ∀ t ∈ e.texts, t.isSound = true

instance (e : Entry) : Decidable e.IsSound :=
  inferInstanceAs (Decidable (∀ t ∈ e.texts, t.isSound = true))

/-- The time of an entry is read back from its digits. -/
def KeepsTime (e : Entry) : Prop :=
  Dialect.strict.scalar (Json.writeReal .portable e.timestamp) = .ok (.real e.timestamp)

theorem decode_encode (e : Entry) : decode e.encode = .valid e := by
  have hparts : Decoder.list Part.decode (.array (e.parts.map Part.encode)) = .valid e.parts :=
    Decoder.list_encode Part.decode_encode e.parts
  have hexamples : Decoder.list Example.decode (.array (e.examples.map Example.encode)) =
      .valid e.examples := Decoder.list_encode Example.decode_encode e.examples
  have htags : Decoder.list .text (.array (e.tags.map .string)) = .valid e.tags :=
    Decoder.list_encode Decoder.text_string e.tags
  have hlevel : Decoder.optional (.choice Risk.Level.ofName?)
      ((e.level.map fun l => Value.string l.name).getD .null) = .valid e.level :=
    Decoder.optional_encode Risk.Level.choice_name (by simp) e.level
  simp [decode, encode, Decoder.record, required, withDefault, Value.find?, List.lookup_cons,
    Decoder.text, Decoder.real, Decoder.flag, hparts, hexamples, htags, hlevel]

theorem isSound_encode {e : Entry} : e.encode.IsSound ↔ e.IsSound := by
  have hparts := Value.isSound_array_map @Part.isSound_encode e.parts
  have hexamples := Value.isSound_array_map @Example.isSound_encode e.examples
  have hlevel : ((e.level.map fun l => Value.string l.name).getD .null).IsSound := by
    cases e.level with
    | none => rfl
    | some l => exact Value.isSound_string.2 l.isSound_name
  have hreal : (Value.real e.timestamp).IsSound := rfl
  have hbool : (Value.bool e.isFavorite).IsSound := rfl
  simp only [encode, Value.isSound_object, List.forall_mem_cons, Text.isSound_ofString,
    Value.isSound_string, Value.isSound_strings, hparts, hexamples, hlevel, hreal, hbool, true_and,
    IsSound, texts, List.forall_mem_append]
  grind

theorem yields_decode : decode.Yields IsSound := by
  refine Decoder.yields_record ?_
  intro members e hm he
  simp only [Validated.seq_eq_valid_iff, Validated.map_eq_valid_iff] at he
  obtain ⟨_, tags, ⟨_, _, ⟨_, _, ⟨_, _, ⟨_, examples, ⟨_, notes, ⟨_, overall, ⟨_, parts,
    ⟨_, command, ⟨id, hid, rfl⟩, hcommand, rfl⟩, hparts, rfl⟩, hoverall, rfl⟩, hnotes, rfl⟩,
    hexamples, rfl⟩, -, rfl⟩, -, rfl⟩, -, rfl⟩, htags, rfl⟩ := he
  have hidSound := yields_required Decoder.yields_text hm hid
  have hcommandSound := yields_required Decoder.yields_text hm hcommand
  have hpartsSound := yields_withDefault (Decoder.yields_list Part.yields_decode) hm (by simp) hparts
  have hoverallSound := yields_withDefault Decoder.yields_text hm (by simp) hoverall
  have hnotesSound := yields_withDefault Decoder.yields_text hm (by simp) hnotes
  have hexamplesSound := yields_withDefault (Decoder.yields_list Example.yields_decode) hm (by simp)
    hexamples
  have htagsSound := yields_withDefault (Decoder.yields_list Decoder.yields_text) hm (by simp) htags
  simp only [IsSound, texts, List.forall_mem_cons, List.forall_mem_append, List.forall_mem_flatMap]
  exact ⟨hidSound, hcommandSound, hoverallSound, hnotesSound, ⟨hpartsSound, hexamplesSound⟩,
    htagsSound⟩

/-- An entry keeps its numbers if it keeps its time, the only one. -/
theorem keepsNumbers_encode {e : Entry} (h : e.KeepsTime) :
    e.encode.KeepsNumbers .strict .portable := by
  have hlevel : ((e.level.map fun l => Value.string l.name).getD .null).KeepsNumbers .strict
      .portable := by
    cases e.level <;> trivial
  have hparts : (Value.array (e.parts.map Part.encode)).KeepsNumbers .strict .portable :=
    Value.keepsNumbers_array_map e.parts Part.keepsNumbers_encode
  have hexamples : (Value.array (e.examples.map Example.encode)).KeepsNumbers .strict .portable :=
    Value.keepsNumbers_array_map e.examples Example.keepsNumbers_encode
  exact ⟨trivial, trivial, hparts, trivial, trivial, hexamples, hlevel, h, trivial,
    Value.keepsNumbers_strings e.tags, trivial⟩

/-- There are no integers in an entry. -/
theorem isOversized_encode (e : Entry) : e.encode.isOversized = false := by
  have hlevel : ((e.level.map fun l => Value.string l.name).getD .null).isOversized = false := by
    cases e.level <;> rfl
  have hlist {α : Type} {encode : α → Value} (as : List α)
      (ha : ∀ a, (encode a).isOversized = false) :
      (Value.array (as.map encode)).isOversized = false :=
    Value.isOversized_array.2 (List.forall_mem_map.2 fun a _ => ha a)
  have hpart (p : Part) : p.encode.isOversized = false := by
    simp [Part.encode, Value.isOversized_object]
  have hexample (x : Example) : x.encode.isOversized = false := by
    simp [Example.encode, Value.isOversized_object]
  have hparts := hlist e.parts hpart
  have hexamples := hlist e.examples hexample
  have htags := hlist e.tags Value.isOversized_string
  simp [encode, Value.isOversized_object, hlevel, hparts, hexamples, htags]

theorem depth_encode_le (e : Entry) : e.encode.depth ≤ 3 := by
  have hlevel : ((e.level.map fun l => Value.string l.name).getD .null).depth = 0 := by
    cases e.level <;> rfl
  have hparts := Value.depth_array_map_le e.parts Part.depth_encode_le
  have hexamples := Value.depth_array_map_le e.examples Example.depth_encode_le
  have htags := Nat.le_succ_of_le (Value.depth_strings_le e.tags)
  exact Value.depth_object_le (by simp [hlevel, hparts, hexamples, htags])

end Entry

/-- **The record of entries is decoded to them.** -/
theorem decodeEntries_encodeEntries (entries : List Entry) :
    decodeEntries (encodeEntries entries) = .valid entries :=
  Decoder.list_encode Entry.decode_encode entries

theorem isSound_encodeEntries {entries : List Entry} :
    (encodeEntries entries).IsSound ↔ ∀ e ∈ entries, e.IsSound := by
  simp only [encodeEntries, Value.isSound_array, List.forall_mem_map, Entry.isSound_encode]

/-- Entries are written to the end. -/
theorem isOversized_encodeEntries (entries : List Entry) :
    (encodeEntries entries).isOversized = false :=
  Value.isOversized_array.2 (List.forall_mem_map.2 fun e _ => e.isOversized_encode)

/-- **The bytes that are written for sound entries are read as their record.** -/
theorem readBytes_encodeEntries {entries : List Entry} (hs : ∀ e ∈ entries, e.IsSound)
    (ht : ∀ e ∈ entries, e.KeepsTime) :
    Json.readBytes ((encodeEntries entries).write .portable .indented).asString.toUTF8 =
      some (encodeEntries entries) := by
  have hnumbers : (encodeEntries entries).KeepsNumbers .strict .portable :=
    Value.itemsKeepNumbers_iff.2
      (List.forall_mem_map.2 fun e he => Entry.keepsNumbers_encode (ht e he))
  have hdepth : (encodeEntries entries).depth ≤ 4 :=
    Value.depth_array_map_le entries Entry.depth_encode_le
  exact Value.readBytes_write (isSound_encodeEntries.2 hs) hnumbers
    (Dialect.strict.admits_of_le (Nat.le_trans hdepth (by decide)))

/-- Entries decoded from a sound value are sound. -/
theorem isSound_of_decodeEntries {v : Value} (hv : v.IsSound) {entries : List Entry}
    (h : decodeEntries v = .valid entries) : ∀ e ∈ entries, e.IsSound :=
  Decoder.yields_list Entry.yields_decode v entries hv h

end History

end CommandAdvisor
