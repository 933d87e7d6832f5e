import CommandAdvisor.Proofs.Json.RoundTrip
import CommandAdvisor.Proofs.Text.Soundness

/-!
# Values in files

A file holds the bytes of a text. The letters of a written value are its layout, which is
ASCII, and those with which its strings are written. So a sound value is written with
characters only, and nothing is lost on the way to the bytes and back; and what the portable
style writes is ASCII to the last byte.

## Main definitions
* `Letter.IsAscii`: the letters that are a byte each.

## Main statements
* `Value.forall_mem_writeAt`: what holds of ASCII and of written strings holds throughout.
* `Value.isSound_write` and `Value.isAscii_write`: the letters of a written value.
* `Value.readBytes_write`: the bytes that are written for a value are read as that value.
* `Text.lt_of_mem_toUTF8`: the bytes of ASCII.
-/
namespace CommandAdvisor

/-! ## Letters and their bytes -/

/-- A character of ASCII. -/
def Letter.IsAscii (l : Letter) : Prop := l.code < 0x80

instance (l : Letter) : Decidable l.IsAscii := inferInstanceAs (Decidable (l.code < 0x80))

theorem Letter.IsAscii.isChar {l : Letter} (h : l.IsAscii) : l.isChar = true := by
  cases l with
  | char c => rfl
  | half n =>
    rw [IsAscii, code, firstHalf] at h
    omega

namespace Text

/-- A sound text is the string that it is shown as. -/
theorem ofString_asString {s : Text} (h : s.isSound = true) : ofString s.asString = s := by
  obtain ⟨cs, rfl⟩ := isSound_iff.1 h
  have hshown : asString (ofChars cs) = String.ofList cs := by
    simp [asString, ofChars, Function.comp_def]
  rw [hshown, ofString, String.toList_ofList]

theorem fromUTF8?_toUTF8 (s : String) : String.fromUTF8? s.toUTF8 = some s := by
  rw [String.fromUTF8?, String.toUTF8_eq_toByteArray, dif_pos s.isValidUTF8]
  rfl

/-- The bytes of ASCII are below 128. -/
theorem lt_of_mem_toUTF8 {s : Text} (h : ∀ l ∈ s, l.IsAscii) :
    ∀ b ∈ s.asString.toUTF8.data, b < 0x80 := by
  have hsound : s.isSound = true := isSound_iff_forall.2 fun l hl => (h l hl).isChar
  obtain ⟨cs, rfl⟩ := isSound_iff.1 hsound
  have hshown : asString (ofChars cs) = String.ofList cs := by
    simp [asString, ofChars, Function.comp_def]
  intro b hb
  rw [hshown, String.toUTF8_eq_toByteArray, String.toByteArray_ofList, List.utf8Encode,
    List.data_toByteArray, List.mem_toArray, List.mem_flatMap] at hb
  obtain ⟨c, hc, hb⟩ := hb
  have hcode : c.val.toNat < 0x80 := h (.char c) (List.mem_map_of_mem hc)
  have hsize : c.utf8Size = 1 := by
    rw [Char.utf8Size_eq_one_iff, UInt32.le_iff_toNat_le]
    exact Nat.le_of_lt_succ hcode
  rw [String.utf8EncodeChar_eq_singleton hsize, List.mem_singleton] at hb
  rw [hb, UInt8.lt_iff_toNat_lt, UInt32.toNat_toUInt8]
  exact Nat.lt_of_le_of_lt (Nat.mod_le _ _) hcode

end Text

namespace Json

/-! ## Written strings -/

theorem isAscii_unitEscape (n : Nat) : ∀ l ∈ unitEscape n, l.IsAscii := by
  have hdigit (d : Nat) : Letter.IsAscii (.char (Nat.digitChar (d % 16))) := by
    have hd : ∀ d < 16, Letter.IsAscii (.char (Nat.digitChar d)) := by decide
    exact hd _ (Nat.mod_lt d (by decide))
  rw [unitEscape, hexDigits_four, List.forall_mem_append]
  exact ⟨by decide, by simp [hdigit]⟩

theorem isAscii_of_escapeValue? {e l : Letter} (h : Lexeme.escapeValue? e = some l) :
    e.IsAscii := by
  by_contra hne
  have hnot (m : Letter) (hm : m.IsAscii) : e ≠ m := fun heq => hne (heq ▸ hm)
  simp [Lexeme.escapeValue?, hnot (.char '"') (by decide), hnot (.char '\\') (by decide),
    hnot (.char '/') (by decide), hnot (.char 'b') (by decide), hnot (.char 'f') (by decide),
    hnot (.char 'n') (by decide), hnot (.char 'r') (by decide), hnot (.char 't') (by decide)] at h

/-- A letter is written as itself or with ASCII, and always with ASCII if so asked. -/
theorem mem_escaped (asciiOnly : Bool) {l m : Letter} (hm : m ∈ escaped asciiOnly l) :
    m.IsAscii ∨ asciiOnly = false ∧ m = l := by
  rcases escaped_cases asciiOnly l with
    ⟨e, he, htext⟩ | ⟨-, htext⟩ | ⟨-, -, -, hascii, htext⟩ | ⟨-, htext⟩ <;> rw [htext] at hm
  · rcases List.mem_pair.1 hm with rfl | rfl
    · exact .inl (by decide)
    · exact .inl (isAscii_of_escapeValue? he)
  · exact .inl (isAscii_unitEscape _ m hm)
  · obtain rfl := List.mem_singleton.1 hm
    cases asciiOnly with
    | false => exact .inr ⟨rfl, rfl⟩
    | true => exact .inl (Nat.lt_trans (hascii rfl) (by decide))
  · exact .inl ((List.mem_append.1 hm).elim (isAscii_unitEscape _ m) (isAscii_unitEscape _ m))

theorem mem_writeString {style : Style} {s : Text} {m : Letter} (hm : m ∈ writeString style s) :
    m.IsAscii ∨ style.asciiOnly = false ∧ m ∈ s := by
  have hquote : ∀ l ∈ Text.ofString "\"", l.IsAscii := by decide
  rw [writeString, List.mem_append, List.mem_append, List.mem_flatMap] at hm
  rcases hm with (hm | ⟨l, hl, hm⟩) | hm
  · exact .inl (hquote m hm)
  · rcases mem_escaped _ hm with hm | ⟨hstyle, rfl⟩
    · exact .inl hm
    · exact .inr ⟨hstyle, hl⟩
  · exact .inl (hquote m hm)

theorem IsWordLetter.isAscii {l : Letter} (h : IsWordLetter l) : l.IsAscii := by
  have := h.code_cases
  rw [Letter.IsAscii]
  omega

/-! ## Written values -/

section Letters

variable {p : Letter → Prop}

namespace Arrangement

variable (hascii : ∀ l : Letter, l.IsAscii → p l)
include hascii

theorem forall_mem_edge (a : Arrangement) (level : Nat) : ∀ l ∈ a.edge level, p l := by
  cases a with
  | inline => exact List.forall_mem_nil _
  | indented =>
    refine List.forall_mem_append.2 ⟨fun l hl => ?_, fun l hl => ?_⟩
    · exact hascii l (List.mem_singleton.1 hl ▸ by decide)
    · exact hascii l (List.eq_of_mem_replicate hl ▸ by decide)

theorem forall_mem_gap (a : Arrangement) (level : Nat) : ∀ l ∈ a.gap level, p l := by
  cases a with
  | inline =>
    have hgap : ∀ l ∈ Text.ofString ", ", l.IsAscii := by decide
    exact fun l hl => hascii l (hgap l hl)
  | indented =>
    have hgap : gap .indented level = .char ',' :: edge .indented level := rfl
    rw [hgap, List.forall_mem_cons]
    exact ⟨hascii _ (by decide), forall_mem_edge hascii .indented level⟩

theorem forall_mem_intercalate (a : Arrangement) (level : Nat) {parts : List Text}
    (h : ∀ t ∈ parts, ∀ l ∈ t, p l) : ∀ l ∈ (a.gap level).intercalate parts, p l := by
  induction parts with
  | nil => exact List.forall_mem_nil _
  | cons t ts ih =>
    rw [List.forall_mem_cons] at h
    cases ts with
    | nil => simpa only [List.intercalate_singleton] using h.1
    | cons u us =>
      rw [List.intercalate_cons_cons]
      exact List.forall_mem_append.2
        ⟨List.forall_mem_append.2 ⟨h.1, forall_mem_gap hascii a level⟩, ih h.2⟩

theorem forall_mem_enclose (a : Arrangement) (level : Nat) {first last : Letter}
    (hfirst : first.IsAscii) (hlast : last.IsAscii) {parts : List Text}
    (h : ∀ t ∈ parts, ∀ l ∈ t, p l) : ∀ l ∈ a.enclose level first last parts, p l := by
  have hbracket {b : Letter} (hb : b.IsAscii) : ∀ l ∈ [b], p l :=
    List.forall_mem_singleton.2 (hascii b hb)
  rw [enclose]
  split
  · exact List.forall_mem_append.2 ⟨hbracket hfirst, hbracket hlast⟩
  · simp only [List.forall_mem_append]
    exact ⟨⟨⟨⟨hbracket hfirst, forall_mem_edge hascii a _⟩,
      forall_mem_intercalate hascii a _ h⟩, forall_mem_edge hascii a _⟩, hbracket hlast⟩

end Arrangement

namespace Value

mutual

/-- **What holds of ASCII and of written strings holds of all letters of a written value.** -/
theorem forall_mem_writeAt (hascii : ∀ l : Letter, l.IsAscii → p l) {style : Style}
    (hstring : ∀ s : Text, s.isSound = true → ∀ l ∈ writeString style s, p l)
    (a : Arrangement) (level : Nat) :
    ∀ v : Value, v.IsSound → ∀ l ∈ v.writeAt style a level, p l
  | .null, _ => fun l hl => hascii l ((by decide : ∀ l ∈ Text.ofString "null", l.IsAscii) l hl)
  | .bool true, _ => fun l hl =>
    hascii l ((by decide : ∀ l ∈ Text.ofString "true", l.IsAscii) l hl)
  | .bool false, _ => fun l hl =>
    hascii l ((by decide : ∀ l ∈ Text.ofString "false", l.IsAscii) l hl)
  | .integer n, _ => fun l hl => hascii l (isWordLetter_of_mem_writeInteger n l hl).isAscii
  | .longInteger n, _ => fun l hl => hascii l (isWordLetter_of_mem_writeInteger n l hl).isAscii
  | .real x, _ => fun l hl => hascii l (isWordLetter_of_mem_writeReal style x l hl).isAscii
  | .string s, h => hstring s (isSound_string.1 h)
  | .array items, h =>
    a.forall_mem_enclose hascii level (by decide) (by decide)
      (forall_mem_writeItems hascii hstring a (level + 1) items (isSound_array.1 h))
  | .object members, h =>
    a.forall_mem_enclose hascii level (by decide) (by decide)
      (forall_mem_writeMembers hascii hstring a (level + 1) members (isSound_object.1 h))

theorem forall_mem_writeItems (hascii : ∀ l : Letter, l.IsAscii → p l) {style : Style}
    (hstring : ∀ s : Text, s.isSound = true → ∀ l ∈ writeString style s, p l)
    (a : Arrangement) (level : Nat) :
    ∀ items : List Value, (∀ v ∈ items, v.IsSound) →
      ∀ t ∈ writeItems style a level items, ∀ l ∈ t, p l
  | [], _ => by simp [writeItems]
  | v :: vs, h => by
    rw [List.forall_mem_cons] at h
    rw [writeItems, List.forall_mem_cons]
    exact ⟨forall_mem_writeAt hascii hstring a level v h.1,
      forall_mem_writeItems hascii hstring a level vs h.2⟩

theorem forall_mem_writeMembers (hascii : ∀ l : Letter, l.IsAscii → p l) {style : Style}
    (hstring : ∀ s : Text, s.isSound = true → ∀ l ∈ writeString style s, p l)
    (a : Arrangement) (level : Nat) :
    ∀ members : Members, (∀ m ∈ members, m.1.isSound = true ∧ m.2.IsSound) →
      ∀ t ∈ writeMembers style a level members, ∀ l ∈ t, p l
  | [], _ => by simp [writeMembers]
  | (name, v) :: rest, h => by
    rw [List.forall_mem_cons] at h
    obtain ⟨⟨hname, hv⟩, hrest⟩ := h
    have hcolon : ∀ l ∈ Text.ofString ": ", p l := fun l hl =>
      hascii l ((by decide : ∀ l ∈ Text.ofString ": ", l.IsAscii) l hl)
    rw [writeMembers, List.forall_mem_cons]
    refine ⟨?_, forall_mem_writeMembers hascii hstring a level rest hrest⟩
    simp only [List.forall_mem_append]
    exact ⟨⟨hstring name hname, hcolon⟩, forall_mem_writeAt hascii hstring a level v hv⟩

end

end Value

end Letters

namespace Value

/-- A sound value is written with characters only. -/
theorem isSound_write (style : Style) (a : Arrangement) {v : Value} (h : v.IsSound) :
    (v.write style a).isSound = true := by
  refine Text.isSound_iff_forall.2 (forall_mem_writeAt (fun _ hl => hl.isChar) ?_ a 0 v h)
  intro s hs l hl
  rcases mem_writeString hl with hl | ⟨-, hl⟩
  · exact hl.isChar
  · exact Text.isSound_iff_forall.1 hs l hl

/-- In the portable style a value is written with ASCII only. -/
theorem isAscii_write (a : Arrangement) {v : Value} (h : v.IsSound) :
    ∀ l ∈ v.write .portable a, l.IsAscii := by
  refine forall_mem_writeAt (fun _ hl => hl) ?_ a 0 v h
  intro s _ l hl
  rcases mem_writeString hl with hl | ⟨hstyle, -⟩
  · exact hl
  · cases hstyle

/-- **The bytes that are written for a value are read as that value.** -/
theorem readBytes_write {style : Style} {a : Arrangement} {v : Value} (hs : v.IsSound)
    (hn : v.KeepsNumbers .strict style) (hd : Dialect.strict.Admits v.depth) :
    readBytes (v.write style a).asString.toUTF8 = some v := by
  rw [readBytes, Text.fromUTF8?_toUTF8]
  dsimp only
  rw [Text.ofString_asString (isSound_write style a hs), read_write hs hn hd]
  rfl

end Value

end Json

end CommandAdvisor
