import CommandAdvisor.Json.Lexeme
import CommandAdvisor.Json.Writing
import Mathlib.Logic.Basic

/-!
# Written strings are read back

Either style of writing spells a character as itself, as a short escape, or as one or two
escapes of four hexadecimal digits. Whatever the spelling, the scanner ends up with that
character, so a sound string between its quotes is scanned as itself.

## Main statements
* `scan_unitEscape`: an escape of sixteen bits is read as that unit.
* `escaped_cases`: the ways in which a letter is written.
* `scan_escaped`: one written character is read as itself.
* `scan_writeString`: a written string is one lexeme.
-/
namespace CommandAdvisor.Json

open Lexeme (scan hexValue? escapeValue?)

/-! ## Escapes by number -/

theorem hexValue?_digitChar {d : Nat} (h : d < 16) :
    hexValue? (.char (Nat.digitChar d)) = some d := by
  revert d
  decide

theorem hexDigits_four (n : Nat) :
    Text.hexDigits 4 n = [.char (Nat.digitChar (n / 16 / 16 / 16 % 16)),
      .char (Nat.digitChar (n / 16 / 16 % 16)), .char (Nat.digitChar (n / 16 % 16)),
      .char (Nat.digitChar (n % 16))] := rfl

/-- An escape by number is read as the unit of sixteen bits that it writes. -/
theorem scan_unitEscape (b : Body) {n : Nat} (h : n < 0x10000) (rest : Text) :
    scan (.body b) (unitEscape n ++ rest) = scan (.body (b.addUnit n)) rest := by
  have hdigit (m : Nat) : hexValue? (.char (Nat.digitChar (m % 16))) = some (m % 16) :=
    hexValue?_digitChar (Nat.mod_lt m (by decide))
  have hsum : 16 * (16 * (16 * (16 * 0 + n / 16 / 16 / 16 % 16) + n / 16 / 16 % 16) +
      n / 16 % 16) + n % 16 = n := by omega
  have htext : unitEscape n ++ rest = .char '\\' :: .char 'u' :: (Text.hexDigits 4 n ++ rest) :=
    rfl
  rw [htext, hexDigits_four]
  simp only [List.cons_append, List.nil_append, scan, hdigit, hsum]
  simp

/-! ## One character -/

/-- The code points of characters leave out those of the halves of pairs. -/
theorem toNat_cases (c : Char) : c.toNat < 0xD800 ∨ 0xE000 ≤ c.toNat ∧ c.toNat < 0x110000 := by
  have hvalid := c.valid
  simp only [UInt32.isValidChar, Nat.isValidChar] at hvalid
  rw [Char.toNat]
  omega

namespace Body

theorem add_of_leading_eq_none {b : Body} (h : b.leading = none) (l : Letter) :
    b.add l = ⟨l :: b.before, none⟩ := by
  simp [add, letters, h]

@[simp] theorem leading_add (b : Body) (l : Letter) : (b.add l).leading = none := rfl

/-- A unit that is no half of a pair is a letter. -/
theorem addUnit_of_isChar {b : Body} (h : b.leading = none) (c : Char) :
    b.addUnit c.toNat = b.add (.char c) := by
  have hc : ¬(c.toNat - 0xD800 < 1024 ∧ 0xD800 ≤ c.toNat) := by
    have := toNat_cases c
    omega
  have hcode : Letter.ofCode c.toNat = .char c := Letter.ofCode_code (.char c)
  rw [addUnit, dif_neg hc, h, hcode]

/-- The two halves of a character beyond sixteen bits are that character. -/
theorem addUnit_addUnit {b : Body} (h : b.leading = none) {c : Char} (hc : 0x10000 ≤ c.toNat) :
    (b.addUnit (0xD800 + (c.toNat - 0x10000) / 0x400)).addUnit
      (0xDC00 + (c.toNat - 0x10000) % 0x400) = b.add (.char c) := by
  have hcases := toNat_cases c
  have hlead : 0xD800 + (c.toNat - 0x10000) / 0x400 - 0xD800 < 1024 ∧
      0xD800 ≤ 0xD800 + (c.toNat - 0x10000) / 0x400 := by omega
  have htrail : ¬(0xDC00 + (c.toNat - 0x10000) % 0x400 - 0xD800 < 1024 ∧
      0xD800 ≤ 0xDC00 + (c.toNat - 0x10000) % 0x400) := by omega
  have hrange : 0xDC00 ≤ 0xDC00 + (c.toNat - 0x10000) % 0x400 ∧
      0xDC00 + (c.toNat - 0x10000) % 0x400 < 0xE000 := by omega
  have hjoined : joined ((c.toNat - 0x10000) / 0x400) ((c.toNat - 0x10000) % 0x400) = .char c := by
    have hsum : 0x10000 + (c.toNat - 0x10000) / 0x400 * 0x400 + (c.toNat - 0x10000) % 0x400 =
        c.toNat := by omega
    rw [joined, hsum]
    exact Letter.ofCode_code (.char c)
  have hfirst : b.addUnit (0xD800 + (c.toNat - 0x10000) / 0x400) =
      ⟨b.before, some ⟨(c.toNat - 0x10000) / 0x400, by omega⟩⟩ := by
    rw [addUnit, dif_pos hlead]
    simp [letters, h]
  rw [hfirst, addUnit, dif_neg htrail, add_of_leading_eq_none h]
  simp [hrange, hjoined]

end Body

theorem scan_letter {b : Body} {l : Letter} (hquote : l ≠ .char '"') (hslash : l ≠ .char '\\')
    (hcontrol : 0x20 ≤ l.code) (rest : Text) :
    scan (.body b) (l :: rest) = scan (.body (b.add l)) rest := by
  rw [scan, if_neg hquote, if_neg hslash, if_neg (Nat.not_lt.2 hcontrol)]

theorem scan_shortEscape {b : Body} {e l : Letter} (h : escapeValue? e = some l)
    (rest : Text) : scan (.body b) (.char '\\' :: e :: rest) = scan (.body (b.add l)) rest := by
  have hu : e ≠ .char 'u' := by
    rintro rfl
    have hnone : escapeValue? (.char 'u') = none := rfl
    rw [hnone] at h
    cases h
  rw [scan, if_neg (by decide), if_pos rfl, scan, if_neg hu, h]

/-- The ways in which a letter is written: a short escape, an escape by number, itself (which
has to be ASCII if so asked), or two escapes by number. -/
theorem escaped_cases (asciiOnly : Bool) (l : Letter) :
    (∃ e : Char, escapeValue? (.char e) = some l ∧
      escaped asciiOnly l = [.char '\\', .char e]) ∨
    (l.code < 0x10000 ∧ escaped asciiOnly l = unitEscape l.code) ∨
    (l ≠ .char '"' ∧ l ≠ .char '\\' ∧ 0x20 ≤ l.code ∧ (asciiOnly = true → l.code < 0x7F) ∧
      escaped asciiOnly l = [l]) ∨
    (0x10000 ≤ l.code ∧ escaped asciiOnly l =
      unitEscape (0xD800 + (l.code - 0x10000) / 0x400) ++
        unitEscape (0xDC00 + (l.code - 0x10000) % 0x400)) := by
  have hshort {e : Char} {m : Letter} (h : escapeValue? (.char e) = some m) (hl : l = m) :
      escapeValue? (.char e) = some l := hl ▸ h
  obtain ⟨t, htext⟩ : ∃ t, escaped asciiOnly l = t := ⟨_, rfl⟩
  rw [htext]
  rw [escaped] at htext
  rcases ite_eq_iff.1 htext with ⟨h, ht⟩ | ⟨hquote, htext⟩
  · exact .inl ⟨'"', hshort rfl h, ht.symm⟩
  rcases ite_eq_iff.1 htext with ⟨h, ht⟩ | ⟨hslash, htext⟩
  · exact .inl ⟨'\\', hshort rfl h, ht.symm⟩
  rcases ite_eq_iff.1 htext with ⟨h, ht⟩ | ⟨-, htext⟩
  · exact .inl ⟨'n', hshort rfl h, ht.symm⟩
  rcases ite_eq_iff.1 htext with ⟨h, ht⟩ | ⟨-, htext⟩
  · exact .inl ⟨'r', hshort rfl h, ht.symm⟩
  rcases ite_eq_iff.1 htext with ⟨h, ht⟩ | ⟨-, htext⟩
  · exact .inl ⟨'t', hshort rfl h, ht.symm⟩
  rcases ite_eq_iff.1 htext with ⟨h, ht⟩ | ⟨-, htext⟩
  · exact .inl ⟨'b', hshort rfl h, ht.symm⟩
  rcases ite_eq_iff.1 htext with ⟨h, ht⟩ | ⟨-, htext⟩
  · exact .inl ⟨'f', hshort rfl h, ht.symm⟩
  rcases ite_eq_iff.1 htext with ⟨h, ht⟩ | ⟨hcontrol, htext⟩
  · exact .inr (.inl ⟨Nat.lt_trans h (by decide), ht.symm⟩)
  rcases ite_eq_iff.1 htext with ⟨h, ht⟩ | ⟨-, htext⟩
  · have hascii : asciiOnly = true → l.code < 0x7F := by
      rintro rfl
      simpa using h
    exact .inr (.inr (.inl ⟨hquote, hslash, Nat.not_lt.1 hcontrol, hascii, ht.symm⟩))
  rcases ite_eq_iff.1 htext with ⟨h, ht⟩ | ⟨h, ht⟩
  · exact .inr (.inl ⟨h, ht.symm⟩)
  · exact .inr (.inr (.inr ⟨Nat.not_lt.1 h, ht.symm⟩))

/-- One written character is read as itself. -/
theorem scan_escaped (asciiOnly : Bool) {b : Body} (hb : b.leading = none) (c : Char)
    (rest : Text) :
    scan (.body b) (escaped asciiOnly (.char c) ++ rest) = scan (.body (b.add (.char c))) rest := by
  rcases escaped_cases asciiOnly (.char c) with
    ⟨e, he, htext⟩ | ⟨hunit, htext⟩ | ⟨hquote, hslash, hcode, -, htext⟩ | ⟨hunit, htext⟩
  · rw [htext]
    exact scan_shortEscape he rest
  · rw [Letter.code] at hunit
    rw [htext, Letter.code, scan_unitEscape b hunit, Body.addUnit_of_isChar hb]
  · rw [htext]
    exact scan_letter hquote hslash hcode rest
  · rw [Letter.code] at hunit
    have hcases := toNat_cases c
    rw [htext, Letter.code, List.append_assoc, scan_unitEscape b (by omega),
      scan_unitEscape _ (by omega), Body.addUnit_addUnit hb hunit]

/-! ## Whole strings -/

/-- The letters of a sound text, as they are written, are read as that text. -/
theorem scan_flatMap_escaped (asciiOnly : Bool) {s : Text} (hs : s.isSound = true) {b : Body}
    (hb : b.leading = none) (rest : Text) :
    scan (.body b) (s.flatMap (escaped asciiOnly) ++ .char '"' :: rest) =
      .body (b.before.reverse ++ s) :: scan .between rest := by
  induction s generalizing b with
  | nil => simp [scan, Body.text, Body.letters, hb]
  | cons l s ih =>
    rw [Text.isSound, List.all_cons, Bool.and_eq_true] at hs
    cases l with
    | half n => exact absurd hs.1 (by simp [Letter.isChar])
    | char c =>
      rw [List.flatMap_cons, List.append_assoc, scan_escaped asciiOnly hb,
        ih hs.2 (Body.leading_add b _), Body.add_of_leading_eq_none hb]
      simp

/-- A written string is read as itself, whatever follows. -/
theorem scan_writeString (style : Style) {s : Text} (hs : s.isSound = true) (rest : Text) :
    scan .between (writeString style s ++ rest) = .body s :: scan .between rest := by
  have htext : writeString style s ++ rest =
      .char '"' :: (s.flatMap (escaped style.asciiOnly) ++ .char '"' :: rest) := by
    have hquote : Text.ofString "\"" = [.char '"'] := rfl
    rw [writeString, hquote]
    simp
  rw [htext, scan, if_neg (by decide), if_pos rfl, scan_flatMap_escaped _ hs rfl]
  rfl

end CommandAdvisor.Json
