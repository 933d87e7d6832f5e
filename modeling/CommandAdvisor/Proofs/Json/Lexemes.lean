import CommandAdvisor.Proofs.Json.Words
import Mathlib.Data.List.Forall2

/-!
# The lexemes of a written value

The text of a value is scanned into lexemes that can be read off the value, in either style
and arrangement: what is only layout leaves no trace. The facts are stated for a text with
anything behind it that ends a word, so that they can be put together.

## Main definitions
* `Scans`: a text and the lexemes that it is scanned into, whatever follows.
* `Value.lexemes`: the lexemes of a value.
* `Value.IsSound`: values whose strings hold characters only.

## Main statements
* `Value.scans_writeAt`: the text of a sound value is scanned into its lexemes.
-/
namespace CommandAdvisor.Json

open Lexeme (scan ofPunctuation?)

/-! ## Texts and their lexemes -/

/-- A text is scanned into lexemes, whatever follows that ends words. -/
def Scans (s : Text) (lexemes : List Lexeme) : Prop :=
  ∀ rest, EndsWord rest → scan .between (s ++ rest) = lexemes ++ scan .between rest

theorem scans_word {t : Text} (hne : t ≠ []) (ht : ∀ l ∈ t, IsWordLetter l) :
    Scans t [.word t] := by
  intro rest h
  obtain ⟨l, t, rfl⟩ := List.exists_cons_of_ne_nil hne
  obtain ⟨hspace, hquote, hpunct⟩ := (ht l List.mem_cons_self).inWord
  rw [List.cons_append, scan, if_neg (by simp [hspace]), if_neg hquote, hpunct]
  exact scan_word_append (fun m hm => ht m (List.mem_cons_of_mem l hm)) (by simp) h

theorem scans_writeString (style : Style) {s : Text} (hs : s.isSound = true) :
    Scans (writeString style s) [.body s] := fun rest _ => scan_writeString style hs rest

/-- White space between lexemes leaves no trace. -/
theorem scan_blank {s : Text} (hs : ∀ l ∈ s, isSpace l = true) (rest : Text) :
    scan .between (s ++ rest) = scan .between rest := by
  induction s with
  | nil => rfl
  | cons l s ih =>
    rw [List.forall_mem_cons] at hs
    rw [List.cons_append, scan, if_pos hs.1, ih hs.2]

theorem scan_spaces (n : Nat) (rest : Text) :
    scan .between (Text.repeated n ' ' ++ rest) = scan .between rest := by
  refine scan_blank (fun l hl => ?_) rest
  rw [List.eq_of_mem_replicate hl]
  rfl

namespace Arrangement

/-- What stands between a bracket and its content leaves no trace. -/
theorem scan_edge (a : Arrangement) (level : Nat) (rest : Text) :
    scan .between (a.edge level ++ rest) = scan .between rest := by
  cases a with
  | inline => rfl
  | indented =>
    have htext : edge .indented level ++ rest =
        .char '\n' :: (Text.repeated (2 * level) ' ' ++ rest) := rfl
    rw [htext, scan, if_pos (by decide), scan_spaces]

/-- Between two parts a comma is left. -/
theorem scan_gap (a : Arrangement) (level : Nat) (rest : Text) :
    scan .between (a.gap level ++ rest) = .comma :: scan .between rest := by
  have hcomma (s : Text) : scan .between (.char ',' :: s) = .comma :: scan .between s := rfl
  have hspace (s : Text) : scan .between (.char ' ' :: s) = scan .between s := rfl
  have hline (s : Text) : scan .between (.char '\n' :: s) = scan .between s := rfl
  cases a with
  | inline =>
    have htext : gap .inline level ++ rest = .char ',' :: .char ' ' :: rest := rfl
    rw [htext, hcomma, hspace]
  | indented =>
    have htext : gap .indented level ++ rest =
        .char ',' :: .char '\n' :: (Text.repeated (2 * level) ' ' ++ rest) := rfl
    rw [htext, hcomma, hline, scan_spaces]

theorem endsWord_gap (a : Arrangement) (level : Nat) (rest : Text) :
    EndsWord (a.gap level ++ rest) := by
  cases a <;> exact endsWord_cons (by decide)

theorem endsWord_edge (a : Arrangement) (level : Nat) {rest : Text} (h : EndsWord rest) :
    EndsWord (a.edge level ++ rest) := by
  cases a with
  | inline => exact h
  | indented => exact endsWord_cons (by decide)

/-- Parts in a row are scanned part by part. -/
theorem scans_intercalate (a : Arrangement) (level : Nat) {texts : List Text}
    {lexemes : List (List Lexeme)} (h : List.Forall₂ Scans texts lexemes) :
    Scans ((a.gap level).intercalate texts) ([.comma].intercalate lexemes) := by
  induction h with
  | nil => exact fun rest _ => rfl
  | @cons s ls texts lexemes hs h ih =>
    intro rest hrest
    cases h with
    | nil => simpa only [List.intercalate_singleton] using hs rest hrest
    | cons ht htail =>
      rw [List.intercalate_cons_cons, List.intercalate_cons_cons, List.append_assoc,
        List.append_assoc, hs _ (a.endsWord_gap level _), a.scan_gap, ih rest hrest]
      simp

/-- A container is scanned into its brackets and what is between them. -/
theorem scans_enclose (a : Arrangement) (level : Nat) {first last : Letter} {l₁ l₂ : Lexeme}
    (h₁ : ofPunctuation? first = some l₁) (h₂ : ofPunctuation? last = some l₂)
    {texts : List Text} {lexemes : List (List Lexeme)} (h : List.Forall₂ Scans texts lexemes) :
    Scans (a.enclose level first last texts) (l₁ :: [.comma].intercalate lexemes ++ [l₂]) := by
  have hbracket {l : Letter} {lexeme : Lexeme} (hl : ofPunctuation? l = some lexeme) (s : Text) :
      scan .between (l :: s) = lexeme :: scan .between s := by
    have hspace : ¬isSpace l = true := by
      intro hspace
      simp only [isSpace, Bool.or_eq_true, decide_eq_true_eq] at hspace
      rcases hspace with ((rfl | rfl) | rfl) | rfl <;> exact absurd hl (by simp [ofPunctuation?])
    have hquote : l ≠ .char '"' := by
      rintro rfl
      exact absurd hl (by simp [ofPunctuation?])
    rw [scan, if_neg hspace, if_neg hquote, hl]
  intro rest hrest
  cases h with
  | nil =>
    have htext : a.enclose level first last [] ++ rest = first :: last :: rest := rfl
    rw [htext, hbracket h₁, hbracket h₂]
    rfl
  | @cons t ls texts lexemes ht h =>
    have hparts := scans_intercalate a (level + 1) (.cons ht h)
    have hend : EndsWord (a.edge level ++ last :: rest) :=
      a.endsWord_edge level (endsWord_cons (.inr (.inr (by simp [h₂]))))
    have htext : a.enclose level first last (t :: texts) ++ rest =
        first :: (a.edge (level + 1) ++ ((a.gap (level + 1)).intercalate (t :: texts) ++
          (a.edge level ++ last :: rest))) := by
      simp [enclose]
    rw [htext, hbracket h₁, scan_edge, hparts _ hend, scan_edge, hbracket h₂]
    simp

end Arrangement

/-! ## Values -/

namespace Value

mutual

/-- The lexemes of a value. -/
def lexemes (style : Style) : Value → List Lexeme
  | .null => [.word "null"]
  | .bool b => [.word (if b then "true" else "false")]
  | .integer n | .longInteger n => [.word (writeInteger n)]
  | .real x => [.word (writeReal style x)]
  | .string s => [.body s]
  | .array items => .openArray :: [.comma].intercalate (lexemesOfItems style items) ++ [.closeArray]
  | .object members =>
    .openObject :: [.comma].intercalate (lexemesOfMembers style members) ++ [.closeObject]

/-- The lexemes of each item of an array. -/
def lexemesOfItems (style : Style) : List Value → List (List Lexeme)
  | [] => []
  | v :: vs => lexemes style v :: lexemesOfItems style vs

/-- The lexemes of each member of an object. -/
def lexemesOfMembers (style : Style) : Members → List (List Lexeme)
  | [] => []
  | (name, v) :: rest => (.body name :: .colon :: lexemes style v) :: lexemesOfMembers style rest

end

/-- No string in a value, and no name, holds half of a surrogate pair. -/
def IsSound (v : Value) : Prop := v.obstacle? = none

theorem isSound_string {s : Text} : (string s).IsSound ↔ s.isSound = true := by
  rw [IsSound, obstacle?, Text.obstacle?_eq_none_iff]

theorem isSound_array {items : List Value} :
    (array items).IsSound ↔ ∀ v ∈ items, v.IsSound := by
  rw [IsSound, obstacle?]
  induction items with
  | nil => simp [obstacleOfItems?]
  | cons v vs ih => simp [obstacleOfItems?, Option.or_eq_none_iff, ih, IsSound]

/-- Records are sound as an array exactly if all their texts are. -/
theorem isSound_array_map {α : Type} {encode : α → Value} {texts : α → List Text}
    (h : ∀ a, (encode a).IsSound ↔ ∀ t ∈ texts a, t.isSound = true) (as : List α) :
    (array (as.map encode)).IsSound ↔ ∀ t ∈ as.flatMap texts, t.isSound = true := by
  simp only [isSound_array, List.forall_mem_map, h, List.forall_mem_flatMap]

/-- Texts are sound as an array exactly if each of them is. -/
theorem isSound_strings {texts : List Text} :
    (array (texts.map string)).IsSound ↔ ∀ t ∈ texts, t.isSound = true := by
  simp only [isSound_array, List.forall_mem_map, isSound_string]

/-- A text that may be missing is sound if it is there. -/
theorem isSound_nullable {text : Option Text} :
    ((text.map string).getD .null).IsSound ↔ ∀ t ∈ text, t.isSound = true := by
  cases text with
  | none => simp [IsSound, obstacle?]
  | some t => simp [isSound_string]

theorem isSound_object {members : Members} :
    (object members).IsSound ↔ ∀ m ∈ members, m.1.isSound = true ∧ m.2.IsSound := by
  rw [IsSound, obstacle?]
  induction members with
  | nil => simp [obstacleOfMembers?]
  | cons m rest ih =>
    obtain ⟨name, v⟩ := m
    simp [obstacleOfMembers?, Option.or_eq_none_iff, ih, IsSound, Text.obstacle?_eq_none_iff]

mutual

/-- **The text of a sound value is scanned into its lexemes.** -/
theorem scans_writeAt (style : Style) (a : Arrangement) (level : Nat) :
    ∀ v : Value, v.IsSound → Scans (v.writeAt style a level) (v.lexemes style)
  | .null, _ => scans_word (t := "null") (by decide) (by decide)
  | .bool true, _ => scans_word (t := "true") (by decide) (by decide)
  | .bool false, _ => scans_word (t := "false") (by decide) (by decide)
  | .integer n, _ => scans_word (writeInteger_ne_nil n) (isWordLetter_of_mem_writeInteger n)
  | .longInteger n, _ => scans_word (writeInteger_ne_nil n) (isWordLetter_of_mem_writeInteger n)
  | .real x, _ => scans_word (writeReal_ne_nil style x) (isWordLetter_of_mem_writeReal style x)
  | .string _, h => scans_writeString style (isSound_string.1 h)
  | .array items, h =>
    a.scans_enclose level rfl rfl (scans_writeItems style a (level + 1) items (isSound_array.1 h))
  | .object members, h =>
    a.scans_enclose level rfl rfl
      (scans_writeMembers style a (level + 1) members (isSound_object.1 h))

theorem scans_writeItems (style : Style) (a : Arrangement) (level : Nat) :
    ∀ items : List Value, (∀ v ∈ items, v.IsSound) →
      List.Forall₂ Scans (writeItems style a level items) (lexemesOfItems style items)
  | [], _ => .nil
  | v :: vs, h =>
    .cons (scans_writeAt style a level v (h v List.mem_cons_self))
      (scans_writeItems style a level vs fun w hw => h w (List.mem_cons_of_mem v hw))

theorem scans_writeMembers (style : Style) (a : Arrangement) (level : Nat) :
    ∀ members : Members, (∀ m ∈ members, m.1.isSound = true ∧ m.2.IsSound) →
      List.Forall₂ Scans (writeMembers style a level members) (lexemesOfMembers style members)
  | [], _ => .nil
  | (name, v) :: rest, h => by
    obtain ⟨hname, hv⟩ := h (name, v) List.mem_cons_self
    refine .cons ?_ (scans_writeMembers style a level rest fun m hm =>
      h m (List.mem_cons_of_mem _ hm))
    intro s hs
    have htext : writeString style name ++ ": " ++ writeAt style a level v ++ s =
        writeString style name ++ (.char ':' :: .char ' ' :: (writeAt style a level v ++ s)) := by
      have hcolon : Text.ofString ": " = [.char ':', .char ' '] := rfl
      rw [hcolon]
      simp
    have hcolon (t : Text) : scan .between (.char ':' :: t) = .colon :: scan .between t := rfl
    have hspace (t : Text) : scan .between (.char ' ' :: t) = scan .between t := rfl
    rw [htext, scan_writeString style hname, hcolon, hspace,
      scans_writeAt style a level v hv s hs]
    rfl

end

/-- The lexemes of a written value, whatever white space is behind it. -/
theorem ofText_write_append (style : Style) (a : Arrangement) {v : Value} (h : v.IsSound)
    {rest : Text} (hrest : ∀ l ∈ rest, isSpace l = true) :
    Lexeme.ofText (v.write style a ++ rest) = v.lexemes style := by
  have hends : EndsWord rest := fun l hl => .inl (hrest l (List.mem_of_head? hl))
  have hnothing : scan .between rest = [] := by
    have hblank := scan_blank hrest []
    rwa [List.append_nil] at hblank
  rw [Lexeme.ofText, write, scans_writeAt style a 0 v h rest hends, hnothing, List.append_nil]

end Value

end CommandAdvisor.Json
