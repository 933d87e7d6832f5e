import CommandAdvisor.Json.Reading
import CommandAdvisor.Proofs.Json.Lexemes

/-!
# Written values are read back

A value whose strings are sound, whose numbers are read back one by one and that is not
nested too deep is read back from its text. The proof follows the assembly of a value: the
lexemes of a value take the reader from where a value is due to where it is done, and change
nothing around it.

## Main definitions
* `Value.depth`: how deep containers with something in them are nested.
* `Value.KeepsNumbers`: every number of a value is read back from its own text.

## Main statements
* `Value.foldlM_lexemes`: the lexemes of a value are assembled to it.
* `Value.read_write_append`: the text of a value is read as that value.
-/
namespace CommandAdvisor.Json

open Assembly (step)

namespace Value

mutual

/-- How deep containers with something in them are nested in a value. -/
def depth : Value → Nat
  | .array items => if items.isEmpty then 0 else depthOfItems items + 1
  | .object members => if members.isEmpty then 0 else depthOfMembers members + 1
  | _ => 0

/-- The greatest depth of some items. -/
def depthOfItems : List Value → Nat
  | [] => 0
  | v :: vs => max (depth v) (depthOfItems vs)

/-- The greatest depth of some members. -/
def depthOfMembers : Members → Nat
  | [] => 0
  | (_, v) :: rest => max (depth v) (depthOfMembers rest)

end

theorem depthOfItems_le {items : List Value} {n : Nat} (h : ∀ v ∈ items, v.depth ≤ n) :
    depthOfItems items ≤ n := by
  induction items with
  | nil => exact Nat.zero_le n
  | cons v vs ih =>
    have hrest := ih fun w hw => h w (List.mem_cons_of_mem v hw)
    exact Nat.max_le.2 ⟨h v List.mem_cons_self, hrest⟩

@[simp] theorem depth_bool (b : Bool) : (bool b).depth = 0 := rfl

@[simp] theorem depth_real (x : Number.Binary64) : (real x).depth = 0 := rfl

@[simp] theorem depth_string (s : Text) : (string s).depth = 0 := rfl

/-- A text that may be missing is not nested. -/
@[simp] theorem depth_nullable (text : Option Text) :
    ((text.map string).getD null).depth = 0 := by
  cases text <;> rfl

theorem depth_array_map_le {α : Type} {encode : α → Value} (as : List α) {n : Nat}
    (h : ∀ a, (encode a).depth ≤ n) : (array (as.map encode)).depth ≤ n + 1 := by
  have hitems := depthOfItems_le (List.forall_mem_map.2 fun a (_ : a ∈ as) => h a)
  rw [depth]
  split <;> omega

/-- An array of texts is one container. -/
theorem depth_strings_le (texts : List Text) : (array (texts.map string)).depth ≤ 1 :=
  depth_array_map_le texts fun _ => Nat.le_refl 0

theorem depthOfMembers_le {members : Members} {n : Nat} (h : ∀ m ∈ members, m.2.depth ≤ n) :
    depthOfMembers members ≤ n := by
  induction members with
  | nil => exact Nat.zero_le n
  | cons m rest ih =>
    have hrest := ih fun w hw => h w (List.mem_cons_of_mem m hw)
    exact Nat.max_le.2 ⟨h m List.mem_cons_self, hrest⟩

theorem depth_object_le {members : Members} {n : Nat} (h : ∀ m ∈ members, m.2.depth ≤ n) :
    (object members).depth ≤ n + 1 := by
  have hmembers := depthOfMembers_le h
  rw [depth]
  split <;> omega

mutual

/-- Each number in a value is read back as it is from its own text. -/
def KeepsNumbers (d : Dialect) (style : Style) : Value → Prop
  | .integer n => d.scalar (writeInteger n) = .ok (.integer n)
  | .longInteger n => d.scalar (writeInteger n) = .ok (.longInteger n)
  | .real x => d.scalar (writeReal style x) = .ok (.real x)
  | .array items => ItemsKeepNumbers d style items
  | .object members => MembersKeepNumbers d style members
  | _ => True

/-- Each number in some items is read back. -/
def ItemsKeepNumbers (d : Dialect) (style : Style) : List Value → Prop
  | [] => True
  | v :: vs => KeepsNumbers d style v ∧ ItemsKeepNumbers d style vs

/-- Each number in some members is read back. -/
def MembersKeepNumbers (d : Dialect) (style : Style) : Members → Prop
  | [] => True
  | (_, v) :: rest => KeepsNumbers d style v ∧ MembersKeepNumbers d style rest

end

theorem itemsKeepNumbers_iff {d : Dialect} {style : Style} {items : List Value} :
    ItemsKeepNumbers d style items ↔ ∀ v ∈ items, v.KeepsNumbers d style := by
  induction items with
  | nil => simp [ItemsKeepNumbers]
  | cons v vs ih => simp [ItemsKeepNumbers, ih]

theorem membersKeepNumbers_iff {d : Dialect} {style : Style} {members : Members} :
    MembersKeepNumbers d style members ↔ ∀ m ∈ members, m.2.KeepsNumbers d style := by
  induction members with
  | nil => simp [MembersKeepNumbers]
  | cons m rest ih => simp [MembersKeepNumbers, ih]

/-- There is no number in a text that may be missing. -/
theorem keepsNumbers_nullable {d : Dialect} {style : Style} (text : Option Text) :
    ((text.map string).getD null).KeepsNumbers d style := by
  cases text <;> trivial

theorem keepsNumbers_array_map {α : Type} {encode : α → Value} {d : Dialect} {style : Style}
    (as : List α) (h : ∀ a, (encode a).KeepsNumbers d style) :
    (array (as.map encode)).KeepsNumbers d style :=
  itemsKeepNumbers_iff.2 (List.forall_mem_map.2 fun a _ => h a)

/-- There are no numbers in texts. -/
theorem keepsNumbers_strings {d : Dialect} {style : Style} (texts : List Text) :
    (array (texts.map string)).KeepsNumbers d style :=
  keepsNumbers_array_map texts fun _ => trivial

end Value

/-- The number that a value is. -/
def Value.real? : Value → Option Number.Binary64
  | .real x => some x
  | _ => none

/-- Whether a word is read as a number can be found out by reading it. -/
instance (d : Dialect) (word : Text) (x : Number.Binary64) :
    Decidable (d.scalar word = .ok (.real x)) :=
  decidable_of_iff ((d.scalar word).toOption.bind Value.real? = some x) <| by
    cases d.scalar word with
    | error fault => simp [Except.toOption]
    | ok v => cases v <;> simp [Except.toOption, Value.real?]

/-! ## Steps of the assembly -/

/-- A dialect allows containers to be nested as deep as this. -/
def Dialect.Admits (d : Dialect) (depth : Nat) : Prop := ∀ most ∈ d.depthLimit, depth ≤ most

theorem Dialect.Admits.mono {d : Dialect} {m n : Nat} (h : d.Admits n) (hmn : m ≤ n) :
    d.Admits m := fun most hm => Nat.le_trans hmn (h most hm)

/-- Two hundred containers may be nested in every dialect. -/
theorem Dialect.admits_of_le (d : Dialect) {depth : Nat} (h : depth ≤ 200) : d.Admits depth := by
  intro most hmost
  cases d with
  | free => cases hmost
  | strict =>
    obtain rfl := Option.some.inj hmost
    exact h

theorem Dialect.text_of_isSound (d : Dialect) {s : Text} (h : s.isSound = true) :
    d.text s = .ok s := by
  simp [Dialect.text, h]

namespace Assembly

variable {d : Dialect}

theorem foldlM_cons_of_step {a b : Assembly} {l : Lexeme} (h : step d a l = .ok b)
    (ls : List Lexeme) : (l :: ls).foldlM (step d) a = ls.foldlM (step d) b := by
  rw [List.foldlM_cons, h]
  rfl

theorem foldlM_append_of_foldlM {a b : Assembly} {ls : List Lexeme}
    (h : ls.foldlM (step d) a = .ok b) (rest : List Lexeme) :
    (ls ++ rest).foldlM (step d) a = rest.foldlM (step d) b := by
  rw [List.foldlM_append, h]
  rfl

theorem push_of_admits {frame : Frame} {stack : List Frame} (h : d.Admits (stack.length + 1)) :
    push d frame stack = .ok (frame :: stack) := by
  rw [push]
  split
  · next most hmost => exact if_pos (h most hmost)
  · rfl

/-- The first item of an array is read like any other value. -/
theorem step_firstItem {stack : List Frame} (h : d.Admits (stack.length + 1)) {l : Lexeme}
    (hl : l ≠ .closeArray) :
    step d (.firstItem stack) l = step d (.value (.array [] :: stack)) l := by
  have heq : step d (.firstItem stack) l =
      (do stepValue d (← push d (.array []) stack) l) := by
    cases l with
    | closeArray => exact absurd rfl hl
    | _ => rfl
  rw [heq, push_of_admits h]
  rfl

/-- The first name of an object is read like any other name. -/
theorem step_firstName {stack : List Frame} (h : d.Admits (stack.length + 1)) {key : Text}
    (hkey : key.isSound = true) :
    step d (.firstName stack) (.body key) = .ok (.colon [] key stack) := by
  have heq : step d (.firstName stack) (.body key) = (do
      let key ← d.text key
      let _ ← push d (.object [] key) stack
      return .colon [] key stack) := rfl
  have hpush : push d (.object [] key) stack = .ok (.object [] key :: stack) := push_of_admits h
  rw [heq, d.text_of_isSound hkey]
  exact congrArg (· >>= fun _ => pure (Assembly.colon [] key stack)) hpush

theorem step_name {stack : List Frame} (before : Value.Members) {key : Text}
    (hkey : key.isSound = true) :
    step d (.name before stack) (.body key) = .ok (.colon before key stack) := by
  have heq : step d (.name before stack) (.body key) =
      (do return .colon before (← d.text key) stack) := rfl
  rw [heq, d.text_of_isSound hkey]
  rfl

end Assembly

namespace Value

variable {d : Dialect} {style : Style}

theorem exists_lexemes_eq_cons (style : Style) (v : Value) :
    ∃ l ls, v.lexemes style = l :: ls ∧ l ≠ .closeArray := by
  cases v <;> exact ⟨_, _, rfl, by simp⟩

theorem foldlM_word {word : Text} {v : Value} (h : d.scalar word = .ok v) (stack : List Frame) :
    [Lexeme.word word].foldlM (step d) (.value stack) = .ok (.done v stack) := by
  have hstep : step d (.value stack) (.word word) = .ok (.done v stack) := by
    have heq : step d (.value stack) (.word word) = (d.scalar word).map (.done · stack) := rfl
    rw [heq, h]
    rfl
  exact Assembly.foldlM_cons_of_step hstep []

mutual

/-- **The lexemes of a value are assembled to it,** whatever is around it. -/
theorem foldlM_lexemes : ∀ (v : Value) (stack : List Frame), v.IsSound → v.KeepsNumbers d style →
    d.Admits (stack.length + v.depth) →
      (v.lexemes style).foldlM (step d) (.value stack) = .ok (.done v stack)
  | .null, stack, _, _, _ => rfl
  | .bool true, stack, _, _, _ => rfl
  | .bool false, stack, _, _, _ => rfl
  | .integer _, stack, _, hn, _ => foldlM_word hn stack
  | .longInteger _, stack, _, hn, _ => foldlM_word hn stack
  | .real _, stack, _, hn, _ => foldlM_word hn stack
  | .string s, stack, hs, _, _ => by
    have hstep : step d (.value stack) (.body s) = .ok (.done (.string s) stack) := by
      have heq : step d (.value stack) (.body s) = (d.text s).map fun s => .done (.string s) stack :=
        rfl
      rw [heq, d.text_of_isSound (isSound_string.1 hs)]
      rfl
    exact Assembly.foldlM_cons_of_step hstep []
  | .array [], stack, _, _, _ => rfl
  | .array (v :: vs), stack, hs, hn, hd => by
    have hdepth : (array (v :: vs)).depth = depthOfItems (v :: vs) + 1 := rfl
    rw [hdepth] at hd
    have hitems := foldlM_lexemesOfItems (v :: vs) (List.cons_ne_nil v vs) [] stack
      (isSound_array.1 hs) hn (hd.mono (by omega))
    obtain ⟨l, ls, hl, hclose⟩ := exists_lexemes_eq_cons style v
    obtain ⟨ls', hls'⟩ : ∃ ls', [Lexeme.comma].intercalate (lexemesOfItems style (v :: vs)) ++
        [.closeArray] = l :: ls' := by
      cases vs <;> simp [lexemesOfItems, List.intercalate_cons_cons, hl]
    have hlexemes : (array (v :: vs)).lexemes style = .openArray :: l :: ls' := by
      rw [← hls']
      rfl
    have hopen : step d (.value stack) .openArray = .ok (.firstItem stack) := rfl
    -- The bracket asks for a first item, which is read as any other value of the array.
    rw [hls', List.foldlM_cons,
      ← Assembly.step_firstItem (hd.mono (by omega)) hclose, ← List.foldlM_cons] at hitems
    rw [hlexemes, Assembly.foldlM_cons_of_step hopen]
    exact hitems
  | .object [], stack, _, _, _ => rfl
  | .object ((name, v) :: rest), stack, hs, hn, hd => by
    have hdepth : (object ((name, v) :: rest)).depth = depthOfMembers ((name, v) :: rest) + 1 := rfl
    rw [hdepth] at hd
    have hsound := isSound_object.1 hs
    have hname := (hsound (name, v) List.mem_cons_self).1
    have hmembers := foldlM_lexemesOfMembers ((name, v) :: rest) (List.cons_ne_nil _ rest) []
      stack hsound hn (hd.mono (by omega))
    obtain ⟨ls', hls'⟩ : ∃ ls', [Lexeme.comma].intercalate
        (lexemesOfMembers style ((name, v) :: rest)) ++ [.closeObject] = .body name :: ls' := by
      cases rest <;> simp [lexemesOfMembers, List.intercalate_cons_cons]
    have hlexemes : (object ((name, v) :: rest)).lexemes style =
        .openObject :: .body name :: ls' := by
      rw [← hls']
      rfl
    have hopen : step d (.value stack) .openObject = .ok (.firstName stack) := rfl
    rw [hls', Assembly.foldlM_cons_of_step (Assembly.step_name [] hname)] at hmembers
    rw [hlexemes, Assembly.foldlM_cons_of_step hopen,
      Assembly.foldlM_cons_of_step (Assembly.step_firstName (hd.mono (by omega)) hname)]
    exact hmembers

/-- The items of an array are put into it one behind the other. -/
theorem foldlM_lexemesOfItems : ∀ (items : List Value), items ≠ [] →
    ∀ (before : List Value) (stack : List Frame), (∀ v ∈ items, v.IsSound) →
      ItemsKeepNumbers d style items → d.Admits (stack.length + 1 + depthOfItems items) →
        ([Lexeme.comma].intercalate (lexemesOfItems style items) ++ [Lexeme.closeArray]).foldlM
          (step d) (.value (.array before :: stack)) =
            .ok (.done (.array (before.reverse ++ items)) stack)
  | [], hne, _, _, _, _, _ => absurd rfl hne
  | [v], _, before, stack, hs, hn, hd => by
    have hv := foldlM_lexemes v (.array before :: stack) (hs v List.mem_cons_self) hn.1
      (hd.mono (by simp only [List.length_cons, depthOfItems]; omega))
    have hclose : step d (.done v (.array before :: stack)) .closeArray =
        .ok (.done (.array (v :: before).reverse) stack) := rfl
    rw [lexemesOfItems, lexemesOfItems, List.intercalate_singleton,
      Assembly.foldlM_append_of_foldlM hv, Assembly.foldlM_cons_of_step hclose, List.reverse_cons]
    rfl
  | v :: w :: ws, _, before, stack, hs, hn, hd => by
    have hv := foldlM_lexemes v (.array before :: stack) (hs v List.mem_cons_self) hn.1
      (hd.mono (by simp only [List.length_cons, depthOfItems]; omega))
    have hcomma : step d (.done v (.array before :: stack)) .comma =
        .ok (.value (.array (v :: before) :: stack)) := rfl
    have hrest := foldlM_lexemesOfItems (w :: ws) (List.cons_ne_nil w ws) (v :: before) stack
      (fun u hu => hs u (List.mem_cons_of_mem v hu)) hn.2
      (hd.mono (by simp only [depthOfItems]; omega))
    have hlexemes : [Lexeme.comma].intercalate (lexemesOfItems style (v :: w :: ws)) ++
        [.closeArray] = v.lexemes style ++ (.comma ::
          ([Lexeme.comma].intercalate (lexemesOfItems style (w :: ws)) ++ [.closeArray])) := by
      simp [lexemesOfItems, List.intercalate_cons_cons]
    rw [hlexemes, Assembly.foldlM_append_of_foldlM hv, Assembly.foldlM_cons_of_step hcomma, hrest,
      List.reverse_cons, List.append_assoc]
    rfl

/-- The members of an object are put into it one behind the other. -/
theorem foldlM_lexemesOfMembers : ∀ (members : Members), members ≠ [] →
    ∀ (before : Members) (stack : List Frame),
      (∀ m ∈ members, m.1.isSound = true ∧ m.2.IsSound) → MembersKeepNumbers d style members →
      d.Admits (stack.length + 1 + depthOfMembers members) →
        ([Lexeme.comma].intercalate (lexemesOfMembers style members) ++
          [Lexeme.closeObject]).foldlM (step d) (.name before stack) =
            .ok (.done (.object (before.reverse ++ members)) stack)
  | [], hne, _, _, _, _, _ => absurd rfl hne
  | [(name, v)], _, before, stack, hs, hn, hd => by
    obtain ⟨hname, hsound⟩ := hs (name, v) List.mem_cons_self
    have hv := foldlM_lexemes v (.object before name :: stack) hsound hn.1
      (hd.mono (by simp only [List.length_cons, depthOfMembers]; omega))
    have hcolon : step d (.colon before name stack) .colon =
        .ok (.value (.object before name :: stack)) := rfl
    have hclose : step d (.done v (.object before name :: stack)) .closeObject =
        .ok (.done (.object ((name, v) :: before).reverse) stack) := rfl
    rw [lexemesOfMembers, lexemesOfMembers, List.intercalate_singleton, List.cons_append,
      List.cons_append, Assembly.foldlM_cons_of_step (Assembly.step_name before hname),
      Assembly.foldlM_cons_of_step hcolon, Assembly.foldlM_append_of_foldlM hv,
      Assembly.foldlM_cons_of_step hclose, List.reverse_cons]
    rfl
  | (name, v) :: (name', w) :: rest, _, before, stack, hs, hn, hd => by
    obtain ⟨hname, hsound⟩ := hs (name, v) List.mem_cons_self
    have hv := foldlM_lexemes v (.object before name :: stack) hsound hn.1
      (hd.mono (by simp only [List.length_cons, depthOfMembers]; omega))
    have hcolon : step d (.colon before name stack) .colon =
        .ok (.value (.object before name :: stack)) := rfl
    have hcomma : step d (.done v (.object before name :: stack)) .comma =
        .ok (.name ((name, v) :: before) stack) := rfl
    have hrest := foldlM_lexemesOfMembers ((name', w) :: rest) (List.cons_ne_nil _ rest)
      ((name, v) :: before) stack
      (fun m hm => hs m (List.mem_cons_of_mem _ hm)) hn.2
      (hd.mono (by simp only [depthOfMembers]; omega))
    have hlexemes : [Lexeme.comma].intercalate
        (lexemesOfMembers style ((name, v) :: (name', w) :: rest)) ++ [.closeObject] =
          .body name :: .colon :: (v.lexemes style ++ (.comma :: ([Lexeme.comma].intercalate
            (lexemesOfMembers style ((name', w) :: rest)) ++ [.closeObject]))) := by
      simp [lexemesOfMembers, List.intercalate_cons_cons]
    rw [hlexemes, Assembly.foldlM_cons_of_step (Assembly.step_name before hname),
      Assembly.foldlM_cons_of_step hcolon, Assembly.foldlM_append_of_foldlM hv,
      Assembly.foldlM_cons_of_step hcomma, hrest, List.reverse_cons, List.append_assoc]
    rfl

end

/-- **The text of a value is read as that value,** whatever white space is behind it. -/
theorem read_write_append {a : Arrangement} {v : Value} (hs : v.IsSound)
    (hn : v.KeepsNumbers d style) (hd : d.Admits v.depth) {rest : Text}
    (hrest : ∀ l ∈ rest, isSpace l = true) : read d (v.write style a ++ rest) = .ok v := by
  have h := foldlM_lexemes v [] hs hn (hd.mono (by simp))
  rw [read, ofText_write_append style a hs hrest, h]
  rfl

theorem read_write {a : Arrangement} {v : Value} (hs : v.IsSound) (hn : v.KeepsNumbers d style)
    (hd : d.Admits v.depth) : read d (v.write style a) = .ok v := by
  have hrest : ∀ l ∈ ([] : Text), isSpace l = true := by simp
  have h := read_write_append (a := a) hs hn hd hrest
  rwa [List.append_nil] at h

end Value

end CommandAdvisor.Json
