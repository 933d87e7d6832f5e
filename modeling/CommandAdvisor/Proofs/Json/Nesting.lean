import CommandAdvisor.Json.Room
import CommandAdvisor.Proofs.Json.LongIntegers
import CommandAdvisor.Proofs.Json.RoundTrip

/-!
# Containers within each other

How many containers are open at a place of a text can be told by its brackets, without reading
it. A reader has as many open as that, wherever it gets, and only for these does it run out of
room: it never does in a text whose containers stay three short of filling it, and it reads no
text whose containers do not fit.

## Main definitions
* `Lexeme.opens`: how many containers are open behind a lexeme.
* `nesting`: how many containers of a text are open at once.
* `Shallow`: lexemes that close what they open.

## Main statements
* `Assembly.opened_step`: a reader has open what the brackets say.
* `exhaustion?_eq_none_of_nesting`: texts that leave room are not given up.
* `nesting_le_of_read`: texts that are read have room.
* `exhaustion?_brackets`: too many brackets are given up, whatever is behind them.
* `Value.exhaustion?_write_append`: what is written of a value that is not nested deep is not given
  up.
-/
namespace CommandAdvisor.Json

/-! ## What brackets say -/

/-- How many containers are open behind a lexeme, where `n` are in front of it. -/
def Lexeme.opens (n : Nat) : Lexeme → Nat
  | openArray | openObject => n + 1
  | closeArray | closeObject => n - 1
  | _ => n

/-- How many containers are open at once in some lexemes, where `n` are in front of them. -/
def nestingFrom (n : Nat) : List Lexeme → Nat
  | [] => n
  | l :: ls => max n (nestingFrom (l.opens n) ls)

/-- How many containers of a text are open at once. -/
def nesting (s : Text) : Nat := nestingFrom 0 (Lexeme.ofText s)

theorem le_nestingFrom (n : Nat) (ls : List Lexeme) : n ≤ nestingFrom n ls := by
  cases ls with
  | nil => exact Nat.le_refl n
  | cons l ls => exact Nat.le_max_left n _

theorem nestingFrom_opens_le (n : Nat) (l : Lexeme) (ls : List Lexeme) :
    nestingFrom (l.opens n) ls ≤ nestingFrom n (l :: ls) := Nat.le_max_right n _

/-! ## What a reader has open -/

namespace Room

variable {room : Room} {going : Nat} {during : Strain}

theorem le_of_call? {called : Strain} (h : room.call? going called = some during) :
    room.most ≤ going := by
  rw [call?] at h
  split at h
  · cases h
  · omega

theorem lt_of_call?_eq_none (h : room.call? going during = none) : going < room.most := by
  rw [call?] at h
  split at h
  · assumption
  · cases h

theorem lt_of_report? (h : room.report? going = some during) : room.most < going + 3 := by
  rw [report?] at h
  split at h
  · omega
  · omega
  · omega
  · cases h

end Room

namespace Assembly

variable {room : Room} {a b : Assembly} {l : Lexeme} {during : Strain}

theorem opened_stepValue {stack : List Frame} (h : stepValue .free stack l = .ok b) :
    b.opened = l.opens stack.length := by
  cases l with
  | openArray =>
    cases h
    rfl
  | openObject =>
    cases h
    rfl
  | body s =>
    cases h
    rfl
  | word s =>
    rw [stepValue] at h
    cases hword : Dialect.free.scalar s with
    | error fault =>
      rw [hword] at h
      cases h
    | ok v =>
      rw [hword] at h
      cases h
      rfl
  | _ => cases h

/-- A reader has open what the brackets say. -/
theorem opened_step (h : step .free a l = .ok b) : b.opened = l.opens a.opened := by
  unfold step at h
  split at h
  · exact opened_stepValue h
  · cases h
    rfl
  · exact opened_stepValue h
  all_goals
    cases h
    try rfl

/-- A container is opened only where a value is due. -/
theorem awaitsValue_of_step (h : step .free a l = .ok b) (hl : l = .openArray ∨ l = .openObject) :
    a.awaitsValue = true := by
  unfold step at h
  split at h <;> simp_all [awaitsValue]

/-- Where a call is made for a lexeme without being lacked, there is room for what it opens. -/
theorem opened_le_of_call?_eq_none (h : step .free a l = .ok b) (hcall : a.call? room l = none)
    (ha : a.opened ≤ room.most) : b.opened ≤ room.most := by
  rw [opened_step h]
  have hroom (hl : l = .openArray ∨ l = .openObject) : a.opened + 1 ≤ room.most := by
    rw [call?, if_pos (awaitsValue_of_step h hl)] at hcall
    rcases hl with rfl | rfl
    · exact Room.lt_of_call?_eq_none hcall
    · exact Room.lt_of_call?_eq_none hcall
  cases l with
  | openArray => exact hroom (.inl rfl)
  | openObject => exact hroom (.inr rfl)
  | closeArray => exact Nat.le_trans (Nat.sub_le _ 1) ha
  | closeObject => exact Nat.le_trans (Nat.sub_le _ 1) ha
  | _ => exact ha

theorem lt_of_finalReport? (h : a.finalReport? room = some during) :
    room.most < a.opened + 3 := by
  unfold finalReport? at h
  split at h
  · cases h
  · cases h
  · cases h
  · exact Room.lt_of_report? h

/-- A reader is given up only where its brackets have all but filled the room. -/
theorem lt_of_strainFrom? {ls : List Lexeme} (h : strainFrom? room a ls = some during) :
    room.most < nestingFrom a.opened ls + 3 := by
  induction ls generalizing a with
  | nil => exact lt_of_finalReport? h
  | cons l ls ih =>
    have hopened := le_nestingFrom a.opened (l :: ls)
    rw [strainFrom?] at h
    split at h
    next called hcalled =>
      rw [call?] at hcalled
      split at hcalled
      · obtain ⟨lexeme, -, hlacked⟩ := Option.bind_eq_some_iff.1 hcalled
        have hfull := Room.le_of_call? hlacked
        omega
      · cases hcalled
    next =>
      split at h
      next b hstep =>
        have hrest := ih h
        rw [opened_step hstep] at hrest
        have hle := nestingFrom_opens_le a.opened l ls
        omega
      next =>
        rw [report?] at h
        split at h
        · cases h
        · have hreport := Room.lt_of_report? h
          omega
      next => cases h

/-- Lexemes that are read to their end without being given up have room. -/
theorem nestingFrom_le_of_foldlM {ls : List Lexeme} (hroom : strainFrom? room a ls = none)
    (h : ls.foldlM (step .free) a = .ok b) (ha : a.opened ≤ room.most) :
    nestingFrom a.opened ls ≤ room.most := by
  induction ls generalizing a with
  | nil => exact ha
  | cons l ls ih =>
    rw [List.foldlM_cons] at h
    cases hstep : step .free a l with
    | error fault =>
      rw [hstep] at h
      cases h
    | ok c =>
      rw [hstep] at h
      rw [strainFrom?] at hroom
      split at hroom
      next => cases hroom
      next hcall =>
        rw [hstep] at hroom
        have hrest := ih hroom h (opened_le_of_call?_eq_none hstep hcall ha)
        rw [opened_step hstep] at hrest
        exact Nat.max_le.2 ⟨ha, hrest⟩

/-- Brackets for which there is no room are not read to the last of them. -/
theorem strainFrom?_replicate {n : Nat} (hvalue : a.awaitsValue = true) (ha : a.opened ≤ room.most)
    (hn : room.most < a.opened + n) (ls : List Lexeme) :
    strainFrom? room a (List.replicate n .openArray ++ ls) = some .array := by
  induction n generalizing a with
  | zero => omega
  | succ n ih =>
    have hcall : a.call? room .openArray = room.call? a.opened .array := if_pos hvalue
    rw [List.replicate_succ, List.cons_append, strainFrom?, hcall, Room.call?]
    by_cases hmore : a.opened < room.most
    · obtain ⟨b, hstep, hb⟩ : ∃ b, step .free a .openArray = .ok b ∧ b.awaitsValue = true := by
        cases a with
        | value stack => exact ⟨_, rfl, rfl⟩
        | firstItem stack => exact ⟨_, rfl, rfl⟩
        | _ => cases hvalue
      have hopened : b.opened = a.opened + 1 := opened_step hstep
      rw [if_pos hmore, hstep]
      exact ih hb (by omega) (by omega)
    · rw [if_neg hmore]

end Assembly

/-! ## Texts -/

variable {room : Room}

/-- **A text whose containers leave room is not given up.** The report on a fault takes three
calls more than the containers around it. -/
theorem exhaustion?_eq_none_of_nesting {s : Text} (h : nesting s + 3 ≤ room.most) :
    exhaustion? room s = none := by
  cases hgiven : exhaustion? room s with
  | none => rfl
  | some during =>
    have hlt : room.most < nesting s + 3 := Assembly.lt_of_strainFrom? hgiven
    omega

/-- **A text that is read has room for its containers.** -/
theorem nesting_le_of_read {s : Text} {v : Value} (hroom : exhaustion? room s = none)
    (h : read .free s = .ok v) : nesting s ≤ room.most := by
  rw [read] at h
  cases hfold : (Lexeme.ofText s).foldlM (Assembly.step .free) (.value []) with
  | error fault =>
    rw [hfold] at h
    cases h
  | ok a => exact Assembly.nestingFrom_le_of_foldlM hroom hfold (Nat.zero_le _)

/-- A whole numeral is no container. -/
theorem nesting_of_isWholePart {s : Text} (h : Number.IsWholePart s) : nesting s = 0 := by
  rw [nesting, ofText_of_isWholePart h]
  rfl

theorem ofText_brackets (n : Nat) (s : Text) :
    Lexeme.ofText (List.replicate n (.char '[') ++ s) =
      List.replicate n .openArray ++ Lexeme.ofText s := by
  induction n with
  | zero => rfl
  | succ n ih =>
    have hbracket (t : Text) : Lexeme.ofText (.char '[' :: t) = .openArray :: Lexeme.ofText t := rfl
    rw [List.replicate_succ, List.cons_append, hbracket, ih]
    rfl

/-- **More brackets than there is room for are given up,** whatever is behind them. -/
theorem exhaustion?_brackets {n : Nat} (hn : room.most < n) (s : Text) :
    exhaustion? room (List.replicate n (.char '[') ++ s) = some .array := by
  rw [exhaustion?, ofText_brackets]
  exact Assembly.strainFrom?_replicate rfl (Nat.zero_le _) (by simpa [Assembly.opened] using hn) _

/-! ## Written values -/

/-- Some lexemes close all containers that they open, of which no more than `depth` are open at
once. -/
def Shallow (depth : Nat) (ls : List Lexeme) : Prop :=
  ∀ n rest, nestingFrom n (ls ++ rest) ≤ max (n + depth) (nestingFrom n rest)

namespace Shallow

variable {m n depth : Nat} {ls ls' : List Lexeme}

theorem mono (h : Shallow m ls) (hmn : m ≤ n) : Shallow n ls := by
  intro k rest
  have hrest := h k rest
  omega

theorem append (h : Shallow depth ls) (h' : Shallow depth ls') : Shallow depth (ls ++ ls') := by
  intro k rest
  have hfirst := h k (ls' ++ rest)
  have hsecond := h' k rest
  rw [List.append_assoc]
  omega

theorem nil (depth : Nat) : Shallow depth [] := fun _ _ => Nat.le_max_right _ _

theorem cons {l : Lexeme} (hl : ∀ k, l.opens k = k) (h : Shallow depth ls) :
    Shallow depth (l :: ls) := by
  intro k rest
  have hrest := h k rest
  have heq : nestingFrom k (l :: (ls ++ rest)) = max k (nestingFrom k (ls ++ rest)) := by
    rw [nestingFrom, hl]
  rw [List.cons_append, heq]
  omega

theorem intercalate {parts : List (List Lexeme)} (h : ∀ part ∈ parts, Shallow depth part) :
    Shallow depth ([.comma].intercalate parts) := by
  induction parts with
  | nil => exact nil depth
  | cons part parts ih =>
    obtain ⟨hpart, hparts⟩ := List.forall_mem_cons.1 h
    cases parts with
    | nil => simpa only [List.intercalate_singleton] using hpart
    | cons next parts =>
      rw [List.intercalate_cons_cons, List.append_assoc]
      exact hpart.append (cons (fun _ => rfl) (ih hparts))

/-- A container is one deeper than what is in it. -/
theorem enclose {first last : Lexeme} (hfirst : ∀ k, first.opens k = k + 1)
    (hlast : ∀ k, last.opens k = k - 1) (h : Shallow depth ls) :
    Shallow (depth + 1) (first :: ls ++ [last]) := by
  intro k rest
  have hinside := h (k + 1) (last :: rest)
  have hopen : nestingFrom k (first :: (ls ++ last :: rest)) =
      max k (nestingFrom (k + 1) (ls ++ last :: rest)) := by
    rw [nestingFrom, hfirst]
  have hclose : nestingFrom (k + 1) (last :: rest) = max (k + 1) (nestingFrom k rest) := by
    rw [nestingFrom, hlast, Nat.add_sub_cancel]
  have heq : first :: ls ++ [last] ++ rest = first :: (ls ++ last :: rest) := by simp
  rw [heq, hopen]
  omega

end Shallow

namespace Value

variable {style : Style}

mutual

/-- What is written of a value closes what it opens. One more container is open than are nested
with something in them, since there may be an empty one in the innermost. -/
theorem shallow_lexemes : ∀ v : Value, Shallow (v.depth + 1) (v.lexemes style)
  | .null | .bool _ | .integer _ | .longInteger _ | .real _ | .string _ =>
    .cons (fun _ => rfl) (.nil _)
  | .array [] => Shallow.enclose (fun _ => rfl) (fun _ => rfl) (.nil 0)
  | .array (v :: vs) => .enclose (fun _ => rfl) (fun _ => rfl)
    (.intercalate (shallow_lexemesOfItems (v :: vs)))
  | .object [] => Shallow.enclose (fun _ => rfl) (fun _ => rfl) (.nil 0)
  | .object (m :: rest) => .enclose (fun _ => rfl) (fun _ => rfl)
    (.intercalate (shallow_lexemesOfMembers (m :: rest)))

theorem shallow_lexemesOfItems : ∀ items : List Value,
    ∀ part ∈ lexemesOfItems style items, Shallow (depthOfItems items + 1) part
  | [] => nofun
  | v :: vs => List.forall_mem_cons.2
    ⟨(shallow_lexemes v).mono (Nat.succ_le_succ (Nat.le_max_left _ _)),
      fun part hpart => (shallow_lexemesOfItems vs part hpart).mono
        (Nat.succ_le_succ (Nat.le_max_right _ _))⟩

theorem shallow_lexemesOfMembers : ∀ members : Members,
    ∀ part ∈ lexemesOfMembers style members, Shallow (depthOfMembers members + 1) part
  | [] => nofun
  | (_, v) :: rest => List.forall_mem_cons.2
    ⟨.cons (fun _ => rfl) (.cons (fun _ => rfl)
        ((shallow_lexemes v).mono (Nat.succ_le_succ (Nat.le_max_left _ _)))),
      fun part hpart => (shallow_lexemesOfMembers rest part hpart).mono
        (Nat.succ_le_succ (Nat.le_max_right _ _))⟩

end

/-- **What is written of a value that is not nested deep is not given up,** whatever white space
is behind it. -/
theorem exhaustion?_write_append {a : Arrangement} {v : Value} (hs : v.IsSound) (hd : v.depth ≤ 4)
    {rest : Text} (hrest : ∀ l ∈ rest, isSpace l = true) :
    exhaustion? room (v.write style a ++ rest) = none := by
  refine exhaustion?_eq_none_of_nesting ?_
  have hshallow : Shallow (v.depth + 1) (v.lexemes style) := shallow_lexemes v
  have hlexemes := hshallow 0 []
  have hnothing : nestingFrom 0 [] = 0 := rfl
  have henough := room.enough
  rw [List.append_nil, hnothing] at hlexemes
  rw [nesting, ofText_write_append style a hs hrest]
  omega

theorem exhaustion?_write {a : Arrangement} {v : Value} (hs : v.IsSound) (hd : v.depth ≤ 4) :
    exhaustion? room (v.write style a) = none := by
  have hrest : ∀ l ∈ ([] : Text), isSpace l = true := nofun
  have hwrite : exhaustion? room (v.write style a ++ []) = none :=
    exhaustion?_write_append hs hd hrest
  rwa [List.append_nil] at hwrite

end Value

end CommandAdvisor.Json
