import CommandAdvisor.Proofs.Command.Segmentation

/-!
# The kinds of tokens

While a line is cut, it is carried along whether a command may stand next. This is a local
matter all the same: the kind of a token is settled by its text and by the nearest text
before it that is not white space. The words that name commands decide between commands and
arguments, and between nothing else.

## Main definitions
* `kindBehind`: the kind of a text behind a visible one, the first rule that applies.
* `lastVisible?`: the nearest text that is not white space.

## Main statements
* `classify_eq_label`: the pieces of a line get the kinds of their texts.
* `kind_by_neighbour`: the kind of every token, and what other known commands change.
-/
namespace CommandAdvisor.Command

open Text (IsBlank IsSolid isBlank isDecimalDigit)

/-! ## The rules -/

/-- A word that directs input or output: an angle bracket or an ampersand with decimal
digits behind it, or angle brackets only. -/
def IsRedirection (t : Text) : Prop :=
  (∃ l digits, t = l :: digits ∧ (l = '<' ∨ l = '>' ∨ l = '&') ∧
    ∀ d ∈ digits, isDecimalDigit d = true) ∨
  t ≠ [] ∧ ∀ l ∈ t, l = '<' ∨ l = '>'

/-- A text behind which a command may stand: there is none, or it separates commands. -/
def MayPrecedeCommand (previous : Option Text) : Prop :=
  ∀ t ∈ previous, t = "|" ∨ t = ";" ∨ t = "&"

theorem isRedirect_iff {t : Text} : isRedirect t = true ↔ IsRedirection t := by
  cases t with
  | nil => simp [isRedirect, IsRedirection]
  | cons l s => simp [isRedirect, IsRedirection, or_assoc]

theorem isSome_openedQuote?_iff {t : Text} : (Piece.openedQuote? t).isSome = true ↔ IsOpen t := by
  simp only [Option.isSome_iff_exists, Piece.openedQuote?_eq_some_iff, IsOpen]

instance (t : Text) : Decidable (IsRedirection t) := decidable_of_iff _ isRedirect_iff

instance (t : Text) : Decidable (IsOpen t) := decidable_of_iff _ isSome_openedQuote?_iff

instance (previous : Option Text) : Decidable (MayPrecedeCommand previous) :=
  inferInstanceAs (Decidable (∀ t ∈ previous, t = "|" ∨ t = ";" ∨ t = "&"))

/-- The kind of a text behind a visible one, or in front. The first rule that applies
counts. -/
def kindBehind (known : List Text) (previous : Option Text) (t : Text) : TokenKind :=
  if IsBlank t then .whitespace
  else if (∃ l ∈ t, isBlank l = true) ∨ IsOpen t then .argument
  else if t = "|" then .pipe
  else if t = "&&" ∨ t = "||" ∨ t = ";" ∨ t = "&" then .operator
  else if IsRedirection t then .redirect
  else if t.head? = some (.char '-') then .option
  else if t ∈ known ∧ MayPrecedeCommand previous then .command
  else .argument

/-- The nearest of some texts that is not white space. -/
def lastVisible? (texts : List Text) : Option Text :=
  (texts.filter fun t => ¬IsBlank t).getLast?

/-- The tokens of texts behind a visible one. -/
def label (known : List Text) : Option Text → List Text → List Token
  | _, [] => []
  | previous, t :: ts =>
    ⟨t, kindBehind known previous t⟩ ::
      label known (if IsBlank t then previous else some t) ts

theorem kindBehind_eq_whitespace_iff {known : List Text} {previous : Option Text} {t : Text} :
    kindBehind known previous t = .whitespace ↔ IsBlank t := by
  unfold kindBehind
  split_ifs <;> simp_all

/-! ## The pieces of a line get the kinds of their texts -/

theorem IsOpen.not_isBlank {t : Text} (h : IsOpen t) : ¬IsBlank t := by
  obtain ⟨q, s, rfl, hq, -⟩ := h
  intro hblank
  have := hblank q List.mem_cons_self
  simp [isBlank_of_isQuote hq] at this

theorem IsSpan.not_isBlank {t : Text} (h : IsSpan t) : ¬IsBlank t := by
  obtain ⟨-, -, -, -, -, -, -, ⟨l, hl, hsolid⟩, -⟩ := h
  intro hblank
  have := hblank l (List.mem_of_getLast? hl)
  simp [hsolid] at this

/-- A text with a quote at its head separates no commands. -/
theorem not_mayPrecedeCommand_of_isQuote {q : Letter} (hq : isQuote q = true) (s : Text) :
    ¬MayPrecedeCommand (some (q :: s)) := by
  intro h
  have hhead : (q :: s).head? = some q := rfl
  rcases h _ rfl with h | h | h <;> rw [h] at hhead <;> obtain rfl := Option.some.inj hhead <;>
    exact absurd hq (by decide)

theorem isSeparator_iff {t : Text} : isSeparator t = true ↔ MayPrecedeCommand (some t) := by
  simp [isSeparator, MayPrecedeCommand, or_assoc]

/-- A word opens no quote and holds no white space, so the rules for words are left. -/
theorem kindOfWord_eq_kindBehind {known : List Text} {previous : Option Text} {atStart : Bool}
    (hstart : atStart = true ↔ MayPrecedeCommand previous) {t : Text} (ht : t ≠ [])
    (h : IsPlain t) : kindOfWord known atStart t = kindBehind known previous t := by
  have hvisible : ¬IsBlank t := by
    intro hblank
    have := hblank.startsBlank ht
    simp [h.1.startsBlank] at this
  have hsolid : ¬∃ l ∈ t, isBlank l = true := by
    rintro ⟨l, hl, hblank⟩
    simp [h.1 l hl] at hblank
  have hopen : ¬IsOpen t := by
    rintro ⟨q, s, rfl, hq, hs⟩
    exact hs (h.2 q s rfl hq)
  rw [kindBehind, if_neg hvisible, if_neg (not_or_intro hsolid hopen), kindOfWord]
  simp only [Bool.or_eq_true, decide_eq_true_eq, or_assoc, isRedirect_iff, Bool.and_eq_true, hstart,
    List.contains_iff_mem, and_comm]

/-- **The pieces of a line get the kinds of their texts,** as long as a command may stand
next exactly behind nothing or a separator. -/
theorem classify_eq_label (known : List Text) {ts : List Text} (h : Segmented ts)
    {previous : Option Text} {atStart : Bool}
    (hstart : atStart = true ↔ MayPrecedeCommand previous) :
    classify known atStart (Piece.ofLine ts.flatten) = label known previous ts := by
  induction ts generalizing previous atStart with
  | nil => rfl
  | cons t ts ih =>
    obtain ⟨ht, -, -, hrest⟩ := segmented_cons.1 h
    obtain ⟨piece, hfits, hline⟩ := Piece.exists_ofLine_flatten_cons h
    rw [hline, label]
    cases hfits with
    | blank hblank =>
      rw [classify, ih hrest hstart, kindBehind, if_pos hblank, if_pos hblank]
      rfl
    | word hplain =>
      have hvisible : ¬IsBlank t := by
        intro hblank
        have := hblank.startsBlank ht
        simp [hplain.1.startsBlank] at this
      rw [classify, ih hrest isSeparator_iff, kindOfWord_eq_kindBehind hstart ht hplain,
        if_neg hvisible]
      rfl
    | span hspan =>
      have hblank : ∃ l ∈ t, isBlank l = true := by
        obtain ⟨-, -, -, -, -, -, hblank, -⟩ := hspan
        exact hblank
      have hnext : false = true ↔ MayPrecedeCommand (some t) := by
        obtain ⟨q, -, -, -, hq, hhead, -⟩ := hspan
        obtain ⟨s, rfl⟩ := List.head?_eq_some_iff.1 hhead
        simpa using not_mayPrecedeCommand_of_isQuote hq s
      rw [classify, ih hrest hnext, kindBehind, if_neg hspan.not_isBlank, if_pos (.inl hblank),
        if_neg hspan.not_isBlank]
      rfl
    | unclosed q hopen =>
      have hnext : false = true ↔ MayPrecedeCommand (some t) := by
        obtain ⟨q, s, rfl, hq, -⟩ := hopen
        simpa using not_mayPrecedeCommand_of_isQuote hq s
      rw [classify, ih hrest hnext, kindBehind, if_neg hopen.not_isBlank, if_pos (.inr hopen),
        if_neg hopen.not_isBlank]
      rfl

theorem tokenize_eq_label (known : List Text) (line : Text) :
    tokenize known line = label known none ((tokenize known line).map Token.text) := by
  have hseg := Piece.segmented_letters line
  have hstart : true = true ↔ MayPrecedeCommand none := by simp [MayPrecedeCommand]
  have hlabel := classify_eq_label known hseg hstart
  rw [Piece.flatten_letters_ofLine] at hlabel
  rw [map_text_tokenize, ← hlabel, tokenize]

/-! ## Kinds by text and neighbour -/

/-- What comes behind some texts is behind the last visible one of them. -/
theorem kind_of_label_eq_append {known : List Text} {previous : Option Text} {ts : List Text}
    {before after : List Token} {t : Token} (h : label known previous ts = before ++ t :: after) :
    t.kind = kindBehind known ((lastVisible? (before.map Token.text)).or previous) t.text := by
  induction ts generalizing previous before with
  | nil => simp [label] at h
  | cons u us ih =>
    rw [label] at h
    cases before with
    | nil =>
      obtain ⟨rfl, -⟩ := List.cons.inj h
      simp [lastVisible?]
    | cons b before =>
      obtain ⟨rfl, hrest⟩ := List.cons.inj h
      rw [ih hrest]
      by_cases hu : IsBlank u
      · simp [lastVisible?, hu]
      · simp [lastVisible?, hu, List.getLast?_cons]

/-- The same text as a command for one and as an argument for the other, or no difference. -/
def DiffersInCommand (a b : Token) : Prop :=
  a.text = b.text ∧ (a.kind = b.kind ∨ a.kind = .command ∧ b.kind = .argument ∨
    a.kind = .argument ∧ b.kind = .command)

theorem kindOfWord_cases (known known' : List Text) (atStart : Bool) (word : Text) :
    kindOfWord known atStart word = kindOfWord known' atStart word ∨
      kindOfWord known atStart word = .command ∧ kindOfWord known' atStart word = .argument ∨
      kindOfWord known atStart word = .argument ∧ kindOfWord known' atStart word = .command := by
  unfold kindOfWord
  split_ifs <;> simp

/-- Other known commands change nothing but what is a command. -/
theorem differsInCommand_classify (known known' : List Text) (atStart : Bool)
    (pieces : List Piece) :
    List.Forall₂ DiffersInCommand (classify known atStart pieces)
      (classify known' atStart pieces) := by
  induction pieces generalizing atStart with
  | nil => exact .nil
  | cons piece rest ih =>
    cases piece with
    | blank s => exact .cons ⟨rfl, .inl rfl⟩ (ih atStart)
    | word s => exact .cons ⟨rfl, kindOfWord_cases known known' atStart s⟩ (ih _)
    | span s => exact .cons ⟨rfl, .inl rfl⟩ (ih false)
    | unclosed q s => exact .cons ⟨rfl, .inl rfl⟩ (ih false)

/-- **The kind of every token is settled by its text and the nearest text before it that is
not white space.** Other known commands leave the texts alone and change commands into
arguments and arguments into commands. -/
theorem kind_by_neighbour (known : List Text) (line : Text) :
    (∀ before t after, tokenize known line = before ++ t :: after →
      t.kind = kindBehind known (lastVisible? (before.map Token.text)) t.text ∧
        (t.kind = .whitespace ↔ IsBlank t.text)) ∧
    ∀ known', List.Forall₂ DiffersInCommand (tokenize known line) (tokenize known' line) := by
  refine ⟨?_, fun known' => differsInCommand_classify known known' true _⟩
  intro before t after h
  have hkind : t.kind = kindBehind known (lastVisible? (before.map Token.text)) t.text := by
    rw [tokenize_eq_label] at h
    simpa using kind_of_label_eq_append h
  exact ⟨hkind, hkind ▸ kindBehind_eq_whitespace_iff⟩

/-- A command behind a separator, although a span and white space stand before it. -/
theorem kind_by_neighbour_behind_separator :
    (tokenize knownCommands "cat 'a b' | wc").map Token.text =
        ["cat", " ", "'a b'", " ", "|", " ", "wc"] ∧
      kindBehind knownCommands (lastVisible? ["cat", " ", "'a b'", " ", "|", " "]) "wc" =
        .command := by
  have hcut : tokenize knownCommands "cat 'a b' | wc" =
      [⟨"cat", .command⟩, ⟨" ", .whitespace⟩, ⟨"'a b'", .argument⟩, ⟨" ", .whitespace⟩,
        ⟨"|", .pipe⟩, ⟨" ", .whitespace⟩] ++ ⟨"wc", .command⟩ :: [] := by decide +kernel
  have hkind := ((kind_by_neighbour knownCommands "cat 'a b' | wc").1 _ _ _ hcut).1
  exact ⟨by rw [hcut]; rfl, hkind.symm⟩

end CommandAdvisor.Command
