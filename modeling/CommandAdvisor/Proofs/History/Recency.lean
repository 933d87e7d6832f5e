import CommandAdvisor.History.Entries
import CommandAdvisor.Proofs.Repetitions

/-!
# The recency list behind a history

A history is cut to its limit at every addition. This makes no difference: after any calls it
is the list of the newest addition of each command, the newest first, cut once at the end.
The edits in between change nothing but favorites and tags.

## Main definitions
* `Call`: a call that changes a history.
* `listed`: the entries after some calls.
* `additions`: the entries that were added since the history was last cleared.
* `Mirrors`: the entries are the newest additions, cut to a limit.
* `IsRecent`: everything that holds of the entries after some calls.

## Main statements
* `Call.mirrors_apply`: one call keeps the entries what they should be.
* `isRecent_listed`: the entries after any calls are the newest additions.
-/
namespace CommandAdvisor.History

/-! ## Calls -/

/-- A call that changes a history. An addition comes with the time on the clock and with how
many identifiers were given before. -/
inductive Call where
  | add (clock : Number.Quantity) (issued : Nat) (command : Text) (explanation : Explanation)
    (level : Option Risk.Level)
  | toggleFavorite (id : Text)
  | addTag (id tag : Text)
  | removeTag (id tag : Text)
  | clear

namespace Call

/-- The identifier that an addition gives. -/
def newId? : Call → Option Text
  | .add _ issued _ _ _ => some (Text.hexDigits 16 (issued + 1))
  | _ => none

/-- The entry that an addition saves, unless its time is too large. -/
def addition? : Call → Option Entry
  | .add clock issued command explanation level =>
    clock.toBinary64?.map fun time =>
      { id := Text.hexDigits 16 (issued + 1), command, parts := explanation.parts,
        overall := explanation.overall, safetyNotes := explanation.safetyNotes,
        examples := explanation.examples, level, timestamp := time, isFavorite := false,
        tags := [] }
  | _ => none

/-- The entries after a call, by the entries before it. -/
def apply (limit : Int) (entries : List Entry) (c : Call) : List Entry :=
  match c with
  | .add .. => c.addition?.elim entries (remember limit · entries)
  | .toggleFavorite id => (toggleFavorite? id entries).getD entries
  | .addTag id tag => (addTag? id tag entries).getD entries
  | .removeTag id tag => (removeTag? id tag entries).getD entries
  | .clear => []

/-- The additions since the last clear, by those before a call. -/
def record (added : List Entry) (c : Call) : List Entry :=
  match c with
  | .clear => []
  | c => c.addition?.toList ++ added

end Call

/-- The entries after some calls on an empty history. -/
def listed (limit : Int) (calls : List Call) : List Entry := calls.foldl (Call.apply limit) []

/-- The entries that were added since the history was last cleared, the newest first. -/
def additions (calls : List Call) : List Entry := calls.foldl Call.record []

/-- An entry as it was when it was added. -/
def Entry.asAdded (e : Entry) : Entry := { e with isFavorite := false, tags := [] }

/-! ## What the entries are -/

/-- The entries are the newest addition of each command, the newest first, up to a limit. -/
structure Mirrors (limit : Nat) (added entries : List Entry) : Prop where
  /-- The commands are the first ones of the distinct commands that were added. -/
  commands : entries.map Entry.command = ((added.map Entry.command).eraseDups).take limit
  /-- Favorites and tags apart, each entry is the newest addition of its command. -/
  newest : ∀ e ∈ entries, added.find? (fun a => a.command == e.command) = some e.asAdded
  /-- No tag is repeated within an entry. -/
  tags : ∀ e ∈ entries, e.tags.Nodup

/-- Everything that holds of the entries after some calls. -/
structure IsRecent (limit : Nat) (added entries : List Entry) : Prop
    extends Mirrors limit added entries where
  /-- There are at most as many entries as are kept. -/
  length_le : entries.length ≤ limit
  /-- The identifiers are pairwise different. -/
  ids_nodup : (entries.map Entry.id).Nodup
  /-- The commands are pairwise different. -/
  commands_nodup : (entries.map Entry.command).Nodup

/-! ## Edits -/

section Edits

variable {α β : Type} {fits : α → Bool} {change : α → α} {as bs : List α}

/-- An edit leaves alone what no change touches. -/
theorem map_of_updateFirst? {g : α → β} (hg : ∀ a, g (change a) = g a)
    (h : updateFirst? fits change as = some bs) : bs.map g = as.map g := by
  induction as generalizing bs with
  | nil => cases h
  | cons a as ih =>
    rw [updateFirst?] at h
    split at h
    · cases h
      simp [hg]
    · obtain ⟨cs, hcs, rfl⟩ := Option.map_eq_some_iff.1 h
      simp [ih hcs]

/-- An edit keeps what every change keeps. -/
theorem forall_of_updateFirst? {P : α → Prop} (hP : ∀ a, fits a = true → P a → P (change a))
    (has : ∀ a ∈ as, P a) (h : updateFirst? fits change as = some bs) : ∀ b ∈ bs, P b := by
  induction as generalizing bs with
  | nil => cases h
  | cons a as ih =>
    obtain ⟨ha, hrest⟩ := List.forall_mem_cons.1 has
    rw [updateFirst?] at h
    split at h
    · next hfits =>
      cases h
      exact List.forall_mem_cons.2 ⟨hP a hfits ha, hrest⟩
    · obtain ⟨cs, hcs, rfl⟩ := Option.map_eq_some_iff.1 h
      exact List.forall_mem_cons.2 ⟨ha, ih hrest hcs⟩

end Edits

/-! ## One call -/

theorem Entry.command_asAdded (e : Entry) : e.asAdded.command = e.command := rfl

namespace Mirrors

variable {limit : Nat} {added entries entries' : List Entry}

theorem nil (limit : Nat) : Mirrors limit [] [] := ⟨by simp, by simp, by simp⟩

/-- An edit of favorites and tags leaves the entries what they should be. -/
theorem edit (h : Mirrors limit added entries)
    (hadded : entries'.map Entry.asAdded = entries.map Entry.asAdded)
    (htags : ∀ e ∈ entries', e.tags.Nodup) : Mirrors limit added entries' where
  commands := by
    have hcommands (es : List Entry) :
        es.map Entry.command = (es.map Entry.asAdded).map Entry.command := by
      rw [List.map_map]
      rfl
    rw [hcommands, hadded, ← hcommands, h.commands]
  newest e he := by
    have hmem : e.asAdded ∈ entries.map Entry.asAdded := hadded ▸ List.mem_map_of_mem he
    obtain ⟨e', he', heq⟩ := List.mem_map.1 hmem
    rw [← e.command_asAdded, ← heq]
    exact h.newest e' he'
  tags := htags

theorem updateFirst (h : Mirrors limit added entries) {fits : Entry → Bool}
    {change : Entry → Entry} (hadded : ∀ e, (change e).asAdded = e.asAdded)
    (htags : ∀ e, fits e = true → e.tags.Nodup → (change e).tags.Nodup) :
    Mirrors limit added ((updateFirst? fits change entries).getD entries) := by
  cases hup : updateFirst? fits change entries with
  | none => exact h
  | some entries' =>
    exact h.edit (map_of_updateFirst? hadded hup) (forall_of_updateFirst? htags h.tags hup)

/-- A new entry in front, and none of the same command behind it. -/
theorem remember (h : Mirrors limit added entries) {new : Entry} (hnew : new.asAdded = new) :
    Mirrors limit (new :: added) (History.remember limit new entries) where
  commands := by
    have hfilter : (entries.filter fun e => e.command ≠ new.command).map Entry.command =
        (entries.map Entry.command).filter fun c => !c == new.command := by
      rw [List.filter_map]
      congr 2
      funext e
      rw [Bool.eq_iff_iff]
      simp
    rw [History.remember, truncate_natCast, List.map_take, List.map_cons, hfilter, h.commands,
      take_cons_filter_ne_take _ (nodup_eraseDups _), List.map_cons, List.eraseDups_cons,
      eraseDups_filter_ne]
  newest e he := by
    rw [History.remember, truncate_natCast] at he
    rcases List.mem_cons.1 (List.mem_of_mem_take he) with rfl | hold
    · simp only [List.find?_cons, beq_self_eq_true, hnew]
    · obtain ⟨hmem, hdiff⟩ := List.mem_filter.1 hold
      have hne : e.command ≠ new.command := of_decide_eq_true hdiff
      have hbeq : (new.command == e.command) = false := beq_eq_false_iff_ne.2 hne.symm
      simp only [List.find?_cons, hbeq]
      exact h.newest e hmem
  tags e he := by
    rw [History.remember, truncate_natCast] at he
    rcases List.mem_cons.1 (List.mem_of_mem_take he) with rfl | hold
    · have htags : e.tags = [] := by rw [← hnew]; rfl
      simp [htags]
    · exact h.tags e (List.mem_of_mem_filter hold)

end Mirrors

theorem Call.asAdded_of_addition? {c : Call} {e : Entry} (h : c.addition? = some e) :
    e.asAdded = e := by
  cases c with
  | add clock issued command explanation level =>
    obtain ⟨time, -, rfl⟩ := Option.map_eq_some_iff.1 h
    rfl
  | _ => cases h

/-- One call keeps the entries what they should be. -/
theorem Call.mirrors_apply {limit : Nat} {added entries : List Entry}
    (h : Mirrors limit added entries) (c : Call) :
    Mirrors limit (c.record added) (c.apply limit entries) := by
  cases c with
  | add clock issued command explanation level =>
    have hrecord : (Call.add clock issued command explanation level).record added =
        (Call.add clock issued command explanation level).addition?.toList ++ added := rfl
    rw [hrecord, Call.apply]
    cases hadd : (Call.add clock issued command explanation level).addition? with
    | none => exact h
    | some new => exact h.remember (asAdded_of_addition? hadd)
  | toggleFavorite id => exact h.updateFirst (fun _ => rfl) fun _ _ ht => ht
  | addTag id tag =>
    refine h.updateFirst (fun _ => rfl) ?_
    intro e hfits ht
    have hmem : tag ∉ e.tags := by
      simpa using (Bool.and_eq_true_iff.1 hfits).2
    exact ht.append (List.nodup_singleton tag) (List.disjoint_singleton.2 hmem)
  | removeTag id tag => exact h.updateFirst (fun _ => rfl) fun _ _ ht => ht.filter _
  | clear => exact .nil limit

/-! ## Any calls -/

theorem mirrors_foldl {limit : Nat} (calls : List Call) {added entries : List Entry}
    (h : Mirrors limit added entries) : Mirrors limit (calls.foldl Call.record added)
      (calls.foldl (Call.apply limit) entries) := by
  induction calls generalizing added entries with
  | nil => exact h
  | cons c calls ih => exact ih (c.mirrors_apply h)

/-- The entries that were added have the identifiers that were given for them. -/
theorem sublist_map_id_foldl (calls : List Call) (added : List Entry) :
    ((calls.foldl Call.record added).map Entry.id).Sublist
      ((calls.filterMap Call.newId?).reverse ++ added.map Entry.id) := by
  induction calls generalizing added with
  | nil => exact List.Sublist.refl _
  | cons c calls ih =>
    have hstep : ((c.record added).map Entry.id).Sublist
        (c.newId?.toList ++ added.map Entry.id) := by
      cases c with
      | add clock issued command explanation level =>
        simp only [Call.record, Call.addition?, Call.newId?]
        cases clock.toBinary64? with
        | none => exact List.sublist_append_right _ _
        | some time => exact List.Sublist.refl _
      | clear => exact List.nil_sublist _
      | _ => exact List.Sublist.refl _
    have hids : ((c :: calls).filterMap Call.newId?).reverse =
        (calls.filterMap Call.newId?).reverse ++ c.newId?.toList := by
      cases h : c.newId? <;> simp [h]
    rw [List.foldl_cons, hids, List.append_assoc]
    exact (ih _).trans (hstep.append_left _)

theorem nodup_map_id_additions {calls : List Call} (h : (calls.filterMap Call.newId?).Nodup) :
    ((additions calls).map Entry.id).Nodup := by
  have hsub := sublist_map_id_foldl calls []
  rw [List.map_nil, List.append_nil] at hsub
  exact hsub.nodup (List.nodup_reverse.2 h)

/-- Entries that are newest additions have different identifiers if all additions have. -/
theorem Mirrors.isRecent {limit : Nat} {added entries : List Entry}
    (h : Mirrors limit added entries) (hids : (added.map Entry.id).Nodup) :
    IsRecent limit added entries where
  toMirrors := h
  length_le := by
    have hlength := congrArg List.length h.commands
    rw [List.length_map, List.length_take] at hlength
    omega
  commands_nodup := by
    rw [h.commands]
    exact (nodup_eraseDups _).sublist (List.take_sublist _ _)
  ids_nodup := by
    have hcommands : (entries.map Entry.command).Nodup := by
      rw [h.commands]
      exact (nodup_eraseDups _).sublist (List.take_sublist _ _)
    refine (List.Nodup.of_map _ hcommands).map_on ?_
    intro e he e' he' hid
    have hmem {x : Entry} (hx : x ∈ entries) : x.asAdded ∈ added :=
      List.mem_of_find?_eq_some (h.newest x hx)
    -- Two entries with one identifier come from one addition, so they have one command.
    have hsame : e.asAdded = e'.asAdded :=
      List.inj_on_of_nodup_map hids (hmem he) (hmem he') hid
    have hcommand : e.command = e'.command := by
      rw [← e.command_asAdded, hsame, e'.command_asAdded]
    exact List.inj_on_of_nodup_map hcommands he he' hcommand

/-- **The entries after any calls are the newest additions,** cut once to the limit. -/
theorem isRecent_listed (limit : Nat) {calls : List Call}
    (hids : (calls.filterMap Call.newId?).Nodup) :
    IsRecent limit (additions calls) (listed limit calls) :=
  (mirrors_foldl calls (.nil limit)).isRecent (nodup_map_id_additions hids)

end CommandAdvisor.History
