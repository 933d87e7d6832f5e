import CommandAdvisor.Proofs.History.Revisions

/-!
# Edits of one entry

An edit looks for the first entry that it fits and changes it. Where the identifiers are pairwise
different, this is the same as changing every entry with the identifier and leaving all others
alone. So edits are local: they keep the order and the number of entries and everything but the
favorite flag or the tags, edits of different entries commute, and a change can be taken back.

## Main definitions
* `Edit` and `Edit.call`: the edits, and the calls that make them.
* `Edit.change` and `Edit.on`: what an edit makes of an entry, and of the entries.
* `Edit.IsReadable`: the entries can be read back after an edit.

## Main statements
* `Edit.on_comm`: edits of different entries commute.
* `Edit.isSound_on_iff`: which edited entries can be read back.
* `Edit.revision?_eq_none_iff` and `Edit.eq_on_of_revision?`: calls that write write the edited
  entries, and the others would change nothing.
-/
namespace CommandAdvisor.History

/-- An edit of one entry. -/
inductive Edit where
  | toggleFavorite
  | addTag (tag : Text)
  | removeTag (tag : Text)

namespace Edit

/-- The call that makes an edit of the entry with an identifier. -/
def call (d : Edit) (id : Text) : Call :=
  match d with
  | .toggleFavorite => .toggleFavorite id
  | .addTag tag => .addTag id tag
  | .removeTag tag => .removeTag id tag

theorem keepsTime_call (d : Edit) (id : Text) : (d.call id).KeepsTime := by
  cases d <;> trivial

/-- What an edit makes of its entry. -/
def change (d : Edit) (e : Entry) : Entry :=
  match d with
  | .toggleFavorite => { e with isFavorite := !e.isFavorite }
  | .addTag tag => if e.tags.contains tag then e else { e with tags := e.tags ++ [tag] }
  | .removeTag tag => { e with tags := e.tags.filter fun t => t ≠ tag }

/-- What an edit of the entry with an identifier makes of the entries. -/
def on (d : Edit) (id : Text) (entries : List Entry) : List Entry :=
  entries.map fun e => if e.id = id then d.change e else e

/-- An edit puts no half of a surrogate pair into an entry. -/
def IsSound (d : Edit) : Prop := ∀ tag, d = .addTag tag → tag.isSound = true

/-- The entries can be read back after an edit: it is sound, or there is no entry for it. -/
def IsReadable (d : Edit) (id : Text) (entries : List Entry) : Prop :=
  d.IsSound ∨ ∀ e ∈ entries, e.id ≠ id

/-! ## What an edit makes of an entry -/

section Change

variable {e : Entry} {tag : Text}

@[simp] theorem id_change (d : Edit) (e : Entry) : (d.change e).id = e.id := by
  cases d with
  | addTag tag =>
    rw [change]
    split <;> rfl
  | _ => rfl

/-- Whether an edit changes an entry. -/
def alters (d : Edit) (e : Entry) : Bool :=
  match d with
  | .toggleFavorite => true
  | .addTag tag => !e.tags.contains tag
  | .removeTag tag => e.tags.contains tag

theorem change_eq_self_iff {d : Edit} : d.change e = e ↔ d.alters e = false := by
  cases d with
  | toggleFavorite =>
    have hne : change .toggleFavorite e ≠ e := by
      intro heq
      have hflag := congrArg Entry.isFavorite heq
      simp [change] at hflag
    simp [alters, hne]
  | addTag tag =>
    by_cases hmem : tag ∈ e.tags
    · simp [change, alters, hmem]
    · have hne : change (.addTag tag) e ≠ e := by
        intro heq
        have htags := congrArg Entry.tags heq
        simp [change, hmem] at htags
      simp [alters, hmem, hne]
  | removeTag tag =>
    have hfilter : change (.removeTag tag) e = e ↔ (e.tags.filter fun t => t ≠ tag) = e.tags :=
      ⟨fun heq => congrArg Entry.tags heq, fun heq => by rw [change, heq]⟩
    rw [hfilter, List.filter_eq_self]
    simp [alters, List.forall_mem_ne']

theorem toggle_toggle (e : Entry) : change .toggleFavorite (change .toggleFavorite e) = e := by
  simp [change]

/-- A tag that was put on an entry or taken off it need not be once more. -/
theorem change_change {d : Edit} (hd : d = .addTag tag ∨ d = .removeTag tag) (e : Entry) :
    d.change (d.change e) = d.change e := by
  rw [change_eq_self_iff]
  rcases hd with rfl | rfl
  · rw [change]
    split <;> simp_all [alters]
  · simp [change, alters]

/-- A new tag can be taken off again. -/
theorem removeTag_addTag (h : tag ∉ e.tags) :
    change (.removeTag tag) (change (.addTag tag) e) = e := by
  have hold : (e.tags.filter fun t => t ≠ tag) = e.tags := by
    rw [List.filter_eq_self]
    intro t ht
    exact decide_eq_true fun heq => h (heq ▸ ht)
  have hnew : ((e.tags ++ [tag]).filter fun t => t ≠ tag) = e.tags := by
    rw [List.filter_append, hold]
    simp
  have habsent : ¬e.tags.contains tag = true := by simpa using h
  simp only [change, if_neg habsent, hnew]

theorem isSound_change {d : Edit} (hd : d.IsSound) (he : e.IsSound) : (d.change e).IsSound := by
  cases d with
  | toggleFavorite => exact he
  | addTag tag =>
    rw [change]
    split
    · exact he
    · have htag : tag.isSound = true := hd tag rfl
      intro t ht
      have hmem : t ∈ e.texts ∨ t = tag := by
        simpa [Entry.texts, or_assoc] using ht
      rcases hmem with hmem | rfl
      · exact he t hmem
      · exact htag
  | removeTag tag =>
    intro t ht
    refine he t ?_
    simp only [change, Entry.texts, List.mem_cons, List.mem_append, List.mem_filter] at ht ⊢
    tauto

theorem isSound_of_change {d : Edit} (h : (d.change e).IsSound) (hold : e.IsSound) :
    d.IsSound := by
  rintro tag rfl
  by_cases hmem : tag ∈ e.tags
  · exact hold tag (by simp [Entry.texts, hmem])
  · exact h tag (by simp [change, hmem, Entry.texts])

end Change

/-! ## What an edit makes of the entries -/

section On

variable {c d : Edit} {i j : Text} {entries : List Entry}

/-- No identifier is changed. -/
theorem map_id_on (d : Edit) (i : Text) (entries : List Entry) :
    (d.on i entries).map Entry.id = entries.map Entry.id := by
  rw [on, List.map_map]
  refine List.map_congr_left fun e _ => ?_
  simp only [Function.comp_apply]
  split <;> simp

/-- An edit changes nothing exactly if it changes no entry with the identifier. -/
theorem on_eq_self_iff : d.on i entries = entries ↔ ∀ e ∈ entries, e.id = i → d.change e = e := by
  have hid : d.on i entries = entries ↔ d.on i entries = entries.map id := by rw [List.map_id]
  rw [hid, on, List.map_inj_left]
  refine forall₂_congr fun e _ => ?_
  simp only [id, ite_eq_right_iff]

/-- Two edits of one entry, one after the other. -/
theorem on_on (c d : Edit) (i : Text) (entries : List Entry) :
    c.on i (d.on i entries) =
      entries.map fun e => if e.id = i then c.change (d.change e) else e := by
  rw [on, on, List.map_map]
  refine List.map_congr_left fun e _ => ?_
  simp only [Function.comp_apply]
  by_cases he : e.id = i <;> simp [he]

theorem on_on_eq_self (h : ∀ e ∈ entries, e.id = i → c.change (d.change e) = e) :
    c.on i (d.on i entries) = entries := by
  have hself : ∀ e ∈ entries, (if e.id = i then c.change (d.change e) else e) = e := by
    intro e he
    split
    · next hid => exact h e he hid
    · rfl
  rw [on_on, List.map_congr_left hself, List.map_id']

/-- **Edits of different entries commute.** -/
theorem on_comm (h : i ≠ j) (c d : Edit) (entries : List Entry) :
    c.on i (d.on j entries) = d.on j (c.on i entries) := by
  simp only [on, List.map_map]
  refine List.map_congr_left fun e _ => ?_
  simp only [Function.comp_apply]
  by_cases hi : e.id = i
  · subst hi
    simp [h]
  · by_cases hj : e.id = j
    · subst hj
      simp [hi]
    · simp [hi, hj]

/-- Of two edits of different entries neither takes back what the other one changed. -/
theorem on_eq_self_of_on_on (h : i ≠ j) (hself : c.on i (d.on j entries) = entries) :
    d.on j entries = entries := by
  have hid : c.on i (d.on j entries) = entries.map id := by rw [hself, List.map_id]
  rw [on, on, List.map_map, List.map_inj_left] at hid
  rw [on_eq_self_iff]
  intro e he hj
  have hij : e.id ≠ i := fun heq => h (heq.symm.trans hj)
  have hboth := hid e he
  simpa [hj, hij, h.symm] using hboth

/-- **Edited entries are sound unless a tag that was put on one of them is not.** -/
theorem isSound_on_iff (hentries : ∀ e ∈ entries, e.IsSound) :
    (∀ e ∈ d.on i entries, e.IsSound) ↔ d.IsReadable i entries := by
  constructor
  · intro h
    by_cases habsent : ∀ e ∈ entries, e.id ≠ i
    · exact .inr habsent
    · push Not at habsent
      obtain ⟨e, he, hid⟩ := habsent
      have hmem : d.change e ∈ d.on i entries := List.mem_map.2 ⟨e, he, if_pos hid⟩
      exact .inl (isSound_of_change (h _ hmem) (hentries e he))
  · intro h e' he'
    obtain ⟨e, he, rfl⟩ := List.mem_map.1 he'
    split
    · next hid =>
      rcases h with hd | habsent
      · exact isSound_change hd (hentries e he)
      · exact absurd hid (habsent e he)
    · exact hentries e he

end On

end Edit

/-! ## Edits of the first entry that fits -/

section FirstFit

variable {α β : Type} {fits : α → Bool} {change : α → α} {as bs : List α}

theorem updateFirst?_eq_none_iff :
    updateFirst? fits change as = none ↔ ∀ a ∈ as, fits a = false := by
  induction as with
  | nil => simp [updateFirst?]
  | cons a as ih =>
    rw [updateFirst?, List.forall_mem_cons]
    cases fits a <;> simp [ih]

/-- Where only one item can fit, all that fit are changed. -/
theorem eq_map_of_updateFirst? {key : α → β} {k : β} (hkey : ∀ a, fits a = true → key a = k)
    (hnodup : (as.map key).Nodup) (h : updateFirst? fits change as = some bs) :
    bs = as.map fun a => if fits a then change a else a := by
  induction as generalizing bs with
  | nil => cases h
  | cons a as ih =>
    obtain ⟨hhead, htail⟩ := List.nodup_cons.1 hnodup
    rw [updateFirst?] at h
    rw [List.map_cons]
    split at h
    · next hfits =>
      have hothers : ∀ b ∈ as, (if fits b then change b else b) = b := by
        intro b hb
        refine if_neg fun hb' => hhead ?_
        rw [hkey a hfits, ← hkey b hb']
        exact List.mem_map_of_mem hb
      obtain rfl := Option.some.inj h
      rw [if_pos hfits, List.map_congr_left hothers, List.map_id']
    · next hfits =>
      obtain ⟨cs, hcs, rfl⟩ := Option.map_eq_some_iff.1 h
      rw [if_neg hfits, ← ih htail hcs]

/-- Two changes that agree where they are made make the same of a list. -/
theorem updateFirst?_congr {change' : α → α} (h : ∀ a, fits a = true → change a = change' a)
    (as : List α) : updateFirst? fits change as = updateFirst? fits change' as := by
  induction as with
  | nil => rfl
  | cons a as ih =>
    rw [updateFirst?, updateFirst?, ih]
    split
    · next hfits => rw [h a hfits]
    · rfl

end FirstFit

/-- The entry with an identifier, where identifiers are pairwise different. -/
theorem get?_of_mem {entries : List Entry} (hids : (entries.map Entry.id).Nodup) {e : Entry}
    (he : e ∈ entries) : get? e.id entries = some e := by
  cases hfind : get? e.id entries with
  | none =>
    have hne := List.find?_eq_none.1 hfind e he
    simp at hne
  | some found =>
    have hid : found.id = e.id := by simpa using List.find?_some hfind
    rw [List.inj_on_of_nodup_map hids (List.mem_of_find?_eq_some hfind) he hid]

namespace Edit

variable {d : Edit} {i : Text} {entries changed : List Entry} {limit : Int}

/-- What the call of an edit writes is an edit of the first entry that fits. -/
theorem revision?_call (d : Edit) (i : Text) (limit : Int) (entries : List Entry) :
    (d.call i).revision? limit entries =
      updateFirst? (fun e => e.id == i && d.alters e) d.change entries := by
  cases d with
  | toggleFavorite =>
    simp only [call, Call.revision?, toggleFavorite?, alters, Bool.and_true]
    rfl
  | addTag tag =>
    refine updateFirst?_congr ?_ entries
    intro e hfits
    have habsent : ¬e.tags.contains tag = true := by
      simpa using (Bool.and_eq_true_iff.1 hfits).2
    rw [change, if_neg habsent]
  | removeTag tag => rfl

theorem revision?_eq_none_iff :
    (d.call i).revision? limit entries = none ↔ d.on i entries = entries := by
  rw [revision?_call, updateFirst?_eq_none_iff, on_eq_self_iff]
  refine forall₂_congr fun e _ => ?_
  rw [change_eq_self_iff]
  by_cases hid : e.id = i <;> simp [hid]

/-- **What the call of an edit writes are the edited entries,** where identifiers are pairwise
different. -/
theorem eq_on_of_revision? (hids : (entries.map Entry.id).Nodup)
    (h : (d.call i).revision? limit entries = some changed) : changed = d.on i entries := by
  rw [revision?_call] at h
  have hkey (e : Entry) (hfits : (e.id == i && d.alters e) = true) : e.id = i := by
    simpa using (Bool.and_eq_true_iff.1 hfits).1
  rw [eq_map_of_updateFirst? hkey hids h, on]
  refine List.map_congr_left fun e _ => ?_
  by_cases hid : e.id = i
  · cases halters : d.alters e with
    | true => simp [hid]
    | false => simp [hid, change_eq_self_iff.2 halters]
  · simp [hid]

end Edit

end CommandAdvisor.History
