import CommandAdvisor.Proofs.History.Edits

/-!
# Edits of a stored history

An edit reads the whole file, and writes all of it again if it changes anything. So an edit that
changes nothing leaves the files as they are, and all that holds of edits of a list holds of what
is shown; but a tag with half of a surrogate pair in it is written and not read back.

## Main definitions
* `Store.Shows`: a store shows some entries.
* `Store.fileAfter`: what is at the path of a store after an edit.
* `Store.Turns`: the entries that a store showed were turned into others.

## Main statements
* `Store.achieves_call`: what the call of an edit does to what is stored.
* `Store.Turns.trans`: one edit after the other.
* `Store.edits_are_local`: edits are local, reversible and independent of their order.
-/
namespace CommandAdvisor.History

open Storage (Fault Node)

namespace Store

/-- A store shows some entries: they are read from it. -/
def Shows (s : Store) (w : Workspace) (entries : List Entry) : Prop :=
  ∃ w', s.entries.run w = .ok entries w'

/-- What is at the path of a store once `old` entries were turned into `new` ones: the file is
written where they differ. -/
def fileAfter (s : Store) (w : Workspace) (old new : List Entry) : Except Fault Node :=
  if new = old then w.files.access s.path
  else .ok (.file Storage.privateMode (written new))

/-- The entries that a store showed were turned into others. -/
structure Turns (s : Store) (w : Workspace) (old new : List Entry) (w' : Workspace) : Prop where
  shows_iff : s.Shows w' new ↔ ∀ e ∈ new, e.IsSound
  access : w'.files.access s.path = s.fileAfter w old new
  files : new = old → w'.files = w.files

variable {s : Store} {w w' : Workspace} {entries : List Entry}

/-! ## What is shown -/

theorem Shows.of_files (h : s.Shows w entries) (hfiles : w'.files = w.files) :
    s.Shows w' entries := by
  obtain ⟨_, hentries⟩ := h
  exact exists_run_entries_of_files hentries hfiles

theorem Shows.isSound (h : s.Shows w entries) : ∀ e ∈ entries, e.IsSound := by
  obtain ⟨_, hentries⟩ := h
  exact isSound_of_run_entries hentries

/-- What is saved is shown exactly if it is sound. -/
theorem shows_iff_of_save {w₁ : Workspace} {u : Unit} (h : (s.save entries).run w₁ = .ok u w') :
    s.Shows w' entries ↔ ∀ e ∈ entries, e.IsSound :=
  ⟨Shows.isSound, fun hs => ⟨w', (holds_of_save h hs fun e _ => e.keepsTime).run_entries⟩⟩

/-! ## One edit -/

/-- An edit that goes through gives what the change makes of the shown entries, and has saved it
or left the files as they were. -/
theorem exists_of_run_edit {change : List Entry → Option (List Entry)}
    {result : Option (List Entry)} (hshows : s.Shows w entries)
    (hrun : (s.edit change).run w = .ok result w') :
    result = change entries ∧
      (change entries = none ∧ w'.files = w.files ∨
        ∃ changed w₁, change entries = some changed ∧ (s.save changed).run w₁ = .ok () w') := by
  obtain ⟨w₁, hentries⟩ := hshows
  rw [edit, run_bind_of_ok hentries] at hrun
  cases hchange : change entries with
  | none =>
    rw [hchange] at hrun
    cases hrun
    exact ⟨rfl, .inl ⟨rfl, ((respects_sameFiles_entries s).of_run_eq_ok hentries).1⟩⟩
  | some changed =>
    rw [hchange] at hrun
    obtain ⟨_, w₂, hsave, hpure⟩ := exists_of_run_bind_eq_ok hrun
    cases hpure
    exact ⟨rfl, .inr ⟨changed, w₁, rfl, hsave⟩⟩

variable {c d : Edit} {i j : Text}

/-- An edit that goes through has turned the shown entries into the edited ones. -/
theorem turns_of_run_edit (hshows : s.Shows w entries) (hids : (entries.map Entry.id).Nodup)
    {result : Option (List Entry)}
    (hrun : (s.edit ((d.call i).revision? s.limit)).run w = .ok result w') :
    s.Turns w entries (d.on i entries) w' := by
  obtain ⟨-, ⟨hnone, hfiles⟩ | ⟨changed, w₁, hsome, hsave⟩⟩ := exists_of_run_edit hshows hrun
  · have hself := Edit.revision?_eq_none_iff.1 hnone
    rw [hself]
    have hshown : s.Shows w' entries := hshows.of_files hfiles
    exact ⟨⟨Shows.isSound, fun _ => hshown⟩, by rw [fileAfter, if_pos rfl, hfiles],
      fun _ => hfiles⟩
  · obtain rfl := Edit.eq_on_of_revision? hids hsome
    have hne : d.on i entries ≠ entries := by
      intro hself
      rw [Edit.revision?_eq_none_iff.2 hself] at hsome
      cases hsome
    exact ⟨shows_iff_of_save hsave, by rw [fileAfter, if_neg hne, access_of_save hsave, written],
      fun hself => absurd hself hne⟩

/-- The call of an edit has no result but what it leaves. -/
theorem exists_run_edit_of_perform {u : Unit} (hrun : (s.perform (d.call i)).run w = .ok u w') :
    ∃ result, (s.edit ((d.call i).revision? s.limit)).run w = .ok result w' := by
  cases d with
  | toggleFavorite =>
    obtain ⟨_, w₁, htoggle, hpure⟩ := exists_of_run_bind_eq_ok hrun
    obtain ⟨result, w₂, hedit, hanswer⟩ := exists_of_run_bind_eq_ok htoggle
    cases hpure
    have hw : w' = w₂ := by
      cases result <;> cases hanswer <;> rfl
    exact ⟨result, hw ▸ hedit⟩
  | addTag tag =>
    obtain ⟨result, w₁, hedit, hpure⟩ := exists_of_run_bind_eq_ok hrun
    cases hpure
    exact ⟨result, hedit⟩
  | removeTag tag =>
    obtain ⟨result, w₁, hedit, hpure⟩ := exists_of_run_bind_eq_ok hrun
    cases hpure
    exact ⟨result, hedit⟩

/-- **What the call of an edit does to what is stored,** unless an access is refused. -/
theorem achieves_call (hshows : s.Shows w entries) (hids : (entries.map Entry.id).Nodup)
    (d : Edit) (i : Text) :
    (s.perform (d.call i)).Achieves w fun _ w' => s.Turns w entries (d.on i entries) w' := by
  refine (failsByRefusal_perform (d.keepsTime_call i)).achieves fun _ w' hrun => ?_
  obtain ⟨result, hedit⟩ := exists_run_edit_of_perform hrun
  exact turns_of_run_edit hshows hids hedit

theorem failsByRefusal_toggleFavorite (i : Text) : (s.toggleFavorite i).FailsByRefusal := by
  refine (failsByRefusal_edit _).bind fun result => ?_
  cases result <;> exact Action.failsByRefusal_pure _

/-- The new flag of an entry is what is said of it. -/
theorem achieves_toggleFavorite (hshows : s.Shows w entries)
    (hids : (entries.map Entry.id).Nodup) (i : Text) :
    (s.toggleFavorite i).Achieves w fun flag w' =>
      s.Turns w entries (Edit.toggleFavorite.on i entries) w' ∧
        ∀ e ∈ entries, e.id = i → flag = !e.isFavorite := by
  refine (failsByRefusal_toggleFavorite i).achieves fun flag w' hrun => ?_
  obtain ⟨result, w₁, hedit, hanswer⟩ := exists_of_run_bind_eq_ok hrun
  have hw : w' = w₁ := by
    cases result <;> cases hanswer <;> rfl
  subst hw
  refine ⟨turns_of_run_edit (d := .toggleFavorite) hshows hids hedit, ?_⟩
  intro e he hid
  have hresult : result = (Edit.toggleFavorite.call i).revision? s.limit entries :=
    (exists_of_run_edit hshows hedit).1
  cases result with
  | none =>
    have hself := Edit.on_eq_self_iff.1 (Edit.revision?_eq_none_iff.1 hresult.symm) e he hid
    exact absurd (Edit.change_eq_self_iff.1 hself) Bool.true_eq_false_eq_False
  | some changed =>
    obtain rfl := Edit.eq_on_of_revision? hids hresult.symm
    have hmem : Edit.toggleFavorite.change e ∈ Edit.toggleFavorite.on i entries :=
      List.mem_map.2 ⟨e, he, if_pos hid⟩
    have hfound := get?_of_mem ((Edit.map_id_on .toggleFavorite i entries).symm ▸ hids) hmem
    rw [Edit.id_change, hid] at hfound
    cases hanswer
    rw [hfound]
    rfl

/-! ## Two edits -/

/-- One edit after the other: the second does not take back what the first one changed. -/
theorem Turns.trans {old between new : List Entry} {w₁ w₂ : Workspace}
    (h₁ : s.Turns w old between w₁) (h₂ : s.Turns w₁ between new w₂)
    (hback : new = old → between = old) : s.Turns w old new w₂ where
  shows_iff := h₂.shows_iff
  files heq := (h₂.files (heq.trans (hback heq).symm)).trans (h₁.files (hback heq))
  access := by
    rw [h₂.access, fileAfter, fileAfter]
    by_cases hlast : new = between
    · subst hlast
      rw [if_pos rfl, h₁.access, fileAfter]
    · have hne : new ≠ old := fun heq => hlast (heq.trans (hback heq).symm)
      rw [if_neg hlast, if_neg hne]

theorem achieves_two_calls (hshows : s.Shows w entries) (hids : (entries.map Entry.id).Nodup)
    (hsound : ∀ e ∈ c.on i entries, e.IsSound) (d : Edit) (j : Text) :
    (do s.perform (c.call i); s.perform (d.call j) : Action Unit).Achieves w fun _ w' =>
      ∃ w₁, s.Turns w entries (c.on i entries) w₁ ∧
        s.Turns w₁ (c.on i entries) (d.on j (c.on i entries)) w' := by
  refine (achieves_call hshows hids c i).bind fun _ w₁ h₁ => ?_
  have hids₁ : ((c.on i entries).map Entry.id).Nodup := (Edit.map_id_on c i entries).symm ▸ hids
  exact (achieves_call (h₁.shows_iff.2 hsound) hids₁ d j).mono fun _ w₂ h₂ => ⟨w₁, h₁, h₂⟩

/-- What is shown after an edit is what the edit makes of the entries, if that can be read back. -/
theorem Turns.shows_on_iff (hshows : s.Shows w entries) {w₀ : Workspace}
    (h : s.Turns w₀ entries (d.on i entries) w') :
    s.Shows w' (d.on i entries) ↔ d.IsReadable i entries := by
  rw [h.shows_iff, Edit.isSound_on_iff hshows.isSound]

/-- Two edits of one entry that come to nothing leave the entries that were shown. -/
theorem achieves_shows_of_on_on (hshows : s.Shows w entries)
    (hids : (entries.map Entry.id).Nodup) (hc : c.IsReadable i entries)
    (hback : ∀ e ∈ entries, e.id = i → d.change (c.change e) = e) :
    (do s.perform (c.call i); s.perform (d.call i) : Action Unit).Achieves w fun _ w' =>
      s.Shows w' entries := by
  have hsound := (Edit.isSound_on_iff hshows.isSound).2 hc
  refine (achieves_two_calls hshows hids hsound d i).mono fun _ w' ⟨w₁, _, h₂⟩ => ?_
  rw [Edit.on_on_eq_self hback] at h₂
  exact h₂.shows_iff.2 hshows.isSound

/-- Two edits of different entries leave what both make of the entries. -/
theorem achieves_turns_of_ne (hshows : s.Shows w entries) (hids : (entries.map Entry.id).Nodup)
    (hij : i ≠ j) (hc : c.IsReadable i entries) (hd : d.IsReadable j entries) :
    (do s.perform (d.call j); s.perform (c.call i) : Action Unit).Achieves w fun _ w' =>
      s.Shows w' (c.on i (d.on j entries)) ∧
        w'.files.access s.path = s.fileAfter w entries (c.on i (d.on j entries)) := by
  have hsound := (Edit.isSound_on_iff hshows.isSound).2 hd
  refine (achieves_two_calls hshows hids hsound c i).mono fun _ w' ⟨w₁, h₁, h₂⟩ => ?_
  refine ⟨h₂.shows_iff.2 ((Edit.isSound_on_iff hsound).2 ?_),
    (h₁.trans h₂ (Edit.on_eq_self_of_on_on hij)).access⟩
  refine hc.imp_right fun habsent e he => ?_
  have hid : e.id ∈ entries.map Entry.id := by
    rw [← Edit.map_id_on d j entries]
    exact List.mem_map_of_mem he
  obtain ⟨e', he', heq⟩ := List.mem_map.1 hid
  exact heq ▸ habsent e' he'

/-- **Edits are local, reversible and independent of their order.** Unless an access is refused,
an edit changes what is shown to what it makes of the entry with the identifier, exactly if this
can be read back, and leaves all files as they are if it changes nothing. Toggling says what the
flag is and takes itself back; a tag need not be put on or taken off twice, and a new one can be
taken off again; edits of different entries may be made in either order, and leave the same
file. -/
theorem edits_are_local (s : Store) {w : Workspace} {entries : List Entry}
    (hshows : s.Shows w entries) (hids : (entries.map Entry.id).Nodup) :
    (∀ (d : Edit) (i : Text), (s.perform (d.call i)).Achieves w fun _ w' =>
      (s.Shows w' (d.on i entries) ↔ d.IsReadable i entries) ∧
      ((∀ e ∈ entries, e.id = i → d.change e = e) → w'.files = w.files)) ∧
    (∀ i, (s.toggleFavorite i).Achieves w fun flag w' =>
      s.Shows w' (Edit.toggleFavorite.on i entries) ∧
      ∀ e ∈ entries, e.id = i → flag = !e.isFavorite) ∧
    (∀ i, (do s.perform (.toggleFavorite i); s.perform (.toggleFavorite i) : Action Unit).Achieves w
      fun _ w' => s.Shows w' entries) ∧
    (∀ (d : Edit) (i tag : Text), d = .addTag tag ∨ d = .removeTag tag → d.IsReadable i entries →
      (s.perform (d.call i)).Achieves w fun _ w₁ => (s.perform (d.call i)).Achieves w₁ fun _ w₂ =>
        s.Shows w₂ (d.on i entries) ∧ w₂.files = w₁.files) ∧
    (∀ i tag : Text, (Edit.addTag tag).IsReadable i entries →
      (∀ e ∈ entries, e.id = i → tag ∉ e.tags) →
      (do s.addTag i tag; s.removeTag i tag : Action Unit).Achieves w
        fun _ w' => s.Shows w' entries) ∧
    ∀ (c d : Edit) (i j : Text), i ≠ j → c.IsReadable i entries → d.IsReadable j entries →
      (do s.perform (c.call i); s.perform (d.call j) : Action Unit).Achieves w (fun _ w' =>
        s.Shows w' (c.on i (d.on j entries)) ∧
        w'.files.access s.path = s.fileAfter w entries (c.on i (d.on j entries))) ∧
      (do s.perform (d.call j); s.perform (c.call i) : Action Unit).Achieves w (fun _ w' =>
        s.Shows w' (c.on i (d.on j entries)) ∧
        w'.files.access s.path = s.fileAfter w entries (c.on i (d.on j entries))) := by
  have htoggle (i : Text) : Edit.toggleFavorite.IsReadable i entries := .inl fun _ h => nomatch h
  refine ⟨fun d i => ?_, fun i => ?_, fun i => ?_, fun d i tag hd hreadable => ?_,
    fun i tag hreadable hnew => ?_, fun c d i j hij hc hd => ⟨?_, ?_⟩⟩
  · refine (achieves_call hshows hids d i).mono fun _ w' h => ⟨h.shows_on_iff hshows, ?_⟩
    exact fun hself => h.files (Edit.on_eq_self_iff.2 hself)
  · refine (achieves_toggleFavorite hshows hids i).mono fun flag w' ⟨h, hflag⟩ => ?_
    exact ⟨(h.shows_on_iff hshows).2 (htoggle i), hflag⟩
  · exact achieves_shows_of_on_on (c := .toggleFavorite) (d := .toggleFavorite) hshows hids
      (htoggle i) fun e _ _ => Edit.toggle_toggle e
  · refine (achieves_call hshows hids d i).mono fun _ w₁ h₁ => ?_
    have hshown := (h₁.shows_on_iff hshows).2 hreadable
    have hids₁ : ((d.on i entries).map Entry.id).Nodup := (Edit.map_id_on d i entries).symm ▸ hids
    -- The second call finds nothing left to do.
    have hself : d.on i (d.on i entries) = d.on i entries := by
      rw [Edit.on_on, Edit.on]
      simp only [Edit.change_change hd]
    refine (achieves_call hshown hids₁ d i).mono fun _ w₂ h₂ => ?_
    exact ⟨hshown.of_files (h₂.files hself), h₂.files hself⟩
  · exact achieves_shows_of_on_on (c := .addTag tag) (d := .removeTag tag) hshows hids hreadable
      fun e he hid => Edit.removeTag_addTag (hnew e he hid)
  · rw [Edit.on_comm hij]
    exact achieves_turns_of_ne hshows hids hij.symm hd hc
  · exact achieves_turns_of_ne hshows hids hij hc hd

/-- Two entries, of which the second is a favorite and has two tags. -/
def pair : List Entry :=
  [{ manifold with id := "1", command := "ls", isFavorite := false, tags := [] }, manifold]

/-- The same entries with a tag on the first one, and the second no longer a favorite. -/
def editedPair : List Entry :=
  [{ manifold with id := "1", command := "ls", isFavorite := false, tags := ["x"] },
    { manifold with isFavorite := false }]

/-- A tag for the first entry and a toggle of the second go through and leave the same file in
either order. -/
theorem edits_are_local_pair : ∃ w w' : Workspace, inRoot.Shows w pair ∧
    (do inRoot.addTag "1" "x"; inRoot.perform (.toggleFavorite manifold.id) : Action Unit).run w =
      .ok () w' ∧
    inRoot.Shows w' editedPair ∧
    (do inRoot.perform (.toggleFavorite manifold.id); inRoot.addTag "1" "x" :
      Action Unit).Achieves w
        (fun _ w₂ => w₂.files.access inRoot.path = w'.files.access inRoot.path) ∧
    (do inRoot.addTag "1" "x"; inRoot.removeTag "1" "x" : Action Unit).Achieves w
      (fun _ w₂ => inRoot.Shows w₂ pair) ∧
    (inRoot.addTag manifold.id "ẞ").Achieves w fun _ w₂ => w₂.files = w.files := by
  have hs : ∀ e ∈ pair, e.IsSound := by decide +kernel
  have hstart := HasNothingElse.stocked (written pair) []
  have hholds := holds_stocked hs (fun e _ => e.keepsTime) []
  -- All that is needed of the workspace is known by now, and it should not be evaluated.
  generalize stocked (written pair) [] = w at hstart hholds
  obtain ⟨w₁, hadd, h₁⟩ := hstart.exists_run_perform ((Edit.addTag "x").keepsTime_call "1")
  obtain ⟨w', htoggled, -⟩ :=
    h₁.exists_run_perform (Edit.toggleFavorite.keepsTime_call manifold.id)
  have hboth := run_bind_of_ok (f := fun _ => inRoot.perform (.toggleFavorite manifold.id)) hadd
  have hshows : inRoot.Shows w pair := ⟨w, hholds.run_entries⟩
  obtain ⟨hone, -, -, -, hback, htwo⟩ := edits_are_local inRoot hshows (by decide +kernel)
  have hx : (Edit.addTag "x").IsReadable "1" pair := .inl fun tag h => by cases h; rfl
  have htoggle : Edit.toggleFavorite.IsReadable manifold.id pair := .inl fun _ h => nomatch h
  obtain ⟨hfirst, hsecond⟩ := htwo (.addTag "x") .toggleFavorite "1" manifold.id
    (by decide +kernel) hx htoggle
  have hedited : (Edit.addTag "x").on "1" (Edit.toggleFavorite.on manifold.id pair) =
      editedPair := by decide +kernel
  rw [hedited] at hfirst hsecond
  obtain ⟨hshown, haccess⟩ := hfirst.of_run_eq_ok (hboth.trans htoggled)
  have hnew : ∀ e ∈ pair, e.id = "1" → Text.ofString "x" ∉ e.tags := by decide +kernel
  have hself : ∀ e ∈ pair, e.id = manifold.id → (Edit.addTag "ẞ").change e = e := by
    decide +kernel
  refine ⟨w, w', hshows, hboth.trans htoggled, hshown, ?_, hback "1" "x" hx hnew, ?_⟩
  · exact hsecond.mono fun _ w₂ h₂ => h₂.2.trans haccess.symm
  · exact (hone (.addTag "ẞ") manifold.id).mono fun _ w' h => h.2 hself

end Store

end CommandAdvisor.History
