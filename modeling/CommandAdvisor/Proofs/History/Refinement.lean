import CommandAdvisor.Proofs.History.Recency
import CommandAdvisor.Proofs.History.Stored
import Mathlib.Data.List.Infix

/-!
# A store is a recency list

Every call of a store reads its file and writes it again. As long as every text that gets
into an entry can be written and read back, the store shows after each call what the calls
make of an empty list. A text with half of a surrogate pair in it is written all the same, but
it is not read back.

## Main definitions
* `Store.perform`: a call of a store.
* `Call.KeepsTime`: the time of an addition is read back from its digits.
* `Store.HasNothingElse`: nothing is in the way of a store in the root directory.

## Main statements
* `Store.holds_of_perform`: a store holds after a call what the call makes of its entries.
* `Store.run_calls`: and so after any calls.
* `Store.entries_are_recent`: what a store shows is the list of the newest additions exactly
  if all texts in it are sound.
-/
namespace CommandAdvisor.History

open Json (Dialect)

/-- The time of an addition is no number beyond the largest and is read back from its
digits. -/
def Call.KeepsTime : Call → Prop
  | .add clock .. => ∃ time, clock.toBinary64? = some time ∧
      Dialect.strict.scalar (Json.writeReal .portable time) = .ok (.real time)
  | _ => True

namespace Store

/-- A call of a store. An addition finds its time on the clock. -/
def perform (s : Store) : Call → Action Unit
  | .add clock issued command explanation level => do
    modify fun w => { w with clock, issued }
    let _ ← s.add command explanation level
  | .toggleFavorite id => do let _ ← s.toggleFavorite id
  | .addTag id tag => s.addTag id tag
  | .removeTag id tag => s.removeTag id tag
  | .clear => s.clear

end Store

/-! ## The entries behind the calls -/

namespace Call

theorem exists_addition? {clock : Number.Quantity} {issued : Nat} {command : Text}
    {explanation : Explanation} {level : Option Risk.Level}
    (h : (add clock issued command explanation level).KeepsTime) :
    ∃ new, (add clock issued command explanation level).addition? = some new ∧ new.KeepsTime := by
  obtain ⟨time, htime, hreal⟩ := h
  have hnew := congrArg (Option.map fun time => Entry.mk (Text.hexDigits 16 (issued + 1)) command
    explanation.parts explanation.overall explanation.safetyNotes explanation.examples level time
    false []) htime
  exact ⟨_, hnew, hreal⟩

/-- Calls change no times. -/
theorem keepsTime_apply (limit : Int) {c : Call} (hc : c.KeepsTime) {entries : List Entry}
    (h : ∀ e ∈ entries, e.KeepsTime) : ∀ e ∈ c.apply limit entries, e.KeepsTime := by
  have hedit {fits : Entry → Bool} {change : Entry → Entry}
      (hchange : ∀ e, (change e).timestamp = e.timestamp) :
      ∀ e ∈ (updateFirst? fits change entries).getD entries, e.KeepsTime := by
    cases hup : updateFirst? fits change entries with
    | none => exact h
    | some changed =>
      refine forall_of_updateFirst? ?_ h hup
      intro e _ he
      rw [Entry.KeepsTime, hchange]
      exact he
  cases c with
  | add clock issued command explanation level =>
    obtain ⟨new, hnew, hkeeps⟩ := exists_addition? hc
    rw [apply, hnew]
    intro e he
    have hmem : e ∈ new :: entries.filter fun e => e.command ≠ new.command := by
      have htake {n : Int} {es : List Entry} (hes : e ∈ truncate n es) : e ∈ es := by
        rw [truncate] at hes
        split at hes <;> exact List.mem_of_mem_take hes
      exact htake he
    rcases List.mem_cons.1 hmem with rfl | hold
    · exact hkeeps
    · exact h e (List.mem_of_mem_filter hold)
  | toggleFavorite id => exact hedit fun _ => rfl
  | addTag id tag => exact hedit fun _ => rfl
  | removeTag id tag => exact hedit fun _ => rfl
  | clear => exact fun e he => absurd he List.not_mem_nil

end Call

namespace Store

variable {s : Store} {w w' : Workspace}

/-- The new entry of an addition is the one that the addition stands for. -/
theorem run_newEntry {clock : Number.Quantity} {issued : Nat} {command : Text}
    {explanation : Explanation} {level : Option Risk.Level} {new : Entry}
    (h : (Call.add clock issued command explanation level).addition? = some new) :
    (newEntry command explanation level).run { w with clock, issued } =
      .ok new { w with clock, issued := issued + 1 } := by
  obtain ⟨time, htime, rfl⟩ := Option.map_eq_some_iff.1 h
  have hid : newId.run { w with clock, issued } =
      .ok (Text.hexDigits 16 (issued + 1)) { w with clock, issued := issued + 1 } := rfl
  have hnow : timestamp.run { w with clock, issued := issued + 1 } =
      .ok time { w with clock, issued := issued + 1 } := by
    rw [timestamp, run_bind_of_ok (EStateM.run_get _)]
    dsimp only
    rw [htime]
    rfl
  rw [newEntry, run_bind_of_ok hid, run_bind_of_ok hnow]
  rfl

/-- What an addition does in a workspace. -/
theorem run_perform_add {clock : Number.Quantity} {issued : Nat} {command : Text}
    {explanation : Explanation} {level : Option Risk.Level} {new : Entry}
    (h : (Call.add clock issued command explanation level).addition? = some new) :
    (s.perform (.add clock issued command explanation level)).run w =
      (do s.save (remember s.limit new (← s.entries)) : Action Unit).run
        { w with clock, issued := issued + 1 } := by
  have hmodify : (modify fun w => { w with clock, issued } : Action Unit).run w =
      .ok () { w with clock, issued } := rfl
  rw [perform, run_bind_of_ok hmodify, add, bind_assoc, run_bind_of_ok (run_newEntry h)]
  simp only [bind_assoc, pure_bind, bind_pure_unit]

/-- **A store holds after a call what the call makes of its entries,** if that is sound. -/
theorem holds_of_perform {c : Call} (hc : c.KeepsTime) {entries : List Entry} {u : Unit}
    (h : s.Holds w entries) (ht : ∀ e ∈ entries, e.KeepsTime)
    (hrun : (s.perform c).run w = .ok u w') (hs : ∀ e ∈ c.apply s.limit entries, e.IsSound) :
    s.Holds w' (c.apply s.limit entries) := by
  have hkeeps := Call.keepsTime_apply s.limit hc ht
  cases c with
  | add clock issued command explanation level =>
    obtain ⟨new, hnew, -⟩ := Call.exists_addition? hc
    have hstart : s.Holds { w with clock, issued := issued + 1 } entries := h.of_files rfl
    rw [run_perform_add hnew, run_bind_of_ok hstart.run_entries] at hrun
    rw [Call.apply, hnew] at hs hkeeps ⊢
    exact holds_of_save hrun hs hkeeps
  | toggleFavorite id =>
    obtain ⟨_, w₁, htoggle, hpure⟩ := exists_of_run_bind_eq_ok hrun
    obtain ⟨result, w₂, hedit, hanswer⟩ := exists_of_run_bind_eq_ok htoggle
    cases hpure
    have hw : w' = w₂ := by
      cases result <;> cases hanswer <;> rfl
    rw [hw]
    exact holds_of_edit h hedit hs hkeeps
  | addTag id tag =>
    obtain ⟨_, w₁, hedit, hpure⟩ := exists_of_run_bind_eq_ok hrun
    cases hpure
    exact holds_of_edit h hedit hs hkeeps
  | removeTag id tag =>
    obtain ⟨_, w₁, hedit, hpure⟩ := exists_of_run_bind_eq_ok hrun
    cases hpure
    exact holds_of_edit h hedit hs hkeeps
  | clear => exact holds_of_save hrun hs hkeeps

theorem failsByRefusal_perform {c : Call} (hc : c.KeepsTime) : (s.perform c).FailsByRefusal := by
  cases c with
  | add clock issued command explanation level =>
    obtain ⟨new, hnew, -⟩ := Call.exists_addition? hc
    intro w failure w' hrun
    rw [run_perform_add hnew] at hrun
    exact ((failsByRefusal_entries s).bind fun _ => failsByRefusal_save _) _ failure w' hrun
  | toggleFavorite id =>
    refine ((failsByRefusal_edit _).bind fun result => ?_).bind fun _ => Action.failsByRefusal_pure _
    cases result <;> exact Action.failsByRefusal_pure _
  | addTag id tag =>
    exact (failsByRefusal_edit _).bind fun _ => Action.failsByRefusal_pure _
  | removeTag id tag =>
    exact (failsByRefusal_edit _).bind fun _ => Action.failsByRefusal_pure _
  | clear => exact failsByRefusal_save _

/-- After any calls a store holds what they make of its entries, if that is sound throughout;
otherwise an access was refused. -/
theorem run_calls {calls : List Call} (hc : ∀ c ∈ calls, c.KeepsTime) {entries : List Entry}
    (h : s.Holds w entries) (ht : ∀ e ∈ entries, e.KeepsTime)
    (hs : ∀ before, before <+: calls →
      ∀ e ∈ before.foldl (Call.apply s.limit) entries, e.IsSound) :
    (∃ w', (forM calls s.perform).run w = .ok () w' ∧
      s.Holds w' (calls.foldl (Call.apply s.limit) entries)) ∨
    ∃ refusal w', (forM calls s.perform).run w = .error (.storage refusal) w' := by
  induction calls generalizing w entries with
  | nil => exact .inl ⟨w, rfl, h⟩
  | cons c calls ih =>
    obtain ⟨hcall, hrest⟩ := List.forall_mem_cons.1 hc
    rw [List.forM_cons]
    cases hrun : (s.perform c).run w with
    | error failure w₁ =>
      obtain ⟨refusal, rfl⟩ := failsByRefusal_perform hcall w failure w₁ hrun
      refine .inr ⟨refusal, w₁, ?_⟩
      rw [EStateM.run_bind, hrun]
    | ok u w₁ =>
      have hone : ∀ e ∈ c.apply s.limit entries, e.IsSound :=
        hs [c] ⟨calls, rfl⟩
      have hholds := holds_of_perform hcall h ht hrun hone
      rw [run_bind_of_ok hrun]
      exact ih hrest hholds (Call.keepsTime_apply s.limit hcall ht) fun before hbefore =>
        hs (c :: before) (List.cons_prefix_cons.2 ⟨rfl, hbefore⟩)

/-! ## A store that is not refused an access -/

/-- There is nothing in the way of the history in the root directory: if anything is stored, it
is that history. -/
structure HasNothingElse (w : Workspace) : Prop where
  home : w.home = "/"
  stamp : w.stamp = "s"
  files : w.files = ⟨[], []⟩ ∨ ∃ content, w.files = rootFiles content

namespace HasNothingElse

theorem bare : HasNothingElse bareWorkspace := ⟨rfl, rfl, .inl rfl⟩

theorem stocked (content : ByteArray) (journal : List Event) :
    HasNothingElse (stocked content journal) := ⟨rfl, rfl, .inr ⟨content, rfl⟩⟩

theorem of_rootFiles (h : HasNothingElse w) (hhome : w'.home = w.home) (hstamp : w'.stamp = w.stamp)
    {content : ByteArray} (hfiles : w'.files = rootFiles content) : HasNothingElse w' :=
  ⟨hhome.trans h.home, hstamp.trans h.stamp, .inr ⟨content, hfiles⟩⟩

theorem of_files (h : HasNothingElse w) (hhome : w'.home = w.home) (hstamp : w'.stamp = w.stamp)
    (hfiles : w'.files = w.files) : HasNothingElse w' :=
  ⟨hhome.trans h.home, hstamp.trans h.stamp, hfiles ▸ h.files⟩

theorem run_savePrivately (h : HasNothingElse w) (entries : List Entry) :
    (Storage.savePrivately inRoot.path (encodeEntries entries)).run w =
      .ok () { w with files := rootFiles (written entries) } := by
  obtain ⟨hhome, hstamp, hfiles⟩ := h
  obtain ⟨files, home, environment, clock, issued, stamp, reports, requests, journal, printed,
    host⟩ := w
  subst hhome hstamp
  let start : Workspace := ⟨files, "/", environment, clock, issued, "s", reports, requests,
    journal, printed, host⟩
  let draft := Storage.draftOf "s" inRoot.path
  let drafted : Workspace := { start with
    files := ⟨[], ([Text.ofString ".history.s.tmp"], .file Storage.privateMode (written entries)) ::
      files.nodes⟩ }
  have hkeep : (Storage.keepDirectory inRoot.path.parent).run start = .ok () start := by
    obtain rfl | ⟨content, rfl⟩ := hfiles <;> rfl
  have hcreate : (Action.onDisk (Storage.Disk.create Storage.privateMode draft
      (written entries))).run start = .ok () drafted := by
    obtain rfl | ⟨content, rfl⟩ := hfiles <;> rfl
  have hreplace : (Action.onDisk (Storage.Disk.replace draft inRoot.path)).run drafted =
      .ok () { start with files := rootFiles (written entries) } := by
    obtain rfl | ⟨content, rfl⟩ := hfiles <;> rfl
  rw [Storage.savePrivately, run_bind_of_ok hkeep, run_bind_of_ok (EStateM.run_get _)]
  refine (run_bind_of_ok hcreate).trans ?_
  rw [run_tryCatch, Storage.publish_of_not_isOversized (isOversized_encodeEntries entries),
    hreplace]

theorem exists_run_save (h : HasNothingElse w) (entries : List Entry) :
    ∃ w', (inRoot.save entries).run w = .ok () w' ∧ HasNothingElse w' :=
  ⟨_, run_bind_of_ok (h.run_savePrivately entries), h.of_rootFiles rfl rfl rfl⟩

theorem exists_run_entries (h : HasNothingElse w) :
    ∃ entries w', inRoot.entries.run w = .ok entries w' ∧ HasNothingElse w' := by
  obtain hnone | ⟨content, hfile⟩ := h.files
  · have habsent : w.files.isThere inRoot.path = .ok false := by
      rw [hnone]
      rfl
    exact ⟨[], w, (Holds.absent habsent).run_entries, h⟩
  · have haccess : w.files.access inRoot.path = .ok (.file Storage.privateMode content) :=
      hfile ▸ access_rootFiles content
    have hentries := run_entries_of_file haccess
    cases hread : readEntries content with
    | ok entries =>
      rw [hread] at hentries
      exact ⟨entries, w, hentries, h⟩
    | error failure =>
      rw [hread] at hentries
      exact ⟨[], _, hentries, h.of_files rfl rfl rfl⟩

theorem exists_run_edit (h : HasNothingElse w) (change : List Entry → Option (List Entry)) :
    ∃ result w', (inRoot.edit change).run w = .ok result w' ∧ HasNothingElse w' := by
  obtain ⟨entries, w₁, hread, h₁⟩ := h.exists_run_entries
  rw [edit, run_bind_of_ok hread]
  cases change entries with
  | none => exact ⟨none, w₁, rfl, h₁⟩
  | some changed =>
    obtain ⟨w₂, hsave, h₂⟩ := h₁.exists_run_save changed
    exact ⟨some changed, w₂, run_bind_of_ok hsave, h₂⟩

/-- No call is refused, and nothing is in the way of the next one. -/
theorem exists_run_perform (h : HasNothingElse w) {c : Call} (hc : c.KeepsTime) :
    ∃ w', (inRoot.perform c).run w = .ok () w' ∧ HasNothingElse w' := by
  cases c with
  | add clock issued command explanation level =>
    obtain ⟨new, hnew, -⟩ := Call.exists_addition? hc
    have hstart : HasNothingElse { w with clock, issued := issued + 1 } := h.of_files rfl rfl rfl
    obtain ⟨entries, w₁, hread, h₁⟩ := hstart.exists_run_entries
    obtain ⟨w₂, hsave, h₂⟩ := h₁.exists_run_save (remember inRoot.limit new entries)
    exact ⟨w₂, by rw [run_perform_add hnew, run_bind_of_ok hread, hsave], h₂⟩
  | toggleFavorite id =>
    obtain ⟨result, w₁, hedit, h₁⟩ := h.exists_run_edit (toggleFavorite? id)
    refine ⟨w₁, ?_, h₁⟩
    rw [perform, toggleFavorite, bind_assoc, run_bind_of_ok hedit]
    cases result <;> rfl
  | addTag id tag =>
    obtain ⟨result, w₁, hedit, h₁⟩ := h.exists_run_edit (addTag? id tag)
    exact ⟨w₁, run_bind_of_ok hedit, h₁⟩
  | removeTag id tag =>
    obtain ⟨result, w₁, hedit, h₁⟩ := h.exists_run_edit (removeTag? id tag)
    exact ⟨w₁, run_bind_of_ok hedit, h₁⟩
  | clear => exact h.exists_run_save []

theorem exists_run_calls (h : HasNothingElse w) {calls : List Call}
    (hc : ∀ c ∈ calls, c.KeepsTime) : ∃ w', (forM calls inRoot.perform).run w = .ok () w' := by
  induction calls generalizing w with
  | nil => exact ⟨w, rfl⟩
  | cons c calls ih =>
    obtain ⟨hcall, hrest⟩ := List.forall_mem_cons.1 hc
    obtain ⟨w₁, hrun, h₁⟩ := h.exists_run_perform hcall
    rw [List.forM_cons, run_bind_of_ok hrun]
    exact ih h₁ hrest

end HasNothingElse

/-! ## What is shown after any calls -/

/-- **What a store shows after each call is the list of the newest additions exactly if all
texts in it are sound.** -/
theorem entries_are_recent (s : Store) (limit : Nat) (hlimit : s.limit = limit)
    (calls : List Call) (w : Workspace) (habsent : w.files.isThere s.path = .ok false)
    (htimes : ∀ c ∈ calls, c.KeepsTime) (hids : (calls.filterMap Call.newId?).Nodup)
    (hwrites : ∀ refusal w', (forM calls s.perform).run w ≠ .error (.storage refusal) w') :
    (∀ before, before <+: calls → IsRecent limit (additions before) (listed limit before)) ∧
    ((∀ before, before <+: calls → ∃ w', (forM before s.perform).run w = .ok () w' ∧
        s.entries.run w' = .ok (listed limit before) w') ↔
      ∀ before, before <+: calls → ∀ e ∈ listed limit before, e.IsSound) := by
  have hmem {before : List Call} (hbefore : before <+: calls) :
      ∀ c ∈ before, c ∈ calls := fun c hc => hbefore.subset hc
  refine ⟨?_, ?_, ?_⟩
  · intro before hbefore
    exact isRecent_listed limit (hids.sublist (hbefore.sublist.filterMap _))
  · intro hshows before hbefore
    obtain ⟨w', -, hentries⟩ := hshows before hbefore
    exact isSound_of_run_entries hentries
  · intro hs before hbefore
    have hsound : ∀ first, first <+: before →
        ∀ e ∈ first.foldl (Call.apply s.limit) [], e.IsSound := by
      intro first hfirst
      rw [hlimit]
      exact hs first (hfirst.trans hbefore)
    rcases run_calls (fun c hc => htimes c (hmem hbefore c hc)) (.absent habsent) (by simp)
      hsound with ⟨w', hrun, hholds⟩ | ⟨refusal, w', hrun⟩
    · rw [hlimit] at hholds
      exact ⟨w', hrun, hholds.run_entries⟩
    · -- A refusal would have ended all calls.
      obtain ⟨rest, rfl⟩ := hbefore
      refine absurd ?_ (hwrites refusal w')
      rw [List.forM_append, EStateM.run_bind, hrun]

/-- A clear, a command that is added again and tagged, and one more than two are kept of. -/
def callsWithClear : List Call := [.add (.whole 1) 0 "cd" .empty none, .clear,
  .add (.whole 2) 1 "ls" .empty (some .low), .add (.whole 3) 2 "pwd" .empty (some .low),
  .add (.whole 4) 3 "ls" .empty none, .addTag "0000000000000004" "often",
  .add (.whole 5) 4 "id" .empty (some .low)]

theorem entries_are_recent_after_clear :
    ∃ entries w', (forM callsWithClear inRoot.perform).run bareWorkspace = .ok () w' ∧
      inRoot.entries.run w' = .ok entries w' ∧
      IsRecent 2 (additions callsWithClear) entries ∧
      (entries.map fun e => (e.command, e.tags)) =
        [(Text.ofString "id", []), (Text.ofString "ls", [Text.ofString "often"])] := by
  have hread : (∀ n ∈ [1, 2, 3, 4, 5], Number.Quantity.toBinary64? (.whole n) = some (.ofInt n)) ∧
      ∀ n ∈ [1, 2, 3, 4, 5], Dialect.strict.scalar (Json.writeReal .portable (.ofInt n)) =
        .ok (.real (.ofInt n)) := by decide +kernel
  have htime {n : Int} (hn : n ∈ [1, 2, 3, 4, 5]) (issued : Nat) (command : Text)
      (level : Option Risk.Level) : (Call.add (.whole n) issued command .empty level).KeepsTime :=
    ⟨_, hread.1 n hn, hread.2 n hn⟩
  have htimes : ∀ c ∈ callsWithClear, c.KeepsTime := by
    simp only [callsWithClear, List.forall_mem_cons]
    exact ⟨htime (by simp) _ _ _, trivial, htime (by simp) _ _ _, htime (by simp) _ _ _,
      htime (by simp) _ _ _, trivial, htime (by simp) _ _ _, by simp⟩
  obtain ⟨w₁, hdone⟩ := HasNothingElse.bare.exists_run_calls htimes
  have hwrites (refusal : Storage.Refusal) (w' : Workspace) :
      (forM callsWithClear inRoot.perform).run bareWorkspace ≠ .error (.storage refusal) w' := by
    rw [hdone]
    nofun
  have hs : ∀ before ∈ callsWithClear.inits, ∀ e ∈ listed 2 before, e.IsSound := by
    decide +kernel
  obtain ⟨hrecent, hshows⟩ := entries_are_recent inRoot 2 rfl callsWithClear bareWorkspace rfl
    htimes (by decide +kernel) hwrites
  have hall := List.prefix_refl callsWithClear
  obtain ⟨w', hrun, hentries⟩ :=
    hshows.2 (fun before hbefore => hs before ((List.mem_inits _ _).2 hbefore)) _ hall
  exact ⟨_, w', hrun, hentries, hrecent _ hall, by decide +kernel⟩

end Store

end CommandAdvisor.History
