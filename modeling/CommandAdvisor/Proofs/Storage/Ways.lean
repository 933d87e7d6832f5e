import CommandAdvisor.Proofs.Frames
import CommandAdvisor.Proofs.Storage.SavedFile

/-!
# Directories on the way

To make a directory and those on the way to it changes nothing that is there: directories
appear where nothing was, at places that the path passes. This holds whether all of them can
be made or not.

## Main definitions
* `Path.IsOnTheWay`: a path passes where another leads.
* `FileSystem.MakesWay`: directories have appeared on the way to a path, and nothing else.

## Main statements
* `Disk.respects_makeDirectories`: making directories does nothing else.
* `Disk.access_of_makeDirectories`: a directory that was made is there.
-/
namespace CommandAdvisor.Storage

/-- A path passes where another leads: its first names are those of the other. -/
def Path.IsOnTheWay (q p : Path) : Prop := q.anchor = p.anchor ∧ q.parts <+: p.parts

theorem Path.isOnTheWay_refl (p : Path) : p.IsOnTheWay p := ⟨rfl, List.prefix_refl _⟩

theorem Path.IsOnTheWay.of_parent {q p : Path} (h : q.IsOnTheWay p.parent) : q.IsOnTheWay p :=
  ⟨h.1, h.2.trans (List.dropLast_prefix _)⟩

namespace FileSystem

/-- Directories have appeared where nothing was, on the way to a path. -/
structure MakesWay (p : Path) (fs fs' : FileSystem) : Prop where
  here : fs'.here = fs.here
  node? : ∀ place, fs'.node? place = fs.node? place ∨
    fs.node? place = none ∧ (∃ mode, fs'.node? place = some (.directory mode)) ∧
      ∃ q, q.IsOnTheWay p ∧ fs'.locate q = .ok place

variable {p : Path} {fs fs' fs'' : FileSystem}

theorem MakesWay.keepsDirectories (h : MakesWay p fs fs') : KeepsDirectories fs fs' where
  here := h.here
  directory place mode hd := by
    rcases h.node? place with hsame | ⟨hnone, -⟩
    · exact ⟨mode, hsame.trans hd⟩
    · rw [hnone] at hd
      cases hd

theorem MakesWay.trans (h : MakesWay p fs fs') (h' : MakesWay p fs' fs'') : MakesWay p fs fs'' where
  here := h'.here.trans h.here
  node? place := by
    rcases h.node? place with hsame | ⟨hnone, ⟨mode, hmade⟩, q, hq, hlocate⟩
    · rw [← hsame]
      exact h'.node? place
    · rcases h'.node? place with hsame' | ⟨hnone', -⟩
      · rw [hsame']
        exact .inr ⟨hnone, ⟨mode, hmade⟩, q, hq, h'.keepsDirectories.locate hlocate⟩
      · rw [hmade] at hnone'
        cases hnone'

instance (p : Path) : IsPreorder FileSystem (MakesWay p) where
  refl _ := ⟨rfl, fun _ => .inl rfl⟩
  trans _ _ _ := MakesWay.trans

/-- What appears on the way to where a path comes from appears on the way to the path. -/
theorem MakesWay.of_parent (h : MakesWay p.parent fs fs') : MakesWay p fs fs' where
  here := h.here
  node? place := by
    rcases h.node? place with hsame | ⟨hnone, hmade, q, hq, hlocate⟩
    · exact .inl hsame
    · exact .inr ⟨hnone, hmade, q, hq.of_parent, hlocate⟩

theorem isNoDirectory_of_node?_eq_none {place : Place} (h : fs.node? place = none) :
    fs.IsNoDirectory place := by
  intro mode hd
  rw [h] at hd
  cases hd

theorem isDirectory_iff : fs.isDirectory p = true ↔ ∃ mode, fs.access p = .ok (.directory mode) := by
  rw [isDirectory]
  split
  · next mode haccess => simp [haccess]
  · next hno => simpa using fun mode haccess => hno mode haccess

theorem makesWay_put {place : Place} (hp : fs.locate p = .ok place) (h : fs.node? place = none)
    (mode : Nat) : MakesWay p fs (fs.put place (.directory mode)) where
  here := rfl
  node? other := by
    have hfree := isNoDirectory_of_node?_eq_none h
    by_cases hother : other = place
    · subst hother
      exact .inr ⟨h, ⟨mode, node?_put_self fs hfree.ne_nil _⟩, p, p.isOnTheWay_refl,
        (keepsDirectories_put hfree _).locate hp⟩
    · exact .inl (node?_put_of_ne fs hother _)

end FileSystem

namespace Disk

open FileSystem

/-- To make one directory has one of two outcomes. -/
theorem run_makeDirectory (mode : Nat) (p : Path) (fs : FileSystem) :
    (∃ refusal, (makeDirectory mode p).run fs = .error refusal fs) ∨
      ∃ place, fs.locate p = .ok place ∧ fs.node? place = none ∧ (makeDirectory mode p).run fs =
        .ok () (fs.put place (.directory (fs.inheritedMode place mode))) := by
  cases hlocate : (locate p).run fs with
  | error refusal fs₁ =>
    obtain rfl := (respects_locate p).of_run_eq_error hlocate
    exact .inl ⟨refusal, run_bind_of_error hlocate⟩
  | ok place fs₁ =>
    obtain ⟨hplace, rfl⟩ := run_locate hlocate
    have hat : (at? place).run fs₁ = .ok (fs₁.node? place) fs₁ := rfl
    rw [makeDirectory, run_bind_of_ok hlocate, run_bind_of_ok hat]
    split
    · exact .inl ⟨_, rfl⟩
    · next hfree =>
      have hnone : fs₁.node? place = none := by
        simp only [Bool.or_eq_true, not_or] at hfree
        simpa using hfree.2
      exact .inr ⟨place, hplace, hnone, rfl⟩

theorem respects_makeDirectory (mode : Nat) (p : Path) :
    Respects (MakesWay p) (makeDirectory mode p) := by
  intro fs
  rcases run_makeDirectory mode p fs with ⟨refusal, hrun⟩ | ⟨place, hp, hnone, hrun⟩
  · rw [hrun]
    exact Std.Refl.refl fs
  · rw [hrun]
    exact makesWay_put hp hnone _

theorem respects_ensureDirectory (mode : Nat) (p : Path) :
    Respects (MakesWay p) (ensureDirectory mode p) :=
  (respects_makeDirectory mode p).tryCatch fun _ =>
    respects_get.bind fun _ => .ite (respects_throw _) (respects_pure _)

theorem respects_makeUpTo (depth mode : Nat) (p : Path) :
    Respects (MakesWay p) (makeUpTo depth mode p) := by
  induction depth generalizing mode p with
  | zero => exact respects_ensureDirectory mode p
  | succ depth ih =>
    refine (respects_ensureDirectory mode p).tryCatch fun _ => .ite ?_ (respects_throw _)
    have hway : Respects (MakesWay p) (makeUpTo depth passageMode p.parent) :=
      (ih passageMode p.parent).mono fun _ _ => MakesWay.of_parent
    exact hway.bind fun _ => respects_ensureDirectory mode p

/-- **To make directories does nothing else** than to make directories on the way, whether all
of them can be made or not. -/
theorem respects_makeDirectories (mode : Nat) (p : Path) :
    Respects (MakesWay p) (makeDirectories mode p) := respects_makeUpTo _ mode p

/-! ## Directories that were made -/

theorem access_of_ensureDirectory {mode : Nat} {p : Path} {fs fs' : FileSystem} {u : Unit}
    (h : (ensureDirectory mode p).run fs = .ok u fs') : ∃ m, fs'.access p = .ok (.directory m) := by
  rcases run_tryCatch_eq_ok h with hmade | ⟨refusal, fs₁, -, hthere⟩
  · rcases run_makeDirectory mode p fs with ⟨refusal, hrun⟩ | ⟨place, hp, hnone, hrun⟩
    · rw [hrun] at hmade
      cases hmade
    · rw [hrun] at hmade
      cases hmade
      exact ⟨_, access_put hp (isNoDirectory_of_node?_eq_none hnone) _⟩
  · rw [run_bind_of_ok (EStateM.run_get fs₁)] at hthere
    split at hthere
    · cases hthere
    · next hdirectory =>
      cases hthere
      rw [not_or] at hdirectory
      exact isDirectory_iff.1 (by simpa using hdirectory.2)

theorem access_of_makeUpTo {depth mode : Nat} {p : Path} {fs fs' : FileSystem} {u : Unit}
    (h : (makeUpTo depth mode p).run fs = .ok u fs') : ∃ m, fs'.access p = .ok (.directory m) := by
  cases depth with
  | zero => exact access_of_ensureDirectory h
  | succ depth =>
    rcases run_tryCatch_eq_ok h with hmade | ⟨refusal, fs₁, -, hagain⟩
    · exact access_of_ensureDirectory hmade
    · split at hagain
      · obtain ⟨_, fs₂, -, hensure⟩ := exists_of_run_bind_eq_ok hagain
        exact access_of_ensureDirectory hensure
      · cases hagain

/-- A directory that was made is there. -/
theorem access_of_makeDirectories {mode : Nat} {p : Path} {fs fs' : FileSystem} {u : Unit}
    (h : (makeDirectories mode p).run fs = .ok u fs') : ∃ m, fs'.access p = .ok (.directory m) :=
  access_of_makeUpTo h

end Disk

end CommandAdvisor.Storage
