import CommandAdvisor.Proofs.Storage.Ways
import Mathlib.Data.List.Infix

/-!
# Where paths lead

A path leads to one place, whatever is stored, if it leads anywhere. What it passes on its way
there has to be a directory.

## Main definitions
* `Path.destination`: the place that a path leads to if it leads anywhere.
* `Path.Passes`: a path passes a place on its way to another.

## Main statements
* `FileSystem.destination_of_locate`: where a path leads does not depend on what is there.
* `FileSystem.exists_directory_of_passes`: what a path passes.
-/
namespace CommandAdvisor.Storage

/-- Where names lead from a place if everything on the way is there. -/
def Place.along (place : Place) : List Text → Place
  | [] => place
  | part :: rest => Place.along (if part = ".." then place.dropLast else place ++ [part]) rest

/-- The place that a path leads to if everything on the way is there. -/
def Path.destination (here : Place) (p : Path) : Place :=
  Place.along (if p.anchor = .here then here else []) p.parts

theorem Place.along_append (place : Place) (parts more : List Text) :
    Place.along place (parts ++ more) = Place.along (Place.along place parts) more := by
  induction parts generalizing place with
  | nil => rfl
  | cons part rest ih => exact ih _

theorem Path.destination_child (here : Place) (p : Path) {name : Text} (h : name ≠ "..") :
    (p.child name).destination here = p.destination here ++ [name] := by
  rw [destination, child, Place.along_append]
  exact if_neg h

/-- A path passes a place on its way to where it leads: a proper part of its names leads there. -/
def Path.Passes (here : Place) (p : Path) (place : Place) : Prop :=
  ∃ q : Path, q.IsOnTheWay p ∧ q ≠ p ∧ q.destination here = place

instance (here : Place) (p : Path) (place : Place) : Decidable (p.Passes here place) :=
  decidable_of_iff (∃ parts ∈ p.parts.inits, parts ≠ p.parts ∧
      (Path.mk p.anchor parts).destination here = place) <| by
    constructor
    · rintro ⟨parts, hprefix, hne, hplace⟩
      exact ⟨⟨p.anchor, parts⟩, ⟨rfl, (List.mem_inits _ _).1 hprefix⟩,
        fun heq => hne (congrArg Path.parts heq), hplace⟩
    · rintro ⟨⟨_, parts⟩, ⟨rfl, hprefix⟩, hne, hplace⟩
      refine ⟨parts, (List.mem_inits _ _).2 hprefix, ?_, hplace⟩
      rintro rfl
      exact hne rfl

namespace FileSystem

variable {fs fs' fs'' : FileSystem} {p q : Path} {place : Place}

/-- Names are followed through directories. -/
theorem follow_cons_eq_ok {part : Text} {rest : List Text} {last : Place}
    (h : fs.follow place (part :: rest) = .ok last) :
    (∃ mode, fs.node? place = some (.directory mode)) ∧
      fs.follow (if part = ".." then place.dropLast else place ++ [part]) rest = .ok last := by
  rw [follow] at h
  cases hnode : fs.node? place with
  | none =>
    rw [hnode] at h
    cases h
  | some node =>
    rw [hnode] at h
    cases node with
    | file mode content => cases h
    | directory mode =>
      refine ⟨⟨mode, rfl⟩, ?_⟩
      dsimp only at h
      split at h
      · next hup => rwa [if_pos hup]
      · next hup =>
        split at h
        · cases h
        · rwa [if_neg hup]

theorem along_of_follow {parts : List Text} {last : Place}
    (h : fs.follow place parts = .ok last) : last = place.along parts := by
  induction parts generalizing place with
  | nil => exact (Except.ok.inj h).symm
  | cons part rest ih => exact ih (follow_cons_eq_ok h).2

theorem follow_of_locate (h : fs.locate p = .ok place) :
    fs.follow (if p.anchor = .here then fs.here else []) p.parts = .ok place := by
  rw [locate] at h
  split at h
  · cases h
  · split at h
    · cases h
    · exact h

/-- **Where a path leads does not depend on what is there,** but whether it leads anywhere. -/
theorem destination_of_locate (h : fs.locate p = .ok place) : p.destination fs.here = place :=
  (along_of_follow (follow_of_locate h)).symm

/-- All places where names do not end are directories. -/
theorem exists_directory_along {parts rest : List Text} {part : Text} {last : Place}
    (h : fs.follow place (parts ++ part :: rest) = .ok last) :
    ∃ m, fs.node? (place.along parts) = some (.directory m) := by
  induction parts generalizing place with
  | nil => exact (follow_cons_eq_ok h).1
  | cons first others ih => exact ih (follow_cons_eq_ok h).2

/-- A path that leads anywhere passes directories only. -/
theorem exists_directory_of_passes {last : Place} (h : fs.locate p = .ok last)
    (hp : p.Passes fs.here place) : ∃ m, fs.node? place = some (.directory m) := by
  obtain ⟨⟨_, parts⟩, ⟨rfl, more, hmore⟩, hne, rfl⟩ := hp
  have hfollow := follow_of_locate h
  rw [← hmore] at hfollow
  cases more with
  | nil =>
    rw [List.append_nil] at hmore
    exact absurd (congrArg (Path.mk p.anchor) hmore) hne
  | cons part rest => exact exists_directory_along hfollow

/-- What is on the way to a directory is a directory. -/
theorem exists_directory_of_isOnTheWay {mode : Nat} (h : fs.access p = .ok (.directory mode))
    (hq : q.IsOnTheWay p) : ∃ m, fs.node? (q.destination fs.here) = some (.directory m) := by
  obtain ⟨place, hplace, hnode⟩ := access_eq_ok_iff.1 h
  by_cases hwhole : q = p
  · subst hwhole
    rw [destination_of_locate hplace]
    exact ⟨mode, hnode⟩
  · exact exists_directory_of_passes hplace ⟨q, hq, hwhole, rfl⟩

end FileSystem

end CommandAdvisor.Storage
