import CommandAdvisor.Storage.FileSystem

/-!
# Paths and what they pass

A path is followed through directories only. So where every directory stays one, every path
leads where it did, and a file can be put where no directory is, or taken away, without a
path going astray.

## Main definitions
* `FileSystem.KeepsDirectories`: every directory is still a directory.

## Main statements
* `FileSystem.KeepsDirectories.locate`: then every path leads where it did.
* `FileSystem.keepsDirectories_put` and `FileSystem.keepsDirectories_remove`.
-/
namespace CommandAdvisor.Storage.FileSystem

/-- Every directory of a file system is a directory of another. -/
structure KeepsDirectories (fs fs' : FileSystem) : Prop where
  here : fs'.here = fs.here
  directory : ∀ place mode, fs.node? place = some (.directory mode) →
    ∃ mode', fs'.node? place = some (.directory mode')

variable {fs fs' : FileSystem}

/-- Names lead where they did: on the way there are only directories. -/
theorem KeepsDirectories.follow (h : KeepsDirectories fs fs') {place last : Place}
    {parts : List Text} (hf : fs.follow place parts = .ok last) :
    fs'.follow place parts = .ok last := by
  induction parts generalizing place with
  | nil => exact hf
  | cons part rest ih =>
    rw [FileSystem.follow] at hf ⊢
    cases hnode : fs.node? place with
    | none =>
      rw [hnode] at hf
      cases hf
    | some node =>
      cases node with
      | file mode content =>
        rw [hnode] at hf
        cases hf
      | directory mode =>
        obtain ⟨mode', hnode'⟩ := h.directory place mode hnode
        rw [hnode] at hf
        rw [hnode']
        dsimp only at hf ⊢
        split
        · next hup =>
          rw [if_pos hup] at hf
          exact ih hf
        · next hup =>
          rw [if_neg hup] at hf
          split
          · next hlong =>
            rw [if_pos hlong] at hf
            cases hf
          · next hlong =>
            rw [if_neg hlong] at hf
            exact ih hf

theorem KeepsDirectories.locate (h : KeepsDirectories fs fs') {p : Path} {place : Place}
    (hp : fs.locate p = .ok place) : fs'.locate p = .ok place := by
  rw [FileSystem.locate] at hp ⊢
  rw [h.here]
  split
  · next fault hfault =>
    rw [hfault] at hp
    cases hp
  · next hfault =>
    rw [hfault] at hp
    dsimp only at hp
    split
    · next hlong =>
      rw [if_pos hlong] at hp
      cases hp
    · next hlong =>
      rw [if_neg hlong] at hp
      exact h.follow hp

/-- No directory is at a place. -/
def IsNoDirectory (fs : FileSystem) (place : Place) : Prop :=
  ∀ mode, fs.node? place ≠ some (.directory mode)

theorem IsNoDirectory.ne_nil {place : Place} (h : fs.IsNoDirectory place) : place ≠ [] := by
  rintro rfl
  exact h 0o755 (if_pos rfl)

theorem keepsDirectories_put {place : Place} (h : fs.IsNoDirectory place) (node : Node) :
    KeepsDirectories fs (fs.put place node) where
  here := rfl
  directory other mode hd := by
    have hne : other ≠ place := by
      rintro rfl
      exact h mode hd
    exact ⟨mode, (node?_put_of_ne fs hne node).trans hd⟩

theorem keepsDirectories_remove {place : Place} (h : fs.IsNoDirectory place) :
    KeepsDirectories fs (fs.remove place) where
  here := rfl
  directory other mode hd := by
    have hne : other ≠ place := by
      rintro rfl
      exact h mode hd
    exact ⟨mode, (node?_remove_of_ne fs hne).trans hd⟩

/-- Nothing that is taken away leaves a directory behind. -/
theorem IsNoDirectory.remove {place : Place} (h : fs.IsNoDirectory place) (other : Place) :
    (fs.remove other).IsNoDirectory place := by
  by_cases hplace : place = other
  · subst hplace
    have hnone : (fs.nodes.filter fun e => e.1 != place).lookup place = none := by
      rw [List.lookup_eq_none_iff]
      intro e he
      have hne : (e.1 != place) = true := (List.mem_filter.1 he).2
      simpa using Ne.symm (bne_iff_ne.1 hne)
    intro mode
    simp [node?, h.ne_nil, FileSystem.remove, hnone]
  · intro mode
    rw [node?_remove_of_ne fs hplace]
    exact h mode

/-! ## What is at the end of a path -/

theorem access_eq_ok_iff {p : Path} {node : Node} :
    fs.access p = .ok node ↔ ∃ place, fs.locate p = .ok place ∧ fs.node? place = some node := by
  rw [access]
  cases fs.locate p with
  | error fault => simp [bind, Except.bind]
  | ok place => cases hnode : fs.node? place <;> simp [bind, Except.bind, hnode]

theorem isThere_of_access {p : Path} {node : Node} (h : fs.access p = .ok node) :
    fs.isThere p = .ok true := by
  rw [isThere, h]

/-- What is put where a path leads and no directory is, is at the end of the path. -/
theorem access_put {p : Path} {place : Place} (hp : fs.locate p = .ok place)
    (h : fs.IsNoDirectory place) (node : Node) : (fs.put place node).access p = .ok node :=
  access_eq_ok_iff.2
    ⟨place, (keepsDirectories_put h node).locate hp, node?_put_self fs h.ne_nil node⟩

end CommandAdvisor.Storage.FileSystem
