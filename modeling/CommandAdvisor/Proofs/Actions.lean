import CommandAdvisor.Workspace

/-!
# Results and failures of actions

An action that is put together from others gives a result where they do, in the workspace
that they leave. What all parts of an action respect, the action respects.

## Main definitions
* `Action.FailsByRefusal`: an action fails only where an access is refused.
* `Action.Succeeds`: an action gives a result in every workspace.
* `Action.Achieves`: an action has a result of a kind, or is refused an access.
* `Action.Keeps`: what is known of the reports before an action is known after it.

## Main statements
* `run_bind_of_ok` and `exists_of_run_bind_eq_ok`: two steps, one after the other.
-/
namespace CommandAdvisor

/-! ## Results of steps -/

section Steps

variable {ε σ α β : Type} {x : EStateM ε σ α} {f : α → EStateM ε σ β} {s t u : σ}

theorem run_bind_of_ok {a : α} (h : x.run s = .ok a t) : (x >>= f).run s = (f a).run t := by
  rw [EStateM.run_bind, h]

theorem run_bind_of_error {e : ε} (h : x.run s = .error e t) : (x >>= f).run s = .error e t := by
  rw [EStateM.run_bind, h]

/-- A result of two steps has a result of the first behind it. -/
theorem exists_of_run_bind_eq_ok {b : β} (h : (x >>= f).run s = .ok b u) :
    ∃ a t, x.run s = .ok a t ∧ (f a).run t = .ok b u := by
  rw [EStateM.run_bind] at h
  split at h
  · next a t hx => exact ⟨a, t, hx, h⟩
  · cases h

/-- A failure of two steps is a failure of one of them. -/
theorem run_bind_eq_error {e : ε} (h : (x >>= f).run s = .error e u) :
    x.run s = .error e u ∨ ∃ a t, x.run s = .ok a t ∧ (f a).run t = .error e u := by
  rw [EStateM.run_bind] at h
  split at h
  · next a t hx => exact .inr ⟨a, t, hx, h⟩
  · next e' t hx =>
    cases h
    exact .inl hx

theorem run_tryCatch (x : EStateM ε σ α) (handler : ε → EStateM ε σ α) (s : σ) :
    (tryCatch x handler).run s = match x.run s with
      | .ok a t => .ok a t
      | .error e t => (handler e).run t := by
  have hrun : (tryCatch x handler).run s = EStateM.tryCatch x handler s := rfl
  have hx : x s = x.run s := rfl
  rw [hrun]
  delta EStateM.tryCatch
  rw [hx]
  cases x.run s <;> rfl

/-- A result of an action with a handler comes from the action or from the handler. -/
theorem run_tryCatch_eq_ok {handler : ε → EStateM ε σ α} {a : α}
    (h : (tryCatch x handler).run s = .ok a u) :
    x.run s = .ok a u ∨ ∃ e t, x.run s = .error e t ∧ (handler e).run t = .ok a u := by
  rw [run_tryCatch] at h
  split at h
  · next a t hx =>
    cases h
    exact .inl hx
  · next e t hx => exact .inr ⟨e, t, hx, h⟩

/-- A failure of an action with a handler is a failure of the handler. -/
theorem run_tryCatch_eq_error {handler : ε → EStateM ε σ α} {e : ε}
    (h : (tryCatch x handler).run s = .error e u) :
    ∃ e' t, x.run s = .error e' t ∧ (handler e').run t = .error e u := by
  rw [run_tryCatch] at h
  split at h
  · cases h
  · next e' t hx => exact ⟨e', t, hx, h⟩

/-- The state after a run, whether it gave a result or failed. -/
def final : EStateM.Result ε σ α → σ
  | .ok _ s => s
  | .error _ s => s

end Steps

namespace Action

variable {α β : Type}

/-! ## Actions that do not fail -/

/-- An action gives a result in every workspace. -/
def Succeeds (x : Action α) : Prop := ∀ w, ∃ a w', x.run w = .ok a w'

theorem Succeeds.bind {x : Action α} {f : α → Action β} (hx : Succeeds x)
    (hf : ∀ a, Succeeds (f a)) : Succeeds (x >>= f) := by
  intro w
  obtain ⟨a, w₁, hxrun⟩ := hx w
  obtain ⟨b, w₂, hfrun⟩ := hf a w₁
  exact ⟨b, w₂, by rw [run_bind_of_ok hxrun, hfrun]⟩

theorem Succeeds.ite {c : Prop} [Decidable c] {x y : Action α} (hx : Succeeds x)
    (hy : Succeeds y) : Succeeds (if c then x else y) := by
  split
  · exact hx
  · exact hy

theorem succeeds_get : Succeeds (get : Action Workspace) := fun w => ⟨w, w, rfl⟩

theorem succeeds_pure (a : α) : Succeeds (pure a : Action α) := fun w => ⟨a, w, rfl⟩

theorem succeeds_note (e : Event) : Succeeds (note e) := fun _ => ⟨(), _, rfl⟩

/-! ## Actions that fail in one way only -/

theorem run_onDisk (d : Storage.Disk α) (w : Workspace) :
    (onDisk d).run w = match d.run w.files with
      | .ok a files => .ok a { w with files }
      | .error refusal files => .error (.storage refusal) { w with files } := rfl

/-- An action fails only where an access to what is stored is refused. -/
def FailsByRefusal (x : Action α) : Prop :=
  ∀ w failure w', x.run w = .error failure w' → ∃ refusal, failure = .storage refusal

theorem failsByRefusal_onDisk (d : Storage.Disk α) : FailsByRefusal (onDisk d) := by
  intro w failure w' h
  rw [run_onDisk] at h
  split at h
  · cases h
  · next refusal files _ =>
    cases h
    exact ⟨refusal, rfl⟩

theorem FailsByRefusal.bind {x : Action α} {f : α → Action β} (hx : FailsByRefusal x)
    (hf : ∀ a, FailsByRefusal (f a)) : FailsByRefusal (x >>= f) := by
  intro w failure w' h
  rcases run_bind_eq_error h with h | ⟨a, t, -, h⟩
  · exact hx w failure w' h
  · exact hf a t failure w' h

theorem FailsByRefusal.ite {c : Prop} [Decidable c] {x y : Action α} (hx : FailsByRefusal x)
    (hy : FailsByRefusal y) : FailsByRefusal (if c then x else y) := by
  split
  · exact hx
  · exact hy

theorem Succeeds.failsByRefusal {x : Action α} (h : Succeeds x) : FailsByRefusal x := by
  intro w failure w' hw
  obtain ⟨a, w'', ha⟩ := h w
  rw [ha] at hw
  cases hw

theorem failsByRefusal_get : FailsByRefusal (get : Action Workspace) :=
  succeeds_get.failsByRefusal

theorem failsByRefusal_pure (a : α) : FailsByRefusal (pure a : Action α) :=
  (succeeds_pure a).failsByRefusal

theorem failsByRefusal_note (e : Event) : FailsByRefusal (note e) :=
  (succeeds_note e).failsByRefusal

/-- An action has a result for which a property holds in the workspace that it leaves, or it is
refused an access to what is stored. -/
def Achieves (x : Action α) (w : Workspace) (post : α → Workspace → Prop) : Prop :=
  match x.run w with
  | .ok a w' => post a w'
  | .error failure _ => ∃ refusal, failure = .storage refusal

section Achieves

variable {x : Action α} {w : Workspace} {post : α → Workspace → Prop}

theorem FailsByRefusal.achieves (hx : x.FailsByRefusal)
    (h : ∀ a w', x.run w = .ok a w' → post a w') : x.Achieves w post := by
  rw [Achieves]
  split
  · next a w' hrun => exact h a w' hrun
  · next failure w' hrun => exact hx w failure w' hrun

theorem Achieves.of_run_eq_ok (h : x.Achieves w post) {a : α} {w' : Workspace}
    (hrun : x.run w = .ok a w') : post a w' := by
  rw [Achieves, hrun] at h
  exact h

theorem Achieves.mono {post' : α → Workspace → Prop} (h : x.Achieves w post)
    (himp : ∀ a w', post a w' → post' a w') : x.Achieves w post' := by
  rw [Achieves] at h ⊢
  split
  · next a w' hrun =>
    rw [hrun] at h
    exact himp a w' h
  · next failure w' hrun =>
    rw [hrun] at h
    exact h

theorem Achieves.bind {f : α → Action β} {post' : β → Workspace → Prop} (hx : x.Achieves w post)
    (hf : ∀ a w', post a w' → (f a).Achieves w' post') : (x >>= f).Achieves w post' := by
  rw [Achieves] at hx
  split at hx
  · next a w' hrun =>
    rw [Achieves, run_bind_of_ok hrun]
    exact hf a w' hx
  · next failure w' hrun =>
    rw [Achieves, run_bind_of_error hrun]
    exact hx

end Achieves

/-! ## Actions that respect what is known of the reports -/

/-- What holds of the reports that are known before an action holds of those known after it,
whether it gives a result or fails. -/
def Keeps (P : Inspection.Cache Text Inspection.Report → Prop) (x : Action α) : Prop :=
  ∀ w, P w.reports → P (final (x.run w)).reports

section Keeps

variable {P : Inspection.Cache Text Inspection.Report → Prop}

theorem Keeps.bind {x : Action α} {f : α → Action β} (hx : Keeps P x)
    (hf : ∀ a, Keeps P (f a)) : Keeps P (x >>= f) := by
  intro w hw
  have hafter := hx w hw
  rw [EStateM.run_bind]
  cases hrun : x.run w with
  | ok a w₁ =>
    rw [hrun] at hafter
    exact hf a w₁ hafter
  | error failure w₁ =>
    rw [hrun] at hafter
    exact hafter

theorem Keeps.tryCatch {x : Action α} {handler : Failure → Action α} (hx : Keeps P x)
    (hhandler : ∀ failure, Keeps P (handler failure)) : Keeps P (tryCatch x handler) := by
  intro w hw
  have hafter := hx w hw
  rw [run_tryCatch]
  cases hrun : x.run w with
  | ok a w₁ =>
    rw [hrun] at hafter
    exact hafter
  | error failure w₁ =>
    rw [hrun] at hafter
    exact hhandler failure w₁ hafter

theorem Keeps.ite {c : Prop} [Decidable c] {x y : Action α} (hx : Keeps P x) (hy : Keeps P y) :
    Keeps P (if c then x else y) := by
  split
  · exact hx
  · exact hy

theorem keeps_get : Keeps P (get : Action Workspace) := fun _ h => h

theorem keeps_pure (a : α) : Keeps P (pure a : Action α) := fun _ h => h

theorem keeps_throw (failure : Failure) : Keeps P (throw failure : Action α) := fun _ h => h

theorem keeps_note (e : Event) : Keeps P (note e) := fun _ h => h

theorem keeps_say (line : Text) : Keeps P (say line) := fun _ h => h

theorem keeps_onDisk (d : Storage.Disk α) : Keeps P (onDisk d) := by
  intro w hw
  rw [run_onDisk]
  cases d.run w.files <;> exact hw

end Keeps

end Action

end CommandAdvisor
