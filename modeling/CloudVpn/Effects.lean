/-
# Computations with state and exceptions

Reusable infrastructure for programs that change a state and may throw.  A program is an
`EStateM ε σ α`: an exception keeps the changes that were made before it, as in Java.

* `run_bind_eq_ok`, `run_bind_eq_error` and `run_tryCatch` take a run apart;
* `Finishes` says that a recursive program ends before its stack is exhausted;
* `Keeps f m` is the frame rule: whether it returns or throws, `m` does not change what `f`
  shows of the state;
* `zoom` runs a program on a component of a larger state, `rollback` is a transaction: a
  program whose exception undoes a part of its changes.
-/
import Mathlib.Data.Nat.Init

namespace Effects

variable {ε ε' σ τ α β γ : Type}

open EStateM (Result)

/-! ## Runs -/

/-- The state in which a run ends. -/
def final : Result ε σ α → σ
  | .ok _ s => s
  | .error _ s => s

@[simp] theorem final_ok (a : α) (s : σ) : final (Result.ok a s : Result ε σ α) = s := rfl

@[simp] theorem final_error (e : ε) (s : σ) : final (Result.error e s : Result ε σ α) = s := rfl

/-- The exception with which a run ends, if it does. -/
def thrown : Result ε σ α → Option ε
  | .ok _ _ => none
  | .error e _ => some e

@[simp] theorem thrown_ok (a : α) (s : σ) :
    thrown (Result.ok a s : Result ε σ α) = none := rfl

@[simp] theorem thrown_error (e : ε) (s : σ) :
    thrown (Result.error e s : Result ε σ α) = some e := rfl

/-- The value or the exception with which a run ends. -/
def outcome : Result ε σ α → Except ε α
  | .ok a _ => .ok a
  | .error e _ => .error e

@[simp] theorem run_throw (e : ε) (s : σ) :
    (throw e : EStateM ε σ α).run s = .error e s := rfl

@[simp] theorem run_tryCatch (m : EStateM ε σ α) (handler : ε → EStateM ε σ α) (s : σ) :
    (tryCatch m handler).run s =
      match m.run s with
      | .ok a s' => .ok a s'
      | .error e s' => (handler e).run s' := by
  show EStateM.tryCatch m handler s = _
  unfold EStateM.tryCatch EStateM.run
  cases m s <;> rfl

/-- A program whose exceptions are swallowed. -/
theorem run_swallow (m : EStateM ε σ Unit) (s : σ) :
    (tryCatch m fun _ => pure ()).run s = .ok () (final (m.run s)) := by
  rw [run_tryCatch]
  cases m.run s <;> rfl

theorem run_bind_eq_ok {m : EStateM ε σ α} {k : α → EStateM ε σ β} {s s' : σ} {b : β} :
    (m >>= k).run s = .ok b s' ↔
      ∃ a s₁, m.run s = .ok a s₁ ∧ (k a).run s₁ = .ok b s' := by
  rw [EStateM.run_bind]
  cases m.run s with
  | ok a s₁ => simp [and_assoc]
  | error e s₁ => simp

theorem run_bind_eq_error {m : EStateM ε σ α} {k : α → EStateM ε σ β} {s s' : σ} {e : ε} :
    (m >>= k).run s = .error e s' ↔
      m.run s = .error e s' ∨
        ∃ a s₁, m.run s = .ok a s₁ ∧ (k a).run s₁ = .error e s' := by
  rw [EStateM.run_bind]
  cases m.run s with
  | ok a s₁ => simp [and_assoc]
  | error e s₁ => simp

/-- A program that drops the value of another one ends in the same state … -/
@[simp] theorem final_bind_pure (m : EStateM ε σ α) (b : β) (s : σ) :
    final ((m >>= fun _ => pure b).run s) = final (m.run s) := by
  rw [EStateM.run_bind]
  cases m.run s <;> rfl

/-- … and with the same exception. -/
@[simp] theorem thrown_bind_pure (m : EStateM ε σ α) (b : β) (s : σ) :
    thrown ((m >>= fun _ => pure b).run s) = thrown (m.run s) := by
  rw [EStateM.run_bind]
  cases m.run s <;> rfl

/-- What a function makes of the value changes neither the state … -/
@[simp] theorem final_map (f : α → β) (m : EStateM ε σ α) (s : σ) :
    final ((f <$> m).run s) = final (m.run s) := by
  show final (EStateM.map f m s) = final (m s)
  unfold EStateM.map
  cases m s <;> rfl

/-- … nor the exception. -/
@[simp] theorem outcome_map (f : α → β) (m : EStateM ε σ α) (s : σ) :
    outcome ((f <$> m).run s) = (outcome (m.run s)).map f := by
  show outcome (EStateM.map f m s) = (outcome (m s)).map f
  unfold EStateM.map
  cases m s <;> rfl

/-! ## Recursion on a bounded stack -/

/-- A program that calls itself, with the number of calls that the stack allows as an argument,
finishes: on every stack that is deep enough it ends in the same way, and not because the stack
is exhausted. -/
def Finishes (overflow : ε) (program : ℕ → EStateM ε σ α) (s : σ) : Prop :=
  ∃ depth, thrown ((program depth).run s) ≠ some overflow ∧
    ∀ d, depth ≤ d → (program d).run s = (program depth).run s

/-- If a deeper stack only matters where the stack was exhausted, then one stack that is not
exhausted is enough. -/
theorem finishes_iff {overflow : ε} {program : ℕ → EStateM ε σ α} {s : σ}
    (hstable : ∀ depth, thrown ((program depth).run s) ≠ some overflow →
      (program (depth + 1)).run s = (program depth).run s) :
    Finishes overflow program s ↔ ∃ depth, thrown ((program depth).run s) ≠ some overflow := by
  constructor
  · rintro ⟨depth, hdepth, -⟩
    exact ⟨depth, hdepth⟩
  · rintro ⟨depth, hdepth⟩
    refine ⟨depth, hdepth, fun d hd => ?_⟩
    induction d, hd using Nat.le_induction with
    | base => rfl
    | succ d _ ih => exact (hstable d (by rwa [ih])).trans ih

/-! ## The frame rule -/

/-- The program does not change what `f` shows, whether it returns or throws. -/
def Keeps (f : σ → γ) (m : EStateM ε σ α) : Prop := ∀ s, f (final (m.run s)) = f s

section
variable {f : σ → γ} {m : EStateM ε σ α}

theorem Keeps.of_ok (h : Keeps f m) {s s' : σ} {a : α} (hrun : m.run s = .ok a s') :
    f s' = f s := by
  have hs := h s
  rwa [hrun] at hs

theorem Keeps.of_error (h : Keeps f m) {s s' : σ} {e : ε} (hrun : m.run s = .error e s') :
    f s' = f s := by
  have hs := h s
  rwa [hrun] at hs

theorem keeps_pure (a : α) : Keeps f (pure a : EStateM ε σ α) := fun _ => rfl

theorem keeps_throw (e : ε) : Keeps f (throw e : EStateM ε σ α) := fun _ => rfl

theorem keeps_get : Keeps f (get : EStateM ε σ σ) := fun _ => rfl

theorem keeps_modify {g : σ → σ} (h : ∀ s, f (g s) = f s) :
    Keeps f (modify g : EStateM ε σ PUnit) := h

theorem Keeps.bind (hm : Keeps f m) {k : α → EStateM ε σ β} (hk : ∀ a, Keeps f (k a)) :
    Keeps f (m >>= k) := by
  intro s
  have hs := hm s
  rw [EStateM.run_bind]
  cases hrun : m.run s with
  | ok a s₁ =>
      rw [hrun] at hs
      exact (hk a s₁).trans hs
  | error e s₁ =>
      rw [hrun] at hs
      exact hs

theorem Keeps.tryCatch (hm : Keeps f m) {handler : ε → EStateM ε σ α}
    (hh : ∀ e, Keeps f (handler e)) : Keeps f (tryCatch m handler) := by
  intro s
  have hs := hm s
  rw [run_tryCatch]
  cases hrun : m.run s with
  | ok a s₁ =>
      rw [hrun] at hs
      exact hs
  | error e s₁ =>
      rw [hrun] at hs
      exact (hh e s₁).trans hs

end

/-! ## Components and transactions -/

/-- A program on a component of the state, with its exceptions wrapped. -/
def zoom (part : τ → σ) (put : σ → τ → τ) (wrap : ε → ε') (m : EStateM ε σ α) :
    EStateM ε' τ α := fun t =>
  match m.run (part t) with
  | .ok a s => .ok a (put s t)
  | .error e s => .error (wrap e) (put s t)

/-- A transaction: after an exception `restore` puts back what the state held before. -/
def rollback (restore : σ → σ → σ) (m : EStateM ε σ α) : EStateM ε σ α := fun s =>
  match m.run s with
  | .ok a s' => .ok a s'
  | .error e s' => .error e (restore s s')

section
variable {part : τ → σ} {put : σ → τ → τ} {wrap : ε → ε'} {m : EStateM ε σ α}

theorem zoom_eq_ok {t t' : τ} {a : α} :
    (zoom part put wrap m).run t = .ok a t' ↔
      ∃ s, m.run (part t) = .ok a s ∧ put s t = t' := by
  show zoom part put wrap m t = _ ↔ _
  unfold zoom
  cases m.run (part t) with
  | ok b s => simp [and_assoc]
  | error e s => simp

theorem zoom_eq_error {t t' : τ} {e : ε'} :
    (zoom part put wrap m).run t = .error e t' ↔
      ∃ e' s, m.run (part t) = .error e' s ∧ wrap e' = e ∧ put s t = t' := by
  show zoom part put wrap m t = _ ↔ _
  unfold zoom
  cases m.run (part t) with
  | ok b s => simp
  | error e s => simp [and_assoc]

/-- What lies beside the component is kept. -/
theorem keeps_zoom {f : τ → γ} (h : ∀ s t, f (put s t) = f t) :
    Keeps f (zoom part put wrap m) := by
  intro t
  show f (final (zoom part put wrap m t)) = f t
  unfold zoom
  cases m.run (part t) with
  | ok a s => exact h s t
  | error e s => exact h s t

/-- What is kept of the component is kept. -/
theorem Keeps.zoom {f : σ → γ} (hm : Keeps f m) (hput : ∀ s t, part (put s t) = s) :
    Keeps (fun t => f (part t)) (zoom part put wrap m) := by
  intro t
  have hs := hm (part t)
  show f (part (final (Effects.zoom part put wrap m t))) = f (part t)
  unfold Effects.zoom
  cases hrun : m.run (part t) with
  | ok a s =>
      rw [hrun] at hs
      show f (part (put s t)) = f (part t)
      rw [hput]
      exact hs
  | error e s =>
      rw [hrun] at hs
      show f (part (put s t)) = f (part t)
      rw [hput]
      exact hs

end

theorem run_rollback (restore : σ → σ → σ) (m : EStateM ε σ α) (s : σ) :
    (rollback restore m).run s =
      match m.run s with
      | .ok a s' => .ok a s'
      | .error e s' => .error e (restore s s') := rfl

end Effects
