/-
# Runs of a deterministic machine

Reusable infrastructure for the run theorems of the development.  A machine is a
step function `step : σ → ε → σ`; a run is a starting state together with the
list of events it consumes.

* `run` is the state a run ends in, and `run_invariant` is the induction rule for
  properties that every step keeps;
* `Throughout P` says that `P` holds in every state a run passes through;
* `Along C` says that every step of the run meets a condition on the state before
  the step and the event;
* `Happens` says that an event happens in a state of the run;
* `throughout_iff_along` turns a step law `P (step s e) ↔ C s e` into the exact
  characterisation of the runs on which `P` never fails.
-/
import Mathlib.Data.List.Basic

namespace Runs

variable {σ ε : Type} (step : σ → ε → σ)

/-! ## The state a run ends in -/

/-- The state reached from `s` after the events `es`. -/
def run (s : σ) (es : List ε) : σ := es.foldl step s

@[simp] theorem run_nil (s : σ) : run step s [] = s := rfl

@[simp] theorem run_cons (s : σ) (e : ε) (es : List ε) :
    run step s (e :: es) = run step (step s e) es := rfl

theorem run_append (s : σ) (es fs : List ε) :
    run step s (es ++ fs) = run step (run step s es) fs := by
  unfold run
  rw [List.foldl_append]

/-- **The invariant rule.**  What every step keeps holds at the end of every run. -/
theorem run_invariant {I : σ → Prop} (hstep : ∀ s e, I s → I (step s e)) {s : σ}
    (hs : I s) (es : List ε) : I (run step s es) := by
  induction es generalizing s with
  | nil => exact hs
  | cons e es ih => exact ih (hstep s e hs)

/-- The invariant rule for runs whose events all meet a condition. -/
theorem run_invariant_of_forall {I : σ → Prop} {E : ε → Prop}
    (hstep : ∀ s e, E e → I s → I (step s e)) {s : σ} (hs : I s) {es : List ε}
    (hes : ∀ e ∈ es, E e) : I (run step s es) := by
  induction es generalizing s with
  | nil => exact hs
  | cons e es ih =>
      obtain ⟨he, hes⟩ := List.forall_mem_cons.mp hes
      exact ih (hstep s e he hs) hes

/-! ## Properties of all the states, and conditions on all the steps -/

/-- `P` holds in every state the run passes through, its first state included. -/
def Throughout (P : σ → Prop) : σ → List ε → Prop
  | s, [] => P s
  | s, e :: es => P s ∧ Throughout P (step s e) es

/-- Every step of the run meets the condition `C` on the state before the step and
the event. -/
def Along (C : σ → ε → Prop) : σ → List ε → Prop
  | _, [] => True
  | s, e :: es => C s e ∧ Along C (step s e) es

/-- In the run of `es` from `s`, the event `e` happens in the state `s'`. -/
def Happens (s : σ) (es : List ε) (s' : σ) (e : ε) : Prop :=
  ∃ before after, es = before ++ e :: after ∧ run step s before = s'

instance decidableThroughout (P : σ → Prop) [DecidablePred P] :
    ∀ (s : σ) (es : List ε), Decidable (Throughout step P s es)
  | s, [] => inferInstanceAs (Decidable (P s))
  | s, e :: es =>
      have := decidableThroughout P (step s e) es
      inferInstanceAs (Decidable (P s ∧ Throughout step P (step s e) es))

instance decidableAlong (C : σ → ε → Prop) [∀ s e, Decidable (C s e)] :
    ∀ (s : σ) (es : List ε), Decidable (Along step C s es)
  | _, [] => inferInstanceAs (Decidable True)
  | s, e :: es =>
      have := decidableAlong C (step s e) es
      inferInstanceAs (Decidable (C s e ∧ Along step C (step s e) es))

variable {step}

/-- A property of all the states holds of the first one. -/
theorem Throughout.first {P : σ → Prop} {s : σ} {es : List ε}
    (h : Throughout step P s es) : P s := by
  cases es with
  | nil => exact h
  | cons e es => exact h.1

/-- A property of all the states holds of the last one. -/
theorem Throughout.last {P : σ → Prop} {s : σ} {es : List ε}
    (h : Throughout step P s es) : P (run step s es) := by
  induction es generalizing s with
  | nil => exact h
  | cons e es ih => exact ih h.2

/-- **Exact step conditions.**  Suppose `I` is kept by every step, `P` holds at the
start, and from a state with `I` and `P` a step leads to `P` exactly when it meets
`C`.  Then `P` holds in all the states of a run exactly when all its steps meet `C`. -/
theorem throughout_iff_along {I P : σ → Prop} {C : σ → ε → Prop} {E : ε → Prop}
    (hI : ∀ s e, E e → I s → I (step s e))
    (hC : ∀ s e, E e → I s → P s → (P (step s e) ↔ C s e))
    {s : σ} (hs : I s) (hP : P s) {es : List ε} (hes : ∀ e ∈ es, E e) :
    Throughout step P s es ↔ Along step C s es := by
  induction es generalizing s with
  | nil => exact ⟨fun _ => trivial, fun _ => hP⟩
  | cons e es ih =>
      have he : E e := hes e (by simp)
      have hes' : ∀ f ∈ es, E f := fun f hf => hes f (List.mem_cons_of_mem e hf)
      have hnext : P (step s e) →
          (Throughout step P (step s e) es ↔ Along step C (step s e) es) :=
        fun hp => ih (hI s e he hs) hp hes'
      -- Going forward `P` gives the condition of each step; going back the condition gives `P`.
      constructor
      · rintro ⟨-, h⟩
        have hp : P (step s e) := h.first
        exact ⟨(hC s e he hs hP).mp hp, (hnext hp).mp h⟩
      · rintro ⟨hc, h⟩
        have hp : P (step s e) := (hC s e he hs hP).mpr hc
        exact ⟨hP, (hnext hp).mpr h⟩

/-- The rule for runs with any events. -/
theorem throughout_iff_along_of_invariant {I P : σ → Prop} {C : σ → ε → Prop}
    (hI : ∀ s e, I s → I (step s e)) (hC : ∀ s e, I s → P s → (P (step s e) ↔ C s e))
    {s : σ} (hs : I s) (hP : P s) (es : List ε) :
    Throughout step P s es ↔ Along step C s es :=
  throughout_iff_along (E := fun _ => True) (fun s e _ => hI s e) (fun s e _ => hC s e) hs hP
    (fun _ _ => trivial)

/-- The rule for step laws that hold in every state. -/
theorem throughout_iff_along_of_step {P : σ → Prop} {C : σ → ε → Prop}
    (hC : ∀ s e, P s → (P (step s e) ↔ C s e)) {s : σ} (hP : P s) (es : List ε) :
    Throughout step P s es ↔ Along step C s es :=
  throughout_iff_along_of_invariant (I := fun _ => True) (fun _ _ _ => trivial)
    (fun s e _ => hC s e) trivial hP es

/-- **The invariant rule for step conditions.**  If under the invariant a step that meets
`C` keeps the invariant and meets `D`, then a run that meets `C` at every step meets `D` at
every step. -/
theorem Along.imp {I : σ → Prop} {C D : σ → ε → Prop}
    (hstep : ∀ s e, I s → C s e → I (step s e) ∧ D s e) {s : σ} (hs : I s) {es : List ε}
    (h : Along step C s es) : Along step D s es := by
  induction es generalizing s with
  | nil => exact h
  | cons e es ih =>
      obtain ⟨hnext, hd⟩ := hstep s e hs h.1
      exact ⟨hd, ih hnext h.2⟩

/-- What an invariant implies for every event holds at every step. -/
theorem along_of_invariant {I : σ → Prop} {C : σ → ε → Prop}
    (hI : ∀ s e, I s → I (step s e)) (hC : ∀ s e, I s → C s e) {s : σ} (hs : I s)
    (es : List ε) : Along step C s es := by
  induction es generalizing s with
  | nil => trivial
  | cons e es ih => exact ⟨hC s e hs, ih (hI s e hs)⟩

theorem along_true (s : σ) (es : List ε) : Along step (fun _ _ => True) s es :=
  along_of_invariant (I := fun _ => True) (fun _ _ _ => trivial) (fun _ _ _ => trivial) trivial es

/-- Two conditions on all the steps. -/
theorem Along.and {C D : σ → ε → Prop} {s : σ} {es : List ε} (hC : Along step C s es)
    (hD : Along step D s es) : Along step (fun s e => C s e ∧ D s e) s es := by
  induction es generalizing s with
  | nil => trivial
  | cons e es ih => exact ⟨⟨hC.1, hD.1⟩, ih hC.2 hD.2⟩

/-- The two parts of a run. -/
theorem along_append {C : σ → ε → Prop} {s : σ} {es fs : List ε} :
    Along step C s (es ++ fs) ↔ Along step C s es ∧ Along step C (run step s es) fs := by
  induction es generalizing s with
  | nil => exact ⟨fun h => ⟨trivial, h⟩, fun h => h.2⟩
  | cons e es ih =>
      constructor
      · rintro ⟨he, hrest⟩
        obtain ⟨hes, hfs⟩ := ih.mp hrest
        exact ⟨⟨he, hes⟩, hfs⟩
      · rintro ⟨⟨he, hes⟩, hfs⟩
        exact ⟨he, ih.mpr ⟨hes, hfs⟩⟩

/-- A condition on the events alone. -/
theorem along_of_forall {E : ε → Prop} {s : σ} {es : List ε} (h : ∀ e ∈ es, E e) :
    Along step (fun _ e => E e) s es := by
  induction es generalizing s with
  | nil => trivial
  | cons e es ih =>
      obtain ⟨he, hes⟩ := List.forall_mem_cons.mp h
      exact ⟨he, ih hes⟩

/-- Every step of a run happens in it. -/
theorem along_happens (s : σ) (es : List ε) : Along step (Happens step s es) s es := by
  -- The events that are over are generalised.
  suffices h : ∀ before later, es = before ++ later →
      Along step (Happens step s es) (run step s before) later from h [] es rfl
  intro before later
  induction later generalizing before with
  | nil => exact fun _ => trivial
  | cons e later ih =>
      intro hes
      have hrest := ih (before ++ [e]) (by rw [hes, List.append_assoc]; rfl)
      rw [run_append] at hrest
      exact ⟨⟨before, later, hes, rfl⟩, hrest⟩

/-- What an invariant implies holds in all the states, if the steps that meet `C` keep the
invariant. -/
theorem Along.throughout {I P : σ → Prop} {C : σ → ε → Prop} (hP : ∀ s, I s → P s)
    (hstep : ∀ s e, I s → C s e → I (step s e)) {s : σ} (hs : I s) {es : List ε}
    (h : Along step C s es) : Throughout step P s es := by
  induction es generalizing s with
  | nil => exact hP s hs
  | cons e es ih => exact ⟨hP s hs, ih (hstep s e hs h.1) h.2⟩

end Runs
