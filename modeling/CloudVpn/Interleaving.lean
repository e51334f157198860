/-
# Threads over a shared state

Reusable infrastructure for programs that run concurrently in atomic steps.  A thread is the
point it has reached, of type `τ`; one step of it is `next : τ → σ → τ × σ`, with the shared
state of type `σ`.  The events of a `Pool` are the start of a thread for a request, and a step
of one of the threads: the lists of events are all the interleavings.

* `step_run` is the frame rule: a step changes the shared state and one thread;
* `run_alone` says that a thread that runs alone runs its steps one after the other;
* `stepOut` is an event of threads that put something out, and `outputs_of_thread` says what
  one of them has put out in a run;
* `thread_invariant` is the rule for invariants that speak of what was put out, and
  `emitted_split` finds the step that has put out an element;
* `linearization` is the rule by which what all the threads put out, in the order of the steps,
  is a run of a sequential specification.
-/
import CloudVpn.Traces
import Mathlib.Logic.Function.Iterate

open Runs Traces

namespace Interleaving

variable {σ τ ρ : Type}

/-- A shared state and the threads. -/
structure Pool (σ τ : Type) where
  shared : σ
  threads : List τ

/-- A request arrives, or a thread makes a step. -/
inductive Event (ρ : Type) where
  | spawn (request : ρ)
  | run (i : ℕ)
  deriving DecidableEq

section
variable (start : ρ → τ) (next : τ → σ → τ × σ)

/-- One event. -/
def step (p : Pool σ τ) : Event ρ → Pool σ τ
  | .spawn request => ⟨p.shared, p.threads ++ [start request]⟩
  | .run i =>
      match p.threads[i]? with
      | none => p
      | some t => ⟨(next t p.shared).2, p.threads.set i (next t p.shared).1⟩

end

variable {start : ρ → τ} {next : τ → σ → τ × σ}

/-- There is no thread to make the step. -/
theorem step_idle {p : Pool σ τ} {i : ℕ} (h : p.threads[i]? = none) :
    step start next p (.run i) = p := by
  simp only [step, h]

/-- **The frame rule.** -/
theorem step_run {p : Pool σ τ} {i : ℕ} {t : τ} (h : p.threads[i]? = some t) :
    ∃ before after, p.threads = before ++ t :: after ∧
      step start next p (.run i)
        = ⟨(next t p.shared).2, before ++ (next t p.shared).1 :: after⟩ := by
  obtain ⟨hi, rfl⟩ := List.getElem?_eq_some_iff.mp h
  refine ⟨p.threads.take i, p.threads.drop (i + 1), ?_, ?_⟩
  · rw [← List.drop_eq_getElem_cons hi, List.take_append_drop]
  · simp only [step, h]
    rw [List.set_eq_take_append_cons_drop, if_pos hi]

/-- **A thread that runs alone.** -/
theorem run_alone (t : τ) (s : σ) (n : ℕ) :
    run (step start next) ⟨s, [t]⟩ (List.replicate n (.run 0))
      = ⟨((fun r => next r.1 r.2)^[n] (t, s)).2, [((fun r => next r.1 r.2)^[n] (t, s)).1]⟩ := by
  induction n generalizing t s with
  | zero => rfl
  | succ n ih =>
      rw [List.replicate_succ, run_cons, Function.iterate_succ_apply]
      exact ih (next t s).1 (next t s).2

/-! ## Threads that put something out -/

section
variable {ο : Type} (start : ρ → τ) (next : τ → σ → τ × σ) (emit : τ → σ → List ο)

/-- One event: what the thread puts out, with the number of the thread. -/
def stepOut (p : Pool σ τ) (e : Event ρ) : Pool σ τ × List (ℕ × ο) :=
  (step start next p e,
    match e with
    | .spawn _ => []
    | .run i =>
        match p.threads[i]? with
        | none => []
        | some t => (emit t p.shared).map fun o => (i, o))

end

section
variable {ο : Type} {emit : τ → σ → List ο}

/-- What one thread has put out. -/
def ofThread (i : ℕ) (os : List (ℕ × ο)) : List ο :=
  os.filterMap fun o => if o.1 = i then some o.2 else none

theorem ofThread_append (i : ℕ) (os os' : List (ℕ × ο)) :
    ofThread i (os ++ os') = ofThread i os ++ ofThread i os' :=
  List.filterMap_append

theorem ofThread_tagged (i j : ℕ) (os : List ο) :
    ofThread i (os.map fun o => (j, o)) = if j = i then os else [] := by
  unfold ofThread
  rw [List.filterMap_map]
  split_ifs with hij
  · simp [hij]
  · simp [hij]

/-- What an event puts out. -/
theorem stepOut_snd (p : Pool σ τ) (e : Event ρ) :
    (∃ i t, e = .run i ∧ p.threads[i]? = some t ∧
        (stepOut start next emit p e).2 = (emit t p.shared).map fun o => (i, o)) ∨
      (stepOut start next emit p e).2 = [] ∧ (step start next p e).shared = p.shared := by
  cases e with
  | spawn request => exact Or.inr ⟨rfl, rfl⟩
  | run i =>
      cases hi : p.threads[i]? with
      | none => exact Or.inr (by simp only [stepOut, step, hi, and_self])
      | some t => exact Or.inl ⟨i, t, rfl, hi, by simp only [stepOut, hi]⟩

/-- **What one thread puts out in a run.**  If the point that a thread has reached tells what it
has put out, then all that it has put out in a run is what the point tells. -/
theorem outputs_of_thread {said : τ → List ο} (hstart : ∀ request, said (start request) = [])
    (hnext : ∀ t s, said (next t s).1 = said t ++ emit t s) (s : σ) (es : List (Event ρ)) (i : ℕ) :
    ofThread i (outputs (stepOut start next emit) ⟨s, []⟩ es)
      = ((run (step start next) ⟨s, []⟩ es).threads[i]?.map said).getD [] := by
  let Told (p : Pool σ τ) (os : List (ℕ × ο)) : Prop :=
    ∀ i, ofThread i os = (p.threads[i]?.map said).getD []
  have hstep : ∀ (p : Pool σ τ) (e : Event ρ) (os : List (ℕ × ο)), Told p os → True →
      Told (stepOut start next emit p e).1 (os ++ (stepOut start next emit p e).2) := by
    intro p e os hp _ i
    rw [ofThread_append, hp i]
    cases e with
    | spawn request =>
        show _ ++ [] = (((p.threads ++ [start request])[i]?).map said).getD []
        rw [List.append_nil, List.getElem?_append]
        split_ifs with hi
        · rfl
        · rw [List.getElem?_eq_none (Nat.le_of_not_lt hi)]
          rcases Nat.eq_zero_or_pos (i - p.threads.length) with hzero | hpos
          · simp [hzero, hstart]
          · rw [List.getElem?_eq_none (l := [start request]) hpos]
    | run j =>
        cases hj : p.threads[j]? with
        | none =>
            simp only [stepOut, step, hj]
            exact List.append_nil _
        | some t =>
            obtain ⟨hlt, -⟩ := List.getElem?_eq_some_iff.mp hj
            simp only [stepOut, step, hj]
            rw [ofThread_tagged, List.getElem?_set]
            split_ifs with hji
            · subst hji
              simp [hj, hnext]
            · exact List.append_nil _
  have hstarted : Told ⟨s, []⟩ [] := fun i => by simp [ofThread]
  exact history_invariant (I := Told) hstep hstarted (along_true _ es) i

/-- **Invariants of threads with a history.**  What the start of a thread keeps, and a step of one
thread beside the others, holds at the end of every run whose states meet `C` before each
event. -/
theorem thread_invariant {I : Pool σ τ → List (ℕ × ο) → Prop} {C : Pool σ τ → Prop}
    (hspawn : ∀ s ts request os, I ⟨s, ts⟩ os → I ⟨s, ts ++ [start request]⟩ os)
    (hrun : ∀ s before t after os i, I ⟨s, before ++ t :: after⟩ os → C ⟨s, before ++ t :: after⟩ →
      I ⟨(next t s).2, before ++ (next t s).1 :: after⟩ (os ++ (emit t s).map fun o => (i, o)))
    {s : σ} (hs : I ⟨s, []⟩ []) {es : List (Event ρ)}
    (hes : Along (step start next) (fun p _ => C p) ⟨s, []⟩ es) :
    I (run (step start next) ⟨s, []⟩ es) (outputs (stepOut start next emit) ⟨s, []⟩ es) := by
  have hstep : ∀ (p : Pool σ τ) (e : Event ρ) (os : List (ℕ × ο)), I p os → C p →
      I (stepOut start next emit p e).1 (os ++ (stepOut start next emit p e).2) := by
    intro p e os hp hC
    cases e with
    | spawn request =>
        show I _ (os ++ [])
        rw [List.append_nil]
        exact hspawn p.shared p.threads request os hp
    | run i =>
        cases hi : p.threads[i]? with
        | none =>
            show I (step start next p (.run i)) _
            rw [step_idle hi]
            simp only [stepOut, hi]
            rw [List.append_nil]
            exact hp
        | some t =>
            obtain ⟨before, after, hthreads, hstepped⟩ : ∃ before after, p.threads
                = before ++ t :: after ∧ step start next p (.run i) = _ := step_run hi
            have hpool : p = ⟨p.shared, before ++ t :: after⟩ := by rw [← hthreads]
            show I (step start next p (.run i)) _
            rw [hstepped]
            simp only [stepOut, hi]
            rw [hpool] at hp hC
            exact hrun p.shared before t after os i hp hC
  exact history_invariant (I := I) (C := fun p _ => C p) hstep hs hes

/-- **The step behind an output of a thread**, if a step puts out one element at most. -/
theorem emitted_split (hone : ∀ t s, (emit t s).length ≤ 1) {s : σ} {es : List (Event ρ)}
    {os os' : List (ℕ × ο)} {i : ℕ} {o : ο}
    (h : outputs (stepOut start next emit) ⟨s, []⟩ es = os ++ (i, o) :: os') :
    ∃ es₁ es₂ t, es = es₁ ++ .run i :: es₂ ∧
      outputs (stepOut start next emit) ⟨s, []⟩ es₁ = os ∧
      t ∈ (run (step start next) ⟨s, []⟩ es₁).threads ∧
      emit t (run (step start next) ⟨s, []⟩ es₁).shared = [o] := by
  have honeOut : ∀ (p : Pool σ τ) (e : Event ρ), (stepOut start next emit p e).2.length ≤ 1 := by
    intro p e
    obtain ⟨i, t, -, -, hout⟩ | ⟨hout, -⟩ : (∃ i t, e = .run i ∧ p.threads[i]? = some t ∧
      (stepOut start next emit p e).2 = _) ∨ (stepOut start next emit p e).2 = [] ∧ _ :=
        stepOut_snd p e
    · rw [hout, List.length_map]
      exact hone t p.shared
    · rw [hout]
      exact Nat.zero_le 1
  obtain ⟨es₁, e, es₂, rfl, hos, hlast⟩ := outputs_split honeOut h
  obtain ⟨j, t, rfl, hj, hout⟩ | ⟨hout, -⟩ : (∃ j t, e = .run j ∧
      (run (step start next) ⟨s, []⟩ es₁).threads[j]? = some t ∧
      (stepOut start next emit (run (step start next) ⟨s, []⟩ es₁) e).2 = _) ∨
    (stepOut start next emit (run (step start next) ⟨s, []⟩ es₁) e).2 = [] ∧ _ := stepOut_snd _ e
  · obtain ⟨o', ho', heq⟩ := List.map_eq_singleton_iff.mp (hout.symm.trans hlast)
    cases heq
    exact ⟨es₁, es₂, t, rfl, hos, List.mem_of_getElem? hj, ho'⟩
  · exact nomatch hout.symm.trans hlast

/-- **The linearization rule.**  Let a specification's state stand for the shared state, and let
every step of a thread be a run of the specification with what the step puts out for its labels.
Then what the threads put out in a run is a run of the specification, in the order of the
steps. -/
theorem linearization {α ω : Type} {spec : α → ω → α → Prop} {label : ο → Option ω}
    {R : σ → α → Prop}
    (hstep : ∀ t s a, R s a → ∃ a', LabelledRun spec a ((emit t s).filterMap label) a' ∧
      R (next t s).2 a')
    {s : σ} {a : α} (hs : R s a) (es : List (Event ρ)) :
    ∃ a', LabelledRun spec a
        ((outputs (stepOut start next emit) ⟨s, []⟩ es).filterMap fun o => label o.2) a' ∧
      R (run (step start next) ⟨s, []⟩ es).shared a' := by
  let Linear (p : Pool σ τ) (os : List (ℕ × ο)) : Prop :=
    ∃ a', LabelledRun spec a (os.filterMap fun o => label o.2) a' ∧ R p.shared a'
  have hevent : ∀ (p : Pool σ τ) (e : Event ρ) (os : List (ℕ × ο)), Linear p os → True →
      Linear (stepOut start next emit p e).1 (os ++ (stepOut start next emit p e).2) := by
    rintro p e os ⟨a₁, hrun, hR⟩ -
    rcases stepOut_snd p e with ⟨i, t, rfl, hi, hout⟩ | ⟨hout, hsame⟩
    · obtain ⟨a₂, hlabels, hR'⟩ := hstep t p.shared a₁ hR
      refine ⟨a₂, ?_, ?_⟩
      · rw [hout, List.filterMap_append, List.filterMap_map]
        exact labelledRun_append.mpr ⟨a₁, hrun, hlabels⟩
      · simp only [stepOut, step, hi]
        exact hR'
    · refine ⟨a₁, ?_, ?_⟩
      · rw [hout, List.append_nil]
        exact hrun
      · show R (step start next p e).shared a₁
        rw [hsame]
        exact hR
  have hstarted : Linear ⟨s, []⟩ [] := ⟨a, .nil a, hs⟩
  exact history_invariant (I := Linear) hevent hstarted (along_true _ es)

end

end Interleaving
