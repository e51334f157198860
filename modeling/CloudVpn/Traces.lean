/-
# What a run puts out

Reusable infrastructure for machines whose steps put something out: a machine is a function
`next : σ → ε → σ × List ο`.  Its runs are those of `after next`.

* `outputs` is what a run puts out, in order;
* `Numbered P n` says that the elements of a list meet `P n`, `P (n + 1)` and so on, and
  `outputs_numbered` is the rule for machines that count what they put out;
* `history_invariant` is the rule for invariants that speak of what was put out, and
  `outputs_split` finds the step that has put out an element;
* `SpecRun` are the runs of a specification, a relation between states, inputs and outputs;
  `simulation` is the rule by which the runs of a machine are runs of a specification;
* `LabelledRun` are the runs of a specification whose steps have one label each.
-/
import CloudVpn.Runs

open Runs

namespace Traces

variable {σ ε ο : Type}

/-! ## Outputs -/

/-- The state after an event. -/
def after (next : σ → ε → σ × List ο) (s : σ) (e : ε) : σ := (next s e).1

/-- What a run puts out. -/
def outputs (next : σ → ε → σ × List ο) : σ → List ε → List ο
  | _, [] => []
  | s, e :: es => (next s e).2 ++ outputs next (next s e).1 es

/-! ## Counting -/

/-- The elements meet `P`, each with its number. -/
def Numbered (P : ℕ → ο → Prop) : ℕ → List ο → Prop
  | _, [] => True
  | n, o :: os => P n o ∧ Numbered P (n + 1) os

variable {P : ℕ → ο → Prop} {next : σ → ε → σ × List ο}

theorem Numbered.append {n : ℕ} {os os' : List ο} (h : Numbered P n os)
    (h' : Numbered P (n + os.length) os') : Numbered P n (os ++ os') := by
  induction os generalizing n with
  | nil => exact h'
  | cons o os ih =>
      refine ⟨h.1, ih h.2 ?_⟩
      rw [List.length_cons, Nat.add_comm os.length, ← Nat.add_assoc] at h'
      exact h'

theorem Numbered.getElem? {n k : ℕ} {os : List ο} {o : ο} (h : Numbered P n os)
    (hk : os[k]? = some o) : P (n + k) o := by
  induction os generalizing n k with
  | nil => simp at hk
  | cons o' os ih =>
      cases k with
      | zero =>
          rw [List.getElem?_cons_zero, Option.some.injEq] at hk
          rw [← hk]
          exact h.1
      | succ k =>
          rw [List.getElem?_cons_succ] at hk
          have hnext := ih h.2 hk
          rwa [Nat.add_assoc, Nat.add_comm 1] at hnext

/-- **The counting rule.**  If every step from a state that has put out `n` elements numbers
its own from `n` on and counts them, then all that a run puts out is numbered. -/
theorem outputs_numbered {C : σ → ℕ → Prop}
    (hstep : ∀ s e n, C s n →
      C (next s e).1 (n + (next s e).2.length) ∧ Numbered P n (next s e).2)
    {s : σ} {n : ℕ} (hs : C s n) (es : List ε) :
    Numbered P n (outputs next s es) ∧
      C (run (after next) s es) (n + (outputs next s es).length) := by
  induction es generalizing s n with
  | nil => exact ⟨trivial, hs⟩
  | cons e es ih =>
      obtain ⟨hnext, hout⟩ := hstep s e n hs
      obtain ⟨hrest, hlast⟩ := ih hnext
      refine ⟨hout.append hrest, ?_⟩
      rw [Nat.add_assoc, ← List.length_append] at hlast
      exact hlast

/-! ## Histories -/

/-- **Invariants with a history.**  If a step that meets `C` keeps `I` of the state and of all
that was put out before, then so does a run whose steps meet `C`. -/
theorem history_invariant {I : σ → List ο → Prop} {C : σ → ε → Prop}
    (hstep : ∀ s e os, I s os → C s e → I (next s e).1 (os ++ (next s e).2))
    {s : σ} {os : List ο} (hs : I s os) {es : List ε} (hes : Along (after next) C s es) :
    I (run (after next) s es) (os ++ outputs next s es) := by
  induction es generalizing s os with
  | nil =>
      rw [outputs, List.append_nil]
      exact hs
  | cons e es ih =>
      have hlast := ih (hstep s e os hs hes.1) hes.2
      rw [List.append_assoc] at hlast
      exact hlast

/-- **The step behind an output**, for machines that put out one element a step at most. -/
theorem outputs_split (hone : ∀ s e, (next s e).2.length ≤ 1) {s : σ} {es : List ε}
    {os os' : List ο} {o : ο} (h : outputs next s es = os ++ o :: os') :
    ∃ es₁ e es₂, es = es₁ ++ e :: es₂ ∧ outputs next s es₁ = os ∧
      (next (run (after next) s es₁) e).2 = [o] := by
  induction es generalizing s os with
  | nil => simp [outputs] at h
  | cons e es ih =>
      rw [outputs] at h
      rcases hout : (next s e).2 with _ | ⟨x, _ | ⟨y, xs⟩⟩
      · rw [hout, List.nil_append] at h
        obtain ⟨es₁, e', es₂, rfl, hos, hlast⟩ := ih h
        refine ⟨e :: es₁, e', es₂, rfl, ?_, hlast⟩
        rw [outputs, hout, hos, List.nil_append]
      · rw [hout, List.singleton_append] at h
        cases os with
        | nil =>
            obtain ⟨rfl, -⟩ := List.cons.inj h
            exact ⟨[], e, es, rfl, rfl, hout⟩
        | cons x' os =>
            obtain ⟨rfl, hrest⟩ := List.cons.inj h
            obtain ⟨es₁, e', es₂, rfl, hos, hlast⟩ := ih hrest
            refine ⟨e :: es₁, e', es₂, rfl, ?_, hlast⟩
            rw [outputs, hout, hos, List.singleton_append]
      · have hlength := hone s e
        rw [hout] at hlength
        simp at hlength

/-! ## Simulation -/

/-- The runs of a specification, with what they take in and put out. -/
inductive SpecRun {α ι ω : Type} (spec : α → ι → α → List ω → Prop) :
    α → List ι → α → List ω → Prop
  | nil (a : α) : SpecRun spec a [] a []
  | cons {a a' a'' : α} {i : ι} {is : List ι} {os os' : List ω} (hstep : spec a i a' os)
      (hrest : SpecRun spec a' is a'' os') : SpecRun spec a (i :: is) a'' (os ++ os')

/-- **The simulation rule.**  If a step that meets `C`, from a state that a specification's
state stands for, is a step of the specification, then a run whose steps meet `C` is a run of
the specification: with the inputs that its events mean and the outputs that its own mean. -/
theorem simulation {α ι ω : Type} {spec : α → ι → α → List ω → Prop} {R : σ → α → Prop}
    {C : σ → ε → Prop} {input : ε → ι} {output : ο → ω}
    (hstep : ∀ s a e, R s a → C s e →
      ∃ a', spec a (input e) a' ((next s e).2.map output) ∧ R (next s e).1 a')
    {s : σ} {a : α} (hs : R s a) {es : List ε} (hes : Along (after next) C s es) :
    ∃ a', SpecRun spec a (es.map input) a' ((outputs next s es).map output) ∧
      R (run (after next) s es) a' := by
  induction es generalizing s a with
  | nil => exact ⟨a, .nil a, hs⟩
  | cons e es ih =>
      obtain ⟨a₁, hspec, hR⟩ := hstep s a e hs hes.1
      obtain ⟨a', hrun, hlast⟩ := ih hR hes.2
      refine ⟨a', ?_, hlast⟩
      have hboth := SpecRun.cons hspec hrun
      rw [← List.map_append] at hboth
      exact hboth

/-! ## Labelled runs -/

/-- The runs of a specification whose steps have labels. -/
inductive LabelledRun {α ω : Type} (spec : α → ω → α → Prop) : α → List ω → α → Prop
  | nil (a : α) : LabelledRun spec a [] a
  | cons {a a' a'' : α} {o : ω} {os : List ω} (hstep : spec a o a')
      (hrest : LabelledRun spec a' os a'') : LabelledRun spec a (o :: os) a''

section
variable {α ω : Type} {spec : α → ω → α → Prop}

theorem labelledRun_singleton {a a' : α} {o : ω} (h : spec a o a') : LabelledRun spec a [o] a' :=
  .cons h (.nil a')

/-- The two parts of a labelled run. -/
theorem labelledRun_append {a a' : α} {os os' : List ω} :
    LabelledRun spec a (os ++ os') a' ↔
      ∃ b, LabelledRun spec a os b ∧ LabelledRun spec b os' a' := by
  constructor
  · intro h
    induction os generalizing a with
    | nil => exact ⟨a, .nil a, h⟩
    | cons o os ih =>
        cases h with
        | cons hstep hrest =>
            obtain ⟨b, hos, hos'⟩ := ih hrest
            exact ⟨b, .cons hstep hos, hos'⟩
  · rintro ⟨b, hos, hos'⟩
    induction hos with
    | nil a => exact hos'
    | cons hstep _ ih => exact .cons hstep (ih hos')

end

end Traces
