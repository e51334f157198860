/-
# Fixed tables of slots

Reusable infrastructure for programs that keep records in a C array, mark the used
slots with a flag and search them with a counting loop.  A table is a function
`Fin n → α`; a `view : α → Option β` says what a slot shows, `none` for a slot that
the observer skips.

* `entries view t` lists what the slots show, in slot order.  Writing one slot only
  replaces that slot's part of the list (`entries_update`);
* the loop `for (i = 0; i < n; i++) if (p i) ...` is `scan p`, and the slot it finds
  shows the head of `entries` (`entries_head_eq_scan`, `entries_update_first`);
* a relation between two tables is kept by writing related values to one slot of both
  (`update_rel`);
* a loop that rewrites every slot in turn acts slot by slot (`rewriteAll_eq`).
-/
import Mathlib.Data.List.FinRange
import Mathlib.Data.List.Perm.Basic
import Mathlib.Logic.Function.Basic

namespace Slots

variable {n : ℕ} {α β γ : Type}

/-! ## The counting loop -/

/-- The loop `for (i = 0; i < n; i++) if (p i) ...`: the first slot that passes the test.
Irreducible, so that no unifier unrolls it. -/
@[irreducible] def scan (p : Fin n → Bool) : Option (Fin n) := Fin.find? p

theorem scan_eq_some_iff {p : Fin n → Bool} {i : Fin n} :
    scan p = some i ↔ p i = true ∧ ∀ j, j < i → p j = false := by
  unfold scan
  exact Fin.find?_eq_some_iff

theorem scan_eq_none_iff {p : Fin n → Bool} : scan p = none ↔ ∀ i, p i = false := by
  unfold scan
  exact Fin.find?_eq_none_iff

/-! ## What a table shows -/

/-- What the slots of `t` show, in slot order. -/
def entries (view : α → Option β) (t : Fin n → α) : List β :=
  (List.finRange n).filterMap fun i => view (t i)

/-- What the slots below `i` show. -/
def entriesBelow (view : α → Option β) (t : Fin n → α) (i : Fin n) : List β :=
  ((List.finRange n).filter (· < i)).filterMap fun j => view (t j)

/-- What the slots above `i` show. -/
def entriesAbove (view : α → Option β) (t : Fin n → α) (i : Fin n) : List β :=
  ((List.finRange n).filter (i < ·)).filterMap fun j => view (t j)

theorem mem_entries {view : α → Option β} {t : Fin n → α} {b : β} :
    b ∈ entries view t ↔ ∃ i, view (t i) = some b := by
  simp [entries]

theorem mem_entriesBelow {view : α → Option β} {t : Fin n → α} {i : Fin n} {b : β} :
    b ∈ entriesBelow view t i ↔ ∃ j, j < i ∧ view (t j) = some b := by
  simp [entriesBelow]

/-- The slot numbers split at any slot into those below it and those above it. -/
theorem finRange_split (i : Fin n) :
    List.finRange n
      = (List.finRange n).filter (· < i) ++ i :: (List.finRange n).filter (i < ·) := by
  -- The list is sorted, so the part in front of `i` is below it and the rest above it.
  obtain ⟨l, r, hlr⟩ := List.append_of_mem (List.mem_finRange i)
  have hsorted := List.pairwise_lt_finRange n
  rw [hlr, List.pairwise_append, List.pairwise_cons] at hsorted
  obtain ⟨-, ⟨hr, -⟩, hl⟩ := hsorted
  have hli : ∀ j ∈ l, j < i := fun j hj => hl j hj i (by simp)
  rw [hlr, List.filter_append, List.filter_append, List.filter_cons, List.filter_cons]
  simp only [lt_irrefl, decide_false, Bool.false_eq_true, if_false]
  rw [List.filter_eq_self.mpr (fun j hj => by simpa using hli j hj),
    List.filter_eq_nil_iff.mpr (fun j hj => by simpa using (hr j hj).le),
    List.filter_eq_nil_iff.mpr (fun j hj => by simpa using (hli j hj).le),
    List.filter_eq_self.mpr (fun j hj => by simpa using hr j hj)]
  simp

/-- The entries of a table, split at a slot. -/
theorem entries_eq (view : α → Option β) (t : Fin n → α) (i : Fin n) :
    entries view t
      = entriesBelow view t i ++ ((view (t i)).toList ++ entriesAbove view t i) := by
  unfold entries entriesBelow entriesAbove
  conv_lhs => rw [finRange_split i]
  rw [List.filterMap_append, List.filterMap_cons]
  cases view (t i) <;> rfl

/-- **Writing one slot** replaces that slot's part of the entries. -/
theorem entries_update (view : α → Option β) (t : Fin n → α) (i : Fin n) (e : α) :
    entries view (Function.update t i e)
      = entriesBelow view t i ++ ((view e).toList ++ entriesAbove view t i) := by
  have hbelow : entriesBelow view (Function.update t i e) i = entriesBelow view t i := by
    unfold entriesBelow
    apply List.filterMap_congr
    intro j hj
    have hji : j < i := by simpa using hj
    rw [Function.update_of_ne hji.ne]
  have habove : entriesAbove view (Function.update t i e) i = entriesAbove view t i := by
    unfold entriesAbove
    apply List.filterMap_congr
    intro j hj
    have hij : i < j := by simpa using hj
    rw [Function.update_of_ne hij.ne']
  rw [entries_eq view (Function.update t i e) i, hbelow, habove, Function.update_self]

/-- Writing a slot with a record that shows the same leaves the entries alone. -/
theorem entries_update_of_view_eq {view : α → Option β} {t : Fin n → α} {i : Fin n}
    {e : α} (h : view e = view (t i)) :
    entries view (Function.update t i e) = entries view t := by
  rw [entries_update, entries_eq view t i, h]

/-- Filling a slot that showed nothing adds one entry. -/
theorem entries_update_perm_cons {view : α → Option β} {t : Fin n → α} {i : Fin n}
    {e : α} {b : β} (hi : view (t i) = none) (he : view e = some b) :
    (entries view (Function.update t i e)).Perm (b :: entries view t) := by
  rw [entries_update, entries_eq view t i, hi, he]
  exact List.perm_middle

/-- Clearing a slot removes its entry. -/
theorem entries_perm_cons_update {view : α → Option β} {t : Fin n → α} {i : Fin n}
    {e : α} {b : β} (hi : view (t i) = some b) (he : view e = none) :
    (entries view t).Perm (b :: entries view (Function.update t i e)) := by
  rw [entries_update, entries_eq view t i, hi, he]
  exact List.perm_middle

/-! ## Room in a table -/

theorem length_entries_le (view : α → Option β) (t : Fin n → α) :
    (entries view t).length ≤ n := by
  have h := List.length_filterMap_le (fun i => view (t i)) (List.finRange n)
  rwa [List.length_finRange] at h

/-- The number of entries only depends on which slots show something. -/
theorem length_entries_congr {view : α → Option β} {view' : α → Option γ}
    {t t' : Fin n → α} (h : ∀ i, (view (t i)).isSome = (view' (t' i)).isSome) :
    (entries view t).length = (entries view' t').length := by
  unfold entries
  rw [List.length_filterMap_eq_countP, List.length_filterMap_eq_countP]
  apply List.countP_congr
  intro i _
  rw [h i]

/-- A table that shows fewer entries than it has slots has a slot that shows nothing. -/
theorem exists_none_of_length_lt {view : α → Option β} {t : Fin n → α}
    (h : (entries view t).length < n) : ∃ i, view (t i) = none := by
  by_contra hall
  push Not at hall
  have heq : (entries view t).length = (List.finRange n).length := by
    apply List.filterMap_length_eq_length.mpr
    intro i _
    exact Option.isSome_iff_ne_none.mpr (hall i)
  rw [List.length_finRange] at heq
  omega

/-! ## The first slot that shows something -/

/-- Nothing shows below the first slot found by the scan. -/
theorem entriesBelow_first {view : α → Option β} {t : Fin n → α} {i : Fin n}
    (hfind : scan (fun j => (view (t j)).isSome) = some i) :
    entriesBelow view t i = [] := by
  obtain ⟨-, hlow⟩ := scan_eq_some_iff.mp hfind
  apply List.eq_nil_iff_forall_not_mem.mpr
  intro c hc
  obtain ⟨j, hj, hjc⟩ := mem_entriesBelow.mp hc
  have hnone := hlow j hj
  rw [hjc] at hnone
  exact absurd hnone (by simp)

/-- The first slot found by the scan shows the head of the entries. -/
theorem entries_head_eq_scan (view : α → Option β) (t : Fin n → α) :
    (entries view t).head?
      = (scan fun i => (view (t i)).isSome).bind fun i => view (t i) := by
  cases hfind : scan (fun i => (view (t i)).isSome) with
  | none =>
      have hnone := scan_eq_none_iff.mp hfind
      have hnil : entries view t = [] := by
        apply List.filterMap_eq_nil_iff.mpr
        intro i _
        simpa using hnone i
      rw [hnil]
      rfl
  | some i =>
      have hi := (scan_eq_some_iff.mp hfind).1
      obtain ⟨b, hb⟩ := Option.isSome_iff_exists.mp hi
      rw [entries_eq view t i, entriesBelow_first hfind, hb]
      simp [hb]

/-- **Clearing the first slot that shows something** drops the head of the entries. -/
theorem entries_update_first {view : α → Option β} {t : Fin n → α} {i : Fin n} {e : α}
    (hfind : scan (fun j => (view (t j)).isSome) = some i) (he : view e = none) :
    entries view (Function.update t i e) = (entries view t).tail := by
  have hi := (scan_eq_some_iff.mp hfind).1
  obtain ⟨b, hb⟩ := Option.isSome_iff_exists.mp hi
  rw [entries_update, entries_eq view t i, entriesBelow_first hfind, hb, he]
  rfl

/-! ## Writing the same slot of two tables -/

/-- A relation between the slots of two tables is kept when a related pair is written. -/
theorem update_rel {ι : Type} [DecidableEq ι] {R : α → β → Prop} {s : ι → α} {t : ι → β}
    (h : ∀ j, R (s j) (t j)) (i : ι) {a : α} {b : β} (hab : R a b) (j : ι) :
    R (Function.update s i a j) (Function.update t i b j) := by
  by_cases hji : j = i
  · subst hji
    rw [Function.update_self, Function.update_self]
    exact hab
  · rw [Function.update_of_ne hji, Function.update_of_ne hji]
    exact h j

/-! ## Rewriting every slot in turn -/

/-- The loop that replaces each of the listed slots by its image under `f`. -/
def rewriteAll (f : α → α) (l : List (Fin n)) (t : Fin n → α) : Fin n → α :=
  l.foldl (fun t i => Function.update t i (f (t i))) t

theorem rewriteAll_apply (f : α → α) {l : List (Fin n)} (hl : l.Nodup) (t : Fin n → α)
    (j : Fin n) : rewriteAll f l t j = if j ∈ l then f (t j) else t j := by
  induction l generalizing t with
  | nil => simp [rewriteAll]
  | cons i l ih =>
      -- No slot comes up twice, so the later iterations read what the table held at first.
      obtain ⟨hil, hnd⟩ := List.nodup_cons.mp hl
      have hstep : rewriteAll f (i :: l) t
          = rewriteAll f l (Function.update t i (f (t i))) := rfl
      rw [hstep, ih hnd]
      by_cases hji : j = i
      · subst hji
        simp [hil]
      · simp [hji]

/-- Run over the whole table, the loop maps `f` over the slots. -/
theorem rewriteAll_eq (f : α → α) (t : Fin n → α) :
    rewriteAll f (List.finRange n) t = fun i => f (t i) := by
  funext j
  rw [rewriteAll_apply f (List.nodup_finRange n)]
  simp

end Slots
