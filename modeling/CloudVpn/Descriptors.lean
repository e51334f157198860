/-
# File descriptors

Reusable infrastructure for programs that open and close descriptors.  The kernel hands out the
lowest number that is free, so a number that was closed comes back: closing a descriptor twice may
close one that something else has opened since.  `badCloses` counts the closings of a number that
is not open.

`Owns base held files` says that on top of the descriptors `base` the program has opened those of
`held` and closed none of the others.  A program that keeps it and ends with `held` empty leaves
the descriptors as it has found them (`Owns.released`).
-/
import Mathlib.Data.Finset.Card
import Mathlib.Data.Finset.Range

namespace Descriptors

/-- The descriptors of a process. -/
structure Files where
  fds : Finset ℕ
  badCloses : ℕ

/-- The lowest number that is not in use. -/
def lowestFree (fds : Finset ℕ) : ℕ :=
  ((List.range (fds.card + 1)).find? (· ∉ fds)).getD 0

/-- Not all of the first `fds.card + 1` numbers are in use. -/
theorem lowestFree_notMem (fds : Finset ℕ) : lowestFree fds ∉ fds := by
  unfold lowestFree
  cases hfind : (List.range (fds.card + 1)).find? (· ∉ fds) with
  | some n =>
      have hn := List.find?_some hfind
      simpa using hn
  | none =>
      have hall : Finset.range (fds.card + 1) ⊆ fds := by
        intro n hn
        have hin := List.find?_eq_none.mp hfind n (List.mem_range.mpr (Finset.mem_range.mp hn))
        simpa using hin
      have hcard := Finset.card_le_card hall
      rw [Finset.card_range] at hcard
      exact absurd hcard (by omega)

variable {base : Finset ℕ} {held : List ℕ} {files : Files}

/-- The descriptors after one more has been opened. -/
def Files.opened (files : Files) : Files :=
  { files with fds := insert (lowestFree files.fds) files.fds }

/-- The descriptors after `close`. -/
def Files.close (files : Files) (fd : ℕ) : Files :=
  if fd ∈ files.fds then { files with fds := files.fds.erase fd }
  else { files with badCloses := files.badCloses + 1 }

/-- On top of `base`, the program has the descriptors `held` open. -/
structure Owns (base : Finset ℕ) (held : List ℕ) (files : Files) : Prop where
  nodup : held.Nodup
  fresh : ∀ fd ∈ held, fd ∉ base
  fds_eq : files.fds = base ∪ held.toFinset
  badCloses : files.badCloses = 0

theorem owns_nil (base : Finset ℕ) : Owns base [] ⟨base, 0⟩ :=
  ⟨List.nodup_nil, by simp, by simp, rfl⟩

/-- Nothing is left open, and nothing was closed that was not the program's own. -/
theorem Owns.released (h : Owns base [] files) : files = ⟨base, 0⟩ := by
  obtain ⟨fds, badCloses⟩ := files
  have hfds : fds = base ∪ ([] : List ℕ).toFinset := h.fds_eq
  have hbad : badCloses = 0 := h.badCloses
  rw [hfds, hbad, List.toFinset_nil, Finset.union_empty]

theorem Owns.perm (h : Owns base held files) {held' : List ℕ} (hperm : held.Perm held') :
    Owns base held' files := by
  refine ⟨hperm.nodup_iff.mp h.nodup, fun fd hfd => h.fresh fd (hperm.mem_iff.mpr hfd), ?_,
    h.badCloses⟩
  rw [h.fds_eq, List.toFinset_eq_of_perm _ _ hperm]

theorem Owns.opened (h : Owns base held files) :
    Owns base (lowestFree files.fds :: held) files.opened := by
  have hnew := lowestFree_notMem files.fds
  rw [h.fds_eq, Finset.notMem_union, List.mem_toFinset, ← h.fds_eq] at hnew
  refine ⟨List.nodup_cons.mpr ⟨hnew.2, h.nodup⟩, ?_, ?_, h.badCloses⟩
  · exact List.forall_mem_cons.mpr ⟨hnew.1, h.fresh⟩
  · show insert (lowestFree files.fds) files.fds = _
    rw [List.toFinset_cons, Finset.union_insert, ← h.fds_eq]

theorem Owns.close (h : Owns base held files) {fd : ℕ} (hfd : fd ∈ held) :
    Owns base (held.erase fd) (files.close fd) := by
  have hopen : fd ∈ files.fds := by
    rw [h.fds_eq]
    exact Finset.mem_union_right _ (List.mem_toFinset.mpr hfd)
  unfold Files.close
  rw [if_pos hopen]
  refine ⟨h.nodup.erase fd, fun fd' hfd' => h.fresh fd' (List.mem_of_mem_erase hfd'), ?_,
    h.badCloses⟩
  show files.fds.erase fd = _
  rw [h.fds_eq]
  ext fd'
  rw [Finset.mem_erase, Finset.mem_union, Finset.mem_union, List.mem_toFinset, List.mem_toFinset,
    h.nodup.mem_erase_iff]
  constructor
  · rintro ⟨hne, hbase | hheld⟩
    · exact Or.inl hbase
    · exact Or.inr ⟨hne, hheld⟩
  · rintro (hbase | ⟨hne, hheld⟩)
    · exact ⟨fun heq => h.fresh fd hfd (heq ▸ hbase), Or.inl hbase⟩
    · exact ⟨hne, Or.inr hheld⟩

end Descriptors
