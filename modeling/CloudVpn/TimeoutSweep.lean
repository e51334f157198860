/-
# The timeout sweep

`check_client_timeouts` clears flags and decrements `count` while it scans the slots.  Seen slot
by slot it does the same to each of them (`sweepEntry`), and it decrements `count` once for each
slot that it clears, so a `count` that was right stays right (`count_checkClientTimeouts`).

`checkClientTimeouts_filter` puts the two together: the sweep keeps the entries that are young
enough, where they are and as they are, and nothing else.
-/
import CloudVpn.ClientInvariant

open Slots Runs

namespace Vpn

/-! ## The slots -/

/-- What the sweep does to one slot. -/
def sweepEntry (now : ℤ) (e : ClientEntry) : ClientEntry :=
  if e.active && expired now e then { e with active := false } else e

theorem clients_checkSlot (now : ℤ) (table : ClientTable) (i : Fin maxClients) :
    (checkSlot now table i).clients
      = Function.update table.clients i (sweepEntry now (table.clients i)) := by
  unfold checkSlot sweepEntry
  by_cases hact : (table.clients i).active = true
  · by_cases hexp : expired now (table.clients i) = true
    · simp [hact, hexp, deactivate]
    · simp [hact, hexp]
  · simp [hact]

theorem clients_run_checkSlot (now : ℤ) (table : ClientTable) (l : List (Fin maxClients)) :
    (run (checkSlot now) table l).clients = rewriteAll (sweepEntry now) l table.clients := by
  induction l generalizing table with
  | nil => rfl
  | cons i l ih =>
      rw [run_cons, ih, clients_checkSlot]
      rfl

/-- **The sweep acts on all slots alike.** -/
theorem clients_checkClientTimeouts (table : ClientTable) (now : ℤ) (i : Fin maxClients) :
    (checkClientTimeouts table now).clients i = sweepEntry now (table.clients i) := by
  rw [checkClientTimeouts_eq_run, clients_run_checkSlot, rewriteAll_eq]

theorem activeEntry_sweepEntry (now : ℤ) (e : ClientEntry) :
    activeEntry (sweepEntry now e) = (activeEntry e).filter fun c => !expired now c := by
  unfold sweepEntry activeEntry
  by_cases hact : e.active = true
  · by_cases hexp : expired now e = true
    · simp [hact, hexp, Option.filter]
    · simp [hact, hexp, Option.filter]
  · simp [hact]

/-- The sweep keeps the active entries that have not expired. -/
theorem activeClients_checkClientTimeouts (table : ClientTable) (now : ℤ) :
    activeClients (checkClientTimeouts table now)
      = (activeClients table).filter fun c => !expired now c := by
  unfold activeClients entries
  rw [List.filter_filterMap]
  apply List.filterMap_congr
  intro i _
  rw [clients_checkClientTimeouts, activeEntry_sweepEntry]

theorem sweepEntry_active {now : ℤ} {e : ClientEntry} :
    (sweepEntry now e).active = true ↔ e.active = true ∧ now - e.lastSeen ≤ 300 := by
  have hexp : expired now e = false ↔ now - e.lastSeen ≤ 300 := by
    simp [expired, clientTimeout]
  unfold sweepEntry
  rw [← hexp]
  split_ifs with hsweep
  · simp only [Bool.and_eq_true] at hsweep
    simp [hsweep.2]
  · simp only [Bool.and_eq_true, not_and, Bool.not_eq_true] at hsweep
    exact ⟨fun hact => ⟨hact, hsweep hact⟩, fun h => h.1⟩

/-- An entry that stays active is not touched. -/
theorem sweepEntry_eq_self {now : ℤ} {e : ClientEntry} (h : (sweepEntry now e).active = true) :
    sweepEntry now e = e := by
  unfold sweepEntry at h ⊢
  split_ifs at h ⊢
  rfl

/-! ## The counter and the next address -/

/-- One iteration keeps a `count` that is the number of active slots. -/
theorem count_checkSlot {table : ClientTable}
    (h : table.count = (activeClients table).length) (now : ℤ) (i : Fin maxClients) :
    (checkSlot now table i).count = (activeClients (checkSlot now table i)).length := by
  unfold checkSlot
  split_ifs with hactive hexp
  · exact count_deactivate h hactive
  · exact h
  · exact h

theorem count_checkClientTimeouts {table : ClientTable}
    (h : table.count = (activeClients table).length) (now : ℤ) :
    (checkClientTimeouts table now).count
      = (activeClients (checkClientTimeouts table now)).length := by
  rw [checkClientTimeouts_eq_run]
  exact run_invariant (I := fun t => t.count = (activeClients t).length) (checkSlot now)
    (fun _ i ht => count_checkSlot ht now i) h (List.finRange maxClients)

@[simp] theorem nextIp_checkClientTimeouts (table : ClientTable) (now : ℤ) :
    (checkClientTimeouts table now).nextIp = table.nextIp := by
  rw [checkClientTimeouts_eq_run]
  refine run_invariant (I := fun t => t.nextIp = table.nextIp) (checkSlot now) ?_ rfl _
  intro t i ht
  unfold checkSlot
  split_ifs <;> exact ht

/-! ## The whole sweep -/

/-- A sweep that finds no entry to drop changes nothing. -/
theorem checkClientTimeouts_eq_self {table : ClientTable} {now : ℤ}
    (h : ∀ i, (table.clients i).active = true → expired now (table.clients i) = false) :
    checkClientTimeouts table now = table := by
  rw [checkClientTimeouts_eq_run]
  refine run_invariant (I := fun t => t = table) (checkSlot now) ?_ rfl _
  rintro t i rfl
  unfold checkSlot
  split_ifs with hactive hexp
  · rw [h i hactive] at hexp
    exact absurd hexp Bool.false_ne_true
  · rfl
  · rfl

/-- **The sweep is an exact filter.**  If `count` is the number of active slots, then the active
entries after the sweep are those that were active and seen at most 300 seconds ago, each in its
slot and unchanged; `count` is their number, `next_ip` stays, and a second sweep at the same time
changes nothing. -/
theorem checkClientTimeouts_filter {table : ClientTable}
    (hcount : table.count = (activeClients table).length) (now : ℤ) :
    let swept := checkClientTimeouts table now
    (∀ i, (swept.clients i).active = true ↔
      (table.clients i).active = true ∧ now - (table.clients i).lastSeen ≤ 300) ∧
    (∀ i, (swept.clients i).active = true → swept.clients i = table.clients i) ∧
    swept.count = (activeClients swept).length ∧
    swept.nextIp = table.nextIp ∧
    checkClientTimeouts swept now = swept := by
  intro swept
  have hslot : ∀ i, swept.clients i = sweepEntry now (table.clients i) :=
    clients_checkClientTimeouts table now
  have hactive : ∀ i, (swept.clients i).active = true ↔
      (table.clients i).active = true ∧ now - (table.clients i).lastSeen ≤ 300 := by
    intro i
    rw [hslot]
    exact sweepEntry_active
  have hsame : ∀ i, (swept.clients i).active = true → swept.clients i = table.clients i := by
    intro i hi
    rw [hslot] at hi ⊢
    exact sweepEntry_eq_self hi
  refine ⟨hactive, hsame, count_checkClientTimeouts hcount now,
    nextIp_checkClientTimeouts table now, ?_⟩
  -- What the first sweep has left is young enough for the second.
  refine checkClientTimeouts_eq_self fun i hi => ?_
  obtain ⟨-, hyoung⟩ := (hactive i).mp hi
  rw [hsame i hi]
  simpa [expired, clientTimeout] using hyoung

/-- Of two clients, seen 301 and 300 seconds ago, the sweep drops the first. -/
theorem checkClientTimeouts_filter_two :
    let table := run applyOp initClientTable [.addClient ⟨1, 1⟩ 0 0, .addClient ⟨2, 1⟩ 1 0]
    table.count = (activeClients table).length ∧
      (checkClientTimeouts table 301).count = 1 ∧
      ((checkClientTimeouts table 301).clients 1).active = true := by
  intro table
  have hcount : table.count = (activeClients table).length := (run_wf _).count_eq
  obtain ⟨hactive, -, hcount', -, -⟩ := checkClientTimeouts_filter hcount 301
  refine ⟨hcount, ?_, (hactive 1).mpr (by decide +kernel)⟩
  rw [hcount', activeClients_checkClientTimeouts]
  decide +kernel

end Vpn
