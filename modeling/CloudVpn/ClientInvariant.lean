/-
# The representation invariant of the client table

`count`, the active flags, the address fields and `next_ip` are written by separate
statements of four operations.  `ClientTable.Wf` says how they belong together; every
operation keeps it, the sweep by an induction over its loop, and so every reachable
table has it (`run_wf`).

The consequences the server relies on: a table that is not counted full has a free
slot (`Wf.findFreeSlot_isSome`), and a peer has at most one entry (`Wf.addr_unique`).
-/
import CloudVpn.ClientManager

open Memory Slots Runs

namespace Vpn

/-! ## The invariant -/

/-- The representation invariant of the client table. -/
structure ClientTable.Wf (table : ClientTable) : Prop where
  /-- `count` is the number of active slots. -/
  count_eq : table.count = (activeClients table).length
  /-- No two active entries have the same peer address. -/
  addr_inj : ∀ i j, (table.clients i).active = true → (table.clients j).active = true →
    (table.clients i).realAddr = (table.clients j).realAddr → i = j
  /-- Active entries hold addresses 10.8.0.2 to 10.8.0.255. -/
  vpnIp_mem : ∀ i, (table.clients i).active = true →
    ∃ h : UInt32, 0x0a080002 ≤ h ∧ h ≤ 0x0a0800ff ∧ (table.clients i).vpnIp = htonl h
  /-- The counter stays inside the pool, or one past its end. -/
  nextIp_mem : 0x0a080002 ≤ table.nextIp ∧ table.nextIp ≤ 0x0a080100

namespace ClientTable.Wf

variable {table : ClientTable}

theorem count_nonneg (h : table.Wf) : 0 ≤ table.count := by
  rw [h.count_eq]
  omega

theorem count_le (h : table.Wf) : table.count ≤ maxClients := by
  have hle := length_entries_le activeEntry table.clients
  rw [h.count_eq]
  unfold activeClients
  omega

/-- A table that is not counted full has a free slot. -/
theorem findFreeSlot_isSome (h : table.Wf) (hc : table.count < maxClients) :
    ∃ i, findFreeSlot table = some i := by
  have hlt : (entries activeEntry table.clients).length < maxClients := by
    have hcount := h.count_eq
    unfold activeClients at hcount
    omega
  obtain ⟨i, hi⟩ := exists_none_of_length_lt hlt
  rw [activeEntry_eq_none] at hi
  cases hfree : findFreeSlot table with
  | some j => exact ⟨j, rfl⟩
  | none =>
      have hall := findFreeSlot_eq_none.mp hfree i
      rw [hi] at hall
      exact absurd hall (by simp)

/-- A peer has at most one entry, so the search for it has one candidate. -/
theorem addr_unique (h : table.Wf) {a : SockAddr} {i j : Fin maxClients}
    (hi : matchesAddr a (table.clients i) = true)
    (hj : matchesAddr a (table.clients j) = true) : i = j := by
  obtain ⟨hia, hir⟩ := matchesAddr_eq_true.mp hi
  obtain ⟨hja, hjr⟩ := matchesAddr_eq_true.mp hj
  exact h.addr_inj i j hia hja (hir.trans hjr.symm)

/-- The search by address finds the active entry of that address. -/
theorem findClientByAddr_eq (h : table.Wf) {i : Fin maxClients}
    (hi : (table.clients i).active = true) :
    findClientByAddr table (table.clients i).realAddr = some i := by
  rw [findClientByAddr_eq_some]
  refine ⟨⟨hi, rfl⟩, fun j hj hja heq => ?_⟩
  have hji := h.addr_inj j i hja hi heq
  omega

/-- Addresses handed out are never zero. -/
theorem vpnIp_ne_zero (h : table.Wf) {i : Fin maxClients}
    (hi : (table.clients i).active = true) : (table.clients i).vpnIp ≠ 0 := by
  obtain ⟨host, hlo, -, heq⟩ := h.vpnIp_mem i hi
  intro hzero
  have hhost : htonl host = htonl 0 := by
    rw [← heq, hzero]
    rfl
  rw [htonl_injective hhost] at hlo
  exact absurd hlo (by decide)

/-- The address taken from the counter lies in the pool. -/
theorem vpnIpHost_mem (h : table.Wf) :
    0x0a080002 ≤ vpnIpHost table ∧ vpnIpHost table ≤ 0x0a0800ff := by
  unfold vpnIpHost
  split_ifs with hgt
  · decide
  · exact ⟨h.nextIp_mem.1, UInt32.not_lt.mp hgt⟩

/-- `add_client` returns zero on failure only. -/
theorem htonl_vpnIpHost_ne_zero (h : table.Wf) : htonl (vpnIpHost table) ≠ 0 := by
  intro hzero
  have hhost : vpnIpHost table = 0 := htonl_injective hzero
  have hlo := h.vpnIpHost_mem.1
  rw [hhost] at hlo
  exact absurd hlo (by decide)

end ClientTable.Wf

/-! ## The operations keep the invariant -/

theorem initClientTable_wf : initClientTable.Wf where
  count_eq := by decide +kernel
  addr_inj := by
    intro i j hi
    exact absurd hi (by simp [initClientTable])
  vpnIp_mem := by
    intro i hi
    exact absurd hi (by simp [initClientTable])
  nextIp_mem := by decide

/-- A write that keeps every slot's flag and addresses keeps the invariant. -/
theorem ClientTable.Wf.of_same {t t' : ClientTable} (h : t.Wf) (hcount : t'.count = t.count)
    (hnext : t'.nextIp = t.nextIp)
    (hsame : ∀ i, (t'.clients i).active = (t.clients i).active ∧
      (t'.clients i).realAddr = (t.clients i).realAddr ∧
      (t'.clients i).vpnIp = (t.clients i).vpnIp) : t'.Wf where
  count_eq := by
    rw [hcount, h.count_eq]
    congr 1
    apply length_entries_congr
    intro i
    unfold activeEntry
    rw [(hsame i).1]
    split_ifs <;> rfl
  addr_inj := by
    intro i j hi hj heq
    rw [(hsame i).1] at hi
    rw [(hsame j).1] at hj
    rw [(hsame i).2.1, (hsame j).2.1] at heq
    exact h.addr_inj i j hi hj heq
  vpnIp_mem := by
    intro i hi
    rw [(hsame i).1] at hi
    rw [(hsame i).2.2]
    exact h.vpnIp_mem i hi
  nextIp_mem := by
    rw [hnext]
    exact h.nextIp_mem

/-- `update_client_activity` writes nothing but `last_seen`. -/
theorem updateClientActivity_same (table : ClientTable) (c : Fin maxClients) (now : ℤ)
    (i : Fin maxClients) :
    ((updateClientActivity table c now).clients i).active = (table.clients i).active ∧
    ((updateClientActivity table c now).clients i).realAddr = (table.clients i).realAddr ∧
    ((updateClientActivity table c now).clients i).vpnIp = (table.clients i).vpnIp := by
  unfold updateClientActivity
  by_cases hic : i = c
  · subst hic
    simp
  · simp [hic]

theorem findClientByAddr_updateClientActivity (table : ClientTable) (c : Fin maxClients)
    (now : ℤ) (addr : SockAddr) :
    findClientByAddr (updateClientActivity table c now) addr = findClientByAddr table addr := by
  unfold findClientByAddr
  congr 1
  funext i
  obtain ⟨hactive, haddr, -⟩ := updateClientActivity_same table c now i
  unfold matchesAddr
  rw [hactive, haddr]

theorem updateClientActivity_wf {table : ClientTable} (h : table.Wf) (c : Fin maxClients)
    (now : ℤ) : (updateClientActivity table c now).Wf :=
  h.of_same rfl rfl (updateClientActivity_same table c now)

theorem deactivate_active {table : ClientTable} {c i : Fin maxClients} :
    ((deactivate table c).clients i).active = true ↔
      i ≠ c ∧ (table.clients i).active = true := by
  unfold deactivate
  by_cases hic : i = c
  · subst hic
    simp
  · simp [hic]

theorem deactivate_of_ne {table : ClientTable} {c i : Fin maxClients} (h : i ≠ c) :
    (deactivate table c).clients i = table.clients i := by
  unfold deactivate
  simp [h]

/-- Dropping a client takes its entry out of the active ones. -/
theorem activeClients_deactivate {table : ClientTable} {c : Fin maxClients}
    (hc : (table.clients c).active = true) :
    (activeClients table).Perm (table.clients c :: activeClients (deactivate table c)) :=
  entries_perm_cons_update (activeEntry_eq_some.mpr ⟨hc, rfl⟩) rfl

/-- Dropping a client keeps a `count` that is the number of active slots. -/
theorem count_deactivate {table : ClientTable}
    (hcount : table.count = (activeClients table).length) {c : Fin maxClients}
    (hc : (table.clients c).active = true) :
    (deactivate table c).count = (activeClients (deactivate table c)).length := by
  have hlen := (activeClients_deactivate hc).length_eq
  rw [List.length_cons] at hlen
  have hminus : (deactivate table c).count = table.count - 1 := rfl
  omega

theorem deactivate_wf {table : ClientTable} (h : table.Wf) {c : Fin maxClients}
    (hc : (table.clients c).active = true) : (deactivate table c).Wf where
  count_eq := count_deactivate h.count_eq hc
  addr_inj := by
    intro i j hi hj heq
    obtain ⟨hic, hi⟩ := deactivate_active.mp hi
    obtain ⟨hjc, hj⟩ := deactivate_active.mp hj
    rw [deactivate_of_ne hic, deactivate_of_ne hjc] at heq
    exact h.addr_inj i j hi hj heq
  vpnIp_mem := by
    intro i hi
    obtain ⟨hic, hi⟩ := deactivate_active.mp hi
    rw [deactivate_of_ne hic]
    exact h.vpnIp_mem i hi
  nextIp_mem := h.nextIp_mem

/-- Storing an active entry in a free slot adds it to the active ones. -/
theorem activeClients_storeClient {table : ClientTable} {index : Fin maxClients}
    {e : ClientEntry} (hfree : (table.clients index).active = false)
    (he : e.active = true) :
    (activeClients (storeClient table index e)).Perm (e :: activeClients table) :=
  entries_update_perm_cons (activeEntry_eq_none.mpr hfree)
    (activeEntry_eq_some.mpr ⟨he, rfl⟩)

@[simp] theorem storeClient_self (table : ClientTable) (index : Fin maxClients)
    (e : ClientEntry) : (storeClient table index e).clients index = e := by
  simp [storeClient]

theorem storeClient_of_ne (table : ClientTable) {index i : Fin maxClients} (e : ClientEntry)
    (h : i ≠ index) : (storeClient table index e).clients i = table.clients i := by
  simp [storeClient, h]

/-- The stored entry keeps the invariant when its slot was free and its peer unknown. -/
theorem storeClient_wf {table : ClientTable} (h : table.Wf) {addr : SockAddr}
    {index : Fin maxClients} (now : ℤ) (rand : UInt32)
    (hnone : findClientByAddr table addr = none)
    (hfree : (table.clients index).active = false) :
    (storeClient table index (newEntry table addr now rand)).Wf := by
  have hunknown := findClientByAddr_eq_none.mp hnone
  have hself := storeClient_self table index (newEntry table addr now rand)
  have hother : ∀ i, i ≠ index →
      (storeClient table index (newEntry table addr now rand)).clients i = table.clients i :=
    fun i hi => storeClient_of_ne table _ hi
  refine ⟨?_, ?_, ?_, ?_⟩
  · have hlen := (activeClients_storeClient (e := newEntry table addr now rand)
      hfree rfl).length_eq
    rw [List.length_cons] at hlen
    have hcount := h.count_eq
    have hplus : (storeClient table index (newEntry table addr now rand)).count
        = table.count + 1 := rfl
    omega
  · intro i j hi hj heq
    -- The new entry's peer was unknown, so it clashes with none of the old entries.
    by_cases hii : i = index
    · by_cases hjj : j = index
      · rw [hii, hjj]
      · rw [hii, hself, hother j hjj] at heq
        rw [hother j hjj] at hj
        exact absurd heq.symm (hunknown j hj)
    · rw [hother i hii] at hi heq
      by_cases hjj : j = index
      · rw [hjj, hself] at heq
        exact absurd heq (hunknown i hi)
      · rw [hother j hjj] at hj heq
        exact h.addr_inj i j hi hj heq
  · intro i hi
    by_cases hii : i = index
    · rw [hii, hself]
      exact ⟨vpnIpHost table, h.vpnIpHost_mem.1, h.vpnIpHost_mem.2, rfl⟩
    · rw [hother i hii] at hi ⊢
      exact h.vpnIp_mem i hi
  · have hmem := h.vpnIpHost_mem
    simp only [storeClient, UInt32.le_iff_toNat_le, UInt32.toNat_add,
      UInt32.reduceToNat] at hmem ⊢
    omega

/-- What can come of `add_client`: a full table refuses, a known peer is refreshed, an unknown
one is given the first free slot. -/
inductive Added (table : ClientTable) (addr : SockAddr) (now : ℤ) (rand : UInt32) :
    ClientTable × UInt32 → Prop
  | full (hfull : table.count = maxClients) : Added table addr now rand (table, 0)
  | known {i : Fin maxClients} (hroom : table.count < maxClients)
      (hi : findClientByAddr table addr = some i) :
      Added table addr now rand
        (updateClientActivity table i now, (table.clients i).vpnIp)
  | new {i : Fin maxClients} (hroom : table.count < maxClients)
      (hnone : findClientByAddr table addr = none) (hi : findFreeSlot table = some i) :
      Added table addr now rand
        (storeClient table i (newEntry table addr now rand), htonl (vpnIpHost table))

/-- **Every `add_client` has one of the outcomes.** -/
theorem addClient_outcome {table : ClientTable} (h : table.Wf) (addr : SockAddr) (now : ℤ)
    (rand : UInt32) : Added table addr now rand (addClient table addr now rand) := by
  by_cases hfull : table.count ≥ maxClients
  · rw [addClient_full addr now rand hfull]
    exact .full (le_antisymm h.count_le hfull)
  · have hroom : table.count < maxClients := not_le.mp hfull
    cases hfind : findClientByAddr table addr with
    | some i =>
        rw [addClient_existing now rand hroom hfind]
        exact .known hroom hfind
    | none =>
        obtain ⟨i, hi⟩ := h.findFreeSlot_isSome hroom
        rw [addClient_new now rand hroom hfind hi]
        exact .new hroom hfind hi

theorem addClient_wf {table : ClientTable} (h : table.Wf) (addr : SockAddr) (now : ℤ)
    (rand : UInt32) : (addClient table addr now rand).1.Wf := by
  have hout := addClient_outcome h addr now rand
  generalize addClient table addr now rand = r at hout
  cases hout with
  | full _ => exact h
  | known _ _ => exact updateClientActivity_wf h _ now
  | new _ hnone hi => exact storeClient_wf h now rand hnone (findFreeSlot_eq_some.mp hi).1

theorem removeClient_wf {table : ClientTable} (h : table.Wf) (ip : UInt32) :
    (removeClient table ip).Wf := by
  cases hfind : findClientByVpnIp table ip with
  | none =>
      rw [removeClient_absent hfind]
      exact h
  | some i =>
      rw [removeClient_found hfind]
      exact deactivate_wf h (findClientByVpnIp_eq_some.mp hfind).1.1

theorem checkSlot_wf {table : ClientTable} (h : table.Wf) (now : ℤ) (i : Fin maxClients) :
    (checkSlot now table i).Wf := by
  unfold checkSlot
  split_ifs with hactive hexp
  · exact deactivate_wf h hactive
  · exact h
  · exact h

/-- The sweep keeps the invariant, slot by slot. -/
theorem checkClientTimeouts_wf {table : ClientTable} (h : table.Wf) (now : ℤ) :
    (checkClientTimeouts table now).Wf := by
  rw [checkClientTimeouts_eq_run]
  exact run_invariant (I := ClientTable.Wf) (checkSlot now)
    (fun _ i ht => checkSlot_wf ht now i) h (List.finRange maxClients)

theorem applyOp_wf (table : ClientTable) (op : TableOp) (h : table.Wf) :
    (applyOp table op).Wf := by
  cases op with
  | addClient addr now rand => exact addClient_wf h addr now rand
  | removeClient ip => exact removeClient_wf h ip
  | updateClientActivity c now => exact updateClientActivity_wf h c now
  | checkClientTimeouts now => exact checkClientTimeouts_wf h now

/-- Every reachable table satisfies the invariant. -/
theorem run_wf (ops : List TableOp) : (run applyOp initClientTable ops).Wf :=
  run_invariant applyOp applyOp_wf initClientTable_wf ops

/-- **The client table is always well formed.**  After any sequence of operations:
`count` is the number of active slots and lies between 0 and 254; active entries have
distinct peers and non-zero VPN addresses; `next_ip` lies between 10.8.0.2 and 10.8.1.0.
So the search of `add_client` for a free slot never fails behind its capacity check, and
the search by peer address never has two candidates. -/
theorem clientTable_representation (ops : List TableOp) :
    let table := run applyOp initClientTable ops
    (table.count = (activeClients table).length ∧ 0 ≤ table.count ∧ table.count ≤ 254) ∧
    (∀ i j, (table.clients i).active = true → (table.clients j).active = true →
      (table.clients i).realAddr = (table.clients j).realAddr → i = j) ∧
    (∀ i, (table.clients i).active = true → (table.clients i).vpnIp ≠ 0) ∧
    (0x0a080002 ≤ table.nextIp ∧ table.nextIp ≤ 0x0a080100) ∧
    (table.count < maxClients → findFreeSlot table ≠ none) ∧
    (∀ a i j, matchesAddr a (table.clients i) = true →
      matchesAddr a (table.clients j) = true → i = j) := by
  intro table
  have h : table.Wf := run_wf ops
  refine ⟨⟨h.count_eq, h.count_nonneg, h.count_le⟩, h.addr_inj, ?_, h.nextIp_mem, ?_, ?_⟩
  · intro i hi
    exact h.vpnIp_ne_zero hi
  · intro hroom hnone
    obtain ⟨i, hi⟩ := h.findFreeSlot_isSome hroom
    rw [hnone] at hi
    exact absurd hi (by simp)
  · intro a i j hi hj
    exact h.addr_unique hi hj

end Vpn
