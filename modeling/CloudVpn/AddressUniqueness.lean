/-
# When VPN addresses are unique

`add_client` takes the address its counter stands for without looking whether an active
entry still holds it.  The table keeps its addresses distinct exactly as long as every
new entry meets a counter value that no active entry holds (`applyOp_distinct_iff`), and
the counter comes round to a held address after 254 allocations
(`vpnIp_shared_after_wrap`).
-/
import CloudVpn.ClientInvariant

open Memory Slots Runs

namespace Vpn

/-! ## Distinct addresses and routing -/

/-- No two active entries have the same VPN address. -/
def VpnIpsDistinct (table : ClientTable) : Prop :=
  ∀ i j, (table.clients i).active = true → (table.clients j).active = true →
    (table.clients i).vpnIp = (table.clients j).vpnIp → i = j

/-- The search by VPN address leads to the entry that holds the address. -/
def VpnIpsRouted (table : ClientTable) : Prop :=
  ∀ i, (table.clients i).active = true →
    findClientByVpnIp table (table.clients i).vpnIp = some i

theorem VpnIpsDistinct.routed {table : ClientTable} (h : VpnIpsDistinct table) :
    VpnIpsRouted table := by
  intro i hi
  rw [findClientByVpnIp_eq_some]
  refine ⟨⟨hi, rfl⟩, fun j hji hj heq => ?_⟩
  have hij := h j i hj hi heq
  omega

/-- Addresses stay distinct when active entries are dropped or rewritten in their other
fields. -/
theorem VpnIpsDistinct.of_subset {t t' : ClientTable} (h : VpnIpsDistinct t)
    (hsub : ∀ i, (t'.clients i).active = true →
      (t.clients i).active = true ∧ (t'.clients i).vpnIp = (t.clients i).vpnIp) :
    VpnIpsDistinct t' := by
  intro i j hi hj heq
  obtain ⟨hi, hip⟩ := hsub i hi
  obtain ⟨hj, hjp⟩ := hsub j hj
  rw [hip, hjp] at heq
  exact h i j hi hj heq

theorem updateClientActivity_distinct {table : ClientTable} (h : VpnIpsDistinct table)
    (c : Fin maxClients) (now : ℤ) : VpnIpsDistinct (updateClientActivity table c now) := by
  apply h.of_subset
  intro i hi
  obtain ⟨hact, -, hip⟩ := updateClientActivity_same table c now i
  exact ⟨hact ▸ hi, hip⟩

theorem deactivate_distinct {table : ClientTable} (h : VpnIpsDistinct table)
    (c : Fin maxClients) : VpnIpsDistinct (deactivate table c) := by
  apply h.of_subset
  intro i hi
  obtain ⟨hic, hact⟩ := deactivate_active.mp hi
  exact ⟨hact, by rw [deactivate_of_ne hic]⟩

theorem removeClient_distinct {table : ClientTable} (h : VpnIpsDistinct table) (ip : UInt32) :
    VpnIpsDistinct (removeClient table ip) := by
  cases hfind : findClientByVpnIp table ip with
  | none =>
      rw [removeClient_absent hfind]
      exact h
  | some i =>
      rw [removeClient_found hfind]
      exact deactivate_distinct h i

theorem checkClientTimeouts_distinct {table : ClientTable} (h : VpnIpsDistinct table)
    (now : ℤ) : VpnIpsDistinct (checkClientTimeouts table now) := by
  -- The sweep is a run over the slots; each step drops one entry or none.
  rw [checkClientTimeouts_eq_run]
  apply run_invariant (I := VpnIpsDistinct) (checkSlot now) ?_ h
  intro t i ht
  unfold checkSlot
  split_ifs
  · exact deactivate_distinct ht i
  · exact ht
  · exact ht

/-- A stored entry keeps the addresses distinct exactly when no active entry holds its
address. -/
theorem storeClient_distinct_iff {table : ClientTable} (h : VpnIpsDistinct table)
    {index : Fin maxClients} {e : ClientEntry} (hfree : (table.clients index).active = false)
    (he : e.active = true) :
    VpnIpsDistinct (storeClient table index e) ↔
      ∀ i, (table.clients i).active = true → (table.clients i).vpnIp ≠ e.vpnIp := by
  have hself := storeClient_self table index e
  have hother : ∀ i, i ≠ index → (storeClient table index e).clients i = table.clients i :=
    fun i hi => storeClient_of_ne table e hi
  have hne : ∀ i, (table.clients i).active = true → i ≠ index := by
    rintro i hi rfl
    rw [hfree] at hi
    exact absurd hi (by simp)
  constructor
  · intro hd i hi heq
    apply hne i hi
    apply hd i index
    · rw [hother i (hne i hi)]
      exact hi
    · rw [hself]
      exact he
    · rw [hother i (hne i hi), hself]
      exact heq
  · intro hfresh i j hi hj heq
    -- A clash of two old entries is one of `table`; a clash with the new one is excluded.
    by_cases hii : i = index
    · by_cases hjj : j = index
      · rw [hii, hjj]
      · rw [hother j hjj] at hj heq
        rw [hii, hself] at heq
        exact absurd heq.symm (hfresh j hj)
    · rw [hother i hii] at hi heq
      by_cases hjj : j = index
      · rw [hjj, hself] at heq
        exact absurd heq (hfresh i hi)
      · rw [hother j hjj] at hj heq
        exact h i j hi hj heq

/-! ## The exact condition -/

/-- An `add_client` that allocates (the table is not full and the peer is unknown) finds
the address of the counter held by no active entry. -/
def AllocatesUnheldIp (table : ClientTable) : TableOp → Prop
  | .addClient addr _ _ =>
      table.count < maxClients → findClientByAddr table addr = none →
        ∀ i, (table.clients i).active = true →
          (table.clients i).vpnIp ≠ htonl (vpnIpHost table)
  | _ => True

instance (table : ClientTable) : ∀ op, Decidable (AllocatesUnheldIp table op)
  | .addClient addr _ _ =>
      inferInstanceAs (Decidable (table.count < maxClients → findClientByAddr table addr = none →
        ∀ i, (table.clients i).active = true → (table.clients i).vpnIp ≠ _))
  | .removeClient _ | .updateClientActivity _ _ | .checkClientTimeouts _ => .isTrue trivial

/-- **One call** keeps the addresses distinct exactly when it does not allocate an address
that an active entry holds. -/
theorem applyOp_distinct_iff {table : ClientTable} (hwf : table.Wf)
    (h : VpnIpsDistinct table) (op : TableOp) :
    VpnIpsDistinct (applyOp table op) ↔ AllocatesUnheldIp table op := by
  cases op with
  | addClient addr now rand =>
      by_cases hfull : table.count ≥ maxClients
      · have hkeep : applyOp table (.addClient addr now rand) = table := by
          show (addClient table addr now rand).1 = table
          rw [addClient_full addr now rand hfull]
        rw [hkeep]
        exact ⟨fun _ hroom => absurd hroom (not_lt.mpr hfull), fun _ => h⟩
      · have hroom : table.count < maxClients := not_le.mp hfull
        -- A known peer keeps its address; only an unknown one is given the counter's.
        cases hfind : findClientByAddr table addr with
        | some i =>
            have htouch : applyOp table (.addClient addr now rand)
                = updateClientActivity table i now := by
              rw [applyOp_addClient, addClient_existing now rand hroom hfind]
            rw [htouch]
            refine ⟨fun _ _ hnone => ?_, fun _ => updateClientActivity_distinct h i now⟩
            rw [hfind] at hnone
            exact absurd hnone (by simp)
        | none =>
            obtain ⟨i, hi⟩ := hwf.findFreeSlot_isSome hroom
            have hstore : applyOp table (.addClient addr now rand)
                = storeClient table i (newEntry table addr now rand) := by
              rw [applyOp_addClient, addClient_new now rand hroom hfind hi]
            rw [hstore, storeClient_distinct_iff h (findFreeSlot_eq_some.mp hi).1 rfl]
            exact ⟨fun hfresh _ _ => hfresh, fun hcond => hcond hroom hfind⟩
  | removeClient ip => exact ⟨fun _ => trivial, fun _ => removeClient_distinct h ip⟩
  | updateClientActivity c now =>
      exact ⟨fun _ => trivial, fun _ => updateClientActivity_distinct h c now⟩
  | checkClientTimeouts now =>
      exact ⟨fun _ => trivial, fun _ => checkClientTimeouts_distinct h now⟩

/-- **Addresses are unique, and packets reach the intended client, exactly on the runs
that never allocate a held address.** -/
theorem vpnIps_distinct_iff_unheld (ops : List TableOp) :
    Throughout applyOp (fun t => VpnIpsDistinct t ∧ VpnIpsRouted t) initClientTable ops ↔
      Along applyOp AllocatesUnheldIp initClientTable ops := by
  have hinit : VpnIpsDistinct initClientTable := by
    intro i j hi
    exact absurd hi (by simp [initClientTable])
  refine throughout_iff_along_of_invariant (I := ClientTable.Wf) applyOp_wf ?_ initClientTable_wf
    ⟨hinit, hinit.routed⟩ ops
  rintro t op hwf ⟨hd, -⟩
  rw [← applyOp_distinct_iff hwf hd op]
  exact ⟨fun h => h.1, fun h => ⟨h, h.routed⟩⟩

/-! ## The counter comes round -/

/-- One long-lived client holds 10.8.0.2, every other slot is free, and the counter is
at `k`. -/
structure Lone (a : SockAddr) (k : UInt32) (table : ClientTable) : Prop where
  active : (table.clients 0).active = true
  vpnIp : (table.clients 0).vpnIp = htonl 0x0a080002
  realAddr : (table.clients 0).realAddr = a
  free : ∀ i, i ≠ 0 → (table.clients i).active = false
  count : table.count = 1
  nextIp : table.nextIp = k

/-- `n` short visits of the peer `b`, the first of which is given the address `k`. -/
def visits (b : SockAddr) : ℕ → UInt32 → List TableOp
  | 0, _ => []
  | n + 1, k => .addClient b 0 0 :: .removeClient (htonl k) :: visits b n (k + 1)

theorem Lone.addClient {a b : SockAddr} {k : UInt32} {table : ClientTable}
    (h : Lone a k table) (hab : a ≠ b) :
    applyOp table (.addClient b 0 0) = storeClient table 1 (newEntry table b 0 0) := by
  have hroom : table.count < maxClients := by
    rw [h.count]
    decide
  have hunknown : findClientByAddr table b = none := by
    rw [findClientByAddr_eq_none]
    intro i hi
    by_cases hi0 : i = 0
    · rw [hi0, h.realAddr]
      exact hab
    · rw [h.free i hi0] at hi
      exact absurd hi (by simp)
  have hfree : findFreeSlot table = some 1 := by
    rw [findFreeSlot_eq_some]
    refine ⟨h.free 1 (by decide), fun j hj => ?_⟩
    have hj0 : j = 0 := Fin.ext (Nat.lt_one_iff.mp hj)
    rw [hj0]
    exact h.active
  rw [applyOp_addClient, addClient_new 0 0 hroom hunknown hfree]

/-- One visit advances the counter and leaves the rest as it was. -/
theorem Lone.visit {a b : SockAddr} {k : UInt32} {table : ClientTable} (h : Lone a k table)
    (hab : a ≠ b) (hlo : 0x0a080003 ≤ k) (hhi : k ≤ 0x0a0800ff) :
    Lone a (k + 1) (run applyOp table [.addClient b 0 0, .removeClient (htonl k)]) := by
  have hhost : vpnIpHost table = k := by
    unfold vpnIpHost
    rw [h.nextIp, if_neg (UInt32.not_lt.mpr hhi)]
  have hk : k ≠ 0x0a080002 := by
    rintro rfl
    exact absurd hlo (by decide)
  have hfind : findClientByVpnIp (storeClient table 1 (newEntry table b 0 0)) (htonl k)
      = some 1 := by
    rw [findClientByVpnIp_eq_some]
    refine ⟨⟨rfl, by simp [storeClient, newEntry, hhost]⟩, fun j hj _ => ?_⟩
    have hj0 : j = 0 := Fin.ext (Nat.lt_one_iff.mp hj)
    rw [hj0]
    show (table.clients 0).vpnIp ≠ htonl k
    rw [h.vpnIp, ne_eq, htonl_inj]
    exact hk.symm
  have hrun : run applyOp table [.addClient b 0 0, .removeClient (htonl k)]
      = deactivate (storeClient table 1 (newEntry table b 0 0)) 1 := by
    rw [run_cons, run_cons, run_nil, h.addClient hab, applyOp_removeClient,
      removeClient_found hfind]
  rw [hrun]
  refine ⟨h.active, h.vpnIp, h.realAddr, fun i hi => ?_, ?_, ?_⟩
  · by_cases hi1 : i = 1
    · subst hi1
      rfl
    · rw [deactivate_of_ne hi1]
      simp [storeClient, hi1, h.free i hi]
  · show table.count + 1 - 1 = 1
    rw [h.count]
    rfl
  · show vpnIpHost table + 1 = k + 1
    rw [hhost]

/-- Visits advance the counter one by one, as far as the end of the pool. -/
theorem Lone.visits {a b : SockAddr} (hab : a ≠ b) (n : ℕ) {k : UInt32} {table : ClientTable}
    (h : Lone a k table) (hlo : 0x0a080003 ≤ k) (hhi : k.toNat + n ≤ 0x0a080100) :
    Lone a (k + UInt32.ofNat n) (run applyOp table (visits b n k)) := by
  -- Induction on the visits to come: `hhi` keeps the counter in front of its wrap.
  induction n generalizing k table with
  | zero => simpa [Vpn.visits] using h
  | succ n ih =>
      have hk : k ≤ 0x0a0800ff := by
        rw [UInt32.le_iff_toNat_le]
        simp only [UInt32.reduceToNat]
        omega
      have hnext : (k + 1).toNat = k.toNat + 1 := by
        rw [UInt32.toNat_add]
        simp only [UInt32.reduceToNat]
        omega
      have hlo' : 0x0a080003 ≤ k + 1 := by
        rw [UInt32.le_iff_toNat_le] at hlo ⊢
        rw [hnext]
        omega
      have hrest := ih (h.visit hab hlo hk) hlo' (by omega)
      have hsum : k + 1 + UInt32.ofNat n = k + UInt32.ofNat (n + 1) := by
        rw [UInt32.add_assoc, UInt32.ofNat_add, UInt32.add_comm 1]
        rfl
      rw [hsum, ← run_append] at hrest
      exact hrest

/-- A client connects and stays; 253 visitors come and go; one more visitor comes. -/
def wrapOps : List TableOp :=
  .addClient ⟨1, 1⟩ 0 0 :: (visits ⟨2, 2⟩ 253 0x0a080003 ++ [.addClient ⟨2, 2⟩ 0 0])

/-- The first client is stored in slot 0 and given 10.8.0.2. -/
theorem lone_first (a : SockAddr) :
    Lone a 0x0a080003 (applyOp initClientTable (.addClient a 0 0)) := by
  have hunknown : findClientByAddr initClientTable a = none := by
    rw [findClientByAddr_eq_none]
    intro i hi
    exact absurd hi (by simp [initClientTable])
  have hfree : findFreeSlot initClientTable = some 0 := by
    rw [findFreeSlot_eq_some]
    exact ⟨rfl, fun j hj => absurd hj (Fin.not_lt_zero j)⟩
  rw [applyOp_addClient, addClient_new 0 0 (by decide) hunknown hfree]
  refine ⟨rfl, rfl, rfl, fun i hi => ?_, rfl, rfl⟩
  simp [storeClient, hi, initClientTable]

/-- **After 254 allocations the counter hands out a held address.** -/
theorem vpnIp_shared_after_wrap :
    ¬ Throughout applyOp (fun t => VpnIpsDistinct t ∧ VpnIpsRouted t) initClientTable
      wrapOps := by
  intro hall
  have hlone := (lone_first ⟨1, 1⟩).visits (b := ⟨2, 2⟩) (by decide) 253 (by decide)
    (by decide)
  have hlast := hall.last.1
  unfold wrapOps at hlast
  rw [run_cons, run_append, run_cons, run_nil, hlone.addClient (by decide)] at hlast
  have hshared := (storeClient_distinct_iff ?_ (hlone.free 1 (by decide)) rfl).mp hlast 0
    hlone.active
  · apply hshared
    rw [hlone.vpnIp]
    show _ = htonl (vpnIpHost _)
    unfold vpnIpHost
    rw [hlone.nextIp]
    rfl
  · -- With one active entry the addresses are distinct.
    intro i j hi hj _
    have hzero : ∀ m, ((run applyOp (applyOp initClientTable (.addClient ⟨1, 1⟩ 0 0))
        (visits ⟨2, 2⟩ 253 0x0a080003)).clients m).active = true → m = 0 := by
      intro m hm
      by_contra hne
      rw [hlone.free m hne] at hm
      exact absurd hm (by simp)
    rw [hzero i hi, hzero j hj]

end Vpn
