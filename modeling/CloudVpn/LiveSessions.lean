/-
# The client table as a set of sessions

What the rest of the server knows of the client table is which peer holds which VPN
address under which session id.  `liveSessions` is that set, and the lemmas say how every
operation of `client_manager.c` changes it: refreshing an entry does not, storing one
inserts a session, dropping one takes out the sessions of its peer, the sweep keeps those
that have not expired.

`add_client` and `remove_client` search differently (by peer and by VPN address), so the
pair of calls that undoes a failed connect has a case split of its own
(`liveSessions_rollback_fresh`, `liveSessions_rollback_shadowed`).
-/
import CloudVpn.TimeoutSweep
import Mathlib.Data.Set.Insert

open Memory Slots Runs

namespace Vpn

/-! ## The set -/

/-- A peer, its VPN address and its session id. -/
structure Session where
  realAddr : SockAddr
  vpnIp : UInt32
  sessionId : UInt32
  deriving DecidableEq

/-- The session that an entry records. -/
def ClientEntry.session (e : ClientEntry) : Session := ⟨e.realAddr, e.vpnIp, e.sessionId⟩

/-- The sessions of the active entries. -/
def liveSessions (table : ClientTable) : Set Session :=
  {x | ∃ i, (table.clients i).active = true ∧ (table.clients i).session = x}

theorem session_mem_liveSessions {table : ClientTable} {i : Fin maxClients}
    (h : (table.clients i).active = true) :
    (table.clients i).session ∈ liveSessions table := ⟨i, h, rfl⟩

/-- A peer is known to the search by address exactly when it has a session. -/
theorem findClientByAddr_eq_none_iff {table : ClientTable} {a : SockAddr} :
    findClientByAddr table a = none ↔ ∀ x ∈ liveSessions table, x.realAddr ≠ a := by
  rw [findClientByAddr_eq_none]
  constructor
  · rintro h x ⟨i, hi, rfl⟩
    exact h i hi
  · intro h i hi
    exact h _ (session_mem_liveSessions hi)

/-- The search by address returns the peer's only session. -/
theorem ClientTable.Wf.session_eq {table : ClientTable} (h : table.Wf) {a : SockAddr}
    {i : Fin maxClients} (hi : findClientByAddr table a = some i) {x : Session}
    (hx : x ∈ liveSessions table) (ha : x.realAddr = a) :
    x = (table.clients i).session := by
  obtain ⟨j, hj, rfl⟩ := hx
  obtain ⟨⟨hact, haddr⟩, -⟩ := findClientByAddr_eq_some.mp hi
  have hji : j = i := h.addr_inj j i hj hact (Eq.trans ha haddr.symm)
  rw [hji]

/-! ## The operations on the set -/

theorem liveSessions_initClientTable : liveSessions initClientTable = ∅ := by
  ext x
  simp [liveSessions, initClientTable]

/-- Refreshing an entry changes no session. -/
theorem liveSessions_updateClientActivity (table : ClientTable) (c : Fin maxClients)
    (now : ℤ) : liveSessions (updateClientActivity table c now) = liveSessions table := by
  have hsame : ∀ i, ((updateClientActivity table c now).clients i).active
      = (table.clients i).active ∧
      ((updateClientActivity table c now).clients i).session = (table.clients i).session := by
    intro i
    unfold updateClientActivity
    by_cases hic : i = c
    · subst hic
      simp [ClientEntry.session]
    · simp [hic]
  ext x
  simp only [liveSessions, Set.mem_ofPred_eq, (hsame _).1, (hsame _).2]

/-- Storing an active entry in a free slot inserts its session. -/
theorem liveSessions_storeClient {table : ClientTable} {index : Fin maxClients}
    {e : ClientEntry} (hfree : (table.clients index).active = false) (he : e.active = true) :
    liveSessions (storeClient table index e) = insert e.session (liveSessions table) := by
  ext x
  constructor
  · rintro ⟨i, hi, rfl⟩
    by_cases hii : i = index
    · subst hii
      left
      simp [storeClient]
    · right
      simp only [storeClient, Function.update_of_ne hii] at hi ⊢
      exact session_mem_liveSessions hi
  · rintro (rfl | ⟨i, hi, rfl⟩)
    · exact ⟨index, by simp [storeClient, he], by simp [storeClient]⟩
    · have hii : i ≠ index := by
        rintro rfl
        rw [hfree] at hi
        exact absurd hi (by simp)
      exact ⟨i, by simpa [storeClient, hii] using hi, by simp [storeClient, hii]⟩

/-- Dropping an entry takes out the sessions of its peer, of which there is one. -/
theorem liveSessions_deactivate {table : ClientTable} (h : table.Wf) {c : Fin maxClients}
    (hc : (table.clients c).active = true) :
    liveSessions (deactivate table c)
      = {x ∈ liveSessions table | x.realAddr ≠ (table.clients c).realAddr} := by
  ext x
  constructor
  · rintro ⟨i, hi, rfl⟩
    obtain ⟨hic, hi⟩ := deactivate_active.mp hi
    rw [deactivate_of_ne hic]
    exact ⟨session_mem_liveSessions hi, fun heq => hic (h.addr_inj i c hi hc heq)⟩
  · rintro ⟨⟨i, hi, rfl⟩, hne⟩
    have hic : i ≠ c := by
      rintro rfl
      exact hne rfl
    exact ⟨i, deactivate_active.mpr ⟨hic, hi⟩, by rw [deactivate_of_ne hic]⟩

/-- Removing the holder of an address leaves a part of the sessions. -/
theorem liveSessions_removeClient_subset {table : ClientTable} (h : table.Wf)
    (ip : UInt32) : liveSessions (removeClient table ip) ⊆ liveSessions table := by
  cases hfind : findClientByVpnIp table ip with
  | none => rw [removeClient_absent hfind]
  | some c =>
      rw [removeClient_found hfind,
        liveSessions_deactivate h (findClientByVpnIp_eq_some.mp hfind).1.1]
      exact fun x hx => hx.1

/-- Dropping an entry takes it out for good. -/
theorem session_notMem_deactivate {table : ClientTable} (h : table.Wf) {c : Fin maxClients}
    (hc : (table.clients c).active = true) :
    (table.clients c).session ∉ liveSessions (deactivate table c) := by
  rw [liveSessions_deactivate h hc]
  exact fun hx => hx.2 rfl

/-! ## Adding a client -/

/-- The VPN address that `add_client` gives to a peer: the one it has, or the next. -/
def offeredIp (table : ClientTable) (addr : SockAddr) : UInt32 :=
  match findClientByAddr table addr with
  | some existing => (table.clients existing).vpnIp
  | none => htonl (vpnIpHost table)

theorem offeredIp_existing {table : ClientTable} {addr : SockAddr} {i : Fin maxClients}
    (h : findClientByAddr table addr = some i) :
    offeredIp table addr = (table.clients i).vpnIp := by
  unfold offeredIp
  rw [h]

theorem offeredIp_new {table : ClientTable} {addr : SockAddr}
    (h : findClientByAddr table addr = none) :
    offeredIp table addr = htonl (vpnIpHost table) := by
  unfold offeredIp
  rw [h]

/-- With room in the table, `add_client` succeeds and returns the offered address. -/
theorem ClientTable.Wf.addClient_snd {table : ClientTable} (h : table.Wf)
    (hroom : table.count < maxClients) (addr : SockAddr) (now : ℤ) (rand : UInt32) :
    (addClient table addr now rand).2 = offeredIp table addr ∧ offeredIp table addr ≠ 0 := by
  cases hfind : findClientByAddr table addr with
  | some i =>
      rw [addClient_existing now rand hroom hfind, offeredIp_existing hfind]
      exact ⟨rfl, h.vpnIp_ne_zero (findClientByAddr_eq_some.mp hfind).1.1⟩
  | none =>
      obtain ⟨i, hi⟩ := h.findFreeSlot_isSome hroom
      rw [addClient_new now rand hroom hfind hi, offeredIp_new hfind]
      exact ⟨rfl, h.htonl_vpnIpHost_ne_zero⟩

/-- `add_client` for a peer that has a session changes no session. -/
theorem liveSessions_addClient_existing {table : ClientTable} {addr : SockAddr}
    {i : Fin maxClients} (now : ℤ) (rand : UInt32) (hroom : table.count < maxClients)
    (hi : findClientByAddr table addr = some i) :
    liveSessions (addClient table addr now rand).1 = liveSessions table := by
  rw [addClient_existing now rand hroom hi]
  exact liveSessions_updateClientActivity table i now

/-- `add_client` for an unknown peer inserts one session. -/
theorem liveSessions_addClient_new {table : ClientTable} (h : table.Wf) {addr : SockAddr}
    (now : ℤ) (rand : UInt32) (hroom : table.count < maxClients)
    (hnone : findClientByAddr table addr = none) :
    liveSessions (addClient table addr now rand).1
      = insert (newEntry table addr now rand).session (liveSessions table) := by
  obtain ⟨i, hi⟩ := h.findFreeSlot_isSome hroom
  rw [addClient_new now rand hroom hnone hi]
  exact liveSessions_storeClient (findFreeSlot_eq_some.mp hi).1 rfl

/-- After `add_client` the peer has a session under the offered address, and the other
sessions are as before. -/
theorem liveSessions_addClient {table : ClientTable} (h : table.Wf)
    (hroom : table.count < maxClients) (addr : SockAddr) (now : ℤ) (rand : UInt32) :
    ∃ x₀ : Session, x₀.realAddr = addr ∧ x₀.vpnIp = offeredIp table addr ∧
      liveSessions (addClient table addr now rand).1 = insert x₀ (liveSessions table) := by
  cases hfind : findClientByAddr table addr with
  | some i =>
      obtain ⟨⟨hact, haddr⟩, -⟩ := findClientByAddr_eq_some.mp hfind
      refine ⟨(table.clients i).session, haddr, (offeredIp_existing hfind).symm, ?_⟩
      rw [liveSessions_addClient_existing now rand hroom hfind,
        Set.insert_eq_of_mem (session_mem_liveSessions hact)]
  | none =>
      refine ⟨(newEntry table addr now rand).session, rfl, (offeredIp_new hfind).symm, ?_⟩
      exact liveSessions_addClient_new h now rand hroom hfind

/-- The session of a known peer has the offered address. -/
theorem vpnIp_eq_offeredIp {table : ClientTable} (h : table.Wf) {addr : SockAddr}
    {x : Session} (hx : x ∈ liveSessions table) (haddr : x.realAddr = addr) :
    x.vpnIp = offeredIp table addr := by
  cases hfind : findClientByAddr table addr with
  | some i =>
      rw [offeredIp_existing hfind, h.session_eq hfind hx haddr]
      rfl
  | none => exact absurd haddr (findClientByAddr_eq_none_iff.mp hfind x hx)

/-! ## Undoing a connect -/

/-- Some active entry in front of the first free slot holds the address. -/
def Shadowed (table : ClientTable) (ip : UInt32) : Prop :=
  ∃ i, findFreeSlot table = some i ∧
    ∃ j, j < i ∧ (table.clients j).active = true ∧ (table.clients j).vpnIp = ip

instance (table : ClientTable) (ip : UInt32) : Decidable (Shadowed table ip) :=
  inferInstanceAs (Decidable (∃ i, findFreeSlot table = some i ∧
    ∃ j, j < i ∧ (table.clients j).active = true ∧ (table.clients j).vpnIp = ip))

/-- `remove_client` right after `add_client` for a peer with a session removes a session:
the peer's own, or that of another holder of the same address. -/
theorem liveSessions_rollback_existing {table : ClientTable} (h : table.Wf)
    {addr : SockAddr} {i : Fin maxClients} (now : ℤ) (rand : UInt32)
    (hroom : table.count < maxClients) (hi : findClientByAddr table addr = some i) :
    liveSessions (removeClient (addClient table addr now rand).1 (offeredIp table addr))
        ⊆ liveSessions table ∧
      ∃ x ∈ liveSessions table, x ∉
        liveSessions (removeClient (addClient table addr now rand).1 (offeredIp table addr)) := by
  have hwf := addClient_wf h addr now rand
  have hlive := liveSessions_addClient_existing now rand hroom hi
  refine ⟨?_, ?_⟩
  · rw [← hlive]
    exact liveSessions_removeClient_subset hwf _
  · -- The peer's entry holds the address, so the search for a holder succeeds.
    have hact := (findClientByAddr_eq_some.mp hi).1.1
    have hsame := updateClientActivity_same table i now i
    rw [addClient_existing now rand hroom hi] at hwf hlive ⊢
    rw [offeredIp_existing hi]
    cases hfind : findClientByVpnIp (updateClientActivity table i now)
        (table.clients i).vpnIp with
    | none =>
        have hnot := findClientByVpnIp_eq_none.mp hfind i (hsame.1.trans hact)
        exact absurd hsame.2.2 hnot
    | some c =>
        have hc := (findClientByVpnIp_eq_some.mp hfind).1.1
        rw [removeClient_found hfind]
        refine ⟨((updateClientActivity table i now).clients c).session, ?_,
          session_notMem_deactivate hwf hc⟩
        rw [← hlive]
        exact session_mem_liveSessions hc

/-- When nobody in front of the new entry holds its address, `remove_client` finds the new
entry, and `add_client` is undone. -/
theorem liveSessions_rollback_fresh {table : ClientTable} (h : table.Wf) {addr : SockAddr}
    (now : ℤ) (rand : UInt32) (hroom : table.count < maxClients)
    (hnone : findClientByAddr table addr = none)
    (hclear : ¬ Shadowed table (offeredIp table addr)) :
    liveSessions (removeClient (addClient table addr now rand).1 (offeredIp table addr))
      = liveSessions table := by
  obtain ⟨i, hi⟩ := h.findFreeSlot_isSome hroom
  have hfree := (findFreeSlot_eq_some.mp hi).1
  have hwf := addClient_wf h addr now rand
  have hlive := liveSessions_addClient_new h now rand hroom hnone
  rw [addClient_new now rand hroom hnone hi] at hwf hlive ⊢
  have hself : (storeClient table i (newEntry table addr now rand)).clients i
      = newEntry table addr now rand := by simp [storeClient]
  -- The new entry is the first holder of its address, so the search stops at it.
  have hfind : findClientByVpnIp (storeClient table i (newEntry table addr now rand))
      (offeredIp table addr) = some i := by
    rw [findClientByVpnIp_eq_some, hself, offeredIp_new hnone]
    refine ⟨⟨rfl, rfl⟩, fun j hj hjact heq => hclear ⟨i, hi, j, hj, ?_⟩⟩
    have hji : j ≠ i := hj.ne
    simp only [storeClient, Function.update_of_ne hji] at hjact heq
    rw [offeredIp_new hnone]
    exact ⟨hjact, heq⟩
  rw [removeClient_found hfind, liveSessions_deactivate hwf (by rw [hself]; rfl), hlive, hself]
  ext x
  have hunknown := findClientByAddr_eq_none_iff.mp hnone
  constructor
  · rintro ⟨rfl | hx, hne⟩
    · exact absurd rfl hne
    · exact hx
  · intro hx
    exact ⟨Or.inr hx, hunknown x hx⟩

/-- When an entry in front of the new one holds the same address, `remove_client` finds
that entry: its session goes and the refused peer's stays. -/
theorem liveSessions_rollback_shadowed {table : ClientTable} (h : table.Wf)
    {addr : SockAddr} (now : ℤ) (rand : UInt32) (hroom : table.count < maxClients)
    (hnone : findClientByAddr table addr = none)
    (hshadow : Shadowed table (offeredIp table addr)) :
    ∃ y ∈ liveSessions table, y.vpnIp = offeredIp table addr ∧
      liveSessions (removeClient (addClient table addr now rand).1 (offeredIp table addr))
        = insert (newEntry table addr now rand).session
          {x ∈ liveSessions table | x.realAddr ≠ y.realAddr} := by
  obtain ⟨i, hi, j, hji, hjact, hjip⟩ := hshadow
  have hfree := (findFreeSlot_eq_some.mp hi).1
  have hwf := addClient_wf h addr now rand
  have hlive := liveSessions_addClient_new h now rand hroom hnone
  have hunknown := findClientByAddr_eq_none_iff.mp hnone
  rw [addClient_new now rand hroom hnone hi] at hwf hlive ⊢
  have hother : ∀ k, k ≠ i →
      (storeClient table i (newEntry table addr now rand)).clients k = table.clients k := by
    intro k hk
    simp [storeClient, hk]
  cases hfind : findClientByVpnIp (storeClient table i (newEntry table addr now rand))
      (offeredIp table addr) with
  | none =>
      have hnot := findClientByVpnIp_eq_none.mp hfind j
      rw [hother j hji.ne] at hnot
      exact absurd hjip (hnot hjact)
  | some c =>
      obtain ⟨⟨hcact, hcip⟩, hfirst⟩ := findClientByVpnIp_eq_some.mp hfind
      -- The first holder is not behind `j`, so it is an old entry.
      have hci : c ≠ i := by
        rintro rfl
        have hnot := hfirst j hji
        rw [hother j hji.ne] at hnot
        exact hnot hjact hjip
      rw [removeClient_found hfind, liveSessions_deactivate hwf hcact, hlive]
      rw [hother c hci] at hcact hcip ⊢
      refine ⟨(table.clients c).session, session_mem_liveSessions hcact, hcip, ?_⟩
      -- The refused peer is another than the one that is dropped, so its session stays.
      have hne : addr ≠ (table.clients c).realAddr :=
        fun heq => hunknown _ (session_mem_liveSessions hcact) heq.symm
      ext x
      constructor
      · rintro ⟨rfl | hx, hxne⟩
        · exact Or.inl rfl
        · exact Or.inr ⟨hx, hxne⟩
      · rintro (rfl | ⟨hx, hxne⟩)
        · exact ⟨Or.inl rfl, hne⟩
        · exact ⟨Or.inr hx, hxne⟩

/-! ## The sweep -/

/-- The sweep adds no session. -/
theorem liveSessions_checkClientTimeouts_subset (table : ClientTable) (now : ℤ) :
    liveSessions (checkClientTimeouts table now) ⊆ liveSessions table := by
  rintro x ⟨i, hi, rfl⟩
  rw [clients_checkClientTimeouts] at hi ⊢
  unfold sweepEntry at hi ⊢
  split_ifs at hi ⊢ with hsweep
  exact session_mem_liveSessions hi

/-! ## One call -/

/-- What can come of a call, for the sessions. -/
inductive SessionsStepped (table : ClientTable) : TableOp → ClientTable → Prop
  | refused {addr : SockAddr} {now : ℤ} {rand : UInt32} (hfull : table.count = maxClients) :
      SessionsStepped table (.addClient addr now rand) table
  | added {addr : SockAddr} {now : ℤ} {rand : UInt32} {table' : ClientTable} {x : Session}
      (hroom : table.count < maxClients) (hip : x.vpnIp = offeredIp table addr)
      (hlive : liveSessions table' = insert x (liveSessions table)) :
      SessionsStepped table (.addClient addr now rand) table'
  | dropped {op : TableOp} {table' : ClientTable}
      (hop : ∀ addr now rand, op ≠ .addClient addr now rand)
      (hlive : liveSessions table' ⊆ liveSessions table) : SessionsStepped table op table'

/-- **Every call has one of the outcomes.** -/
theorem applyOp_sessions {table : ClientTable} (h : table.Wf) (op : TableOp) :
    SessionsStepped table op (applyOp table op) := by
  cases op with
  | addClient addr now rand =>
      by_cases hfull : table.count ≥ maxClients
      · rw [applyOp_addClient, addClient_full addr now rand hfull]
        exact .refused (le_antisymm h.count_le hfull)
      · have hroom : table.count < maxClients := not_le.mp hfull
        obtain ⟨x, -, hip, hlive⟩ := liveSessions_addClient h hroom addr now rand
        exact .added hroom hip hlive
  | removeClient ip => exact .dropped (by simp) (liveSessions_removeClient_subset h ip)
  | updateClientActivity c now =>
      exact .dropped (by simp) (liveSessions_updateClientActivity table c now).le
  | checkClientTimeouts now =>
      exact .dropped (by simp) (liveSessions_checkClientTimeouts_subset table now)

end Vpn
