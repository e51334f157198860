/-
# The client table as a map from peers

A peer has at most one active entry, so the client table is a partial map from peer addresses to
entries: `peerEntry`.  In these terms every operation of `client_manager.c` writes one peer's
entry, and the sweep filters all of them.

`remove_client` is told a VPN address.  It writes the peer it is meant for only if no other entry
holds that address; this is where `VpnIpsDistinct` comes in.
-/
import CloudVpn.AddressUniqueness
import CloudVpn.LiveSessions

open Memory Slots Runs

namespace Vpn

/-- The entry of a peer. -/
def peerEntry (table : ClientTable) (peer : SockAddr) : Option ClientEntry :=
  (findClientByAddr table peer).map table.clients

variable {table : ClientTable} {peer addr : SockAddr} {e : ClientEntry}

theorem ClientTable.Wf.peerEntry_eq_some (h : table.Wf) :
    peerEntry table peer = some e ↔
      ∃ i, (table.clients i).active = true ∧ (table.clients i).realAddr = peer ∧
        table.clients i = e := by
  unfold peerEntry
  rw [Option.map_eq_some_iff]
  constructor
  · rintro ⟨i, hi, rfl⟩
    obtain ⟨⟨hact, haddr⟩, -⟩ := findClientByAddr_eq_some.mp hi
    exact ⟨i, hact, haddr, rfl⟩
  · rintro ⟨i, hact, rfl, rfl⟩
    exact ⟨i, h.findClientByAddr_eq hact, rfl⟩

theorem ClientTable.Wf.peerEntry_realAddr (h : table.Wf) {i : Fin maxClients}
    (hact : (table.clients i).active = true) :
    peerEntry table (table.clients i).realAddr = some (table.clients i) :=
  h.peerEntry_eq_some.mpr ⟨i, hact, rfl, rfl⟩

theorem peerEntry_of_find {i : Fin maxClients} (hi : findClientByAddr table peer = some i) :
    peerEntry table peer = some (table.clients i) := by
  unfold peerEntry
  rw [hi]
  rfl

theorem peerEntry_of_unknown (hnone : findClientByAddr table peer = none) :
    peerEntry table peer = none := by
  unfold peerEntry
  rw [hnone]
  rfl

/-- The active entries are of different peers. -/
theorem ClientTable.Wf.peers_nodup (h : table.Wf) :
    ((activeClients table).map ClientEntry.realAddr).Nodup := by
  unfold activeClients entries
  rw [List.map_filterMap]
  refine (List.nodup_finRange maxClients).filterMap ?_
  intro i j peer hi hj
  obtain ⟨ei, hei, rfl⟩ := Option.map_eq_some_iff.mp hi
  obtain ⟨ej, hej, haddr⟩ := Option.map_eq_some_iff.mp hj
  obtain ⟨hacti, rfl⟩ := activeEntry_eq_some.mp hei
  obtain ⟨hactj, rfl⟩ := activeEntry_eq_some.mp hej
  exact h.addr_inj i j hacti hactj haddr.symm

/-- Writing a slot does not change the entry of a peer that the slot shows neither before nor
after. -/
theorem peerEntry_eq_of_ne {table' : ClientTable} (h : table.Wf) (h' : table'.Wf)
    {c : Fin maxClients} (hother : ∀ i, i ≠ c → table'.clients i = table.clients i)
    (hold : (table.clients c).active = true → (table.clients c).realAddr ≠ peer)
    (hnew : (table'.clients c).active = true → (table'.clients c).realAddr ≠ peer) :
    peerEntry table' peer = peerEntry table peer := by
  apply Option.ext
  intro e
  rw [h.peerEntry_eq_some, h'.peerEntry_eq_some]
  apply exists_congr
  intro i
  by_cases hi : i = c
  · rw [hi]
    exact ⟨fun hs => absurd hs.2.1 (hnew hs.1), fun hs => absurd hs.2.1 (hold hs.1)⟩
  · rw [hother i hi]

/-! ## The operations -/

theorem peerEntry_updateClientActivity (h : table.Wf) {c : Fin maxClients}
    (hc : (table.clients c).active = true) (now : ℤ) :
    peerEntry (updateClientActivity table c now)
      = Function.update (peerEntry table) (table.clients c).realAddr
          (some { table.clients c with lastSeen := now }) := by
  have hself : (updateClientActivity table c now).clients c
      = { table.clients c with lastSeen := now } := by simp [updateClientActivity]
  have h' := updateClientActivity_wf h c now
  funext peer
  by_cases hpeer : peer = (table.clients c).realAddr
  · rw [hpeer, Function.update_self, h'.peerEntry_eq_some]
    exact ⟨c, by rw [hself]; exact hc, by rw [hself], hself⟩
  · rw [Function.update_of_ne hpeer]
    refine peerEntry_eq_of_ne h h' (fun i hi => ?_) (fun _ => Ne.symm hpeer) ?_
    · simp [updateClientActivity, hi]
    · rw [hself]
      exact fun _ => Ne.symm hpeer

theorem peerEntry_storeClient (h : table.Wf) {c : Fin maxClients} (now : ℤ) (rand : UInt32)
    (hnone : findClientByAddr table addr = none) (hfree : (table.clients c).active = false) :
    peerEntry (storeClient table c (newEntry table addr now rand))
      = Function.update (peerEntry table) addr (some (newEntry table addr now rand)) := by
  have hself := storeClient_self table c (newEntry table addr now rand)
  have h' := storeClient_wf h now rand hnone hfree
  funext peer
  by_cases hpeer : peer = addr
  · rw [hpeer, Function.update_self, h'.peerEntry_eq_some]
    exact ⟨c, by rw [hself]; rfl, by rw [hself]; rfl, hself⟩
  · rw [Function.update_of_ne hpeer]
    refine peerEntry_eq_of_ne h h' (fun i hi => storeClient_of_ne table _ hi) ?_ ?_
    · rw [hfree]
      exact fun hact => absurd hact (by simp)
    · rw [hself]
      exact fun _ => Ne.symm hpeer

theorem peerEntry_deactivate (h : table.Wf) {c : Fin maxClients}
    (hc : (table.clients c).active = true) :
    peerEntry (deactivate table c)
      = Function.update (peerEntry table) (table.clients c).realAddr none := by
  have h' := deactivate_wf h hc
  funext peer
  by_cases hpeer : peer = (table.clients c).realAddr
  · -- Another active entry of the peer would be the same entry.
    rw [hpeer, Function.update_self, Option.eq_none_iff_forall_ne_some]
    intro e he
    obtain ⟨i, hact, haddr, -⟩ := h'.peerEntry_eq_some.mp he
    obtain ⟨hic, hact⟩ := deactivate_active.mp hact
    rw [deactivate_of_ne hic] at haddr
    exact hic (h.addr_inj i c hact hc haddr)
  · rw [Function.update_of_ne hpeer]
    exact peerEntry_eq_of_ne h h' (fun i hi => deactivate_of_ne hi) (fun _ => Ne.symm hpeer)
      (fun hact => absurd rfl (deactivate_active.mp hact).1)

theorem peerEntry_checkClientTimeouts (h : table.Wf) (now : ℤ) (peer : SockAddr) :
    peerEntry (checkClientTimeouts table now) peer
      = (peerEntry table peer).filter fun e => now - e.lastSeen ≤ 300 := by
  apply Option.ext
  intro e
  rw [(checkClientTimeouts_wf h now).peerEntry_eq_some, Option.filter_eq_some_iff,
    h.peerEntry_eq_some]
  simp only [clients_checkClientTimeouts, decide_eq_true_eq]
  constructor
  · rintro ⟨i, hact, haddr, rfl⟩
    have hsame := sweepEntry_eq_self hact
    obtain ⟨hold, hyoung⟩ := sweepEntry_active.mp hact
    rw [hsame] at haddr ⊢
    exact ⟨⟨i, hold, haddr, rfl⟩, hyoung⟩
  · rintro ⟨⟨i, hact, haddr, rfl⟩, hyoung⟩
    have hact' := sweepEntry_active.mpr ⟨hact, hyoung⟩
    refine ⟨i, hact', ?_, sweepEntry_eq_self hact'⟩
    rw [sweepEntry_eq_self hact']
    exact haddr

/-- `add_client` with room writes the peer's entry: its address and the time. -/
theorem peerEntry_addClient (h : table.Wf) (hroom : table.count < maxClients) (addr : SockAddr)
    (now : ℤ) (rand : UInt32) :
    ∃ e : ClientEntry, e.vpnIp = offeredIp table addr ∧ e.lastSeen = now ∧
      peerEntry (addClient table addr now rand).1
        = Function.update (peerEntry table) addr (some e) := by
  cases hfind : findClientByAddr table addr with
  | some i =>
      obtain ⟨⟨hact, haddr⟩, -⟩ := findClientByAddr_eq_some.mp hfind
      rw [addClient_existing now rand hroom hfind, offeredIp_existing hfind,
        peerEntry_updateClientActivity h hact, haddr]
      exact ⟨{ table.clients i with lastSeen := now }, rfl, rfl, rfl⟩
  | none =>
      obtain ⟨i, hi⟩ := h.findFreeSlot_isSome hroom
      rw [addClient_new now rand hroom hfind hi, offeredIp_new hfind,
        peerEntry_storeClient h now rand hfind (findFreeSlot_eq_some.mp hi).1]
      exact ⟨_, rfl, rfl, rfl⟩

/-- `remove_client` of an address that one peer holds drops this peer. -/
theorem peerEntry_removeClient (h : table.Wf) (hdistinct : VpnIpsDistinct table)
    (he : peerEntry table peer = some e) :
    peerEntry (removeClient table e.vpnIp) = Function.update (peerEntry table) peer none := by
  obtain ⟨i, hact, rfl, rfl⟩ := h.peerEntry_eq_some.mp he
  rw [removeClient_found (hdistinct.routed i hact), peerEntry_deactivate h hact]

/-- `remove_client` right after `add_client` drops the peer, if `add_client` has kept the
addresses distinct. -/
theorem peerEntry_rollback (h : table.Wf) (hroom : table.count < maxClients) (addr : SockAddr)
    (now : ℤ) (rand : UInt32) (hdistinct : VpnIpsDistinct (addClient table addr now rand).1) :
    peerEntry (removeClient (addClient table addr now rand).1 (offeredIp table addr))
      = Function.update (peerEntry table) addr none := by
  obtain ⟨e, hip, -, hadded⟩ := peerEntry_addClient h hroom addr now rand
  have he : peerEntry (addClient table addr now rand).1 addr = some e := by
    rw [hadded, Function.update_self]
  rw [← hip, peerEntry_removeClient (addClient_wf h addr now rand) hdistinct he, hadded,
    Function.update_idem]

end Vpn
