/-
# One key for every client

`Corresponds` compares the VPN addresses in the two tables as multisets: the active client
entries and the active key entries name the same addresses, equally often.  While it holds,
the key table has a free slot, because 254 clients do not fill 256 key slots.

The five paths that change either table are the cases of `corresponds_step_iff`.  A new
connect, its rollback and a DISCONNECT change both tables alike; a CONNECT_REQ from a
connected peer and a sweep that drops a client change only one of them.
-/
import CloudVpn.ServerTables

open Memory Slots Runs

namespace Vpn

variable {S : Sodium} {s : Tables}

/-! ## The addresses in the two tables -/

/-- The address of a client entry, if it is active. -/
def activeIp (e : ClientEntry) : Option UInt32 := if e.active then some e.vpnIp else none

/-- The address of a key entry, if it is active. -/
def activeKeyIp (e : KeyEntry) : Option UInt32 := if e.active then some e.vpnIp else none

/-- The addresses of the active client entries. -/
def clientIps (table : ClientTable) : List UInt32 := entries activeIp table.clients

/-- The addresses of the active key entries. -/
def keyIps (km : KeyManager) : List UInt32 := entries activeKeyIp km.keys

/-- The two tables name the same addresses, equally often, and the key table has room. -/
def Corresponds (s : Tables) : Prop :=
  (clientIps s.table).Perm (keyIps s.km) ∧ findFreeKey s.km ≠ none

/-- A key table with as many keys as a client table has clients is not full. -/
theorem findFreeKey_ne_none (h : (clientIps s.table).Perm (keyIps s.km)) :
    findFreeKey s.km ≠ none := by
  have hlen : (entries activeKeyIp s.km.keys).length < maxKeys := by
    have hle := length_entries_le activeIp s.table.clients
    have heq := h.length_eq
    unfold clientIps keyIps at heq
    rw [← heq]
    exact lt_of_le_of_lt hle (by decide)
  obtain ⟨i, hi⟩ := exists_none_of_length_lt hlen
  intro hnone
  have hact := findFreeKey_eq_none.mp hnone i
  unfold activeKeyIp at hi
  rw [if_pos hact] at hi
  exact absurd hi (by simp)

theorem corresponds_iff_perm : Corresponds s ↔ (clientIps s.table).Perm (keyIps s.km) :=
  ⟨fun h => h.1, fun h => ⟨h, findFreeKey_ne_none h⟩⟩

/-! ## How the operations change the addresses -/

theorem clientIps_updateClientActivity (table : ClientTable) (c : Fin maxClients)
    (now : ℤ) : clientIps (updateClientActivity table c now) = clientIps table :=
  entries_update_of_view_eq rfl

theorem clientIps_storeClient {table : ClientTable} {index : Fin maxClients}
    {e : ClientEntry} (hfree : (table.clients index).active = false) (he : e.active = true) :
    (clientIps (storeClient table index e)).Perm (e.vpnIp :: clientIps table) :=
  entries_update_perm_cons (by simp [activeIp, hfree]) (by simp [activeIp, he])

/-- `remove_client` takes one occurrence of its address out, if there is one. -/
theorem clientIps_removeClient {table : ClientTable} {i : Fin maxClients}
    (hi : (table.clients i).active = true) :
    (clientIps table).Perm ((table.clients i).vpnIp ::
      clientIps (removeClient table (table.clients i).vpnIp)) := by
  cases hfind : findClientByVpnIp table (table.clients i).vpnIp with
  | none => exact absurd rfl (findClientByVpnIp_eq_none.mp hfind i hi)
  | some c =>
      obtain ⟨⟨hact, hip⟩, -⟩ := findClientByVpnIp_eq_some.mp hfind
      rw [removeClient_found hfind]
      exact entries_perm_cons_update (by simp [activeIp, hact, hip]) rfl

theorem keyIps_storeKey {km : KeyManager} {i : Fin maxKeys}
    (hfree : (km.keys i).active = false) (ip : UInt32) (key : Key) :
    (keyIps (storeKey km i ip key)).Perm (ip :: keyIps km) :=
  entries_update_perm_cons (by simp [activeKeyIp, hfree]) (by simp [activeKeyIp])

/-- `remove_key` takes one occurrence of its address out, if there is one. -/
theorem keyIps_removeKey {km : KeyManager} {ip : UInt32} (h : ip ∈ keyIps km) :
    (keyIps km).Perm (ip :: keyIps (removeKey km ip)) := by
  obtain ⟨i, hi⟩ := mem_entries.mp h
  unfold removeKey
  cases hfind : findKey km ip with
  | none =>
      unfold activeKeyIp at hi
      split_ifs at hi with hact
      exact absurd (Option.some.inj hi) (findKey_eq_none.mp hfind i hact)
  | some j =>
      have hfound := (scan_eq_some_iff.mp hfind).1
      simp only [Bool.and_eq_true, beq_iff_eq] at hfound
      exact entries_perm_cons_update (by simp [activeKeyIp, hfound]) rfl

/-- `add_client` for an unknown peer adds the offered address. -/
theorem clientIps_addClient_new {table : ClientTable} (h : table.Wf) {addr : SockAddr}
    (now : ℤ) (rand : UInt32) (hroom : table.count < maxClients)
    (hnone : findClientByAddr table addr = none) :
    (clientIps (addClient table addr now rand).1).Perm
      (offeredIp table addr :: clientIps table) := by
  obtain ⟨i, hi⟩ := h.findFreeSlot_isSome hroom
  rw [addClient_new now rand hroom hnone hi, offeredIp_new hnone]
  exact clientIps_storeClient (findFreeSlot_eq_some.mp hi).1 rfl

/-- The peer that `add_client` was called for holds the offered address afterwards, so a
`remove_client` of that address takes one occurrence out. -/
theorem clientIps_rollback {table : ClientTable} (h : table.Wf) (addr : SockAddr)
    (now : ℤ) (rand : UInt32) (hroom : table.count < maxClients) :
    (clientIps (addClient table addr now rand).1).Perm
      (offeredIp table addr ::
        clientIps (removeClient (addClient table addr now rand).1 (offeredIp table addr))) := by
  have hholder : ∃ i, ((addClient table addr now rand).1.clients i).active = true ∧
      ((addClient table addr now rand).1.clients i).vpnIp = offeredIp table addr := by
    cases hfind : findClientByAddr table addr with
    | some i =>
        have hact := (findClientByAddr_eq_some.mp hfind).1.1
        have hsame := updateClientActivity_same table i now i
        rw [addClient_existing now rand hroom hfind, offeredIp_existing hfind]
        exact ⟨i, hsame.1.trans hact, hsame.2.2⟩
    | none =>
        obtain ⟨i, hi⟩ := h.findFreeSlot_isSome hroom
        rw [addClient_new now rand hroom hfind hi, offeredIp_new hfind]
        exact ⟨i, by simp [storeClient, newEntry], by simp [storeClient, newEntry]⟩
  obtain ⟨i, hact, hip⟩ := hholder
  rw [← hip]
  exact clientIps_removeClient hact

theorem clientIps_eq_map (table : ClientTable) :
    clientIps table = (activeClients table).map ClientEntry.vpnIp := by
  unfold clientIps activeClients entries
  rw [List.map_filterMap]
  apply List.filterMap_congr
  intro i _
  unfold activeIp activeEntry
  split_ifs <;> rfl

/-- A sweep that finds no expired entry changes no address. -/
theorem clientIps_sweep {table : ClientTable} {now : ℤ}
    (hnone : ∀ c ∈ activeClients table, expired now c = false) :
    clientIps (checkClientTimeouts table now) = clientIps table := by
  rw [clientIps_eq_map, clientIps_eq_map, activeClients_checkClientTimeouts,
    List.filter_eq_self.mpr (fun c hc => by rw [hnone c hc]; rfl)]

/-- A sweep that finds an expired entry leaves fewer addresses. -/
theorem length_clientIps_sweep {table : ClientTable} {now : ℤ} {c : ClientEntry}
    (hc : c ∈ activeClients table) (hexp : expired now c = true) :
    (clientIps (checkClientTimeouts table now)).length < (clientIps table).length := by
  rw [clientIps_eq_map, clientIps_eq_map, activeClients_checkClientTimeouts,
    List.length_map, List.length_map, List.length_filter_lt_length_iff_exists]
  exact ⟨c, hc, by simp [hexp]⟩

/-! ## Steps and runs -/

/-- The events that keep the tables in correspondence: no CONNECT_REQ from a connected
peer, unless the client table is full, and no sweep that finds an expired client. -/
def KeepsCorrespondence (s : Tables) : TablesEvent → Prop
  | .connect addr _ _ _ =>
      s.table.count < maxClients → findClientByAddr s.table addr = none
  | .sweep now => ∀ c ∈ activeClients s.table, expired now c = false
  | _ => True

instance (s : Tables) : ∀ e, Decidable (KeepsCorrespondence s e)
  | .connect _ _ _ _ => inferInstanceAs (Decidable (_ < _ → _ = none))
  | .sweep _ => inferInstanceAs (Decidable (∀ c ∈ activeClients s.table, _ = _))
  | .touch _ _ | .disconnect _ | .idle => .isTrue trivial

/-- An answered connect adds a key for the offered address. -/
theorem keyIps_addKey {km : KeyManager} (hfree : findFreeKey km ≠ none) (ip : UInt32)
    (key : Key) : (keyIps ((addKey km ip key).getD km)).Perm (ip :: keyIps km) := by
  obtain ⟨i, hi⟩ := Option.ne_none_iff_exists'.mp hfree
  rw [addKey_free hi]
  exact keyIps_storeKey (findFreeKey_eq_some.mp hi).1 ip key

/-- A CONNECT_REQ that finds room in the client table. -/
theorem corresponds_connect_iff (hwf : s.table.Wf) (hroom : s.table.count < maxClients)
    (h : Corresponds s) (addr : SockAddr) (pk : Key) (now : ℤ) (rand : UInt32) :
    Corresponds (tablesStep S s (.connect addr pk now rand)) ↔
      findClientByAddr s.table addr = none := by
  have hrollback := clientIps_rollback hwf addr now rand hroom
  rw [corresponds_iff_perm]
  cases hfind : findClientByAddr s.table addr with
  | none =>
      refine ⟨fun _ => rfl, fun _ => ?_⟩
      have hadded := clientIps_addClient_new hwf now rand hroom hfind
      cases hkey : sessionKeyOf S s.km.serverPrivateKey pk with
      | some key =>
          rw [tablesStep_connect_answered hwf hroom now rand hkey]
          have hkeys := keyIps_addKey h.2 (offeredIp s.table addr) key
          exact hadded.trans ((h.1.cons _).trans hkeys.symm)
      | none =>
          rw [tablesStep_connect_refused hwf hroom now rand hkey]
          exact (hrollback.symm.trans hadded).cons_inv.trans h.1
  | some i =>
      refine ⟨fun hperm => ?_, fun hnone => absurd hnone (by simp)⟩
      -- Only one of the tables changes, so they differ in length afterwards.
      have hsame : clientIps (addClient s.table addr now rand).1 = clientIps s.table := by
        rw [addClient_existing now rand hroom hfind]
        exact clientIps_updateClientActivity s.table i now
      have hbefore := h.1.length_eq
      have hafter := hperm.length_eq
      cases hkey : sessionKeyOf S s.km.serverPrivateKey pk with
      | some key =>
          rw [tablesStep_connect_answered hwf hroom now rand hkey] at hafter
          have hkeys := (keyIps_addKey h.2 (offeredIp s.table addr) key).length_eq
          simp only [hsame, List.length_cons] at hafter hkeys
          omega
      | none =>
          rw [tablesStep_connect_refused hwf hroom now rand hkey] at hafter
          have hless := hrollback.length_eq
          rw [hsame] at hless
          simp only [List.length_cons] at hafter hless
          omega

/-- **One event keeps the correspondence exactly when it meets `KeepsCorrespondence`.** -/
theorem corresponds_step_iff (hwf : s.table.Wf) (h : Corresponds s) (e : TablesEvent) :
    Corresponds (tablesStep S s e) ↔ KeepsCorrespondence s e := by
  cases e with
  | connect addr pk now rand =>
      by_cases hroom : s.table.count < maxClients
      · simp only [KeepsCorrespondence, hroom, forall_const]
        exact corresponds_connect_iff hwf hroom h addr pk now rand
      · rw [tablesStep_connect_full addr pk now rand (not_lt.mp hroom)]
        exact ⟨fun _ hlt => absurd hlt hroom, fun _ => h⟩
  | touch client now =>
      refine ⟨fun _ => trivial, fun _ => corresponds_iff_perm.mpr ?_⟩
      simp only [tablesStep, clientIps_updateClientActivity]
      exact h.1
  | disconnect addr =>
      refine ⟨fun _ => trivial, fun _ => ?_⟩
      cases hfind : findClientByAddr s.table addr with
      | none =>
          rw [tablesStep_disconnect_unknown hfind]
          exact h
      | some client =>
          rw [tablesStep_disconnect_known hfind, corresponds_iff_perm]
          -- Both tables lose one occurrence of the peer's address.
          have hclients := clientIps_removeClient (findClientByAddr_eq_some.mp hfind).1.1
          have hmem : (s.table.clients client).vpnIp ∈ keyIps s.km :=
            (hclients.symm.trans h.1).subset (by simp)
          have hkeys := keyIps_removeKey hmem
          exact (hclients.symm.trans (h.1.trans hkeys)).cons_inv
  | sweep now =>
      rw [corresponds_iff_perm]
      constructor
      · intro hperm c hc
        by_contra hexp
        -- An expired client goes and its key stays: the key table is longer now.
        have hless := length_clientIps_sweep hc (Bool.not_eq_false _ ▸ hexp)
        have hafter := hperm.length_eq
        have hbefore := h.1.length_eq
        simp only [tablesStep] at hafter
        omega
      · intro hnone
        simp only [tablesStep]
        rw [clientIps_sweep hnone]
        exact h.1
  | idle => exact ⟨fun _ => trivial, fun _ => h⟩

/-- **The tables correspond exactly on the runs of `KeepsCorrespondence` events**, when
every IPC call returns its reply. -/
theorem tables_correspond_iff (S : Sodium) (secret : Key) (events : List Event)
    (hipc : ∀ e ∈ events, e.env.delivery = .whole) :
    Throughout (monitoredStep S) (fun m => Corresponds (tablesOf m)) (initMonitored S secret)
        events ↔
      Along (monitoredStep S)
        (fun m e => KeepsCorrespondence (tablesOf m) (tablesEventOf S m.server e))
        (initMonitored S secret) events := by
  apply throughout_tables_iff secret (fun s e hwf h => corresponds_step_iff hwf h e) ?_ hipc
  rw [corresponds_iff_perm]
  have hclients : clientIps initClientTable = [] := by decide +kernel
  have hkeys : keyIps (initKeyManager S secret) = [] := by
    apply List.filterMap_eq_nil_iff.mpr
    intro i _
    rfl
  show (clientIps initClientTable).Perm (keyIps (initKeyManager S secret))
  rw [hclients, hkeys]

/-- Two peers connect and one leaves. -/
theorem tables_correspond_iff_twoPeers :
    Throughout (monitoredStep sampleSodium) (fun m => Corresponds (tablesOf m))
      (initMonitored sampleSodium zeroKey) twoPeers :=
  (tables_correspond_iff sampleSodium zeroKey twoPeers (by decide)).mpr (by decide +kernel)

/-- **A reconnect leaves a client with two keys.** -/
theorem reconnect_doubles_key :
    ¬ Throughout (monitoredStep sampleSodium) (fun m => Corresponds (tablesOf m))
      (initMonitored sampleSodium zeroKey)
      [sampleConnect ⟨1, 1⟩ 1, sampleConnect ⟨1, 1⟩ 1] := by
  intro h
  have hperm := h.last.1
  exact absurd hperm (by decide +kernel)

end Vpn
