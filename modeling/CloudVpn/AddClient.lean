/-
# The contract of `add_client`

`handle_udp_to_tun` takes the address that `add_client` returns and looks the peer up again
to fill in the session id, without checking that it is found.  `addClient_spec` is the
contract behind this: the two searches and the free-slot scan agree on one entry, and the
entries of the other peers stay as they are.

The capacity check comes in front of the search for the peer, so a full table also turns
away the peers that are in it (`reconnect_iff`).  The counter runs up to 10.8.0.255, the
broadcast address of the network (`clientIps_handedOut_iff`).
-/
import CloudVpn.ServerInvariant

open Memory Slots Runs

namespace Vpn

/-! ## The contract -/

/-- Some active entry has the peer address. -/
def KnownPeer (table : ClientTable) (addr : SockAddr) : Prop :=
  ∃ i, (table.clients i).active = true ∧ (table.clients i).realAddr = addr

/-- What an `add_client` that succeeds leaves behind. -/
structure AddClientPost (table : ClientTable) (addr : SockAddr) (table' : ClientTable)
    (vpnIp : UInt32) : Prop where
  /-- The peer is found, in an active entry with the address that is returned. -/
  found : ∃ i, findClientByAddr table' addr = some i ∧ (table'.clients i).active = true ∧
    (table'.clients i).realAddr = addr ∧ (table'.clients i).vpnIp = vpnIp
  /-- `count` grows by one for an unknown peer … -/
  count_new : table'.count = table.count + 1 ↔ ¬ KnownPeer table addr
  /-- … and stays for a known one … -/
  count_known : KnownPeer table addr → table'.count = table.count
  /-- … which is found in its old entry, under its address and its session id. -/
  known : ∀ i, (table.clients i).active = true → (table.clients i).realAddr = addr →
    findClientByAddr table' addr = some i ∧
      (table'.clients i).vpnIp = (table.clients i).vpnIp ∧
      (table'.clients i).sessionId = (table.clients i).sessionId
  /-- The active entries of the other peers are unchanged, and there are no others. -/
  others : ∀ i, (table.clients i).active = true → (table.clients i).realAddr ≠ addr →
    table'.clients i = table.clients i
  others_only : ∀ i, (table'.clients i).active = true → (table'.clients i).realAddr ≠ addr →
    (table.clients i).active = true

variable {table : ClientTable} {addr : SockAddr}

theorem findClientByAddr_eq_none_iff_unknown :
    findClientByAddr table addr = none ↔ ¬ KnownPeer table addr := by
  rw [findClientByAddr_eq_none]
  exact ⟨fun h ⟨i, hi, haddr⟩ => h i hi haddr, fun h i hi haddr => h ⟨i, hi, haddr⟩⟩

theorem knownPeer_of_find {i : Fin maxClients} (hi : findClientByAddr table addr = some i) :
    KnownPeer table addr := by
  obtain ⟨hfound, -⟩ := findClientByAddr_eq_some.mp hi
  exact ⟨i, hfound⟩

theorem updateClientActivity_of_ne {c i : Fin maxClients} (now : ℤ) (h : i ≠ c) :
    (updateClientActivity table c now).clients i = table.clients i := by
  simp [updateClientActivity, h]

theorem updateClientActivity_self (table : ClientTable) (c : Fin maxClients) (now : ℤ) :
    (updateClientActivity table c now).clients c
      = { table.clients c with lastSeen := now } := by
  simp [updateClientActivity]

/-- Refreshing the entry of a known peer meets the contract. -/
theorem updateClientActivity_post (hwf : table.Wf) {i : Fin maxClients} (now : ℤ)
    (hi : findClientByAddr table addr = some i) :
    AddClientPost table addr (updateClientActivity table i now) (table.clients i).vpnIp := by
  have hknown : KnownPeer table addr := knownPeer_of_find hi
  obtain ⟨⟨hact, haddr⟩, -⟩ := findClientByAddr_eq_some.mp hi
  have hself := updateClientActivity_self table i now
  have hfind : findClientByAddr (updateClientActivity table i now) addr = some i := by
    rw [findClientByAddr_updateClientActivity]
    exact hi
  have hcount : (updateClientActivity table i now).count = table.count := rfl
  refine ⟨⟨i, hfind, ?_⟩, ?_, fun _ => hcount, ?_, ?_, ?_⟩
  · rw [hself]
    exact ⟨hact, haddr, rfl⟩
  · rw [hcount]
    exact ⟨fun h => by omega, fun h => absurd hknown h⟩
  · intro j hj hjaddr
    have hji : j = i := hwf.addr_inj j i hj hact (hjaddr.trans haddr.symm)
    rw [hji, hself]
    exact ⟨hfind, rfl, rfl⟩
  · intro j _ hjaddr
    have hji : j ≠ i := by
      rintro rfl
      exact hjaddr haddr
    exact updateClientActivity_of_ne now hji
  · intro j hj _
    rw [(updateClientActivity_same table i now j).1] at hj
    exact hj

/-- So does storing the entry of an unknown one. -/
theorem storeClient_post (hwf : table.Wf) {i : Fin maxClients} (now : ℤ) (rand : UInt32)
    (hnone : findClientByAddr table addr = none) (hi : findFreeSlot table = some i) :
    AddClientPost table addr (storeClient table i (newEntry table addr now rand))
      (htonl (vpnIpHost table)) := by
  have hfree := (findFreeSlot_eq_some.mp hi).1
  have hunknown : ¬ KnownPeer table addr := findClientByAddr_eq_none_iff_unknown.mp hnone
  have hself := storeClient_self table i (newEntry table addr now rand)
  have hwf' := storeClient_wf hwf now rand hnone hfree
  have hactive : ((storeClient table i (newEntry table addr now rand)).clients i).active
      = true := by
    rw [hself]
    rfl
  have hfind := hwf'.findClientByAddr_eq hactive
  have hold : ∀ j, (table.clients j).active = true → j ≠ i := by
    rintro j hj rfl
    rw [hfree] at hj
    exact absurd hj (by simp)
  rw [hself] at hfind
  refine ⟨⟨i, hfind, hactive, ?_⟩, ⟨fun _ => hunknown, fun _ => rfl⟩,
    fun h => absurd h hunknown, fun j hj hjaddr => absurd ⟨j, hj, hjaddr⟩ hunknown,
    fun j hj _ => storeClient_of_ne table _ (hold j hj), fun j hj hjaddr => ?_⟩
  · rw [hself]
    exact ⟨rfl, rfl⟩
  · have hji : j ≠ i := by
      rintro rfl
      rw [hself] at hjaddr
      exact hjaddr rfl
    rw [storeClient_of_ne table _ hji] at hj
    exact hj

/-- With room in the table `add_client` meets its contract. -/
theorem ClientTable.Wf.addClient_post (hwf : table.Wf) (hroom : table.count < maxClients)
    (addr : SockAddr) (now : ℤ) (rand : UInt32) :
    AddClientPost table addr (addClient table addr now rand).1
      (addClient table addr now rand).2 := by
  have hout := addClient_outcome hwf addr now rand
  generalize addClient table addr now rand = r at hout
  cases hout with
  | full hfull => exact absurd hfull hroom.ne
  | known _ hi => exact updateClientActivity_post hwf now hi
  | new _ hnone hi => exact storeClient_post hwf now rand hnone hi

/-- `add_client` returns 0 exactly when the table is full. -/
theorem ClientTable.Wf.addClient_eq_zero_iff (hwf : table.Wf) (addr : SockAddr) (now : ℤ)
    (rand : UInt32) : (addClient table addr now rand).2 = 0 ↔ table.count = maxClients := by
  have hout := addClient_outcome hwf addr now rand
  generalize addClient table addr now rand = r at hout
  cases hout with
  | full hfull => exact ⟨fun _ => hfull, fun _ => rfl⟩
  | known hroom hi =>
      have hactive := (findClientByAddr_eq_some.mp hi).1.1
      exact ⟨fun h => absurd h (hwf.vpnIp_ne_zero hactive), fun h => absurd h hroom.ne⟩
  | new hroom _ _ =>
      exact ⟨fun h => absurd h hwf.htonl_vpnIpHost_ne_zero, fun h => absurd h hroom.ne⟩

/-- The response to a CONNECT_REQ takes the address and the session id from one entry. -/
theorem ClientTable.Wf.connectResp_from_entry {S : Sodium} {env : Env} {server : Server}
    (hwf : server.table.Wf) {addr : SockAddr} {buffer : Bytes} {action : Action}
    (h : action ∈ (handleConnectReq S env server addr buffer).2) :
    let table := (addClient server.table addr env.now env.rand).1
    ∃ i serverPublicKey, findClientByAddr table addr = some i ∧
      action = .udpSend addr (connectResponse
        (initVpnHeader .connectResp 41 (server.globalSequence + 1) env.timestampMs) 0
        (table.clients i).vpnIp (htonl (table.clients i).sessionId) serverPublicKey) := by
  by_cases hroom : server.table.count < maxClients
  · obtain ⟨i, hi, -, -, hip⟩ := (hwf.addClient_post hroom addr env.now env.rand).found
    rw [(hwf.addClient_snd hroom addr env.now env.rand).1] at hip
    rcases hhs : enclaveHandshake S env.nonce env.delivery server.conn
        (offeredIp server.table addr) (authTokenAt buffer) with ⟨conn, _ | resp⟩
    · rw [handleConnectReq_refused hwf hroom hhs] at h
      exact absurd h List.not_mem_nil
    · rw [handleConnectReq_answered hwf hroom hhs hi] at h
      refine ⟨i, (handshakeKeys env.respData resp).1, hi, ?_⟩
      rw [hip]
      exact List.mem_singleton.mp h
  · rw [handleConnectReq_full addr buffer (not_lt.mp hroom)] at h
    exact absurd h List.not_mem_nil

/-- **The contract of `add_client`** on every reachable table: it fails exactly when the table
is full, and then changes nothing; otherwise it meets `AddClientPost`.  So the server finds
the peer when it fills in its response, and takes both fields from the entry it finds. -/
theorem addClient_spec (ops : List TableOp) (addr : SockAddr) (now : ℤ) (rand : UInt32) :
    let table := run applyOp initClientTable ops
    let result := addClient table addr now rand
    (result.2 = 0 ↔ table.count = 254) ∧
    (table.count = 254 → result.1 = table) ∧
    (table.count ≠ 254 → AddClientPost table addr result.1 result.2) ∧
    ∀ (S : Sodium) (env : Env) (conn : Connection) (seq : UInt32) (buffer : Bytes),
      ∀ action ∈ (handleConnectReq S env ⟨table, conn, seq⟩ addr buffer).2,
        ∃ i serverPublicKey,
          findClientByAddr (addClient table addr env.now env.rand).1 addr = some i ∧
          action = .udpSend addr (connectResponse
            (initVpnHeader .connectResp 41 (seq + 1) env.timestampMs) 0
            ((addClient table addr env.now env.rand).1.clients i).vpnIp
            (htonl ((addClient table addr env.now env.rand).1.clients i).sessionId)
            serverPublicKey) := by
  intro table result
  have hwf : table.Wf := run_wf ops
  refine ⟨hwf.addClient_eq_zero_iff addr now rand, fun hfull => ?_, fun hne => ?_, ?_⟩
  · have hsame : result = (table, 0) := addClient_full addr now rand (ge_of_eq hfull)
    rw [hsame]
  · exact hwf.addClient_post (lt_of_le_of_ne hwf.count_le hne) addr now rand
  · intro S env conn seq buffer action haction
    have hserver : (Server.mk table conn seq).table.Wf := hwf
    exact hserver.connectResp_from_entry haction

/-! ## Connecting again -/

/-- A CONNECT_REQ from the peer. -/
def ConnectReqFrom (addr : SockAddr) : Event → Prop
  | .udp src datagram _ => src = addr ∧ vpnHeaderSize ≤ datagram.length ∧
      byteAt datagram 0 = PacketType.connectReq.toByte
  | _ => False

/-- The handshake that a CONNECT_REQ starts succeeds. -/
def HandshakeSucceeds (S : Sodium) (server : Server) : Event → Prop
  | .udp src datagram env => (enclaveHandshake S env.nonce env.delivery server.conn
      (offeredIp server.table src) (authTokenAt (recvInto env.buffer datagram))).2 ≠ none
  | _ => True

theorem updateClientActivity_twice (table : ClientTable) (c : Fin maxClients) (t₁ t₂ : ℤ) :
    updateClientActivity (updateClientActivity table c t₁) c t₂
      = updateClientActivity table c t₂ := by
  unfold updateClientActivity
  simp

theorem updateClientActivity_lastSeen (table : ClientTable) (c : Fin maxClients) :
    updateClientActivity table c (table.clients c).lastSeen = table := by
  unfold updateClientActivity
  simp

/-- A known peer is refreshed, as long as the table has room. -/
theorem ClientTable.Wf.addClient_known (hwf : table.Wf) {i : Fin maxClients}
    (hi : (table.clients i).active = true) (hroom : table.count < maxClients) (now : ℤ)
    (rand : UInt32) :
    addClient table (table.clients i).realAddr now rand
      = (updateClientActivity table i now, (table.clients i).vpnIp) :=
  addClient_existing now rand hroom (hwf.findClientByAddr_eq hi)

section
variable {S : Sodium} {server : Server} {i : Fin maxClients}

/-- A CONNECT_REQ of a known peer whose handshake succeeds refreshes its entry. -/
theorem serverStep_reconnect (hwf : server.table.Wf)
    (hi : (server.table.clients i).active = true) (hroom : server.table.count < maxClients)
    {e : Event} (he : ConnectReqFrom (server.table.clients i).realAddr e)
    (hhs : HandshakeSucceeds S server e) :
    (serverStep S server e).table = updateClientActivity server.table i e.env.now := by
  cases e with
  | tun packet env => exact absurd he id
  | sweep env => exact absurd he id
  | udp src datagram env =>
      obtain ⟨rfl, hlen, htype⟩ := he
      have hadd := hwf.addClient_known hi hroom env.now env.rand
      obtain ⟨client, hclient⟩ := addClient_isSome hwf hroom (server.table.clients i).realAddr
        env.now env.rand
      obtain ⟨resp, hresp⟩ := Option.ne_none_iff_exists'.mp hhs
      have hstep : serverStep S server (.udp (server.table.clients i).realAddr datagram env)
          = (handleConnectReq S env server (server.table.clients i).realAddr
              (recvInto env.buffer datagram)).1 :=
        congrArg Prod.fst (handleUdpToTun_connectReq hlen htype)
      rw [hstep, handleConnectReq_answered hwf hroom (Prod.ext rfl hresp) hclient, hadd]
      rfl

/-- Any number of them leaves the entry as the last one does. -/
theorem run_reconnect (hwf : server.table.Wf) (hi : (server.table.clients i).active = true)
    (hroom : server.table.count < maxClients) {events : List Event}
    (hevents : ∀ e ∈ events, ConnectReqFrom (server.table.clients i).realAddr e)
    (hhs : Along (serverStep S) (HandshakeSucceeds S) server events) :
    (run (serverStep S) server events).table
      = updateClientActivity server.table i
        ((events.getLast?.map fun e => e.env.now).getD (server.table.clients i).lastSeen) := by
  induction events generalizing server with
  | nil => exact (updateClientActivity_lastSeen server.table i).symm
  | cons e events ih =>
      obtain ⟨he, hevents⟩ := List.forall_mem_cons.mp hevents
      have hstep := serverStep_reconnect hwf hi hroom he hhs.1
      obtain ⟨hactive, haddr, -⟩ := updateClientActivity_same server.table i e.env.now i
      -- The request leaves the peer known and the table as full as it was.
      have hrest := ih (serverStep_wf e hwf) (by rw [hstep, hactive]; exact hi)
        (by rw [hstep]; exact hroom) (by rw [hstep, haddr]; exact hevents) hhs.2
      rw [run_cons, hrest, hstep, updateClientActivity_twice, updateClientActivity_self]
      cases events with
      | nil => rfl
      | cons f fs => rw [List.getLast?_cons_cons]; rfl

end

/-- **When a connected client can connect again**: `add_client` returns the address of its
entry and changes nothing but `last_seen` exactly if the table is not full.  Then CONNECT_REQs
that are repeated, with handshakes that succeed, leave the table as the last one of them
alone. -/
theorem reconnect_iff (ops : List TableOp) {i : Fin maxClients}
    (hi : ((run applyOp initClientTable ops).clients i).active = true) :
    let table := run applyOp initClientTable ops
    (∀ (now : ℤ) (rand : UInt32),
      addClient table (table.clients i).realAddr now rand
        = (updateClientActivity table i now, (table.clients i).vpnIp) ↔ table.count ≠ 254) ∧
    (table.count ≠ 254 →
      ∀ (S : Sodium) (conn : Connection) (seq : UInt32) (events : List Event) (e : Event),
        (∀ f ∈ events ++ [e], ConnectReqFrom (table.clients i).realAddr f) →
        Along (serverStep S) (HandshakeSucceeds S) ⟨table, conn, seq⟩ (events ++ [e]) →
        (run (serverStep S) ⟨table, conn, seq⟩ (events ++ [e])).table
          = updateClientActivity table i e.env.now) := by
  intro table
  have hwf : table.Wf := run_wf ops
  refine ⟨fun now rand => ⟨fun h hfull => ?_, fun hne => ?_⟩, ?_⟩
  · -- A full table returns 0, which is the address of no entry.
    rw [addClient_full _ now rand (ge_of_eq hfull)] at h
    exact hwf.vpnIp_ne_zero hi (congrArg Prod.snd h).symm
  · exact hwf.addClient_known hi (lt_of_le_of_ne hwf.count_le hne) now rand
  · intro hne S conn seq events e hevents hhs
    have hserver : (Server.mk table conn seq).table.Wf := hwf
    have hrun := run_reconnect hserver hi (lt_of_le_of_ne hwf.count_le hne) hevents hhs
    rw [List.getLast?_concat] at hrun
    exact hrun

/-! ## A table that fills up -/

/-- The peers of the sample. -/
def samplePeer (k : ℕ) : SockAddr := ⟨UInt32.ofNat k, 1⟩

/-- The first `n` of them connect one after the other. -/
def connectPeers (n : ℕ) : List TableOp :=
  (List.range n).map fun k => .addClient (samplePeer k) 0 0

/-- The first `n` slots are taken by the first `n` peers. -/
structure Filled (n : ℕ) (table : ClientTable) : Prop where
  active : ∀ i : Fin maxClients, (table.clients i).active = true ↔ i.val < n
  realAddr : ∀ i : Fin maxClients, i.val < n → (table.clients i).realAddr = samplePeer i
  count : table.count = n
  nextIp : table.nextIp.toNat = 0x0a080002 + n

theorem samplePeer_inj {j k : ℕ} (hj : j < 2 ^ 32) (hk : k < 2 ^ 32)
    (h : samplePeer j = samplePeer k) : j = k := by
  have hval := congrArg (fun a : SockAddr => a.sinAddr.toNat) h
  simp only [samplePeer, UInt32.toNat_ofNat'] at hval
  rwa [Nat.mod_eq_of_lt hj, Nat.mod_eq_of_lt hk] at hval

theorem Filled.vpnIpHost_eq {n : ℕ} (h : Filled n table) (hn : n < 254) :
    vpnIpHost table = table.nextIp := by
  unfold vpnIpHost
  rw [if_neg]
  rw [gt_iff_lt, UInt32.lt_iff_toNat_lt, h.nextIp]
  simp only [UInt32.reduceToNat]
  omega

/-- The next peer gets the next slot and the next address. -/
theorem Filled.addClient_eq {n : ℕ} (h : Filled n table) (hn : n < 254) :
    addClient table (samplePeer n) 0 0
      = (storeClient table ⟨n, hn⟩ (newEntry table (samplePeer n) 0 0),
        htonl table.nextIp) := by
  have hroom : table.count < maxClients := by
    rw [h.count]
    exact_mod_cast hn
  have hunknown : findClientByAddr table (samplePeer n) = none := by
    rw [findClientByAddr_eq_none]
    intro i hi heq
    have hlt := (h.active i).mp hi
    rw [h.realAddr i hlt] at heq
    have hin := samplePeer_inj (by omega) (by omega) heq
    omega
  have hfree : findFreeSlot table = some ⟨n, hn⟩ := by
    rw [findFreeSlot_eq_some]
    refine ⟨?_, fun j hj => (h.active j).mpr hj⟩
    rw [← Bool.not_eq_true, h.active]
    exact lt_irrefl n
  rw [addClient_new 0 0 hroom hunknown hfree, h.vpnIpHost_eq hn]

theorem Filled.succ {n : ℕ} (h : Filled n table) (hn : n < 254) :
    Filled (n + 1) (addClient table (samplePeer n) 0 0).1 := by
  rw [h.addClient_eq hn]
  refine ⟨fun i => ?_, fun i hi => ?_, ?_, ?_⟩
  · by_cases hin : i = ⟨n, hn⟩
    · rw [hin, storeClient_self]
      exact ⟨fun _ => Nat.lt_succ_self n, fun _ => rfl⟩
    · have hne : i.val ≠ n := fun heq => hin (Fin.ext heq)
      rw [storeClient_of_ne table _ hin, h.active]
      omega
  · by_cases hin : i = ⟨n, hn⟩
    · rw [hin, storeClient_self]
      rfl
    · have hne : i.val ≠ n := fun heq => hin (Fin.ext heq)
      rw [storeClient_of_ne table _ hin]
      exact h.realAddr i (by omega)
  · show table.count + 1 = _
    rw [h.count]
    push_cast
    rfl
  · show (vpnIpHost table + 1).toNat = _
    rw [h.vpnIpHost_eq hn, UInt32.toNat_add, h.nextIp]
    simp only [UInt32.reduceToNat]
    omega

/-- Up to the capacity of the table, every peer that connects gets a slot. -/
theorem filled_connectPeers {n : ℕ} (hn : n ≤ 254) :
    Filled n (run applyOp initClientTable (connectPeers n)) := by
  induction n with
  | zero =>
      refine ⟨fun i => ?_, fun i hi => absurd hi (Nat.not_lt_zero _), rfl, rfl⟩
      exact ⟨fun h => absurd h (by simp [connectPeers, initClientTable]),
        fun h => absurd h (Nat.not_lt_zero _)⟩
  | succ n ih =>
      have hnext := (ih (by omega)).succ (by omega)
      have hops : connectPeers (n + 1)
          = connectPeers n ++ [.addClient (samplePeer n) 0 0] := by
        unfold connectPeers
        rw [List.range_succ, List.map_append]
        rfl
      rw [hops, run_append]
      exact hnext

/-- The first of two peers connects again. -/
theorem reconnect_first_of_two :
    let table := run applyOp initClientTable (connectPeers 2)
    addClient table (table.clients 0).realAddr 7 0
      = (updateClientActivity table 0 7, (table.clients 0).vpnIp) := by
  intro table
  have hfilled : Filled 2 table := filled_connectPeers (by decide)
  have hi : (table.clients 0).active = true := (hfilled.active 0).mpr (by decide)
  refine ((reconnect_iff (connectPeers 2) hi).1 7 0).mpr ?_
  show table.count ≠ 254
  rw [hfilled.count]
  decide

/-- **A full table turns away a client that is in it**: `add_client` returns 0, and its
CONNECT_REQ is not answered. -/
theorem full_table_refuses_client :
    let table := run applyOp initClientTable (connectPeers 254)
    let server : Server := ⟨table, ⟨⟨initKeyManager sampleSodium zeroKey, true⟩, [], 1⟩, 0⟩
    (table.clients 0).active = true ∧ (table.clients 0).vpnIp ≠ 0 ∧
      addClient table (table.clients 0).realAddr 7 0 = (table, 0) ∧
      handleConnectReq sampleSodium sampleEnv server (table.clients 0).realAddr []
        = (server, []) := by
  intro table server
  have hfilled : Filled 254 table := filled_connectPeers (by decide)
  have hwf : table.Wf := run_wf _
  have hi : (table.clients 0).active = true := (hfilled.active 0).mpr (by decide)
  have hfull : table.count ≥ maxClients := by
    rw [hfilled.count]
  exact ⟨hi, hwf.vpnIp_ne_zero hi, addClient_full _ 7 0 hfull,
    handleConnectReq_full _ _ hfull⟩

/-! ## The addresses that are handed out -/

/-- What `add_client` returns, unless it is 0, lies in the given range (in host byte
order). -/
def HandsOutFrom (low high : UInt32) (table : ClientTable) : TableOp → Prop
  | .addClient addr now rand =>
      (addClient table addr now rand).2 ≠ 0 →
        low ≤ ntohl (addClient table addr now rand).2 ∧
          ntohl (addClient table addr now rand).2 ≤ high
  | _ => True

/-- The counter is not at 10.8.0.255 when `add_client` takes an address from it. -/
def SkipsBroadcast (table : ClientTable) : TableOp → Prop
  | .addClient addr _ _ =>
      table.count < maxClients → findClientByAddr table addr = none →
        table.nextIp ≠ 0x0a0800ff
  | _ => True

/-- No session has an address above `high`. -/
def IpsUpTo (high : UInt32) (table : ClientTable) : Prop :=
  ∀ x ∈ liveSessions table, ntohl x.vpnIp ≤ high

/-- What `add_client` returns is the offered address, or 0. -/
theorem ClientTable.Wf.addClient_snd_eq (hwf : table.Wf) {addr : SockAddr} {now : ℤ}
    {rand : UInt32} (h : (addClient table addr now rand).2 ≠ 0) :
    table.count < maxClients ∧ (addClient table addr now rand).2 = offeredIp table addr := by
  have hroom : table.count < maxClients :=
    lt_of_le_of_ne hwf.count_le fun hfull =>
      h ((hwf.addClient_eq_zero_iff addr now rand).mpr hfull)
  exact ⟨hroom, (hwf.addClient_snd hroom addr now rand).1⟩

/-- The offered address lies in the pool. -/
theorem ClientTable.Wf.le_offeredIp (hwf : table.Wf) (addr : SockAddr) :
    0x0a080002 ≤ ntohl (offeredIp table addr) ∧ ntohl (offeredIp table addr) ≤ 0x0a0800ff := by
  cases hfind : findClientByAddr table addr with
  | some i =>
      obtain ⟨host, hlow, hhigh, hip⟩ := hwf.vpnIp_mem i (findClientByAddr_eq_some.mp hfind).1.1
      rw [offeredIp_existing hfind, hip, ntohl_htonl]
      exact ⟨hlow, hhigh⟩
  | none =>
      rw [offeredIp_new hfind, ntohl_htonl]
      exact hwf.vpnIpHost_mem

/-- It is at most 10.8.0.254, if all that were handed out before are and the counter is not at
10.8.0.255. -/
theorem IpsUpTo.offeredIp_le (h : IpsUpTo 0x0a0800fe table) (hwf : table.Wf)
    (hskip : findClientByAddr table addr = none → table.nextIp ≠ 0x0a0800ff) :
    ntohl (offeredIp table addr) ≤ 0x0a0800fe := by
  cases hfind : findClientByAddr table addr with
  | some i =>
      have hactive := (findClientByAddr_eq_some.mp hfind).1.1
      have hlive := h _ (session_mem_liveSessions hactive)
      rw [offeredIp_existing hfind]
      exact hlive
  | none =>
      have hnext := hskip hfind
      have hmem := hwf.vpnIpHost_mem
      rw [offeredIp_new hfind, ntohl_htonl]
      unfold vpnIpHost at hmem ⊢
      rw [ne_eq, ← UInt32.toNat_inj] at hnext
      simp only [UInt32.le_iff_toNat_le, gt_iff_lt, UInt32.lt_iff_toNat_lt,
        UInt32.reduceToNat] at hmem hnext ⊢
      split_ifs at hmem ⊢ with hwrap
      · decide
      · omega

/-- A call that does not take 10.8.0.255 from the counter keeps the addresses below it, and
returns none above. -/
theorem IpsUpTo.step (h : IpsUpTo 0x0a0800fe table) (hwf : table.Wf) {op : TableOp}
    (hskip : SkipsBroadcast table op) :
    IpsUpTo 0x0a0800fe (applyOp table op) ∧ HandsOutFrom 0x0a080002 0x0a0800fe table op := by
  constructor
  · have hout := applyOp_sessions hwf op
    generalize applyOp table op = table' at hout
    cases hout with
    | refused _ => exact h
    | added hroom hip hlive =>
        intro x hx
        rw [hlive] at hx
        rcases hx with rfl | hx
        · rw [hip]
          exact h.offeredIp_le hwf (hskip hroom)
        · exact h x hx
    | dropped _ hlive => exact fun x hx => h x (hlive hx)
  · cases op with
    | addClient addr now rand =>
        intro hne
        obtain ⟨hroom, hip⟩ := hwf.addClient_snd_eq hne
        rw [hip]
        exact ⟨(hwf.le_offeredIp addr).1, h.offeredIp_le hwf (hskip hroom)⟩
    | _ => trivial

/-- A call that returns no address above 10.8.0.254 does not take 10.8.0.255 from the
counter. -/
theorem skipsBroadcast_of_handsOut (hwf : table.Wf) {op : TableOp}
    (h : HandsOutFrom 0x0a080002 0x0a0800fe table op) : SkipsBroadcast table op := by
  cases op with
  | addClient addr now rand =>
      intro hroom hnone hnext
      obtain ⟨hip, hne⟩ := hwf.addClient_snd hroom addr now rand
      have hhost : vpnIpHost table = 0x0a0800ff := by
        unfold vpnIpHost
        rw [hnext]
        rfl
      have hhigh := (h (by rw [hip]; exact hne)).2
      rw [hip, offeredIp_new hnone, ntohl_htonl, hhost] at hhigh
      exact absurd hhigh (by decide)
  | _ => trivial

/-- A call of `add_client`. -/
def TableOp.isAdd : TableOp → Bool
  | .addClient _ _ _ => true
  | _ => false

/-- Only `add_client` moves the counter, by one until it comes round. -/
theorem nextIp_applyOp_le (hwf : table.Wf) (op : TableOp) :
    (applyOp table op).nextIp.toNat
      ≤ table.nextIp.toNat + if op.isAdd then 1 else 0 := by
  cases op with
  | addClient addr now rand =>
      have hout := addClient_outcome hwf addr now rand
      rw [applyOp_addClient]
      generalize addClient table addr now rand = r at hout
      cases hout with
      | full _ => exact Nat.le_add_right _ _
      | known _ _ => exact Nat.le_add_right _ _
      | new _ _ _ =>
          have hmem := hwf.nextIp_mem
          show (vpnIpHost table + 1).toNat ≤ table.nextIp.toNat + 1
          unfold vpnIpHost
          rw [UInt32.toNat_add]
          simp only [UInt32.le_iff_toNat_le, gt_iff_lt, UInt32.lt_iff_toNat_lt,
            UInt32.reduceToNat] at hmem ⊢
          split_ifs
          · simp only [UInt32.reduceToNat]
            omega
          · omega
  | removeClient ip =>
      show (removeClient table ip).nextIp.toNat ≤ _
      unfold removeClient
      cases findClientByVpnIp table ip <;> exact Nat.le_add_right _ _
  | updateClientActivity c now => exact Nat.le_add_right _ _
  | checkClientTimeouts now =>
      show (checkClientTimeouts table now).nextIp.toNat ≤ _
      rw [nextIp_checkClientTimeouts]
      exact Nat.le_add_right _ _

/-- As long as the calls to come cannot move the counter past 10.8.0.255, none of them takes
that address. -/
theorem skipsBroadcast_of_few (hwf : table.Wf) {ops : List TableOp}
    (hfew : table.nextIp.toNat + ops.countP TableOp.isAdd ≤ 0x0a0800ff) :
    Along applyOp SkipsBroadcast table ops := by
  induction ops generalizing table with
  | nil => trivial
  | cons op ops ih =>
      have hnext := nextIp_applyOp_le hwf op
      rw [List.countP_cons] at hfew
      refine ⟨?_, ih (applyOp_wf table op hwf) (by omega)⟩
      cases op with
      | addClient addr now rand =>
          intro _ _ heq
          rw [heq] at hfew
          simp only [TableOp.isAdd, if_true, UInt32.reduceToNat] at hfew
          omega
      | _ => trivial

/-- **Which addresses are handed out**: only 10.8.0.2 to 10.8.0.254 exactly on the runs that
never take an address from the counter when it is at 10.8.0.255.  Runs with at most 253 calls
of `add_client` are among them; on any run the addresses lie between 10.8.0.2 and
10.8.0.255. -/
theorem clientIps_handedOut_iff (ops : List TableOp) :
    (Along applyOp (HandsOutFrom 0x0a080002 0x0a0800fe) initClientTable ops ↔
        Along applyOp SkipsBroadcast initClientTable ops) ∧
      (ops.countP TableOp.isAdd ≤ 253 → Along applyOp SkipsBroadcast initClientTable ops) ∧
      Along applyOp (HandsOutFrom 0x0a080002 0x0a0800ff) initClientTable ops := by
  have hinit : initClientTable.Wf ∧ IpsUpTo 0x0a0800fe initClientTable := by
    refine ⟨initClientTable_wf, fun x hx => ?_⟩
    rw [liveSessions_initClientTable] at hx
    exact absurd hx (Set.notMem_empty x)
  refine ⟨⟨fun h => ?_, fun h => ?_⟩, fun hfew => ?_, ?_⟩
  · refine h.imp (I := fun t => t.Wf ∧ IpsUpTo 0x0a0800fe t) (fun t op ⟨hwf, hup⟩ hout => ?_) hinit
    have hskip := skipsBroadcast_of_handsOut hwf hout
    exact ⟨⟨applyOp_wf t op hwf, (hup.step hwf hskip).1⟩, hskip⟩
  · refine h.imp (I := fun t => t.Wf ∧ IpsUpTo 0x0a0800fe t) (fun t op ⟨hwf, hup⟩ hskip => ?_) hinit
    obtain ⟨hnext, hout⟩ := hup.step hwf hskip
    exact ⟨⟨applyOp_wf t op hwf, hnext⟩, hout⟩
  · refine skipsBroadcast_of_few initClientTable_wf ?_
    show 0x0a080002 + _ ≤ _
    omega
  · refine along_of_invariant (I := ClientTable.Wf) applyOp_wf (fun t op hwf => ?_)
      initClientTable_wf ops
    cases op with
    | addClient addr now rand =>
        intro hne
        rw [(hwf.addClient_snd_eq hne).2]
        exact hwf.le_offeredIp addr
    | _ => trivial

/-- Two peers connect. -/
theorem clientIps_handedOut_two :
    Along applyOp (HandsOutFrom 0x0a080002 0x0a0800fe) initClientTable (connectPeers 2) :=
  (clientIps_handedOut_iff (connectPeers 2)).1.mpr
    ((clientIps_handedOut_iff (connectPeers 2)).2.1 (by decide))

/-- **The 254th client is given the broadcast address.** -/
theorem broadcast_handedOut :
    (addClient (run applyOp initClientTable (connectPeers 253)) (samplePeer 253) 0 0).2
        = htonl 0x0a0800ff ∧
      ¬ HandsOutFrom 0x0a080002 0x0a0800fe (run applyOp initClientTable (connectPeers 253))
        (.addClient (samplePeer 253) 0 0) := by
  have hfilled : Filled 253 (run applyOp initClientTable (connectPeers 253)) :=
    filled_connectPeers (by decide)
  have hip : (addClient (run applyOp initClientTable (connectPeers 253)) (samplePeer 253) 0 0).2
      = htonl 0x0a0800ff := by
    have hnext : (run applyOp initClientTable (connectPeers 253)).nextIp = 0x0a0800ff :=
      UInt32.toNat_inj.mp hfilled.nextIp
    rw [hfilled.addClient_eq (by decide), hnext]
  refine ⟨hip, fun h => ?_⟩
  have hhigh := (h (by rw [hip]; decide)).2
  rw [hip, ntohl_htonl] at hhigh
  exact absurd hhigh (by decide)

end Vpn
