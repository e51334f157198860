/-
# What an event of the server can do

`handle_udp_to_tun` has a path for every packet type and exits on every failed search or
IPC call.  `UdpOutcome` lists what can come of a datagram, however the enclave's replies
are delivered; invariants of the client table are derived from that list, and invariants of
the enclave from the requests it handles (`serverStep_enclave`).  They hold in every
`Reachable` state.
-/
import CloudVpn.LiveSessions
import CloudVpn.Server

open Memory Slots Runs

namespace Vpn

variable {S : Sodium} {env : Env} {server : Server}

/-! ## The outcomes of a CONNECT_REQ -/

/-- A peer for which `add_client` succeeds is found afterwards. -/
theorem addClient_isSome {table : ClientTable} (h : table.Wf)
    (hroom : table.count < maxClients) (addr : SockAddr) (now : ℤ) (rand : UInt32) :
    ∃ client, findClientByAddr (addClient table addr now rand).1 addr = some client := by
  cases hfind : findClientByAddr (addClient table addr now rand).1 addr with
  | some client => exact ⟨client, rfl⟩
  | none =>
      have hnone := findClientByAddr_eq_none_iff.mp hfind
      cases hold : findClientByAddr table addr with
      | some i =>
          rw [liveSessions_addClient_existing now rand hroom hold] at hnone
          obtain ⟨⟨hact, haddr⟩, -⟩ := findClientByAddr_eq_some.mp hold
          exact absurd haddr (hnone _ (session_mem_liveSessions hact))
      | none =>
          rw [liveSessions_addClient_new h now rand hroom hold] at hnone
          exact absurd rfl (hnone _ (Or.inl rfl))

/-- A full client table refuses a CONNECT_REQ. -/
theorem handleConnectReq_full (addr : SockAddr) (buffer : Bytes)
    (hfull : server.table.count ≥ maxClients) :
    handleConnectReq S env server addr buffer = (server, []) := by
  unfold handleConnectReq
  rw [addClient_full addr env.now env.rand hfull]
  rfl

/-- A failed handshake undoes `add_client` by VPN address, and nothing is sent. -/
theorem handleConnectReq_refused {addr : SockAddr} {buffer : Bytes} {conn : Connection}
    (hwf : server.table.Wf) (hroom : server.table.count < maxClients)
    (hhs : enclaveHandshake S env.nonce env.delivery server.conn
      (offeredIp server.table addr) (authTokenAt buffer) = (conn, none)) :
    handleConnectReq S env server addr buffer =
      (⟨removeClient (addClient server.table addr env.now env.rand).1
          (offeredIp server.table addr), conn, server.globalSequence⟩, []) := by
  obtain ⟨hsnd, hne⟩ := hwf.addClient_snd hroom addr env.now env.rand
  unfold handleConnectReq
  simp only [hsnd, if_neg hne]
  rw [hhs]

/-- A successful handshake is answered with the session's data. -/
theorem handleConnectReq_answered {addr : SockAddr} {buffer : Bytes} {conn : Connection}
    {resp : IpcResponse} {client : Fin maxClients} (hwf : server.table.Wf)
    (hroom : server.table.count < maxClients)
    (hhs : enclaveHandshake S env.nonce env.delivery server.conn
      (offeredIp server.table addr) (authTokenAt buffer) = (conn, some resp))
    (hclient : findClientByAddr (addClient server.table addr env.now env.rand).1 addr
      = some client) :
    handleConnectReq S env server addr buffer =
      (⟨(addClient server.table addr env.now env.rand).1, conn, server.globalSequence + 1⟩,
        [.udpSend addr (connectResponse
          (initVpnHeader .connectResp 41 (server.globalSequence + 1) env.timestampMs) 0
          (offeredIp server.table addr)
          (htonl ((addClient server.table addr env.now env.rand).1.clients client).sessionId)
          (handshakeKeys env.respData resp).1)]) := by
  obtain ⟨hsnd, hne⟩ := hwf.addClient_snd hroom addr env.now env.rand
  unfold handleConnectReq
  simp only [hsnd, if_neg hne]
  rw [hhs]
  simp only [hclient]

/-- A datagram with a whole header and the type CONNECT_REQ is handled as one. -/
theorem handleUdpToTun_connectReq {addr : SockAddr} {datagram : Bytes}
    (hlen : vpnHeaderSize ≤ datagram.length)
    (htype : byteAt datagram 0 = PacketType.connectReq.toByte) :
    handleUdpToTun S env server addr datagram
      = handleConnectReq S env server addr (recvInto env.buffer datagram) := by
  have hrecv := le_recvLen (by decide) hlen
  unfold handleUdpToTun
  simp only [if_neg (not_lt.mpr hrecv)]
  rw [byteAt_recvInto env.buffer (lt_of_lt_of_le (by decide) hrecv), htype,
    PacketType.ofByte_toByte]

/-! ## The outcomes of a datagram -/

/-- What can come of a datagram: the client table afterwards and the actions. -/
inductive UdpOutcome (S : Sodium) (env : Env) (server : Server) (addr : SockAddr)
    (datagram : Bytes) : ClientTable → List Action → Prop
  | ignored : UdpOutcome S env server addr datagram server.table []
  | answered (sessionId : UInt32) (serverPublicKey : Key)
      (htype : PacketType.ofByte (byteAt datagram 0) = some .connectReq)
      (hroom : server.table.count < maxClients) :
      UdpOutcome S env server addr datagram (addClient server.table addr env.now env.rand).1
        [.udpSend addr (connectResponse
          (initVpnHeader .connectResp 41 (server.globalSequence + 1) env.timestampMs) 0
          (offeredIp server.table addr) sessionId serverPublicKey)]
  | refused (htype : PacketType.ofByte (byteAt datagram 0) = some .connectReq)
      (hroom : server.table.count < maxClients)
      (hhs : (enclaveHandshake S env.nonce env.delivery server.conn
        (offeredIp server.table addr) (authTokenAt (recvInto env.buffer datagram))).2 = none) :
      UdpOutcome S env server addr datagram
        (removeClient (addClient server.table addr env.now env.rand).1
          (offeredIp server.table addr)) []
  | delivered {client : Fin maxClients} {actions : List Action}
      (hactions : ∀ a ∈ actions, ∃ packet, a = .tunWrite packet) :
      UdpOutcome S env server addr datagram
        (updateClientActivity server.table client env.now) actions
  | ponged {table : ClientTable}
      (htype : PacketType.ofByte (byteAt datagram 0) = some .ping)
      (htable : table = server.table ∨
        ∃ client, table = updateClientActivity server.table client env.now) :
      UdpOutcome S env server addr datagram table
        [.udpSend addr (initVpnHeader .pong 0 (server.globalSequence + 1) env.timestampMs)]
  | dropped {client : Fin maxClients}
      (htype : PacketType.ofByte (byteAt datagram 0) = some .disconnect)
      (hclient : findClientByAddr server.table addr = some client) :
      UdpOutcome S env server addr datagram
        (removeClient server.table (server.table.clients client).vpnIp) []

theorem handleConnectReq_outcome {addr : SockAddr} {datagram : Bytes}
    (hwf : server.table.Wf)
    (htype : PacketType.ofByte (byteAt datagram 0) = some .connectReq) :
    UdpOutcome S env server addr datagram
      (handleConnectReq S env server addr (recvInto env.buffer datagram)).1.table
      (handleConnectReq S env server addr (recvInto env.buffer datagram)).2 := by
  by_cases hroom : server.table.count < maxClients
  · obtain ⟨client, hclient⟩ := addClient_isSome hwf hroom addr env.now env.rand
    cases hhs : enclaveHandshake S env.nonce env.delivery server.conn
        (offeredIp server.table addr) (authTokenAt (recvInto env.buffer datagram)) with
    | mk conn resp =>
        cases resp with
        | none =>
            rw [handleConnectReq_refused hwf hroom hhs]
            exact .refused htype hroom (congrArg Prod.snd hhs)
        | some resp =>
            rw [handleConnectReq_answered hwf hroom hhs hclient]
            exact .answered _ _ htype hroom
  · rw [handleConnectReq_full addr _ (not_lt.mp hroom)]
    exact .ignored

theorem handleData_outcome {addr : SockAddr} {datagram : Bytes} (ciphertext : Bytes) :
    UdpOutcome S env server addr datagram
      (handleData S env server addr ciphertext).1.table
      (handleData S env server addr ciphertext).2 := by
  unfold handleData
  cases findClientByAddr server.table addr with
  | none => exact .ignored
  | some client =>
      dsimp only
      split
      · exact .delivered (fun a ha => absurd ha (List.not_mem_nil))
      · exact .delivered (fun a ha => ⟨_, List.mem_singleton.mp ha⟩)

/-- **Every datagram has one of the outcomes.** -/
theorem handleUdpToTun_outcome (hwf : server.table.Wf) (addr : SockAddr)
    (datagram : Bytes) :
    UdpOutcome S env server addr datagram (handleUdpToTun S env server addr datagram).1.table
      (handleUdpToTun S env server addr datagram).2 := by
  unfold handleUdpToTun
  dsimp only
  by_cases hshort : recvLen datagram < vpnHeaderSize
  · rw [if_pos hshort]
    exact .ignored
  rw [if_neg hshort,
    byteAt_recvInto env.buffer (lt_of_lt_of_le (by decide) (not_lt.mp hshort))]
  -- The `switch` over the packet type, one case for each handler.
  cases htype : PacketType.ofByte (byteAt datagram 0) with
  | none => exact .ignored
  | some type =>
      cases type with
      | connectReq => exact handleConnectReq_outcome hwf htype
      | connectResp => exact .ignored
      | pong => exact .ignored
      | data => exact handleData_outcome _
      | ping =>
          refine .ponged htype ?_
          unfold handlePing
          cases findClientByAddr server.table addr with
          | none => exact Or.inl rfl
          | some client => exact Or.inr ⟨client, rfl⟩
      | disconnect =>
          dsimp only
          unfold handleDisconnect
          cases hfind : findClientByAddr server.table addr with
          | none => exact .ignored
          | some client => exact .dropped htype hfind

/-- What can come of a packet from the TUN device: nothing, or a data packet to the peer of
one client, whose entry is refreshed if the network takes the packet. -/
theorem handleTunToUdp_outcome (S : Sodium) (env : Env) (server : Server) (packet : Bytes) :
    ((handleTunToUdp S env server packet).1.table = server.table ∧
      (handleTunToUdp S env server packet).2 = []) ∨
    ∃ client data,
      (handleTunToUdp S env server packet).1.table
        = (if env.sent then updateClientActivity server.table client env.now
            else server.table) ∧
      (handleTunToUdp S env server packet).2
        = [.udpSend (server.table.clients client).realAddr
          (initVpnHeader .data (UInt16.ofNat data.length) (server.globalSequence + 1)
            env.timestampMs ++ data)] := by
  unfold handleTunToUdp
  dsimp only
  split
  · exact Or.inl ⟨rfl, rfl⟩
  split
  · exact Or.inl ⟨rfl, rfl⟩
  split
  · exact Or.inl ⟨rfl, rfl⟩
  · next client _ =>
      split
      · exact Or.inl ⟨rfl, rfl⟩
      · next conn resp _ => exact Or.inr ⟨client, resp.data, rfl, rfl⟩

/-! ## The client table is always well formed -/

theorem UdpOutcome.wf {addr : SockAddr} {datagram : Bytes} {table : ClientTable}
    {actions : List Action} (h : UdpOutcome S env server addr datagram table actions)
    (hwf : server.table.Wf) : table.Wf := by
  cases h with
  | ignored => exact hwf
  | answered _ _ _ _ => exact addClient_wf hwf addr env.now env.rand
  | refused _ _ _ => exact removeClient_wf (addClient_wf hwf addr env.now env.rand) _
  | delivered _ => exact updateClientActivity_wf hwf _ env.now
  | ponged _ htable =>
      rcases htable with rfl | ⟨client, rfl⟩
      · exact hwf
      · exact updateClientActivity_wf hwf client env.now
  | dropped _ _ => exact removeClient_wf hwf _

/-- Every event keeps the client table well formed, whatever the IPC connection does. -/
theorem serverStep_wf (e : Event) (hwf : server.table.Wf) :
    (serverStep S server e).table.Wf := by
  cases e with
  | udp addr datagram env => exact (handleUdpToTun_outcome hwf addr datagram).wf hwf
  | tun packet env =>
      show (handleTunToUdp S env server packet).1.table.Wf
      rcases handleTunToUdp_outcome S env server packet with ⟨htable, -⟩ | ⟨c, _, htable, -⟩
      · rw [htable]
        exact hwf
      · rw [htable]
        split_ifs
        · exact updateClientActivity_wf hwf c env.now
        · exact hwf
  | sweep env => exact checkClientTimeouts_wf hwf env.now

/-! ## Invariants of the enclave -/

section
variable {I : Enclave → Prop}
  (hI : ∀ nonce enclave req, I enclave → I (handleIpcCommand S nonce enclave req).1)
include hI

theorem handleConnectReq_enclave (h : I server.conn.enclave) (addr : SockAddr)
    (buffer : Bytes) : I (handleConnectReq S env server addr buffer).1.conn.enclave := by
  have hcall := enclaveCall_enclave hI h env.nonce env.delivery .handshake
    (addClient server.table addr env.now env.rand).2 (authTokenAt buffer).toList
    (ipcResponseSize + 64)
  unfold handleConnectReq enclaveHandshake
  dsimp only
  split_ifs
  · exact h
  · split
    · next heq =>
        rw [heq] at hcall
        exact hcall
    · next heq =>
        rw [heq] at hcall
        split <;> exact hcall

theorem handleData_enclave (h : I server.conn.enclave) (addr : SockAddr)
    (ciphertext : Bytes) : I (handleData S env server addr ciphertext).1.conn.enclave := by
  unfold handleData enclaveDecrypt
  cases findClientByAddr server.table addr with
  | none => exact h
  | some client =>
      have hcall := enclaveCall_enclave hI h env.nonce env.delivery .decrypt
        ((updateClientActivity server.table client env.now).clients client).vpnIp ciphertext
        (ipcResponseSize + ipcMaxDataSize)
      dsimp only
      split_ifs
      · exact h
      · split
        · next heq =>
            rw [heq] at hcall
            exact hcall
        · next heq =>
            rw [heq] at hcall
            exact hcall

theorem handleDisconnect_enclave (h : I server.conn.enclave) (addr : SockAddr) :
    I (handleDisconnect S env server addr).1.conn.enclave := by
  unfold handleDisconnect enclaveRemoveKey
  cases findClientByAddr server.table addr with
  | none => exact h
  | some client =>
      exact enclaveCall_enclave hI h env.nonce env.delivery .removeKey
        (server.table.clients client).vpnIp [] ipcResponseSize

theorem handleTunToUdp_enclave (h : I server.conn.enclave) (packet : Bytes) :
    I (handleTunToUdp S env server packet).1.conn.enclave := by
  have hencrypt : ∀ vpnIp, I (enclaveEncrypt S env.nonce env.delivery server.conn vpnIp
      (packet.take bufferSize)).1.enclave := by
    intro vpnIp
    unfold enclaveEncrypt
    split_ifs
    · exact h
    · exact enclaveCall_enclave hI h env.nonce env.delivery .encrypt vpnIp
        (packet.take bufferSize) (ipcResponseSize + ipcMaxDataSize)
  unfold handleTunToUdp
  dsimp only
  split
  · exact h
  split
  · exact h
  split
  · exact h
  · next client _ =>
      have hcall := hencrypt (server.table.clients client).vpnIp
      split
      · next heq =>
          rw [heq] at hcall
          exact hcall
      · next heq =>
          rw [heq] at hcall
          exact hcall

/-- What every request to the enclave keeps, every event keeps, however the replies are
delivered. -/
theorem serverStep_enclave (e : Event) (h : I server.conn.enclave) :
    I (serverStep S server e).conn.enclave := by
  unfold serverStep
  cases e with
  | udp src datagram env =>
      simp only [handleEvent, handleUdpToTun]
      split_ifs
      · exact h
      · split
        · exact handleConnectReq_enclave hI h src _
        · exact handleData_enclave hI h src _
        · exact h
        · exact handleDisconnect_enclave hI h src
        · exact h
  | tun packet env => exact handleTunToUdp_enclave hI h packet
  | sweep env => exact h

end

/-! ## Reachable states -/

/-- A state that a server comes to after some events, whatever the IPC connection does. -/
def Reachable (S : Sodium) (server : Server) : Prop :=
  ∃ secret events, server = run (serverStep S) (initServer S secret) events

/-- The client table of every reachable server is well formed. -/
theorem Reachable.wf (h : Reachable S server) : server.table.Wf := by
  obtain ⟨secret, events, rfl⟩ := h
  exact run_invariant (I := fun server => server.table.Wf) (serverStep S)
    (fun _ e hwf => serverStep_wf e hwf) initClientTable_wf events

/-- The enclave of every reachable server has a key pair. -/
theorem Reachable.keypair (h : Reachable S server) :
    server.conn.enclave.km.serverPublicKey
      = S.boxPublicKey server.conn.enclave.km.serverPrivateKey := by
  obtain ⟨secret, events, rfl⟩ := h
  have hI : ∀ nonce (enclave : Enclave) req,
      enclave.km.serverPublicKey = S.boxPublicKey enclave.km.serverPrivateKey →
      (handleIpcCommand S nonce enclave req).1.km.serverPublicKey
        = S.boxPublicKey (handleIpcCommand S nonce enclave req).1.km.serverPrivateKey := by
    intro nonce enclave req hpair
    obtain ⟨hprivate, hpublic⟩ :=
      (handleIpcCommand_outcome S nonce enclave req).serverKeys_eq
    rw [hprivate, hpublic]
    exact hpair
  exact run_invariant (I := fun server => server.conn.enclave.km.serverPublicKey
      = S.boxPublicKey server.conn.enclave.km.serverPrivateKey) (serverStep S)
    (fun _ e hpair => serverStep_enclave hI e hpair) rfl events

/-! ## Samples -/

/-- What the server takes from outside in the samples. -/
def sampleEnv : Env := ⟨0, 0, 0, Vector.replicate 12 0, .whole, [], [], true⟩

/-- A CONNECT_REQ from the given peer, with a public key of equal bytes. -/
def sampleConnect (addr : SockAddr) (b : UInt8) : Event :=
  .udp addr (connectRequest (initVpnHeader .connectReq 64 1 0) (Vector.replicate 32 0)
    (Vector.replicate 32 b)) sampleEnv

/-- A DISCONNECT from the given peer. -/
def sampleDisconnect (addr : SockAddr) : Event :=
  .udp addr (initVpnHeader .disconnect 0 2 0) sampleEnv

/-- Two peers connect, and the second one leaves. -/
def twoPeers : List Event :=
  [sampleConnect ⟨1, 1⟩ 1, sampleConnect ⟨2, 2⟩ 2, sampleDisconnect ⟨2, 2⟩]

/-- A server with one client, at the given peer. -/
def oneClientServer (addr : SockAddr) : Server :=
  run (serverStep sampleSodium) (initServer sampleSodium zeroKey) [sampleConnect addr 1]

theorem oneClientServer_reachable (addr : SockAddr) :
    Reachable sampleSodium (oneClientServer addr) := ⟨zeroKey, [sampleConnect addr 1], rfl⟩

end Vpn
