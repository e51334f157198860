/-
# What handlers take from their receive buffer

Both programs overlay packed structures on a buffer of 2048 bytes on the stack, of which a
datagram fills the front.  `ServerIndependent` and `ClientIndependent` say that the outcome
does not depend on what the buffer held before; on the server there is a second buffer, that of
the reply to a handshake.

The server checks the length of the header only, so a CONNECT_REQ shorter than its 80 bytes
gets a public key with leftover memory in it, and a CONNECT_RESP is filled up with leftover
memory when `enclave_handshake` takes a shorter reply for its own.  The client checks no length
at all.  The exact conditions are in `receivedBytes_decide`.
-/
import CloudVpn.Client
import CloudVpn.IpcPairing
import CloudVpn.LiveSessions
import CloudVpn.ServerInvariant

open Memory Slots

namespace Vpn

/-! ## The requests to the enclave -/

/-- The call of the enclave client that `handle_udp_to_tun` makes, if it makes one. -/
def udpCall (env : Env) (server : Server) (addr : SockAddr) (datagram : Bytes) :
    Option EnclaveCall :=
  let buffer := recvInto env.buffer datagram
  let n := recvLen datagram
  if n < vpnHeaderSize then none
  else
    match PacketType.ofByte (byteAt buffer 0) with
    | some .connectReq =>
        let vpnIp := (addClient server.table addr env.now env.rand).2
        if vpnIp = 0 then none else some (.handshake vpnIp (authTokenAt buffer))
    | some .data =>
        (findClientByAddr server.table addr).map fun client =>
          .decrypt (server.table.clients client).vpnIp ((buffer.take n).drop vpnHeaderSize)
    | some .disconnect =>
        (findClientByAddr server.table addr).map fun client =>
          .removeKey (server.table.clients client).vpnIp
    | _ => none

/-- The request that goes to the enclave. -/
def udpRequest (env : Env) (server : Server) (addr : SockAddr) (datagram : Bytes) :
    Option IpcRequest :=
  (udpCall env server addr datagram).map fun call =>
    callRequest server.conn call.command call.vpnIp call.data

/-- The handler does with the connection what this call does, and nothing else. -/
theorem handleUdpToTun_conn (S : Sodium) (env : Env) (server : Server) (addr : SockAddr)
    (datagram : Bytes) :
    (handleUdpToTun S env server addr datagram).1.conn =
      (udpCall env server addr datagram).elim server.conn fun call =>
        callStep S server.conn ⟨call, env.nonce, env.delivery⟩ := by
  unfold handleUdpToTun udpCall
  dsimp only
  by_cases hshort : recvLen datagram < vpnHeaderSize
  · rw [if_pos hshort, if_pos hshort]
    rfl
  · rw [if_neg hshort, if_neg hshort]
    cases htype : PacketType.ofByte (byteAt (recvInto env.buffer datagram) 0) with
    | none => rfl
    | some t =>
        cases t with
        | connectReq =>
            unfold handleConnectReq
            dsimp only
            by_cases hzero : (addClient server.table addr env.now env.rand).2 = 0
            · rw [if_pos hzero, if_pos hzero]
              rfl
            · rw [if_neg hzero, if_neg hzero]
              show _ = (enclaveHandshake S env.nonce env.delivery server.conn _ _).1
              rcases enclaveHandshake S env.nonce env.delivery server.conn
                (addClient server.table addr env.now env.rand).2
                (authTokenAt (recvInto env.buffer datagram)) with ⟨conn, _ | resp⟩
              · rfl
              · dsimp only
                cases findClientByAddr (addClient server.table addr env.now env.rand).1 addr
                  <;> rfl
        | data =>
            unfold handleData
            cases hfind : findClientByAddr server.table addr with
            | none => rfl
            | some i =>
                have hip := (updateClientActivity_same server.table i env.now i).2.2
                dsimp only
                rw [hip]
                show _ = (enclaveDecrypt S env.nonce env.delivery server.conn _ _).1
                rcases enclaveDecrypt S env.nonce env.delivery server.conn
                  (server.table.clients i).vpnIp
                  (((recvInto env.buffer datagram).take (recvLen datagram)).drop
                    vpnHeaderSize) with ⟨conn, _ | resp⟩ <;> rfl
        | disconnect =>
            unfold handleDisconnect
            cases findClientByAddr server.table addr <;> rfl
        | ping => rfl
        | pong => rfl
        | connectResp => rfl

/-! ## Reading behind the datagram -/

theorem bytesAt_recvInto {k : ℕ} {datagram : Bytes} (buffer : Bytes) {off : ℕ}
    (h : off + k ≤ recvLen datagram) :
    bytesAt k (recvInto buffer datagram) off = bytesAt k datagram off := by
  unfold bytesAt
  congr 1
  funext i
  rw [byteAt_recvInto buffer (by omega)]

/-- Behind the datagram the buffer has kept what it held. -/
theorem byteAt_recvInto_rest {datagram : Bytes} (buffer : Bytes) {off : ℕ}
    (h : recvLen datagram ≤ off) :
    byteAt (recvInto buffer datagram) off = byteAt buffer off := by
  unfold recvInto recvLen at *
  rw [byteAt_append_right _ h, byteAt_drop, Nat.add_sub_cancel' h]

theorem byteAt_replicate {n : ℕ} (x : UInt8) {off : ℕ} (h : off < n) :
    byteAt (Vector.replicate n x).toList off = x := by
  unfold byteAt
  rw [Vector.toList_replicate]
  simp [List.getD, h]

/-- The last byte of an array in a buffer. -/
theorem last_bytesAt (buffer : Bytes) (off : ℕ) :
    (bytesAt 32 buffer off).get 31 = byteAt buffer (off + 31) := by
  unfold bytesAt
  show (Vector.ofFn fun i : Fin 32 => byteAt buffer (off + i))[31] = _
  rw [Vector.getElem_ofFn]

/-! ## The server -/

/-- Whatever the receive buffer and the buffer for the reply to a handshake held before,
`handle_udp_to_tun` leads to the same client table, makes the same request to the enclave and
sends and writes the same. -/
def ServerIndependent (S : Sodium) (env : Env) (server : Server) (addr : SockAddr)
    (datagram : Bytes) : Prop :=
  ∀ (b₁ b₂ : Vector UInt8 bufferSize) (r₁ r₂ : Vector UInt8 64),
    let env₁ := { env with buffer := b₁.toList, respData := r₁.toList }
    let env₂ := { env with buffer := b₂.toList, respData := r₂.toList }
    (handleUdpToTun S env₁ server addr datagram).1.table
        = (handleUdpToTun S env₂ server addr datagram).1.table ∧
      udpRequest env₁ server addr datagram = udpRequest env₂ server addr datagram ∧
      (handleUdpToTun S env₁ server addr datagram).2
        = (handleUdpToTun S env₂ server addr datagram).2

/-- A CONNECT_REQ that ends before its last field does, while the table has room. -/
def TruncatedConnect (server : Server) (datagram : Bytes) : Prop :=
  byteAt datagram 0 = PacketType.connectReq.toByte ∧ vpnHeaderSize ≤ datagram.length ∧
    datagram.length < 80 ∧ server.table.count < maxClients

/-- The unread bytes that the handshake for a CONNECT_REQ finds. -/
def handshakeStream (S : Sodium) (env : Env) (server : Server) (addr : SockAddr)
    (datagram : Bytes) : Bytes :=
  callStream S env.nonce server.conn .handshake (offeredIp server.table addr)
    (authTokenAt datagram).toList

/-- The handshake for a CONNECT_REQ takes a reply that ends before the server's public key
does. -/
structure ShortHandshakeReply (S : Sodium) (env : Env) (server : Server) (addr : SockAddr)
    (datagram : Bytes) : Prop where
  type : byteAt datagram 0 = PacketType.connectReq.toByte
  header : vpnHeaderSize ≤ datagram.length
  room : server.table.count < maxClients
  running : server.conn.enclave.running = true
  accepts : AcceptsReply env.delivery (ipcResponseSize + 64)
    (handshakeStream S env server addr datagram)
  short : ipcTotalLen (handshakeStream S env server addr datagram) < ipcResponseSize + 32

variable {S : Sodium} {env : Env} {server : Server} {addr : SockAddr} {datagram : Bytes}

/-- The handlers use what they are given of the buffers, not the buffers themselves. -/
theorem handleData_held (b r ciphertext : Bytes) :
    handleData S { env with buffer := b, respData := r } server addr ciphertext
      = handleData S env server addr ciphertext := rfl

theorem handlePing_held (b r : Bytes) :
    handlePing { env with buffer := b, respData := r } server addr
      = handlePing env server addr := rfl

theorem handleDisconnect_held (b r : Bytes) :
    handleDisconnect S { env with buffer := b, respData := r } server addr
      = handleDisconnect S env server addr := rfl

/-- A connect that is complete, or that the full table refuses, reads what was received. -/
theorem connect_buffer (hheader : vpnHeaderSize ≤ datagram.length)
    (htype : byteAt datagram 0 = PacketType.connectReq.toByte)
    (h : ¬ TruncatedConnect server datagram) :
    server.table.count ≥ maxClients ∨
      ∀ b : Bytes, authTokenAt (recvInto b datagram) = authTokenAt datagram := by
  by_cases hlong : 80 ≤ datagram.length
  · exact .inr fun b => bytesAt_recvInto b (le_recvLen (by decide) hlong)
  · left
    by_contra hroom
    exact h ⟨htype, hheader, not_le.mp hlong, not_le.mp hroom⟩

/-- Behind a reply that has a public key, what the buffer held before does not matter. -/
theorem handshakeKeys_fst {resp : IpcResponse} (old : Bytes) (h : 32 ≤ resp.data.length) :
    (handshakeKeys old resp).1 = bytesAt 32 resp.data 0 := by
  unfold handshakeKeys
  exact bytesAt_append_left _ (by omega)

/-- A reply that the handshake takes is short, or has a public key. -/
theorem length_handshakeReply {resp : IpcResponse}
    (hheader : vpnHeaderSize ≤ datagram.length)
    (htype : byteAt datagram 0 = PacketType.connectReq.toByte)
    (hroom : server.table.count < maxClients)
    (hshort : ¬ ShortHandshakeReply S env server addr datagram)
    (hresp : (enclaveHandshake S env.nonce env.delivery server.conn
      (offeredIp server.table addr) (authTokenAt datagram)).2 = some resp) :
    32 ≤ resp.data.length := by
  have hrun : server.conn.enclave.running = true := by
    by_contra hstopped
    simp [enclaveHandshake, enclaveCall, sendIpcRequest, hstopped] at hresp
  have haccepts := enclaveCall_accepts hrun (by simp) hresp
  have hdecoded : resp = IpcResponse.decode (handshakeStream S env server addr datagram) :=
    Option.some.inj (hresp.symm.trans (enclaveCall_of_accepts hrun (by simp) haccepts))
  have hlen : ipcResponseSize + resp.data.length
      = ipcTotalLen (handshakeStream S env server addr datagram) := by
    rw [hdecoded]
    exact haccepts.length_data
  by_contra hlt
  exact hshort ⟨htype, hheader, hroom, hrun, haccepts, by omega⟩

/-- A connect whose handshake takes no short reply copies no leftover memory. -/
theorem handleConnectReq_held (hwf : server.table.Wf) (hheader : vpnHeaderSize ≤ datagram.length)
    (htype : byteAt datagram 0 = PacketType.connectReq.toByte)
    (h : ¬ TruncatedConnect server datagram)
    (hshort : ¬ ShortHandshakeReply S env server addr datagram) (b r : Bytes) :
    handleConnectReq S { env with buffer := b, respData := r } server addr
        (recvInto b datagram)
      = handleConnectReq S { env with buffer := datagram, respData := [] } server addr
        (recvInto datagram datagram) := by
  rcases connect_buffer hheader htype h with hfull | htoken
  · rw [handleConnectReq_full addr _ hfull, handleConnectReq_full addr _ hfull]
  by_cases hroom : server.table.count < maxClients
  · obtain ⟨i, hi⟩ := addClient_isSome hwf hroom addr env.now env.rand
    rcases hhs : enclaveHandshake S env.nonce env.delivery server.conn
        (offeredIp server.table addr) (authTokenAt datagram) with ⟨conn, _ | resp⟩
    · have hrefused : ∀ b r : Bytes, handleConnectReq S
          { env with buffer := b, respData := r } server addr (recvInto b datagram) = _ :=
        fun b r => handleConnectReq_refused hwf hroom (by rw [htoken]; exact hhs)
      rw [hrefused, hrefused]
    · have hanswered : ∀ b r : Bytes, handleConnectReq S
          { env with buffer := b, respData := r } server addr (recvInto b datagram) = _ :=
        fun b r => handleConnectReq_answered hwf hroom (by rw [htoken]; exact hhs) hi
      have hkey := length_handshakeReply hheader htype hroom hshort (congrArg Prod.snd hhs)
      rw [hanswered, hanswered, handshakeKeys_fst _ hkey, handshakeKeys_fst _ hkey]
  · rw [handleConnectReq_full addr _ (not_lt.mp hroom),
      handleConnectReq_full addr _ (not_lt.mp hroom)]

/-- Of all the packet types only CONNECT_REQ reads behind what was received. -/
theorem handleUdpToTun_held (hwf : server.table.Wf) (h : ¬ TruncatedConnect server datagram)
    (hshort : ¬ ShortHandshakeReply S env server addr datagram) (b r : Bytes) :
    handleUdpToTun S { env with buffer := b, respData := r } server addr datagram
      = handleUdpToTun S { env with buffer := datagram, respData := [] } server addr
        datagram := by
  unfold handleUdpToTun
  by_cases hlen : recvLen datagram < vpnHeaderSize
  · simp only [if_pos hlen]
  · have hheader : vpnHeaderSize ≤ recvLen datagram := not_lt.mp hlen
    have hpos : 0 < recvLen datagram := lt_of_lt_of_le (by decide) hheader
    simp only [if_neg hlen, byteAt_recvInto _ hpos, take_recvInto, handleData_held,
      handlePing_held, handleDisconnect_held]
    cases htype : PacketType.ofByte (byteAt datagram 0) with
    | none => rfl
    | some t =>
        cases t with
        | connectReq =>
            exact handleConnectReq_held hwf (le_trans hheader (List.length_take_le' _ _))
              (PacketType.eq_toByte htype) h hshort b r
        | _ => rfl

theorem udpCall_held (h : ¬ TruncatedConnect server datagram) (b r : Bytes) :
    udpCall { env with buffer := b, respData := r } server addr datagram
      = udpCall { env with buffer := datagram, respData := [] } server addr datagram := by
  unfold udpCall
  by_cases hshort : recvLen datagram < vpnHeaderSize
  · simp only [if_pos hshort]
  · have hheader : vpnHeaderSize ≤ recvLen datagram := not_lt.mp hshort
    have hpos : 0 < recvLen datagram := lt_of_lt_of_le (by decide) hheader
    simp only [if_neg hshort, byteAt_recvInto _ hpos, take_recvInto]
    cases htype : PacketType.ofByte (byteAt datagram 0) with
    | none => rfl
    | some t =>
        cases t with
        | connectReq =>
            rcases connect_buffer (le_trans hheader (List.length_take_le' _ _))
              (PacketType.eq_toByte htype) h with hfull | htoken
            · simp only [addClient_full addr _ _ hfull, if_true]
            · simp only [htoken]
        | _ => rfl

theorem serverIndependent_of_complete (hwf : server.table.Wf)
    (h : ¬ TruncatedConnect server datagram)
    (hshort : ¬ ShortHandshakeReply S env server addr datagram) :
    ServerIndependent S env server addr datagram := by
  intro b₁ b₂ r₁ r₂ env₁ env₂
  unfold udpRequest
  simp only [env₁, env₂]
  rw [handleUdpToTun_held hwf h hshort b₁.toList, handleUdpToTun_held hwf h hshort b₂.toList,
    udpCall_held h b₁.toList, udpCall_held h b₂.toList]
  exact ⟨rfl, rfl, rfl⟩

theorem data_callRequest (conn : Connection) (command : IpcCommand) (vpnIp : UInt32)
    (data : Bytes) : (callRequest conn command vpnIp data).data = data := rfl

/-- The request that a connect with room in the table makes. -/
theorem udpRequest_connect (hwf : server.table.Wf) (h : TruncatedConnect server datagram)
    (b r : Bytes) :
    udpRequest { env with buffer := b, respData := r } server addr datagram
      = some (callRequest server.conn .handshake (offeredIp server.table addr)
          (authTokenAt (recvInto b datagram)).toList) := by
  obtain ⟨htype, hlen, -, hroom⟩ := h
  have hheader : vpnHeaderSize ≤ recvLen datagram := le_recvLen (by decide) hlen
  obtain ⟨hip, hne⟩ := hwf.addClient_snd hroom addr env.now env.rand
  unfold udpRequest udpCall
  simp only [if_neg (not_lt.mpr hheader)]
  rw [byteAt_recvInto b (lt_of_lt_of_le (by decide) hheader), htype, PacketType.ofByte_toByte]
  simp only [hip, if_neg hne]
  rfl

/-- A truncated connect completes the public key with what the buffer held. -/
theorem ServerIndependent.byteAt_eq (hind : ServerIndependent S env server addr datagram)
    (hwf : server.table.Wf) (h : TruncatedConnect server datagram)
    (b₁ b₂ : Vector UInt8 bufferSize) : byteAt b₁.toList 79 = byteAt b₂.toList 79 := by
  have hrequest := (hind b₁ b₂ (Vector.replicate 64 0) (Vector.replicate 64 0)).2.1
  rw [udpRequest_connect hwf h, udpRequest_connect hwf h] at hrequest
  have hdata := congrArg IpcRequest.data (Option.some.inj hrequest)
  rw [data_callRequest, data_callRequest] at hdata
  have htoken := Vector.toList_inj.mp hdata
  have hrest : recvLen datagram ≤ 79 := by
    have hshort := h.2.2.1
    unfold recvLen
    rw [List.length_take]
    omega
  have hlast := congrArg (fun key : Key => key.get 31) htoken
  unfold authTokenAt at hlast
  simp only [last_bytesAt] at hlast
  rwa [byteAt_recvInto_rest _ hrest, byteAt_recvInto_rest _ hrest] at hlast

theorem TruncatedConnect.not_independent (h : TruncatedConnect server datagram)
    (hwf : server.table.Wf) : ¬ ServerIndependent S env server addr datagram := by
  intro hind
  have hbyte := hind.byteAt_eq hwf h (Vector.replicate bufferSize 0)
    (Vector.replicate bufferSize 1)
  rw [byteAt_replicate 0 (by decide), byteAt_replicate 1 (by decide)] at hbyte
  exact absurd hbyte (by decide)

/-- The last byte of the public key behind a short reply. -/
theorem last_handshakeKeys {resp : IpcResponse} (c : UInt8) (h : resp.data.length < 32) :
    ((handshakeKeys (Vector.replicate 64 c).toList resp).1).get 31 = c := by
  unfold handshakeKeys
  rw [last_bytesAt, byteAt_append_right _ (by omega), byteAt_drop, byteAt_replicate c (by omega)]

/-- The key of a response is what its last 32 bytes say. -/
theorem connectResponse_key {header : Bytes} {status : UInt8} {vpnIp sessionId : UInt32}
    {key key' : Key} (h : connectResponse header status vpnIp sessionId key
      = connectResponse header status vpnIp sessionId key') : key = key' := by
  unfold connectResponse at h
  have hfields := List.append_cancel_left (List.append_cancel_left (List.append_cancel_left h))
  exact Vector.toList_inj.mp (List.append_cancel_left hfields)

/-- A short reply fills the public key up with what the buffer held. -/
theorem ShortHandshakeReply.not_independent
    (h : ShortHandshakeReply S env server addr datagram) (hwf : server.table.Wf)
    (hcomplete : ¬ TruncatedConnect server datagram) :
    ¬ ServerIndependent S env server addr datagram := by
  intro hind
  have htoken : ∀ b : Bytes, authTokenAt (recvInto b datagram) = authTokenAt datagram :=
    (connect_buffer h.header h.type hcomplete).resolve_left (not_le.mpr h.room)
  obtain ⟨i, hi⟩ := addClient_isSome hwf h.room addr env.now env.rand
  have hreply := enclaveCall_of_accepts h.running (by simp) h.accepts
  have hhs : enclaveHandshake S env.nonce env.delivery server.conn (offeredIp server.table addr)
      (authTokenAt datagram) = (_, some (IpcResponse.decode
        (handshakeStream S env server addr datagram))) := Prod.ext rfl hreply
  have hlen := h.accepts.length_data
  have hshort := h.short
  -- The two answers differ in the last byte of the key.
  have hanswered : ∀ c : UInt8, (handleUdpToTun S
      { env with
        buffer := (Vector.replicate bufferSize 0).toList
        respData := (Vector.replicate 64 c).toList } server addr datagram).2 = _ := fun c =>
    congrArg Prod.snd ((handleUdpToTun_connectReq h.header h.type).trans
      (handleConnectReq_answered hwf h.room (by rw [htoken]; exact hhs) hi))
  have hsame := (hind (Vector.replicate bufferSize 0) (Vector.replicate bufferSize 0)
    (Vector.replicate 64 0) (Vector.replicate 64 1)).2.2
  rw [hanswered 0, hanswered 1] at hsame
  have hkeys := connectResponse_key (Action.udpSend.inj (List.cons.inj hsame).1).2
  have hlast := congrArg (fun key : Key => key.get 31) hkeys
  dsimp only at hlast
  rw [last_handshakeKeys 0 (by omega), last_handshakeKeys 1 (by omega)] at hlast
  exact absurd hlast (by decide)

/-- On a connection without unread replies no handshake takes a short reply. -/
theorem Connection.Synced.not_shortHandshakeReply (hsync : server.conn.Synced) :
    ¬ ShortHandshakeReply S env server addr datagram := by
  intro h
  have hwhole : AcceptsReply .whole (ipcResponseSize + 64)
      (handshakeStream S env server addr datagram) :=
    { h.accepts with
      peek := fun _ hk => absurd hk (by simp [Delivery.whole])
      recv := fun _ hk => absurd hk (by simp [Delivery.whole]) }
  have hreply := enclaveCall_of_accepts h.running (by simp) hwhole
  have hlen := hwhole.length_data
  have hown : (enclaveHandshake S env.nonce .whole server.conn (offeredIp server.table addr)
      (authTokenAt datagram)).2 = _ := congrArg Prod.snd (enclaveHandshake_synced hsync)
  unfold enclaveHandshake at hown
  rw [hreply] at hown
  have hshort := h.short
  cases hhs : performHandshake S server.conn.enclave.km (offeredIp server.table addr)
      (authTokenAt datagram) with
  | none =>
      rw [hhs] at hown
      exact absurd hown (by simp)
  | some r =>
      rw [hhs] at hown
      have hdata := congrArg (fun resp : IpcResponse => resp.data.length) (Option.some.inj hown)
      simp only [okReply, List.length_append, Vector.length_toList] at hdata
      unfold handshakeStream at hlen hshort
      omega

/-! ## The client -/

/-- Whatever the buffer held before, the connect response leads to the same return value,
addresses and keys. -/
def ClientIndependent (S : Sodium) (env : ClientEnv) (client : Client) (datagram : Bytes) :
    Prop :=
  ∀ b₁ b₂ : Vector UInt8 bufferSize,
    let r₁ := recvConnectResp S env client (recvInto b₁.toList datagram)
    let r₂ := recvConnectResp S env client (recvInto b₂.toList datagram)
    r₁.2 = r₂.2 ∧ r₁.1.vpnIp = r₂.1.vpnIp ∧ r₁.1.sessionId = r₂.1.sessionId ∧
      r₁.1.serverPublicKey = r₂.1.serverPublicKey ∧ r₁.1.sessionKey = r₂.1.sessionKey

/-- The response is complete, or its received part makes the client refuse it. -/
def CompleteResponse (datagram : Bytes) : Prop :=
  57 ≤ datagram.length ∨
    (1 ≤ datagram.length ∧ byteAt datagram 0 ≠ PacketType.connectResp.toByte) ∨
    (17 ≤ datagram.length ∧ byteAt datagram 16 ≠ 0)

variable {clientEnv : ClientEnv} {client : Client} {buffer : Bytes}

theorem recvConnectResp_type (h : byteAt buffer 0 ≠ PacketType.connectResp.toByte) :
    recvConnectResp S clientEnv client buffer = (client, false) := by
  unfold recvConnectResp
  rw [if_pos h]

theorem recvConnectResp_status (h : byteAt buffer 16 ≠ 0) :
    recvConnectResp S clientEnv client buffer = (client, false) := by
  unfold recvConnectResp
  rw [if_pos h, ite_self]

/-- An accepted response sets address and public key, also when the key exchange fails. -/
theorem recvConnectResp_fields (htype : byteAt buffer 0 = PacketType.connectResp.toByte)
    (hstatus : byteAt buffer 16 = 0) :
    (recvConnectResp S clientEnv client buffer).1.vpnIp = u32At buffer 17 ∧
      (recvConnectResp S clientEnv client buffer).1.serverPublicKey = bytesAt 32 buffer 25 := by
  unfold recvConnectResp
  rw [if_neg (not_not.mpr htype), if_neg (not_not.mpr hstatus)]
  dsimp only
  cases cryptoEcdh S client.clientPrivateKey (bytesAt 32 buffer 25) <;> exact ⟨rfl, rfl⟩

theorem clientIndependent_of_complete (h : CompleteResponse datagram) :
    ClientIndependent S clientEnv client datagram := by
  intro b₁ b₂ r₁ r₂
  suffices hsame : ∀ b : Bytes, recvConnectResp S clientEnv client (recvInto b datagram)
      = recvConnectResp S clientEnv client datagram by
    show (recvConnectResp S clientEnv client _).2 = (recvConnectResp S clientEnv client _).2 ∧ _
    simp only [r₁, r₂, hsame, and_self]
  intro b
  rcases h with hlen | ⟨hlen, htype⟩ | ⟨hlen, hstatus⟩
  · have hrecv : 57 ≤ recvLen datagram := le_recvLen (by decide) hlen
    unfold recvConnectResp
    rw [byteAt_recvInto b (by omega), byteAt_recvInto b (by omega),
      u32At_recvInto b (by omega), u32At_recvInto b (by omega),
      bytesAt_recvInto b (by omega)]
  · have hrecv : 1 ≤ recvLen datagram := le_recvLen (by decide) hlen
    rw [recvConnectResp_type htype, recvConnectResp_type]
    rwa [byteAt_recvInto b hrecv]
  · have hrecv : 17 ≤ recvLen datagram := le_recvLen (by decide) hlen
    rw [recvConnectResp_status hstatus, recvConnectResp_status]
    rwa [byteAt_recvInto b hrecv]

/-- A buffer with the type and status of an accepted response, and `c` in its fields. -/
def leftover (c : UInt8) : Vector UInt8 bufferSize :=
  Vector.ofFn fun i => if i.val = 0 then PacketType.connectResp.toByte
    else if i.val ≤ 16 then 0 else c

theorem byteAt_leftover (c : UInt8) {off : ℕ} (h : off < bufferSize) :
    byteAt (leftover c).toList off =
      if off = 0 then PacketType.connectResp.toByte else if off ≤ 16 then 0 else c := by
  unfold byteAt leftover
  rw [Vector.toList_ofFn, List.getD_eq_getElem _ _ (by rwa [List.length_ofFn]),
    List.getElem_ofFn]

/-- A datagram that ends before the status: the leftover bytes decide everything. -/
theorem vpnIp_leftover (hshort : datagram.length < 17)
    (htype : 1 ≤ datagram.length → byteAt datagram 0 = PacketType.connectResp.toByte)
    (c : UInt8) :
    (recvConnectResp S clientEnv client (recvInto (leftover c).toList datagram)).1.vpnIp
      = ofLe32 c c c c := by
  have hrecv : recvLen datagram = datagram.length :=
    recvLen_eq (by unfold bufferSize; omega)
  have hbyte : ∀ off, 16 ≤ off → off < bufferSize →
      byteAt (recvInto (leftover c).toList datagram) off = if off ≤ 16 then 0 else c := by
    intro off hlo hhi
    rw [byteAt_recvInto_rest _ (by omega), byteAt_leftover c hhi,
      if_neg (show ¬ off = 0 by omega)]
  have htype' : byteAt (recvInto (leftover c).toList datagram) 0
      = PacketType.connectResp.toByte := by
    by_cases hempty : 1 ≤ datagram.length
    · rw [byteAt_recvInto _ (by omega), htype hempty]
    · rw [byteAt_recvInto_rest _ (by omega), byteAt_leftover c (by decide)]
      rfl
  rw [(recvConnectResp_fields htype' (hbyte 16 (by decide) (by decide))).1]
  unfold u32At
  rw [hbyte 17 (by decide) (by decide), hbyte 18 (by decide) (by decide),
    hbyte 19 (by decide) (by decide), hbyte 20 (by decide) (by decide)]
  rfl

/-- A datagram that ends inside the fields: the last byte of the key is leftover. -/
theorem ClientIndependent.byteAt_eq (hind : ClientIndependent S clientEnv client datagram)
    (hlo : 17 ≤ datagram.length) (hhi : datagram.length < 57)
    (htype : byteAt datagram 0 = PacketType.connectResp.toByte)
    (hstatus : byteAt datagram 16 = 0) (b₁ b₂ : Vector UInt8 bufferSize) :
    byteAt b₁.toList 56 = byteAt b₂.toList 56 := by
  have hrecv : recvLen datagram = datagram.length :=
    recvLen_eq (by unfold bufferSize; omega)
  have hkey : ∀ b : Vector UInt8 bufferSize,
      (recvConnectResp S clientEnv client (recvInto b.toList datagram)).1.serverPublicKey
        = bytesAt 32 (recvInto b.toList datagram) 25 := by
    intro b
    refine (recvConnectResp_fields ?_ ?_).2
    · rw [byteAt_recvInto _ (by omega), htype]
    · rw [byteAt_recvInto _ (by omega), hstatus]
  have hsame := (hind b₁ b₂).2.2.2.1
  rw [hkey b₁, hkey b₂] at hsame
  have hlast := congrArg (fun key : Key => key.get 31) hsame
  simp only [last_bytesAt] at hlast
  rwa [byteAt_recvInto_rest _ (by omega), byteAt_recvInto_rest _ (by omega)] at hlast

theorem not_clientIndependent (h : ¬ CompleteResponse datagram) :
    ¬ ClientIndependent S clientEnv client datagram := by
  intro hind
  unfold CompleteResponse at h
  push Not at h
  obtain ⟨hlen, htype, hstatus⟩ := h
  by_cases hlo : 17 ≤ datagram.length
  · have hbyte := hind.byteAt_eq hlo hlen (htype (by omega)) (hstatus hlo)
      (Vector.replicate bufferSize 0) (Vector.replicate bufferSize 1)
    rw [byteAt_replicate 0 (by decide), byteAt_replicate 1 (by decide)] at hbyte
    exact absurd hbyte (by decide)
  · have hfields : ∀ c, (recvConnectResp S clientEnv client
        (recvInto (leftover c).toList datagram)).1.vpnIp = ofLe32 c c c c :=
      vpnIp_leftover (not_le.mp hlo) htype
    have hsame := (hind (leftover 0) (leftover 1)).2.1
    rw [hfields 0, hfields 1] at hsame
    exact absurd hsame (by decide)

/-! ## Both -/

/-- **Which datagrams are handled by what was received alone.**  The server of any reachable
state fails on a CONNECT_REQ shorter than 80 bytes while its table has room, and on any
CONNECT_REQ whose handshake takes a reply without a whole public key; on a connection in step
there is none of the latter.  The client fails on a response shorter than 57 bytes that its
received part does not make it refuse. -/
theorem receivedBytes_decide (S : Sodium) (env : Env) {server : Server}
    (hreach : Reachable S server) (addr : SockAddr) (clientEnv : ClientEnv) (client : Client)
    (datagram : Bytes) :
    (ServerIndependent S env server addr datagram ↔
      ¬ TruncatedConnect server datagram ∧
        ¬ ShortHandshakeReply S env server addr datagram) ∧
      (server.conn.Synced → ¬ ShortHandshakeReply S env server addr datagram) ∧
      (ClientIndependent S clientEnv client datagram ↔ CompleteResponse datagram) := by
  have hwf := hreach.wf
  refine ⟨⟨fun hind => ?_, fun h => serverIndependent_of_complete hwf h.1 h.2⟩,
    Connection.Synced.not_shortHandshakeReply, ⟨fun hind => ?_, clientIndependent_of_complete⟩⟩
  · have hcomplete : ¬ TruncatedConnect server datagram := fun h => h.not_independent hwf hind
    exact ⟨hcomplete, fun h => h.not_independent hwf hcomplete hind⟩
  · by_contra h
    exact not_clientIndependent h hind

/-- A whole CONNECT_REQ to a server with one client, and a whole CONNECT_RESP. -/
theorem receivedBytes_decide_connect :
    ServerIndependent sampleSodium sampleEnv (oneClientServer ⟨1, 1⟩) ⟨2, 2⟩
        (connectRequest (initVpnHeader .connectReq 64 1 0) (Vector.replicate 32 0)
          (Vector.replicate 32 2)) ∧
      ClientIndependent sampleSodium ⟨0, 0, Vector.replicate 12 0, []⟩
        (initVpnClient sampleSodium zeroKey)
        (connectResponse (initVpnHeader .connectResp 41 2 0) 0 0x0300080a 1
          (Vector.replicate 32 2)) := by
  obtain ⟨hserver, hsynced, -⟩ := receivedBytes_decide sampleSodium sampleEnv
    (oneClientServer_reachable ⟨1, 1⟩) ⟨2, 2⟩ ⟨0, 0, Vector.replicate 12 0, []⟩
    (initVpnClient sampleSodium zeroKey)
    (connectRequest (initVpnHeader .connectReq 64 1 0) (Vector.replicate 32 0)
      (Vector.replicate 32 2))
  obtain ⟨-, -, hclient⟩ := receivedBytes_decide sampleSodium sampleEnv
    (oneClientServer_reachable ⟨1, 1⟩) ⟨2, 2⟩ ⟨0, 0, Vector.replicate 12 0, []⟩
    (initVpnClient sampleSodium zeroKey)
    (connectResponse (initVpnHeader .connectResp 41 2 0) 0 0x0300080a 1 (Vector.replicate 32 2))
  refine ⟨hserver.mpr ⟨fun h => absurd h.2.2.1 (by decide), hsynced ?_⟩,
    hclient.mpr (.inl (by decide))⟩
  exact ⟨by decide +kernel, by decide +kernel⟩

/-- **A CONNECT_REQ that is a bare header** is answered with a key exchange on 32 bytes of
leftover memory. -/
theorem connect_header_uses_leftover :
    ¬ ServerIndependent sampleSodium sampleEnv (initServer sampleSodium zeroKey) ⟨1, 1⟩
      (initVpnHeader .connectReq 64 1 0) :=
  TruncatedConnect.not_independent ⟨by decide, by decide, by decide, by decide⟩
    initClientTable_wf

end Vpn
