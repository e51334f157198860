/-
# Both ends of the CONNECT exchange

The client's public key travels in the field `auth_token` of a CONNECT_REQ, through the
server, into an IPC request; the server's public key comes back through an IPC reply and
the CONNECT_RESP.  The lemmas read the fields of the two packets back where the receiver
looks for them; `connect_exchange_agrees` follows one exchange from end to end.

The server does not check whose reply it reads: if an earlier reply is still in the stream, the
client gets the bytes of that one for the server's public key (`stale_reply_wrong_key`).
-/
import CloudVpn.Client
import CloudVpn.SessionTables
import CloudVpn.ServerInvariant

open Memory Slots Runs

namespace Vpn

/-! ## Fields of the packets -/

/-- The server finds the client's public key in the CONNECT_REQ. -/
theorem authTokenAt_connectRequest {header : Bytes} (hheader : header.length = 16)
    (username : Vector UInt8 32) (authToken : Key) (buffer : Bytes) :
    authTokenAt (recvInto buffer (connectRequest header username authToken)) = authToken := by
  have hlen : (connectRequest header username authToken).length = 80 := by
    simp [connectRequest, hheader]
  unfold authTokenAt
  rw [recvInto_eq buffer (by rw [hlen]; decide)]
  unfold connectRequest
  rw [List.append_assoc, bytesAt_append_right _ (by omega), hheader, List.append_assoc,
    bytesAt_append_right _ (by simp), Vector.length_toList]
  exact bytesAt_toList authToken _

/-- The fields that the client reads from a CONNECT_RESP. -/
theorem connectResponse_fields {header : Bytes} (hheader : header.length = 16)
    (status : UInt8) (vpnIp sessionId : UInt32) (serverPublicKey : Key) (rest : Bytes) :
    byteAt (connectResponse header status vpnIp sessionId serverPublicKey ++ rest) 16
        = status ∧
      u32At (connectResponse header status vpnIp sessionId serverPublicKey ++ rest) 17
        = vpnIp ∧
      u32At (connectResponse header status vpnIp sessionId serverPublicKey ++ rest) 21
        = sessionId ∧
      bytesAt 32 (connectResponse header status vpnIp sessionId serverPublicKey ++ rest) 25
        = serverPublicKey := by
  unfold connectResponse
  rw [List.append_assoc, List.append_assoc, List.append_assoc, List.append_assoc]
  refine ⟨?_, ?_, ?_, ?_⟩
  · rw [byteAt_append_right _ (by omega), hheader]
    rfl
  · rw [u32At_append_right _ (by omega), hheader, u32At_append_right _ (by simp)]
    exact u32At_le32 vpnIp _
  · rw [u32At_append_right _ (by omega), hheader, u32At_append_right _ (by simp),
      u32At_append_right _ (by simp)]
    exact u32At_le32 sessionId _
  · rw [bytesAt_append_right _ (by omega), hheader, bytesAt_append_right _ (by simp),
      bytesAt_append_right _ (by simp), bytesAt_append_right _ (by simp)]
    exact bytesAt_toList serverPublicKey _

/-- The server hands on the public key from the reply to its handshake, whatever the buffer
held before. -/
theorem handshakeKeys_okReply (old : Bytes) (conn : Connection)
    (serverPublicKey sessionKey : Key) :
    (handshakeKeys old (okReply conn (serverPublicKey.toList ++ sessionKey.toList))).1
      = serverPublicKey := by
  unfold handshakeKeys okReply
  rw [List.append_assoc]
  exact bytesAt_toList serverPublicKey _

/-! ## The client's side -/

/-- A CONNECT_RESP with status 0 makes `vpn_connect` take over its fields and derive the
session key. -/
theorem vpnConnect_connectResponse {S : Sodium} (env : ClientEnv) {client : Client}
    (username : Bytes) (length : UInt16) (seq : UInt32) (ts : UInt64)
    (vpnIp sessionId : UInt32) {serverPublicKey sharedSecret : Key}
    (hecdh : cryptoEcdh S client.clientPrivateKey serverPublicKey = some sharedSecret) :
    let result := vpnConnect S env client username
      (some (connectResponse (initVpnHeader .connectResp length seq ts) 0 vpnIp sessionId
        serverPublicKey))
    result.2 = true ∧ result.1.vpnIp = vpnIp ∧ result.1.sessionId = ntohl sessionId ∧
      result.1.sessionKey = S.kdfDeriveFromKey 1 sessionContext sharedSecret := by
  have hlen : (connectResponse (initVpnHeader .connectResp length seq ts) 0 vpnIp sessionId
      serverPublicKey).length ≤ bufferSize := by
    simp [connectResponse, bufferSize]
  unfold vpnConnect connectBuffer
  dsimp only
  rw [recvInto_eq _ hlen]
  generalize List.drop _ _ = rest
  obtain ⟨hstatus, hip, hsid, hpk⟩ := connectResponse_fields
    (length_initVpnHeader .connectResp length seq ts) 0 vpnIp sessionId serverPublicKey rest
  have htype : byteAt (connectResponse (initVpnHeader .connectResp length seq ts) 0 vpnIp
      sessionId serverPublicKey ++ rest) 0 = PacketType.connectResp.toByte := rfl
  have hecdh' : cryptoEcdh S (sendConnectReq env client username).1.clientPrivateKey
      serverPublicKey = some sharedSecret := hecdh
  unfold recvConnectResp
  simp only [htype, hstatus, hip, hsid, hpk, hecdh', ne_eq, not_true_eq_false, if_false,
    and_self]

/-- The shared secret that the enclave computes from the client's public key is the one
that the client computes from the server's. -/
theorem cryptoEcdh_comm {S : Sodium} (hsym : S.BoxSymmetric) (a b : Key) :
    cryptoEcdh S a (S.boxPublicKey b) = cryptoEcdh S b (S.boxPublicKey a) := hsym b a

/-! ## The exchange -/

/-- On a connection without unread replies a handshake that the enclave accepts returns its own
reply, if that arrives whole. -/
theorem enclaveHandshake_returns {S : Sodium} {nonce : Nonce} {d : Delivery} {conn : Connection}
    {vpnIp : UInt32} {pk key : Key} {km : KeyManager}
    (hhs : performHandshake S conn.enclave.km vpnIp pk = some (km, key))
    (hsync : conn.Synced) (hd : d.Covers (ipcResponseSize + 64)) :
    (enclaveHandshake S nonce d conn vpnIp pk).2
      = some (callReply S nonce conn .handshake vpnIp pk.toList) := by
  have hreply : callReply S nonce conn .handshake vpnIp pk.toList = _ := callReply_handshake hhs
  have hdata : (callReply S nonce conn .handshake vpnIp pk.toList).data.length = 64 := by
    rw [hreply]
    simp [okReply]
  have hlen : (callReply S nonce conn .handshake vpnIp pk.toList).encode.length
      = ipcResponseSize + 64 := by
    rw [IpcResponse.length_encode (by omega), hdata]
  unfold enclaveHandshake
  rw [enclaveCall_synced hsync (by simp) (by rw [hdata]) (by decide) (by rw [hlen]; exact hd)]
  exact if_pos (by rw [hreply]; rfl)

/-- A client with a key pair sends a CONNECT_REQ to a server that has room and whose handshake
succeeds: the enclave accepts the key, and `enclave_handshake` returns the reply to this call.
The server answers the client; with that answer `vpn_connect` returns 0, and the client has
the session key of the enclave and the VPN address and session id of its entry. -/
theorem connectExchange_of_reply {S : Sodium} (hsym : S.BoxSymmetric) {server : Server}
    (hreach : Reachable S server) {client : Client}
    (hpair : client.clientPublicKey = S.boxPublicKey client.clientPrivateKey)
    {addr : SockAddr} {env : Env} (clientEnv : ClientEnv) (username : Bytes)
    (hroom : server.table.count < maxClients) {km : KeyManager} {key : Key}
    (hhs : performHandshake S server.conn.enclave.km (offeredIp server.table addr)
      client.clientPublicKey = some (km, key))
    (hreply : (enclaveHandshake S env.nonce env.delivery server.conn
      (offeredIp server.table addr) client.clientPublicKey).2
        = some (callReply S env.nonce server.conn .handshake (offeredIp server.table addr)
          client.clientPublicKey.toList)) :
    let request := (sendConnectReq clientEnv client username).2
    let server' := (handleUdpToTun S env server addr request).1
    ∃ response,
      (handleUdpToTun S env server addr request).2 = [.udpSend addr response] ∧
      let result := vpnConnect S clientEnv client username (some response)
      result.2 = true ∧ result.1.sessionKey = key ∧
      ∃ i, findClientByAddr server'.table addr = some i ∧
        result.1.vpnIp = (server'.table.clients i).vpnIp ∧
        result.1.sessionId = (server'.table.clients i).sessionId := by
  intro request server'
  have hwf := hreach.wf
  have hrequest : authTokenAt (recvInto env.buffer request) = client.clientPublicKey :=
    authTokenAt_connectRequest rfl _ _ _
  have hudp : handleUdpToTun S env server addr request
      = handleConnectReq S env server addr (recvInto env.buffer request) :=
    handleUdpToTun_connectReq (by simp [request, sendConnectReq, connectRequest, vpnHeaderSize])
      rfl
  obtain ⟨conn, hcall⟩ : ∃ conn, enclaveHandshake S env.nonce env.delivery server.conn
      (offeredIp server.table addr) (authTokenAt (recvInto env.buffer request))
      = (conn, some (okReply server.conn
        (server.conn.enclave.km.serverPublicKey.toList ++ key.toList))) := by
    rw [hrequest]
    exact ⟨_, Prod.ext rfl (hreply.trans (congrArg some (callReply_handshake hhs)))⟩
  obtain ⟨i, hi⟩ := addClient_isSome hwf hroom addr env.now env.rand
  have hanswer := hudp.trans (handleConnectReq_answered hwf hroom hcall hi)
  rw [handshakeKeys_okReply] at hanswer
  -- The entry found for the peer has the offered address.
  have hip : ((addClient server.table addr env.now env.rand).1.clients i).vpnIp
      = offeredIp server.table addr := by
    obtain ⟨x₀, haddr₀, hip₀, hlive⟩ :=
      liveSessions_addClient hwf hroom addr env.now env.rand
    have hx₀ := (addClient_wf hwf addr env.now env.rand).session_eq hi
      (by rw [hlive]; exact Set.mem_insert x₀ _) haddr₀
    rw [← hip₀, hx₀]
    rfl
  -- The client's shared secret is the enclave's, by the symmetry of the exchange.
  obtain ⟨sharedSecret, hserver, hkey⟩ := Option.map_eq_some_iff.mp hhs
  obtain ⟨-, hkey⟩ := Prod.mk.inj hkey
  rw [hpair, ← cryptoEcdh_comm hsym, ← hreach.keypair] at hserver
  refine ⟨_, congrArg Prod.snd hanswer, ?_⟩
  obtain ⟨hok, hvpnIp, hsid, hsession⟩ := vpnConnect_connectResponse clientEnv username 41
    (server.globalSequence + 1) env.timestampMs (offeredIp server.table addr)
    (htonl ((addClient server.table addr env.now env.rand).1.clients i).sessionId) hserver
  have htable : server'.table = (addClient server.table addr env.now env.rand).1 :=
    congrArg (fun r => r.1.table) hanswer
  refine ⟨hok, hsession.trans hkey, i, by rw [htable]; exact hi, ?_, ?_⟩
  · rw [htable, hip]
    exact hvpnIp
  · rw [htable]
    exact hsid.trans (ntohl_htonl _)

/-- **Both ends of the CONNECT exchange agree** on a connection without unread replies, if the
reply to the handshake arrives whole. -/
theorem connect_exchange_agrees {S : Sodium} (hsym : S.BoxSymmetric) {server : Server}
    (hreach : Reachable S server) {client : Client}
    (hpair : client.clientPublicKey = S.boxPublicKey client.clientPrivateKey)
    {addr : SockAddr} {env : Env} (clientEnv : ClientEnv) (username : Bytes)
    (hroom : server.table.count < maxClients) {km : KeyManager} {key : Key}
    (hhs : performHandshake S server.conn.enclave.km (offeredIp server.table addr)
      client.clientPublicKey = some (km, key))
    (hsync : server.conn.Synced) (hd : env.delivery.Covers (ipcResponseSize + 64)) :
    let request := (sendConnectReq clientEnv client username).2
    let server' := (handleUdpToTun S env server addr request).1
    ∃ response,
      (handleUdpToTun S env server addr request).2 = [.udpSend addr response] ∧
      let result := vpnConnect S clientEnv client username (some response)
      result.2 = true ∧ result.1.sessionKey = key ∧
      ∃ i, findClientByAddr server'.table addr = some i ∧
        result.1.vpnIp = (server'.table.clients i).vpnIp ∧
        result.1.sessionId = (server'.table.clients i).sessionId :=
  connectExchange_of_reply hsym hreach hpair clientEnv username hroom hhs
    (enclaveHandshake_returns hhs hsync hd)

/-- What the client takes from outside in the samples. -/
def sampleClientEnv : ClientEnv := ⟨0, 0, Vector.replicate 12 0, []⟩

/-- A client with the secret key of sevens connects to a server that has just started. -/
theorem connect_exchange_agrees_first :
    ∃ key,
      let client := initVpnClient sampleSodium (Vector.replicate 32 7)
      let request := (sendConnectReq sampleClientEnv client []).2
      let outcome := handleUdpToTun sampleSodium sampleEnv
        (initServer sampleSodium zeroKey) ⟨1, 1⟩ request
      ∃ response, outcome.2 = [.udpSend ⟨1, 1⟩ response] ∧
        let result := vpnConnect sampleSodium sampleClientEnv client [] (some response)
        result.2 = true ∧ result.1.sessionKey = key ∧
        ∃ i, findClientByAddr outcome.1.table ⟨1, 1⟩ = some i ∧
          result.1.vpnIp = (outcome.1.table.clients i).vpnIp ∧
          result.1.sessionId = (outcome.1.table.clients i).sessionId := by
  have hsome : (performHandshake sampleSodium
      (initServer sampleSodium zeroKey).conn.enclave.km
      (offeredIp (initServer sampleSodium zeroKey).table ⟨1, 1⟩)
      (initVpnClient sampleSodium (Vector.replicate 32 7)).clientPublicKey).isSome = true := by
    decide +kernel
  obtain ⟨⟨km, key⟩, hhs⟩ := Option.isSome_iff_exists.mp hsome
  exact ⟨key, connect_exchange_agrees sampleSodium_boxSymmetric ⟨zeroKey, [], rfl⟩ rfl
    sampleClientEnv [] (by decide) hhs ⟨rfl, rfl⟩ (Delivery.whole_covers _)⟩

/-- A DATA packet of the first client that holds 32 bytes 9.  The peek for the reply of the
enclave gets 3 bytes, so that the reply stays in the stream. -/
def unreadData : Event :=
  .udp ⟨1, 1⟩ (initVpnHeader .data 60 1 0 ++ List.replicate 12 0 ++ List.replicate 32 9 ++
    List.replicate 16 1) { sampleEnv with delivery := ⟨some 3, none⟩ }

/-- **The exchange on a connection that is out of step.**  The handshake for the second client
reads the packet of the first one for its reply and succeeds, and the second client takes these
32 bytes for the server's public key. -/
theorem stale_reply_wrong_key :
    let server := serverStep sampleSodium (oneClientServer ⟨1, 1⟩) unreadData
    let client := initVpnClient sampleSodium (Vector.replicate 32 7)
    let request := (sendConnectReq sampleClientEnv client []).2
    Reachable sampleSodium server ∧ server.table.count < maxClients ∧
      (enclaveHandshake sampleSodium sampleEnv.nonce sampleEnv.delivery server.conn
        (offeredIp server.table ⟨2, 2⟩) client.clientPublicKey).2.isSome = true ∧
      ∃ km key response,
        performHandshake sampleSodium server.conn.enclave.km (offeredIp server.table ⟨2, 2⟩)
          client.clientPublicKey = some (km, key) ∧
        (handleUdpToTun sampleSodium sampleEnv server ⟨2, 2⟩ request).2
          = [.udpSend ⟨2, 2⟩ response] ∧
        let result := vpnConnect sampleSodium sampleClientEnv client [] (some response)
        result.2 = true ∧ result.1.sessionKey ≠ key := by
  intro server client request
  have hreach : Reachable sampleSodium server :=
    ⟨zeroKey, [sampleConnect ⟨1, 1⟩ 1, unreadData], rfl⟩
  refine ⟨hreach, by decide +kernel, by decide +kernel, ?_⟩
  have hsome : (performHandshake sampleSodium server.conn.enclave.km
      (offeredIp server.table ⟨2, 2⟩) client.clientPublicKey).isSome = true := by
    decide +kernel
  obtain ⟨⟨km, key⟩, hhs⟩ := Option.isSome_iff_exists.mp hsome
  have hkey : (performHandshake sampleSodium server.conn.enclave.km
      (offeredIp server.table ⟨2, 2⟩) client.clientPublicKey).map Prod.snd = some key := by
    rw [hhs]
    rfl
  refine ⟨km, key, connectResponse (initVpnHeader .connectResp 41 2 0) 0 0x0300080a
    (htonl ((handleUdpToTun sampleSodium sampleEnv server ⟨2, 2⟩ request).1.table.clients
      1).sessionId) (Vector.replicate 32 9), hhs, by decide +kernel, by decide +kernel, ?_⟩
  intro hagrees
  rw [← hagrees] at hkey
  exact absurd hkey (by decide +kernel)

end Vpn
