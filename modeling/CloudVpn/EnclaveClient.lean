/-
# The server's side of the enclave connection

Model of `enclave_client.c`.  The connection is a stream socket: `stream` holds the bytes
of replies that the enclave has sent and the server has not read.  One call sends its
request, which the enclave answers at once, and then reads with two `recv` calls.  How many
bytes each of these gets is up to the transport: a `Delivery` limits them, and `none` means
that a `recv` gets all it asked for and finds.

A call returns the response it has read, `none` for the return value -1.  The functions
copy their results out of that response: its data for `enclave_encrypt` and
`enclave_decrypt`, two keys for `enclave_handshake` (`handshakeKeys`).  The keys are copied
whatever the length of the response: behind a shorter one they are what the buffer held
before.
-/
import CloudVpn.Enclave

open Memory

namespace Vpn

/-! ## The connection -/

/-- The limits that the transport puts on the two `recv` calls of one request. -/
structure Delivery where
  peek : Option ℕ
  recv : Option ℕ
  deriving DecidableEq

/-- A transport that hands over everything it has. -/
def Delivery.whole : Delivery := ⟨none, none⟩

/-- The bytes a `recv` for `want` bytes gets from the stream. -/
def received (limit : Option ℕ) (want : ℕ) (stream : Bytes) : Bytes :=
  stream.take (min want (limit.getD want))

/-- The enclave, the bytes on their way to the server, and `global_request_id`. -/
structure Connection where
  enclave : Enclave
  stream : Bytes
  globalRequestId : UInt32

/-- `send_ipc_request`.  A request to an enclave that has stopped is not sent. -/
def sendIpcRequest (S : Sodium) (nonce : Nonce) (d : Delivery) (conn : Connection)
    (request : Bytes) (respMaxLen : ℕ) : Connection × Option IpcResponse :=
  if conn.enclave.running then
    let (enclave, reply) := handleIpcRequest S nonce conn.enclave request
    let stream := conn.stream ++ reply
    let header := received d.peek ipcResponseSize stream
    let unread : Connection := { conn with enclave := enclave, stream := stream }
    if header.length < ipcResponseSize then (unread, none)
    else
      let totalLen := ipcTotalLen header
      if totalLen > respMaxLen then (unread, none)
      else
        let resp := received d.recv totalLen stream
        let read : Connection := { unread with stream := stream.drop resp.length }
        if resp.length ≠ totalLen then (read, none)
        else if byteAt resp 4 ≠ 0 then (read, none)
        else (read, some (IpcResponse.decode resp))
  else (conn, none)

/-- The shape of the client functions: build a request under the next id and send it. -/
def enclaveCall (S : Sodium) (nonce : Nonce) (d : Delivery) (conn : Connection)
    (command : IpcCommand) (vpnIp : UInt32) (data : Bytes) (respMaxLen : ℕ) :
    Connection × Option IpcResponse :=
  let id := conn.globalRequestId + 1
  sendIpcRequest S nonce d { conn with globalRequestId := id }
    (initIpcRequest id command vpnIp data).encode respMaxLen

/-! ## The client functions -/

section
variable (S : Sodium) (nonce : Nonce) (d : Delivery) (conn : Connection)

/-- `enclave_ping`. -/
def enclavePing : Connection × Option IpcResponse :=
  enclaveCall S nonce d conn .ping 0 [] ipcResponseSize

/-- `enclave_add_key`. -/
def enclaveAddKey (vpnIp : UInt32) (sessionKey : Key) : Connection × Option IpcResponse :=
  enclaveCall S nonce d conn .addKey vpnIp sessionKey.toList ipcResponseSize

/-- `enclave_remove_key`. -/
def enclaveRemoveKey (vpnIp : UInt32) : Connection × Option IpcResponse :=
  enclaveCall S nonce d conn .removeKey vpnIp [] ipcResponseSize

/-- `enclave_handshake`. -/
def enclaveHandshake (vpnIp : UInt32) (clientPublicKey : Key) :
    Connection × Option IpcResponse :=
  enclaveCall S nonce d conn .handshake vpnIp clientPublicKey.toList (ipcResponseSize + 64)

/-- `enclave_encrypt`. -/
def enclaveEncrypt (vpnIp : UInt32) (plaintext : Bytes) : Connection × Option IpcResponse :=
  if plaintext.length > ipcMaxDataSize then (conn, none)
  else enclaveCall S nonce d conn .encrypt vpnIp plaintext (ipcResponseSize + ipcMaxDataSize)

/-- `enclave_decrypt`. -/
def enclaveDecrypt (vpnIp : UInt32) (ciphertext : Bytes) : Connection × Option IpcResponse :=
  if ciphertext.length > ipcMaxDataSize then (conn, none)
  else enclaveCall S nonce d conn .decrypt vpnIp ciphertext (ipcResponseSize + ipcMaxDataSize)

end

/-- The server's public key and the session key that `enclave_handshake` copies out of its
`resp_buffer`.  `old` is what the buffer held behind the header before the reply came. -/
def handshakeKeys (old : Bytes) (resp : IpcResponse) : Key × Key :=
  let data := resp.data ++ old.drop resp.data.length
  (bytesAt 32 data 0, bytesAt 32 data 32)

/-! ## What calls do to the enclave -/

/-- What every request keeps, every call keeps, however the replies are delivered. -/
theorem enclaveCall_enclave {S : Sodium} {I : Enclave → Prop}
    (hI : ∀ nonce enclave req, I enclave → I (handleIpcCommand S nonce enclave req).1)
    {conn : Connection} (h : I conn.enclave) (nonce : Nonce) (d : Delivery)
    (command : IpcCommand) (vpnIp : UInt32) (data : Bytes) (respMaxLen : ℕ) :
    I (enclaveCall S nonce d conn command vpnIp data respMaxLen).1.enclave := by
  have hnext := hI nonce conn.enclave (IpcRequest.decode
    (initIpcRequest (conn.globalRequestId + 1) command vpnIp data).encode) h
  unfold enclaveCall sendIpcRequest handleIpcRequest
  dsimp only
  split_ifs <;> assumption

/-! ## Calls that read their own reply -/

/-- The transport lets both `recv` calls have a reply of `n` bytes. -/
def Delivery.Covers (d : Delivery) (n : ℕ) : Prop :=
  (∀ k, d.peek = some k → ipcResponseSize ≤ k) ∧ (∀ k, d.recv = some k → n ≤ k)

theorem Delivery.whole_covers (n : ℕ) : Delivery.whole.Covers n :=
  ⟨fun _ h => absurd h (by simp [Delivery.whole]),
    fun _ h => absurd h (by simp [Delivery.whole])⟩

theorem received_eq_take {limit : Option ℕ} {want : ℕ} (stream : Bytes)
    (h : ∀ k, limit = some k → want ≤ k) : received limit want stream = stream.take want := by
  unfold received
  cases limit with
  | none => simp
  | some k => rw [Option.getD_some, min_eq_left (h k rfl)]

/-- A `recv` that gets all it asked for gets the front of the stream. -/
theorem received_eq_take_of_length {limit : Option ℕ} {want : ℕ} {stream : Bytes}
    (h : want ≤ (received limit want stream).length) :
    received limit want stream = stream.take want := by
  unfold received at h ⊢
  rw [List.length_take] at h
  rw [min_eq_left (show want ≤ limit.getD want by omega)]

variable {S : Sodium} {nonce : Nonce} {d : Delivery} {conn : Connection}

/-- The enclave runs and no reply is left in the stream. -/
structure Connection.Synced (conn : Connection) : Prop where
  running : conn.enclave.running = true
  stream_nil : conn.stream = []

/-- The request that a call sends. -/
def callRequest (conn : Connection) (command : IpcCommand) (vpnIp : UInt32) (data : Bytes) :
    IpcRequest :=
  initIpcRequest (conn.globalRequestId + 1) command vpnIp data

/-- The reply that the enclave makes to a call. -/
def callReply (S : Sodium) (nonce : Nonce) (conn : Connection) (command : IpcCommand)
    (vpnIp : UInt32) (data : Bytes) : IpcResponse :=
  (handleIpcCommand S nonce conn.enclave (callRequest conn command vpnIp data)).2

/-- The enclave after a call. -/
def callEnclave (S : Sodium) (nonce : Nonce) (conn : Connection) (command : IpcCommand)
    (vpnIp : UInt32) (data : Bytes) : Enclave :=
  (handleIpcCommand S nonce conn.enclave (callRequest conn command vpnIp data)).1

theorem callReply_length_le (S : Sodium) (nonce : Nonce) (conn : Connection)
    (command : IpcCommand) (vpnIp : UInt32) (data : Bytes) :
    (callReply S nonce conn command vpnIp data).data.length
      ≤ replyBound (some command) data.length := by
  have h := (handleIpcCommand_outcome S nonce conn.enclave
    (callRequest conn command vpnIp data)).length_le
  have hcmd : (callRequest conn command vpnIp data).command = command.toByte := rfl
  rwa [hcmd, IpcCommand.ofByte_toByte] at h

theorem callReply_requestId (S : Sodium) (nonce : Nonce) (conn : Connection)
    (command : IpcCommand) (vpnIp : UInt32) (data : Bytes) :
    (callReply S nonce conn command vpnIp data).requestId
      = htonl (conn.globalRequestId + 1) :=
  (handleIpcCommand_outcome S nonce conn.enclave
    (callRequest conn command vpnIp data)).requestId_eq

theorem callEnclave_running (S : Sodium) (nonce : Nonce) (conn : Connection)
    {command : IpcCommand} (vpnIp : UInt32) (data : Bytes) (h : command ≠ .shutdown) :
    (callEnclave S nonce conn command vpnIp data).running = conn.enclave.running := by
  apply (handleIpcCommand_outcome S nonce conn.enclave
    (callRequest conn command vpnIp data)).running_eq
  have hcmd : (callRequest conn command vpnIp data).command = command.toByte := rfl
  rw [hcmd, IpcCommand.ofByte_toByte]
  exact fun hs => h (Option.some.inj hs)

/-- What `send_ipc_request` does, in terms of the fields of request and reply. -/
theorem enclaveCall_eq {command : IpcCommand} {vpnIp : UInt32} {data : Bytes}
    {respMaxLen : ℕ} (hrun : conn.enclave.running = true) (hdata : data.length < 65536) :
    enclaveCall S nonce d conn command vpnIp data respMaxLen =
      let reply := (callReply S nonce conn command vpnIp data).encode
      let stream := conn.stream ++ reply
      let header := received d.peek ipcResponseSize stream
      let unread : Connection :=
        ⟨callEnclave S nonce conn command vpnIp data, stream, conn.globalRequestId + 1⟩
      if header.length < ipcResponseSize then (unread, none)
      else if ipcTotalLen header > respMaxLen then (unread, none)
      else
        let resp := received d.recv (ipcTotalLen header) stream
        let read : Connection := { unread with stream := stream.drop resp.length }
        if resp.length ≠ ipcTotalLen header then (read, none)
        else if byteAt resp 4 ≠ 0 then (read, none)
        else (read, some (IpcResponse.decode resp)) := by
  unfold enclaveCall sendIpcRequest
  simp only [hrun, if_true]
  rw [handleIpcRequest_encode (by exact hdata)]
  rfl

/-- **A call on a synced connection whose reply is delivered whole** returns its own reply,
and leaves the connection synced. -/
theorem enclaveCall_synced {command : IpcCommand} {vpnIp : UInt32} {data : Bytes}
    {respMaxLen : ℕ} (hsync : conn.Synced) (hdata : data.length < 65536)
    (hreply : ipcResponseSize + (callReply S nonce conn command vpnIp data).data.length
      ≤ respMaxLen)
    (hmax : respMaxLen < 65536)
    (hd : d.Covers (callReply S nonce conn command vpnIp data).encode.length) :
    enclaveCall S nonce d conn command vpnIp data respMaxLen =
      (⟨callEnclave S nonce conn command vpnIp data, [], conn.globalRequestId + 1⟩,
        if (callReply S nonce conn command vpnIp data).status = 0 then
          some (callReply S nonce conn command vpnIp data)
        else none) := by
  rw [enclaveCall_eq hsync.running hdata, hsync.stream_nil]
  generalize callReply S nonce conn command vpnIp data = reply at hreply hd
  have hsmall : reply.data.length < 65536 := by omega
  have hlen := IpcResponse.length_encode hsmall
  have hdec := IpcResponse.decode_encode hsmall
  -- The peek gets the whole header, so the length computed from it is the reply's length.
  have hpeek : received d.peek ipcResponseSize reply.encode
      = reply.encode.take ipcResponseSize := received_eq_take _ hd.1
  have htotal : ipcTotalLen (reply.encode.take ipcResponseSize) = reply.encode.length := by
    rw [ipcTotalLen_take, ipcTotalLen_encode hsmall]
  have hrecv : received d.recv reply.encode.length reply.encode = reply.encode := by
    rw [received_eq_take _ hd.2, List.take_length]
  have hstatus := reply.status_encode
  have hheader : ¬ (reply.encode.take ipcResponseSize).length < ipcResponseSize := by
    rw [List.length_take, hlen]
    omega
  simp only [List.nil_append, hpeek, htotal, hrecv, hdec, hstatus, if_neg hheader,
    if_neg (show ¬ reply.encode.length > respMaxLen by omega), ne_eq, not_true_eq_false,
    if_false, List.drop_length]
  by_cases hzero : reply.status = 0
  · simp [hzero]
  · simp [hzero]

/-! ## Calls that read any reply -/

/-- The unread bytes that a call finds: what was left in the stream, and its own reply. -/
def callStream (S : Sodium) (nonce : Nonce) (conn : Connection) (command : IpcCommand)
    (vpnIp : UInt32) (data : Bytes) : Bytes :=
  conn.stream ++ (callReply S nonce conn command vpnIp data).encode

/-- The stream begins with a reply that `send_ipc_request` takes: the peek gets its header, it
fits the buffer, the second `recv` gets all of it, and its status is 0. -/
structure AcceptsReply (d : Delivery) (respMaxLen : ℕ) (stream : Bytes) : Prop where
  peek : ∀ k, d.peek = some k → ipcResponseSize ≤ k
  header : ipcResponseSize ≤ stream.length
  room : ipcTotalLen stream ≤ respMaxLen
  recv : ∀ k, d.recv = some k → ipcTotalLen stream ≤ k
  whole : ipcTotalLen stream ≤ stream.length
  status : byteAt stream 4 = 0

/-- A `recv` gets all it asks for if the stream has it and the transport lets it. -/
theorem le_length_received_iff {limit : Option ℕ} {want : ℕ} {stream : Bytes} :
    want ≤ (received limit want stream).length ↔
      want ≤ stream.length ∧ ∀ k, limit = some k → want ≤ k := by
  unfold received
  rw [List.length_take]
  cases limit with
  | none => simp
  | some k =>
      simp only [Option.getD_some, Option.some.injEq, forall_eq']
      omega

/-- **What a call returns**: the reply at the front of the stream, if it is accepted. -/
theorem enclaveCall_of_accepts {command : IpcCommand} {vpnIp : UInt32} {data : Bytes}
    {respMaxLen : ℕ} (hrun : conn.enclave.running = true) (hdata : data.length < 65536)
    (h : AcceptsReply d respMaxLen (callStream S nonce conn command vpnIp data)) :
    (enclaveCall S nonce d conn command vpnIp data respMaxLen).2
      = some (IpcResponse.decode (callStream S nonce conn command vpnIp data)) := by
  rw [enclaveCall_eq hrun hdata]
  unfold callStream at h ⊢
  dsimp only
  generalize conn.stream ++ (callReply S nonce conn command vpnIp data).encode = stream at h ⊢
  have hseven : ipcResponseSize ≤ ipcTotalLen stream := Nat.le_add_right _ _
  have hpeek := received_eq_take stream h.peek
  have hrecv := received_eq_take stream h.recv
  have hlen : (stream.take (ipcTotalLen stream)).length = ipcTotalLen stream :=
    List.length_take_of_le h.whole
  have hheader : ¬ (stream.take ipcResponseSize).length < ipcResponseSize := by
    rw [List.length_take_of_le h.header]
    exact lt_irrefl _
  have hstatus : byteAt (stream.take (ipcTotalLen stream)) 4 = 0 := by
    rw [byteAt_take stream (lt_of_lt_of_le (by decide) hseven)]
    exact h.status
  rw [hpeek, ipcTotalLen_take, if_neg hheader, if_neg (not_lt.mpr h.room), hrecv,
    if_neg (not_not.mpr hlen), if_neg (not_not.mpr hstatus), IpcResponse.decode_take]

/-- A call that returns 0 has found a reply that is accepted. -/
theorem enclaveCall_accepts {command : IpcCommand} {vpnIp : UInt32} {data : Bytes}
    {respMaxLen : ℕ} {resp : IpcResponse} (hrun : conn.enclave.running = true)
    (hdata : data.length < 65536)
    (h : (enclaveCall S nonce d conn command vpnIp data respMaxLen).2 = some resp) :
    AcceptsReply d respMaxLen (callStream S nonce conn command vpnIp data) := by
  rw [enclaveCall_eq hrun hdata] at h
  unfold callStream
  dsimp only at h
  generalize conn.stream ++ (callReply S nonce conn command vpnIp data).encode = stream at h ⊢
  have hseven : ipcResponseSize ≤ ipcTotalLen stream := Nat.le_add_right _ _
  by_cases hshort : (received d.peek ipcResponseSize stream).length < ipcResponseSize
  · rw [if_pos hshort] at h
    exact absurd h (by simp)
  obtain ⟨hheader, hpeek⟩ := le_length_received_iff.mp (not_lt.mp hshort)
  rw [if_neg hshort, received_eq_take stream hpeek, ipcTotalLen_take] at h
  by_cases hroom : ipcTotalLen stream > respMaxLen
  · rw [if_pos hroom] at h
    exact absurd h (by simp)
  rw [if_neg hroom] at h
  by_cases hwhole : (received d.recv (ipcTotalLen stream) stream).length = ipcTotalLen stream
  · obtain ⟨hlen, hrecv⟩ := le_length_received_iff.mp (Nat.le_of_eq hwhole.symm)
    rw [if_neg (not_not.mpr hwhole), received_eq_take stream hrecv,
      byteAt_take stream (lt_of_lt_of_le (by decide) hseven)] at h
    by_cases hstatus : byteAt stream 4 = 0
    · exact ⟨hpeek, hheader, not_lt.mp hroom, hrecv, hlen, hstatus⟩
    · rw [if_pos hstatus] at h
      exact absurd h (by simp)
  · rw [if_pos hwhole] at h
    exact absurd h (by simp)

/-- The data of an accepted reply has the announced length. -/
theorem AcceptsReply.length_data {respMaxLen : ℕ} {stream : Bytes}
    (h : AcceptsReply d respMaxLen stream) :
    ipcResponseSize + (IpcResponse.decode stream).data.length = ipcTotalLen stream := by
  have hwhole := h.whole
  unfold IpcResponse.decode ipcTotalLen at *
  rw [List.length_take, List.length_drop]
  omega

/-! ## The functions on a synced connection -/

/-- The response to a call that succeeded with the given data. -/
def okReply (conn : Connection) (data : Bytes) : IpcResponse :=
  ⟨htonl (conn.globalRequestId + 1), 0, data⟩

/-- A connection after one more call, with the enclave that the call left. -/
def Connection.called (conn : Connection) (enclave : Enclave) : Connection :=
  ⟨enclave, [], conn.globalRequestId + 1⟩

theorem Connection.Synced.called {enclave : Enclave} (h : enclave.running = true) :
    (conn.called enclave).Synced := ⟨h, rfl⟩

/-- The enclave's reply to a handshake that `perform_handshake` accepts: its keys. -/
theorem callReply_handshake {vpnIp : UInt32} {pk sessionKey : Key} {km : KeyManager}
    (hhs : performHandshake S conn.enclave.km vpnIp pk = some (km, sessionKey)) :
    callReply S nonce conn .handshake vpnIp pk.toList
      = okReply conn (conn.enclave.km.serverPublicKey.toList ++ sessionKey.toList) := by
  have hbytes := bytesAt_toList_self pk
  show (handleHandshake S conn.enclave (callRequest conn .handshake vpnIp pk.toList)).2 = _
  simp only [handleHandshake, callRequest, initIpcRequest, Vector.length_toList, ne_eq,
    not_true_eq_false, if_false, hbytes, hhs]
  rfl

/-- A handshake runs `perform_handshake` and returns its keys. -/
theorem enclaveHandshake_synced {vpnIp : UInt32} {pk : Key} (hsync : conn.Synced) :
    enclaveHandshake S nonce .whole conn vpnIp pk =
      match performHandshake S conn.enclave.km vpnIp pk with
      | some (km, sessionKey) =>
          (conn.called ⟨km, true⟩,
            some (okReply conn (conn.enclave.km.serverPublicKey.toList ++ sessionKey.toList)))
      | none => (conn.called conn.enclave, none) := by
  have hbound := callReply_length_le S nonce conn .handshake vpnIp pk.toList
  have hbytes := bytesAt_toList_self pk
  have hcmd : handleIpcCommand S nonce conn.enclave
      (callRequest conn .handshake vpnIp pk.toList)
      = handleHandshake S conn.enclave (callRequest conn .handshake vpnIp pk.toList) := rfl
  unfold enclaveHandshake
  rw [enclaveCall_synced hsync (by simp) (by simpa [replyBound] using hbound) (by decide)
    (Delivery.whole_covers _)]
  unfold callReply callEnclave
  rw [hcmd]
  simp only [handleHandshake, callRequest, initIpcRequest, Vector.length_toList, ne_eq,
    not_true_eq_false, if_false, hbytes]
  have hrunning := hsync.running
  cases hhs : performHandshake S conn.enclave.km vpnIp pk with
  | none => rfl
  | some r =>
      simp only [okResponse, if_true, hrunning]
      rfl

/-- `enclave_remove_key` runs `remove_key`. -/
theorem enclaveRemoveKey_synced {vpnIp : UInt32} (hsync : conn.Synced) :
    enclaveRemoveKey S nonce .whole conn vpnIp =
      (conn.called ⟨removeKey conn.enclave.km vpnIp, true⟩, some (okReply conn [])) := by
  have hreply : callReply S nonce conn .removeKey vpnIp [] = okReply conn [] := rfl
  have henclave : callEnclave S nonce conn .removeKey vpnIp []
      = ⟨removeKey conn.enclave.km vpnIp, conn.enclave.running⟩ := rfl
  unfold enclaveRemoveKey
  rw [enclaveCall_synced hsync (by simp) (by rw [hreply]; exact Nat.le_refl _) (by decide)
    (Delivery.whole_covers _), hreply, henclave, hsync.running]
  rfl

/-- `enclave_encrypt` returns nonce and ciphertext, if the reply fits the buffer. -/
theorem enclaveEncrypt_synced {vpnIp : UInt32} {plaintext : Bytes} (hsync : conn.Synced)
    (hlen : plaintext.length + 28 ≤ ipcMaxDataSize) :
    enclaveEncrypt S nonce .whole conn vpnIp plaintext =
      (conn.called conn.enclave,
        (sealFor S nonce conn.enclave.km vpnIp plaintext).map (okReply conn)) := by
  have hbound := callReply_length_le S nonce conn .encrypt vpnIp plaintext
  have hcmd := handleEncrypt_eq S nonce conn.enclave (callRequest conn .encrypt vpnIp plaintext)
  have hreply : callReply S nonce conn .encrypt vpnIp plaintext
      = dataResponse (callRequest conn .encrypt vpnIp plaintext)
        (sealFor S nonce conn.enclave.km vpnIp plaintext) := congrArg Prod.snd hcmd
  have henclave : callEnclave S nonce conn .encrypt vpnIp plaintext = conn.enclave :=
    congrArg Prod.fst hcmd
  unfold ipcMaxDataSize at hlen
  simp only [replyBound, cryptoNonceSize, cryptoMacSize] at hbound
  unfold enclaveEncrypt
  rw [if_neg (by unfold ipcMaxDataSize; omega),
    enclaveCall_synced hsync (by omega) (by unfold ipcMaxDataSize; omega) (by decide)
      (Delivery.whole_covers _), hreply, henclave]
  cases sealFor S nonce conn.enclave.km vpnIp plaintext <;> rfl

/-- `enclave_decrypt` returns the plaintext. -/
theorem enclaveDecrypt_synced {vpnIp : UInt32} {ciphertext : Bytes} (hsync : conn.Synced)
    (hlen : ciphertext.length ≤ ipcMaxDataSize) :
    enclaveDecrypt S nonce .whole conn vpnIp ciphertext =
      (conn.called conn.enclave,
        (openFor S conn.enclave.km vpnIp ciphertext).map (okReply conn)) := by
  have hbound := callReply_length_le S nonce conn .decrypt vpnIp ciphertext
  have hcmd := handleDecrypt_eq S conn.enclave (callRequest conn .decrypt vpnIp ciphertext)
  have hreply : callReply S nonce conn .decrypt vpnIp ciphertext
      = dataResponse (callRequest conn .decrypt vpnIp ciphertext)
        (openFor S conn.enclave.km vpnIp ciphertext) := congrArg Prod.snd hcmd
  have henclave : callEnclave S nonce conn .decrypt vpnIp ciphertext = conn.enclave :=
    congrArg Prod.fst hcmd
  unfold ipcMaxDataSize at hlen
  simp only [replyBound] at hbound
  unfold enclaveDecrypt
  rw [if_neg (by unfold ipcMaxDataSize; omega),
    enclaveCall_synced hsync (by omega) (by unfold ipcMaxDataSize; omega) (by decide)
      (Delivery.whole_covers _), hreply, henclave]
  cases openFor S conn.enclave.km vpnIp ciphertext <;> rfl

end Vpn
