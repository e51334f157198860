/-
# Packets from the TUN device in their buffers

`handle_tun_to_udp` of the server and of the client over the arrays that a packet passes on
its way to the UDP socket, with every access checked.  On the server these are the three
packet buffers, the two buffers of `enclave_encrypt` and the two of the enclave; on the
client its three packet buffers.

The sizes are chosen independently of each other: a packet of 2048 bytes is read, but header,
nonce and tag are added to it in arrays of 2048 bytes.  `encapsulation_iff` says which
packets pass.
-/
import CloudVpn.Client
import CloudVpn.EnclaveBuffers
import CloudVpn.ServerTables

open Memory Buffers

namespace Vpn

/-- The last steps of both functions: header and ciphertext go into `packet_buffer`, and the
datagram that is sent is taken out of it. -/
def frameChecked (packetBuffer : Vector UInt8 bufferSize) (header ciphertext : Bytes)
    (ciphertextLen : ℕ) : Option Bytes := do
  let pkt ← store packetBuffer.toList 0 header
  let pkt ← store pkt vpnHeaderSize (← load ciphertext 0 ciphertextLen)
  load pkt 0 (vpnHeaderSize + ciphertextLen)

/-! ## The server -/

/-- The arrays that a packet passes on the server, with what they happen to hold. -/
structure ServerArrays where
  buffer : Vector UInt8 bufferSize
  encryptedBuffer : Vector UInt8 bufferSize
  packetBuffer : Vector UInt8 bufferSize
  reqBuffer : Vector UInt8 (ipcRequestSize + ipcMaxDataSize)
  respBuffer : Vector UInt8 (ipcResponseSize + ipcMaxDataSize)
  enclaveRequest : Vector UInt8 (ipcRequestSize + ipcMaxDataSize)
  enclaveResponse : Vector UInt8 (ipcResponseSize + ipcMaxDataSize)

/-- `init_ipc_request` into a buffer, with the value of `global_request_id` after its
increment. -/
def initIpcRequestChecked (globalRequestId : UInt32) (command : IpcCommand) (vpnIp : UInt32)
    (data : Bytes) (dataLen : UInt16) (req : Bytes) : Option Bytes := do
  let req ← store req 0 [command.toByte]
  let req ← store req 1 (le32 (htonl globalRequestId))
  let req ← store req 5 (le32 vpnIp)
  let req ← store req 9 (le16 (htons dataLen))
  if 0 < dataLen then store req 11 (← load data 0 dataLen.toNat) else return req

section
variable (S : Sodium) (nonce : Nonce) (d : Delivery) (arrays : ServerArrays)

/-- `send_ipc_request`: the connection it leaves, and `resp` for the return value 0. -/
def sendIpcChecked (conn : Connection) (req : Bytes) (reqLen : ℕ) (resp : Bytes)
    (respMaxLen : ℕ) : Option (Connection × Option Bytes) :=
  if conn.enclave.running then do
    let request ← load req 0 reqLen
    let (sock, reply) ← handleIpcChecked S nonce .whole ⟨conn.enclave, request⟩
      arrays.enclaveRequest arrays.enclaveResponse
    let stream := conn.stream ++ reply.getD []
    let unread : Connection := { conn with enclave := sock.enclave, stream := stream }
    let (resp, n) ← recvChecked d.peek ipcResponseSize stream resp
    if n < ipcResponseSize then return (unread, none)
    else
      let totalLen := ipcResponseSize + (ntohs (← loadU16 resp 5)).toNat
      if totalLen > respMaxLen then return (unread, none)
      else
        let (resp, n) ← recvChecked d.recv totalLen stream resp
        let read : Connection := { unread with stream := stream.drop n }
        if n ≠ totalLen then return (read, none)
        else if (← loadByte resp 4) ≠ 0 then return (read, none)
        else return (read, some resp)
  else return (conn, none)

/-- `enclave_encrypt`: for the return value 0, the array `ciphertext` and `*ciphertext_len`. -/
def enclaveEncryptChecked (conn : Connection) (vpnIp : UInt32) (plaintext : Bytes)
    (plaintextLen : ℕ) (ciphertext : Bytes) : Option (Connection × Option (Bytes × ℕ)) :=
  if plaintextLen > ipcMaxDataSize then return (conn, none)
  else do
    let id := conn.globalRequestId + 1
    let req ← initIpcRequestChecked id .encrypt vpnIp plaintext (UInt16.ofNat plaintextLen)
      arrays.reqBuffer.toList
    let reqLen := ipcRequestSize + plaintextLen
    match ← sendIpcChecked S nonce d arrays { conn with globalRequestId := id } req reqLen
        arrays.respBuffer.toList (ipcResponseSize + ipcMaxDataSize) with
    | (conn, none) => return (conn, none)
    | (conn, some resp) =>
        let ciphertextLen := (ntohs (← loadU16 resp 5)).toNat
        let ciphertext ← store ciphertext 0 (← load resp 7 ciphertextLen)
        return (conn, some (ciphertext, ciphertextLen))

end

/-- `handle_tun_to_udp` of the server; `none` if an access leaves an array. -/
def handleTunToUdpChecked (S : Sodium) (env : Env) (arrays : ServerArrays) (server : Server)
    (packet : Bytes) : Option (Server × List Action) := do
  let (buffer, n) ← recvChecked none bufferSize packet arrays.buffer.toList
  if n < 20 then return (server, [])
  else if (← loadByte buffer 0).toNat / 16 = 6 then return (server, [])
  else
    match findClientByVpnIp server.table (← loadU32 buffer 16) with
    | none => return (server, [])
    | some client =>
        match ← enclaveEncryptChecked S env.nonce env.delivery arrays server.conn
            (server.table.clients client).vpnIp buffer n arrays.encryptedBuffer.toList with
        | (conn, none) => return ({ server with conn := conn }, [])
        | (conn, some (encryptedBuffer, ciphertextLen)) =>
            let seq := server.globalSequence + 1
            let header := initVpnHeader .data (UInt16.ofNat ciphertextLen) seq env.timestampMs
            let datagram ← frameChecked arrays.packetBuffer header encryptedBuffer ciphertextLen
            let table :=
              if env.sent then updateClientActivity server.table client env.now
              else server.table
            return (⟨table, conn, seq⟩,
              [.udpSend (server.table.clients client).realAddr datagram])

/-! ## The client -/

/-- The arrays that a packet passes on the client. -/
structure ClientArrays where
  buffer : Vector UInt8 bufferSize
  ciphertext : Vector UInt8 bufferSize
  packetBuffer : Vector UInt8 bufferSize

/-- `handle_tun_to_udp` of the client; `none` if an access leaves an array. -/
def Client.handleTunToUdpChecked (S : Sodium) (env : ClientEnv) (arrays : ClientArrays)
    (client : Client) (packet : Bytes) : Option (Client × List ClientAction) := do
  let (buffer, n) ← recvChecked none bufferSize packet arrays.buffer.toList
  let plaintext ← load buffer 0 n
  -- `crypto_encrypt` writes the ciphertext and the tag behind the place of the nonce.
  access arrays.ciphertext.toList cryptoNonceSize (n + cryptoMacSize)
  match cryptoEncrypt S plaintext client.sessionKey env.nonce with
  | none => return (client, [])
  | some encrypted =>
      let ciphertext ← store arrays.ciphertext.toList cryptoNonceSize encrypted
      let ciphertext ← store ciphertext 0 env.nonce.toList
      let ciphertextLen := cryptoNonceSize + n + cryptoMacSize
      let seq := client.globalSequence + 1
      let header := initVpnHeader .data (UInt16.ofNat ciphertextLen) seq env.timestampMs
      let datagram ← frameChecked arrays.packetBuffer header ciphertext ciphertextLen
      return ({ client with globalSequence := seq }, [.udpSend datagram])

/-! ## The request -/

/-- The request that is built in `req_buffer`. -/
theorem initIpcRequestChecked_eq (id : UInt32) (command : IpcCommand) (vpnIp : UInt32)
    {data rest req : Bytes} (hdata : data.length < 65536)
    (hreq : ipcRequestSize + data.length ≤ req.length) :
    initIpcRequestChecked id command vpnIp (data ++ rest) (UInt16.ofNat data.length) req
      = some ((initIpcRequest id command vpnIp data).encode
          ++ req.drop (ipcRequestSize + data.length)) := by
  unfold ipcRequestSize at hreq ⊢
  have hlen := toNat_ofNat_length hdata
  -- Each field is written behind the fields before it.
  have hcommand := store_front (show [command.toByte].length ≤ req.length by
    rw [List.length_singleton]
    omega)
  have hid := store_append [command.toByte] (show 1 = [command.toByte].length from rfl)
    (show (le32 (htonl id)).length ≤ (req.drop 1).length by
      rw [length_le32, List.length_drop]
      omega)
  have hip := store_append ([command.toByte] ++ le32 (htonl id))
    (show 5 = ([command.toByte] ++ le32 (htonl id)).length from rfl)
    (show (le32 vpnIp).length ≤ (req.drop 5).length by
      rw [length_le32, List.length_drop]
      omega)
  have hdataLen := store_append ([command.toByte] ++ le32 (htonl id) ++ le32 vpnIp)
    (show 9 = ([command.toByte] ++ le32 (htonl id) ++ le32 vpnIp).length from rfl)
    (show (le16 (htons (UInt16.ofNat data.length))).length ≤ (req.drop 9).length by
      rw [length_le16, List.length_drop]
      omega)
  have hpayload := store_append ([command.toByte] ++ le32 (htonl id) ++ le32 vpnIp
      ++ le16 (htons (UInt16.ofNat data.length)))
    (show 11 = ([command.toByte] ++ le32 (htonl id) ++ le32 vpnIp
      ++ le16 (htons (UInt16.ofNat data.length))).length from rfl)
    (show data.length ≤ (req.drop 11).length by rw [List.length_drop]; omega)
  simp only [List.length_singleton, length_le32, length_le16, List.drop_drop,
    ← List.append_assoc] at hcommand hid hip hdataLen hpayload
  unfold initIpcRequestChecked
  simp only [Option.bind_eq_bind, hcommand, hid, hip, hdataLen, Option.bind_some]
  by_cases hzero : data = []
  · subst hzero
    simp [initIpcRequest, IpcRequest.encode]
  · have hpos : 0 < UInt16.ofNat data.length := by
      rw [UInt16.lt_iff_toNat_lt, hlen]
      exact List.length_pos_of_ne_nil hzero
    have hload : load (data ++ rest) 0 (UInt16.ofNat data.length).toNat = some data :=
      load_append [] data rest rfl hlen
    rw [if_pos hpos, hload, Option.bind_some, hpayload]
    simp [initIpcRequest, IpcRequest.encode]

/-- A request for at most 2048 bytes stays inside the enclave's buffers. -/
theorem staysInside_encode (enclave : Enclave) {req : IpcRequest}
    (h : req.data.length ≤ bufferSize) :
    StaysInside .whole ⟨enclave, req.encode⟩ := by
  unfold bufferSize at h
  have hlen : (ntohs (u16At req.encode 9)).toNat = req.data.length := by
    rw [ipcRequest_u16At, ntohs_htons, toNat_ofNat_length (by omega)]
  intro _
  simp only [hlen]
  unfold ipcMaxDataSize cryptoNonceSize cryptoMacSize
  exact ⟨by omega, fun _ _ _ => by omega⟩

/-- **The enclave's part.** -/
theorem handleIpcChecked_encode {S : Sodium} {nonce : Nonce} (arrays : ServerArrays)
    (enclave : Enclave) {req : IpcRequest} (h : req.data.length ≤ bufferSize) :
    handleIpcChecked S nonce .whole ⟨enclave, req.encode⟩ arrays.enclaveRequest
        arrays.enclaveResponse
      = some (⟨(handleIpcRequest S nonce enclave req.encode).1, []⟩,
          some (handleIpcRequest S nonce enclave req.encode).2) := by
  have hsocket : handleIpcSocket S nonce .whole ⟨enclave, req.encode ++ []⟩ = _ :=
    handleIpcSocket_encode (by unfold bufferSize at h; omega) enclave []
  rw [List.append_nil] at hsocket
  rw [handleIpcChecked_eq (staysInside_encode enclave h), hsocket]

/-! ## The reply -/

/-- A buffer that starts with the bytes of a response. -/
def HoldsResponse (buf : Bytes) (resp : IpcResponse) : Prop :=
  ∃ bytes rest, buf = bytes ++ rest ∧ bytes.length = ipcTotalLen bytes ∧
    resp = IpcResponse.decode bytes

/-- The fields of a response header at the front of a buffer. -/
theorem loadU16_dataLen {bytes : Bytes} (h : ipcResponseSize ≤ bytes.length) (rest : Bytes) :
    loadU16 (bytes ++ rest) 5 = some (u16At bytes 5) := by
  unfold ipcResponseSize at h
  rw [loadU16_of_le (by rw [List.length_append]; omega), u16At_append_left rest (by omega)]

theorem loadByte_status {bytes : Bytes} (h : ipcResponseSize ≤ bytes.length) (rest : Bytes) :
    loadByte (bytes ++ rest) 4 = some (byteAt bytes 4) := by
  unfold ipcResponseSize at h
  rw [loadByte_of_lt (by rw [List.length_append]; omega), byteAt_append_left rest (by omega)]

/-- What `enclave_encrypt` reads from the response. -/
theorem HoldsResponse.load {buf : Bytes} {resp : IpcResponse} (h : HoldsResponse buf resp) :
    ∃ dataLen, loadU16 buf 5 = some dataLen ∧ (ntohs dataLen).toNat = resp.data.length ∧
      load buf 7 resp.data.length = some resp.data := by
  obtain ⟨bytes, rest, rfl, hlen, rfl⟩ := h
  unfold ipcTotalLen ipcResponseSize at hlen
  have hdata : (IpcResponse.decode bytes).data = bytes.drop 7 := by
    unfold IpcResponse.decode ipcResponseSize
    rw [List.take_of_length_le]
    rw [List.length_drop]
    omega
  refine ⟨u16At bytes 5, ?_, ?_, ?_⟩
  · exact loadU16_dataLen (by unfold ipcResponseSize; omega) rest
  · rw [hdata, List.length_drop]
    omega
  · have hsplit : bytes ++ rest = bytes.take 7 ++ (bytes.drop 7 ++ rest) := by
      rw [← List.append_assoc, List.take_append_drop]
    rw [hdata, hsplit]
    exact load_append _ _ rest (by rw [List.length_take]; omega) rfl

section
variable {S : Sodium} {nonce : Nonce} {d : Delivery} {arrays : ServerArrays}

/-- A response that arrives whole announces its own length. -/
theorem length_received_response {stream : Bytes}
    (hheader : ipcResponseSize ≤ (received d.peek ipcResponseSize stream).length)
    (hwhole : (received d.recv (ipcTotalLen (received d.peek ipcResponseSize stream))
        stream).length = ipcTotalLen (received d.peek ipcResponseSize stream)) :
    let bytes := received d.recv (ipcTotalLen (received d.peek ipcResponseSize stream)) stream
    bytes.length = ipcTotalLen bytes := by
  intro bytes
  have hpeek := received_eq_take_of_length hheader
  have hbytes := received_eq_take_of_length (Nat.le_of_eq hwhole.symm)
  have hseven : ipcResponseSize ≤ ipcTotalLen stream := Nat.le_add_right _ _
  rw [hpeek, ipcTotalLen_take] at hwhole hbytes
  have hfront : ipcTotalLen (stream.take (ipcTotalLen stream)) = ipcTotalLen stream := by
    rw [← ipcTotalLen_take, List.take_take, min_eq_left hseven, ipcTotalLen_take]
  show (received d.recv (ipcTotalLen (received d.peek ipcResponseSize stream)) stream).length
    = ipcTotalLen (received d.recv (ipcTotalLen (received d.peek ipcResponseSize stream)) stream)
  rw [hpeek, ipcTotalLen_take, hwhole, hbytes, hfront]

/-- **A call over its buffers** returns what the call returns. -/
theorem sendIpcChecked_eq (S : Sodium) (nonce : Nonce) (d : Delivery) (arrays : ServerArrays)
    (conn : Connection) (req : IpcRequest) (hreq : req.data.length ≤ bufferSize) (rest : Bytes)
    {resp : Bytes} (hresp : resp.length = ipcResponseSize + ipcMaxDataSize) :
    ∃ buf, sendIpcChecked S nonce d arrays conn (req.encode ++ rest)
          (ipcRequestSize + req.data.length) resp (ipcResponseSize + ipcMaxDataSize)
        = some ((sendIpcRequest S nonce d conn req.encode
            (ipcResponseSize + ipcMaxDataSize)).1, buf) ∧
      Option.Rel HoldsResponse buf
        (sendIpcRequest S nonce d conn req.encode (ipcResponseSize + ipcMaxDataSize)).2 := by
  have hload : load (req.encode ++ rest) 0 (ipcRequestSize + req.data.length)
      = some req.encode := load_append [] req.encode rest rfl req.length_encode.symm
  unfold sendIpcChecked sendIpcRequest
  cases hrun : conn.enclave.running with
  | false => exact ⟨none, rfl, .none⟩
  | true =>
      simp only [if_true, hload, Option.bind_eq_bind, Option.bind_some,
        handleIpcChecked_encode arrays conn.enclave hreq, Option.getD_some]
      generalize conn.stream ++ (handleIpcRequest S nonce conn.enclave req.encode).2 = stream
      rw [recvChecked_of_le (show ipcResponseSize ≤ resp.length by omega)]
      simp only [Option.bind_some]
      by_cases hheader : (received d.peek ipcResponseSize stream).length < ipcResponseSize
      · rw [if_pos hheader, if_pos hheader]
        exact ⟨none, rfl, .none⟩
      · rw [if_neg hheader, if_neg hheader]
        have hseven : (received d.peek ipcResponseSize stream).length = 7 :=
          le_antisymm (length_received_le _ _ _) (not_lt.mp hheader)
        generalize hhdr : received d.peek ipcResponseSize stream = header at hseven
        have hbuf : (header ++ resp.drop header.length).length
            = ipcResponseSize + ipcMaxDataSize := by
          rw [List.length_append, List.length_drop, hresp, hseven]
          rfl
        have hdataLen := loadU16_dataLen (Nat.le_of_eq hseven.symm) (resp.drop header.length)
        have htotal : ipcResponseSize + (ntohs (u16At header 5)).toNat = ipcTotalLen header := rfl
        simp only [hdataLen, Option.bind_some, htotal]
        by_cases hmax : ipcTotalLen header > ipcResponseSize + ipcMaxDataSize
        · rw [if_pos hmax, if_pos hmax]
          exact ⟨none, rfl, .none⟩
        · rw [if_neg hmax, if_neg hmax,
            recvChecked_of_le (show ipcTotalLen header ≤ _ by rw [hbuf]; omega)]
          simp only [Option.bind_some]
          by_cases hwhole : (received d.recv (ipcTotalLen header) stream).length
              = ipcTotalLen header
          · have hbytes := length_received_response (not_lt.mp hheader) (by rw [hhdr]; exact hwhole)
            simp only [hhdr] at hbytes
            generalize received d.recv (ipcTotalLen header) stream = bytes at hwhole hbytes
            have hlong : ipcResponseSize ≤ bytes.length :=
              Nat.le_trans (Nat.le_add_right _ _) (Nat.le_of_eq hwhole.symm)
            have hstatus := loadByte_status hlong
              ((header ++ resp.drop header.length).drop bytes.length)
            rw [if_neg (not_not.mpr hwhole), if_neg (not_not.mpr hwhole), hstatus]
            simp only [Option.bind_some]
            by_cases hzero : byteAt bytes 4 = 0
            · rw [if_neg (not_not.mpr hzero), if_neg (not_not.mpr hzero)]
              exact ⟨some _, rfl, .some ⟨bytes, _, rfl, hbytes, rfl⟩⟩
            · rw [if_pos hzero, if_pos hzero]
              exact ⟨none, rfl, .none⟩
          · rw [if_pos hwhole, if_pos hwhole]
            exact ⟨none, rfl, .none⟩

/-- **`enclave_encrypt` over its buffers**: the only access that can fail is the copy into
the caller's array. -/
theorem enclaveEncryptChecked_eq (conn : Connection) (vpnIp : UInt32) {plaintext : Bytes}
    (hlen : plaintext.length ≤ bufferSize) (rest ciphertext : Bytes) :
    enclaveEncryptChecked S nonce d arrays conn vpnIp (plaintext ++ rest) plaintext.length
        ciphertext =
      match (enclaveEncrypt S nonce d conn vpnIp plaintext).2 with
      | none => some ((enclaveEncrypt S nonce d conn vpnIp plaintext).1, none)
      | some resp => (store ciphertext 0 resp.data).map fun buf =>
          ((enclaveEncrypt S nonce d conn vpnIp plaintext).1, some (buf, resp.data.length)) := by
  have hsmall : ¬ plaintext.length > ipcMaxDataSize := by
    unfold bufferSize at hlen
    unfold ipcMaxDataSize
    omega
  have hreq : initIpcRequestChecked (conn.globalRequestId + 1) .encrypt vpnIp
      (plaintext ++ rest) (UInt16.ofNat plaintext.length) arrays.reqBuffer.toList = _ :=
    initIpcRequestChecked_eq _ _ _ (by unfold bufferSize at hlen; omega) (by
      rw [Vector.length_toList]
      omega)
  obtain ⟨buf, hsend, hrel⟩ := sendIpcChecked_eq S nonce d arrays
    { conn with globalRequestId := conn.globalRequestId + 1 }
    (initIpcRequest (conn.globalRequestId + 1) .encrypt vpnIp plaintext) hlen
    (arrays.reqBuffer.toList.drop (ipcRequestSize + plaintext.length))
    (show arrays.respBuffer.toList.length = _ from Vector.length_toList)
  have hdata : (initIpcRequest (conn.globalRequestId + 1) .encrypt vpnIp plaintext).data.length
      = plaintext.length := rfl
  rw [hdata] at hsend
  unfold enclaveEncryptChecked enclaveEncrypt enclaveCall
  rw [if_neg hsmall, if_neg hsmall]
  simp only [hreq, hsend, Option.bind_eq_bind, Option.bind_some]
  generalize sendIpcRequest S nonce d _ _ _ = result at hrel
  obtain ⟨conn', reply⟩ := result
  cases hrel with
  | none => rfl
  | some hresp =>
      obtain ⟨dataLen, hdataLen, hlen', hload⟩ := hresp.load
      simp only [hdataLen, Option.bind_some, hlen', hload]
      rw [Option.map_eq_bind]
      rfl

end

/-! ## The datagram -/

/-- **The datagram** is built if it is not longer than the array. -/
theorem frameChecked_eq (packetBuffer : Vector UInt8 bufferSize) {header : Bytes}
    (hheader : header.length = vpnHeaderSize) (data rest : Bytes) :
    frameChecked packetBuffer header (data ++ rest) data.length
      = if (header ++ data).length ≤ bufferSize then some (header ++ data) else none := by
  have hbuffer : packetBuffer.toList.length = bufferSize := Vector.length_toList
  have hroom : vpnHeaderSize ≤ bufferSize := by decide
  have hload : load (data ++ rest) 0 data.length = some data := load_append [] data rest rfl rfl
  have hpkt : store packetBuffer.toList 0 header
      = some (header ++ packetBuffer.toList.drop header.length) :=
    store_front (by omega)
  unfold frameChecked
  simp only [Option.bind_eq_bind, hpkt, hload, Option.bind_some]
  split_ifs with hfits
  · rw [List.length_append] at hfits
    rw [store_append header hheader.symm (by rw [List.length_drop]; omega), Option.bind_some,
      ← List.append_assoc]
    exact load_append [] _ _ rfl (by rw [List.length_append, hheader])
  · rw [List.length_append] at hfits
    unfold store
    rw [access_of_gt (by rw [List.length_append, List.length_drop]; omega)]
    rfl

/-- The same with the copy into the array of the ciphertext in front. -/
theorem store_frameChecked (encryptedBuffer packetBuffer : Vector UInt8 bufferSize)
    {header : Bytes} (hheader : header.length = vpnHeaderSize) (data : Bytes) :
    ((store encryptedBuffer.toList 0 data).bind fun buf =>
        frameChecked packetBuffer header buf data.length)
      = if (header ++ data).length ≤ bufferSize then some (header ++ data) else none := by
  have hbuffer : encryptedBuffer.toList.length = bufferSize := Vector.length_toList
  by_cases hcopy : data.length ≤ bufferSize
  · rw [store_front (by omega), Option.bind_some, frameChecked_eq packetBuffer hheader]
  · unfold store
    rw [access_of_gt (by omega), if_neg (by rw [List.length_append]; omega)]
    rfl

/-- What `read` puts into a packet buffer. -/
theorem recvChecked_read (packet : Bytes) (buffer : Vector UInt8 bufferSize) :
    recvChecked none bufferSize packet buffer.toList
      = some (packet.take bufferSize ++ buffer.toList.drop (packet.take bufferSize).length,
          (packet.take bufferSize).length) := by
  have hread : received none bufferSize packet = packet.take bufferSize :=
    received_eq_take packet (fun k hk => by cases hk)
  rw [recvChecked_of_le (by rw [Vector.length_toList]), hread]

/-- The datagrams that a handler sends fit the packet buffer of the peer. -/
def DatagramsFit (actions : List Action) : Prop :=
  ∀ dest datagram, Action.udpSend dest datagram ∈ actions → datagram.length ≤ bufferSize

theorem datagramsFit_nil : DatagramsFit [] := fun _ _ h => absurd h (by simp)

theorem datagramsFit_singleton {dest : SockAddr} {datagram : Bytes} :
    DatagramsFit [.udpSend dest datagram] ↔ datagram.length ≤ bufferSize := by
  constructor
  · intro h
    exact h dest datagram (List.mem_singleton.mpr rfl)
  · intro h dest' datagram' hmem
    cases List.mem_singleton.mp hmem
    exact h

/-- **The server over its arrays** does what the server does, if the datagram fits, and leaves
an array otherwise. -/
theorem handleTunToUdpChecked_spec (S : Sodium) (env : Env) (arrays : ServerArrays)
    (server : Server) (packet : Bytes) :
    DatagramsFit (handleTunToUdp S env server packet).2 ∧
        handleTunToUdpChecked S env arrays server packet
          = some (handleTunToUdp S env server packet) ∨
      ¬ DatagramsFit (handleTunToUdp S env server packet).2 ∧
        handleTunToUdpChecked S env arrays server packet = none := by
  have hmax : (packet.take bufferSize).length ≤ bufferSize := recvLen_le packet
  unfold handleTunToUdpChecked handleTunToUdp
  simp only [recvChecked_read, Option.bind_eq_bind, Option.bind_some]
  generalize packet.take bufferSize = buffer at hmax
  by_cases hshort : buffer.length < 20
  · rw [if_pos hshort, if_pos hshort]
    exact Or.inl ⟨datagramsFit_nil, rfl⟩
  · have hversion (junk : Bytes) : loadByte (buffer ++ junk) 0 = some (byteAt buffer 0) := by
      rw [loadByte_of_lt (by rw [List.length_append]; omega), byteAt_append_left _ (by omega)]
    have hdest (junk : Bytes) : loadU32 (buffer ++ junk) 16 = some (destinationIp buffer) := by
      rw [loadU32_of_le (by rw [List.length_append]; omega), u32At_append_left _ (by omega)]
      rfl
    have hip : (byteAt buffer 0).toNat / 16 = ipVersion buffer := rfl
    simp only [if_neg hshort, hversion, hdest, hip, Option.bind_some]
    by_cases hsix : ipVersion buffer = 6
    · rw [if_pos hsix, if_pos hsix]
      exact Or.inl ⟨datagramsFit_nil, rfl⟩
    · rw [if_neg hsix, if_neg hsix]
      cases findClientByVpnIp server.table (destinationIp buffer) with
      | none => exact Or.inl ⟨datagramsFit_nil, rfl⟩
      | some client =>
          simp only [enclaveEncryptChecked_eq server.conn _ hmax]
          generalize enclaveEncrypt S env.nonce env.delivery server.conn
            (server.table.clients client).vpnIp buffer = result
          obtain ⟨conn, reply⟩ := result
          cases reply with
          | none => exact Or.inl ⟨datagramsFit_nil, rfl⟩
          | some resp =>
              have hframe := store_frameChecked arrays.encryptedBuffer arrays.packetBuffer
                (length_initVpnHeader .data (UInt16.ofNat resp.data.length)
                  (server.globalSequence + 1) env.timestampMs) resp.data
              simp only [Option.bind_map, Function.comp_def, ← Option.bind_assoc, hframe,
                datagramsFit_singleton]
              by_cases hfits : (initVpnHeader .data (UInt16.ofNat resp.data.length)
                  (server.globalSequence + 1) env.timestampMs ++ resp.data).length ≤ bufferSize
              · rw [if_pos hfits]
                exact Or.inl ⟨hfits, rfl⟩
              · rw [if_neg hfits]
                exact Or.inr ⟨hfits, rfl⟩

/-- The packet goes to the client: it is long enough for an IP header, its version is not 6, and
its destination is the VPN address of an active entry. -/
structure RoutesTo (server : Server) (packet : Bytes) (client : Fin maxClients) : Prop where
  length : 20 ≤ recvLen packet
  version : ipVersion (packet.take bufferSize) ≠ 6
  client : findClientByVpnIp server.table (destinationIp (packet.take bufferSize)) = some client

theorem RoutesTo.unique {server : Server} {packet : Bytes} {client other : Fin maxClients}
    (h : RoutesTo server packet client) (hother : RoutesTo server packet other) :
    other = client :=
  Option.some.inj (hother.client.symm.trans h.client)

/-- A packet that goes to no client is dropped. -/
theorem handleTunToUdp_unrouted {S : Sodium} {env : Env} {server : Server} {packet : Bytes}
    (h : ∀ client, ¬ RoutesTo server packet client) :
    handleTunToUdp S env server packet = (server, []) := by
  unfold handleTunToUdp
  dsimp only
  by_cases hlen : (packet.take bufferSize).length < 20
  · rw [if_pos hlen]
  by_cases hversion : ipVersion (packet.take bufferSize) = 6
  · rw [if_neg hlen, if_pos hversion]
  rw [if_neg hlen, if_neg hversion]
  cases hclient : findClientByVpnIp server.table (destinationIp (packet.take bufferSize)) with
  | none => rfl
  | some client => exact absurd ⟨not_lt.mp hlen, hversion, hclient⟩ (h client)

/-- A packet that goes to a client is sent, if the enclave has answered. -/
theorem RoutesTo.actions {S : Sodium} {env : Env} {server : Server} {packet : Bytes}
    {client : Fin maxClients} (h : RoutesTo server packet client) :
    (handleTunToUdp S env server packet).2 =
      match (enclaveEncrypt S env.nonce env.delivery server.conn
          (server.table.clients client).vpnIp (packet.take bufferSize)).2 with
      | none => []
      | some resp => [.udpSend (server.table.clients client).realAddr
          (initVpnHeader .data (UInt16.ofNat resp.data.length) (server.globalSequence + 1)
            env.timestampMs ++ resp.data)] := by
  have hlen : ¬ (packet.take bufferSize).length < 20 := not_lt.mpr h.length
  unfold handleTunToUdp
  simp only [if_neg hlen, if_neg h.version, h.client]
  rcases enclaveEncrypt S env.nonce env.delivery server.conn
    (server.table.clients client).vpnIp (packet.take bufferSize) with ⟨conn, _ | resp⟩
  · rfl
  · rfl

/-- The unread bytes that `enclave_encrypt` finds when a packet goes to the client. -/
def encryptStream (S : Sodium) (env : Env) (server : Server) (packet : Bytes)
    (client : Fin maxClients) : Bytes :=
  callStream S env.nonce server.conn .encrypt (server.table.clients client).vpnIp
    (packet.take bufferSize)

/-- **What is sent fits** if the reply that `enclave_encrypt` takes announces at most 2032 bytes,
whosever reply it is. -/
theorem datagramsFit_iff (S : Sodium) (env : Env) (server : Server) (packet : Bytes) :
    DatagramsFit (handleTunToUdp S env server packet).2 ↔
      ∀ client, RoutesTo server packet client → server.conn.enclave.running = true →
        AcceptsReply env.delivery (ipcResponseSize + ipcMaxDataSize)
          (encryptStream S env server packet client) →
        ipcTotalLen (encryptStream S env server packet client) ≤ ipcResponseSize + 2032 := by
  have hsmall : (packet.take bufferSize).length ≤ bufferSize := recvLen_le packet
  unfold bufferSize at hsmall
  by_cases hroute : ∃ client, RoutesTo server packet client
  · obtain ⟨client, hclient⟩ := hroute
    have hencrypt : enclaveEncrypt S env.nonce env.delivery server.conn
        (server.table.clients client).vpnIp (packet.take bufferSize)
        = enclaveCall S env.nonce env.delivery server.conn .encrypt
          (server.table.clients client).vpnIp (packet.take bufferSize)
          (ipcResponseSize + ipcMaxDataSize) :=
      if_neg (by unfold ipcMaxDataSize bufferSize; omega)
    rw [hclient.actions, hencrypt]
    constructor
    · intro hfit other hother hrun haccepts
      rw [hclient.unique hother] at haccepts ⊢
      have hreply := enclaveCall_of_accepts hrun
        (show (packet.take bufferSize).length < 65536 by unfold bufferSize; omega) haccepts
      have hdata := haccepts.length_data
      rw [hreply, datagramsFit_singleton, List.length_append, length_initVpnHeader] at hfit
      unfold encryptStream at hdata ⊢
      unfold bufferSize at hfit hdata ⊢
      omega
    · intro hbound
      cases hresp : (enclaveCall S env.nonce env.delivery server.conn .encrypt
          (server.table.clients client).vpnIp (packet.take bufferSize)
          (ipcResponseSize + ipcMaxDataSize)).2 with
      | none => exact datagramsFit_nil
      | some resp =>
          have hrun : server.conn.enclave.running = true := by
            by_contra hstopped
            simp [enclaveCall, sendIpcRequest, hstopped] at hresp
          have hlen : (packet.take bufferSize).length < 65536 := by
            unfold bufferSize
            omega
          have haccepts := enclaveCall_accepts hrun hlen hresp
          have hle := hbound client hclient hrun haccepts
          have hdata := haccepts.length_data
          rw [enclaveCall_of_accepts hrun hlen haccepts] at hresp
          rw [← Option.some.inj hresp, datagramsFit_singleton, List.length_append,
            length_initVpnHeader]
          unfold encryptStream at hle
          unfold bufferSize at hle hdata ⊢
          omega
  · rw [handleTunToUdp_unrouted (not_exists.mp hroute)]
    exact ⟨fun _ client hclient => absurd ⟨client, hclient⟩ hroute, fun _ => datagramsFit_nil⟩

/-- On a connection in step, what is sent is 44 bytes longer than the packet. -/
theorem datagramsFit_synced {S : Sodium} {env : Env} {server : Server}
    (hsync : server.conn.Synced) (hd : env.delivery = .whole) (packet : Bytes) :
    DatagramsFit (handleTunToUdp S env server packet).2 ↔
      ∀ client key, RoutesTo server packet client →
        getKey server.conn.enclave.km (server.table.clients client).vpnIp = some key →
        cryptoEncrypt S (packet.take bufferSize) key env.nonce ≠ none →
        recvLen packet ≤ 2004 := by
  by_cases hroute : ∃ client, RoutesTo server packet client
  · obtain ⟨client, hclient⟩ := hroute
    rw [handleTunToUdp_synced hsync hd hclient.length hclient.version hclient.client]
    cases hseal : sealFor S env.nonce server.conn.enclave.km
        (server.table.clients client).vpnIp (packet.take bufferSize) with
    | none =>
        refine ⟨fun _ other key hother hkey hencrypt => absurd hseal ?_, fun _ => datagramsFit_nil⟩
        rw [hclient.unique hother] at hkey
        unfold sealFor
        rw [hkey, Option.bind_some, Option.map_eq_none_iff]
        exact hencrypt
    | some data =>
        have hdata := length_sealFor hseal
        obtain ⟨key, hkey, hmap⟩ := Option.bind_eq_some_iff.mp hseal
        obtain ⟨ciphertext, hciphertext, -⟩ := Option.map_eq_some_iff.mp hmap
        simp only [datagramsFit_singleton, List.length_append, length_initVpnHeader]
        unfold recvLen bufferSize at *
        constructor
        · intro hfit _ _ _ _ _
          omega
        · intro hbound
          have hle := hbound client key hclient hkey (by rw [hciphertext]; simp)
          omega
  · rw [handleTunToUdp_unrouted (not_exists.mp hroute)]
    exact ⟨fun _ client _ hclient => absurd ⟨client, hclient⟩ hroute, fun _ => datagramsFit_nil⟩

/-- The array `ciphertext` of the client, after the ciphertext and then the nonce have been
written to it. -/
theorem store_ciphertext {ciphertext : Bytes} (nonce : Nonce) {encrypted : Bytes}
    (h : cryptoNonceSize + encrypted.length ≤ ciphertext.length) :
    ∃ rest, ((store ciphertext cryptoNonceSize encrypted).bind fun buf =>
      store buf 0 nonce.toList) = some ((nonce.toList ++ encrypted) ++ rest) := by
  have hnonce : nonce.toList.length = cryptoNonceSize := Vector.length_toList
  have hfront : (ciphertext.take cryptoNonceSize).length = cryptoNonceSize := by
    rw [List.length_take]
    omega
  have hstore := store_append (ciphertext.take cryptoNonceSize) hfront.symm
    (show encrypted.length ≤ (ciphertext.drop cryptoNonceSize).length by
      rw [List.length_drop]
      omega)
  rw [List.take_append_drop] at hstore
  refine ⟨(ciphertext.drop cryptoNonceSize).drop encrypted.length, ?_⟩
  rw [hstore, Option.bind_some, store_front (by rw [List.length_append]; omega), hnonce,
    List.drop_left' hfront, List.append_assoc]

/-- **The client over its arrays** does what the client does, if nonce, ciphertext and tag fit
one array and the datagram another, and leaves an array otherwise. -/
theorem Client.handleTunToUdpChecked_spec (S : Sodium) (env : ClientEnv)
    (arrays : ClientArrays) (client : Client) (packet : Bytes) :
    let fits := recvLen packet ≤ 2020 ∧
      (cryptoEncrypt S (packet.take bufferSize) client.sessionKey env.nonce ≠ none →
        recvLen packet ≤ 2004)
    fits ∧ client.handleTunToUdpChecked S env arrays packet
          = some (client.handleTunToUdp S env packet) ∨
      ¬ fits ∧ client.handleTunToUdpChecked S env arrays packet = none := by
  have hmax : (packet.take bufferSize).length ≤ bufferSize := recvLen_le packet
  have hload (junk : Bytes) : load (packet.take bufferSize ++ junk) 0
      (packet.take bufferSize).length = some (packet.take bufferSize) :=
    load_append [] _ junk rfl rfl
  have hbuffer : arrays.ciphertext.toList.length = 2048 := Vector.length_toList
  unfold Client.handleTunToUdpChecked Client.handleTunToUdp recvLen
  simp only [recvChecked_read, Option.bind_eq_bind, Option.bind_some, hload]
  generalize packet.take bufferSize = buffer at hmax
  by_cases haccess : buffer.length ≤ 2020
  · rw [access_of_le (by unfold cryptoNonceSize cryptoMacSize; omega)]
    cases henc : cryptoEncrypt S buffer client.sessionKey env.nonce with
    | none => exact Or.inl ⟨⟨haccess, fun h => absurd rfl h⟩, rfl⟩
    | some encrypted =>
        have hlen := S.length_aeadEncrypt henc
        obtain ⟨rest, hstore⟩ := store_ciphertext env.nonce
          (show cryptoNonceSize + encrypted.length ≤ arrays.ciphertext.toList.length by
            unfold cryptoNonceSize
            omega)
        have hsum : (env.nonce.toList ++ encrypted).length
            = cryptoNonceSize + buffer.length + cryptoMacSize := by
          rw [List.length_append, Vector.length_toList, hlen]
          unfold cryptoNonceSize cryptoMacSize
          omega
        have hframe := frameChecked_eq arrays.packetBuffer
          (length_initVpnHeader .data (UInt16.ofNat (env.nonce.toList ++ encrypted).length)
            (client.globalSequence + 1) env.timestampMs) (env.nonce.toList ++ encrypted) rest
        simp only [Option.bind_some, ← Option.bind_assoc, hstore, ← hsum, List.take_length,
          hframe]
        have hdatagram : (initVpnHeader .data
            (UInt16.ofNat (env.nonce.toList ++ encrypted).length) (client.globalSequence + 1)
            env.timestampMs ++ (env.nonce.toList ++ encrypted)).length = buffer.length + 44 := by
          rw [List.length_append, hsum, length_initVpnHeader]
          unfold cryptoNonceSize cryptoMacSize
          omega
        rw [hdatagram]
        unfold bufferSize
        split_ifs with hfits
        · exact Or.inl ⟨⟨haccess, fun _ => by omega⟩, rfl⟩
        · refine Or.inr ⟨fun h => ?_, rfl⟩
          have hle := h.2 (by simp)
          omega
  · rw [access_of_gt (by unfold cryptoNonceSize cryptoMacSize; omega)]
    exact Or.inr ⟨fun h => haccess h.1, rfl⟩

/-! ## Which packets pass -/

/-- The server passes a packet on: all accesses stay inside the arrays, and the datagram fits
the client's packet buffer. -/
def ServerEncapsulates (S : Sodium) (env : Env) (arrays : ServerArrays) (server : Server)
    (packet : Bytes) : Prop :=
  ∃ server' actions, handleTunToUdpChecked S env arrays server packet = some (server', actions) ∧
    ∀ dest datagram, Action.udpSend dest datagram ∈ actions → datagram.length ≤ bufferSize

/-- The client passes a packet on. -/
def ClientEncapsulates (S : Sodium) (env : ClientEnv) (arrays : ClientArrays) (client : Client)
    (packet : Bytes) : Prop :=
  ∃ client' actions, client.handleTunToUdpChecked S env arrays packet = some (client', actions) ∧
    ∀ datagram, ClientAction.udpSend datagram ∈ actions → datagram.length ≤ bufferSize

theorem serverEncapsulates_iff (S : Sodium) (env : Env) (arrays : ServerArrays)
    (server : Server) (packet : Bytes) :
    ServerEncapsulates S env arrays server packet ↔
      DatagramsFit (handleTunToUdp S env server packet).2 := by
  unfold ServerEncapsulates
  rcases handleTunToUdpChecked_spec S env arrays server packet with ⟨hfits, h⟩ | ⟨hfits, h⟩
  · exact ⟨fun _ => hfits, fun _ => ⟨_, _, h, hfits⟩⟩
  · rw [h]
    exact ⟨fun ⟨_, _, hnone, _⟩ => absurd hnone (by simp), fun hf => absurd hf hfits⟩

/-- What the client sends is at most 44 bytes longer than the packet, which it has encrypted. -/
theorem Client.length_handleTunToUdp {S : Sodium} {env : ClientEnv} {client : Client}
    {packet datagram : Bytes}
    (h : ClientAction.udpSend datagram ∈ (client.handleTunToUdp S env packet).2) :
    datagram.length ≤ recvLen packet + 44 ∧
      cryptoEncrypt S (packet.take bufferSize) client.sessionKey env.nonce ≠ none := by
  unfold Client.handleTunToUdp at h
  dsimp only at h
  split at h
  · exact absurd h (by simp)
  · next hencrypt =>
      cases List.mem_singleton.mp h
      rw [hencrypt, List.length_append, length_initVpnHeader, List.length_take]
      unfold recvLen cryptoNonceSize cryptoMacSize
      exact ⟨by omega, by simp⟩

theorem clientEncapsulates_iff (S : Sodium) (env : ClientEnv) (arrays : ClientArrays)
    (client : Client) (packet : Bytes) :
    ClientEncapsulates S env arrays client packet ↔
      recvLen packet ≤ 2020 ∧
        (cryptoEncrypt S (packet.take bufferSize) client.sessionKey env.nonce ≠ none →
          recvLen packet ≤ 2004) := by
  unfold ClientEncapsulates
  rcases client.handleTunToUdpChecked_spec S env arrays packet with ⟨hfits, h⟩ | ⟨hfits, h⟩
  · refine ⟨fun _ => hfits, fun _ => ⟨_, _, h, fun datagram hmem => ?_⟩⟩
    obtain ⟨hlen, hencrypt⟩ := Client.length_handleTunToUdp hmem
    have hle := hfits.2 hencrypt
    unfold bufferSize
    omega
  · rw [h]
    exact ⟨fun ⟨_, _, hnone, _⟩ => absurd hnone (by simp), fun hf => absurd hf hfits⟩

/-- **Which packets pass**, whatever the arrays held before.  On the server: those that go to no
client, and those for which `enclave_encrypt` takes no reply or one that announces at most 2032
bytes.  On a connection in step: those that go to no client with a key, and those of at most 2004
bytes.  On the client: the packets of at most 2004 bytes (of 2020, if the encryption fails). -/
theorem encapsulation_iff (S : Sodium) (env : Env) (arrays : ServerArrays) (server : Server)
    (clientEnv : ClientEnv) (clientArrays : ClientArrays) (client : Client) (packet : Bytes) :
    (ServerEncapsulates S env arrays server packet ↔
      ∀ dest, RoutesTo server packet dest → server.conn.enclave.running = true →
        AcceptsReply env.delivery (ipcResponseSize + ipcMaxDataSize)
          (encryptStream S env server packet dest) →
        ipcTotalLen (encryptStream S env server packet dest) ≤ ipcResponseSize + 2032) ∧
    (server.conn.Synced → env.delivery = .whole →
      (ServerEncapsulates S env arrays server packet ↔
        ∀ dest key, RoutesTo server packet dest →
          getKey server.conn.enclave.km (server.table.clients dest).vpnIp = some key →
          cryptoEncrypt S (packet.take bufferSize) key env.nonce ≠ none →
          recvLen packet ≤ 2004)) ∧
    (ClientEncapsulates S clientEnv clientArrays client packet ↔
      recvLen packet ≤ 2020 ∧
        (cryptoEncrypt S (packet.take bufferSize) client.sessionKey clientEnv.nonce ≠ none →
          recvLen packet ≤ 2004)) := by
  refine ⟨?_, fun hsync hd => ?_,
    clientEncapsulates_iff S clientEnv clientArrays client packet⟩
  · rw [serverEncapsulates_iff, datagramsFit_iff]
  · rw [serverEncapsulates_iff, datagramsFit_synced hsync hd]

/-- A packet of `n` bytes for 10.8.0.2. -/
def paddedPacket (n : ℕ) : Bytes :=
  [0x45, 0, 0, 20, 0, 0, 0, 0, 64, 17, 0, 0, 10, 8, 0, 1, 10, 8, 0, 2] ++ List.replicate (n - 20) 0

/-- Arrays of zeros. -/
def zeroServerArrays : ServerArrays :=
  ⟨.replicate _ 0, .replicate _ 0, .replicate _ 0, .replicate _ 0, .replicate _ 0,
    .replicate _ 0, .replicate _ 0⟩

/-- Arrays of zeros. -/
def zeroClientArrays : ClientArrays := ⟨.replicate _ 0, .replicate _ 0, .replicate _ 0⟩

/-- A packet of 2004 bytes passes on both sides. -/
theorem encapsulation_2004 :
    ServerEncapsulates sampleSodium sampleEnv zeroServerArrays (oneClientServer ⟨1, 1⟩)
        (paddedPacket 2004) ∧
      ClientEncapsulates sampleSodium ⟨0, 0, Vector.replicate 12 0, []⟩ zeroClientArrays
        (initVpnClient sampleSodium zeroKey) (paddedPacket 2004) := by
  obtain ⟨-, hserver, hclient⟩ := encapsulation_iff sampleSodium sampleEnv zeroServerArrays
    (oneClientServer ⟨1, 1⟩) ⟨0, 0, Vector.replicate 12 0, []⟩ zeroClientArrays
    (initVpnClient sampleSodium zeroKey) (paddedPacket 2004)
  have hlen : recvLen (paddedPacket 2004) = 2004 := by decide +kernel
  rw [hlen] at hserver hclient
  exact ⟨(hserver ⟨by decide +kernel, by decide +kernel⟩ rfl).mpr
      (fun _ _ _ _ _ => le_rfl), hclient.mpr ⟨by decide, fun _ => le_rfl⟩⟩

/-- The padded packet goes to the client of `oneClientServer`. -/
theorem paddedPacket_routes :
    RoutesTo (oneClientServer ⟨1, 1⟩) (paddedPacket 2005) 0 :=
  ⟨by decide +kernel, by decide +kernel, by decide +kernel⟩

/-- **A packet of 2005 bytes** is written beyond the end of `packet_buffer`, on both sides. -/
theorem encapsulation_2005_overflows :
    handleTunToUdpChecked sampleSodium sampleEnv zeroServerArrays (oneClientServer ⟨1, 1⟩)
        (paddedPacket 2005) = none ∧
      (initVpnClient sampleSodium zeroKey).handleTunToUdpChecked sampleSodium
        ⟨0, 0, Vector.replicate 12 0, []⟩ zeroClientArrays (paddedPacket 2005) = none := by
  have hlen : recvLen (paddedPacket 2005) = 2005 := by decide +kernel
  constructor
  · rcases handleTunToUdpChecked_spec sampleSodium sampleEnv zeroServerArrays
      (oneClientServer ⟨1, 1⟩) (paddedPacket 2005) with ⟨hfits, -⟩ | ⟨-, h⟩
    · rw [datagramsFit_synced ⟨by decide +kernel, by decide +kernel⟩ rfl, hlen] at hfits
      have hkey : (getKey (oneClientServer ⟨1, 1⟩).conn.enclave.km
          ((oneClientServer ⟨1, 1⟩).table.clients 0).vpnIp).isSome = true := by decide +kernel
      obtain ⟨key, hkey⟩ := Option.isSome_iff_exists.mp hkey
      exact absurd (hfits 0 key paddedPacket_routes hkey (by simp [cryptoEncrypt, sampleSodium]))
        (by decide)
    · exact h
  · rcases Client.handleTunToUdpChecked_spec sampleSodium ⟨0, 0, Vector.replicate 12 0, []⟩
      zeroClientArrays (initVpnClient sampleSodium zeroKey) (paddedPacket 2005)
      with ⟨hfits, -⟩ | ⟨-, h⟩
    · rw [hlen] at hfits
      exact absurd (hfits.2 (by simp [cryptoEncrypt, sampleSodium])) (by decide)
    · exact h

end Vpn
