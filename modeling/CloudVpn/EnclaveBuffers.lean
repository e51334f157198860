/-
# The buffers of the enclave

`handle_ipc_request` over its two stack buffers, with every access checked.  The definitions
follow the statements of the C function: what it reads through `req` and writes through
`resp` are loads and stores at the offsets of the packed structures, and a region that is
handed to `recv` or to libsodium has to lie inside its buffer.

On a request that stays inside, the checked handler is `handleIpcSocket`
(`handleIpcChecked_eq`); `handleIpcChecked_isSome_iff` says which requests stay inside.
-/
import CloudVpn.Buffers
import CloudVpn.EnclaveSocket

open Memory Buffers

namespace Vpn

/-! ## The checked handler -/

/-- `recv` into the front of a buffer, of which `want` bytes are handed over: the buffer
and the number of bytes received. -/
def recvChecked (limit : Option ℕ) (want : ℕ) (stream buf : Bytes) : Option (Bytes × ℕ) := do
  access buf 0 want
  let buf ← store buf 0 (received limit want stream)
  return (buf, (received limit want stream).length)

/-- `resp->status = …`. -/
def setStatus (response : Bytes) (status : UInt8) : Option Bytes := store response 4 [status]

/-- `resp->data_len = htons(…)`. -/
def setDataLen (response : Bytes) (dataLen : ℕ) : Option Bytes :=
  store response 5 (le16 (htons (UInt16.ofNat dataLen)))

section
variable (S : Sodium) (nonce : Nonce) (enclave : Enclave) (request : Bytes) (dataLen : ℕ)
  (response : Bytes)

/-- An exit with status -1. -/
def failChecked : Option (Enclave × Bytes) := do
  return (enclave, ← setStatus response ipcStatusError)

/-- `IPC_ADD_KEY`. -/
def addKeyChecked : Option (Enclave × Bytes) :=
  if dataLen ≠ 32 then failChecked enclave response
  else do
    let vpnIp ← loadU32 request 5
    let sessionKey ← loadArray 32 request 11
    match addKey enclave.km vpnIp sessionKey with
    | some km => return ({ enclave with km := km }, ← setStatus response 0)
    | none => failChecked enclave response

/-- `IPC_ENCRYPT`. -/
def encryptChecked : Option (Enclave × Bytes) := do
  let vpnIp ← loadU32 request 5
  match getKey enclave.km vpnIp with
  | none => failChecked enclave response
  | some key =>
      let response ← store response 7 nonce.toList
      let plaintext ← load request 11 dataLen
      -- `crypto_encrypt` writes the ciphertext and the tag behind the nonce.
      access response (7 + cryptoNonceSize) (dataLen + cryptoMacSize)
      match cryptoEncrypt S plaintext key nonce with
      | some ciphertext =>
          let response ← store response (7 + cryptoNonceSize) ciphertext
          let response ← setDataLen response (cryptoNonceSize + dataLen + cryptoMacSize)
          return (enclave, ← setStatus response 0)
      | none => failChecked enclave response

/-- `IPC_DECRYPT`. -/
def decryptChecked : Option (Enclave × Bytes) := do
  let vpnIp ← loadU32 request 5
  match getKey enclave.km vpnIp with
  | none => failChecked enclave response
  | some key =>
      if dataLen < cryptoNonceSize + cryptoMacSize then failChecked enclave response
      else
        let nonce ← loadArray 12 request 11
        let ciphertextLen := dataLen - cryptoNonceSize
        let ciphertext ← load request (11 + cryptoNonceSize) ciphertextLen
        -- `crypto_decrypt` writes the plaintext.
        access response 7 (ciphertextLen - cryptoMacSize)
        match cryptoDecrypt S ciphertext key nonce with
        | some plaintext =>
            let response ← store response 7 plaintext
            let response ← setDataLen response (ciphertextLen - cryptoMacSize)
            return (enclave, ← setStatus response 0)
        | none => failChecked enclave response

/-- `IPC_HANDSHAKE`. -/
def handshakeChecked : Option (Enclave × Bytes) :=
  if dataLen ≠ 32 then failChecked enclave response
  else do
    let response ← store response 7 (getServerPublicKey enclave.km).toList
    let vpnIp ← loadU32 request 5
    let clientPublicKey ← loadArray 32 request 11
    -- `perform_handshake` writes the session key behind the public key.
    access response (7 + 32) 32
    match performHandshake S enclave.km vpnIp clientPublicKey with
    | some (km, sessionKey) =>
        let response ← store response (7 + 32) sessionKey.toList
        let response ← setDataLen response 64
        return ({ enclave with km := km }, ← setStatus response 0)
    | none => failChecked enclave response

/-- The `switch` of `handle_ipc_request`. -/
def commandChecked : Option (Enclave × Bytes) := do
  match IpcCommand.ofByte (← loadByte request 0) with
  | some .ping => return (enclave, ← setStatus response 0)
  | some .addKey => addKeyChecked enclave request dataLen response
  | some .removeKey =>
      let vpnIp ← loadU32 request 5
      return ({ enclave with km := removeKey enclave.km vpnIp }, ← setStatus response 0)
  | some .encrypt => encryptChecked S nonce enclave request dataLen response
  | some .decrypt => decryptChecked S enclave request dataLen response
  | some .handshake => handshakeChecked S enclave request dataLen response
  | some .shutdown => return ({ enclave with running := false }, ← setStatus response 0)
  | none => failChecked enclave response

/-- `handle_ipc_request` from the prepared response on: the enclave and the bytes sent. -/
def respondChecked (responseBuffer : Bytes) : Option (Enclave × Bytes) := do
  let response ← store responseBuffer 0 (le32 (← loadU32 request 1))
  let response ← setStatus response 0
  let response ← store response 5 (le16 0)
  let (enclave, response) ← commandChecked S nonce enclave request dataLen response
  let responseLen := ipcResponseSize + (ntohs (← loadU16 response 5)).toNat
  let reply ← load response 0 responseLen
  return (enclave, reply)

end

/-- `handle_ipc_request` with the contents that its buffers happen to have; `none` if an
access leaves a buffer. -/
def handleIpcChecked (S : Sodium) (nonce : Nonce) (d : Delivery) (sock : EnclaveSocket)
    (requestBuffer : Vector UInt8 (ipcRequestSize + ipcMaxDataSize))
    (responseBuffer : Vector UInt8 (ipcResponseSize + ipcMaxDataSize)) :
    Option (EnclaveSocket × Option Bytes) := do
  let (request, n) ← recvChecked d.peek ipcRequestSize sock.stream requestBuffer.toList
  if n < ipcRequestSize then return (sock, none)
  else
    let dataLen := (ntohs (← loadU16 request 9)).toNat
    let totalLen := ipcRequestSize + dataLen
    let (request, n) ← recvChecked d.recv totalLen sock.stream request
    let rest := sock.stream.drop n
    if n ≠ totalLen then return ({ sock with stream := rest }, none)
    else
      let (enclave, reply) ←
        respondChecked S nonce sock.enclave request dataLen responseBuffer.toList
      return (⟨enclave, rest⟩, some reply)

/-! ## The request in its buffer -/

/-- The buffer starts with the bytes of a request. -/
structure RequestIn (buf : Bytes) (req : IpcRequest) : Prop where
  command : byteAt buf 0 = req.command
  requestId : u32At buf 1 = req.requestId
  vpnIp : u32At buf 5 = req.vpnIp
  data : ∃ front rest, buf = front ++ (req.data ++ rest) ∧ front.length = ipcRequestSize

/-- A request that has arrived whole, in front of what the buffer held before. -/
theorem requestIn_append {request : Bytes} (h : request.length = ipcRequestLen request)
    (rest : Bytes) : RequestIn (request ++ rest) (IpcRequest.decode request) := by
  unfold ipcRequestLen ipcRequestSize at h
  refine ⟨byteAt_append_left rest (by omega), u32At_append_left rest (by omega),
    u32At_append_left rest (by omega), request.take ipcRequestSize, rest, ?_, ?_⟩
  · have hdata : (IpcRequest.decode request).data = request.drop ipcRequestSize := by
      apply List.take_of_length_le
      rw [List.length_drop]
      unfold ipcRequestSize
      omega
    rw [hdata, ← List.append_assoc, List.take_append_drop]
  · rw [List.length_take]
    unfold ipcRequestSize
    omega

section
variable {buf : Bytes} {req : IpcRequest} (h : RequestIn buf req)
include h

theorem RequestIn.length_le : 11 + req.data.length ≤ buf.length := by
  obtain ⟨front, rest, rfl, hfront⟩ := h.data
  rw [List.length_append, List.length_append, hfront]
  unfold ipcRequestSize
  omega

theorem RequestIn.loadByte_command : loadByte buf 0 = some req.command := by
  have hlen := h.length_le
  rw [loadByte_of_lt (by omega), h.command]

theorem RequestIn.loadU32_requestId : loadU32 buf 1 = some req.requestId := by
  have hlen := h.length_le
  rw [loadU32_of_le (by omega), h.requestId]

theorem RequestIn.loadU32_vpnIp : loadU32 buf 5 = some req.vpnIp := by
  have hlen := h.length_le
  rw [loadU32_of_le (by omega), h.vpnIp]

theorem RequestIn.load_data : load buf 11 req.data.length = some req.data := by
  obtain ⟨front, rest, rfl, hfront⟩ := h.data
  exact load_append front req.data rest hfront.symm rfl

/-- The data from an offset on. -/
theorem RequestIn.load_drop {k : ℕ} (hk : k ≤ req.data.length) :
    load buf (11 + k) (req.data.length - k) = some (req.data.drop k) := by
  obtain ⟨front, rest, rfl, hfront⟩ := h.data
  have hsplit : front ++ (req.data ++ rest)
      = (front ++ req.data.take k) ++ (req.data.drop k ++ rest) := by
    rw [List.append_assoc, ← List.append_assoc (req.data.take k), List.take_append_drop]
  rw [hsplit]
  refine load_append _ _ rest ?_ List.length_drop.symm
  rw [List.length_append, hfront, List.length_take, min_eq_left hk]
  rfl

/-- An array at the start of the data. -/
theorem RequestIn.loadArray_data {n : ℕ} (hn : n ≤ req.data.length) :
    loadArray n buf 11 = some (bytesAt n req.data 0) := by
  have hlen := h.length_le
  rw [loadArray_of_le (by omega)]
  obtain ⟨front, rest, rfl, hfront⟩ := h.data
  have htake := bytesAt_take_drop (req.data ++ rest) 0 hn
  rw [List.drop_zero, List.take_left] at htake
  have hat : bytesAt n (front ++ (req.data ++ rest)) 11
      = bytesAt n (req.data ++ rest) (11 - front.length) :=
    bytesAt_append_right _ (Nat.le_of_eq hfront)
  rw [hat, hfront, htake]
  rfl

end

/-! ## The response in its buffer -/

/-- The seven bytes of an `ipc_response_t` in front of its data. -/
def responseHeader (requestId : UInt32) (status : UInt8) (dataLen : UInt16) : Bytes :=
  le32 requestId ++ ([status] ++ le16 dataLen)

theorem length_responseHeader (requestId : UInt32) (status : UInt8) (dataLen : UInt16) :
    (responseHeader requestId status dataLen).length = 7 := rfl

theorem setStatus_responseHeader (requestId : UInt32) (status status' : UInt8)
    (dataLen : UInt16) (body : Bytes) :
    setStatus (responseHeader requestId status dataLen ++ body) status'
      = some (responseHeader requestId status' dataLen ++ body) := by
  unfold setStatus responseHeader
  rw [List.append_assoc,
    store_append (le32 requestId) (show 4 = (le32 requestId).length from rfl) (by simp)]
  simp

theorem store_dataLen_responseHeader (requestId : UInt32) (status : UInt8)
    (dataLen dataLen' : UInt16) (body : Bytes) :
    store (responseHeader requestId status dataLen ++ body) 5 (le16 dataLen')
      = some (responseHeader requestId status dataLen' ++ body) := by
  have hsplit : responseHeader requestId status dataLen ++ body
      = (le32 requestId ++ [status]) ++ (le16 dataLen ++ body) := by
    simp [responseHeader]
  rw [hsplit, store_append (le32 requestId ++ [status])
    (show 5 = (le32 requestId ++ [status]).length from rfl) (by simp)]
  simp only [responseHeader, List.append_assoc]
  rfl

/-- The data behind the header. -/
theorem store_data_responseHeader (requestId : UInt32) (status : UInt8) (dataLen : UInt16)
    {data body : Bytes} (h : data.length ≤ body.length) :
    store (responseHeader requestId status dataLen ++ body) 7 data
      = some (responseHeader requestId status dataLen ++ (data ++ body.drop data.length)) :=
  store_append _ rfl h

/-- More data behind the data. -/
theorem store_more_responseHeader (requestId : UInt32) (status : UInt8) (dataLen : UInt16)
    {first second rest : Bytes} {off : ℕ} (hoff : off = 7 + first.length)
    (h : second.length ≤ rest.length) :
    store (responseHeader requestId status dataLen ++ (first ++ rest)) off second
      = some (responseHeader requestId status dataLen
          ++ ((first ++ second) ++ rest.drop second.length)) := by
  rw [← List.append_assoc, store_append _ (by
    rw [List.length_append, length_responseHeader, hoff]) h]
  simp only [List.append_assoc]

/-- The buffer starts with the bytes of a response. -/
def ReplyIn (buf : Bytes) (resp : IpcResponse) : Prop :=
  ∃ rest, buf = responseHeader resp.requestId resp.status
    (htons (UInt16.ofNat resp.data.length)) ++ (resp.data ++ rest)

/-- The bytes that `send` takes out of the buffer are those of the response. -/
theorem ReplyIn.load_encode {buf : Bytes} {resp : IpcResponse} (h : ReplyIn buf resp) :
    loadU16 buf 5 = some (htons (UInt16.ofNat resp.data.length)) ∧
      load buf 0 (ipcResponseSize + (UInt16.ofNat resp.data.length).toNat)
        = some resp.encode := by
  obtain ⟨rest, rfl⟩ := h
  have hle : (UInt16.ofNat resp.data.length).toNat ≤ resp.data.length := by
    rw [UInt16.toNat_ofNat']
    exact Nat.mod_le _ _
  constructor
  · have hread : u16At (responseHeader resp.requestId resp.status
        (htons (UInt16.ofNat resp.data.length)) ++ (resp.data ++ rest)) 5
        = htons (UInt16.ofNat resp.data.length) := by
      rw [u16At_append_left _ (by rw [length_responseHeader])]
      unfold responseHeader
      rw [u16At_append_right _ (by simp), u16At_append_right _ (by simp)]
      exact ofLe16_bytes _
    rw [loadU16_of_le (by rw [List.length_append, length_responseHeader]; omega), hread]
  · -- Cut the data where the 16-bit length field cuts it.
    have hsplit : responseHeader resp.requestId resp.status
        (htons (UInt16.ofNat resp.data.length)) ++ (resp.data ++ rest)
        = [] ++ (resp.encode
          ++ (resp.data.drop (UInt16.ofNat resp.data.length).toNat ++ rest)) := by
      have hdata := List.take_append_drop (UInt16.ofNat resp.data.length).toNat resp.data
      simp only [responseHeader, IpcResponse.encode, List.nil_append, List.append_assoc]
      rw [← List.append_assoc (resp.data.take _), hdata]
    rw [hsplit]
    refine load_append [] _ _ rfl ?_
    unfold IpcResponse.encode ipcResponseSize
    simp only [List.length_append, length_le32, List.length_singleton, length_le16,
      List.length_take, min_eq_left hle]
    omega

/-! ## The commands inside their buffers -/

/-- A checked command leaves the enclave and, in the response buffer, the response that are
expected of it. -/
def Answers (result : Option (Enclave × Bytes)) (expected : Enclave × IpcResponse) : Prop :=
  ∃ response, result = some (expected.1, response) ∧ ReplyIn response expected.2

section
variable {S : Sodium} {nonce : Nonce} {enclave : Enclave} {buf body : Bytes}
  {req : IpcRequest}

/-- With no data the length field is the zero that it was set to at first. -/
theorem replyIn_nil (requestId : UInt32) (status : UInt8) (body : Bytes) :
    ReplyIn (responseHeader requestId status 0 ++ body) ⟨requestId, status, []⟩ := by
  refine ⟨body, ?_⟩
  show responseHeader requestId status 0 ++ body
    = responseHeader requestId status (htons 0) ++ body
  rw [show htons 0 = 0 by decide]

theorem failChecked_answers (enclave : Enclave) (req : IpcRequest) (body : Bytes) :
    Answers (failChecked enclave (responseHeader req.requestId 0 0 ++ body))
      (enclave, errorResponse req) := by
  refine ⟨_, ?_, replyIn_nil req.requestId ipcStatusError body⟩
  unfold failChecked
  rw [setStatus_responseHeader]
  rfl

/-- A success without data. -/
theorem setStatus_answers (enclave : Enclave) (req : IpcRequest) (body : Bytes) :
    Answers (do return (enclave, ← setStatus (responseHeader req.requestId 0 0 ++ body) 0))
      (enclave, okResponse req []) := by
  refine ⟨_, ?_, replyIn_nil req.requestId 0 body⟩
  rw [setStatus_responseHeader]
  rfl

/-- A success with data that has been written behind the header. -/
theorem setDataLen_answers (enclave : Enclave) (req : IpcRequest) (data rest : Bytes)
    {dataLen : ℕ} (hlen : dataLen = data.length) :
    Answers (do
        let response ← setDataLen
          (responseHeader req.requestId 0 0 ++ (data ++ rest)) dataLen
        return (enclave, ← setStatus response 0))
      (enclave, okResponse req data) := by
  subst hlen
  refine ⟨_, ?_, rest, rfl⟩
  unfold setDataLen
  rw [store_dataLen_responseHeader]
  simp only [Option.bind_eq_bind, Option.bind_some, setStatus_responseHeader]
  rfl

theorem addKeyChecked_answers (h : RequestIn buf req) :
    Answers (addKeyChecked enclave buf req.data.length
      (responseHeader req.requestId 0 0 ++ body)) (handleAddKey enclave req) := by
  unfold addKeyChecked handleAddKey
  by_cases hlen : req.data.length = 32
  · rw [if_neg (not_not.mpr hlen), if_neg (not_not.mpr hlen), h.loadU32_vpnIp,
      h.loadArray_data (Nat.le_of_eq hlen.symm)]
    simp only [Option.bind_eq_bind, Option.bind_some]
    cases addKey enclave.km req.vpnIp (bytesAt 32 req.data 0) with
    | some km => exact setStatus_answers { enclave with km := km } req body
    | none => exact failChecked_answers enclave req body
  · rw [if_pos hlen, if_pos hlen]
    exact failChecked_answers enclave req body

/-- Nonce, ciphertext and tag have to fit behind the header. -/
theorem encryptChecked_answers (h : RequestIn buf req) (hbody : body.length = ipcMaxDataSize)
    (hfits : getKey enclave.km req.vpnIp ≠ none →
      cryptoNonceSize + req.data.length + cryptoMacSize ≤ ipcMaxDataSize) :
    Answers (encryptChecked S nonce enclave buf req.data.length
      (responseHeader req.requestId 0 0 ++ body)) (handleEncrypt S nonce enclave req) := by
  unfold encryptChecked handleEncrypt
  rw [h.loadU32_vpnIp]
  simp only [Option.bind_eq_bind, Option.bind_some]
  cases hkey : getKey enclave.km req.vpnIp with
  | none => exact failChecked_answers enclave req body
  | some key =>
      have hroom := hfits (by rw [hkey]; simp)
      unfold cryptoNonceSize cryptoMacSize at hroom
      have hnonce : nonce.toList.length = 12 := Vector.length_toList
      simp only
      rw [store_data_responseHeader _ _ _ (show nonce.toList.length ≤ body.length by omega),
        h.load_data]
      simp only [Option.bind_some]
      rw [access_of_le (by
        simp only [List.length_append, length_responseHeader, List.length_drop]
        unfold cryptoNonceSize cryptoMacSize
        omega)]
      simp only [Option.bind_some]
      cases henc : cryptoEncrypt S req.data key nonce with
      | none => exact failChecked_answers enclave req _
      | some ciphertext =>
          have hcipher := S.length_aeadEncrypt henc
          simp only
          rw [store_more_responseHeader _ _ _
            (show 7 + cryptoNonceSize = 7 + nonce.toList.length by rw [hnonce]; rfl)
            (show ciphertext.length ≤ (body.drop nonce.toList.length).length by
              rw [List.length_drop]
              omega)]
          simp only [Option.bind_some]
          refine setDataLen_answers enclave req (nonce.toList ++ ciphertext) _ ?_
          rw [List.length_append, hnonce, hcipher]
          unfold cryptoNonceSize cryptoMacSize
          omega

/-- A longer plaintext is encrypted beyond the end of the response buffer. -/
theorem encryptChecked_overflow (h : RequestIn buf req)
    (hbody : body.length = ipcMaxDataSize) (hkey : getKey enclave.km req.vpnIp ≠ none)
    (hlong : ipcMaxDataSize < cryptoNonceSize + req.data.length + cryptoMacSize) :
    encryptChecked S nonce enclave buf req.data.length
      (responseHeader req.requestId 0 0 ++ body) = none := by
  obtain ⟨key, hkey⟩ := Option.ne_none_iff_exists'.mp hkey
  have hnonce : nonce.toList.length = 12 := Vector.length_toList
  unfold encryptChecked
  rw [h.loadU32_vpnIp]
  simp only [Option.bind_eq_bind, Option.bind_some, hkey]
  rw [store_data_responseHeader _ _ _ (show nonce.toList.length ≤ body.length by
    rw [hbody, hnonce]; decide), h.load_data]
  simp only [Option.bind_some]
  rw [access_of_gt (by
    unfold cryptoNonceSize cryptoMacSize at hlong ⊢
    unfold ipcMaxDataSize at hlong hbody
    simp only [List.length_append, length_responseHeader, List.length_drop]
    omega)]
  rfl

theorem decryptChecked_answers (h : RequestIn buf req) (hbody : body.length = ipcMaxDataSize)
    (hlen : req.data.length ≤ ipcMaxDataSize) :
    Answers (decryptChecked S enclave buf req.data.length
      (responseHeader req.requestId 0 0 ++ body)) (handleDecrypt S enclave req) := by
  unfold decryptChecked handleDecrypt
  rw [h.loadU32_vpnIp]
  simp only [Option.bind_eq_bind, Option.bind_some]
  cases hkey : getKey enclave.km req.vpnIp with
  | none => exact failChecked_answers enclave req body
  | some key =>
      simp only
      by_cases hshort : req.data.length < cryptoNonceSize + cryptoMacSize
      · rw [if_pos hshort, if_pos hshort]
        exact failChecked_answers enclave req body
      · have hload : load buf (11 + cryptoNonceSize) (req.data.length - cryptoNonceSize)
            = some (req.data.drop cryptoNonceSize) :=
          h.load_drop (show cryptoNonceSize ≤ req.data.length by omega)
        have harray : loadArray 12 buf 11 = some (bytesAt 12 req.data 0) :=
          h.loadArray_data (by unfold cryptoNonceSize at hshort; omega)
        rw [if_neg hshort, if_neg hshort, harray]
        simp only [Option.bind_some, hload]
        rw [access_of_le (by
          rw [List.length_append, length_responseHeader]
          omega)]
        simp only [Option.bind_some]
        cases hdec : cryptoDecrypt S (req.data.drop cryptoNonceSize) key
            (bytesAt 12 req.data 0) with
        | none => exact failChecked_answers enclave req body
        | some plaintext =>
            have hplain := S.length_aeadDecrypt hdec
            rw [List.length_drop] at hplain
            simp only
            rw [store_data_responseHeader _ _ _
              (show plaintext.length ≤ body.length by omega)]
            simp only [Option.bind_some]
            refine setDataLen_answers enclave req plaintext _ ?_
            unfold cryptoMacSize
            omega

theorem handshakeChecked_answers (h : RequestIn buf req)
    (hbody : body.length = ipcMaxDataSize) :
    Answers (handshakeChecked S enclave buf req.data.length
      (responseHeader req.requestId 0 0 ++ body)) (handleHandshake S enclave req) := by
  have hpublic : (getServerPublicKey enclave.km).toList.length = 32 := Vector.length_toList
  unfold ipcMaxDataSize at hbody
  unfold handshakeChecked handleHandshake
  by_cases hlen : req.data.length = 32
  · rw [if_neg (not_not.mpr hlen), if_neg (not_not.mpr hlen),
      store_data_responseHeader _ _ _
        (show (getServerPublicKey enclave.km).toList.length ≤ body.length by omega)]
    simp only [Option.bind_eq_bind, Option.bind_some]
    rw [h.loadU32_vpnIp, h.loadArray_data (Nat.le_of_eq hlen.symm)]
    simp only [Option.bind_some]
    rw [access_of_le (by
      simp only [List.length_append, length_responseHeader, List.length_drop]
      omega)]
    simp only [Option.bind_some]
    cases performHandshake S enclave.km req.vpnIp (bytesAt 32 req.data 0) with
    | none => exact failChecked_answers enclave req _
    | some result =>
        obtain ⟨km, sessionKey⟩ := result
        have hsession : sessionKey.toList.length = 32 := Vector.length_toList
        simp only
        rw [store_more_responseHeader _ _ _
          (show 7 + 32 = 7 + (getServerPublicKey enclave.km).toList.length by rw [hpublic])
          (show sessionKey.toList.length
              ≤ (body.drop (getServerPublicKey enclave.km).toList.length).length by
            rw [List.length_drop]
            omega)]
        simp only [Option.bind_some]
        refine setDataLen_answers { enclave with km := km } req
          ((getServerPublicKey enclave.km).toList ++ sessionKey.toList) _ ?_
        rw [List.length_append, hpublic, hsession]
  · rw [if_pos hlen, if_pos hlen]
    exact failChecked_answers enclave req body

/-- **The `switch`** stays inside, if the reply of `IPC_ENCRYPT` fits. -/
theorem commandChecked_answers (h : RequestIn buf req) (hbody : body.length = ipcMaxDataSize)
    (hlen : req.data.length ≤ ipcMaxDataSize)
    (hfits : IpcCommand.ofByte req.command = some .encrypt →
      getKey enclave.km req.vpnIp ≠ none →
        cryptoNonceSize + req.data.length + cryptoMacSize ≤ ipcMaxDataSize) :
    Answers (commandChecked S nonce enclave buf req.data.length
      (responseHeader req.requestId 0 0 ++ body)) (handleIpcCommand S nonce enclave req) := by
  unfold commandChecked handleIpcCommand
  rw [h.loadByte_command]
  simp only [Option.bind_eq_bind, Option.bind_some]
  cases hcmd : IpcCommand.ofByte req.command with
  | none => exact failChecked_answers enclave req body
  | some c =>
      cases c with
      | ping => exact setStatus_answers enclave req body
      | addKey => exact addKeyChecked_answers h
      | encrypt => exact encryptChecked_answers h hbody (hfits hcmd)
      | decrypt => exact decryptChecked_answers h hbody hlen
      | handshake => exact handshakeChecked_answers h hbody
      | shutdown => exact setStatus_answers { enclave with running := false } req body
      | removeKey =>
          simp only [h.loadU32_vpnIp, Option.bind_some]
          exact setStatus_answers { enclave with km := removeKey enclave.km req.vpnIp } req body

theorem commandChecked_overflow (h : RequestIn buf req)
    (hbody : body.length = ipcMaxDataSize)
    (hcmd : IpcCommand.ofByte req.command = some .encrypt)
    (hkey : getKey enclave.km req.vpnIp ≠ none)
    (hlong : ipcMaxDataSize < cryptoNonceSize + req.data.length + cryptoMacSize) :
    commandChecked S nonce enclave buf req.data.length
      (responseHeader req.requestId 0 0 ++ body) = none := by
  unfold commandChecked
  rw [h.loadByte_command]
  simp only [Option.bind_eq_bind, Option.bind_some, hcmd]
  exact encryptChecked_overflow h hbody hkey hlong

/-! ## The whole handler -/

/-- The three stores that prepare the response. -/
theorem respondChecked_prepared (h : RequestIn buf req) {responseBuffer : Bytes}
    (hlen : responseBuffer.length = ipcResponseSize + ipcMaxDataSize) :
    respondChecked S nonce enclave buf req.data.length responseBuffer =
      (commandChecked S nonce enclave buf req.data.length
        (responseHeader req.requestId 0 0 ++ responseBuffer.drop 7)).bind fun r =>
        (loadU16 r.2 5).bind fun dataLen =>
          (load r.2 0 (ipcResponseSize + (ntohs dataLen).toNat)).bind fun reply =>
            some (r.1, reply) := by
  unfold ipcResponseSize ipcMaxDataSize at hlen
  have hstatus : setStatus (le32 req.requestId ++ responseBuffer.drop 4) 0
      = some ((le32 req.requestId ++ [0]) ++ responseBuffer.drop 5) := by
    unfold setStatus
    rw [store_append (le32 req.requestId)
      (show 4 = (le32 req.requestId).length from rfl)
      (show [(0 : UInt8)].length ≤ (responseBuffer.drop 4).length by
        rw [List.length_drop, List.length_singleton]
        omega), List.drop_drop, List.append_assoc]
    rfl
  have hdata : store ((le32 req.requestId ++ [0]) ++ responseBuffer.drop 5) 5 (le16 0)
      = some (responseHeader req.requestId 0 0 ++ responseBuffer.drop 7) := by
    rw [store_append (le32 req.requestId ++ [0])
      (show 5 = (le32 req.requestId ++ [0]).length from rfl)
      (show (le16 0).length ≤ (responseBuffer.drop 5).length by
        rw [List.length_drop, length_le16]
        omega), List.drop_drop]
    simp only [responseHeader, List.append_assoc]
    rfl
  unfold respondChecked
  rw [h.loadU32_requestId]
  simp only [Option.bind_eq_bind, Option.bind_some]
  rw [store_front (show (le32 req.requestId).length ≤ responseBuffer.length by
    rw [length_le32]; omega)]
  simp only [Option.bind_some, length_le32, hstatus, hdata]
  rfl

theorem respondChecked_eq (h : RequestIn buf req) {responseBuffer : Bytes}
    (hbuffer : responseBuffer.length = ipcResponseSize + ipcMaxDataSize)
    (hlen : req.data.length ≤ ipcMaxDataSize)
    (hfits : IpcCommand.ofByte req.command = some .encrypt →
      getKey enclave.km req.vpnIp ≠ none →
        cryptoNonceSize + req.data.length + cryptoMacSize ≤ ipcMaxDataSize) :
    respondChecked S nonce enclave buf req.data.length responseBuffer
      = some ((handleIpcCommand S nonce enclave req).1,
          (handleIpcCommand S nonce enclave req).2.encode) := by
  have hbody : (responseBuffer.drop 7).length = ipcMaxDataSize := by
    rw [List.length_drop, hbuffer]
    rfl
  obtain ⟨response, hcommand, hreply⟩ := commandChecked_answers h hbody hlen hfits
  obtain ⟨hdataLen, hsend⟩ := hreply.load_encode
  rw [respondChecked_prepared h hbuffer, hcommand, Option.bind_some, hdataLen,
    Option.bind_some, ntohs_htons, hsend]
  rfl

theorem respondChecked_overflow (h : RequestIn buf req) {responseBuffer : Bytes}
    (hbuffer : responseBuffer.length = ipcResponseSize + ipcMaxDataSize)
    (hcmd : IpcCommand.ofByte req.command = some .encrypt)
    (hkey : getKey enclave.km req.vpnIp ≠ none)
    (hlong : ipcMaxDataSize < cryptoNonceSize + req.data.length + cryptoMacSize) :
    respondChecked S nonce enclave buf req.data.length responseBuffer = none := by
  have hbody : (responseBuffer.drop 7).length = ipcMaxDataSize := by
    rw [List.length_drop, hbuffer]
    rfl
  rw [respondChecked_prepared h hbuffer, commandChecked_overflow h hbody hcmd hkey hlong]
  rfl

end

theorem length_received_le (limit : Option ℕ) (want : ℕ) (stream : Bytes) :
    (received limit want stream).length ≤ want := by
  unfold received
  rw [List.length_take]
  omega

theorem recvChecked_of_le {limit : Option ℕ} {want : ℕ} {stream buf : Bytes}
    (h : want ≤ buf.length) :
    recvChecked limit want stream buf =
      some (received limit want stream ++ buf.drop (received limit want stream).length,
        (received limit want stream).length) := by
  have hle := length_received_le limit want stream
  unfold recvChecked
  rw [access_of_le (by omega), store_front (by omega)]
  rfl

theorem recvChecked_of_gt {limit : Option ℕ} {want : ℕ} {stream buf : Bytes}
    (h : buf.length < want) : recvChecked limit want stream buf = none := by
  unfold recvChecked
  rw [access_of_gt (by omega)]
  rfl

/-- The request on the stream keeps the handler inside its buffers: it announces at most
4096 bytes of data, and if it arrives whole and is to be encrypted under a key of the table,
at most 4068. -/
def StaysInside (d : Delivery) (sock : EnclaveSocket) : Prop :=
  let dataLen := (ntohs (u16At sock.stream 9)).toNat
  ipcRequestSize ≤ (received d.peek ipcRequestSize sock.stream).length →
    dataLen ≤ ipcMaxDataSize ∧
      ((received d.recv (ipcRequestLen sock.stream) sock.stream).length
          = ipcRequestLen sock.stream →
        IpcCommand.ofByte (byteAt sock.stream 0) = some .encrypt →
        getKey sock.enclave.km (u32At sock.stream 5) ≠ none →
          cryptoNonceSize + dataLen + cryptoMacSize ≤ ipcMaxDataSize)

section
variable {S : Sodium} {nonce : Nonce} {d : Delivery} {sock : EnclaveSocket}
  {requestBuffer : Vector UInt8 (ipcRequestSize + ipcMaxDataSize)}
  {responseBuffer : Vector UInt8 (ipcResponseSize + ipcMaxDataSize)}

/-- A header that does not arrive ends the handler at once. -/
theorem handleIpcChecked_short
    (h : (received d.peek ipcRequestSize sock.stream).length < ipcRequestSize) :
    handleIpcChecked S nonce d sock requestBuffer responseBuffer
      = some (handleIpcSocket S nonce d sock) := by
  have hroom : ipcRequestSize ≤ requestBuffer.toList.length := by
    rw [Vector.length_toList]
    omega
  unfold handleIpcChecked handleIpcSocket
  rw [recvChecked_of_le hroom, recvIpcRequest_short h]
  simp only [Option.bind_eq_bind, Option.bind_some, if_pos h]
  rfl

/-- After the peek, the length of the second `recv` is the one that the stream announces. -/
theorem handleIpcChecked_header
    (h : ipcRequestSize ≤ (received d.peek ipcRequestSize sock.stream).length) :
    ∃ buf : Bytes, buf.length = ipcRequestSize + ipcMaxDataSize ∧
      handleIpcChecked S nonce d sock requestBuffer responseBuffer =
        (recvChecked d.recv (ipcRequestLen sock.stream) sock.stream buf).bind fun r =>
          if r.2 ≠ ipcRequestLen sock.stream then
            some ({ sock with stream := sock.stream.drop r.2 }, none)
          else
            (respondChecked S nonce sock.enclave r.1 (ntohs (u16At sock.stream 9)).toNat
              responseBuffer.toList).bind fun a =>
              some (⟨a.1, sock.stream.drop r.2⟩, some a.2) := by
  have hsize : requestBuffer.toList.length = ipcRequestSize + ipcMaxDataSize :=
    Vector.length_toList
  have hheader := received_eq_take_of_length h
  have hlen : (sock.stream.take ipcRequestSize).length = ipcRequestSize := by
    rw [← hheader]
    exact le_antisymm (length_received_le _ _ _) h
  refine ⟨sock.stream.take ipcRequestSize ++ requestBuffer.toList.drop ipcRequestSize, ?_, ?_⟩
  · rw [List.length_append, hlen, List.length_drop, hsize]
    omega
  · have hdataLen : loadU16 (sock.stream.take ipcRequestSize
        ++ requestBuffer.toList.drop ipcRequestSize) 9 = some (u16At sock.stream 9) := by
      rw [loadU16_of_le (by rw [List.length_append, hlen]; unfold ipcRequestSize; omega),
        u16At_append_left _ (by rw [hlen]; decide),
        u16At_take _ (show 9 + 2 ≤ ipcRequestSize by decide)]
    unfold handleIpcChecked
    rw [recvChecked_of_le (show ipcRequestSize ≤ requestBuffer.toList.length by omega)]
    simp only [Option.bind_eq_bind, Option.bind_some, hheader, hlen, lt_irrefl, if_false,
      hdataLen]
    rfl

/-- A request that arrives whole has the fields that lie at the front of the stream. -/
theorem decode_received {stream : Bytes}
    (h : (received d.recv (ipcRequestLen stream) stream).length = ipcRequestLen stream) :
    let request := received d.recv (ipcRequestLen stream) stream
    request.length = ipcRequestLen request ∧
      (IpcRequest.decode request).command = byteAt stream 0 ∧
      (IpcRequest.decode request).vpnIp = u32At stream 5 ∧
      (IpcRequest.decode request).data.length = (ntohs (u16At stream 9)).toNat := by
  have htake := received_eq_take_of_length (Nat.le_of_eq h.symm)
  have hsize : 11 ≤ ipcRequestLen stream := Nat.le_add_right 11 _
  have hdataLen : u16At (stream.take (ipcRequestLen stream)) 9 = u16At stream 9 :=
    u16At_take stream (by omega)
  rw [htake] at h ⊢
  refine ⟨?_, byteAt_take stream (by omega), u32At_take stream (by omega), ?_⟩
  · rw [h]
    unfold ipcRequestLen at hdataLen ⊢
    rw [hdataLen]
  · unfold IpcRequest.decode
    rw [hdataLen, List.length_take, List.length_drop, h]
    unfold ipcRequestLen
    omega

/-- A request that is too long leads out of the request buffer. -/
theorem handleIpcChecked_tooLong
    (hpeek : ipcRequestSize ≤ (received d.peek ipcRequestSize sock.stream).length)
    (hlong : ipcMaxDataSize < (ntohs (u16At sock.stream 9)).toNat) :
    handleIpcChecked S nonce d sock requestBuffer responseBuffer = none := by
  obtain ⟨buf, hbuf, heq⟩ : ∃ buf : Bytes, _ ∧
      handleIpcChecked S nonce d sock requestBuffer responseBuffer = _ :=
    handleIpcChecked_header hpeek
  have hout : buf.length < ipcRequestLen sock.stream := by
    rw [hbuf]
    unfold ipcRequestLen
    omega
  rw [heq, recvChecked_of_gt hout]
  rfl

/-- The second `recv`, for a request that fits the request buffer. -/
theorem handleIpcChecked_recv
    (hpeek : ipcRequestSize ≤ (received d.peek ipcRequestSize sock.stream).length)
    (hmax : (ntohs (u16At sock.stream 9)).toNat ≤ ipcMaxDataSize) :
    let request := received d.recv (ipcRequestLen sock.stream) sock.stream
    ∃ junk, handleIpcChecked S nonce d sock requestBuffer responseBuffer =
      if request.length ≠ ipcRequestLen sock.stream then
        some ({ sock with stream := sock.stream.drop request.length }, none)
      else
        (respondChecked S nonce sock.enclave (request ++ junk)
          (ntohs (u16At sock.stream 9)).toNat responseBuffer.toList).bind fun a =>
          some (⟨a.1, sock.stream.drop request.length⟩, some a.2) := by
  intro request
  obtain ⟨buf, hbuf, heq⟩ : ∃ buf : Bytes, _ ∧
      handleIpcChecked S nonce d sock requestBuffer responseBuffer = _ :=
    handleIpcChecked_header hpeek
  have hroom : ipcRequestLen sock.stream ≤ buf.length := by
    rw [hbuf]
    unfold ipcRequestLen
    omega
  refine ⟨buf.drop request.length, ?_⟩
  rw [heq, recvChecked_of_le hroom, Option.bind_some]

/-- **Inside its buffers the handler is the handler without them.** -/
theorem handleIpcChecked_eq (h : StaysInside d sock) :
    handleIpcChecked S nonce d sock requestBuffer responseBuffer
      = some (handleIpcSocket S nonce d sock) := by
  by_cases hpeek : (received d.peek ipcRequestSize sock.stream).length < ipcRequestSize
  · exact handleIpcChecked_short hpeek
  · obtain ⟨hmax, hfits⟩ := h (not_lt.mp hpeek)
    obtain ⟨junk, heq⟩ : ∃ junk,
        handleIpcChecked S nonce d sock requestBuffer responseBuffer = _ :=
      handleIpcChecked_recv (not_lt.mp hpeek) hmax
    unfold handleIpcSocket
    rw [heq, recvIpcRequest_header (not_lt.mp hpeek)]
    by_cases hwhole : (received d.recv (ipcRequestLen sock.stream) sock.stream).length
        = ipcRequestLen sock.stream
    · obtain ⟨hlen, hcommand, hvpnIp, hdata⟩ := decode_received hwhole
      rw [if_neg (not_not.mpr hwhole), if_neg (not_not.mpr hwhole), ← hdata,
        respondChecked_eq (requestIn_append hlen junk) Vector.length_toList
          (by rw [hdata]; exact hmax)
          (by rw [hcommand, hvpnIp, hdata]; exact hfits hwhole)]
      simp only [Option.bind_some, handleIpcRequest]
    · rw [if_pos hwhole, if_pos hwhole]

/-- Every other request leads out of a buffer. -/
theorem handleIpcChecked_eq_none (h : ¬ StaysInside d sock) :
    handleIpcChecked S nonce d sock requestBuffer responseBuffer = none := by
  unfold StaysInside at h
  dsimp only at h
  push Not at h
  obtain ⟨hpeek, hout⟩ := h
  by_cases hmax : (ntohs (u16At sock.stream 9)).toNat ≤ ipcMaxDataSize
  · -- The request fits its buffer; what is encrypted does not fit the other one.
    obtain ⟨hwhole, hcmd, hkey, hlong⟩ := hout hmax
    obtain ⟨hlen, hcommand, hvpnIp, hdata⟩ := decode_received hwhole
    obtain ⟨junk, heq⟩ : ∃ junk,
        handleIpcChecked S nonce d sock requestBuffer responseBuffer = _ :=
      handleIpcChecked_recv hpeek hmax
    rw [heq, if_neg (not_not.mpr hwhole), ← hdata,
      respondChecked_overflow (requestIn_append hlen junk) Vector.length_toList
        (by rw [hcommand]; exact hcmd) (by rw [hvpnIp]; exact hkey)
        (by rw [hdata]; exact hlong)]
    rfl
  · exact handleIpcChecked_tooLong hpeek (not_le.mp hmax)

end

/-- **Which requests stay inside the buffers**, whatever the two buffers held before. -/
theorem handleIpcChecked_isSome_iff (S : Sodium) (nonce : Nonce) (d : Delivery)
    (sock : EnclaveSocket)
    (requestBuffer : Vector UInt8 (ipcRequestSize + ipcMaxDataSize))
    (responseBuffer : Vector UInt8 (ipcResponseSize + ipcMaxDataSize)) :
    (handleIpcChecked S nonce d sock requestBuffer responseBuffer).isSome ↔
      StaysInside d sock := by
  constructor
  · intro hsome
    by_contra hout
    rw [handleIpcChecked_eq_none hout] at hsome
    exact absurd hsome (by simp)
  · intro hin
    rw [handleIpcChecked_eq hin]
    rfl

/-- A `IPC_PING` request with 4097 bytes of data. -/
def overlongPing : Bytes :=
  [0x01, 0, 0, 0, 1, 0, 0, 0, 0, 0x10, 0x01] ++ List.replicate 4097 0

/-- **A request with 4097 bytes of data** makes the second `recv` write beyond the request
buffer, whatever its command is. -/
theorem handleIpcChecked_overlong :
    handleIpcChecked sampleSodium (Vector.replicate 12 0) .whole
      ⟨startEnclave sampleSodium zeroKey, overlongPing⟩
      (Vector.replicate _ 0) (Vector.replicate _ 0) = none := by
  apply handleIpcChecked_eq_none
  intro hin
  have hmax := (hin (by decide +kernel)).1
  exact absurd hmax (by decide +kernel)

end Vpn
