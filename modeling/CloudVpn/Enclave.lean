/-
# The enclave process

Model of `handle_ipc_request` in `enclave_main.c`, for a request that has arrived whole.
The `switch` over the command is `handleIpcCommand`; it works on the fields of the request
and the response.  `handleIpcRequest` puts the bytes around it.  The nonce that
`crypto_random_nonce` would draw is an argument.
-/
import CloudVpn.IpcProtocol
import CloudVpn.KeyManager

open Memory

namespace Vpn

/-- The state of the enclave process: its key manager and the flag `enclave_running`. -/
structure Enclave where
  km : KeyManager
  running : Bool

/-! ## The commands -/

/-- The reply to a request that succeeded. -/
def okResponse (req : IpcRequest) (data : Bytes) : IpcResponse := ⟨req.requestId, 0, data⟩

/-- The reply to a request that failed; `data_len` keeps its initial value 0. -/
def errorResponse (req : IpcRequest) : IpcResponse := ⟨req.requestId, ipcStatusError, []⟩

/-- `IPC_ADD_KEY`. -/
def handleAddKey (enclave : Enclave) (req : IpcRequest) : Enclave × IpcResponse :=
  if req.data.length ≠ 32 then (enclave, errorResponse req)
  else
    match addKey enclave.km req.vpnIp (bytesAt 32 req.data 0) with
    | some km => ({ enclave with km := km }, okResponse req [])
    | none => (enclave, errorResponse req)

/-- `IPC_ENCRYPT`: the reply holds the nonce and the ciphertext. -/
def handleEncrypt (S : Sodium) (nonce : Nonce) (enclave : Enclave) (req : IpcRequest) :
    Enclave × IpcResponse :=
  match getKey enclave.km req.vpnIp with
  | none => (enclave, errorResponse req)
  | some key =>
      match cryptoEncrypt S req.data key nonce with
      | some ciphertext => (enclave, okResponse req (nonce.toList ++ ciphertext))
      | none => (enclave, errorResponse req)

/-- `IPC_DECRYPT`: the data starts with the nonce. -/
def handleDecrypt (S : Sodium) (enclave : Enclave) (req : IpcRequest) :
    Enclave × IpcResponse :=
  match getKey enclave.km req.vpnIp with
  | none => (enclave, errorResponse req)
  | some key =>
      if req.data.length < cryptoNonceSize + cryptoMacSize then (enclave, errorResponse req)
      else
        match cryptoDecrypt S (req.data.drop cryptoNonceSize) key (bytesAt 12 req.data 0) with
        | some plaintext => (enclave, okResponse req plaintext)
        | none => (enclave, errorResponse req)

/-- `IPC_HANDSHAKE`: the reply holds the server's public key and the session key. -/
def handleHandshake (S : Sodium) (enclave : Enclave) (req : IpcRequest) :
    Enclave × IpcResponse :=
  if req.data.length ≠ 32 then (enclave, errorResponse req)
  else
    match performHandshake S enclave.km req.vpnIp (bytesAt 32 req.data 0) with
    | some (km, sessionKey) =>
        ({ enclave with km := km },
          okResponse req ((getServerPublicKey enclave.km).toList ++ sessionKey.toList))
    | none => (enclave, errorResponse req)

/-- The `switch` of `handle_ipc_request`. -/
def handleIpcCommand (S : Sodium) (nonce : Nonce) (enclave : Enclave) (req : IpcRequest) :
    Enclave × IpcResponse :=
  match IpcCommand.ofByte req.command with
  | some .ping => (enclave, okResponse req [])
  | some .addKey => handleAddKey enclave req
  | some .removeKey =>
      ({ enclave with km := removeKey enclave.km req.vpnIp }, okResponse req [])
  | some .encrypt => handleEncrypt S nonce enclave req
  | some .decrypt => handleDecrypt S enclave req
  | some .handshake => handleHandshake S enclave req
  | some .shutdown => ({ enclave with running := false }, okResponse req [])
  | none => (enclave, errorResponse req)

/-- `handle_ipc_request` on a request that both `recv` calls deliver whole, with the bytes
it sends. -/
def handleIpcRequest (S : Sodium) (nonce : Nonce) (enclave : Enclave) (request : Bytes) :
    Enclave × Bytes :=
  let (enclave', resp) := handleIpcCommand S nonce enclave (IpcRequest.decode request)
  (enclave', resp.encode)

/-! ## What a request can do -/

/-- The outcomes of a request: the enclave and the reply afterwards. -/
inductive IpcOutcome (S : Sodium) (nonce : Nonce) (enclave : Enclave) (req : IpcRequest) :
    Enclave → IpcResponse → Prop
  | refused : IpcOutcome S nonce enclave req enclave (errorResponse req)
  | pong (h : IpcCommand.ofByte req.command = some .ping) :
      IpcOutcome S nonce enclave req enclave (okResponse req [])
  | keyAdded {km : KeyManager} (h : IpcCommand.ofByte req.command = some .addKey)
      (hlen : req.data.length = 32)
      (hadd : addKey enclave.km req.vpnIp (bytesAt 32 req.data 0) = some km) :
      IpcOutcome S nonce enclave req { enclave with km := km } (okResponse req [])
  | keyRemoved (h : IpcCommand.ofByte req.command = some .removeKey) :
      IpcOutcome S nonce enclave req
        { enclave with km := removeKey enclave.km req.vpnIp } (okResponse req [])
  | encrypted {key : Key} {ciphertext : Bytes}
      (h : IpcCommand.ofByte req.command = some .encrypt)
      (hkey : getKey enclave.km req.vpnIp = some key)
      (henc : cryptoEncrypt S req.data key nonce = some ciphertext) :
      IpcOutcome S nonce enclave req enclave (okResponse req (nonce.toList ++ ciphertext))
  | decrypted {key : Key} {plaintext : Bytes}
      (h : IpcCommand.ofByte req.command = some .decrypt)
      (hkey : getKey enclave.km req.vpnIp = some key)
      (hlen : cryptoNonceSize + cryptoMacSize ≤ req.data.length)
      (hdec : cryptoDecrypt S (req.data.drop cryptoNonceSize) key (bytesAt 12 req.data 0)
        = some plaintext) :
      IpcOutcome S nonce enclave req enclave (okResponse req plaintext)
  | handshaken {km : KeyManager} {sessionKey : Key}
      (h : IpcCommand.ofByte req.command = some .handshake)
      (hlen : req.data.length = 32)
      (hhs : performHandshake S enclave.km req.vpnIp (bytesAt 32 req.data 0)
        = some (km, sessionKey)) :
      IpcOutcome S nonce enclave req { enclave with km := km }
        (okResponse req ((getServerPublicKey enclave.km).toList ++ sessionKey.toList))
  | stopped (h : IpcCommand.ofByte req.command = some .shutdown) :
      IpcOutcome S nonce enclave req { enclave with running := false } (okResponse req [])

variable {S : Sodium} {nonce : Nonce} {enclave : Enclave} {req : IpcRequest}

/-- **Every request has one of the outcomes.**  Later proofs use this instead of the
`switch`. -/
theorem handleIpcCommand_outcome (S : Sodium) (nonce : Nonce) (enclave : Enclave)
    (req : IpcRequest) :
    IpcOutcome S nonce enclave req (handleIpcCommand S nonce enclave req).1
      (handleIpcCommand S nonce enclave req).2 := by
  unfold handleIpcCommand
  -- The four commands with data have a length check or a lookup that can refuse them.
  cases hcmd : IpcCommand.ofByte req.command with
  | none => exact .refused
  | some c =>
      cases c with
      | ping => exact .pong hcmd
      | removeKey => exact .keyRemoved hcmd
      | shutdown => exact .stopped hcmd
      | addKey =>
          simp only [handleAddKey]
          split_ifs with hlen
          · exact .refused
          · cases hadd : addKey enclave.km req.vpnIp (bytesAt 32 req.data 0) with
            | none => exact .refused
            | some km => exact .keyAdded hcmd (not_not.mp hlen) hadd
      | encrypt =>
          simp only [handleEncrypt]
          cases hkey : getKey enclave.km req.vpnIp with
          | none => exact .refused
          | some key =>
              cases henc : cryptoEncrypt S req.data key nonce with
              | none =>
                  simp only [henc]
                  exact .refused
              | some ciphertext =>
                  simp only [henc]
                  exact .encrypted hcmd hkey henc
      | decrypt =>
          simp only [handleDecrypt]
          cases hkey : getKey enclave.km req.vpnIp with
          | none => exact .refused
          | some key =>
              by_cases hlen : req.data.length < cryptoNonceSize + cryptoMacSize
              · simp only [if_pos hlen]
                exact .refused
              · simp only [if_neg hlen]
                cases hdec : cryptoDecrypt S (req.data.drop cryptoNonceSize) key
                    (bytesAt 12 req.data 0) with
                | none => exact .refused
                | some plaintext => exact .decrypted hcmd hkey (not_lt.mp hlen) hdec
      | handshake =>
          simp only [handleHandshake]
          split_ifs with hlen
          · exact .refused
          · cases hhs : performHandshake S enclave.km req.vpnIp (bytesAt 32 req.data 0) with
            | none => exact .refused
            | some r => exact .handshaken hcmd (not_not.mp hlen) hhs

/-- Every reply carries the id of its request. -/
theorem IpcOutcome.requestId_eq {enclave' : Enclave} {resp : IpcResponse}
    (h : IpcOutcome S nonce enclave req enclave' resp) :
    resp.requestId = req.requestId := by
  cases h <;> rfl

/-- No request changes the server's key pair. -/
theorem IpcOutcome.serverKeys_eq {enclave' : Enclave} {resp : IpcResponse}
    (h : IpcOutcome S nonce enclave req enclave' resp) :
    enclave'.km.serverPrivateKey = enclave.km.serverPrivateKey ∧
      enclave'.km.serverPublicKey = enclave.km.serverPublicKey := by
  have hadd : ∀ key, ((addKey enclave.km req.vpnIp key).getD enclave.km).serverPrivateKey
      = enclave.km.serverPrivateKey ∧
      ((addKey enclave.km req.vpnIp key).getD enclave.km).serverPublicKey
        = enclave.km.serverPublicKey := by
    intro key
    unfold addKey
    cases findFreeKey enclave.km <;> exact ⟨rfl, rfl⟩
  cases h with
  | keyAdded _ _ hkm =>
      have hkeys := hadd (bytesAt 32 req.data 0)
      rw [hkm] at hkeys
      exact hkeys
  | keyRemoved _ =>
      simp only [removeKey]
      cases findKey enclave.km req.vpnIp <;> exact ⟨rfl, rfl⟩
  | handshaken _ _ hhs =>
      obtain ⟨secret, -, heq⟩ := Option.map_eq_some_iff.mp hhs
      obtain ⟨rfl, -⟩ := Prod.mk.inj heq
      exact hadd _
  | _ => exact ⟨rfl, rfl⟩

/-- Only `IPC_SHUTDOWN` stops the enclave. -/
theorem IpcOutcome.running_eq {enclave' : Enclave} {resp : IpcResponse}
    (h : IpcOutcome S nonce enclave req enclave' resp)
    (hcmd : IpcCommand.ofByte req.command ≠ some .shutdown) :
    enclave'.running = enclave.running := by
  cases h with
  | stopped hstop => exact absurd hstop hcmd
  | _ => rfl

/-- How many bytes of data the reply to a command can hold, from the length of the
request's data. -/
def replyBound (command : Option IpcCommand) (dataLen : ℕ) : ℕ :=
  match command with
  | some .encrypt => cryptoNonceSize + dataLen + cryptoMacSize
  | some .decrypt => dataLen
  | some .handshake => 64
  | _ => 0

theorem IpcOutcome.length_le {enclave' : Enclave} {resp : IpcResponse}
    (h : IpcOutcome S nonce enclave req enclave' resp) :
    resp.data.length ≤ replyBound (IpcCommand.ofByte req.command) req.data.length := by
  cases h with
  | refused => exact Nat.zero_le _
  | pong _ => exact Nat.zero_le _
  | keyAdded _ _ _ => exact Nat.zero_le _
  | keyRemoved _ => exact Nat.zero_le _
  | stopped _ => exact Nat.zero_le _
  | encrypted hcmd _ henc =>
      have hlen := S.length_aeadEncrypt henc
      rw [hcmd]
      simp only [okResponse, replyBound, cryptoNonceSize, cryptoMacSize, List.length_append,
        Vector.length_toList]
      omega
  | decrypted hcmd _ _ hdec =>
      have hlen := S.length_aeadDecrypt hdec
      rw [List.length_drop] at hlen
      rw [hcmd]
      simp only [okResponse, replyBound]
      omega
  | handshaken hcmd _ _ =>
      rw [hcmd]
      simp [okResponse, replyBound]

/-! ## Encryption and decryption for an address -/

/-- What the enclave encrypts for an address: nonce and ciphertext. -/
def sealFor (S : Sodium) (nonce : Nonce) (km : KeyManager) (vpnIp : UInt32)
    (plaintext : Bytes) : Option Bytes :=
  (getKey km vpnIp).bind fun key =>
    (cryptoEncrypt S plaintext key nonce).map fun ciphertext => nonce.toList ++ ciphertext

/-- What the enclave decrypts for an address. -/
def openFor (S : Sodium) (km : KeyManager) (vpnIp : UInt32) (data : Bytes) : Option Bytes :=
  (getKey km vpnIp).bind fun key =>
    if data.length < cryptoNonceSize + cryptoMacSize then none
    else cryptoDecrypt S (data.drop cryptoNonceSize) key (bytesAt 12 data 0)

theorem length_sealFor {S : Sodium} {nonce : Nonce} {km : KeyManager} {vpnIp : UInt32}
    {plaintext data : Bytes} (h : sealFor S nonce km vpnIp plaintext = some data) :
    data.length = plaintext.length + 28 := by
  unfold sealFor at h
  obtain ⟨key, -, h⟩ := Option.bind_eq_some_iff.mp h
  obtain ⟨ciphertext, henc, rfl⟩ := Option.map_eq_some_iff.mp h
  have hlen := S.length_aeadEncrypt henc
  rw [List.length_append, Vector.length_toList, hlen]
  omega

/-- What the enclave decrypts from data with a nonce; less than a tag behind the nonce is
rejected by the enclave's check and by the AEAD alike. -/
theorem openFor_eq_decrypt {S : Sodium} {km : KeyManager} {ip : UInt32} {key : Key}
    {data : Bytes} (hkey : getKey km ip = some key) (hlen : cryptoNonceSize ≤ data.length) :
    openFor S km ip data
      = cryptoDecrypt S (data.drop cryptoNonceSize) key (bytesAt 12 data 0) := by
  unfold openFor
  rw [hkey, Option.bind_some]
  split_ifs with hshort
  · cases hdec : cryptoDecrypt S (data.drop cryptoNonceSize) key (bytesAt 12 data 0) with
    | none => rfl
    | some packet =>
        have htag := S.length_aeadDecrypt hdec
        rw [List.length_drop] at htag
        unfold cryptoMacSize at hshort
        omega
  · rfl

/-- The reply that carries the data, or reports the failure. -/
def dataResponse (req : IpcRequest) (data : Option Bytes) : IpcResponse :=
  data.elim (errorResponse req) (okResponse req)

theorem handleEncrypt_eq (S : Sodium) (nonce : Nonce) (enclave : Enclave)
    (req : IpcRequest) :
    handleEncrypt S nonce enclave req
      = (enclave, dataResponse req (sealFor S nonce enclave.km req.vpnIp req.data)) := by
  unfold handleEncrypt sealFor
  cases getKey enclave.km req.vpnIp with
  | none => rfl
  | some key =>
      simp only [Option.bind_some]
      cases cryptoEncrypt S req.data key nonce <;> rfl

theorem handleDecrypt_eq (S : Sodium) (enclave : Enclave) (req : IpcRequest) :
    handleDecrypt S enclave req
      = (enclave, dataResponse req (openFor S enclave.km req.vpnIp req.data)) := by
  unfold handleDecrypt openFor
  cases getKey enclave.km req.vpnIp with
  | none => rfl
  | some key =>
      simp only [Option.bind_some]
      split_ifs
      · rfl
      · cases cryptoDecrypt S (req.data.drop cryptoNonceSize) key (bytesAt 12 req.data 0)
          <;> rfl

/-- On the bytes of a request the enclave runs the command of that request. -/
theorem handleIpcRequest_encode (h : req.data.length < 65536) :
    handleIpcRequest S nonce enclave req.encode
      = ((handleIpcCommand S nonce enclave req).1,
          (handleIpcCommand S nonce enclave req).2.encode) := by
  unfold handleIpcRequest
  rw [IpcRequest.decode_encode h]

end Vpn
