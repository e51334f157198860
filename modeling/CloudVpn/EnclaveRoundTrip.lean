/-
# What the enclave encrypts it can decrypt again

`IPC_ENCRYPT` puts the nonce in front of the ciphertext, and `IPC_DECRYPT` expects it there.
Between the two the key has to stay the one that `get_key` finds, which requests about other
addresses do not change (`getKey_run_ipcStep`).

`enclave_roundTrip` follows the payload through the bytes of both replies: every length that
the server's side accepts fits the 16-bit length fields of all four messages.
-/
import CloudVpn.KeyHygiene

open Memory Slots Runs

namespace Vpn

/-- What the AEAD has encrypted it decrypts to the plaintext. -/
def Sodium.AeadInverse (S : Sodium) : Prop :=
  ∀ (m : Bytes) (n : Nonce) (k : Key) (c : Bytes),
    S.aeadEncrypt m n k = some c → S.aeadDecrypt c n k = some m

theorem sampleSodium_aeadInverse : sampleSodium.AeadInverse := by
  intro m n k c h
  obtain ⟨c', henc, hdec⟩ := sampleSodium_aeadRoundTrip m n k
  rw [← Option.some.inj (henc.symm.trans h)]
  exact hdec

variable {S : Sodium} {nonce : Nonce} {km km' : KeyManager} {ip : UInt32}
  {plaintext data : Bytes}

/-! ## Sealing and opening -/

/-- What was sealed under the key of an address is opened under the same key. -/
theorem openFor_of_sealFor (hS : S.AeadInverse) (hkey : getKey km' ip = getKey km ip)
    (h : sealFor S nonce km ip plaintext = some data) :
    openFor S km' ip data = some plaintext := by
  unfold sealFor at h
  obtain ⟨key, hk, h⟩ := Option.bind_eq_some_iff.mp h
  obtain ⟨ciphertext, henc, rfl⟩ := Option.map_eq_some_iff.mp h
  -- The nonce is read back from the first 12 bytes, the ciphertext from the rest.
  have hnonce : bytesAt 12 (nonce.toList ++ ciphertext) 0 = nonce := bytesAt_toList nonce _
  have hrest : (nonce.toList ++ ciphertext).drop cryptoNonceSize = ciphertext :=
    List.drop_left' (by simp [cryptoNonceSize])
  rw [openFor_eq_decrypt (hkey.trans hk) (by simp [cryptoNonceSize]), hnonce, hrest]
  exact hS plaintext nonce key ciphertext henc

/-- An address without a key has nothing sealed and nothing opened. -/
theorem sealFor_of_noKey (hkey : getKey km ip = none) :
    sealFor S nonce km ip plaintext = none := by
  unfold sealFor
  rw [hkey]
  rfl

theorem openFor_of_noKey (hkey : getKey km ip = none) : openFor S km ip data = none := by
  unfold openFor
  rw [hkey]
  rfl

/-! ## The two commands -/

section
variable {enclave : Enclave} (id : UInt32)

/-- The reply to an `IPC_ENCRYPT` request. -/
theorem handleIpcCommand_encrypt (nonce : Nonce) (plaintext : Bytes) :
    handleIpcCommand S nonce enclave (initIpcRequest id .encrypt ip plaintext)
      = (enclave, dataResponse (initIpcRequest id .encrypt ip plaintext)
          (sealFor S nonce enclave.km ip plaintext)) :=
  handleEncrypt_eq S nonce enclave (initIpcRequest id .encrypt ip plaintext)

/-- The reply to an `IPC_DECRYPT` request. -/
theorem handleIpcCommand_decrypt (nonce : Nonce) (data : Bytes) :
    handleIpcCommand S nonce enclave (initIpcRequest id .decrypt ip data)
      = (enclave, dataResponse (initIpcRequest id .decrypt ip data)
          (openFor S enclave.km ip data)) :=
  handleDecrypt_eq S enclave (initIpcRequest id .decrypt ip data)

/-- The bytes of the reply to an `IPC_ENCRYPT` request; the plaintext is shorter than the data
that the reply carries. -/
theorem handleIpcRequest_encrypt (hseal : sealFor S nonce enclave.km ip plaintext = some data)
    (hlen : data.length ≤ ipcMaxDataSize) :
    handleIpcRequest S nonce enclave (initIpcRequest id .encrypt ip plaintext).encode
      = (enclave, (okResponse (initIpcRequest id .encrypt ip plaintext) data).encode) := by
  have hplain : plaintext.length < 65536 := by
    have hdata := length_sealFor hseal
    unfold ipcMaxDataSize at hlen
    omega
  rw [handleIpcRequest_encode hplain, handleIpcCommand_encrypt, hseal]
  rfl

/-- The bytes of the reply to an `IPC_DECRYPT` request. -/
theorem handleIpcRequest_decrypt (nonce : Nonce)
    (hopen : openFor S enclave.km ip data = some plaintext)
    (hlen : data.length ≤ ipcMaxDataSize) :
    handleIpcRequest S nonce enclave (initIpcRequest id .decrypt ip data).encode
      = (enclave, (okResponse (initIpcRequest id .decrypt ip data) plaintext).encode) := by
  have hdata : data.length < 65536 := by
    unfold ipcMaxDataSize at hlen
    omega
  rw [handleIpcRequest_encode hdata, handleIpcCommand_decrypt, hopen]
  rfl

/-- The bytes of a reply with data that its length field can hold. -/
theorem okResponse_bytes (req : IpcRequest) {data : Bytes} (hlen : data.length < 65536) :
    byteAt (okResponse req data).encode 4 = 0 ∧
      (ntohs (u16At (okResponse req data).encode 5)).toNat = data.length ∧
      (okResponse req data).encode.drop ipcResponseSize = data := by
  refine ⟨IpcResponse.status_encode _, ?_, ?_⟩
  · rw [ipcResponse_u16At, ntohs_htons]
    exact toNat_ofNat_length hlen
  · show data.take (UInt16.ofNat data.length).toNat = data
    rw [toNat_ofNat_length hlen, List.take_length]

/-- A reply with status 0 carries the data. -/
theorem dataResponse_ok {req : IpcRequest} {data : Option Bytes}
    (h : (dataResponse req data).status = 0) :
    ∃ bytes, data = some bytes ∧ dataResponse req data = okResponse req bytes := by
  cases data with
  | none => exact absurd h (show ¬ ipcStatusError = 0 by decide)
  | some bytes => exact ⟨bytes, rfl, rfl⟩

end

/-- Requests that are not `IPC_SHUTDOWN` leave the enclave running. -/
theorem running_run_ipcStep (enclave : Enclave) {es : List (Nonce × Bytes)}
    (hes : ∀ e ∈ es, IpcCommand.ofByte (byteAt e.2 0) ≠ some .shutdown) :
    (run (ipcStep S) enclave es).running = enclave.running := by
  refine run_invariant_of_forall (ipcStep S) (I := fun e => e.running = enclave.running)
    (E := fun e => IpcCommand.ofByte (byteAt e.2 0) ≠ some .shutdown)
    (fun s e he h => ?_) rfl hes
  unfold ipcStep
  split_ifs
  · exact ((handleIpcCommand_outcome S e.1 s (IpcRequest.decode e.2)).running_eq he).trans h
  · exact h

/-! ## The round trip -/

/-- **The round trip.**  If `IPC_ENCRYPT` for an address is answered with status 0 and at most
`IPC_MAX_DATA_SIZE` bytes of data, then after any requests about other addresses, none of them
`IPC_SHUTDOWN`, the enclave still runs and `IPC_DECRYPT` of these data is answered with status
0, the length of the plaintext and the plaintext; `enclave_decrypt` returns it.  For an address
without a key both commands are answered with status -1. -/
theorem enclave_roundTrip (hS : S.AeadInverse) (enclave : Enclave) (ip : UInt32)
    (plaintext : Bytes) (nonce nonce' : Nonce) (id id' : UInt32) :
    let request := initIpcRequest id .encrypt ip plaintext
    let reply := (handleIpcCommand S nonce enclave request).2
    let replyBytes := (handleIpcRequest S nonce enclave request.encode).2
    (getKey enclave.km ip ≠ none → reply.status = 0 → reply.data.length ≤ ipcMaxDataSize →
      replyBytes = reply.encode ∧
      ∀ es : List (Nonce × Bytes),
        (∀ e ∈ es, u32At e.2 5 ≠ ip ∧ IpcCommand.ofByte (byteAt e.2 0) ≠ some .shutdown) →
        let enclave' := run (ipcStep S) (handleIpcRequest S nonce enclave request.encode).1 es
        let payload := replyBytes.drop ipcResponseSize
        let answer := (handleIpcRequest S nonce' enclave'
          (initIpcRequest id' .decrypt ip payload).encode).2
        enclave'.running = enclave.running ∧
        byteAt answer 4 = 0 ∧ (ntohs (u16At answer 5)).toNat = plaintext.length ∧
        answer.drop ipcResponseSize = plaintext ∧
        ∀ conn : Connection, conn.Synced → conn.enclave = enclave' →
          (enclaveDecrypt S nonce' .whole conn ip payload).2 = some (okReply conn plaintext)) ∧
    (getKey enclave.km ip = none → ∀ data : Bytes,
      reply.status = ipcStatusError ∧
      (handleIpcCommand S nonce' enclave (initIpcRequest id' .decrypt ip data)).2.status
        = ipcStatusError) := by
  intro request reply replyBytes
  have hreply : reply = dataResponse request (sealFor S nonce enclave.km ip plaintext) :=
    congrArg Prod.snd (handleIpcCommand_encrypt id nonce plaintext)
  refine ⟨fun _ hstatus hlen => ?_, fun hkey data => ⟨?_, ?_⟩⟩
  · rw [hreply] at hstatus
    obtain ⟨payload, hseal, hok⟩ := dataResponse_ok hstatus
    rw [hreply, hok] at hlen
    -- The payload, and with it the plaintext, fits all the length fields.
    have hfits : payload.length ≤ ipcMaxDataSize := hlen
    have hpayload : payload.length < 65536 := lt_of_le_of_lt hfits (by decide)
    have hplain : plaintext.length < 65536 := by
      have hdata := length_sealFor hseal
      omega
    have hrequest := handleIpcRequest_encrypt id hseal hfits
    have hbytes : replyBytes = (okResponse request payload).encode :=
      congrArg Prod.snd hrequest
    refine ⟨by rw [hbytes, hreply, hok], fun es hes => ?_⟩
    intro enclave' payload' answer
    have hdrop : payload' = payload :=
      (congrArg (List.drop ipcResponseSize) hbytes).trans
        (okResponse_bytes request hpayload).2.2
    have hstart : enclave' = run (ipcStep S) enclave es :=
      congrArg (fun result => run (ipcStep S) (Prod.fst result) es) hrequest
    have hopen : openFor S enclave'.km ip payload = some plaintext := by
      refine openFor_of_sealFor hS ?_ hseal
      rw [hstart]
      exact getKey_run_ipcStep enclave fun e he => (hes e he).1
    have hanswer : answer
        = (okResponse (initIpcRequest id' .decrypt ip payload) plaintext).encode := by
      show (handleIpcRequest S nonce' enclave'
        (initIpcRequest id' .decrypt ip payload').encode).2 = _
      rw [hdrop, handleIpcRequest_decrypt id' nonce' hopen hfits]
    obtain ⟨hzero, hfield, hdata⟩ :=
      okResponse_bytes (initIpcRequest id' .decrypt ip payload) hplain
    rw [hanswer]
    refine ⟨?_, hzero, hfield, hdata, fun conn hsync hconn => ?_⟩
    · rw [hstart]
      exact running_run_ipcStep enclave fun e he => (hes e he).2
    · rw [hdrop, enclaveDecrypt_synced hsync hfits, hconn, hopen]
      rfl
  · rw [hreply, sealFor_of_noKey hkey]
    rfl
  · rw [handleIpcCommand_decrypt, openFor_of_noKey hkey]
    rfl

/-- The round trip of three bytes, with a key stored for another address in between. -/
theorem enclave_roundTrip_three :
    let nonce : Nonce := Vector.replicate 12 0
    let enclave := ipcStep sampleSodium (startEnclave sampleSodium zeroKey)
      (nonce, addKeyRequest 2 (Vector.replicate 32 7))
    let request := initIpcRequest 1 .encrypt 2 [1, 2, 3]
    let sealed := handleIpcRequest sampleSodium nonce enclave request.encode
    let payload := sealed.2.drop ipcResponseSize
    let enclave' := run (ipcStep sampleSodium) sealed.1 [(nonce, addKeyRequest 3 zeroKey)]
    let answer := (handleIpcRequest sampleSodium nonce enclave'
      (initIpcRequest 2 .decrypt 2 payload).encode).2
    payload.length = 31 ∧ byteAt answer 4 = 0 ∧ (ntohs (u16At answer 5)).toNat = 3 ∧
      answer.drop ipcResponseSize = [1, 2, 3] := by
  intro nonce enclave request sealed payload enclave' answer
  obtain ⟨-, hround⟩ := (enclave_roundTrip sampleSodium_aeadInverse enclave 2 [1, 2, 3] nonce
    nonce 1 2).1 (by decide +kernel) (by decide +kernel) (by decide +kernel)
  obtain ⟨-, hok, hfield, hplain, -⟩ := hround [(nonce, addKeyRequest 3 zeroKey)]
    (by decide +kernel)
  exact ⟨by decide +kernel, hok, hfield, hplain⟩

end Vpn
