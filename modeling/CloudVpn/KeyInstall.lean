/-
# Reported keys and installed keys

`IPC_ADD_KEY` and `IPC_HANDSHAKE` report success with status 0.  `InstallsKey` says what
the caller takes this for: the table has one more active entry, with the address of the
request and the key that was supplied or returned.

`perform_handshake` does not look at the result of `add_key`, so a handshake succeeds on a
full table without leaving a key.  `installsKey_iff` shows that nothing else goes wrong.
-/
import CloudVpn.KeyHygiene

open Memory Slots Runs

namespace Vpn

/-! ## What a success reports -/

/-- The session key that a successful request is about: `IPC_ADD_KEY` supplies it,
`IPC_HANDSHAKE` returns it behind the server's public key. -/
def reportedKey (request reply : Bytes) : Key :=
  if IpcCommand.ofByte (byteAt request 0) = some .addKey then bytesAt 32 request 11
  else bytesAt 32 reply 39

/-- If the reply has status 0, the active entries are those from before and the reported
one. -/
def InstallsKey (S : Sodium) (nonce : Nonce) (enclave : Enclave) (request : Bytes) : Prop :=
  let after := (handleIpcRequest S nonce enclave request).1
  let reply := (handleIpcRequest S nonce enclave request).2
  byteAt reply 4 = 0 →
    (activeKeys after.km).Perm
      (⟨u32At request 5, reportedKey request reply, true⟩ :: activeKeys enclave.km)

/-- A handshake with a public key that the key exchange accepts, on a full table. -/
def HandshakeOnFullTable (S : Sodium) (km : KeyManager) (request : Bytes) : Prop :=
  IpcCommand.ofByte (byteAt request 0) = some .handshake ∧
    (IpcRequest.decode request).data.length = 32 ∧
    (cryptoEcdh S km.serverPrivateKey (bytesAt 32 request 11)).isSome ∧
    ∀ i, (km.keys i).active = true

/-! ## The commands on their bytes -/

variable {S : Sodium} {nonce : Nonce} {enclave : Enclave} {request : Bytes}

/-- The key in a request whose data is one key. -/
theorem decode_key (h : (IpcRequest.decode request).data.length = 32) :
    bytesAt 32 (IpcRequest.decode request).data 0 = bytesAt 32 request 11 := by
  have hle : 32 ≤ (ntohs (u16At request 9)).toNat := by
    unfold IpcRequest.decode at h
    rw [List.length_take] at h
    omega
  exact bytesAt_take_drop request 11 hle

/-- Both commands refuse data that is not one key. -/
theorem handleIpcRequest_badLength
    (hcmd : IpcCommand.ofByte (byteAt request 0) = some .addKey ∨
      IpcCommand.ofByte (byteAt request 0) = some .handshake)
    (hlen : (IpcRequest.decode request).data.length ≠ 32) :
    handleIpcRequest S nonce enclave request
      = (enclave, (errorResponse (IpcRequest.decode request)).encode) := by
  have hdec : (IpcRequest.decode request).command = byteAt request 0 := rfl
  unfold handleIpcRequest handleIpcCommand
  rcases hcmd with hadd | hhs
  · simp only [hdec, hadd, handleAddKey, if_pos hlen]
  · simp only [hdec, hhs, handleHandshake, if_pos hlen]

theorem handleIpcRequest_addKey
    (hcmd : IpcCommand.ofByte (byteAt request 0) = some .addKey)
    (hlen : (IpcRequest.decode request).data.length = 32) :
    handleIpcRequest S nonce enclave request =
      match addKey enclave.km (u32At request 5) (bytesAt 32 request 11) with
      | some km => ({ enclave with km := km }, (okResponse (IpcRequest.decode request) []).encode)
      | none => (enclave, (errorResponse (IpcRequest.decode request)).encode) := by
  have hdec : (IpcRequest.decode request).command = byteAt request 0 := rfl
  have hip : (IpcRequest.decode request).vpnIp = u32At request 5 := rfl
  unfold handleIpcRequest handleIpcCommand
  simp only [hdec, hcmd, handleAddKey, if_neg (not_not.mpr hlen), decode_key hlen, hip]
  cases addKey enclave.km (u32At request 5) (bytesAt 32 request 11) <;> rfl

theorem handleIpcRequest_handshake
    (hcmd : IpcCommand.ofByte (byteAt request 0) = some .handshake)
    (hlen : (IpcRequest.decode request).data.length = 32) :
    handleIpcRequest S nonce enclave request =
      match performHandshake S enclave.km (u32At request 5) (bytesAt 32 request 11) with
      | some (km, sessionKey) =>
          ({ enclave with km := km }, (okResponse (IpcRequest.decode request)
            ((getServerPublicKey enclave.km).toList ++ sessionKey.toList)).encode)
      | none => (enclave, (errorResponse (IpcRequest.decode request)).encode) := by
  have hdec : (IpcRequest.decode request).command = byteAt request 0 := rfl
  have hip : (IpcRequest.decode request).vpnIp = u32At request 5 := rfl
  unfold handleIpcRequest handleIpcCommand
  simp only [hdec, hcmd, handleHandshake, if_neg (not_not.mpr hlen), decode_key hlen, hip]
  cases performHandshake S enclave.km (u32At request 5) (bytesAt 32 request 11) <;> rfl

/-- The reply to a handshake: everything up to the server's public key is 39 bytes, then
comes the session key. -/
theorem encode_handshakeReply (requestId : UInt32) (publicKey sessionKey : Key) :
    IpcResponse.encode ⟨requestId, 0, publicKey.toList ++ sessionKey.toList⟩
      = (le32 requestId ++ ([0] ++ (le16 (htons 64) ++ publicKey.toList)))
        ++ sessionKey.toList := by
  have hlen : (publicKey.toList ++ sessionKey.toList).length = 64 := by simp
  have htake : (publicKey.toList ++ sessionKey.toList).take (UInt16.ofNat 64).toNat
      = publicKey.toList ++ sessionKey.toList := by
    apply List.take_of_length_le
    rw [hlen]
    decide
  unfold IpcResponse.encode
  simp only [hlen, htake, List.append_assoc]
  rfl

theorem length_handshakeReply_front (requestId : UInt32) (publicKey : Key) :
    (le32 requestId ++ ([0] ++ (le16 (htons 64) ++ publicKey.toList))).length = 39 := by
  simp

/-- The session key in the reply to a handshake. -/
theorem bytesAt_handshakeReply (requestId : UInt32) (publicKey sessionKey : Key) :
    bytesAt 32 (IpcResponse.encode ⟨requestId, 0, publicKey.toList ++ sessionKey.toList⟩) 39
      = sessionKey := by
  have hfront := length_handshakeReply_front requestId publicKey
  rw [encode_handshakeReply, bytesAt_append_right _ (Nat.le_of_eq hfront), hfront]
  exact bytesAt_toList_self sessionKey

/-! ## When the reported key is installed -/

/-- A request that is refused promises nothing. -/
theorem installsKey_of_refused
    (h : (handleIpcRequest S nonce enclave request).2
      = (errorResponse (IpcRequest.decode request)).encode) :
    InstallsKey S nonce enclave request := by
  intro hstatus
  rw [h, IpcResponse.status_encode] at hstatus
  exact absurd hstatus (show ipcStatusError ≠ 0 by decide)

/-- `add_key` adds the entry exactly when the table is not full. -/
theorem activeKeys_addKey (km : KeyManager) (ip : UInt32) (key : Key) :
    (activeKeys ((addKey km ip key).getD km)).Perm (⟨ip, key, true⟩ :: activeKeys km) ↔
      ¬ ∀ i, (km.keys i).active = true := by
  cases hfree : findFreeKey km with
  | none =>
      have hall := findFreeKey_eq_none.mp hfree
      rw [addKey_full hfree]
      refine ⟨fun hperm => ?_, fun hn => absurd hall hn⟩
      have hlen := hperm.length_eq
      simp at hlen
  | some i =>
      have hinactive := (findFreeKey_eq_some.mp hfree).1
      rw [addKey_free hfree]
      refine ⟨fun _ hall => ?_, fun _ => activeKeys_storeKey hinactive ip key⟩
      rw [hall i] at hinactive
      exact absurd hinactive (by simp)

/-- `IPC_ADD_KEY` looks at the result of `add_key`. -/
theorem installsKey_addKey (hcmd : IpcCommand.ofByte (byteAt request 0) = some .addKey) :
    InstallsKey S nonce enclave request := by
  by_cases hlen : (IpcRequest.decode request).data.length = 32
  · have hhandle : handleIpcRequest S nonce enclave request = _ :=
      handleIpcRequest_addKey hcmd hlen
    cases hfree : findFreeKey enclave.km with
    | none =>
        rw [addKey_full hfree] at hhandle
        exact installsKey_of_refused (congrArg Prod.snd hhandle)
    | some i =>
        rw [addKey_free hfree] at hhandle
        intro _
        rw [hhandle, reportedKey, if_pos hcmd]
        exact activeKeys_storeKey (findFreeKey_eq_some.mp hfree).1 _ _
  · exact installsKey_of_refused (congrArg Prod.snd (handleIpcRequest_badLength (.inl hcmd) hlen))

/-- `IPC_HANDSHAKE` does not: on a full table it returns a key that no one has stored. -/
theorem installsKey_handshake_iff
    (hcmd : IpcCommand.ofByte (byteAt request 0) = some .handshake) :
    InstallsKey S nonce enclave request ↔ ¬ HandshakeOnFullTable S enclave.km request := by
  by_cases hlen : (IpcRequest.decode request).data.length = 32
  · have hhandle : handleIpcRequest S nonce enclave request = _ :=
      handleIpcRequest_handshake hcmd hlen
    unfold performHandshake at hhandle
    cases hecdh : cryptoEcdh S enclave.km.serverPrivateKey (bytesAt 32 request 11) with
    | none =>
        rw [hecdh] at hhandle
        refine ⟨fun _ hfull => ?_, fun _ =>
          installsKey_of_refused (congrArg Prod.snd hhandle)⟩
        have hsome := hfull.2.2.1
        rw [hecdh] at hsome
        exact absurd hsome (by simp)
    | some secret =>
        rw [hecdh] at hhandle
        have hiff := activeKeys_addKey enclave.km (u32At request 5)
          (cryptoDeriveSessionKey S secret none)
        have hfull : HandshakeOnFullTable S enclave.km request ↔
            ∀ i, (enclave.km.keys i).active = true := by
          refine ⟨fun h => h.2.2.2, fun h => ⟨hcmd, hlen, ?_, h⟩⟩
          rw [hecdh]
          rfl
        rw [hfull, ← hiff]
        have hkey : reportedKey request (handleIpcRequest S nonce enclave request).2
            = cryptoDeriveSessionKey S secret none := by
          rw [hhandle, reportedKey, if_neg (by rw [hcmd]; decide)]
          exact bytesAt_handshakeReply _ _ _
        have hstatus : byteAt (handleIpcRequest S nonce enclave request).2 4 = 0 := by
          rw [hhandle]
          exact IpcResponse.status_encode _
        unfold InstallsKey
        simp only [hkey, hstatus, true_imp_iff]
        rw [hhandle]
        rfl
  · refine ⟨fun _ hfull => hlen hfull.2.1, fun _ => ?_⟩
    exact installsKey_of_refused
      (congrArg Prod.snd (handleIpcRequest_badLength (.inr hcmd) hlen))

/-- **Reported keys are installed**, in every state that requests can lead to, except by a
handshake on a full table. -/
theorem installsKey_iff (S : Sodium) (secret : Key) (es : List (Nonce × Bytes))
    (nonce : Nonce) (request : Bytes)
    (hcmd : IpcCommand.ofByte (byteAt request 0) = some .addKey ∨
      IpcCommand.ofByte (byteAt request 0) = some .handshake) :
    InstallsKey S nonce (run (ipcStep S) (startEnclave S secret) es) request ↔
      ¬ HandshakeOnFullTable S (run (ipcStep S) (startEnclave S secret) es).km request := by
  rcases hcmd with hadd | hhs
  · refine ⟨fun _ hfull => ?_, fun _ => installsKey_addKey hadd⟩
    have hcmd := hfull.1
    rw [hadd] at hcmd
    exact absurd hcmd (by decide)
  · exact installsKey_handshake_iff hhs

/-! ## A full table -/

/-- The bytes of an `IPC_HANDSHAKE` request. -/
def handshakeRequest (ip : UInt32) (clientPublicKey : Key) : Bytes :=
  (initIpcRequest 1 .handshake ip clientPublicKey.toList).encode

/-- On an empty table a handshake installs its key. -/
theorem installsKey_handshake_fresh :
    let request := handshakeRequest 2 (Vector.replicate 32 1)
    InstallsKey sampleSodium (Vector.replicate 12 0) (startEnclave sampleSodium zeroKey)
      request := by
  intro request
  have hroom : ¬ HandshakeOnFullTable sampleSodium (startEnclave sampleSodium zeroKey).km
      request := by
    intro hfull
    exact absurd (hfull.2.2.2 0) (by decide)
  exact (installsKey_iff sampleSodium zeroKey [] _ request (.inr (by decide))).mpr hroom

/-- An `IPC_ADD_KEY` request in a running enclave runs `add_key`. -/
theorem ipcStep_addKeyRequest (S : Sodium) (nonce : Nonce) {enclave : Enclave}
    (hrun : enclave.running = true) (ip : UInt32) (key : Key) :
    ipcStep S enclave (nonce, addKeyRequest ip key)
      = ⟨(addKey enclave.km ip key).getD enclave.km, true⟩ := by
  have hsmall : (initIpcRequest 1 .addKey ip key.toList).data.length < 65536 := by
    show key.toList.length < 65536
    simp
  have hkey := bytesAt_toList_self key
  unfold ipcStep addKeyRequest
  rw [if_pos hrun, handleIpcRequest_encode hsmall]
  show (handleAddKey enclave (initIpcRequest 1 .addKey ip key.toList)).1 = _
  simp only [handleAddKey, initIpcRequest, Vector.length_toList, ne_eq, not_true_eq_false,
    if_false, hkey]
  cases addKey enclave.km ip key with
  | none => exact congrArg (Enclave.mk enclave.km) hrun
  | some km => exact congrArg (Enclave.mk km) hrun

/-- A table in which an entry is missing has fewer active entries than slots. -/
theorem activeKeys_full_iff (km : KeyManager) :
    (activeKeys km).length = maxKeys ↔ ∀ i, (km.keys i).active = true := by
  have hle : (activeKeys km).length ≤ maxKeys := length_entries_le activeKeyEntry km.keys
  constructor
  · intro hlen
    by_contra hroom
    have hmore := ((activeKeys_addKey km 0 zeroKey).mpr hroom).length_eq
    have hbound := length_entries_le activeKeyEntry ((addKey km 0 zeroKey).getD km).keys
    unfold activeKeys at hmore hlen
    rw [List.length_cons] at hmore
    omega
  · intro hall
    by_contra hlen
    obtain ⟨i, hi⟩ := exists_none_of_length_lt (lt_of_le_of_ne hle hlen)
    simp [activeKeyEntry, hall i] at hi

/-- Repeated `IPC_ADD_KEY` requests fill the table. -/
theorem activeKeys_run_addKey (S : Sodium) (nonce : Nonce) (secret : Key) (ip : UInt32)
    (key : Key) (n : ℕ) :
    let after := run (ipcStep S) (startEnclave S secret)
      (List.replicate n (nonce, addKeyRequest ip key))
    after.running = true ∧ (activeKeys after.km).length = min n maxKeys := by
  induction n with
  | zero =>
      have hcount := (initKeyManager_hygienic S secret).count_eq
      refine ⟨rfl, ?_⟩
      show (activeKeys (initKeyManager S secret)).length = _
      have hzero : (initKeyManager S secret).count = 0 := rfl
      omega
  | succ n ih =>
      obtain ⟨hrun, hlen⟩ := ih
      rw [List.replicate_succ', run_append, run_cons, run_nil,
        ipcStep_addKeyRequest S nonce hrun]
      refine ⟨rfl, ?_⟩
      generalize (run (ipcStep S) (startEnclave S secret) _).km = km at hlen
      by_cases hfull : ∀ i, (km.keys i).active = true
      · have hmax := (activeKeys_full_iff km).mpr hfull
        rw [addKey_full (findFreeKey_eq_none.mpr hfull)]
        show (activeKeys km).length = _
        omega
      · have hmore := ((activeKeys_addKey km ip key).mpr hfull).length_eq
        have hle : (activeKeys ((addKey km ip key).getD km)).length ≤ maxKeys :=
          length_entries_le activeKeyEntry _
        rw [List.length_cons] at hmore
        show (activeKeys ((addKey km ip key).getD km)).length = _
        omega

/-- An enclave that has been given 256 keys. -/
def fullEnclave : Enclave :=
  run (ipcStep sampleSodium) (startEnclave sampleSodium zeroKey)
    (List.replicate maxKeys (Vector.replicate 12 0, addKeyRequest 2 (Vector.replicate 32 7)))

/-- **A handshake on a full table** is answered with status 0 and a session key, and the
table stays as it was. -/
theorem handshake_reported_not_installed :
    ¬ InstallsKey sampleSodium (Vector.replicate 12 0) fullEnclave
      (handshakeRequest 3 (Vector.replicate 32 1)) := by
  have hfull : ∀ i, (fullEnclave.km.keys i).active = true := by
    rw [← activeKeys_full_iff]
    exact (activeKeys_run_addKey sampleSodium _ zeroKey 2 _ maxKeys).2
  rw [installsKey_handshake_iff (by decide), not_not]
  refine ⟨by decide, by decide, ?_, hfull⟩
  show (sampleSodium.boxBeforenm _ _).isSome = true
  rw [show bytesAt 32 (handshakeRequest 3 (Vector.replicate 32 1)) 11
    = Vector.replicate 32 1 by decide]
  show (if (Vector.replicate 32 (1 : UInt8)) = Vector.replicate 32 0 then none
    else some _).isSome = true
  rw [if_neg (by decide)]
  rfl

end Vpn
