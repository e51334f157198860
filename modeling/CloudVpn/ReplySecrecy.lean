/-
# What the replies show of the session keys

Two enclaves with one public key and different private keys receive the same requests.
`SameView` relates the two: their slots agree in flag and address, the keys in them may
differ.  Apart from encryption and decryption, every command keeps the relation, and no
byte of a reply depends on a key except where the protocol puts one: the `session_key`
field of `ipc_handshake_response_t`.  With that field masked the two enclaves send the
same bytes (`publicReplies_eq`).
-/
import CloudVpn.KeyInstall

open Memory Slots Runs

namespace Vpn

/-! ## The replies of a run -/

/-- The replies to a sequence of requests, until the enclave stops. -/
def ipcReplies (S : Sodium) : Enclave → List (Nonce × Bytes) → List Bytes
  | _, [] => []
  | enclave, e :: es =>
      if enclave.running then
        (handleIpcRequest S e.1 enclave e.2).2 :: ipcReplies S (ipcStep S enclave e) es
      else []

/-- A reply without its session key: in the reply to a successful handshake the bytes
behind the server's public key are masked. -/
def maskSessionKey (request reply : Bytes) : Bytes :=
  if IpcCommand.ofByte (byteAt request 0) = some .handshake ∧ byteAt reply 4 = 0 then
    reply.take 39 ++ (reply.drop 39).map fun _ => 0
  else reply

/-- The replies to a sequence of requests, without session keys. -/
def publicReplies (S : Sodium) (enclave : Enclave) (es : List (Nonce × Bytes)) : List Bytes :=
  List.zipWith maskSessionKey (es.map Prod.snd) (ipcReplies S enclave es)

/-- A request with one of the commands that neither encrypt nor decrypt. -/
def KeyRequest (request : Bytes) : Prop :=
  ∃ command : IpcCommand, IpcCommand.ofByte (byteAt request 0) = some command ∧
    command ∈ [IpcCommand.ping, .addKey, .removeKey, .handshake, .shutdown]

/-! ## Tables that differ in their keys only -/

/-- What a slot holds besides its key. -/
def slotView (entry : KeyEntry) : Bool × UInt32 := (entry.active, entry.vpnIp)

/-- The same flags, addresses and public key; the key exchange accepts the same keys. -/
structure SameView (S : Sodium) (km₁ km₂ : KeyManager) : Prop where
  slots : ∀ i, slotView (km₁.keys i) = slotView (km₂.keys i)
  publicKey : km₁.serverPublicKey = km₂.serverPublicKey
  ecdh : ∀ pk, (cryptoEcdh S km₁.serverPrivateKey pk).isSome
    = (cryptoEcdh S km₂.serverPrivateKey pk).isSome

variable {S : Sodium} {km₁ km₂ : KeyManager}

theorem SameView.active_eq (h : SameView S km₁ km₂) (i : Fin maxKeys) :
    (km₁.keys i).active = (km₂.keys i).active := congrArg Prod.fst (h.slots i)

theorem SameView.vpnIp_eq (h : SameView S km₁ km₂) (i : Fin maxKeys) :
    (km₁.keys i).vpnIp = (km₂.keys i).vpnIp := congrArg Prod.snd (h.slots i)

/-- Writing one slot in both tables, with any keys. -/
theorem SameView.update (h : SameView S km₁ km₂) (i : Fin maxKeys) {a b : KeyEntry}
    (hab : slotView a = slotView b) (j : Fin maxKeys) :
    slotView (Function.update km₁.keys i a j) = slotView (Function.update km₂.keys i b j) :=
  update_rel (R := fun a b => slotView a = slotView b) h.slots i hab j

/-- The loops over the slots look at flags and addresses only. -/
theorem SameView.findFreeKey_eq (h : SameView S km₁ km₂) :
    findFreeKey km₁ = findFreeKey km₂ := by
  unfold findFreeKey
  simp only [h.active_eq]

theorem SameView.findKey_eq (h : SameView S km₁ km₂) (ip : UInt32) :
    findKey km₁ ip = findKey km₂ ip := by
  unfold findKey
  simp only [h.active_eq, h.vpnIp_eq]

theorem SameView.addKey (h : SameView S km₁ km₂) (ip : UInt32) (key₁ key₂ : Key) :
    SameView S ((addKey km₁ ip key₁).getD km₁) ((addKey km₂ ip key₂).getD km₂) := by
  cases hfree : findFreeKey km₁ with
  | none =>
      rw [addKey_full hfree, addKey_full (h.findFreeKey_eq ▸ hfree)]
      exact h
  | some i =>
      rw [addKey_free hfree, addKey_free (h.findFreeKey_eq ▸ hfree)]
      exact ⟨h.update i rfl, h.publicKey, h.ecdh⟩

theorem SameView.removeKey (h : SameView S km₁ km₂) (ip : UInt32) :
    SameView S (removeKey km₁ ip) (removeKey km₂ ip) := by
  unfold Vpn.removeKey
  rw [h.findKey_eq ip]
  cases findKey km₂ ip with
  | none => exact h
  | some i =>
      refine ⟨h.update i ?_, h.publicKey, h.ecdh⟩
      show (false, (km₁.keys i).vpnIp) = (false, (km₂.keys i).vpnIp)
      rw [h.vpnIp_eq]

/-! ## One request -/

/-- After a request: the same view, and the same reply but for the session key. -/
def AnswersAlike (S : Sodium) (request : Bytes) (r₁ r₂ : Enclave × Bytes) : Prop :=
  SameView S r₁.1.km r₂.1.km ∧ r₁.1.running = r₂.1.running ∧
    maskSessionKey request r₁.2 = maskSessionKey request r₂.2

variable {e₁ e₂ : Enclave} {request : Bytes}

/-- Both enclaves send the same reply and change nothing. -/
theorem answersAlike_of_same (h : SameView S e₁.km e₂.km) (hrun : e₁.running = e₂.running)
    (reply : Bytes) : AnswersAlike S request (e₁, reply) (e₂, reply) := ⟨h, hrun, rfl⟩

theorem answersAlike_addKey (h : SameView S e₁.km e₂.km) (hrun : e₁.running = e₂.running)
    (nonce : Nonce) (hcmd : IpcCommand.ofByte (byteAt request 0) = some .addKey) :
    AnswersAlike S request (handleIpcRequest S nonce e₁ request)
      (handleIpcRequest S nonce e₂ request) := by
  by_cases hlen : (IpcRequest.decode request).data.length = 32
  · have hview := h.addKey (u32At request 5) (bytesAt 32 request 11) (bytesAt 32 request 11)
    rw [handleIpcRequest_addKey hcmd hlen, handleIpcRequest_addKey hcmd hlen]
    -- The tables are full together, or the key goes to one slot in both.
    cases hfree : findFreeKey e₁.km with
    | none =>
        rw [addKey_full hfree, addKey_full (h.findFreeKey_eq ▸ hfree)]
        exact answersAlike_of_same h hrun _
    | some i =>
        rw [addKey_free hfree, addKey_free (h.findFreeKey_eq ▸ hfree)] at hview ⊢
        exact ⟨hview, hrun, rfl⟩
  · rw [handleIpcRequest_badLength (.inl hcmd) hlen,
      handleIpcRequest_badLength (.inl hcmd) hlen]
    exact answersAlike_of_same h hrun _

/-- With its session key masked, the reply to a handshake does not depend on that key. -/
theorem maskSessionKey_handshake
    (hcmd : IpcCommand.ofByte (byteAt request 0) = some .handshake) (requestId : UInt32)
    (publicKey key₁ key₂ : Key) :
    maskSessionKey request (IpcResponse.encode ⟨requestId, 0, publicKey.toList ++ key₁.toList⟩)
      = maskSessionKey request
          (IpcResponse.encode ⟨requestId, 0, publicKey.toList ++ key₂.toList⟩) := by
  have hfront := length_handshakeReply_front requestId publicKey
  have hmask : ∀ key : Key, maskSessionKey request
      (IpcResponse.encode ⟨requestId, 0, publicKey.toList ++ key.toList⟩)
      = (le32 requestId ++ ([0] ++ (le16 (htons 64) ++ publicKey.toList)))
        ++ List.replicate 32 0 := by
    intro key
    unfold maskSessionKey
    rw [if_pos ⟨hcmd, IpcResponse.status_encode _⟩, encode_handshakeReply, ← hfront,
      List.take_left, List.drop_left, List.map_const', Vector.length_toList]
  rw [hmask key₁, hmask key₂]

theorem answersAlike_handshake (h : SameView S e₁.km e₂.km)
    (hrun : e₁.running = e₂.running) (nonce : Nonce)
    (hcmd : IpcCommand.ofByte (byteAt request 0) = some .handshake) :
    AnswersAlike S request (handleIpcRequest S nonce e₁ request)
      (handleIpcRequest S nonce e₂ request) := by
  by_cases hlen : (IpcRequest.decode request).data.length = 32
  · have hecdh := h.ecdh (bytesAt 32 request 11)
    have hpublic : getServerPublicKey e₁.km = getServerPublicKey e₂.km := h.publicKey
    rw [handleIpcRequest_handshake hcmd hlen, handleIpcRequest_handshake hcmd hlen]
    unfold performHandshake
    rcases h₁ : cryptoEcdh S e₁.km.serverPrivateKey (bytesAt 32 request 11) with _ | s₁ <;>
      rcases h₂ : cryptoEcdh S e₂.km.serverPrivateKey (bytesAt 32 request 11) with _ | s₂ <;>
      simp only [h₁, h₂, Option.isSome_none, Option.isSome_some, Bool.false_eq_true,
        Bool.true_eq_false] at hecdh
    · exact answersAlike_of_same h hrun _
    · refine ⟨h.addKey _ _ _, hrun, ?_⟩
      simp only [Option.map_some, hpublic]
      exact maskSessionKey_handshake hcmd _ _ _ _
  · rw [handleIpcRequest_badLength (.inr hcmd) hlen,
      handleIpcRequest_badLength (.inr hcmd) hlen]
    exact answersAlike_of_same h hrun _

/-- **One request** keeps the view, and its two replies differ in the session key only. -/
theorem answersAlike_request (h : SameView S e₁.km e₂.km) (hrun : e₁.running = e₂.running)
    (nonce : Nonce) (hreq : KeyRequest request) :
    AnswersAlike S request (handleIpcRequest S nonce e₁ request)
      (handleIpcRequest S nonce e₂ request) := by
  obtain ⟨command, hcmd, hmem⟩ := hreq
  have hdec : (IpcRequest.decode request).command = byteAt request 0 := rfl
  cases command with
  | addKey => exact answersAlike_addKey h hrun nonce hcmd
  | handshake => exact answersAlike_handshake h hrun nonce hcmd
  | ping =>
      unfold handleIpcRequest handleIpcCommand
      simp only [hdec, hcmd]
      exact answersAlike_of_same h hrun _
  | removeKey =>
      unfold handleIpcRequest handleIpcCommand
      simp only [hdec, hcmd]
      exact ⟨h.removeKey _, hrun, rfl⟩
  | shutdown =>
      unfold handleIpcRequest handleIpcCommand
      simp only [hdec, hcmd]
      exact ⟨h, rfl, rfl⟩
  | encrypt => exact absurd hmem (by decide)
  | decrypt => exact absurd hmem (by decide)

/-! ## Whole runs -/

/-- **Session keys leave the enclave in the handshake reply only.**  Two enclaves that
differ in private key and stored keys answer every sequence of requests, encryption and
decryption apart, with the same bytes, once the session keys in the replies to successful
handshakes are masked. -/
theorem publicReplies_eq (S : Sodium) {e₁ e₂ : Enclave} (h : SameView S e₁.km e₂.km)
    (hrun : e₁.running = e₂.running) {es : List (Nonce × Bytes)}
    (hes : ∀ e ∈ es, KeyRequest e.2) : publicReplies S e₁ es = publicReplies S e₂ es := by
  unfold publicReplies
  induction es generalizing e₁ e₂ with
  | nil => rfl
  | cons e es ih =>
      unfold ipcReplies
      rw [← hrun]
      by_cases hgoes : e₁.running
      · obtain ⟨hview, hnext, hreply⟩ :=
          answersAlike_request h hrun e.1 (hes e (by simp))
        have hstep₁ : ipcStep S e₁ e = (handleIpcRequest S e.1 e₁ e.2).1 := if_pos hgoes
        have hstep₂ : ipcStep S e₂ e = (handleIpcRequest S e.1 e₂ e.2).1 :=
          if_pos (hrun ▸ hgoes)
        rw [if_pos hgoes, if_pos hgoes, List.map_cons, List.zipWith_cons_cons,
          List.zipWith_cons_cons, hreply, hstep₁, hstep₂]
        rw [ih hview hnext (fun f hf => hes f (List.mem_cons_of_mem e hf))]
      · rw [if_neg hgoes, if_neg hgoes]

/-- A fresh enclave of the sample with the given private key and one fixed public key. -/
def sampleEnclave (privateKey : Key) : Enclave :=
  ⟨{ initKeyManager sampleSodium privateKey with serverPublicKey := zeroKey }, true⟩

/-- The sample's key exchange refuses a public key for what it is, not for the private key. -/
theorem sampleEnclave_sameView (k₁ k₂ : Key) :
    SameView sampleSodium (sampleEnclave k₁).km (sampleEnclave k₂).km where
  slots := fun _ => rfl
  publicKey := rfl
  ecdh := by
    intro pk
    show (if pk = Vector.replicate 32 0 then none else some _).isSome
      = (if pk = Vector.replicate 32 0 then none else some _).isSome
    split_ifs <;> rfl

theorem publicReplies_handshake_ping :
    let es : List (Nonce × Bytes) :=
      [(Vector.replicate 12 0, handshakeRequest 2 (Vector.replicate 32 1)),
        (Vector.replicate 12 0, (initIpcRequest 2 .ping 0 []).encode)]
    publicReplies sampleSodium (sampleEnclave zeroKey) es
      = publicReplies sampleSodium (sampleEnclave (Vector.replicate 32 1)) es := by
  intro es
  have hview := sampleEnclave_sameView zeroKey (Vector.replicate 32 1)
  refine publicReplies_eq sampleSodium hview rfl ?_
  intro e he
  rcases List.mem_pair.mp he with rfl | rfl
  · exact ⟨.handshake, by decide, by decide⟩
  · exact ⟨.ping, by decide, by decide⟩

/-- **The reply to a handshake shows the session key**: the replies of the two enclaves to
one handshake differ. -/
theorem handshake_replies_differ :
    let es : List (Nonce × Bytes) :=
      [(Vector.replicate 12 0, handshakeRequest 2 (Vector.replicate 32 1))]
    SameView sampleSodium (sampleEnclave zeroKey).km
        (sampleEnclave (Vector.replicate 32 1)).km ∧
      (sampleEnclave zeroKey).running = (sampleEnclave (Vector.replicate 32 1)).running ∧
      (∀ e ∈ es, KeyRequest e.2) ∧
      ipcReplies sampleSodium (sampleEnclave zeroKey) es
        ≠ ipcReplies sampleSodium (sampleEnclave (Vector.replicate 32 1)) es := by
  refine ⟨sampleEnclave_sameView _ _, rfl, ?_, by decide +kernel⟩
  intro e he
  rw [List.mem_singleton.mp he]
  exact ⟨.handshake, by decide, by decide⟩

end Vpn
