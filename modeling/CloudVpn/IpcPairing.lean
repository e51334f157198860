/-
# Which reply a call reads

A run of client functions on one connection.  `send_ipc_request` has several exits before
it consumes the reply, and no one compares request ids, so a reply left in the stream is
what the next call reads.

`DeliversReply` asks of one call that the transport hands the header and the whole reply to
its two `recv` calls.  While every call meets it, the connection is `Usable`: no reply is
left, or the stream starts with a reply too long for any buffer, behind which every call
fails.  In both cases a call that returns 0 has read its own reply (`replies_paired`).
-/
import CloudVpn.EnclaveClient
import CloudVpn.Runs

open Memory Runs

namespace Vpn

/-! ## Runs of calls -/

/-- A call of one of the client functions. -/
inductive EnclaveCall where
  | ping
  | addKey (vpnIp : UInt32) (sessionKey : Key)
  | removeKey (vpnIp : UInt32)
  | handshake (vpnIp : UInt32) (clientPublicKey : Key)
  | encrypt (vpnIp : UInt32) (plaintext : Bytes)
  | decrypt (vpnIp : UInt32) (ciphertext : Bytes)

/-- A call together with the nonce the enclave draws and what the transport does. -/
structure CallEvent where
  call : EnclaveCall
  nonce : Nonce
  delivery : Delivery

/-- The connection after a call, and the response the call has read if it returns 0. -/
def performCall (S : Sodium) (conn : Connection) (e : CallEvent) :
    Connection × Option IpcResponse :=
  match e.call with
  | .ping => enclavePing S e.nonce e.delivery conn
  | .addKey ip key => enclaveAddKey S e.nonce e.delivery conn ip key
  | .removeKey ip => enclaveRemoveKey S e.nonce e.delivery conn ip
  | .handshake ip pk => enclaveHandshake S e.nonce e.delivery conn ip pk
  | .encrypt ip plaintext => enclaveEncrypt S e.nonce e.delivery conn ip plaintext
  | .decrypt ip ciphertext => enclaveDecrypt S e.nonce e.delivery conn ip ciphertext

/-- The connection after a call. -/
def callStep (S : Sodium) (conn : Connection) (e : CallEvent) : Connection :=
  (performCall S conn e).1

/-- The command byte of a call. -/
def EnclaveCall.command : EnclaveCall → IpcCommand
  | .ping => .ping
  | .addKey _ _ => .addKey
  | .removeKey _ => .removeKey
  | .handshake _ _ => .handshake
  | .encrypt _ _ => .encrypt
  | .decrypt _ _ => .decrypt

/-- The VPN address in the request of a call. -/
def EnclaveCall.vpnIp : EnclaveCall → UInt32
  | .ping => 0
  | .addKey ip _ => ip
  | .removeKey ip => ip
  | .handshake ip _ => ip
  | .encrypt ip _ => ip
  | .decrypt ip _ => ip

/-- The data in the request of a call. -/
def EnclaveCall.data : EnclaveCall → Bytes
  | .ping => []
  | .addKey _ key => key.toList
  | .removeKey _ => []
  | .handshake _ pk => pk.toList
  | .encrypt _ plaintext => plaintext
  | .decrypt _ ciphertext => ciphertext

/-- The size of the buffer for the response to a call. -/
def EnclaveCall.respMaxLen : EnclaveCall → ℕ
  | .handshake _ _ => ipcResponseSize + 64
  | .encrypt _ _ => ipcResponseSize + ipcMaxDataSize
  | .decrypt _ _ => ipcResponseSize + ipcMaxDataSize
  | _ => ipcResponseSize

/-- The reply that the enclave makes to a call. -/
def ownReply (S : Sodium) (conn : Connection) (e : CallEvent) : IpcResponse :=
  callReply S e.nonce conn e.call.command e.call.vpnIp e.call.data

/-- A call that returns 0 has read the enclave's reply to that call, with its request id. -/
def Paired (S : Sodium) (conn : Connection) (e : CallEvent) : Prop :=
  ∀ resp, (performCall S conn e).2 = some resp →
    resp = ownReply S conn e ∧ resp.requestId = htonl (conn.globalRequestId + 1)

/-- The transport hands the header to the first `recv` of a call, and as many bytes as the
reply to the call has to the second. -/
def DeliversReply (S : Sodium) (conn : Connection) (e : CallEvent) : Prop :=
  e.delivery.Covers (ownReply S conn e).encode.length

/-- All the functions act alike; data that exceeds the buffer is not sent at all. -/
theorem performCall_eq (S : Sodium) (conn : Connection) (e : CallEvent) :
    performCall S conn e =
      if e.call.data.length > ipcMaxDataSize then (conn, none)
      else enclaveCall S e.nonce e.delivery conn e.call.command e.call.vpnIp e.call.data
        e.call.respMaxLen := by
  obtain ⟨call, nonce, delivery⟩ := e
  have hkey : ∀ key : Key, ¬ key.toList.length > ipcMaxDataSize := by
    intro key
    rw [Vector.length_toList]
    decide
  cases call with
  | ping => rfl
  | removeKey ip => rfl
  | encrypt ip plaintext => rfl
  | decrypt ip ciphertext => rfl
  | addKey ip key => exact (if_neg (hkey key)).symm
  | handshake ip pk => exact (if_neg (hkey pk)).symm

/-! ## Connections on which no call reads another's reply -/

/-- The stream starts with a reply that is too long for every response buffer. -/
def Jammed (stream : Bytes) : Prop :=
  ipcResponseSize ≤ stream.length ∧ ipcTotalLen stream > ipcResponseSize + ipcMaxDataSize

/-- The enclave runs, and no reply is left in the stream or the stream is jammed. -/
structure Usable (conn : Connection) : Prop where
  running : conn.enclave.running = true
  stream : conn.stream = [] ∨ Jammed conn.stream

theorem Jammed.append {stream : Bytes} (h : Jammed stream) (rest : Bytes) :
    Jammed (stream ++ rest) := by
  refine ⟨?_, ?_⟩
  · rw [List.length_append]
    exact Nat.le_add_right_of_le h.1
  · rw [ipcTotalLen_append rest h.1]
    exact h.2

theorem EnclaveCall.respMaxLen_le (call : EnclaveCall) :
    call.respMaxLen ≤ ipcResponseSize + ipcMaxDataSize := by
  cases call <;> simp [EnclaveCall.respMaxLen, ipcMaxDataSize]

theorem EnclaveCall.command_ne_shutdown (call : EnclaveCall) : call.command ≠ .shutdown := by
  cases call <;> simp [EnclaveCall.command]

/-- The buffer of a call holds every reply to it, or has the largest size there is: only
`enclave_encrypt` can be sent more than it has room for. -/
theorem EnclaveCall.replyBound_le (call : EnclaveCall)
    (h : call.data.length ≤ ipcMaxDataSize) :
    ipcResponseSize + replyBound (some call.command) call.data.length ≤ call.respMaxLen ∨
      call.respMaxLen = ipcResponseSize + ipcMaxDataSize := by
  cases call with
  | encrypt ip plaintext => exact Or.inr rfl
  | decrypt ip ciphertext => exact Or.inr rfl
  | ping => exact Or.inl (Nat.le_refl _)
  | addKey ip key => exact Or.inl (Nat.le_refl _)
  | removeKey ip => exact Or.inl (Nat.le_refl _)
  | handshake ip pk => exact Or.inl (Nat.le_refl _)

theorem replyBound_le (command : IpcCommand) {n : ℕ} (h : n ≤ ipcMaxDataSize) :
    replyBound (some command) n ≤ ipcMaxDataSize + 28 := by
  unfold ipcMaxDataSize at h ⊢
  cases command <;> simp only [replyBound, cryptoNonceSize, cryptoMacSize] <;> omega

/-- A call whose reply does not fit its buffer leaves the reply in the stream. -/
theorem enclaveCall_unread {S : Sodium} {nonce : Nonce} {d : Delivery} {conn : Connection}
    {command : IpcCommand} {vpnIp : UInt32} {data : Bytes} {respMaxLen : ℕ}
    (hrun : conn.enclave.running = true) (hdata : data.length < 65536)
    (hstream : ipcTotalLen
      (conn.stream ++ (callReply S nonce conn command vpnIp data).encode) > respMaxLen) :
    enclaveCall S nonce d conn command vpnIp data respMaxLen =
      (⟨callEnclave S nonce conn command vpnIp data,
        conn.stream ++ (callReply S nonce conn command vpnIp data).encode,
        conn.globalRequestId + 1⟩, none) := by
  rw [enclaveCall_eq hrun hdata]
  dsimp only
  generalize conn.stream ++ (callReply S nonce conn command vpnIp data).encode = stream
    at hstream ⊢
  -- Whatever the peek gets, a whole header announces too many bytes.
  by_cases hshort : (received d.peek ipcResponseSize stream).length < ipcResponseSize
  · simp only [if_pos hshort]
  · have htake := received_eq_take_of_length (not_lt.mp hshort)
    have hlen : ipcResponseSize ≤ stream.length := by
      rw [htake, List.length_take] at hshort
      omega
    rw [if_neg hshort, htake, ipcTotalLen_take, if_pos hstream]

/-- The reply to a call has a length that its field can hold. -/
theorem ownReply_length_lt (S : Sodium) (conn : Connection) {e : CallEvent}
    (hdata : e.call.data.length ≤ ipcMaxDataSize) :
    (ownReply S conn e).data.length < 65536 := by
  have hreply := callReply_length_le S e.nonce conn e.call.command e.call.vpnIp e.call.data
  have hbound := replyBound_le e.call.command hdata
  unfold ipcMaxDataSize at hbound
  unfold ownReply
  omega

/-- A reply that does not fit the caller's buffer jams the stream. -/
theorem jammed_ownReply {S : Sodium} {conn : Connection} {e : CallEvent}
    (hdata : e.call.data.length ≤ ipcMaxDataSize)
    (hlong : e.call.respMaxLen < ipcResponseSize + (ownReply S conn e).data.length) :
    Jammed (ownReply S conn e).encode := by
  have hsmall := ownReply_length_lt S conn hdata
  have hreply := callReply_length_le S e.nonce conn e.call.command e.call.vpnIp e.call.data
  constructor
  · rw [IpcResponse.length_encode hsmall]
    omega
  · rw [ipcTotalLen_encode hsmall, IpcResponse.length_encode hsmall]
    rcases e.call.replyBound_le hdata with hle | heq
    · unfold ownReply at hlong
      omega
    · omega

/-- **One call** on a usable connection, delivered whole, reads its own reply or none, and
leaves the connection usable. -/
theorem performCall_paired {S : Sodium} {conn : Connection} {e : CallEvent}
    (h : Usable conn) (hd : DeliversReply S conn e) :
    Usable (callStep S conn e) ∧ Paired S conn e := by
  unfold callStep Paired
  rw [performCall_eq]
  by_cases hbig : e.call.data.length > ipcMaxDataSize
  · rw [if_pos hbig]
    exact ⟨h, fun resp hresp => absurd hresp (by simp)⟩
  have hdata : e.call.data.length ≤ ipcMaxDataSize := not_lt.mp hbig
  have hdata' : e.call.data.length < 65536 := by
    unfold ipcMaxDataSize at hdata
    omega
  have hrunning : (callEnclave S e.nonce conn e.call.command e.call.vpnIp
      e.call.data).running = true :=
    (callEnclave_running S e.nonce conn e.call.vpnIp e.call.data
      e.call.command_ne_shutdown).trans h.running
  -- A reply that stays in the stream jams it; then the call has returned -1.
  have hjam : Jammed (conn.stream ++ (ownReply S conn e).encode) →
      Usable (enclaveCall S e.nonce e.delivery conn e.call.command e.call.vpnIp e.call.data
        e.call.respMaxLen).1 ∧
      ∀ resp, (enclaveCall S e.nonce e.delivery conn e.call.command e.call.vpnIp e.call.data
        e.call.respMaxLen).2 = some resp →
        resp = ownReply S conn e ∧ resp.requestId = htonl (conn.globalRequestId + 1) := by
    intro hj
    have htotal := lt_of_le_of_lt e.call.respMaxLen_le hj.2
    rw [enclaveCall_unread h.running hdata' htotal]
    exact ⟨⟨hrunning, Or.inr hj⟩, fun resp hresp => absurd hresp (by simp)⟩
  rw [if_neg hbig]
  rcases h.stream with hnil | hjammed
  · by_cases hfits : ipcResponseSize + (ownReply S conn e).data.length ≤ e.call.respMaxLen
    · have hmax : e.call.respMaxLen < 65536 :=
        lt_of_le_of_lt e.call.respMaxLen_le (by decide)
      rw [enclaveCall_synced ⟨h.running, hnil⟩ hdata' hfits hmax hd]
      refine ⟨⟨hrunning, Or.inl rfl⟩, fun resp hresp => ?_⟩
      have hown : resp = ownReply S conn e := by
        simp only at hresp
        split_ifs at hresp
        exact (Option.some.inj hresp).symm
      refine ⟨hown, ?_⟩
      rw [hown]
      exact callReply_requestId S e.nonce conn e.call.command e.call.vpnIp e.call.data
    · apply hjam
      rw [hnil, List.nil_append]
      exact jammed_ownReply hdata (not_le.mp hfits)
  · exact hjam (hjammed.append _)

/-- **Replies are paired with their requests** in every run, from a connection without
unread replies, in which the transport delivers every reply whole. -/
theorem replies_paired (S : Sodium) {conn : Connection} (hsync : conn.Synced)
    {calls : List CallEvent} (h : Along (callStep S) (DeliversReply S) conn calls) :
    Along (callStep S) (Paired S) conn calls :=
  Along.imp (I := Usable) (fun _ _ hu hd => performCall_paired hu hd)
    ⟨hsync.running, Or.inl hsync.stream_nil⟩ h

/-- A connection to an enclave that has just started. -/
def freshConnection (S : Sodium) (secret : Key) : Connection :=
  ⟨⟨initKeyManager S secret, true⟩, [], 0⟩

/-- Two handshakes, for 10.8.0.2 and 10.8.0.3.  The peek of the first gets `peek` bytes. -/
def twoHandshakes (peek : Option ℕ) : List CallEvent :=
  [⟨.handshake 0x0200080a (Vector.replicate 32 1), Vector.replicate 12 0, ⟨peek, none⟩⟩,
    ⟨.handshake 0x0300080a (Vector.replicate 32 2), Vector.replicate 12 0, Delivery.whole⟩]

theorem replies_paired_twoHandshakes :
    Along (callStep sampleSodium) (Paired sampleSodium) (freshConnection sampleSodium zeroKey)
      (twoHandshakes none) :=
  replies_paired sampleSodium ⟨rfl, rfl⟩
    ⟨Delivery.whole_covers _, Delivery.whole_covers _, trivial⟩

/-- **A short peek hands one client's session key to the next.**  When the peek of the first
handshake gets 3 bytes, that call returns -1 and its reply stays; the handshake for the
second client returns 0 with the reply to the first. -/
theorem short_peek_crosses_replies :
    ¬ Along (callStep sampleSodium) (Paired sampleSodium)
      (freshConnection sampleSodium zeroKey) (twoHandshakes (some 3)) := by
  rintro ⟨-, hsecond, -⟩
  have hread : (performCall sampleSodium
      (callStep sampleSodium (freshConnection sampleSodium zeroKey)
        ⟨.handshake 0x0200080a (Vector.replicate 32 1), Vector.replicate 12 0, ⟨some 3, none⟩⟩)
      ⟨.handshake 0x0300080a (Vector.replicate 32 2), Vector.replicate 12 0,
        Delivery.whole⟩).2
      = some (ownReply sampleSodium (freshConnection sampleSodium zeroKey)
        ⟨.handshake 0x0200080a (Vector.replicate 32 1), Vector.replicate 12 0,
          ⟨some 3, none⟩⟩) := by decide +kernel
  exact absurd (hsecond _ hread).2 (by decide +kernel)

end Vpn
