/-
# The enclave's end of the connection

Model of `handle_ipc_request` together with its receive path, for any bytes on the socket
and any delivery of them.  The handler peeks at a header and then asks once for as many
bytes as the header announces.  Either `recv` may get less: then the handler returns
without a reply, and what the second `recv` got has left the stream.

`failed_request_atomic` is the main result: a request that is not answered, or answered
with status -1, has not touched the key manager.
-/
import CloudVpn.EnclaveClient

open Memory

namespace Vpn

/-! ## The receive path -/

/-- `total_len`: the length of a whole request, computed from its header. -/
def ipcRequestLen (header : Bytes) : ℕ := ipcRequestSize + (ntohs (u16At header 9)).toNat

/-- The two `recv` calls of `handle_ipc_request`: the stream they leave, and the request if
it has arrived whole. -/
def recvIpcRequest (d : Delivery) (stream : Bytes) : Bytes × Option Bytes :=
  let header := received d.peek ipcRequestSize stream
  if header.length < ipcRequestSize then (stream, none)
  else
    let totalLen := ipcRequestLen header
    let request := received d.recv totalLen stream
    (stream.drop request.length, if request.length ≠ totalLen then none else some request)

/-- The enclave and the bytes on the socket that it has not read. -/
structure EnclaveSocket where
  enclave : Enclave
  stream : Bytes

/-- `handle_ipc_request`, with the bytes it sends. -/
def handleIpcSocket (S : Sodium) (nonce : Nonce) (d : Delivery) (sock : EnclaveSocket) :
    EnclaveSocket × Option Bytes :=
  match recvIpcRequest d sock.stream with
  | (rest, none) => ({ sock with stream := rest }, none)
  | (rest, some request) =>
      let (enclave, reply) := handleIpcRequest S nonce sock.enclave request
      (⟨enclave, rest⟩, some reply)

/-- One turn of the loop of `main` on a request that has arrived whole: the loop goes on
while `enclave_running`. -/
def ipcStep (S : Sodium) (enclave : Enclave) (e : Nonce × Bytes) : Enclave :=
  if enclave.running then (handleIpcRequest S e.1 enclave e.2).1 else enclave

/-- The enclave as `main` starts it. -/
def startEnclave (S : Sodium) (secret : Key) : Enclave := ⟨initKeyManager S secret, true⟩

/-! ## Requests on the stream -/

theorem IpcRequest.length_encode (req : IpcRequest) :
    req.encode.length = ipcRequestSize + req.data.length := by
  unfold IpcRequest.encode ipcRequestSize
  simp only [List.length_append, List.length_singleton, length_le32, length_le16]
  omega

/-- The announced length is read from the header alone. -/
theorem ipcRequestLen_take (m : Bytes) :
    ipcRequestLen (m.take ipcRequestSize) = ipcRequestLen m := by
  unfold ipcRequestLen
  rw [u16At_take m (show 9 + 2 ≤ ipcRequestSize by decide)]

/-- A request at the front of the stream announces its own length. -/
theorem ipcRequestLen_encode {req : IpcRequest} (h : req.data.length < 65536) (rest : Bytes) :
    ipcRequestLen (req.encode ++ rest) = req.encode.length := by
  have hlen : u16At (req.encode ++ rest) 9 = htons (UInt16.ofNat req.data.length) := by
    rw [u16At_append_left rest (by rw [req.length_encode]; unfold ipcRequestSize; omega),
      ipcRequest_u16At]
  unfold ipcRequestLen
  rw [hlen, ntohs_htons, toNat_ofNat_length h, req.length_encode]

variable {S : Sodium} {nonce : Nonce} {d : Delivery} {stream : Bytes}

/-- A header that does not arrive stays on the stream. -/
theorem recvIpcRequest_short
    (h : (received d.peek ipcRequestSize stream).length < ipcRequestSize) :
    recvIpcRequest d stream = (stream, none) := by
  unfold recvIpcRequest
  rw [if_pos h]

/-- Once the header has arrived, the second `recv` decides. -/
theorem recvIpcRequest_header
    (h : ipcRequestSize ≤ (received d.peek ipcRequestSize stream).length) :
    recvIpcRequest d stream =
      (stream.drop (received d.recv (ipcRequestLen stream) stream).length,
        if (received d.recv (ipcRequestLen stream) stream).length ≠ ipcRequestLen stream
        then none else some (received d.recv (ipcRequestLen stream) stream)) := by
  unfold recvIpcRequest
  rw [if_neg (not_lt.mpr h), received_eq_take_of_length h, ipcRequestLen_take]

/-- The request at the front of the stream is taken off it whole, if the second `recv` is
not cut short. -/
theorem recvIpcRequest_encode {req : IpcRequest} (hdata : req.data.length < 65536)
    (rest : Bytes)
    (hpeek : ipcRequestSize ≤ (received d.peek ipcRequestSize (req.encode ++ rest)).length)
    (hrecv : ∀ k, d.recv = some k → req.encode.length ≤ k) :
    recvIpcRequest d (req.encode ++ rest) = (rest, some req.encode) := by
  have hgot : received d.recv req.encode.length (req.encode ++ rest) = req.encode := by
    rw [received_eq_take _ hrecv, List.take_left]
  rw [recvIpcRequest_header hpeek, ipcRequestLen_encode hdata, hgot, List.drop_left, if_neg]
  exact not_not.mpr rfl

/-- On a request that is delivered whole the handler is `handleIpcRequest`. -/
theorem handleIpcSocket_encode {req : IpcRequest} (hdata : req.data.length < 65536)
    (enclave : Enclave) (rest : Bytes) :
    handleIpcSocket S nonce .whole ⟨enclave, req.encode ++ rest⟩ =
      (⟨(handleIpcRequest S nonce enclave req.encode).1, rest⟩,
        some (handleIpcRequest S nonce enclave req.encode).2) := by
  have hpeek : ipcRequestSize
      ≤ (received Delivery.whole.peek ipcRequestSize (req.encode ++ rest)).length := by
    rw [received_eq_take _ (fun k hk => by cases hk), List.length_take, List.length_append,
      req.length_encode]
    omega
  unfold handleIpcSocket
  rw [recvIpcRequest_encode hdata rest hpeek (fun k hk => by cases hk)]

/-! ## Failed requests -/

/-- Every exit with status -1 comes before the first write to the key manager and before
`data_len` is set. -/
theorem IpcOutcome.atomic {enclave enclave' : Enclave} {req : IpcRequest}
    {resp : IpcResponse} (h : IpcOutcome S nonce enclave req enclave' resp)
    (hstatus : resp.status = ipcStatusError) : enclave' = enclave ∧ resp.data = [] := by
  cases h with
  | refused => exact ⟨rfl, rfl⟩
  | _ => exact absurd hstatus (show (0 : UInt8) ≠ 0xff by decide)

/-- **Errors are atomic.**  A request that gets no reply leaves the key manager as it was.
So does one with a reply of status -1, and that reply carries no data. -/
theorem failed_request_atomic (S : Sodium) (nonce : Nonce) (d : Delivery)
    (sock : EnclaveSocket) :
    ((handleIpcSocket S nonce d sock).2 = none →
      (handleIpcSocket S nonce d sock).1.enclave.km = sock.enclave.km) ∧
    ∀ reply, (handleIpcSocket S nonce d sock).2 = some reply →
      byteAt reply 4 = ipcStatusError →
        (handleIpcSocket S nonce d sock).1.enclave.km = sock.enclave.km ∧
          ntohs (u16At reply 5) = 0 ∧ reply.length = ipcResponseSize := by
  unfold handleIpcSocket
  rcases recvIpcRequest d sock.stream with ⟨rest, _ | request⟩
  · exact ⟨fun _ => rfl, fun reply h => absurd h (by simp)⟩
  · refine ⟨fun h => absurd h (by simp), ?_⟩
    intro reply hreply hstatus
    have hout := handleIpcCommand_outcome S nonce sock.enclave (IpcRequest.decode request)
    have henc : (handleIpcCommand S nonce sock.enclave (IpcRequest.decode request)).2.encode
        = reply := Option.some.inj hreply
    rw [← henc, IpcResponse.status_encode] at hstatus
    obtain ⟨hsame, hdata⟩ := hout.atomic hstatus
    refine ⟨congrArg Enclave.km hsame, ?_, ?_⟩
    · rw [← henc, ipcResponse_u16At, hdata, ntohs_htons]
      rfl
    · rw [← henc, IpcResponse.length_encode (by simp [hdata]), hdata]
      rfl

/-- A request with a command byte that no command has, as it lies on the socket. -/
def unknownCommand : Bytes := [0x09, 0, 0, 0, 1, 0, 0, 0, 0, 0, 0]

/-- With a key stored, the unknown command is answered with status -1; cut off in the second `recv`
it is not answered.  Neither touches the keys. -/
theorem failed_request_atomic_keyed :
    let nonce : Nonce := Vector.replicate 12 0
    let enclave := ipcStep sampleSodium (startEnclave sampleSodium zeroKey)
      (nonce, (initIpcRequest 1 .addKey 2 (Vector.replicate 32 7).toList).encode)
    let sock : EnclaveSocket := ⟨enclave, unknownCommand⟩
    getKey sock.enclave.km 2 = some (Vector.replicate 32 7) ∧
      (handleIpcSocket sampleSodium nonce .whole sock).2 = some [0, 0, 0, 1, 0xff, 0, 0] ∧
      (handleIpcSocket sampleSodium nonce .whole sock).1.enclave.km = sock.enclave.km ∧
      (handleIpcSocket sampleSodium nonce ⟨none, some 4⟩ sock).2 = none ∧
      (handleIpcSocket sampleSodium nonce ⟨none, some 4⟩ sock).1.enclave.km
        = sock.enclave.km := by
  intro nonce enclave sock
  have hreply : (handleIpcSocket sampleSodium nonce .whole sock).2
      = some [0, 0, 0, 1, 0xff, 0, 0] := by decide +kernel
  have hnone : (handleIpcSocket sampleSodium nonce ⟨none, some 4⟩ sock).2 = none := by
    decide +kernel
  exact ⟨by decide +kernel, hreply,
    ((failed_request_atomic sampleSodium nonce .whole sock).2 _ hreply (by decide)).1, hnone,
    (failed_request_atomic sampleSodium nonce ⟨none, some 4⟩ sock).1 hnone⟩

end Vpn
