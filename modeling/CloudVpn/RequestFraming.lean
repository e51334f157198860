/-
# The requests that the enclave dispatches

The loop of `main` over one connection: `handle_ipc_request` again and again, while the
enclave runs.  All the requests that the peer writes lie on the stream from the start; what
has arrived at a `recv`, and how much of it the `recv` gets, is the delivery of that step.

`DeliversRequest` asks of a step that the second `recv` is not cut short once the header
has been seen.  While every step meets it, the stream always starts with a whole request,
and the requests that reach the `switch` are a front part of those sent
(`dispatched_in_order`).  A step that does not meet it takes a part of a request off the
stream, and the next step reads its header from the data.
-/
import CloudVpn.EnclaveSocket
import CloudVpn.Runs

open Memory Runs

namespace Vpn

/-! ## The loop -/

/-- The connection, and the requests that have reached the `switch`. -/
structure EnclaveLoop where
  socket : EnclaveSocket
  dispatched : List IpcRequest

/-- One turn of the loop: a call of `handle_ipc_request` while `enclave_running`. -/
def enclaveLoopStep (S : Sodium) (s : EnclaveLoop) (e : Nonce × Delivery) : EnclaveLoop :=
  if s.socket.enclave.running then
    ⟨(handleIpcSocket S e.1 e.2 s.socket).1,
      s.dispatched ++
        ((recvIpcRequest e.2 s.socket.stream).2.map IpcRequest.decode).toList⟩
  else s

/-- The loop at its start, with the requests on the stream. -/
def enclaveLoopStart (enclave : Enclave) (sent : List IpcRequest) : EnclaveLoop :=
  ⟨⟨enclave, sent.flatMap IpcRequest.encode⟩, []⟩

/-- A request as `init_ipc_request` builds it, with the data of at most `IPC_MAX_DATA_SIZE`
bytes that its callers put behind it. -/
def IpcRequest.Built (req : IpcRequest) : Prop :=
  ∃ id command vpnIp data,
    req = initIpcRequest id command vpnIp data ∧ data.length ≤ ipcMaxDataSize

/-- Once the header is there, the second `recv` may get as much as the header announces. -/
def DeliversRequest (s : EnclaveLoop) (e : Nonce × Delivery) : Prop :=
  ipcRequestSize ≤ (received e.2.peek ipcRequestSize s.socket.stream).length →
    ∀ k, e.2.recv = some k → ipcRequestLen s.socket.stream ≤ k

instance (s : EnclaveLoop) (e : Nonce × Delivery) : Decidable (DeliversRequest s e) :=
  inferInstanceAs (Decidable
    (_ ≤ _ → ∀ k ∈ e.2.recv, ipcRequestLen s.socket.stream ≤ k))

/-! ## Dispatching in order -/

theorem IpcRequest.Built.data_lt {req : IpcRequest} (h : req.Built) :
    req.data.length < 65536 := by
  obtain ⟨id, command, vpnIp, data, rfl, hlen⟩ := h
  show data.length < 65536
  unfold ipcMaxDataSize at hlen
  omega

/-- What has been dispatched and what lies on the stream are together what was sent. -/
def EnclaveLoop.InOrder (sent : List IpcRequest) (s : EnclaveLoop) : Prop :=
  ∃ rest, s.dispatched ++ rest = sent ∧ s.socket.stream = rest.flatMap IpcRequest.encode

variable {S : Sodium} {s : EnclaveLoop} {sent : List IpcRequest}

theorem handleIpcSocket_stream (nonce : Nonce) (d : Delivery) (sock : EnclaveSocket) :
    (handleIpcSocket S nonce d sock).1.stream = (recvIpcRequest d sock.stream).1 := by
  unfold handleIpcSocket
  rcases recvIpcRequest d sock.stream with ⟨rest, _ | request⟩ <;> rfl

/-- A turn takes nothing off the stream, or dispatches the request at its front. -/
theorem EnclaveLoop.InOrder.step (hsent : ∀ req ∈ sent, req.Built) (h : s.InOrder sent)
    {e : Nonce × Delivery} (he : DeliversRequest s e) :
    (enclaveLoopStep S s e).InOrder sent := by
  unfold enclaveLoopStep
  by_cases hrun : s.socket.enclave.running
  · rw [if_pos hrun]
    obtain ⟨rest, hrest, hstream⟩ := h
    by_cases hpeek : (received e.2.peek ipcRequestSize s.socket.stream).length
        < ipcRequestSize
    · have hrecv := recvIpcRequest_short hpeek
      refine ⟨rest, ?_, ?_⟩
      · show s.dispatched ++ _ ++ rest = sent
        rw [hrecv]
        simpa using hrest
      · show (handleIpcSocket S e.1 e.2 s.socket).1.stream = _
        rw [handleIpcSocket_stream, hrecv, hstream]
    · have hcover := he (not_lt.mp hpeek)
      cases rest with
      | nil =>
          -- An empty stream has no header.
          rw [hstream] at hpeek
          exact absurd (show (received e.2.peek ipcRequestSize []).length < ipcRequestSize by
            simp [received, ipcRequestSize]) hpeek
      | cons req rest =>
          have hmem : req ∈ sent := by
            rw [← hrest]
            simp
          have hdata := (hsent req hmem).data_lt
          rw [List.flatMap_cons] at hstream
          rw [hstream] at hpeek hcover
          rw [ipcRequestLen_encode hdata] at hcover
          have hrecv := recvIpcRequest_encode hdata _ (not_lt.mp hpeek) hcover
          refine ⟨rest, ?_, ?_⟩
          · show s.dispatched ++ _ ++ rest = sent
            rw [hstream, hrecv]
            simp only [Option.map_some, Option.toList_some, IpcRequest.decode_encode hdata]
            rw [List.append_assoc]
            exact hrest
          · show (handleIpcSocket S e.1 e.2 s.socket).1.stream = _
            rw [handleIpcSocket_stream, hstream, hrecv]
  · rw [if_neg hrun]
    exact h

theorem EnclaveLoop.InOrder.run (hsent : ∀ req ∈ sent, req.Built) (h : s.InOrder sent)
    {es : List (Nonce × Delivery)}
    (hes : Along (enclaveLoopStep S) DeliversRequest s es) :
    (Runs.run (enclaveLoopStep S) s es).InOrder sent := by
  induction es generalizing s with
  | nil => exact h
  | cons e es ih => exact ih (h.step hsent hes.1) hes.2

/-- However the bytes are delivered, the loop takes the enclave nowhere that requests which
arrive whole would not take it. -/
theorem enclaveLoop_reaches (S : Sodium) (s : EnclaveLoop) (es : List (Nonce × Delivery)) :
    ∃ requests, (Runs.run (enclaveLoopStep S) s es).socket.enclave
      = Runs.run (ipcStep S) s.socket.enclave requests := by
  induction es generalizing s with
  | nil => exact ⟨[], rfl⟩
  | cons e es ih =>
      obtain ⟨requests, hrun⟩ := ih (enclaveLoopStep S s e)
      rw [run_cons, hrun]
      by_cases hrunning : s.socket.enclave.running
      · unfold enclaveLoopStep handleIpcSocket
        rw [if_pos hrunning]
        rcases recvIpcRequest e.2 s.socket.stream with ⟨rest, _ | request⟩
        · exact ⟨requests, rfl⟩
        · refine ⟨(e.1, request) :: requests, ?_⟩
          rw [run_cons, ipcStep, if_pos hrunning]
      · unfold enclaveLoopStep
        rw [if_neg hrunning]
        exact ⟨requests, rfl⟩

/-- **Framing.**  As long as no second `recv` is cut short, the enclave dispatches the
requests that were sent, in their order and none of them twice or left out. -/
theorem dispatched_in_order (S : Sodium) (enclave : Enclave) {sent : List IpcRequest}
    (hsent : ∀ req ∈ sent, req.Built) {es : List (Nonce × Delivery)}
    (hes : Along (enclaveLoopStep S) DeliversRequest (enclaveLoopStart enclave sent) es) :
    (run (enclaveLoopStep S) (enclaveLoopStart enclave sent) es).dispatched <+: sent := by
  have hstart : (enclaveLoopStart enclave sent).InOrder sent := ⟨sent, rfl, rfl⟩
  obtain ⟨rest, hrest, -⟩ := hstart.run hsent hes
  exact ⟨rest, hrest⟩

/-- An `IPC_ENCRYPT` request whose plaintext has the bytes of an `IPC_SHUTDOWN` request. -/
def shutdownInside : IpcRequest :=
  initIpcRequest 1 .encrypt 0 [0xff, 0, 0, 0, 2, 0, 0, 0, 0, 0, 0]

theorem shutdownInside_built : shutdownInside.Built :=
  ⟨1, .encrypt, 0, _, rfl, by decide⟩

/-- Two requests, the first of which arrives in pieces: a turn that sees a part of its header leaves
it for the next one. -/
theorem dispatched_in_order_pieces :
    let enclave := startEnclave sampleSodium zeroKey
    let sent := [shutdownInside, initIpcRequest 2 .ping 0 []]
    let es : List (Nonce × Delivery) := [(Vector.replicate 12 0, ⟨some 5, some 5⟩),
      (Vector.replicate 12 0, ⟨none, some 22⟩), (Vector.replicate 12 0, .whole)]
    (run (enclaveLoopStep sampleSodium) (enclaveLoopStart enclave sent) es).dispatched = sent ∧
      (run (enclaveLoopStep sampleSodium) (enclaveLoopStart enclave sent) es).dispatched
        <+: sent := by
  intro enclave sent es
  refine ⟨by decide +kernel, dispatched_in_order sampleSodium enclave ?_ (by decide +kernel)⟩
  intro req hreq
  rcases List.mem_pair.mp hreq with rfl | rfl
  · exact shutdownInside_built
  · exact ⟨2, .ping, 0, [], rfl, by decide⟩

/-- If the second `recv` gets the 11 bytes of the header only, the next turn takes the
plaintext for a request: the enclave dispatches a shutdown that no one has sent. -/
theorem dispatched_from_data :
    let enclave := startEnclave sampleSodium zeroKey
    let es : List (Nonce × Delivery) :=
      [(Vector.replicate 12 0, ⟨none, some 11⟩), (Vector.replicate 12 0, .whole)]
    let s := run (enclaveLoopStep sampleSodium) (enclaveLoopStart enclave [shutdownInside]) es
    shutdownInside.Built ∧ s.dispatched = [initIpcRequest 2 .shutdown 0 []] ∧
      ¬ s.dispatched <+: [shutdownInside] ∧ s.socket.enclave.running = false := by
  refine ⟨shutdownInside_built, ?_, ?_, ?_⟩ <;> decide +kernel

end Vpn
