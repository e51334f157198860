/-
# Copies of a data packet

Clients emit DATA packets; the network may duplicate, delay and reorder them, and the
server handles whatever arrives.  A run records what the clients have emitted and counts,
for each datagram of each peer, the copies that were delivered and the writes to the TUN
device that the server made while handling them.

The header has a sequence number and a timestamp, and no receiver reads them.  One copy
leads to at most one write (`tunWrites_le_copies`), and nothing that has happened before
makes the server refuse the next copy (`data_written_again`).
-/
import CloudVpn.DataPlane

open Memory Slots Runs

namespace Vpn

/-! ## Runs with an adversary -/

/-- The server, what the clients have emitted, and for each datagram of a peer the number
of copies delivered and of writes made for them. -/
structure ReplayWorld where
  server : Server
  emitted : List (SockAddr × Bytes)
  copies : SockAddr × Bytes → ℕ
  writes : SockAddr × Bytes → ℕ

/-- A client at `src`, in any state, handles a packet from its TUN device; or the server
handles an event.  Datagrams come in any order and number. -/
inductive ReplayEvent where
  | emit (src : SockAddr) (client : Client) (packet : Bytes) (env : ClientEnv)
  | server (e : Event)

/-- The datagram of a send. -/
def ClientAction.datagram? : ClientAction → Option Bytes
  | .udpSend datagram => some datagram
  | _ => none

/-- A write to the TUN device. -/
def Action.isTunWrite : Action → Bool
  | .tunWrite _ => true
  | .udpSend _ _ => false

/-- The world after an event. -/
def replayStep (S : Sodium) (w : ReplayWorld) : ReplayEvent → ReplayWorld
  | .emit src client packet env =>
      { w with
        emitted := w.emitted ++ ((client.handleTunToUdp S env packet).2.filterMap
          ClientAction.datagram?).map fun datagram => (src, datagram) }
  | .server (.udp src datagram env) =>
      let (server, actions) := handleUdpToTun S env w.server src datagram
      { w with
        server := server
        copies := Function.update w.copies (src, datagram) (w.copies (src, datagram) + 1)
        writes := Function.update w.writes (src, datagram)
          (w.writes (src, datagram) + actions.countP Action.isTunWrite) }
  | .server e => { w with server := serverStep S w.server e }

/-- The world at the start of the server. -/
def initReplayWorld (S : Sodium) (secret : Key) : ReplayWorld :=
  ⟨initServer S secret, [], fun _ => 0, fun _ => 0⟩

/-! ## At most one write for each copy -/

variable {S : Sodium}

/-- No handler does more than one thing to the outside. -/
theorem length_handleUdpToTun_le (env : Env) (server : Server) (addr : SockAddr)
    (datagram : Bytes) : (handleUdpToTun S env server addr datagram).2.length ≤ 1 := by
  unfold handleUdpToTun
  dsimp only
  split
  · exact Nat.zero_le 1
  · split
    · -- CONNECT_REQ
      unfold handleConnectReq
      dsimp only
      split
      · exact Nat.zero_le 1
      · split
        · exact Nat.zero_le 1
        · split
          · exact Nat.zero_le 1
          · exact Nat.le_refl 1
    · -- DATA
      unfold handleData
      split
      · exact Nat.zero_le 1
      · dsimp only
        split
        · exact Nat.zero_le 1
        · exact Nat.le_refl 1
    · exact Nat.le_refl 1
    · -- DISCONNECT
      unfold handleDisconnect
      split <;> exact Nat.zero_le 1
    · exact Nat.zero_le 1

/-- No datagram has led to more writes than copies of it were delivered. -/
def WritesWithinCopies (w : ReplayWorld) : Prop := ∀ x, w.writes x ≤ w.copies x

theorem WritesWithinCopies.step {w : ReplayWorld} (h : WritesWithinCopies w)
    (e : ReplayEvent) : WritesWithinCopies (replayStep S w e) := by
  cases e with
  | emit src client packet env => exact h
  | server e =>
      cases e with
      | tun packet env => exact h
      | sweep env => exact h
      | udp src datagram env =>
          have hone : (handleUdpToTun S env w.server src datagram).2.countP
              Action.isTunWrite ≤ 1 :=
            le_trans List.countP_le_length (length_handleUdpToTun_le env w.server src datagram)
          exact update_rel h (src, datagram) (Nat.add_le_add (h _) hone)

/-- **Writes and copies.**  In every run, a data packet that a client has emitted leads to
at most one write to the server's TUN device for each copy of it that is delivered. -/
theorem tunWrites_le_copies (S : Sodium) (secret : Key) (es : List ReplayEvent) :
    let w := run (replayStep S) (initReplayWorld S secret) es
    ∀ x ∈ w.emitted, w.writes x ≤ w.copies x := by
  intro w x _
  have hw : WritesWithinCopies w :=
    run_invariant (replayStep S) (fun _ e h => h.step e) (fun _ => Nat.le_refl 0) es
  exact hw x

/-! ## Every copy counts -/

/-- **A copy is written again.**  After a data packet has been written, the next copy of it
from the same peer is written as well, at any later time: nothing in the server or the
enclave remembers the first. -/
theorem data_written_again {server : Server} (hsync : server.conn.Synced) {env env' : Env}
    (hd : env.delivery = .whole) (hd' : env'.delivery = .whole) {addr : SockAddr}
    {datagram packet : Bytes} (hlen : vpnHeaderSize ≤ datagram.length)
    (htype : byteAt datagram 0 = PacketType.data.toByte) {i : Fin maxClients}
    (hi : findClientByAddr server.table addr = some i)
    (h : (handleUdpToTun S env server addr datagram).2 = [.tunWrite packet]) :
    (handleUdpToTun S env' (handleUdpToTun S env server addr datagram).1 addr datagram).2
      = [.tunWrite packet] := by
  have hip := (updateClientActivity_same server.table i env.now i).2.2
  rw [handleUdpToTun_data hsync hd hlen htype hi] at h ⊢
  rw [handleUdpToTun_data (Connection.Synced.called hsync.running) hd' hlen htype
    (by rw [findClientByAddr_updateClientActivity]; exact hi)]
  show ((openFor S server.conn.enclave.km
    ((updateClientActivity server.table i env.now).clients i).vpnIp _).map _).toList = _
  rw [hip]
  exact h

/-! ## A sample run -/

/-- The datagram that the sample client builds for the sample packet. -/
def sampleDatagram : Bytes :=
  ((sampleClient.handleTunToUdp sampleSodium ⟨0, 0, Vector.replicate 12 0, []⟩
    samplePacket).2.filterMap ClientAction.datagram?).flatten

/-- A client connects and emits a packet. -/
def connectAndEmit : List ReplayEvent :=
  [.server (sampleConnect ⟨1, 1⟩ 1),
    .emit ⟨1, 1⟩ sampleClient samplePacket ⟨0, 0, Vector.replicate 12 0, []⟩]

/-- Delivered once, the packet is written once. -/
theorem tunWrites_le_copies_once :
    let w := run (replayStep sampleSodium) (initReplayWorld sampleSodium zeroKey)
      (connectAndEmit ++ [.server (.udp ⟨1, 1⟩ sampleDatagram sampleEnv)])
    w.copies (⟨1, 1⟩, sampleDatagram) = 1 ∧
      w.writes (⟨1, 1⟩, sampleDatagram) ≤ w.copies (⟨1, 1⟩, sampleDatagram) := by
  refine ⟨by decide +kernel, ?_⟩
  exact tunWrites_le_copies sampleSodium zeroKey _ (⟨1, 1⟩, sampleDatagram)
    (by decide +kernel)

/-- **A replay.**  The packet is emitted once; a second copy of it, an hour later, is
written a second time. -/
theorem replayed_packet_written_twice :
    let w := run (replayStep sampleSodium) (initReplayWorld sampleSodium zeroKey)
      (connectAndEmit ++ [.server (.udp ⟨1, 1⟩ sampleDatagram sampleEnv),
        .server (.udp ⟨1, 1⟩ sampleDatagram
          { sampleEnv with now := 3600, timestampMs := 3600000 })])
    w.emitted = [(⟨1, 1⟩, sampleDatagram)] ∧ w.writes (⟨1, 1⟩, sampleDatagram) = 2 := by
  refine ⟨?_, ?_⟩ <;> decide +kernel

end Vpn
