/-
# Failed connects

When the handshake of a CONNECT_REQ fails, the server takes back `add_client` with
`remove_client`, which searches by VPN address.  It finds the entry that was just added
only if that entry is new and no earlier slot holds the same address.
-/
import CloudVpn.ServerTables

open Memory Slots Runs

namespace Vpn

/-- The rollback restores the sessions exactly when the peer was unknown and its new entry
is the first with its address. -/
theorem liveSessions_rollback_iff {table : ClientTable} (h : table.Wf) {addr : SockAddr}
    (now : ℤ) (rand : UInt32) (hroom : table.count < maxClients) :
    liveSessions (removeClient (addClient table addr now rand).1 (offeredIp table addr))
        = liveSessions table ↔
      findClientByAddr table addr = none ∧ ¬ Shadowed table (offeredIp table addr) := by
  constructor
  · intro heq
    cases hfind : findClientByAddr table addr with
    | some i =>
        obtain ⟨-, x, hx, hxnot⟩ := liveSessions_rollback_existing h now rand hroom hfind
        rw [heq] at hxnot
        exact absurd hx hxnot
    | none =>
        refine ⟨rfl, fun hshadow => ?_⟩
        obtain ⟨y, -, -, hlive⟩ :=
          liveSessions_rollback_shadowed h now rand hroom hfind hshadow
        -- The refused peer has a session now, and had none before.
        have hnew : (newEntry table addr now rand).session ∈ liveSessions table := by
          rw [← heq, hlive]
          exact Set.mem_insert _ _
        exact absurd rfl (findClientByAddr_eq_none_iff.mp hfind _ hnew)
  · rintro ⟨hnone, hclear⟩
    exact liveSessions_rollback_fresh h now rand hroom hnone hclear

/-- **A failed connect changes no session exactly when** the peer has no session and no
active entry in front of the first free slot holds the address it is offered.  The
handshake may fail for any reason; with a full client table there is none. -/
theorem failed_connect_unchanged_iff {S : Sodium} {server : Server}
    (hreach : Reachable S server) {addr : SockAddr} {datagram : Bytes} {env : Env}
    (hlen : vpnHeaderSize ≤ datagram.length)
    (htype : byteAt datagram 0 = PacketType.connectReq.toByte)
    (hroom : server.table.count < maxClients)
    (hfail : (enclaveHandshake S env.nonce env.delivery server.conn
      (offeredIp server.table addr) (authTokenAt (recvInto env.buffer datagram))).2 = none) :
    liveSessions (serverStep S server (.udp addr datagram env)).table
        = liveSessions server.table ↔
      findClientByAddr server.table addr = none ∧
        ¬ Shadowed server.table (offeredIp server.table addr) := by
  have hwf := hreach.wf
  have hstep : serverStep S server (.udp addr datagram env)
      = (handleConnectReq S env server addr (recvInto env.buffer datagram)).1 :=
    congrArg Prod.fst (handleUdpToTun_connectReq hlen htype)
  rw [hstep, handleConnectReq_refused hwf hroom (Prod.ext rfl hfail)]
  exact liveSessions_rollback_iff hwf env.now env.rand hroom

/-- The zero key is refused, and a stranger who sends it changes nothing. -/
theorem failed_connect_unchanged_stranger :
    liveSessions (serverStep sampleSodium (oneClientServer ⟨1, 1⟩)
        (sampleConnect ⟨2, 2⟩ 0)).table
        = liveSessions (oneClientServer ⟨1, 1⟩).table ↔
      findClientByAddr (oneClientServer ⟨1, 1⟩).table ⟨2, 2⟩ = none ∧
        ¬ Shadowed (oneClientServer ⟨1, 1⟩).table
          (offeredIp (oneClientServer ⟨1, 1⟩).table ⟨2, 2⟩) :=
  failed_connect_unchanged_iff (oneClientServer_reachable ⟨1, 1⟩) (by decide +kernel)
    (by decide +kernel) (by decide +kernel) (by decide +kernel)

/-- **A failed connect evicts the client that sent it**: a connected peer sends the zero
key, the handshake fails, and its session is gone. -/
theorem failed_reconnect_evicts :
    (enclaveHandshake sampleSodium (Vector.replicate 12 0) .whole
        (oneClientServer ⟨1, 1⟩).conn 0x0200080a zeroKey).2 = none ∧
      ¬ liveSessions (serverStep sampleSodium (oneClientServer ⟨1, 1⟩)
          (sampleConnect ⟨1, 1⟩ 0)).table
        = liveSessions (oneClientServer ⟨1, 1⟩).table := by
  refine ⟨by decide +kernel, fun heq => ?_⟩
  have hgone : findClientByAddr (serverStep sampleSodium (oneClientServer ⟨1, 1⟩)
      (sampleConnect ⟨1, 1⟩ 0)).table ⟨1, 1⟩ = none := by decide +kernel
  rw [findClientByAddr_eq_none_iff, heq, ← findClientByAddr_eq_none_iff] at hgone
  exact absurd hgone (by decide +kernel)

end Vpn
