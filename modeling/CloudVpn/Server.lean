/-
# The server

Model of the event handlers of `vpn_server.c`: `handle_udp_to_tun` for datagrams,
`handle_tun_to_udp` for packets from the TUN device, and the sweep of the main loop.  The
state is the client table, the connection to the enclave and the sequence counter.  What a
handler sends or writes is returned as a list of actions.

Everything a handler takes from outside (the clock, `rand()`, the nonce the enclave draws,
the chunks of the enclave's stream, the old contents of its buffers, whether the network
takes a datagram) is in `Env`.  One event takes one reading of the clock.
-/
import CloudVpn.ClientManager
import CloudVpn.EnclaveClient
import CloudVpn.Protocol

open Memory Slots Runs

namespace Vpn

/-! ## State and events -/

/-- The state of the server process and, through the connection, of its enclave. -/
structure Server where
  table : ClientTable
  conn : Connection
  globalSequence : UInt32

/-- What one event takes from outside. -/
structure Env where
  now : ℤ
  rand : UInt32
  timestampMs : UInt64
  nonce : Nonce
  delivery : Delivery
  /-- What `buffer` held before the datagram. -/
  buffer : Bytes
  /-- What `resp_buffer` of `enclave_handshake` held behind the header of the reply. -/
  respData : Bytes
  /-- `udp_send` returns more than 0. -/
  sent : Bool

/-- What a handler does to the outside. -/
inductive Action where
  /-- A call of `udp_send`, whatever it returns. -/
  | udpSend (dest : SockAddr) (datagram : Bytes)
  | tunWrite (packet : Bytes)
  deriving DecidableEq

/-- An event of the main loop. -/
inductive Event where
  | udp (src : SockAddr) (datagram : Bytes) (env : Env)
  | tun (packet : Bytes) (env : Env)
  | sweep (env : Env)

/-- The server after its start: the enclave runs, its `PING` has used the first id. -/
def initServer (S : Sodium) (secret : Key) : Server where
  table := initClientTable
  conn := ⟨⟨initKeyManager S secret, true⟩, [], 1⟩
  globalSequence := 0

/-! ## Datagrams -/

section
variable (S : Sodium) (env : Env) (server : Server)

/-- `PKT_CONNECT_REQ`. -/
def handleConnectReq (addr : SockAddr) (buffer : Bytes) : Server × List Action :=
  let (table, vpnIp) := addClient server.table addr env.now env.rand
  if vpnIp = 0 then ({ server with table := table }, [])
  else
    match enclaveHandshake S env.nonce env.delivery server.conn vpnIp (authTokenAt buffer) with
    | (conn, none) =>
        -- Undone by VPN address, also when `add_client` has found the peer in the table.
        ({ server with table := removeClient table vpnIp, conn := conn }, [])
    | (conn, some resp) =>
        let seq := server.globalSequence + 1
        let header := initVpnHeader .connectResp 41 seq env.timestampMs
        match findClientByAddr table addr with
        -- The C code would follow a null pointer here; `addClient_isSome` excludes it.
        | none => (⟨table, conn, seq⟩, [])
        | some client =>
            (⟨table, conn, seq⟩,
              [.udpSend addr (connectResponse header 0 vpnIp
                (htonl (table.clients client).sessionId) (handshakeKeys env.respData resp).1)])

/-- `PKT_DATA`, with the bytes behind the header. -/
def handleData (addr : SockAddr) (ciphertext : Bytes) : Server × List Action :=
  match findClientByAddr server.table addr with
  | none => (server, [])
  | some client =>
      let table := updateClientActivity server.table client env.now
      match enclaveDecrypt S env.nonce env.delivery server.conn
          (table.clients client).vpnIp ciphertext with
      | (conn, none) => ({ server with table := table, conn := conn }, [])
      | (conn, some resp) =>
          ({ server with table := table, conn := conn }, [.tunWrite resp.data])

/-- `PKT_PING`: answered whether or not the peer is known. -/
def handlePing (addr : SockAddr) : Server × List Action :=
  let table :=
    match findClientByAddr server.table addr with
    | some client => updateClientActivity server.table client env.now
    | none => server.table
  let seq := server.globalSequence + 1
  ({ server with table := table, globalSequence := seq },
    [.udpSend addr (initVpnHeader .pong 0 seq env.timestampMs)])

/-- `PKT_DISCONNECT`. -/
def handleDisconnect (addr : SockAddr) : Server × List Action :=
  match findClientByAddr server.table addr with
  | none => (server, [])
  | some client =>
      let vpnIp := (server.table.clients client).vpnIp
      -- The result of `enclave_remove_key` is not looked at.
      let (conn, _) := enclaveRemoveKey S env.nonce env.delivery server.conn vpnIp
      ({ server with table := removeClient server.table vpnIp, conn := conn }, [])

/-- `handle_udp_to_tun`. -/
def handleUdpToTun (addr : SockAddr) (datagram : Bytes) : Server × List Action :=
  let buffer := recvInto env.buffer datagram
  let n := recvLen datagram
  if n < vpnHeaderSize then (server, [])
  else
    match PacketType.ofByte (byteAt buffer 0) with
    | some .connectReq => handleConnectReq S env server addr buffer
    | some .data => handleData S env server addr ((buffer.take n).drop vpnHeaderSize)
    | some .ping => handlePing env server addr
    | some .disconnect => handleDisconnect S env server addr
    | _ => (server, [])

/-! ## Packets from the TUN device -/

/-- The field `daddr` of the IP header. -/
def destinationIp (packet : Bytes) : UInt32 := u32At packet 16

/-- The field `version` of the IP header: the high half of the first byte. -/
def ipVersion (packet : Bytes) : ℕ := (byteAt packet 0).toNat / 16

/-- `handle_tun_to_udp`. -/
def handleTunToUdp (packet : Bytes) : Server × List Action :=
  let buffer := packet.take bufferSize
  if buffer.length < 20 then (server, [])
  else if ipVersion buffer = 6 then (server, [])
  else
    match findClientByVpnIp server.table (destinationIp buffer) with
    | none => (server, [])
    | some client =>
        match enclaveEncrypt S env.nonce env.delivery server.conn
            (server.table.clients client).vpnIp buffer with
        | (conn, none) => ({ server with conn := conn }, [])
        | (conn, some resp) =>
            let seq := server.globalSequence + 1
            let header := initVpnHeader .data (UInt16.ofNat resp.data.length) seq
              env.timestampMs
            let table :=
              if env.sent then updateClientActivity server.table client env.now
              else server.table
            (⟨table, conn, seq⟩,
              [.udpSend (server.table.clients client).realAddr (header ++ resp.data)])

end

/-! ## The main loop -/

/-- The server after an event, and what it does. -/
def handleEvent (S : Sodium) (server : Server) : Event → Server × List Action
  | .udp src datagram env => handleUdpToTun S env server src datagram
  | .tun packet env => handleTunToUdp S env server packet
  | .sweep env => ({ server with table := checkClientTimeouts server.table env.now }, [])

/-- The server after an event. -/
def serverStep (S : Sodium) (server : Server) (e : Event) : Server :=
  (handleEvent S server e).1

/-- What an event takes from outside. -/
def Event.env : Event → Env
  | .udp _ _ env => env
  | .tun _ env => env
  | .sweep env => env

end Vpn
