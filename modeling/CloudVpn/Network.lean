/-
# One client, the server and the network between them

The client and the server exchange datagrams through a network that may lose, delay and
reorder them: two lists of datagrams in flight, from which any one may be taken next.  The
client's socket has an address; `vpn_connect` opens a new socket, and what is still on its
way to an old one is lost.  The server may restart with an empty table and a new enclave.
-/
import CloudVpn.Client
import CloudVpn.Server

open Memory

namespace Vpn

/-- The client, the server, and the datagrams in flight with their source or destination
at the client's side. -/
structure World where
  server : Server
  client : Client
  /-- The address of the client's socket. -/
  addr : SockAddr
  /-- The request whose answer the client waits for, inside `vpn_connect`. -/
  pending : Option Bytes
  toServer : List (SockAddr × Bytes)
  toClient : List (SockAddr × Bytes)

/-- What can happen next. -/
inductive WorldEvent where
  /-- The client, not connected, enters `vpn_connect`, which opens a new socket. -/
  | connect (addr : SockAddr) (username : Bytes) (env : ClientEnv)
  /-- The `recvfrom` of `vpn_connect` times out. -/
  | timeout
  /-- The client receives one of the datagrams in flight. -/
  | clientRecv (k : ℕ) (env : ClientEnv)
  /-- The main loop of a connected client calls `check_keepalive`. -/
  | keepalive (env : ClientEnv)
  /-- A connected client reads a packet from its TUN device. -/
  | clientTun (packet : Bytes) (env : ClientEnv)
  /-- The client process ends; the next one draws a new key. -/
  | destroy (env : ClientEnv) (secret : Key)
  /-- The server receives one of the datagrams in flight. -/
  | serverRecv (k : ℕ) (env : Env)
  /-- The server reads a packet from its TUN device. -/
  | serverTun (packet : Bytes) (env : Env)
  /-- The server calls `check_client_timeouts`. -/
  | sweep (env : Env)
  /-- The server process starts again. -/
  | restart (secret : Key)
  /-- A datagram to the server is lost. -/
  | loseToServer (k : ℕ)
  /-- A datagram to the client is lost. -/
  | loseToClient (k : ℕ)

/-- The datagrams among the client's actions, with their source. -/
def clientSent (addr : SockAddr) (actions : List ClientAction) : List (SockAddr × Bytes) :=
  actions.filterMap fun
    | .udpSend datagram => some (addr, datagram)
    | _ => none

/-- The datagrams among the server's actions, with their destination. -/
def serverSent (actions : List Action) : List (SockAddr × Bytes) :=
  actions.filterMap fun
    | .udpSend dest datagram => some (dest, datagram)
    | .tunWrite _ => none

/-- The client's main loop runs: it is connected and not inside `vpn_connect`. -/
def World.looping (w : World) : Bool := w.client.connected && w.pending.isNone

/-- What the client does with a datagram that has reached its socket. -/
def World.clientReceives (S : Sodium) (w : World) (datagram : Bytes) (env : ClientEnv) :
    World :=
  match w.pending with
  | some request =>
      { w with
        client := (recvConnectResp S env w.client (connectBuffer env request datagram)).1
        pending := none }
  | none => { w with client := (w.client.handleUdpToTun S env datagram).1 }

/-- The world after the server has acted. -/
def World.serverActs (w : World) (outcome : Server × List Action) : World :=
  { w with server := outcome.1, toClient := w.toClient ++ serverSent outcome.2 }

/-- The world after the client has acted. -/
def World.clientActs (w : World) (outcome : Client × List ClientAction) : World :=
  { w with client := outcome.1, toServer := w.toServer ++ clientSent w.addr outcome.2 }

/-- The world after an event. -/
def worldStep (S : Sodium) (config : ClientConfig) (w : World) : WorldEvent → World
  | .connect addr username env =>
      if w.client.connected || w.pending.isSome then w
      else
        { w with
          client := (sendConnectReq env w.client username).1
          addr := addr
          pending := some (sendConnectReq env w.client username).2
          toServer := w.toServer ++ [(addr, (sendConnectReq env w.client username).2)] }
  | .timeout => { w with pending := none }
  | .clientRecv k env =>
      match w.toClient[k]? with
      | none => w
      | some (dest, datagram) =>
          let w := { w with toClient := w.toClient.eraseIdx k }
          if dest = w.addr then w.clientReceives S datagram env else w
  | .keepalive env =>
      if w.looping then
        match checkKeepalive config env w.client with
        | (client, actions, true) => w.clientActs (client, actions)
        -- The main loop gives the connection up.
        | (client, _, false) => { w with client := { client with connected := false } }
      else w
  | .clientTun packet env =>
      if w.looping then w.clientActs (w.client.handleTunToUdp S env packet) else w
  | .destroy env secret =>
      { w.clientActs (initVpnClient S secret, destroyVpnClient env w.client) with
        pending := none }
  | .serverRecv k env =>
      match w.toServer[k]? with
      | none => w
      | some (src, datagram) =>
          { w with toServer := w.toServer.eraseIdx k }.serverActs
            (handleUdpToTun S env w.server src datagram)
  | .serverTun packet env => w.serverActs (handleTunToUdp S env w.server packet)
  | .sweep env =>
      { w with server :=
          { w.server with table := checkClientTimeouts w.server.table env.now } }
  | .restart secret => { w with server := initServer S secret }
  | .loseToServer k => { w with toServer := w.toServer.eraseIdx k }
  | .loseToClient k => { w with toClient := w.toClient.eraseIdx k }

/-- A client and a server that have just started. -/
def initWorld (S : Sodium) (serverSecret clientSecret : Key) (addr : SockAddr) : World where
  server := initServer S serverSecret
  client := initVpnClient S clientSecret
  addr := addr
  pending := none
  toServer := []
  toClient := []

end Vpn
