/-
# The client

Model of `vpn_client.c`: the CONNECT exchange, the two packet handlers and the keepalive.
`vpn_connect` is cut at the point where it waits for the server: `sendConnectReq` is what
it does before, `recvConnectResp` what it does with the datagram it receives.

The clock, the nonce and the old contents of the packet buffer are in `ClientEnv`.
-/
import CloudVpn.Protocol

open Memory

namespace Vpn

/-! ## State -/

/-- The options of `vpn_config_t` that the keepalive reads. -/
structure ClientConfig where
  keepaliveInterval : ℤ
  pongTimeout : ℤ

/-- The values of these options in `config_create_default`. -/
def configCreateDefault : ClientConfig := ⟨30, 60⟩

/-- The fields of `vpn_client_t` that the protocol works on, and the client process's
`global_sequence`. -/
structure Client where
  clientPrivateKey : Key
  clientPublicKey : Key
  serverPublicKey : Key
  sessionKey : Key
  vpnIp : UInt32
  sessionId : UInt32
  connected : Bool
  lastPingSent : ℤ
  lastPongReceived : ℤ
  reconnectAttempts : ℤ
  backoffSeconds : ℤ
  globalSequence : UInt32

/-- `init_vpn_client`, from the secret key that is drawn: all bytes zero, then the initial
backoff and the key pair. -/
def initVpnClient (S : Sodium) (secret : Key) : Client where
  clientPrivateKey := (cryptoGenerateKeypair S secret).2
  clientPublicKey := (cryptoGenerateKeypair S secret).1
  serverPublicKey := Vector.replicate 32 0
  sessionKey := Vector.replicate 32 0
  vpnIp := 0
  sessionId := 0
  connected := false
  lastPingSent := 0
  lastPongReceived := 0
  reconnectAttempts := 0
  backoffSeconds := 1
  globalSequence := 0

/-- What the client takes from outside. -/
structure ClientEnv where
  now : ℤ
  timestampMs : UInt64
  nonce : Nonce
  buffer : Bytes

/-- What the client does to the outside. -/
inductive ClientAction where
  | udpSend (datagram : Bytes)
  | tunWrite (packet : Bytes)
  /-- The AEAD is handed a length that reaches past the end of the packet buffer. -/
  | overread
  deriving DecidableEq

/-! ## Connecting -/

/-- The field `username` after `strncpy(req->username, username, 31)`: the name up to its
end, zeros, and in the last byte what the buffer held. -/
def usernameField (username : Bytes) (last : UInt8) : Vector UInt8 32 :=
  Vector.ofFn fun i : Fin 32 =>
    if i < 31 then (username.takeWhile (· ≠ 0)).getD i 0 else last

/-- `vpn_connect` up to its `sendto`: the client and the CONNECT_REQ. -/
def sendConnectReq (env : ClientEnv) (client : Client) (username : Bytes) :
    Client × Bytes :=
  let seq := client.globalSequence + 1
  ({ client with globalSequence := seq },
    connectRequest (initVpnHeader .connectReq 64 seq env.timestampMs)
      (usernameField username (byteAt env.buffer 47)) client.clientPublicKey)

/-- `vpn_connect` from its `recvfrom` on, with the buffer that holds the response; the
flag is set for the return value 0. -/
def recvConnectResp (S : Sodium) (env : ClientEnv) (client : Client) (buffer : Bytes) :
    Client × Bool :=
  if byteAt buffer 0 ≠ PacketType.connectResp.toByte then (client, false)
  else if byteAt buffer 16 ≠ 0 then (client, false)
  else
    -- These fields stay overwritten when the key exchange below fails.
    let client := { client with
      vpnIp := u32At buffer 17
      sessionId := ntohl (u32At buffer 21)
      serverPublicKey := bytesAt 32 buffer 25 }
    match cryptoEcdh S client.clientPrivateKey client.serverPublicKey with
    | none => (client, false)
    | some sharedSecret =>
        ({ client with
            sessionKey := S.kdfDeriveFromKey 1 sessionContext sharedSecret
            connected := true
            reconnectAttempts := 0
            backoffSeconds := 1
            lastPongReceived := env.now
            lastPingSent := env.now }, true)

/-- The packet buffer of `vpn_connect` after a datagram has been received into it: the
request was built in the same buffer. -/
def connectBuffer (env : ClientEnv) (request reply : Bytes) : Bytes :=
  recvInto (request ++ env.buffer.drop request.length) reply

/-- `vpn_connect`, with the datagram that arrives in answer, if one does. -/
def vpnConnect (S : Sodium) (env : ClientEnv) (client : Client) (username : Bytes)
    (reply : Option Bytes) : Client × Bool :=
  let (client, request) := sendConnectReq env client username
  match reply with
  | none => (client, false)
  | some datagram => recvConnectResp S env client (connectBuffer env request datagram)

/-! ## Packets -/

/-- `encrypted_len`, computed from the length of a datagram in 64-bit unsigned
arithmetic. -/
def encryptedLen (n : ℕ) : ℕ := (n - vpnHeaderSize + 2 ^ 64 - cryptoNonceSize) % 2 ^ 64

/-- `PKT_DATA` in the client's `handle_udp_to_tun`. -/
def Client.handleData (S : Sodium) (client : Client) (buffer : Bytes) (n : ℕ) :
    List ClientAction :=
  let nonce := bytesAt 12 buffer 16
  if 28 + encryptedLen n > bufferSize then [.overread]
  else
    match cryptoDecrypt S ((buffer.drop 28).take (encryptedLen n)) client.sessionKey nonce with
    | none => []
    | some plaintext => [.tunWrite plaintext]

/-- `handle_udp_to_tun` of the client. -/
def Client.handleUdpToTun (S : Sodium) (env : ClientEnv) (client : Client)
    (datagram : Bytes) : Client × List ClientAction :=
  let buffer := recvInto env.buffer datagram
  let n := recvLen datagram
  if n < vpnHeaderSize then (client, [])
  else
    match PacketType.ofByte (byteAt buffer 0) with
    -- Any PONG counts, whatever PING it answers.
    | some .pong => ({ client with lastPongReceived := env.now }, [])
    | some .data => (client, client.handleData S buffer n)
    | _ => (client, [])

/-- `handle_tun_to_udp` of the client. -/
def Client.handleTunToUdp (S : Sodium) (env : ClientEnv) (client : Client)
    (packet : Bytes) : Client × List ClientAction :=
  let buffer := packet.take bufferSize
  match cryptoEncrypt S buffer client.sessionKey env.nonce with
  | none => (client, [])
  | some ciphertext =>
      let ciphertextLen := cryptoNonceSize + buffer.length + cryptoMacSize
      let seq := client.globalSequence + 1
      ({ client with globalSequence := seq },
        [.udpSend (initVpnHeader .data (UInt16.ofNat ciphertextLen) seq env.timestampMs ++
          (env.nonce.toList ++ ciphertext).take ciphertextLen)])

/-! ## Keepalive -/

/-- `send_ping`. -/
def sendPing (env : ClientEnv) (client : Client) : Client × List ClientAction :=
  let seq := client.globalSequence + 1
  ({ client with globalSequence := seq, lastPingSent := env.now },
    [.udpSend (initVpnHeader .ping 0 seq env.timestampMs)])

/-- `check_keepalive`; the flag is set for the return value 0. -/
def checkKeepalive (config : ClientConfig) (env : ClientEnv) (client : Client) :
    Client × List ClientAction × Bool :=
  if env.now - client.lastPongReceived > config.pongTimeout then (client, [], false)
  else if env.now - client.lastPingSent ≥ config.keepaliveInterval then
    ((sendPing env client).1, (sendPing env client).2, true)
  else (client, [], true)

/-- `destroy_vpn_client`: a connected client sends a DISCONNECT. -/
def destroyVpnClient (env : ClientEnv) (client : Client) : List ClientAction :=
  if client.connected then
    [.udpSend (initVpnHeader .disconnect 0 (client.globalSequence + 1) env.timestampMs)]
  else []

/-! ## What the handlers leave alone -/

/-- The fields that only `vpn_connect`, `attempt_reconnect` and the main loop write. -/
structure Client.SameLink (client client' : Client) : Prop where
  connected : client'.connected = client.connected
  vpnIp : client'.vpnIp = client.vpnIp
  reconnectAttempts : client'.reconnectAttempts = client.reconnectAttempts
  backoffSeconds : client'.backoffSeconds = client.backoffSeconds

theorem Client.SameLink.trans {c₁ c₂ c₃ : Client} (h : c₁.SameLink c₂) (h' : c₂.SameLink c₃) :
    c₁.SameLink c₃ :=
  ⟨h'.connected.trans h.connected, h'.vpnIp.trans h.vpnIp,
    h'.reconnectAttempts.trans h.reconnectAttempts,
    h'.backoffSeconds.trans h.backoffSeconds⟩

theorem Client.handleUdpToTun_sameLink (S : Sodium) (env : ClientEnv) (client : Client)
    (datagram : Bytes) : client.SameLink (client.handleUdpToTun S env datagram).1 := by
  unfold Client.handleUdpToTun
  dsimp only
  split_ifs
  · exact ⟨rfl, rfl, rfl, rfl⟩
  · split <;> exact ⟨rfl, rfl, rfl, rfl⟩

theorem Client.handleTunToUdp_sameLink (S : Sodium) (env : ClientEnv) (client : Client)
    (packet : Bytes) : client.SameLink (client.handleTunToUdp S env packet).1 := by
  unfold Client.handleTunToUdp
  dsimp only
  split <;> exact ⟨rfl, rfl, rfl, rfl⟩

theorem checkKeepalive_sameLink (config : ClientConfig) (env : ClientEnv) (client : Client) :
    client.SameLink (checkKeepalive config env client).1 := by
  unfold checkKeepalive sendPing
  split_ifs <;> exact ⟨rfl, rfl, rfl, rfl⟩

end Vpn
