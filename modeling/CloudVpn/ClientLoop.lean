/-
# The main loop of the client

Model of the rest of `vpn_client.c`: the socket that `vpn_connect` opens, the set-up of the
TUN device, `attempt_reconnect` and `main`.  A turn of the loop takes from outside what its
system calls return (`ClientTurn`); a loop that has been left stays as it is.

The state keeps a record of the attempts to reconnect, with the seconds that
`attempt_reconnect` has slept before each.
-/
import CloudVpn.ConfigFile

open Memory Runs

namespace Vpn

/-! ## Connecting -/

/-- What the system calls of one `vpn_connect` return: whether `recreate_socket` and `sendto`
succeed, and the datagram that `recvfrom` gets, if one arrives in time. -/
structure ConnectTry where
  socket : Bool
  sent : Bool
  reply : Option Bytes
  env : ClientEnv

/-- `vpn_connect`, its socket included; the flag is set for the return value 0. -/
def connectOnce (S : Sodium) (username : Bytes) (client : Client) (t : ConnectTry) :
    Client × Bool :=
  if !t.socket then (client, false)
  else if !t.sent then ((sendConnectReq t.env client username).1, false)
  else vpnConnect S t.env client username t.reply

/-- The results of the three calls that set up a TUN device. -/
structure TunSetup where
  create : Bool
  configure : Bool
  bringUp : Bool

/-- The client with its TUN device: whether it is open, and the address that the last
successful `configure_tun_ip` has given it. -/
structure VpnClient where
  client : Client
  tunOpen : Bool
  tunIp : Option UInt32

/-- `setup_client_tun`; a device that is open is used as it is. -/
def setupClientTun (vpn : VpnClient) (t : TunSetup) : VpnClient × Bool :=
  if vpn.tunOpen then (vpn, true)
  else if !t.create then (vpn, false)
  else if !t.configure then (vpn, false)
  else
    let vpn := { vpn with tunIp := some vpn.client.vpnIp }
    if !t.bringUp then (vpn, false) else ({ vpn with tunOpen := true }, true)

/-- An attempt to reconnect: the seconds slept before it, and whether `vpn_connect` has
succeeded. -/
structure Attempt where
  wait : ℤ
  connected : Bool
  deriving DecidableEq

/-- `MAX_BACKOFF`. -/
def maxBackoff : ℤ := 60

/-- The backoff after an attempt. -/
def nextBackoff (backoff : ℤ) : ℤ :=
  if backoff * 2 > maxBackoff then maxBackoff else backoff * 2

/-- The name under which the client connects: `client->username`. -/
def clientUsername (config : VpnConfig) : Bytes := config.username.toList.take 63

/-- `attempt_reconnect`, with the attempt it makes, if it makes one; the flag is set for the
return value 0. -/
def attemptReconnect (S : Sodium) (config : VpnConfig) (t : ConnectTry) (setup : TunSetup)
    (vpn : VpnClient) : VpnClient × List Attempt × Bool :=
  if vpn.client.reconnectAttempts ≥ config.maxReconnectAttempts then (vpn, [], false)
  else
    let wait := vpn.client.backoffSeconds
    let client := { vpn.client with
      reconnectAttempts := vpn.client.reconnectAttempts + 1
      backoffSeconds := nextBackoff wait
      connected := false }
    match connectOnce S (clientUsername config) client t with
    | (client, false) => ({ vpn with client := client }, [⟨wait, false⟩], false)
    | (client, true) =>
        let (vpn, ok) := setupClientTun { vpn with client := client } setup
        (vpn, [⟨wait, true⟩], ok)

/-! ## The loop -/

/-- Why the loop is left. -/
inductive ExitReason where
  | signal
  | selectFailed
  | connectionLost
  deriving DecidableEq

/-- What `select` returns: an error, or the datagram and the packet that are ready.  With
neither it has timed out. -/
inductive Activity where
  | failed
  | ready (udp tun : Option Bytes)

/-- What one turn of the loop takes from outside. -/
structure ClientTurn where
  running : Bool
  connect : ConnectTry
  setup : TunSetup
  activity : Activity
  keepaliveEnv : ClientEnv
  udpEnv : ClientEnv
  tunEnv : ClientEnv

/-- The state of the loop: the client, the attempts to reconnect, the last one first, and why
the loop has been left, if it has. -/
structure ClientLoop where
  vpn : VpnClient
  attempts : List Attempt
  exit : Option ExitReason

/-- The first part of a turn: a connection that is lost is established again. -/
def reconnectPhase (S : Sodium) (config : VpnConfig) (t : ClientTurn) (s : ClientLoop) :
    ClientLoop :=
  if s.vpn.client.connected then s
  else if config.autoReconnect ≠ 0 then
    match attemptReconnect S config t.connect t.setup s.vpn with
    | (vpn, attempts, true) => ⟨vpn, attempts ++ s.attempts, none⟩
    | (vpn, attempts, false) => ⟨vpn, attempts ++ s.attempts, some .connectionLost⟩
  else { s with exit := some .connectionLost }

/-- The client after the two packet handlers, for what is ready. -/
def handleReady (S : Sodium) (t : ClientTurn) (udp tun : Option Bytes) (client : Client) :
    Client :=
  let client := match udp with
    | some datagram => (client.handleUdpToTun S t.udpEnv datagram).1
    | none => client
  match tun with
  | some packet => (client.handleTunToUdp S t.tunEnv packet).1
  | none => client

/-- The second part of a turn: `select`, the keepalive and the packet handlers. -/
def selectPhase (S : Sodium) (config : VpnConfig) (t : ClientTurn) (s : ClientLoop) :
    ClientLoop :=
  match t.activity with
  | .failed => { s with exit := some .selectFailed }
  | .ready udp tun =>
      match checkKeepalive config.clientConfig t.keepaliveEnv s.vpn.client with
      | (client, _, false) =>
          { s with vpn := { s.vpn with client := { client with connected := false } } }
      | (client, _, true) =>
          { s with vpn := { s.vpn with client := handleReady S t udp tun client } }

/-- One turn of the loop of `main`. -/
def clientLoopStep (S : Sodium) (config : VpnConfig) (s : ClientLoop) (t : ClientTurn) :
    ClientLoop :=
  if s.exit.isSome then s
  else if !t.running then { s with exit := some .signal }
  else
    let s := reconnectPhase S config t s
    if s.exit.isSome then s else selectPhase S config t s

/-- `main` up to its loop: the first connection and the TUN device. -/
def startClient (S : Sodium) (config : VpnConfig) (secret : Key) (t : ConnectTry)
    (setup : TunSetup) : Option ClientLoop :=
  match connectOnce S (clientUsername config) (initVpnClient S secret) t with
  | (_, false) => none
  | (client, true) =>
      match setupClientTun ⟨client, false, none⟩ setup with
      | (_, false) => none
      | (vpn, true) => some ⟨vpn, [], none⟩

/-! ## What the parts of a turn do -/

variable {S : Sodium} {config : VpnConfig}

/-- The packet buffer of `vpn_connect` after `recvfrom`. -/
def answerBuffer (username : Bytes) (client : Client) (t : ConnectTry) : Bytes :=
  connectBuffer t.env (sendConnectReq t.env client username).2 (t.reply.getD [])

/-- The address field of the answer. -/
def answerIp (username : Bytes) (client : Client) (t : ConnectTry) : UInt32 :=
  u32At (answerBuffer username client t) 17

/-- `vpn_connect` gets an answer that it accepts: its calls succeed, and the buffer holds a
CONNECT_RESP with status 0 and a public key with which the key exchange succeeds. -/
structure AcceptsAnswer (S : Sodium) (username : Bytes) (client : Client) (t : ConnectTry) :
    Prop where
  socket : t.socket = true
  sent : t.sent = true
  reply : t.reply.isSome = true
  type : byteAt (answerBuffer username client t) 0 = PacketType.connectResp.toByte
  status : byteAt (answerBuffer username client t) 16 = 0
  key : (cryptoEcdh S client.clientPrivateKey
    (bytesAt 32 (answerBuffer username client t) 25)).isSome = true

/-- A response that is accepted connects the client, gives it the address in the response and
resets its counters. -/
theorem recvConnectResp_accepted (env : ClientEnv) (client : Client) {buffer : Bytes}
    (htype : byteAt buffer 0 = PacketType.connectResp.toByte) (hstatus : byteAt buffer 16 = 0)
    (hkey : (cryptoEcdh S client.clientPrivateKey (bytesAt 32 buffer 25)).isSome = true) :
    ∃ client', recvConnectResp S env client buffer = (client', true) ∧
      client'.connected = true ∧ client'.reconnectAttempts = 0 ∧ client'.backoffSeconds = 1 ∧
      client'.vpnIp = u32At buffer 17 := by
  obtain ⟨sharedSecret, hsecret⟩ := Option.isSome_iff_exists.mp hkey
  unfold recvConnectResp
  rw [if_neg (not_not.mpr htype), if_neg (not_not.mpr hstatus)]
  dsimp only
  rw [hsecret]
  exact ⟨_, rfl, rfl, rfl, rfl, rfl⟩

/-- A response that is not accepted leaves the counters alone, also when it fails at the key
exchange. -/
theorem recvConnectResp_rejected (env : ClientEnv) (client : Client) {buffer : Bytes}
    (h : ¬ (byteAt buffer 0 = PacketType.connectResp.toByte ∧ byteAt buffer 16 = 0 ∧
      (cryptoEcdh S client.clientPrivateKey (bytesAt 32 buffer 25)).isSome = true)) :
    ∃ client', recvConnectResp S env client buffer = (client', false) ∧
      client'.reconnectAttempts = client.reconnectAttempts ∧
      client'.backoffSeconds = client.backoffSeconds := by
  unfold recvConnectResp
  by_cases htype : byteAt buffer 0 = PacketType.connectResp.toByte
  · by_cases hstatus : byteAt buffer 16 = 0
    · rw [if_neg (not_not.mpr htype), if_neg (not_not.mpr hstatus)]
      dsimp only
      cases hsecret : cryptoEcdh S client.clientPrivateKey (bytesAt 32 buffer 25) with
      | none => exact ⟨_, rfl, rfl, rfl⟩
      | some sharedSecret => exact absurd ⟨htype, hstatus, by rw [hsecret]; rfl⟩ h
    · rw [if_neg (not_not.mpr htype), if_pos hstatus]
      exact ⟨_, rfl, rfl, rfl⟩
  · rw [if_pos htype]
    exact ⟨_, rfl, rfl, rfl⟩

/-- `vpn_connect` with an answer that is accepted. -/
theorem AcceptsAnswer.connectOnce {username : Bytes} {client : Client} {t : ConnectTry}
    (h : AcceptsAnswer S username client t) :
    ∃ client', connectOnce S username client t = (client', true) ∧
      client'.connected = true ∧ client'.reconnectAttempts = 0 ∧ client'.backoffSeconds = 1 ∧
      client'.vpnIp = answerIp username client t := by
  obtain ⟨datagram, hdatagram⟩ := Option.isSome_iff_exists.mp h.reply
  have haccepted := recvConnectResp_accepted (S := S) t.env
    (sendConnectReq t.env client username).1 h.type h.status h.key
  unfold Vpn.connectOnce vpnConnect
  rw [h.socket, h.sent, hdatagram]
  unfold answerIp
  unfold answerBuffer at haccepted ⊢
  rw [hdatagram] at haccepted ⊢
  exact haccepted

/-- Without such an answer it fails and leaves the counters alone. -/
theorem connectOnce_rejected {username : Bytes} {client : Client} {t : ConnectTry}
    (h : ¬ AcceptsAnswer S username client t) :
    ∃ client', connectOnce S username client t = (client', false) ∧
      client'.reconnectAttempts = client.reconnectAttempts ∧
      client'.backoffSeconds = client.backoffSeconds := by
  unfold connectOnce vpnConnect
  cases hsocket : t.socket with
  | false => exact ⟨_, rfl, rfl, rfl⟩
  | true =>
      cases hsent : t.sent with
      | false => exact ⟨_, rfl, rfl, rfl⟩
      | true =>
          cases hreply : t.reply with
          | none => exact ⟨_, rfl, rfl, rfl⟩
          | some datagram =>
              have hbuffer : answerBuffer username client t = connectBuffer t.env
                  (sendConnectReq t.env client username).2 datagram := by
                unfold answerBuffer
                rw [hreply]
                rfl
              refine recvConnectResp_rejected t.env (sendConnectReq t.env client username).1
                fun hall => h ⟨hsocket, hsent, by rw [hreply]; rfl, ?_, ?_, ?_⟩
              · rw [hbuffer]
                exact hall.1
              · rw [hbuffer]
                exact hall.2.1
              · rw [hbuffer]
                exact hall.2.2

/-- `vpn_connect` returns 0 exactly with an answer that is accepted. -/
theorem acceptsAnswer_of_connectOnce {username : Bytes} {client client' : Client}
    {t : ConnectTry} (h : connectOnce S username client t = (client', true)) :
    AcceptsAnswer S username client t := by
  by_contra hnot
  obtain ⟨_, hfalse, -⟩ := connectOnce_rejected hnot
  exact absurd (congrArg Prod.snd (h.symm.trans hfalse)) (by simp)

theorem connectOnce_true {username : Bytes} {client client' : Client} {t : ConnectTry}
    (h : connectOnce S username client t = (client', true)) :
    client'.connected = true ∧ client'.reconnectAttempts = 0 ∧ client'.backoffSeconds = 1 ∧
      client'.vpnIp = answerIp username client t := by
  obtain ⟨_, hconnect, hfields⟩ := (acceptsAnswer_of_connectOnce h).connectOnce
  rw [(Prod.mk.inj (h.symm.trans hconnect)).1]
  exact hfields

/-- Setting up the device does nothing to the rest of the client. -/
@[simp] theorem client_setupClientTun (vpn : VpnClient) (t : TunSetup) :
    (setupClientTun vpn t).1.client = vpn.client := by
  unfold setupClientTun
  dsimp only
  split_ifs <;> rfl

/-- A device that is open is not set up again. -/
theorem setupClientTun_open {vpn : VpnClient} (h : vpn.tunOpen = true) (client : Client)
    (t : TunSetup) :
    setupClientTun { vpn with client := client } t = ({ vpn with client := client }, true) := by
  unfold setupClientTun
  rw [if_pos h]

/-- The client as `attempt_reconnect` has it when it calls `vpn_connect`. -/
def reconnecting (client : Client) : Client :=
  { client with
    reconnectAttempts := client.reconnectAttempts + 1
    backoffSeconds := nextBackoff client.backoffSeconds
    connected := false }

/-- Its request and its private key are those of the client before the call. -/
theorem acceptsAnswer_reconnecting {username : Bytes} {client : Client} {t : ConnectTry} :
    AcceptsAnswer S username (reconnecting client) t ↔ AcceptsAnswer S username client t :=
  ⟨fun h => ⟨h.socket, h.sent, h.reply, h.type, h.status, h.key⟩,
    fun h => ⟨h.socket, h.sent, h.reply, h.type, h.status, h.key⟩⟩

/-- What can come of `attempt_reconnect`: it refuses for lack of attempts, `vpn_connect` gets no
answer that it accepts, or it gets one and the device is set up. -/
inductive ReconnectOutcome (S : Sodium) (config : VpnConfig) (t : ConnectTry) (setup : TunSetup)
    (vpn : VpnClient) : VpnClient × List Attempt × Bool → Prop
  | refused (hused : config.maxReconnectAttempts ≤ vpn.client.reconnectAttempts) :
      ReconnectOutcome S config t setup vpn (vpn, [], false)
  | failed {client : Client}
      (hleft : vpn.client.reconnectAttempts < config.maxReconnectAttempts)
      (hanswer : ¬ AcceptsAnswer S (clientUsername config) vpn.client t)
      (hattempts : client.reconnectAttempts = vpn.client.reconnectAttempts + 1)
      (hbackoff : client.backoffSeconds = nextBackoff vpn.client.backoffSeconds) :
      ReconnectOutcome S config t setup vpn
        ({ vpn with client := client }, [⟨vpn.client.backoffSeconds, false⟩], false)
  | connected {client : Client}
      (hleft : vpn.client.reconnectAttempts < config.maxReconnectAttempts)
      (hanswer : AcceptsAnswer S (clientUsername config) vpn.client t)
      (hconnected : client.connected = true) (hattempts : client.reconnectAttempts = 0)
      (hbackoff : client.backoffSeconds = 1)
      (hip : client.vpnIp = answerIp (clientUsername config) vpn.client t) :
      ReconnectOutcome S config t setup vpn
        ((setupClientTun { vpn with client := client } setup).1,
          [⟨vpn.client.backoffSeconds, true⟩],
          (setupClientTun { vpn with client := client } setup).2)

/-- **Every `attempt_reconnect` has one of the outcomes.** -/
theorem attemptReconnect_outcome (S : Sodium) (config : VpnConfig) (t : ConnectTry)
    (setup : TunSetup) (vpn : VpnClient) :
    ReconnectOutcome S config t setup vpn (attemptReconnect S config t setup vpn) := by
  unfold attemptReconnect
  by_cases hused : vpn.client.reconnectAttempts ≥ config.maxReconnectAttempts
  · rw [if_pos hused]
    exact .refused hused
  · have hleft := not_le.mp hused
    rw [if_neg hused]
    dsimp only
    by_cases hanswer : AcceptsAnswer S (clientUsername config) vpn.client t
    · obtain ⟨client, hconnect, hconnected, hattempts, hbackoff, hip⟩ :=
        (acceptsAnswer_reconnecting.mpr hanswer).connectOnce
      unfold reconnecting at hconnect
      rw [hconnect]
      exact .connected hleft hanswer hconnected hattempts hbackoff hip
    · obtain ⟨client, hconnect, hattempts, hbackoff⟩ :=
        connectOnce_rejected (mt acceptsAnswer_reconnecting.mp hanswer)
      unfold reconnecting at hconnect
      rw [hconnect]
      exact .failed hleft hanswer hattempts hbackoff

/-- It makes no attempt exactly when the limit is reached. -/
theorem attemptReconnect_attempts_eq_nil {t : ConnectTry} {setup : TunSetup} {vpn : VpnClient} :
    (attemptReconnect S config t setup vpn).2.1 = [] ↔
      config.maxReconnectAttempts ≤ vpn.client.reconnectAttempts := by
  have hout := attemptReconnect_outcome S config t setup vpn
  generalize attemptReconnect S config t setup vpn = r at hout
  cases hout with
  | refused hused => exact ⟨fun _ => hused, fun _ => rfl⟩
  | failed hleft _ _ _ =>
      exact ⟨fun h => absurd h (List.cons_ne_nil _ _), fun h => absurd h (not_le.mpr hleft)⟩
  | connected hleft _ _ _ _ _ =>
      exact ⟨fun h => absurd h (List.cons_ne_nil _ _), fun h => absurd h (not_le.mpr hleft)⟩

theorem attemptReconnect_refused {vpn : VpnClient}
    (h : config.maxReconnectAttempts ≤ vpn.client.reconnectAttempts) (t : ConnectTry)
    (setup : TunSetup) : attemptReconnect S config t setup vpn = (vpn, [], false) := by
  unfold attemptReconnect
  rw [if_pos h]

/-- A client that has been started: it is connected, and its TUN device is open under its
address. -/
theorem startClient_eq_some {secret : Key} {t : ConnectTry} {setup : TunSetup}
    {s : ClientLoop} (h : startClient S config secret t setup = some s) :
    ∃ client, connectOnce S (clientUsername config) (initVpnClient S secret) t
        = (client, true) ∧
      s = ⟨⟨client, true, some client.vpnIp⟩, [], none⟩ := by
  obtain ⟨create, configure, bringUp⟩ := setup
  unfold startClient at h
  split at h
  · exact absurd h (by simp)
  · next client hconnect =>
      refine ⟨client, hconnect, ?_⟩
      -- Each of the three calls has to succeed.
      cases create with
      | false => exact absurd h (by simp [setupClientTun])
      | true =>
          cases configure with
          | false => exact absurd h (by simp [setupClientTun])
          | true =>
              cases bringUp with
              | false => exact absurd h (by simp [setupClientTun])
              | true => exact (Option.some.inj h).symm

/-- A loop that has been left stays as it is. -/
theorem clientLoopStep_left {s : ClientLoop} {reason : ExitReason} (h : s.exit = some reason)
    (t : ClientTurn) : clientLoopStep S config s t = s := by
  unfold clientLoopStep
  rw [h]
  rfl

/-- A turn after a signal. -/
theorem clientLoopStep_signal {s : ClientLoop} {t : ClientTurn} (h : s.exit = none)
    (hrun : t.running = false) :
    clientLoopStep S config s t = { s with exit := some .signal } := by
  unfold clientLoopStep
  rw [h, hrun]
  rfl

/-- The two parts of a turn; a failed attempt leaves the loop between them. -/
theorem clientLoopStep_running {s : ClientLoop} {t : ClientTurn} (h : s.exit = none)
    (hrun : t.running = true) :
    clientLoopStep S config s t =
      if (reconnectPhase S config t s).exit.isSome then reconnectPhase S config t s
      else selectPhase S config t (reconnectPhase S config t s) := by
  unfold clientLoopStep
  rw [h, hrun]
  rfl

/-- A connected client goes to its `select` at once. -/
theorem reconnectPhase_connected {s : ClientLoop} (h : s.vpn.client.connected = true)
    (t : ClientTurn) : reconnectPhase S config t s = s := by
  unfold reconnectPhase
  rw [if_pos h]

/-- The packet handlers leave the link alone. -/
theorem handleReady_sameLink (S : Sodium) (t : ClientTurn) (udp tun : Option Bytes) (client : Client) :
    client.SameLink (handleReady S t udp tun client) := by
  unfold handleReady
  cases udp with
  | none =>
      cases tun with
      | none => exact ⟨rfl, rfl, rfl, rfl⟩
      | some packet => exact Client.handleTunToUdp_sameLink S _ _ packet
  | some datagram =>
      have hudp := Client.handleUdpToTun_sameLink S t.udpEnv client datagram
      cases tun with
      | none => exact hudp
      | some packet => exact hudp.trans (Client.handleTunToUdp_sameLink S _ _ packet)

/-- What the second part of a turn can do: leave the loop, give the connection up, or handle
packets. -/
theorem selectPhase_outcome (S : Sodium) (config : VpnConfig) (t : ClientTurn) (s : ClientLoop) :
    selectPhase S config t s = { s with exit := some .selectFailed } ∨
      ∃ client, selectPhase S config t s = { s with vpn := { s.vpn with client := client } } ∧
        client.vpnIp = s.vpn.client.vpnIp ∧
        client.reconnectAttempts = s.vpn.client.reconnectAttempts ∧
        client.backoffSeconds = s.vpn.client.backoffSeconds ∧
        (client.connected = true → s.vpn.client.connected = true) := by
  unfold selectPhase
  cases t.activity with
  | failed => exact Or.inl rfl
  | ready udp tun =>
      have hlink := checkKeepalive_sameLink config.clientConfig t.keepaliveEnv s.vpn.client
      right
      dsimp only
      split
      · next client _ heq =>
          rw [heq] at hlink
          exact ⟨_, rfl, hlink.vpnIp, hlink.reconnectAttempts, hlink.backoffSeconds,
            fun h => absurd h Bool.false_ne_true⟩
      · next client _ heq =>
          rw [heq] at hlink
          have hready := hlink.trans (handleReady_sameLink S t udp tun client)
          exact ⟨_, rfl, hready.vpnIp, hready.reconnectAttempts, hready.backoffSeconds,
            fun h => hready.connected.symm.trans h⟩

/-! ## Samples -/

/-- The default configuration with a limit on the attempts. -/
def sampleConfig (attempts : ℤ) : VpnConfig :=
  { VpnConfig.createDefault zeroConfig with maxReconnectAttempts := attempts }

/-- What the client takes from outside in the samples. -/
def clientEnvAt (now : ℤ) : ClientEnv := ⟨now, 0, Vector.replicate 12 0, []⟩

/-- The response that assigns an address. -/
def sampleReply (vpnIp : UInt32) : Bytes :=
  connectResponse (initVpnHeader .connectResp 41 1 0) 0 vpnIp 0 (Vector.replicate 32 1)

/-- A connection at the given time with the given answer. -/
def sampleTry (reply : Option Bytes) (now : ℤ) : ConnectTry :=
  ⟨true, true, reply, clientEnvAt now⟩

/-- A turn without traffic at the given time, with the answer to a connection that it may
make. -/
def sampleTurn (reply : Option Bytes) (now : ℤ) : ClientTurn where
  running := true
  connect := sampleTry reply now
  setup := ⟨true, true, true⟩
  activity := .ready none none
  keepaliveEnv := clientEnvAt now
  udpEnv := clientEnvAt now
  tunEnv := clientEnvAt now

/-- A client that is started at time 0 and connects with the given answer. -/
def sampleStart (config : VpnConfig) (reply : Bytes) : Option ClientLoop :=
  startClient sampleSodium config (Vector.replicate 32 0) (sampleTry (some reply) 0)
    ⟨true, true, true⟩

/-- The loop of that client. -/
def sampleLoop (config : VpnConfig) (reply : Bytes) : ClientLoop :=
  (sampleStart config reply).getD
    ⟨⟨initVpnClient sampleSodium (Vector.replicate 32 0), false, none⟩, [], none⟩

/-- The address 10.8.0.2. -/
def firstIp : UInt32 := htonl 0x0a080002

end Vpn
