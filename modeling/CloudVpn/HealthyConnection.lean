/-
# A healthy connection is not given up

The client gives its connection up when `check_keepalive` finds the last PONG too old.  Here the
readings of the clock that a turn takes are kept apart: the one of `check_keepalive`, the one of
`send_ping` and the one with which a PONG is noted; so is whether the `sendto` of `send_ping`
succeeds (`TimedTurn`).  With equal readings and a PING that is sent, a turn is a turn of the
main loop (`timedLoopStep_eq`).

A run is watched by an observer that remembers the reading of the last check, the last reading
of all, and whether a PING waits for its PONG.  `Punctual` is what holds between the turns: as
long as no PING waits, the last PONG is at most as old as the last PING, up to the time between
the two readings that `vpn_connect` takes; and a PING is sent as soon as it is due.
-/
import CloudVpn.ClientLoop

open Memory Runs

namespace Vpn

/-! ## Turns with separate readings of the clock -/

/-- A turn of the loop, with the result of the `sendto` in `send_ping` and the reading of the
clock behind it. -/
structure TimedTurn extends ClientTurn where
  pingSent : Bool
  pingTime : ℤ

/-- `send_ping`. -/
def sendPingAt (t : TimedTurn) (client : Client) : Client × List ClientAction :=
  let seq := client.globalSequence + 1
  if t.pingSent then
    ({ client with globalSequence := seq, lastPingSent := t.pingTime },
      [.udpSend (initVpnHeader .ping 0 seq t.keepaliveEnv.timestampMs)])
  else ({ client with globalSequence := seq }, [])

/-- `check_keepalive`; the flag is set for the return value 0. -/
def checkKeepaliveAt (config : ClientConfig) (t : TimedTurn) (client : Client) :
    Client × List ClientAction × Bool :=
  if t.keepaliveEnv.now - client.lastPongReceived > config.pongTimeout then (client, [], false)
  else if t.keepaliveEnv.now - client.lastPingSent ≥ config.keepaliveInterval then
    ((sendPingAt t client).1, (sendPingAt t client).2, true)
  else (client, [], true)

section
variable (S : Sodium) (config : VpnConfig)

/-- The second part of a turn: `select`, the keepalive and the packet handlers. -/
def selectPhaseAt (t : TimedTurn) (s : ClientLoop) : ClientLoop :=
  match t.activity with
  | .failed => { s with exit := some .selectFailed }
  | .ready udp tun =>
      match checkKeepaliveAt config.clientConfig t s.vpn.client with
      | (client, _, false) =>
          { s with vpn := { s.vpn with client := { client with connected := false } } }
      | (client, _, true) =>
          { s with vpn := { s.vpn with client := handleReady S t.toClientTurn udp tun client } }

/-- One turn of the loop of `main`. -/
def timedLoopStep (s : ClientLoop) (t : TimedTurn) : ClientLoop :=
  if s.exit.isSome then s
  else if !t.running then { s with exit := some .signal }
  else
    let s := reconnectPhase S config t.toClientTurn s
    if s.exit.isSome then s else selectPhaseAt S config t s

/-- With one reading of the clock for the keepalive, this is the turn of the main loop. -/
theorem timedLoopStep_eq (s : ClientLoop) (t : ClientTurn) :
    timedLoopStep S config s ⟨t, true, t.keepaliveEnv.now⟩ = clientLoopStep S config s t := rfl

/-- What `check_keepalive` returns in a turn, with the client and what is sent, if the turn
comes to it. -/
def keepaliveResult (s : ClientLoop) (t : TimedTurn) :
    Option (Client × List ClientAction × Bool) :=
  if s.exit.isSome || !t.running then none
  else
    let s := reconnectPhase S config t.toClientTurn s
    match s.exit, t.activity with
    | none, .ready _ _ => some (checkKeepaliveAt config.clientConfig t s.vpn.client)
    | _, _ => none

/-- The return value of `check_keepalive` in a turn, if it is called. -/
def keepaliveReturns (s : ClientLoop) (t : TimedTurn) : Option Bool :=
  (keepaliveResult S config s t).map fun result => result.2.2

/-- The turn sends a PING. -/
def sendsPing (s : ClientLoop) (t : TimedTurn) : Bool :=
  (keepaliveResult S config s t).any fun result => !result.2.1.isEmpty

end

/-- The datagram is a PONG to `handle_udp_to_tun`. -/
def isPong (env : ClientEnv) (datagram : Bytes) : Bool :=
  vpnHeaderSize ≤ recvLen datagram &&
    PacketType.ofByte (byteAt (recvInto env.buffer datagram) 0) = some .pong

/-- A PONG is ready in the turn. -/
def ClientTurn.bringsPong (t : ClientTurn) : Bool :=
  match t.activity with
  | .ready (some datagram) _ => isPong t.udpEnv datagram
  | _ => false

/-! ## Watching a run -/

/-- The loop with what an observer remembers: the reading of the last check, the last reading,
and whether a PING has been sent and no PONG processed since. -/
structure Watch where
  loop : ClientLoop
  lastCheck : ℤ
  clock : ℤ
  pending : Bool

section
variable (S : Sodium) (config : VpnConfig)

/-- A turn of the loop that is watched. -/
def watchStep (w : Watch) (t : TimedTurn) : Watch where
  loop := timedLoopStep S config w.loop t
  lastCheck := t.keepaliveEnv.now
  clock := t.udpEnv.now
  pending := !(keepaliveReturns S config w.loop t = some true && t.bringsPong) &&
    (sendsPing S config w.loop t || w.pending)

/-- The readings of the clock do not decrease, and the check comes at most a second after the
last one. -/
def Clocked (w : Watch) (t : TimedTurn) : Prop :=
  w.clock ≤ t.keepaliveEnv.now ∧ t.keepaliveEnv.now ≤ w.lastCheck + 1 ∧
    t.keepaliveEnv.now ≤ t.pingTime ∧ t.pingTime ≤ t.udpEnv.now

/-- A turn in which the clock behaves, a PING is sent if one is due, and a PONG is ready if a
PING waits for one. -/
def PongReady (w : Watch) (t : TimedTurn) : Prop :=
  (keepaliveReturns S config w.loop t).isSome = true →
    Clocked w t ∧ t.pingSent = true ∧ (w.pending = true → t.bringsPong = true)

/-- The same with a PONG that is also processed: the turn gets past the check. -/
def PongProcessed (w : Watch) (t : TimedTurn) : Prop :=
  PongReady S config w t ∧
    ((keepaliveReturns S config w.loop t).isSome = true → w.pending = true →
      keepaliveReturns S config w.loop t = some true)

instance (w : Watch) (t : TimedTurn) : Decidable (Clocked w t) := by
  unfold Clocked
  infer_instance

instance (w : Watch) (t : TimedTurn) : Decidable (PongReady S config w t) := by
  unfold PongReady
  infer_instance

instance (w : Watch) (t : TimedTurn) : Decidable (PongProcessed S config w t) := by
  unfold PongProcessed
  infer_instance

/-- `check_keepalive` does not return -1. -/
def KeepalivePasses (w : Watch) (t : TimedTurn) : Prop :=
  keepaliveReturns S config w.loop t ≠ some false

end

/-! ## What a turn does -/

section
variable {S : Sodium} {config : VpnConfig} {s : ClientLoop} {t : TimedTurn} {client : Client}

theorem checkKeepaliveAt_passes_iff {config : ClientConfig} :
    (checkKeepaliveAt config t client).2.2 = true ↔
      t.keepaliveEnv.now - client.lastPongReceived ≤ config.pongTimeout := by
  unfold checkKeepaliveAt
  split_ifs with hlost
  · simp
    omega
  · simp
    omega
  · simp
    omega

/-- What a check that passes does: it sends a PING if one is due. -/
theorem checkKeepaliveAt_client {config : ClientConfig}
    (hpass : (checkKeepaliveAt config t client).2.2 = true) (hsent : t.pingSent = true) :
    (checkKeepaliveAt config t client).1.connected = client.connected ∧
    (checkKeepaliveAt config t client).1.lastPongReceived = client.lastPongReceived ∧
    ((checkKeepaliveAt config t client).2.1.isEmpty = false ∧
        t.keepaliveEnv.now - client.lastPingSent ≥ config.keepaliveInterval ∧
        (checkKeepaliveAt config t client).1.lastPingSent = t.pingTime ∨
      (checkKeepaliveAt config t client).2.1.isEmpty = true ∧
        t.keepaliveEnv.now - client.lastPingSent < config.keepaliveInterval ∧
        (checkKeepaliveAt config t client).1.lastPingSent = client.lastPingSent) := by
  unfold checkKeepaliveAt at hpass ⊢
  split_ifs at hpass ⊢ with hlost hdue
  · unfold sendPingAt
    rw [hsent]
    exact ⟨rfl, rfl, Or.inl ⟨rfl, hdue, rfl⟩⟩
  · exact ⟨rfl, rfl, Or.inr ⟨rfl, not_le.mp hdue, rfl⟩⟩

/-- `handle_udp_to_tun` notes the time of a PONG. -/
theorem handleUdpToTun_times (S : Sodium) (env : ClientEnv) (client : Client)
    (datagram : Bytes) :
    (client.handleUdpToTun S env datagram).1.lastPingSent = client.lastPingSent ∧
      (client.handleUdpToTun S env datagram).1.lastPongReceived
        = if isPong env datagram then env.now else client.lastPongReceived := by
  unfold Client.handleUdpToTun isPong
  dsimp only
  by_cases hshort : recvLen datagram < vpnHeaderSize
  · rw [if_pos hshort]
    simp [not_le.mpr hshort]
  · rw [if_neg hshort]
    cases htype : PacketType.ofByte (byteAt (recvInto env.buffer datagram) 0) with
    | none => simp
    | some type => cases type <;> simp [not_lt.mp hshort]

theorem handleTunToUdp_times (S : Sodium) (env : ClientEnv) (client : Client) (packet : Bytes) :
    (client.handleTunToUdp S env packet).1.lastPingSent = client.lastPingSent ∧
      (client.handleTunToUdp S env packet).1.lastPongReceived = client.lastPongReceived := by
  unfold Client.handleTunToUdp
  dsimp only
  split <;> exact ⟨rfl, rfl⟩

/-- The packet handlers note the time of a PONG and leave the time of the last PING alone. -/
theorem handleReady_times (t : ClientTurn) {udp tun : Option Bytes}
    (hready : t.activity = .ready udp tun) (client : Client) :
    (handleReady S t udp tun client).lastPingSent = client.lastPingSent ∧
      (handleReady S t udp tun client).lastPongReceived
        = if t.bringsPong then t.udpEnv.now else client.lastPongReceived := by
  unfold handleReady ClientTurn.bringsPong
  rw [hready]
  cases udp with
  | none =>
      cases tun with
      | none => exact ⟨rfl, rfl⟩
      | some packet => exact handleTunToUdp_times S t.tunEnv client packet
  | some datagram =>
      have hudp := handleUdpToTun_times S t.udpEnv client datagram
      cases tun with
      | none => exact hudp
      | some packet =>
          have htun := handleTunToUdp_times S t.tunEnv
            (client.handleUdpToTun S t.udpEnv datagram).1 packet
          exact ⟨htun.1.trans hudp.1, htun.2.trans hudp.2⟩

/-- A connected client comes to its check, unless the loop is left. -/
theorem keepaliveResult_connected (S : Sodium) (config : VpnConfig) (t : TimedTurn)
    (hconnected : s.vpn.client.connected = true) :
    (∃ udp tun, s.exit = none ∧ t.running = true ∧ t.activity = .ready udp tun ∧
      keepaliveResult S config s t
        = some (checkKeepaliveAt config.clientConfig t s.vpn.client)) ∨
    keepaliveResult S config s t = none ∧ (timedLoopStep S config s t).exit ≠ none := by
  have hphase : reconnectPhase S config t.toClientTurn s = s := if_pos hconnected
  unfold keepaliveResult timedLoopStep
  rw [hphase]
  cases hexit : s.exit with
  | some reason => exact Or.inr ⟨rfl, by simp [hexit]⟩
  | none =>
      cases hrun : t.running with
      | false => exact Or.inr ⟨rfl, by simp⟩
      | true =>
          cases hready : t.activity with
          | failed => exact Or.inr ⟨by simp [hexit], by simp [hexit, selectPhaseAt, hready]⟩
          | ready udp tun => exact Or.inl ⟨udp, tun, rfl, rfl, rfl, by simp [hexit]⟩

/-- A turn whose check passes goes on to the packet handlers. -/
theorem timedLoopStep_ready {udp tun : Option Bytes} (hconnected : s.vpn.client.connected = true)
    (hexit : s.exit = none) (hrun : t.running = true) (hready : t.activity = .ready udp tun)
    (hpass : (checkKeepaliveAt config.clientConfig t s.vpn.client).2.2 = true) :
    (timedLoopStep S config s t).vpn.client = handleReady S t.toClientTurn udp tun
      (checkKeepaliveAt config.clientConfig t s.vpn.client).1 := by
  have hphase : reconnectPhase S config t.toClientTurn s = s := if_pos hconnected
  have hstep : timedLoopStep S config s t = selectPhaseAt S config t s := by
    unfold timedLoopStep
    rw [hphase]
    simp [hexit, hrun]
  rw [hstep]
  unfold selectPhaseAt
  rw [hready]
  dsimp only
  generalize checkKeepaliveAt config.clientConfig t s.vpn.client = result at hpass ⊢
  obtain ⟨client, actions, flag⟩ := result
  cases hpass
  rfl

/-- **What a turn whose check passes does** to the times of the last PING and the last PONG, and
to the observer. -/
theorem watchStep_passes {w : Watch} (hconnected : w.loop.vpn.client.connected = true)
    (hpass : keepaliveReturns S config w.loop t = some true) (hsent : t.pingSent = true) :
    let client := w.loop.vpn.client
    let w' := watchStep S config w t
    let client' := w'.loop.vpn.client
    client'.connected = true ∧
    client'.lastPongReceived = (if t.bringsPong then t.udpEnv.now else client.lastPongReceived) ∧
    (t.keepaliveEnv.now - client.lastPingSent ≥ config.keepaliveInterval ∧
        client'.lastPingSent = t.pingTime ∧ w'.pending = !t.bringsPong ∨
      t.keepaliveEnv.now - client.lastPingSent < config.keepaliveInterval ∧
        client'.lastPingSent = client.lastPingSent ∧
        w'.pending = (!t.bringsPong && w.pending)) := by
  intro client w' client'
  rcases keepaliveResult_connected S config t hconnected with
    ⟨udp, tun, hexit, hrun, hready, hresult⟩ | ⟨hnone, -⟩
  · have hflag : (checkKeepaliveAt config.clientConfig t client).2.2 = true := by
      unfold keepaliveReturns at hpass
      rw [hresult] at hpass
      exact Option.some.inj hpass
    have hclient : client' = handleReady S t.toClientTurn udp tun
        (checkKeepaliveAt config.clientConfig t client).1 :=
      timedLoopStep_ready hconnected hexit hrun hready hflag
    have hpending : w'.pending = (!t.bringsPong &&
        (!(checkKeepaliveAt config.clientConfig t client).2.1.isEmpty || w.pending)) := by
      show (!(decide _ && _) && (sendsPing S config w.loop t || _)) = _
      unfold sendsPing
      rw [hpass, hresult]
      simp only [decide_true, Bool.true_and, Option.any_some]
      rfl
    obtain ⟨hlink, hpong, hping⟩ := checkKeepaliveAt_client hflag hsent
    obtain ⟨hping', hpong'⟩ := handleReady_times (S := S) t.toClientTurn hready
      (checkKeepaliveAt config.clientConfig t client).1
    have hlink' := handleReady_sameLink S t.toClientTurn udp tun
      (checkKeepaliveAt config.clientConfig t client).1
    rw [hclient]
    refine ⟨hlink'.connected.trans (hlink.trans hconnected), hpong'.trans (by rw [hpong]), ?_⟩
    rcases hping with ⟨hempty, hdue, heq⟩ | ⟨hempty, hdue, heq⟩
    · rw [hempty] at hpending
      exact Or.inl ⟨hdue, hping'.trans heq, by simpa using hpending⟩
    · rw [hempty] at hpending
      exact Or.inr ⟨hdue, hping'.trans heq, by simpa using hpending⟩
  · unfold keepaliveReturns at hpass
    rw [hnone] at hpass
    exact absurd hpass (by simp)

end

/-! ## The invariant -/

/-- What holds between the turns for a connected client, if the two readings of `vpn_connect` are
`d` apart. -/
structure Punctual (config : ClientConfig) (d : ℤ) (w : Watch) : Prop where
  connected : w.loop.vpn.client.connected = true
  ping_le : w.loop.vpn.client.lastPingSent ≤ w.clock
  /-- While no PING waits, none was due at the last check. -/
  quiet : w.pending = false →
    w.lastCheck < w.loop.vpn.client.lastPingSent + config.keepaliveInterval ∧
      w.loop.vpn.client.lastPingSent ≤ w.loop.vpn.client.lastPongReceived + d
  /-- A PING that waits was sent after the last check, as soon as it was due. -/
  waiting : w.pending = true →
    w.lastCheck ≤ w.loop.vpn.client.lastPingSent ∧
      w.lastCheck ≤ w.loop.vpn.client.lastPongReceived + d + config.keepaliveInterval
  /-- The readings of `vpn_connect` are at most a second apart once the next check has come. -/
  apart : w.clock ≤ w.lastCheck + 1 → d ≤ 1

section
variable {S : Sodium} {config : VpnConfig} {d : ℤ} {w : Watch} {t : TimedTurn}

/-- The last PONG is recent enough for the check, if no PING waits. -/
theorem Punctual.pong_of_quiet (h : Punctual config.clientConfig d w) (hclock : Clocked w t)
    (hP : config.keepaliveInterval < config.pongTimeout) (hquiet : w.pending = false) :
    t.keepaliveEnv.now - w.loop.vpn.client.lastPongReceived ≤ config.pongTimeout := by
  obtain ⟨hmono, hnext, -, -⟩ := hclock
  obtain ⟨hcheck, hpong⟩ := h.quiet hquiet
  have hd : d ≤ 1 := h.apart (hmono.trans hnext)
  have hcheck' : w.lastCheck < w.loop.vpn.client.lastPingSent + config.keepaliveInterval := hcheck
  omega

/-- The same for a PING that waits, if there is a second more for its PONG. -/
theorem Punctual.pong_of_waiting (h : Punctual config.clientConfig d w) (hclock : Clocked w t)
    (hd : d + config.keepaliveInterval + 1 ≤ config.pongTimeout) (hwait : w.pending = true) :
    t.keepaliveEnv.now - w.loop.vpn.client.lastPongReceived ≤ config.pongTimeout := by
  obtain ⟨-, hnext, -, -⟩ := hclock
  have hpong : w.lastCheck ≤ w.loop.vpn.client.lastPongReceived + d + config.keepaliveInterval :=
    (h.waiting hwait).2
  omega

/-- **A turn whose check passes keeps the invariant.** -/
theorem Punctual.step (h : Punctual config.clientConfig d w) (hI : 1 ≤ config.keepaliveInterval)
    (hd0 : 0 ≤ d) (hready : PongReady S config w t)
    (hpass : keepaliveReturns S config w.loop t = some true) :
    Punctual config.clientConfig d (watchStep S config w t) := by
  obtain ⟨hclock, hsent, hpong⟩ := hready (by rw [hpass]; rfl)
  obtain ⟨hmono, hnext, hping, hudp⟩ := hclock
  obtain ⟨hconnected, hpong', hping'⟩ := watchStep_passes h.connected hpass hsent
  obtain ⟨-, hle, hquiet, hwaiting, hapart⟩ := h
  have hd : d ≤ 1 := hapart (hmono.trans hnext)
  have hcheck : (watchStep S config w t).lastCheck = t.keepaliveEnv.now := rfl
  have hclock : (watchStep S config w t).clock = t.udpEnv.now := rfl
  have hinterval : config.clientConfig.keepaliveInterval = config.keepaliveInterval := rfl
  cases hbrings : t.bringsPong with
  | true =>
      -- The PONG is noted after the PING, if one was sent.
      rw [hbrings, if_pos rfl] at hpong'
      simp only [hbrings, Bool.not_true, Bool.false_and] at hping'
      have hquiet' : (watchStep S config w t).pending = false := by tauto
      refine ⟨hconnected, ?_, fun _ => ?_, fun hwait => ?_, fun _ => hd⟩
      · omega
      · omega
      · exact absurd (hquiet'.symm.trans hwait) (by simp)
  | false =>
      -- No PING was waiting, so one waits now exactly if it was due.
      have hnone : w.pending = false := by
        by_contra hwait
        exact absurd (hbrings.symm.trans (hpong (by simpa using hwait))) (by simp)
      rw [hbrings, if_neg (by simp)] at hpong'
      simp only [hbrings, hnone, Bool.not_false, Bool.true_and] at hping'
      obtain ⟨hlast, hage⟩ := hquiet hnone
      rcases hping' with ⟨hdue, heq, hwait⟩ | ⟨hdue, heq, hquiet'⟩
      · refine ⟨hconnected, by omega, fun hq => ?_, fun _ => by omega, fun _ => hd⟩
        exact absurd (hwait.symm.trans hq) (by simp)
      · refine ⟨hconnected, by omega, fun _ => by omega, fun hwait => ?_, fun _ => hd⟩
        exact absurd (hquiet'.symm.trans hwait) (by simp)

/-- The invariant along a run: it holds as long as the loop is not left. -/
def StaysPunctual (config : ClientConfig) (d : ℤ) (w : Watch) : Prop :=
  w.loop.exit = none → Punctual config d w

/-- The check passes if the last PONG is recent enough. -/
theorem Punctual.returns_true (h : Punctual config.clientConfig d w)
    (hcalled : (keepaliveReturns S config w.loop t).isSome = true)
    (hpong : t.keepaliveEnv.now - w.loop.vpn.client.lastPongReceived ≤ config.pongTimeout) :
    keepaliveReturns S config w.loop t = some true := by
  unfold keepaliveReturns at hcalled ⊢
  rcases keepaliveResult_connected S config t h.connected with
    ⟨udp, tun, -, -, -, hresult⟩ | ⟨hnone, -⟩
  · rw [hresult, Option.map_some, checkKeepaliveAt_passes_iff.mpr hpong]
  · rw [hnone] at hcalled
    exact absurd hcalled (by simp)

/-- A turn in which the check passes, if it is made, keeps the invariant. -/
theorem StaysPunctual.step (h : StaysPunctual config.clientConfig d w)
    (hI : 1 ≤ config.keepaliveInterval) (hd0 : 0 ≤ d) (hready : PongReady S config w t)
    (hpass : Punctual config.clientConfig d w →
      (keepaliveReturns S config w.loop t).isSome = true →
        keepaliveReturns S config w.loop t = some true) :
    StaysPunctual config.clientConfig d (watchStep S config w t) ∧ KeepalivePasses S config w t := by
  by_cases hexit : w.loop.exit = none
  · have hpunctual : Punctual config.clientConfig d w := h hexit
    cases hreturns : keepaliveReturns S config w.loop t with
    | some flag =>
        have htrue := hpass hpunctual (by rw [hreturns]; rfl)
        refine ⟨fun _ => hpunctual.step hI hd0 hready htrue, ?_⟩
        unfold KeepalivePasses
        rw [htrue]
        simp
    | none =>
        rcases keepaliveResult_connected S config t
          hpunctual.connected with ⟨udp, tun, -, -, -, hresult⟩ | ⟨-, hleft⟩
        · unfold keepaliveReturns at hreturns
          rw [hresult] at hreturns
          exact absurd hreturns (by simp)
        · refine ⟨fun hnone => absurd hnone hleft, ?_⟩
          unfold KeepalivePasses
          rw [hreturns]
          simp
  · -- A loop that has been left stays as it is.
    obtain ⟨reason, hreason⟩ := Option.ne_none_iff_exists'.mp hexit
    have hstep : timedLoopStep S config w.loop t = w.loop := by
      unfold timedLoopStep
      simp [hreason]
    refine ⟨fun hnone => absurd ((congrArg ClientLoop.exit hstep).symm.trans hnone) hexit, ?_⟩
    unfold KeepalivePasses keepaliveReturns keepaliveResult
    simp [hreason]

end

/-! ## Runs -/

section
variable {S : Sodium} {config : VpnConfig}

/-- **A healthy connection is never given up.**  Let the keepalive interval be at least 1 and
shorter than the timeout, and let the loop run after a successful `vpn_connect`, with readings
of the clock that do not decrease and checks at most a second apart, the first one at most a
second after the connect.  If every PING is sent and its PONG is processed by the end of the
following turn, then `check_keepalive` never returns -1.  It is enough that the PONG is ready in
the following turn, if the timeout leaves a second for it beyond the interval and the time
between the two readings of `vpn_connect`. -/
theorem healthy_connection_kept (hI : 1 ≤ config.keepaliveInterval)
    (hP : config.keepaliveInterval < config.pongTimeout) {username : Bytes}
    {client₀ client : Client} {attempt : ConnectTry}
    (hconnect : connectOnce S username client₀ attempt = (client, true)) {pong ping : ℤ}
    (hreadings : pong ≤ ping) {loop : ClientLoop}
    (hclient : loop.vpn.client =
      { client with lastPongReceived := pong, lastPingSent := ping }) (turns : List TimedTurn) :
    let w : Watch := ⟨loop, pong, ping, false⟩
    (Along (watchStep S config) (PongProcessed S config) w turns →
      Along (watchStep S config) (KeepalivePasses S config) w turns) ∧
    (ping - pong + config.keepaliveInterval + 1 ≤ config.pongTimeout →
      Along (watchStep S config) (PongReady S config) w turns →
      Along (watchStep S config) (KeepalivePasses S config) w turns) := by
  intro w
  have hd0 : 0 ≤ ping - pong := by omega
  have hstart : StaysPunctual config.clientConfig (ping - pong) w := by
    intro _
    have hinterval : config.clientConfig.keepaliveInterval = config.keepaliveInterval := rfl
    refine ⟨?_, ?_, fun _ => ?_, fun h => absurd h (by simp [w]), fun h => ?_⟩
    · rw [hclient]
      exact (connectOnce_true hconnect).1
    · rw [hclient]
    · rw [hclient]
      show pong < ping + _ ∧ ping ≤ pong + (ping - pong)
      omega
    · have h' : ping ≤ pong + 1 := h
      omega
  constructor
  · intro hrun
    refine Along.imp (I := StaysPunctual config.clientConfig (ping - pong)) ?_ hstart hrun
    rintro w t hw ⟨hready, hprocessed⟩
    refine hw.step hI hd0 hready fun hpunctual hcalled => ?_
    cases hpending : w.pending with
    | true => exact hprocessed hcalled hpending
    | false =>
        exact hpunctual.returns_true hcalled (hpunctual.pong_of_quiet (hready hcalled).1 hP hpending)
  · intro hslack hrun
    refine Along.imp (I := StaysPunctual config.clientConfig (ping - pong)) ?_ hstart hrun
    intro w t hw hready
    refine hw.step hI hd0 hready fun hpunctual hcalled => hpunctual.returns_true hcalled ?_
    cases hpending : w.pending with
    | true => exact hpunctual.pong_of_waiting (hready hcalled).1 hslack hpending
    | false => exact hpunctual.pong_of_quiet (hready hcalled).1 hP hpending

/-- A PING every second, with a timeout of two seconds. -/
def tightConfig : VpnConfig := { sampleConfig 3 with keepaliveInterval := 1, pongTimeout := 2 }

/-- A turn at the given time, in which a PONG is ready or nothing. -/
def turnAt (now : ℤ) (pong : Bool) : TimedTurn where
  toClientTurn := { sampleTurn none now with
    activity := .ready (if pong then some (initVpnHeader .pong 0 1 0) else none) none }
  pingSent := true
  pingTime := now

/-- The first connection of a client. -/
def firstConnect : Client × Bool :=
  connectOnce sampleSodium (clientUsername tightConfig)
    (initVpnClient sampleSodium (Vector.replicate 32 0)) (sampleTry (some (sampleReply firstIp)) 0)

/-- The loop after that connection, with the two readings of the clock that it has taken. -/
def firstLoop (pong ping : ℤ) : ClientLoop :=
  ⟨⟨{ firstConnect.1 with lastPongReceived := pong, lastPingSent := ping }, true, none⟩, [], none⟩

/-- A run whose PONGs are processed one turn after their PINGs. -/
theorem healthy_connection_kept_tight :
    let w : Watch := ⟨firstLoop 0 0, 0, 0, false⟩
    let turns := [turnAt 1 false, turnAt 2 true, turnAt 3 true, turnAt 4 false, turnAt 5 true]
    Along (watchStep sampleSodium tightConfig) (PongProcessed sampleSodium tightConfig) w turns ∧
      Along (watchStep sampleSodium tightConfig) (KeepalivePasses sampleSodium tightConfig) w
        turns := by
  intro w turns
  have hconnect : connectOnce sampleSodium (clientUsername tightConfig)
      (initVpnClient sampleSodium (Vector.replicate 32 0))
      (sampleTry (some (sampleReply firstIp)) 0) = (firstConnect.1, true) :=
    Prod.ext rfl (by decide +kernel)
  have hrun : Along (watchStep sampleSodium tightConfig)
      (PongProcessed sampleSodium tightConfig) w turns := by decide +kernel
  exact ⟨hrun, (healthy_connection_kept (by decide) (by decide) hconnect (le_refl 0) rfl
    turns).1 hrun⟩

-- The second for a PONG that is only ready is needed: here a second passes between the two
-- readings of the connect, and the check of the second turn comes before its PONG.
example :
    let w : Watch := ⟨firstLoop 0 1, 0, 1, false⟩
    let turns := [turnAt 1 false, turnAt 2 false, turnAt 3 true]
    Along (watchStep sampleSodium tightConfig) (PongReady sampleSodium tightConfig) w turns ∧
      keepaliveReturns sampleSodium tightConfig
        (run (watchStep sampleSodium tightConfig) w (turns.take 2)).loop (turnAt 3 true)
        = some false := by
  decide +kernel

end

end Vpn
