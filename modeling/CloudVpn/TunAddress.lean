/-
# The address of the client's TUN device

The server routes packets by the VPN address that it has assigned.  The client takes that
address from every CONNECT_RESP, but it configures its TUN device only once: after a
reconnection `setup_client_tun` finds the device open and returns.  So the device has the
client's address as long as every CONNECT_RESP that is accepted has the address of the first
(`tunAddress_matches_iff`).  As `vpn_connect` opens a new socket each time, the server sees a
new peer and usually assigns another one (`reconnect_changes_address`).
-/
import CloudVpn.ClientLoop
import CloudVpn.ServerInvariant

open Memory Runs

namespace Vpn

/-! ## The property and the condition -/

/-- When the turn comes to its `select`, with a connected client, the TUN device has the address
of the client. -/
def AddressMatches (S : Sodium) (config : VpnConfig) (s : ClientLoop) (t : ClientTurn) : Prop :=
  let s' := reconnectPhase S config t s
  s.exit = none → t.running = true → s'.exit = none →
    s'.vpn.tunIp = some s'.vpn.client.vpnIp

/-- The turn reconnects: the connection is lost, the configuration allows an attempt, and the
attempt gets an answer that is accepted. -/
structure Reconnects (S : Sodium) (config : VpnConfig) (s : ClientLoop) (t : ClientTurn) :
    Prop where
  looping : s.exit = none
  running : t.running = true
  lost : s.vpn.client.connected = false
  auto : config.autoReconnect ≠ 0
  limit : 1 ≤ config.maxReconnectAttempts
  answer : AcceptsAnswer S (clientUsername config) s.vpn.client t.connect

/-- If the turn reconnects, the address field of the answer is the given one. -/
def KeepsAddress (S : Sodium) (config : VpnConfig) (first : UInt32) (s : ClientLoop)
    (t : ClientTurn) : Prop :=
  Reconnects S config s t → answerIp (clientUsername config) s.vpn.client t.connect = first

/-! ## Turns -/

variable {S : Sodium} {config : VpnConfig} {first : UInt32}

/-- The TUN device is open under the first address.  While the loop runs no attempt has failed,
and a connected client has that address. -/
structure OnAddress (first : UInt32) (s : ClientLoop) : Prop where
  tunOpen : s.vpn.tunOpen = true
  tunIp : s.vpn.tunIp = some first
  reconnectAttempts : s.exit = none → s.vpn.client.reconnectAttempts = 0
  vpnIp : s.exit = none → s.vpn.client.connected = true → s.vpn.client.vpnIp = first

/-- What the first part of a turn does to a loop whose device is open: a connected client goes on
at once, a lost connection is established again with the address in the answer, or the loop is
left; the device is not configured again. -/
theorem OnAddress.reconnectPhase (S : Sodium) (config : VpnConfig) {s : ClientLoop}
    (h : OnAddress first s) (hexit : s.exit = none)
    {t : ClientTurn} (hrun : t.running = true) :
    (reconnectPhase S config t s).vpn.tunOpen = true ∧
      (reconnectPhase S config t s).vpn.tunIp = some first ∧
      ((s.vpn.client.connected = true ∧ reconnectPhase S config t s = s) ∨
        (Reconnects S config s t ∧ (reconnectPhase S config t s).exit = none ∧
          (reconnectPhase S config t s).vpn.client.reconnectAttempts = 0 ∧
          (reconnectPhase S config t s).vpn.client.vpnIp
            = answerIp (clientUsername config) s.vpn.client t.connect) ∨
        (¬ Reconnects S config s t ∧
          (reconnectPhase S config t s).exit = some .connectionLost)) := by
  unfold Vpn.reconnectPhase
  cases hconn : s.vpn.client.connected with
  | true =>
      rw [if_pos rfl]
      exact ⟨h.tunOpen, h.tunIp, Or.inl ⟨rfl, rfl⟩⟩
  | false =>
      rw [if_neg Bool.false_ne_true]
      by_cases hauto : config.autoReconnect ≠ 0
      · rw [if_pos hauto]
        have hout := attemptReconnect_outcome S config t.connect t.setup s.vpn
        generalize attemptReconnect S config t.connect t.setup s.vpn = r at hout
        cases hout with
        | refused hused =>
            rw [h.reconnectAttempts hexit] at hused
            refine ⟨h.tunOpen, h.tunIp, Or.inr (Or.inr ⟨fun hr => ?_, rfl⟩)⟩
            have hlimit := hr.limit
            omega
        | failed _ hanswer _ _ =>
            exact ⟨h.tunOpen, h.tunIp, Or.inr (Or.inr ⟨fun hr => hanswer hr.answer, rfl⟩)⟩
        | connected hleft hanswer _ hattempts _ hip =>
            rw [setupClientTun_open h.tunOpen]
            rw [h.reconnectAttempts hexit] at hleft
            exact ⟨h.tunOpen, h.tunIp,
              Or.inr (Or.inl ⟨⟨hexit, hrun, hconn, hauto, hleft, hanswer⟩, rfl, hattempts, hip⟩)⟩
      · rw [if_neg hauto]
        exact ⟨h.tunOpen, h.tunIp, Or.inr (Or.inr ⟨fun hr => hauto hr.auto, rfl⟩)⟩

/-- What `select` and the handlers do keeps device and address together. -/
theorem OnAddress.selectPhase {s : ClientLoop} (h : OnAddress first s)
    (hip : s.vpn.client.vpnIp = first) (t : ClientTurn) (hexit : s.exit = none) :
    OnAddress first (selectPhase S config t s) := by
  rcases selectPhase_outcome S config t s with heq | ⟨client, heq, hsame, hattempts, -, -⟩
  · rw [heq]
    exact ⟨h.tunOpen, h.tunIp, fun he => absurd he (by simp), fun he => absurd he (by simp)⟩
  · rw [heq]
    exact ⟨h.tunOpen, h.tunIp, fun _ => hattempts.trans (h.reconnectAttempts hexit),
      fun _ _ => hsame.trans hip⟩

/-- Under the invariant the address matches in a turn exactly if its answer has the first
address. -/
theorem OnAddress.matches_iff {s : ClientLoop} (h : OnAddress first s) (t : ClientTurn) :
    AddressMatches S config s t ↔ KeepsAddress S config first s t := by
  constructor
  · intro hmatch hr
    obtain ⟨-, htun, hphase⟩ := h.reconnectPhase S config hr.looping hr.running
    rcases hphase with ⟨hconn, -⟩ | ⟨-, hnone, -, hip⟩ | ⟨hnot, -⟩
    · exact absurd (hr.lost.symm.trans hconn) (by simp)
    · have hsame := hmatch hr.looping hr.running hnone
      rw [htun, hip] at hsame
      exact (Option.some.inj hsame).symm
    · exact absurd hr hnot
  · intro hkeeps hexit hrun hexit'
    obtain ⟨-, htun, hphase⟩ := h.reconnectPhase S config hexit hrun
    rw [htun]
    rcases hphase with ⟨hconn, hsame⟩ | ⟨hr, -, -, hip⟩ | ⟨-, hlost⟩
    · rw [hsame, h.vpnIp hexit hconn]
    · rw [hip, hkeeps hr]
    · exact absurd (hexit'.symm.trans hlost) (by simp)

/-- **One turn** with the property keeps the invariant. -/
theorem OnAddress.step {s : ClientLoop} (h : OnAddress first s) {t : ClientTurn}
    (hmatch : AddressMatches S config s t) : OnAddress first (clientLoopStep S config s t) := by
  cases hexit : s.exit with
  | some reason =>
      rw [clientLoopStep_left hexit t]
      exact h
  | none =>
      cases hrun : t.running with
      | false =>
          rw [clientLoopStep_signal hexit hrun]
          exact ⟨h.tunOpen, h.tunIp, fun he => absurd he (by simp), fun he => absurd he (by simp)⟩
      | true =>
          obtain ⟨hopen, htun, hphase⟩ := h.reconnectPhase S config hexit hrun
          rw [clientLoopStep_running hexit hrun]
          rcases hphase with ⟨hconn, hsame⟩ | ⟨-, hnone, hattempts, -⟩ | ⟨-, hlost⟩
          · rw [hsame, if_neg (by simp [hexit])]
            exact h.selectPhase (h.vpnIp hexit hconn) t hexit
          · have hip := hmatch hexit hrun hnone
            rw [htun] at hip
            rw [if_neg (by simp [hnone])]
            exact OnAddress.selectPhase
              ⟨hopen, htun, fun _ => hattempts, fun _ _ => (Option.some.inj hip).symm⟩
              (Option.some.inj hip).symm t hnone
          · rw [if_pos (by simp [hlost])]
            exact ⟨hopen, htun, fun he => absurd (hlost.symm.trans he) (by simp),
              fun he => absurd (hlost.symm.trans he) (by simp)⟩

/-- **When the TUN device has the client's address**, in every turn of every run: when the address
field of every CONNECT_RESP that a reconnection accepts is that of the first one. -/
theorem tunAddress_matches_iff (S : Sodium) (config : VpnConfig) {secret : Key}
    {t : ConnectTry} {setup : TunSetup} {s : ClientLoop}
    (hstart : startClient S config secret t setup = some s) (turns : List ClientTurn) :
    Along (clientLoopStep S config) (AddressMatches S config) s turns ↔
      Along (clientLoopStep S config)
        (KeepsAddress S config (answerIp (clientUsername config) (initVpnClient S secret) t))
        s turns := by
  obtain ⟨client, hconnect, rfl⟩ := startClient_eq_some hstart
  obtain ⟨-, hattempts, -, hip⟩ := connectOnce_true hconnect
  have hinit : OnAddress (answerIp (clientUsername config) (initVpnClient S secret) t)
      ⟨⟨client, true, some client.vpnIp⟩, [], none⟩ :=
    ⟨rfl, congrArg some hip, fun _ => hattempts, fun _ _ => hip⟩
  constructor
  · exact Along.imp (fun s t h hmatch => ⟨h.step hmatch, h.matches_iff t |>.mp hmatch⟩) hinit
  · refine Along.imp (fun s t h hkeeps => ?_) hinit
    have hmatch := (OnAddress.matches_iff h t).mpr hkeeps
    exact ⟨h.step hmatch, hmatch⟩

/-- A client that is assigned its old address again. -/
theorem tunAddress_matches_same :
    Along (clientLoopStep sampleSodium (sampleConfig 10))
      (AddressMatches sampleSodium (sampleConfig 10))
      (sampleLoop (sampleConfig 10) (sampleReply firstIp))
      [sampleTurn none 61, sampleTurn (some (sampleReply firstIp)) 61] :=
  (tunAddress_matches_iff sampleSodium (sampleConfig 10)
    (show sampleStart (sampleConfig 10) (sampleReply firstIp)
      = some (sampleLoop (sampleConfig 10) (sampleReply firstIp)) from rfl) _).mpr
    ⟨fun hr => absurd hr.lost (by decide +kernel), fun _ => by decide +kernel, trivial⟩

/-! ## A reconnection through the server -/

/-- The datagram that an event of the server sends. -/
def sentDatagram (outcome : Server × List Action) : Bytes :=
  match outcome.2 with
  | .udpSend _ datagram :: _ => datagram
  | _ => []

/-- The server's answer to a client's first socket. -/
def firstAnswer : Server × List Action :=
  handleEvent sampleSodium (initServer sampleSodium zeroKey) (sampleConnect ⟨1, 1⟩ 1)

/-- The server's answer to the socket that the client opens to reconnect. -/
def secondAnswer : Server × List Action :=
  handleEvent sampleSodium firstAnswer.1 (sampleConnect ⟨1, 2⟩ 1)

/-- **After a reconnection the device keeps its old address**: the server routes 10.8.0.3 to the
client, the client's device has 10.8.0.2. -/
theorem reconnect_changes_address :
    let s := run (clientLoopStep sampleSodium (sampleConfig 10))
      (sampleLoop (sampleConfig 10) (sentDatagram firstAnswer))
      [sampleTurn none 61, sampleTurn (some (sentDatagram secondAnswer)) 61]
    s.exit = none ∧ s.vpn.client.connected = true ∧
      s.vpn.client.vpnIp = htonl 0x0a080003 ∧ s.vpn.tunIp = some (htonl 0x0a080002) := by
  decide +kernel

end Vpn
