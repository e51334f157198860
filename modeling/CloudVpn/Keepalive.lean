/-
# What a PONG says about the session

A client takes a PONG as proof that its session is alive.  `PongCertifies` asks that the
server has an active entry for the peer of the PING, with the client's VPN address, when it
sends the PONG.  The handler of PING does not look at the table, so this depends on what
has happened to the entry since the client connected.

`KeepsClient` names the events that must not come between: a restart, a sweep that expires
the client, a DISCONNECT or the rollback of a failed connect that takes its entry away, a
PING from a socket that the client has left, a socket address for which old responses are
still in flight.  Without them a connected client has its entry, and so has every CONNECT_RESP
on its way to the client's socket (`LiveWorld`).
-/
import CloudVpn.ConnectExchange
import CloudVpn.Network
import CloudVpn.Runs

open Memory Slots Runs

namespace Vpn

variable {S : Sodium} {env : Env} {server : Server} {w : World}

/-! ## The property -/

/-- The peer has an active entry with the VPN address. -/
def HasSession (table : ClientTable) (addr : SockAddr) (ip : UInt32) : Prop :=
  ∃ x ∈ liveSessions table, x.realAddr = addr ∧ x.vpnIp = ip

/-- When the server answers a datagram with a PONG, its table has an active entry for the
datagram's source, with the VPN address that the client holds. -/
def PongCertifies (S : Sodium) (w : World) : WorldEvent → Prop
  | .serverRecv k env =>
      ∀ src datagram, w.toServer[k]? = some (src, datagram) →
        (∃ pong, .udpSend src pong ∈ (handleUdpToTun S env w.server src datagram).2 ∧
          byteAt pong 0 = PacketType.pong.toByte) →
        HasSession (handleUdpToTun S env w.server src datagram).1.table src w.client.vpnIp
  | _ => True

/-- The client is connected, or inside `vpn_connect`. -/
def Engaged (w : World) : Prop := w.client.connected = true ∨ w.pending ≠ none

/-- Conditions on a datagram under which the entry of `peer` stays: a CONNECT_REQ passes its
handshake, or its source is unknown and the rollback finds the new entry; a DISCONNECT is
from a source with another VPN address. -/
def KeepsPeer (S : Sodium) (env : Env) (server : Server) (peer src : SockAddr)
    (datagram : Bytes) : Prop :=
  (PacketType.ofByte (byteAt datagram 0) = some .connectReq →
    server.table.count < maxClients →
      (enclaveHandshake S env.nonce env.delivery server.conn (offeredIp server.table src)
        (authTokenAt (recvInto env.buffer datagram))).2 ≠ none ∨
      (findClientByAddr server.table src = none ∧
        ¬ Shadowed server.table (offeredIp server.table src))) ∧
  (PacketType.ofByte (byteAt datagram 0) = some .disconnect →
    ∀ i, findClientByAddr server.table src = some i →
      ∀ x ∈ liveSessions server.table, x.realAddr = peer →
        x.vpnIp ≠ (server.table.clients i).vpnIp)

/-- The events that leave the session of an engaged client alone. -/
def KeepsClient (S : Sodium) (w : World) : WorldEvent → Prop
  | .connect addr _ _ => ∀ p ∈ w.toClient, p.1 ≠ addr
  | .restart _ => ¬ Engaged w
  | .sweep env =>
      Engaged w → ∀ c ∈ activeClients w.server.table, c.realAddr = w.addr →
        expired env.now c = false
  | .serverRecv k env =>
      ∀ src datagram, w.toServer[k]? = some (src, datagram) →
        (PacketType.ofByte (byteAt datagram 0) = some .ping →
          src = w.addr ∧ w.client.connected = true) ∧
        (Engaged w → KeepsPeer S env w.server w.addr src datagram)
  | _ => True

/-! ## What a datagram does to a session -/

/-- Having a session is a matter of the set of sessions alone. -/
theorem HasSession.congr {table table' : ClientTable} {addr : SockAddr} {ip : UInt32}
    (h : HasSession table addr ip) (hlive : liveSessions table' = liveSessions table) :
    HasSession table' addr ip := by
  unfold HasSession
  rw [hlive]
  exact h

/-- A datagram that meets `KeepsPeer` leaves the peer its session. -/
theorem UdpOutcome.hasSession {src peer : SockAddr} {datagram : Bytes} {table : ClientTable}
    {actions : List Action} (h : UdpOutcome S env server src datagram table actions)
    (hwf : server.table.Wf) (hkeeps : KeepsPeer S env server peer src datagram) {ip : UInt32}
    (hsession : HasSession server.table peer ip) : HasSession table peer ip := by
  cases h with
  | ignored => exact hsession
  | answered _ _ _ hroom =>
      obtain ⟨x, hx, haddr, hip⟩ := hsession
      obtain ⟨x₀, -, -, hlive⟩ := liveSessions_addClient hwf hroom src env.now env.rand
      exact ⟨x, by rw [hlive]; exact Set.mem_insert_of_mem x₀ hx, haddr, hip⟩
  | refused htype hroom hhs =>
      rcases hkeeps.1 htype hroom with hok | ⟨hnone, hclear⟩
      · exact absurd hhs hok
      · exact hsession.congr
          (liveSessions_rollback_fresh hwf env.now env.rand hroom hnone hclear)
  | delivered _ => exact hsession.congr (liveSessions_updateClientActivity _ _ _)
  | ponged _ htable =>
      rcases htable with rfl | ⟨client, rfl⟩
      · exact hsession
      · exact hsession.congr (liveSessions_updateClientActivity _ _ _)
  | dropped htype hclient =>
      obtain ⟨x, hx, haddr, hip⟩ := hsession
      cases hfind : findClientByVpnIp server.table
          (server.table.clients _).vpnIp with
      | none =>
          rw [removeClient_absent hfind]
          exact ⟨x, hx, haddr, hip⟩
      | some c =>
          -- The entry that goes has the address of the source, which the peer has not.
          obtain ⟨⟨hcact, hcip⟩, -⟩ := findClientByVpnIp_eq_some.mp hfind
          rw [removeClient_found hfind]
          refine ⟨x, ?_, haddr, hip⟩
          rw [liveSessions_deactivate hwf hcact]
          refine ⟨hx, fun heq => ?_⟩
          exact hkeeps.2 htype _ hclient _ (session_mem_liveSessions hcact)
            (heq.symm.trans haddr) hcip

/-- A datagram on its way to the client is not empty, and if it is a CONNECT_RESP, it names
the session of its destination. -/
def NamesSession (table : ClientTable) (p : SockAddr × Bytes) : Prop :=
  p.2 ≠ [] ∧ (byteAt p.2 0 = PacketType.connectResp.toByte →
    21 ≤ p.2.length ∧ HasSession table p.1 (u32At p.2 17))

/-- A CONNECT_RESP that the server sends names the session of its destination. -/
theorem UdpOutcome.namesSession {src : SockAddr} {datagram : Bytes} {table : ClientTable}
    {actions : List Action} (h : UdpOutcome S env server src datagram table actions)
    (hwf : server.table.Wf) {p : SockAddr × Bytes} (hp : p ∈ serverSent actions) :
    NamesSession table p := by
  cases h with
  | ignored => exact absurd hp (by simp [serverSent])
  | refused _ _ _ => exact absurd hp (by simp [serverSent])
  | dropped _ _ => exact absurd hp (by simp [serverSent])
  | answered sessionId serverPublicKey _ hroom =>
      have hp : p = _ := List.mem_singleton.mp hp
      obtain ⟨x₀, haddr, hip, hlive⟩ := liveSessions_addClient hwf hroom src env.now env.rand
      obtain ⟨-, hvpnIp, -, -⟩ := connectResponse_fields (length_initVpnHeader .connectResp 41
        (server.globalSequence + 1) env.timestampMs) 0 (offeredIp server.table src) sessionId
        serverPublicKey []
      rw [List.append_nil] at hvpnIp
      rw [hp]
      refine ⟨by simp [connectResponse], fun _ => ⟨by simp [connectResponse], x₀, ?_, haddr, ?_⟩⟩
      · rw [hlive]
        exact Set.mem_insert _ _
      · rw [hvpnIp]
        exact hip
  | delivered hactions =>
      obtain ⟨a, ha, hsome⟩ := List.mem_filterMap.mp hp
      obtain ⟨packet, rfl⟩ := hactions a ha
      exact absurd hsome (by simp)
  | ponged _ _ =>
      have hp : p = _ := List.mem_singleton.mp hp
      rw [hp]
      refine ⟨by simp [initVpnHeader], fun htype => absurd htype ?_⟩
      show PacketType.pong.toByte ≠ PacketType.connectResp.toByte
      decide

/-- What the server sends for a packet from its TUN device is no CONNECT_RESP. -/
theorem namesSession_handleTunToUdp {packet : Bytes} {table : ClientTable}
    {p : SockAddr × Bytes} (hp : p ∈ serverSent (handleTunToUdp S env server packet).2) :
    NamesSession table p := by
  rcases handleTunToUdp_outcome S env server packet with ⟨-, hactions⟩ | ⟨c, data, -, hactions⟩
  · rw [hactions] at hp
    exact absurd hp (by simp [serverSent])
  · rw [hactions] at hp
    have hp : p = _ := List.mem_singleton.mp hp
    rw [hp]
    refine ⟨by simp [initVpnHeader], fun htype => absurd htype ?_⟩
    show PacketType.data.toByte ≠ PacketType.connectResp.toByte
    decide

/-- A packet from the TUN device changes no session. -/
theorem liveSessions_handleTunToUdp (packet : Bytes) :
    liveSessions (handleTunToUdp S env server packet).1.table = liveSessions server.table := by
  rcases handleTunToUdp_outcome S env server packet with ⟨htable, -⟩ | ⟨c, -, htable, -⟩
  · rw [htable]
  · rw [htable]
    split_ifs
    · exact liveSessions_updateClientActivity _ _ _
    · rfl

/-- Only a PING is answered with a PONG, and it changes no session. -/
theorem UdpOutcome.pong {src : SockAddr} {datagram pong : Bytes} {table : ClientTable}
    {actions : List Action} (h : UdpOutcome S env server src datagram table actions)
    (hpong : .udpSend src pong ∈ actions) (htype : byteAt pong 0 = PacketType.pong.toByte) :
    PacketType.ofByte (byteAt datagram 0) = some .ping ∧
      liveSessions table = liveSessions server.table := by
  cases h with
  | ignored => exact absurd hpong (by simp)
  | refused _ _ _ => exact absurd hpong (by simp)
  | dropped _ _ => exact absurd hpong (by simp)
  | answered _ _ _ _ =>
      have heq := List.mem_singleton.mp hpong
      rw [(Action.udpSend.inj heq).2] at htype
      refine absurd htype ?_
      show PacketType.connectResp.toByte ≠ PacketType.pong.toByte
      decide
  | delivered hactions =>
      obtain ⟨packet, heq⟩ := hactions _ hpong
      exact absurd heq (by simp)
  | ponged hping htable =>
      refine ⟨hping, ?_⟩
      rcases htable with rfl | ⟨client, rfl⟩
      · rfl
      · exact liveSessions_updateClientActivity _ _ _

/-- A sweep that does not expire the peer leaves it its session. -/
theorem HasSession.sweep {table : ClientTable} {addr : SockAddr} {ip : UInt32} {now : ℤ}
    (h : HasSession table addr ip)
    (hfresh : ∀ c ∈ activeClients table, c.realAddr = addr → expired now c = false) :
    HasSession (checkClientTimeouts table now) addr ip := by
  obtain ⟨x, ⟨i, hact, rfl⟩, haddr, hip⟩ := h
  have hexp := hfresh (table.clients i) (mem_activeClients.mpr ⟨i, hact, rfl⟩) haddr
  have hsame : (checkClientTimeouts table now).clients i = table.clients i := by
    rw [clients_checkClientTimeouts]
    simp [sweepEntry, hexp]
  exact ⟨_, ⟨i, by rw [hsame]; exact hact, by rw [hsame]⟩, haddr, hip⟩

/-! ## The client's steps -/

/-- A client that is not connected becomes connected only by a CONNECT_RESP, and takes its
VPN address from it. -/
theorem recvConnectResp_connected {clientEnv : ClientEnv} {client : Client} {buffer : Bytes}
    (hold : client.connected = false)
    (hnew : (recvConnectResp S clientEnv client buffer).1.connected = true) :
    byteAt buffer 0 = PacketType.connectResp.toByte ∧
      (recvConnectResp S clientEnv client buffer).1.vpnIp = u32At buffer 17 := by
  unfold recvConnectResp at hnew ⊢
  split_ifs at hnew ⊢ with htype hstatus
  · exact absurd (hold.symm.trans hnew) (by decide)
  · exact absurd (hold.symm.trans hnew) (by decide)
  · refine ⟨not_not.mp htype, ?_⟩
    dsimp only
    split <;> rfl

/-! ## The invariant -/

/-- A connected client has its session, and so has every CONNECT_RESP on its way to the
socket of an engaged client. -/
structure LiveWorld (w : World) : Prop where
  wf : w.server.table.Wf
  pending : w.pending ≠ none → w.client.connected = false
  session : w.client.connected = true → HasSession w.server.table w.addr w.client.vpnIp
  responses : Engaged w → ∀ p ∈ w.toClient, p.1 = w.addr → NamesSession w.server.table p

/-- The client acts or a datagram is lost: the server is as before, and a client that is
connected was so before, with the same VPN address. -/
theorem LiveWorld.of_client {w w' : World} (h : LiveWorld w)
    (hserver : w'.server = w.server) (haddr : w'.addr = w.addr)
    (hpending : w'.pending = w.pending ∨ w'.pending = none)
    (htoClient : w'.toClient ⊆ w.toClient)
    (hclient : w'.client.connected = true →
      w.client.connected = true ∧ w'.client.vpnIp = w.client.vpnIp) : LiveWorld w' := by
  have hwait : w'.pending ≠ none → w.pending ≠ none := by
    rcases hpending with heq | heq
    · rw [heq]
      exact id
    · exact fun hne => absurd heq hne
  have hengaged : Engaged w' → Engaged w :=
    Or.imp (fun hconn => (hclient hconn).1) hwait
  refine ⟨by rw [hserver]; exact h.wf, fun hne => ?_, fun hconn => ?_, fun heng p hp hdest => ?_⟩
  · by_contra hconn
    have hold := (hclient (Bool.not_eq_false _ ▸ hconn)).1
    exact absurd (hold.symm.trans (h.pending (hwait hne))) (by decide)
  · rw [hserver, haddr, (hclient hconn).2]
    exact h.session (hclient hconn).1
  · rw [hserver]
    exact h.responses (hengaged heng) p (htoClient hp) (hdest.trans haddr)

/-- The server acts: the sessions of an engaged client stay, and what is sent names
sessions. -/
theorem LiveWorld.of_server {w w' : World} (h : LiveWorld w)
    (hwf : w'.server.table.Wf) (hclient : w'.client = w.client) (haddr : w'.addr = w.addr)
    (hpending : w'.pending = w.pending)
    (hkeeps : Engaged w → ∀ ip, HasSession w.server.table w.addr ip →
      HasSession w'.server.table w.addr ip)
    (hsent : ∀ p ∈ w'.toClient, p ∈ w.toClient ∨ NamesSession w'.server.table p) :
    LiveWorld w' := by
  refine ⟨hwf, ?_, fun hconn => ?_, fun heng p hp hdest => ?_⟩
  · rw [hpending, hclient]
    exact h.pending
  · rw [hclient] at hconn
    rw [haddr, hclient]
    exact hkeeps (Or.inl hconn) _ (h.session hconn)
  · unfold Engaged at heng
    rw [hclient, hpending] at heng
    rw [haddr] at hdest
    rcases hsent p hp with hold | hnew
    · obtain ⟨hne, hnames⟩ := h.responses heng p hold hdest
      refine ⟨hne, fun htype => ?_⟩
      obtain ⟨hlen, hsession⟩ := hnames htype
      rw [hdest] at hsession ⊢
      exact ⟨hlen, hkeeps heng _ hsession⟩
    · exact hnew

/-! ## Steps -/

/-- The datagram that ends `vpn_connect` gives a client that becomes connected its
session. -/
theorem NamesSession.recvConnectResp {client : Client} {table : ClientTable} {addr : SockAddr}
    {request datagram : Bytes} {clientEnv : ClientEnv}
    (hnames : NamesSession table (addr, datagram)) (hold : client.connected = false)
    (hnew : (recvConnectResp S clientEnv client
      (connectBuffer clientEnv request datagram)).1.connected = true) :
    HasSession table addr (recvConnectResp S clientEnv client
      (connectBuffer clientEnv request datagram)).1.vpnIp := by
  obtain ⟨htype, hip⟩ := recvConnectResp_connected hold hnew
  obtain ⟨hne, hresp⟩ : datagram ≠ [] ∧ _ := hnames
  rw [hip]
  unfold connectBuffer at htype ⊢
  have hpos : 0 < recvLen datagram := le_recvLen (by decide) (List.length_pos_iff.mpr hne)
  rw [byteAt_recvInto _ hpos] at htype
  obtain ⟨hlen, hsession⟩ : 21 ≤ datagram.length ∧ _ := hresp htype
  rw [u32At_recvInto _ (le_recvLen (by decide) hlen)]
  exact hsession

/-- Receiving a datagram keeps the invariant, if an engaged client finds its session in
it. -/
theorem LiveWorld.clientReceives (h : LiveWorld w) {datagram : Bytes} (clientEnv : ClientEnv)
    (hnames : Engaged w → NamesSession w.server.table (w.addr, datagram)) :
    LiveWorld (w.clientReceives S datagram clientEnv) := by
  cases hpending : w.pending with
  | none =>
      obtain ⟨hconn, hip, -⟩ := w.client.handleUdpToTun_sameLink S clientEnv datagram
      simp only [World.clientReceives, hpending]
      exact h.of_client rfl rfl (Or.inr rfl) (List.Subset.refl _)
        (fun hnew => ⟨hconn ▸ hnew, hip⟩)
  | some request =>
      have hwait : w.pending ≠ none := by simp [hpending]
      simp only [World.clientReceives, hpending]
      exact ⟨h.wf, fun hne => absurd rfl hne,
        (hnames (Or.inr hwait)).recvConnectResp (h.pending hwait),
        fun _ => h.responses (Or.inr hwait)⟩

/-- A datagram that is in flight to the client's socket is one that the invariant covers. -/
theorem LiveWorld.clientRecv (config : ClientConfig) (h : LiveWorld w) (k : ℕ)
    (clientEnv : ClientEnv) : LiveWorld (worldStep S config w (.clientRecv k clientEnv)) := by
  cases hk : w.toClient[k]? with
  | none =>
      simp only [worldStep, hk]
      exact h
  | some p =>
      obtain ⟨dest, datagram⟩ := p
      have hlose : LiveWorld { w with toClient := w.toClient.eraseIdx k } :=
        h.of_client rfl rfl (Or.inl rfl) List.eraseIdx_subset (fun hconn => ⟨hconn, rfl⟩)
      simp only [worldStep, hk]
      split_ifs with hdest
      · refine hlose.clientReceives clientEnv (fun heng => ?_)
        have hnames := h.responses heng _ (List.mem_of_getElem? hk) hdest
        rw [hdest] at hnames
        exact hnames
      · exact hlose

/-- The server handles a datagram, and keeps the session of an engaged client. -/
theorem LiveWorld.serverRecv (config : ClientConfig) (h : LiveWorld w) {k : ℕ} {env : Env}
    (hkeeps : KeepsClient S w (.serverRecv k env)) :
    LiveWorld (worldStep S config w (.serverRecv k env)) := by
  cases hk : w.toServer[k]? with
  | none =>
      simp only [worldStep, hk]
      exact h
  | some p =>
      obtain ⟨src, datagram⟩ := p
      have hout : UdpOutcome S env w.server src datagram _ _ :=
        handleUdpToTun_outcome h.wf src datagram
      simp only [worldStep, hk]
      refine h.of_server (hout.wf h.wf) rfl rfl rfl (fun heng ip => ?_) (fun p hp => ?_)
      · exact hout.hasSession h.wf ((hkeeps src datagram hk).2 heng)
      · exact (List.mem_append.mp hp).imp id (hout.namesSession h.wf)

/-- Every event that meets `KeepsClient` keeps the invariant. -/
theorem liveWorld_step (config : ClientConfig) {e : WorldEvent} (h : LiveWorld w)
    (hkeeps : KeepsClient S w e) : LiveWorld (worldStep S config w e) := by
  cases e with
  | connect addr username clientEnv =>
      simp only [worldStep]
      split_ifs with hidle
      · exact h
      · have hconn : w.client.connected = false := by
          cases hc : w.client.connected with
          | false => rfl
          | true => exact absurd (by rw [hc]; rfl) hidle
        -- Nothing is in flight to the new socket, so no response has to be vouched for.
        exact ⟨h.wf, fun _ => hconn, fun hnew => absurd (hconn.symm.trans hnew) (by decide),
          fun _ p hp hdest => absurd hdest (hkeeps p hp)⟩
  | timeout =>
      exact h.of_client rfl rfl (Or.inr rfl) (List.Subset.refl _) (fun hconn => ⟨hconn, rfl⟩)
  | clientRecv k clientEnv => exact h.clientRecv config k clientEnv
  | keepalive clientEnv =>
      obtain ⟨hconn, hip, -⟩ := checkKeepalive_sameLink config clientEnv w.client
      simp only [worldStep]
      split_ifs
      · split
        · next client actions heq =>
            rw [heq] at hconn hip
            exact h.of_client rfl rfl (Or.inl rfl) (List.Subset.refl _)
              (fun hnew => ⟨hconn ▸ hnew, hip⟩)
        · exact h.of_client rfl rfl (Or.inl rfl) (List.Subset.refl _)
            (fun hnew => absurd hnew Bool.false_ne_true)
      · exact h
  | clientTun packet clientEnv =>
      obtain ⟨hconn, hip, -⟩ := w.client.handleTunToUdp_sameLink S clientEnv packet
      simp only [worldStep]
      split_ifs
      · exact h.of_client rfl rfl (Or.inl rfl) (List.Subset.refl _)
          (fun hnew => ⟨hconn ▸ hnew, hip⟩)
      · exact h
  | destroy clientEnv secret =>
      exact h.of_client rfl rfl (Or.inr rfl) (List.Subset.refl _)
        (fun hnew => absurd hnew Bool.false_ne_true)
  | serverRecv k env => exact h.serverRecv config hkeeps
  | serverTun packet env =>
      have hwf : (handleTunToUdp S env w.server packet).1.table.Wf :=
        serverStep_wf (.tun packet env) h.wf
      refine h.of_server hwf rfl rfl rfl
        (fun _ ip hsession => hsession.congr (liveSessions_handleTunToUdp packet))
        (fun p hp => ?_)
      exact (List.mem_append.mp hp).imp id namesSession_handleTunToUdp
  | sweep env =>
      exact h.of_server (checkClientTimeouts_wf h.wf env.now) rfl rfl rfl
        (fun heng ip hsession => hsession.sweep (hkeeps heng)) (fun p hp => Or.inl hp)
  | restart secret =>
      exact h.of_server initClientTable_wf rfl rfl rfl
        (fun heng => absurd heng hkeeps) (fun p hp => Or.inl hp)
  | loseToServer k =>
      exact h.of_client rfl rfl (Or.inl rfl) (List.Subset.refl _) (fun hconn => ⟨hconn, rfl⟩)
  | loseToClient k =>
      exact h.of_client rfl rfl (Or.inl rfl) List.eraseIdx_subset (fun hconn => ⟨hconn, rfl⟩)

/-- From a live world, a PONG certifies the session. -/
theorem LiveWorld.pongCertifies (h : LiveWorld w) {e : WorldEvent}
    (hkeeps : KeepsClient S w e) : PongCertifies S w e := by
  cases e with
  | serverRecv k env =>
      rintro src datagram hk ⟨pong, hpong, htype⟩
      have hout : UdpOutcome S env w.server src datagram _ _ :=
        handleUdpToTun_outcome h.wf src datagram
      -- A PONG answers a PING, and this one is from the socket of a connected client.
      obtain ⟨hping, hlive⟩ := hout.pong hpong htype
      obtain ⟨hsrc, hconn⟩ := (hkeeps src datagram hk).1 hping
      rw [hsrc]
      rw [hsrc] at hlive
      exact (h.session hconn).congr hlive
  | _ => trivial

/-! ## Whole runs -/

/-- **A PONG certifies a live session.**  In every run of one client and the server whose
events all leave the session of an engaged client alone, each PONG that the server sends
finds an active entry for its destination with the VPN address that the client holds. -/
theorem pong_certifies_session (S : Sodium) (config : ClientConfig)
    (serverSecret clientSecret : Key) (addr : SockAddr) (events : List WorldEvent)
    (hkeeps : Along (worldStep S config) (KeepsClient S)
      (initWorld S serverSecret clientSecret addr) events) :
    Along (worldStep S config) (PongCertifies S)
      (initWorld S serverSecret clientSecret addr) events := by
  have hinit : LiveWorld (initWorld S serverSecret clientSecret addr) :=
    ⟨initClientTable_wf, fun hne => absurd rfl hne, fun hconn => absurd hconn Bool.false_ne_true,
      fun _ p hp => absurd hp List.not_mem_nil⟩
  exact Along.imp (fun w e h hk => ⟨liveWorld_step config h hk, h.pongCertifies hk⟩) hinit hkeeps

/-- The client connects and, after 30 seconds, sends a PING, which the server answers.
`between` happens after the connect. -/
def connectAndPing (between : List WorldEvent) : List WorldEvent :=
  [.connect ⟨1, 1⟩ [] sampleClientEnv, .serverRecv 0 sampleEnv, .clientRecv 0 sampleClientEnv]
    ++ between ++
    [.keepalive { sampleClientEnv with now := 30 }, .serverRecv 0 { sampleEnv with now := 30 }]

/-- A client and a server that have just started, with keys of equal bytes. -/
def sampleWorld : World := initWorld sampleSodium zeroKey (Vector.replicate 32 7) ⟨1, 1⟩

/-- The server's PONG for a client that has connected certifies its session. -/
theorem pong_certifies_session_first :
    Along (worldStep sampleSodium configCreateDefault) (PongCertifies sampleSodium) sampleWorld
      (connectAndPing []) := by
  refine pong_certifies_session sampleSodium configCreateDefault zeroKey (Vector.replicate 32 7)
    ⟨1, 1⟩ (connectAndPing []) ⟨?_, ?_, trivial, trivial, ?_, trivial⟩
  · exact fun p hp => absurd hp List.not_mem_nil
  · rintro src datagram hk
    obtain ⟨rfl, rfl⟩ := Prod.mk.inj (Option.some.inj hk)
    refine ⟨fun h => absurd h (by decide +kernel), fun _ => ⟨fun _ _ => Or.inl ?_, fun h => ?_⟩⟩
    · decide +kernel
    · exact absurd h (by decide +kernel)
  · rintro src datagram hk
    have hsent : (run (worldStep sampleSodium configCreateDefault) sampleWorld
        ((connectAndPing []).take 4)).toServer[0]?
          = some (⟨1, 1⟩, initVpnHeader .ping 0 2 0) := by decide +kernel
    have hclient : (run (worldStep sampleSodium configCreateDefault) sampleWorld
        ((connectAndPing []).take 4)).addr = ⟨1, 1⟩ := by decide +kernel
    obtain ⟨hsrc, rfl⟩ := Prod.mk.inj (Option.some.inj (hsent.symm.trans hk))
    refine ⟨fun _ => ⟨hsrc.symm.trans hclient.symm, by decide +kernel⟩,
      fun _ => ⟨fun h => ?_, fun h => ?_⟩⟩
    · exact absurd h (by decide)
    · exact absurd h (by decide)

/-- The server restarts between the connect and the PING: it answers the PING of a client
that it does not know. -/
theorem pong_without_session :
    ¬ Along (worldStep sampleSodium configCreateDefault) (PongCertifies sampleSodium) sampleWorld
      (connectAndPing [.restart zeroKey]) := by
  rintro ⟨-, -, -, -, -, h, -⟩
  have hgone := h ⟨1, 1⟩ (initVpnHeader .ping 0 2 0) (by decide +kernel)
    ⟨initVpnHeader .pong 0 1 0, by decide +kernel, by decide⟩
  obtain ⟨x, hx, haddr, -⟩ := hgone
  exact findClientByAddr_eq_none_iff.mp (by decide +kernel) x hx haddr

end Vpn
