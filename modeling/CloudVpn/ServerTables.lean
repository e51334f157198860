/-
# The server's handlers act on the tables

`Monitored` is the server together with the record of answered CONNECT_REQs, kept by
watching the datagrams it sends.  When the transport of the IPC connection hands over
whole replies, one event of the server is one step of the two tables
(`tablesOf_monitoredStep`), and the connection has no unread reply afterwards.
-/
import CloudVpn.ServerInvariant
import CloudVpn.SessionTables

open Memory Slots Runs

namespace Vpn

variable {S : Sodium} {env : Env} {server : Server}

/-! ## The handlers on a synced connection -/

/-- `PKT_DATA` from a known peer: the entry is refreshed, and what the enclave decrypts is
written to the TUN device. -/
theorem handleData_synced {addr : SockAddr} {ciphertext : Bytes} {client : Fin maxClients}
    (hsync : server.conn.Synced) (hd : env.delivery = .whole)
    (hlen : ciphertext.length ≤ ipcMaxDataSize)
    (hclient : findClientByAddr server.table addr = some client) :
    handleData S env server addr ciphertext =
      (⟨updateClientActivity server.table client env.now,
          server.conn.called server.conn.enclave, server.globalSequence⟩,
        ((openFor S server.conn.enclave.km (server.table.clients client).vpnIp
          ciphertext).map Action.tunWrite).toList) := by
  have hip : ((updateClientActivity server.table client env.now).clients client).vpnIp
      = (server.table.clients client).vpnIp :=
    (updateClientActivity_same server.table client env.now client).2.2
  unfold handleData
  simp only [hclient, hip, hd]
  rw [enclaveDecrypt_synced hsync hlen]
  cases openFor S server.conn.enclave.km (server.table.clients client).vpnIp ciphertext <;>
    rfl

/-- A packet for a connected client is encrypted and sent to the client's peer address. -/
theorem handleTunToUdp_synced {packet : Bytes} {client : Fin maxClients}
    (hsync : server.conn.Synced) (hd : env.delivery = .whole)
    (hlen : 20 ≤ (packet.take bufferSize).length)
    (hversion : ipVersion (packet.take bufferSize) ≠ 6)
    (hclient : findClientByVpnIp server.table (destinationIp (packet.take bufferSize))
      = some client) :
    handleTunToUdp S env server packet =
      match sealFor S env.nonce server.conn.enclave.km (server.table.clients client).vpnIp
          (packet.take bufferSize) with
      | none => ({ server with conn := server.conn.called server.conn.enclave }, [])
      | some data =>
          (⟨if env.sent then updateClientActivity server.table client env.now else server.table,
              server.conn.called server.conn.enclave, server.globalSequence + 1⟩,
            [.udpSend (server.table.clients client).realAddr
              (initVpnHeader .data (UInt16.ofNat data.length) (server.globalSequence + 1)
                env.timestampMs ++ data)]) := by
  have hfits : (packet.take bufferSize).length + 28 ≤ ipcMaxDataSize := by
    rw [List.length_take]
    unfold bufferSize ipcMaxDataSize
    omega
  unfold handleTunToUdp
  simp only [if_neg (not_lt.mpr hlen), if_neg hversion, hclient, hd]
  rw [enclaveEncrypt_synced hsync hfits]
  cases sealFor S env.nonce server.conn.enclave.km (server.table.clients client).vpnIp
    (packet.take bufferSize) <;> rfl

/-- `PKT_DISCONNECT` from a known peer: both tables drop the VPN address. -/
theorem handleDisconnect_synced {addr : SockAddr} {client : Fin maxClients}
    (hsync : server.conn.Synced) (hd : env.delivery = .whole)
    (hclient : findClientByAddr server.table addr = some client) :
    handleDisconnect S env server addr =
      (⟨removeClient server.table (server.table.clients client).vpnIp,
        server.conn.called
          ⟨removeKey server.conn.enclave.km (server.table.clients client).vpnIp, true⟩,
        server.globalSequence⟩, []) := by
  unfold handleDisconnect
  simp only [hclient, hd]
  rw [enclaveRemoveKey_synced hsync]

/-! ## The record of answered requests -/

/-- The server, and the public key of each peer's last answered CONNECT_REQ. -/
structure Monitored where
  server : Server
  answered : SockAddr → Option Key

/-- A CONNECT_RESP sent to the peer. -/
def isConnectResp (addr : SockAddr) : Action → Bool
  | .udpSend dest datagram =>
      dest == addr && byteAt datagram 0 == PacketType.connectResp.toByte
  | .tunWrite _ => false

/-- The record after an event that led to the given actions. -/
def recordAnswer (answered : SockAddr → Option Key) (actions : List Action) :
    Event → SockAddr → Option Key
  | .udp src datagram env =>
      if actions.any (isConnectResp src) then
        Function.update answered src (some (authTokenAt (recvInto env.buffer datagram)))
      else answered
  | _ => answered

/-- The server and the record after an event. -/
def monitoredStep (S : Sodium) (m : Monitored) (e : Event) : Monitored :=
  let (server, actions) := handleEvent S m.server e
  ⟨server, recordAnswer m.answered actions e⟩

/-- The server after its start. -/
def initMonitored (S : Sodium) (secret : Key) : Monitored :=
  ⟨initServer S secret, fun _ => none⟩

/-- The two tables of a server. -/
def tablesOf (m : Monitored) : Tables :=
  ⟨m.server.table, m.server.conn.enclave.km, m.answered⟩

/-- The refreshing of a peer's entry. -/
def touchEvent (table : ClientTable) (addr : SockAddr) (now : ℤ) : TablesEvent :=
  (findClientByAddr table addr).elim .idle fun client => .touch client now

/-- What an event amounts to for the tables. -/
def tablesEventOf (S : Sodium) (server : Server) : Event → TablesEvent
  | .udp src datagram env =>
      if recvLen datagram < vpnHeaderSize then .idle
      else
        match PacketType.ofByte (byteAt (recvInto env.buffer datagram) 0) with
        | some .connectReq =>
            .connect src (authTokenAt (recvInto env.buffer datagram)) env.now env.rand
        | some .data => touchEvent server.table src env.now
        | some .ping => touchEvent server.table src env.now
        | some .disconnect => .disconnect src
        | _ => .idle
  | .tun packet env =>
      -- The entry is refreshed when the packet has been sent.
      match (handleTunToUdp S env server packet).2,
          findClientByVpnIp server.table (destinationIp (packet.take bufferSize)) with
      | _ :: _, some client => if env.sent then .touch client env.now else .idle
      | _, _ => .idle
  | .sweep env => .sweep env.now

/-! ## The simulation -/

variable {m : Monitored}

/-- A CONNECT_REQ acts on the tables as `tablesStep` says. -/
theorem connectReq_tables {addr : SockAddr} {buffer : Bytes} (hwf : server.table.Wf)
    (hsync : server.conn.Synced) (hd : env.delivery = .whole)
    (answered : SockAddr → Option Key) :
    tablesOf ⟨(handleConnectReq S env server addr buffer).1,
        if (handleConnectReq S env server addr buffer).2.any (isConnectResp addr) then
          Function.update answered addr (some (authTokenAt buffer)) else answered⟩
      = tablesStep S ⟨server.table, server.conn.enclave.km, answered⟩
          (.connect addr (authTokenAt buffer) env.now env.rand) ∧
    (handleConnectReq S env server addr buffer).1.conn.Synced := by
  by_cases hroom : server.table.count < maxClients
  · cases hkey : sessionKeyOf S server.conn.enclave.km.serverPrivateKey (authTokenAt buffer) with
    | none =>
        have hhs : enclaveHandshake S env.nonce env.delivery server.conn
            (offeredIp server.table addr) (authTokenAt buffer)
            = (server.conn.called server.conn.enclave, none) := by
          rw [hd, enclaveHandshake_synced hsync, performHandshake_eq, hkey]
          rfl
        rw [handleConnectReq_refused hwf hroom hhs,
          tablesStep_connect_refused hwf hroom env.now env.rand hkey]
        exact ⟨rfl, Connection.Synced.called hsync.running⟩
    | some key =>
        have hhs : enclaveHandshake S env.nonce env.delivery server.conn
            (offeredIp server.table addr) (authTokenAt buffer)
            = (server.conn.called ⟨(addKey server.conn.enclave.km
                (offeredIp server.table addr) key).getD server.conn.enclave.km, true⟩,
              some (okReply server.conn
                (server.conn.enclave.km.serverPublicKey.toList ++ key.toList))) := by
          rw [hd, enclaveHandshake_synced hsync, performHandshake_eq, hkey]
          rfl
        obtain ⟨client, hclient⟩ := addClient_isSome hwf hroom addr env.now env.rand
        rw [handleConnectReq_answered hwf hroom hhs hclient,
          tablesStep_connect_answered hwf hroom env.now env.rand hkey]
        refine ⟨?_, Connection.Synced.called rfl⟩
        simp only [List.any_cons, List.any_nil, Bool.or_false, isConnectResp, beq_self_eq_true,
          Bool.true_and, connectResponse, byteAt_initVpnHeader, if_true]
        rfl
  · have hfull := not_lt.mp hroom
    rw [handleConnectReq_full addr buffer hfull,
      tablesStep_connect_full addr (authTokenAt buffer) env.now env.rand hfull]
    exact ⟨rfl, hsync⟩

/-- A packet that is not a CONNECT_REQ is not answered with a CONNECT_RESP. -/
theorem recordAnswer_eq {answered : SockAddr → Option Key} {actions : List Action}
    {addr : SockAddr} {datagram : Bytes} (env : Env)
    (h : ∀ a ∈ actions, isConnectResp addr a = false) :
    recordAnswer answered actions (.udp addr datagram env) = answered := by
  have hany : actions.any (isConnectResp addr) = false := by
    rw [List.any_eq_false]
    intro a ha
    rw [h a ha]
    simp
  simp only [recordAnswer, hany]
  rfl

/-- `PKT_DATA` acts on the tables as the refreshing of an entry. -/
theorem data_tables {addr : SockAddr} {datagram ciphertext : Bytes}
    (hsync : server.conn.Synced) (hd : env.delivery = .whole)
    (hlen : ciphertext.length ≤ ipcMaxDataSize) (answered : SockAddr → Option Key) :
    tablesOf ⟨(handleData S env server addr ciphertext).1,
        recordAnswer answered (handleData S env server addr ciphertext).2
          (.udp addr datagram env)⟩
      = tablesStep S ⟨server.table, server.conn.enclave.km, answered⟩
          (touchEvent server.table addr env.now) ∧
    (handleData S env server addr ciphertext).1.conn.Synced := by
  unfold touchEvent
  cases hfind : findClientByAddr server.table addr with
  | none =>
      simp only [handleData, hfind]
      exact ⟨rfl, hsync⟩
  | some client =>
      simp only [handleData_synced hsync hd hlen hfind]
      rw [recordAnswer_eq env (by
        intro a ha
        rw [Option.toList_map] at ha
        obtain ⟨p, -, rfl⟩ := List.mem_map.mp ha
        rfl)]
      exact ⟨rfl, Connection.Synced.called hsync.running⟩

/-- `PKT_PING` acts on the tables as the refreshing of an entry. -/
theorem ping_tables {addr : SockAddr} {datagram : Bytes} (hsync : server.conn.Synced)
    (answered : SockAddr → Option Key) :
    tablesOf ⟨(handlePing env server addr).1,
        recordAnswer answered (handlePing env server addr).2 (.udp addr datagram env)⟩
      = tablesStep S ⟨server.table, server.conn.enclave.km, answered⟩
          (touchEvent server.table addr env.now) ∧
    (handlePing env server addr).1.conn.Synced := by
  have hrecord : recordAnswer answered (handlePing env server addr).2
      (.udp addr datagram env) = answered := by
    apply recordAnswer_eq
    intro a ha
    rw [List.mem_singleton.mp ha]
    simp only [isConnectResp, Bool.and_eq_false_imp]
    exact fun _ => rfl
  rw [hrecord]
  unfold touchEvent handlePing
  cases findClientByAddr server.table addr <;> exact ⟨rfl, hsync⟩

/-- `PKT_DISCONNECT` drops the peer's VPN address from both tables. -/
theorem disconnect_tables {addr : SockAddr} {datagram : Bytes} (hsync : server.conn.Synced)
    (hd : env.delivery = .whole) (answered : SockAddr → Option Key) :
    tablesOf ⟨(handleDisconnect S env server addr).1,
        recordAnswer answered (handleDisconnect S env server addr).2
          (.udp addr datagram env)⟩
      = tablesStep S ⟨server.table, server.conn.enclave.km, answered⟩ (.disconnect addr) ∧
    (handleDisconnect S env server addr).1.conn.Synced := by
  cases hfind : findClientByAddr server.table addr with
  | none =>
      simp only [handleDisconnect, hfind]
      rw [tablesStep_disconnect_unknown hfind]
      exact ⟨rfl, hsync⟩
  | some client =>
      simp only [handleDisconnect_synced hsync hd hfind]
      rw [tablesStep_disconnect_known hfind]
      exact ⟨rfl, Connection.Synced.called rfl⟩

/-- A packet from the TUN device refreshes the entry of the client it is sent to. -/
theorem tun_tables {packet : Bytes} (hsync : m.server.conn.Synced)
    (hd : env.delivery = .whole) :
    tablesOf (monitoredStep S m (.tun packet env))
        = tablesStep S (tablesOf m) (tablesEventOf S m.server (.tun packet env)) ∧
      (monitoredStep S m (.tun packet env)).server.conn.Synced := by
  simp only [monitoredStep, handleEvent, tablesEventOf]
  by_cases hlen : (packet.take bufferSize).length < 20
  · simp only [handleTunToUdp, if_pos hlen]
    exact ⟨rfl, hsync⟩
  by_cases hversion : ipVersion (packet.take bufferSize) = 6
  · simp only [handleTunToUdp, if_neg hlen, if_pos hversion]
    exact ⟨rfl, hsync⟩
  cases hfind : findClientByVpnIp m.server.table
      (destinationIp (packet.take bufferSize)) with
  | none =>
      simp only [handleTunToUdp, if_neg hlen, if_neg hversion, hfind]
      exact ⟨rfl, hsync⟩
  | some client =>
      -- The enclave may have no key for the client; then nothing is sent or refreshed.
      simp only [handleTunToUdp_synced hsync hd (not_lt.mp hlen) hversion hfind]
      cases sealFor S env.nonce m.server.conn.enclave.km
          (m.server.table.clients client).vpnIp (packet.take bufferSize) with
      | none => exact ⟨rfl, Connection.Synced.called hsync.running⟩
      | some data =>
          cases env.sent with
          | true => exact ⟨rfl, Connection.Synced.called hsync.running⟩
          | false => exact ⟨rfl, Connection.Synced.called hsync.running⟩

/-- **One event of the server is one step of the tables**, if the IPC replies arrive
whole; and no reply is left unread. -/
theorem tablesOf_monitoredStep (e : Event) (hwf : m.server.table.Wf)
    (hsync : m.server.conn.Synced) (hd : e.env.delivery = .whole) :
    tablesOf (monitoredStep S m e)
        = tablesStep S (tablesOf m) (tablesEventOf S m.server e) ∧
      (monitoredStep S m e).server.conn.Synced := by
  cases e with
  | udp addr datagram env =>
      have hd : env.delivery = .whole := hd
      simp only [monitoredStep, handleEvent, handleUdpToTun, tablesEventOf]
      by_cases hshort : recvLen datagram < vpnHeaderSize
      · simp only [if_pos hshort]
        exact ⟨rfl, hsync⟩
      simp only [if_neg hshort]
      -- One case for each handler; the other packet types change nothing.
      cases htype : PacketType.ofByte (byteAt (recvInto env.buffer datagram) 0) with
      | none => exact ⟨rfl, hsync⟩
      | some type =>
          cases type with
          | connectReq => exact connectReq_tables hwf hsync hd m.answered
          | connectResp => exact ⟨rfl, hsync⟩
          | pong => exact ⟨rfl, hsync⟩
          | data =>
              have hlen : (((recvInto env.buffer datagram).take (recvLen datagram)).drop
                  vpnHeaderSize).length ≤ ipcMaxDataSize := by
                simp only [List.length_drop, List.length_take, recvLen, bufferSize,
                  ipcMaxDataSize]
                omega
              exact data_tables hsync hd hlen m.answered
          | ping => exact ping_tables hsync m.answered
          | disconnect => exact disconnect_tables hsync hd m.answered
  | tun packet env => exact tun_tables hsync hd
  | sweep env => exact ⟨rfl, hsync⟩

/-! ## Runs -/

/-- What every event with whole IPC replies keeps. -/
structure Monitored.Sound (m : Monitored) : Prop where
  wf : m.server.table.Wf
  synced : m.server.conn.Synced

theorem initMonitored_sound (S : Sodium) (secret : Key) : (initMonitored S secret).Sound :=
  ⟨initClientTable_wf, ⟨rfl, rfl⟩⟩

theorem monitoredStep_sound (e : Event) (hd : e.env.delivery = .whole) (h : m.Sound) :
    (monitoredStep S m e).Sound :=
  ⟨serverStep_wf e h.wf, (tablesOf_monitoredStep e h.wf h.synced hd).2⟩

/-- **Laws of the tables are laws of the server.**  If a step of the tables keeps `P`
exactly when it meets `C`, then `P` holds of the server's tables throughout a run exactly
when every event of the run meets `C`. -/
theorem throughout_tables_iff (secret : Key) {P : Tables → Prop}
    {C : Tables → TablesEvent → Prop}
    (hC : ∀ s e, s.table.Wf → P s → (P (tablesStep S s e) ↔ C s e))
    (hP : P (initTables S secret)) {es : List Event}
    (hes : ∀ e ∈ es, e.env.delivery = .whole) :
    Throughout (monitoredStep S) (fun m => P (tablesOf m)) (initMonitored S secret) es ↔
      Along (monitoredStep S) (fun m e => C (tablesOf m) (tablesEventOf S m.server e))
        (initMonitored S secret) es := by
  apply throughout_iff_along (I := Monitored.Sound) (E := fun e => e.env.delivery = .whole)
    (P := fun m => P (tablesOf m))
    (C := fun m e => C (tablesOf m) (tablesEventOf S m.server e))
    (fun m e hd h => monitoredStep_sound e hd h) ?_ (initMonitored_sound S secret) hP hes
  intro m e hd h hp
  rw [(tablesOf_monitoredStep e h.wf h.synced hd).1]
  exact hC (tablesOf m) _ h.wf hp

end Vpn
