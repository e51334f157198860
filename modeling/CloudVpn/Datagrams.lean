/-
# The datagrams of a run

Every datagram starts with the header that `init_vpn_header` fills in, and `print_vpn_packet`
reads it back.  `global_sequence` counts the headers of a process.  A datagram is `InOrder` if
its header says what it is: its type, the protocol version, the number of bytes behind the
header, and its number among the datagrams of the process.

`serverDatagrams_inOrder` and `clientDatagrams_inOrder` are about all that a server and a client
process ever hand to `sendto`.  Here a packet that overruns the local arrays (`Encapsulation`) is
sent like any other.
-/
import CloudVpn.ClientLoop
import CloudVpn.Network
import CloudVpn.ServerInvariant
import CloudVpn.Traces

open Memory Slots Runs Traces

namespace Vpn

/-! ## Headers -/

/-- The fields of a `vpn_header_t` in host byte order. -/
structure VpnHeader where
  type : UInt8
  version : UInt8
  length : UInt16
  sequence : UInt32
  timestamp : UInt64
  deriving DecidableEq

/-- The header of a datagram, as `print_vpn_packet` reads it. -/
def readVpnHeader (datagram : Bytes) : VpnHeader where
  type := byteAt datagram 0
  version := byteAt datagram 1
  length := ntohs (u16At datagram 2)
  sequence := ntohl (u32At datagram 4)
  timestamp := be64toh (u64At datagram 8)

/-- **What is written is read back.** -/
theorem readVpnHeader_initVpnHeader (type : PacketType) (length : UInt16) (seq : UInt32)
    (ts : UInt64) (payload : Bytes) :
    readVpnHeader (initVpnHeader type length seq ts ++ payload)
      = ⟨type.toByte, vpnProtocolVersion, length, seq, ts⟩ := by
  have hlength : u16At (initVpnHeader type length seq ts ++ payload) 2 = htons length := by
    rw [u16At_append_left _ (by simp)]
    unfold initVpnHeader
    rw [u16At_append_right _ (by simp)]
    exact u16At_le16 _ _
  have hsequence : u32At (initVpnHeader type length seq ts ++ payload) 4 = htonl seq := by
    rw [u32At_append_left _ (by simp)]
    unfold initVpnHeader
    rw [u32At_append_right _ (by simp), u32At_append_right _ (by simp)]
    exact u32At_le32 _ _
  have htimestamp : u64At (initVpnHeader type length seq ts ++ payload) 8 = htobe64 ts :=
    u64At_le64 (htobe64 ts) payload
  unfold readVpnHeader
  rw [hlength, hsequence, htimestamp, ntohs_htons, ntohl_htonl, be64toh_htobe64]
  rfl

/-- The datagram is the `k`-th of its sender, of one of the given types, and its header says
so. -/
structure InOrder (types : List PacketType) (k : ℕ) (datagram : Bytes) : Prop where
  header : vpnHeaderSize ≤ datagram.length
  type : ∃ type ∈ types, (readVpnHeader datagram).type = type.toByte
  version : (readVpnHeader datagram).version = vpnProtocolVersion
  length : (readVpnHeader datagram).length.toNat = datagram.length - vpnHeaderSize
  sequence : (readVpnHeader datagram).sequence = UInt32.ofNat k

theorem inOrder_initVpnHeader {types : List PacketType} {type : PacketType} (htype : type ∈ types)
    {length : UInt16} {payload : Bytes} (hlength : length.toNat = payload.length) (k : ℕ)
    (ts : UInt64) :
    InOrder types k (initVpnHeader type length (UInt32.ofNat k) ts ++ payload) := by
  have hread := readVpnHeader_initVpnHeader type length (UInt32.ofNat k) ts payload
  refine ⟨?_, ⟨type, htype, ?_⟩, ?_, ?_, ?_⟩
  · rw [List.length_append, length_initVpnHeader]
    exact Nat.le_add_right _ _
  · rw [hread]
  · rw [hread]
  · rw [hread, List.length_append, length_initVpnHeader]
    show length.toNat = 16 + payload.length - 16
    rw [hlength, Nat.add_sub_cancel_left]
  · rw [hread]

/-- A header with nothing behind it. -/
theorem inOrder_bare {types : List PacketType} {type : PacketType} (htype : type ∈ types) (k : ℕ)
    (ts : UInt64) : InOrder types k (initVpnHeader type 0 (UInt32.ofNat k) ts) := by
  have horder : InOrder types k (initVpnHeader type 0 (UInt32.ofNat k) ts ++ []) :=
    inOrder_initVpnHeader htype rfl k ts
  rw [List.append_nil] at horder
  exact horder

theorem ofNat_succ_eq (k : ℕ) : UInt32.ofNat (k + 1) = UInt32.ofNat k + 1 := UInt32.ofNat_add k 1

/-! ## The server -/

variable {S : Sodium}

/-- The datagrams that a server sends. -/
def serverTypes : List PacketType := [.connectResp, .pong, .data]

/-- The server after an event, and the datagrams that it hands to `sendto`. -/
def serverSends (S : Sodium) (server : Server) (e : Event) : Server × List Bytes :=
  ((handleEvent S server e).1, (serverSent (handleEvent S server e).2).map Prod.snd)

/-- What can come of a handler, for the datagrams: it sends none and does not count, or it sends
one and counts it. -/
inductive Sends (server : Server) : Server × List Action → Prop
  | silent {server' : Server} {actions : List Action}
      (hseq : server'.globalSequence = server.globalSequence) (hnone : serverSent actions = []) :
      Sends server (server', actions)
  | sent {server' : Server} {dest : SockAddr} {type : PacketType} {length : UInt16} {ts : UInt64}
      {payload : Bytes} (htype : type ∈ serverTypes) (hlength : length.toNat = payload.length)
      (hseq : server'.globalSequence = server.globalSequence + 1) :
      Sends server (server', [.udpSend dest
        (initVpnHeader type length (server.globalSequence + 1) ts ++ payload)])

/-- A reply that `send_ipc_request` accepts has at most as much data as its caller has room
for. -/
theorem sendIpcRequest_length {nonce : Nonce} {d : Delivery} {conn conn' : Connection}
    {request : Bytes} {respMaxLen : ℕ} {resp : IpcResponse}
    (h : sendIpcRequest S nonce d conn request respMaxLen = (conn', some resp)) :
    resp.data.length ≤ respMaxLen := by
  unfold sendIpcRequest at h
  split_ifs at h with hrunning
  · dsimp only at h
    split_ifs at h with hheader hroom hall hstatus
    all_goals obtain ⟨-, hresp⟩ := Prod.mk.inj h
    iterate 4 exact absurd hresp (by simp)
    · rw [← Option.some.inj hresp]
      unfold IpcResponse.decode
      rw [List.length_take, List.length_drop, not_not.mp hall]
      omega
  · exact absurd (Prod.mk.inj h).2 (by simp)

theorem handleConnectReq_sends {env : Env} {server : Server} (hwf : server.table.Wf)
    (addr : SockAddr) (buffer : Bytes) :
    Sends server (handleConnectReq S env server addr buffer) := by
  by_cases hroom : server.table.count < maxClients
  · obtain ⟨client, hclient⟩ := addClient_isSome hwf hroom addr env.now env.rand
    cases hhs : enclaveHandshake S env.nonce env.delivery server.conn
        (offeredIp server.table addr) (authTokenAt buffer) with
    | mk conn resp =>
        cases resp with
        | none =>
            rw [handleConnectReq_refused hwf hroom hhs]
            exact .silent rfl rfl
        | some resp =>
            rw [handleConnectReq_answered hwf hroom hhs hclient]
            exact .sent (by decide) (by simp) rfl
  · rw [handleConnectReq_full addr _ (not_lt.mp hroom)]
    exact .silent rfl rfl

theorem handleData_sends (env : Env) (server : Server) (addr : SockAddr) (ciphertext : Bytes) :
    Sends server (handleData S env server addr ciphertext) := by
  unfold handleData
  cases findClientByAddr server.table addr with
  | none => exact .silent rfl rfl
  | some client =>
      dsimp only
      split <;> exact .silent rfl rfl

theorem handleDisconnect_sends (env : Env) (server : Server) (addr : SockAddr) :
    Sends server (handleDisconnect S env server addr) := by
  unfold handleDisconnect
  cases findClientByAddr server.table addr with
  | none => exact .silent rfl rfl
  | some client => exact .silent rfl rfl

theorem handlePing_sends (env : Env) (server : Server) (addr : SockAddr) :
    Sends server (handlePing env server addr) := by
  have hsent : Sends server ((handlePing env server addr).1, [.udpSend addr
      (initVpnHeader .pong 0 (server.globalSequence + 1) env.timestampMs ++ [])]) :=
    .sent (by decide) rfl rfl
  rw [List.append_nil] at hsent
  exact hsent

theorem handleTunToUdp_sends (env : Env) (server : Server) (packet : Bytes) :
    Sends server (handleTunToUdp S env server packet) := by
  unfold handleTunToUdp
  dsimp only
  split
  · exact .silent rfl rfl
  split
  · exact .silent rfl rfl
  split
  · exact .silent rfl rfl
  split
  · exact .silent rfl rfl
  · next conn resp hcall =>
      refine .sent (by decide) (toNat_ofNat_length ?_) rfl
      unfold enclaveEncrypt enclaveCall at hcall
      split_ifs at hcall
      · exact absurd (Prod.mk.inj hcall).2 (by simp)
      · have hle := sendIpcRequest_length hcall
        unfold ipcResponseSize ipcMaxDataSize at hle
        omega

/-- **Every event has one of the outcomes.** -/
theorem handleEvent_sends {server : Server} (hwf : server.table.Wf) (e : Event) :
    Sends server (handleEvent S server e) := by
  cases e with
  | udp src datagram env =>
      unfold handleEvent handleUdpToTun
      dsimp only
      split_ifs
      · exact .silent rfl rfl
      · split
        · exact handleConnectReq_sends hwf src _
        · exact handleData_sends env server src _
        · exact handlePing_sends env server src
        · exact handleDisconnect_sends env server src
        · exact .silent rfl rfl
  | tun packet env => exact handleTunToUdp_sends env server packet
  | sweep env => exact .silent rfl rfl

/-- The server has sent `k` datagrams less one. -/
structure NextIs (server : Server) (k : ℕ) : Prop where
  wf : server.table.Wf
  sequence : UInt32.ofNat k = server.globalSequence + 1

/-- One event numbers and counts what it sends. -/
theorem NextIs.step {server : Server} {k : ℕ} (h : NextIs server k) (e : Event) :
    NextIs (serverSends S server e).1 (k + (serverSends S server e).2.length) ∧
      Numbered (InOrder serverTypes) k (serverSends S server e).2 := by
  have hwf : (handleEvent S server e).1.table.Wf := serverStep_wf e h.wf
  have hout := handleEvent_sends (S := S) h.wf e
  unfold serverSends
  generalize handleEvent S server e = r at hwf hout
  cases hout with
  | silent hseq hnone =>
      dsimp only at hwf ⊢
      rw [hnone]
      exact ⟨⟨hwf, by rw [hseq]; exact h.sequence⟩, trivial⟩
  | sent htype hlength hseq =>
      dsimp only at hwf ⊢
      refine ⟨⟨hwf, ?_⟩, ?_, trivial⟩
      · rw [hseq, ← h.sequence]
        exact ofNat_succ_eq k
      · rw [← h.sequence]
        exact inOrder_initVpnHeader htype hlength k _

/-- **The datagrams of a server process.**  Whatever happens, the `k`-th datagram that the server
hands to `sendto` carries the number `k`, the protocol version, the type of an answer or of a
data packet, and the length of what follows its header. -/
theorem serverDatagrams_inOrder (S : Sodium) (secret : Key) {events : List Event} {k : ℕ}
    {datagram : Bytes}
    (hsent : (outputs (serverSends S) (initServer S secret) events)[k]? = some datagram) :
    InOrder serverTypes (k + 1) datagram := by
  have hstart : NextIs (initServer S secret) 1 := ⟨initClientTable_wf, rfl⟩
  obtain ⟨hall, -⟩ := outputs_numbered (fun _ e _ h => h.step (S := S) e) hstart events
  rw [Nat.add_comm k 1]
  exact hall.getElem? hsent

/-- A PING from the first peer. -/
def samplePing : Event := .udp ⟨1, 1⟩ (initVpnHeader .ping 0 2 0) sampleEnv

/-- The second datagram of a server that has accepted a client is the answer to its PING. -/
theorem serverDatagrams_inOrder_pong :
    InOrder serverTypes 2 (initVpnHeader .pong 0 2 0) :=
  serverDatagrams_inOrder sampleSodium zeroKey (k := 1)
    (show (outputs (serverSends sampleSodium) (initServer sampleSodium zeroKey)
      [sampleConnect ⟨1, 1⟩ 1, samplePing])[1]? = _ by decide +kernel)

/-! ## The client -/

/-- The datagrams among a client's actions. -/
def clientDatagrams (actions : List ClientAction) : List Bytes :=
  actions.filterMap fun
    | .udpSend datagram => some datagram
    | _ => none

/-- What `vpn_connect` hands to `sendto`. -/
def connectSends (username : Bytes) (client : Client) (t : ConnectTry) : List Bytes :=
  if !t.socket then [] else [(sendConnectReq t.env client username).2]

/-- What the first part of a turn sends. -/
def reconnectSends (config : VpnConfig) (t : ClientTurn) (s : ClientLoop) : List Bytes :=
  if s.vpn.client.connected then []
  else if config.autoReconnect ≠ 0 then
    if s.vpn.client.reconnectAttempts ≥ config.maxReconnectAttempts then []
    else connectSends (clientUsername config) (reconnecting s.vpn.client) t.connect
  else []

/-- What the packet handlers send. -/
def readySends (S : Sodium) (t : ClientTurn) (udp tun : Option Bytes) (client : Client) :
    List Bytes :=
  let client := match udp with
    | some datagram => (client.handleUdpToTun S t.udpEnv datagram).1
    | none => client
  match tun with
  | some packet => clientDatagrams (client.handleTunToUdp S t.tunEnv packet).2
  | none => []

/-- What the second part of a turn sends. -/
def selectSends (S : Sodium) (config : VpnConfig) (t : ClientTurn) (s : ClientLoop) :
    List Bytes :=
  match t.activity with
  | .failed => []
  | .ready udp tun =>
      match checkKeepalive config.clientConfig t.keepaliveEnv s.vpn.client with
      | (_, _, false) => []
      | (client, actions, true) => clientDatagrams actions ++ readySends S t udp tun client

/-- One turn of the loop, with the datagrams that it hands to `sendto`. -/
def clientLoopSends (S : Sodium) (config : VpnConfig) (s : ClientLoop) (t : ClientTurn) :
    ClientLoop × List Bytes :=
  (clientLoopStep S config s t,
    if s.exit.isSome then []
    else if !t.running then []
    else
      let s' := reconnectPhase S config t s
      reconnectSends config t s ++ (if s'.exit.isSome then [] else selectSends S config t s'))

/-- All that a client process hands to `sendto`: for its first connection, in the turns of its
loop, and in `destroy_vpn_client` at the end. -/
def clientProcessSends (S : Sodium) (config : VpnConfig) (secret : Key) (t : ConnectTry)
    (setup : TunSetup) (turns : List ClientTurn) (env : ClientEnv) : List Bytes :=
  let client := initVpnClient S secret
  connectSends (clientUsername config) client t ++
    match startClient S config secret t setup with
    | none =>
        clientDatagrams
          (destroyVpnClient env (connectOnce S (clientUsername config) client t).1)
    | some s =>
        outputs (clientLoopSends S config) s turns ++
          clientDatagrams
            (destroyVpnClient env (run (clientLoopStep S config) s turns).vpn.client)

/-- The datagrams of a client before its end. -/
def clientTypes : List PacketType := [.connectReq, .ping, .data]

/-- A piece of the program takes the client from one state to the other, and numbers and counts
the datagrams that it sends. -/
def Counts (client client' : Client) (sent : List Bytes) : Prop :=
  ∀ k, UInt32.ofNat k = client.globalSequence + 1 →
    UInt32.ofNat (k + sent.length) = client'.globalSequence + 1 ∧
      Numbered (InOrder clientTypes) k sent

theorem counts_nil {client client' : Client}
    (h : client'.globalSequence = client.globalSequence) : Counts client client' [] := by
  intro k hk
  exact ⟨by rw [h]; exact hk, trivial⟩

theorem Counts.trans {client client' client'' : Client} {sent sent' : List Bytes}
    (h : Counts client client' sent) (h' : Counts client' client'' sent') :
    Counts client client'' (sent ++ sent') := by
  intro k hk
  obtain ⟨hnext, hnumbered⟩ := h k hk
  obtain ⟨hlast, hnumbered'⟩ := h' _ hnext
  refine ⟨?_, hnumbered.append hnumbered'⟩
  rw [List.length_append, ← Nat.add_assoc]
  exact hlast

theorem counts_one {client client' : Client} {type : PacketType} (htype : type ∈ clientTypes)
    {length : UInt16} {payload : Bytes} (hlength : length.toNat = payload.length) (ts : UInt64)
    (h : client'.globalSequence = client.globalSequence + 1) :
    Counts client client'
      [initVpnHeader type length (client.globalSequence + 1) ts ++ payload] := by
  intro k hk
  refine ⟨?_, ?_, trivial⟩
  · rw [h, ← hk]
    exact ofNat_succ_eq k
  · rw [← hk]
    exact inOrder_initVpnHeader htype hlength k ts

/-- The same states up to the counter. -/
theorem Counts.congr {client client' client'' : Client} {sent : List Bytes}
    (h : Counts client client' sent)
    (hseq : client''.globalSequence = client'.globalSequence) : Counts client client'' sent := by
  intro k hk
  rw [hseq]
  exact h k hk

theorem globalSequence_recvConnectResp (env : ClientEnv) (client : Client) (buffer : Bytes) :
    (recvConnectResp S env client buffer).1.globalSequence = client.globalSequence := by
  unfold recvConnectResp
  dsimp only
  split_ifs
  · rfl
  · rfl
  · split <;> rfl

theorem connectOnce_counts (username : Bytes) (client : Client) (t : ConnectTry) :
    Counts client (connectOnce S username client t).1 (connectSends username client t) := by
  have hone : Counts client (sendConnectReq t.env client username).1
      [(sendConnectReq t.env client username).2] :=
    counts_one (by decide) (by simp) t.env.timestampMs rfl
  unfold connectOnce connectSends
  split_ifs
  · exact counts_nil rfl
  · exact hone
  · unfold vpnConnect
    cases t.reply with
    | none => exact hone
    | some datagram => exact hone.congr (globalSequence_recvConnectResp _ _ _)

/-- The client that `attempt_reconnect` leaves is the one that its `vpn_connect` leaves. -/
theorem client_attemptReconnect {config : VpnConfig} {vpn : VpnClient} (t : ConnectTry)
    (setup : TunSetup)
    (h : ¬ vpn.client.reconnectAttempts ≥ config.maxReconnectAttempts) :
    (attemptReconnect S config t setup vpn).1.client
      = (connectOnce S (clientUsername config) (reconnecting vpn.client) t).1 := by
  unfold attemptReconnect
  rw [if_neg h]
  dsimp only
  split
  · next heq => exact (congrArg Prod.fst heq).symm
  · next heq =>
      rw [client_setupClientTun]
      exact (congrArg Prod.fst heq).symm

theorem client_reconnectPhase {config : VpnConfig} {t : ClientTurn} {s : ClientLoop}
    (hconnected : ¬ s.vpn.client.connected = true) (hauto : config.autoReconnect ≠ 0) :
    (reconnectPhase S config t s).vpn
      = (attemptReconnect S config t.connect t.setup s.vpn).1 := by
  unfold reconnectPhase
  rw [if_neg hconnected, if_pos hauto]
  split <;> next heq => exact (congrArg Prod.fst heq).symm

theorem reconnectPhase_counts (config : VpnConfig) (t : ClientTurn) (s : ClientLoop) :
    Counts s.vpn.client (reconnectPhase S config t s).vpn.client
      (reconnectSends config t s) := by
  unfold reconnectSends
  split_ifs with hconnected hauto hused
  · unfold reconnectPhase
    rw [if_pos hconnected]
    exact counts_nil rfl
  · rw [client_reconnectPhase hconnected hauto, attemptReconnect_refused hused]
    exact counts_nil rfl
  · rw [client_reconnectPhase hconnected hauto, client_attemptReconnect _ _ hused]
    exact connectOnce_counts _ (reconnecting s.vpn.client) t.connect
  · unfold reconnectPhase
    rw [if_neg hconnected, if_neg hauto]
    exact counts_nil rfl

theorem globalSequence_handleUdpToTun (env : ClientEnv) (client : Client) (datagram : Bytes) :
    (client.handleUdpToTun S env datagram).1.globalSequence = client.globalSequence := by
  unfold Client.handleUdpToTun
  dsimp only
  split_ifs
  · rfl
  · split <;> rfl

theorem handleTunToUdp_counts (env : ClientEnv) (client : Client) (packet : Bytes) :
    Counts client (client.handleTunToUdp S env packet).1
      (clientDatagrams (client.handleTunToUdp S env packet).2) := by
  unfold Client.handleTunToUdp
  dsimp only
  cases henc : cryptoEncrypt S (packet.take bufferSize) client.sessionKey env.nonce with
  | none => exact counts_nil rfl
  | some ciphertext =>
      have hct : ciphertext.length = (packet.take bufferSize).length + 16 :=
        S.length_aeadEncrypt henc
      have hle := recvLen_le packet
      unfold recvLen at hle
      -- All of nonce and ciphertext is copied, and 2076 bytes at most.
      have hlen : ((env.nonce.toList ++ ciphertext).take
          (cryptoNonceSize + (packet.take bufferSize).length + cryptoMacSize)).length
          = cryptoNonceSize + (packet.take bufferSize).length + cryptoMacSize := by
        rw [List.length_take, List.length_append, hct, Vector.length_toList]
        unfold cryptoNonceSize cryptoMacSize
        omega
      refine counts_one (by decide) ?_ env.timestampMs rfl
      rw [hlen, UInt16.toNat_ofNat']
      apply Nat.mod_eq_of_lt
      unfold cryptoNonceSize cryptoMacSize
      unfold bufferSize at hle ⊢
      omega

theorem handleReady_counts (t : ClientTurn) (udp tun : Option Bytes) (client : Client) :
    Counts client (handleReady S t udp tun client) (readySends S t udp tun client) := by
  unfold handleReady readySends
  cases udp with
  | none =>
      cases tun with
      | none => exact counts_nil rfl
      | some packet => exact handleTunToUdp_counts t.tunEnv client packet
  | some datagram =>
      have hudp : Counts client (client.handleUdpToTun S t.udpEnv datagram).1 [] :=
        counts_nil (globalSequence_handleUdpToTun _ _ _)
      cases tun with
      | none => exact hudp
      | some packet => exact hudp.trans (handleTunToUdp_counts t.tunEnv _ packet)

theorem checkKeepalive_counts (config : ClientConfig) (env : ClientEnv) (client : Client) :
    Counts client (checkKeepalive config env client).1
      (clientDatagrams (checkKeepalive config env client).2.1) := by
  unfold checkKeepalive
  split_ifs
  · exact counts_nil rfl
  · have hone : Counts client (sendPing env client).1
        [initVpnHeader .ping 0 (client.globalSequence + 1) env.timestampMs ++ []] :=
      counts_one (by decide) rfl env.timestampMs rfl
    rw [List.append_nil] at hone
    exact hone
  · exact counts_nil rfl

theorem selectPhase_counts (config : VpnConfig) (t : ClientTurn) (s : ClientLoop) :
    Counts s.vpn.client (selectPhase S config t s).vpn.client (selectSends S config t s) := by
  have hkeepalive := checkKeepalive_counts config.clientConfig t.keepaliveEnv s.vpn.client
  unfold selectPhase selectSends
  cases t.activity with
  | failed => exact counts_nil rfl
  | ready udp tun =>
      cases hcheck : checkKeepalive config.clientConfig t.keepaliveEnv s.vpn.client with
      | mk client rest =>
          obtain ⟨actions, alive⟩ := rest
          rw [hcheck] at hkeepalive
          cases alive with
          | true => exact hkeepalive.trans (handleReady_counts t udp tun client)
          | false =>
              -- Without an answer nothing is sent, so the counter stays.
              apply counts_nil
              show client.globalSequence = _
              unfold checkKeepalive at hcheck
              split_ifs at hcheck
              · rw [← (Prod.mk.inj hcheck).1]
              · exact absurd (Prod.mk.inj (Prod.mk.inj hcheck).2).2 Bool.true_eq_false.mp
              · exact absurd (Prod.mk.inj (Prod.mk.inj hcheck).2).2 Bool.true_eq_false.mp

/-- **A turn counts what it sends.** -/
theorem clientLoopSends_counts (config : VpnConfig) (s : ClientLoop) (t : ClientTurn) :
    Counts s.vpn.client (clientLoopSends S config s t).1.vpn.client
      (clientLoopSends S config s t).2 := by
  unfold clientLoopSends clientLoopStep
  dsimp only
  split_ifs with hleft hrunning hlost
  · exact counts_nil rfl
  · exact counts_nil rfl
  · rw [List.append_nil]
    exact reconnectPhase_counts config t s
  · exact (reconnectPhase_counts config t s).trans (selectPhase_counts config t _)

/-- The datagrams of a client up to `destroy_vpn_client`, and the client it then has. -/
theorem clientProcess_split (S : Sodium) (config : VpnConfig) (secret : Key) (t : ConnectTry)
    (setup : TunSetup) (turns : List ClientTurn) (env : ClientEnv) :
    ∃ sent client, Counts (initVpnClient S secret) client sent ∧
      clientProcessSends S config secret t setup turns env
        = sent ++ clientDatagrams (destroyVpnClient env client) := by
  have hconnect := connectOnce_counts (S := S) (clientUsername config) (initVpnClient S secret) t
  unfold clientProcessSends
  dsimp only
  cases hstart : startClient S config secret t setup with
  | none => exact ⟨_, _, hconnect, rfl⟩
  | some s =>
      obtain ⟨client, hclient, rfl⟩ := startClient_eq_some hstart
      rw [hclient] at hconnect
      have hturns : Counts client (run (clientLoopStep S config)
          ⟨⟨client, true, some client.vpnIp⟩, [], none⟩ turns).vpn.client
          (outputs (clientLoopSends S config) ⟨⟨client, true, some client.vpnIp⟩, [], none⟩
            turns) := by
        intro k hk
        obtain ⟨hall, hlast⟩ := outputs_numbered
          (C := fun (s : ClientLoop) k => UInt32.ofNat k = s.vpn.client.globalSequence + 1)
          (fun s t k h => clientLoopSends_counts (S := S) config s t k h)
          (s := ⟨⟨client, true, some client.vpnIp⟩, [], none⟩) hk turns
        exact ⟨hlast, hall⟩
      exact ⟨_, _, hconnect.trans hturns, (List.append_assoc _ _ _).symm⟩

/-- **The datagrams of a client process.**  Whatever happens, the `k`-th datagram that the client
hands to `sendto` carries the number `k`, the protocol version and the length of what follows its
header.  It is a CONNECT_REQ, a PING or a data packet, or it is the last one and a DISCONNECT. -/
theorem clientDatagrams_inOrder (S : Sodium) (config : VpnConfig) (secret : Key) (t : ConnectTry)
    (setup : TunSetup) {turns : List ClientTurn} {env : ClientEnv} {k : ℕ} {datagram : Bytes}
    (hsent : (clientProcessSends S config secret t setup turns env)[k]? = some datagram) :
    InOrder clientTypes (k + 1) datagram ∨
      k + 1 = (clientProcessSends S config secret t setup turns env).length ∧
        InOrder [.disconnect] (k + 1) datagram := by
  obtain ⟨sent, client, hcounts, hsplit⟩ := clientProcess_split S config secret t setup turns env
  obtain ⟨hnext, hnumbered⟩ := hcounts 1 rfl
  rw [hsplit] at hsent ⊢
  by_cases hk : k < sent.length
  · rw [List.getElem?_append_left hk] at hsent
    rw [Nat.add_comm k 1]
    exact Or.inl (hnumbered.getElem? hsent)
  · -- What is left is the DISCONNECT of a connected client.
    right
    rw [List.getElem?_append_right (not_lt.mp hk)] at hsent
    unfold destroyVpnClient at hsent ⊢
    split_ifs at hsent ⊢ with hconnected
    · obtain ⟨hlt, hdatagram⟩ := List.getElem?_eq_some_iff.mp hsent
      have hlast : k = sent.length := by
        have hone : k - sent.length < 1 := hlt
        omega
      subst hlast
      refine ⟨by simp [clientDatagrams], ?_⟩
      have horder : InOrder [.disconnect] (sent.length + 1) (initVpnHeader .disconnect 0
          (UInt32.ofNat (sent.length + 1)) env.timestampMs) :=
        inOrder_bare (by decide) (sent.length + 1) env.timestampMs
      rw [Nat.add_comm sent.length 1, hnext, Nat.add_comm 1] at horder
      have heq : datagram
          = initVpnHeader .disconnect 0 (client.globalSequence + 1) env.timestampMs := by
        simpa [clientDatagrams] using hsent.symm
      rw [heq]
      exact horder
    · simp [clientDatagrams] at hsent

/-- A client that connects, sends a PING after 40 seconds and ends: the third datagram is its
DISCONNECT. -/
theorem clientDatagrams_inOrder_three :
    InOrder clientTypes 3 (initVpnHeader .disconnect 0 3 0) ∨
      3 = (clientProcessSends sampleSodium (sampleConfig 3) zeroKey
        (sampleTry (some (sampleReply firstIp)) 0) ⟨true, true, true⟩ [sampleTurn none 40]
        (clientEnvAt 41)).length ∧
      InOrder [.disconnect] 3 (initVpnHeader .disconnect 0 3 0) :=
  clientDatagrams_inOrder sampleSodium (sampleConfig 3) zeroKey
    (sampleTry (some (sampleReply firstIp)) 0) ⟨true, true, true⟩ (k := 2) (by decide +kernel)

end Vpn
