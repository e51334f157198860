/-
# What comes out of the tunnel went into it

One client and the server talk through a network that loses, delays and reorders datagrams; either
side may restart at any time.  `tunnel_integrity` says that the packets written to one TUN device
are among the packets read from the other, each at most as often as it was read: nothing that the
two programs and the enclave do invents, alters or doubles a packet.

The assumption on the cryptography is about the run only: a packet that was sealed in it is opened
as itself or not at all, with every key that one of the two sides holds in it (`Committing`).
-/
import CloudVpn.Channels
import CloudVpn.ClientLoop
import CloudVpn.DataPlane
import CloudVpn.Network
import CloudVpn.Traces

open Memory Slots Runs Traces Channels

namespace Vpn

/-! ## The TUN devices -/

/-- The two programs. -/
inductive Side where
  | client
  | server
  deriving DecidableEq

/-- What a program does with its TUN device. -/
inductive TunOp where
  | read
  | write
  deriving DecidableEq

/-- A packet that passes a TUN device. -/
structure TunRecord where
  side : Side
  op : TunOp
  packet : Bytes

/-- The packets that one side has read, or written. -/
def packetsAt (side : Side) (op : TunOp) (records : List TunRecord) : List Bytes :=
  records.filterMap fun r => if r.side = side ∧ r.op = op then some r.packet else none

/-- The writes among the server's actions. -/
def serverWrites (actions : List Action) : List Bytes :=
  actions.filterMap fun
    | .tunWrite packet => some packet
    | .udpSend _ _ => none

/-- The writes among the client's actions. -/
def clientWrites (actions : List ClientAction) : List Bytes :=
  actions.filterMap fun
    | .tunWrite packet => some packet
    | _ => none

/-- What passes the TUN devices in an event. -/
def tunRecords (S : Sodium) (w : World) : WorldEvent → List TunRecord
  | .clientTun packet _ => if w.looping then [⟨.client, .read, packet⟩] else []
  | .serverTun packet _ => [⟨.server, .read, packet⟩]
  | .clientRecv k env =>
      match w.toClient[k]? with
      | none => []
      | some (dest, datagram) =>
          if dest = w.addr ∧ w.pending = none then
            (clientWrites (w.client.handleUdpToTun S env datagram).2).map (⟨.client, .write, ·⟩)
          else []
  | .serverRecv k env =>
      match w.toServer[k]? with
      | none => []
      | some (src, datagram) =>
          (serverWrites (handleUdpToTun S env w.server src datagram).2).map (⟨.server, .write, ·⟩)
  | _ => []

/-- The world after an event, and what has passed the TUN devices. -/
def worldNext (S : Sodium) (config : ClientConfig) (w : World) (e : WorldEvent) :
    World × List TunRecord :=
  (worldStep S config w e, tunRecords S w e)

/-- What passes the TUN devices in a run. -/
def tunHistory (S : Sodium) (config : ClientConfig) (w : World) (events : List WorldEvent) :
    List TunRecord :=
  outputs (worldNext S config) w events

@[simp] theorem packetsAt_append (side : Side) (op : TunOp) (records records' : List TunRecord) :
    packetsAt side op (records ++ records')
      = packetsAt side op records ++ packetsAt side op records' := List.filterMap_append

@[simp] theorem packetsAt_map (side side' : Side) (op op' : TunOp) (packets : List Bytes) :
    packetsAt side op (packets.map (⟨side', op', ·⟩))
      = if side' = side ∧ op' = op then packets else [] := by
  unfold packetsAt
  rw [List.filterMap_map]
  split_ifs with h
  · simp [h]
  · simp [h]

/-! ## Assumptions -/

/-- A packet that is sealed, with the nonce and the key. -/
structure Sealing where
  packet : Bytes
  nonce : Nonce
  key : Key

/-- What the enclave seals for a packet from the server's TUN device. -/
def serverSeals (server : Server) (nonce : Nonce) (packet : Bytes) : List Sealing :=
  if packet.length < 20 ∨ ipVersion packet = 6 then []
  else
    match findClientByVpnIp server.table (destinationIp packet) with
    | none => []
    | some i =>
        (getKey server.conn.enclave.km (server.table.clients i).vpnIp).toList.map
          (⟨packet, nonce, ·⟩)

/-- What is sealed in an event. -/
def World.seals (w : World) : WorldEvent → List Sealing
  | .clientTun packet env =>
      if w.looping then [⟨packet.take bufferSize, env.nonce, w.client.sessionKey⟩] else []
  | .serverTun packet env => serverSeals w.server env.nonce (packet.take bufferSize)
  | _ => []

/-- One of the two sides holds the key: the client as its session key, or the enclave. -/
def World.Holds (w : World) (key : Key) : Prop :=
  key = w.client.sessionKey ∨ ∃ vpnIp, getKey w.server.conn.enclave.km vpnIp = some key

/-- What is sealed in a run. -/
def sealedIn (S : Sodium) (config : ClientConfig) (w : World) (events : List WorldEvent) :
    Set Sealing :=
  {sealing | ∃ w' e, Happens (worldStep S config) w events w' e ∧ sealing ∈ w'.seals e}

/-- The keys that are held in a run. -/
def heldIn (S : Sodium) (config : ClientConfig) (w : World) (events : List WorldEvent) : Set Key :=
  {key | ∃ w' e, Happens (worldStep S config) w events w' e ∧ w'.Holds key}

/-- With each of the keys, what was sealed is opened as the packet that it was, or not at all. -/
def Committing (S : Sodium) (seals : Set Sealing) (keys : Set Key) : Prop :=
  ∀ sealing ∈ seals, ∀ key ∈ keys, ∀ ciphertext packet,
    S.aeadEncrypt sealing.packet sealing.nonce sealing.key = some ciphertext →
    S.aeadDecrypt ciphertext sealing.nonce key = some packet → packet = sealing.packet

/-- What the event seals and the keys of both sides are among the given ones. -/
structure Within (seals : Set Sealing) (keys : Set Key) (w : World) (e : WorldEvent) : Prop where
  sealed : ∀ sealing ∈ w.seals e, sealing ∈ seals
  held : ∀ key, w.Holds key → key ∈ keys

/-- Every event of a run is within what is sealed and held in it. -/
theorem along_within (S : Sodium) (config : ClientConfig) (w : World) (events : List WorldEvent) :
    Along (worldStep S config)
      (Within (sealedIn S config w events) (heldIn S config w events)) w events :=
  (along_happens w events).imp (I := fun _ => True)
    (fun w' e _ h => ⟨trivial, fun _ hs => ⟨w', e, h, hs⟩, fun _ hk => ⟨w', e, h, hk⟩⟩) trivial

/-- The packet fits the buffers that it passes, and IPC replies arrive whole. -/
def WorldEvent.Regular : WorldEvent → Prop
  | .clientTun packet _ => packet.length ≤ 2004
  | .serverTun packet env => packet.length ≤ 2004 ∧ env.delivery = .whole
  | .serverRecv _ env => env.delivery = .whole
  | .sweep env => env.delivery = .whole
  | _ => True

/-! ## What a datagram carries -/

/-- A datagram carries nothing, if it is not a data packet, or one of the sealed packets. -/
inductive Carries (S : Sodium) (seals : Set Sealing) : SockAddr × Bytes → Option Bytes → Prop
  | control (addr : SockAddr) {datagram : Bytes}
      (htype : byteAt datagram 0 ≠ PacketType.data.toByte) :
      Carries S seals (addr, datagram) none
  | sealed (addr : SockAddr) {header ciphertext packet : Bytes} {nonce : Nonce} {key : Key}
      (hheader : header.length = 16) (hfits : packet.length ≤ 2004)
      (hsealed : ⟨packet, nonce, key⟩ ∈ seals)
      (hseal : S.aeadEncrypt packet nonce key = some ciphertext) :
      Carries S seals (addr, header ++ (nonce.toList ++ ciphertext)) (some packet)

variable {S : Sodium} {seals : Set Sealing} {keys : Set Key} {env : Env} {server : Server}
  {addr : SockAddr} {datagram packet : Bytes}

/-- A packet that fits is read whole. -/
theorem take_bufferSize (hfits : packet.length ≤ 2004) : packet.take bufferSize = packet :=
  List.take_of_length_le (hfits.trans (by decide))

theorem carries_control (addr : SockAddr) (type : PacketType)
    (htype : byteAt datagram 0 = type.toByte) (hne : type ≠ .data) :
    Carries S seals (addr, datagram) none := by
  refine .control addr ?_
  rw [htype]
  cases type with
  | data => exact absurd rfl hne
  | connectReq => decide
  | connectResp => decide
  | ping => decide
  | pong => decide
  | disconnect => decide

/-- A whole data packet is taken apart as it was put together. -/
theorem sealed_layout {header ciphertext : Bytes} {nonce : Nonce} {key : Key}
    (hheader : header.length = 16) (hfits : packet.length ≤ 2004)
    (hseal : S.aeadEncrypt packet nonce key = some ciphertext) :
    (header ++ (nonce.toList ++ ciphertext)).take bufferSize
        = header ++ (nonce.toList ++ ciphertext) ∧
      28 ≤ (header ++ (nonce.toList ++ ciphertext)).length := by
  have hct := S.length_aeadEncrypt hseal
  constructor
  · apply List.take_of_length_le
    simp only [List.length_append, Vector.length_toList, hheader, hct, bufferSize]
    omega
  · simp only [List.length_append, Vector.length_toList, hheader]
    omega

/-! ## The server -/

theorem serverWrites_handleConnectReq (buffer : Bytes) :
    serverWrites (handleConnectReq S env server addr buffer).2 = [] := by
  unfold handleConnectReq
  dsimp only
  split_ifs
  · rfl
  · split
    · rfl
    · split <;> rfl

/-- The server writes something only for a data packet from a peer that it knows, and then what
the enclave opens for this peer. -/
theorem handleUdpToTun_writes (hsync : server.conn.Synced) (hd : env.delivery = .whole)
    (addr : SockAddr) (datagram : Bytes) :
    serverWrites (handleUdpToTun S env server addr datagram).2 = [] ∨
      ∃ vpnIp plain, byteAt datagram 0 = PacketType.data.toByte ∧
        openFor S server.conn.enclave.km vpnIp ((datagram.take bufferSize).drop vpnHeaderSize)
          = some plain ∧
        serverWrites (handleUdpToTun S env server addr datagram).2 = [plain] := by
  by_cases hshort : recvLen datagram < vpnHeaderSize
  · left
    unfold handleUdpToTun
    simp only [if_pos hshort]
    rfl
  by_cases htype : byteAt datagram 0 = PacketType.data.toByte
  · cases hfind : findClientByAddr server.table addr with
    | none =>
        left
        unfold handleUdpToTun
        rw [if_neg hshort, byteAt_recvInto env.buffer
          (lt_of_lt_of_le (by decide) (not_lt.mp hshort)), htype, PacketType.ofByte_toByte]
        simp only [handleData, hfind]
        rfl
    | some i =>
        have hlen : vpnHeaderSize ≤ datagram.length := by
          unfold recvLen at hshort
          rw [List.length_take] at hshort
          omega
        rw [handleUdpToTun_data hsync hd hlen htype hfind]
        cases hopen : openFor S server.conn.enclave.km (server.table.clients i).vpnIp
            ((datagram.take bufferSize).drop vpnHeaderSize) with
        | none => exact Or.inl rfl
        | some plain => exact Or.inr ⟨_, plain, htype, hopen, rfl⟩
  · left
    unfold handleUdpToTun
    rw [if_neg hshort, byteAt_recvInto env.buffer
      (lt_of_lt_of_le (by decide) (not_lt.mp hshort))]
    cases hof : PacketType.ofByte (byteAt datagram 0) with
    | none => rfl
    | some type =>
        cases type with
        | connectReq => exact serverWrites_handleConnectReq _
        | connectResp => rfl
        | pong => rfl
        | data => exact absurd (PacketType.eq_toByte hof) htype
        | ping => rfl
        | disconnect =>
            dsimp only
            unfold handleDisconnect
            cases findClientByAddr server.table addr <;> rfl

/-- What the server answers to a datagram carries no packet. -/
theorem handleUdpToTun_answers (hwf : server.table.Wf) (seals : Set Sealing) (env : Env)
    (addr : SockAddr) (datagram : Bytes) :
    ∀ m ∈ serverSent (handleUdpToTun S env server addr datagram).2, Carries S seals m none := by
  intro m hm
  have hout : UdpOutcome S env server addr datagram
      (handleUdpToTun S env server addr datagram).1.table
      (handleUdpToTun S env server addr datagram).2 := handleUdpToTun_outcome hwf addr datagram
  generalize (handleUdpToTun S env server addr datagram).2 = actions at hout hm
  generalize (handleUdpToTun S env server addr datagram).1.table = table at hout
  cases hout with
  | ignored => simp [serverSent] at hm
  | answered sessionId serverPublicKey htype hroom =>
      rw [List.mem_singleton.mp hm]
      exact carries_control addr .connectResp rfl (by decide)
  | refused => simp [serverSent] at hm
  | delivered hactions =>
      obtain ⟨a, ha, hsent⟩ := List.mem_filterMap.mp hm
      obtain ⟨packet, rfl⟩ := hactions a ha
      exact absurd hsent (by simp)
  | ponged htype htable =>
      rw [List.mem_singleton.mp hm]
      exact carries_control addr .pong rfl (by decide)
  | dropped => simp [serverSent] at hm

/-- The server takes no more out of a datagram than it carries. -/
theorem serverWrites_subperm (hcommit : Committing S seals keys) (hsync : server.conn.Synced)
    (hd : env.delivery = .whole)
    (hkeys : ∀ vpnIp key, getKey server.conn.enclave.km vpnIp = some key → key ∈ keys)
    {o : Option Bytes} (h : Carries S seals (addr, datagram) o) :
    (serverWrites (handleUdpToTun S env server addr datagram).2).Subperm o.toList := by
  rcases handleUdpToTun_writes (S := S) hsync hd addr datagram with
    hnone | ⟨vpnIp, plain, htype, hopen, hwrites⟩
  · rw [hnone]
    exact List.nil_subperm
  · rw [hwrites]
    cases h with
    | control _ hother => exact absurd htype hother
    | @sealed _ header ciphertext packet nonce key hheader hfits hsealed hseal =>
        rw [(sealed_layout hheader hfits hseal).1, (data_packet_layout hheader).1] at hopen
        obtain ⟨key', hget, -⟩ := Option.bind_eq_some_iff.mp hopen
        rw [openFor_eq_decrypt hget (by simp [cryptoNonceSize]), bytesAt_toList,
          List.drop_left' (by simp [cryptoNonceSize])] at hopen
        rw [hcommit _ hsealed key' (hkeys vpnIp key' hget) ciphertext plain hseal hopen]
        exact List.Subperm.refl _

/-- What the server sends for a packet carries this packet. -/
theorem handleTunToUdp_carries (hsync : server.conn.Synced) (hd : env.delivery = .whole)
    (hsealed : ∀ sealing ∈ serverSeals server env.nonce packet, sealing ∈ seals)
    (hfits : packet.length ≤ 2004) :
    ∃ contents, List.Forall₂ (Carries S seals)
        (serverSent (handleTunToUdp S env server packet).2) contents ∧
      contents.reduceOption.Subperm [packet] := by
  have htake := take_bufferSize hfits
  have hnothing : List.Forall₂ (Carries S seals) (serverSent []) [] ∧
      ([] : List (Option Bytes)).reduceOption.Subperm [packet] := ⟨.nil, List.nil_subperm⟩
  by_cases hlen : packet.length < 20
  · simp only [handleTunToUdp, htake, if_pos hlen]
    exact ⟨[], hnothing⟩
  by_cases hversion : ipVersion packet = 6
  · simp only [handleTunToUdp, htake, if_neg hlen, if_pos hversion]
    exact ⟨[], hnothing⟩
  cases hfind : findClientByVpnIp server.table (destinationIp packet) with
  | none =>
      simp only [handleTunToUdp, htake, if_neg hlen, if_neg hversion, hfind]
      exact ⟨[], hnothing⟩
  | some i =>
      rw [handleTunToUdp_synced hsync hd (by rw [htake]; exact not_lt.mp hlen)
        (by rw [htake]; exact hversion) (by rw [htake]; exact hfind), htake]
      cases hdata : sealFor S env.nonce server.conn.enclave.km
          (server.table.clients i).vpnIp packet with
      | none => exact ⟨[], hnothing⟩
      | some data =>
          obtain ⟨key, hget, hrest⟩ := Option.bind_eq_some_iff.mp hdata
          obtain ⟨ciphertext, hseal, rfl⟩ := Option.map_eq_some_iff.mp hrest
          refine ⟨[some packet], .cons ?_ .nil, List.Subperm.refl _⟩
          refine .sealed _ (length_initVpnHeader _ _ _ _) hfits (hsealed _ ?_) hseal
          unfold serverSeals
          rw [if_neg (not_or.mpr ⟨hlen, hversion⟩), hfind]
          simp [hget]

/-! ## The client -/

variable {client : Client}

/-- The client writes something only for a whole data packet, and then what it opens with its
session key. -/
theorem Client.handleUdpToTun_writes (clientEnv : ClientEnv) (client : Client) (datagram : Bytes) :
    clientWrites (client.handleUdpToTun S clientEnv datagram).2 = [] ∨
      ∃ plain, byteAt datagram 0 = PacketType.data.toByte ∧
        cryptoDecrypt S ((datagram.take bufferSize).drop 28) client.sessionKey
          (bytesAt 12 (datagram.take bufferSize) 16) = some plain ∧
        clientWrites (client.handleUdpToTun S clientEnv datagram).2 = [plain] := by
  by_cases hshort : recvLen datagram < vpnHeaderSize
  · left
    unfold Client.handleUdpToTun
    simp only [if_pos hshort]
    rfl
  have hzero := byteAt_recvInto clientEnv.buffer
    (lt_of_lt_of_le (show 0 < vpnHeaderSize by decide) (not_lt.mp hshort))
  by_cases htype : byteAt datagram 0 = PacketType.data.toByte
  · by_cases hlen : 28 ≤ datagram.length
    · rw [Client.handleUdpToTun_data hlen htype]
      cases hopen : cryptoDecrypt S ((datagram.take bufferSize).drop 28) client.sessionKey
          (bytesAt 12 (datagram.take bufferSize) 16) with
      | none => exact Or.inl rfl
      | some plain => exact Or.inr ⟨plain, htype, rfl, rfl⟩
    · -- Without a whole nonce the length of the ciphertext wraps round.
      left
      have hwrap : 28 + encryptedLen (recvLen datagram) > bufferSize := by
        unfold recvLen vpnHeaderSize at *
        rw [List.length_take] at *
        unfold encryptedLen vpnHeaderSize cryptoNonceSize bufferSize at *
        omega
      unfold Client.handleUdpToTun
      rw [if_neg hshort, hzero, htype, PacketType.ofByte_toByte]
      simp only [Client.handleData, if_pos hwrap]
      rfl
  · left
    unfold Client.handleUdpToTun
    rw [if_neg hshort, hzero]
    cases hof : PacketType.ofByte (byteAt datagram 0) with
    | none => rfl
    | some type =>
        cases type with
        | data => exact absurd (PacketType.eq_toByte hof) htype
        | connectReq => rfl
        | connectResp => rfl
        | pong => rfl
        | ping => rfl
        | disconnect => rfl

/-- The client takes no more out of a datagram than it carries. -/
theorem clientWrites_subperm (hcommit : Committing S seals keys) (hkey : client.sessionKey ∈ keys)
    (clientEnv : ClientEnv) {o : Option Bytes} (h : Carries S seals (addr, datagram) o) :
    (clientWrites (client.handleUdpToTun S clientEnv datagram).2).Subperm o.toList := by
  rcases Client.handleUdpToTun_writes (S := S) clientEnv client datagram with
    hnone | ⟨plain, htype, hopen, hwrites⟩
  · rw [hnone]
    exact List.nil_subperm
  · rw [hwrites]
    cases h with
    | control _ hother => exact absurd htype hother
    | @sealed _ header ciphertext packet nonce key hheader hfits hsealed hseal =>
        rw [(sealed_layout hheader hfits hseal).1, (data_packet_layout hheader).2.1,
          (data_packet_layout hheader).2.2] at hopen
        rw [hcommit _ hsealed _ hkey ciphertext plain hseal hopen]
        exact List.Subperm.refl _

/-- What the client sends for a packet carries this packet. -/
theorem Client.handleTunToUdp_carries (addr : SockAddr) (clientEnv : ClientEnv)
    (hsealed : ⟨packet, clientEnv.nonce, client.sessionKey⟩ ∈ seals)
    (hfits : packet.length ≤ 2004) :
    ∃ contents, List.Forall₂ (Carries S seals)
        (clientSent addr (client.handleTunToUdp S clientEnv packet).2) contents ∧
      contents.reduceOption.Subperm [packet] := by
  have hlen : packet.length ≤ bufferSize := hfits.trans (by decide)
  cases hseal : S.aeadEncrypt packet clientEnv.nonce client.sessionKey with
  | none =>
      refine ⟨[], ?_, List.nil_subperm⟩
      unfold Client.handleTunToUdp cryptoEncrypt
      simp only [List.take_of_length_le hlen, hseal]
      exact .nil
  | some ciphertext =>
      rw [Client.handleTunToUdp_eq hlen hseal]
      refine ⟨[some packet], .cons ?_ .nil, List.Subperm.refl _⟩
      exact .sealed addr (length_initVpnHeader _ _ _ _) hfits hsealed hseal

/-! ## Runs -/

variable {w : World} {records : List TunRecord}

/-- What every event keeps: in both directions, what has come out of the tunnel or is on the way
has gone into it. -/
structure Intact (S : Sodium) (seals : Set Sealing) (w : World) (records : List TunRecord) :
    Prop where
  sound : Monitored.Sound ⟨w.server, fun _ => none⟩
  up : Accounted (Carries S seals) w.toServer (packetsAt .server .write records)
    (packetsAt .client .read records)
  down : Accounted (Carries S seals) w.toClient (packetsAt .client .write records)
    (packetsAt .server .read records)

/-- The server stays sound. -/
theorem serverStep_sound (event : Event) (hd : event.env.delivery = .whole)
    (h : Monitored.Sound ⟨server, fun _ => none⟩) :
    Monitored.Sound ⟨(handleEvent S server event).1, fun _ => none⟩ := by
  have hnext := monitoredStep_sound (S := S) event hd h
  exact ⟨hnext.wf, hnext.synced⟩

/-- The client sends control packets only, and nothing passes the TUN devices. -/
theorem Intact.sendControl (h : Intact S seals w records) {w' : World}
    (hserver : w'.server = w.server) (hdown : w'.toClient = w.toClient)
    {messages : List (SockAddr × Bytes)} (hup : w'.toServer = w.toServer ++ messages)
    (hcontrol : ∀ m ∈ messages, Carries S seals m none) : Intact S seals w' records := by
  refine ⟨by rw [hserver]; exact h.sound, ?_, by rw [hdown]; exact h.down⟩
  rw [hup]
  exact h.up.sendEmpty hcontrol

/-- The client handles a packet from its TUN device. -/
theorem Intact.clientTun (h : Intact S seals w records) (env : ClientEnv)
    (hsealed : ⟨packet, env.nonce, w.client.sessionKey⟩ ∈ seals) (hfits : packet.length ≤ 2004) :
    Intact S seals (w.clientActs (w.client.handleTunToUdp S env packet))
      (records ++ [⟨.client, .read, packet⟩]) := by
  obtain ⟨contents, hcarries, hnew⟩ :=
    Client.handleTunToUdp_carries (S := S) w.addr env hsealed hfits
  refine ⟨h.sound, ?_, ?_⟩
  · have hsent := h.up.send hcarries hnew
    simpa [packetsAt, World.clientActs] using hsent
  · simpa [packetsAt, World.clientActs] using h.down

/-- The server handles a packet from its TUN device. -/
theorem Intact.serverTun (h : Intact S seals w records) (hd : env.delivery = .whole)
    (hsealed : ∀ sealing ∈ serverSeals w.server env.nonce packet, sealing ∈ seals)
    (hfits : packet.length ≤ 2004) :
    Intact S seals (w.serverActs (handleTunToUdp S env w.server packet))
      (records ++ [⟨.server, .read, packet⟩]) := by
  obtain ⟨contents, hcarries, hnew⟩ :=
    handleTunToUdp_carries (S := S) h.sound.synced hd hsealed hfits
  refine ⟨serverStep_sound (.tun packet env) hd h.sound, ?_, ?_⟩
  · simpa [packetsAt, World.serverActs] using h.up
  · have hsent := h.down.send hcarries hnew
    simpa [packetsAt, World.serverActs] using hsent

/-- The server receives one of the datagrams. -/
theorem Intact.serverRecv (hcommit : Committing S seals keys) (h : Intact S seals w records)
    (hheld : ∀ key, w.Holds key → key ∈ keys) (hd : env.delivery = .whole) {k : ℕ}
    (hk : w.toServer[k]? = some (addr, datagram)) :
    Intact S seals
      ({ w with toServer := w.toServer.eraseIdx k }.serverActs
        (handleUdpToTun S env w.server addr datagram))
      (records ++ (serverWrites (handleUdpToTun S env w.server addr datagram).2).map
        (⟨.server, .write, ·⟩)) := by
  have htaken := h.up.deliver hk fun o ho =>
    serverWrites_subperm hcommit h.sound.synced hd
      (fun vpnIp key hget => hheld key (Or.inr ⟨vpnIp, hget⟩)) ho
  have hanswered := h.down.sendEmpty
    (handleUdpToTun_answers (S := S) h.sound.wf seals env addr datagram)
  refine ⟨serverStep_sound (.udp addr datagram env) hd h.sound, ?_, ?_⟩
  · simpa [World.serverActs] using htaken
  · simpa [World.serverActs] using hanswered

/-- The client receives one of the datagrams. -/
theorem Intact.clientRecv (hcommit : Committing S seals keys) (h : Intact S seals w records)
    (hheld : ∀ key, w.Holds key → key ∈ keys) (env : ClientEnv) {k : ℕ}
    (hk : w.toClient[k]? = some (addr, datagram)) :
    Intact S seals
      { w with
        client := (w.client.handleUdpToTun S env datagram).1
        toClient := w.toClient.eraseIdx k }
      (records ++ (clientWrites (w.client.handleUdpToTun S env datagram).2).map
        (⟨.client, .write, ·⟩)) := by
  have htaken := h.down.deliver hk fun o ho =>
    clientWrites_subperm hcommit (hheld _ (Or.inl rfl)) env ho
  refine ⟨h.sound, ?_, ?_⟩
  · simpa using h.up
  · simpa using htaken

/-- The keep-alive sends PING packets at most. -/
theorem checkKeepalive_carries (config : ClientConfig) (env : ClientEnv) (client : Client)
    (addr : SockAddr) {m : SockAddr × Bytes}
    (hm : m ∈ clientSent addr (checkKeepalive config env client).2.1) :
    Carries S seals m none := by
  unfold checkKeepalive at hm
  split_ifs at hm
  · simp [clientSent] at hm
  · rw [List.mem_singleton.mp hm]
    exact carries_control _ .ping rfl (by decide)
  · simp [clientSent] at hm

/-- The client looks after its connection. -/
theorem Intact.keepalive (h : Intact S seals w records) (config : ClientConfig)
    (env : ClientEnv) : Intact S seals (worldStep S config w (.keepalive env)) records := by
  simp only [worldStep]
  split_ifs
  · have hping : ∀ m ∈ clientSent w.addr (checkKeepalive config env w.client).2.1,
        Carries S seals m none := fun m hm => checkKeepalive_carries config env w.client w.addr hm
    cases hcheck : checkKeepalive config env w.client with
    | mk client rest =>
        obtain ⟨actions, alive⟩ := rest
        rw [hcheck] at hping
        cases alive with
        | true => exact h.sendControl rfl rfl rfl hping
        | false => exact ⟨h.sound, h.up, h.down⟩
  · exact h

/-- **One event.** -/
theorem Intact.step (hcommit : Committing S seals keys) (config : ClientConfig) {e : WorldEvent}
    (h : Intact S seals w records) (hregular : e.Regular) (hwithin : Within seals keys w e) :
    Intact S seals (worldNext S config w e).1 (records ++ (worldNext S config w e).2) := by
  unfold worldNext
  cases e with
  | connect addr username env =>
      simp only [worldStep, tunRecords, List.append_nil]
      split_ifs
      · exact h
      · refine h.sendControl rfl rfl rfl ?_
        intro m hm
        rw [List.mem_singleton.mp hm]
        exact carries_control addr .connectReq rfl (by decide)
  | timeout =>
      simp only [tunRecords, List.append_nil]
      exact ⟨h.sound, h.up, h.down⟩
  | clientRecv k env =>
      simp only [worldStep, tunRecords]
      cases hk : w.toClient[k]? with
      | none =>
          rw [List.append_nil]
          exact h
      | some message =>
          obtain ⟨dest, datagram⟩ := message
          dsimp only
          by_cases hdest : dest = w.addr
          · rw [if_pos hdest]
            unfold World.clientReceives
            cases hpending : w.pending with
            | none =>
                rw [if_pos ⟨hdest, rfl⟩]
                have hrecv := h.clientRecv hcommit hwithin.held env hk
                rw [hpending] at hrecv
                exact hrecv
            | some request =>
                rw [if_neg (by simp), List.append_nil]
                exact ⟨h.sound, h.up, h.down.lose k⟩
          · rw [if_neg hdest, if_neg (fun hboth => hdest hboth.1), List.append_nil]
            exact ⟨h.sound, h.up, h.down.lose k⟩
  | keepalive env =>
      simp only [tunRecords, List.append_nil]
      exact h.keepalive config env
  | clientTun packet env =>
      have hsealed := hwithin.sealed
      simp only [World.seals, take_bufferSize hregular] at hsealed
      simp only [worldStep, tunRecords]
      split_ifs with hloop
      · exact h.clientTun env (hsealed _ (by simp [hloop])) hregular
      · rw [List.append_nil]
        exact h
  | destroy env secret =>
      simp only [worldStep, tunRecords, List.append_nil]
      refine h.sendControl rfl rfl rfl ?_
      intro m hm
      unfold destroyVpnClient at hm
      split_ifs at hm
      · rw [List.mem_singleton.mp hm]
        exact carries_control _ .disconnect rfl (by decide)
      · simp [clientSent] at hm
  | serverRecv k env =>
      simp only [worldStep, tunRecords]
      cases hk : w.toServer[k]? with
      | none =>
          rw [List.append_nil]
          exact h
      | some message => exact h.serverRecv hcommit hwithin.held hregular hk
  | serverTun packet env =>
      have hsealed := hwithin.sealed
      simp only [World.seals, take_bufferSize hregular.1] at hsealed
      exact h.serverTun hregular.2 hsealed hregular.1
  | sweep env =>
      simp only [tunRecords, List.append_nil]
      exact ⟨serverStep_sound (S := S) (.sweep env) hregular h.sound, h.up, h.down⟩
  | restart secret =>
      simp only [tunRecords, List.append_nil]
      exact ⟨⟨initClientTable_wf, rfl, rfl⟩, h.up, h.down⟩
  | loseToServer k =>
      simp only [tunRecords, List.append_nil]
      exact ⟨h.sound, h.up.lose k, h.down⟩
  | loseToClient k =>
      simp only [tunRecords, List.append_nil]
      exact ⟨h.sound, h.up, h.down.lose k⟩

/-- **What comes out of the tunnel went into it.**  In every run of a client and a server through a
lossy and reordering network, with restarts on both sides: the packets written to the server's TUN
device are among those that the client has read from its own, and the other way round, each at
most as often.  The packets fit the buffers, the IPC replies come whole, and no packet that was
sealed in the run is opened as another one with a key that is held in the run. -/
theorem tunnel_integrity (S : Sodium) (config : ClientConfig) (serverSecret clientSecret : Key)
    (addr : SockAddr) {events : List WorldEvent} (hregular : ∀ e ∈ events, e.Regular)
    (hcommit : Committing S
      (sealedIn S config (initWorld S serverSecret clientSecret addr) events)
      (heldIn S config (initWorld S serverSecret clientSecret addr) events)) :
    (packetsAt .server .write
        (tunHistory S config (initWorld S serverSecret clientSecret addr) events)).Subperm
      (packetsAt .client .read
        (tunHistory S config (initWorld S serverSecret clientSecret addr) events)) ∧
    (packetsAt .client .write
        (tunHistory S config (initWorld S serverSecret clientSecret addr) events)).Subperm
      (packetsAt .server .read
        (tunHistory S config (initWorld S serverSecret clientSecret addr) events)) := by
  have hinit : Intact S (sealedIn S config (initWorld S serverSecret clientSecret addr) events)
      (initWorld S serverSecret clientSecret addr) [] :=
    ⟨⟨initClientTable_wf, rfl, rfl⟩, accounted_nil, accounted_nil⟩
  have hevents := (along_of_forall hregular).and (along_within S config
    (initWorld S serverSecret clientSecret addr) events)
  have hlast := history_invariant (I := Intact S _)
    (fun w e records h hC => h.step hcommit config hC.1 hC.2) hinit hevents
  exact ⟨hlast.up.subperm, hlast.down.subperm⟩

/-- The sample scheme opens nothing as something else. -/
theorem sampleSodium_committing (seals : Set Sealing) (keys : Set Key) :
    Committing sampleSodium seals keys := by
  rintro ⟨packet, nonce, key⟩ _ key' _ ciphertext packet' hseal hopen
  have hct : packet ++ sampleTag key = ciphertext := Option.some.inj hseal
  have htag : (sampleTag key).length = 16 := by simp [sampleTag]
  simp only [sampleSodium, ← hct] at hopen
  split_ifs at hopen
  rw [← Option.some.inj hopen, List.length_append, htag, Nat.add_sub_cancel, List.take_left]

/-- A client connects and a packet goes each way. -/
def sampleExchange : List WorldEvent :=
  [.connect ⟨1, 1⟩ [] (clientEnvAt 0), .serverRecv 0 sampleEnv, .clientRecv 0 (clientEnvAt 0),
    .clientTun samplePacket (clientEnvAt 0), .serverRecv 0 sampleEnv,
    .serverTun samplePacket sampleEnv, .clientRecv 0 (clientEnvAt 0)]

theorem tunnel_integrity_sampleExchange :
    packetsAt .server .write (tunHistory sampleSodium configCreateDefault
      (initWorld sampleSodium zeroKey zeroKey ⟨1, 1⟩) sampleExchange) = [samplePacket] ∧
    packetsAt .client .write (tunHistory sampleSodium configCreateDefault
      (initWorld sampleSodium zeroKey zeroKey ⟨1, 1⟩) sampleExchange) = [samplePacket] ∧
    (packetsAt .server .write (tunHistory sampleSodium configCreateDefault
      (initWorld sampleSodium zeroKey zeroKey ⟨1, 1⟩) sampleExchange)).Subperm
      (packetsAt .client .read (tunHistory sampleSodium configCreateDefault
        (initWorld sampleSodium zeroKey zeroKey ⟨1, 1⟩) sampleExchange)) := by
  have hregular : ∀ e ∈ sampleExchange, e.Regular := by
    intro e he
    have hfits : samplePacket.length ≤ 2004 := by decide
    simp only [sampleExchange, List.mem_cons, List.not_mem_nil, or_false] at he
    rcases he with rfl | rfl | rfl | rfl | rfl | rfl | rfl
    · trivial
    · rfl
    · trivial
    · exact hfits
    · rfl
    · exact ⟨hfits, rfl⟩
    · trivial
  refine ⟨by decide +kernel, by decide +kernel, ?_⟩
  exact (tunnel_integrity sampleSodium configCreateDefault zeroKey zeroKey ⟨1, 1⟩
    hregular (sampleSodium_committing _ _)).1

end Vpn
