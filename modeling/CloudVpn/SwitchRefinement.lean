/-
# The server is a switch

The server keeps its sessions in two places: the client table has the addresses and times, the
key table of the enclave has the keys.  `sessionsOf` puts them together, and `switchInput` and
`switchOutput` say what an event and an action mean to a switch of sealed sessions.

`server_refines_switch` says that a run of the server is a run of the switch, as long as every IPC
reply comes whole, every event keeps the keys in agreement (`KeepsAgreement`) and no address is
given to a second peer.  So what a peer of a switch can rely on, a client of the server can rely on
in such runs (`session_survives`).
-/
import CloudVpn.DataPlane
import CloudVpn.Datagrams
import CloudVpn.KeyAgreement
import CloudVpn.PeerMap
import CloudVpn.Switch

open Memory Slots Runs Traces

namespace Vpn

/-! ## What the server means to a switch -/

/-- The keys and packets of a server with the given secret key. -/
def vpnScheme (S : Sodium) (secret : Key) : Switch.Scheme Key Key Nonce UInt32 Bytes Bytes where
  derive := sessionKeyOf S secret
  encrypt := fun nonce key packet =>
    (cryptoEncrypt S packet key nonce).map fun ciphertext => nonce.toList ++ ciphertext
  decrypt := fun key data =>
    if data.length < cryptoNonceSize + cryptoMacSize then none
    else cryptoDecrypt S (data.drop cryptoNonceSize) key (bytesAt 12 data 0)
  dest := fun packet =>
    if packet.length < 20 ∨ ipVersion packet = 6 then none else some (destinationIp packet)
  timeout := clientTimeout
  capacity := maxClients

/-- What an event means. -/
def switchInput : Event → Switch.Input SockAddr Key Nonce Bytes Bytes
  | .udp src datagram env =>
      if recvLen datagram < vpnHeaderSize then .noise
      else
        match PacketType.ofByte (byteAt (recvInto env.buffer datagram) 0) with
        | some .connectReq => .connect src (authTokenAt (recvInto env.buffer datagram)) env.now
        | some .data => .data src ((datagram.take bufferSize).drop vpnHeaderSize) env.now
        | some .ping => .ping src env.now
        | some .disconnect => .disconnect src
        | _ => .noise
  | .tun packet env => .packet (packet.take bufferSize) env.nonce env.now env.sent
  | .sweep env => .sweep env.now

/-- What an action means. -/
def switchOutput : Action → Switch.Output SockAddr UInt32 Bytes Bytes
  | .tunWrite packet => .plain packet
  | .udpSend dest datagram =>
      match PacketType.ofByte (byteAt datagram 0) with
      | some .connectResp => .accept dest (u32At datagram 17)
      | some .pong => .pong dest
      | _ => .data dest (datagram.drop vpnHeaderSize)

/-- The sessions that the two tables make up. -/
def sessionsOf (s : Tables) (peer : SockAddr) : Option (Switch.Session UInt32 Key) :=
  (peerEntry s.table peer).bind fun e =>
    (getKey s.km e.vpnIp).map fun key => ⟨e.vpnIp, key, e.lastSeen⟩

/-- The event gives no address to a second peer. -/
def OffersUnheld (table : ClientTable) : TablesEvent → Prop
  | .connect addr _ now rand => AllocatesUnheldIp table (.addClient addr now rand)
  | _ => True

instance (table : ClientTable) : ∀ e, Decidable (OffersUnheld table e)
  | .connect addr _ now rand =>
      inferInstanceAs (Decidable (AllocatesUnheldIp table (.addClient addr now rand)))
  | .touch _ _ | .disconnect _ | .sweep _ | .idle => .isTrue trivial

/-- The events on which the server is a switch: the reply to its IPC call comes whole, it keeps the
keys in agreement, and it gives no address to a second peer. -/
structure KeepsSwitch (S : Sodium) (m : Monitored) (e : Event) : Prop where
  whole : e.env.delivery = .whole
  agreement : KeepsAgreement S (tablesOf m) (tablesEventOf S m.server e)
  unheld : OffersUnheld m.server.table (tablesEventOf S m.server e)

instance (S : Sodium) (m : Monitored) (e : Event) : Decidable (KeepsSwitch S m e) :=
  decidable_of_iff (e.env.delivery = .whole ∧
      KeepsAgreement S (tablesOf m) (tablesEventOf S m.server e) ∧
      OffersUnheld m.server.table (tablesEventOf S m.server e))
    ⟨fun h => ⟨h.1, h.2.1, h.2.2⟩, fun h => ⟨h.whole, h.agreement, h.unheld⟩⟩

/-- The server after an event, and what it does. -/
def monitoredNext (S : Sodium) (m : Monitored) (e : Event) : Monitored × List Action :=
  (monitoredStep S m e, (handleEvent S m.server e).2)

/-! ## The sessions of the tables -/

variable {S : Sodium} {s s' : Tables} {peer addr : SockAddr} {e : ClientEntry}

theorem sessionsOf_of_unknown (hnone : peerEntry s.table peer = none) :
    sessionsOf s peer = none := by
  unfold sessionsOf
  rw [hnone]
  rfl

/-- Where the keys agree, a peer that has an entry has a session. -/
theorem KeysAgree.sessionsOf_eq (h : KeysAgree S s) (hwf : s.table.Wf)
    (he : peerEntry s.table peer = some e) :
    ∃ pk key, s.answered peer = some pk ∧ sessionKeyOf S s.km.serverPrivateKey pk = some key ∧
      getKey s.km e.vpnIp = some key ∧ sessionsOf s peer = some ⟨e.vpnIp, key, e.lastSeen⟩ := by
  obtain ⟨i, hact, haddr, hentry⟩ := hwf.peerEntry_eq_some.mp he
  obtain ⟨pk, key, hans, hkey, hget⟩ := h _ (session_mem_liveSessions hact)
  have hans : s.answered (s.table.clients i).realAddr = some pk := hans
  have hget : getKey s.km (s.table.clients i).vpnIp = some key := hget
  rw [haddr] at hans
  rw [hentry] at hget
  refine ⟨pk, key, hans, hkey, hget, ?_⟩
  unfold sessionsOf
  rw [he, Option.bind_some, hget]
  rfl

/-- Between two states in which the keys agree, a peer that has the same entry and has not
connected has the same session. -/
theorem KeysAgree.sessionsOf_congr (h : KeysAgree S s) (h' : KeysAgree S s') (hwf : s.table.Wf)
    (hwf' : s'.table.Wf) (hsecret : s'.km.serverPrivateKey = s.km.serverPrivateKey)
    (hans : s'.answered peer = s.answered peer)
    (hentry : peerEntry s'.table peer = peerEntry s.table peer) :
    sessionsOf s' peer = sessionsOf s peer := by
  cases he : peerEntry s.table peer with
  | none => rw [sessionsOf_of_unknown he, sessionsOf_of_unknown (hentry.trans he)]
  | some e =>
      obtain ⟨pk, key, hpk, hkey, -, hsession⟩ := h.sessionsOf_eq hwf he
      obtain ⟨pk', key', hpk', hkey', -, hsession'⟩ := h'.sessionsOf_eq hwf' (hentry.trans he)
      rw [hans, hpk] at hpk'
      rw [← Option.some.inj hpk', hsecret, hkey] at hkey'
      rw [hsession, hsession', Option.some.inj hkey']

/-- A step that writes the entry of one peer, keeps the record of the others and keeps the keys
in agreement writes the session of this peer. -/
theorem KeysAgree.sessionsOf_update (h : KeysAgree S s) (h' : KeysAgree S s') (hwf : s.table.Wf)
    (hwf' : s'.table.Wf) (hsecret : s'.km.serverPrivateKey = s.km.serverPrivateKey)
    (hans : ∀ other, other ≠ peer → s'.answered other = s.answered other)
    {entry : Option ClientEntry}
    (hentry : peerEntry s'.table = Function.update (peerEntry s.table) peer entry) :
    sessionsOf s' = Function.update (sessionsOf s) peer (sessionsOf s' peer) := by
  funext other
  by_cases hother : other = peer
  · rw [hother, Function.update_self]
  · rw [Function.update_of_ne hother]
    refine h.sessionsOf_congr h' hwf hwf' hsecret (hans other hother) ?_
    rw [hentry, Function.update_of_ne hother]

/-- Refreshing an entry refreshes the session. -/
theorem sessionsOf_touch (hwf : s.table.Wf) {i : Fin maxClients}
    (hact : (s.table.clients i).active = true) (now : ℤ) :
    sessionsOf { s with table := updateClientActivity s.table i now }
      = Switch.touch (sessionsOf s) (s.table.clients i).realAddr now := by
  have hentries := peerEntry_updateClientActivity hwf hact now
  have hself := hwf.peerEntry_realAddr hact
  funext peer
  unfold Switch.touch
  by_cases hpeer : peer = (s.table.clients i).realAddr
  · rw [hpeer, Function.update_self]
    unfold sessionsOf
    rw [hself]
    show (peerEntry (updateClientActivity s.table i now) _).bind _ = _
    rw [hentries, Function.update_self]
    simp only [Option.bind_some, Option.map_map]
    rfl
  · rw [Function.update_of_ne hpeer]
    show (peerEntry (updateClientActivity s.table i now) peer).bind _ = _
    rw [hentries, Function.update_of_ne hpeer]
    rfl

/-- A peer without a session has none to refresh, and none to lose. -/
theorem touch_of_unknown (hnone : sessionsOf s addr = none) (now : ℤ) :
    Switch.touch (sessionsOf s) addr now = sessionsOf s := by
  unfold Switch.touch
  rw [hnone, Option.map_none, ← hnone, Function.update_eq_self]

theorem update_of_unknown (hnone : sessionsOf s addr = none) :
    Function.update (sessionsOf s) addr none = sessionsOf s := by
  rw [← hnone, Function.update_eq_self]

/-- The sweep keeps the sessions that are young enough. -/
theorem sessionsOf_sweep (hwf : s.table.Wf) (now : ℤ) :
    sessionsOf { s with table := checkClientTimeouts s.table now }
      = fun peer => (sessionsOf s peer).filter fun session =>
          now - session.lastSeen ≤ clientTimeout := by
  funext peer
  show (peerEntry (checkClientTimeouts s.table now) peer).bind _ = _
  rw [peerEntry_checkClientTimeouts hwf]
  unfold sessionsOf
  cases peerEntry s.table peer with
  | none => rfl
  | some e =>
      by_cases hyoung : now - e.lastSeen ≤ 300
      · rw [Option.filter_some_pos (by simpa using hyoung), Option.bind_some]
        cases getKey s.km e.vpnIp with
        | none => rfl
        | some key =>
            exact (Option.filter_some_pos (by simpa [clientTimeout] using hyoung)).symm
      · rw [Option.filter_some_neg (by simpa using hyoung), Option.bind_some]
        cases getKey s.km e.vpnIp with
        | none => rfl
        | some key =>
            exact (Option.filter_some_neg (by simpa [clientTimeout] using hyoung)).symm

/-! ## The steps -/

/-- The switch's state stands for the server's. -/
structure IsSwitch (S : Sodium) (secret : Key) (m : Monitored)
    (sessions : SockAddr → Option (Switch.Session UInt32 Key)) : Prop where
  sound : m.Sound
  secret_eq : m.server.conn.enclave.km.serverPrivateKey = secret
  agree : KeysAgree S (tablesOf m)
  distinct : VpnIpsDistinct m.server.table
  sessions_eq : sessions = sessionsOf (tablesOf m)

theorem tablesStep_distinct (hwf : s.table.Wf) (h : VpnIpsDistinct s.table) {event : TablesEvent}
    (hunheld : OffersUnheld s.table event) : VpnIpsDistinct (tablesStep S s event).table := by
  cases event with
  | connect addr pk now rand =>
      have hadded : VpnIpsDistinct (addClient s.table addr now rand).1 :=
        (applyOp_distinct_iff hwf h (.addClient addr now rand)).mpr hunheld
      simp only [tablesStep]
      split_ifs
      · exact hadded
      · split
        · exact hadded
        · exact removeClient_distinct hadded _
  | touch client now => exact updateClientActivity_distinct h client now
  | disconnect addr =>
      simp only [tablesStep]
      split
      · exact h
      · exact removeClient_distinct h _
  | sweep now => exact checkClientTimeouts_distinct h now
  | idle => exact h

/-- The secret key of the enclave never changes. -/
theorem serverPrivateKey_serverStep (server : Server) (event : Event) :
    (serverStep S server event).conn.enclave.km.serverPrivateKey
      = server.conn.enclave.km.serverPrivateKey := by
  refine serverStep_enclave (I := fun enclave => enclave.km.serverPrivateKey
    = server.conn.enclave.km.serverPrivateKey) ?_ event rfl
  intro nonce enclave req h
  rw [(handleIpcCommand_outcome S nonce enclave req).serverKeys_eq.1]
  exact h

variable {secret : Key} {m : Monitored}
  {sessions : SockAddr → Option (Switch.Session UInt32 Key)} {event : Event}

theorem IsSwitch.next (h : IsSwitch S secret m sessions) (hkeeps : KeepsSwitch S m event) :
    IsSwitch S secret (monitoredStep S m event)
      (sessionsOf (tablesOf (monitoredStep S m event))) := by
  have htables := (tablesOf_monitoredStep (S := S) event h.sound.wf h.sound.synced hkeeps.whole).1
  refine ⟨monitoredStep_sound event hkeeps.whole h.sound, ?_, ?_, ?_, rfl⟩
  · exact (serverPrivateKey_serverStep m.server event).trans h.secret_eq
  · rw [htables]
    exact (keysAgree_step_iff h.sound.wf h.agree _).mpr hkeeps.agreement
  · have hdistinct := tablesStep_distinct (S := S) (s := tablesOf m) h.sound.wf h.distinct
      hkeeps.unheld
    rw [← htables] at hdistinct
    exact hdistinct

/-- A CONNECT_REQ that is answered gives the peer a session: a new one, or a new key for the one
it has. -/
theorem connect_answered_step (hwf : s.table.Wf) (hagree : KeysAgree S s)
    (hroom : s.table.count < maxClients) {pk key : Key} {now : ℤ} {rand : UInt32}
    (hkey : sessionKeyOf S s.km.serverPrivateKey pk = some key)
    (hs' : s' = tablesStep S s (.connect addr pk now rand)) (hagree' : KeysAgree S s')
    (hdistinct' : VpnIpsDistinct s'.table) :
    Switch.Step (vpnScheme S s.km.serverPrivateKey) (sessionsOf s) (.connect addr pk now)
      (sessionsOf s') [.accept addr (offeredIp s.table addr)] := by
  obtain ⟨e, hip, hseen, hentries⟩ := peerEntry_addClient hwf hroom addr now rand
  rw [tablesStep_connect_answered hwf hroom now rand hkey] at hs'
  have htable : s'.table = (addClient s.table addr now rand).1 := by rw [hs']
  have hwf' : s'.table.Wf := by
    rw [htable]
    exact addClient_wf hwf addr now rand
  have hsecret : s'.km.serverPrivateKey = s.km.serverPrivateKey := by
    rw [hs']
    exact serverPrivateKey_addKey s.km _ key
  have hans : s'.answered = Function.update s.answered addr (some pk) := by rw [hs']
  rw [← htable] at hentries
  have he : peerEntry s'.table addr = some e := by rw [hentries, Function.update_self]
  -- The peer's session: the offered address, and the key of its public key.
  obtain ⟨pk', key', hpk', hkey', -, hsession⟩ := hagree'.sessionsOf_eq hwf' he
  rw [hans, Function.update_self] at hpk'
  rw [← Option.some.inj hpk', hsecret, hkey] at hkey'
  rw [hip, hseen, ← Option.some.inj hkey'] at hsession
  have hupdate := hagree.sessionsOf_update hagree' hwf hwf' hsecret
    (fun other hother => by rw [hans, Function.update_of_ne hother]) hentries
  rw [hupdate, hsession]
  cases hold : peerEntry s.table addr with
  | none =>
      refine .accepted now (sessionsOf_of_unknown hold) ?_ hkey
      -- A holder of the address would hold it next to the peer afterwards.
      intro other session hother haddress
      have hne : other ≠ addr := by
        rintro rfl
        rw [sessionsOf_of_unknown hold] at hother
        exact absurd hother (by simp)
      rw [← Function.update_of_ne hne _ (sessionsOf s), ← hupdate] at hother
      obtain ⟨e', he', hrest⟩ := Option.bind_eq_some_iff.mp hother
      obtain ⟨_, -, rfl⟩ := Option.map_eq_some_iff.mp hrest
      obtain ⟨i, hi, hiaddr, rfl⟩ := hwf'.peerEntry_eq_some.mp he'
      obtain ⟨j, hj, hjaddr, rfl⟩ := hwf'.peerEntry_eq_some.mp he
      have hij := hdistinct' i j hi hj (haddress.trans hip.symm)
      rw [hij] at hiaddr
      exact hne (hiaddr.symm.trans hjaddr)
  | some old =>
      obtain ⟨_, oldKey, -, -, -, holdSession⟩ := hagree.sessionsOf_eq hwf hold
      have hofferedIp : offeredIp s.table addr = old.vpnIp := by
        obtain ⟨i, hi, rfl⟩ := Option.map_eq_some_iff.mp hold
        exact offeredIp_existing hi
      rw [hofferedIp]
      exact .renewed now holdSession hkey

/-- A CONNECT_REQ with a key that cannot be used ends the session of the peer. -/
theorem connect_failed_step (hwf : s.table.Wf) (hagree : KeysAgree S s)
    (hroom : s.table.count < maxClients) {pk : Key} {now : ℤ} {rand : UInt32}
    (hkey : sessionKeyOf S s.km.serverPrivateKey pk = none)
    (hunheld : AllocatesUnheldIp s.table (.addClient addr now rand))
    (hdistinct : VpnIpsDistinct s.table)
    (hs' : s' = tablesStep S s (.connect addr pk now rand)) (hagree' : KeysAgree S s') :
    Switch.Step (vpnScheme S s.km.serverPrivateKey) (sessionsOf s) (.connect addr pk now)
      (sessionsOf s') [] := by
  have hadded : VpnIpsDistinct (addClient s.table addr now rand).1 :=
    (applyOp_distinct_iff hwf hdistinct (.addClient addr now rand)).mpr hunheld
  rw [tablesStep_connect_refused hwf hroom now rand hkey] at hs'
  have hentries : peerEntry s'.table = Function.update (peerEntry s.table) addr none := by
    rw [hs']
    exact peerEntry_rollback hwf hroom addr now rand hadded
  have hwf' : s'.table.Wf := by
    rw [hs']
    exact removeClient_wf (addClient_wf hwf addr now rand) _
  have hgone : sessionsOf s' addr = none :=
    sessionsOf_of_unknown (by rw [hentries, Function.update_self])
  rw [hagree.sessionsOf_update hagree' hwf hwf' (by rw [hs']) (fun _ _ => by rw [hs']) hentries,
    hgone]
  exact .failed now hkey

/-- A DISCONNECT ends the session of the peer. -/
theorem disconnect_step (hwf : s.table.Wf) (hagree : KeysAgree S s)
    (hdistinct : VpnIpsDistinct s.table) (hs' : s' = tablesStep S s (.disconnect addr))
    (hagree' : KeysAgree S s') :
    Switch.Step (vpnScheme S s.km.serverPrivateKey) (sessionsOf s) (.disconnect addr)
      (sessionsOf s') [] := by
  have hleft : Switch.Step (vpnScheme S s.km.serverPrivateKey) (sessionsOf s) (.disconnect addr)
      (Function.update (sessionsOf s) addr none) [] := .left addr
  cases hfind : findClientByAddr s.table addr with
  | none =>
      rw [tablesStep_disconnect_unknown hfind] at hs'
      rw [update_of_unknown (sessionsOf_of_unknown (peerEntry_of_unknown hfind))] at hleft
      rw [hs']
      exact hleft
  | some i =>
      rw [tablesStep_disconnect_known hfind] at hs'
      have hentries : peerEntry s'.table = Function.update (peerEntry s.table) addr none := by
        rw [hs']
        exact peerEntry_removeClient hwf hdistinct (peerEntry_of_find hfind)
      have hwf' : s'.table.Wf := by
        rw [hs']
        exact removeClient_wf hwf _
      have hsecret : s'.km.serverPrivateKey = s.km.serverPrivateKey := by
        rw [hs']
        show (removeKey s.km _).serverPrivateKey = _
        unfold removeKey
        cases findKey s.km (s.table.clients i).vpnIp <;> rfl
      have hgone : sessionsOf s' addr = none :=
        sessionsOf_of_unknown (by rw [hentries, Function.update_self])
      rw [hagree.sessionsOf_update hagree' hwf hwf' hsecret (fun _ _ => by rw [hs']) hentries,
        hgone]
      exact hleft

/-- What the enclave decrypts for a peer is what the switch decrypts. -/
theorem openFor_eq_scheme {km : KeyManager} {ip : UInt32} {key : Key}
    (hget : getKey km ip = some key) (secret : Key) (data : Bytes) :
    openFor S km ip data = (vpnScheme S secret).decrypt key data := by
  unfold openFor
  rw [hget]
  rfl

/-- What the enclave encrypts for a peer is what the switch encrypts. -/
theorem sealFor_eq_scheme {km : KeyManager} {ip : UInt32} {key : Key}
    (hget : getKey km ip = some key) (secret : Key) (nonce : Nonce) (packet : Bytes) :
    sealFor S nonce km ip packet = (vpnScheme S secret).encrypt nonce key packet := by
  unfold sealFor
  rw [hget]
  rfl

/-- The meaning of an answer to a CONNECT_REQ. -/
theorem switchOutput_connectResponse (length : UInt16) (seq : UInt32) (ts : UInt64)
    (status : UInt8) (vpnIp sessionId : UInt32) (serverPublicKey : Key) :
    switchOutput (.udpSend addr (connectResponse (initVpnHeader .connectResp length seq ts) status
      vpnIp sessionId serverPublicKey)) = .accept addr vpnIp := by
  have hip : u32At (connectResponse (initVpnHeader .connectResp length seq ts) status vpnIp
      sessionId serverPublicKey) 17 = vpnIp := by
    unfold connectResponse
    rw [u32At_append_right _ (by simp), u32At_append_right _ (by simp)]
    exact u32At_le32 _ _
  show Switch.Output.accept addr (u32At _ 17) = _
  rw [hip]

/-- A full table refuses. -/
theorem connect_refused_step (hwf : s.table.Wf) (hagree : KeysAgree S s)
    (hfull : maxClients ≤ s.table.count) (pk : Key) (now : ℤ) :
    Switch.Step (vpnScheme S s.km.serverPrivateKey) (sessionsOf s) (.connect addr pk now)
      (sessionsOf s) [] := by
  refine .refused addr pk now hwf.peers_nodup ?_ ?_
  · rw [List.length_map]
    have hcount := hwf.count_eq
    show maxClients ≤ (activeClients s.table).length
    omega
  · intro other hother
    obtain ⟨e, he, rfl⟩ := List.mem_map.mp hother
    obtain ⟨i, hact, rfl⟩ := mem_activeClients.mp he
    obtain ⟨_, _, -, -, -, hsession⟩ := hagree.sessionsOf_eq hwf (hwf.peerEntry_realAddr hact)
    rw [hsession]
    rfl

/-- The tables after the refreshing of a peer's entry. -/
theorem sessionsOf_touchEvent (hwf : s.table.Wf) (addr : SockAddr) (now : ℤ) :
    sessionsOf (tablesStep S s (touchEvent s.table addr now))
      = Switch.touch (sessionsOf s) addr now := by
  unfold touchEvent
  cases hfind : findClientByAddr s.table addr with
  | none => exact (touch_of_unknown (sessionsOf_of_unknown (peerEntry_of_unknown hfind)) now).symm
  | some i =>
      obtain ⟨⟨hact, haddr⟩, -⟩ := findClientByAddr_eq_some.mp hfind
      rw [← haddr]
      exact sessionsOf_touch hwf hact now

/-- `PKT_CONNECT_REQ`. -/
theorem connect_step {env : Env} {buffer : Bytes} (hsound : m.Sound)
    (hagree : KeysAgree S (tablesOf m)) (hdistinct : VpnIpsDistinct m.server.table)
    (hd : env.delivery = .whole)
    (hunheld : AllocatesUnheldIp m.server.table (.addClient addr env.now env.rand))
    (hs' : s' = tablesStep S (tablesOf m) (.connect addr (authTokenAt buffer) env.now env.rand))
    (hagree' : KeysAgree S s') (hdistinct' : VpnIpsDistinct s'.table) :
    Switch.Step (vpnScheme S m.server.conn.enclave.km.serverPrivateKey) (sessionsOf (tablesOf m))
      (.connect addr (authTokenAt buffer) env.now) (sessionsOf s')
      ((handleConnectReq S env m.server addr buffer).2.map switchOutput) := by
  have hwf := hsound.wf
  have hsync := hsound.synced
  by_cases hroom : m.server.table.count < maxClients
  · cases hkey : sessionKeyOf S m.server.conn.enclave.km.serverPrivateKey
        (authTokenAt buffer) with
    | none =>
        have hhs : enclaveHandshake S env.nonce env.delivery m.server.conn
            (offeredIp m.server.table addr) (authTokenAt buffer)
            = (m.server.conn.called m.server.conn.enclave, none) := by
          rw [hd, enclaveHandshake_synced hsync, performHandshake_eq, hkey]
          rfl
        rw [handleConnectReq_refused hwf hroom hhs]
        exact connect_failed_step hwf hagree hroom hkey hunheld hdistinct hs' hagree'
    | some key =>
        have hhs : enclaveHandshake S env.nonce env.delivery m.server.conn
            (offeredIp m.server.table addr) (authTokenAt buffer)
            = (m.server.conn.called ⟨(addKey m.server.conn.enclave.km
                (offeredIp m.server.table addr) key).getD m.server.conn.enclave.km, true⟩,
              some (okReply m.server.conn
                (m.server.conn.enclave.km.serverPublicKey.toList ++ key.toList))) := by
          rw [hd, enclaveHandshake_synced hsync, performHandshake_eq, hkey]
          rfl
        obtain ⟨client, hclient⟩ := addClient_isSome hwf hroom addr env.now env.rand
        rw [handleConnectReq_answered hwf hroom hhs hclient, List.map_singleton,
          switchOutput_connectResponse]
        exact connect_answered_step hwf hagree hroom hkey hs' hagree' hdistinct'
  · have hfull := not_lt.mp hroom
    rw [handleConnectReq_full addr buffer hfull]
    rw [tablesStep_connect_full addr (authTokenAt buffer) env.now env.rand hfull] at hs'
    rw [hs']
    exact connect_refused_step hwf hagree hfull (authTokenAt buffer) env.now

/-- `PKT_DATA`. -/
theorem data_step {env : Env} {data : Bytes} (hsound : m.Sound) (hagree : KeysAgree S (tablesOf m))
    (hd : env.delivery = .whole) (hlen : data.length ≤ ipcMaxDataSize) :
    Switch.Step (vpnScheme S m.server.conn.enclave.km.serverPrivateKey) (sessionsOf (tablesOf m))
      (.data addr data env.now)
      (sessionsOf (tablesStep S (tablesOf m) (touchEvent m.server.table addr env.now)))
      ((handleData S env m.server addr data).2.map switchOutput) := by
  have htouch := sessionsOf_touchEvent (S := S) (s := tablesOf m) hsound.wf addr env.now
  rw [show (tablesOf m).table = m.server.table from rfl] at htouch
  rw [htouch]
  cases hfind : findClientByAddr m.server.table addr with
  | none =>
      have hnone : sessionsOf (tablesOf m) addr = none :=
        sessionsOf_of_unknown (peerEntry_of_unknown hfind)
      rw [touch_of_unknown hnone]
      unfold handleData
      rw [hfind]
      exact .unknown data env.now hnone
  | some i =>
      obtain ⟨_, key, -, -, hget, hsession⟩ :=
        hagree.sessionsOf_eq hsound.wf (peerEntry_of_find hfind)
      have hopen := openFor_eq_scheme (S := S) hget m.server.conn.enclave.km.serverPrivateKey data
      rw [handleData_synced hsound.synced hd hlen hfind]
      show Switch.Step _ _ _ _ (((openFor S (tablesOf m).km
        (m.server.table.clients i).vpnIp data).map Action.tunWrite).toList.map switchOutput)
      cases hplain : openFor S (tablesOf m).km (m.server.table.clients i).vpnIp data with
      | none => exact .rejected env.now hsession (hopen.symm.trans hplain)
      | some packet => exact .opened env.now hsession (hopen.symm.trans hplain)

/-- A packet from the TUN device. -/
theorem tun_step {env : Env} {packet : Bytes} (hsound : m.Sound)
    (hagree : KeysAgree S (tablesOf m)) (hd : env.delivery = .whole) :
    Switch.Step (vpnScheme S m.server.conn.enclave.km.serverPrivateKey) (sessionsOf (tablesOf m))
      (.packet (packet.take bufferSize) env.nonce env.now env.sent)
      (sessionsOf (tablesStep S (tablesOf m) (tablesEventOf S m.server (.tun packet env))))
      ((handleTunToUdp S env m.server packet).2.map switchOutput) := by
  have hwf := hsound.wf
  simp only [tablesEventOf]
  by_cases hrouted : (packet.take bufferSize).length < 20 ∨ ipVersion (packet.take bufferSize) = 6
  · -- Too short, or of version 6: the packet is for nobody.
    have hnothing : handleTunToUdp S env m.server packet = (m.server, []) := by
      unfold handleTunToUdp
      by_cases hlen : (packet.take bufferSize).length < 20
      · simp only [if_pos hlen]
      · simp only [if_neg hlen, if_pos (hrouted.resolve_left hlen)]
    rw [hnothing]
    refine .undeliverable env.nonce env.now env.sent ?_
    intro peer session _
    have hdest : (vpnScheme S m.server.conn.enclave.km.serverPrivateKey).dest
        (packet.take bufferSize) = none := if_pos hrouted
    rw [hdest]
    simp
  have hdest : (vpnScheme S m.server.conn.enclave.km.serverPrivateKey).dest (packet.take bufferSize)
      = some (destinationIp (packet.take bufferSize)) := if_neg hrouted
  obtain ⟨hlen, hversion⟩ := not_or.mp hrouted
  cases hfind : findClientByVpnIp m.server.table (destinationIp (packet.take bufferSize)) with
  | none =>
      simp only [handleTunToUdp, if_neg hlen, if_neg hversion, hfind]
      refine .undeliverable env.nonce env.now env.sent ?_
      intro peer session hsession haddress
      obtain ⟨e, he, hrest⟩ := Option.bind_eq_some_iff.mp hsession
      obtain ⟨_, -, rfl⟩ := Option.map_eq_some_iff.mp hrest
      obtain ⟨i, hact, -, rfl⟩ := hwf.peerEntry_eq_some.mp he
      rw [hdest] at haddress
      exact findClientByVpnIp_eq_none.mp hfind i hact (Option.some.inj haddress).symm
  | some i =>
      obtain ⟨⟨hact, hip⟩, -⟩ := findClientByVpnIp_eq_some.mp hfind
      obtain ⟨_, key, -, -, hget, hsession⟩ :=
        hagree.sessionsOf_eq hwf (hwf.peerEntry_realAddr hact)
      have hseal := sealFor_eq_scheme (S := S) hget m.server.conn.enclave.km.serverPrivateKey
        env.nonce (packet.take bufferSize)
      rw [← hip] at hdest
      simp only [handleTunToUdp_synced hsound.synced hd (not_lt.mp hlen) hversion hfind]
      cases hcontent : sealFor S env.nonce m.server.conn.enclave.km
          (m.server.table.clients i).vpnIp (packet.take bufferSize) with
      | none => exact .unsealed env.now env.sent hsession hdest (hseal.symm.trans hcontent)
      | some content =>
          have hforwarded := Switch.Step.forwarded env.now env.sent hsession hdest
            (hseal.symm.trans hcontent)
          have htouch := sessionsOf_touch (s := tablesOf m) hwf hact env.now
          -- Only a packet that the network takes refreshes the session.
          cases hsent : env.sent with
          | true =>
              rw [hsent] at hforwarded
              exact htouch ▸ hforwarded
          | false =>
              rw [hsent] at hforwarded
              exact hforwarded

/-- **One event of the server is one step of the switch.** -/
theorem IsSwitch.step (h : IsSwitch S secret m sessions) (hkeeps : KeepsSwitch S m event) :
    Switch.Step (vpnScheme S secret) sessions (switchInput event)
      (sessionsOf (tablesOf (monitoredStep S m event)))
      ((handleEvent S m.server event).2.map switchOutput) := by
  have hnext := h.next hkeeps
  have htables := (tablesOf_monitoredStep (S := S) event h.sound.wf h.sound.synced hkeeps.whole).1
  rw [h.sessions_eq, ← h.secret_eq]
  have hunheld := hkeeps.unheld
  cases event with
  | udp src datagram env =>
      have hd : env.delivery = .whole := hkeeps.whole
      simp only [handleEvent, handleUdpToTun, switchInput]
      simp only [tablesEventOf] at htables hunheld
      by_cases hshort : recvLen datagram < vpnHeaderSize
      · simp only [if_pos hshort] at htables ⊢
        rw [htables]
        exact .ignored
      simp only [if_neg hshort] at htables hunheld ⊢
      cases htype : PacketType.ofByte (byteAt (recvInto env.buffer datagram) 0) with
      | none =>
          simp only [htype] at htables ⊢
          rw [htables]
          exact .ignored
      | some type =>
          simp only [htype] at htables hunheld ⊢
          cases type with
          | connectReq =>
              exact connect_step h.sound h.agree h.distinct hd hunheld htables hnext.agree
                hnext.distinct
          | connectResp =>
              rw [htables]
              exact .ignored
          | pong =>
              rw [htables]
              exact .ignored
          | data =>
              have hlen : ((datagram.take bufferSize).drop vpnHeaderSize).length
                  ≤ ipcMaxDataSize := by
                rw [List.length_drop, List.length_take]
                unfold bufferSize ipcMaxDataSize
                omega
              simp only [take_recvInto]
              rw [htables]
              exact data_step h.sound h.agree hd hlen
          | ping =>
              have htouch := sessionsOf_touchEvent (S := S) (s := tablesOf m) h.sound.wf src env.now
              rw [htables]
              exact htouch ▸ .ponged src env.now
          | disconnect =>
              have hnothing : (handleDisconnect S env m.server src).2 = [] := by
                unfold handleDisconnect
                cases findClientByAddr m.server.table src <;> rfl
              rw [hnothing]
              exact disconnect_step h.sound.wf h.agree h.distinct htables hnext.agree
  | tun packet env =>
      rw [htables]
      exact tun_step h.sound h.agree hkeeps.whole
  | sweep env =>
      rw [htables]
      show Switch.Step _ _ _ (sessionsOf
        { tablesOf m with table := checkClientTimeouts (tablesOf m).table env.now }) _
      rw [sessionsOf_sweep h.sound.wf]
      exact .swept env.now

/-! ## Runs -/

theorem initMonitored_isSwitch (S : Sodium) (secret : Key) :
    IsSwitch S secret (initMonitored S secret) fun _ => none := by
  have hinactive : ∀ i, ((initMonitored S secret).server.table.clients i).active ≠ true :=
    fun _ => Bool.false_ne_true
  refine ⟨initMonitored_sound S secret, rfl, ?_, ?_, ?_⟩
  · rintro _ ⟨i, hi, -⟩
    exact absurd hi (hinactive i)
  · intro i j hi
    exact absurd hi (hinactive i)
  · funext peer
    refine (sessionsOf_of_unknown (peerEntry_of_unknown ?_)).symm
    exact findClientByAddr_eq_none.mpr fun i hi => absurd hi (hinactive i)

/-- A run whose events meet `KeepsSwitch` is a run of the switch. -/
theorem IsSwitch.run (h : IsSwitch S secret m sessions) {events : List Event}
    (hevents : Along (monitoredStep S) (KeepsSwitch S) m events) :
    ∃ sessions', SpecRun (Switch.Step (vpnScheme S secret)) sessions (events.map switchInput)
        sessions' ((outputs (monitoredNext S) m events).map switchOutput) ∧
      IsSwitch S secret (Runs.run (monitoredStep S) m events) sessions' := by
  have hstep : ∀ m sessions event, IsSwitch S secret m sessions → KeepsSwitch S m event →
      ∃ sessions', Switch.Step (vpnScheme S secret) sessions (switchInput event) sessions'
          ((monitoredNext S m event).2.map switchOutput) ∧
        IsSwitch S secret (monitoredNext S m event).1 sessions' :=
    fun m sessions event hm hkeeps => ⟨_, hm.step hkeeps, hm.next hkeeps⟩
  exact simulation hstep h hevents

/-- **The server is a switch.**  Take a run of the server with its enclave in which every IPC reply
comes whole, and whose events keep the keys in agreement and give no address to a second peer.  It
is a run of the switch: it takes in what the events mean, puts out what the actions mean, and ends
with the sessions that the tables make up. -/
theorem server_refines_switch (S : Sodium) (secret : Key) {events : List Event}
    (hevents : Along (monitoredStep S) (KeepsSwitch S) (initMonitored S secret) events) :
    SpecRun (Switch.Step (vpnScheme S secret)) (fun _ => none) (events.map switchInput)
      (sessionsOf (tablesOf (run (monitoredStep S) (initMonitored S secret) events)))
      ((outputs (monitoredNext S) (initMonitored S secret) events).map switchOutput) := by
  obtain ⟨sessions, hrun, hlast⟩ := (initMonitored_isSwitch S secret).run hevents
  rw [hlast.sessions_eq] at hrun
  exact hrun

/-- While a client is connected, another one comes and goes. -/
def visit : List Event :=
  [sampleConnect ⟨2, 2⟩ 2, samplePing, sampleDisconnect ⟨2, 2⟩]

theorem visit_keepsSwitch :
    Along (monitoredStep sampleSodium) (KeepsSwitch sampleSodium)
      (initMonitored sampleSodium zeroKey) ([sampleConnect ⟨1, 1⟩ 1] ++ visit) := by
  decide +kernel

/-- The switch accepts both, answers the PING of the first and forgets the second. -/
theorem server_refines_switch_visit :
    SpecRun (Switch.Step (vpnScheme sampleSodium zeroKey)) (fun _ => none)
      [.connect ⟨1, 1⟩ (Vector.replicate 32 1) 0, .connect ⟨2, 2⟩ (Vector.replicate 32 2) 0,
        .ping ⟨1, 1⟩ 0, .disconnect ⟨2, 2⟩]
      (sessionsOf (tablesOf (run (monitoredStep sampleSodium) (initMonitored sampleSodium zeroKey)
        ([sampleConnect ⟨1, 1⟩ 1] ++ visit))))
      [.accept ⟨1, 1⟩ firstIp, .accept ⟨2, 2⟩ (htonl 0x0a080003), .pong ⟨1, 1⟩] := by
  have houtputs : (outputs (monitoredNext sampleSodium) (initMonitored sampleSodium zeroKey)
      ([sampleConnect ⟨1, 1⟩ 1] ++ visit)).map switchOutput
      = [.accept ⟨1, 1⟩ firstIp, .accept ⟨2, 2⟩ (htonl 0x0a080003), .pong ⟨1, 1⟩] := by
    decide +kernel
  rw [← houtputs]
  exact server_refines_switch sampleSodium zeroKey visit_keepsSwitch

/-! ## What a client can rely on -/

/-- The server serves the peer: what comes from it is opened with the key and written to the TUN
device, and what is for its address is sealed with the key and sent to it. -/
structure Serves (S : Sodium) (secret : Key) (server : Server) (peer : SockAddr)
    (address : UInt32) (key : Key) : Prop where
  upstream : ∀ (env : Env) (datagram : Bytes), env.delivery = .whole →
    vpnHeaderSize ≤ datagram.length → byteAt datagram 0 = PacketType.data.toByte →
    (handleUdpToTun S env server peer datagram).2
      = (((vpnScheme S secret).decrypt key
          ((datagram.take bufferSize).drop vpnHeaderSize)).map Action.tunWrite).toList
  downstream : ∀ (env : Env) (packet : Bytes), env.delivery = .whole →
    (vpnScheme S secret).dest (packet.take bufferSize) = some address →
    (handleTunToUdp S env server packet).2.map switchOutput
      = (((vpnScheme S secret).encrypt env.nonce key (packet.take bufferSize)).map
          (Switch.Output.data peer)).toList

theorem IsSwitch.serves (h : IsSwitch S secret m sessions) {address : UInt32} {key : Key}
    {lastSeen : ℤ} (hold : sessions peer = some ⟨address, key, lastSeen⟩) :
    Serves S secret m.server peer address key := by
  rw [h.sessions_eq] at hold
  obtain ⟨e, he, hrest⟩ := Option.bind_eq_some_iff.mp hold
  obtain ⟨key', hget, hsession⟩ := Option.map_eq_some_iff.mp hrest
  obtain ⟨i, hact, rfl, rfl⟩ := h.sound.wf.peerEntry_eq_some.mp he
  cases hsession
  have hfind := h.sound.wf.findClientByAddr_eq hact
  constructor
  · intro env datagram hd hlen htype
    rw [handleUdpToTun_data h.sound.synced hd hlen htype hfind]
    exact congrArg (fun plain => (plain.map Action.tunWrite).toList)
      (openFor_eq_scheme hget secret _)
  · intro env packet hd hdest
    have hrouted : ¬ ((packet.take bufferSize).length < 20 ∨
        ipVersion (packet.take bufferSize) = 6) := by
      intro hor
      have hnone : (vpnScheme S secret).dest (packet.take bufferSize) = none := if_pos hor
      rw [hnone] at hdest
      exact absurd hdest (by simp)
    have hip : destinationIp (packet.take bufferSize) = (m.server.table.clients i).vpnIp :=
      Option.some.inj ((if_neg hrouted).symm.trans hdest)
    obtain ⟨hlen, hversion⟩ := not_or.mp hrouted
    have hroute : findClientByVpnIp m.server.table (destinationIp (packet.take bufferSize))
        = some i := by
      rw [hip]
      exact h.distinct.routed i hact
    rw [handleTunToUdp_synced h.sound.synced hd (not_lt.mp hlen) hversion hroute]
    rw [← sealFor_eq_scheme hget secret]
    show _ = ((sealFor S env.nonce m.server.conn.enclave.km _ _).map _).toList
    cases sealFor S env.nonce m.server.conn.enclave.km (m.server.table.clients i).vpnIp
      (packet.take bufferSize) <;> rfl

/-- **A session survives in a run of the switch.**  In a run of `KeepsSwitch` events, the other
peers' included, take a moment at which a peer has a session.  As long as the peer neither connects
nor leaves and every sweep comes in time, the server serves it, with the same address and the same
key.  The conditions on the other peers' events are needed: one that connects when the counter has
come round is given the peer's address. -/
theorem session_survives (S : Sodium) (secret : Key) {before later : List Event}
    (hevents : Along (monitoredStep S) (KeepsSwitch S) (initMonitored S secret) (before ++ later))
    {peer : SockAddr} {address : UInt32} {key : Key} {lastSeen : ℤ}
    (hold : sessionsOf (tablesOf (run (monitoredStep S) (initMonitored S secret) before)) peer
      = some ⟨address, key, lastSeen⟩)
    (hheard : Switch.Heard clientTimeout peer lastSeen (later.map switchInput)) :
    Serves S secret (run (monitoredStep S) (initMonitored S secret) (before ++ later)).server peer
      address key := by
  obtain ⟨hbefore, hlater⟩ := along_append.mp hevents
  obtain ⟨sessions, -, hmid⟩ := (initMonitored_isSwitch S secret).run hbefore
  rw [← hmid.sessions_eq] at hold
  obtain ⟨sessions', hrun, hlast⟩ := hmid.run hlater
  obtain ⟨_, lastSeen', hsession, -⟩ :=
    Switch.survives hrun ⟨lastSeen, hold, le_refl lastSeen⟩ hheard
  rw [run_append]
  exact hlast.serves hsession

/-- The first client is served after the visit of the second as before. -/
theorem session_survives_visit :
    Serves sampleSodium zeroKey (run (monitoredStep sampleSodium)
        (initMonitored sampleSodium zeroKey) ([sampleConnect ⟨1, 1⟩ 1] ++ visit)).server
      ⟨1, 1⟩ firstIp ((Vector.replicate 32 1).setIfInBounds 31 65) :=
  session_survives sampleSodium zeroKey visit_keepsSwitch
    (show sessionsOf _ _ = some ⟨_, _, 0⟩ by decide +kernel)
    ⟨by decide, fun _ => ⟨by decide, trivial⟩, fun h => absurd rfl h⟩

end Vpn
