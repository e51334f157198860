/-
# Which key the enclave finds for a client

For every connected client, the key that `get_key` finds under its VPN address should be
the session key of the public key in the client's last answered CONNECT_REQ.  `KeysAgree`
says so of the two tables.

An event keeps `KeysAgree` exactly when it meets `KeepsAgreement` (`keysAgree_step_iff`).
The conditions name what can go wrong: a second CONNECT_REQ whose key ends up behind an
older one, a VPN address given to two clients, a DISCONNECT that uncovers or removes a key
another client needs, a rollback that removes the wrong client.
-/
import CloudVpn.ServerTables

open Memory Slots Runs

namespace Vpn

variable {S : Sodium} {s : Tables}

/-! ## The property -/

/-- The enclave finds under `ip` the session key of the public key in the peer's last
answered CONNECT_REQ. -/
def HasSessionKey (S : Sodium) (s : Tables) (addr : SockAddr) (ip : UInt32) : Prop :=
  ∃ pk key, s.answered addr = some pk ∧
    sessionKeyOf S s.km.serverPrivateKey pk = some key ∧ getKey s.km ip = some key

instance (S : Sodium) (s : Tables) (addr : SockAddr) (ip : UInt32) :
    Decidable (HasSessionKey S s addr ip) :=
  decidable_of_iff (∃ pk ∈ s.answered addr, ∃ key ∈ getKey s.km ip,
      sessionKeyOf S s.km.serverPrivateKey pk = some key) (by
    constructor
    · rintro ⟨pk, hpk, key, hget, hkey⟩
      exact ⟨pk, key, hpk, hkey, hget⟩
    · rintro ⟨pk, key, hpk, hkey, hget⟩
      exact ⟨pk, hpk, key, hget, hkey⟩)

/-- Every connected client is found with its session key. -/
def KeysAgree (S : Sodium) (s : Tables) : Prop :=
  ∀ x ∈ liveSessions s.table, HasSessionKey S s x.realAddr x.vpnIp

/-- No client but the peer itself holds the address. -/
def OnlyHolder (table : ClientTable) (addr : SockAddr) (ip : UInt32) : Prop :=
  ∀ x ∈ liveSessions table, x.vpnIp = ip → x.realAddr = addr

instance (table : ClientTable) (addr : SockAddr) (ip : UInt32) :
    Decidable (OnlyHolder table addr ip) :=
  decidable_of_iff (∀ i, (table.clients i).active = true → (table.clients i).vpnIp = ip →
      (table.clients i).realAddr = addr) (by
    constructor
    · rintro h _ ⟨i, hact, rfl⟩
      exact h i hact
    · exact fun h i hact => h _ (session_mem_liveSessions hact))

/-- The events that keep `KeysAgree`.

* A CONNECT_REQ with a key that ECDH accepts: the enclave already finds that session key
  under the offered address; or nobody else holds the address, and the first free key slot
  is in front of every key stored for it.
* A CONNECT_REQ that ECDH refuses: the peer is connected; or no older entry of the offered
  address lies in front of the slot the peer would get; or the peer's old key is the one
  found there.
* A DISCONNECT: nobody else holds the peer's address, or the next key stored for it is the
  same.

A full client table, sweeps and all other packets are harmless. -/
def KeepsAgreement (S : Sodium) (s : Tables) : TablesEvent → Prop
  | .connect addr pk _ _ =>
      s.table.count < maxClients →
        match sessionKeyOf S s.km.serverPrivateKey pk with
        | some key =>
            getKey s.km (offeredIp s.table addr) = some key ∨
              OnlyHolder s.table addr (offeredIp s.table addr) ∧
              ∃ i, findFreeKey s.km = some i ∧
                NoKeyBelow s.km (offeredIp s.table addr) i
        | none =>
            findClientByAddr s.table addr ≠ none ∨
              ¬ Shadowed s.table (offeredIp s.table addr) ∨
              HasSessionKey S s addr (offeredIp s.table addr)
  | .disconnect addr =>
      ∀ client, findClientByAddr s.table addr = some client →
        OnlyHolder s.table addr (s.table.clients client).vpnIp ∨
          (keysFor s.km (s.table.clients client).vpnIp).tail.head?
            = (keysFor s.km (s.table.clients client).vpnIp).head?
  | _ => True

instance (S : Sodium) (s : Tables) : ∀ e, Decidable (KeepsAgreement S s e)
  | .connect addr pk now rand =>
      have : Decidable (match sessionKeyOf S s.km.serverPrivateKey pk with
          | some key =>
              getKey s.km (offeredIp s.table addr) = some key ∨
                OnlyHolder s.table addr (offeredIp s.table addr) ∧
                ∃ i, findFreeKey s.km = some i ∧
                  NoKeyBelow s.km (offeredIp s.table addr) i
          | none =>
              findClientByAddr s.table addr ≠ none ∨
                ¬ Shadowed s.table (offeredIp s.table addr) ∨
                HasSessionKey S s addr (offeredIp s.table addr)) :=
        match sessionKeyOf S s.km.serverPrivateKey pk with
        | some _ => inferInstance
        | none => inferInstance
      inferInstanceAs (Decidable (s.table.count < maxClients → _))
  | .disconnect addr =>
      inferInstanceAs (Decidable (∀ client, findClientByAddr s.table addr = some client → _ ∨ _))
  | .touch _ _ | .sweep _ | .idle => .isTrue trivial

/-! ## Steps that only lose sessions -/

/-- With the same keys and the same record, fewer sessions cannot break the agreement. -/
theorem KeysAgree.mono {s' : Tables} (h : KeysAgree S s)
    (hlive : liveSessions s'.table ⊆ liveSessions s.table) (hkm : s'.km = s.km)
    (hans : s'.answered = s.answered) : KeysAgree S s' := by
  intro x hx
  have hold := h x (hlive hx)
  unfold HasSessionKey at hold ⊢
  rw [hkm, hans]
  exact hold

/-- A peer whose record stays finds its session key under an address exactly when the
lookup of the address gives what it gave before. -/
theorem hasSessionKey_iff_of_getKey {s' : Tables} {addr : SockAddr} {ip : UInt32}
    (h : HasSessionKey S s addr ip) (hans : s'.answered addr = s.answered addr)
    (hsk : s'.km.serverPrivateKey = s.km.serverPrivateKey) :
    HasSessionKey S s' addr ip ↔ getKey s'.km ip = getKey s.km ip := by
  obtain ⟨pk, key, hpk, hkey, hget⟩ := h
  constructor
  · rintro ⟨pk', key', hpk', hkey', hget'⟩
    rw [hans, hpk] at hpk'
    rw [← Option.some.inj hpk', hsk, hkey] at hkey'
    rw [hget', hget, hkey']
  · intro hsame
    exact ⟨pk, key, hans.trans hpk, by rw [hsk]; exact hkey, hsame.trans hget⟩

/-! ## Connecting -/

/-- Adding a key for one address, or failing to, leaves the lookups of the others. -/
theorem getKey_addKey_of_ne (km : KeyManager) {ip ip' : UInt32} (hne : ip ≠ ip')
    (key : Key) : getKey ((addKey km ip key).getD km) ip' = getKey km ip' := by
  cases hfree : findFreeKey km with
  | none =>
      rw [addKey_full hfree]
      rfl
  | some i =>
      rw [addKey_free hfree]
      exact getKey_storeKey_of_ne (findFreeKey_eq_some.mp hfree).1 hne key

theorem serverPrivateKey_addKey (km : KeyManager) (ip : UInt32) (key : Key) :
    ((addKey km ip key).getD km).serverPrivateKey = km.serverPrivateKey := by
  unfold addKey
  cases findFreeKey km <;> rfl

/-- The peer of an answered connect has its session key exactly if that is the new one: its
record is the public key it has just sent. -/
theorem hasSessionKey_answered_iff {table : ClientTable} {km km' : KeyManager}
    {answered : SockAddr → Option Key} {addr : SockAddr} {pk key : Key} {ip : UInt32}
    (hsk : km'.serverPrivateKey = km.serverPrivateKey)
    (hkey : sessionKeyOf S km.serverPrivateKey pk = some key) :
    HasSessionKey S ⟨table, km', Function.update answered addr (some pk)⟩ addr ip ↔
      getKey km' ip = some key := by
  constructor
  · rintro ⟨pk', key', hans, hkey', hget⟩
    simp only [Function.update_self, Option.some.injEq] at hans
    subst hans
    rw [hsk, hkey] at hkey'
    rw [← Option.some.inj hkey'] at hget
    exact hget
  · intro hget
    exact ⟨pk, key, by simp, by rw [hsk]; exact hkey, hget⟩

/-- After an answered connect, agreement is a matter of the offered address alone: the
enclave finds the new key there, and the other holders still find theirs. -/
theorem keysAgree_answered_iff (hwf : s.table.Wf) (hroom : s.table.count < maxClients)
    (h : KeysAgree S s) {addr : SockAddr} {pk key : Key} (now : ℤ) (rand : UInt32)
    (hkey : sessionKeyOf S s.km.serverPrivateKey pk = some key) :
    KeysAgree S (tablesStep S s (.connect addr pk now rand)) ↔
      getKey ((addKey s.km (offeredIp s.table addr) key).getD s.km) (offeredIp s.table addr)
          = some key ∧
      ∀ x ∈ liveSessions s.table, x.realAddr ≠ addr → x.vpnIp = offeredIp s.table addr →
        getKey s.km (offeredIp s.table addr) = some key := by
  rw [tablesStep_connect_answered hwf hroom now rand hkey]
  obtain ⟨x₀, haddr₀, hip₀, hlive⟩ := liveSessions_addClient hwf hroom addr now rand
  have hsk := serverPrivateKey_addKey s.km (offeredIp s.table addr) key
  -- The other peers: their records stay, so their lookups have to stay.
  have hother : ∀ x ∈ liveSessions s.table, x.realAddr ≠ addr →
      (HasSessionKey S ⟨(addClient s.table addr now rand).1,
        (addKey s.km (offeredIp s.table addr) key).getD s.km,
        Function.update s.answered addr (some pk)⟩ x.realAddr x.vpnIp ↔
      getKey ((addKey s.km (offeredIp s.table addr) key).getD s.km) x.vpnIp
        = getKey s.km x.vpnIp) := by
    intro x hx hne
    exact hasSessionKey_iff_of_getKey (h x hx) (Function.update_of_ne hne _ _) hsk
  constructor
  · intro hall
    have hx₀ := hall x₀ (by rw [hlive]; exact Set.mem_insert _ _)
    rw [haddr₀, hip₀] at hx₀
    have hnew := (hasSessionKey_answered_iff hsk hkey).mp hx₀
    refine ⟨hnew, fun x hx hne hip => ?_⟩
    have hsame := (hother x hx hne).mp
      (hall x (by rw [hlive]; exact Set.mem_insert_of_mem _ hx))
    rw [hip] at hsame
    exact hsame.symm.trans hnew
  · rintro ⟨hnew, hothers⟩ x hx
    rw [hlive] at hx
    by_cases haddr : x.realAddr = addr
    · have hip : x.vpnIp = offeredIp s.table addr := by
        rcases hx with rfl | hx
        · exact hip₀
        · exact vpnIp_eq_offeredIp hwf hx haddr
      rw [haddr, hip]
      exact (hasSessionKey_answered_iff hsk hkey).mpr hnew
    · have hx' : x ∈ liveSessions s.table := by
        rcases hx with rfl | hx
        · exact absurd haddr₀ haddr
        · exact hx
      apply (hother x hx' haddr).mpr
      by_cases hip : x.vpnIp = offeredIp s.table addr
      · rw [hip, hothers x hx' haddr hip]
        exact hnew
      · exact getKey_addKey_of_ne s.km (Ne.symm hip) key

/-- When the enclave finds the new key after an answered connect. -/
theorem getKey_addKey_iff (km : KeyManager) (ip : UInt32) (key : Key) :
    getKey ((addKey km ip key).getD km) ip = some key ↔
      getKey km ip = some key ∨ ∃ i, findFreeKey km = some i ∧ NoKeyBelow km ip i := by
  cases hfree : findFreeKey km with
  | none =>
      rw [addKey_full hfree]
      simp
  | some i =>
      rw [addKey_free hfree]
      show getKey (storeKey km i ip key) ip = some key ↔ _
      rw [getKey_storeKey_iff (findFreeKey_eq_some.mp hfree).1]
      constructor
      · rintro (hclear | hsame)
        · exact Or.inr ⟨i, rfl, hclear⟩
        · exact Or.inl hsame
      · rintro (hsame | ⟨j, hj, hclear⟩)
        · exact Or.inr hsame
        · rw [Option.some.inj hj]
          exact Or.inl hclear

/-- A connect that ECDH refuses. -/
theorem keysAgree_refused_iff (hwf : s.table.Wf) (hroom : s.table.count < maxClients)
    (h : KeysAgree S s) {addr : SockAddr} {pk : Key} (now : ℤ) (rand : UInt32)
    (hkey : sessionKeyOf S s.km.serverPrivateKey pk = none) :
    KeysAgree S (tablesStep S s (.connect addr pk now rand)) ↔
      findClientByAddr s.table addr ≠ none ∨
        ¬ Shadowed s.table (offeredIp s.table addr) ∨
        HasSessionKey S s addr (offeredIp s.table addr) := by
  rw [tablesStep_connect_refused hwf hroom now rand hkey]
  cases hfind : findClientByAddr s.table addr with
  | some i =>
      refine ⟨fun _ => Or.inl (by simp), fun _ => ?_⟩
      exact h.mono (liveSessions_rollback_existing hwf now rand hroom hfind).1 rfl rfl
  | none =>
      by_cases hshadow : Shadowed s.table (offeredIp s.table addr)
      · obtain ⟨y, -, -, hlive⟩ :=
          liveSessions_rollback_shadowed hwf now rand hroom hfind hshadow
        -- The older holder goes and the refused peer stays, so it needs a key of its own.
        constructor
        · intro hall
          have hx := hall (newEntry s.table addr now rand).session (by
            rw [hlive]
            exact Set.mem_insert _ _)
          refine Or.inr (Or.inr ?_)
          rw [offeredIp_new hfind]
          exact hx
        · rintro (hne | hclear | hold) x hx
          · exact absurd rfl hne
          · exact absurd hshadow hclear
          · rw [hlive] at hx
            rcases hx with rfl | hx
            · rw [offeredIp_new hfind] at hold
              exact hold
            · exact h x hx.1
      · refine ⟨fun _ => Or.inr (Or.inl hshadow), fun _ => ?_⟩
        exact h.mono
          (liveSessions_rollback_fresh hwf now rand hroom hfind hshadow).subset rfl rfl

/-! ## Disconnecting -/

/-- After a key was removed, a session finds its key unless it has that address and the lookup
there has changed. -/
theorem hasSessionKey_removeKey_iff (h : KeysAgree S s) {x : Session}
    (hx : x ∈ liveSessions s.table) (ip : UInt32) (table' : ClientTable) :
    HasSessionKey S ⟨table', removeKey s.km ip, s.answered⟩ x.realAddr x.vpnIp ↔
      (x.vpnIp = ip → getKey (removeKey s.km ip) ip = getKey s.km ip) := by
  have hsk : (removeKey s.km ip).serverPrivateKey = s.km.serverPrivateKey := by
    unfold removeKey
    cases findKey s.km ip <;> rfl
  have hiff : HasSessionKey S ⟨table', removeKey s.km ip, s.answered⟩ x.realAddr x.vpnIp ↔
      getKey (removeKey s.km ip) x.vpnIp = getKey s.km x.vpnIp :=
    hasSessionKey_iff_of_getKey (h x hx) rfl hsk
  rw [hiff]
  constructor
  · intro hsame hxip
    rw [hxip] at hsame
    exact hsame
  · intro hsame
    by_cases hxip : x.vpnIp = ip
    · rw [hxip]
      exact hsame hxip
    · exact getKey_removeKey_of_ne s.km (Ne.symm hxip)

/-- A DISCONNECT of a connected peer. -/
theorem keysAgree_disconnect_iff (hwf : s.table.Wf) (h : KeysAgree S s) {addr : SockAddr}
    {client : Fin maxClients} (hclient : findClientByAddr s.table addr = some client) :
    KeysAgree S (tablesStep S s (.disconnect addr)) ↔
      OnlyHolder s.table addr (s.table.clients client).vpnIp ∨
        (keysFor s.km (s.table.clients client).vpnIp).tail.head?
          = (keysFor s.km (s.table.clients client).vpnIp).head? := by
  rw [tablesStep_disconnect_known hclient]
  obtain ⟨⟨hact, haddr⟩, -⟩ := findClientByAddr_eq_some.mp hclient
  have hself := session_mem_liveSessions hact
  generalize hip : (s.table.clients client).vpnIp = ip
  rw [← keysFor_removeKey, ← getKey_eq_head?, ← getKey_eq_head?]
  cases hfind : findClientByVpnIp s.table ip with
  | none => exact absurd hip (findClientByVpnIp_eq_none.mp hfind client hact)
  | some c =>
      obtain ⟨⟨hcact, hcip⟩, -⟩ := findClientByVpnIp_eq_some.mp hfind
      rw [removeClient_found hfind]
      have hlive := liveSessions_deactivate hwf hcact
      constructor
      · intro hall
        by_contra hcon
        rw [not_or] at hcon
        obtain ⟨honly, hdiff⟩ := hcon
        unfold OnlyHolder at honly
        push Not at honly
        obtain ⟨x, hx, hxip, hxaddr⟩ := honly
        -- Two peers hold the address; the one that is not removed loses its key.
        have hbreaks : ∀ z ∈ liveSessions s.table, z.vpnIp = ip →
            z.realAddr ≠ (s.table.clients c).realAddr → False := by
          intro z hz hzip hzne
          have hz' := hall z (by rw [hlive]; exact ⟨hz, hzne⟩)
          exact hdiff ((hasSessionKey_removeKey_iff h hz ip _).mp hz' hzip)
        by_cases hxc : x.realAddr = (s.table.clients c).realAddr
        · apply hbreaks _ hself hip
          rw [← hxc]
          exact fun heq => hxaddr (heq.symm.trans haddr)
        · exact hbreaks x hx hxip hxc
      · intro hcond x hx
        -- If the peer was the only holder, the entry dropped is its own.
        rw [hlive] at hx
        apply (hasSessionKey_removeKey_iff h hx.1 ip _).mpr
        intro hxip
        rcases hcond with honly | hsame
        · have hxaddr := honly x hx.1 hxip
          have hcaddr := honly _ (session_mem_liveSessions hcact) hcip
          exact absurd (hxaddr.trans hcaddr.symm) hx.2
        · exact hsame

/-! ## Steps and runs -/

/-- **One event keeps the agreement exactly when it meets `KeepsAgreement`.** -/
theorem keysAgree_step_iff (hwf : s.table.Wf) (h : KeysAgree S s) (e : TablesEvent) :
    KeysAgree S (tablesStep S s e) ↔ KeepsAgreement S s e := by
  cases e with
  | connect addr pk now rand =>
      by_cases hroom : s.table.count < maxClients
      · simp only [KeepsAgreement, hroom, forall_const]
        cases hkey : sessionKeyOf S s.km.serverPrivateKey pk with
        | some key =>
            rw [keysAgree_answered_iff hwf hroom h now rand hkey, getKey_addKey_iff]
            constructor
            · rintro ⟨hsame | ⟨i, hi, hclear⟩, hothers⟩
              · exact Or.inl hsame
              · by_cases hsame : getKey s.km (offeredIp s.table addr) = some key
                · exact Or.inl hsame
                · refine Or.inr ⟨fun x hx hip => ?_, i, hi, hclear⟩
                  by_contra hne
                  exact hsame (hothers x hx hne hip)
            · rintro (hsame | ⟨honly, hroom'⟩)
              · exact ⟨Or.inl hsame, fun _ _ _ _ => hsame⟩
              · exact ⟨Or.inr hroom', fun x hx hne hip => absurd (honly x hx hip) hne⟩
        | none => exact keysAgree_refused_iff hwf hroom h now rand hkey
      · rw [tablesStep_connect_full addr pk now rand (not_lt.mp hroom)]
        exact ⟨fun _ hlt => absurd hlt hroom, fun _ => h⟩
  | touch client now =>
      refine ⟨fun _ => trivial, fun _ => ?_⟩
      exact h.mono (liveSessions_updateClientActivity s.table client now).subset rfl rfl
  | disconnect addr =>
      cases hfind : findClientByAddr s.table addr with
      | none =>
          rw [tablesStep_disconnect_unknown hfind]
          refine ⟨fun _ client hclient => ?_, fun _ => h⟩
          rw [hfind] at hclient
          exact absurd hclient (by simp)
      | some client =>
          rw [keysAgree_disconnect_iff hwf h hfind]
          constructor
          · intro hcond client' hclient'
            rw [hfind] at hclient'
            cases hclient'
            exact hcond
          · intro hcond
            exact hcond client hfind
  | sweep now =>
      refine ⟨fun _ => trivial, fun _ => ?_⟩
      exact h.mono (liveSessions_checkClientTimeouts_subset s.table now) rfl rfl
  | idle => exact ⟨fun _ => trivial, fun _ => h⟩

/-- **Clients and enclave agree on their keys exactly on the runs of `KeepsAgreement`
events**, when every IPC call returns its reply. -/
theorem keys_agree_iff (S : Sodium) (secret : Key) (events : List Event)
    (hipc : ∀ e ∈ events, e.env.delivery = .whole) :
    Throughout (monitoredStep S) (fun m => KeysAgree S (tablesOf m)) (initMonitored S secret)
        events ↔
      Along (monitoredStep S)
        (fun m e => KeepsAgreement S (tablesOf m) (tablesEventOf S m.server e))
        (initMonitored S secret) events := by
  apply throughout_tables_iff secret (fun s e hwf h => keysAgree_step_iff hwf h e) ?_ hipc
  intro x hx
  have hempty : x ∈ (∅ : Set Session) := by
    rw [← liveSessions_initClientTable]
    exact hx
  exact absurd hempty (Set.notMem_empty x)

/-- Two peers connect and one leaves: each one's key is found as long as it stays. -/
theorem keys_agree_iff_twoPeers :
    Throughout (monitoredStep sampleSodium) (fun m => KeysAgree sampleSodium (tablesOf m))
      (initMonitored sampleSodium zeroKey) twoPeers :=
  (keys_agree_iff sampleSodium zeroKey twoPeers (by decide)).mpr (by decide +kernel)

/-- **After a reconnect the enclave still finds the old key.**  A peer connects twice, the
second time with another public key; both requests are answered. -/
theorem reconnect_keeps_old_key :
    ¬ Throughout (monitoredStep sampleSodium) (fun m => KeysAgree sampleSodium (tablesOf m))
      (initMonitored sampleSodium zeroKey)
      [sampleConnect ⟨1, 1⟩ 1, sampleConnect ⟨1, 1⟩ 2] := by
  intro h
  have hlast := h.last
  obtain ⟨pk, key, hans, hkey, hget⟩ := hlast ⟨⟨1, 1⟩, 0x0200080a, 0⟩
    ⟨0, by decide +kernel, by decide +kernel⟩
  have hpk : some (Vector.replicate 32 2) = some pk := by
    rw [← hans]
    decide +kernel
  rw [← Option.some.inj hpk, ← hget] at hkey
  exact absurd hkey (by decide +kernel)

end Vpn
