/-
# The two tables side by side

The client table of the server and the key table of the enclave are updated by different
processes.  `Tables` puts them next to each other, together with a record that no program
keeps: which public key the last answered CONNECT_REQ of each peer carried.  `tablesStep`
is the effect of one event on them when every IPC call returns its reply.

This is the level at which the two tables are compared; that the server's handlers act as
`tablesStep` is proved in `CloudVpn.ServerTables`.
-/
import CloudVpn.KeyManager
import CloudVpn.LiveSessions

open Memory Slots Runs

namespace Vpn

/-- The two tables, and the public key of each peer's last answered CONNECT_REQ. -/
structure Tables where
  table : ClientTable
  km : KeyManager
  answered : SockAddr → Option Key

/-- What an event amounts to for the tables. -/
inductive TablesEvent where
  /-- A CONNECT_REQ. -/
  | connect (addr : SockAddr) (clientPublicKey : Key) (now : ℤ) (rand : UInt32)
  /-- A packet that only refreshes an entry. -/
  | touch (client : Fin maxClients) (now : ℤ)
  /-- A DISCONNECT. -/
  | disconnect (addr : SockAddr)
  /-- A call of `check_client_timeouts`. -/
  | sweep (now : ℤ)
  /-- An event that touches neither table. -/
  | idle

/-- The tables after an event. -/
def tablesStep (S : Sodium) (s : Tables) : TablesEvent → Tables
  | .connect addr pk now rand =>
      let (table, vpnIp) := addClient s.table addr now rand
      if vpnIp = 0 then { s with table := table }
      else
        match performHandshake S s.km vpnIp pk with
        | some (km, _) => ⟨table, km, Function.update s.answered addr (some pk)⟩
        | none => { s with table := removeClient table vpnIp }
  | .touch client now => { s with table := updateClientActivity s.table client now }
  | .disconnect addr =>
      match findClientByAddr s.table addr with
      | none => s
      | some client =>
          { s with
            table := removeClient s.table (s.table.clients client).vpnIp
            km := removeKey s.km (s.table.clients client).vpnIp }
  | .sweep now => { s with table := checkClientTimeouts s.table now }
  | .idle => s

/-- The tables of a server that has just started. -/
def initTables (S : Sodium) (secret : Key) : Tables :=
  ⟨initClientTable, initKeyManager S secret, fun _ => none⟩

/-! ## The outcomes of a connect -/

/-- `perform_handshake` stores and returns the session key of the two keys. -/
theorem performHandshake_eq (S : Sodium) (km : KeyManager) (ip : UInt32) (pk : Key) :
    performHandshake S km ip pk
      = (sessionKeyOf S km.serverPrivateKey pk).map
        fun key => ((addKey km ip key).getD km, key) := by
  unfold performHandshake sessionKeyOf
  rw [Option.map_map]
  rfl

variable {S : Sodium} {s : Tables}

/-- A full client table refuses the connect. -/
theorem tablesStep_connect_full (addr : SockAddr) (pk : Key) (now : ℤ) (rand : UInt32)
    (hfull : s.table.count ≥ maxClients) :
    tablesStep S s (.connect addr pk now rand) = s := by
  simp only [tablesStep]
  rw [addClient_full addr now rand hfull]
  rfl

/-- With room, and a public key on which ECDH succeeds, the client is added, its key is
stored if the key table has room, and the request is answered. -/
theorem tablesStep_connect_answered (hwf : s.table.Wf) (hroom : s.table.count < maxClients)
    {addr : SockAddr} {pk key : Key} (now : ℤ) (rand : UInt32)
    (hkey : sessionKeyOf S s.km.serverPrivateKey pk = some key) :
    tablesStep S s (.connect addr pk now rand) =
      ⟨(addClient s.table addr now rand).1,
        (addKey s.km (offeredIp s.table addr) key).getD s.km,
        Function.update s.answered addr (some pk)⟩ := by
  obtain ⟨hsnd, hne⟩ := hwf.addClient_snd hroom addr now rand
  simp only [tablesStep, hsnd, if_neg hne]
  rw [performHandshake_eq, hkey]
  rfl

/-- With room, but a public key on which ECDH fails, the client is added and removed by its
VPN address. -/
theorem tablesStep_connect_refused (hwf : s.table.Wf) (hroom : s.table.count < maxClients)
    {addr : SockAddr} {pk : Key} (now : ℤ) (rand : UInt32)
    (hkey : sessionKeyOf S s.km.serverPrivateKey pk = none) :
    tablesStep S s (.connect addr pk now rand) =
      { s with table :=
          removeClient (addClient s.table addr now rand).1 (offeredIp s.table addr) } := by
  obtain ⟨hsnd, hne⟩ := hwf.addClient_snd hroom addr now rand
  simp only [tablesStep, hsnd, if_neg hne]
  rw [performHandshake_eq, hkey]
  rfl

theorem tablesStep_disconnect_known {addr : SockAddr} {client : Fin maxClients}
    (h : findClientByAddr s.table addr = some client) :
    tablesStep S s (.disconnect addr) =
      { s with
        table := removeClient s.table (s.table.clients client).vpnIp
        km := removeKey s.km (s.table.clients client).vpnIp } := by
  simp only [tablesStep]
  rw [h]

theorem tablesStep_disconnect_unknown {addr : SockAddr}
    (h : findClientByAddr s.table addr = none) :
    tablesStep S s (.disconnect addr) = s := by
  simp only [tablesStep]
  rw [h]

end Vpn
