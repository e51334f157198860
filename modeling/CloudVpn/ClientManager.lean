/-
# The server's client table

Model of `client_manager.c`: the table of 254 client slots, the wrapping counter
from which VPN addresses are taken, and the operations on them.  A pointer to an
entry is its slot number; `time(NULL)` and `rand()` are arguments.

The lemmas say what each search finds and which way each operation takes, so that the
proofs about the table never look into its loops.
-/
import CloudVpn.Memory
import CloudVpn.Runs
import CloudVpn.Slots

open Memory Slots Runs

namespace Vpn

/-! ## Data -/

/-- `MAX_CLIENTS`. -/
abbrev maxClients : ℕ := 254

/-- `CLIENT_TIMEOUT`, in seconds. -/
def clientTimeout : ℤ := 300

/-- The fields of a `struct sockaddr_in` that tell two peers apart. -/
structure SockAddr where
  sinAddr : UInt32
  sinPort : UInt16
  deriving DecidableEq, Repr, Inhabited

/-- `client_entry_t`. -/
structure ClientEntry where
  vpnIp : UInt32
  realAddr : SockAddr
  lastSeen : ℤ
  sessionId : UInt32
  active : Bool
  deriving DecidableEq, Repr

/-- `client_table_t`; `nextIp` is in host byte order, the entries' `vpnIp` in network
byte order. -/
structure ClientTable where
  clients : Fin maxClients → ClientEntry
  count : ℤ
  nextIp : UInt32

/-! ## Operations -/

/-- `init_client_table`: all bytes zero, then the first address to hand out. -/
def initClientTable : ClientTable where
  clients := fun _ => ⟨0, ⟨0, 0⟩, 0, 0, false⟩
  count := 0
  nextIp := 0x0a080002

/-- `generate_session_id`. -/
def generateSessionId (now : ℤ) (rand : UInt32) : UInt32 := UInt32.ofInt now ^^^ rand

/-- `find_client_by_vpn_ip`. -/
def findClientByVpnIp (table : ClientTable) (vpnIp : UInt32) : Option (Fin maxClients) :=
  scan fun i => (table.clients i).active && (table.clients i).vpnIp == vpnIp

/-- The test of `find_client_by_addr` on one entry. -/
def matchesAddr (addr : SockAddr) (entry : ClientEntry) : Bool :=
  entry.active && entry.realAddr.sinAddr == addr.sinAddr &&
    entry.realAddr.sinPort == addr.sinPort

/-- `find_client_by_addr`. -/
def findClientByAddr (table : ClientTable) (addr : SockAddr) : Option (Fin maxClients) :=
  scan fun i => matchesAddr addr (table.clients i)

/-- `update_client_activity`. -/
def updateClientActivity (table : ClientTable) (client : Fin maxClients) (now : ℤ) :
    ClientTable :=
  { table with
    clients := Function.update table.clients client
      { table.clients client with lastSeen := now } }

/-- The address the counter stands for, in host byte order: past 10.8.0.255 it starts
again at 10.8.0.2. -/
def vpnIpHost (table : ClientTable) : UInt32 :=
  if table.nextIp > 0x0a0800ff then 0x0a080002 else table.nextIp

/-- The free-slot search of `add_client`. -/
def findFreeSlot (table : ClientTable) : Option (Fin maxClients) :=
  scan fun i => !(table.clients i).active

/-- The entry that `add_client` stores. -/
def newEntry (table : ClientTable) (addr : SockAddr) (now : ℤ) (rand : UInt32) :
    ClientEntry where
  vpnIp := htonl (vpnIpHost table)
  realAddr := addr
  lastSeen := now
  sessionId := generateSessionId now rand
  active := true

/-- The table after `add_client` has stored its entry at `index`. -/
def storeClient (table : ClientTable) (index : Fin maxClients) (entry : ClientEntry) :
    ClientTable where
  clients := Function.update table.clients index entry
  count := table.count + 1
  nextIp := vpnIpHost table + 1

/-- `add_client`, with the address it returns (0 on failure). -/
def addClient (table : ClientTable) (addr : SockAddr) (now : ℤ) (rand : UInt32) :
    ClientTable × UInt32 :=
  if table.count ≥ maxClients then (table, 0)
  else
    match findClientByAddr table addr with
    | some existing =>
        (updateClientActivity table existing now, (table.clients existing).vpnIp)
    | none =>
        match findFreeSlot table with
        | none => (table, 0)
        | some index =>
            (storeClient table index (newEntry table addr now rand),
              htonl (vpnIpHost table))

/-- The two statements with which a client is dropped: `active = 0` and `count--`. -/
def deactivate (table : ClientTable) (client : Fin maxClients) : ClientTable :=
  { table with
    clients := Function.update table.clients client
      { table.clients client with active := false }
    count := table.count - 1 }

/-- `remove_client`. -/
def removeClient (table : ClientTable) (vpnIp : UInt32) : ClientTable :=
  match findClientByVpnIp table vpnIp with
  | some client => deactivate table client
  | none => table

/-- The test of `check_client_timeouts` on an active entry. -/
def expired (now : ℤ) (entry : ClientEntry) : Bool := now - entry.lastSeen > clientTimeout

/-- One iteration of the loop of `check_client_timeouts`. -/
def checkSlot (now : ℤ) (table : ClientTable) (i : Fin maxClients) : ClientTable :=
  if (table.clients i).active then
    if expired now (table.clients i) then deactivate table i else table
  else table

/-- `check_client_timeouts`.  Irreducible, so that no unifier unrolls the loop. -/
@[irreducible] def checkClientTimeouts (table : ClientTable) (now : ℤ) : ClientTable :=
  (List.finRange maxClients).foldl (checkSlot now) table

/-- The sweep as a run over the slot numbers. -/
theorem checkClientTimeouts_eq_run (table : ClientTable) (now : ℤ) :
    checkClientTimeouts table now
      = run (checkSlot now) table (List.finRange maxClients) := by
  unfold checkClientTimeouts run
  rfl

/-- A call of one of the operations on the table. -/
inductive TableOp where
  | addClient (addr : SockAddr) (now : ℤ) (rand : UInt32)
  | removeClient (vpnIp : UInt32)
  | updateClientActivity (client : Fin maxClients) (now : ℤ)
  | checkClientTimeouts (now : ℤ)

/-- The table after a call. -/
def applyOp (table : ClientTable) : TableOp → ClientTable
  | .addClient addr now rand => (addClient table addr now rand).1
  | .removeClient vpnIp => removeClient table vpnIp
  | .updateClientActivity client now => updateClientActivity table client now
  | .checkClientTimeouts now => checkClientTimeouts table now

@[simp] theorem applyOp_addClient (table : ClientTable) (addr : SockAddr) (now : ℤ)
    (rand : UInt32) :
    applyOp table (.addClient addr now rand) = (addClient table addr now rand).1 := rfl

@[simp] theorem applyOp_removeClient (table : ClientTable) (ip : UInt32) :
    applyOp table (.removeClient ip) = removeClient table ip := rfl

/-! ## The active entries -/

/-- An observer that skips the inactive slots. -/
def activeEntry (entry : ClientEntry) : Option ClientEntry :=
  if entry.active then some entry else none

/-- The active entries, in slot order. -/
def activeClients (table : ClientTable) : List ClientEntry :=
  entries activeEntry table.clients

theorem activeEntry_eq_some {e c : ClientEntry} :
    activeEntry e = some c ↔ e.active = true ∧ e = c := by
  unfold activeEntry
  cases h : e.active <;> simp

theorem activeEntry_eq_none {e : ClientEntry} :
    activeEntry e = none ↔ e.active = false := by
  unfold activeEntry
  cases h : e.active <;> simp

theorem mem_activeClients {table : ClientTable} {c : ClientEntry} :
    c ∈ activeClients table ↔ ∃ i, (table.clients i).active = true ∧ table.clients i = c := by
  unfold activeClients
  rw [mem_entries]
  simp only [activeEntry_eq_some]

/-! ## The searches -/

theorem findClientByVpnIp_eq_some {table : ClientTable} {ip : UInt32} {i : Fin maxClients} :
    findClientByVpnIp table ip = some i ↔
      ((table.clients i).active = true ∧ (table.clients i).vpnIp = ip) ∧
      ∀ j, j < i → (table.clients j).active = true → (table.clients j).vpnIp ≠ ip := by
  unfold findClientByVpnIp
  rw [scan_eq_some_iff]
  simp

theorem findClientByVpnIp_eq_none {table : ClientTable} {ip : UInt32} :
    findClientByVpnIp table ip = none ↔
      ∀ i, (table.clients i).active = true → (table.clients i).vpnIp ≠ ip := by
  unfold findClientByVpnIp
  rw [scan_eq_none_iff]
  simp

/-- Comparing the two address fields is comparing the addresses. -/
theorem matchesAddr_eq_true {a : SockAddr} {e : ClientEntry} :
    matchesAddr a e = true ↔ e.active = true ∧ e.realAddr = a := by
  obtain ⟨vpnIp, ⟨sinAddr, sinPort⟩, lastSeen, sessionId, active⟩ := e
  cases a
  simp [matchesAddr, and_assoc]

theorem matchesAddr_eq_false {a : SockAddr} {e : ClientEntry} :
    matchesAddr a e = false ↔ (e.active = true → e.realAddr ≠ a) := by
  rw [← Bool.not_eq_true, matchesAddr_eq_true, not_and]

theorem findClientByAddr_eq_some {table : ClientTable} {a : SockAddr} {i : Fin maxClients} :
    findClientByAddr table a = some i ↔
      ((table.clients i).active = true ∧ (table.clients i).realAddr = a) ∧
      ∀ j, j < i → (table.clients j).active = true → (table.clients j).realAddr ≠ a := by
  unfold findClientByAddr
  rw [scan_eq_some_iff]
  simp only [matchesAddr_eq_true, matchesAddr_eq_false]

theorem findClientByAddr_eq_none {table : ClientTable} {a : SockAddr} :
    findClientByAddr table a = none ↔
      ∀ i, (table.clients i).active = true → (table.clients i).realAddr ≠ a := by
  unfold findClientByAddr
  rw [scan_eq_none_iff]
  simp only [matchesAddr_eq_false]

theorem findFreeSlot_eq_some {table : ClientTable} {i : Fin maxClients} :
    findFreeSlot table = some i ↔
      (table.clients i).active = false ∧ ∀ j, j < i → (table.clients j).active = true := by
  unfold findFreeSlot
  rw [scan_eq_some_iff]
  simp

theorem findFreeSlot_eq_none {table : ClientTable} :
    findFreeSlot table = none ↔ ∀ i, (table.clients i).active = true := by
  unfold findFreeSlot
  rw [scan_eq_none_iff]
  simp

/-! ## The outcomes of `add_client` and `remove_client` -/

theorem addClient_full {table : ClientTable} (addr : SockAddr) (now : ℤ) (rand : UInt32)
    (h : table.count ≥ maxClients) : addClient table addr now rand = (table, 0) := by
  unfold addClient
  rw [if_pos h]

theorem addClient_existing {table : ClientTable} {addr : SockAddr} {i : Fin maxClients}
    (now : ℤ) (rand : UInt32) (h : table.count < maxClients)
    (hi : findClientByAddr table addr = some i) :
    addClient table addr now rand
      = (updateClientActivity table i now, (table.clients i).vpnIp) := by
  unfold addClient
  rw [if_neg (not_le.mpr h), hi]

theorem addClient_new {table : ClientTable} {addr : SockAddr} {i : Fin maxClients}
    (now : ℤ) (rand : UInt32) (h : table.count < maxClients)
    (hnone : findClientByAddr table addr = none) (hi : findFreeSlot table = some i) :
    addClient table addr now rand
      = (storeClient table i (newEntry table addr now rand), htonl (vpnIpHost table)) := by
  unfold addClient
  rw [if_neg (not_le.mpr h), hnone]
  simp only [hi]

theorem removeClient_found {table : ClientTable} {ip : UInt32} {i : Fin maxClients}
    (h : findClientByVpnIp table ip = some i) :
    removeClient table ip = deactivate table i := by
  unfold removeClient
  rw [h]

theorem removeClient_absent {table : ClientTable} {ip : UInt32}
    (h : findClientByVpnIp table ip = none) : removeClient table ip = table := by
  unfold removeClient
  rw [h]

end Vpn
