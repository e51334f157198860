/-
# The enclave's key table

Model of `key_manager.c`: 256 slots of session keys beside the server's key pair.
`add_key` fills the first free slot without looking for an older entry of the same
address; `get_key` and `remove_key` act on the first matching slot.

`keysFor km ip` lists the keys stored for an address in slot order.  `get_key` is its head
(`getKey_eq_head?`), `remove_key` drops its head (`keysFor_removeKey`), and `add_key` puts
the new key behind the keys in lower slots (`keysFor_storeKey`).
-/
import CloudVpn.Crypto
import CloudVpn.Slots

open Memory Slots

namespace Vpn

/-! ## Data -/

/-- `MAX_KEYS`. -/
abbrev maxKeys : ℕ := 256

/-- `key_entry_t`. -/
structure KeyEntry where
  vpnIp : UInt32
  sessionKey : Key
  active : Bool
  deriving DecidableEq

/-- `key_manager_t`. -/
structure KeyManager where
  keys : Fin maxKeys → KeyEntry
  count : ℤ
  serverPrivateKey : Key
  serverPublicKey : Key

/-- 32 zero bytes, as `memset` and `sodium_memzero` leave them. -/
def zeroKey : Key := Vector.replicate 32 0

/-! ## Operations -/

/-- `init_key_manager`, from the secret key that is drawn for the server. -/
def initKeyManager (S : Sodium) (secret : Key) : KeyManager where
  keys := fun _ => ⟨0, zeroKey, false⟩
  count := 0
  serverPrivateKey := (cryptoGenerateKeypair S secret).2
  serverPublicKey := (cryptoGenerateKeypair S secret).1

/-- The free-slot search of `add_key`. -/
def findFreeKey (km : KeyManager) : Option (Fin maxKeys) :=
  scan fun i => !(km.keys i).active

/-- The search of `get_key` and `remove_key`. -/
def findKey (km : KeyManager) (vpnIp : UInt32) : Option (Fin maxKeys) :=
  scan fun i => (km.keys i).active && (km.keys i).vpnIp == vpnIp

/-- The key table with a new entry at `index`. -/
def storeKey (km : KeyManager) (index : Fin maxKeys) (vpnIp : UInt32) (sessionKey : Key) :
    KeyManager :=
  { km with
    keys := Function.update km.keys index ⟨vpnIp, sessionKey, true⟩
    count := km.count + 1 }

/-- `add_key`; `none` is the return value -1, which leaves the table as it was. -/
def addKey (km : KeyManager) (vpnIp : UInt32) (sessionKey : Key) : Option KeyManager :=
  (findFreeKey km).map fun index => storeKey km index vpnIp sessionKey

/-- `get_key`; `none` is `NULL`. -/
def getKey (km : KeyManager) (vpnIp : UInt32) : Option Key :=
  (findKey km vpnIp).map fun i => (km.keys i).sessionKey

/-- `remove_key`. -/
def removeKey (km : KeyManager) (vpnIp : UInt32) : KeyManager :=
  match findKey km vpnIp with
  | none => km
  | some i =>
      { km with
        keys := Function.update km.keys i
          { km.keys i with sessionKey := zeroKey, active := false }
        count := km.count - 1 }

/-- `get_server_public_key`. -/
def getServerPublicKey (km : KeyManager) : Key := km.serverPublicKey

/-- `perform_handshake`, with `session_key_out`; `none` is the return value -1.  The
result of `add_key` is not looked at. -/
def performHandshake (S : Sodium) (km : KeyManager) (vpnIp : UInt32)
    (clientPublicKey : Key) : Option (KeyManager × Key) :=
  (cryptoEcdh S km.serverPrivateKey clientPublicKey).map fun sharedSecret =>
    let sessionKey := cryptoDeriveSessionKey S sharedSecret none
    ((addKey km vpnIp sessionKey).getD km, sessionKey)

/-! ## The keys stored for an address -/

/-- An observer that sees the keys of one address. -/
def keyFor (ip : UInt32) (entry : KeyEntry) : Option Key :=
  if entry.active && entry.vpnIp == ip then some entry.sessionKey else none

/-- The keys stored for an address, in slot order. -/
def keysFor (km : KeyManager) (ip : UInt32) : List Key := entries (keyFor ip) km.keys

theorem isSome_keyFor (ip : UInt32) (e : KeyEntry) :
    (keyFor ip e).isSome = (e.active && e.vpnIp == ip) := by
  unfold keyFor
  split_ifs with h
  · rw [h]
    rfl
  · simpa using h

theorem keyFor_eq_none {ip : UInt32} {e : KeyEntry} :
    keyFor ip e = none ↔ (e.active = true → e.vpnIp ≠ ip) := by
  unfold keyFor
  split_ifs with h <;> simp_all

theorem keyFor_of_inactive {ip : UInt32} {e : KeyEntry} (h : e.active = false) :
    keyFor ip e = none := by
  rw [keyFor_eq_none, h]
  exact fun hf => absurd hf (by simp)

theorem keyFor_self (ip : UInt32) (key : Key) : keyFor ip ⟨ip, key, true⟩ = some key := by
  simp [keyFor]

theorem keyFor_of_ne {ip ip' : UInt32} (key : Key) (h : ip ≠ ip') :
    keyFor ip' ⟨ip, key, true⟩ = none := by
  rw [keyFor_eq_none]
  exact fun _ => h

theorem findKey_eq_scan (km : KeyManager) (ip : UInt32) :
    findKey km ip = scan fun i => (keyFor ip (km.keys i)).isSome := by
  unfold findKey
  simp only [isSome_keyFor]

/-- `get_key` returns the first of the keys stored for the address. -/
theorem getKey_eq_head? (km : KeyManager) (ip : UInt32) :
    getKey km ip = (keysFor km ip).head? := by
  unfold getKey keysFor
  rw [entries_head_eq_scan, ← findKey_eq_scan]
  cases hfind : findKey km ip with
  | none => rfl
  | some i =>
      have hi := (scan_eq_some_iff.mp (findKey_eq_scan km ip ▸ hfind)).1
      rw [isSome_keyFor] at hi
      show some (km.keys i).sessionKey = keyFor ip (km.keys i)
      unfold keyFor
      rw [if_pos hi]

theorem findKey_eq_none {km : KeyManager} {ip : UInt32} :
    findKey km ip = none ↔ ∀ i, (km.keys i).active = true → (km.keys i).vpnIp ≠ ip := by
  unfold findKey
  rw [scan_eq_none_iff]
  simp

theorem findFreeKey_eq_some {km : KeyManager} {i : Fin maxKeys} :
    findFreeKey km = some i ↔
      (km.keys i).active = false ∧ ∀ j, j < i → (km.keys j).active = true := by
  unfold findFreeKey
  rw [scan_eq_some_iff]
  simp

theorem findFreeKey_eq_none {km : KeyManager} :
    findFreeKey km = none ↔ ∀ i, (km.keys i).active = true := by
  unfold findFreeKey
  rw [scan_eq_none_iff]
  simp

theorem addKey_free {km : KeyManager} {i : Fin maxKeys} (h : findFreeKey km = some i)
    (ip : UInt32) (key : Key) : addKey km ip key = some (storeKey km i ip key) := by
  unfold addKey
  rw [h]
  rfl

theorem addKey_full {km : KeyManager} (h : findFreeKey km = none) (ip : UInt32) (key : Key) :
    addKey km ip key = none := by
  unfold addKey
  rw [h]
  rfl

/-- **Adding a key** puts it behind the keys of the same address in lower slots. -/
theorem keysFor_storeKey {km : KeyManager} (i : Fin maxKeys) (ip : UInt32) (key : Key) :
    keysFor (storeKey km i ip key) ip
      = entriesBelow (keyFor ip) km.keys i ++ key :: entriesAbove (keyFor ip) km.keys i := by
  unfold keysFor storeKey
  rw [entries_update, keyFor_self]
  rfl

/-- What was stored for the address before, split at a free slot. -/
theorem keysFor_split {km : KeyManager} {i : Fin maxKeys} (h : (km.keys i).active = false)
    (ip : UInt32) :
    keysFor km ip
      = entriesBelow (keyFor ip) km.keys i ++ entriesAbove (keyFor ip) km.keys i := by
  unfold keysFor
  rw [entries_eq (keyFor ip) km.keys i, keyFor_of_inactive h]
  rfl

/-- Adding a key for one address does not touch the keys of another. -/
theorem keysFor_storeKey_of_ne {km : KeyManager} {i : Fin maxKeys} {ip ip' : UInt32}
    (h : (km.keys i).active = false) (hne : ip ≠ ip') (key : Key) :
    keysFor (storeKey km i ip key) ip' = keysFor km ip' := by
  unfold keysFor storeKey
  apply entries_update_of_view_eq
  rw [keyFor_of_ne key hne, keyFor_of_inactive h]

/-- **Removing a key** drops the first of the keys stored for the address. -/
theorem keysFor_removeKey (km : KeyManager) (ip : UInt32) :
    keysFor (removeKey km ip) ip = (keysFor km ip).tail := by
  unfold removeKey
  cases hfind : findKey km ip with
  | none =>
      have hhead : (keysFor km ip).head? = none := by
        rw [← getKey_eq_head?, getKey, hfind]
        rfl
      rw [List.head?_eq_none_iff.mp hhead]
      rfl
  | some i =>
      exact entries_update_first (findKey_eq_scan km ip ▸ hfind)
        (keyFor_of_inactive rfl)

/-- Removing a key of one address does not touch the keys of another. -/
theorem keysFor_removeKey_of_ne (km : KeyManager) {ip ip' : UInt32} (hne : ip ≠ ip') :
    keysFor (removeKey km ip) ip' = keysFor km ip' := by
  unfold removeKey
  cases hfind : findKey km ip with
  | none => rfl
  | some i =>
      have hi : (km.keys i).vpnIp = ip := by
        have hfound := (scan_eq_some_iff.mp hfind).1
        simp only [Bool.and_eq_true, beq_iff_eq] at hfound
        exact hfound.2
      -- The cleared slot showed nothing to an observer of `ip'` before either.
      apply entries_update_of_view_eq
      rw [keyFor_of_inactive rfl, eq_comm, keyFor_eq_none, hi]
      exact fun _ => hne

theorem getKey_storeKey_of_ne {km : KeyManager} {i : Fin maxKeys} {ip ip' : UInt32}
    (h : (km.keys i).active = false) (hne : ip ≠ ip') (key : Key) :
    getKey (storeKey km i ip key) ip' = getKey km ip' := by
  rw [getKey_eq_head?, getKey_eq_head?, keysFor_storeKey_of_ne h hne]

theorem getKey_removeKey_of_ne (km : KeyManager) {ip ip' : UInt32} (hne : ip ≠ ip') :
    getKey (removeKey km ip) ip' = getKey km ip' := by
  rw [getKey_eq_head?, getKey_eq_head?, keysFor_removeKey_of_ne km hne]

/-- No active entry for the address lies in front of slot `i`. -/
def NoKeyBelow (km : KeyManager) (ip : UInt32) (i : Fin maxKeys) : Prop :=
  ∀ j, j < i → (km.keys j).active = true → (km.keys j).vpnIp ≠ ip

instance (km : KeyManager) (ip : UInt32) (i : Fin maxKeys) : Decidable (NoKeyBelow km ip i) :=
  inferInstanceAs (Decidable (∀ j, j < i → (km.keys j).active = true → (km.keys j).vpnIp ≠ ip))

theorem entriesBelow_eq_nil_iff {km : KeyManager} {ip : UInt32} {i : Fin maxKeys} :
    entriesBelow (keyFor ip) km.keys i = [] ↔ NoKeyBelow km ip i := by
  rw [List.eq_nil_iff_forall_not_mem]
  constructor
  · intro h j hj hact heq
    apply h (km.keys j).sessionKey
    rw [mem_entriesBelow]
    exact ⟨j, hj, by simp [keyFor, hact, heq]⟩
  · intro h key hkey
    obtain ⟨j, hj, hjk⟩ := mem_entriesBelow.mp hkey
    have hnone : keyFor ip (km.keys j) = none := keyFor_eq_none.mpr (h j hj)
    rw [hnone] at hjk
    exact absurd hjk (by simp)

/-- **What a lookup sees after an add**: the new key, exactly when no older key of the
address lies in front of it or the older key is the same. -/
theorem getKey_storeKey_iff {km : KeyManager} {i : Fin maxKeys} {ip : UInt32} {key : Key}
    (h : (km.keys i).active = false) :
    getKey (storeKey km i ip key) ip = some key ↔
      NoKeyBelow km ip i ∨ getKey km ip = some key := by
  rw [getKey_eq_head?, getKey_eq_head?, keysFor_storeKey, keysFor_split h,
    ← entriesBelow_eq_nil_iff]
  cases entriesBelow (keyFor ip) km.keys i with
  | nil => simp
  | cons k ks => simp

end Vpn
