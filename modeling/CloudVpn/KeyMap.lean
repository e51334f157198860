/-
# The key table and the map it stands for

The enclave keeps its keys as a map from VPN addresses to session keys.  The map is the
abstract model here: a successful `add_key` binds the address to the new key, `remove_key`
erases it.  `applyKeyOp` runs the table and the map side by side, `Represents` says that
every lookup in the table is the lookup in the map.

One call keeps that relation exactly when it meets `KeepsMap` (`applyKeyOp_represents_iff`):
the table behaves as the map on the runs that never leave two keys for an address where the
older one is in front, and never remove an address that has two.
-/
import CloudVpn.KeyManager
import CloudVpn.Runs

open Memory Slots Runs

namespace Vpn

/-! ## The abstract map -/

/-- The map from VPN addresses to session keys. -/
abbrev KeyMap := UInt32 → Option Key

/-- A call of `add_key` or `remove_key`. -/
inductive KeyOp where
  | addKey (vpnIp : UInt32) (sessionKey : Key)
  | removeKey (vpnIp : UInt32)

/-- The table and the map after a call; a refused `add_key` changes neither. -/
def applyKeyOp (s : KeyManager × KeyMap) : KeyOp → KeyManager × KeyMap
  | .addKey ip key =>
      match addKey s.1 ip key with
      | some km => (km, Function.update s.2 ip (some key))
      | none => s
  | .removeKey ip => (removeKey s.1 ip, Function.update s.2 ip none)

/-- Every lookup in the table is the lookup in the map. -/
def Represents (s : KeyManager × KeyMap) : Prop := ∀ ip, getKey s.1 ip = s.2 ip

theorem applyKeyOp_addKey_full {s : KeyManager × KeyMap} (h : findFreeKey s.1 = none)
    (ip : UInt32) (key : Key) : applyKeyOp s (.addKey ip key) = s := by
  simp only [applyKeyOp]
  rw [addKey_full h]

theorem applyKeyOp_addKey_free {s : KeyManager × KeyMap} {i : Fin maxKeys}
    (h : findFreeKey s.1 = some i) (ip : UInt32) (key : Key) :
    applyKeyOp s (.addKey ip key)
      = (storeKey s.1 i ip key, Function.update s.2 ip (some key)) := by
  simp only [applyKeyOp]
  rw [addKey_free h]

/-! ## The exact condition -/

/-- The calls on which the table acts as the map.  An `add_key` finds the table full, or no
entry of its address in front of the first free slot, or a first entry that already holds
the key; a `remove_key` finds at most one entry of its address. -/
def KeepsMap (s : KeyManager × KeyMap) : KeyOp → Prop
  | .addKey ip key =>
      ∀ i, findFreeKey s.1 = some i → NoKeyBelow s.1 ip i ∨ getKey s.1 ip = some key
  | .removeKey ip => (keysFor s.1 ip).length ≤ 1

/-- Two maps that differ at one address agree as soon as they agree there. -/
theorem represents_update_iff {km km' : KeyManager} {m : KeyMap} {ip : UInt32}
    {v : Option Key} (h : Represents (km, m))
    (hframe : ∀ ip', ip ≠ ip' → getKey km' ip' = getKey km ip') :
    Represents (km', Function.update m ip v) ↔ getKey km' ip = v := by
  constructor
  · intro h'
    have hip : getKey km' ip = Function.update m ip v ip := h' ip
    rwa [Function.update_self] at hip
  · intro hip ip'
    show getKey km' ip' = Function.update m ip v ip'
    by_cases heq : ip = ip'
    · subst heq
      rw [Function.update_self]
      exact hip
    · rw [Function.update_of_ne (Ne.symm heq), hframe ip' heq]
      exact h ip'

/-- **One call** keeps table and map together exactly when it meets `KeepsMap`. -/
theorem applyKeyOp_represents_iff {s : KeyManager × KeyMap} (h : Represents s) (op : KeyOp) :
    Represents (applyKeyOp s op) ↔ KeepsMap s op := by
  cases op with
  | addKey ip key =>
      cases hfree : findFreeKey s.1 with
      | none =>
          rw [applyKeyOp_addKey_full hfree]
          refine ⟨fun _ i hi => ?_, fun _ => h⟩
          rw [hfree] at hi
          exact absurd hi (by simp)
      | some i =>
          have hinactive := (findFreeKey_eq_some.mp hfree).1
          rw [applyKeyOp_addKey_free hfree,
            represents_update_iff h (fun ip' hne => getKey_storeKey_of_ne hinactive hne key),
            getKey_storeKey_iff hinactive]
          constructor
          · intro hc j hj
            rw [hfree] at hj
            cases hj
            exact hc
          · intro hc
            exact hc i hfree
  | removeKey ip =>
      show Represents (removeKey s.1 ip, Function.update s.2 ip none) ↔ _
      rw [represents_update_iff h (fun ip' hne => getKey_removeKey_of_ne s.1 hne),
        getKey_eq_head?, keysFor_removeKey]
      show _ ↔ (keysFor s.1 ip).length ≤ 1
      -- The map has no key any more; the table has none if its list had at most one.
      cases keysFor s.1 ip with
      | nil => simp
      | cons k ks => simp

/-- **The key table refines the map exactly on the runs of `KeepsMap` calls.** -/
theorem keyTable_refines_map_iff (S : Sodium) (secret : Key) (ops : List KeyOp) :
    Throughout applyKeyOp Represents (initKeyManager S secret, fun _ => none) ops ↔
      Along applyKeyOp KeepsMap (initKeyManager S secret, fun _ => none) ops := by
  have hinit : Represents (initKeyManager S secret, fun _ => none) := by
    intro ip
    have hnone : findKey (initKeyManager S secret) ip = none := by
      rw [findKey_eq_none]
      intro i hi
      exact absurd hi (by simp [initKeyManager])
    show getKey (initKeyManager S secret) ip = none
    unfold getKey
    rw [hnone]
    rfl
  exact throughout_iff_along_of_step (P := Represents) (C := KeepsMap)
    (fun _ op h => applyKeyOp_represents_iff h op) hinit ops

/-- **A second key for the same address is not seen**: the lookup still returns the first. -/
theorem keyTable_keeps_first_key :
    ¬ Throughout applyKeyOp Represents (initKeyManager sampleSodium zeroKey, fun _ => none)
      [.addKey 0x0200080a (Vector.replicate 32 1),
        .addKey 0x0200080a (Vector.replicate 32 2)] := by
  intro h
  have hlast := h.last 0x0200080a
  exact absurd hlast (by decide +kernel)

end Vpn
