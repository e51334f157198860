/-
# The key table under any requests

What one request can do to the key table is one of three things: nothing, one entry for the
request's address stored in a free slot, or `remove_key` of that address (`KeyChange`).
From this follow, for runs of arbitrary requests, that the keys of other addresses stay as
they are (`other_keys_unchanged`) and that the table is kept clean (`keyTable_hygienic`):
the counter counts the active slots, and the key of a slot that is not active is zero.
-/
import CloudVpn.EnclaveSocket
import CloudVpn.Runs

open Memory Slots Runs

namespace Vpn

/-! ## What a request does to the table -/

/-- The key tables that one request for the address `ip` can lead to. -/
inductive KeyChange (ip : UInt32) (km : KeyManager) : KeyManager → Prop
  | same : KeyChange ip km km
  | stored {i : Fin maxKeys} (hfree : (km.keys i).active = false) (key : Key) :
      KeyChange ip km (storeKey km i ip key)
  | removed : KeyChange ip km (removeKey km ip)

theorem KeyChange.of_addKey (km : KeyManager) (ip : UInt32) (key : Key) :
    KeyChange ip km ((addKey km ip key).getD km) := by
  cases hfree : findFreeKey km with
  | none =>
      rw [addKey_full hfree]
      exact .same
  | some i =>
      rw [addKey_free hfree]
      exact .stored (findFreeKey_eq_some.mp hfree).1 key

theorem IpcOutcome.keyChange {S : Sodium} {nonce : Nonce} {enclave enclave' : Enclave}
    {req : IpcRequest} {resp : IpcResponse}
    (h : IpcOutcome S nonce enclave req enclave' resp) :
    KeyChange req.vpnIp enclave.km enclave'.km := by
  cases h with
  | keyAdded _ _ hadd =>
      have hchange := KeyChange.of_addKey enclave.km req.vpnIp (bytesAt 32 req.data 0)
      rw [hadd] at hchange
      exact hchange
  | keyRemoved _ => exact .removed
  | handshaken _ _ hhs =>
      obtain ⟨secret, -, heq⟩ := Option.map_eq_some_iff.mp hhs
      obtain ⟨rfl, -⟩ := Prod.mk.inj heq
      exact .of_addKey enclave.km req.vpnIp _
  | _ => exact .same

/-- **One request, on its bytes.** -/
theorem handleIpcRequest_keyChange (S : Sodium) (nonce : Nonce) (enclave : Enclave)
    (request : Bytes) :
    KeyChange (u32At request 5) enclave.km (handleIpcRequest S nonce enclave request).1.km :=
  (handleIpcCommand_outcome S nonce enclave (IpcRequest.decode request)).keyChange

/-! ## Isolation -/

theorem KeyChange.getKey_of_ne {ip ip' : UInt32} {km km' : KeyManager}
    (h : KeyChange ip km km') (hne : ip ≠ ip') : getKey km' ip' = getKey km ip' := by
  cases h with
  | same => rfl
  | stored hfree key => exact getKey_storeKey_of_ne hfree hne key
  | removed => exact getKey_removeKey_of_ne km hne

/-- A request about another address does not change the key of the address. -/
theorem getKey_ipcStep {S : Sodium} {ip : UInt32} (enclave : Enclave) {e : Nonce × Bytes}
    (hne : u32At e.2 5 ≠ ip) :
    getKey (ipcStep S enclave e).km ip = getKey enclave.km ip := by
  unfold ipcStep
  split_ifs with hrun
  · exact (handleIpcRequest_keyChange S e.1 enclave e.2).getKey_of_ne hne
  · rfl

/-- Neither does any sequence of such requests. -/
theorem getKey_run_ipcStep {S : Sodium} {ip : UInt32} (enclave : Enclave)
    {es : List (Nonce × Bytes)} (hes : ∀ e ∈ es, u32At e.2 5 ≠ ip) :
    getKey (run (ipcStep S) enclave es).km ip = getKey enclave.km ip :=
  run_invariant_of_forall (ipcStep S) (I := fun e => getKey e.km ip = getKey enclave.km ip)
    (E := fun e => u32At e.2 5 ≠ ip) (fun _ _ hne h => (getKey_ipcStep _ hne).trans h) rfl hes

/-- **Session isolation.**  A request about another address, and any sequence of them, does
not change the key of the address `ip`. -/
theorem other_keys_unchanged (S : Sodium) (ip : UInt32) :
    (∀ nonce enclave request, u32At request 5 ≠ ip →
      getKey (handleIpcRequest S nonce enclave request).1.km ip = getKey enclave.km ip) ∧
    ∀ (enclave : Enclave) (es : List (Nonce × Bytes)), (∀ e ∈ es, u32At e.2 5 ≠ ip) →
      getKey (run (ipcStep S) enclave es).km ip = getKey enclave.km ip := by
  refine ⟨fun nonce enclave request hne => ?_, fun enclave es hne => ?_⟩
  · exact (handleIpcRequest_keyChange S nonce enclave request).getKey_of_ne hne
  · exact getKey_run_ipcStep enclave hne

/-- The bytes of an `IPC_ADD_KEY` request. -/
def addKeyRequest (ip : UInt32) (key : Key) : Bytes :=
  (initIpcRequest 1 .addKey ip key.toList).encode

/-- With a key for one address, requests that remove and add a key of the next address. -/
theorem other_keys_unchanged_neighbour :
    let nonce : Nonce := Vector.replicate 12 0
    let key : Key := Vector.replicate 32 7
    let enclave := ipcStep sampleSodium (startEnclave sampleSodium zeroKey)
      (nonce, addKeyRequest 2 key)
    let remove := (initIpcRequest 2 .removeKey 3 []).encode
    getKey enclave.km 2 = some key ∧
      getKey (handleIpcRequest sampleSodium nonce enclave remove).1.km 2 = some key ∧
      getKey (run (ipcStep sampleSodium) enclave
        [(nonce, remove), (nonce, addKeyRequest 3 zeroKey)]).km 2 = some key := by
  intro nonce key enclave remove
  have hkey : getKey enclave.km 2 = some key := by decide +kernel
  obtain ⟨hone, hrun⟩ := other_keys_unchanged sampleSodium 2
  refine ⟨hkey, ?_, ?_⟩
  · rw [hone nonce enclave remove (by decide +kernel), hkey]
  · rw [hrun enclave _ (by decide +kernel), hkey]

/-! ## Hygiene -/

/-- An observer that sees the active entries. -/
def activeKeyEntry (entry : KeyEntry) : Option KeyEntry :=
  if entry.active then some entry else none

/-- The active entries of the table, in slot order. -/
def activeKeys (km : KeyManager) : List KeyEntry := entries activeKeyEntry km.keys

/-- The counter counts the active slots, and no key is left in the others. -/
structure KeyManager.Hygienic (km : KeyManager) : Prop where
  count_eq : km.count = (activeKeys km).length
  erased : ∀ i, (km.keys i).active = false → (km.keys i).sessionKey = zeroKey

theorem initKeyManager_hygienic (S : Sodium) (secret : Key) :
    (initKeyManager S secret).Hygienic where
  count_eq := by
    have hnil : activeKeys (initKeyManager S secret) = [] := by
      apply List.filterMap_eq_nil_iff.mpr
      intro i _
      rfl
    rw [hnil]
    rfl
  erased := fun _ _ => rfl

/-- A key stored in a free slot is one more active entry. -/
theorem activeKeys_storeKey {km : KeyManager} {i : Fin maxKeys}
    (hfree : (km.keys i).active = false) (ip : UInt32) (key : Key) :
    (activeKeys (storeKey km i ip key)).Perm (⟨ip, key, true⟩ :: activeKeys km) :=
  entries_update_perm_cons (by simp [activeKeyEntry, hfree]) rfl

theorem KeyManager.Hygienic.storeKey {km : KeyManager} (h : km.Hygienic) {i : Fin maxKeys}
    (hfree : (km.keys i).active = false) (ip : UInt32) (key : Key) :
    (storeKey km i ip key).Hygienic where
  count_eq := by
    have hlen := (activeKeys_storeKey hfree ip key).length_eq
    have hcount := h.count_eq
    rw [List.length_cons] at hlen
    show km.count + 1 = _
    omega
  erased := by
    refine (Function.forall_update_iff km.keys
      (p := fun _ e => e.active = false → e.sessionKey = zeroKey)).mpr ⟨?_, ?_⟩
    · exact fun hnew => absurd hnew (by simp)
    · exact fun j _ => h.erased j

/-- `remove_key` takes the entry that it finds out of the active ones. -/
theorem activeKeys_removeKey {km : KeyManager} {ip : UInt32} {i : Fin maxKeys}
    (hfind : findKey km ip = some i) :
    (activeKeys km).Perm (km.keys i :: activeKeys (removeKey km ip)) := by
  have hfound := (scan_eq_some_iff.mp hfind).1
  simp only [Bool.and_eq_true] at hfound
  unfold removeKey
  rw [hfind]
  exact entries_perm_cons_update (by simp [activeKeyEntry, hfound.1]) rfl

theorem KeyManager.Hygienic.removeKey {km : KeyManager} (h : km.Hygienic) (ip : UInt32) :
    (removeKey km ip).Hygienic := by
  cases hfind : findKey km ip with
  | none =>
      unfold Vpn.removeKey
      rw [hfind]
      exact h
  | some i =>
      have hlen := (activeKeys_removeKey hfind).length_eq
      have hcount := h.count_eq
      rw [List.length_cons] at hlen
      constructor
      · have hless : (Vpn.removeKey km ip).count = km.count - 1 := by
          unfold Vpn.removeKey
          rw [hfind]
        omega
      · unfold Vpn.removeKey
        rw [hfind]
        exact (Function.forall_update_iff km.keys
          (p := fun _ e => e.active = false → e.sessionKey = zeroKey)).mpr
          ⟨fun _ => rfl, fun j _ => h.erased j⟩

theorem KeyChange.hygienic {ip : UInt32} {km km' : KeyManager} (h : KeyChange ip km km')
    (hkm : km.Hygienic) : km'.Hygienic := by
  cases h with
  | same => exact hkm
  | stored hfree key => exact hkm.storeKey hfree ip key
  | removed => exact hkm.removeKey ip

theorem run_ipcStep_hygienic (S : Sodium) {enclave : Enclave} (h : enclave.km.Hygienic)
    (es : List (Nonce × Bytes)) : (run (ipcStep S) enclave es).km.Hygienic := by
  refine run_invariant (ipcStep S) (I := fun enclave => enclave.km.Hygienic) ?_ h es
  intro enclave e hkm
  unfold ipcStep
  split_ifs with hrun
  · exact (handleIpcRequest_keyChange S e.1 enclave e.2).hygienic hkm
  · exact hkm

/-- **Hygiene.**  Whatever requests have come, the counter is the number of active slots,
between 0 and 256, and the key of every slot that is not active is 32 zero bytes. -/
theorem keyTable_hygienic (S : Sodium) (secret : Key) (es : List (Nonce × Bytes)) :
    let km := (run (ipcStep S) (startEnclave S secret) es).km
    km.count = (activeKeys km).length ∧ 0 ≤ km.count ∧ km.count ≤ maxKeys ∧
      ∀ i, (km.keys i).active = false → (km.keys i).sessionKey = zeroKey := by
  intro km
  have hkm : km.Hygienic :=
    run_ipcStep_hygienic S (show (startEnclave S secret).km.Hygienic from
      initKeyManager_hygienic S secret) es
  have hle : (activeKeys km).length ≤ maxKeys := length_entries_le activeKeyEntry km.keys
  have hcount := hkm.count_eq
  exact ⟨hcount, by omega, by omega, hkm.erased⟩

end Vpn
