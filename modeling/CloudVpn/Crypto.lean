/-
# The cryptographic layer

Model of `crypto.c`.  libsodium is a parameter of the development: `Sodium` lists the
functions of it that the program calls, with the sizes their documentation fixes.  What a
result assumes of them beyond sizes (symmetry of the key exchange, decryption undoing
encryption) is stated as a property of a `Sodium` and taken as a hypothesis where it is
used.
-/
import CloudVpn.Memory

open Memory

namespace Vpn

/-! ## libsodium -/

/-- A key, a secret or a shared secret: `CRYPTO_KEY_SIZE` bytes. -/
abbrev Key := Vector UInt8 32

/-- A nonce: `CRYPTO_NONCE_SIZE` bytes. -/
abbrev Nonce := Vector UInt8 12

/-- `CRYPTO_NONCE_SIZE`. -/
def cryptoNonceSize : ℕ := 12

/-- `CRYPTO_MAC_SIZE`. -/
def cryptoMacSize : ℕ := 16

/-- The libsodium functions that the program calls; `none` is a non-zero return value.
The length fields say how many bytes a successful call writes to its output. -/
structure Sodium where
  /-- `crypto_box_keypair`: the public key that belongs to a secret key. -/
  boxPublicKey : Key → Key
  /-- `crypto_box_beforenm`, their public key first. -/
  boxBeforenm : Key → Key → Option Key
  /-- `crypto_kdf_derive_from_key` for 32-byte subkeys: subkey id, context, master key. -/
  kdfDeriveFromKey : UInt64 → Bytes → Key → Key
  /-- `crypto_aead_chacha20poly1305_ietf_encrypt` without associated data. -/
  aeadEncrypt : Bytes → Nonce → Key → Option Bytes
  /-- `crypto_aead_chacha20poly1305_ietf_decrypt` without associated data. -/
  aeadDecrypt : Bytes → Nonce → Key → Option Bytes
  length_aeadEncrypt : ∀ {m : Bytes} {n : Nonce} {k : Key} {c : Bytes},
    aeadEncrypt m n k = some c → c.length = m.length + 16
  length_aeadDecrypt : ∀ {c : Bytes} {n : Nonce} {k : Key} {m : Bytes},
    aeadDecrypt c n k = some m → c.length = m.length + 16

/-- Two matching key pairs agree on the shared secret, whichever side computes it. -/
def Sodium.BoxSymmetric (S : Sodium) : Prop :=
  ∀ a b : Key, S.boxBeforenm (S.boxPublicKey a) b = S.boxBeforenm (S.boxPublicKey b) a

/-- Encryption succeeds, and decryption under the same key and nonce undoes it. -/
def Sodium.AeadRoundTrip (S : Sodium) : Prop :=
  ∀ (m : Bytes) (n : Nonce) (k : Key),
    ∃ c, S.aeadEncrypt m n k = some c ∧ S.aeadDecrypt c n k = some m

/-! ## The wrappers of `crypto.c` -/

variable (S : Sodium)

/-- `crypto_encrypt`. -/
def cryptoEncrypt (plaintext : Bytes) (key : Key) (nonce : Nonce) : Option Bytes :=
  S.aeadEncrypt plaintext nonce key

/-- `crypto_decrypt`. -/
def cryptoDecrypt (ciphertext : Bytes) (key : Key) (nonce : Nonce) : Option Bytes :=
  S.aeadDecrypt ciphertext nonce key

/-- `crypto_generate_keypair`, public key first, from the secret key that is drawn. -/
def cryptoGenerateKeypair (secret : Key) : Key × Key := (S.boxPublicKey secret, secret)

/-- `crypto_ecdh`. -/
def cryptoEcdh (myPrivateKey theirPublicKey : Key) : Option Key :=
  S.boxBeforenm theirPublicKey myPrivateKey

/-- The context string `"VPN_SESS"` of the key derivation. -/
def sessionContext : Bytes := [0x56, 0x50, 0x4e, 0x5f, 0x53, 0x45, 0x53, 0x53]

/-- `crypto_derive_session_key`; the salt, when there is one, is mixed into the first
bytes of the key. -/
def cryptoDeriveSessionKey (sharedSecret : Key) (salt : Option Bytes) : Key :=
  let sessionKey := S.kdfDeriveFromKey 1 sessionContext sharedSecret
  match salt with
  | none => sessionKey
  | some s => Vector.ofFn fun i : Fin 32 =>
      if i < s.length then sessionKey.get i ^^^ s.getD i 0 else sessionKey.get i

/-- The session key of a server key and a client key: the derived shared secret. -/
def sessionKeyOf (serverPrivateKey clientPublicKey : Key) : Option Key :=
  (cryptoEcdh S serverPrivateKey clientPublicKey).map
    fun secret => S.kdfDeriveFromKey 1 sessionContext secret

/-! ## A small instance -/

/-- The public key of the sample: the secret key with one bit fixed, so never zero. -/
def samplePublicKey (secret : Key) : Key := secret.set 31 0x40

/-- The authentication tag of the sample: the first half of the key. -/
def sampleTag (key : Key) : Bytes := key.toList.take 16

/-- A computable stand-in for libsodium.  As with the real one, the exchange is symmetric
and refuses the zero public key, and a ciphertext is accepted with its own tag only. -/
def sampleSodium : Sodium where
  boxPublicKey := samplePublicKey
  boxBeforenm := fun publicKey secret =>
    if publicKey = Vector.replicate 32 0 then none
    else some (Vector.zipWith (· ^^^ ·) publicKey (samplePublicKey secret))
  kdfDeriveFromKey := fun _ _ master => master
  aeadEncrypt := fun m _ key => some (m ++ sampleTag key)
  aeadDecrypt := fun c _ key =>
    if 16 ≤ c.length ∧ c.drop (c.length - 16) = sampleTag key then
      some (c.take (c.length - 16))
    else none
  length_aeadEncrypt := by
    intro m n k c h
    have hc : m ++ sampleTag k = c := Option.some.inj h
    rw [← hc]
    simp [sampleTag]
  length_aeadDecrypt := by
    intro c n k m h
    split_ifs at h with hc
    have hm : c.take (c.length - 16) = m := Option.some.inj h
    rw [← hm, List.length_take]
    omega

theorem sampleSodium_boxSymmetric : sampleSodium.BoxSymmetric := by
  intro a b
  have hne : ∀ k : Key, samplePublicKey k ≠ Vector.replicate 32 0 := by
    intro k h
    have h31 := congrArg (fun v : Key => v[31]) h
    simp [samplePublicKey] at h31
  show (if samplePublicKey a = _ then none else some _)
    = (if samplePublicKey b = _ then none else some _)
  rw [if_neg (hne a), if_neg (hne b)]
  congr 1
  apply Vector.ext
  intro i hi
  simp only [Vector.getElem_zipWith]
  exact UInt8.xor_comm _ _

theorem sampleSodium_aeadRoundTrip : sampleSodium.AeadRoundTrip := by
  intro m n k
  refine ⟨m ++ sampleTag k, rfl, ?_⟩
  have hlen : (sampleTag k).length = 16 := by simp [sampleTag]
  show (if 16 ≤ (m ++ sampleTag k).length ∧ _ then some _ else none) = some m
  rw [List.length_append, hlen, Nat.add_sub_cancel, List.drop_left, List.take_left,
    if_pos ⟨by omega, rfl⟩]

end Vpn
