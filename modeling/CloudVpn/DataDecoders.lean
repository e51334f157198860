/-
# The two decoders of data packets

The client decrypts a DATA packet itself; the server hands the bytes behind the header to
the enclave.  Both read the same layout, with different checks in front: `IPC_DECRYPT`
refuses data shorter than a nonce and a tag, the client has no check but the one of the
header and subtracts the length of the nonce in unsigned arithmetic.

From 28 bytes on, header and nonce, the two agree; on a shorter packet the client's length
wraps around (`decodersAgree_iff`).
-/
import CloudVpn.DataPlane

open Memory

namespace Vpn

/-- The client and the server deliver the same packet or both deliver none, and the bytes
that the client hands to the AEAD are bytes that it has received. -/
def DecodersAgree (S : Sodium) (clientEnv : ClientEnv) (client : Client) (env : Env)
    (server : Server) (addr : SockAddr) (datagram : Bytes) : Prop :=
  (∃ packet : Option Bytes,
    (client.handleUdpToTun S clientEnv datagram).2
      = (packet.map ClientAction.tunWrite).toList ∧
    (handleUdpToTun S env server addr datagram).2
      = (packet.map Action.tunWrite).toList) ∧
  vpnHeaderSize + cryptoNonceSize + encryptedLen (recvLen datagram) ≤ recvLen datagram

variable {S : Sodium}

/-- Below 28 bytes the client's length is close to `2 ^ 64`. -/
theorem encryptedLen_wraps {n : ℕ} (hlow : vpnHeaderSize ≤ n) (h : n < 28) :
    encryptedLen n = 2 ^ 64 + n - 28 := by
  unfold encryptedLen cryptoNonceSize
  unfold vpnHeaderSize at hlow ⊢
  omega

/-- **The decoders agree** on every data packet that has room for a nonce, and on no other.
The server knows the sender, its enclave has the client's session key under the sender's
VPN address, and the replies of the enclave arrive whole. -/
theorem decodersAgree_iff (S : Sodium) (clientEnv : ClientEnv) (client : Client) (env : Env)
    (hd : env.delivery = .whole) {server : Server} (hsync : server.conn.Synced)
    (addr : SockAddr) (i : Fin maxClients)
    (hi : findClientByAddr server.table addr = some i)
    (hkey : getKey server.conn.enclave.km (server.table.clients i).vpnIp
      = some client.sessionKey)
    (datagram : Bytes) (hlen : vpnHeaderSize ≤ datagram.length)
    (htype : byteAt datagram 0 = PacketType.data.toByte) :
    DecodersAgree S clientEnv client env server addr datagram ↔ 28 ≤ datagram.length := by
  constructor
  · rintro ⟨-, hinside⟩
    by_contra hshort
    have hrecv : recvLen datagram = datagram.length :=
      recvLen_eq (by unfold bufferSize; omega)
    rw [hrecv, encryptedLen_wraps hlen (not_le.mp hshort)] at hinside
    unfold vpnHeaderSize at hlen hinside
    omega
  · intro hlong
    have hrecv : 28 ≤ recvLen datagram := le_recvLen (by decide) hlong
    have hreceived : 28 ≤ (datagram.take bufferSize).length := hrecv
    refine ⟨⟨_, Client.handleUdpToTun_data hlong htype, ?_⟩, ?_⟩
    · -- The enclave's data starts with the nonce; both decrypt what is behind it.
      have hdata : cryptoNonceSize ≤ ((datagram.take bufferSize).drop vpnHeaderSize).length := by
        rw [List.length_drop]
        unfold cryptoNonceSize vpnHeaderSize
        omega
      have hnonce : bytesAt 12 ((datagram.take bufferSize).drop vpnHeaderSize) 0
          = bytesAt 12 (datagram.take bufferSize) 16 := by
        have htake := bytesAt_take_drop (datagram.take bufferSize) 16
          (show 12 ≤ ((datagram.take bufferSize).drop 16).length by
            rw [List.length_drop]
            omega)
        rwa [List.take_length] at htake
      rw [handleUdpToTun_data hsync hd hlen htype hi, openFor_eq_decrypt hkey hdata, hnonce,
        List.drop_drop]
      rfl
    · rw [encryptedLen_eq hrecv (recvLen_le datagram)]
      unfold vpnHeaderSize cryptoNonceSize
      omega

/-- A data packet of the sample client: header, nonce, ciphertext and tag. -/
def sampleData : Bytes :=
  initVpnHeader .data 48 1 0 ++ List.replicate 12 0 ++
    (samplePacket ++ sampleTag sampleClient.sessionKey)

/-- Both sides deliver the packet. -/
theorem decodersAgree_sampleData :
    DecodersAgree sampleSodium ⟨0, 0, Vector.replicate 12 0, []⟩ sampleClient sampleEnv
        (oneClientServer ⟨1, 1⟩) ⟨1, 1⟩ sampleData ∧
      (sampleClient.handleUdpToTun sampleSodium ⟨0, 0, Vector.replicate 12 0, []⟩ sampleData).2
        = [.tunWrite samplePacket] ∧
      (handleUdpToTun sampleSodium sampleEnv (oneClientServer ⟨1, 1⟩) ⟨1, 1⟩ sampleData).2
        = [.tunWrite samplePacket] := by
  refine ⟨?_, by decide +kernel, by decide +kernel⟩
  exact (decodersAgree_iff sampleSodium ⟨0, 0, Vector.replicate 12 0, []⟩ sampleClient sampleEnv
    rfl ⟨by decide +kernel, by decide +kernel⟩ ⟨1, 1⟩ 0 (by decide +kernel) (by decide +kernel)
    sampleData (by decide +kernel) (by decide +kernel)).mpr (by decide +kernel)

/-- **A bare header of type DATA**: the server rejects it, the client hands the AEAD a
length that reaches past the end of its buffer. -/
theorem decoders_disagree_on_header :
    (sampleClient.handleUdpToTun sampleSodium ⟨0, 0, Vector.replicate 12 0, []⟩
        (initVpnHeader .data 0 1 0)).2 = [.overread] ∧
      (handleUdpToTun sampleSodium sampleEnv (oneClientServer ⟨1, 1⟩) ⟨1, 1⟩
        (initVpnHeader .data 0 1 0)).2 = [] ∧
      ¬ DecodersAgree sampleSodium ⟨0, 0, Vector.replicate 12 0, []⟩ sampleClient sampleEnv
        (oneClientServer ⟨1, 1⟩) ⟨1, 1⟩ (initVpnHeader .data 0 1 0) := by
  refine ⟨by decide +kernel, by decide +kernel, ?_⟩
  rintro ⟨-, hinside⟩
  exact absurd hinside (by decide +kernel)

end Vpn
