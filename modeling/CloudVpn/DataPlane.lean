/-
# Packets through the tunnel

A packet is encrypted by one program and decrypted by another: from client to server by the
client and then by the enclave, through `IPC_DECRYPT`; from server to client by the enclave,
through `IPC_ENCRYPT`, and then by the client.  All four paths lay the datagram out as a
16-byte header, a 12-byte nonce and the ciphertext with its tag.
-/
import CloudVpn.Client
import CloudVpn.ServerTables

open Memory Slots Runs

namespace Vpn

variable {S : Sodium}

/-! ## The layout of a data packet -/

/-- Behind the header come the nonce and the ciphertext. -/
theorem data_packet_layout {header ciphertext : Bytes} {nonce : Nonce}
    (hheader : header.length = 16) :
    (header ++ (nonce.toList ++ ciphertext)).drop vpnHeaderSize = nonce.toList ++ ciphertext ∧
      (header ++ (nonce.toList ++ ciphertext)).drop 28 = ciphertext ∧
      bytesAt 12 (header ++ (nonce.toList ++ ciphertext)) 16 = nonce := by
  refine ⟨List.drop_left' hheader, ?_, ?_⟩
  · rw [← List.append_assoc]
    exact List.drop_left' (by simp [hheader])
  · rw [bytesAt_append_right _ (by omega), hheader]
    exact bytesAt_toList nonce _

theorem encryptedLen_eq {n : ℕ} (h : 28 ≤ n) (hle : n ≤ bufferSize) :
    encryptedLen n = n - 28 := by
  -- From 28 bytes on the unsigned subtraction does not wrap.
  unfold encryptedLen vpnHeaderSize cryptoNonceSize
  unfold bufferSize at hle
  omega

/-! ## From client to server -/

/-- The datagram that the client builds for a packet. -/
theorem Client.handleTunToUdp_eq {env : ClientEnv} {client : Client} {packet ciphertext : Bytes}
    (hlen : packet.length ≤ bufferSize)
    (henc : S.aeadEncrypt packet env.nonce client.sessionKey = some ciphertext) :
    (client.handleTunToUdp S env packet).2 =
      [.udpSend (initVpnHeader .data (UInt16.ofNat (packet.length + 28))
        (client.globalSequence + 1) env.timestampMs ++ (env.nonce.toList ++ ciphertext))] := by
  have hct := S.length_aeadEncrypt henc
  have hsum : cryptoNonceSize + packet.length + cryptoMacSize = packet.length + 28 := by
    unfold cryptoNonceSize cryptoMacSize
    omega
  unfold Client.handleTunToUdp cryptoEncrypt
  simp only [List.take_of_length_le hlen, henc, hsum]
  rw [List.take_of_length_le (by simp; omega)]

/-- The server writes what the enclave decrypts from the bytes received behind the
header, and refreshes the sender's entry. -/
theorem handleUdpToTun_data {env : Env} {server : Server} {addr : SockAddr}
    {datagram : Bytes} {i : Fin maxClients} (hsync : server.conn.Synced)
    (hd : env.delivery = .whole) (hlen : vpnHeaderSize ≤ datagram.length)
    (htype : byteAt datagram 0 = PacketType.data.toByte)
    (hi : findClientByAddr server.table addr = some i) :
    handleUdpToTun S env server addr datagram =
      (⟨updateClientActivity server.table i env.now,
          server.conn.called server.conn.enclave, server.globalSequence⟩,
        ((openFor S server.conn.enclave.km (server.table.clients i).vpnIp
          ((datagram.take bufferSize).drop vpnHeaderSize)).map Action.tunWrite).toList) := by
  have hrecv : vpnHeaderSize ≤ recvLen datagram := le_recvLen (by decide) hlen
  have hsize : ((datagram.take bufferSize).drop vpnHeaderSize).length ≤ ipcMaxDataSize := by
    rw [List.length_drop, List.length_take]
    unfold bufferSize ipcMaxDataSize
    omega
  unfold handleUdpToTun
  simp only [if_neg (not_lt.mpr hrecv)]
  rw [byteAt_recvInto env.buffer (lt_of_lt_of_le (by decide) hrecv), htype,
    PacketType.ofByte_toByte]
  simp only [take_recvInto, handleData_synced hsync hd hsize hi]

/-! ## From server to client -/

/-- The client writes what it decrypts from the bytes received behind header and nonce. -/
theorem Client.handleUdpToTun_data {env : ClientEnv} {client : Client} {datagram : Bytes}
    (hlen : 28 ≤ datagram.length) (htype : byteAt datagram 0 = PacketType.data.toByte) :
    (client.handleUdpToTun S env datagram).2
      = ((cryptoDecrypt S ((datagram.take bufferSize).drop 28) client.sessionKey
          (bytesAt 12 (datagram.take bufferSize) 16)).map ClientAction.tunWrite).toList := by
  have hrecv : 28 ≤ recvLen datagram := le_recvLen (by decide) hlen
  have hencrypted := encryptedLen_eq hrecv (recvLen_le datagram)
  have hinside := recvLen_le datagram
  have hnonce : bytesAt 12 (recvInto env.buffer datagram) 16
      = bytesAt 12 (datagram.take bufferSize) 16 := bytesAt_append_left _ hrecv
  -- Dropping 28 bytes and taking what is left of `n` is taking `n` and dropping 28.
  have hciphertext : ((recvInto env.buffer datagram).drop 28).take (recvLen datagram - 28)
      = (datagram.take bufferSize).drop 28 := by
    rw [← List.drop_take, take_recvInto]
  unfold Client.handleUdpToTun
  simp only [if_neg (not_lt.mpr (le_trans (show vpnHeaderSize ≤ 28 by decide) hrecv))]
  rw [byteAt_recvInto env.buffer (lt_of_lt_of_le (by decide) hrecv), htype,
    PacketType.ofByte_toByte]
  unfold Client.handleData
  simp only [hencrypted, hnonce, hciphertext]
  rw [if_neg (by omega)]
  cases cryptoDecrypt S ((datagram.take bufferSize).drop 28) client.sessionKey
    (bytesAt 12 (datagram.take bufferSize) 16) <;> rfl

/-- **The data plane round trip.**  A client and a reachable server share a session key:
the enclave finds the client's key under the VPN address of its entry.  A packet from the
client's TUN device that fits is written to the server's; an IPv4 packet from the server's
TUN device to that VPN address, which no other client holds, is sent to the client's peer
address and written to the client's TUN device. -/
theorem data_plane_round_trip (haead : S.AeadRoundTrip) {server : Server}
    (hreach : Reachable S server) (hsync : server.conn.Synced) (client : Client)
    (i : Fin maxClients) (hactive : (server.table.clients i).active = true)
    (hkey : getKey server.conn.enclave.km (server.table.clients i).vpnIp
      = some client.sessionKey)
    (env : Env) (hd : env.delivery = .whole) (clientEnv : ClientEnv) (packet : Bytes)
    (hfits : 16 + 12 + packet.length + 16 ≤ bufferSize) :
    (∃ datagram, (client.handleTunToUdp S clientEnv packet).2 = [.udpSend datagram] ∧
      (handleUdpToTun S env server (server.table.clients i).realAddr datagram).2
        = [.tunWrite packet]) ∧
    (20 ≤ packet.length → ipVersion packet = 4 →
      destinationIp packet = (server.table.clients i).vpnIp →
      (∀ j, (server.table.clients j).active = true →
        (server.table.clients j).vpnIp = (server.table.clients i).vpnIp → j = i) →
      ∃ datagram,
        (handleTunToUdp S env server packet).2
          = [.udpSend (server.table.clients i).realAddr datagram] ∧
        (client.handleUdpToTun S clientEnv datagram).2 = [.tunWrite packet]) := by
  have hpacket : packet.length ≤ bufferSize := by omega
  refine ⟨?_, ?_⟩
  · obtain ⟨ciphertext, henc, hdec⟩ := haead packet clientEnv.nonce client.sessionKey
    have hct := S.length_aeadEncrypt henc
    have hi := hreach.wf.findClientByAddr_eq hactive
    refine ⟨_, Client.handleTunToUdp_eq hpacket henc, ?_⟩
    rw [handleUdpToTun_data hsync hd (by simp [vpnHeaderSize]) rfl hi,
      List.take_of_length_le (by simp; omega), (data_packet_layout rfl).1,
      openFor_eq_decrypt hkey (by simp [cryptoNonceSize]), bytesAt_toList,
      List.drop_left' (by simp [cryptoNonceSize])]
    unfold cryptoDecrypt
    rw [hdec]
    rfl
  · intro hlen hversion hdest hunique
    obtain ⟨ciphertext, henc, hdec⟩ := haead packet env.nonce client.sessionKey
    have hct := S.length_aeadEncrypt henc
    have htake : packet.take bufferSize = packet := List.take_of_length_le hpacket
    -- No other client holds the address, so the search by address stops at the addressee.
    have hi : findClientByVpnIp server.table (destinationIp packet) = some i := by
      rw [hdest, findClientByVpnIp_eq_some]
      refine ⟨⟨hactive, rfl⟩, fun j hj hact hip => ?_⟩
      have hji := hunique j hact hip
      omega
    have hseal : sealFor S env.nonce server.conn.enclave.km
        (server.table.clients i).vpnIp (packet.take bufferSize)
        = some (env.nonce.toList ++ ciphertext) := by
      unfold sealFor cryptoEncrypt
      rw [hkey, Option.bind_some, htake, henc]
      rfl
    have hsent : handleTunToUdp S env server packet = _ :=
      handleTunToUdp_synced hsync hd (by rw [htake]; exact hlen)
        (by rw [htake, hversion]; decide) (by rw [htake]; exact hi)
    rw [hseal] at hsent
    refine ⟨_, congrArg Prod.snd hsent, ?_⟩
    rw [Client.handleUdpToTun_data (by simp; omega) rfl,
      List.take_of_length_le (by simp; omega), (data_packet_layout rfl).2.1,
      (data_packet_layout rfl).2.2]
    unfold cryptoDecrypt
    rw [hdec]
    rfl

/-- An IPv4 header without options, addressed to 10.8.0.2. -/
def samplePacket : Bytes :=
  [0x45, 0, 0, 20, 0, 0, 0, 0, 64, 17, 0, 0, 10, 8, 0, 1, 10, 8, 0, 2]

/-- A client that has the key which the enclave of `oneClientServer` keeps for 10.8.0.2. -/
def sampleClient : Client :=
  { initVpnClient sampleSodium zeroKey with
    sessionKey := (getKey (oneClientServer ⟨1, 1⟩).conn.enclave.km 0x0200080a).getD zeroKey }

theorem data_plane_round_trip_sample :
    (∃ datagram,
      (sampleClient.handleTunToUdp sampleSodium ⟨0, 0, Vector.replicate 12 0, []⟩
        samplePacket).2 = [.udpSend datagram] ∧
      (handleUdpToTun sampleSodium sampleEnv
        (oneClientServer ⟨1, 1⟩) ((oneClientServer ⟨1, 1⟩).table.clients 0).realAddr
        datagram).2 = [.tunWrite samplePacket]) ∧
    ∃ datagram,
      (handleTunToUdp sampleSodium sampleEnv
        (oneClientServer ⟨1, 1⟩) samplePacket).2
        = [.udpSend ((oneClientServer ⟨1, 1⟩).table.clients 0).realAddr datagram] ∧
      (sampleClient.handleUdpToTun sampleSodium ⟨0, 0, Vector.replicate 12 0, []⟩ datagram).2
        = [.tunWrite samplePacket] := by
  obtain ⟨hup, hdown⟩ := data_plane_round_trip sampleSodium_aeadRoundTrip
    (oneClientServer_reachable ⟨1, 1⟩) ⟨by decide +kernel, by decide +kernel⟩ sampleClient 0
    (by decide +kernel) (by decide +kernel) sampleEnv rfl
    ⟨0, 0, Vector.replicate 12 0, []⟩ samplePacket (by decide)
  exact ⟨hup, hdown (by decide) (by decide) (by decide +kernel) (by decide +kernel)⟩

end Vpn
