/-
# The datagrams between client and server

Model of `protocol.h` and `protocol.c`.  Every datagram starts with a 16-byte packed
header; `connect_request_t` and `connect_response_t` add fixed fields behind it, a data
packet adds its payload.

Both programs receive into a buffer of 2048 bytes and read the packet through pointers into
that buffer, so bytes behind the end of a short datagram are what the memory held before
(`recvInto`).
-/
import CloudVpn.Crypto

open Memory

namespace Vpn

/-! ## Headers -/

/-- The packet types `PKT_...`. -/
inductive PacketType where
  | connectReq
  | connectResp
  | data
  | ping
  | pong
  | disconnect
  deriving DecidableEq, Repr

/-- The byte of a packet type. -/
def PacketType.toByte : PacketType → UInt8
  | .connectReq => 0x01
  | .connectResp => 0x02
  | .data => 0x03
  | .ping => 0x04
  | .pong => 0x05
  | .disconnect => 0x06

/-- The packet type a byte stands for. -/
def PacketType.ofByte (b : UInt8) : Option PacketType :=
  if b = 0x01 then some .connectReq
  else if b = 0x02 then some .connectResp
  else if b = 0x03 then some .data
  else if b = 0x04 then some .ping
  else if b = 0x05 then some .pong
  else if b = 0x06 then some .disconnect
  else none

@[simp] theorem PacketType.ofByte_toByte (t : PacketType) :
    PacketType.ofByte t.toByte = some t := by
  cases t <;> decide

/-- Only its own byte stands for a packet type. -/
theorem PacketType.eq_toByte {b : UInt8} {t : PacketType}
    (h : PacketType.ofByte b = some t) : b = t.toByte := by
  unfold PacketType.ofByte at h
  split_ifs at h with h₁ h₂ h₃ h₄ h₅ h₆ <;> cases h <;> assumption

/-- `VPN_PROTOCOL_VERSION`. -/
def vpnProtocolVersion : UInt8 := 0x01

/-- `sizeof(vpn_header_t)`. -/
def vpnHeaderSize : ℕ := 16

/-- `init_vpn_header`, with the value of `global_sequence` after its increment and the
clock in milliseconds. -/
def initVpnHeader (type : PacketType) (length : UInt16) (globalSequence : UInt32)
    (timestampMs : UInt64) : Bytes :=
  [type.toByte, vpnProtocolVersion] ++ (le16 (htons length) ++
    (le32 (htonl globalSequence) ++ le64 (htobe64 timestampMs)))

@[simp] theorem length_initVpnHeader (type : PacketType) (length : UInt16) (seq : UInt32)
    (ts : UInt64) : (initVpnHeader type length seq ts).length = 16 := rfl

@[simp] theorem byteAt_initVpnHeader (type : PacketType) (length : UInt16) (seq : UInt32)
    (ts : UInt64) (rest : Bytes) :
    byteAt (initVpnHeader type length seq ts ++ rest) 0 = type.toByte := rfl

/-! ## Receiving -/

/-- The size of the packet buffers. -/
def bufferSize : ℕ := 2048

/-- The buffer after a datagram has been received into it: a longer datagram is cut off,
behind a shorter one the buffer keeps what it held. -/
def recvInto (buffer datagram : Bytes) : Bytes :=
  datagram.take bufferSize ++ buffer.drop (datagram.take bufferSize).length

/-- The number of bytes that `recvfrom` or `read` reports. -/
def recvLen (datagram : Bytes) : ℕ := (datagram.take bufferSize).length

theorem recvLen_eq {datagram : Bytes} (h : datagram.length ≤ bufferSize) :
    recvLen datagram = datagram.length := by
  unfold recvLen
  rw [List.take_of_length_le h]

theorem recvLen_le (datagram : Bytes) : recvLen datagram ≤ bufferSize := by
  unfold recvLen
  rw [List.length_take]
  omega

/-- A received byte is the datagram's. -/
theorem byteAt_recvInto {datagram : Bytes} (buffer : Bytes) {off : ℕ}
    (h : off < recvLen datagram) :
    byteAt (recvInto buffer datagram) off = byteAt datagram off := by
  unfold recvInto
  rw [byteAt_append_left _ h]
  have hsplit := byteAt_append_left (datagram.drop bufferSize) h
  rw [List.take_append_drop] at hsplit
  exact hsplit.symm

theorem u32At_recvInto {datagram : Bytes} (buffer : Bytes) {off : ℕ}
    (h : off + 4 ≤ recvLen datagram) :
    u32At (recvInto buffer datagram) off = u32At datagram off := by
  unfold recvInto
  rw [u32At_append_left _ h]
  have hsplit := u32At_append_left (datagram.drop bufferSize) h
  rw [List.take_append_drop] at hsplit
  exact hsplit.symm

/-- What the datagram has and the buffer has room for is received. -/
theorem le_recvLen {datagram : Bytes} {n : ℕ} (hroom : n ≤ bufferSize)
    (h : n ≤ datagram.length) : n ≤ recvLen datagram := by
  unfold recvLen
  rw [List.length_take]
  exact le_min hroom h

theorem recvInto_eq {datagram : Bytes} (buffer : Bytes) (h : datagram.length ≤ bufferSize) :
    recvInto buffer datagram = datagram ++ buffer.drop datagram.length := by
  unfold recvInto
  rw [List.take_of_length_le h]

/-- The received bytes are the front of the buffer. -/
theorem take_recvInto (buffer datagram : Bytes) :
    (recvInto buffer datagram).take (recvLen datagram) = datagram.take bufferSize :=
  List.take_left

/-! ## Connect packets -/

/-- The bytes of a `connect_request_t`. -/
def connectRequest (header : Bytes) (username : Vector UInt8 32) (authToken : Key) : Bytes :=
  header ++ (username.toList ++ authToken.toList)

/-- The field `auth_token` of a `connect_request_t` in a buffer. -/
def authTokenAt (buffer : Bytes) : Key := bytesAt 32 buffer 48

/-- The bytes of a `connect_response_t`. -/
def connectResponse (header : Bytes) (status : UInt8) (vpnIp sessionId : UInt32)
    (serverPublicKey : Key) : Bytes :=
  header ++ ([status] ++ (le32 vpnIp ++ (le32 sessionId ++ serverPublicKey.toList)))

end Vpn
