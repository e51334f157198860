/-
# The messages between server and enclave

Model of `ipc_protocol.h` and `ipc_protocol.c`.  A request is an 11-byte packed header
(command, request id, VPN address, data length) in front of its data; a response is a
7-byte header (request id, status, data length) in front of its data.  The structures
hold the fields as the C code reads them through its overlaid pointers; `encode` and
`decode` go from fields to bytes and back.
-/
import CloudVpn.Memory

open Memory

namespace Vpn

/-! ## Constants -/

/-- `IPC_MAX_DATA_SIZE`. -/
def ipcMaxDataSize : ℕ := 4096

/-- `sizeof(ipc_request_t)`. -/
def ipcRequestSize : ℕ := 11

/-- `sizeof(ipc_response_t)`. -/
def ipcResponseSize : ℕ := 7

/-- `ipc_command_t`. -/
inductive IpcCommand where
  | ping
  | encrypt
  | decrypt
  | addKey
  | removeKey
  | handshake
  | shutdown
  deriving DecidableEq, Repr

/-- The byte of a command on the wire. -/
def IpcCommand.toByte : IpcCommand → UInt8
  | .ping => 0x01
  | .encrypt => 0x02
  | .decrypt => 0x03
  | .addKey => 0x04
  | .removeKey => 0x05
  | .handshake => 0x06
  | .shutdown => 0xff

/-- The command a byte stands for; the enclave's `switch` sends the others to `default`. -/
def IpcCommand.ofByte (b : UInt8) : Option IpcCommand :=
  if b = 0x01 then some .ping
  else if b = 0x02 then some .encrypt
  else if b = 0x03 then some .decrypt
  else if b = 0x04 then some .addKey
  else if b = 0x05 then some .removeKey
  else if b = 0x06 then some .handshake
  else if b = 0xff then some .shutdown
  else none

@[simp] theorem IpcCommand.ofByte_toByte (c : IpcCommand) :
    IpcCommand.ofByte c.toByte = some c := by
  cases c <;> decide

/-! ## Requests -/

/-- The fields of an `ipc_request_t`; `requestId` and `vpnIp` as they lie in memory. -/
structure IpcRequest where
  command : UInt8
  requestId : UInt32
  vpnIp : UInt32
  data : Bytes
  deriving DecidableEq

/-- The bytes of a request. -/
def IpcRequest.encode (req : IpcRequest) : Bytes :=
  [req.command] ++ (le32 req.requestId ++ (le32 req.vpnIp ++
    (le16 (htons (UInt16.ofNat req.data.length)) ++ req.data)))

/-- The request that a stretch of memory shows: `data_len` bytes of data lie behind the
header. -/
def IpcRequest.decode (m : Bytes) : IpcRequest where
  command := byteAt m 0
  requestId := u32At m 1
  vpnIp := u32At m 5
  data := (m.drop ipcRequestSize).take (ntohs (u16At m 9)).toNat

/-- `init_ipc_request`, with the value of `global_request_id` after its increment. -/
def initIpcRequest (globalRequestId : UInt32) (command : IpcCommand) (vpnIp : UInt32)
    (data : Bytes) : IpcRequest where
  command := command.toByte
  requestId := htonl globalRequestId
  vpnIp := vpnIp
  data := data

/-- A 16-bit length field holds the lengths below `2 ^ 16`. -/
theorem toNat_ofNat_length {data : Bytes} (h : data.length < 65536) :
    (UInt16.ofNat data.length).toNat = data.length := by
  rw [UInt16.toNat_ofNat']
  exact Nat.mod_eq_of_lt h

/-- The length field of a request. -/
theorem ipcRequest_u16At (req : IpcRequest) :
    u16At req.encode 9 = htons (UInt16.ofNat req.data.length) := by
  unfold IpcRequest.encode
  rw [u16At_append_right _ (by simp), u16At_append_right _ (by simp),
    u16At_append_right _ (by simp)]
  exact u16At_le16 _ _

/-- **The enclave reads the request that was written.** -/
theorem IpcRequest.decode_encode {req : IpcRequest} (h : req.data.length < 65536) :
    IpcRequest.decode req.encode = req := by
  have hlen := ipcRequest_u16At req
  obtain ⟨command, requestId, vpnIp, data⟩ := req
  -- Each field is read behind the bytes of the fields before it.
  have hid : u32At (IpcRequest.mk command requestId vpnIp data).encode 1 = requestId := by
    unfold IpcRequest.encode
    rw [u32At_append_right _ (by simp)]
    exact u32At_le32 requestId _
  have hip : u32At (IpcRequest.mk command requestId vpnIp data).encode 5 = vpnIp := by
    unfold IpcRequest.encode
    rw [u32At_append_right _ (by simp), u32At_append_right _ (by simp)]
    exact u32At_le32 vpnIp _
  have hdrop : (IpcRequest.mk command requestId vpnIp data).encode.drop ipcRequestSize
      = data := rfl
  unfold IpcRequest.decode
  rw [hid, hip, hlen, hdrop, ntohs_htons, toNat_ofNat_length h, List.take_length]
  rfl

/-! ## Responses -/

/-- The value of the `int8_t` status field that means failure: -1. -/
def ipcStatusError : UInt8 := 0xff

/-- The fields of an `ipc_response_t`. -/
structure IpcResponse where
  requestId : UInt32
  status : UInt8
  data : Bytes
  deriving DecidableEq

/-- The bytes of a response: as many bytes of data as the 16-bit length field says. -/
def IpcResponse.encode (resp : IpcResponse) : Bytes :=
  le32 resp.requestId ++ ([resp.status] ++
    (le16 (htons (UInt16.ofNat resp.data.length)) ++
      resp.data.take (UInt16.ofNat resp.data.length).toNat))

/-- The response that a stretch of memory shows. -/
def IpcResponse.decode (m : Bytes) : IpcResponse where
  requestId := u32At m 0
  status := byteAt m 4
  data := (m.drop ipcResponseSize).take (ntohs (u16At m 5)).toNat

/-- The length of a whole response, computed from its header. -/
def ipcTotalLen (header : Bytes) : ℕ := ipcResponseSize + (ntohs (u16At header 5)).toNat

theorem ipcResponse_u16At (resp : IpcResponse) :
    u16At resp.encode 5 = htons (UInt16.ofNat resp.data.length) := by
  unfold IpcResponse.encode
  rw [u16At_append_right _ (by simp), u16At_append_right _ (by simp)]
  exact u16At_le16 _ _

theorem IpcResponse.status_encode (resp : IpcResponse) :
    byteAt resp.encode 4 = resp.status := by
  unfold IpcResponse.encode
  rw [byteAt_append_right _ (by simp)]
  rfl

theorem IpcResponse.length_encode {resp : IpcResponse} (h : resp.data.length < 65536) :
    resp.encode.length = ipcResponseSize + resp.data.length := by
  unfold IpcResponse.encode
  rw [toNat_ofNat_length h, List.take_length]
  simp [ipcResponseSize]
  omega

/-- The header of a response announces the length of the response. -/
theorem ipcTotalLen_encode {resp : IpcResponse} (h : resp.data.length < 65536) :
    ipcTotalLen resp.encode = resp.encode.length := by
  unfold ipcTotalLen
  rw [ipcResponse_u16At, ntohs_htons, toNat_ofNat_length h, IpcResponse.length_encode h]

/-- The announced length is read from the header alone. -/
theorem ipcTotalLen_take (m : Bytes) : ipcTotalLen (m.take ipcResponseSize) = ipcTotalLen m := by
  unfold ipcTotalLen
  rw [u16At_take m (show 5 + 2 ≤ ipcResponseSize by decide)]

theorem ipcTotalLen_append {m : Bytes} (rest : Bytes) (h : ipcResponseSize ≤ m.length) :
    ipcTotalLen (m ++ rest) = ipcTotalLen m := by
  unfold ipcTotalLen
  rw [u16At_append_left rest (show 5 + 2 ≤ m.length from h)]

/-- The response at the front of a stream, cut out at its announced length. -/
theorem IpcResponse.decode_take (m : Bytes) :
    IpcResponse.decode (m.take (ipcTotalLen m)) = IpcResponse.decode m := by
  have hseven : ipcResponseSize ≤ ipcTotalLen m := Nat.le_add_right _ _
  unfold ipcResponseSize at hseven
  have hdata : (m.take (ipcTotalLen m)).drop ipcResponseSize
      = (m.drop ipcResponseSize).take (ntohs (u16At m 5)).toNat := by
    rw [List.drop_take]
    congr 1
    exact Nat.add_sub_cancel_left _ _
  unfold IpcResponse.decode
  rw [hdata, u32At_take m (by omega), byteAt_take m (by omega), u16At_take m (by omega),
    List.take_take, min_self]

/-- **The server reads the response that was written.** -/
theorem IpcResponse.decode_encode {resp : IpcResponse} (h : resp.data.length < 65536) :
    IpcResponse.decode resp.encode = resp := by
  have hlen := ipcResponse_u16At resp
  obtain ⟨requestId, status, data⟩ := resp
  have hid : u32At (IpcResponse.mk requestId status data).encode 0 = requestId :=
    u32At_le32 requestId _
  have hstatus := IpcResponse.status_encode ⟨requestId, status, data⟩
  have hdrop : (IpcResponse.mk requestId status data).encode.drop ipcResponseSize
      = data.take (UInt16.ofNat data.length).toNat := rfl
  unfold IpcResponse.decode
  rw [hid, hstatus, hlen, hdrop, ntohs_htons, toNat_ofNat_length h, List.take_length,
    List.take_length]

end Vpn
