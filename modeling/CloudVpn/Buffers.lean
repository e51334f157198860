/-
# Buffers of a fixed size

Reusable infrastructure for programs that fill byte buffers at computed offsets.  Every
access is checked: `access`, the `load` functions and `store` give `none` as soon as one
byte of the access lies outside the buffer, so a computation over buffers in the `Option`
monad has a value exactly when it stays inside all of them.

A buffer is described by its contents from the front: bytes that are known, then the rest.
`store_append` writes at the border of the two, `load_append` reads what begins there.
-/
import CloudVpn.Memory

open Memory

namespace Buffers

/-! ## Checked accesses -/

/-- The bytes `off, …, off + len - 1` belong to the buffer. -/
def access (buf : Bytes) (off len : ℕ) : Option Unit :=
  if off + len ≤ buf.length then some () else none

/-- The byte at an offset. -/
def loadByte (buf : Bytes) (off : ℕ) : Option UInt8 :=
  (access buf off 1).map fun _ => byteAt buf off

/-- The 16-bit integer at an offset. -/
def loadU16 (buf : Bytes) (off : ℕ) : Option UInt16 :=
  (access buf off 2).map fun _ => u16At buf off

/-- The 32-bit integer at an offset. -/
def loadU32 (buf : Bytes) (off : ℕ) : Option UInt32 :=
  (access buf off 4).map fun _ => u32At buf off

/-- The array of `n` bytes at an offset. -/
def loadArray (n : ℕ) (buf : Bytes) (off : ℕ) : Option (Vector UInt8 n) :=
  (access buf off n).map fun _ => bytesAt n buf off

/-- The `len` bytes at an offset. -/
def load (buf : Bytes) (off len : ℕ) : Option Bytes :=
  (access buf off len).map fun _ => (buf.drop off).take len

/-- The buffer with `data` written at an offset. -/
def store (buf : Bytes) (off : ℕ) (data : Bytes) : Option Bytes :=
  (access buf off data.length).map fun _ =>
    buf.take off ++ (data ++ buf.drop (off + data.length))

/-! ## Accesses inside the buffer -/

variable {buf : Bytes} {off len n : ℕ}

theorem access_of_le (h : off + len ≤ buf.length) : access buf off len = some () := if_pos h

theorem access_of_gt (h : buf.length < off + len) : access buf off len = none :=
  if_neg (not_le.mpr h)

theorem loadByte_of_lt (h : off < buf.length) : loadByte buf off = some (byteAt buf off) := by
  unfold loadByte
  rw [access_of_le h]
  rfl

theorem loadU16_of_le (h : off + 2 ≤ buf.length) : loadU16 buf off = some (u16At buf off) := by
  unfold loadU16
  rw [access_of_le h]
  rfl

theorem loadU32_of_le (h : off + 4 ≤ buf.length) : loadU32 buf off = some (u32At buf off) := by
  unfold loadU32
  rw [access_of_le h]
  rfl

theorem loadArray_of_le (h : off + n ≤ buf.length) :
    loadArray n buf off = some (bytesAt n buf off) := by
  unfold loadArray
  rw [access_of_le h]
  rfl

/-- Reading the bytes behind the known front. -/
theorem load_append (front data rest : Bytes) (hoff : off = front.length)
    (hlen : len = data.length) : load (front ++ (data ++ rest)) off len = some data := by
  subst hoff hlen
  unfold load
  rw [access_of_le (by simp), List.drop_left, Option.map_some, List.take_left]

/-- Writing behind the known front. -/
theorem store_append (front : Bytes) {data rest : Bytes} (hoff : off = front.length)
    (h : data.length ≤ rest.length) :
    store (front ++ rest) off data = some (front ++ (data ++ rest.drop data.length)) := by
  subst hoff
  unfold store
  rw [access_of_le (by rw [List.length_append]; omega), Option.map_some, List.take_left,
    List.drop_length_add_append]

/-- Writing at the start of a buffer. -/
theorem store_front {data : Bytes} (h : data.length ≤ buf.length) :
    store buf 0 data = some (data ++ buf.drop data.length) := store_append [] rfl h

end Buffers
