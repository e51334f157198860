/-
# Bytes, integers and packed fields

Reusable infrastructure for programs that overlay packed C structures on byte
buffers.  Memory is a list of bytes; integers lie in it in little-endian order, as
on the x86-64 and ARM hosts such programs run on; `htons` and `htonl` swap bytes.

Each field is written by one of the `le` functions (or copied byte by byte) and
read back at an offset by `byteAt`, `u16At`, `u32At` or `bytesAt`.  The lemmas
below let a read skip the fields in front of it (`_append_right`), ignore what
follows it (`_append_left`) and meet the write it belongs to (`_le16`, `_le32`, `_le64`,
`_toList`).
-/
import Mathlib.Data.List.GetD
import Mathlib.Data.Vector.Basic

namespace Memory

/-- A stretch of memory. -/
abbrev Bytes := List UInt8

/-! ## Integers in memory -/

/-- The two bytes of a 16-bit integer in memory. -/
def le16 (x : UInt16) : Bytes :=
  [UInt8.ofNat x.toNat, UInt8.ofNat (x.toNat / 256)]

/-- The four bytes of a 32-bit integer in memory. -/
def le32 (x : UInt32) : Bytes :=
  [UInt8.ofNat x.toNat, UInt8.ofNat (x.toNat / 256), UInt8.ofNat (x.toNat / 65536),
    UInt8.ofNat (x.toNat / 16777216)]

/-- The eight bytes of a 64-bit integer in memory. -/
def le64 (x : UInt64) : Bytes :=
  (List.range 8).map fun i => UInt8.ofNat (x.toNat / 256 ^ i)

/-- The 16-bit integer whose bytes in memory are `b₀ b₁`. -/
def ofLe16 (b₀ b₁ : UInt8) : UInt16 := UInt16.ofNat (b₀.toNat + 256 * b₁.toNat)

/-- The 32-bit integer whose bytes in memory are `b₀ b₁ b₂ b₃`. -/
def ofLe32 (b₀ b₁ b₂ b₃ : UInt8) : UInt32 :=
  UInt32.ofNat (b₀.toNat + 256 * b₁.toNat + 65536 * b₂.toNat + 16777216 * b₃.toNat)

@[simp] theorem length_le16 (x : UInt16) : (le16 x).length = 2 := rfl

@[simp] theorem length_le32 (x : UInt32) : (le32 x).length = 4 := rfl

@[simp] theorem length_le64 (x : UInt64) : (le64 x).length = 8 := rfl

theorem ofLe16_bytes (x : UInt16) :
    ofLe16 (UInt8.ofNat x.toNat) (UInt8.ofNat (x.toNat / 256)) = x := by
  have hx := x.toNat_lt
  apply UInt16.toNat_inj.mp
  simp only [ofLe16, UInt16.toNat_ofNat', UInt8.toNat_ofNat']
  omega

theorem ofLe32_bytes (x : UInt32) :
    ofLe32 (UInt8.ofNat x.toNat) (UInt8.ofNat (x.toNat / 256))
      (UInt8.ofNat (x.toNat / 65536)) (UInt8.ofNat (x.toNat / 16777216)) = x := by
  have hx := x.toNat_lt
  apply UInt32.toNat_inj.mp
  simp only [ofLe32, UInt32.toNat_ofNat', UInt8.toNat_ofNat']
  omega

theorem toNat_ofLe16 (b₀ b₁ : UInt8) :
    (ofLe16 b₀ b₁).toNat = b₀.toNat + 256 * b₁.toNat := by
  have h₀ := b₀.toNat_lt
  have h₁ := b₁.toNat_lt
  simp only [ofLe16, UInt16.toNat_ofNat']
  omega

theorem toNat_ofLe32 (b₀ b₁ b₂ b₃ : UInt8) :
    (ofLe32 b₀ b₁ b₂ b₃).toNat
      = b₀.toNat + 256 * b₁.toNat + 65536 * b₂.toNat + 16777216 * b₃.toNat := by
  have h₀ := b₀.toNat_lt
  have h₁ := b₁.toNat_lt
  have h₂ := b₂.toNat_lt
  have h₃ := b₃.toNat_lt
  simp only [ofLe32, UInt32.toNat_ofNat']
  omega

/-- The bytes of an assembled 16-bit integer are the bytes it was assembled from. -/
theorem le16_ofLe16 (b₀ b₁ : UInt8) : le16 (ofLe16 b₀ b₁) = [b₀, b₁] := by
  have h₀ := b₀.toNat_lt
  have h₁ := b₁.toNat_lt
  simp only [le16, toNat_ofLe16, List.cons.injEq, and_true, ← UInt8.toNat_inj,
    UInt8.toNat_ofNat']
  omega

/-- The bytes of an assembled 32-bit integer are the bytes it was assembled from. -/
theorem le32_ofLe32 (b₀ b₁ b₂ b₃ : UInt8) :
    le32 (ofLe32 b₀ b₁ b₂ b₃) = [b₀, b₁, b₂, b₃] := by
  have h₀ := b₀.toNat_lt
  have h₁ := b₁.toNat_lt
  have h₂ := b₂.toNat_lt
  have h₃ := b₃.toNat_lt
  simp only [le32, toNat_ofLe32, List.cons.injEq, and_true, ← UInt8.toNat_inj,
    UInt8.toNat_ofNat']
  omega

/-! ## Network byte order -/

/-- `htons` on a little-endian host: the two bytes exchanged. -/
def htons (x : UInt16) : UInt16 :=
  ofLe16 (UInt8.ofNat (x.toNat / 256)) (UInt8.ofNat x.toNat)

/-- `htonl` on a little-endian host: the four bytes in reverse. -/
def htonl (x : UInt32) : UInt32 :=
  ofLe32 (UInt8.ofNat (x.toNat / 16777216)) (UInt8.ofNat (x.toNat / 65536))
    (UInt8.ofNat (x.toNat / 256)) (UInt8.ofNat x.toNat)

/-- `htobe64` on a little-endian host: the eight bytes in reverse. -/
def htobe64 (x : UInt64) : UInt64 :=
  UInt64.ofNat ((le64 x).foldl (fun acc b => 256 * acc + b.toNat) 0)

/-- `ntohs` is the same exchange of bytes as `htons`. -/
def ntohs (x : UInt16) : UInt16 := htons x

/-- `ntohl` is the same exchange of bytes as `htonl`. -/
def ntohl (x : UInt32) : UInt32 := htonl x

@[simp] theorem ntohs_htons (x : UInt16) : ntohs (htons x) = x := by
  have h := le16_ofLe16 (UInt8.ofNat (x.toNat / 256)) (UInt8.ofNat x.toNat)
  simp only [le16, List.cons.injEq, and_true] at h
  obtain ⟨h₀, h₁⟩ := h
  unfold ntohs htons
  rw [h₀, h₁, ofLe16_bytes]

@[simp] theorem ntohl_htonl (x : UInt32) : ntohl (htonl x) = x := by
  have h := le32_ofLe32 (UInt8.ofNat (x.toNat / 16777216)) (UInt8.ofNat (x.toNat / 65536))
    (UInt8.ofNat (x.toNat / 256)) (UInt8.ofNat x.toNat)
  simp only [le32, List.cons.injEq, and_true] at h
  obtain ⟨h₀, h₁, h₂, h₃⟩ := h
  unfold ntohl htonl
  rw [h₀, h₁, h₂, h₃, ofLe32_bytes]

theorem htonl_injective : Function.Injective htonl := by
  intro x y h
  rw [← ntohl_htonl x, h, ntohl_htonl y]

@[simp] theorem htonl_inj {x y : UInt32} : htonl x = htonl y ↔ x = y :=
  htonl_injective.eq_iff

/-! ## Reading fields -/

/-- The byte at an offset; the callers stay inside the buffer. -/
def byteAt (m : Bytes) (off : ℕ) : UInt8 := m.getD off 0

/-- The 16-bit integer at an offset. -/
def u16At (m : Bytes) (off : ℕ) : UInt16 := ofLe16 (byteAt m off) (byteAt m (off + 1))

/-- The 32-bit integer at an offset. -/
def u32At (m : Bytes) (off : ℕ) : UInt32 :=
  ofLe32 (byteAt m off) (byteAt m (off + 1)) (byteAt m (off + 2)) (byteAt m (off + 3))

/-- The array of `n` bytes at an offset. -/
def bytesAt (n : ℕ) (m : Bytes) (off : ℕ) : Vector UInt8 n :=
  Vector.ofFn fun i => byteAt m (off + i)

theorem byteAt_append_left {a : Bytes} (b : Bytes) {off : ℕ} (h : off < a.length) :
    byteAt (a ++ b) off = byteAt a off := by
  unfold byteAt
  rw [List.getD_append a b 0 off h]

theorem byteAt_append_right {a : Bytes} (b : Bytes) {off : ℕ} (h : a.length ≤ off) :
    byteAt (a ++ b) off = byteAt b (off - a.length) := by
  unfold byteAt
  rw [List.getD_append_right a b 0 off h]

/-- A read in the front part that is taken. -/
theorem byteAt_take (m : Bytes) {n off : ℕ} (h : off < n) :
    byteAt (m.take n) off = byteAt m off := by
  unfold byteAt
  rw [List.getD_eq_getElem?_getD, List.getD_eq_getElem?_getD, List.getElem?_take_of_lt h]

theorem byteAt_drop (m : Bytes) (n off : ℕ) : byteAt (m.drop n) off = byteAt m (n + off) := by
  unfold byteAt
  rw [List.getD_eq_getElem?_getD, List.getD_eq_getElem?_getD, List.getElem?_drop]

theorem u16At_take (m : Bytes) {n off : ℕ} (h : off + 2 ≤ n) :
    u16At (m.take n) off = u16At m off := by
  unfold u16At
  rw [byteAt_take m (by omega), byteAt_take m (by omega)]

theorem u32At_take (m : Bytes) {n off : ℕ} (h : off + 4 ≤ n) :
    u32At (m.take n) off = u32At m off := by
  unfold u32At
  rw [byteAt_take m (by omega), byteAt_take m (by omega), byteAt_take m (by omega),
    byteAt_take m (by omega)]

theorem u16At_append_left {a : Bytes} (b : Bytes) {off : ℕ} (h : off + 2 ≤ a.length) :
    u16At (a ++ b) off = u16At a off := by
  unfold u16At
  rw [byteAt_append_left b (by omega), byteAt_append_left b (by omega)]

theorem u16At_append_right {a : Bytes} (b : Bytes) {off : ℕ} (h : a.length ≤ off) :
    u16At (a ++ b) off = u16At b (off - a.length) := by
  unfold u16At
  rw [byteAt_append_right b h, byteAt_append_right b (by omega),
    show off + 1 - a.length = off - a.length + 1 by omega]

theorem u32At_append_left {a : Bytes} (b : Bytes) {off : ℕ} (h : off + 4 ≤ a.length) :
    u32At (a ++ b) off = u32At a off := by
  unfold u32At
  rw [byteAt_append_left b (by omega), byteAt_append_left b (by omega),
    byteAt_append_left b (by omega), byteAt_append_left b (by omega)]

theorem u32At_append_right {a : Bytes} (b : Bytes) {off : ℕ} (h : a.length ≤ off) :
    u32At (a ++ b) off = u32At b (off - a.length) := by
  unfold u32At
  rw [byteAt_append_right b h, byteAt_append_right b (by omega),
    byteAt_append_right b (by omega), byteAt_append_right b (by omega),
    show off + 1 - a.length = off - a.length + 1 by omega,
    show off + 2 - a.length = off - a.length + 2 by omega,
    show off + 3 - a.length = off - a.length + 3 by omega]

theorem bytesAt_append_left {n : ℕ} {a : Bytes} (b : Bytes) {off : ℕ}
    (h : off + n ≤ a.length) : bytesAt n (a ++ b) off = bytesAt n a off := by
  unfold bytesAt
  congr 1
  funext i
  rw [byteAt_append_left b (by omega)]

theorem bytesAt_append_right {n : ℕ} {a : Bytes} (b : Bytes) {off : ℕ}
    (h : a.length ≤ off) : bytesAt n (a ++ b) off = bytesAt n b (off - a.length) := by
  unfold bytesAt
  congr 1
  funext i
  rw [byteAt_append_right b (by omega),
    show off + (i : ℕ) - a.length = off - a.length + i by omega]

/-- An array inside a stretch of memory that is cut out. -/
theorem bytesAt_take_drop {n k : ℕ} (m : Bytes) (off : ℕ) (h : n ≤ k) :
    bytesAt n ((m.drop off).take k) 0 = bytesAt n m off := by
  unfold bytesAt
  congr 1
  funext i
  rw [byteAt_take _ (by omega), byteAt_drop, Nat.zero_add]

@[simp] theorem u16At_le16 (x : UInt16) (b : Bytes) : u16At (le16 x ++ b) 0 = x :=
  ofLe16_bytes x

@[simp] theorem u32At_le32 (x : UInt32) (b : Bytes) : u32At (le32 x ++ b) 0 = x :=
  ofLe32_bytes x

@[simp] theorem bytesAt_toList {n : ℕ} (v : Vector UInt8 n) (b : Bytes) :
    bytesAt n (v.toList ++ b) 0 = v := by
  apply Vector.ext
  intro i hi
  unfold bytesAt byteAt
  rw [Vector.getElem_ofFn, List.getD_append _ _ _ _ (by simpa using hi)]
  simp [hi]

theorem bytesAt_toList_self {n : ℕ} (v : Vector UInt8 n) : bytesAt n v.toList 0 = v := by
  have h := bytesAt_toList v []
  rwa [List.append_nil] at h

/-! ## Integers of eight bytes -/

/-- The number whose bytes in memory are the given ones. -/
def ofLeBytes (m : Bytes) : ℕ := m.foldr (fun b acc => b.toNat + 256 * acc) 0

/-- The 64-bit integer at an offset. -/
def u64At (m : Bytes) (off : ℕ) : UInt64 := UInt64.ofNat (ofLeBytes ((m.drop off).take 8))

/-- `be64toh` is the same exchange of bytes as `htobe64`. -/
def be64toh (x : UInt64) : UInt64 := htobe64 x

/-- The bytes of a number make up the number, as far as there are bytes. -/
theorem ofLeBytes_map_range (n x : ℕ) :
    ofLeBytes ((List.range n).map fun i => UInt8.ofNat (x / 256 ^ i)) = x % 256 ^ n := by
  induction n generalizing x with
  | zero => simp [ofLeBytes, Nat.mod_one]
  | succ n ih =>
      have htail : ((List.range n).map fun i => UInt8.ofNat (x / 256 ^ (i + 1)))
          = (List.range n).map fun i => UInt8.ofNat (x / 256 / 256 ^ i) := by
        apply List.map_congr_left
        intro i _
        rw [Nat.div_div_eq_div_mul, Nat.pow_succ']
      rw [List.range_succ_eq_map, List.map_cons, List.map_map]
      show (UInt8.ofNat (x / 256 ^ 0)).toNat
        + 256 * ofLeBytes ((List.range n).map fun i => UInt8.ofNat (x / 256 ^ (i + 1))) = _
      rw [htail, ih, UInt8.toNat_ofNat', Nat.pow_zero, Nat.div_one,
        show 256 ^ (n + 1) = 256 * 256 ^ n from Nat.pow_succ']
      exact Nat.mod_mul.symm

/-- The bytes of the number that some bytes make up are these bytes. -/
theorem map_range_ofLeBytes (m : Bytes) :
    ((List.range m.length).map fun i => UInt8.ofNat (ofLeBytes m / 256 ^ i)) = m := by
  induction m with
  | nil => rfl
  | cons b m ih =>
      have hb := b.toNat_lt
      have hdiv : (b.toNat + 256 * ofLeBytes m) / 256 = ofLeBytes m := by omega
      have htail : ((List.range m.length).map
          fun i => UInt8.ofNat ((b.toNat + 256 * ofLeBytes m) / 256 ^ (i + 1))) = m := by
        conv_rhs => rw [← ih]
        apply List.map_congr_left
        intro i _
        rw [Nat.pow_succ', ← Nat.div_div_eq_div_mul, hdiv]
      rw [List.length_cons, List.range_succ_eq_map, List.map_cons, List.map_map]
      show UInt8.ofNat ((b.toNat + 256 * ofLeBytes m) / 256 ^ 0) :: ((List.range m.length).map
        fun i => UInt8.ofNat ((b.toNat + 256 * ofLeBytes m) / 256 ^ (i + 1))) = _
      rw [htail, Nat.pow_zero, Nat.div_one]
      congr 1
      apply UInt8.toNat_inj.mp
      rw [UInt8.toNat_ofNat']
      omega

theorem ofLeBytes_lt (m : Bytes) : ofLeBytes m < 256 ^ m.length := by
  rw [← map_range_ofLeBytes m, ofLeBytes_map_range, List.length_map, List.length_range]
  exact Nat.mod_lt _ (Nat.pow_pos (by decide))

theorem ofLeBytes_le64 (x : UInt64) : ofLeBytes (le64 x) = x.toNat := by
  unfold le64
  rw [ofLeBytes_map_range]
  exact Nat.mod_eq_of_lt x.toNat_lt

theorem u64At_le64 (x : UInt64) (b : Bytes) : u64At (le64 x ++ b) 0 = x := by
  unfold u64At
  rw [List.drop_zero, List.take_left' (length_le64 x), ofLeBytes_le64]
  exact UInt64.ofNat_toNat

/-- The bytes of an integer in network order are its bytes in reverse. -/
theorem le64_htobe64 (x : UInt64) : le64 (htobe64 x) = (le64 x).reverse := by
  have hlen : (le64 x).reverse.length = 8 := by rw [List.length_reverse, length_le64]
  have hvalue : (le64 x).foldl (fun acc b => 256 * acc + b.toNat) 0
      = ofLeBytes (le64 x).reverse := by
    rw [List.foldl_eq_foldr_reverse]
    unfold ofLeBytes
    congr 1
    funext b acc
    exact Nat.add_comm _ _
  have hlt := ofLeBytes_lt (le64 x).reverse
  have hbytes := map_range_ofLeBytes (le64 x).reverse
  rw [hlen] at hlt hbytes
  have hnat : (htobe64 x).toNat = ofLeBytes (le64 x).reverse := by
    unfold htobe64
    rw [UInt64.toNat_ofNat', hvalue]
    exact Nat.mod_eq_of_lt hlt
  rw [← hbytes, ← hnat]
  rfl

theorem be64toh_htobe64 (x : UInt64) : be64toh (htobe64 x) = x := by
  have h : le64 (be64toh (htobe64 x)) = le64 x := by
    unfold be64toh
    rw [le64_htobe64, le64_htobe64, List.reverse_reverse]
  apply UInt64.toNat_inj.mp
  rw [← ofLeBytes_le64, ← ofLeBytes_le64 x]
  exact congrArg ofLeBytes h

end Memory
