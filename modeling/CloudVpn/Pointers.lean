/-
# Pointers into a buffer

Reusable infrastructure for programs that walk over a string with pointers and change it in
place.  A pointer is an index into the buffer.  Every access goes through a `Window`, the indices
that the program may touch: an access outside of it, or outside of the buffer, has no value.  So
a computation in the `Option` monad has a value exactly when all its reads and writes lie in the
window.

* `skipWhile` and `skipBack` are the two pointer loops.  The first one ends at the latest where
  the window ends; the library's `strlen` and `strchr` are made of it;
* `memmove` reads all its bytes before it writes.

The lemmas describe the buffer from the front: `front` is what lies in front of the pointer, and
behind it come the bytes that the function looks at and the rest.
-/
import CloudVpn.Buffers
import CloudVpn.CStrings

open Memory CStrings

namespace Pointers

/-! ## Accesses through a window -/

/-- The indices `lo, …, hi - 1` of a buffer. -/
structure Window where
  lo : ℕ
  hi : ℕ

namespace Window

/-- The indices `off, …, off + len - 1` lie in the window. -/
def Covers (w : Window) (off len : ℕ) : Prop := w.lo ≤ off ∧ off + len ≤ w.hi

instance decidableCovers (w : Window) (off len : ℕ) : Decidable (w.Covers off len) :=
  inferInstanceAs (Decidable (_ ∧ _))

/-- A part of what is covered is covered. -/
theorem Covers.mono {w : Window} {off len off' len' : ℕ} (h : w.Covers off len)
    (hlo : off ≤ off') (hhi : off' + len' ≤ off + len) : w.Covers off' len' :=
  ⟨le_trans h.1 hlo, le_trans hhi h.2⟩

/-- The pointer moves over some of the bytes. -/
theorem Covers.behind {w : Window} {front b : Bytes} {len len' : ℕ}
    (h : w.Covers front.length len) (hlen : b.length + len' ≤ len) :
    w.Covers (front ++ b).length len' := by
  rw [List.length_append]
  exact h.mono (by omega) (by omega)

/-- The byte under a pointer. -/
def loadByte (w : Window) (buf : Bytes) (p : ℕ) : Option UInt8 :=
  if w.Covers p 1 then Buffers.loadByte buf p else none

/-- The `len` bytes from a pointer on. -/
def load (w : Window) (buf : Bytes) (p len : ℕ) : Option Bytes :=
  if w.Covers p len then Buffers.load buf p len else none

/-- The buffer with `data` written from a pointer on. -/
def store (w : Window) (buf : Bytes) (p : ℕ) (data : Bytes) : Option Bytes :=
  if w.Covers p data.length then Buffers.store buf p data else none

variable {w : Window} {buf : Bytes} {p : ℕ}

theorem lt_of_loadByte {c : UInt8} (h : w.loadByte buf p = some c) : p < w.hi := by
  unfold loadByte at h
  split_ifs at h with hcovers
  exact hcovers.2

theorem loadByte_append (front : Bytes) (c : UInt8) (rest : Bytes)
    (h : w.Covers front.length 1) : w.loadByte (front ++ c :: rest) front.length = some c := by
  unfold loadByte
  rw [if_pos h, Buffers.loadByte_of_lt (by simp), byteAt_append_right _ le_rfl, Nat.sub_self]
  rfl

/-- The byte behind some of the bytes. -/
theorem loadByte_behind (front b : Bytes) (c : UInt8) (rest : Bytes)
    (h : w.Covers front.length (b.length + 1)) :
    w.loadByte (front ++ (b ++ c :: rest)) (front.length + b.length) = some c := by
  have hload := loadByte_append (front ++ b) c rest (h.behind le_rfl)
  rwa [List.length_append, List.append_assoc] at hload

theorem load_append (front data rest : Bytes) (h : w.Covers front.length data.length) :
    w.load (front ++ (data ++ rest)) front.length data.length = some data := by
  unfold load
  rw [if_pos h, Buffers.load_append front data rest rfl rfl]

theorem store_append (front : Bytes) {data rest : Bytes}
    (h : w.Covers front.length data.length) (hlen : data.length ≤ rest.length) :
    w.store (front ++ rest) front.length data
      = some (front ++ (data ++ rest.drop data.length)) := by
  unfold store
  rw [if_pos h, Buffers.store_append front rfl hlen]

/-- A NUL that is written over a byte ends the string there. -/
theorem store_zero_cons (front : Bytes) (c : UInt8) (rest : Bytes) (h : w.Covers front.length 1) :
    w.store (front ++ c :: rest) front.length [0] = some (front ++ 0 :: rest) :=
  store_append front h (by simp)

/-- A NUL that is written at the start of a string or over its NUL. -/
theorem store_zero_append (front s rest : Bytes) (h : w.Covers front.length 1) :
    ∃ left : Bytes, left.length = s.length ∧
      w.store (front ++ (s ++ 0 :: rest)) front.length [0]
        = some (front ++ 0 :: (left ++ rest)) := by
  cases s with
  | nil => exact ⟨[], rfl, store_zero_cons front 0 rest h⟩
  | cons x s =>
      refine ⟨s ++ [0], by simp, ?_⟩
      rw [List.append_assoc, List.singleton_append]
      exact store_zero_cons front x _ h

/-! ## The two loops -/

/-- The loop `while (q(*p)) p++`. -/
def skipWhile (w : Window) (q : UInt8 → Bool) (buf : Bytes) (p : ℕ) : Option ℕ :=
  match _h : w.loadByte buf p with
  | none => none
  | some c => if q c then w.skipWhile q buf (p + 1) else some p
termination_by w.hi - p
decreasing_by
  have hlt := lt_of_loadByte _h
  omega

/-- The loop `while (p > start && q(*p)) p--`. -/
def skipBack (w : Window) (q : UInt8 → Bool) (buf : Bytes) (start : ℕ) : ℕ → Option ℕ
  | 0 => some 0
  | p + 1 =>
      if p + 1 > start then
        match w.loadByte buf (p + 1) with
        | none => none
        | some c => if q c then w.skipBack q buf start p else some (p + 1)
      else some (p + 1)

variable {q : UInt8 → Bool}

theorem skipWhile_of_pos {c : UInt8} (hload : w.loadByte buf p = some c) (hc : q c = true) :
    w.skipWhile q buf p = w.skipWhile q buf (p + 1) := by
  rw [skipWhile]
  split
  · next hnone => exact absurd (hnone.symm.trans hload) (by simp)
  · next x hx =>
      obtain rfl : x = c := Option.some.inj (hx.symm.trans hload)
      rw [if_pos hc]

theorem skipWhile_of_neg {c : UInt8} (hload : w.loadByte buf p = some c) (hc : q c = false) :
    w.skipWhile q buf p = some p := by
  rw [skipWhile]
  split
  · next hnone => exact absurd (hnone.symm.trans hload) (by simp)
  · next x hx =>
      obtain rfl : x = c := Option.some.inj (hx.symm.trans hload)
      rw [if_neg (by simp [hc])]

theorem skipBack_of_pos {start : ℕ} {c : UInt8} (hstart : start < p + 1)
    (hload : w.loadByte buf (p + 1) = some c) (hc : q c = true) :
    w.skipBack q buf start (p + 1) = w.skipBack q buf start p := by
  rw [skipBack, if_pos hstart, hload]
  simp only [hc, if_true]

theorem skipBack_of_neg {start : ℕ} {c : UInt8} (hstart : start < p + 1)
    (hload : w.loadByte buf (p + 1) = some c) (hc : q c = false) :
    w.skipBack q buf start (p + 1) = some (p + 1) := by
  rw [skipBack, if_pos hstart, hload]
  simp [hc]

theorem skipBack_start (start : ℕ) : w.skipBack q buf start start = some start := by
  cases start with
  | zero => rfl
  | succ start => rw [skipBack, if_neg (by omega)]

/-- The first loop passes the bytes that pass the test, and stops at the next one. -/
theorem skipWhile_append {skipped : Bytes} (front : Bytes) {c : UInt8} (rest : Bytes)
    (hskipped : ∀ x ∈ skipped, q x = true) (hc : q c = false)
    (h : w.Covers front.length (skipped.length + 1)) :
    w.skipWhile q (front ++ (skipped ++ c :: rest)) front.length
      = some (front.length + skipped.length) := by
  induction skipped generalizing front with
  | nil => exact skipWhile_of_neg (loadByte_append front c rest h) hc
  | cons b skipped ih =>
      obtain ⟨hb, hskipped⟩ := List.forall_mem_cons.mp hskipped
      rw [List.length_cons] at h ⊢
      have hload : w.loadByte (front ++ (b :: skipped ++ c :: rest)) front.length = some b :=
        loadByte_append front b _ (h.mono le_rfl (by omega))
      -- From the next byte on, the byte that has been passed belongs to the front.
      have hnext := ih (front ++ [b]) hskipped
        (h.behind (by rw [List.length_singleton]; omega))
      rw [List.append_assoc, List.singleton_append, List.length_append,
        List.length_singleton] at hnext
      rw [skipWhile_of_pos hload hb, List.cons_append, hnext]
      congr 1
      omega

/-- The second loop starts at the last of the bytes that are to be skipped, and stops at the last
byte in front of them; it goes no further than the first byte `c`. -/
theorem skipBack_append {skipped : Bytes} (front : Bytes) (c : UInt8) {body : Bytes}
    (rest : Bytes) (hbody : body.rdropWhile q = body) (hskipped : ∀ x ∈ skipped, q x = true)
    (h : w.Covers front.length (body.length + skipped.length + 1)) :
    w.skipBack q (front ++ (c :: body ++ (skipped ++ rest))) front.length
        (front.length + body.length + skipped.length)
      = some (front.length + body.length) := by
  induction skipped using List.reverseRecOn generalizing rest with
  | nil =>
      rcases List.eq_nil_or_concat body with rfl | ⟨body, last, rfl⟩
      · exact skipBack_start front.length
      · have hlast : q last = false := by
          have hnot := List.rdropWhile_eq_self_iff.mp hbody (by simp)
          simpa using hnot
        rw [List.concat_eq_append, List.length_append, List.length_singleton] at h ⊢
        have hload := loadByte_behind front (c :: body) last rest h
        simp only [List.length_cons, List.length_nil, Nat.add_zero, List.append_assoc,
          List.cons_append, List.nil_append, ← Nat.add_assoc] at hload ⊢
        exact skipBack_of_neg (by omega) hload hlast
  | append_singleton skipped x ih =>
      have hx : q x = true := hskipped x (by simp)
      have hrest := ih (x :: rest) (fun y hy => hskipped y (List.mem_append_left _ hy))
        (h.mono le_rfl (by rw [List.length_append]; omega))
      have hload := loadByte_behind front (c :: body ++ skipped) x rest (h.mono le_rfl (by
        simp only [List.length_append, List.length_cons, List.length_nil]
        omega))
      have hlen : front.length + (c :: body ++ skipped).length
          = front.length + body.length + skipped.length + 1 := by
        rw [List.length_append, List.length_cons]
        omega
      rw [hlen] at hload
      simp only [List.append_assoc, List.cons_append, List.nil_append, List.length_append,
        List.length_singleton, ← Nat.add_assoc] at hload hrest ⊢
      rw [skipBack_of_pos (by omega) hload hx]
      exact hrest

/-! ## The functions of the library -/

/-- `strlen`. -/
def strlen (w : Window) (buf : Bytes) (s : ℕ) : Option ℕ :=
  (w.skipWhile (· ≠ 0) buf s).map (· - s)

/-- `strchr`, for a character that is not NUL. -/
def strchr (w : Window) (c : UInt8) (buf : Bytes) (s : ℕ) : Option (Option ℕ) := do
  let p ← w.skipWhile (fun b => b ≠ c && b ≠ 0) buf s
  let b ← w.loadByte buf p
  return if b = c then some p else none

/-- `memmove`. -/
def memmove (w : Window) (buf : Bytes) (dst src len : ℕ) : Option Bytes := do
  let bytes ← w.load buf src len
  w.store buf dst bytes

/-- What a function of the library reads from a string that it is given. -/
def readString (w : Window) (buf : Bytes) (s : ℕ) : Option Bytes := do
  let len ← w.strlen buf s
  w.load buf s len

/-- Bytes that are moved to the front of what lies before them. -/
theorem memmove_append (front gap data rest : Bytes)
    (h : w.Covers front.length (gap.length + data.length)) :
    w.memmove (front ++ (gap ++ (data ++ rest))) front.length (front.length + gap.length)
        data.length
      = some (front ++ (data ++ (gap ++ (data ++ rest)).drop data.length)) := by
  have hload := load_append (front ++ gap) data rest (h.behind le_rfl)
  rw [List.length_append, List.append_assoc] at hload
  unfold memmove
  rw [hload]
  refine store_append front (h.mono le_rfl (by omega)) ?_
  rw [List.length_append, List.length_append]
  omega

theorem strlen_append (front : Bytes) {s : Bytes} (rest : Bytes) (h0 : 0 ∉ s)
    (h : w.Covers front.length (s.length + 1)) :
    w.strlen (front ++ (s ++ 0 :: rest)) front.length = some s.length := by
  have hskip : w.skipWhile (· ≠ 0) (front ++ (s ++ 0 :: rest)) front.length
      = some (front.length + s.length) := by
    refine skipWhile_append front rest (fun x hx => ?_) (by simp) h
    have hne : x ≠ 0 := fun hx0 => h0 (hx0 ▸ hx)
    simpa using hne
  unfold strlen
  rw [hskip, Option.map_some, Nat.add_sub_cancel_left]

/-- A string that is moved to the front of what lies before it, with its NUL. -/
theorem memmove_strlen (front gap : Bytes) {s : Bytes} (rest : Bytes) (h0 : 0 ∉ s)
    (h : w.Covers front.length (gap.length + (s.length + 1))) :
    ∃ left : Bytes, left.length = gap.length ∧
      ((w.strlen (front ++ (gap ++ (s ++ 0 :: rest))) (front.length + gap.length)).bind
        fun len => w.memmove (front ++ (gap ++ (s ++ 0 :: rest))) front.length
          (front.length + gap.length) (len + 1))
        = some (front ++ (s ++ 0 :: (left ++ rest))) := by
  have hlen := strlen_append (front ++ gap) rest h0 (h.behind le_rfl)
  rw [List.length_append, List.append_assoc] at hlen
  have hmove := memmove_append front gap (s ++ [0]) rest (h.mono le_rfl (by simp))
  simp only [List.append_assoc, List.singleton_append, List.length_append,
    List.length_singleton] at hmove
  refine ⟨(gap ++ (s ++ [0])).drop (s.length + 1), by simp, ?_⟩
  rw [hlen, Option.bind_some, hmove, ← List.drop_append_of_le_length (by simp)]
  simp

theorem readString_append (front : Bytes) {s : Bytes} (rest : Bytes) (h0 : 0 ∉ s)
    (h : w.Covers front.length (s.length + 1)) :
    w.readString (front ++ (s ++ 0 :: rest)) front.length = some s := by
  unfold readString
  rw [strlen_append front rest h0 h]
  exact load_append front s (0 :: rest) (h.mono le_rfl (by omega))

/-- The character is found in front of the NUL or not at all. -/
theorem strchr_append (front : Bytes) {s : Bytes} (rest : Bytes) {c : UInt8} (hc : c ≠ 0)
    (h0 : 0 ∉ s) (h : w.Covers front.length (s.length + 1)) :
    w.strchr c (front ++ (s ++ 0 :: rest)) front.length
      = some (if c ∈ s then some (front.length + (before c s).length) else none) := by
  unfold strchr
  by_cases hmem : c ∈ s
  · obtain ⟨b, tail, rfl, hb⟩ := List.eq_append_cons_of_mem hmem
    rw [before_append_cons hb, if_pos hmem]
    rw [List.length_append, List.length_cons] at h
    have hskip : w.skipWhile (fun b => b ≠ c && b ≠ 0)
        (front ++ (b ++ c :: (tail ++ 0 :: rest))) front.length
          = some (front.length + b.length) := by
      refine skipWhile_append front _ (fun x hx => ?_) (by simp) (h.mono le_rfl (by omega))
      have hne : x ≠ c := fun hxc => hb (hxc ▸ hx)
      have hne0 : x ≠ 0 := fun hx0 => h0 (List.mem_append_left _ (hx0 ▸ hx))
      simp [hne, hne0]
    have hload := loadByte_behind front b c (tail ++ 0 :: rest) (h.mono le_rfl (by omega))
    rw [List.append_assoc, List.cons_append, hskip]
    simp only [Option.bind_eq_bind, Option.bind_some, hload]
    simp
  · rw [if_neg hmem]
    have hskip : w.skipWhile (fun b => b ≠ c && b ≠ 0) (front ++ (s ++ 0 :: rest)) front.length
          = some (front.length + s.length) := by
      refine skipWhile_append front _ (fun x hx => ?_) (by simp) h
      have hne : x ≠ c := fun hxc => hmem (hxc ▸ hx)
      have hne0 : x ≠ 0 := fun hx0 => h0 (hx0 ▸ hx)
      simp [hne, hne0]
    have hload := loadByte_behind front s 0 rest h
    rw [hskip]
    simp only [Option.bind_eq_bind, Option.bind_some, hload]
    simp [Ne.symm hc]

end Window

end Pointers
