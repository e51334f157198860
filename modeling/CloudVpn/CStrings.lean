/-
# C strings

Reusable infrastructure for programs that read text with the string functions of C.  A
string is the stretch of bytes in front of the first NUL; an array of a fixed size need not
hold a NUL at all, and then it holds no string (`cString`).

`fgetsLines` is what repeated calls of `fgets` return for the contents of a file.  The
lemmas say which line comes first when the text is given line by line, and that a newline
can only be the last byte of a line.
-/
import CloudVpn.Memory
import Mathlib.Data.List.DropRight

open Memory

namespace CStrings

/-! ## Strings in arrays -/

/-- The bytes of a text. -/
def utf8 (s : String) : Bytes := s.toByteArray.data.toList

theorem utf8_append (s t : String) : utf8 (s ++ t) = utf8 s ++ utf8 t := by
  simp [utf8, String.toByteArray_append, ByteArray.data_append]

/-- The bytes in front of the first `c`; for NUL, the string at the start of a buffer. -/
def before (c : UInt8) (b : Bytes) : Bytes := b.takeWhile (· ≠ c)

/-- The bytes in front of the first `c` and those behind it, as `strchr` finds it. -/
def splitAt (c : UInt8) (b : Bytes) : Option (Bytes × Bytes) :=
  if c ∈ b then some (before c b, b.drop ((before c b).length + 1)) else none

/-- The string in an array, if there is a NUL in it. -/
def cString {n : ℕ} (field : Vector UInt8 n) : Option Bytes :=
  if 0 ∈ field.toList then some (before 0 field.toList) else none

/-- `strncpy(field, src, sizeof(field) - 1)` for a string `src`: the last byte of the array is
not written. -/
def strncpy {n : ℕ} (field : Vector UInt8 n) (src : Bytes) : Vector UInt8 n :=
  Vector.ofFn fun i => if i.val + 1 < n then src.getD i 0 else field.get i

theorem before_of_notMem {c : UInt8} {b : Bytes} (h : c ∉ b) : before c b = b := by
  unfold before
  rw [List.takeWhile_eq_self_iff]
  intro x hx
  exact decide_eq_true fun hc => h (hc ▸ hx)

theorem before_append_cons {c : UInt8} {b : Bytes} (h : c ∉ b) (rest : Bytes) :
    before c (b ++ c :: rest) = b := by
  have hb := before_of_notMem h
  unfold before at hb ⊢
  rw [List.takeWhile_append_of_pos (List.takeWhile_eq_self_iff.mp hb)]
  simp

/-- What stands in front of a `c` has its first `c` at the end of `before c b`. -/
theorem append_cons_eq_before (c : UInt8) (b rest : Bytes) :
    ∃ rest', b ++ c :: rest = before c b ++ c :: rest' := by
  by_cases hc : c ∈ b
  · obtain ⟨front, tail, rfl, hfront⟩ := List.eq_append_cons_of_mem hc
    refine ⟨tail ++ c :: rest, ?_⟩
    rw [before_append_cons hfront, List.append_assoc, List.cons_append]
  · exact ⟨rest, by rw [before_of_notMem hc]⟩

theorem notMem_before (c : UInt8) (b : Bytes) : c ∉ before c b := by
  intro h
  have hc := List.mem_takeWhile_imp h
  simp at hc

theorem before_isPrefix (c : UInt8) (b : Bytes) : before c b <+: b := List.takeWhile_prefix _

theorem splitAt_append_cons {c : UInt8} {b : Bytes} (h : c ∉ b) (rest : Bytes) :
    splitAt c (b ++ c :: rest) = some (b, rest) := by
  unfold splitAt
  rw [if_pos (by simp), before_append_cons h, ← List.singleton_append, ← List.append_assoc,
    List.drop_left' (by simp)]

/-- The part behind the separator consists of bytes of the string. -/
theorem subset_of_splitAt {c : UInt8} {b key value : Bytes}
    (h : splitAt c b = some (key, value)) : value ⊆ b := by
  unfold splitAt at h
  split_ifs at h
  rw [← (Prod.mk.inj (Option.some.inj h)).2]
  exact List.drop_subset _ _

theorem splitAt_eq (c : UInt8) (b : Bytes) :
    splitAt c b
      = if c ∈ b then some (b.takeWhile (· ≠ c), (b.dropWhile (· ≠ c)).tail) else none := by
  have hparts : b = b.takeWhile (· ≠ c) ++ b.dropWhile (· ≠ c) :=
    List.takeWhile_append_dropWhile.symm
  have hdrop : b.drop (b.takeWhile (· ≠ c)).length = b.dropWhile (· ≠ c) :=
    (congrArg (List.drop _) hparts).trans List.drop_left
  unfold splitAt before
  rw [← List.tail_drop, hdrop]

theorem zero_notMem_cString {n : ℕ} {field : Vector UInt8 n} {u : Bytes}
    (h : cString field = some u) : 0 ∉ u := by
  unfold cString at h
  split_ifs at h
  rw [← Option.some.inj h]
  exact notMem_before 0 _

/-- The byte that is not written. -/
@[simp] theorem get_last_strncpy {n : ℕ} (field : Vector UInt8 (n + 1)) (src : Bytes) :
    (strncpy field src).get (Fin.last n) = field.get (Fin.last n) := by
  show (strncpy field src)[n] = field.get (Fin.last n)
  rw [strncpy, Vector.getElem_ofFn, if_neg (by simp)]
  rfl

/-- The array after `strncpy`: the string, cut off or filled up with zeros, and the byte that
is not written. -/
theorem toList_strncpy {n : ℕ} (field : Vector UInt8 (n + 1)) (src : Bytes) :
    (strncpy field src).toList
      = (src.take n ++ List.replicate (n - src.length) 0) ++ [field.get (Fin.last n)] := by
  apply List.ext_getElem
  · simp only [Vector.length_toList, List.length_append, List.length_take,
      List.length_replicate, List.length_singleton]
    omega
  · intro i h₁ h₂
    have hi : i < n + 1 := by simpa using h₁
    have hlen : (src.take n ++ List.replicate (n - src.length) (0 : UInt8)).length = n := by
      simp only [List.length_append, List.length_take, List.length_replicate]
      omega
    simp only [strncpy, Vector.getElem_toList, Vector.getElem_ofFn]
    -- In front of the last byte lie the bytes of the string or zeros.
    rcases Nat.lt_succ_iff_lt_or_eq.mp hi with hlt | rfl
    · rw [if_pos (by omega), List.getElem_append_left (by omega)]
      by_cases hsrc : i < src.length
      · rw [List.getElem_append_left (by rw [List.length_take]; omega), List.getElem_take,
          List.getD_eq_getElem src 0 hsrc]
      · rw [List.getElem_append_right (by rw [List.length_take]; omega),
          List.getElem_replicate, List.getD_eq_default src 0 (by omega)]
    · rw [if_neg (by omega), List.getElem_append_right (by omega)]
      simp [Fin.last]

/-- **What `strncpy` leaves in an array**, read back as a string. -/
theorem cString_strncpy {n : ℕ} (field : Vector UInt8 (n + 1)) {src : Bytes} (h : 0 ∉ src) :
    cString (strncpy field src)
      = if src.length < n ∨ field.get (Fin.last n) = 0 then some (src.take n) else none := by
  have htake : 0 ∉ src.take n := fun h0 => h (List.mem_of_mem_take h0)
  unfold cString
  rw [toList_strncpy]
  by_cases hshort : src.length < n
  · -- The string ends with one of the zeros behind it.
    obtain ⟨k, hk⟩ : ∃ k, n - src.length = k + 1 := ⟨n - src.length - 1, by omega⟩
    rw [hk, List.replicate_succ, List.append_assoc, List.cons_append, before_append_cons htake,
      if_pos (by simp), if_pos (Or.inl hshort)]
  · have hzero : n - src.length = 0 := by omega
    rw [hzero, List.replicate_zero, List.append_nil]
    by_cases hlast : field.get (Fin.last n) = 0
    · rw [hlast, before_append_cons htake, if_pos (by simp), if_pos (Or.inr rfl)]
    · rw [if_neg, if_neg (by tauto)]
      intro hmem
      rcases List.mem_append.mp hmem with h0 | h0
      · exact htake h0
      · exact hlast (List.mem_singleton.mp h0).symm

/-! ## White space -/

/-- `isspace` in the C locale: space, tab, newline, vertical tab, form feed, return. -/
def isspace (b : UInt8) : Bool := b = 0x20 || (0x09 ≤ b && b ≤ 0x0d)

/-- A string without the white space at its two ends. -/
def trim (b : Bytes) : Bytes := (b.dropWhile isspace).rdropWhile isspace

/-- White space behind a byte that is none is dropped there and nowhere else. -/
theorem rdropWhile_append_cons {p : UInt8 → Bool} {c : UInt8} (hc : p c = false)
    (front b : Bytes) :
    (front ++ c :: b).rdropWhile p = front ++ c :: b.rdropWhile p := by
  induction b using List.reverseRecOn with
  | nil => rw [List.rdropWhile_concat_neg p _ c (by simp [hc]), List.rdropWhile_nil]
  | append_singleton b x ih =>
      have hsplit : front ++ c :: (b ++ [x]) = (front ++ c :: b) ++ [x] := by simp
      rw [hsplit]
      by_cases hx : p x = true
      · rw [List.rdropWhile_concat_pos p _ x hx, List.rdropWhile_concat_pos p _ x hx, ih]
      · rw [List.rdropWhile_concat_neg p _ x hx, List.rdropWhile_concat_neg p _ x hx, hsplit]

theorem trim_isPrefix (b : Bytes) : trim b <+: b.dropWhile isspace :=
  List.rdropWhile_prefix isspace _

theorem length_trim_le (b : Bytes) : (trim b).length ≤ b.length :=
  le_trans (trim_isPrefix b).length_le (List.dropWhile_suffix _).length_le

theorem trim_subset (b : Bytes) : trim b ⊆ b :=
  List.Subset.trans (trim_isPrefix b).subset (List.dropWhile_suffix _).subset

/-- A string is white space, or it is what trimming leaves between two stretches of white space.
What is left begins with a byte `c` that is none, and its end has been trimmed. -/
theorem trim_cases (b : Bytes) :
    ((∀ x ∈ b, isspace x = true) ∧ trim b = []) ∨
      ∃ lead c body trail, b = lead ++ (c :: body ++ trail) ∧ trim b = c :: body ∧
        (∀ x ∈ lead, isspace x = true) ∧ isspace c = false ∧
        body.rdropWhile isspace = body ∧ ∀ x ∈ trail, isspace x = true := by
  have hlead : b = b.takeWhile isspace ++ b.dropWhile isspace :=
    List.takeWhile_append_dropWhile.symm
  unfold trim
  cases hdrop : b.dropWhile isspace with
  | nil => exact Or.inl ⟨List.dropWhile_eq_nil_iff.mp hdrop, List.rdropWhile_nil isspace⟩
  | cons c rest =>
      have hc : isspace c = false := by
        have hnot := List.dropWhile_get_zero_not isspace b (by simp [hdrop])
        simpa [hdrop] using hnot
      refine Or.inr ⟨b.takeWhile isspace, c, rest.rdropWhile isspace, rest.rtakeWhile isspace,
        ?_, rdropWhile_append_cons hc [] rest, fun x hx => List.mem_takeWhile_imp hx, hc,
        List.rdropWhile_idempotent isspace rest, fun x hx => List.mem_rtakeWhile_imp hx⟩
      rw [List.cons_append, List.rdropWhile_append_rtakeWhile, ← hdrop]
      exact hlead

/-- Trimming twice is trimming once. -/
@[simp] theorem trim_trim (b : Bytes) : trim (trim b) = trim b := by
  rcases trim_cases b with ⟨-, hnil⟩ | ⟨lead, c, body, trail, -, htrim, -, hc, hbody, -⟩
  · rw [hnil]
    rfl
  · rw [htrim]
    unfold trim
    have hfront := rdropWhile_append_cons hc [] body
    rw [hbody] at hfront
    rw [List.dropWhile_cons_of_neg (by simp [hc])]
    exact hfront

/-- Trimming is the same for a string whose end has been trimmed before, if nothing is
trimmed in all. -/
theorem trim_rdropWhile_eq_self {b : Bytes} : trim (b.rdropWhile isspace) = b ↔ trim b = b := by
  constructor
  · intro h
    have hlen := length_trim_le (b.rdropWhile isspace)
    rw [h] at hlen
    have hb : b.rdropWhile isspace = b :=
      (List.rdropWhile_prefix isspace b).eq_of_length_le hlen
    rw [hb] at h
    exact h
  · intro h
    have hle : b.length ≤ (b.dropWhile isspace).length := by
      calc b.length = (trim b).length := by rw [h]
        _ ≤ (b.dropWhile isspace).length := (trim_isPrefix b).length_le
    have hb : b.dropWhile isspace = b := (List.dropWhile_suffix _).eq_of_length_le hle
    have hr : b.rdropWhile isspace = b := by
      have h' := h
      unfold trim at h'
      rwa [hb] at h'
    rw [hr, h]

/-! ## Numbers -/

/-- A decimal digit. -/
def isdigit (b : UInt8) : Bool := 0x30 ≤ b && b ≤ 0x39

/-- `atoi` as the C library computes it: the value that `strtol` reads, cut to a 64-bit
integer, and of that the low 32 bits. -/
def atoi (b : Bytes) : ℤ :=
  let b := b.dropWhile isspace
  let negative := b.head? = some 0x2d
  let digits := if negative ∨ b.head? = some 0x2b then b.tail else b
  let value : ℤ := (digits.takeWhile isdigit).foldl (fun v d => v * 10 + (d.toNat - 48)) 0
  let long := if negative then max (-value) (-2 ^ 63) else min value (2 ^ 63 - 1)
  Int.bmod long (2 ^ 32)

/-! ## Lines -/

/-- The newline character. -/
def newline : UInt8 := 0x0a

/-- The lines that `fgets` returns for the rest of a file, with a buffer of `size` bytes, when
`line` is what the current call has read. -/
def fgetsLines (size : ℕ) (line : Bytes) : Bytes → List Bytes
  | [] => if line = [] then [] else [line]
  | b :: rest =>
      if b = newline ∨ line.length + 2 = size then
        (line ++ [b]) :: fgetsLines size [] rest
      else fgetsLines size (line ++ [b]) rest

/-- A line that fits the buffer is returned with its newline. -/
theorem fgetsLines_append {size : ℕ} (rest : Bytes) :
    ∀ {l line : Bytes}, newline ∉ l → line.length + l.length + 1 < size →
      fgetsLines size line (l ++ newline :: rest)
        = (line ++ (l ++ [newline])) :: fgetsLines size [] rest
  | [], line, _, _ => by simp [fgetsLines]
  | b :: l, line, hl, hlen => by
      obtain ⟨hb, hl⟩ := not_or.mp (mt List.mem_cons.mpr hl)
      rw [List.length_cons] at hlen
      have hgo : ¬ (b = newline ∨ line.length + 2 = size) := by
        rintro (h | h)
        · exact hb h.symm
        · omega
      rw [List.cons_append, fgetsLines, if_neg hgo, fgetsLines_append rest hl (by simp; omega)]
      simp

/-- Lines that end with a newline are cut off the rest of the file. -/
theorem fgetsLines_split {size : ℕ} (rest : Bytes) :
    ∀ front line : Bytes, fgetsLines size line (front ++ newline :: rest)
      = fgetsLines size line (front ++ [newline]) ++ fgetsLines size [] rest
  | [], line => by simp [fgetsLines]
  | b :: front, line => by
      simp only [List.cons_append, fgetsLines]
      split_ifs
      · rw [fgetsLines_split rest front [], List.cons_append]
      · exact fgetsLines_split rest front _

/-- A piece that fills the buffer is returned without the newline behind it. -/
theorem fgetsLines_full {size : ℕ} (rest : Bytes) :
    ∀ {l line : Bytes}, newline ∉ l → l ≠ [] → line.length + l.length + 1 = size →
      fgetsLines size line (l ++ rest) = (line ++ l) :: fgetsLines size [] rest
  | [], _, _, hne, _ => absurd rfl hne
  | [b], line, _, _, hlen => by
      rw [List.length_singleton] at hlen
      rw [List.singleton_append, fgetsLines, if_pos (Or.inr (by omega))]
  | b :: c :: l, line, hl, _, hlen => by
      obtain ⟨hb, hl⟩ := not_or.mp (mt List.mem_cons.mpr hl)
      rw [List.length_cons, List.length_cons] at hlen
      have hgo : ¬ (b = newline ∨ line.length + 2 = size) := by
        rintro (h | h)
        · exact hb h.symm
        · omega
      rw [List.cons_append, fgetsLines, if_neg hgo,
        fgetsLines_full rest hl (List.cons_ne_nil c l) (by simp; omega)]
      simp

/-- The rest of a file without a newline is returned whole, if it fits the buffer. -/
theorem fgetsLines_last {size : ℕ} :
    ∀ {l line : Bytes}, newline ∉ l → line.length + l.length < size →
      fgetsLines size line l = if line ++ l = [] then [] else [line ++ l]
  | [], line, _, _ => by simp [fgetsLines]
  | b :: l, line, hl, hlen => by
      obtain ⟨hb, hl⟩ := not_or.mp (mt List.mem_cons.mpr hl)
      rw [List.length_cons] at hlen
      unfold fgetsLines
      split_ifs with hend hnil hnil
      · exact absurd hnil (by simp)
      · -- The buffer is full with the last byte.
        have hnil : l = [] := by
          rcases hend with h | h
          · exact absurd h.symm hb
          · exact List.length_eq_zero_iff.mp (by omega)
        subst hnil
        rfl
      · exact absurd hnil (by simp)
      · rw [fgetsLines_last hl (by simp; omega), if_neg (by simp)]
        simp

/-- **Pieces and lines.**  For a parser that ignores the newline at the end of a line and skips
empty lines, the pieces that `fgets` returns are as good as the lines of the text, if every line
is shorter than the buffer.  The newline of a line that just fits is a piece of its own. -/
theorem filterMap_fgetsLines {β : Type} {parse : Bytes → Option β}
    (hnewline : ∀ l, parse (l ++ [newline]) = parse l) (hnil : parse [] = none) {size : ℕ}
    (hsize : 2 ≤ size) {file : Bytes} (hfit : ∀ l ∈ file.splitOn newline, l.length < size) :
    (fgetsLines size [] file).filterMap parse = (file.splitOn newline).filterMap parse := by
  have hskip : parse [newline] = none := (hnewline []).trans hnil
  induction hlen : file.length using Nat.strong_induction_on generalizing file with
  | _ n ih =>
    by_cases hmem : newline ∈ file
    · obtain ⟨l, rest, rfl, hl⟩ := List.eq_append_cons_of_mem hmem
      have hother : ∀ x ∈ l, (x == newline) = false := by
        intro x hx
        rw [beq_eq_false_iff_ne]
        rintro rfl
        exact hl hx
      have hsplit : (l ++ newline :: rest).splitOn newline = l :: rest.splitOn newline :=
        List.splitOnP_append_cons_of_forall_mem hother newline (by simp) rest
      rw [hsplit] at hfit ⊢
      have hrest := ih rest.length (by rw [← hlen]; simp; omega)
        (fun l hl => hfit l (List.mem_cons_of_mem _ hl)) rfl
      have hl' := hfit l List.mem_cons_self
      rcases Nat.lt_or_eq_of_le hl' with hlt | heq
      · rw [fgetsLines_append rest hl (by simpa using hlt), List.nil_append,
          List.filterMap_cons, List.filterMap_cons, hnewline, hrest]
      · have hne : l ≠ [] := by
          rintro rfl
          rw [List.length_nil] at heq
          omega
        rw [fgetsLines_full (newline :: rest) hl hne (by simpa using heq), List.nil_append,
          fgetsLines, if_pos (Or.inl rfl), List.nil_append, List.filterMap_cons,
          List.filterMap_cons_none hskip, hrest, List.filterMap_cons]
    · rw [List.splitOn_eq_singleton hmem] at hfit ⊢
      rw [fgetsLines_last hmem (by simpa using hfit file List.mem_cons_self), List.nil_append]
      split_ifs with hempty
      · rw [hempty, List.filterMap_nil, List.filterMap_cons_none hnil, List.filterMap_nil]
      · rfl

/-- A newline is the last byte of its line. -/
theorem newline_notMem_dropLast {size : ℕ} :
    ∀ {file line : Bytes}, newline ∉ line → ∀ l ∈ fgetsLines size line file,
      newline ∉ l.dropLast
  | [], line, hline, l, hl => by
      unfold fgetsLines at hl
      split_ifs at hl
      · exact absurd hl (List.not_mem_nil)
      · rw [List.mem_singleton.mp hl]
        exact fun h => hline (List.dropLast_subset _ h)
  | b :: file, line, hline, l, hl => by
      unfold fgetsLines at hl
      split_ifs at hl with hb
      · rcases List.mem_cons.mp hl with rfl | hl
        · rw [List.dropLast_concat]
          exact hline
        · exact newline_notMem_dropLast (List.not_mem_nil) l hl
      · refine newline_notMem_dropLast ?_ l hl
        intro h
        rcases List.mem_append.mp h with h | h
        · exact hline h
        · exact hb (Or.inl (List.mem_singleton.mp h).symm)

/-- The pieces consist of bytes of the file. -/
theorem subset_of_mem_fgetsLines {size : ℕ} :
    ∀ {file line : Bytes}, ∀ l ∈ fgetsLines size line file, l ⊆ line ++ file
  | [], line, l, hl => by
      unfold fgetsLines at hl
      split_ifs at hl
      · exact absurd hl List.not_mem_nil
      · rw [List.mem_singleton.mp hl, List.append_nil]
        exact List.Subset.refl line
  | b :: file, line, l, hl => by
      unfold fgetsLines at hl
      split_ifs at hl
      · rcases List.mem_cons.mp hl with rfl | hl
        · rw [List.append_cons line b file]
          exact List.subset_append_left _ _
        · refine List.Subset.trans (subset_of_mem_fgetsLines l hl) ?_
          simp
      · have hsub := subset_of_mem_fgetsLines l hl
        rwa [List.append_assoc, List.singleton_append] at hsub

/-- A piece leaves room for the NUL behind it. -/
theorem length_lt_of_mem_fgetsLines {size : ℕ} :
    ∀ {file line : Bytes}, line.length + 2 ≤ size → ∀ l ∈ fgetsLines size line file,
      l.length < size
  | [], line, hsize, l, hl => by
      unfold fgetsLines at hl
      split_ifs at hl
      · exact absurd hl List.not_mem_nil
      · rw [List.mem_singleton.mp hl]
        omega
  | b :: file, line, hsize, l, hl => by
      unfold fgetsLines at hl
      split_ifs at hl with hend
      · rcases List.mem_cons.mp hl with rfl | hl
        · rw [List.length_append, List.length_singleton]
          omega
        · refine length_lt_of_mem_fgetsLines (le_trans ?_ hsize) l hl
          rw [List.length_nil]
          omega
      · refine length_lt_of_mem_fgetsLines ?_ l hl
        have hroom : line.length + 2 ≠ size := fun heq => hend (Or.inr heq)
        rw [List.length_append, List.length_singleton]
        omega

theorem notMem_dropLast_of_isPrefix {c : UInt8} {a b : Bytes} (hab : a <+: b)
    (h : c ∉ b.dropLast) : c ∉ a.dropLast := by
  intro hc
  obtain ⟨rest, rfl⟩ := hab
  cases rest with
  | nil => exact h (by rwa [List.append_nil])
  | cons x rest =>
      rw [List.dropLast_append_of_ne_nil (List.cons_ne_nil x rest)] at h
      exact h (List.mem_append_left _ (List.dropLast_subset a hc))

/-- White space at the end is trimmed. -/
theorem trim_append_space (b : Bytes) {c : UInt8} (hc : isspace c) :
    trim (b ++ [c]) = trim b := by
  unfold trim
  rw [List.dropWhile_append]
  split_ifs with hempty
  · rw [List.isEmpty_iff] at hempty
    rw [hempty, List.dropWhile_cons_of_pos hc]
    rfl
  · rw [List.rdropWhile_concat_pos isspace _ c hc]

/-- What stays of such a line after trimming has no newline. -/
theorem newline_notMem_trim {b : Bytes} (h : newline ∉ b.dropLast) : newline ∉ trim b := by
  intro hmem
  have hne : trim b ≠ [] := List.ne_nil_of_mem hmem
  have hlast : ¬ isspace ((trim b).getLast hne) := List.rdropWhile_last_not isspace _ hne
  have hsplit := List.dropLast_append_getLast hne
  generalize (trim b).getLast hne = c at hlast hsplit
  obtain ⟨rest, hrest⟩ := trim_isPrefix b
  obtain ⟨front, hfront⟩ : b.dropWhile isspace <:+ b := List.dropWhile_suffix isspace
  -- The last byte of the trimmed line is no white space, so the newline lies in front of it.
  rw [← hsplit] at hmem
  rcases List.mem_append.mp hmem with hinit | hend
  · apply h
    rw [← hfront, ← hrest, ← hsplit, List.append_assoc, ← List.append_assoc front,
      List.dropLast_append_of_ne_nil (by simp)]
    exact List.mem_append_left _ (List.mem_append_right _ hinit)
  · rw [← List.mem_singleton.mp hend] at hlast
    exact hlast (by decide)

end CStrings
