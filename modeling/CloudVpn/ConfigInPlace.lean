/-
# The configuration file, in place

`config_load_from_file` reads each line into one array and works there: it ends the line at the
comment, trims it, ends the key at the `=` and trims key and value.  Here the functions are
modelled with their pointers; every access is checked against the indices that it may touch.

`trim_inPlace` is the contract of `trim` on its own, and `configLoad_inPlace` says that the loader
as it works in the array computes what the model on strings does (`configLoadFromFile`), without
an access outside of the array.
-/
import CloudVpn.ConfigFile
import CloudVpn.Pointers

open Memory Runs CStrings Pointers

namespace Vpn

/-! ## `trim` -/

/-- `trim`, on the string that `str` points to. -/
def trimInPlace (w : Window) (buf : Bytes) (str : ℕ) : Option Bytes := do
  let start ← w.skipWhile isspace buf str
  if (← w.loadByte buf start) = 0 then
    w.store buf str [0]
  else
    let len ← w.strlen buf start
    let last ← w.skipBack isspace buf start (start + len - 1)
    let buf ← w.store buf (last + 1) [0]
    if start ≠ str then
      let len ← w.strlen buf start
      w.memmove buf str start (len + 1)
    else
      return buf

section
variable {w : Window}

/-- A string of white space becomes empty. -/
theorem trimInPlace_blank (front : Bytes) {s : Bytes} (rest : Bytes)
    (hs : ∀ x ∈ s, isspace x = true) (h : w.Covers front.length (s.length + 1)) :
    ∃ left : Bytes, left.length = s.length ∧
      trimInPlace w (front ++ (s ++ 0 :: rest)) front.length
        = some (front ++ 0 :: (left ++ rest)) := by
  obtain ⟨left, hlen, hstore⟩ := Window.store_zero_append front s rest
    (h.mono le_rfl (by omega))
  refine ⟨left, hlen, ?_⟩
  have hskip := Window.skipWhile_append front rest hs (show isspace 0 = false by decide) h
  have hload := Window.loadByte_behind front s 0 rest h
  unfold trimInPlace
  simp only [Option.bind_eq_bind, hskip, Option.bind_some, hload, if_true]
  exact hstore

/-- Of another string the text between the white space is left, moved to the front if there is
white space before it. -/
theorem trimInPlace_text (front lead : Bytes) {c : UInt8} {body trail : Bytes} (rest : Bytes)
    (hlead : ∀ x ∈ lead, isspace x = true) (hc : isspace c = false)
    (hbody : body.rdropWhile isspace = body) (htrail : ∀ x ∈ trail, isspace x = true)
    (h0 : 0 ∉ c :: body ++ trail)
    (h : w.Covers front.length ((lead ++ (c :: body ++ trail)).length + 1)) :
    ∃ left : Bytes, left.length = lead.length + trail.length ∧
      trimInPlace w (front ++ (lead ++ (c :: body ++ trail) ++ 0 :: rest)) front.length
        = some (front ++ (c :: body ++ 0 :: (left ++ rest))) := by
  simp only [List.length_append, List.length_cons] at h
  have hne : c ≠ 0 := fun hc0 => h0 (by simp [hc0])
  have h0' : 0 ∉ c :: body := fun hmem => h0 (List.mem_append_left _ hmem)
  -- The two loops find the first and the last byte of the text.
  have hskip := Window.skipWhile_append front (body ++ (trail ++ 0 :: rest)) hlead hc
    (h.mono le_rfl (by omega))
  have hload := Window.loadByte_behind front lead c (body ++ (trail ++ 0 :: rest))
    (h.mono le_rfl (by omega))
  have hlen := Window.strlen_append (front ++ lead) rest h0
    (h.behind (by rw [List.length_append, List.length_cons]; omega))
  have hback := Window.skipBack_append (front ++ lead) c (0 :: rest) hbody htrail
    (h.behind (by omega))
  -- The text is ended behind its last byte; the bytes behind it are what is left of the string.
  obtain ⟨left, hleft, hstore⟩ := Window.store_zero_append (front ++ (lead ++ c :: body)) trail rest
    (h.behind (by rw [List.length_append, List.length_cons]; omega))
  have hlast : front.length + lead.length + (body.length + trail.length + 1) - 1
      = front.length + lead.length + body.length + trail.length := by omega
  simp only [List.append_assoc, List.cons_append, List.length_append, List.length_cons,
    ← Nat.add_assoc] at hlen hback hstore ⊢
  unfold trimInPlace
  simp only [Option.bind_eq_bind, hskip, Option.bind_some, hload, hne, if_false, hlen, hlast,
    hback, hstore]
  by_cases hnil : lead = []
  · subst hnil
    refine ⟨left, by simp [hleft], ?_⟩
    simp
  · have hmoved : front.length + lead.length ≠ front.length := by
      have hpos := List.length_pos_iff.mpr hnil
      omega
    obtain ⟨gap, hgap, hmove⟩ := Window.memmove_strlen front lead (left ++ rest) h0'
      (h.mono le_rfl (by rw [List.length_cons]; omega))
    rw [if_pos hmoved]
    refine ⟨gap ++ left, by simp [hgap, hleft], ?_⟩
    rw [List.append_assoc]
    exact hmove

/-- **What `trim` leaves of a string**, in any buffer: the trimmed string, and behind its NUL as
many bytes as have been trimmed. -/
theorem trimInPlace_append (front : Bytes) {s : Bytes} (rest : Bytes) (h0 : 0 ∉ s)
    (h : w.Covers front.length (s.length + 1)) :
    ∃ left : Bytes, left.length + (trim s).length = s.length ∧
      trimInPlace w (front ++ (s ++ 0 :: rest)) front.length
        = some (front ++ (trim s ++ 0 :: (left ++ rest))) := by
  rcases trim_cases s with
    ⟨hblank, htrim⟩ | ⟨lead, c, body, trail, rfl, htrim, hlead, hc, hbody, htrail⟩
  · obtain ⟨left, hlen, heq⟩ := trimInPlace_blank front rest hblank h
    refine ⟨left, ?_, ?_⟩
    · rw [htrim, hlen]
      rfl
    · rw [htrim]
      exact heq
  · have h0' : 0 ∉ c :: body ++ trail := fun hmem => h0 (List.mem_append_right _ hmem)
    obtain ⟨left, hlen, heq⟩ := trimInPlace_text front lead rest hlead hc hbody htrail h0' h
    refine ⟨left, ?_, ?_⟩
    · rw [htrim, hlen, List.length_append, List.length_append]
      omega
    · rw [htrim]
      exact heq

/-- **The contract of `trim`.**  Wherever a string lies in a buffer, `trim` comes to an end without
an access outside of the string and its NUL, and leaves the string without the white space at its
two ends; the buffer in front of the string and behind its NUL stays as it is.  A second call
changes nothing. -/
theorem trim_inPlace (front : Bytes) {s : Bytes} (rest : Bytes) (h0 : 0 ∉ s) :
    ∃ left : Bytes, left.length + (trim s).length = s.length ∧
      trimInPlace ⟨front.length, front.length + (s.length + 1)⟩ (front ++ (s ++ 0 :: rest))
          front.length
        = some (front ++ (trim s ++ 0 :: (left ++ rest))) ∧
      trimInPlace ⟨front.length, front.length + ((trim s).length + 1)⟩
          (front ++ (trim s ++ 0 :: (left ++ rest))) front.length
        = some (front ++ (trim s ++ 0 :: (left ++ rest))) := by
  obtain ⟨left, hlen, heq⟩ := trimInPlace_append
    (w := ⟨front.length, front.length + (s.length + 1)⟩) front rest h0 ⟨le_rfl, le_rfl⟩
  refine ⟨left, hlen, heq, ?_⟩
  -- The second call finds a trimmed string, so no byte is left over.
  have h0' : 0 ∉ trim s := fun hmem => h0 (trim_subset s hmem)
  obtain ⟨left', hlen', heq'⟩ := trimInPlace_append
    (w := ⟨front.length, front.length + ((trim s).length + 1)⟩) front (left ++ rest) h0'
    ⟨le_rfl, le_rfl⟩
  rw [trim_trim] at hlen' heq'
  have hnil : left' = [] := List.length_eq_zero_iff.mp (by omega)
  rw [hnil, List.nil_append] at heq'
  exact heq'

/-- A string with white space in it and at both ends. -/
theorem trim_inPlace_text :
    ∃ left : Bytes, left.length = 3 ∧
      trimInPlace ⟨1, 8⟩ (0x41 :: utf8 "  a b " ++ [0]) 1
        = some (0x41 :: utf8 "a b" ++ 0 :: left) := by
  obtain ⟨left, hlen, heq, -⟩ := trim_inPlace [0x41] (s := utf8 "  a b ") [] (by decide)
  have htrim : trim (utf8 "  a b ") = utf8 "a b" := by decide +kernel
  have h3 : (utf8 "a b").length = 3 := by decide
  have h6 : (utf8 "  a b ").length = 6 := by decide
  rw [htrim, h3, h6] at hlen
  rw [htrim, h6, List.append_nil] at heq
  exact ⟨left, by omega, heq⟩

end

/-! ## A line -/

/-- The statements that cut the comment off. -/
def cutComment (w : Window) (line : Bytes) : Option Bytes := do
  match ← w.strchr 0x23 line 0 with
  | some comment => w.store line comment [0]
  | none => return line

/-- A turn of the loop of `config_load_from_file`, from the comment up to the comparisons: the
array, and the pointers `key` and `value` if the turn gets so far. -/
def splitLine (w : Window) (line : Bytes) : Option (Bytes × Option (ℕ × ℕ)) := do
  let line ← cutComment w line
  let line ← trimInPlace w line 0
  if (← w.strlen line 0) = 0 then
    return (line, none)
  else
    match ← w.strchr 0x3d line 0 with
    | none => return (line, none)
    | some equals =>
        let line ← w.store line equals [0]
        let line ← trimInPlace w line 0
        let line ← trimInPlace w line (equals + 1)
        return (line, some (0, equals + 1))

section
variable {w : Window}

theorem cutComment_append {s : Bytes} (rest : Bytes) (h0 : 0 ∉ s)
    (h : w.Covers 0 (s.length + 1)) :
    ∃ rest' : Bytes, (before 0x23 s).length + rest'.length = s.length + rest.length ∧
      cutComment w (s ++ 0 :: rest) = some (before 0x23 s ++ 0 :: rest') := by
  have hfind := Window.strchr_append [] rest (show (0x23 : UInt8) ≠ 0 by decide) h0 h
  rw [List.nil_append, List.length_nil, Nat.zero_add] at hfind
  unfold cutComment
  simp only [Option.bind_eq_bind, hfind, Option.bind_some]
  split_ifs with hmem
  · obtain ⟨text, comment, rfl, htext⟩ := List.eq_append_cons_of_mem hmem
    rw [List.length_append, List.length_cons] at h
    rw [before_append_cons htext, List.append_assoc, List.cons_append]
    refine ⟨comment ++ 0 :: rest, ?_, ?_⟩
    · simp only [List.length_append, List.length_cons]
      omega
    · exact Window.store_zero_cons text 0x23 _ (h.mono (by omega) (by omega))
  · rw [before_of_notMem hmem]
    exact ⟨rest, rfl, rfl⟩

/-- The array after the first `trim`: the text of the line, without the comment. -/
theorem trimInPlace_cutComment (l rest : Bytes) (h : w.Covers 0 (l.length + 1)) :
    ∃ line rest' : Bytes, cutComment w (l ++ 0 :: rest) = some line ∧
      trimInPlace w line 0 = some (trim (before 0x23 (before 0 l)) ++ 0 :: rest') ∧
      (trim (before 0x23 (before 0 l))).length + rest'.length = l.length + rest.length := by
  obtain ⟨rest₀, hbefore⟩ := append_cons_eq_before 0 l rest
  have h0 := notMem_before 0 l
  have hle := (before_isPrefix 0 l).length_le
  have hle' := (before_isPrefix 0x23 (before 0 l)).length_le
  have hlen := congrArg List.length hbefore
  simp only [List.length_append, List.length_cons] at hlen
  obtain ⟨rest₁, hlen₁, hcut⟩ := cutComment_append rest₀ h0 (h.mono le_rfl (by omega))
  have h0' : 0 ∉ before 0x23 (before 0 l) := fun hmem => h0 ((before_isPrefix _ _).subset hmem)
  obtain ⟨left, hleft, htrim⟩ := trimInPlace_append (w := w) [] rest₁ h0'
    (h.mono le_rfl (by rw [List.length_nil]; omega))
  refine ⟨_, left ++ rest₁, hbefore ▸ hcut, htrim, ?_⟩
  rw [List.length_append]
  omega

/-- Ending the key at the `=` and trimming the two parts: what is done to the key stays in front of
the value. -/
theorem trimInPlace_parts {key value : Bytes} (rest : Bytes) (hkey : 0 ∉ key)
    (hvalue : 0 ∉ value) (h : w.Covers 0 (key.length + 1 + value.length + 1)) :
    ∃ line₁ line₂ line₃ : Bytes,
      w.store (key ++ 0x3d :: (value ++ 0 :: rest)) key.length [0] = some line₁ ∧
      trimInPlace w line₁ 0 = some line₂ ∧
      trimInPlace w line₂ (key.length + 1) = some line₃ ∧
      line₃.length = key.length + 1 + value.length + 1 + rest.length ∧
      w.readString line₃ 0 = some (trim key) ∧
      w.readString line₃ (key.length + 1) = some (trim value) := by
  have hstore := Window.store_zero_cons key 0x3d (value ++ 0 :: rest)
    (h.mono (by omega) (by omega))
  obtain ⟨left, hleft, htrim⟩ := trimInPlace_append (w := w) [] (value ++ 0 :: rest) hkey
    (h.mono le_rfl (by rw [List.length_nil]; omega))
  -- The trimmed key and what is left behind it are as long as the key was.
  have hfront : (trim key ++ 0 :: left).length = key.length + 1 := by
    rw [List.length_append, List.length_cons]
    omega
  obtain ⟨left', hleft', htrim'⟩ := trimInPlace_append (w := w) (trim key ++ 0 :: left) rest hvalue
    (h.mono (by omega) (by omega))
  have hkey' : 0 ∉ trim key := fun hmem => hkey (trim_subset key hmem)
  have hvalue' : 0 ∉ trim value := fun hmem => hvalue (trim_subset value hmem)
  have hread := Window.readString_append (w := w) [] (left ++ (trim value ++ 0 :: (left' ++ rest)))
    hkey' (h.mono le_rfl (by rw [List.length_nil]; omega))
  have hread' := Window.readString_append (w := w) (trim key ++ 0 :: left) (left' ++ rest) hvalue'
    (h.mono (by omega) (by omega))
  rw [hfront] at htrim' hread'
  simp only [List.nil_append, List.length_nil, List.append_assoc, List.cons_append]
    at htrim htrim' hread hread'
  refine ⟨_, _, _, hstore, htrim, htrim', ?_, hread, hread'⟩
  simp only [List.length_append, List.length_cons]
  omega

/-- What `splitLine` finds in an array: nothing, or two strings that can be read at its
pointers. -/
inductive SplitsInto (w : Window) (buf : Bytes) : Option (Bytes × Bytes) → Prop
  | skipped {line : Bytes} (hlen : line.length = buf.length)
      (hsplit : splitLine w buf = some (line, none)) : SplitsInto w buf none
  | assigned {line : Bytes} {p : ℕ} {key value : Bytes} (hlen : line.length = buf.length)
      (hsplit : splitLine w buf = some (line, some (0, p)))
      (hkey : w.readString line 0 = some key) (hvalue : w.readString line p = some value) :
      SplitsInto w buf (some (key, value))

/-- **A line is split in place** into the key and the value that the model on strings gives. -/
theorem splitsInto_parseLine (l rest : Bytes) (h : w.Covers 0 (l.length + 1)) :
    SplitsInto w (l ++ 0 :: rest) (parseLine l) := by
  obtain ⟨line, rest', hcut, htrim, hlen⟩ := trimInPlace_cutComment l rest h
  have hle : (trim (before 0x23 (before 0 l))).length ≤ l.length :=
    le_trans (length_trim_le _) (le_trans (before_isPrefix _ _).length_le
      (before_isPrefix _ _).length_le)
  have h0 : 0 ∉ trim (before 0x23 (before 0 l)) := fun hmem =>
    notMem_before 0 l ((before_isPrefix _ _).subset (trim_subset _ hmem))
  unfold parseLine
  generalize trim (before 0x23 (before 0 l)) = text at htrim hlen hle h0
  have hcovers : w.Covers 0 (text.length + 1) := h.mono le_rfl (by omega)
  have hstrlen := Window.strlen_append [] rest' h0 hcovers
  have hstrchr := Window.strchr_append [] rest' (show (0x3d : UInt8) ≠ 0 by decide) h0 hcovers
  simp only [List.nil_append, List.length_nil, Nat.zero_add] at hstrlen hstrchr
  have hbuf : (text ++ 0 :: rest').length = (l ++ 0 :: rest).length := by
    simp only [List.length_append, List.length_cons]
    omega
  dsimp only
  split_ifs with hempty
  · refine .skipped hbuf ?_
    unfold splitLine
    simp [hcut, htrim, hstrlen, hempty]
  · by_cases hmem : 0x3d ∈ text
    · obtain ⟨key, value, rfl, hkey⟩ := List.eq_append_cons_of_mem hmem
      have hkey0 : 0 ∉ key := fun hm => h0 (List.mem_append_left _ hm)
      have hvalue0 : 0 ∉ value := fun hm =>
        h0 (List.mem_append_right _ (List.mem_cons_of_mem _ hm))
      rw [List.length_append, List.length_cons] at hlen hcovers
      obtain ⟨line₁, line₂, line₃, hstore, htrim₁, htrim₂, hlen₃, hread, hread'⟩ :=
        trimInPlace_parts rest' hkey0 hvalue0 (hcovers.mono le_rfl (by omega))
      rw [splitAt_append_cons hkey]
      rw [if_pos hmem, before_append_cons hkey] at hstrchr
      rw [List.append_assoc, List.cons_append] at hstrlen hstrchr htrim
      refine .assigned ?_ ?_ hread hread'
      · rw [hlen₃, List.length_append, List.length_cons]
        omega
      · unfold splitLine
        simp [hcut, htrim, hstrlen, hstrchr, hstore, htrim₁, htrim₂]
    · rw [if_neg hmem] at hstrchr
      have hnone : splitAt 0x3d text = none := by
        unfold splitAt
        rw [if_neg hmem]
      rw [hnone]
      refine .skipped hbuf ?_
      unfold splitLine
      simp [hcut, htrim, hstrlen, hstrchr]

end

/-! ## The loader -/

/-- The indices of the array `line`. -/
def lineArray : Window := ⟨0, 512⟩

/-- One turn of the loop of `config_load_from_file`, with the piece that `fgets` stores in the
array. -/
def applyLineInPlace (s : VpnConfig × Bytes) (piece : Bytes) : Option (VpnConfig × Bytes) := do
  let line ← lineArray.store s.2 0 (piece ++ [0])
  let (line, pointers) ← splitLine lineArray line
  match pointers with
  | none => return (s.1, line)
  | some (key, value) =>
      let key ← lineArray.readString line key
      let value ← lineArray.readString line value
      return (applyOption s.1 key value, line)

/-- `config_load_from_file`, with what the array holds at first. -/
def configLoadInPlace (config : VpnConfig) (line file : Bytes) : Option VpnConfig :=
  ((fgetsLines 512 [] file).foldlM applyLineInPlace (config, line)).map Prod.fst

/-- **One turn** in place does what it does to strings, whatever earlier turns have left in the
array. -/
theorem applyLineInPlace_eq (config : VpnConfig) {line piece : Bytes} (hline : line.length = 512)
    (hpiece : piece.length < 512) :
    ∃ line' : Bytes, line'.length = 512 ∧
      applyLineInPlace (config, line) piece = some (applyLine config piece, line') := by
  have hdata : (piece ++ [0]).length = piece.length + 1 := List.length_append
  have hstore : lineArray.store line 0 (piece ++ [0])
      = some (piece ++ 0 :: line.drop (piece.length + 1)) := by
    have happend : lineArray.store ([] ++ line) 0 (piece ++ [0])
        = some ([] ++ ((piece ++ [0]) ++ line.drop (piece ++ [0]).length)) :=
      Window.store_append [] ⟨Nat.zero_le _, by
        rw [hdata, List.length_nil, Nat.zero_add]
        exact hpiece⟩ (by omega)
    simpa using happend
  have hlen : (piece ++ 0 :: line.drop (piece.length + 1)).length = 512 := by
    rw [List.length_append, List.length_cons, List.length_drop]
    omega
  have hsplits := splitsInto_parseLine (w := lineArray) piece (line.drop (piece.length + 1))
    ⟨le_rfl, by show 0 + (piece.length + 1) ≤ 512; omega⟩
  unfold applyLineInPlace applyLine
  generalize parseLine piece = fields at hsplits
  cases hsplits with
  | skipped hlen' hsplit => exact ⟨_, hlen'.trans hlen, by simp [hstore, hsplit]⟩
  | assigned hlen' hsplit hkey hvalue =>
      exact ⟨_, hlen'.trans hlen, by simp [hstore, hsplit, hkey, hvalue]⟩

theorem foldlM_applyLineInPlace {pieces : List Bytes} (hpieces : ∀ l ∈ pieces, l.length < 512)
    (config : VpnConfig) {line : Bytes} (hline : line.length = 512) :
    ∃ line' : Bytes, pieces.foldlM applyLineInPlace (config, line)
      = some (run applyLine config pieces, line') := by
  induction pieces generalizing config line with
  | nil => exact ⟨line, rfl⟩
  | cons piece pieces ih =>
      obtain ⟨hpiece, hpieces⟩ := List.forall_mem_cons.mp hpieces
      obtain ⟨line₁, hline₁, hturn⟩ := applyLineInPlace_eq config hline hpiece
      obtain ⟨line', hrest⟩ := ih hpieces (applyLine config piece) hline₁
      refine ⟨line', ?_⟩
      rw [List.foldlM_cons, hturn]
      exact hrest

/-- **The loader works in place**: it never leaves its array, and it gives the configuration that
the model on strings gives, whatever the array holds at first. -/
theorem configLoad_inPlace (config : VpnConfig) {line : Bytes} (hline : line.length = 512)
    (file : Bytes) :
    configLoadInPlace config line file = some (configLoadFromFile config file) := by
  have hpieces : ∀ l ∈ fgetsLines 512 [] file, l.length < 512 :=
    length_lt_of_mem_fgetsLines (by simp)
  obtain ⟨line', hload⟩ := foldlM_applyLineInPlace hpieces config hline
  unfold configLoadInPlace configLoadFromFile
  rw [hload, Option.map_some]

end Vpn
