/-
# The line grammar of the configuration file

What a configuration file means: lines of `key = value` with comments, of which the last
assignment of a key counts (`grammarLine`, `Settings.assign`).  The loader of `config.c` does
not read lines but what `fgets` puts into a buffer of 512 bytes, and it copies the strings into
arrays whose last byte it never writes.

`config_grammar_iff` says what remains of the grammar: if no line is longer than 511 bytes, the
loader implements it for the files whose strings leave a zero in their arrays or find one in the
last byte.
-/
import CloudVpn.ConfigFile

open Memory Runs CStrings

namespace Vpn

/-! ## The grammar -/

/-- The options as a configuration file gives them, with strings instead of arrays. -/
structure Settings where
  serverAddress : Bytes
  serverPort : UInt16
  username : Bytes
  autoReconnect : ℤ
  maxReconnectAttempts : ℤ
  keepaliveInterval : ℤ
  pongTimeout : ℤ
  logLevel : ℤ
  deriving DecidableEq

/-- The options without a file. -/
def Settings.initial : Settings where
  serverAddress := utf8 "127.0.0.1"
  serverPort := 51820
  username := utf8 "vpn_user"
  autoReconnect := 1
  maxReconnectAttempts := 10
  keepaliveInterval := 30
  pongTimeout := 60
  logLevel := 2

/-- One assignment.  A string is cut to the size of its array less one. -/
def Settings.assign (settings : Settings) (key value : Bytes) : Settings :=
  if key = utf8 "server_address" then { settings with serverAddress := value.take 255 }
  else if key = utf8 "server_port" then { settings with serverPort := UInt16.ofInt (atoi value) }
  else if key = utf8 "username" then { settings with username := value.take 63 }
  else if key = utf8 "auto_reconnect" then { settings with autoReconnect := atoi value }
  else if key = utf8 "max_reconnect_attempts" then
    { settings with maxReconnectAttempts := atoi value }
  else if key = utf8 "keepalive_interval" then { settings with keepaliveInterval := atoi value }
  else if key = utf8 "pong_timeout" then { settings with pongTimeout := atoi value }
  else if key = utf8 "log_level" then { settings with logLevel := parseLogLevel value }
  else settings

/-- The assignment on a line: what lies in front of `#`, split at the first `=`. -/
def grammarLine (line : Bytes) : Option (Bytes × Bytes) :=
  let text := trim (line.takeWhile (· ≠ 0x23))
  if text = [] ∨ 0x3d ∉ text then none
  else some (trim (text.takeWhile (· ≠ 0x3d)), trim (text.dropWhile (· ≠ 0x3d)).tail)

/-- The options after some lines. -/
def settingsOf (lines : List Bytes) : Settings :=
  run (fun settings (key, value) => settings.assign key value) Settings.initial
    (lines.filterMap grammarLine)

/-- **The meaning of a configuration file.** -/
def loadByGrammar (file : Bytes) : Settings := settingsOf (file.splitOn newline)

/-- The same for the pieces of the file that `fgets` returns. -/
def loadByPieces (file : Bytes) : Settings := settingsOf (fgetsLines 512 [] file)

/-- The configuration has the settings, its arrays being read as strings. -/
structure ReadsAs (config : VpnConfig) (settings : Settings) : Prop where
  serverAddress : cString config.serverAddress = some settings.serverAddress
  serverPort : config.serverPort = settings.serverPort
  username : cString config.username = some settings.username
  autoReconnect : config.autoReconnect = settings.autoReconnect
  maxReconnectAttempts : config.maxReconnectAttempts = settings.maxReconnectAttempts
  keepaliveInterval : config.keepaliveInterval = settings.keepaliveInterval
  pongTimeout : config.pongTimeout = settings.pongTimeout
  logLevel : config.logLevel = settings.logLevel

/-- In a block of memory with these contents the strings end within their arrays. -/
def Terminated (memory : VpnConfig) (settings : Settings) : Prop :=
  (settings.serverAddress.length < 255 ∨ memory.serverAddress.get (Fin.last 255) = 0) ∧
    (settings.username.length < 63 ∨ memory.username.get (Fin.last 63) = 0)

/-! ## Lines -/

/-- The loader parses a line as the grammar says. -/
theorem parseLine_eq_grammarLine {line : Bytes} (h : 0 ∉ line) :
    parseLine line = grammarLine line := by
  unfold parseLine grammarLine
  dsimp only
  rw [before_of_notMem h, splitAt_eq]
  unfold before
  by_cases hempty : trim (line.takeWhile (· ≠ 0x23)) = []
  · rw [if_pos (List.length_eq_zero_iff.mpr hempty), if_pos (Or.inl hempty)]
  · rw [if_neg (mt List.length_eq_zero_iff.mp hempty)]
    by_cases heq : 0x3d ∈ trim (line.takeWhile (· ≠ 0x23))
    · rw [if_pos heq, if_neg (by tauto)]
      rfl
    · rw [if_neg heq, if_pos (Or.inr heq)]
      rfl

/-- The newline at the end of a line makes no difference. -/
theorem grammarLine_newline (line : Bytes) : grammarLine (line ++ [newline]) = grammarLine line := by
  have htext : trim ((line ++ [newline]).takeWhile (· ≠ 0x23))
      = trim (line.takeWhile (· ≠ 0x23)) := by
    by_cases hcomment : 0x23 ∈ line
    · obtain ⟨front, rest, rfl, hfront⟩ := List.eq_append_cons_of_mem hcomment
      have hcut := before_append_cons hfront
      unfold before at hcut
      rw [List.append_assoc, List.cons_append, hcut, hcut]
    · have hline := before_of_notMem hcomment
      have hline' := before_of_notMem (c := 0x23) (b := line ++ [newline])
        (by simpa [hcomment] using (by decide : (0x23 : UInt8) ≠ newline))
      unfold before at hline hline'
      rw [hline, hline', trim_append_space line (by decide)]
  unfold grammarLine
  rw [htext]

/-- If every line is shorter than the buffer, the pieces mean what the lines mean. -/
theorem loadByPieces_eq_loadByGrammar {file : Bytes}
    (hfit : ∀ line ∈ file.splitOn newline, line.length < 512) :
    loadByPieces file = loadByGrammar file := by
  unfold loadByPieces loadByGrammar settingsOf
  rw [filterMap_fgetsLines grammarLine_newline (by decide) (by decide) hfit]

/-! ## Options -/

/-- An array of `n + 1` bytes with the given last byte holds a string of at most `n` bytes. -/
def Held {n : ℕ} (last : UInt8) (field : Vector UInt8 (n + 1)) (value : Bytes) : Prop :=
  field.get (Fin.last n) = last ∧
    cString field = if value.length < n ∨ last = 0 then some value else none

theorem held_strncpy {n : ℕ} (field : Vector UInt8 (n + 1)) {value : Bytes} (h : 0 ∉ value) :
    Held (field.get (Fin.last n)) (strncpy field value) (value.take n) := by
  refine ⟨get_last_strncpy field value, ?_⟩
  have hlen : (value.take n).length < n ↔ value.length < n := by
    rw [List.length_take]
    omega
  simp only [cString_strncpy field h, hlen]

/-- What the next assignment leaves of the array. -/
theorem Held.strncpy {n : ℕ} {last : UInt8} {field : Vector UInt8 (n + 1)} {old value : Bytes}
    (hfield : Held last field old) (h : 0 ∉ value) :
    Held last (strncpy field value) (value.take n) := by
  have hheld := held_strncpy field h
  rwa [hfield.1] at hheld

theorem Held.cString_eq_some_iff {n : ℕ} {last : UInt8} {field : Vector UInt8 (n + 1)}
    {value value' : Bytes} (hfield : Held last field value) :
    cString field = some value' ↔ (value.length < n ∨ last = 0) ∧ value = value' := by
  rw [hfield.2]
  split_ifs with hends
  · simp [hends]
  · simp [hends]

/-- A configuration in a block of memory holds the settings. -/
structure HeldIn (memory config : VpnConfig) (settings : Settings) : Prop where
  serverAddress : Held (memory.serverAddress.get (Fin.last 255)) config.serverAddress
    settings.serverAddress
  serverPort : config.serverPort = settings.serverPort
  username : Held (memory.username.get (Fin.last 63)) config.username settings.username
  autoReconnect : config.autoReconnect = settings.autoReconnect
  maxReconnectAttempts : config.maxReconnectAttempts = settings.maxReconnectAttempts
  keepaliveInterval : config.keepaliveInterval = settings.keepaliveInterval
  pongTimeout : config.pongTimeout = settings.pongTimeout
  logLevel : config.logLevel = settings.logLevel

section
variable {memory config : VpnConfig} {settings : Settings}

theorem heldIn_createDefault (memory : VpnConfig) :
    HeldIn memory (VpnConfig.createDefault memory) Settings.initial where
  serverAddress := held_strncpy (n := 255) memory.serverAddress (by decide)
  serverPort := rfl
  username := held_strncpy (n := 63) memory.username (by decide)
  autoReconnect := rfl
  maxReconnectAttempts := rfl
  keepaliveInterval := rfl
  pongTimeout := rfl
  logLevel := rfl

/-- One comparison, made on both sides. -/
theorem HeldIn.ite {p : Prop} [Decidable p] {config' : VpnConfig} {settings' : Settings}
    (hpos : HeldIn memory config settings) (hneg : HeldIn memory config' settings') :
    HeldIn memory (if p then config else config') (if p then settings else settings') := by
  by_cases hp : p
  · rw [if_pos hp, if_pos hp]
    exact hpos
  · rw [if_neg hp, if_neg hp]
    exact hneg

/-- The chain of comparisons of the loader makes the assignment. -/
theorem HeldIn.assign (h : HeldIn memory config settings) {key value : Bytes}
    (hvalue : 0 ∉ value) :
    HeldIn memory (applyOption config key value) (settings.assign key value) := by
  obtain ⟨haddress, hport, hname, hauto, hmax, hkeep, hpong, hlog⟩ := h
  unfold applyOption Settings.assign
  refine .ite ?_ (.ite ?_ (.ite ?_ (.ite ?_ (.ite ?_ (.ite ?_ (.ite ?_ (.ite ?_ ?_)))))))
  · exact ⟨Held.strncpy (n := 255) haddress hvalue, hport, hname, hauto, hmax, hkeep, hpong, hlog⟩
  · exact ⟨haddress, rfl, hname, hauto, hmax, hkeep, hpong, hlog⟩
  · exact ⟨haddress, hport, Held.strncpy (n := 63) hname hvalue, hauto, hmax, hkeep, hpong, hlog⟩
  · exact ⟨haddress, hport, hname, rfl, hmax, hkeep, hpong, hlog⟩
  · exact ⟨haddress, hport, hname, hauto, rfl, hkeep, hpong, hlog⟩
  · exact ⟨haddress, hport, hname, hauto, hmax, rfl, hpong, hlog⟩
  · exact ⟨haddress, hport, hname, hauto, hmax, hkeep, rfl, hlog⟩
  · exact ⟨haddress, hport, hname, hauto, hmax, hkeep, hpong, rfl⟩
  · exact ⟨haddress, hport, hname, hauto, hmax, hkeep, hpong, hlog⟩

theorem HeldIn.applyOptions (h : HeldIn memory config settings) {options : List (Bytes × Bytes)}
    (hoptions : ∀ option ∈ options, 0 ∉ option.2) :
    HeldIn memory (applyOptions config options)
      (run (fun settings (key, value) => settings.assign key value) settings options) := by
  induction options generalizing config settings with
  | nil => exact h
  | cons option options ih =>
      exact ih (h.assign (hoptions option List.mem_cons_self))
        fun o ho => hoptions o (List.mem_cons_of_mem option ho)

/-- What can be read back are the settings that are held, if their strings end. -/
theorem HeldIn.readsAs_iff (h : HeldIn memory config settings) (settings' : Settings) :
    ReadsAs config settings' ↔ Terminated memory settings ∧ settings = settings' := by
  constructor
  · intro hread
    obtain ⟨hends, haddress⟩ := h.serverAddress.cString_eq_some_iff.mp hread.serverAddress
    obtain ⟨hends', hname⟩ := h.username.cString_eq_some_iff.mp hread.username
    refine ⟨⟨hends, hends'⟩, ?_⟩
    cases settings
    cases settings'
    simp only [Settings.mk.injEq]
    exact ⟨haddress, h.serverPort.symm.trans hread.serverPort, hname,
      h.autoReconnect.symm.trans hread.autoReconnect,
      h.maxReconnectAttempts.symm.trans hread.maxReconnectAttempts,
      h.keepaliveInterval.symm.trans hread.keepaliveInterval,
      h.pongTimeout.symm.trans hread.pongTimeout, h.logLevel.symm.trans hread.logLevel⟩
  · rintro ⟨⟨hends, hends'⟩, rfl⟩
    exact { h with
      serverAddress := h.serverAddress.cString_eq_some_iff.mpr ⟨hends, rfl⟩
      username := h.username.cString_eq_some_iff.mpr ⟨hends', rfl⟩ }

end

/-! ## Files -/

/-- **The loader applies the grammar to the pieces.** -/
theorem heldIn_configLoadFromFile (memory : VpnConfig) {file : Bytes} (hfile : 0 ∉ file) :
    HeldIn memory (configLoadFromFile (VpnConfig.createDefault memory) file)
      (loadByPieces file) := by
  have hpieces : ∀ line ∈ fgetsLines 512 [] file, 0 ∉ line := fun line hline h0 =>
    hfile (subset_of_mem_fgetsLines line hline h0)
  have hparse : (fgetsLines 512 [] file).filterMap parseLine
      = (fgetsLines 512 [] file).filterMap grammarLine :=
    List.filterMap_congr fun line hline => parseLine_eq_grammarLine (hpieces line hline)
  unfold configLoadFromFile loadByPieces settingsOf
  rw [run_applyLine, ← hparse]
  refine (heldIn_createDefault memory).applyOptions fun option hoption => ?_
  obtain ⟨line, hline, hoption⟩ := List.mem_filterMap.mp hoption
  exact (parseLine_value (newline_notMem_dropLast List.not_mem_nil line hline) hoption).1

/-- **The loader and the grammar.**  For a file without NUL and without a line of more than 511
bytes, the loaded configuration reads as the grammar says exactly if the strings that the grammar
gives end within their arrays. -/
theorem config_grammar_iff (memory : VpnConfig) {file : Bytes} (hfile : 0 ∉ file)
    (hlines : ∀ line ∈ file.splitOn newline, line.length ≤ 511) :
    ReadsAs (configLoadFromFile (VpnConfig.createDefault memory) file) (loadByGrammar file) ↔
      Terminated memory (loadByGrammar file) := by
  have hheld := heldIn_configLoadFromFile memory hfile
  rw [loadByPieces_eq_loadByGrammar fun line hline => Nat.lt_succ_of_le (hlines line hline)]
    at hheld
  rw [hheld.readsAs_iff]
  exact ⟨fun h => h.1, fun h => ⟨h, rfl⟩⟩

/-- A file with a comment and an assignment that is made twice, in memory without zeros. -/
theorem config_grammar_twice :
    let file := utf8 "username = a # first\nusername=b"
    let memory := { zeroConfig with
      serverAddress := Vector.replicate 256 1
      username := Vector.replicate 64 1 }
    ReadsAs (configLoadFromFile (VpnConfig.createDefault memory) file) (loadByGrammar file) ∧
      (loadByGrammar file).username = utf8 "b" := by
  intro file memory
  exact ⟨(config_grammar_iff memory (by decide) (by decide +kernel)).mpr
    ⟨by decide +kernel, by decide +kernel⟩, by decide +kernel⟩

/-- A longer line can be harmless: the rest of this comment assigns what the default is. -/
example :
    let file := utf8 "#" ++ (List.replicate 510 0x78 ++ utf8 "server_address=127.0.0.1")
    loadByPieces file = loadByGrammar file := by decide +kernel

/-- A comment of 511 bytes with an assignment behind it. -/
def longComment : Bytes :=
  utf8 "#" ++ (List.replicate 510 0x78 ++ utf8 "server_address=6.6.6.6")

/-- A name of 63 bytes. -/
def longName : Bytes := utf8 "username=" ++ List.replicate 63 0x78

/-- The end of a long comment is read as a line of its own; and a name that fills its array is
not terminated, if the last byte of the array holds something else than zero. -/
theorem long_comment_is_read :
    (0 ∉ longComment ∧ (loadByGrammar longComment).serverAddress = utf8 "127.0.0.1" ∧
      cString (configLoadFromFile (VpnConfig.createDefault zeroConfig) longComment).serverAddress
        = some (utf8 "6.6.6.6")) ∧
    let memory := { zeroConfig with username := Vector.replicate 64 1 }
    0 ∉ longName ∧ (loadByGrammar longName).username = List.replicate 63 0x78 ∧
      cString (configLoadFromFile (VpnConfig.createDefault memory) longName).username = none := by
  refine ⟨⟨by decide +kernel, by decide +kernel, by decide +kernel⟩, by decide +kernel,
    by decide +kernel, by decide +kernel⟩

end Vpn
