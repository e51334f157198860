/-
# The backend's configuration generator and the client's loader

`VpnController` writes the configuration file of a member by putting the student number into
a text, without looking at it.  `generateVpnConfig_loads_iff` says for which student numbers
the loader of `config.c` reads back what was meant; every other one is altered on the way,
and a line break in it lets it set options of its own.
-/
import CloudVpn.ConfigFile

open Memory Runs CStrings

namespace Vpn

/-! ## The generator -/

/-- The lines of the template in front of the name. -/
def configHead : String :=
  "# VPN Client Configuration\n# 서버 설정\nserver_address=3.36.128.179\n" ++
  "server_port=51820\n# 인증\n"

/-- The lines of the template behind the name. -/
def configTail : String :=
  "# 재연결 설정\nauto_reconnect=1\nmax_reconnect_attempts=10\n# Keep-alive 설정\n" ++
  "keepalive_interval=30\npong_timeout=60\n# 로그 레벨 (ERROR, WARN, INFO, DEBUG)\n" ++
  "log_level=INFO\n"

/-- `generateVpnConfig` of `VpnController`. -/
def generateVpnConfig (studentNumber : String) : String :=
  configHead ++ ("username=" ++ studentNumber ++ "\n") ++ configTail

/-- `@NotBlank` on a field of `SignupRequest`: some character is left after `trim()`. -/
def notBlank (s : String) : Bool := s.toList.any fun c => ' ' < c

/-- The configuration that a client with this file runs with. -/
def loadedConfig (memory : VpnConfig) (studentNumber : String) : VpnConfig :=
  configLoadFromFile (VpnConfig.createDefault memory) (utf8 (generateVpnConfig studentNumber))

/-- The loaded options are the student number and the values of the template. -/
structure LoadsAsGenerated (memory : VpnConfig) (studentNumber : String) : Prop where
  username : cString (loadedConfig memory studentNumber).username = some (utf8 studentNumber)
  serverAddress : cString (loadedConfig memory studentNumber).serverAddress
    = some (utf8 "3.36.128.179")
  serverPort : (loadedConfig memory studentNumber).serverPort = 51820
  autoReconnect : (loadedConfig memory studentNumber).autoReconnect = 1
  maxReconnectAttempts : (loadedConfig memory studentNumber).maxReconnectAttempts = 10
  keepaliveInterval : (loadedConfig memory studentNumber).keepaliveInterval = 30
  pongTimeout : (loadedConfig memory studentNumber).pongTimeout = 60
  logLevel : (loadedConfig memory studentNumber).logLevel = 2

/-! ## Reading the generated file -/

/-- The template in front of the name sets two options. -/
theorem options_configHead :
    (fgetsLines 512 [] (utf8 configHead)).filterMap parseLine
      = [(utf8 "server_address", utf8 "3.36.128.179"), (utf8 "server_port", utf8 "51820")] := by
  decide +kernel

/-- The template behind the name sets the others. -/
theorem options_configTail :
    (fgetsLines 512 [] (utf8 configTail)).filterMap parseLine
      = [(utf8 "auto_reconnect", utf8 "1"), (utf8 "max_reconnect_attempts", utf8 "10"),
        (utf8 "keepalive_interval", utf8 "30"), (utf8 "pong_timeout", utf8 "60"),
        (utf8 "log_level", utf8 "INFO")] := by
  decide +kernel

/-- The line with the name.  Trimming the line takes the white space behind the name, trimming
the value that in front of it. -/
theorem parseLine_username {name : Bytes} (h0 : 0 ∉ name) (hcomment : 0x23 ∉ name) :
    parseLine (utf8 "username=" ++ (name ++ [newline]))
      = some (utf8 "username", trim (name.rdropWhile isspace)) := by
  have hkey : utf8 "username=" = utf8 "username" ++ [0x3d] := by decide
  have hstart : ∀ rest : Bytes, (utf8 "username=" ++ rest).dropWhile isspace
      = utf8 "username=" ++ rest := fun _ => rfl
  have hline : ∀ c : UInt8, c ∉ utf8 "username=" → c ≠ newline → c ∉ name →
      c ∉ utf8 "username=" ++ (name ++ [newline]) := by
    intro c hc hn hname hmem
    simp only [List.mem_append, List.mem_singleton] at hmem
    tauto
  have htrim : trim (utf8 "username=" ++ (name ++ [newline]))
      = utf8 "username" ++ 0x3d :: name.rdropWhile isspace := by
    unfold trim
    rw [hstart, hkey, List.append_assoc, List.singleton_append,
      rdropWhile_append_cons (by decide), List.rdropWhile_concat_pos isspace name newline rfl]
  unfold parseLine
  rw [before_of_notMem (hline 0 (by decide) (by decide) h0),
    before_of_notMem (hline 0x23 (by decide) (by decide) hcomment), htrim]
  simp only [splitAt_append_cons (show 0x3d ∉ utf8 "username" by decide)]
  rfl

/-- The bytes of the generated file, cut at the end of the name. -/
theorem utf8_generateVpnConfig (s : String) :
    utf8 (generateVpnConfig s)
      = (utf8 configHead ++ (utf8 "username=" ++ utf8 s)) ++ newline :: utf8 configTail := by
  have hnl : utf8 "\n" = [newline] := by decide
  unfold generateVpnConfig
  simp only [utf8_append, hnl, List.append_assoc, List.singleton_append]

/-- The assignments in the file of a student number without line breaks. -/
theorem options_generateVpnConfig {s : String} (h0 : 0 ∉ utf8 s) (hcomment : 0x23 ∉ utf8 s)
    (hnewline : newline ∉ utf8 s) (hlen : (utf8 s).length ≤ 63) :
    (fgetsLines 512 [] (utf8 (generateVpnConfig s))).filterMap parseLine
      = [(utf8 "server_address", utf8 "3.36.128.179"), (utf8 "server_port", utf8 "51820"),
        (utf8 "username", trim ((utf8 s).rdropWhile isspace)),
        (utf8 "auto_reconnect", utf8 "1"), (utf8 "max_reconnect_attempts", utf8 "10"),
        (utf8 "keepalive_interval", utf8 "30"), (utf8 "pong_timeout", utf8 "60"),
        (utf8 "log_level", utf8 "INFO")] := by
  obtain ⟨front, hfront⟩ : ∃ front, utf8 configHead = front ++ [newline] :=
    ⟨(utf8 configHead).dropLast, by decide +kernel⟩
  have hname : newline ∉ utf8 "username=" ++ utf8 s := by
    intro h
    rcases List.mem_append.mp h with h | h
    · exact absurd h (by decide)
    · exact hnewline h
  have hshort : (utf8 "username=" ++ utf8 s).length ≤ 72 := by
    rw [List.length_append, show (utf8 "username=").length = 9 by decide]
    omega
  rw [utf8_generateVpnConfig, fgetsLines_split, List.append_assoc, hfront, List.append_assoc,
    List.singleton_append, fgetsLines_split, ← hfront,
    fgetsLines_append [] hname (by simp only [List.length_nil]; omega)]
  simp only [List.filterMap_append, options_configHead, options_configTail, List.nil_append,
    List.append_assoc, List.filterMap_cons_some (parseLine_username h0 hcomment)]
  rfl

/-- The options that are loaded from such a file. -/
theorem loadedConfig_eq (memory : VpnConfig) {s : String} (h0 : 0 ∉ utf8 s)
    (hcomment : 0x23 ∉ utf8 s) (hnewline : newline ∉ utf8 s) (hlen : (utf8 s).length ≤ 63) :
    loadedConfig memory s =
      { serverAddress := strncpy (strncpy memory.serverAddress (utf8 "127.0.0.1"))
          (utf8 "3.36.128.179")
        serverPort := 51820
        username := strncpy (strncpy memory.username (utf8 "vpn_user"))
          (trim ((utf8 s).rdropWhile isspace))
        autoReconnect := 1
        maxReconnectAttempts := 10
        keepaliveInterval := 30
        pongTimeout := 60
        logLevel := 2 } := by
  unfold loadedConfig configLoadFromFile
  rw [run_applyLine, options_generateVpnConfig h0 hcomment hnewline hlen]
  rfl

/-- The name that is read back from such a file. -/
theorem username_loadedConfig (memory : VpnConfig) {s : String} (h0 : 0 ∉ utf8 s)
    (hcomment : 0x23 ∉ utf8 s) (hnewline : newline ∉ utf8 s) (hlen : (utf8 s).length ≤ 63) :
    cString (loadedConfig memory s).username
      = if (trim ((utf8 s).rdropWhile isspace)).length < 63 ∨ memory.username.get 63 = 0
        then some (trim ((utf8 s).rdropWhile isspace)) else none := by
  have hsub : trim ((utf8 s).rdropWhile isspace) ⊆ utf8 s :=
    List.Subset.trans (trim_subset _) (List.rdropWhile_prefix isspace _).subset
  have hle : (trim ((utf8 s).rdropWhile isspace)).length ≤ 63 := by
    have hrdrop := (List.rdropWhile_prefix isspace (utf8 s)).length_le
    have htrim := length_trim_le ((utf8 s).rdropWhile isspace)
    omega
  rw [loadedConfig_eq memory h0 hcomment hnewline hlen,
    cString_strncpy (n := 63) _ (fun h => h0 (hsub h)), List.take_of_length_le hle,
    get_last_strncpy (n := 63)]
  rfl

/-! ## Which names come through -/

/-- A student number that comes through: one line without a comment sign, a NUL or white space
at its ends, and short enough for the array.  With 63 bytes the terminator is the byte that
`strncpy` does not write. -/
structure PlainName (memory : VpnConfig) (s : String) : Prop where
  zero : 0 ∉ utf8 s
  comment : 0x23 ∉ utf8 s
  newline : newline ∉ utf8 s
  trimmed : trim (utf8 s) = utf8 s
  length : (utf8 s).length < 63 ∨ (utf8 s).length = 63 ∧ memory.username.get 63 = 0

/-- **Which student numbers come through** to the client as they are, with the other options as
the template has them. -/
theorem generateVpnConfig_loads_iff (memory : VpnConfig) (s : String) :
    LoadsAsGenerated memory s ↔ PlainName memory s := by
  constructor
  · rintro ⟨husername, -⟩
    have h0 := zero_notMem_cString husername
    obtain ⟨hnewline, hcomment, hlen⟩ := loadableName_configLoadFromFile memory _ husername
    -- On one line, the name that is read back is the trimmed one.
    rw [username_loadedConfig memory h0 hcomment hnewline hlen] at husername
    split_ifs at husername with hroom
    have htrim := Option.some.inj husername
    rw [htrim] at hroom
    refine ⟨h0, hcomment, hnewline, trim_rdropWhile_eq_self.mp htrim, ?_⟩
    rcases Nat.lt_or_eq_of_le hlen with hlt | heq
    · exact Or.inl hlt
    · exact Or.inr ⟨heq, hroom.resolve_left (by omega)⟩
  · rintro ⟨h0, hcomment, hnewline, htrim, hlength⟩
    have hlen : (utf8 s).length ≤ 63 := by omega
    have hname := username_loadedConfig memory h0 hcomment hnewline hlen
    have hconfig := loadedConfig_eq memory h0 hcomment hnewline hlen
    rw [trim_rdropWhile_eq_self.mpr htrim, if_pos (hlength.imp id And.right)] at hname
    refine ⟨hname, ?_, ?_, ?_, ?_, ?_, ?_, ?_⟩
    · rw [hconfig, cString_strncpy (n := 255) _ (by decide), if_pos (Or.inl (by decide))]
      rfl
    all_goals rw [hconfig]

/-- **A line break in the student number** makes the client connect to a server of the
student's choice. -/
theorem studentNumber_sets_serverAddress :
    notBlank "20231234\nserver_address=6.6.6.6" = true ∧
      cString (loadedConfig zeroConfig "20231234\nserver_address=6.6.6.6").username
        = some (utf8 "20231234") ∧
      cString (loadedConfig zeroConfig "20231234\nserver_address=6.6.6.6").serverAddress
        = some (utf8 "6.6.6.6") := by
  decide +kernel

end Vpn
