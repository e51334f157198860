/-
# The configuration file

Model of `config.c`: the options of the client, their defaults, and the loader for files of
`key = value` lines.  The block that `config_create_default` fills comes from `malloc`, so
what it held before is an argument; of the two arrays the last byte keeps that value.

The loader is modelled on strings here; that it works in place in one array is the matter of
`ConfigInPlace`.
-/
import CloudVpn.CStrings
import CloudVpn.Client
import CloudVpn.Runs

open Memory Runs CStrings

namespace Vpn

/-! ## Options -/

/-- `vpn_config_t`. -/
structure VpnConfig where
  serverAddress : Vector UInt8 256
  serverPort : UInt16
  username : Vector UInt8 64
  autoReconnect : ℤ
  maxReconnectAttempts : ℤ
  keepaliveInterval : ℤ
  pongTimeout : ℤ
  logLevel : ℤ
  deriving DecidableEq

/-- `config_create_default`, in a block of memory with the given contents. -/
def VpnConfig.createDefault (memory : VpnConfig) : VpnConfig where
  serverAddress := strncpy memory.serverAddress (utf8 "127.0.0.1")
  serverPort := 51820
  username := strncpy memory.username (utf8 "vpn_user")
  autoReconnect := 1
  maxReconnectAttempts := 10
  keepaliveInterval := 30
  pongTimeout := 60
  logLevel := 2

/-- A block of memory that holds zeros. -/
def zeroConfig : VpnConfig := ⟨Vector.replicate 256 0, 0, Vector.replicate 64 0, 0, 0, 0, 0, 0⟩

/-- The options that the keepalive reads. -/
def VpnConfig.clientConfig (config : VpnConfig) : ClientConfig :=
  ⟨config.keepaliveInterval, config.pongTimeout⟩

theorem clientConfig_createDefault (memory : VpnConfig) :
    (VpnConfig.createDefault memory).clientConfig = configCreateDefault := rfl

/-! ## The loader -/

/-- The value of `log_level`. -/
def parseLogLevel (value : Bytes) : ℤ :=
  if value = utf8 "ERROR" then 0
  else if value = utf8 "WARN" then 1
  else if value = utf8 "INFO" then 2
  else if value = utf8 "DEBUG" then 3
  else atoi value

/-- The chain of comparisons that applies one option; an unknown key changes nothing. -/
def applyOption (config : VpnConfig) (key value : Bytes) : VpnConfig :=
  if key = utf8 "server_address" then
    { config with serverAddress := strncpy config.serverAddress value }
  else if key = utf8 "server_port" then
    { config with serverPort := UInt16.ofInt (atoi value) }
  else if key = utf8 "username" then
    { config with username := strncpy config.username value }
  else if key = utf8 "auto_reconnect" then { config with autoReconnect := atoi value }
  else if key = utf8 "max_reconnect_attempts" then
    { config with maxReconnectAttempts := atoi value }
  else if key = utf8 "keepalive_interval" then { config with keepaliveInterval := atoi value }
  else if key = utf8 "pong_timeout" then { config with pongTimeout := atoi value }
  else if key = utf8 "log_level" then { config with logLevel := parseLogLevel value }
  else config

/-- The key and the value on a line: the comment is cut off, the rest split at the first
`=`, and both parts are trimmed. -/
def parseLine (line : Bytes) : Option (Bytes × Bytes) :=
  let line := trim (before 0x23 (before 0 line))
  if line.length = 0 then none
  else (splitAt 0x3d line).map fun (key, value) => (trim key, trim value)

/-- One turn of the loop of `config_load_from_file`. -/
def applyLine (config : VpnConfig) (line : Bytes) : VpnConfig :=
  match parseLine line with
  | none => config
  | some (key, value) => applyOption config key value

/-- `config_load_from_file`, with the contents of the file. -/
def configLoadFromFile (config : VpnConfig) (file : Bytes) : VpnConfig :=
  run applyLine config (fgetsLines 512 [] file)

/-- The assignments on some lines, one after the other. -/
def applyOptions (config : VpnConfig) (options : List (Bytes × Bytes)) : VpnConfig :=
  run (fun config (key, value) => applyOption config key value) config options

/-- Lines without an assignment are skipped. -/
theorem run_applyLine (config : VpnConfig) (lines : List Bytes) :
    run applyLine config lines = applyOptions config (lines.filterMap parseLine) := by
  induction lines generalizing config with
  | nil => rfl
  | cons line lines ih =>
      rw [run_cons, ih, applyLine]
      cases hparse : parseLine line with
      | none => rw [List.filterMap_cons_none hparse]
      | some option => rw [List.filterMap_cons_some hparse]; rfl

/-! ## What a line can do to the name -/

/-- A name that the loader can leave in the configuration. -/
structure LoadableName (u : Bytes) : Prop where
  newline : newline ∉ u
  comment : 0x23 ∉ u
  length : u.length ≤ 63

/-- A value has no NUL, no comment and no line break. -/
theorem parseLine_value {line key value : Bytes} (hline : newline ∉ line.dropLast)
    (h : parseLine line = some (key, value)) :
    0 ∉ value ∧ 0x23 ∉ value ∧ newline ∉ value := by
  unfold parseLine at h
  dsimp only at h
  split_ifs at h
  obtain ⟨⟨k, v⟩, hsplit, heq⟩ := Option.map_eq_some_iff.mp h
  obtain ⟨-, rfl⟩ := Prod.mk.inj heq
  have hprefix : before 0x23 (before 0 line) <+: line :=
    (before_isPrefix _ _).trans (before_isPrefix _ _)
  have hsub : trim v ⊆ trim (before 0x23 (before 0 line)) :=
    List.Subset.trans (trim_subset v) (subset_of_splitAt hsplit)
  have hcut : trim (before 0x23 (before 0 line)) ⊆ before 0x23 (before 0 line) :=
    trim_subset _
  refine ⟨fun h0 => ?_, fun h0 => ?_, fun h0 => ?_⟩
  · exact notMem_before 0 line ((before_isPrefix _ _).subset (hcut (hsub h0)))
  · exact notMem_before 0x23 _ (hcut (hsub h0))
  · exact newline_notMem_trim (notMem_dropLast_of_isPrefix hprefix hline) (hsub h0)

/-- Only a line with the key `username` changes the name. -/
theorem username_applyOption (config : VpnConfig) (key value : Bytes) :
    (applyOption config key value).username = config.username ∨
      (applyOption config key value).username = strncpy config.username value := by
  -- Every branch of the chain leaves the name alone, apart from the one of its own key.
  have hite : ∀ {p : Prop} [Decidable p] {config₁ config₂ : VpnConfig},
      (config₁.username = config.username ∨
        config₁.username = strncpy config.username value) →
      (config₂.username = config.username ∨
        config₂.username = strncpy config.username value) →
      (if p then config₁ else config₂).username = config.username ∨
        (if p then config₁ else config₂).username = strncpy config.username value :=
    fun h₁ h₂ => iteInduction (motive := fun c : VpnConfig =>
      c.username = config.username ∨ c.username = strncpy config.username value)
      (fun _ => h₁) fun _ => h₂
  unfold applyOption
  refine hite ?_ (hite ?_ (hite ?_ (hite ?_ (hite ?_ (hite ?_ (hite ?_ (hite ?_ ?_)))))))
  · exact Or.inl rfl
  · exact Or.inl rfl
  · exact Or.inr rfl
  all_goals exact Or.inl rfl

/-- A name that `strncpy` has copied, if it can be read back at all. -/
theorem loadableName_strncpy {field : Vector UInt8 64} {value u : Bytes} (h0 : 0 ∉ value)
    (hcomment : 0x23 ∉ value) (hnewline : newline ∉ value)
    (h : cString (strncpy field value) = some u) : LoadableName u := by
  rw [cString_strncpy (n := 63) field h0] at h
  split_ifs at h
  rw [← Option.some.inj h]
  refine ⟨fun hm => hnewline (List.mem_of_mem_take hm),
    fun hm => hcomment (List.mem_of_mem_take hm), ?_⟩
  rw [List.length_take]
  omega

/-- A line that assigns the name puts a loadable one. -/
theorem loadableName_applyLine {config : VpnConfig} {line : Bytes}
    (hline : newline ∉ line.dropLast)
    (h : ∀ u, cString config.username = some u → LoadableName u) :
    ∀ u, cString (applyLine config line).username = some u → LoadableName u := by
  intro u hu
  unfold applyLine at hu
  cases hparse : parseLine line with
  | none =>
      rw [hparse] at hu
      exact h u hu
  | some option =>
      obtain ⟨h0, hcomment, hnewline⟩ := parseLine_value hline hparse
      rw [hparse] at hu
      dsimp only at hu
      rcases username_applyOption config option.1 option.2 with heq | heq
      · rw [heq] at hu
        exact h u hu
      · rw [heq] at hu
        exact loadableName_strncpy h0 hcomment hnewline hu

/-- **Whatever the file holds**, the name that it leaves is loadable. -/
theorem loadableName_configLoadFromFile (memory : VpnConfig) (file : Bytes) {u : Bytes}
    (h : cString (configLoadFromFile (VpnConfig.createDefault memory) file).username
      = some u) : LoadableName u := by
  have hlines : ∀ l ∈ fgetsLines 512 [] file, newline ∉ l.dropLast :=
    newline_notMem_dropLast List.not_mem_nil
  have hdefault : ∀ u, cString (VpnConfig.createDefault memory).username = some u →
      LoadableName u :=
    fun u hu => loadableName_strncpy (by decide) (by decide) (by decide) hu
  have hrun := run_invariant_of_forall applyLine
    (I := fun config => ∀ u, cString config.username = some u → LoadableName u)
    (fun _ _ hline hconfig => loadableName_applyLine hline hconfig) hdefault hlines
  exact hrun u h

end Vpn
