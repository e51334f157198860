/-
# The two allocators of 10.8.0.0/24

The backend takes the addresses of its VMs from 10.8.0.9 to 10.8.0.99, the VPN server those of
its clients from 10.8.0.2 to 10.8.0.255, and neither looks at the other's.  The model puts the
two programs side by side: a run is any interleaving of the steps of the backend's requests and
the operations on the client table.

`addresses_apart_iff` says in which runs no address is given out by both.  It is enough that the
server's counter does not enter the range of the backend.
-/
import CloudVpn.LiveSessions
import CloudVpn.VmConcurrency

open Effects Interleaving Memory Runs
open Vpn (ClientTable TableOp applyOp liveSessions offeredIp vpnIpHost maxClients)

namespace Cloud

/-! ## The two programs -/

/-- `inet_ntoa`: the bytes in the order in which they lie in memory. -/
def inetNtoa (addr : UInt32) : String :=
  String.intercalate "." ((le32 addr).map fun byte => toString byte.toNat)

/-- The backend with its requests, and the client table of the VPN server. -/
structure Site where
  service : Pool Backend Thread
  table : ClientTable

/-- A step of one of the two. -/
inductive SiteEvent where
  | service (event : Event Request)
  | vpn (op : TableOp)

/-- One step. -/
def siteStep (net : ℕ → Exchange) (config : ProxmoxConfig) (depth : ℕ) (s : Site) :
    SiteEvent → Site
  | .service event => { s with service := serverStep net config depth s.service event }
  | .vpn op => { s with table := applyOp s.table op }

/-- The addresses of the rows. -/
def Site.usedIps (s : Site) : List String := s.service.shared.db.findAllUsedInternalIps

/-- No row has the address of an active client. -/
def AddressesApart (s : Site) : Prop :=
  ∀ x ∈ liveSessions s.table, inetNtoa x.vpnIp ∉ s.usedIps

/-- A row that is saved has no client's address, and a client that is added has no row's. -/
def KeepsApart (s : Site) : SiteEvent → Prop
  | .service (.spawn _) => True
  | .service (.run i) =>
      ∀ t ∈ s.service.threads[i]?, ∀ internalIp ∈ t.saves,
        ∀ x ∈ liveSessions s.table, inetNtoa x.vpnIp ≠ internalIp
  | .vpn (.addClient addr _ _) =>
      s.table.count < maxClients → inetNtoa (offeredIp s.table addr) ∉ s.usedIps
  | .vpn _ => True

/-- A client that is new gets an address below 10.8.0.9 or above 10.8.0.99. -/
def OutsideVmRange (s : Site) : SiteEvent → Prop
  | .vpn (.addClient addr _ _) =>
      s.table.count < maxClients → Vpn.findClientByAddr s.table addr = none →
        vpnIpHost s.table < 0x0a080009 ∨ 0x0a080063 < vpnIpHost s.table
  | _ => True

instance (s : Site) (e : SiteEvent) : Decidable (OutsideVmRange s e) := by
  unfold OutsideVmRange
  split <;> infer_instance

/-! ## The ranges -/

theorem dotted_inj {j k : ℕ} : "10.8.0." ++ toString j = "10.8.0." ++ toString k ↔ j = k := by
  rw [String.append_right_inj]
  refine ⟨fun h => ?_, fun h => by rw [h]⟩
  have hdigits : Nat.toDigits 10 j = Nat.toDigits 10 k := String.ofList_inj.mp h
  have hj : Nat.ofDigitChars 10 (Nat.toDigits 10 j) 0 = j := Nat.ofDigitChars_ten_toDigits
  rw [hdigits, Nat.ofDigitChars_ten_toDigits] at hj
  exact hj.symm

/-- The last bytes of the addresses that the backend gives out. -/
theorem mem_candidateIps {k : ℕ} : "10.8.0." ++ toString k ∈ candidateIps ↔ 9 ≤ k ∧ k ≤ 99 := by
  unfold candidateIps
  simp only [List.mem_map, dotted_inj, exists_eq_right, List.mem_range'_1]
  omega

/-- The text of an address of the network. -/
theorem inetNtoa_htonl {h : UInt32} (hlo : 0x0a080000 ≤ h) (hhi : h ≤ 0x0a0800ff) :
    inetNtoa (htonl h) = "10.8.0." ++ toString (h.toNat - 0x0a080000) := by
  simp only [UInt32.le_iff_toNat_le, UInt32.reduceToNat] at hlo hhi
  unfold inetNtoa htonl
  rw [le32_ofLe32]
  have h₃ : (UInt8.ofNat (h.toNat / 16777216)).toNat = 10 := by
    rw [UInt8.toNat_ofNat']
    omega
  have h₂ : (UInt8.ofNat (h.toNat / 65536)).toNat = 8 := by
    rw [UInt8.toNat_ofNat']
    omega
  have h₁ : (UInt8.ofNat (h.toNat / 256)).toNat = 0 := by
    rw [UInt8.toNat_ofNat']
    omega
  have h₀ : (UInt8.ofNat h.toNat).toNat = h.toNat - 0x0a080000 := by
    rw [UInt8.toNat_ofNat']
    omega
  simp only [List.map_cons, List.map_nil, h₀, h₁, h₂, h₃]
  rfl

/-- An address outside the backend's range is none of its addresses. -/
theorem inetNtoa_notMem_candidateIps {h : UInt32} (hlo : 0x0a080002 ≤ h) (hhi : h ≤ 0x0a0800ff)
    (hout : h < 0x0a080009 ∨ 0x0a080063 < h) : inetNtoa (htonl h) ∉ candidateIps := by
  rw [inetNtoa_htonl (UInt32.le_trans (by decide) hlo) hhi, mem_candidateIps]
  simp only [UInt32.le_iff_toNat_le, UInt32.lt_iff_toNat_lt, UInt32.reduceToNat] at hlo hhi hout
  omega

/-! ## One step -/

section
variable {net : ℕ → Exchange} {config : ProxmoxConfig} {depth : ℕ} {s : Site}

theorem AddressesApart.of_subset {s' : Site} (hs : AddressesApart s)
    (hlive : liveSessions s'.table ⊆ liveSessions s.table) (hused : s'.usedIps ⊆ s.usedIps) :
    AddressesApart s' :=
  fun x hx hmem => hs x (hlive hx) (hused hmem)

/-- **One step of the backend.** -/
theorem apart_service_iff (hs : AddressesApart s) (e : Event Request) :
    AddressesApart (siteStep net config depth s (.service e)) ↔ KeepsApart s (.service e) := by
  have hout : AddressesStepped s.service e (serverStep net config depth s.service e) :=
    serverStep_addresses s.service e
  unfold siteStep
  dsimp only
  generalize serverStep net config depth s.service e = service at hout
  cases hout with
  | dropped hsaves hused _ =>
      refine ⟨fun _ => ?_, fun _ => hs.of_subset (fun _ hx => hx) hused.subset⟩
      cases e with
      | spawn request => trivial
      | run i => exact fun t ht ip hip => absurd hip (by simp [hsaves i rfl t ht])
  | chose hi hallocates _ _ hused _ =>
      refine ⟨fun _ t ht ip hip => ?_, fun _ =>
        hs.of_subset (fun _ hx => hx) (List.Perm.of_eq hused).subset⟩
      cases hi.symm.trans ht
      exact absurd hip (by simp [saves_of_allocates hallocates])
  | @saved i t internalIp _ hi hsaves hused _ =>
      unfold AddressesApart Site.usedIps
      dsimp only
      rw [hused]
      simp only [List.mem_cons, not_or]
      refine ⟨fun h t' ht' ip hip x hx => ?_, fun h x hx =>
        ⟨h t hi internalIp hsaves x hx, hs x hx⟩⟩
      cases hi.symm.trans ht'
      cases hsaves.symm.trans hip
      exact (h x hx).1

/-- **One operation of the VPN server.** -/
theorem apart_vpn_iff (hwf : s.table.Wf) (hs : AddressesApart s) (op : TableOp) :
    AddressesApart (siteStep net config depth s (.vpn op)) ↔ KeepsApart s (.vpn op) := by
  have hout := Vpn.applyOp_sessions hwf op
  unfold siteStep
  dsimp only
  generalize applyOp s.table op = table at hout
  cases hout with
  | refused hfull => exact ⟨fun _ hroom => absurd hfull hroom.ne, fun _ => hs⟩
  | added hroom hip hlive =>
      unfold AddressesApart KeepsApart
      dsimp only
      rw [hlive, ← hip]
      constructor
      · intro h _
        exact h _ (Set.mem_insert _ _)
      · rintro h x (rfl | hx)
        · exact h hroom
        · exact hs x hx
  | dropped hop hlive =>
      refine ⟨fun _ => ?_, fun _ => hs.of_subset hlive fun _ h => h⟩
      cases op with
      | addClient addr now rand => exact absurd rfl (hop addr now rand)
      | _ => trivial

theorem siteStep_wf (e : SiteEvent) (h : s.table.Wf) :
    (siteStep net config depth s e).table.Wf := by
  cases e with
  | service event => exact h
  | vpn op => exact Vpn.applyOp_wf s.table op h

/-! ## Two ranges -/

/-- The backend's addresses are all in its range, and the server's are all outside it. -/
structure Ranged (s : Site) : Prop where
  wf : s.table.Wf
  used : ∀ ip ∈ s.usedIps, ip ∈ candidateIps
  held : ∀ ip ∈ heldIps s.service.threads, ip ∈ candidateIps
  live : ∀ x ∈ liveSessions s.table, inetNtoa x.vpnIp ∉ candidateIps

theorem Ranged.apart (h : Ranged s) : AddressesApart s :=
  fun x hx hmem => h.live x hx (h.used _ hmem)

theorem Ranged.service (h : Ranged s) (e : Event Request) :
    Ranged (siteStep net config depth s (.service e)) := by
  have hout : AddressesStepped s.service e (serverStep net config depth s.service e) :=
    serverStep_addresses s.service e
  unfold siteStep
  dsimp only
  generalize serverStep net config depth s.service e = service at hout
  cases hout with
  | dropped _ hused hheld =>
      exact ⟨h.wf, fun ip hip => h.used ip (hused.subset hip),
        fun ip hip => h.held ip (hheld.subset hip), h.live⟩
  | chose _ _ hcandidate _ hused hheld =>
      refine ⟨h.wf, fun ip hip => h.used ip ((List.Perm.of_eq hused).subset hip),
        fun ip hip => ?_, h.live⟩
      rcases List.mem_cons.mp (hheld.subset hip) with rfl | hip
      · exact hcandidate
      · exact h.held ip hip
  | @saved i t internalIp _ _ _ hused hheld =>
      have hall : ∀ ip ∈ internalIp :: heldIps service.threads, ip ∈ candidateIps :=
        fun ip hip => h.held ip (hheld.mem_iff.mpr hip)
      obtain ⟨hnew, hrest⟩ := List.forall_mem_cons.mp hall
      refine ⟨h.wf, fun ip hip => ?_, hrest, h.live⟩
      rcases List.mem_cons.mp ((List.Perm.of_eq hused).subset hip) with rfl | hip
      · exact hnew
      · exact h.used ip hip

/-- What `add_client` gives out is outside the range: the address of a known peer is one that the
server has given out before. -/
theorem Ranged.offeredIp_notMem (h : Ranged s) (addr : Vpn.SockAddr)
    (hout : Vpn.findClientByAddr s.table addr = none →
      vpnIpHost s.table < 0x0a080009 ∨ 0x0a080063 < vpnIpHost s.table) :
    inetNtoa (offeredIp s.table addr) ∉ candidateIps := by
  cases hfind : Vpn.findClientByAddr s.table addr with
  | some c =>
      rw [Vpn.offeredIp_existing hfind]
      have hactive := (Vpn.findClientByAddr_eq_some.mp hfind).1.1
      have hlive := h.live _ (Vpn.session_mem_liveSessions hactive)
      exact hlive
  | none =>
      rw [Vpn.offeredIp_new hfind]
      have hpool := h.wf.vpnIpHost_mem
      exact inetNtoa_notMem_candidateIps hpool.1 hpool.2 (hout hfind)

theorem Ranged.vpn (h : Ranged s) {op : TableOp} (hout : OutsideVmRange s (.vpn op)) :
    Ranged (siteStep net config depth s (.vpn op)) := by
  refine ⟨siteStep_wf (.vpn op) h.wf, h.used, h.held, ?_⟩
  have hstep := Vpn.applyOp_sessions h.wf op
  unfold siteStep
  dsimp only
  generalize applyOp s.table op = table at hstep
  cases hstep with
  | refused _ => exact h.live
  | added hroom hip hlive =>
      rw [hlive]
      rintro x (rfl | hx)
      · rw [hip]
        exact h.offeredIp_notMem _ (hout hroom)
      · exact h.live x hx
  | dropped _ hlive => exact fun x hx => h.live x (hlive hx)

/-- **When the two allocators stay apart throughout a run**: it is enough that the server gives no
new client an address from 10.8.0.9 to 10.8.0.99.  They stay apart exactly if no row is saved with
a client's address and no client is added with a row's. -/
theorem addresses_apart_iff {b : Backend} (hempty : b.db.vms = []) (events : List SiteEvent) :
    (Along (siteStep net config depth) OutsideVmRange ⟨⟨b, []⟩, Vpn.initClientTable⟩ events →
        Throughout (siteStep net config depth) AddressesApart ⟨⟨b, []⟩, Vpn.initClientTable⟩
          events) ∧
      (Throughout (siteStep net config depth) AddressesApart ⟨⟨b, []⟩, Vpn.initClientTable⟩
          events ↔
        Along (siteStep net config depth) KeepsApart ⟨⟨b, []⟩, Vpn.initClientTable⟩ events) := by
  have hranged : Ranged ⟨⟨b, []⟩, Vpn.initClientTable⟩ := by
    refine ⟨Vpn.initClientTable_wf, fun ip hip => ?_, fun ip hip => absurd hip (by simp [heldIps]),
      fun x hx => ?_⟩
    · unfold Site.usedIps Database.findAllUsedInternalIps at hip
      dsimp only at hip
      rw [hempty] at hip
      exact absurd hip (by simp)
    · rw [Vpn.liveSessions_initClientTable] at hx
      exact absurd hx (by simp)
  constructor
  · refine Along.throughout (I := Ranged) (fun s hs => hs.apart) (fun s e hs he => ?_) hranged
    cases e with
    | service event => exact hs.service event
    | vpn op => exact hs.vpn he
  · refine throughout_iff_along_of_invariant (I := fun s => s.table.Wf) (P := AddressesApart)
      (fun s e hwf => siteStep_wf e hwf) (fun s e hwf hs => ?_) hranged.wf hranged.apart events
    cases e with
    | service event => exact apart_service_iff hs event
    | vpn op => exact apart_vpn_iff hwf hs op

end

/-! ## Samples -/

/-- A VM is created, and so many clients connect. -/
def vmAndClients (clients : ℕ) : List SiteEvent :=
  (.service (.spawn (.createVm plainRequest)) :: List.replicate 5 (.service (.run 0))) ++
    (List.range clients).map fun n => .vpn (.addClient ⟨1, UInt16.ofNat n⟩ 0 0)

/-- A VM and seven clients, with the addresses 10.8.0.2 to 10.8.0.8. -/
theorem addresses_apart_seven :
    Throughout (siteStep servingNet ⟨201⟩ 10) AddressesApart
      ⟨⟨startBackend sampleHost, []⟩, Vpn.initClientTable⟩ (vmAndClients 7) :=
  (addresses_apart_iff rfl (vmAndClients 7)).1 (by decide +kernel)

/-- **The eighth client gets the address of the VM.** -/
theorem eighth_client_gets_vmAddress :
    let s := run (siteStep servingNet ⟨201⟩ 10)
      ⟨⟨startBackend sampleHost, []⟩, Vpn.initClientTable⟩ (vmAndClients 8)
    s.usedIps = ["10.8.0.9"] ∧ (s.table.clients 7).active = true ∧
      inetNtoa (s.table.clients 7).vpnIp = "10.8.0.9" ∧ ¬ AddressesApart s := by
  intro s
  have hused : s.usedIps = ["10.8.0.9"] := by decide +kernel
  have hactive : (s.table.clients 7).active = true := by decide +kernel
  have hip : inetNtoa (s.table.clients 7).vpnIp = "10.8.0.9" := by decide +kernel
  refine ⟨hused, hactive, hip, fun h => h _ (Vpn.session_mem_liveSessions hactive) ?_⟩
  rw [hused]
  show inetNtoa (s.table.clients 7).vpnIp ∈ ["10.8.0.9"]
  rw [hip]
  exact List.mem_singleton_self _

end Cloud
