/-
# What `createVm` records about a VM

`createVm` saves the spec of the request and the address it has chosen, whatever has become of
the calls of step 6, which are to give the VM this spec and this address.  Moreover the disk is
only resized if it is to be larger than the template's, and the address is only configured
along with an SSH key.

`recordsMatch_iff` says when the record is right: the clone has not failed, the requests of step 6
are answered, the disk is to have at least the template's 20 GB, and there is an SSH key.
-/
import CloudVpn.VmService

open Effects

namespace Cloud

/-- The row of the VM that the response names describes the VM on the host. -/
def RecordsMatch (b : Backend) (response : VmCreateResponse) : Prop :=
  ∃ row ∈ b.db.findById response.vmId, ∃ vm ∈ (vmsOf b).lookup row.proxmoxVmId,
    row.vmSpec = some ⟨vm.cores, vm.memory, vm.diskGb⟩ ∧
      vm.ipconfig0 = some (ipConfig row.internalIp)

instance (b : Backend) (response : VmCreateResponse) : Decidable (RecordsMatch b response) := by
  unfold RecordsMatch
  infer_instance

/-- The SSH key of the request, empty if there is none. -/
def CreateRequest.sshKey (request : CreateRequest) : String := request.sshPublicKey.getD ""

/-- A VM after step 6. -/
def configured (request : CreateRequest) (internalIp : String) (vm : Vm) : Vm where
  name := vm.name
  cores := request.cpuCores
  memory := request.memoryMb
  diskGb := if request.diskGb > 20 then request.diskGb else vm.diskGb
  ipconfig0 := if request.sshKey = "" then vm.ipconfig0 else some (ipConfig internalIp)
  status := vm.status
  cloned := vm.cloned

/-- How many requests there are in step 6. -/
def CreateRequest.configureRequests (request : CreateRequest) : ℕ :=
  1 + ((if request.diskGb > 20 then 1 else 0) + if request.sshKey = "" then 0 else 1)

/-- The task of the clone does not fail, and the requests of step 6 are answered. -/
def StepSixAnswered (net : ℕ → Exchange) (config : ProxmoxConfig) (depth : ℕ)
    (request : CreateRequest) (b : Backend) : Prop :=
  let n := cloneRequest net config depth request b
  (net n).taskFails = false ∧
    ∀ k < request.configureRequests, (net (n + 1 + clonePolls net n + k)).answered = true

instance (net : ℕ → Exchange) (config : ProxmoxConfig) (depth : ℕ) (request : CreateRequest)
    (b : Backend) : Decidable (StepSixAnswered net config depth request b) :=
  inferInstanceAs (Decidable (_ ∧ _))

/-! ## The calls of step 6 -/

section
variable {net : ℕ → Exchange} {config : ProxmoxConfig} {request : CreateRequest} {newVmId : ℕ}
  {internalIp : String} {b b' : Backend}

/-- A change that returns, seen in the VM it is about. -/
theorem api_changeVm_ok {edit : Vm → Option Vm} {u : Unit}
    (h : (api (changeVm net newVmId edit)).run b = .ok u b') :
    ∃ vm vm', (vmsOf b).lookup newVmId = some vm ∧ edit vm = some vm' ∧
      (vmsOf b').lookup newVmId = some vm' := by
  obtain ⟨s, hrun, rfl⟩ := zoom_eq_ok.mp h
  obtain ⟨vm, vm', hlookup, hedit, hstore⟩ := changeVm_ok hrun
  refine ⟨vm, vm', hlookup, hedit, ?_⟩
  show (storeOf s).lookup newVmId = some vm'
  rw [hstore, AList.lookup_insert]

/-- A change that throws. -/
theorem api_changeVm_error (hlost : ∀ n, (net n).reply ≠ .lost) {edit : Vm → Option Vm}
    {e : ServiceError} (h : (api (changeVm net newVmId edit)).run b = .error e b') :
    vmsOf b' = vmsOf b := by
  obtain ⟨e', s, hrun, -, rfl⟩ := zoom_eq_error.mp h
  exact changeVm_error hlost hrun

theorem configureDisk_ok {u : Unit} (h : (configureDisk net request newVmId).run b = .ok u b')
    {vm : Vm} (hvm : (vmsOf b).lookup newVmId = some vm) :
    (vmsOf b').lookup newVmId
      = some { vm with diskGb := if request.diskGb > 20 then request.diskGb else vm.diskGb } := by
  unfold configureDisk at h
  split_ifs at h ⊢
  · obtain ⟨vm₁, vm', hlookup, hedit, hlookup'⟩ := api_changeVm_ok h
    rw [hvm] at hlookup
    cases hlookup
    split_ifs at hedit
    rw [hlookup', ← hedit]
  · cases h
    exact hvm

theorem configureDisk_error (hlost : ∀ n, (net n).reply ≠ .lost) {e : ServiceError}
    (h : (configureDisk net request newVmId).run b = .error e b') : vmsOf b' = vmsOf b := by
  unfold configureDisk at h
  split_ifs at h
  · exact api_changeVm_error hlost h
  · cases h

theorem configureAddress_ok {u : Unit}
    (h : (configureAddress net request newVmId internalIp).run b = .ok u b') {vm : Vm}
    (hvm : (vmsOf b).lookup newVmId = some vm) :
    (vmsOf b').lookup newVmId = some { vm with
      ipconfig0 := if request.sshKey = "" then vm.ipconfig0 else some (ipConfig internalIp) } := by
  unfold configureAddress at h
  unfold CreateRequest.sshKey
  cases hkey : request.sshPublicKey with
  | none =>
      rw [hkey] at h
      cases h
      exact hvm
  | some sshKey =>
      rw [hkey] at h
      dsimp only [Option.getD_some] at h ⊢
      simp only [String.isEmpty_iff] at h
      split_ifs at h ⊢ with hempty
      · cases h
        exact hvm
      · obtain ⟨vm₁, vm', hlookup, hedit, hlookup'⟩ := api_changeVm_ok h
        rw [hvm] at hlookup
        cases hlookup
        rw [hlookup', ← hedit]

theorem configureAddress_error (hlost : ∀ n, (net n).reply ≠ .lost) {e : ServiceError}
    (h : (configureAddress net request newVmId internalIp).run b = .error e b') :
    vmsOf b' = vmsOf b := by
  unfold configureAddress at h
  cases hkey : request.sshPublicKey with
  | none =>
      rw [hkey] at h
      cases h
  | some sshKey =>
      rw [hkey] at h
      dsimp only at h
      split_ifs at h
      · cases h
      · exact api_changeVm_error hlost h

/-- **If the calls of step 6 return**, the VM is configured. -/
theorem configureVm_ok {u : Unit}
    (h : (configureVm net request newVmId internalIp).run b = .ok u b') :
    ∃ vm, (vmsOf b).lookup newVmId = some vm ∧
      (vmsOf b').lookup newVmId = some (configured request internalIp vm) := by
  obtain ⟨u₁, b₁, hspec, hrest⟩ := run_bind_eq_ok.mp h
  obtain ⟨u₂, b₂, hdisk, haddress⟩ := run_bind_eq_ok.mp hrest
  obtain ⟨vm, vm₁, hvm, hedit, hvm₁⟩ := api_changeVm_ok hspec
  cases hedit
  exact ⟨vm, hvm, configureAddress_ok haddress (configureDisk_ok hdisk hvm₁)⟩

/-- The requests of step 6, for a VM with the disk of the template. -/
theorem sends_configureVm (hb : Ready b.proxmox) {vm : Vm}
    (hvm : (vmsOf b).lookup newVmId = some vm) (hdisk : vm.diskGb ≤ 20) :
    Sends net Backend.proxmox request.configureRequests
      (configureVm net request newVmId internalIp) b := by
  have hspec : Sends net Backend.proxmox 1
      (api (configureVmSpec net newVmId request.cpuCores request.memoryMb)) b :=
    sends_api (sends_changeVm hb hvm rfl)
  refine hspec.bind fun _ b₁ h₁ => ?_
  have hb₁ := (hspec.ready _ _ h₁).1
  obtain ⟨vm₀, vm₁, hvm₀, hedit, hvm₁⟩ := api_changeVm_ok h₁
  rw [hvm] at hvm₀
  cases hvm₀
  cases hedit
  have hresize : Sends net Backend.proxmox (if request.diskGb > 20 then 1 else 0)
      (configureDisk net request newVmId) b₁ := by
    unfold configureDisk
    split_ifs with hlarge
    · refine sends_api (sends_changeVm hb₁ hvm₁ (if_neg ?_))
      dsimp only
      omega
    · exact sends_pure hb₁ ()
  refine hresize.bind fun _ b₂ h₂ => ?_
  have hb₂ := (hresize.ready _ _ h₂).1
  have hvm₂ := configureDisk_ok h₂ hvm₁
  unfold configureAddress CreateRequest.sshKey
  cases hkey : request.sshPublicKey with
  | none => exact sends_pure hb₂ ()
  | some sshKey =>
      dsimp only [Option.getD_some]
      simp only [String.isEmpty_iff]
      split_ifs
      · exact sends_pure hb₂ ()
      · exact sends_api (sends_changeVm hb₂ hvm₂ rfl)

/-- **If one of them throws**, the VM has the address that it had before. -/
theorem configureVm_error (hlost : ∀ n, (net n).reply ≠ .lost) {e : ServiceError}
    (h : (configureVm net request newVmId internalIp).run b = .error e b') {vm' : Vm}
    (hvm' : (vmsOf b').lookup newVmId = some vm') :
    ∃ vm, (vmsOf b).lookup newVmId = some vm ∧ vm'.ipconfig0 = vm.ipconfig0 := by
  rcases run_bind_eq_error.mp h with hspec | ⟨u₁, b₁, hspec, hrest⟩
  · rw [api_changeVm_error hlost hspec] at hvm'
    exact ⟨vm', hvm', rfl⟩
  obtain ⟨vm, vm₁, hvm, hedit, hvm₁⟩ := api_changeVm_ok hspec
  cases hedit
  refine ⟨vm, hvm, ?_⟩
  rcases run_bind_eq_error.mp hrest with hdisk | ⟨u₂, b₂, hdisk, haddress⟩
  · rw [configureDisk_error hlost hdisk, hvm₁] at hvm'
    cases hvm'
    rfl
  · rw [configureAddress_error hlost haddress, configureDisk_ok hdisk hvm₁] at hvm'
    cases hvm'
    rfl

end

/-! ## The record -/

/-- The template as the service takes it to be. -/
def PlainTemplate (config : ProxmoxConfig) (vms : VmStore) : Prop :=
  ∀ template ∈ vms.lookup config.templateVmid, template.diskGb = 20 ∧ template.ipconfig0 = none

instance (config : ProxmoxConfig) (vms : VmStore) : Decidable (PlainTemplate config vms) := by
  unfold PlainTemplate
  infer_instance

section
variable {net : ℕ → Exchange} {config : ProxmoxConfig} {depth : ℕ} {request : CreateRequest}

/-- A VM under the new id after step 5 has the disk of the template and no address. -/
theorem clone_plain {vms vms' : VmStore} {newVmId : ℕ} (htemplate : PlainTemplate config vms)
    (hcloned : Cloned config newVmId request.vmName vms vms') {vm : Vm}
    (hvm : vms'.lookup newVmId = some vm) : vm.diskGb = 20 ∧ vm.ipconfig0 = none := by
  obtain ⟨hfree, template, hlookup, rfl | rfl⟩ := hcloned
  · rw [AList.lookup_eq_none.mpr hfree] at hvm
    cases hvm
  · rw [AList.lookup_insert] at hvm
    cases hvm
    exact htemplate template hlookup

/-- The VM is what the row that `createVm` saves says. -/
def Described (request : CreateRequest) (internalIp : String) (vm : Vm) : Prop :=
  request.cpuCores = vm.cores ∧ request.memoryMb = vm.memory ∧ request.diskGb = vm.diskGb ∧
    vm.ipconfig0 = some (ipConfig internalIp)

/-- The row that `createVm` saves is the one that the response names. -/
theorem recordsMatch_save {proxmox : Proxmox} {db : Database} {newVmId : ℕ} {internalIp : String}
    {response : VmCreateResponse} (hid : response.vmId = db.nextId) :
    RecordsMatch ⟨proxmox, db.save (newVMachine request newVmId internalIp)⟩ response ↔
      ∃ vm ∈ (storeOf proxmox).lookup newVmId, Described request internalIp vm := by
  have hrow : (db.save (newVMachine request newVmId internalIp)).findById response.vmId
      = some { newVMachine request newVmId internalIp with id := db.nextId } := by
    unfold Database.save Database.findById
    simp [hid]
  unfold RecordsMatch
  rw [hrow]
  simp [newVMachine, Described, vmsOf, and_assoc]

/-- Step 6 makes the VM what the row says, if the disk and the key are of the right kind. -/
theorem described_configured {vm : Vm} (hdisk : vm.diskGb = 20) (haddress : vm.ipconfig0 = none)
    (internalIp : String) :
    Described request internalIp (configured request internalIp vm) ↔
      20 ≤ request.diskGb ∧ request.sshKey ≠ "" := by
  unfold Described configured
  dsimp only
  rw [hdisk, haddress]
  constructor
  · rintro ⟨-, -, hd, ha⟩
    refine ⟨?_, fun hkey => ?_⟩
    · split_ifs at hd with hlarge <;> omega
    · rw [if_pos hkey] at ha
      cases ha
  · rintro ⟨hd, hkey⟩
    refine ⟨rfl, rfl, ?_, if_neg hkey⟩
    split_ifs with hlarge <;> omega

/-- Step 6 returns exactly if the VM is there and the requests are answered. -/
theorem stepSixAnswered_iff {b b₁ b₂ : Backend} {newVmId : ℕ} (internalIp : String)
    (htemplate : PlainTemplate config (vmsOf b))
    (hchoose : (chooseVmId net config depth request).run b = .ok newVmId b₁)
    (hclone : (cloneAndWait net config request newVmId).run b₁ = .ok () b₂) :
    StepSixAnswered net config depth request b ↔
      thrown ((configureVm net request newVmId internalIp).run b₂) = none := by
  have hnumber : cloneRequest net config depth request b = firstRequest b₁.proxmox := by
    unfold cloneRequest
    rw [hchoose]
    rfl
  obtain ⟨hready, hsent, hmem⟩ := cloneAndWait_ready hclone
  unfold StepSixAnswered
  dsimp only
  rw [hnumber, ← hmem, ← hsent]
  by_cases hthere : newVmId ∈ vmsOf b₂
  · obtain ⟨vm, hvm⟩ := Option.isSome_iff_exists.mp (AList.lookup_isSome.mpr hthere)
    have hcloned := cloneAndWait_ok hclone
    rw [show vmsOf b₁ = vmsOf b from keeps_chooseVmId_vms.of_ok hchoose] at hcloned
    have hdisk := (clone_plain htemplate hcloned hvm).1
    rw [(sends_configureVm hready hvm (Nat.le_of_eq hdisk)).returns_iff]
    exact and_iff_right hthere
  · refine ⟨fun h => absurd h.1 hthere, fun hreturns => ?_⟩
    cases hrun : (configureVm net request newVmId internalIp).run b₂ with
    | ok u b₃ =>
        obtain ⟨vm, hvm, -⟩ := configureVm_ok hrun
        exact absurd (AList.lookup_isSome.mp (Option.isSome_iff_exists.mpr ⟨vm, hvm⟩)) hthere
    | error e b₃ =>
        rw [hrun] at hreturns
        cases hreturns

/-- **When the record is right.**  If no answer is lost and the template has 20 GB and no
address, then the row of a returned `createVm` describes the VM exactly if the task of the clone
has not failed, the requests of step 6 were all answered, the disk is at least as large as the
template's and there is an SSH key. -/
theorem recordsMatch_iff (hlost : ∀ n, (net n).reply ≠ .lost) {b b' : Backend}
    (htemplate : PlainTemplate config (vmsOf b)) {response : VmCreateResponse}
    (hrun : (VmService.createVm net config depth request).run b = .ok response b') :
    RecordsMatch b' response ↔
      StepSixAnswered net config depth request b ∧ 20 ≤ request.diskGb ∧ request.sshKey ≠ "" := by
  have hout : Created net config depth request b _ := createVm_outcome net config depth request b
  rw [hrun] at hout
  cases hout with
  | @created newVmId internalIp b₁ b₂ hchoose hip hclone =>
  have hcloned := cloneAndWait_ok hclone
  rw [show vmsOf b₁ = vmsOf b from keeps_chooseVmId_vms.of_ok hchoose] at hcloned
  rw [stepSixAnswered_iff internalIp htemplate hchoose hclone,
    recordsMatch_save rfl]
  cases hconfigure : (configureVm net request newVmId internalIp).run b₂ with
  | ok u b₃ =>
      obtain ⟨vm, hvm, hvm'⟩ := configureVm_ok hconfigure
      obtain ⟨hdisk, haddress⟩ := clone_plain htemplate hcloned hvm
      have hlookup : (storeOf b₃.proxmox).lookup newVmId = some (configured request internalIp vm) :=
        hvm'
      simp only [final_ok, thrown_ok, true_and, hlookup, Option.mem_some_iff, exists_eq_left',
        described_configured hdisk haddress]
  | error e b₃ =>
      refine ⟨?_, fun h => absurd h.1 (by simp)⟩
      rintro ⟨vm', hvm', -, -, -, hmatch⟩
      -- The address comes last, so it is still the template's.
      obtain ⟨vm, hvm, hsame⟩ := configureVm_error hlost hconfigure hvm'
      rw [hsame, (clone_plain htemplate hcloned hvm).2] at hmatch
      cases hmatch

end

/-! ## Samples -/

/-- Requests that are all served, but for one that is refused. -/
def refusingNet (moment : Option ℕ) (n : ℕ) : Exchange :=
  ⟨false, if moment = some n then .refused else .served, "UPID", false, true, false⟩

/-- A request for a VM with the disk and the key given. -/
def sampleRequest (diskGb : ℕ) (sshPublicKey : Option String) : CreateRequest :=
  ⟨1, "vm", 2, 2048, diskGb, sshPublicKey⟩

/-- Whether the record of a request that returns is right. -/
def recorded (net : ℕ → Exchange) (request : CreateRequest) : Option Bool :=
  match (VmService.createVm net ⟨201⟩ 10 request).run (startBackend sampleHost) with
  | .ok response b => some (RecordsMatch b response)
  | .error _ _ => none

/-- A request with 20 GB and a key, and no call that fails. -/
theorem recordsMatch_served :
    ∃ response b, (VmService.createVm (refusingNet none) ⟨201⟩ 10
        (sampleRequest 20 (some "ssh-rsa"))).run (startBackend sampleHost) = .ok response b ∧
      RecordsMatch b response := by
  cases hrun : (VmService.createVm (refusingNet none) ⟨201⟩ 10
      (sampleRequest 20 (some "ssh-rsa"))).run (startBackend sampleHost) with
  | ok response b =>
      exact ⟨response, b, rfl,
        (recordsMatch_iff (fun n => by simp [refusingNet]) (by decide) hrun).mpr
          (by decide +kernel)⟩
  | error e b =>
      have hok : thrown ((VmService.createVm (refusingNet none) ⟨201⟩ 10
        (sampleRequest 20 (some "ssh-rsa"))).run (startBackend sampleHost)) = none := by
        decide +kernel
      rw [hrun] at hok
      cases hok

/-- **Wrong records of valid requests**: a disk smaller than the template's, a request without a
key, and a `configureVmSpec` that fails. -/
theorem records_wrong :
    ((sampleRequest 10 (some "ssh-rsa")).Valid ∧
        recorded (refusingNet none) (sampleRequest 10 (some "ssh-rsa")) = some false) ∧
      ((sampleRequest 20 none).Valid ∧
        recorded (refusingNet none) (sampleRequest 20 none) = some false) ∧
      ((sampleRequest 30 (some "ssh-rsa")).Valid ∧
        recorded (refusingNet (some 4)) (sampleRequest 30 (some "ssh-rsa")) = some false) := by
  decide +kernel

end Cloud
