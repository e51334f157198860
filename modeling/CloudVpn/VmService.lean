/-
# The backend's VM service

Model of `createVm` and `deleteVm` of `VmServiceImpl`.  Both run in a transaction: an exception
undoes what they have done to the database, but not what they have done to the Proxmox host.

`createVm` is put together from its steps: `chooseVmId` (1 and 2), `allocateInternalIp` (3),
`cloneAndWait` (4 and 5), `configureVm` (the `try` block of 6) and `saveVm` (7 to 9).
`Created` and `Deleted` list what can come of a request.
-/
import CloudVpn.Proxmox

open Effects

namespace Cloud

/-! ## The database -/

/-- `Member`. -/
structure Member where
  id : ℕ
  name : String
  studentNumber : String
  password : String
  deriving DecidableEq

/-- `VmStatus`. -/
inductive VmStatus where
  | creating
  | stopped
  | running
  | error
  deriving DecidableEq

/-- `VMSpec`. -/
structure VMSpec where
  cpuCores : ℕ
  memoryMb : ℕ
  diskGb : ℕ
  deriving DecidableEq

/-- `SSHCredential`. -/
structure SSHCredential where
  username : String
  sshKey : String
  deriving DecidableEq

/-- `VMachine`, with the spec and the credential that point to it. -/
structure VMachine where
  id : ℕ
  memberId : ℕ
  proxmoxVmId : ℕ
  vmName : String
  internalIp : String
  status : VmStatus
  vmSpec : Option VMSpec
  sshCredential : Option SSHCredential
  deriving DecidableEq

/-- The tables, and the id that the next row of `vmachine` gets. -/
structure Database where
  members : List Member
  vms : List VMachine
  nextId : ℕ
  deriving DecidableEq

/-- `findById` of `VMachineRepository`. -/
def Database.findById (db : Database) (vmId : ℕ) : Option VMachine :=
  db.vms.find? fun vm => vm.id == vmId

/-- `findAllUsedInternalIps`. -/
def Database.findAllUsedInternalIps (db : Database) : List String := db.vms.map (·.internalIp)

/-- `save` of a new VM, under the next id. -/
def Database.save (db : Database) (vm : VMachine) : Database :=
  { db with vms := { vm with id := db.nextId } :: db.vms, nextId := db.nextId + 1 }

/-- `delete` of `VMachineRepository`, by id. -/
def Database.delete (db : Database) (vmId : ℕ) : Database :=
  { db with vms := db.vms.eraseP fun vm => vm.id == vmId }

/-! ## The service -/

/-- The database and the Proxmox side. -/
structure Backend where
  proxmox : Proxmox
  db : Database

/-- `ErrorStatus`. -/
inductive ErrorStatus where
  | internalServerError
  | badRequest
  | unauthorized
  | forbidden
  | notFound
  | alreadyExist
  deriving DecidableEq

/-- The exceptions of the service: a `BaseException`, or one of the Proxmox client. -/
inductive ServiceError where
  | base (code : ErrorStatus)
  | proxmox (error : ApiError)
  deriving DecidableEq

/-- A program of the service. -/
abbrev Service := EStateM ServiceError Backend

/-- A call of the Proxmox client. -/
def api {α : Type} (m : Api α) : Service α :=
  zoom Backend.proxmox (fun proxmox b => { b with proxmox := proxmox }) ServiceError.proxmox m

/-- `@Transactional`. -/
def transactional {α : Type} (m : Service α) : Service α :=
  rollback (fun before b => { b with db := before.db }) m

/-- `CreateRequest`. -/
structure CreateRequest where
  memberId : ℕ
  vmName : String
  cpuCores : ℕ
  memoryMb : ℕ
  diskGb : ℕ
  sshPublicKey : Option String
  deriving DecidableEq

/-- The constraints on the fields of `CreateRequest`, with their messages. -/
def CreateRequest.constraints (request : CreateRequest) : List (String × String × Bool) :=
  [("vmName", "VM 이름은 필수입니다", request.vmName.toList.any (' ' < ·)),
    ("cpuCores", "CPU는 최소 1코어 이상이어야 합니다", 1 ≤ request.cpuCores),
    ("cpuCores", "CPU는 최대 4코어까지 가능합니다", request.cpuCores ≤ 4),
    ("memoryMb", "메모리는 최소 512MB 이상이어야 합니다", 512 ≤ request.memoryMb),
    ("memoryMb", "메모리는 최대 8192MB까지 가능합니다", request.memoryMb ≤ 8192),
    ("diskGb", "디스크는 최소 10GB 이상이어야 합니다", 10 ≤ request.diskGb),
    ("diskGb", "디스크는 최대 100GB까지 가능합니다", request.diskGb ≤ 100)]

/-- The request passes the validation of the controller. -/
def CreateRequest.Valid (request : CreateRequest) : Prop :=
  ∀ constraint ∈ request.constraints, constraint.2.2 = true

instance (request : CreateRequest) : Decidable request.Valid := by
  unfold CreateRequest.Valid
  infer_instance

/-- `VmCreateResponse`. -/
structure VmCreateResponse where
  vmId : ℕ
  proxmoxVmId : ℕ
  vmName : String
  internalIp : String
  message : String
  deriving DecidableEq

/-- `VmSimpleResponse`. -/
structure VmSimpleResponse where
  vmId : ℕ
  message : String
  deriving DecidableEq

/-- The addresses that `allocateInternalIp` tries, in order. -/
def candidateIps : List String := (List.range' 9 91).map fun i => "10.8.0." ++ toString i

/-- `allocateInternalIp`. -/
def allocateInternalIp : Service String := do
  let b ← get
  match candidateIps.find? fun ip => !b.db.findAllUsedInternalIps.contains ip with
  | some candidateIp => return candidateIp
  | none => throw (.base .internalServerError)

section
variable (net : ℕ → Exchange) (config : ProxmoxConfig) (depth : ℕ)

/-- Steps 1 and 2: the member has to exist. -/
def chooseVmId (request : CreateRequest) : Service ℕ := do
  let b ← get
  match b.db.members.find? fun member => member.id == request.memberId with
  | none => throw (.base .notFound)
  | some _ => api (getNextVmId net config depth)

/-- Step 5: the service waits for the task for at most 120 seconds. -/
def waitForClone (taskId : Option String) : Service Unit :=
  match taskId with
  | some upid => api (waitForTask net upid 120)
  | none => pure ()

/-- Steps 4 and 5. -/
def cloneAndWait (request : CreateRequest) (newVmId : ℕ) : Service Unit := do
  let taskId ← api (cloneVm net config newVmId request.vmName)
  waitForClone net taskId

/-- The second call of step 6: the disk of the template has 20 GB. -/
def configureDisk (request : CreateRequest) (newVmId : ℕ) : Service Unit :=
  if request.diskGb > 20 then api (resizeVmDisk net newVmId request.diskGb) else pure ()

/-- The third call of step 6. -/
def configureAddress (request : CreateRequest) (newVmId : ℕ) (internalIp : String) :
    Service Unit :=
  match request.sshPublicKey with
  | none => pure ()
  | some sshKey =>
      if sshKey.isEmpty then pure () else api (configureCloudInit net newVmId internalIp sshKey)

/-- The calls of step 6. -/
def configureVm (request : CreateRequest) (newVmId : ℕ) (internalIp : String) : Service Unit := do
  api (configureVmSpec net newVmId request.cpuCores request.memoryMb)
  configureDisk net request newVmId
  configureAddress net request newVmId internalIp

end

/-- The row that step 7 saves, with the spec and the credential of steps 8 and 9. -/
def newVMachine (request : CreateRequest) (newVmId : ℕ) (internalIp : String) : VMachine where
  id := 0
  memberId := request.memberId
  proxmoxVmId := newVmId
  vmName := request.vmName
  internalIp := internalIp
  status := .stopped
  vmSpec := some ⟨request.cpuCores, request.memoryMb, request.diskGb⟩
  sshCredential := some ⟨"soongsil", request.sshPublicKey.getD ""⟩

/-- Steps 7 to 9. -/
def saveVm (request : CreateRequest) (newVmId : ℕ) (internalIp : String) :
    Service VmCreateResponse := do
  let b ← get
  set { b with db := b.db.save (newVMachine request newVmId internalIp) }
  return ⟨b.db.nextId, newVmId, request.vmName, internalIp, "VM 생성이 완료되었습니다."⟩

namespace VmService

section
variable (net : ℕ → Exchange) (config : ProxmoxConfig) (depth : ℕ)

/-- `createVm`. -/
def createVm (request : CreateRequest) : Service VmCreateResponse :=
  transactional do
    let newVmId ← chooseVmId net config depth request
    let internalIp ← allocateInternalIp
    cloneAndWait net config request newVmId
    -- Whatever the calls throw is logged and forgotten.
    tryCatch (configureVm net request newVmId internalIp) fun _ => pure ()
    saveVm request newVmId internalIp

/-- `deleteVm`. -/
def deleteVm (vmId : ℕ) : Service VmSimpleResponse :=
  transactional do
    let b ← get
    match b.db.findById vmId with
    | none => throw (.base .notFound)
    | some vm =>
        let _ ← api (Cloud.deleteVm net vm.proxmoxVmId)
        modify fun b => { b with db := b.db.delete vm.id }
        return ⟨vmId, "VM이 삭제되었습니다."⟩

end

end VmService

/-- A request to the service. -/
inductive Request where
  | createVm (request : CreateRequest)
  | deleteVm (vmId : ℕ)

/-- The backend of a new service with one member. -/
def startBackend (host : Host) : Backend :=
  ⟨startService host, ⟨[⟨1, "member", "20231234", "password"⟩], [], 1⟩⟩

/-- A request for a VM. -/
def plainRequest : CreateRequest := ⟨1, "vm", 2, 2048, 20, none⟩

/-! ## The steps of a request -/

section
variable {net : ℕ → Exchange} {config : ProxmoxConfig} {depth : ℕ} {request : CreateRequest}

/-- The VMs on the host. -/
def vmsOf (b : Backend) : VmStore := storeOf b.proxmox

/-- The database. -/
def dbOf (b : Backend) : Database := b.db

theorem api_of_ok {α : Type} {m : Api α} {b : Backend} {a : α} {proxmox : Proxmox}
    (h : m.run b.proxmox = .ok a proxmox) : (api m).run b = .ok a ⟨proxmox, b.db⟩ :=
  zoom_eq_ok.mpr ⟨proxmox, h, rfl⟩

theorem api_of_error {α : Type} {m : Api α} {b : Backend} {e : ApiError} {proxmox : Proxmox}
    (h : m.run b.proxmox = .error e proxmox) :
    (api m).run b = .error (.proxmox e) ⟨proxmox, b.db⟩ :=
  zoom_eq_error.mpr ⟨e, proxmox, h, rfl, rfl⟩

theorem keeps_api_db {α : Type} (m : Api α) : Keeps dbOf (api m) := keeps_zoom fun _ _ => rfl

theorem keeps_api_vms {α : Type} {m : Api α} (h : Keeps storeOf m) : Keeps vmsOf (api m) :=
  h.zoom fun _ _ => rfl

/-- The address that is chosen is a candidate and not in use; nothing changes. -/
theorem allocateInternalIp_eq_ok {b b' : Backend} {ip : String}
    (h : allocateInternalIp.run b = .ok ip b') :
    b' = b ∧ ip ∈ candidateIps ∧ ip ∉ b.db.findAllUsedInternalIps := by
  unfold allocateInternalIp at h
  rw [EStateM.run_bind, EStateM.run_get] at h
  dsimp only at h
  cases hfind : candidateIps.find? fun ip => !b.db.findAllUsedInternalIps.contains ip with
  | none =>
      rw [hfind] at h
      cases h
  | some candidate =>
      rw [hfind] at h
      cases h
      refine ⟨rfl, List.mem_of_find?_eq_some hfind, ?_⟩
      simpa using List.find?_some hfind

theorem keeps_allocateInternalIp : Keeps id allocateInternalIp := by
  apply keeps_get.bind
  intro b
  cases candidateIps.find? fun ip => !b.db.findAllUsedInternalIps.contains ip with
  | none => exact keeps_throw _
  | some ip => exact keeps_pure ip

theorem keeps_chooseVmId_db : Keeps dbOf (chooseVmId net config depth request) := by
  apply keeps_get.bind
  intro b
  split
  · exact keeps_throw _
  · exact keeps_api_db _

theorem keeps_chooseVmId_vms : Keeps vmsOf (chooseVmId net config depth request) := by
  apply keeps_get.bind
  intro b
  split
  · exact keeps_throw _
  · exact keeps_api_vms (keeps_getNextVmId config depth)

theorem keeps_waitForClone_vms (taskId : Option String) : Keeps vmsOf (waitForClone net taskId) := by
  cases taskId with
  | none => exact keeps_pure ()
  | some upid => exact keeps_api_vms (keeps_waitForTask upid 120)

theorem keeps_cloneAndWait_db (newVmId : ℕ) : Keeps dbOf (cloneAndWait net config request newVmId) := by
  apply (keeps_api_db _).bind
  intro taskId
  cases taskId with
  | none => exact keeps_pure ()
  | some upid => exact keeps_api_db _

theorem keeps_configureVm_db (newVmId : ℕ) (internalIp : String) :
    Keeps dbOf (configureVm net request newVmId internalIp) := by
  refine (keeps_api_db _).bind fun _ => Keeps.bind ?_ fun _ => ?_
  · unfold configureDisk
    split_ifs
    · exact keeps_api_db _
    · exact keeps_pure ()
  · unfold configureAddress
    split
    · exact keeps_pure ()
    · split_ifs
      · exact keeps_pure ()
      · exact keeps_api_db _

/-- A call of the Proxmox client, by its requests. -/
theorem sends_api {α : Type} {m : Api α} {b : Backend} {count : ℕ}
    (h : Sends net id count m b.proxmox) : Sends net Backend.proxmox count (api m) b := by
  have hthrown : thrown ((api m).run b) = none ↔ thrown (m.run b.proxmox) = none := by
    cases hrun : m.run b.proxmox with
    | ok a s => simp [api_of_ok hrun]
    | error e s => simp [api_of_error hrun]
  refine ⟨hthrown.trans h.returns_iff, fun a b' hrun => ?_⟩
  obtain ⟨s, hs, rfl⟩ := zoom_eq_ok.mp hrun
  exact h.ready a s hs

/-- The number of the request to clone. -/
def cloneRequest (net : ℕ → Exchange) (config : ProxmoxConfig) (depth : ℕ)
    (request : CreateRequest) (b : Backend) : ℕ :=
  firstRequest (final ((chooseVmId net config depth request).run b)).proxmox

/-- How many polls for the clone there are, if the request to clone has number `n`: without an id
there is nothing to wait for. -/
def clonePolls (net : ℕ → Exchange) (n : ℕ) : ℕ :=
  if (net n).reply = .served then pollCount net (n + 1) 60 else 0

/-- Step 5 after a clone that was answered. -/
theorem sends_waitForClone {b b' : Backend} {newVmId : ℕ} {vmName : String}
    {taskId : Option String}
    (h : (api (cloneVm net config newVmId vmName)).run b = .ok taskId b') :
    b'.proxmox.sent = firstRequest b.proxmox + 1 ∧
      Sends net Backend.proxmox (clonePolls net (firstRequest b.proxmox))
        (waitForClone net taskId) b' := by
  obtain ⟨s, hrun, rfl⟩ := zoom_eq_ok.mp h
  obtain ⟨hready, hsent⟩ := call_ready hrun
  obtain ⟨upid, -, ⟨rfl, hreply⟩ | ⟨rfl, hreply⟩⟩ := call_ok hrun
  · refine ⟨hsent, ?_⟩
    unfold clonePolls
    rw [if_pos hreply, ← hsent]
    exact sends_api (sends_waitForTask hready upid 120)
  · refine ⟨hsent, ?_⟩
    unfold clonePolls
    rw [if_neg (by simp [hreply])]
    exact sends_pure hready ()

/-- A clone that was answered is there, unless its task has failed. -/
theorem cloneVm_mem_iff {s s' : Proxmox} {newVmId : ℕ} {vmName : String} {taskId : Option String}
    (h : (cloneVm net config newVmId vmName).run s = .ok taskId s') :
    newVmId ∈ storeOf s' ↔ (net (firstRequest s)).taskFails = false := by
  obtain ⟨upid, hhandle, -⟩ := call_ok h
  split_ifs at hhandle with hused hfails
  · obtain ⟨template, -, heq⟩ := Option.map_eq_some_iff.mp hhandle
    rw [← show storeOf s = storeOf s' from congrArg Prod.fst heq, hfails]
    simp [hused]
  · obtain ⟨template, -, heq⟩ := Option.map_eq_some_iff.mp hhandle
    rw [← show (storeOf s).insert newVmId _ = storeOf s' from congrArg Prod.fst heq]
    simp [hfails]

/-- Steps 4 and 5 that return have cloned the template, unless the task has failed. -/
theorem cloneAndWait_ok {newVmId : ℕ} {u : Unit} {b b' : Backend}
    (h : (cloneAndWait net config request newVmId).run b = .ok u b') :
    Cloned config newVmId request.vmName (vmsOf b) (vmsOf b') := by
  obtain ⟨taskId, b₁, hclone, hwait⟩ := run_bind_eq_ok.mp h
  obtain ⟨s, hrun, rfl⟩ := zoom_eq_ok.mp hclone
  rw [(keeps_waitForClone_vms taskId).of_ok hwait]
  exact cloneVm_ok hrun

/-- Steps 4 and 5 that return leave the service with a valid ticket, and with a VM unless the task
has failed. -/
theorem cloneAndWait_ready {newVmId : ℕ} {u : Unit} {b b' : Backend}
    (h : (cloneAndWait net config request newVmId).run b = .ok u b') :
    Ready b'.proxmox ∧
      b'.proxmox.sent
        = firstRequest b.proxmox + 1 + clonePolls net (firstRequest b.proxmox) ∧
      (newVmId ∈ vmsOf b' ↔ (net (firstRequest b.proxmox)).taskFails = false) := by
  obtain ⟨taskId, b₁, hclone, hwait⟩ := run_bind_eq_ok.mp h
  obtain ⟨hsent, hsends⟩ := sends_waitForClone hclone
  obtain ⟨hready, hsent'⟩ := hsends.ready u b' hwait
  refine ⟨hready, by rw [hsent', hsent], ?_⟩
  rw [(keeps_waitForClone_vms taskId).of_ok hwait]
  obtain ⟨s, hrun, rfl⟩ := zoom_eq_ok.mp hclone
  exact cloneVm_mem_iff hrun

/-- What can come of `createVm`: it fails in one of the steps before the sixth, or it returns.
Then the exceptions of step 6 have not mattered. -/
inductive Created (net : ℕ → Exchange) (config : ProxmoxConfig) (depth : ℕ)
    (request : CreateRequest) (b : Backend) :
    EStateM.Result ServiceError Backend VmCreateResponse → Prop
  | unchosen {e : ServiceError} {b₁ : Backend}
      (hchoose : (chooseVmId net config depth request).run b = .error e b₁) :
      Created net config depth request b (.error e ⟨b₁.proxmox, b.db⟩)
  | noAddress {newVmId : ℕ} {e : ServiceError} {b₁ : Backend}
      (hchoose : (chooseVmId net config depth request).run b = .ok newVmId b₁)
      (hip : allocateInternalIp.run b₁ = .error e b₁) :
      Created net config depth request b (.error e ⟨b₁.proxmox, b.db⟩)
  | uncloned {newVmId : ℕ} {internalIp : String} {e : ServiceError} {b₁ b₂ : Backend}
      (hchoose : (chooseVmId net config depth request).run b = .ok newVmId b₁)
      (hip : allocateInternalIp.run b₁ = .ok internalIp b₁)
      (hclone : (cloneAndWait net config request newVmId).run b₁ = .error e b₂) :
      Created net config depth request b (.error e ⟨b₂.proxmox, b.db⟩)
  | created {newVmId : ℕ} {internalIp : String} {b₁ b₂ : Backend}
      (hchoose : (chooseVmId net config depth request).run b = .ok newVmId b₁)
      (hip : allocateInternalIp.run b₁ = .ok internalIp b₁)
      (hclone : (cloneAndWait net config request newVmId).run b₁ = .ok () b₂) :
      Created net config depth request b
        (.ok ⟨b.db.nextId, newVmId, request.vmName, internalIp, "VM 생성이 완료되었습니다."⟩
          ⟨(final ((configureVm net request newVmId internalIp).run b₂)).proxmox,
            b.db.save (newVMachine request newVmId internalIp)⟩)

/-- **Every `createVm` has one of the outcomes.** -/
theorem createVm_outcome (net : ℕ → Exchange) (config : ProxmoxConfig) (depth : ℕ)
    (request : CreateRequest) (b : Backend) :
    Created net config depth request b
      ((VmService.createVm net config depth request).run b) := by
  unfold VmService.createVm transactional
  rw [run_rollback, EStateM.run_bind]
  cases hchoose : (chooseVmId net config depth request).run b with
  | error e b₁ => exact .unchosen hchoose
  | ok newVmId b₁ =>
      dsimp only
      rw [EStateM.run_bind]
      cases hip : allocateInternalIp.run b₁ with
      | error e b₁' =>
          have hsame : b₁' = b₁ := keeps_allocateInternalIp.of_error hip
          rw [hsame] at hip ⊢
          exact .noAddress hchoose hip
      | ok internalIp b₁' =>
          have hsame : b₁' = b₁ := keeps_allocateInternalIp.of_ok hip
          rw [hsame] at hip ⊢
          dsimp only
          rw [EStateM.run_bind]
          cases hclone : (cloneAndWait net config request newVmId).run b₁ with
          | error e b₂ => exact .uncloned hchoose hip hclone
          | ok u b₂ =>
              dsimp only
              rw [EStateM.run_bind, run_swallow]
              -- Up to the save the database is the one that the request has found.
              have hdb : (final ((configureVm net request newVmId internalIp).run b₂)).db = b.db :=
                (keeps_configureVm_db newVmId internalIp b₂).trans
                  (((keeps_cloneAndWait_db newVmId).of_ok hclone).trans
                    (keeps_chooseVmId_db.of_ok hchoose))
              have hcreated := Created.created hchoose hip hclone
              rw [← hdb] at hcreated
              exact hcreated

/-- What can come of `deleteVm`. -/
inductive Deleted (net : ℕ → Exchange) (vmId : ℕ) (b : Backend) :
    EStateM.Result ServiceError Backend VmSimpleResponse → Prop
  | notFound (hfind : b.db.findById vmId = none) :
      Deleted net vmId b (.error (.base .notFound) b)
  | failed {vm : VMachine} {e : ApiError} {proxmox : Proxmox}
      (hfind : b.db.findById vmId = some vm)
      (hdelete : (Cloud.deleteVm net vm.proxmoxVmId).run b.proxmox = .error e proxmox) :
      Deleted net vmId b (.error (.proxmox e) ⟨proxmox, b.db⟩)
  | deleted {vm : VMachine} {upid : Option String} {proxmox : Proxmox}
      (hfind : b.db.findById vmId = some vm)
      (hdelete : (Cloud.deleteVm net vm.proxmoxVmId).run b.proxmox = .ok upid proxmox) :
      Deleted net vmId b
        (.ok ⟨vmId, "VM이 삭제되었습니다."⟩ ⟨proxmox, b.db.delete vm.id⟩)

/-- **Every `deleteVm` has one of the outcomes.** -/
theorem deleteVm_outcome (net : ℕ → Exchange) (vmId : ℕ) (b : Backend) :
    Deleted net vmId b ((VmService.deleteVm net vmId).run b) := by
  unfold VmService.deleteVm transactional
  rw [run_rollback, EStateM.run_bind, EStateM.run_get]
  dsimp only
  cases hfind : b.db.findById vmId with
  | none => exact .notFound hfind
  | some vm =>
      dsimp only
      rw [EStateM.run_bind]
      cases hdelete : (Cloud.deleteVm net vm.proxmoxVmId).run b.proxmox with
      | error e proxmox =>
          rw [api_of_error hdelete]
          exact .failed hfind hdelete
      | ok upid proxmox =>
          rw [api_of_ok hdelete]
          exact .deleted hfind hdelete

end

end Cloud
