/-
# The rows of the database and the VMs of the host

Runs of `createVm` and `deleteVm`, one request after the other.  `Correspond` says that the
table has one row for each VM on the host that the service has made, and no others.

The requests make and remove VMs with two calls, `cloneVm` and `deleteVm`, and each of these can
go wrong without the service being told: the answer is lost, the task fails after it was started
(`waitForTask` does not look at how a task ends), or the clone is there but the wait for its
task throws.  `correspond_throughout_iff` says that nothing else breaks the correspondence: it is
enough that no answer to a request to clone or to delete is lost, that no task fails and that no
poll for a clone is refused (`Transparent`).
-/
import CloudVpn.Runs
import CloudVpn.VmService

open Effects Runs

namespace Cloud

/-! ## Rows and VMs -/

/-- Whether the VM of an id is a clone, if there is such a VM. -/
def cloneMark (vms : VmStore) (vmId : ℕ) : Option Bool := (vms.lookup vmId).map (·.cloned)

/-- The ids are those of the clones. -/
def Tallies (ids : List ℕ) (vms : VmStore) : Prop :=
  ids.Nodup ∧ ∀ vmId, vmId ∈ ids ↔ cloneMark vms vmId = some true

/-- The Proxmox ids in the table. -/
def Database.proxmoxVmIds (db : Database) : List ℕ := db.vms.map (·.proxmoxVmId)

/-- The rows are those of the VMs that the service has made. -/
def Correspond (b : Backend) : Prop := Tallies b.db.proxmoxVmIds (vmsOf b)

section
variable (net : ℕ → Exchange) (config : ProxmoxConfig) (depth : ℕ)

/-- The backend after a request, whether it has returned or thrown. -/
def serve (b : Backend) : Request → Backend
  | .createVm request => final ((VmService.createVm net config depth request).run b)
  | .deleteVm vmId => final ((VmService.deleteVm net vmId).run b)

/-- The service is told what has become of its request to clone: a request that throws has made
nothing, and otherwise the VM is there exactly if the wait for it returns. -/
def CloneTold (request : CreateRequest) (newVmId : ℕ) (b : Backend) : Prop :=
  match (api (cloneVm net config newVmId request.vmName)).run b with
  | .error _ b' => vmsOf b' = vmsOf b
  | .ok _ b' =>
      newVmId ∈ vmsOf b' ↔ thrown ((cloneAndWait net config request newVmId).run b) = none

/-- The service is told what has become of its request to delete: the VM is gone exactly if the
request returns. -/
def DeleteTold (vmId : ℕ) (s : Proxmox) : Prop :=
  match (deleteVm net vmId).run s with
  | .error _ s' => storeOf s' = storeOf s
  | .ok _ s' => vmId ∉ storeOf s'

instance (request : CreateRequest) (newVmId : ℕ) (b : Backend) :
    Decidable (CloneTold net config request newVmId b) := by
  unfold CloneTold
  split <;> infer_instance

instance (vmId : ℕ) (s : Proxmox) : Decidable (DeleteTold net vmId s) := by
  unfold DeleteTold
  split <;> infer_instance

/-- The request is told what has become of its clone or deletion, if it gets so far. -/
def Told (b : Backend) : Request → Prop
  | .createVm request =>
      match (chooseVmId net config depth request).run b with
      | .error _ _ => True
      | .ok newVmId b₁ =>
          thrown (allocateInternalIp.run b₁) = none → CloneTold net config request newVmId b₁
  | .deleteVm vmId =>
      match b.db.findById vmId with
      | none => True
      | some vm => DeleteTold net vm.proxmoxVmId b.proxmox

instance (b : Backend) (request : Request) : Decidable (Told net config depth b request) := by
  cases request with
  | createVm request =>
      unfold Told
      dsimp only
      split <;> infer_instance
  | deleteVm vmId =>
      unfold Told
      dsimp only
      split <;> infer_instance

/-- The network does not hide what becomes of the request: the answer to its request to clone or to
delete is not lost, the task does not fail, and the polls for a clone are answered. -/
def Transparent (b : Backend) : Request → Prop
  | .createVm request =>
      let n := cloneRequest net config depth request b
      (net n).reply ≠ .lost ∧ (net n).taskFails = false ∧
        ∀ k < clonePolls net n, (net (n + 1 + k)).answered = true
  | .deleteVm _ =>
      let n := firstRequest b.proxmox
      (net n).reply ≠ .lost ∧ (net n).taskFails = false

end

/-! ## What the calls do to the tally -/

section
variable {ids : List ℕ} {vms vms' : VmStore} {vmId : ℕ}

theorem cloneMark_of_notMem (h : vmId ∉ vms) : cloneMark vms vmId = none := by
  unfold cloneMark
  rw [AList.lookup_eq_none.mpr h]
  rfl

theorem cloneMark_insert (vm : Vm) (id : ℕ) :
    cloneMark (vms.insert vmId vm) id = if id = vmId then some vm.cloned else cloneMark vms id := by
  unfold cloneMark
  split_ifs with hid
  · rw [hid, AList.lookup_insert]
    rfl
  · rw [AList.lookup_insert_ne hid]

theorem cloneMark_erase (id : ℕ) :
    cloneMark (vms.erase vmId) id = if id = vmId then none else cloneMark vms id := by
  unfold cloneMark
  split_ifs with hid
  · rw [hid, AList.lookup_erase]
    rfl
  · rw [AList.lookup_erase_ne hid]

theorem Tallies.congr (h : cloneMark vms' = cloneMark vms) : Tallies ids vms' ↔ Tallies ids vms := by
  unfold Tallies
  rw [h]

/-- A VM that is not there has no row. -/
theorem Tallies.notMem (h : Tallies ids vms) (hfree : vmId ∉ vms) : vmId ∉ ids := by
  intro hmem
  have hmark := (h.2 vmId).mp hmem
  rw [cloneMark_of_notMem hfree] at hmark
  cases hmark

section
variable {config : ProxmoxConfig} {vmName : String}

theorem Cloned.notMem_iff (hcloned : Cloned config vmId vmName vms vms') :
    vmId ∉ vms' ↔ vms' = vms := by
  obtain ⟨hfree, template, -, rfl | rfl⟩ := hcloned
  · simp [hfree]
  · refine ⟨fun hnot => absurd ((AList.mem_insert _).mpr (Or.inl rfl)) hnot, fun heq => ?_⟩
    rw [heq]
    exact hfree

/-- A clone that gets no row. -/
theorem Tallies.cloned_iff (h : Tallies ids vms) (hcloned : Cloned config vmId vmName vms vms') :
    Tallies ids vms' ↔ vmId ∉ vms' := by
  obtain ⟨hfree, template, -, rfl | rfl⟩ := hcloned
  · exact ⟨fun _ => hfree, fun _ => h⟩
  · refine ⟨fun h' => absurd ((h'.2 vmId).mpr ?_) (h.notMem hfree), fun hnot => ?_⟩
    · rw [cloneMark_insert, if_pos rfl]
    · exact absurd ((AList.mem_insert _).mpr (Or.inl rfl)) hnot

/-- A clone that gets a row. -/
theorem Tallies.cons_cloned_iff (h : Tallies ids vms)
    (hcloned : Cloned config vmId vmName vms vms') :
    Tallies (vmId :: ids) vms' ↔ vmId ∈ vms' := by
  obtain ⟨hfree, template, -, rfl | rfl⟩ := hcloned
  · exact ⟨fun h' => absurd (List.mem_cons_self) (h'.notMem hfree), fun hmem => absurd hmem hfree⟩
  · refine ⟨fun _ => (AList.mem_insert _).mpr (Or.inl rfl), fun _ => ⟨?_, fun id => ?_⟩⟩
    · exact List.nodup_cons.mpr ⟨h.notMem hfree, h.1⟩
    · rw [List.mem_cons, cloneMark_insert, h.2 id]
      split_ifs with hid
      · simp [hid]
      · simp [hid]

end

/-- A deletion after which the row stays. -/
theorem Tallies.removed_iff (h : Tallies ids vms) (hmem : vmId ∈ ids)
    (hremoved : Removed vmId vms vms') : Tallies ids vms' ↔ vms' = vms := by
  obtain ⟨hthere, rfl | rfl⟩ := hremoved
  · exact ⟨fun _ => rfl, fun _ => h⟩
  · refine ⟨fun h' => absurd ((h'.2 vmId).mp hmem) ?_, fun heq => by rw [heq]; exact h⟩
    rw [cloneMark_erase, if_pos rfl]
    simp

/-- A deletion after which the row goes. -/
theorem Tallies.erase_removed_iff {before after : List ℕ}
    (h : Tallies (before ++ vmId :: after) vms) (hremoved : Removed vmId vms vms') :
    Tallies (before ++ after) vms' ↔ vmId ∉ vms' := by
  obtain ⟨hnot, hnodup⟩ := List.nodup_middle.mp h.1 |> List.nodup_cons.mp
  have hmark : cloneMark vms vmId = some true := (h.2 vmId).mp (by simp)
  obtain ⟨hthere, rfl | rfl⟩ := hremoved
  · exact ⟨fun h' => absurd ((h'.2 vmId).mpr hmark) hnot, fun hgone => absurd hthere hgone⟩
  · refine ⟨fun _ => by simp [AList.mem_erase], fun _ => ⟨hnodup, fun id => ?_⟩⟩
    rw [cloneMark_erase]
    split_ifs with hid
    · simpa [hid] using hnot
    · rw [← h.2 id]
      simp [hid]

end

/-! ## The requests -/

section
variable {net : ℕ → Exchange} {config : ProxmoxConfig} {depth : ℕ} {request : CreateRequest}

/-- A change of a VM that is no change of the mark. -/
theorem keeps_changeVm_mark {vmId : ℕ} {edit : Vm → Option Vm}
    (hedit : ∀ vm vm', edit vm = some vm' → vm'.cloned = vm.cloned) :
    Keeps (fun s => cloneMark (storeOf s)) (changeVm net vmId edit) := by
  refine (keeps_call ?_).bind fun _ => keeps_pure ()
  intro x vms vms' a h
  obtain ⟨vms₁, hchange, heq⟩ := Option.map_eq_some_iff.mp h
  cases heq
  obtain ⟨vm', hbind, rfl⟩ := Option.map_eq_some_iff.mp hchange
  obtain ⟨vm, hlookup, hvm⟩ := Option.bind_eq_some_iff.mp hbind
  funext id
  rw [cloneMark_insert, hedit vm vm' hvm]
  split_ifs with hid
  · unfold cloneMark
    rw [hid, hlookup]
    rfl
  · rfl

/-- Step 6 makes and removes no VM. -/
theorem keeps_configureVm_mark (newVmId : ℕ) (internalIp : String) :
    Keeps (fun b => cloneMark (vmsOf b)) (configureVm net request newVmId internalIp) := by
  have happly : ∀ {edit : Vm → Option Vm},
      (∀ vm vm', edit vm = some vm' → vm'.cloned = vm.cloned) →
      Keeps (fun b => cloneMark (vmsOf b)) (api (changeVm net newVmId edit)) :=
    fun hedit => (keeps_changeVm_mark hedit).zoom fun _ _ => rfl
  refine (happly fun vm vm' h => ?_).bind fun _ => Keeps.bind ?_ fun _ => ?_
  · cases h
    rfl
  · unfold configureDisk
    split_ifs
    · refine happly fun vm vm' h => ?_
      split_ifs at h
      cases h
      rfl
    · exact keeps_pure ()
  · unfold configureAddress
    split
    · exact keeps_pure ()
    · split_ifs
      · exact keeps_pure ()
      · refine happly fun vm vm' h => ?_
        cases h
        rfl

/-- The rows before and after a deletion. -/
theorem delete_split {db : Database} {vmId : ℕ} {vm : VMachine}
    (hfind : db.findById vmId = some vm) :
    ∃ before after, db.proxmoxVmIds = before ++ vm.proxmoxVmId :: after ∧
      (db.delete vm.id).proxmoxVmIds = before ++ after := by
  obtain ⟨hid, rows₁, rows₂, hrows, hothers⟩ := List.find?_eq_some_iff_append.mp hfind
  refine ⟨rows₁.map (·.proxmoxVmId), rows₂.map (·.proxmoxVmId), ?_, ?_⟩
  · unfold Database.proxmoxVmIds
    rw [hrows]
    simp
  · have hvm : vm.id = vmId := by simpa using hid
    unfold Database.proxmoxVmIds Database.delete
    dsimp only
    rw [hrows, List.eraseP_append_right _ (fun row hrow => ?_), List.eraseP_cons_of_pos (by simp)]
    · simp
    · simpa [hvm] using hothers row hrow

section
variable {ids : List ℕ} {newVmId : ℕ} {b b' : Backend}

/-- If steps 4 and 5 throw, there must not be a VM. -/
theorem Tallies.cloneAndWait_error_iff (h : Tallies ids (vmsOf b)) {e : ServiceError}
    (hrun : (cloneAndWait net config request newVmId).run b = .error e b') :
    Tallies ids (vmsOf b') ↔ CloneTold net config request newVmId b := by
  unfold CloneTold
  rcases run_bind_eq_error.mp hrun with hcall | ⟨taskId, b₁, hcall, hwait⟩
  · rw [hcall]
    obtain ⟨e', s, hclone, -, rfl⟩ := zoom_eq_error.mp hcall
    rcases cloneVm_error hclone with hsame | hcloned
    · have hvms : vmsOf { b with proxmox := s } = vmsOf b := hsame
      dsimp only
      rw [hvms]
      exact ⟨fun _ => rfl, fun _ => h⟩
    · exact (h.cloned_iff hcloned).trans hcloned.notMem_iff
  · rw [hcall, hrun, (keeps_waitForClone_vms taskId).of_error hwait]
    obtain ⟨s, hclone, rfl⟩ := zoom_eq_ok.mp hcall
    have hcloned := cloneVm_ok hclone
    simp only [thrown_error, reduceCtorEq, iff_false]
    exact h.cloned_iff hcloned

/-- If they return, there must be one. -/
theorem Tallies.cloneAndWait_ok_iff (h : Tallies ids (vmsOf b)) {u : Unit}
    (hrun : (cloneAndWait net config request newVmId).run b = .ok u b') :
    Tallies (newVmId :: ids) (vmsOf b') ↔ CloneTold net config request newVmId b := by
  unfold CloneTold
  obtain ⟨taskId, b₁, hcall, hwait⟩ := run_bind_eq_ok.mp hrun
  rw [hcall, hrun, (keeps_waitForClone_vms taskId).of_ok hwait]
  obtain ⟨s, hclone, rfl⟩ := zoom_eq_ok.mp hcall
  have hcloned := cloneVm_ok hclone
  simp only [thrown_ok, iff_true]
  exact h.cons_cloned_iff hcloned

end

/-- **`createVm` keeps the correspondence** exactly if it is told what has become of the clone. -/
theorem correspond_createVm_iff {b : Backend} (hb : Correspond b) :
    Correspond (serve net config depth b (.createVm request)) ↔
      Told net config depth b (.createVm request) := by
  have hout : Created net config depth request b _ := createVm_outcome net config depth request b
  -- Steps 1 to 3 change no VM.
  have hchosen : Tallies b.db.proxmoxVmIds
      (vmsOf (final ((chooseVmId net config depth request).run b))) := by
    rw [keeps_chooseVmId_vms b]
    exact hb
  unfold Told serve
  dsimp only
  generalize (VmService.createVm net config depth request).run b = result at hout
  cases hout with
  | @unchosen e b₁ hchoose =>
      rw [hchoose] at hchosen ⊢
      exact ⟨fun _ => trivial, fun _ => hchosen⟩
  | @noAddress newVmId e b₁ hchoose hip =>
      rw [hchoose] at hchosen ⊢
      dsimp only
      rw [hip]
      exact ⟨fun _ h => absurd h (by simp), fun _ => hchosen⟩
  | @uncloned newVmId internalIp e b₁ b₂ hchoose hip hclone =>
      rw [hchoose] at hchosen ⊢
      simp only [hip, thrown_ok, true_imp_iff]
      show Tallies b.db.proxmoxVmIds (vmsOf b₂) ↔ _
      exact hchosen.cloneAndWait_error_iff hclone
  | @created newVmId internalIp b₁ b₂ hchoose hip hclone =>
      rw [hchoose] at hchosen ⊢
      rw [final_ok] at hchosen
      simp only [hip, thrown_ok, true_imp_iff]
      rw [← hchosen.cloneAndWait_ok_iff hclone]
      exact Tallies.congr (keeps_configureVm_mark newVmId internalIp b₂)

/-- **`deleteVm` keeps the correspondence** exactly if it is told what has become of the VM. -/
theorem correspond_deleteVm_iff {b : Backend} (hb : Correspond b) (vmId : ℕ) :
    Correspond (serve net config depth b (.deleteVm vmId)) ↔
      Told net config depth b (.deleteVm vmId) := by
  have hout : Deleted net vmId b _ := deleteVm_outcome net vmId b
  unfold Told serve
  dsimp only
  generalize (VmService.deleteVm net vmId).run b = result at hout
  cases hout with
  | notFound hfind =>
      rw [hfind]
      exact ⟨fun _ => trivial, fun _ => hb⟩
  | @failed vm e proxmox hfind hdelete =>
      rw [hfind]
      dsimp only
      unfold DeleteTold
      rw [hdelete]
      dsimp only
      have hmem : vm.proxmoxVmId ∈ b.db.proxmoxVmIds :=
        List.mem_map_of_mem (List.mem_of_find?_eq_some hfind)
      rcases deleteVm_error hdelete with hsame | hremoved
      · refine ⟨fun _ => hsame, fun _ => ?_⟩
        show Tallies b.db.proxmoxVmIds (storeOf proxmox)
        rw [hsame]
        exact hb
      · exact Tallies.removed_iff hb hmem hremoved
  | @deleted vm upid proxmox hfind hdelete =>
      rw [hfind]
      dsimp only
      unfold DeleteTold
      rw [hdelete]
      dsimp only
      obtain ⟨before, after, hrows, hrows'⟩ := delete_split hfind
      have htally : Tallies (before ++ vm.proxmoxVmId :: after) (storeOf b.proxmox) := by
        rw [← hrows]
        exact hb
      show Tallies (b.db.delete vm.id).proxmoxVmIds (storeOf proxmox) ↔ _
      rw [hrows']
      exact htally.erase_removed_iff (deleteVm_ok hdelete)

/-- A clone on a transparent network. -/
theorem cloneTold_of_answered {newVmId : ℕ} {b : Backend}
    (hlost : (net (firstRequest b.proxmox)).reply ≠ .lost)
    (htask : (net (firstRequest b.proxmox)).taskFails = false)
    (hpolls : ∀ k < clonePolls net (firstRequest b.proxmox),
      (net (firstRequest b.proxmox + 1 + k)).answered = true) :
    CloneTold net config request newVmId b := by
  unfold CloneTold
  cases hclone : (api (cloneVm net config newVmId request.vmName)).run b with
  | error e b' =>
      obtain ⟨e', s, hrun, -, rfl⟩ := zoom_eq_error.mp hclone
      rcases call_error hrun with hsame | ⟨hreply, -⟩
      · exact hsame
      · exact absurd hreply hlost
  | ok taskId b' =>
      obtain ⟨hsent, hsends⟩ := sends_waitForClone hclone
      have hwait : (cloneAndWait net config request newVmId).run b
          = (waitForClone net taskId).run b' := by
        unfold cloneAndWait
        rw [EStateM.run_bind, hclone]
      have hreturns : thrown ((waitForClone net taskId).run b') = none := by
        rw [hsends.returns_iff, hsent]
        exact hpolls
      obtain ⟨s, hrun, rfl⟩ := zoom_eq_ok.mp hclone
      rw [hwait]
      exact ⟨fun _ => hreturns, fun _ => (cloneVm_mem_iff hrun).mpr htask⟩

/-- A deletion on a transparent network. -/
theorem deleteTold_of_answered {vmId : ℕ} {s : Proxmox}
    (hlost : (net (firstRequest s)).reply ≠ .lost)
    (htask : (net (firstRequest s)).taskFails = false) : DeleteTold net vmId s := by
  unfold DeleteTold
  cases hrun : (deleteVm net vmId).run s with
  | error e s' =>
      rcases call_error hrun with hsame | ⟨hreply, -⟩
      · exact hsame
      · exact absurd hreply hlost
  | ok taskId s' =>
      obtain ⟨upid, hhandle, -⟩ := call_ok hrun
      split_ifs at hhandle with hused hfails
      · exact absurd hfails (by simp [htask])
      · dsimp only
        rw [← show (storeOf s).erase vmId = storeOf s' from
          congrArg Prod.fst (Option.some.inj hhandle)]
        simp [AList.mem_erase]

theorem told_of_transparent {b : Backend} {r : Request} (h : Transparent net config depth b r) :
    Told net config depth b r := by
  cases r with
  | createVm request =>
      obtain ⟨hlost, htask, hpolls⟩ := h
      unfold cloneRequest at hlost htask hpolls
      unfold Told
      dsimp only
      cases hchoose : (chooseVmId net config depth request).run b with
      | error e b₁ => trivial
      | ok newVmId b₁ =>
          rw [hchoose] at hlost htask hpolls
          exact fun _ => cloneTold_of_answered hlost htask hpolls
  | deleteVm vmId =>
      unfold Told
      dsimp only
      cases hfind : b.db.findById vmId with
      | none => trivial
      | some vm => exact deleteTold_of_answered h.1 h.2

/-- **When the rows and the VMs correspond throughout a run**: exactly if every request is told
what has become of its clone or deletion.  It is enough that the network is transparent. -/
theorem correspond_throughout_iff {b : Backend} (hb : Correspond b) (requests : List Request) :
    (Throughout (serve net config depth) Correspond b requests ↔
        Along (serve net config depth) (Told net config depth) b requests) ∧
      (Along (serve net config depth) (Transparent net config depth) b requests →
        Throughout (serve net config depth) Correspond b requests) := by
  have hiff : Throughout (serve net config depth) Correspond b requests ↔
      Along (serve net config depth) (Told net config depth) b requests := by
    refine throughout_iff_along_of_step (fun s request hs => ?_) hb requests
    cases request with
    | createVm request => exact correspond_createVm_iff hs
    | deleteVm vmId => exact correspond_deleteVm_iff hs vmId
  refine ⟨hiff, fun h => hiff.mpr ?_⟩
  exact h.imp (I := fun _ => True) (fun s r _ hr => ⟨trivial, told_of_transparent hr⟩) trivial

end

/-! ## Samples -/

/-- Requests that are served, but for the answer to the first poll for a task, and tasks that
fail or do not. -/
def cloneNet (pollReply : Reply) (taskFails : Bool) (n : ℕ) : Exchange :=
  ⟨false, if n = 3 then pollReply else .served, "UPID", taskFails, true, false⟩

theorem correspond_start : Correspond (startBackend sampleHost) := by
  refine ⟨List.nodup_nil, fun vmId => ⟨fun h => absurd h List.not_mem_nil, fun h => ?_⟩⟩
  have hvms : vmsOf (startBackend sampleHost)
      = AList.singleton 201 ⟨"template", 1, 1024, 20, none, "stopped", false⟩ := rfl
  by_cases hid : vmId = 201
  · rw [hid] at h
    exact absurd h (by decide)
  · rw [hvms, cloneMark_of_notMem (by simpa [AList.mem_keys] using hid)] at h
    cases h

/-- A VM is made and deleted, and all goes well. -/
theorem correspond_served :
    Throughout (serve (cloneNet .served false) ⟨201⟩ 10) Correspond (startBackend sampleHost)
      [.createVm plainRequest, .deleteVm 1] :=
  (correspond_throughout_iff correspond_start _).1.mpr (by decide +kernel)

/-- The backend after the first request. -/
def afterCreate (net : ℕ → Exchange) : Backend :=
  serve net ⟨201⟩ 10 (startBackend sampleHost) (.createVm plainRequest)

/-- **A poll that fails** leaves a VM without a row, **a task that fails** a row without a VM. -/
theorem orphan_and_phantom :
    ((afterCreate (cloneNet .refused false)).db.proxmoxVmIds = [] ∧
        cloneMark (vmsOf (afterCreate (cloneNet .refused false))) 100 = some true ∧
        ¬ Correspond (afterCreate (cloneNet .refused false))) ∧
      ((afterCreate (cloneNet .served true)).db.proxmoxVmIds = [100] ∧
        cloneMark (vmsOf (afterCreate (cloneNet .served true))) 100 = none ∧
        ¬ Correspond (afterCreate (cloneNet .served true))) := by
  refine ⟨⟨by decide +kernel, by decide +kernel, fun h => ?_⟩,
    ⟨by decide +kernel, by decide +kernel, fun h => ?_⟩⟩
  · exact absurd ((h.2 100).mpr (by decide +kernel)) (by decide +kernel)
  · exact absurd ((h.2 100).mp (by decide +kernel)) (by decide +kernel)

end Cloud
