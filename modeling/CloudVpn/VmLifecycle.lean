/-
# The life of a VM

Model of `startVm` and `stopVm` of `VmServiceImpl`, and runs of the calls of `VmController`, one
after the other and each with its answer.

A call changes the table in its last step, and a transaction that throws changes nothing.  So
the table is what the answers say, whatever Proxmox does: `table_replays_answers` computes the
rows from the answers alone.

What the rows say about the host is another matter, since `startVm`, `stopVm` and `deleteVm` return
when their task has been started.  `rows_true_throughout` is about the runs in which each task has
ended when the next request is sent, as the model has it: if no answer is lost and no task fails,
every row has a VM of its own with the status of the row, and the status that `getVm` fetches is
the one that it has read.  While a task is still running, `getVm` may show the status before it.
-/
import CloudVpn.PageController
import CloudVpn.Traces
import CloudVpn.VmIds
import CloudVpn.VmRecords

open Effects Runs Traces

namespace Cloud

/-! ## The service -/

/-- `save` of a VM that has a row. -/
def Database.update (db : Database) (vm : VMachine) : Database :=
  { db with vms := db.vms.map fun row => if row.id = vm.id then vm else row }

namespace VmService

/-- The shape of `startVm` and `stopVm`. -/
def switchVm (call : ℕ → Api (Option String)) (status : VmStatus) (message : String) (vmId : ℕ) :
    Service VmSimpleResponse :=
  transactional do
    let b ← get
    match b.db.findById vmId with
    | none => throw (.base .notFound)
    | some vm =>
        let _ ← api (call vm.proxmoxVmId)
        modify fun b => { b with db := b.db.update { vm with status := status } }
        return ⟨vmId, message⟩

/-- `startVm`. -/
def startVm (net : ℕ → Exchange) : ℕ → Service VmSimpleResponse :=
  switchVm (Cloud.startVm net) .running "VM이 시작되었습니다."

/-- `stopVm`. -/
def stopVm (net : ℕ → Exchange) : ℕ → Service VmSimpleResponse :=
  switchVm (Cloud.stopVm net) .stopped "VM이 정지되었습니다."

end VmService

/-! ## The calls of the controller -/

/-- The calls of `VmController` about the VMs of the table. -/
inductive VmCall where
  | createVm (request : CreateRequest)
  | getVm (vmId : ℕ)
  | getMyVms (memberId : ℕ)
  | startVm (vmId : ℕ)
  | stopVm (vmId : ℕ)
  | deleteVm (vmId : ℕ)

/-- The bodies of their answers. -/
inductive VmAnswer where
  | created (response : VmCreateResponse)
  | info (vm : VmInfo)
  | infos (vms : List VmInfo)
  | done (response : VmSimpleResponse)
  deriving DecidableEq

/-- A call with its answer, or with the exception that is thrown. -/
abbrev Exchanges := VmCall × Except ServiceError VmAnswer

section
variable (net : ℕ → Exchange) (config : ProxmoxConfig) (depth : ℕ) (createdAt : ℕ → ℕ)

/-- The handlers of `VmController`. -/
def handleVm : VmCall → Service VmAnswer
  | .createVm request =>
      -- `@Valid`
      if request.Valid then .created <$> VmService.createVm net config depth request
      else throw (.base .badRequest)
  | .getVm vmId => .info <$> VmService.getVm net depth createdAt vmId
  | .getMyVms memberId => .infos <$> VmService.getMyVms createdAt memberId
  | .startVm vmId => .done <$> VmService.startVm net vmId
  | .stopVm vmId => .done <$> VmService.stopVm net vmId
  | .deleteVm vmId => .done <$> VmService.deleteVm net vmId

/-- One call: the backend after it, and the answer. -/
def serveVm (b : Backend) (call : VmCall) : Backend × List Exchanges :=
  (final ((handleVm net config depth createdAt call).run b),
    [(call, outcome ((handleVm net config depth createdAt call).run b))])

end

/-! ## What can come of a call -/

/-- What can come of `startVm` and `stopVm`. -/
inductive Switched (call : ℕ → Api (Option String)) (status : VmStatus) (message : String)
    (vmId : ℕ) (b : Backend) : EStateM.Result ServiceError Backend VmSimpleResponse → Prop
  | notFound (hfind : b.db.findById vmId = none) :
      Switched call status message vmId b (.error (.base .notFound) b)
  | failed {vm : VMachine} {e : ApiError} {proxmox : Proxmox}
      (hfind : b.db.findById vmId = some vm)
      (hcall : (call vm.proxmoxVmId).run b.proxmox = .error e proxmox) :
      Switched call status message vmId b (.error (.proxmox e) ⟨proxmox, b.db⟩)
  | switched {vm : VMachine} {upid : Option String} {proxmox : Proxmox}
      (hfind : b.db.findById vmId = some vm)
      (hcall : (call vm.proxmoxVmId).run b.proxmox = .ok upid proxmox) :
      Switched call status message vmId b
        (.ok ⟨vmId, message⟩ ⟨proxmox, b.db.update { vm with status := status }⟩)

/-- **Every `startVm` and `stopVm` has one of the outcomes.** -/
theorem switchVm_outcome (call : ℕ → Api (Option String)) (status : VmStatus) (message : String)
    (vmId : ℕ) (b : Backend) :
    Switched call status message vmId b ((VmService.switchVm call status message vmId).run b) := by
  unfold VmService.switchVm transactional
  rw [run_rollback, EStateM.run_bind, EStateM.run_get]
  dsimp only
  cases hfind : b.db.findById vmId with
  | none => exact .notFound hfind
  | some vm =>
      dsimp only
      rw [EStateM.run_bind]
      cases hcall : (call vm.proxmoxVmId).run b.proxmox with
      | error e proxmox =>
          rw [api_of_error hcall]
          exact .failed hfind hcall
      | ok upid proxmox =>
          rw [api_of_ok hcall]
          exact .switched hfind hcall

section
variable {net : ℕ → Exchange} {depth : ℕ} {createdAt : ℕ → ℕ}

theorem keeps_getVmStatus (vmId : ℕ) : Keeps storeOf (getVmStatus net vmId depth) := by
  apply keeps_retrying
  apply keeps_request
  intro x vms vms' a h
  obtain ⟨vm, -, heq⟩ := Option.map_eq_some_iff.mp h
  exact (congrArg Prod.fst heq).symm

/-- `getVm` keeps what the request for the status keeps. -/
theorem keeps_getVm {γ : Type} {f : Backend → γ}
    (hf : ∀ vmId, Keeps f (api (getVmStatus net vmId depth))) (vmId : ℕ) :
    Keeps f (VmService.getVm net depth createdAt vmId) := by
  apply keeps_get.bind
  intro b
  split
  · exact keeps_throw _
  · refine Keeps.bind (Keeps.tryCatch ((hf _).bind fun data => ?_) fun e => ?_) fun _ => keeps_pure _
    · split
      · exact keeps_pure _
      · exact keeps_pure _
    · split_ifs
      · exact keeps_throw _
      · exact keeps_pure _

end

/-! ## The table and the answers -/

/-- The ids are a primary key, and the next one is new. -/
structure Database.Keyed (db : Database) : Prop where
  ids : (db.vms.map (·.id)).Nodup
  fresh : ∀ row ∈ db.vms, row.id < db.nextId

/-- The rows with the status of one of them changed. -/
def setRowStatus (vmId : ℕ) (status : VmStatus) (rows : List VMachine) : List VMachine :=
  rows.map fun row => if row.id = vmId then { row with status := status } else row

/-- The rows after a call, from its answer. -/
def replay (rows : List VMachine) : Exchanges → List VMachine
  | (.createVm request, .ok (.created response)) =>
      { newVMachine request response.proxmoxVmId response.internalIp with
        id := response.vmId } :: rows
  | (.startVm vmId, .ok _) => setRowStatus vmId .running rows
  | (.stopVm vmId, .ok _) => setRowStatus vmId .stopped rows
  | (.deleteVm vmId, .ok _) => rows.eraseP fun row => row.id == vmId
  | _ => rows

section
variable {db : Database} {vmId : ℕ} {vm : VMachine}

theorem findById_id (hfind : db.findById vmId = some vm) : vm.id = vmId := by
  simpa using List.find?_some hfind

theorem Database.Keyed.save (h : db.Keyed) (vm : VMachine) : (db.save vm).Keyed := by
  constructor
  · refine List.nodup_cons.mpr ⟨fun hmem => ?_, h.ids⟩
    obtain ⟨row, hrow, hid⟩ := List.mem_map.mp hmem
    exact absurd hid (Nat.ne_of_lt (h.fresh row hrow))
  · intro row hrow
    rcases List.mem_cons.mp hrow with rfl | hrow
    · exact Nat.lt_succ_self db.nextId
    · exact Nat.lt_succ_of_lt (h.fresh row hrow)

theorem Database.Keyed.delete (h : db.Keyed) (vmId : ℕ) : (db.delete vmId).Keyed :=
  ⟨h.ids.sublist (List.eraseP_sublist.map _),
    fun row hrow => h.fresh row (List.mem_of_mem_eraseP hrow)⟩

/-- The update of a row that was found changes this row's status. -/
theorem Database.Keyed.update_vms (h : db.Keyed) (hfind : db.findById vmId = some vm)
    (status : VmStatus) :
    (db.update { vm with status := status }).vms = setRowStatus vmId status db.vms := by
  refine List.map_congr_left fun row hrow => ?_
  have hvm : vm.id = vmId := findById_id hfind
  by_cases hid : row.id = vmId
  · rw [if_pos (hid.trans hvm.symm), if_pos hid,
      List.inj_on_of_nodup_map h.ids hrow (List.mem_of_find?_eq_some hfind) (hid.trans hvm.symm)]
  · rw [if_neg (fun heq => hid (heq.trans hvm)), if_neg hid]

theorem Database.Keyed.update (h : db.Keyed) (vm : VMachine) : (db.update vm).Keyed := by
  have hids : (db.update vm).vms.map (·.id) = db.vms.map (·.id) := by
    unfold Database.update
    rw [List.map_map]
    refine List.map_congr_left fun row _ => ?_
    dsimp only [Function.comp_apply]
    split_ifs with hid
    · exact hid.symm
    · rfl
  constructor
  · rw [hids]
    exact h.ids
  · intro row hrow
    have hmem : row.id ∈ (db.update vm).vms.map (·.id) := List.mem_map.mpr ⟨row, hrow, rfl⟩
    rw [hids] at hmem
    obtain ⟨old, hold, hid⟩ := List.mem_map.mp hmem
    rw [← hid]
    exact h.fresh old hold

end

section
variable (net : ℕ → Exchange) (config : ProxmoxConfig) (depth : ℕ) (createdAt : ℕ → ℕ)

/-- The table after a call is what the answer says. -/
def Replayed (b : Backend) (call : VmCall) : Prop :=
  (after (serveVm net config depth createdAt) b call).db.vms
      = replay b.db.vms (call, outcome ((handleVm net config depth createdAt call).run b)) ∧
    (after (serveVm net config depth createdAt) b call).db.Keyed

end

section
variable {net : ℕ → Exchange} {config : ProxmoxConfig} {depth : ℕ} {createdAt : ℕ → ℕ}
  {b : Backend}

/-- A call whose handler runs a program of the service. -/
theorem replayed_of_map {α : Type} {call : VmCall} {wrap : α → VmAnswer} {m : Service α}
    (hcall : handleVm net config depth createdAt call = wrap <$> m)
    (hrows : (final (m.run b)).db.vms = replay b.db.vms (call, (outcome (m.run b)).map wrap))
    (hkeyed : (final (m.run b)).db.Keyed) : Replayed net config depth createdAt b call := by
  unfold Replayed after serveVm
  rw [hcall, final_map, outcome_map]
  exact ⟨hrows, hkeyed⟩

theorem replayed_createVm (hb : b.db.Keyed) (request : CreateRequest) :
    Replayed net config depth createdAt b (.createVm request) := by
  by_cases hvalid : request.Valid
  · have hout : Created net config depth request b _ := createVm_outcome net config depth request b
    have hcall : handleVm net config depth createdAt (.createVm request)
        = .created <$> VmService.createVm net config depth request := if_pos hvalid
    apply replayed_of_map hcall
    all_goals generalize (VmService.createVm net config depth request).run b = result at hout
    · cases hout <;> rfl
    · cases hout with
      | unchosen _ => exact hb
      | noAddress _ _ => exact hb
      | uncloned _ _ _ => exact hb
      | created _ _ _ => exact hb.save _
  · have hcall : handleVm net config depth createdAt (.createVm request)
        = throw (.base .badRequest) := if_neg hvalid
    unfold Replayed after serveVm
    rw [hcall]
    exact ⟨rfl, hb⟩

/-- `startVm` and `stopVm`. -/
theorem replayed_switchVm (hb : b.db.Keyed) {call : VmCall} {task : ℕ → Api (Option String)}
    {status : VmStatus} {message : String} {vmId : ℕ}
    (hcall : handleVm net config depth createdAt call
      = .done <$> VmService.switchVm task status message vmId)
    (hok : ∀ rows response, replay rows (call, .ok response) = setRowStatus vmId status rows)
    (herror : ∀ rows e, replay rows (call, .error e) = rows) :
    Replayed net config depth createdAt b call := by
  have hout : Switched task status message vmId b _ := switchVm_outcome task status message vmId b
  apply replayed_of_map hcall
  all_goals generalize (VmService.switchVm task status message vmId).run b = result at hout
  · cases hout with
    | notFound _ => exact (herror _ _).symm
    | failed _ _ => exact (herror _ _).symm
    | switched hfind _ => exact (hb.update_vms hfind status).trans (hok _ _).symm
  · cases hout with
    | notFound _ => exact hb
    | failed _ _ => exact hb
    | switched _ _ => exact hb.update _

theorem replayed_deleteVm (hb : b.db.Keyed) (vmId : ℕ) :
    Replayed net config depth createdAt b (.deleteVm vmId) := by
  have hout : Deleted net vmId b _ := deleteVm_outcome net vmId b
  apply replayed_of_map rfl
  all_goals generalize (VmService.deleteVm net vmId).run b = result at hout
  · cases hout with
    | notFound _ => rfl
    | failed _ _ => rfl
    | deleted hfind _ =>
        rw [findById_id hfind]
        rfl
  · cases hout with
    | notFound _ => exact hb
    | failed _ _ => exact hb
    | deleted _ _ => exact hb.delete _

/-- **One call.** -/
theorem replayed_call (hb : b.db.Keyed) (call : VmCall) :
    Replayed net config depth createdAt b call := by
  cases call with
  | createVm request => exact replayed_createVm hb request
  | getVm vmId =>
      have hdb : (final ((VmService.getVm net depth createdAt vmId).run b)).db = b.db :=
        keeps_getVm (f := dbOf) (fun _ => keeps_api_db _) vmId b
      refine replayed_of_map rfl ?_ ?_
      · rw [hdb]
        rfl
      · rw [hdb]
        exact hb
  | getMyVms memberId => exact replayed_of_map rfl rfl hb
  | startVm vmId => exact replayed_switchVm hb rfl (fun _ _ => rfl) fun _ _ => rfl
  | stopVm vmId => exact replayed_switchVm hb rfl (fun _ _ => rfl) fun _ _ => rfl
  | deleteVm vmId => exact replayed_deleteVm hb vmId

/-- **The table is what the answers say.**  Whatever Proxmox does, the rows after a run of calls
are those that one gets from the rows before it and the answers: a row for each VM whose creation
was answered, under the id, the address and the Proxmox id of the answer, with the status of the
last `startVm` or `stopVm` that was answered, until a `deleteVm` was.  A call that has thrown has
left no trace. -/
theorem table_replays_answers (hb : b.db.Keyed) (calls : List VmCall) :
    (run (after (serveVm net config depth createdAt)) b calls).db.vms
      = run replay b.db.vms (outputs (serveVm net config depth createdAt) b calls) := by
  let machine := serveVm net config depth createdAt
  -- The rows are at all times those that the answers so far give.
  let Accurate (b' : Backend) (answers : List Exchanges) : Prop :=
    b'.db.Keyed ∧ b'.db.vms = run replay b.db.vms answers
  have hstep : ∀ b' call answers, Accurate b' answers → True →
      Accurate (machine b' call).1 (answers ++ (machine b' call).2) := by
    rintro b' call answers ⟨hkeyed, hrows⟩ -
    have hcall : Replayed net config depth createdAt b' call := replayed_call hkeyed call
    refine ⟨hcall.2, ?_⟩
    rw [run_append, ← hrows]
    exact hcall.1
  have hstart : Accurate b [] := ⟨hb, rfl⟩
  exact (history_invariant (I := Accurate) hstep hstart (along_true b calls)).2

end

/-! ## The rows and the host -/

/-- No answer is lost and no task fails. -/
def Orderly (net : ℕ → Exchange) : Prop := ∀ n, (net n).reply ≠ .lost ∧ (net n).taskFails = false

/-- The status of a VM on the host. -/
def power (vms : VmStore) (vmId : ℕ) : Option VmStatus :=
  (vms.lookup vmId).map fun vm => mapProxmoxStatus vm.status

/-- Every row has a VM of its own, with the status of the row.  The template has no row and does
not run. -/
structure Truthful (template : ℕ) (rows : List VMachine) (power : ℕ → Option VmStatus) : Prop where
  ids : (rows.map (·.proxmoxVmId)).Nodup
  status : ∀ row ∈ rows, power row.proxmoxVmId = some row.status
  stopped : ∀ status ∈ power template, status = .stopped
  spared : template ∉ rows.map (·.proxmoxVmId)

/-- The table is in order and tells the truth. -/
def RowsTrue (config : ProxmoxConfig) (b : Backend) : Prop :=
  b.db.Keyed ∧ Truthful config.templateVmid b.db.vms (power (vmsOf b))

theorem power_insert (vms : VmStore) (vmId : ℕ) (vm : Vm) :
    power (vms.insert vmId vm)
      = Function.update (power vms) vmId (some (mapProxmoxStatus vm.status)) := by
  funext id
  unfold power
  by_cases hid : id = vmId
  · rw [hid, AList.lookup_insert, Function.update_self]
    rfl
  · rw [AList.lookup_insert_ne hid, Function.update_of_ne hid]

theorem power_erase (vms : VmStore) (vmId : ℕ) :
    power (vms.erase vmId) = Function.update (power vms) vmId none := by
  funext id
  unfold power
  by_cases hid : id = vmId
  · rw [hid, AList.lookup_erase, Function.update_self]
    rfl
  · rw [AList.lookup_erase_ne hid, Function.update_of_ne hid]

theorem power_eq_none {vms : VmStore} {vmId : ℕ} (h : vmId ∉ vms) : power vms vmId = none := by
  unfold power
  rw [AList.lookup_eq_none.mpr h]
  rfl

section
variable {template vmId : ℕ} {rows : List VMachine} {power : ℕ → Option VmStatus}

/-- A new VM that gets no row. -/
theorem Truthful.cloned (h : Truthful template rows power) (hfree : power vmId = none)
    (htemplate : template ≠ vmId) (status : VmStatus) :
    Truthful template rows (Function.update power vmId (some status)) where
  ids := h.ids
  status := by
    intro row hrow
    have hne : row.proxmoxVmId ≠ vmId := by
      rintro rfl
      rw [h.status row hrow] at hfree
      cases hfree
    rw [Function.update_of_ne hne]
    exact h.status row hrow
  stopped := by
    rw [Function.update_of_ne htemplate]
    exact h.stopped
  spared := h.spared

/-- A new VM that gets a row. -/
theorem Truthful.cons (h : Truthful template rows power) {row : VMachine}
    (hfree : power row.proxmoxVmId = none) (htemplate : template ≠ row.proxmoxVmId) :
    Truthful template (row :: rows) (Function.update power row.proxmoxVmId (some row.status)) where
  ids := by
    refine List.nodup_cons.mpr ⟨fun hmem => ?_, h.ids⟩
    obtain ⟨other, hother, hid⟩ := List.mem_map.mp hmem
    have hstatus := h.status other hother
    rw [hid, hfree] at hstatus
    cases hstatus
  status := by
    intro other hother
    rcases List.mem_cons.mp hother with rfl | hother
    · exact Function.update_self ..
    · exact (h.cloned hfree htemplate row.status).status other hother
  stopped := (h.cloned hfree htemplate row.status).stopped
  spared := by
    rw [List.map_cons, List.mem_cons, not_or]
    exact ⟨htemplate, h.spared⟩

/-- A VM that goes with its row. -/
theorem Truthful.removed {before after : List VMachine} {row : VMachine}
    (h : Truthful template (before ++ row :: after) power) :
    Truthful template (before ++ after) (Function.update power row.proxmoxVmId none) := by
  have hids := h.ids
  rw [List.map_append, List.map_cons, List.nodup_middle, ← List.map_append,
    List.nodup_cons] at hids
  have hsub : (before ++ after).Sublist (before ++ row :: after) :=
    (List.sublist_cons_self row after).append_left before
  refine ⟨hids.2, fun other hother => ?_, ?_, fun hmem => h.spared ((hsub.map _).subset hmem)⟩
  · have hne : other.proxmoxVmId ≠ row.proxmoxVmId :=
      fun heq => hids.1 (List.mem_map.mpr ⟨other, hother, heq⟩)
    rw [Function.update_of_ne hne]
    exact h.status other (hsub.subset hother)
  · have hne : template ≠ row.proxmoxVmId := fun heq => h.spared (by simp [heq])
    rw [Function.update_of_ne hne]
    exact h.stopped

/-- A VM whose status changes with that of its row. -/
theorem Truthful.switched (h : Truthful template rows power)
    (hkey : (rows.map (·.id)).Nodup) {row : VMachine} (hrow : row ∈ rows) (status : VmStatus) :
    Truthful template (setRowStatus row.id status rows)
      (Function.update power row.proxmoxVmId (some status)) := by
  have hids : (setRowStatus row.id status rows).map (·.proxmoxVmId) = rows.map (·.proxmoxVmId) := by
    unfold setRowStatus
    rw [List.map_map]
    refine List.map_congr_left fun other _ => ?_
    dsimp only [Function.comp_apply]
    split_ifs <;> rfl
  refine ⟨hids ▸ h.ids, fun other hother => ?_, ?_, hids ▸ h.spared⟩
  · obtain ⟨old, hold, rfl⟩ := List.mem_map.mp hother
    by_cases hid : old.id = row.id
    · rw [if_pos hid, List.inj_on_of_nodup_map hkey hold hrow hid]
      exact Function.update_self ..
    · have hne : old.proxmoxVmId ≠ row.proxmoxVmId := by
        intro heq
        exact hid (congrArg VMachine.id (List.inj_on_of_nodup_map h.ids hold hrow heq))
      rw [if_neg hid, Function.update_of_ne hne]
      exact h.status old hold
  · have hne : template ≠ row.proxmoxVmId :=
      fun heq => h.spared (List.mem_map.mpr ⟨row, hrow, heq.symm⟩)
    rw [Function.update_of_ne hne]
    exact h.stopped

end

/-! ## The calls on an orderly host -/

section
variable {net : ℕ → Exchange} {config : ProxmoxConfig} {depth : ℕ} {createdAt : ℕ → ℕ}

/-- A call that throws has had no effect. -/
theorem Orderly.call_error (hnet : Orderly net) {α : Type}
    {handle : Exchange → VmStore → Option (VmStore × α)} {s s' : Proxmox} {e : ApiError}
    (h : (call net handle).run s = .error e s') : storeOf s' = storeOf s := by
  rcases Cloud.call_error h with hsame | ⟨hlost, -⟩
  · exact hsame
  · exact absurd hlost (hnet _).1

/-- A task that was started has had its effect. -/
theorem Orderly.startTask_ok (hnet : Orderly net) {vmId : ℕ} {effect : VmStore → VmStore}
    {s s' : Proxmox} {upid : Option String}
    (h : (startTask net vmId effect).run s = .ok upid s') :
    vmId ∈ storeOf s ∧ storeOf s' = effect (storeOf s) := by
  obtain ⟨a, hhandle, -⟩ := call_ok h
  split_ifs at hhandle with hmem hfails
  · exact absurd hfails (by simp [(hnet _).2])
  · exact ⟨hmem, (congrArg Prod.fst (Option.some.inj hhandle)).symm⟩

/-- A change of the status of a VM that is there. -/
theorem power_withStatus {vms : VmStore} {vmId : ℕ} (hmem : vmId ∈ vms) (status : String) :
    power (withStatus vmId status vms)
      = Function.update (power vms) vmId (some (mapProxmoxStatus status)) := by
  obtain ⟨vm, hvm⟩ := Option.isSome_iff_exists.mp (AList.lookup_isSome.mpr hmem)
  unfold withStatus editVm
  rw [hvm]
  exact power_insert vms vmId _

/-- A clone that was started is there. -/
theorem Orderly.cloneVm_ok (hnet : Orderly net) {newVmId : ℕ} {vmName : String} {s s' : Proxmox}
    {upid : Option String} (h : (cloneVm net config newVmId vmName).run s = .ok upid s') :
    newVmId ∉ storeOf s ∧ ∃ template, (storeOf s).lookup config.templateVmid = some template ∧
      storeOf s' = (storeOf s).insert newVmId { template with name := vmName, cloned := true } := by
  obtain ⟨a, hhandle, -⟩ := call_ok h
  split_ifs at hhandle with hmem hfails
  · exact absurd hfails (by simp [(hnet _).2])
  · obtain ⟨template, htemplate, heq⟩ := Option.map_eq_some_iff.mp hhandle
    exact ⟨hmem, template, htemplate, (congrArg Prod.fst heq).symm⟩

/-- A clone, seen in the status of the VMs. -/
def ClonedPower (template newVmId : ℕ) (power power' : ℕ → Option VmStatus) : Prop :=
  power newVmId = none ∧ template ≠ newVmId ∧
    ∃ status ∈ power template, power' = Function.update power newVmId (some status)

theorem Orderly.clonedPower (hnet : Orderly net) {newVmId : ℕ} {vmName : String} {s s' : Proxmox}
    {upid : Option String} (h : (cloneVm net config newVmId vmName).run s = .ok upid s') :
    ClonedPower config.templateVmid newVmId (power (storeOf s)) (power (storeOf s')) := by
  obtain ⟨hfree, template, htemplate, hstore⟩ := hnet.cloneVm_ok h
  refine ⟨power_eq_none hfree, ?_, mapProxmoxStatus template.status, ?_, ?_⟩
  · rintro rfl
    rw [AList.lookup_eq_none.mpr hfree] at htemplate
    cases htemplate
  · unfold power
    rw [htemplate]
    rfl
  · rw [hstore, power_insert]

section
variable {request : CreateRequest} {newVmId : ℕ} {b b' : Backend}

theorem Orderly.cloneAndWait_ok (hnet : Orderly net) {u : Unit}
    (h : (cloneAndWait net config request newVmId).run b = .ok u b') :
    ClonedPower config.templateVmid newVmId (power (vmsOf b)) (power (vmsOf b')) := by
  obtain ⟨taskId, b₁, hclone, hwait⟩ := run_bind_eq_ok.mp h
  obtain ⟨s, hrun, rfl⟩ := zoom_eq_ok.mp hclone
  rw [(keeps_waitForClone_vms taskId).of_ok hwait]
  exact hnet.clonedPower hrun

/-- If steps 4 and 5 throw, it is the wait that may have left a VM. -/
theorem Orderly.cloneAndWait_error (hnet : Orderly net) {e : ServiceError}
    (h : (cloneAndWait net config request newVmId).run b = .error e b') :
    vmsOf b' = vmsOf b ∨
      ClonedPower config.templateVmid newVmId (power (vmsOf b)) (power (vmsOf b')) := by
  rcases run_bind_eq_error.mp h with hclone | ⟨taskId, b₁, hclone, hwait⟩
  · obtain ⟨e', s, hrun, -, rfl⟩ := zoom_eq_error.mp hclone
    exact Or.inl (hnet.call_error hrun)
  · obtain ⟨s, hrun, rfl⟩ := zoom_eq_ok.mp hclone
    rw [(keeps_waitForClone_vms taskId).of_error hwait]
    exact Or.inr (hnet.clonedPower hrun)

end

/-- A change of a VM that is no change of its status. -/
theorem keeps_changeVm_power {vmId : ℕ} {edit : Vm → Option Vm}
    (hedit : ∀ vm vm', edit vm = some vm' → vm'.status = vm.status) :
    Keeps (fun b => power (vmsOf b)) (api (changeVm net vmId edit)) := by
  have hcall : Keeps (fun s => power (storeOf s)) (changeVm net vmId edit) := by
    refine (keeps_call ?_).bind fun _ => keeps_pure ()
    intro x vms vms' a h
    obtain ⟨vms₁, hchange, heq⟩ := Option.map_eq_some_iff.mp h
    cases heq
    obtain ⟨vm', hbind, rfl⟩ := Option.map_eq_some_iff.mp hchange
    obtain ⟨vm, hlookup, hvm⟩ := Option.bind_eq_some_iff.mp hbind
    rw [power_insert, hedit vm vm' hvm]
    refine Function.update_eq_self_iff.mpr ?_
    unfold power
    rw [hlookup]
    rfl
  exact hcall.zoom fun _ _ => rfl

/-- Step 6 starts and stops no VM. -/
theorem keeps_configureVm_power (request : CreateRequest) (newVmId : ℕ) (internalIp : String) :
    Keeps (fun b => power (vmsOf b)) (configureVm net request newVmId internalIp) := by
  refine (keeps_changeVm_power fun vm vm' h => ?_).bind fun _ => Keeps.bind ?_ fun _ => ?_
  · cases h
    rfl
  · unfold configureDisk
    split_ifs
    · refine keeps_changeVm_power fun vm vm' h => ?_
      split_ifs at h
      cases h
      rfl
    · exact keeps_pure ()
  · unfold configureAddress
    split
    · exact keeps_pure ()
    · split_ifs
      · exact keeps_pure ()
      · refine keeps_changeVm_power fun vm vm' h => ?_
        cases h
        rfl

/-- **`createVm`** keeps the table true. -/
theorem Orderly.truthful_createVm (hnet : Orderly net) {b : Backend} (request : CreateRequest)
    (hb : Truthful config.templateVmid b.db.vms (power (vmsOf b))) :
    Truthful config.templateVmid
      (final ((VmService.createVm net config depth request).run b)).db.vms
      (power (vmsOf (final ((VmService.createVm net config depth request).run b)))) := by
  have hout : Created net config depth request b _ := createVm_outcome net config depth request b
  have hchosen : vmsOf (final ((chooseVmId net config depth request).run b)) = vmsOf b :=
    keeps_chooseVmId_vms b
  generalize (VmService.createVm net config depth request).run b = result at hout
  cases hout with
  | @unchosen e b₁ hchoose =>
      rw [hchoose] at hchosen
      show Truthful _ b.db.vms (power (vmsOf b₁))
      rw [show vmsOf b₁ = vmsOf b from hchosen]
      exact hb
  | @noAddress newVmId e b₁ hchoose hip =>
      rw [hchoose] at hchosen
      show Truthful _ b.db.vms (power (vmsOf b₁))
      rw [show vmsOf b₁ = vmsOf b from hchosen]
      exact hb
  | @uncloned newVmId internalIp e b₁ b₂ hchoose hip hclone =>
      rw [hchoose] at hchosen
      rw [← show vmsOf b₁ = vmsOf b from hchosen] at hb
      show Truthful _ b.db.vms (power (vmsOf b₂))
      rcases hnet.cloneAndWait_error hclone with hsame | ⟨hfree, hne, status, -, hpower⟩
      · rw [hsame]
        exact hb
      · rw [hpower]
        exact hb.cloned hfree hne status
  | @created newVmId internalIp b₁ b₂ hchoose hip hclone =>
      rw [hchoose] at hchosen
      rw [← show vmsOf b₁ = vmsOf b from hchosen] at hb
      have hconfigured : power (vmsOf (final ((configureVm net request newVmId internalIp).run b₂)))
          = power (vmsOf b₂) := keeps_configureVm_power request newVmId internalIp b₂
      obtain ⟨hfree, hne, status, htemplate, hpower⟩ := hnet.cloneAndWait_ok hclone
      show Truthful _ ({ newVMachine request newVmId internalIp with id := b.db.nextId } :: b.db.vms)
        (power (vmsOf (final ((configureVm net request newVmId internalIp).run b₂))))
      -- The clone is stopped as the template is, and this is what the row says.
      rw [hconfigured, hpower, hb.stopped status htemplate]
      exact hb.cons hfree hne

/-- **`startVm` and `stopVm`** keep it true. -/
theorem Orderly.truthful_switchVm (hnet : Orderly net) {b : Backend} (text : String)
    {status : VmStatus} (htext : mapProxmoxStatus text = status) (message : String) (vmId : ℕ)
    (hb : RowsTrue config b) :
    Truthful config.templateVmid
      (final ((VmService.switchVm (fun vmId => startTask net vmId (withStatus vmId text)) status
        message vmId).run b)).db.vms
      (power (vmsOf (final ((VmService.switchVm
        (fun vmId => startTask net vmId (withStatus vmId text)) status message vmId).run b)))) := by
  have hout : Switched _ status message vmId b _ := switchVm_outcome
    (fun vmId => startTask net vmId (withStatus vmId text)) status message vmId b
  generalize (VmService.switchVm (fun vmId => startTask net vmId (withStatus vmId text)) status
    message vmId).run b = result at hout
  cases hout with
  | notFound _ => exact hb.2
  | @failed vm e proxmox hfind hcall =>
      show Truthful _ b.db.vms (power (storeOf proxmox))
      rw [hnet.call_error hcall]
      exact hb.2
  | @switched vm upid proxmox hfind hcall =>
      obtain ⟨hmem, hstore⟩ := hnet.startTask_ok hcall
      show Truthful _ (b.db.update { vm with status := status }).vms (power (storeOf proxmox))
      rw [hb.1.update_vms hfind, hstore, power_withStatus hmem, htext, ← findById_id hfind]
      exact hb.2.switched hb.1.ids (List.mem_of_find?_eq_some hfind) status

/-- **`deleteVm`** keeps it true. -/
theorem Orderly.truthful_deleteVm (hnet : Orderly net) {b : Backend} (vmId : ℕ)
    (hb : Truthful config.templateVmid b.db.vms (power (vmsOf b))) :
    Truthful config.templateVmid (final ((VmService.deleteVm net vmId).run b)).db.vms
      (power (vmsOf (final ((VmService.deleteVm net vmId).run b)))) := by
  have hout : Deleted net vmId b _ := deleteVm_outcome net vmId b
  generalize (VmService.deleteVm net vmId).run b = result at hout
  cases hout with
  | notFound _ => exact hb
  | @failed vm e proxmox hfind hcall =>
      show Truthful _ b.db.vms (power (storeOf proxmox))
      rw [hnet.call_error hcall]
      exact hb
  | @deleted vm upid proxmox hfind hcall =>
      obtain ⟨hmem, hstore⟩ := hnet.startTask_ok hcall
      obtain ⟨hid, before, after, hrows, hothers⟩ := List.find?_eq_some_iff_append.mp hfind
      have herased : (b.db.delete vm.id).vms = before ++ after := by
        unfold Database.delete
        dsimp only
        rw [hrows, List.eraseP_append_right _ (fun row hrow => ?_), List.eraseP_cons_of_pos (by simp)]
        simpa [findById_id hfind] using hothers row hrow
      show Truthful _ (b.db.delete vm.id).vms (power (storeOf proxmox))
      rw [herased, hstore, power_erase]
      rw [hrows] at hb
      exact hb.removed

/-- **One call on an orderly host.** -/
theorem Orderly.rowsTrue_call (hnet : Orderly net) {b : Backend} (hb : RowsTrue config b)
    (call : VmCall) : RowsTrue config (after (serveVm net config depth createdAt) b call) := by
  refine ⟨(replayed_call hb.1 call).2, ?_⟩
  unfold after serveVm
  cases call with
  | createVm request =>
      by_cases hvalid : request.Valid
      · rw [show handleVm net config depth createdAt (.createVm request)
          = .created <$> VmService.createVm net config depth request from if_pos hvalid, final_map]
        exact hnet.truthful_createVm request hb.2
      · rw [show handleVm net config depth createdAt (.createVm request)
          = throw (.base .badRequest) from if_neg hvalid]
        exact hb.2
  | getVm vmId =>
      have hkeeps : ∀ {γ : Type} {f : Backend → γ},
          (∀ vmId, Keeps f (api (getVmStatus net vmId depth))) →
          f (final ((handleVm net config depth createdAt (.getVm vmId)).run b)) = f b := by
        intro γ f hf
        unfold handleVm
        rw [final_map]
        exact keeps_getVm hf vmId b
      have hdb := hkeeps (f := dbOf) fun _ => keeps_api_db _
      have hvms := hkeeps (f := vmsOf) fun vmId => keeps_api_vms (keeps_getVmStatus vmId)
      dsimp only
      rw [hvms]
      rw [show (final ((handleVm net config depth createdAt (.getVm vmId)).run b)).db = b.db
        from hdb]
      exact hb.2
  | getMyVms memberId => exact hb.2
  | startVm vmId =>
      unfold handleVm
      dsimp only
      rw [final_map]
      exact hnet.truthful_switchVm "running" (by decide +kernel) _ vmId hb
  | stopVm vmId =>
      unfold handleVm
      dsimp only
      rw [final_map]
      exact hnet.truthful_switchVm "stopped" (by decide +kernel) _ vmId hb
  | deleteVm vmId =>
      unfold handleVm
      dsimp only
      rw [final_map]
      exact hnet.truthful_deleteVm vmId hb.2

/-- A request that returns data. -/
theorem request_ok {α : Type} {handle : Exchange → VmStore → Option (VmStore × α)}
    {s s' : Proxmox} {a : α} (h : (request net handle).run s = .ok (some a) s') :
    handle (net s.sent) (storeOf s) = some (storeOf s', a) := by
  have hout : Requested net handle s.sent (storeOf s) _ := request_outcome handle s
  rw [h] at hout
  obtain ⟨a', hhandle, ⟨hsome, -⟩ | ⟨hnone, -⟩⟩ := hout
  · rw [Option.some.inj hsome]
    exact hhandle
  · cases hnone

/-- The status that `getVmStatus` returns. -/
theorem getVmStatus_ok {vmId : ℕ} {s s' : Proxmox} {data : StatusData}
    (h : (getVmStatus net vmId depth).run s = .ok (some data) s') :
    power (storeOf s) vmId = some (mapProxmoxStatus data.status) := by
  obtain ⟨s₀, hattempt⟩ := retrying_ok h
  obtain ⟨vm, hvm, heq⟩ := Option.map_eq_some_iff.mp (request_ok hattempt)
  -- However many attempts there were, the VMs are those of the beginning.
  have hsame : storeOf s₀ = storeOf s :=
    (congrArg Prod.fst heq).trans ((keeps_getVmStatus vmId).of_ok h)
  have hfetched : StatusData.mk vm.status vmId vm.name = data := congrArg Prod.snd heq
  unfold power
  rw [← hsame, hvm, ← hfetched]
  rfl

/-- What `getVm` returns: the row, or the row with the status on the host. -/
theorem getVm_ok {b b' : Backend} {vmId : ℕ} {info : VmInfo}
    (h : (VmService.getVm net depth createdAt vmId).run b = .ok info b') :
    ∃ row, b.db.findById vmId = some row ∧
      (info = VmInfo.ofVMachine createdAt row ∨
        ∃ status, power (vmsOf b) row.proxmoxVmId = some status ∧
          info = VmInfo.ofVMachine createdAt { row with status := status }) := by
  unfold VmService.getVm at h
  rw [EStateM.run_bind, EStateM.run_get] at h
  dsimp only at h
  cases hfind : b.db.findById vmId with
  | none =>
      rw [hfind] at h
      cases h
  | some row =>
      rw [hfind] at h
      dsimp only at h
      refine ⟨row, rfl, ?_⟩
      obtain ⟨vm, b₁, htry, hinfo⟩ := run_bind_eq_ok.mp h
      cases hinfo
      rw [run_tryCatch, EStateM.run_bind] at htry
      cases hstatus : (getVmStatus net row.proxmoxVmId depth).run b.proxmox with
      | ok response proxmox =>
          rw [api_of_ok hstatus] at htry
          cases response with
          | none =>
              cases htry
              exact Or.inl rfl
          | some data =>
              cases htry
              exact Or.inr ⟨_, getVmStatus_ok hstatus, rfl⟩
      | error e proxmox =>
          rw [api_of_error hstatus] at htry
          dsimp only at htry
          split_ifs at htry
          · cases htry
          · cases htry
            exact Or.inl rfl

/-- **The rows tell the truth.**  Take a run in which no answer is lost, no task fails and each task
has ended when the next request is sent, from a state in which the rows tell the truth.  In all its
states every row has a VM of its own with the status of the row, whatever else fails on the way.
So the status that `getVm` fetches is the one in the table. -/
theorem rows_true_throughout (hnet : Orderly net) {b : Backend} (hb : RowsTrue config b)
    (calls : List VmCall) :
    Throughout (after (serveVm net config depth createdAt)) (RowsTrue config) b calls ∧
      ∀ vmId info b', (VmService.getVm net depth createdAt vmId).run
          (run (after (serveVm net config depth createdAt)) b calls) = .ok info b' →
        ∃ row, (run (after (serveVm net config depth createdAt)) b calls).db.findById vmId = some row ∧
          info = VmInfo.ofVMachine createdAt row := by
  have htrue : Throughout (after (serveVm net config depth createdAt)) (RowsTrue config) b calls :=
    (along_true b calls).throughout (I := RowsTrue config) (fun _ hs => hs)
      (fun s call hs _ => hnet.rowsTrue_call hs call) hb
  refine ⟨htrue, fun vmId info b' hget => ?_⟩
  obtain ⟨row, hfind, hinfo⟩ := getVm_ok hget
  refine ⟨row, hfind, ?_⟩
  rcases hinfo with hinfo | ⟨status, hpower, hinfo⟩
  · exact hinfo
  · have hstored := htrue.last.2.status row (List.mem_of_find?_eq_some hfind)
    rw [hpower, Option.some.injEq] at hstored
    rw [hinfo, hstored]

end

/-! ## Samples -/

/-- A VM is made, started, looked at, stopped and deleted. -/
def sampleLife : List VmCall :=
  [.createVm plainRequest, .startVm 1, .getVm 1, .stopVm 1, .deleteVm 1]

theorem keyed_start : (startBackend sampleHost).db.Keyed :=
  ⟨List.nodup_nil, fun _ hrow => absurd hrow List.not_mem_nil⟩

theorem rowsTrue_start : RowsTrue ⟨201⟩ (startBackend sampleHost) := by
  refine ⟨keyed_start, List.nodup_nil, fun _ hrow => absurd hrow List.not_mem_nil, ?_,
    List.not_mem_nil⟩
  intro status hstatus
  have hpower : power (vmsOf (startBackend sampleHost)) 201 = some .stopped := by decide +kernel
  rw [show (⟨201⟩ : ProxmoxConfig).templateVmid = 201 from rfl, hpower] at hstatus
  exact (Option.some.inj hstatus).symm

/-- The second request of the life is refused; the row stays stopped, as the VM does. -/
theorem table_replays_refused :
    (run (after (serveVm (refusingNet (some 4)) ⟨201⟩ 10 fun _ => 0)) (startBackend sampleHost)
        sampleLife).db.vms
      = run replay [] (outputs (serveVm (refusingNet (some 4)) ⟨201⟩ 10 fun _ => 0)
          (startBackend sampleHost) sampleLife) :=
  table_replays_answers keyed_start sampleLife

theorem rows_true_sampleLife :
    Throughout (after (serveVm (refusingNet (some 4)) ⟨201⟩ 10 fun _ => 0)) (RowsTrue ⟨201⟩)
      (startBackend sampleHost) sampleLife :=
  (rows_true_throughout (fun n => ⟨by unfold refusingNet; dsimp only; split_ifs <;> simp, rfl⟩)
    rowsTrue_start sampleLife).1

end Cloud
