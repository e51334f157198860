/-
# The backend's Proxmox client

Model of `ProxmoxApiService` together with the host that it talks to.  The host is a store of
VMs; it accepts a request if the ticket sent with it is the one it has issued last and that
ticket has not expired.  The service keeps the ticket and the CSRF token it got last.

What the network and the host do with the `n`-th request is `net n`: whether the ticket
expires before it, whether it is served, refused or lost, and for the requests about tasks
what the task does.  Apart from `authenticate` every operation sends its requests through
`request`, and those with one request are a `call`: `call_outcome` says what can come of it.

The host runs its tasks by itself.  In the model a task has its effect, if it has one, with the
request that starts it: the runs are those in which each task has ended when the next request is
sent.

`Sends` says of a program that is run with a valid ticket how many requests it sends, and that it
returns exactly if these are answered.
-/
import CloudVpn.Effects
import Mathlib.Data.List.AList

open Effects

namespace Cloud

/-! ## The host -/

/-- A VM on the host, with the options that the service sets.  `cloned` marks the VMs that this
service has made. -/
structure Vm where
  name : String
  cores : ℕ
  memory : ℕ
  diskGb : ℕ
  ipconfig0 : Option String
  status : String
  cloned : Bool
  deriving DecidableEq

/-- The VMs of the host by their ids. -/
abbrev VmStore := AList fun _ : ℕ => Vm

/-- The host: its VMs, the number of the ticket it has issued last, and whether that ticket has
expired. -/
structure Host where
  vms : VmStore
  issued : ℕ
  expired : Bool

/-- The ticket is the last one issued and has not expired. -/
def Host.accepts (host : Host) (ticket : Option ℕ) : Bool :=
  ticket == some host.issued && !host.expired

/-- What becomes of a request that the host accepts. -/
inductive Reply where
  | served
  /-- Served, with an answer that has no data. -/
  | empty
  /-- Served, but the answer does not arrive. -/
  | lost
  /-- Answered with an error status, or not received. -/
  | refused
  /-- Answered with status 401. -/
  | denied
  deriving DecidableEq

/-- What the outside does with one request. -/
structure Exchange where
  expires : Bool
  reply : Reply
  /-- The id of the task that the request starts, and whether the task ends in an error. -/
  upid : String
  taskFails : Bool
  /-- For a request for the status of a task: whether the answer says `stopped`, and whether the
  time for waiting is over after it. -/
  stopped : Bool
  timeUp : Bool

/-- The store with one VM changed; the host knows no other VM of that id, or refuses the
change. -/
def editVm (vmId : ℕ) (edit : Vm → Option Vm) (vms : VmStore) : Option VmStore :=
  ((vms.lookup vmId).bind edit).map fun vm => vms.insert vmId vm

/-! ## The service -/

/-- The property of `ProxmoxConfig` that the logic depends on. -/
structure ProxmoxConfig where
  templateVmid : ℕ

/-- The host, the fields `ticket` and `csrfToken` of the service, and the number of requests
sent. -/
structure Proxmox where
  host : Host
  ticket : Option ℕ
  csrfToken : Option ℕ
  sent : ℕ

/-- The exceptions of the service. -/
inductive ApiError where
  /-- `WebClientResponseException.Unauthorized`. -/
  | unauthorized
  /-- The `RuntimeException` of `authenticate`. -/
  | authentication (message : String)
  /-- Any other exception of the web client. -/
  | failed
  | stackOverflow
  deriving DecidableEq

/-- A program of the service. -/
abbrev Api := EStateM ApiError Proxmox

section
variable (net : ℕ → Exchange)

/-- The state once a request is on its way. -/
def Proxmox.send (s : Proxmox) : Proxmox where
  host := if (net s.sent).expires then { s.host with expired := true } else s.host
  ticket := s.ticket
  csrfToken := s.csrfToken
  sent := s.sent + 1

/-- One request and its answer; `none` is an answer without data.  A `ticketed` request carries
the service's ticket. -/
def exchange {α : Type} (ticketed : Bool) (handle : Exchange → Host → Option (Host × α)) :
    Api (Option α) := fun s =>
  let x := net s.sent
  let s := s.send net
  if ticketed && !s.host.accepts s.ticket then .error .unauthorized s
  else
    match x.reply, handle x s.host with
    | .denied, _ => .error .unauthorized s
    | .refused, _ => .error .failed s
    | _, none => .error .failed s
    | .served, some (host, a) => .ok (some a) { s with host := host }
    | .empty, some (host, _) => .ok none { s with host := host }
    | .lost, some (host, _) => .error .failed { s with host := host }

/-- `authenticate`. -/
def authenticate : Api Unit :=
  tryCatch (do
      let response ← exchange net false fun _ host =>
        some ({ host with issued := host.issued + 1, expired := false }, host.issued + 1)
      match response with
      | some ticket =>
          modify fun s => { s with ticket := some ticket, csrfToken := some ticket }
      | none => throw (.authentication "Proxmox 인증 실패: 응답이 없습니다"))
    fun e =>
      if e = .unauthorized then
        throw (.authentication "Proxmox 인증 실패: 아이디 또는 비밀번호 확인 필요")
      else throw e

/-- `ensureAuthenticated`. -/
def ensureAuthenticated : Api Unit := do
  let s ← get
  if s.ticket = none ∨ s.csrfToken = none then authenticate net else pure ()

/-- A request about the VMs. -/
def request {α : Type} (handle : Exchange → VmStore → Option (VmStore × α)) : Api (Option α) :=
  exchange net true fun x host =>
    (handle x host.vms).map fun r => ({ host with vms := r.1 }, r.2)

/-- The shape of the operations with one request and no retry. -/
def call {α : Type} (handle : Exchange → VmStore → Option (VmStore × α)) : Api (Option α) := do
  ensureAuthenticated net
  request net handle

/-- The shape of the operations that catch a 401: they drop the ticket, authenticate and call
themselves again, as deep as the stack allows. -/
def retrying {α : Type} (attempt : Api α) : ℕ → Api α
  | 0 => throw .stackOverflow
  | depth + 1 => do
      ensureAuthenticated net
      tryCatch attempt fun e =>
        if e = .unauthorized then do
          modify fun s => { s with ticket := none, csrfToken := none }
          authenticate net
          retrying attempt depth
        else throw e

end

/-- The number of the first request of an operation that carries a ticket: an operation that finds
no ticket gets one first. -/
def firstRequest (s : Proxmox) : ℕ :=
  if s.ticket = none ∨ s.csrfToken = none then s.sent + 1 else s.sent

/-- The service after its start. -/
def startService (host : Host) : Proxmox := ⟨host, none, none, 0⟩

/-- A host with a template. -/
def sampleHost : Host :=
  ⟨AList.singleton 201 ⟨"template", 1, 1024, 20, none, "stopped", false⟩, 0, false⟩

/-! ## The operations -/

/-- The id behind the largest one in use; the template is not counted. -/
def nextVmId (config : ProxmoxConfig) (vmids : List ℕ) : ℕ :=
  match (vmids.filter fun vmid => 100 ≤ vmid && vmid ≠ config.templateVmid).max? with
  | some max => max + 1
  | none => 100

section
variable (net : ℕ → Exchange) (config : ProxmoxConfig)

/-- `getNextVmId`. -/
def getNextVmId (depth : ℕ) : Api ℕ :=
  retrying net (do
    let response ← request net fun _ vms => some (vms, vms.keys)
    match response with
    | none => return 100
    | some vmids => return nextVmId config vmids) depth

/-- `cloneVm`.  The host refuses an id that is in use; the VM is there when the task ends. -/
def cloneVm (newVmId : ℕ) (vmName : String) : Api (Option String) :=
  call net fun x vms =>
    if newVmId ∈ vms then none
    else
      (vms.lookup config.templateVmid).map fun template =>
        (if x.taskFails then vms
          else vms.insert newVmId { template with name := vmName, cloned := true }, x.upid)

/-- The polls of `waitForTask`, one every two seconds. -/
def pollTask : ℕ → Api Unit
  | 0 => pure ()
  | polls + 1 => do
      let s ← get
      let response ← request net fun x vms => some (vms, x.stopped)
      if response = some true then pure ()
      -- The time is over, or the thread has been interrupted in its sleep.
      else if (net s.sent).timeUp then pure ()
      else pollTask polls

/-- `waitForTask`.  It returns when the time is over, and however the task has ended. -/
def waitForTask (_upid : String) (timeoutSeconds : ℕ) : Api Unit := do
  ensureAuthenticated net
  pollTask net ((timeoutSeconds + 1) / 2)

/-- The shape of the operations that change one VM at once. -/
def changeVm (vmId : ℕ) (edit : Vm → Option Vm) : Api Unit := do
  let _ ← call net fun _ vms => (editVm vmId edit vms).map fun vms => (vms, ())

/-- `configureVmSpec`. -/
def configureVmSpec (vmId cpuCores memoryMb : ℕ) : Api Unit :=
  changeVm net vmId fun vm => some { vm with cores := cpuCores, memory := memoryMb }

/-- `resizeVmDisk`.  A disk cannot be made smaller. -/
def resizeVmDisk (vmId diskGb : ℕ) : Api Unit :=
  changeVm net vmId fun vm => if diskGb < vm.diskGb then none else some { vm with diskGb := diskGb }

/-- The option `ipconfig0` for an address. -/
def ipConfig (ipAddress : String) : String := "ip=" ++ ipAddress ++ "/24,gw=10.8.0.1"

/-- `configureCloudInit`. -/
def configureCloudInit (vmId : ℕ) (ipAddress _sshPublicKey : String) : Api Unit :=
  changeVm net vmId fun vm => some { vm with ipconfig0 := some (ipConfig ipAddress) }

/-- The shape of the operations that start a task on one VM. -/
def startTask (vmId : ℕ) (effect : VmStore → VmStore) : Api (Option String) :=
  call net fun x vms =>
    if vmId ∈ vms then some (if x.taskFails then vms else effect vms, x.upid) else none

/-- The store with the status of a VM changed. -/
def withStatus (vmId : ℕ) (status : String) (vms : VmStore) : VmStore :=
  (editVm vmId (fun vm => some { vm with status := status }) vms).getD vms

/-- `startVm`. -/
def startVm (vmId : ℕ) : Api (Option String) := startTask net vmId (withStatus vmId "running")

/-- `stopVm`. -/
def stopVm (vmId : ℕ) : Api (Option String) := startTask net vmId (withStatus vmId "stopped")

/-- `deleteVm`. -/
def deleteVm (vmId : ℕ) : Api (Option String) := startTask net vmId fun vms => vms.erase vmId

/-- The fields of `StatusData` that identify a VM and give its status. -/
structure StatusData where
  status : String
  vmid : ℕ
  name : String

/-- `getVmStatus`. -/
def getVmStatus (vmId depth : ℕ) : Api (Option StatusData) :=
  retrying net (request net fun _ vms =>
    (vms.lookup vmId).map fun vm => (vms, ⟨vm.status, vmId, vm.name⟩)) depth

end

/-! ## What can come of a request -/

section
variable {net : ℕ → Exchange} {α : Type}

/-- What can come of a request in the state `s`. -/
inductive Exchanged (net : ℕ → Exchange) (ticketed : Bool)
    (handle : Exchange → Host → Option (Host × α)) (s : Proxmox) :
    EStateM.Result ApiError Proxmox (Option α) → Prop
  | rejected (hticketed : ticketed = true) (hticket : (s.send net).host.accepts s.ticket = false) :
      Exchanged net ticketed handle s (.error .unauthorized (s.send net))
  | denied (hreply : (net s.sent).reply = .denied) :
      Exchanged net ticketed handle s (.error .unauthorized (s.send net))
  | failed (hticket : ticketed = true → (s.send net).host.accepts s.ticket = true)
      (hfails : (net s.sent).reply = .refused ∨ handle (net s.sent) (s.send net).host = none) :
      Exchanged net ticketed handle s (.error .failed (s.send net))
  | answered {host : Host} {a : α} {response : Option α}
      (hticket : ticketed = true → (s.send net).host.accepts s.ticket = true)
      (hhandle : handle (net s.sent) (s.send net).host = some (host, a))
      (hresponse : response = some a ∧ (net s.sent).reply = .served ∨
        response = none ∧ (net s.sent).reply = .empty) :
      Exchanged net ticketed handle s (.ok response { s.send net with host := host })
  | lost {host : Host} {a : α}
      (hticket : ticketed = true → (s.send net).host.accepts s.ticket = true)
      (hreply : (net s.sent).reply = .lost)
      (hhandle : handle (net s.sent) (s.send net).host = some (host, a)) :
      Exchanged net ticketed handle s (.error .failed { s.send net with host := host })

/-- **Every request has one of the outcomes.** -/
theorem exchange_outcome (ticketed : Bool) (handle : Exchange → Host → Option (Host × α))
    (s : Proxmox) :
    Exchanged net ticketed handle s ((exchange net ticketed handle).run s) := by
  show Exchanged net ticketed handle s (exchange net ticketed handle s)
  unfold exchange
  dsimp only
  split_ifs with hticket
  · simp only [Bool.and_eq_true, Bool.not_eq_true'] at hticket
    exact .rejected hticket.1 hticket.2
  · have hticket' : ticketed = true → (s.send net).host.accepts s.ticket = true := by
      intro ht
      rw [ht, Bool.true_and, Bool.not_eq_true', Bool.not_eq_false] at hticket
      exact hticket
    split
    · exact .denied (by assumption)
    · exact .failed hticket' (Or.inl (by assumption))
    · exact .failed hticket' (Or.inr (by assumption))
    · exact .answered hticket' (by assumption) (Or.inl ⟨rfl, by assumption⟩)
    · exact .answered hticket' (by assumption) (Or.inr ⟨rfl, by assumption⟩)
    · exact .lost hticket' (by assumption) (by assumption)

/-- The VMs on the host. -/
def storeOf (s : Proxmox) : VmStore := s.host.vms

theorem storeOf_send (s : Proxmox) : storeOf (s.send net) = storeOf s := by
  show (if (net s.sent).expires then { s.host with expired := true } else s.host).vms = s.host.vms
  split_ifs <;> rfl

/-- A request whose handler does not touch the VMs. -/
theorem keeps_exchange {ticketed : Bool} {handle : Exchange → Host → Option (Host × α)}
    (h : ∀ x host host' a, handle x host = some (host', a) → host'.vms = host.vms) :
    Keeps storeOf (exchange net ticketed handle) := by
  intro s
  have hsend : storeOf (s.send net) = storeOf s := storeOf_send s
  have hout : Exchanged net ticketed handle s _ := exchange_outcome ticketed handle s
  generalize (exchange net ticketed handle).run s = result at hout
  cases hout with
  | rejected _ _ => exact hsend
  | denied _ => exact hsend
  | failed _ _ => exact hsend
  | answered _ hhandle _ => exact (h _ _ _ _ hhandle).trans hsend
  | lost _ _ hhandle => exact (h _ _ _ _ hhandle).trans hsend

theorem keeps_authenticate : Keeps storeOf (authenticate net) := by
  apply Keeps.tryCatch
  · apply Keeps.bind
    · apply keeps_exchange
      intro x host host' a h
      cases h
      rfl
    · intro response
      cases response with
      | none => exact keeps_throw _
      | some ticket => exact keeps_modify fun _ => rfl
  · intro e
    split_ifs
    · exact keeps_throw _
    · exact keeps_throw _

theorem ensureAuthenticated_run (s : Proxmox) :
    (ensureAuthenticated net).run s
      = if s.ticket = none ∨ s.csrfToken = none then (authenticate net).run s else .ok () s := by
  unfold ensureAuthenticated
  rw [EStateM.run_bind, EStateM.run_get]
  dsimp only
  split_ifs <;> rfl

theorem keeps_ensureAuthenticated : Keeps storeOf (ensureAuthenticated net) := by
  apply keeps_get.bind
  intro s
  split_ifs
  · exact keeps_authenticate
  · exact keeps_pure ()

/-- A request that only reads the store. -/
theorem keeps_request {handle : Exchange → VmStore → Option (VmStore × α)}
    (h : ∀ x vms vms' a, handle x vms = some (vms', a) → vms' = vms) :
    Keeps storeOf (request net handle) := by
  apply keeps_exchange
  intro x host host' a hhandle
  obtain ⟨⟨vms', b⟩, hr, heq⟩ := Option.map_eq_some_iff.mp hhandle
  cases heq
  exact h _ _ _ _ hr

theorem keeps_retrying {attempt : Api α} (h : Keeps storeOf attempt) (depth : ℕ) :
    Keeps storeOf (retrying net attempt depth) := by
  induction depth with
  | zero => exact keeps_throw _
  | succ depth ih =>
      refine keeps_ensureAuthenticated.bind fun _ => h.tryCatch fun e => ?_
      split_ifs
      · refine Keeps.bind ?_ fun _ => keeps_authenticate.bind fun _ => ih
        exact keeps_modify fun _ => rfl
      · exact keeps_throw _

theorem keeps_getNextVmId (config : ProxmoxConfig) (depth : ℕ) :
    Keeps storeOf (getNextVmId net config depth) := by
  apply keeps_retrying
  apply Keeps.bind
  · apply keeps_request
    intro x vms vms' a h
    cases h
    rfl
  · intro response
    cases response with
    | none => exact keeps_pure _
    | some vmids => exact keeps_pure _

theorem keeps_pollTask (polls : ℕ) : Keeps storeOf (pollTask net polls) := by
  induction polls with
  | zero => exact keeps_pure ()
  | succ polls ih =>
      refine keeps_get.bind fun s => Keeps.bind ?_ fun response => ?_
      · apply keeps_request
        intro x vms vms' a h
        cases h
        rfl
      · split_ifs
        · exact keeps_pure ()
        · exact keeps_pure ()
        · exact ih

theorem keeps_waitForTask (upid : String) (timeoutSeconds : ℕ) :
    Keeps storeOf (waitForTask net upid timeoutSeconds) :=
  keeps_ensureAuthenticated.bind fun _ => keeps_pollTask _

/-- What can come of a request about the VMs that is the `n`-th to be sent, for the VMs.  A
request that returns has had its effect; one that throws has had none, unless its answer was
lost. -/
def Requested (net : ℕ → Exchange) (handle : Exchange → VmStore → Option (VmStore × α)) (n : ℕ)
    (vms : VmStore) : EStateM.Result ApiError Proxmox (Option α) → Prop
  | .ok response s => ∃ a, handle (net n) vms = some (storeOf s, a) ∧
      (response = some a ∧ (net n).reply = .served ∨ response = none ∧ (net n).reply = .empty)
  | .error _ s => storeOf s = vms ∨
      (net n).reply = .lost ∧ ∃ a, handle (net n) vms = some (storeOf s, a)

theorem request_outcome (handle : Exchange → VmStore → Option (VmStore × α)) (s : Proxmox) :
    Requested net handle s.sent (storeOf s) ((request net handle).run s) := by
  have hsend : storeOf (s.send net) = storeOf s := storeOf_send s
  have hout : Exchanged net true _ s _ := exchange_outcome true
    (fun x host => (handle x host.vms).map fun r => ({ host with vms := r.1 }, r.2)) s
  show Requested net handle s.sent (storeOf s) ((exchange net true _).run s)
  generalize (exchange net true _).run s = result at hout
  cases hout with
  | rejected _ _ => exact Or.inl hsend
  | denied _ => exact Or.inl hsend
  | failed _ _ => exact Or.inl hsend
  | answered _ hhandle hresponse =>
      obtain ⟨⟨vms, b⟩, hr, heq⟩ := Option.map_eq_some_iff.mp hhandle
      cases heq
      exact ⟨b, by rw [← hsend]; exact hr, hresponse⟩
  | lost _ hreply hhandle =>
      obtain ⟨⟨vms, b⟩, hr, heq⟩ := Option.map_eq_some_iff.mp hhandle
      cases heq
      exact Or.inr ⟨hreply, b, by rw [← hsend]; exact hr⟩

theorem sent_exchange (ticketed : Bool) (handle : Exchange → Host → Option (Host × α))
    (s : Proxmox) : (final ((exchange net ticketed handle).run s)).sent = s.sent + 1 := by
  have hout : Exchanged net ticketed handle s _ := exchange_outcome ticketed handle s
  generalize (exchange net ticketed handle).run s = result at hout
  cases hout <;> rfl

theorem authenticate_ok {s s' : Proxmox} {u : Unit} (h : (authenticate net).run s = .ok u s') :
    s'.csrfToken ≠ none ∧ s'.sent = s.sent + 1 := by
  unfold authenticate at h
  rw [run_tryCatch, EStateM.run_bind] at h
  have hsent : (final ((exchange net false _).run s)).sent = s.sent + 1 := sent_exchange false
    (fun _ host => some ({ host with issued := host.issued + 1, expired := false },
      host.issued + 1)) s
  cases hrun : (exchange net false fun _ host =>
      some ({ host with issued := host.issued + 1, expired := false }, host.issued + 1)).run s with
  | error e s₁ =>
      rw [hrun] at h
      dsimp only at h
      split_ifs at h <;> cases h
  | ok response s₁ =>
      rw [hrun] at h hsent
      cases response with
      | none => cases h
      | some ticket =>
          cases h
          exact ⟨by simp, hsent⟩

/-- An operation gets a ticket first, if there is none. -/
theorem ensureAuthenticated_sent {s s' : Proxmox} {u : Unit}
    (h : (ensureAuthenticated net).run s = .ok u s') :
    s'.csrfToken ≠ none ∧ s'.sent = firstRequest s := by
  unfold firstRequest
  rw [ensureAuthenticated_run] at h
  split_ifs at h ⊢ with hnone
  · exact authenticate_ok h
  · cases h
    exact ⟨(not_or.mp hnone).2, rfl⟩

/-- **What can come of a call.** -/
theorem call_outcome (handle : Exchange → VmStore → Option (VmStore × α)) (s : Proxmox) :
    Requested net handle (firstRequest s) (storeOf s) ((call net handle).run s) := by
  have hauth : Keeps storeOf (ensureAuthenticated net) := keeps_ensureAuthenticated
  unfold call
  rw [EStateM.run_bind]
  cases hrun : (ensureAuthenticated net).run s with
  | error e s₁ => exact Or.inl (hauth.of_error hrun)
  | ok u s₁ =>
      rw [← hauth.of_ok hrun, ← (ensureAuthenticated_sent hrun).2]
      exact request_outcome handle s₁

section
variable {handle : Exchange → VmStore → Option (VmStore × α)} {s s' : Proxmox}

/-- A call that returns has had its effect. -/
theorem call_ok {response : Option α} (h : (call net handle).run s = .ok response s') :
    ∃ a, handle (net (firstRequest s)) (storeOf s) = some (storeOf s', a) ∧
      (response = some a ∧ (net (firstRequest s)).reply = .served ∨
        response = none ∧ (net (firstRequest s)).reply = .empty) := by
  have hout : Requested net handle (firstRequest s) (storeOf s) _ := call_outcome handle s
  rw [h] at hout
  exact hout

/-- A call that throws has had none, or its answer was lost. -/
theorem call_error {e : ApiError} (h : (call net handle).run s = .error e s') :
    storeOf s' = storeOf s ∨
      (net (firstRequest s)).reply = .lost ∧
        ∃ a, handle (net (firstRequest s)) (storeOf s) = some (storeOf s', a) := by
  have hout : Requested net handle (firstRequest s) (storeOf s) _ := call_outcome handle s
  rw [h] at hout
  exact hout

/-- A call keeps what its handler keeps. -/
theorem keeps_call {γ : Type} {f : VmStore → γ}
    (h : ∀ x vms vms' a, handle x vms = some (vms', a) → f vms' = f vms) :
    Keeps (fun s => f (storeOf s)) (call net handle) := by
  intro s
  cases hrun : (call net handle).run s with
  | ok response s' =>
      obtain ⟨a, hhandle, -⟩ := call_ok hrun
      exact h _ _ _ _ hhandle
  | error e s' =>
      rcases call_error hrun with hsame | ⟨-, a, hhandle⟩
      · exact congrArg f hsame
      · exact h _ _ _ _ hhandle

end

/-! ## Requests that are answered -/

/-- With a valid ticket the request is answered: the ticket does not expire before it, and the
request is served. -/
def Exchange.answered (x : Exchange) : Bool :=
  !x.expires && (x.reply == .served || x.reply == .empty)

/-- How many polls there are for a task, if the first one has number `n` and all are answered. -/
def pollCount (net : ℕ → Exchange) : ℕ → ℕ → ℕ
  | _, 0 => 0
  | n, polls + 1 =>
      if ((net n).reply = .served ∧ (net n).stopped = true) ∨ (net n).timeUp = true then 1
      else pollCount net (n + 1) polls + 1

/-- The service holds a valid ticket. -/
structure Ready (s : Proxmox) : Prop where
  ticket : s.host.accepts s.ticket = true
  csrfToken : s.csrfToken ≠ none

/-- From a state `t` in which the service has a valid ticket, the program sends `count` requests: it
returns exactly if they are all answered, and then the ticket is still valid. -/
structure Sends {ε σ β : Type} (net : ℕ → Exchange) (part : σ → Proxmox) (count : ℕ)
    (m : EStateM ε σ β) (t : σ) : Prop where
  returns_iff : thrown (m.run t) = none ↔ ∀ k < count, (net ((part t).sent + k)).answered = true
  ready : ∀ a t', m.run t = .ok a t' → Ready (part t') ∧ (part t').sent = (part t).sent + count

section
variable {ε σ β γ : Type} {part : σ → Proxmox} {count count' : ℕ} {t : σ}

theorem sends_pure (ht : Ready (part t)) (b : β) :
    Sends net part 0 (pure b : EStateM ε σ β) t := by
  refine ⟨⟨fun _ k hk => absurd hk (Nat.not_lt_zero k), fun _ => rfl⟩, fun a t' h => ?_⟩
  cases h
  exact ⟨ht, rfl⟩

theorem sends_get_bind {k : σ → EStateM ε σ β} (h : Sends net part count (k t) t) :
    Sends net part count (get >>= k) t :=
  ⟨h.returns_iff, h.ready⟩

/-- One program after the other. -/
theorem Sends.bind {m : EStateM ε σ β} (hm : Sends net part count m t) {k : β → EStateM ε σ γ}
    (hk : ∀ b t', m.run t = .ok b t' → Sends net part count' (k b) t') :
    Sends net part (count + count') (m >>= k) t := by
  have hsplit : (∀ j < count + count', (net ((part t).sent + j)).answered = true) ↔
      (∀ j < count, (net ((part t).sent + j)).answered = true) ∧
        ∀ j < count', (net ((part t).sent + count + j)).answered = true := by
    constructor
    · intro h
      refine ⟨fun j hj => h j (by omega), fun j hj => ?_⟩
      rw [Nat.add_assoc]
      exact h (count + j) (by omega)
    · rintro ⟨hfirst, hsecond⟩ j hj
      by_cases hlt : j < count
      · exact hfirst j hlt
      · have hlate := hsecond (j - count) (by omega)
        rw [show (part t).sent + count + (j - count) = (part t).sent + j by omega] at hlate
        exact hlate
  constructor
  · rw [hsplit, ← hm.returns_iff, EStateM.run_bind]
    cases hrun : m.run t with
    | error e t' => simp
    | ok b t' =>
        dsimp only
        rw [(hk b t' hrun).returns_iff, (hm.ready b t' hrun).2]
        simp
  · intro c t'' hrun
    obtain ⟨b, t', hfirst, hsecond⟩ := run_bind_eq_ok.mp hrun
    obtain ⟨hready, hsent⟩ := (hk b t' hfirst).ready c t'' hsecond
    exact ⟨hready, by rw [hsent, (hm.ready b t' hfirst).2, Nat.add_assoc]⟩

end

section
variable {s s' : Proxmox} {handle : Exchange → VmStore → Option (VmStore × α)}

theorem accepts_send (s : Proxmox) :
    (s.send net).host.accepts s.ticket = (s.host.accepts s.ticket && !(net s.sent).expires) := by
  unfold Proxmox.send Host.accepts
  cases (net s.sent).expires <;> simp

/-- A request that returns has found the ticket valid. -/
theorem request_ready (hs : s.csrfToken ≠ none) {response : Option α}
    (h : (request net handle).run s = .ok response s') : Ready s' ∧ s'.sent = s.sent + 1 := by
  have hout : Exchanged net true _ s _ := exchange_outcome true
    (fun x host => (handle x host.vms).map fun r => ({ host with vms := r.1 }, r.2)) s
  have hrun : (exchange net true _).run s = .ok response s' := h
  rw [hrun] at hout
  cases hout with
  | answered hticket hhandle _ =>
      obtain ⟨r, -, heq⟩ := Option.map_eq_some_iff.mp hhandle
      cases heq
      exact ⟨⟨hticket rfl, hs⟩, rfl⟩

/-- **A call that returns** leaves the service with a valid ticket. -/
theorem call_ready {response : Option α} (h : (call net handle).run s = .ok response s') :
    Ready s' ∧ s'.sent = firstRequest s + 1 := by
  obtain ⟨u, s₁, hauth, hrequest⟩ := run_bind_eq_ok.mp h
  obtain ⟨hcsrf, hsent⟩ := ensureAuthenticated_sent hauth
  rw [← hsent]
  exact request_ready hcsrf hrequest

/-- A request that the host can serve. -/
theorem sends_request (hs : Ready s) {vms : VmStore} {a : α}
    (hhandle : handle (net s.sent) (storeOf s) = some (vms, a)) :
    Sends net id 1 (request net handle) s := by
  refine ⟨?_, fun response s' h => request_ready hs.csrfToken h⟩
  have hhost : (s.send net).host.vms = storeOf s := storeOf_send s
  have hrun : (request net handle).run s = exchange net true (fun x host =>
      (handle x host.vms).map fun r => ({ host with vms := r.1 }, r.2)) s := rfl
  have haccepts : (s.send net).host.accepts (s.send net).ticket = !(net s.sent).expires := by
    rw [show (s.send net).ticket = s.ticket from rfl, accepts_send, hs.ticket, Bool.true_and]
  rw [hrun]
  unfold exchange
  simp only [haccepts, hhost, hhandle, Option.map_some, Nat.lt_one_iff, forall_eq, Nat.add_zero, id]
  unfold Exchange.answered
  cases (net s.sent).expires with
  | true => simp
  | false => cases (net s.sent).reply <;> simp

theorem Ready.ensureAuthenticated (hs : Ready s) : (ensureAuthenticated net).run s = .ok () s := by
  have hticket : s.ticket ≠ none := by
    intro hnone
    have haccepts := hs.ticket
    rw [hnone] at haccepts
    exact absurd haccepts (by simp [Host.accepts])
  rw [ensureAuthenticated_run, if_neg (not_or.mpr ⟨hticket, hs.csrfToken⟩)]

theorem sends_authenticated (hs : Ready s) {m : Api α} {count : ℕ}
    (hm : Sends net id count m s) :
    Sends net id count (do ensureAuthenticated net; m) s := by
  have hrun : (do ensureAuthenticated net; m).run s = m.run s := by
    rw [EStateM.run_bind, hs.ensureAuthenticated]
  exact ⟨by rw [hrun]; exact hm.returns_iff, fun a s' h => hm.ready a s' (hrun.symm.trans h)⟩

/-- The polls for a task. -/
theorem sends_pollTask (hs : Ready s) (polls : ℕ) :
    Sends net id (pollCount net s.sent polls) (pollTask net polls) s := by
  induction polls generalizing s with
  | zero => exact sends_pure hs ()
  | succ polls ih =>
      have hpoll : Sends net id 1 (request net fun x vms => some (vms, x.stopped)) s :=
        sends_request hs rfl
      -- The answer is the one of the network, if there is one.
      have hanswer : ∀ response s', (request net fun x vms => some (vms, x.stopped)).run s
          = .ok response s' →
          (response = some true ↔ (net s.sent).reply = .served ∧ (net s.sent).stopped = true) := by
        intro response s' h
        have hout : Requested net _ s.sent (storeOf s) ((request net _).run s) :=
          request_outcome (fun x vms => some (vms, x.stopped)) s
        rw [h] at hout
        obtain ⟨a, ha, ⟨hsome, hreply⟩ | ⟨hnone, hreply⟩⟩ := hout
        · have hstopped : (net s.sent).stopped = a := congrArg Prod.snd (Option.some.inj ha)
          simp [hsome, hreply, hstopped]
        · simp [hnone, hreply]
      unfold pollTask pollCount
      refine sends_get_bind ?_
      by_cases hends : ((net s.sent).reply = .served ∧ (net s.sent).stopped = true) ∨
          (net s.sent).timeUp = true
      · rw [if_pos hends]
        show Sends net id (1 + 0) _ s
        refine hpoll.bind fun response s' h => ?_
        have hready := (hpoll.ready response s' h).1
        rw [← hanswer response s' h] at hends
        rcases hends with hstopped | htime
        · rw [if_pos hstopped]
          exact sends_pure hready ()
        · rw [if_pos htime, ite_self]
          exact sends_pure hready ()
      · rw [if_neg hends, Nat.add_comm]
        refine hpoll.bind fun response s' h => ?_
        obtain ⟨hready, hsent⟩ := hpoll.ready response s' h
        rw [← hanswer response s' h, not_or] at hends
        rw [if_neg hends.1, if_neg hends.2]
        have hrest := ih hready
        rw [hsent] at hrest
        exact hrest

theorem sends_waitForTask (hs : Ready s) (upid : String) (timeoutSeconds : ℕ) :
    Sends net id (pollCount net s.sent ((timeoutSeconds + 1) / 2))
      (waitForTask net upid timeoutSeconds) s :=
  sends_authenticated hs (sends_pollTask hs _)

/-- A change that the host can make. -/
theorem sends_changeVm (hs : Ready s) {vmId : ℕ} {edit : Vm → Option Vm} {vm vm' : Vm}
    (hlookup : (storeOf s).lookup vmId = some vm) (hedit : edit vm = some vm') :
    Sends net id 1 (changeVm net vmId edit) s := by
  have hcall : Sends net id 1
      (call net fun _ vms => (editVm vmId edit vms).map fun vms => (vms, ())) s := by
    have hedited : (editVm vmId edit (storeOf s)).map (fun vms => (vms, ()))
        = some ((storeOf s).insert vmId vm', ()) := by
      simp [editVm, hlookup, hedit]
    exact sends_authenticated hs (sends_request hs hedited)
  exact hcall.bind fun response s' h => sends_pure (hcall.ready response s' h).1 ()

end

/-! ## What the operations do to the VMs -/

/-- What the request to clone makes of the VMs: the id was free, and there is a copy of the
template under it unless the task fails. -/
def Cloned (config : ProxmoxConfig) (newVmId : ℕ) (vmName : String) (vms vms' : VmStore) : Prop :=
  newVmId ∉ vms ∧ ∃ template, vms.lookup config.templateVmid = some template ∧
    (vms' = vms ∨ vms' = vms.insert newVmId { template with name := vmName, cloned := true })

/-- What the request to delete makes of the VMs. -/
def Removed (vmId : ℕ) (vms vms' : VmStore) : Prop :=
  vmId ∈ vms ∧ (vms' = vms ∨ vms' = vms.erase vmId)

section
variable {config : ProxmoxConfig} {newVmId vmId : ℕ} {vmName : String} {s s' : Proxmox}

theorem cloned_of_handle {x : Exchange} {vms vms' : VmStore} {upid : String}
    (h : (if newVmId ∈ vms then none
      else
        (vms.lookup config.templateVmid).map fun template =>
          (if x.taskFails then vms
            else vms.insert newVmId { template with name := vmName, cloned := true }, x.upid))
      = some (vms', upid)) :
    Cloned config newVmId vmName vms vms' := by
  split_ifs at h with hused hfails
  · obtain ⟨template, htemplate, heq⟩ := Option.map_eq_some_iff.mp h
    cases heq
    exact ⟨hused, template, htemplate, Or.inl rfl⟩
  · obtain ⟨template, htemplate, heq⟩ := Option.map_eq_some_iff.mp h
    cases heq
    exact ⟨hused, template, htemplate, Or.inr rfl⟩

theorem cloneVm_ok {taskId : Option String}
    (h : (cloneVm net config newVmId vmName).run s = .ok taskId s') :
    Cloned config newVmId vmName (storeOf s) (storeOf s') := by
  obtain ⟨upid, hhandle, -⟩ := call_ok h
  exact cloned_of_handle hhandle

theorem cloneVm_error {e : ApiError}
    (h : (cloneVm net config newVmId vmName).run s = .error e s') :
    storeOf s' = storeOf s ∨ Cloned config newVmId vmName (storeOf s) (storeOf s') := by
  rcases call_error h with hsame | ⟨-, upid, hhandle⟩
  · exact Or.inl hsame
  · exact Or.inr (cloned_of_handle hhandle)

theorem removed_of_handle {x : Exchange} {vms vms' : VmStore} {upid : String}
    (h : (if vmId ∈ vms then some (if x.taskFails then vms else vms.erase vmId, x.upid) else none)
      = some (vms', upid)) :
    Removed vmId vms vms' := by
  split_ifs at h with hused hfails
  · cases h
    exact ⟨hused, Or.inl rfl⟩
  · cases h
    exact ⟨hused, Or.inr rfl⟩

theorem deleteVm_ok {taskId : Option String} (h : (deleteVm net vmId).run s = .ok taskId s') :
    Removed vmId (storeOf s) (storeOf s') := by
  obtain ⟨upid, hhandle, -⟩ := call_ok h
  exact removed_of_handle hhandle

theorem deleteVm_error {e : ApiError} (h : (deleteVm net vmId).run s = .error e s') :
    storeOf s' = storeOf s ∨ Removed vmId (storeOf s) (storeOf s') := by
  rcases call_error h with hsame | ⟨-, upid, hhandle⟩
  · exact Or.inl hsame
  · exact Or.inr (removed_of_handle hhandle)

variable {edit : Vm → Option Vm}

/-- A change that returns has been made … -/
theorem changeVm_ok {u : Unit} (h : (changeVm net vmId edit).run s = .ok u s') :
    ∃ vm vm', (storeOf s).lookup vmId = some vm ∧ edit vm = some vm' ∧
      storeOf s' = (storeOf s).insert vmId vm' := by
  obtain ⟨r, s₁, hcall, hpure⟩ := run_bind_eq_ok.mp h
  cases hpure
  obtain ⟨a, hhandle, -⟩ := call_ok hcall
  obtain ⟨vms, hedit, heq⟩ := Option.map_eq_some_iff.mp hhandle
  obtain ⟨vm', hbind, hinsert⟩ := Option.map_eq_some_iff.mp hedit
  obtain ⟨vm, hlookup, hvm⟩ := Option.bind_eq_some_iff.mp hbind
  exact ⟨vm, vm', hlookup, hvm, (congrArg Prod.fst heq).symm.trans hinsert.symm⟩

/-- … and one that throws has not, if no answer is lost. -/
theorem changeVm_error (hlost : ∀ n, (net n).reply ≠ .lost) {e : ApiError}
    (h : (changeVm net vmId edit).run s = .error e s') : storeOf s' = storeOf s := by
  rcases run_bind_eq_error.mp h with hcall | ⟨r, s₁, -, hpure⟩
  · rcases call_error hcall with hsame | ⟨hreply, -⟩
    · exact hsame
    · exact absurd hreply (hlost _)
  · cases hpure

end

end

end Cloud
