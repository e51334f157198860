/-
# Expired tickets

The Proxmox client caches its ticket.  Two of its ten operations catch the 401 with which the
host answers an expired ticket, get a new one and try again; the other eight let it through
as an exception, and keep the expired ticket.

`noOperation_unauthorized_iff` says exactly which runs of operations are free of that
exception, when the host serves every request whose ticket is valid: a ticket may expire before the
operations that retry, but not before or during the others.
-/
import CloudVpn.Proxmox
import CloudVpn.Runs

open Effects Runs

namespace Cloud

/-! ## Operations -/

/-- A call of one of the operations. -/
inductive ApiOp where
  | getNextVmId
  | cloneVm (newVmId : ℕ) (vmName : String)
  | waitForTask (upid : String) (timeoutSeconds : ℕ)
  | configureVmSpec (vmId cpuCores memoryMb : ℕ)
  | resizeVmDisk (vmId diskGb : ℕ)
  | configureCloudInit (vmId : ℕ) (ipAddress sshPublicKey : String)
  | startVm (vmId : ℕ)
  | stopVm (vmId : ℕ)
  | deleteVm (vmId : ℕ)
  | getVmStatus (vmId : ℕ)

/-- The operations that catch a 401. -/
def ApiOp.retries : ApiOp → Bool
  | .getNextVmId => true
  | .getVmStatus _ => true
  | _ => false

section
variable (net : ℕ → Exchange) (config : ProxmoxConfig) (depth : ℕ)

/-- An operation, without the value it returns. -/
def perform : ApiOp → Api Unit
  | .getNextVmId => do let _ ← getNextVmId net config depth
  | .cloneVm newVmId vmName => do let _ ← cloneVm net config newVmId vmName
  | .waitForTask upid timeoutSeconds => waitForTask net upid timeoutSeconds
  | .configureVmSpec vmId cpuCores memoryMb => configureVmSpec net vmId cpuCores memoryMb
  | .resizeVmDisk vmId diskGb => resizeVmDisk net vmId diskGb
  | .configureCloudInit vmId ipAddress sshPublicKey =>
      configureCloudInit net vmId ipAddress sshPublicKey
  | .startVm vmId => do let _ ← startVm net vmId
  | .stopVm vmId => do let _ ← stopVm net vmId
  | .deleteVm vmId => do let _ ← deleteVm net vmId
  | .getVmStatus vmId => do let _ ← getVmStatus net vmId depth

/-- The state after an operation, whether it has returned or thrown. -/
def apiStep (s : Proxmox) (op : ApiOp) : Proxmox := final ((perform net config depth op).run s)

/-- The operation does not fail with `Unauthorized`. -/
def Authorized (s : Proxmox) (op : ApiOp) : Prop :=
  thrown ((perform net config depth op).run s) ≠ some .unauthorized

/-- The requests from number `start` up to `stop` find the ticket valid, given whether it has
expired before. -/
def Unexpired (start : ℕ) (expired : Bool) (stop : ℕ) : Prop :=
  ∀ n, start ≤ n → n < stop → expired = false ∧ (net n).expires = false

/-- How many requests with a ticket an operation that does not retry sends, if the first one has
number `n`: `waitForTask` one for each poll, the others one. -/
def ApiOp.requests (n : ℕ) : ApiOp → ℕ
  | .waitForTask _ timeoutSeconds => pollCount net n ((timeoutSeconds + 1) / 2)
  | _ => 1

/-- The ticket lasts for the requests of the operation. -/
def TicketLasts (s : Proxmox) (op : ApiOp) : Prop :=
  Unexpired net (firstRequest s) (s.ticket.isSome && s.host.expired)
    (firstRequest s + op.requests net (firstRequest s))

instance (s : Proxmox) (op : ApiOp) : Decidable (TicketLasts net s op) :=
  decidable_of_iff (∀ n < firstRequest s + op.requests net (firstRequest s), firstRequest s ≤ n →
      (s.ticket.isSome && s.host.expired) = false ∧ (net n).expires = false)
    ⟨fun h n hle hlt => h n hlt hle, fun h n hlt hle => h n hle hlt⟩

end

/-! ## Programs that use the ticket -/

/-- The service holds the last ticket issued. -/
structure HasTicket (s : Proxmox) : Prop where
  ticket : s.ticket = some s.host.issued
  csrfToken : s.csrfToken ≠ none

/-- The service holds the last ticket issued, or none. -/
def Cached (s : Proxmox) : Prop := (s.ticket = none ∧ s.csrfToken = none) ∨ HasTicket s

/-- What the result of a program says about the ticket, if its requests start at number `start`
with a ticket that has expired or not: it fails with `Unauthorized` exactly if one of the
requests found the ticket expired. -/
structure TicketRun {α : Type} (net : ℕ → Exchange) (start : ℕ) (expired : Bool)
    (result : EStateM.Result ApiError Proxmox α) : Prop where
  hasTicket : HasTicket (final result)
  start_le : start ≤ (final result).sent
  expired_eq : thrown result = none → (final result).host.expired = expired
  unauthorized_iff :
    thrown result = some .unauthorized ↔ ¬ Unexpired net start expired (final result).sent

/-- A program that is run with a ticket. -/
def UsesTicket {α : Type} (net : ℕ → Exchange) (m : Api α) : Prop :=
  ∀ s, HasTicket s → TicketRun net s.sent s.host.expired (m.run s)

/-- A program that gets a ticket if there is none. -/
def Authenticates {α : Type} (net : ℕ → Exchange) (m : Api α) : Prop :=
  ∀ s, Cached s →
    TicketRun net (firstRequest s) (s.ticket.isSome && s.host.expired) (m.run s)

section
variable {net : ℕ → Exchange} {α β : Type} {start : ℕ} {expired : Bool}

theorem unexpired_self : Unexpired net start expired start :=
  fun _ hle hlt => absurd hlt (not_lt.mpr hle)

theorem Unexpired.append {middle : ℕ} (h : Unexpired net start expired middle)
    (hle : start ≤ middle) (stop : ℕ) :
    Unexpired net start expired stop ↔ Unexpired net middle expired stop := by
  constructor
  · intro hall n hn hlt
    exact hall n (Nat.le_trans hle hn) hlt
  · intro hrest n hn hlt
    by_cases hmiddle : n < middle
    · exact h n hn hmiddle
    · exact hrest n (not_lt.mp hmiddle) hlt

theorem usesTicket_pure (a : α) : UsesTicket net (pure a : Api α) := by
  intro s hs
  exact ⟨hs, le_rfl, fun _ => rfl,
    ⟨fun h => absurd h (by simp), fun h => absurd unexpired_self h⟩⟩

theorem usesTicket_get : UsesTicket net (get : Api Proxmox) := by
  intro s hs
  exact ⟨hs, le_rfl, fun _ => rfl,
    ⟨fun h => absurd h (by simp), fun h => absurd unexpired_self h⟩⟩

/-- What follows a program that has used the ticket. -/
theorem TicketRun.bind {m : Api α} {s : Proxmox} (hm : TicketRun net start expired (m.run s))
    {k : α → Api β} (hk : ∀ a, UsesTicket net (k a)) :
    TicketRun net start expired ((m >>= k).run s) := by
  rw [EStateM.run_bind]
  cases hrun : m.run s with
  | error e s₁ =>
      rw [hrun] at hm
      exact ⟨hm.hasTicket, hm.start_le, fun h => absurd h (by simp), hm.unauthorized_iff⟩
  | ok a s₁ =>
      rw [hrun] at hm
      -- The first program has not failed, so its requests have found the ticket valid.
      have hfirst : Unexpired net start expired s₁.sent := by
        by_contra hexp
        exact absurd (hm.unauthorized_iff.mpr hexp) (by simp)
      have hnext := hk a s₁ hm.hasTicket
      have hexpired : s₁.host.expired = expired := hm.expired_eq rfl
      rw [hexpired] at hnext
      refine ⟨hnext.hasTicket, Nat.le_trans hm.start_le hnext.start_le, hnext.expired_eq, ?_⟩
      rw [hfirst.append hm.start_le]
      exact hnext.unauthorized_iff

theorem UsesTicket.bind {m : Api α} (hm : UsesTicket net m) {k : α → Api β}
    (hk : ∀ a, UsesTicket net (k a)) : UsesTicket net (m >>= k) :=
  fun s hs => (hm s hs).bind hk

theorem Authenticates.bind {m : Api α} (hm : Authenticates net m) {k : α → Api β}
    (hk : ∀ a, UsesTicket net (k a)) : Authenticates net (m >>= k) :=
  fun s hs => (hm s hs).bind hk

theorem Unexpired.mono {stop stop' : ℕ} (h : Unexpired net start expired stop)
    (hle : stop' ≤ stop) : Unexpired net start expired stop' :=
  fun n hn hlt => h n hn (Nat.lt_of_lt_of_le hlt hle)

theorem unexpired_succ :
    Unexpired net start expired (start + 1) ↔ (expired || (net start).expires) = false := by
  rw [Bool.or_eq_false_iff]
  constructor
  · intro h
    exact h start (Nat.le_refl _) (Nat.lt_succ_self _)
  · intro h n hle hlt
    have hn : n = start := Nat.le_antisymm (Nat.le_of_lt_succ hlt) hle
    rw [hn]
    exact h

/-! ## Requests -/

theorem send_expired (s : Proxmox) :
    (s.send net).host.expired = (s.host.expired || (net s.sent).expires) := by
  unfold Proxmox.send
  cases (net s.sent).expires <;> simp

theorem send_issued (s : Proxmox) : (s.send net).host.issued = s.host.issued := by
  unfold Proxmox.send
  dsimp only
  split_ifs <;> rfl

/-- A request finds its ticket valid if the ticket had not expired and does not expire
now. -/
theorem HasTicket.accepts_send {s : Proxmox} (hs : HasTicket s) :
    (s.send net).host.accepts s.ticket = !(s.host.expired || (net s.sent).expires) := by
  unfold Host.accepts
  rw [hs.ticket, send_issued, send_expired]
  simp

theorem HasTicket.send {s : Proxmox} (hs : HasTicket s) : HasTicket (s.send net) :=
  ⟨hs.ticket.trans (by rw [send_issued]), hs.csrfToken⟩

/-- `authenticate` gets a new ticket, if its request is served. -/
theorem authenticate_run {s : Proxmox} (hserved : (net s.sent).reply = .served) :
    ∃ s', (authenticate net).run s = .ok () s' ∧ HasTicket s' ∧ s'.sent = s.sent + 1 ∧
      s'.host.expired = false := by
  let host : Host :=
    { (s.send net).host with issued := (s.send net).host.issued + 1, expired := false }
  have hexchange : (exchange net false fun _ host =>
      some ({ host with issued := host.issued + 1, expired := false }, host.issued + 1)).run s
      = .ok (some host.issued) { s.send net with host := host } := by
    show exchange net false _ s = _
    unfold exchange
    simp only [Bool.false_and, Bool.false_eq_true, if_false, hserved]
    rfl
  refine ⟨⟨host, some host.issued, some host.issued, s.sent + 1⟩, ?_, ⟨rfl, by simp⟩, rfl, rfl⟩
  unfold authenticate
  rw [run_tryCatch, EStateM.run_bind, hexchange]
  rfl

section
variable (hserved : ∀ n, (net n).reply = .served)
include hserved

theorem usesTicket_request (handle : Exchange → VmStore → Option (VmStore × α)) :
    UsesTicket net (request net handle) := by
  intro s hs
  have haccepts : (s.send net).host.accepts s.ticket = !(s.host.expired || (net s.sent).expires) :=
    hs.accepts_send
  have hout : Exchanged net true _ s _ := exchange_outcome true
    (fun x host => (handle x host.vms).map fun r => ({ host with vms := r.1 }, r.2)) s
  show TicketRun net s.sent s.host.expired ((exchange net true _).run s)
  generalize (exchange net true _).run s = result at hout
  cases hout with
  | rejected _ hticket =>
      have hexp := haccepts.symm.trans hticket
      rw [Bool.not_eq_false'] at hexp
      refine ⟨hs.send, Nat.le_succ _, fun h => absurd h (by simp), fun _ => ?_, fun _ => rfl⟩
      show ¬ Unexpired net s.sent s.host.expired (s.sent + 1)
      rw [unexpired_succ, hexp]
      simp
  | denied hreply => exact absurd (hreply.symm.trans (hserved s.sent)) (by simp)
  | lost _ hreply _ => exact absurd (hreply.symm.trans (hserved s.sent)) (by simp)
  | failed hticket _ =>
      have hexp := haccepts.symm.trans (hticket rfl)
      rw [Bool.not_eq_true'] at hexp
      refine ⟨hs.send, Nat.le_succ _, fun h => absurd h (by simp), fun h => absurd h (by simp), ?_⟩
      intro h
      exact absurd (unexpired_succ.mpr hexp) h
  | answered hticket hhandle _ =>
      have hexp := haccepts.symm.trans (hticket rfl)
      rw [Bool.not_eq_true'] at hexp
      obtain ⟨⟨vms, b⟩, -, heq⟩ := Option.map_eq_some_iff.mp hhandle
      cases heq
      refine ⟨⟨hs.send.ticket, hs.csrfToken⟩, Nat.le_succ _, fun _ => ?_,
        fun h => absurd h (by simp), fun h => absurd (unexpired_succ.mpr hexp) h⟩
      show (s.send net).host.expired = s.host.expired
      rw [send_expired, hexp, (Bool.or_eq_false_iff.mp hexp).1]

theorem usesTicket_pollTask (polls : ℕ) : UsesTicket net (pollTask net polls) := by
  induction polls with
  | zero => exact usesTicket_pure ()
  | succ polls ih =>
      refine usesTicket_get.bind fun s =>
        (usesTicket_request hserved _).bind fun response => ?_
      split_ifs
      · exact usesTicket_pure ()
      · exact usesTicket_pure ()
      · exact ih

/-- A poll is refused, or says whether the task has stopped. -/
theorem poll_outcome (s : Proxmox) :
    (request net fun x vms => some (vms, x.stopped)).run s = .error .unauthorized (s.send net) ∨
      ∃ host, (request net fun x vms => some (vms, x.stopped)).run s
        = .ok (some (net s.sent).stopped) { s.send net with host := host } := by
  have hreply := hserved s.sent
  have hout : Exchanged net true _ s _ := exchange_outcome true
    (fun x (host : Host) =>
      (some (host.vms, x.stopped)).map fun r => ({ host with vms := r.1 }, r.2)) s
  show (exchange net true _).run s = _ ∨ ∃ host, (exchange net true _).run s = _
  generalize (exchange net true _).run s = result at hout
  cases hout with
  | rejected _ _ => exact Or.inl rfl
  | denied hdenied => exact absurd (hdenied.symm.trans hreply) (by simp)
  | lost _ hlost _ => exact absurd (hlost.symm.trans hreply) (by simp)
  | failed _ hfails => exact absurd hfails (by simp [hreply])
  | @answered host a response _ hhandle hresponse =>
      have hstopped : (net s.sent).stopped = a := congrArg Prod.snd (Option.some.inj hhandle)
      rcases hresponse with ⟨hsome, -⟩ | ⟨-, hempty⟩
      · exact Or.inr ⟨host, by rw [hsome, hstopped]⟩
      · exact absurd (hempty.symm.trans hreply) (by simp)

/-- `waitForTask` polls until the task has stopped or the time is over, unless the ticket has
expired. -/
theorem sent_pollTask (polls : ℕ) (s : Proxmox) :
    (final ((pollTask net polls).run s)).sent ≤ s.sent + pollCount net s.sent polls ∧
      (thrown ((pollTask net polls).run s) ≠ some .unauthorized →
        (final ((pollTask net polls).run s)).sent = s.sent + pollCount net s.sent polls) := by
  induction polls generalizing s with
  | zero => exact ⟨Nat.le_refl _, fun _ => rfl⟩
  | succ polls ih =>
      have hpoll : (pollTask net (polls + 1)).run s
          = (request net (fun x vms => some (vms, x.stopped)) >>= fun response =>
              if response = some true then pure ()
              else if (net s.sent).timeUp then pure () else pollTask net polls).run s := rfl
      rw [hpoll, EStateM.run_bind]
      rcases poll_outcome hserved s with hrefused | ⟨host, hanswered⟩
      · have hcount : 1 ≤ pollCount net s.sent (polls + 1) := by
          unfold pollCount
          split_ifs <;> omega
        rw [hrefused]
        exact ⟨Nat.add_le_add_left hcount _, fun h => absurd rfl h⟩
      · rw [hanswered]
        unfold pollCount
        simp only [hserved s.sent, true_and, Option.some.injEq]
        by_cases hstop : (net s.sent).stopped = true
        · simp [hstop, Proxmox.send]
        · by_cases htime : (net s.sent).timeUp = true
          · simp [htime, Proxmox.send]
          · simp only [hstop, htime, or_self, Bool.false_eq_true, if_false]
            have hrest := ih { s.send net with host := host }
            rw [show ({ s.send net with host := host } : Proxmox).sent = s.sent + 1 from rfl]
              at hrest
            rw [Nat.add_comm (pollCount net (s.sent + 1) polls) 1, ← Nat.add_assoc]
            exact hrest

/-! ## Authentication -/

/-- `ensureAuthenticated` leaves the service with a ticket: a new one, if there was none. -/
theorem ensureAuthenticated_ok {s : Proxmox} (hs : Cached s) :
    ∃ s', (ensureAuthenticated net).run s = .ok () s' ∧ HasTicket s' ∧
      s'.sent = firstRequest s ∧ s'.host.expired = (s.ticket.isSome && s.host.expired) := by
  unfold firstRequest
  rw [ensureAuthenticated_run]
  rcases hs with ⟨hticket, -⟩ | hs
  · obtain ⟨s', hrun, hs', hsent, hfresh⟩ := authenticate_run (hserved s.sent)
    rw [if_pos (Or.inl hticket), if_pos (Or.inl hticket)]
    exact ⟨s', hrun, hs', hsent, by rw [hfresh, hticket]; rfl⟩
  · have hnone : ¬ (s.ticket = none ∨ s.csrfToken = none) := by simp [hs.ticket, hs.csrfToken]
    rw [if_neg hnone, if_neg hnone]
    exact ⟨s, rfl, hs, rfl, by rw [hs.ticket]; rfl⟩

/-- With `ensureAuthenticated` in front a program gets a ticket if there is none. -/
theorem authenticates_bind {m : Api α} (hm : UsesTicket net m) :
    Authenticates net (ensureAuthenticated net >>= fun _ => m) := by
  intro s hs
  obtain ⟨s', hrun, hs', hsent, hexpired⟩ := ensureAuthenticated_ok hserved hs
  rw [EStateM.run_bind, hrun, ← hsent, ← hexpired]
  exact hm s' hs'

theorem authenticates_call (handle : Exchange → VmStore → Option (VmStore × α)) :
    Authenticates net (call net handle) :=
  authenticates_bind hserved (usesTicket_request hserved handle)

/-- **The operations that retry** never fail with `Unauthorized`. -/
theorem retrying_authorized {attempt : Api α} (hattempt : UsesTicket net attempt) (depth : ℕ)
    {s : Proxmox} (hs : Cached s) :
    thrown ((retrying net attempt depth).run s) ≠ some .unauthorized ∧
      Cached (final ((retrying net attempt depth).run s)) := by
  induction depth generalizing s with
  | zero => exact ⟨by simp [retrying], hs⟩
  | succ depth ih =>
      obtain ⟨s₁, hrun, hs₁, -, -⟩ := ensureAuthenticated_ok hserved hs
      have hfirst := hattempt s₁ hs₁
      unfold retrying
      rw [EStateM.run_bind, hrun]
      dsimp only
      rw [run_tryCatch]
      cases hresult : attempt.run s₁ with
      | ok a s₂ =>
          rw [hresult] at hfirst
          exact ⟨by simp, Or.inr hfirst.hasTicket⟩
      | error e s₂ =>
          rw [hresult] at hfirst
          dsimp only
          split_ifs with he
          · -- The ticket is dropped, and `authenticate` gets the next one.
            rw [EStateM.run_bind, EStateM.run_modify]
            obtain ⟨s₃, hauth, hs₃, -, -⟩ := authenticate_run
              (s := { s₂ with ticket := none, csrfToken := none }) (hserved s₂.sent)
            dsimp only
            rw [EStateM.run_bind, hauth]
            exact ih (Or.inr hs₃)
          · exact ⟨by simpa using he, Or.inr hfirst.hasTicket⟩

/-! ## Runs of operations -/

variable (config : ProxmoxConfig) (depth : ℕ)

theorem authenticates_perform {op : ApiOp} (hop : op.retries = false) :
    Authenticates net (perform net config depth op) := by
  cases op with
  | getNextVmId => exact absurd hop (by simp [ApiOp.retries])
  | getVmStatus _ => exact absurd hop (by simp [ApiOp.retries])
  | waitForTask _ _ => exact authenticates_bind hserved (usesTicket_pollTask hserved _)
  | _ => exact (authenticates_call hserved _).bind fun _ => usesTicket_pure ()

theorem authorized_of_retries {op : ApiOp} (hop : op.retries = true) {s : Proxmox}
    (hs : Cached s) :
    Authorized net config depth s op ∧ Cached (apiStep net config depth s op) := by
  unfold Authorized apiStep
  cases op with
  | getNextVmId =>
      simp only [perform, getNextVmId, thrown_bind_pure, final_bind_pure]
      refine retrying_authorized hserved ((usesTicket_request hserved _).bind fun response => ?_)
        depth hs
      cases response with
      | none => exact usesTicket_pure _
      | some vmids => exact usesTicket_pure _
  | getVmStatus vmId =>
      simp only [perform, getVmStatus, thrown_bind_pure, final_bind_pure]
      exact retrying_authorized hserved (usesTicket_request hserved _) depth hs
  | _ => exact absurd hop (by simp [ApiOp.retries])

/-- The requests that an operation sends, and those that it sends with a ticket that lasts. -/
theorem unexpired_sent_iff {op : ApiOp} (hop : op.retries = false) {s : Proxmox} (hs : Cached s) :
    Unexpired net (firstRequest s) (s.ticket.isSome && s.host.expired)
        (final ((perform net config depth op).run s)).sent ↔ TicketLasts net s op := by
  obtain ⟨s', hrun, hs', hsent, hexpired⟩ := ensureAuthenticated_ok hserved hs
  -- The operations with one request send it in any case.
  have hone : ∀ {β : Type} (handle : Exchange → VmStore → Option (VmStore × β)),
      (final ((call net handle).run s)).sent = firstRequest s + 1 := by
    intro β handle
    unfold call
    rw [EStateM.run_bind, hrun, ← hsent]
    exact sent_exchange _ _ s'
  unfold TicketLasts
  cases op with
  | getNextVmId => exact absurd hop (by simp [ApiOp.retries])
  | getVmStatus _ => exact absurd hop (by simp [ApiOp.retries])
  | waitForTask upid timeoutSeconds =>
      have hwait : (perform net config depth (.waitForTask upid timeoutSeconds)).run s
          = (pollTask net ((timeoutSeconds + 1) / 2)).run s' := by
        show (waitForTask net upid timeoutSeconds).run s = _
        unfold waitForTask
        rw [EStateM.run_bind, hrun]
      obtain ⟨hle, heq⟩ := sent_pollTask hserved ((timeoutSeconds + 1) / 2) s'
      have hiff := (usesTicket_pollTask hserved ((timeoutSeconds + 1) / 2) s' hs').unauthorized_iff
      rw [hwait, ← hsent, ← hexpired]
      refine ⟨fun h => ?_, fun h => h.mono hle⟩
      rw [heq fun hthrown => hiff.mp hthrown h] at h
      exact h
  | _ =>
      simp only [perform, cloneVm, configureVmSpec, resizeVmDisk, configureCloudInit, changeVm,
        startVm, stopVm, deleteVm, startTask, final_bind_pure]
      rw [hone]
      rfl

/-- **One operation.** -/
theorem authorized_iff {s : Proxmox} (hs : Cached s) (op : ApiOp) :
    (Authorized net config depth s op ↔ op.retries = true ∨ TicketLasts net s op) ∧
      Cached (apiStep net config depth s op) := by
  cases hop : op.retries with
  | true =>
      obtain ⟨hauth, hcached⟩ := authorized_of_retries hserved config depth hop hs
      exact ⟨⟨fun _ => Or.inl rfl, fun _ => hauth⟩, hcached⟩
  | false =>
      have hrun := authenticates_perform hserved config depth hop s hs
      refine ⟨?_, Or.inr hrun.hasTicket⟩
      unfold Authorized
      rw [ne_eq, hrun.unauthorized_iff, not_not, unexpired_sent_iff hserved config depth hop hs]
      exact ⟨Or.inr, fun h => h.resolve_left (by simp)⟩

end

end

/-- **Which runs are free of `Unauthorized`**, when every request with a valid ticket is served:
those in which the tickets last for the operations that do not retry. -/
theorem noOperation_unauthorized_iff (net : ℕ → Exchange) (hserved : ∀ n, (net n).reply = .served)
    (config : ProxmoxConfig) (depth : ℕ) (host : Host) (ops : List ApiOp) :
    Along (apiStep net config depth) (Authorized net config depth) (startService host) ops ↔
      Along (apiStep net config depth)
        (fun s op => op.retries = true ∨ TicketLasts net s op)
        (startService host) ops := by
  have hinit : Cached (startService host) := Or.inl ⟨rfl, rfl⟩
  constructor
  · refine Along.imp (fun s op hs hauth => ?_) hinit
    obtain ⟨hiff, hnext⟩ := authorized_iff hserved config depth hs op
    exact ⟨hnext, hiff.mp hauth⟩
  · refine Along.imp (fun s op hs hlasts => ?_) hinit
    obtain ⟨hiff, hnext⟩ := authorized_iff hserved config depth hs op
    exact ⟨hnext, hiff.mpr hlasts⟩

/-! ## Samples -/

/-- Requests that are all served, with the ticket expiring before one of them. -/
def expiringNet (moment : Option ℕ) (n : ℕ) : Exchange :=
  ⟨moment == some n, .served, "UPID", false, true, false⟩

/-- A ticket that expires before an operation that retries does no harm. -/
theorem noOperation_unauthorized_retried :
    Along (apiStep (expiringNet (some 3)) ⟨201⟩ 10) (Authorized (expiringNet (some 3)) ⟨201⟩ 10)
      (startService sampleHost)
      [.cloneVm 100 "vm", .waitForTask "UPID" 120, .getVmStatus 100, .startVm 100] :=
  (noOperation_unauthorized_iff (expiringNet (some 3)) (fun _ => rfl) ⟨201⟩ 10 sampleHost _).mpr
    (by decide +kernel)

/-- **A ticket that expires before `cloneVm`** makes this operation fail with `Unauthorized`, and
the next one as well, since the expired ticket is kept. -/
theorem cloneVm_unauthorized :
    let net := expiringNet (some 2)
    let s := run (apiStep net ⟨201⟩ 10) (startService sampleHost) [.getNextVmId]
    thrown ((perform net ⟨201⟩ 10 (.cloneVm 100 "vm")).run s) = some .unauthorized ∧
      thrown ((perform net ⟨201⟩ 10 (.startVm 100)).run
        (apiStep net ⟨201⟩ 10 s (.cloneVm 100 "vm"))) = some .unauthorized := by
  decide +kernel

end Cloud
