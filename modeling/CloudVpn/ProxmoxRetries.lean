/-
# Whether the retries come to an end

`getNextVmId` and `getVmStatus` answer a 401 by dropping the ticket, authenticating and calling
themselves again.  Nothing counts the attempts.  From the first 401 on, the requests alternate
between a request for a ticket and the next attempt, so the recursion goes on as long as every
ticket is issued and every attempt with it is answered with 401 (`overflows_iff`).

`retries_finish_iff` says that this is the only way not to finish.
-/
import CloudVpn.ProxmoxTickets

open Effects

namespace Cloud

/-! ## Rejected requests -/

/-- A request with a new ticket is answered with 401: the ticket expires on the way, or the host
denies it. -/
def Exchange.Rejects (x : Exchange) : Prop := x.expires = true ∨ x.reply = .denied

/-- The next request is answered with 401. -/
def Rejected (net : ℕ → Exchange) (s : Proxmox) : Prop :=
  (s.send net).host.accepts s.ticket = false ∨ (net s.sent).reply = .denied

/-- From request number `n` on, every request for a ticket is served, and every attempt with the
new ticket is answered with 401. -/
def RejectsFrom (net : ℕ → Exchange) (n : ℕ) : Prop :=
  (∀ k, (net (n + 2 * k)).reply = .served) ∧ ∀ k, (net (n + 2 * k + 1)).Rejects

/-- The service has no ticket, or no token, and has to authenticate. -/
def Unauthenticated (s : Proxmox) : Prop := s.ticket = none ∨ s.csrfToken = none

/-- The host answers every attempt with 401 and issues every ticket.  A service that has a
ticket makes its first attempt with that one. -/
def KeepsRejecting (net : ℕ → Exchange) (s : Proxmox) : Prop :=
  (Unauthenticated s ∧ RejectsFrom net s.sent) ∨
    (¬ Unauthenticated s ∧ Rejected net s ∧ RejectsFrom net (s.sent + 1))

variable {net : ℕ → Exchange} {α β : Type} {s : Proxmox}

/-- The service has a ticket that the host has just issued. -/
structure Renewed (s : Proxmox) : Prop extends HasTicket s where
  unexpired : s.host.expired = false

theorem HasTicket.authenticated (hs : HasTicket s) : ¬ Unauthenticated s := by
  rintro (hticket | htoken)
  · exact absurd (hs.ticket.symm.trans hticket) (by simp)
  · exact hs.csrfToken htoken

theorem Renewed.rejected_iff (hs : Renewed s) : Rejected net s ↔ (net s.sent).Rejects := by
  unfold Rejected Exchange.Rejects
  rw [hs.toHasTicket.accepts_send, hs.unexpired]
  simp

/-! ## One attempt -/

/-- An attempt sends one request.  It fails with `Unauthorized` if the request is answered with
401, and otherwise it returns or fails with another exception of the web client. -/
structure Asks (net : ℕ → Exchange) (attempt : Api α) : Prop where
  rejected : ∀ s, Rejected net s → attempt.run s = .error .unauthorized (s.send net)
  accepted : ∀ s, ¬ Rejected net s →
    thrown (attempt.run s) = none ∨ thrown (attempt.run s) = some .failed

theorem asks_request (handle : Exchange → VmStore → Option (VmStore × α)) :
    Asks net (request net handle) := by
  constructor
  · intro s hrejected
    show exchange net true (fun x host =>
      (handle x host.vms).map fun r => ({ host with vms := r.1 }, r.2)) s = _
    unfold exchange
    dsimp only
    split_ifs with hticket
    · rfl
    · rcases hrejected with haccepts | hdenied
      · exact absurd (by rw [Bool.true_and, Bool.not_eq_true']; exact haccepts) hticket
      · rw [hdenied]
  · intro s hrejected
    have hout : Exchanged net true _ s _ := exchange_outcome true
      (fun x host => (handle x host.vms).map fun r => ({ host with vms := r.1 }, r.2)) s
    show thrown ((exchange net true _).run s) = none ∨ thrown ((exchange net true _).run s) = _
    generalize (exchange net true _).run s = result at hout
    cases hout with
    | rejected _ hticket => exact absurd (Or.inl hticket) hrejected
    | denied hreply => exact absurd (Or.inr hreply) hrejected
    | failed _ _ => exact Or.inr rfl
    | lost _ _ _ => exact Or.inr rfl
    | answered _ _ _ => exact Or.inl rfl

/-- What an attempt does with the answer, if it returns in any case. -/
theorem Asks.bind {attempt : Api α} (h : Asks net attempt) {k : α → Api β}
    (hk : ∀ a, ∃ b, k a = pure b) : Asks net (attempt >>= k) := by
  constructor
  · intro s hrejected
    rw [EStateM.run_bind, h.rejected s hrejected]
  · intro s hrejected
    have haccepted := h.accepted s hrejected
    rw [EStateM.run_bind]
    cases hrun : attempt.run s with
    | ok a s' =>
        obtain ⟨b, hb⟩ := hk a
        simp only [hb]
        exact Or.inl rfl
    | error e s' =>
        rw [hrun] at haccepted
        exact haccepted

/-- A request for a ticket that is not served. -/
theorem authenticate_unserved (hreply : (net s.sent).reply ≠ .served) :
    ∃ e s', (authenticate net).run s = .error e s' ∧ e ≠ .stackOverflow := by
  have hout : Exchanged net false _ s _ := exchange_outcome false (fun _ host =>
    some ({ host with issued := host.issued + 1, expired := false }, host.issued + 1)) s
  unfold authenticate
  rw [run_tryCatch, EStateM.run_bind]
  generalize (exchange net false _).run s = result at hout
  cases hout with
  | rejected hticketed _ => exact absurd hticketed (by simp)
  | denied _ => exact ⟨_, _, rfl, by simp⟩
  | failed _ _ => exact ⟨_, _, rfl, by simp⟩
  | lost _ _ _ => exact ⟨_, _, rfl, by simp⟩
  | answered _ _ hresponse =>
      rcases hresponse with ⟨-, hserved⟩ | ⟨rfl, -⟩
      · exact absurd hserved hreply
      · exact ⟨_, _, rfl, by simp⟩

/-! ## The recursion -/

section
variable {attempt : Api α} {depth : ℕ}

/-- The state in which the handler of a 401 authenticates. -/
def Proxmox.dropTicket (net : ℕ → Exchange) (s : Proxmox) : Proxmox :=
  { s.send net with ticket := none, csrfToken := none }

theorem ensureAuthenticated_of_unauthenticated (hs : Unauthenticated s) :
    (ensureAuthenticated net).run s = (authenticate net).run s := by
  rw [ensureAuthenticated_run]
  exact if_pos hs

theorem ensureAuthenticated_of_authenticated (hs : ¬ Unauthenticated s) :
    (ensureAuthenticated net).run s = .ok () s := by
  rw [ensureAuthenticated_run]
  exact if_neg hs

/-- What a call does that has to authenticate first. -/
theorem retrying_unauthenticated (hs : Unauthenticated s) :
    (retrying net attempt (depth + 1)).run s
      = (authenticate net >>= fun _ => retrying net attempt (depth + 1)).run s := by
  unfold retrying
  rw [EStateM.run_bind, EStateM.run_bind, ensureAuthenticated_of_unauthenticated hs]
  by_cases hserved : (net s.sent).reply = .served
  · obtain ⟨s', hauth, hs', -, -⟩ := authenticate_run hserved
    rw [hauth]
    dsimp only
    rw [EStateM.run_bind, ensureAuthenticated_of_authenticated hs'.authenticated]
  · obtain ⟨e, s', hauth, -⟩ := authenticate_unserved hserved
    rw [hauth]

/-- What a call does after a 401. -/
theorem retrying_rejected (hattempt : Asks net attempt) (hs : ¬ Unauthenticated s)
    (hrejected : Rejected net s) :
    (retrying net attempt (depth + 1)).run s
      = (authenticate net >>= fun _ => retrying net attempt depth).run (s.dropTicket net) := by
  nth_rewrite 1 [retrying]
  rw [EStateM.run_bind, ensureAuthenticated_of_authenticated hs]
  dsimp only
  rw [run_tryCatch, hattempt.rejected s hrejected]
  rfl

/-- A call whose attempt is not answered with 401 does not call itself. -/
theorem retrying_accepted (hattempt : Asks net attempt) (hs : ¬ Unauthenticated s)
    (hrejected : ¬ Rejected net s) :
    thrown ((retrying net attempt (depth + 1)).run s) ≠ some .stackOverflow := by
  have haccepted := hattempt.accepted s hrejected
  unfold retrying
  rw [EStateM.run_bind, ensureAuthenticated_of_authenticated hs]
  dsimp only
  rw [run_tryCatch]
  cases hrun : attempt.run s with
  | ok a s' => simp
  | error e s' =>
      rw [hrun] at haccepted
      have he : e = .failed := by simpa using haccepted
      subst he
      simp

/-- A deeper stack makes a difference only if the stack was exhausted. -/
theorem retrying_stable (hdepth : thrown ((retrying net attempt depth).run s) ≠
      some .stackOverflow) :
    (retrying net attempt (depth + 1)).run s = (retrying net attempt depth).run s := by
  induction depth generalizing s with
  | zero => exact absurd rfl hdepth
  | succ depth ih =>
      unfold retrying at hdepth ⊢
      rw [EStateM.run_bind] at hdepth ⊢
      rw [EStateM.run_bind]
      cases hensure : (ensureAuthenticated net).run s with
      | error e s₁ => rfl
      | ok u s₁ =>
          rw [hensure] at hdepth
          dsimp only at hdepth ⊢
          rw [run_tryCatch] at hdepth ⊢
          rw [run_tryCatch]
          cases hattempt : attempt.run s₁ with
          | ok a s₂ => rfl
          | error e s₂ =>
              rw [hattempt] at hdepth
              dsimp only at hdepth ⊢
              split_ifs at hdepth ⊢ with he
              · -- Both go on from the same state, one call deeper.
                rw [EStateM.run_bind, EStateM.run_modify] at hdepth ⊢
                rw [EStateM.run_bind, EStateM.run_modify]
                dsimp only at hdepth ⊢
                rw [EStateM.run_bind] at hdepth ⊢
                rw [EStateM.run_bind]
                cases hauth : (authenticate net).run
                    { s₂ with ticket := none, csrfToken := none } with
                | error e s₃ => rfl
                | ok u s₃ =>
                    rw [hauth] at hdepth
                    exact ih hdepth
              · rfl

/-- One round: a ticket is issued, and the attempt with it is answered with 401. -/
theorem retrying_round (hattempt : Asks net attempt) (depth : ℕ)
    (hserved : (net s.sent).reply = .served) (hrejects : (net (s.sent + 1)).Rejects) :
    ∃ s', s'.sent = s.sent + 2 ∧
      (authenticate net >>= fun _ => retrying net attempt (depth + 1)).run s
        = (authenticate net >>= fun _ => retrying net attempt depth).run s' := by
  obtain ⟨s', hauth, hs', hsent, hexpired⟩ := authenticate_run hserved
  have hnew : Renewed s' := ⟨hs', hexpired⟩
  have hrejected : Rejected net s' := hnew.rejected_iff.mpr (by rwa [hsent])
  refine ⟨s'.dropTicket net, congrArg (· + 1) hsent, ?_⟩
  rw [EStateM.run_bind, hauth]
  exact retrying_rejected hattempt hs'.authenticated hrejected

/-- Rounds as far as the stack goes exhaust it. -/
theorem run_overflow (hattempt : Asks net attempt) (depth : ℕ)
    (htickets : ∀ k ≤ depth, (net (s.sent + 2 * k)).reply = .served)
    (hattempts : ∀ k < depth, (net (s.sent + 2 * k + 1)).Rejects) :
    ∃ s', (authenticate net >>= fun _ => retrying net attempt depth).run s
        = .error .stackOverflow s' ∧ s'.sent = s.sent + 2 * depth + 1 := by
  induction depth generalizing s with
  | zero =>
      obtain ⟨s', hauth, -, hsent, -⟩ := authenticate_run (htickets 0 le_rfl)
      rw [EStateM.run_bind, hauth]
      exact ⟨s', rfl, hsent⟩
  | succ depth ih =>
      obtain ⟨s', hsent, hround⟩ := retrying_round hattempt depth
        (htickets 0 (by omega)) (hattempts 0 (by omega))
      have hshift : ∀ k, s'.sent + 2 * k = s.sent + 2 * (k + 1) := fun k => by omega
      obtain ⟨s'', hrun, hcount⟩ := ih (s := s')
        (fun k hk => by rw [hshift]; exact htickets (k + 1) (by omega))
        (fun k hk => by rw [hshift]; exact hattempts (k + 1) (by omega))
      exact ⟨s'', hround.trans hrun, by omega⟩

theorem served_of_overflow
    (hoverflow : thrown ((authenticate net >>= fun _ => retrying net attempt depth).run s)
      = some .stackOverflow) : (net s.sent).reply = .served := by
  by_contra hserved
  obtain ⟨e, s', hauth, he⟩ := authenticate_unserved hserved
  rw [EStateM.run_bind, hauth] at hoverflow
  exact he (Option.some.inj hoverflow)

theorem rejects_of_overflow (hattempt : Asks net attempt)
    (hoverflow : thrown ((authenticate net >>= fun _ => retrying net attempt (depth + 1)).run s)
      = some .stackOverflow) : (net (s.sent + 1)).Rejects := by
  by_contra hrejects
  obtain ⟨s', hauth, hs', hsent, hexpired⟩ := authenticate_run (served_of_overflow hoverflow)
  have hnew : Renewed s' := ⟨hs', hexpired⟩
  rw [EStateM.run_bind, hauth] at hoverflow
  exact retrying_accepted hattempt hs'.authenticated (by rwa [hnew.rejected_iff, hsent]) hoverflow

/-- **When the stack is exhausted**, counted from a request for a ticket: all tickets are issued
and all attempts are answered with 401, as far as the stack goes. -/
theorem overflows_iff (hattempt : Asks net attempt) :
    thrown ((authenticate net >>= fun _ => retrying net attempt depth).run s)
        = some .stackOverflow ↔
      (∀ k ≤ depth, (net (s.sent + 2 * k)).reply = .served) ∧
        ∀ k < depth, (net (s.sent + 2 * k + 1)).Rejects := by
  constructor
  · intro hoverflow
    induction depth generalizing s with
    | zero =>
        refine ⟨fun k hk => ?_, fun k hk => absurd hk (Nat.not_lt_zero k)⟩
        rw [Nat.le_zero.mp hk]
        exact served_of_overflow hoverflow
    | succ depth ih =>
        have hserved := served_of_overflow hoverflow
        have hrejects := rejects_of_overflow hattempt hoverflow
        obtain ⟨s', hsent, hround⟩ := retrying_round hattempt depth hserved hrejects
        rw [hround] at hoverflow
        obtain ⟨htickets, hattempts⟩ := ih hoverflow
        have hshift : ∀ k, s.sent + 2 * (k + 1) = s'.sent + 2 * k := fun k => by omega
        constructor
        · rintro (_ | k) hk
          · exact hserved
          · rw [hshift]
            exact htickets k (by omega)
        · rintro (_ | k) hk
          · exact hrejects
          · rw [hshift]
            exact hattempts k (by omega)
  · rintro ⟨htickets, hattempts⟩
    obtain ⟨s', hrun, -⟩ := run_overflow hattempt depth htickets hattempts
    rw [hrun]
    rfl

/-- The stack is exhausted however deep it is, exactly if the host keeps rejecting. -/
theorem overflows_always_iff (hattempt : Asks net attempt) :
    (∀ depth, thrown ((retrying net attempt depth).run s) = some .stackOverflow) ↔
      KeepsRejecting net s := by
  -- The smallest stack is exhausted at once; the others are counted by `overflows_iff`.
  have hall : (∀ depth, thrown ((retrying net attempt depth).run s) = some .stackOverflow) ↔
      ∀ depth, thrown ((retrying net attempt (depth + 1)).run s) = some .stackOverflow := by
    constructor
    · exact fun h depth => h (depth + 1)
    · rintro h (_ | depth)
      · rfl
      · exact h depth
  have hfrom : ∀ n, RejectsFrom net n ↔ ∀ depth, (∀ k ≤ depth, (net (n + 2 * k)).reply = .served) ∧
      ∀ k < depth, (net (n + 2 * k + 1)).Rejects := by
    intro n
    constructor
    · exact fun h depth => ⟨fun k _ => h.1 k, fun k _ => h.2 k⟩
    · exact fun h => ⟨fun k => (h k).1 k le_rfl, fun k => (h (k + 1)).2 k (Nat.lt_succ_self k)⟩
  rw [hall]
  unfold KeepsRejecting
  by_cases hs : Unauthenticated s
  · simp only [hs, not_true_eq_false, false_and, or_false, true_and,
      retrying_unauthenticated hs, overflows_iff hattempt]
    rw [hfrom]
    constructor
    · exact fun h depth => ⟨fun k hk => (h depth).1 k (by omega), fun k hk => (h depth).2 k (by omega)⟩
    · exact fun h depth => h (depth + 1)
  · by_cases hrejected : Rejected net s
    · simp only [hs, hrejected, false_and, not_false_eq_true, true_and, false_or,
        retrying_rejected hattempt hs hrejected, overflows_iff hattempt]
      exact (hfrom _).symm
    · simp only [hs, hrejected, false_and, not_false_eq_true, true_and, or_false, iff_false]
      exact fun h => absurd (h 0) (retrying_accepted hattempt hs hrejected)

theorem retrying_finishes_iff (hattempt : Asks net attempt) :
    Finishes .stackOverflow (retrying net attempt) s ↔ ¬ KeepsRejecting net s := by
  have hstable : Finishes .stackOverflow (retrying net attempt) s ↔
      ∃ depth, thrown ((retrying net attempt depth).run s) ≠ some .stackOverflow :=
    finishes_iff fun _ => retrying_stable
  rw [hstable, ← overflows_always_iff hattempt, not_forall]

end

/-! ## The two operations -/

section
variable (net : ℕ → Exchange)

theorem asks_getNextVmId (config : ProxmoxConfig) :
    ∃ attempt, Asks net attempt ∧ getNextVmId net config = retrying net attempt := by
  refine ⟨_, ?_, rfl⟩
  refine (asks_request fun _ vms => some (vms, vms.keys)).bind fun response => ?_
  cases response with
  | none => exact ⟨100, rfl⟩
  | some vmids => exact ⟨nextVmId config vmids, rfl⟩

theorem asks_getVmStatus (vmId : ℕ) :
    ∃ attempt, Asks net attempt ∧ getVmStatus net vmId = retrying net attempt :=
  ⟨_, asks_request _, rfl⟩

/-- **The retries finish**, with a result or an exception, unless the host keeps answering the
attempts with 401 and the requests for a ticket with a ticket. -/
theorem retries_finish_iff (config : ProxmoxConfig) (vmId : ℕ) (s : Proxmox) :
    (Finishes .stackOverflow (getNextVmId net config) s ↔ ¬ KeepsRejecting net s) ∧
      (Finishes .stackOverflow (getVmStatus net vmId) s ↔ ¬ KeepsRejecting net s) := by
  constructor
  · obtain ⟨attempt, hattempt, heq⟩ := asks_getNextVmId net config
    rw [heq]
    exact retrying_finishes_iff hattempt
  · obtain ⟨attempt, hattempt, heq⟩ := asks_getVmStatus net vmId
    rw [heq]
    exact retrying_finishes_iff hattempt

end

/-- A host that issues every ticket and answers every request with it with 401. -/
def denyingNet (n : ℕ) : Exchange :=
  ⟨false, if n % 2 = 0 then .served else .denied, "", false, false, false⟩

theorem rejectsFrom_denyingNet : RejectsFrom denyingNet 0 := by
  refine ⟨fun k => by simp [denyingNet], fun k => Or.inr ?_⟩
  simp [denyingNet, Nat.add_mod]

theorem retrying_denied {attempt : Api α} (hattempt : Asks denyingNet attempt) (host : Host) :
    ¬ Finishes .stackOverflow (retrying denyingNet attempt) (startService host) ∧
      ∀ depth, ∃ s', (retrying denyingNet attempt (depth + 1)).run (startService host)
        = .error .stackOverflow s' ∧ s'.sent = 2 * (depth + 1) + 1 := by
  obtain ⟨htickets, hattempts⟩ := rejectsFrom_denyingNet
  constructor
  · rw [retrying_finishes_iff hattempt, not_not]
    exact Or.inl ⟨Or.inl rfl, htickets, hattempts⟩
  · intro depth
    obtain ⟨s', hrun, hsent⟩ := run_overflow (s := startService host)
      hattempt (depth + 1) (fun k _ => htickets k) (fun k _ => hattempts k)
    rw [retrying_unauthenticated (Or.inl rfl)]
    exact ⟨s', hrun, hsent.trans (by simp [startService])⟩

/-- With such a host neither operation finishes: however many calls the stack allows, each call
sends two requests more, until the stack is exhausted. -/
theorem retries_exhaust_stack :
    let s := startService sampleHost
    (¬ Finishes .stackOverflow (getNextVmId denyingNet ⟨201⟩) s ∧
      ∀ depth, ∃ s', (getNextVmId denyingNet ⟨201⟩ (depth + 1)).run s
        = .error .stackOverflow s' ∧ s'.sent = 2 * (depth + 1) + 1) ∧
    ¬ Finishes .stackOverflow (getVmStatus denyingNet 201) s ∧
      ∀ depth, ∃ s', (getVmStatus denyingNet 201 (depth + 1)).run s
        = .error .stackOverflow s' ∧ s'.sent = 2 * (depth + 1) + 1 := by
  intro s
  constructor
  · obtain ⟨attempt, hattempt, heq⟩ := asks_getNextVmId denyingNet ⟨201⟩
    rw [heq]
    exact retrying_denied hattempt sampleHost
  · obtain ⟨attempt, hattempt, heq⟩ := asks_getVmStatus denyingNet 201
    rw [heq]
    exact retrying_denied hattempt sampleHost

end Cloud
