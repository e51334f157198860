/-
# The server's main loop

Model of the event loop of `vpn_server.c`.  A turn waits in `select` for at most a second;
if packets are ready it handles them, and only if nothing is ready it looks whether 30
seconds have passed since the last sweep over the client table.

`idleClients_expired` is the main result: no client stays in the table for more than 331
seconds after its last packet, as long as `select` times out once a sweep is a second
overdue.  On a server that always has something to read the sweep never runs
(`sweep_starved`).
-/
import CloudVpn.ServerInvariant

open Memory Slots Runs

namespace Vpn

/-! ## The loop -/

/-- What `select` reports, with what the branch it leads to takes from outside. -/
inductive Selected where
  | failed
  /-- The reading of the clock in `main`, what the sweep would take (it reads the clock
  again), and whether the enclave process is alive. -/
  | timedOut (now : ℤ) (sweepEnv : Env) (enclaveRunning : Bool)
  | ready (udp : Option (SockAddr × Bytes × Env)) (tun : Option (Bytes × Env))

/-- One turn of the loop: the flag that the signal handler clears, the result of `select`
and the time at which the turn is over. -/
structure ServerTurn where
  running : Bool
  selected : Selected
  completed : ℤ

/-- The server, `last_timeout_check`, whether the loop is still running, and when its last
turn was over. -/
structure ServerLoop where
  server : Server
  lastTimeoutCheck : ℤ
  looping : Bool
  now : ℤ

/-- The seconds between two sweeps. -/
def checkPeriod : ℤ := 30

/-- `activity == 0`. -/
def timeoutPhase (S : Sodium) (s : ServerLoop) (now : ℤ) (sweepEnv : Env)
    (enclaveRunning : Bool) : ServerLoop :=
  let s :=
    if now - s.lastTimeoutCheck ≥ checkPeriod then
      { s with server := serverStep S s.server (.sweep sweepEnv), lastTimeoutCheck := now }
    else s
  { s with looping := enclaveRunning }

/-- The packets that a turn handles: first the datagram, then the packet from the TUN
device. -/
def readyEvents (udp : Option (SockAddr × Bytes × Env)) (tun : Option (Bytes × Env)) :
    List Event :=
  (udp.map fun r => Event.udp r.1 r.2.1 r.2.2).toList ++
    (tun.map fun r => Event.tun r.1 r.2).toList

/-- One turn of the loop. -/
def serverLoopStep (S : Sodium) (s : ServerLoop) (t : ServerTurn) : ServerLoop :=
  if s.looping = false then s
  else if t.running = false then { s with looping := false }
  else
    match t.selected with
    | .failed => { s with looping := false, now := t.completed }
    | .timedOut now sweepEnv enclaveRunning =>
        { timeoutPhase S s now sweepEnv enclaveRunning with now := t.completed }
    | .ready udp tun =>
        { s with
          server := run (serverStep S) s.server (readyEvents udp tun)
          now := t.completed }

/-- The loop at its start. -/
def startServerLoop (S : Sodium) (secret : Key) (now : ℤ) : ServerLoop :=
  ⟨initServer S secret, now, true, now⟩

/-! ## Time -/

/-- The readings of the clock in a turn. -/
def Selected.readings : Selected → List ℤ
  | .failed => []
  | .timedOut now sweepEnv _ => [now, sweepEnv.now]
  | .ready udp tun => (readyEvents udp tun).map fun e => e.env.now

/-- The clock does not go back, and a turn ends at most a second after the turn before. -/
def Timed (s : ServerLoop) (t : ServerTurn) : Prop :=
  (s.now :: (t.selected.readings ++ [t.completed])).Pairwise (· ≤ ·) ∧
    t.completed ≤ s.now + 1

instance (s : ServerLoop) (t : ServerTurn) : Decidable (Timed s t) :=
  inferInstanceAs (Decidable (_ ∧ _))

/-- No active client has been silent for longer than the timeout, the period of the sweeps
and a second. -/
def IdleExpired (s : ServerLoop) : Prop :=
  ∀ i, (s.server.table.clients i).active = true →
    s.now - (s.server.table.clients i).lastSeen ≤ clientTimeout + checkPeriod + 1

/-- `select` finds nothing to read. -/
def Selected.IsTimeout : Selected → Prop
  | .timedOut _ _ _ => True
  | _ => False

instance : DecidablePred Selected.IsTimeout
  | .timedOut _ _ _ => isTrue trivial
  | .failed => isFalse id
  | .ready _ _ => isFalse id

/-- Traffic does not hold up the sweep: a turn that begins when the sweep is a second
overdue finds nothing to read. -/
def LetsSweep (s : ServerLoop) (t : ServerTurn) : Prop :=
  checkPeriod + 1 ≤ s.now - s.lastTimeoutCheck → t.selected.IsTimeout

instance (s : ServerLoop) (t : ServerTurn) : Decidable (LetsSweep s t) :=
  inferInstanceAs (Decidable (_ → _))

/-! ## When clients were last seen -/

/-- Every active client has been seen at or after the given time. -/
def SeenSince (since : ℤ) (table : ClientTable) : Prop :=
  ∀ i, (table.clients i).active = true → since ≤ (table.clients i).lastSeen

section
variable {since now : ℤ} {table : ClientTable}

theorem SeenSince.mono {since' : ℤ} (h : SeenSince since table) (hle : since' ≤ since) :
    SeenSince since' table := fun i hi => hle.trans (h i hi)

/-- Writing one entry, if it is inactive or has been seen in time. -/
theorem SeenSince.update (h : SeenSince since table) {entry : ClientEntry}
    (hentry : entry.active = true → since ≤ entry.lastSeen) {table' : ClientTable}
    {client : Fin maxClients}
    (htable : table'.clients = Function.update table.clients client entry) :
    SeenSince since table' := by
  unfold SeenSince
  rw [htable]
  exact (Function.forall_update_iff table.clients
    (p := fun _ e => e.active = true → since ≤ e.lastSeen)).mpr ⟨hentry, fun i _ => h i⟩

theorem SeenSince.updateClientActivity (h : SeenSince since table) (hnow : since ≤ now)
    (client : Fin maxClients) : SeenSince since (updateClientActivity table client now) :=
  h.update (fun _ => hnow) rfl

theorem SeenSince.removeClient (h : SeenSince since table) (vpnIp : UInt32) :
    SeenSince since (removeClient table vpnIp) := by
  unfold Vpn.removeClient
  split
  · exact h.update (fun hactive => absurd hactive (by simp)) rfl
  · exact h

theorem SeenSince.addClient (h : SeenSince since table) (hnow : since ≤ now)
    (addr : SockAddr) (rand : UInt32) :
    SeenSince since (addClient table addr now rand).1 := by
  unfold Vpn.addClient
  split_ifs
  · exact h
  · split
    · exact h.updateClientActivity hnow _
    · split
      · exact h
      · exact h.update (fun _ => hnow) rfl

/-- The sweep leaves the clients that were seen within the timeout. -/
theorem seenSince_checkClientTimeouts (table : ClientTable) (now : ℤ) :
    SeenSince (now - clientTimeout) (checkClientTimeouts table now) := by
  intro i hi
  rw [clients_checkClientTimeouts] at hi ⊢
  unfold sweepEntry expired at hi ⊢
  split_ifs at hi ⊢ with hsweep
  simp only [hi, Bool.true_and, decide_eq_true_eq, not_lt] at hsweep
  omega

theorem SeenSince.checkClientTimeouts (h : SeenSince since table) (now : ℤ) :
    SeenSince since (checkClientTimeouts table now) := by
  intro i hi
  rw [clients_checkClientTimeouts] at hi ⊢
  unfold sweepEntry at hi ⊢
  split_ifs at hi ⊢
  exact h i hi

end

section
variable {S : Sodium} {server : Server} {since : ℤ}

theorem UdpOutcome.seenSince {env : Env} {addr : SockAddr} {datagram : Bytes}
    {table : ClientTable} {actions : List Action}
    (h : UdpOutcome S env server addr datagram table actions)
    (hseen : SeenSince since server.table) (hnow : since ≤ env.now) :
    SeenSince since table := by
  cases h with
  | ignored => exact hseen
  | answered _ _ _ _ => exact hseen.addClient hnow addr env.rand
  | refused _ _ _ => exact (hseen.addClient hnow addr env.rand).removeClient _
  | delivered _ => exact hseen.updateClientActivity hnow _
  | ponged _ htable =>
      rcases htable with rfl | ⟨client, rfl⟩
      · exact hseen
      · exact hseen.updateClientActivity hnow client
  | dropped _ _ => exact hseen.removeClient _

/-- An event leaves no client that has been silent for longer than before. -/
theorem serverStep_seenSince (hwf : server.table.Wf) (hseen : SeenSince since server.table)
    {e : Event} (hnow : since ≤ e.env.now) : SeenSince since (serverStep S server e).table := by
  cases e with
  | udp addr datagram env => exact (handleUdpToTun_outcome hwf addr datagram).seenSince hseen hnow
  | tun packet env =>
      show SeenSince since (handleTunToUdp S env server packet).1.table
      rcases handleTunToUdp_outcome S env server packet with ⟨htable, -⟩ | ⟨c, _, htable, -⟩
      · rw [htable]
        exact hseen
      · rw [htable]
        split_ifs
        · exact hseen.updateClientActivity hnow c
        · exact hseen
  | sweep env => exact hseen.checkClientTimeouts env.now

end

/-! ## Runs of the loop -/

/-- **The invariant.**  Every client has been seen in the 300 seconds before the last sweep or
since, and the last sweep is at most 31 seconds ago. -/
structure SweptInTime (s : ServerLoop) : Prop where
  wf : s.server.table.Wf
  seen : SeenSince (s.lastTimeoutCheck - clientTimeout) s.server.table
  check_le : s.lastTimeoutCheck ≤ s.now
  recent : s.now - s.lastTimeoutCheck ≤ checkPeriod + 1

theorem SweptInTime.idleExpired {s : ServerLoop} (h : SweptInTime s) : IdleExpired s := by
  intro i hi
  have hseen := h.seen i hi
  have hrecent := h.recent
  omega

section
variable {S : Sodium} {s : ServerLoop} {t : ServerTurn}

/-- A turn that handles packets. -/
theorem SweptInTime.ready (h : SweptInTime s) {udp : Option (SockAddr × Bytes × Env)}
    {tun : Option (Bytes × Env)} {completed : ℤ} (hmono : s.now ≤ completed)
    (hreadings : ∀ e ∈ readyEvents udp tun, s.now ≤ e.env.now)
    (hrecent : completed - s.lastTimeoutCheck ≤ checkPeriod + 1) :
    SweptInTime
      { s with server := run (serverStep S) s.server (readyEvents udp tun), now := completed } := by
  have hcheck := h.check_le
  have hlater : s.lastTimeoutCheck - clientTimeout ≤ s.now := by
    unfold clientTimeout
    omega
  have hrun := run_invariant_of_forall (serverStep S)
    (I := fun server => server.table.Wf ∧
      SeenSince (s.lastTimeoutCheck - clientTimeout) server.table)
    (fun server e he hI => ⟨serverStep_wf e hI.1, serverStep_seenSince hI.1 hI.2 he⟩)
    ⟨h.wf, h.seen⟩ (fun e he => hlater.trans (hreadings e he))
  exact ⟨hrun.1, hrun.2, hcheck.trans hmono, hrecent⟩

/-- A turn in which `select` times out. -/
theorem SweptInTime.timedOut (h : SweptInTime s) {now : ℤ} {sweepEnv : Env}
    {enclaveRunning : Bool} {completed : ℤ} (hnow : s.now ≤ now) (hsweep : now ≤ sweepEnv.now)
    (hdone : sweepEnv.now ≤ completed) (hshort : completed ≤ s.now + 1) :
    SweptInTime
      { timeoutPhase S s now sweepEnv enclaveRunning with now := completed } := by
  have hcheck := h.check_le
  unfold timeoutPhase
  by_cases hdue : now - s.lastTimeoutCheck ≥ checkPeriod
  · -- The sweep reads the clock after `main` has, so it keeps what `main` counts on.
    simp only [if_pos hdue]
    refine ⟨serverStep_wf _ h.wf, ?_, hsweep.trans hdone, ?_⟩
    · exact (seenSince_checkClientTimeouts s.server.table sweepEnv.now).mono
        (show now - clientTimeout ≤ sweepEnv.now - clientTimeout by omega)
    · show completed - now ≤ checkPeriod + 1
      unfold checkPeriod
      omega
  · simp only [if_neg hdue]
    refine ⟨h.wf, h.seen, ?_, ?_⟩
    · show s.lastTimeoutCheck ≤ completed
      omega
    · show completed - s.lastTimeoutCheck ≤ checkPeriod + 1
      omega

/-- **One turn.** -/
theorem SweptInTime.step (h : SweptInTime s) (htimed : Timed s t) (hlets : LetsSweep s t) :
    SweptInTime (serverLoopStep S s t) := by
  obtain ⟨hmono, hshort⟩ := htimed
  obtain ⟨hfirst, hlater⟩ := List.pairwise_cons.mp hmono
  obtain ⟨-, -, hdone⟩ := List.pairwise_append.mp hlater
  have hcompleted : s.now ≤ t.completed := hfirst _ (by simp)
  unfold LetsSweep at hlets
  unfold serverLoopStep
  split_ifs
  · exact h
  · exact ⟨h.wf, h.seen, h.check_le, h.recent⟩
  · cases hselected : t.selected with
    | failed =>
        refine ⟨h.wf, h.seen, h.check_le.trans hcompleted, ?_⟩
        rw [hselected] at hlets
        have hearly : ¬ checkPeriod + 1 ≤ s.now - s.lastTimeoutCheck := hlets
        show t.completed - s.lastTimeoutCheck ≤ checkPeriod + 1
        omega
    | timedOut now sweepEnv enclaveRunning =>
        rw [hselected] at hfirst hlater hdone
        exact h.timedOut (hfirst now (by simp [Selected.readings]))
          (List.rel_of_pairwise_cons hlater (by simp))
          (hdone _ (by simp [Selected.readings]) _ (by simp)) hshort
    | ready udp tun =>
        rw [hselected] at hfirst hlets
        have hearly : ¬ checkPeriod + 1 ≤ s.now - s.lastTimeoutCheck := hlets
        refine h.ready hcompleted (fun e he => hfirst _ ?_) (by omega)
        exact List.mem_append_left _ (List.mem_map_of_mem he)

end

/-- **Idle clients are expired**, in every run of the loop in which traffic does not hold up the
sweep. -/
theorem idleClients_expired (S : Sodium) (secret : Key) (start : ℤ) {turns : List ServerTurn}
    (htimed : Along (serverLoopStep S) Timed (startServerLoop S secret start) turns)
    (hlets : Along (serverLoopStep S) LetsSweep (startServerLoop S secret start) turns) :
    Throughout (serverLoopStep S) IdleExpired (startServerLoop S secret start) turns := by
  have hinit : SweptInTime (startServerLoop S secret start) := by
    refine ⟨initClientTable_wf, fun i hi => absurd hi Bool.false_ne_true, le_rfl, ?_⟩
    show start - start ≤ checkPeriod + 1
    rw [sub_self]
    decide
  exact Along.throughout (fun s h => h.idleExpired) (fun s t h hturn => h.step hturn.1 hturn.2)
    hinit (htimed.and hlets)

/-- A turn that handles a datagram at the given time. -/
def datagramTurn (addr : SockAddr) (datagram : Bytes) (now : ℤ) : ServerTurn :=
  ⟨true, .ready (some (addr, datagram, { sampleEnv with now := now })) none, now⟩

/-- A CONNECT_REQ at time 0. -/
def connectTurn : ServerTurn :=
  datagramTurn ⟨1, 1⟩ (connectRequest (initVpnHeader .connectReq 64 1 0) (Vector.replicate 32 0)
    (Vector.replicate 32 1)) 0

/-- A client connects and is silent from then on.  Every second another peer sends a datagram, and
`select` only times out when the sweep is a second overdue. -/
def busyTurns : List ServerTurn :=
  connectTurn :: (List.range 340).map fun k =>
    if (k + 1) % 32 = 0 then
      ⟨true, .timedOut (k + 1) { sampleEnv with now := k + 1 } true, k + 1⟩
    else datagramTurn ⟨9, 9⟩ [0] (k + 1)

/-- The client is there before the first sweep, and after 340 seconds nobody is left who was last
seen when it was. -/
theorem idleClients_expired_busy :
    Throughout (serverLoopStep sampleSodium) IdleExpired (startServerLoop sampleSodium zeroKey 0)
        busyTurns ∧
      (let before := run (serverLoopStep sampleSodium) (startServerLoop sampleSodium zeroKey 0)
        (busyTurns.take 32)
      (before.server.table.clients 0).active = true ∧
        (before.server.table.clients 0).lastSeen = 0) ∧
      ∀ i, ((run (serverLoopStep sampleSodium) (startServerLoop sampleSodium zeroKey 0)
          busyTurns).server.table.clients i).active = true →
        ((run (serverLoopStep sampleSodium) (startServerLoop sampleSodium zeroKey 0)
          busyTurns).server.table.clients i).lastSeen ≠ 0 := by
  have hexpired : Throughout (serverLoopStep sampleSodium) IdleExpired
      (startServerLoop sampleSodium zeroKey 0) busyTurns :=
    idleClients_expired sampleSodium zeroKey 0 (by decide +kernel) (by decide +kernel)
  refine ⟨hexpired, by decide +kernel, fun i hi hzero => ?_⟩
  have hidle := hexpired.last i hi
  have hnow : (run (serverLoopStep sampleSodium) (startServerLoop sampleSodium zeroKey 0)
      busyTurns).now = 340 := by decide +kernel
  rw [hnow, hzero] at hidle
  exact absurd hidle (by decide)

/-- A client connects; then a datagram that is too short for a header arrives every second. -/
def starvedTurns : List ServerTurn :=
  connectTurn :: (List.range 332).map fun k => datagramTurn ⟨9, 9⟩ [0] (k + 1)

/-- **The sweep can be held up for good**: after 332 seconds of silence the client is still
active. -/
theorem sweep_starved :
    Along (serverLoopStep sampleSodium) Timed (startServerLoop sampleSodium zeroKey 0)
        starvedTurns ∧
      ¬ IdleExpired (run (serverLoopStep sampleSodium) (startServerLoop sampleSodium zeroKey 0)
        starvedTurns) := by
  refine ⟨by decide +kernel, fun h => ?_⟩
  have hidle := h 0 (by decide +kernel)
  exact absurd hidle (by decide +kernel)

end Vpn
