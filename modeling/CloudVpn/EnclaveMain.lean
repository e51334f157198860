/-
# The loops of the enclave process

Model of `main` in `enclave_main.c` behind its set-up: a loop that accepts connections and in it
a loop that serves one connection.  The events are those of the outside, a peer that writes or
closes and a signal, and the turns of the loop that the process is in.

`handle_ipc_request` finds the end of the stream, but it returns as it does on success, and the
inner loop ends only with `enclave_running`.  So the process never lets go of a connection:
`spin_run` counts the calls that a closed one gets, and `accepted_of_serving` says that no other
connection is accepted in its place.

The process has the default action for SIGPIPE: it is killed when it sends a reply to a peer that
has closed in the meantime.
-/
import CloudVpn.EnclaveSocket
import CloudVpn.Runs

open Memory Runs

namespace Vpn

/-! ## The process -/

/-- Where the process is: in the loop that accepts, in the loop that serves, or behind both; or it
has been killed by SIGPIPE. -/
inductive Phase where
  | accepting
  | serving
  | stopped
  | killed
  deriving DecidableEq

/-- The process with the connection that it has accepted last: whether the peer has closed it,
whether a `recv` on it has reported the end of the stream, and how often `handle_ipc_request` has
been called on it; and the number of connections accepted. -/
structure EnclaveMain where
  sock : EnclaveSocket
  phase : Phase
  closed : Bool
  eof : Bool
  calls : ℕ
  accepted : ℕ

/-- What a turn of either loop takes from outside: whether `select` fails, for the outer loop
whether a connection waits and `accept` succeeds, and for the inner one what
`handle_ipc_request` takes. -/
structure MainTurn where
  selectFails : Bool
  waiting : Bool
  accepts : Bool
  nonce : Nonce
  delivery : Delivery

/-- An event of the outside, or a turn of the loop that the process is in. -/
inductive MainEvent where
  | write (data : Bytes)
  | close
  | signal
  | turn (t : MainTurn)

/-- `enclave_running`. -/
def EnclaveMain.running (m : EnclaveMain) : Bool := m.sock.enclave.running

/-- `select` finds the connection ready: there is something to read, or the stream has ended. -/
def EnclaveMain.readable (m : EnclaveMain) : Bool := !m.sock.stream.isEmpty || m.closed

section
variable (S : Sodium)

/-- One turn of the loop that accepts. -/
def acceptTurn (t : MainTurn) (m : EnclaveMain) : EnclaveMain :=
  if !m.running then { m with phase := .stopped }
  else if t.selectFails then { m with phase := .stopped }
  else if !t.waiting then m
  else if !t.accepts then m
  else ⟨⟨m.sock.enclave, []⟩, .serving, false, false, 0, m.accepted + 1⟩

/-- One turn of the loop that serves. -/
def serveTurn (t : MainTurn) (m : EnclaveMain) : EnclaveMain :=
  if !m.running then { m with phase := .accepting }
  else if t.selectFails || !m.readable then m
  else
    let (sock, reply) := handleIpcSocket S t.nonce t.delivery m.sock
    { m with
      sock := sock
      -- The `send` of a reply to a peer that has closed raises SIGPIPE.
      phase := if reply.isSome && m.closed then .killed else m.phase
      eof := m.eof || m.sock.stream.isEmpty
      calls := m.calls + 1 }

/-- What an event does to the process. -/
def mainStep (m : EnclaveMain) : MainEvent → EnclaveMain
  | .write data =>
      if m.phase = .serving ∧ m.closed = false then
        { m with sock := { m.sock with stream := m.sock.stream ++ data } }
      else m
  | .close => if m.phase = .serving then { m with closed := true } else m
  | .signal => { m with sock := ⟨{ m.sock.enclave with running := false }, m.sock.stream⟩ }
  | .turn t =>
      match m.phase with
      | .accepting => acceptTurn t m
      | .serving => serveTurn S t m
      | .stopped | .killed => m

/-- The process when it is ready. -/
def startMain (secret : Key) : EnclaveMain :=
  ⟨⟨startEnclave S secret, []⟩, .accepting, false, false, 0, 0⟩

end

/-! ## What an event can do -/

/-- What can become of the process. -/
inductive MainStepped (S : Sodium) (m : EnclaveMain) : EnclaveMain → Prop
  | kept : MainStepped S m m
  | wrote (data : Bytes) (hopen : m.closed = false) :
      MainStepped S m { m with sock := { m.sock with stream := m.sock.stream ++ data } }
  | closed : MainStepped S m { m with closed := true }
  | signalled :
      MainStepped S m
        { m with sock := ⟨{ m.sock.enclave with running := false }, m.sock.stream⟩ }
  | stopped (hphase : m.phase = .accepting) : MainStepped S m { m with phase := .stopped }
  | accepted (hphase : m.phase = .accepting) (hrun : m.running = true) :
      MainStepped S m ⟨⟨m.sock.enclave, []⟩, .serving, false, false, 0, m.accepted + 1⟩
  | left (hrun : m.running = false) : MainStepped S m { m with phase := .accepting }
  | called (t : MainTurn) {phase : Phase} (hphase : m.phase = .serving) (hrun : m.running = true)
      (hready : m.readable = true) (hnext : phase = .serving ∨ phase = .killed) :
      MainStepped S m
        { m with
          sock := (handleIpcSocket S t.nonce t.delivery m.sock).1
          phase := phase
          eof := m.eof || m.sock.stream.isEmpty
          calls := m.calls + 1 }

variable {S : Sodium} {m : EnclaveMain}

/-- **Every event has one of the outcomes.** -/
theorem mainStep_outcome (m : EnclaveMain) (e : MainEvent) :
    MainStepped S m (mainStep S m e) := by
  cases e with
  | write data =>
      show MainStepped S m (if m.phase = .serving ∧ m.closed = false then _ else m)
      split_ifs with hopen
      · exact .wrote data hopen.2
      · exact .kept
  | close =>
      show MainStepped S m (if m.phase = .serving then _ else m)
      split_ifs
      · exact .closed
      · exact .kept
  | signal => exact .signalled
  | turn t =>
      unfold mainStep
      cases hphase : m.phase with
      | stopped => exact .kept
      | killed => exact .kept
      | accepting =>
          show MainStepped S m (acceptTurn t m)
          unfold acceptTurn
          split_ifs with hrun
          · exact .stopped hphase
          · exact .stopped hphase
          · exact .kept
          · exact .kept
          · exact .accepted hphase (by simpa using hrun)
      | serving =>
          show MainStepped S m (serveTurn S t m)
          unfold serveTurn
          by_cases hrun : m.running = true
          · rw [if_neg (by simp [hrun])]
            by_cases hready : t.selectFails = true ∨ m.readable = false
            · rw [if_pos (by simpa using hready)]
              exact .kept
            · rw [if_neg (by simpa using hready)]
              refine .called t hphase hrun (by simpa using (not_or.mp hready).2) ?_
              by_cases hpipe : ((handleIpcSocket S t.nonce t.delivery m.sock).2.isSome && m.closed)
                  = true
              · exact Or.inr (if_pos hpipe)
              · exact Or.inl ((if_neg hpipe).trans hphase)
          · rw [if_pos (by simpa using hrun)]
            exact .left (by simpa using hrun)

/-! ## A connection whose stream has ended -/

/-- Once the end of the stream has been reported, nothing more will come. -/
def EofIsEnd (m : EnclaveMain) : Prop :=
  m.eof = true → m.sock.stream = [] ∧ m.closed = true

/-- The handler leaves an empty stream and the enclave behind it as they are, and sends
nothing. -/
theorem handleIpcSocket_empty (nonce : Nonce) (d : Delivery) {sock : EnclaveSocket}
    (h : sock.stream = []) : handleIpcSocket S nonce d sock = (sock, none) := by
  have hshort : recvIpcRequest d sock.stream = (sock.stream, none) := by
    apply recvIpcRequest_short
    rw [h]
    simp [received, ipcRequestSize]
  unfold handleIpcSocket
  rw [hshort]

theorem EofIsEnd.step {m' : EnclaveMain} (h : EofIsEnd m) (hstep : MainStepped S m m') :
    EofIsEnd m' := by
  cases hstep with
  | kept => exact h
  | wrote data hopen => exact fun heof => absurd ((h heof).2.symm.trans hopen) (by simp)
  | closed => exact fun heof => ⟨(h heof).1, rfl⟩
  | signalled => exact h
  | stopped _ => exact h
  | accepted _ _ => exact fun heof => absurd heof (by simp)
  | left _ => exact h
  | called t _ _ hready _ =>
      intro heof
      -- Only an empty stream of a closed connection is reported as ended.
      have hend : m.sock.stream = [] ∧ m.closed = true := by
        rcases Bool.or_eq_true_iff.mp heof with hold | hempty
        · exact h hold
        · unfold EnclaveMain.readable at hready
          rw [hempty] at hready
          exact ⟨List.isEmpty_iff.mp hempty, hready⟩
      refine ⟨?_, hend.2⟩
      show (handleIpcSocket S t.nonce t.delivery m.sock).1.stream = []
      rw [handleIpcSocket_empty _ _ hend.1]
      exact hend.1

/-- The end of the stream is final in every run. -/
theorem eofIsEnd_run (S : Sodium) (secret : Key) (es : List MainEvent) :
    EofIsEnd (run (mainStep S) (startMain S secret) es) :=
  run_invariant (mainStep S) (fun m e h => h.step (mainStep_outcome m e))
    (fun heof => absurd heof (by simp [startMain])) es

/-- The turns of the process in which `select` does not fail. -/
def MainEvent.isTurn : MainEvent → Bool
  | .turn t => !t.selectFails
  | _ => false

/-- The process is in the inner loop with a connection whose end has been reported. -/
structure Spinning (m : EnclaveMain) : Prop where
  phase : m.phase = .serving
  running : m.running = true
  eof : m.eof = true
  stream : m.sock.stream = []
  closed : m.closed = true

/-- Without a signal the only thing that happens is another call of the handler. -/
theorem Spinning.step (h : Spinning m) {e : MainEvent} (he : e ≠ .signal) :
    mainStep S m e = { m with calls := m.calls + if e.isTurn then 1 else 0 } := by
  obtain ⟨hphase, hrun, heof, hstream, hclosed⟩ := h
  cases e with
  | signal => exact absurd rfl he
  | write data =>
      show (if m.phase = .serving ∧ m.closed = false then _ else m) = m
      rw [if_neg (by simp [hclosed])]
  | close =>
      show (if m.phase = .serving then _ else m) = m
      rw [if_pos hphase, ← hclosed]
  | turn t =>
      have hready : m.readable = true := by simp [EnclaveMain.readable, hclosed]
      have hturn : mainStep S m (.turn t) = serveTurn S t m := by
        unfold mainStep
        rw [hphase]
      rw [hturn]
      unfold serveTurn MainEvent.isTurn
      by_cases hfails : t.selectFails = true
      · simp [hrun, hfails]
      · simp [hrun, hready, hfails, heof, handleIpcSocket_empty t.nonce t.delivery hstream]

/-- Adding calls does not end the spinning. -/
theorem Spinning.addCalls (h : Spinning m) (n : ℕ) : Spinning { m with calls := n } :=
  ⟨h.phase, h.running, h.eof, h.stream, h.closed⟩

/-- **A run without a signal** calls the handler in every turn. -/
theorem spin_run (h : Spinning m) {es : List MainEvent} (hes : ∀ e ∈ es, e ≠ .signal) :
    run (mainStep S) m es = { m with calls := m.calls + es.countP MainEvent.isTurn } := by
  induction es generalizing m with
  | nil => rfl
  | cons e es ih =>
      obtain ⟨he, hes⟩ := List.forall_mem_cons.mp hes
      rw [run_cons, h.step he, ih (h.addCalls _) hes, List.countP_cons]
      dsimp only
      congr 1
      omega

/-! ## A process that has been told to stop -/

/-- A process that is not running does not call the handler. -/
theorem calls_of_not_running {m' : EnclaveMain} (h : m.running = false)
    (hstep : MainStepped S m m') : m'.running = false ∧ m'.calls = m.calls := by
  cases hstep with
  | kept => exact ⟨h, rfl⟩
  | wrote _ _ => exact ⟨h, rfl⟩
  | closed => exact ⟨h, rfl⟩
  | signalled => exact ⟨rfl, rfl⟩
  | stopped _ => exact ⟨h, rfl⟩
  | left _ => exact ⟨h, rfl⟩
  | accepted _ hrun => exact absurd (hrun.symm.trans h) (by simp)
  | called _ _ hrun _ _ => exact absurd (hrun.symm.trans h) (by simp)

theorem run_of_not_running (h : m.running = false) (es : List MainEvent) :
    (run (mainStep S) m es).running = false ∧ (run (mainStep S) m es).calls = m.calls :=
  run_invariant (mainStep S) (I := fun m' => m'.running = false ∧ m'.calls = m.calls)
    (fun m' e hm' => by
      obtain ⟨hrun, hcalls⟩ := calls_of_not_running hm'.1 (mainStep_outcome m' e)
      exact ⟨hrun, hcalls.trans hm'.2⟩) ⟨h, rfl⟩ es

/-- The process does not accept connections any more: it serves one, it is not running, or it has
been killed. -/
def AcceptsNone (m : EnclaveMain) : Prop :=
  m.phase = .serving ∨ m.phase = .killed ∨ m.running = false

theorem AcceptsNone.step {m' : EnclaveMain} (h : AcceptsNone m) (hstep : MainStepped S m m') :
    AcceptsNone m' ∧ m'.accepted = m.accepted := by
  have hnot : m.phase = .accepting → m.running = false := by
    intro hphase
    rcases h with hserving | hkilled | hrun
    · exact absurd (hphase.symm.trans hserving) (by simp)
    · exact absurd (hphase.symm.trans hkilled) (by simp)
    · exact hrun
  cases hstep with
  | kept => exact ⟨h, rfl⟩
  | wrote _ _ => exact ⟨h, rfl⟩
  | closed => exact ⟨h, rfl⟩
  | signalled => exact ⟨Or.inr (Or.inr rfl), rfl⟩
  | stopped hphase => exact ⟨Or.inr (Or.inr (hnot hphase)), rfl⟩
  | accepted hphase hrun => exact absurd (hrun.symm.trans (hnot hphase)) (by simp)
  | left hrun => exact ⟨Or.inr (Or.inr hrun), rfl⟩
  | called _ _ _ _ hnext => exact ⟨hnext.imp_right Or.inl, rfl⟩

/-- **One connection**: whatever happens, a process that serves a connection accepts no other
one. -/
theorem accepted_of_serving (h : m.phase = .serving) (es : List MainEvent) :
    (run (mainStep S) m es).accepted = m.accepted :=
  (run_invariant (mainStep S)
    (I := fun m' => AcceptsNone m' ∧ m'.accepted = m.accepted)
    (fun m' e hm' => by
      obtain ⟨hheld, haccepted⟩ := hm'.1.step (mainStep_outcome m' e)
      exact ⟨hheld, haccepted.trans hm'.2⟩) ⟨Or.inl h, rfl⟩ es).2

/-! ## Letting go of a closed connection -/

/-- A turn in which `select` succeeds. -/
def plainTurn : MainEvent := .turn ⟨false, true, true, Vector.replicate 12 0, .whole⟩

/-- The process lets go of its connection without a signal: the handler is not called on it again,
and the process comes back to the loop that accepts. -/
structure LetsGo (S : Sodium) (m : EnclaveMain) : Prop where
  silent : ∀ es, (∀ e ∈ es, e ≠ .signal) → (run (mainStep S) m es).accepted = m.accepted →
    (run (mainStep S) m es).calls = m.calls
  returns : ∃ es, (∀ e ∈ es, e ≠ .signal) ∧ (run (mainStep S) m es).phase = .accepting ∧
    (run (mainStep S) m es).running = true

/-- **A closed connection is never let go of.**  In every run, once `recv` has reported the end of
the stream in the inner loop, the process does not let go of the connection.  While it is running,
it stays in the inner loop without a signal, and each turn calls the handler.  If it is not
running, the handler is not called again; and in no case does it accept another connection. -/
theorem closed_connection_never_released (S : Sodium) (secret : Key) (history : List MainEvent) :
    let m := run (mainStep S) (startMain S secret) history
    m.phase = .serving → m.eof = true →
    ¬ LetsGo S m ∧
    (m.running = true → ∀ es, (∀ e ∈ es, e ≠ .signal) →
      (run (mainStep S) m es).phase = .serving ∧
        (run (mainStep S) m es).calls = m.calls + es.countP MainEvent.isTurn) ∧
    (m.running = false → ∀ es, (run (mainStep S) m es).calls = m.calls) ∧
    ∀ es, (run (mainStep S) m es).accepted = m.accepted := by
  intro m hphase heof
  obtain ⟨hstream, hclosed⟩ := eofIsEnd_run S secret history heof
  have hspins : m.running = true → ∀ es, (∀ e ∈ es, e ≠ .signal) →
      (run (mainStep S) m es).phase = .serving ∧
        (run (mainStep S) m es).calls = m.calls + es.countP MainEvent.isTurn := by
    intro hrun es hes
    rw [spin_run ⟨hphase, hrun, heof, hstream, hclosed⟩ hes]
    exact ⟨hphase, rfl⟩
  refine ⟨fun hgo => ?_, hspins, fun hrun es => (run_of_not_running hrun es).2,
    accepted_of_serving hphase⟩
  obtain ⟨es, hes, haccepting, hstill⟩ := hgo.returns
  -- Either it spins, or it is on its way out.
  cases hrun : m.running with
  | true => exact absurd ((hspins hrun es hes).1.symm.trans haccepting) (by simp)
  | false => exact absurd ((run_of_not_running hrun es).1.symm.trans hstill) (by simp)

/-- A connection that is accepted, used and closed after its reply, and a turn that finds the end
of the stream. -/
def closedHistory : List MainEvent :=
  [plainTurn, .write [0x01, 0, 0, 0, 1, 0, 0, 0, 0, 0, 0], plainTurn, .close, plainTurn]

/-- It has been used twice, for the request and for the end of the stream. -/
theorem closedHistory_serving :
    let m := run (mainStep sampleSodium) (startMain sampleSodium zeroKey) closedHistory
    m.phase = .serving ∧ m.running = true ∧ m.eof = true ∧ m.calls = 2 ∧ m.accepted = 1 := by
  decide +kernel

/-- It is not let go of, neither as it is nor after a signal. -/
theorem closed_connection_never_released_signal :
    ¬ LetsGo sampleSodium (run (mainStep sampleSodium) (startMain sampleSodium zeroKey)
        closedHistory) ∧
      ¬ LetsGo sampleSodium (run (mainStep sampleSodium) (startMain sampleSodium zeroKey)
        (closedHistory ++ [MainEvent.signal])) := by
  obtain ⟨hphase, -, heof, -, -⟩ := closedHistory_serving
  refine ⟨(closed_connection_never_released sampleSodium zeroKey closedHistory hphase heof).1,
    (closed_connection_never_released sampleSodium zeroKey (closedHistory ++ [MainEvent.signal])
      ?_ ?_).1⟩
  · rw [run_append]
    exact hphase
  · rw [run_append]
    exact heof

/-- A request whose sender closes before it is answered kills the process. -/
example : (run (mainStep sampleSodium) (startMain sampleSodium zeroKey)
    [plainTurn, .write [0x01, 0, 0, 0, 1, 0, 0, 0, 0, 0, 0], .close, plainTurn]).phase
      = .killed := by decide +kernel

/-- Without a signal, three turns later the handler has been called three times more, and the
process still serves the closed connection and has accepted no other. -/
theorem closed_connection_spins :
    let m := run (mainStep sampleSodium) (startMain sampleSodium zeroKey) closedHistory
    let m' := run (mainStep sampleSodium) m [plainTurn, plainTurn, plainTurn]
    m.phase = .serving ∧ m.eof = true ∧ m.calls = 2 ∧
      m'.phase = .serving ∧ m'.calls = 5 ∧ m'.accepted = 1 := by
  intro m m'
  obtain ⟨hphase, hrun, heof, hcalls, haccepted⟩ := closedHistory_serving
  obtain ⟨hstream, hclosed⟩ := eofIsEnd_run sampleSodium zeroKey closedHistory heof
  have hspun : m' = { m with calls := m.calls + 3 } :=
    spin_run ⟨hphase, hrun, heof, hstream, hclosed⟩ (by simp [plainTurn])
  rw [hspun]
  exact ⟨hphase, heof, hcalls, hphase, by rw [show m.calls = 2 from hcalls], haccepted⟩

end Vpn
