/-
# The server process and its enclave process

Model of `main` of `vpn_server.c` and of `enclave.c`.  The server forks the enclave process,
connects to it, opens the TUN device and the UDP socket, runs its loop and cleans up; each system
call may fail.  The enclave process runs at the same time: it may close its end of the connection
and exit whenever it likes.  One event is one system call of the server, one turn of its loop, or a
step of the enclave process.

An enclave process that has exited stays a zombie until its parent waits for it, and `kill` finds a
zombie.  The server has the default action for SIGPIPE: to send on a connection whose other end is
closed kills it.

* `serverProcess_released`: a server that returns has closed what it has opened, and has waited for
  its enclave.
* `enclaveDeath_unnoticed`: no turn of the loop notices that the enclave process has died.
* `dead_enclave_fatal`: a server whose enclave has gone never returns.
* `cleanup_finishes`: the clean-up ends, once the enclave has answered the message with which it
  begins or has closed its end; an enclave that does neither holds it up for good.
-/
import CloudVpn.Descriptors
import CloudVpn.ServerLoop

open Memory Runs Descriptors

namespace Vpn

/-! ## The two processes -/

/-- The enclave process, as its parent sees it. -/
inductive EnclaveProcess where
  | unborn
  | running
  /-- It has closed its end of the connection and is about to exit. -/
  | hungUp
  /-- It has exited, and its parent has not waited for it yet. -/
  | exited
  | reaped
  deriving DecidableEq

/-- `kill` finds the process. -/
def EnclaveProcess.found : EnclaveProcess → Bool
  | .running | .hungUp | .exited => true
  | .unborn | .reaped => false

/-- `is_enclave_running`: signal 0 is sent. -/
def isEnclaveRunning (enclave : EnclaveProcess) : Bool := enclave.found

/-- The other end of the connection is open. -/
def EnclaveProcess.connected (enclave : EnclaveProcess) : Bool := enclave = .running

/-- What is left to do before `main` returns: `close` (also in `enclave_disconnect`), the calls of
`enclave_shutdown`, and those of `stop_enclave_process`. -/
inductive Cleanup where
  | close (fd : ℕ)
  /-- The `send` of `enclave_shutdown`. -/
  | shutdown
  /-- The `recv` of `enclave_shutdown`, which waits. -/
  | awaitReply
  /-- `kill(pid, SIGTERM)`. -/
  | terminate
  /-- `waitpid` with `WNOHANG`, at once. -/
  | poll
  /-- `waitpid` with `WNOHANG`, after five seconds. -/
  | pollAgain
  /-- `kill(pid, SIGKILL)`. -/
  | forceKill
  /-- `waitpid` that waits. -/
  | reap

/-- Where `main` is, with its descriptors. -/
inductive ProcessPhase where
  /-- `fork`. -/
  | starting
  /-- `socket` and `connect` of `enclave_connect`. -/
  | connecting
  | connectingTo (enclaveFd : ℕ)
  | pinging (enclaveFd : ℕ)
  /-- `open` and `ioctl` of `create_tun_interface`. -/
  | openingTun (enclaveFd : ℕ)
  | creatingTun (enclaveFd tunFd : ℕ)
  | configuringTun (enclaveFd tunFd : ℕ)
  | bringingTunUp (enclaveFd tunFd : ℕ)
  /-- `socket` and `bind` of `create_udp_server`. -/
  | openingUdp (enclaveFd tunFd : ℕ)
  | binding (enclaveFd tunFd udpFd : ℕ)
  /-- `init_client_table`. -/
  | allocating (enclaveFd tunFd udpFd : ℕ)
  | looping (enclaveFd tunFd udpFd : ℕ) (loop : ServerLoop)
  | cleaning (todo : List Cleanup) (code : ℕ)
  | returned (code : ℕ)
  /-- Killed by SIGPIPE. -/
  | killed

/-- The server process and its child; `answered` is set when there is something to read for the
`recv` of `enclave_shutdown`. -/
structure ServerProcess where
  files : Files
  enclave : EnclaveProcess
  answered : Bool
  phase : ProcessPhase

/-- What can happen next. -/
inductive ProcessEvent where
  /-- The next system call of the server, outside the loop, and whether it succeeds. -/
  | call (ok : Bool)
  | turn (t : ServerTurn)
  | enclaveAnswers
  | enclaveHangsUp
  | enclaveExits

/-! ## The steps -/

/-- One call of the clean-up. -/
def cleanupStep (p : ServerProcess) (code : ℕ) : List Cleanup → ServerProcess
  | [] => { p with phase := .returned code }
  | .close fd :: rest => { p with files := p.files.close fd, phase := .cleaning rest code }
  | .shutdown :: rest =>
      -- The result of `enclave_shutdown` is not looked at.
      if p.enclave.connected then { p with phase := .cleaning rest code }
      else { p with phase := .killed }
  | .awaitReply :: rest =>
      -- Nothing to read: the call goes on waiting.
      if p.enclave.connected && !p.answered then
        { p with phase := .cleaning (.awaitReply :: rest) code }
      else { p with phase := .cleaning rest code }
  | .terminate :: rest =>
      if p.enclave.found then { p with phase := .cleaning (.poll :: rest) code }
      else { p with phase := .cleaning rest code }
  | .poll :: rest =>
      if p.enclave = .exited then { p with enclave := .reaped, phase := .cleaning rest code }
      else { p with phase := .cleaning (.pollAgain :: rest) code }
  | .pollAgain :: rest =>
      if p.enclave = .exited then { p with enclave := .reaped, phase := .cleaning rest code }
      else { p with phase := .cleaning (.forceKill :: rest) code }
  | .forceKill :: rest => { p with enclave := .exited, phase := .cleaning (.reap :: rest) code }
  | .reap :: rest =>
      if p.enclave = .exited then { p with enclave := .reaped, phase := .cleaning rest code }
      else p

/-- `main` outside its loop: the next call, and what `main` does on its success or failure. -/
def mainCall (S : Sodium) (secret : Key) (start : ℤ) (p : ServerProcess) (ok : Bool) :
    ServerProcess :=
  match p.phase with
  | .starting =>
      if ok then { p with enclave := .running, phase := .connecting }
      else { p with phase := .returned 1 }
  | .connecting =>
      if ok then
        { p with files := p.files.opened, phase := .connectingTo (lowestFree p.files.fds) }
      else { p with phase := .cleaning [.terminate] 1 }
  | .connectingTo enclaveFd =>
      if ok then { p with phase := .pinging enclaveFd }
      else { p with phase := .cleaning [.close enclaveFd, .terminate] 1 }
  | .pinging enclaveFd =>
      if !p.enclave.connected then { p with phase := .killed }
      else if ok then { p with phase := .openingTun enclaveFd }
      else { p with phase := .cleaning [.close enclaveFd, .terminate] 1 }
  | .openingTun enclaveFd =>
      if ok then
        { p with
          files := p.files.opened
          phase := .creatingTun enclaveFd (lowestFree p.files.fds) }
      else { p with phase := .cleaning [.close enclaveFd, .terminate] 1 }
  | .creatingTun enclaveFd tunFd =>
      if ok then { p with phase := .configuringTun enclaveFd tunFd }
      else { p with phase := .cleaning [.close tunFd, .close enclaveFd, .terminate] 1 }
  | .configuringTun enclaveFd tunFd =>
      if ok then { p with phase := .bringingTunUp enclaveFd tunFd }
      else { p with phase := .cleaning [.close tunFd, .close enclaveFd, .terminate] 1 }
  | .bringingTunUp enclaveFd tunFd =>
      if ok then { p with phase := .openingUdp enclaveFd tunFd }
      else { p with phase := .cleaning [.close tunFd, .close enclaveFd, .terminate] 1 }
  | .openingUdp enclaveFd tunFd =>
      if ok then
        { p with
          files := p.files.opened
          phase := .binding enclaveFd tunFd (lowestFree p.files.fds) }
      else { p with phase := .cleaning [.close tunFd, .close enclaveFd, .terminate] 1 }
  | .binding enclaveFd tunFd udpFd =>
      if ok then { p with phase := .allocating enclaveFd tunFd udpFd }
      else
        { p with
          phase := .cleaning [.close udpFd, .close tunFd, .close enclaveFd, .terminate] 1 }
  | .allocating enclaveFd tunFd udpFd =>
      if ok then
        { p with phase := .looping enclaveFd tunFd udpFd (startServerLoop S secret start) }
      else
        { p with
          phase := .cleaning [.close udpFd, .close tunFd, .close enclaveFd, .terminate] 1 }
  | .cleaning todo code => cleanupStep p code todo
  | .looping _ _ _ _ | .returned _ | .killed => p

/-- The event makes an IPC call: it uses up a request id. -/
def callsEnclave (S : Sodium) (server : Server) (e : Event) : Bool :=
  (serverStep S server e).conn.globalRequestId != server.conn.globalRequestId

/-- One of the events makes an IPC call. -/
def anyCallsEnclave (S : Sodium) : Server → List Event → Bool
  | _, [] => false
  | server, e :: es => callsEnclave S server e || anyCallsEnclave S (serverStep S server e) es

/-- The turn makes an IPC call. -/
def turnCallsEnclave (S : Sodium) (server : Server) (t : ServerTurn) : Bool :=
  match t.selected with
  | .ready udp tun => t.running && anyCallsEnclave S server (readyEvents udp tun)
  | _ => false

/-- The turn, with what `is_enclave_running` finds. -/
def ServerTurn.finding (t : ServerTurn) (enclaveRunning : Bool) : ServerTurn :=
  match t.selected with
  | .timedOut now sweepEnv _ => { t with selected := .timedOut now sweepEnv enclaveRunning }
  | _ => t

/-- One turn of the loop; when the loop is left, `main` goes on to its clean-up. -/
def mainTurn (S : Sodium) (p : ServerProcess) (t : ServerTurn) : ServerProcess :=
  match p.phase with
  | .looping enclaveFd tunFd udpFd loop =>
      if !p.enclave.connected && turnCallsEnclave S loop.server t then
        { p with phase := .killed }
      else
        let loop := serverLoopStep S loop (t.finding (isEnclaveRunning p.enclave))
        if loop.looping then { p with phase := .looping enclaveFd tunFd udpFd loop }
        else
          { p with
            -- A reply that was left in the stream serves as an answer, too.
            answered := !loop.server.conn.stream.isEmpty
            phase := .cleaning
              [.shutdown, .awaitReply, .close enclaveFd, .terminate, .close udpFd, .close tunFd]
              0 }
  | _ => p

/-- The server waits for the answer to `enclave_shutdown`. -/
def ProcessPhase.awaitsReply : ProcessPhase → Bool
  | .cleaning (.awaitReply :: _) _ => true
  | _ => false

/-- The next call of the server does not return: `recv` finds the connection open and nothing to
read. -/
def ServerProcess.blocked (p : ServerProcess) : Bool :=
  p.phase.awaitsReply && (p.enclave.connected && !p.answered)

/-- The two processes after an event. -/
def processStep (S : Sodium) (secret : Key) (start : ℤ) (p : ServerProcess) :
    ProcessEvent → ServerProcess
  | .call ok => mainCall S secret start p ok
  | .turn t => mainTurn S p t
  | .enclaveAnswers =>
      if p.enclave.connected && p.phase.awaitsReply then { p with answered := true } else p
  | .enclaveHangsUp => if p.enclave = .running then { p with enclave := .hungUp } else p
  | .enclaveExits =>
      if p.enclave = .running ∨ p.enclave = .hungUp then { p with enclave := .exited } else p

/-- A server process before its first call. -/
def startProcess (base : Finset ℕ) : ServerProcess := ⟨⟨base, 0⟩, .unborn, false, .starting⟩

/-! ## What the clean-up has to do -/

/-- The descriptors that are going to be closed. -/
def closes (todo : List Cleanup) : List ℕ :=
  todo.filterMap fun
    | .close fd => some fd
    | _ => none

/-- The enclave is not going to be stopped any more. -/
def Stopless (todo : List Cleanup) : Prop :=
  ∀ op ∈ todo, op = .shutdown ∨ op = .awaitReply ∨ ∃ fd, op = .close fd

/-- The enclave process is going to be waited for, or was waited for. -/
def Due : List Cleanup → EnclaveProcess → Prop
  | [], enclave => enclave = .reaped
  | .close _ :: rest, enclave => Due rest enclave
  | .shutdown :: rest, enclave => Due rest enclave
  | .awaitReply :: rest, enclave => Due rest enclave
  | .reap :: rest, enclave => enclave = .exited ∧ Stopless rest
  | _ :: rest, enclave => enclave.found = true ∧ Stopless rest

theorem due_reaped {todo : List Cleanup} (h : Stopless todo) : Due todo .reaped := by
  induction todo with
  | nil => rfl
  | cons op rest ih =>
      obtain ⟨hop, hrest⟩ := List.forall_mem_cons.mp h
      rcases hop with rfl | rfl | ⟨fd, rfl⟩
      · exact ih hrest
      · exact ih hrest
      · exact ih hrest

/-- The descriptors that `main` holds. -/
def ProcessPhase.held : ProcessPhase → List ℕ
  | .connectingTo enclaveFd | .pinging enclaveFd | .openingTun enclaveFd => [enclaveFd]
  | .creatingTun enclaveFd tunFd | .configuringTun enclaveFd tunFd
  | .bringingTunUp enclaveFd tunFd | .openingUdp enclaveFd tunFd => [tunFd, enclaveFd]
  | .binding enclaveFd tunFd udpFd | .allocating enclaveFd tunFd udpFd
  | .looping enclaveFd tunFd udpFd _ => [udpFd, tunFd, enclaveFd]
  | .cleaning todo _ => closes todo
  | _ => []

/-- What holds of the child in a phase, and of the loop: `main` owes it a `waitpid` from the `fork`
on. -/
def ProcessPhase.Meets : ProcessPhase → EnclaveProcess → Prop
  | .starting, enclave => enclave = .unborn
  | .cleaning todo _, enclave => Due todo enclave
  | .returned _, enclave => enclave = .unborn ∨ enclave = .reaped
  | .killed, _ => True
  | .looping _ _ _ loop, enclave => enclave.found = true ∧ loop.looping = true
  | _, enclave => enclave.found = true

/-- What holds until the server is killed. -/
structure Tidy (base : Finset ℕ) (p : ServerProcess) : Prop where
  owns : p.phase ≠ .killed → Owns base p.phase.held p.files
  meets : p.phase.Meets p.enclave

variable {S : Sodium} {secret : Key} {start : ℤ} {base : Finset ℕ} {p : ServerProcess}

/-- A step that is not the server's end. -/
theorem tidy_of (howns : Owns base p.phase.held p.files) (hmeets : p.phase.Meets p.enclave) :
    Tidy base p := ⟨fun _ => howns, hmeets⟩

theorem tidy_cleanupStep (code : ℕ) {todo : List Cleanup} (howns : Owns base (closes todo) p.files)
    (hdue : Due todo p.enclave) : Tidy base (cleanupStep p code todo) := by
  cases todo with
  | nil => exact tidy_of howns (Or.inr hdue)
  | cons op rest =>
      cases op with
      | close fd =>
          have hclosed := howns.close (List.mem_cons_self (a := fd))
          refine tidy_of ?_ hdue
          show Owns base (closes rest) (p.files.close fd)
          rw [show closes (.close fd :: rest) = fd :: closes rest from rfl,
            List.erase_cons_head] at hclosed
          exact hclosed
      | shutdown =>
          simp only [cleanupStep]
          split_ifs
          · exact tidy_of howns hdue
          · exact ⟨fun h => absurd rfl h, trivial⟩
      | awaitReply =>
          simp only [cleanupStep]
          split_ifs
          · exact tidy_of howns hdue
          · exact tidy_of howns hdue
      | terminate =>
          simp only [cleanupStep]
          rw [if_pos hdue.1]
          exact tidy_of howns hdue
      | poll =>
          simp only [cleanupStep]
          split_ifs
          · exact tidy_of howns (due_reaped hdue.2)
          · exact tidy_of howns hdue
      | pollAgain =>
          simp only [cleanupStep]
          split_ifs
          · exact tidy_of howns (due_reaped hdue.2)
          · exact tidy_of howns hdue
      | forceKill => exact tidy_of howns ⟨rfl, hdue.2⟩
      | reap =>
          simp only [cleanupStep]
          rw [if_pos hdue.1]
          exact tidy_of howns (due_reaped hdue.2)

theorem Tidy.mainCall (h : Tidy base p) (ok : Bool) :
    Tidy base (mainCall S secret start p ok) := by
  obtain ⟨files, enclave, answered, phase⟩ := p
  have howns := h.owns
  have hmeets := h.meets
  cases phase with
  | starting =>
      cases ok with
      | true => exact tidy_of (howns (by simp)) rfl
      | false => exact tidy_of (howns (by simp)) (Or.inl hmeets)
  | connecting =>
      cases ok with
      | true => exact tidy_of (howns (by simp)).opened hmeets
      | false => exact tidy_of (howns (by simp)) ⟨hmeets, by simp [Stopless]⟩
  | connectingTo enclaveFd =>
      cases ok with
      | true => exact tidy_of (howns (by simp)) hmeets
      | false => exact tidy_of (howns (by simp)) ⟨hmeets, by simp [Stopless]⟩
  | pinging enclaveFd =>
      simp only [Vpn.mainCall]
      split_ifs
      · exact ⟨fun hkilled => absurd rfl hkilled, trivial⟩
      · exact tidy_of (howns (by simp)) hmeets
      · exact tidy_of (howns (by simp)) ⟨hmeets, by simp [Stopless]⟩
  | openingTun enclaveFd =>
      cases ok with
      | true => exact tidy_of (howns (by simp)).opened hmeets
      | false => exact tidy_of (howns (by simp)) ⟨hmeets, by simp [Stopless]⟩
  | creatingTun enclaveFd tunFd | configuringTun enclaveFd tunFd
  | bringingTunUp enclaveFd tunFd | binding enclaveFd tunFd udpFd =>
      cases ok with
      | true => exact tidy_of (howns (by simp)) hmeets
      | false => exact tidy_of (howns (by simp)) ⟨hmeets, by simp [Stopless]⟩
  | allocating enclaveFd tunFd udpFd =>
      cases ok with
      | true => exact tidy_of (howns (by simp)) ⟨hmeets, rfl⟩
      | false => exact tidy_of (howns (by simp)) ⟨hmeets, by simp [Stopless]⟩
  | openingUdp enclaveFd tunFd =>
      cases ok with
      | true => exact tidy_of (howns (by simp)).opened hmeets
      | false => exact tidy_of (howns (by simp)) ⟨hmeets, by simp [Stopless]⟩
  | looping enclaveFd tunFd udpFd loop => exact h
  | cleaning todo code => exact tidy_cleanupStep code (howns (by simp)) hmeets
  | returned code => exact h
  | killed => exact h

theorem Tidy.mainTurn (h : Tidy base p) (t : ServerTurn) : Tidy base (mainTurn S p t) := by
  obtain ⟨files, enclave, answered, phase⟩ := p
  cases phase with
  | looping enclaveFd tunFd udpFd loop =>
      have howns : Owns base [udpFd, tunFd, enclaveFd] files := h.owns (by simp)
      have hfound : enclave.found = true := h.meets.1
      simp only [Vpn.mainTurn]
      split_ifs with hfatal hlooping
      · exact ⟨fun hkilled => absurd rfl hkilled, trivial⟩
      · exact tidy_of howns ⟨hfound, hlooping⟩
      · refine tidy_of (howns.perm ?_) ⟨hfound, by simp [Stopless]⟩
        show ([udpFd, tunFd] ++ [enclaveFd]).Perm ([enclaveFd] ++ [udpFd, tunFd])
        exact List.perm_append_comm
  | starting | connecting | connectingTo | pinging | openingTun | creatingTun | configuringTun
  | bringingTunUp | openingUdp | binding | allocating | cleaning | returned | killed => exact h

/-- A step of the enclave process. -/
theorem Due.enclaveStep {todo : List Cleanup} {enclave enclave' : EnclaveProcess}
    (h : Due todo enclave) (hlive : enclave ≠ .exited ∧ enclave ≠ .reaped)
    (hfound : enclave'.found = true) : Due todo enclave' := by
  induction todo with
  | nil => exact absurd h hlive.2
  | cons op rest ih =>
      cases op with
      | close fd => exact ih h
      | shutdown => exact ih h
      | awaitReply => exact ih h
      | reap => exact absurd h.1 hlive.1
      | terminate | poll | pollAgain | forceKill => exact ⟨hfound, h.2⟩

theorem ProcessPhase.Meets.enclaveStep {phase : ProcessPhase} {enclave enclave' : EnclaveProcess}
    (h : phase.Meets enclave) (hlive : enclave = .running ∨ enclave = .hungUp)
    (hfound : enclave'.found = true) : phase.Meets enclave' := by
  have hne : enclave ≠ .unborn ∧ enclave ≠ .exited ∧ enclave ≠ .reaped := by
    rcases hlive with rfl | rfl <;> simp
  cases phase with
  | starting => exact absurd h hne.1
  | cleaning todo code => exact Due.enclaveStep h hne.2 hfound
  | returned code => exact (h.elim (absurd · hne.1) (absurd · hne.2.2))
  | killed => trivial
  | connecting | connectingTo | pinging | openingTun | creatingTun | configuringTun
  | bringingTunUp | openingUdp | binding | allocating => exact hfound
  | looping enclaveFd tunFd udpFd loop => exact ⟨hfound, h.2⟩

/-- **Every event keeps it.** -/
theorem Tidy.step (h : Tidy base p) (e : ProcessEvent) :
    Tidy base (processStep S secret start p e) := by
  cases e with
  | call ok => exact h.mainCall ok
  | turn t => exact h.mainTurn t
  | enclaveAnswers =>
      simp only [processStep]
      split_ifs
      · exact ⟨h.owns, h.meets⟩
      · exact h
  | enclaveHangsUp =>
      simp only [processStep]
      split_ifs with hrunning
      · exact ⟨h.owns, h.meets.enclaveStep (Or.inl hrunning) rfl⟩
      · exact h
  | enclaveExits =>
      simp only [processStep]
      split_ifs with hlive
      · exact ⟨h.owns, h.meets.enclaveStep hlive rfl⟩
      · exact h

theorem startProcess_tidy (base : Finset ℕ) : Tidy base (startProcess base) :=
  tidy_of (owns_nil base) rfl

theorem run_tidy (S : Sodium) (secret : Key) (start : ℤ) (base : Finset ℕ)
    (events : List ProcessEvent) :
    Tidy base (run (processStep S secret start) (startProcess base) events) :=
  run_invariant (processStep S secret start) (fun _ e h => h.step e) (startProcess_tidy base) events

/-- **A server that returns has cleaned up.**  Whichever calls fail, and whatever the enclave process
does meanwhile: when `main` returns, the descriptors are as it has found them, every `close` was of
one of its own open descriptors, and its child was waited for, if there was one. -/
theorem serverProcess_released (S : Sodium) (secret : Key) (start : ℤ) (base : Finset ℕ)
    {events : List ProcessEvent} {code : ℕ}
    (hreturned : (run (processStep S secret start) (startProcess base) events).phase
      = .returned code) :
    (run (processStep S secret start) (startProcess base) events).files = ⟨base, 0⟩ ∧
      ((run (processStep S secret start) (startProcess base) events).enclave = .unborn ∨
        (run (processStep S secret start) (startProcess base) events).enclave = .reaped) := by
  have htidy := run_tidy S secret start base events
  have howns := htidy.owns (by rw [hreturned]; simp)
  have hmeets := htidy.meets
  rw [hreturned] at howns hmeets
  exact ⟨howns.released, hmeets⟩

/-- The server cannot bind its port: three descriptors are open by then. -/
def failedBind : List ProcessEvent :=
  List.replicate 9 (.call true) ++ [.call false, .enclaveExits] ++ List.replicate 6 (.call true)

theorem serverProcess_released_failedBind :
    (run (processStep sampleSodium zeroKey 0) (startProcess {0, 1, 2}) failedBind).files
        = ⟨{0, 1, 2}, 0⟩ ∧
      ((run (processStep sampleSodium zeroKey 0) (startProcess {0, 1, 2}) failedBind).enclave
          = .unborn ∨
        (run (processStep sampleSodium zeroKey 0) (startProcess {0, 1, 2}) failedBind).enclave
          = .reaped) :=
  serverProcess_released sampleSodium zeroKey 0 {0, 1, 2} (show _ = ProcessPhase.returned 1 from rfl)

/-! ## The death of the enclave -/

/-- What a turn makes of a loop that runs, when the enclave process is found. -/
theorem serverLoopStep_looping {loop : ServerLoop} (h : loop.looping = true) (t : ServerTurn) :
    (serverLoopStep S loop (t.finding true)).looping = false ↔
      t.running = false ∨ t.selected = .failed := by
  obtain ⟨running, selected, completed⟩ := t
  unfold serverLoopStep
  rw [if_neg (by rw [h]; simp)]
  cases selected with
  | failed => cases running <;> simp [ServerTurn.finding]
  | timedOut now sweepEnv enclaveRunning =>
      cases running <;> simp [ServerTurn.finding, timeoutPhase]
  | ready udp tun => cases running <;> simp [ServerTurn.finding, h]

/-- A turn that makes an IPC call leaves the loop running. -/
theorem turnCallsEnclave_running {server : Server} {t : ServerTurn}
    (h : turnCallsEnclave S server t = true) : ¬ (t.running = false ∨ t.selected = .failed) := by
  obtain ⟨running, selected, completed⟩ := t
  cases selected with
  | failed => exact absurd h (by simp [turnCallsEnclave])
  | timedOut now sweepEnv enclaveRunning => exact absurd h (by simp [turnCallsEnclave])
  | ready udp tun =>
      cases running with
      | true => simp
      | false => exact absurd h (by simp [turnCallsEnclave])

/-- **The death of the enclave goes unnoticed.**  In every run, a turn leaves the loop only for a
signal or a failed `select`, in whatever state the enclave process is: the check for a dead enclave
never finds one.  Once the enclave has gone, a turn that needs it kills the server. -/
theorem enclaveDeath_unnoticed (S : Sodium) (secret : Key) (start : ℤ) (base : Finset ℕ)
    {events : List ProcessEvent} {enclaveFd tunFd udpFd : ℕ} {loop : ServerLoop}
    (hloop : (run (processStep S secret start) (startProcess base) events).phase
      = .looping enclaveFd tunFd udpFd loop) (t : ServerTurn) :
    ((∃ todo code, (run (processStep S secret start) (startProcess base)
        (events ++ [.turn t])).phase = .cleaning todo code) ↔
      t.running = false ∨ t.selected = .failed) ∧
    ((run (processStep S secret start) (startProcess base) (events ++ [.turn t])).phase = .killed ↔
      (run (processStep S secret start) (startProcess base) events).enclave.connected = false ∧
        turnCallsEnclave S loop.server t = true) := by
  have hmeets := (run_tidy S secret start base events).meets
  rw [run_append]
  show ((∃ todo code, (mainTurn S (run _ _ events) t).phase = _) ↔ _) ∧
    ((mainTurn S (run _ _ events) t).phase = _ ↔ _)
  generalize run (processStep S secret start) (startProcess base) events = p at hloop hmeets
  rw [hloop] at hmeets
  obtain ⟨hfound, hlooping⟩ := hmeets
  have hleft := serverLoopStep_looping (S := S) hlooping t
  unfold mainTurn isEnclaveRunning
  simp only [hloop, hfound]
  by_cases hfatal : (!p.enclave.connected && turnCallsEnclave S loop.server t) = true
  · obtain ⟨hgone, hcalls⟩ := Bool.and_eq_true_iff.mp hfatal
    rw [if_pos hfatal]
    refine ⟨?_, ?_⟩
    · simp [turnCallsEnclave_running hcalls]
    · simpa [hcalls] using hgone
  · rw [if_neg hfatal]
    have hsafe : ¬ (p.enclave.connected = false ∧ turnCallsEnclave S loop.server t = true) := by
      simpa using hfatal
    cases hnext : (serverLoopStep S loop (t.finding true)).looping with
    | true =>
        rw [hnext] at hleft
        simp [hsafe, ← hleft]
    | false =>
        rw [hnext] at hleft
        simp [hsafe, ← hleft]

/-- Eleven calls lead to the loop. -/
def startedServer : List ProcessEvent := List.replicate 11 (.call true)

/-- A signal ends the loop of a server whose enclave has died. -/
theorem enclaveDeath_unnoticed_signal :
    (∃ todo code, (run (processStep sampleSodium zeroKey 0) (startProcess {0, 1, 2})
      (startedServer ++ [.enclaveExits] ++ [.turn ⟨false, .failed, 0⟩])).phase
        = .cleaning todo code) ↔ (false = false ∨ Selected.failed = .failed) :=
  (enclaveDeath_unnoticed sampleSodium zeroKey 0 {0, 1, 2}
    (show _ = ProcessPhase.looping 3 4 5 (startServerLoop sampleSodium zeroKey 0) from rfl)
    ⟨false, .failed, 0⟩).1

/-- The enclave has gone, and `main` is in its loop or about to ask the enclave to shut down. -/
structure Doomed (p : ServerProcess) : Prop where
  gone : p.enclave.connected = false
  stuck : p.phase = .killed ∨ (∃ enclaveFd tunFd udpFd loop,
      p.phase = .looping enclaveFd tunFd udpFd loop) ∨
    ∃ rest code, p.phase = .cleaning (.shutdown :: rest) code

theorem Doomed.step (h : Doomed p) (e : ProcessEvent) :
    Doomed (processStep S secret start p e) := by
  obtain ⟨files, enclave, answered, phase⟩ := p
  have hgone : enclave.connected = false := h.gone
  cases e with
  | call ok =>
      rcases h.stuck with rfl | ⟨_, _, _, _, rfl⟩ | ⟨rest, code, rfl⟩
      · exact h
      · exact h
      · -- The `send` of `enclave_shutdown`.
        refine ⟨?_, Or.inl ?_⟩
        · simp [processStep, mainCall, cleanupStep, hgone]
        · simp [processStep, mainCall, cleanupStep, hgone]
  | turn t =>
      rcases h.stuck with rfl | ⟨_, _, _, _, rfl⟩ | ⟨rest, code, rfl⟩
      · exact h
      · simp only [processStep, mainTurn]
        split_ifs
        · exact ⟨hgone, Or.inl rfl⟩
        · exact ⟨hgone, Or.inr (Or.inl ⟨_, _, _, _, rfl⟩)⟩
        · exact ⟨hgone, Or.inr (Or.inr ⟨_, _, rfl⟩)⟩
      · exact h
  | enclaveAnswers =>
      simp only [processStep]
      split_ifs
      · exact ⟨hgone, h.stuck⟩
      · exact h
  | enclaveHangsUp =>
      simp only [processStep]
      split_ifs
      · exact ⟨rfl, h.stuck⟩
      · exact h
  | enclaveExits =>
      simp only [processStep]
      split_ifs
      · exact ⟨rfl, h.stuck⟩
      · exact h

/-- **A server whose enclave has gone never returns.**  If the enclave has closed its connection or
exited while the server is in its loop, `main` does not return, whatever ends the loop: the
clean-up begins with a message to the enclave. -/
theorem dead_enclave_fatal (S : Sodium) (secret : Key) (start : ℤ) (base : Finset ℕ)
    {events : List ProcessEvent} {enclaveFd tunFd udpFd : ℕ} {loop : ServerLoop}
    (hloop : (run (processStep S secret start) (startProcess base) events).phase
      = .looping enclaveFd tunFd udpFd loop)
    (hgone : (run (processStep S secret start) (startProcess base) events).enclave.connected = false)
    (later : List ProcessEvent) (code : ℕ) :
    (run (processStep S secret start) (startProcess base) (events ++ later)).phase
      ≠ .returned code := by
  have hdoomed : Doomed (run (processStep S secret start)
      (run (processStep S secret start) (startProcess base) events) later) :=
    run_invariant (processStep S secret start) (fun _ e h => h.step e)
      ⟨hgone, Or.inr (Or.inl ⟨_, _, _, _, hloop⟩)⟩ later
  rw [run_append]
  intro hreturned
  rcases hdoomed.stuck with h | ⟨_, _, _, _, h⟩ | ⟨_, _, h⟩
  all_goals
    rw [hreturned] at h
    exact absurd h (by simp)

/-- Stopped by a signal after its enclave has died, the server does not return. -/
theorem dead_enclave_fatal_signal :
    (run (processStep sampleSodium zeroKey 0) (startProcess {0, 1, 2})
      (startedServer ++ [.enclaveExits] ++
        (.turn ⟨false, .failed, 0⟩ :: List.replicate 10 (.call true)))).phase ≠ .returned 0 :=
  dead_enclave_fatal sampleSodium zeroKey 0 {0, 1, 2}
    (show _ = ProcessPhase.looping 3 4 5 (startServerLoop sampleSodium zeroKey 0) from rfl)
    rfl _ 0

/-! ## The clean-up ends -/

/-- How many calls an item of the clean-up can lead to. -/
def Cleanup.calls : Cleanup → ℕ
  | .close _ | .shutdown | .awaitReply | .reap => 1
  | .forceKill => 2
  | .pollAgain => 3
  | .poll => 4
  | .terminate => 5

/-- How many calls are left, the return included. -/
def cleanupCalls : List Cleanup → ℕ
  | [] => 1
  | op :: rest => op.calls + cleanupCalls rest

example :
    cleanupCalls [.shutdown, .awaitReply, .close 3, .terminate, .close 5, .close 4] = 11 := rfl

/-- `main` has ended, or needs at most `n` more calls. -/
def EndsIn (n : ℕ) (p : ServerProcess) : Prop :=
  p.phase = .killed ∨ (∃ code, p.phase = .returned code) ∨
    ∃ todo code, p.phase = .cleaning todo code ∧ cleanupCalls todo ≤ n

theorem EndsIn.mono {n m : ℕ} (h : EndsIn n p) (hle : n ≤ m) : EndsIn m p := by
  rcases h with hkilled | hreturned | ⟨todo, code, hphase, hn⟩
  · exact Or.inl hkilled
  · exact Or.inr (Or.inl hreturned)
  · exact Or.inr (Or.inr ⟨todo, code, hphase, hn.trans hle⟩)

/-- A call of the clean-up that returns brings `main` nearer to its end. -/
theorem cleanupStep_endsIn {n : ℕ} (code : ℕ) {todo : List Cleanup} (hdue : Due todo p.enclave)
    (hn : cleanupCalls todo ≤ n + 1)
    (hreturns : ∀ rest, todo = .awaitReply :: rest →
      (p.enclave.connected && !p.answered) = false) :
    EndsIn n (cleanupStep p code todo) := by
  have hgo : ∀ files enclave answered todo', cleanupCalls todo' ≤ n →
      EndsIn n ⟨files, enclave, answered, .cleaning todo' code⟩ :=
    fun _ _ _ todo' h => Or.inr (Or.inr ⟨todo', code, rfl, h⟩)
  cases todo with
  | nil => exact Or.inr (Or.inl ⟨code, rfl⟩)
  | cons op rest =>
      rw [cleanupCalls] at hn
      cases op with
      | close fd =>
          rw [Cleanup.calls] at hn
          exact hgo _ _ _ rest (by omega)
      | shutdown =>
          rw [Cleanup.calls] at hn
          simp only [cleanupStep]
          split_ifs
          · exact hgo _ _ _ rest (by omega)
          · exact Or.inl rfl
      | awaitReply =>
          rw [Cleanup.calls] at hn
          simp only [cleanupStep, hreturns rest rfl]
          exact hgo _ _ _ rest (by omega)
      | terminate =>
          rw [Cleanup.calls] at hn
          simp only [cleanupStep, if_pos hdue.1]
          exact hgo _ _ _ (.poll :: rest) (by rw [cleanupCalls, Cleanup.calls]; omega)
      | poll =>
          rw [Cleanup.calls] at hn
          simp only [cleanupStep]
          split_ifs
          · exact hgo _ _ _ rest (by omega)
          · exact hgo _ _ _ (.pollAgain :: rest) (by rw [cleanupCalls, Cleanup.calls]; omega)
      | pollAgain =>
          rw [Cleanup.calls] at hn
          simp only [cleanupStep]
          split_ifs
          · exact hgo _ _ _ rest (by omega)
          · exact hgo _ _ _ (.forceKill :: rest) (by rw [cleanupCalls, Cleanup.calls]; omega)
      | forceKill =>
          rw [Cleanup.calls] at hn
          exact hgo _ _ _ (.reap :: rest) (by rw [cleanupCalls, Cleanup.calls]; omega)
      | reap =>
          rw [Cleanup.calls] at hn
          simp only [cleanupStep, if_pos hdue.1]
          exact hgo _ _ _ rest (by omega)

/-- The clean-up of `main` never has more than eleven calls left. -/
def CleansSoon (p : ServerProcess) : Prop :=
  ∀ todo code, p.phase = .cleaning todo code → cleanupCalls todo ≤ 11

/-- A call that does not return leaves what is left to do. -/
theorem cleanupStep_blocked {code : ℕ} {rest : List Cleanup}
    (h : (p.enclave.connected && !p.answered) = true) :
    cleanupStep p code (.awaitReply :: rest)
      = { p with phase := .cleaning (.awaitReply :: rest) code } := by
  simp only [cleanupStep, h]
  rfl

theorem CleansSoon.step (h : CleansSoon p) (htidy : Tidy base p) (e : ProcessEvent) :
    CleansSoon (processStep S secret start p e) := by
  obtain ⟨files, enclave, answered, phase⟩ := p
  cases e with
  | call ok =>
      cases phase with
      | cleaning todo code =>
          intro todo' code' hphase
          have hsoon : cleanupCalls todo ≤ 10 + 1 := h todo code rfl
          by_cases hblocked : ∃ rest, todo = .awaitReply :: rest ∧
              (enclave.connected && !answered) = true
          · obtain ⟨rest, rfl, hwaits⟩ := hblocked
            have hsame : ProcessPhase.cleaning (.awaitReply :: rest) code
                = .cleaning todo' code' := by
              rw [← hphase]
              exact (congrArg ServerProcess.phase (cleanupStep_blocked hwaits)).symm
            rw [← (ProcessPhase.cleaning.inj hsame).1]
            exact hsoon
          · have hreturns : ∀ rest, todo = .awaitReply :: rest →
                (enclave.connected && !answered) = false := fun rest htodo => by
              by_contra hwaits
              exact hblocked ⟨rest, htodo, by simpa using hwaits⟩
            rcases cleanupStep_endsIn code htidy.meets hsoon hreturns with
              hkilled | ⟨_, hreturned⟩ | ⟨todo'', _, hcleaning, hle⟩
            · exact absurd (hphase.symm.trans hkilled) (by simp)
            · exact absurd (hphase.symm.trans hreturned) (by simp)
            · rw [(ProcessPhase.cleaning.inj (hphase.symm.trans hcleaning)).1]
              omega
      | looping | returned | killed => exact h
      | starting | connecting | connectingTo | pinging | openingTun | creatingTun | configuringTun
      | bringingTunUp | openingUdp | binding | allocating =>
          intro todo code hphase
          simp only [processStep, mainCall] at hphase
          split_ifs at hphase <;> cases hphase <;> simp [cleanupCalls, Cleanup.calls]
  | turn t =>
      cases phase with
      | looping enclaveFd tunFd udpFd loop =>
          intro todo code hphase
          simp only [processStep, mainTurn] at hphase
          split_ifs at hphase
          cases hphase
          simp [cleanupCalls, Cleanup.calls]
      | starting | connecting | connectingTo | pinging | openingTun | creatingTun | configuringTun
      | bringingTunUp | openingUdp | binding | allocating | cleaning | returned | killed => exact h
  | enclaveAnswers | enclaveHangsUp | enclaveExits =>
      simp only [processStep]
      split_ifs <;> exact h

/-- The event is a call of the server. -/
def ProcessEvent.isCall : ProcessEvent → Bool
  | .call _ => true
  | _ => false

/-- The event is no call that has to wait. -/
def CallReturns (p : ServerProcess) (e : ProcessEvent) : Prop :=
  e.isCall = true → p.blocked = false

instance (p : ServerProcess) (e : ProcessEvent) : Decidable (CallReturns p e) :=
  inferInstanceAs (Decidable (_ → _))

theorem EndsIn.call {n : ℕ} (h : EndsIn (n + 1) p) (htidy : Tidy base p)
    (hreturns : p.blocked = false) (ok : Bool) : EndsIn n (mainCall S secret start p ok) := by
  obtain ⟨files, enclave, answered, phase⟩ := p
  have hmeets := htidy.meets
  rcases h with rfl | ⟨code, rfl⟩ | ⟨todo, code, rfl, hn⟩
  · exact Or.inl rfl
  · exact Or.inr (Or.inl ⟨code, rfl⟩)
  · refine cleanupStep_endsIn code hmeets hn fun rest htodo => ?_
    subst htodo
    exact hreturns

theorem EndsIn.other {n : ℕ} (h : EndsIn n p) {e : ProcessEvent} (he : e.isCall = false) :
    EndsIn n (processStep S secret start p e) := by
  cases e with
  | call ok => exact absurd he (by simp [ProcessEvent.isCall])
  | turn t =>
      obtain ⟨files, enclave, answered, phase⟩ := p
      rcases h with rfl | ⟨code, rfl⟩ | ⟨todo, code, rfl, hn⟩
      · exact Or.inl rfl
      · exact Or.inr (Or.inl ⟨code, rfl⟩)
      · exact Or.inr (Or.inr ⟨todo, code, rfl, hn⟩)
  | enclaveAnswers | enclaveHangsUp | enclaveExits =>
      simp only [processStep]
      split_ifs <;> exact h

/-- After `n` calls that return, a server that needs at most `n` has ended. -/
theorem EndsIn.ended {n : ℕ} (h : EndsIn n p) (htidy : Tidy base p) {later : List ProcessEvent}
    (hreturns : Along (processStep S secret start) CallReturns p later)
    (hcalls : n ≤ later.countP ProcessEvent.isCall) :
    EndsIn 0 (run (processStep S secret start) p later) := by
  induction later generalizing n p with
  | nil =>
      rw [List.countP_nil, Nat.le_zero] at hcalls
      rw [hcalls] at h
      exact h
  | cons e later ih =>
      cases he : e.isCall with
      | false =>
          rw [List.countP_cons_of_neg (by simp [he])] at hcalls
          exact ih (h.other he) (htidy.step e) hreturns.2 hcalls
      | true =>
          rw [List.countP_cons_of_pos he] at hcalls
          have hfree := hreturns.1 he
          cases e with
          | call ok =>
              cases n with
              | zero =>
                  exact ih ((h.mono (Nat.zero_le 1)).call htidy hfree ok) (htidy.step _)
                    hreturns.2 (Nat.zero_le _)
              | succ n =>
                  exact ih (h.call htidy hfree ok) (htidy.step _) hreturns.2
                    (Nat.le_of_succ_le_succ hcalls)
          | turn | enclaveAnswers | enclaveHangsUp | enclaveExits =>
              exact absurd he (by simp [ProcessEvent.isCall])

/-- The event is a step of the enclave process. -/
def ProcessEvent.isOfEnclave : ProcessEvent → Bool
  | .enclaveAnswers | .enclaveHangsUp | .enclaveExits => true
  | _ => false

/-- Without a step of the enclave process a server that waits for it stays as it is. -/
theorem run_blocked (h : p.blocked = true) {later : List ProcessEvent}
    (hsilent : ∀ e ∈ later, e.isOfEnclave = false) :
    run (processStep S secret start) p later = p := by
  obtain ⟨files, enclave, answered, phase⟩ := p
  obtain ⟨hawaits, hwaits⟩ := Bool.and_eq_true_iff.mp h
  obtain ⟨rest, code, rfl⟩ : ∃ rest code, phase = .cleaning (.awaitReply :: rest) code := by
    cases phase with
    | cleaning todo code =>
        cases todo with
        | nil => exact absurd hawaits (by simp [ProcessPhase.awaitsReply])
        | cons op rest =>
            cases op with
            | awaitReply => exact ⟨rest, code, rfl⟩
            | close | shutdown | terminate | poll | pollAgain | forceKill | reap =>
                exact absurd hawaits (by simp [ProcessPhase.awaitsReply])
    | starting | connecting | connectingTo | pinging | openingTun | creatingTun | configuringTun
    | bringingTunUp | openingUdp | binding | allocating | looping | returned | killed =>
        exact absurd hawaits (by simp [ProcessPhase.awaitsReply])
  induction later with
  | nil => rfl
  | cons e later ih =>
      obtain ⟨he, hsilent⟩ := List.forall_mem_cons.mp hsilent
      have hstep : processStep S secret start
          ⟨files, enclave, answered, .cleaning (.awaitReply :: rest) code⟩ e
          = ⟨files, enclave, answered, .cleaning (.awaitReply :: rest) code⟩ := by
        cases e with
        | call ok => exact cleanupStep_blocked hwaits
        | turn t => rfl
        | enclaveAnswers | enclaveHangsUp | enclaveExits =>
            exact absurd he (by simp [ProcessEvent.isOfEnclave])
      rw [run_cons, hstep]
      exact ih hsilent

/-- **The clean-up ends.**  Once `main` has left its loop or a call of its start-up has failed, it
ends after at most eleven more calls that return, even if the enclave process ignores SIGTERM.  The
only call that need not return is the `recv` of `enclave_shutdown`: while the enclave process
neither answers nor closes its end nor exits, `main` waits in it and does not come to the
SIGTERM. -/
theorem cleanup_finishes (S : Sodium) (secret : Key) (start : ℤ) (base : Finset ℕ)
    {events : List ProcessEvent} {todo : List Cleanup} {code : ℕ}
    (hcleaning : (run (processStep S secret start) (startProcess base) events).phase
      = .cleaning todo code) (later : List ProcessEvent) :
    (Along (processStep S secret start) CallReturns
        (run (processStep S secret start) (startProcess base) events) later →
      11 ≤ later.countP ProcessEvent.isCall →
      (run (processStep S secret start) (startProcess base) (events ++ later)).phase = .killed ∨
        ∃ code, (run (processStep S secret start) (startProcess base) (events ++ later)).phase
          = .returned code) ∧
    ((run (processStep S secret start) (startProcess base) events).blocked = true →
      (∀ e ∈ later, e.isOfEnclave = false) →
      (run (processStep S secret start) (startProcess base) (events ++ later)).phase
        = .cleaning todo code) := by
  rw [run_append]
  refine ⟨fun hreturns hcalls => ?_, fun hblocked hsilent => ?_⟩
  · have hsoon := run_invariant (processStep S secret start)
      (I := fun p => Tidy base p ∧ CleansSoon p)
      (fun _ e h => ⟨h.1.step e, h.2.step h.1 e⟩)
      ⟨startProcess_tidy base, fun _ _ hphase => absurd hphase (by simp [startProcess])⟩ events
    have hends : EndsIn 11 (run (processStep S secret start) (startProcess base) events) :=
      Or.inr (Or.inr ⟨todo, code, hcleaning, hsoon.2 todo code hcleaning⟩)
    rcases hends.ended (S := S) hsoon.1 hreturns hcalls with
      hkilled | hreturned | ⟨todo', _, -, hzero⟩
    · exact Or.inl hkilled
    · exact Or.inr hreturned
    · cases todo' with
      | nil => exact absurd hzero (by simp [cleanupCalls])
      | cons op rest => exact absurd hzero (by cases op <;> simp [cleanupCalls, Cleanup.calls])
  · rw [run_blocked hblocked hsilent]
    exact hcleaning

/-- A signal ends the loop, and the message to the enclave is sent. -/
def signalledServer : List ProcessEvent :=
  startedServer ++ [.turn ⟨false, .failed, 0⟩, .call true]

/-- An enclave that answers but ignores SIGTERM does not hold up the clean-up; one that does not
answer does. -/
theorem cleanup_finishes_signal :
    ((run (processStep sampleSodium zeroKey 0) (startProcess {0, 1, 2})
        (signalledServer ++ .enclaveAnswers :: List.replicate 11 (.call true))).phase = .killed ∨
      ∃ code, (run (processStep sampleSodium zeroKey 0) (startProcess {0, 1, 2})
        (signalledServer ++ .enclaveAnswers :: List.replicate 11 (.call true))).phase
          = .returned code) ∧
    (run (processStep sampleSodium zeroKey 0) (startProcess {0, 1, 2})
      (signalledServer ++ List.replicate 100 (.call true))).phase
        = .cleaning [.awaitReply, .close 3, .terminate, .close 5, .close 4] 0 := by
  have hcleaning : (run (processStep sampleSodium zeroKey 0) (startProcess {0, 1, 2})
      signalledServer).phase
      = .cleaning [.awaitReply, .close 3, .terminate, .close 5, .close 4] 0 := rfl
  constructor
  · exact (cleanup_finishes sampleSodium zeroKey 0 {0, 1, 2} hcleaning _).1 (by decide)
      (by decide)
  · exact (cleanup_finishes sampleSodium zeroKey 0 {0, 1, 2} hcleaning _).2 (by decide)
      (by decide)

end Vpn
