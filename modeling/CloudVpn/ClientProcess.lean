/-
# The descriptors of the client process

`vpn_client.c` has two descriptors, `sock_fd` and `tun_fd`.  `vpn_connect` closes the socket it has
and opens a new one, on every attempt to reconnect; the TUN device is opened once and kept.  The
model follows `main` of the client with its loop (`clientLoopStep`) and keeps the descriptors beside
it.

* `clientProcess_released`: when `main` returns, the descriptors are as it has found them.
* `select_descriptors_open`: whenever the loop reaches `select`, both descriptors are open.
-/
import CloudVpn.ClientLoop
import CloudVpn.Descriptors

open Memory Runs Descriptors

namespace Vpn

/-! ## Opening and closing -/

/-- `sock_fd` and `tun_fd`, with `none` for -1, and the descriptors of the process. -/
structure ClientFiles where
  files : Files
  sockFd : Option ℕ
  tunFd : Option ℕ

/-- `if (fd >= 0) close(fd)`. -/
def closeIfOpen (files : Files) : Option ℕ → Files
  | some fd => files.close fd
  | none => files

/-- How a call fails that opens a descriptor: before it has one, or after; then it closes it. -/
inductive OpenFailure where
  | notOpened
  | closedAgain

/-- The descriptors after such a failure. -/
def failedOpen (files : Files) : OpenFailure → Files
  | .notOpened => files
  | .closedAgain => files.opened.close (lowestFree files.fds)

/-- `recreate_socket`; it fails in `socket` or in `inet_pton`. -/
def recreateSocket (ok : Bool) (failure : OpenFailure) (s : ClientFiles) : ClientFiles :=
  let files := closeIfOpen s.files s.sockFd
  if ok then { s with files := files.opened, sockFd := some (lowestFree files.fds) }
  else { s with files := failedOpen files failure, sockFd := none }

/-- `setup_client_tun`; `create_tun_interface` fails in `open` or in `ioctl`, and after a failure
of the other two calls the device is closed. -/
def setupTunFiles (setup : TunSetup) (failure : OpenFailure) (s : ClientFiles) : ClientFiles :=
  if s.tunFd.isSome then s
  else if !setup.create then { s with files := failedOpen s.files failure }
  else if !setup.configure || !setup.bringUp then
    { s with files := failedOpen s.files .closedAgain }
  else { s with files := s.files.opened, tunFd := some (lowestFree s.files.fds) }

/-- The descriptors that `destroy_vpn_client` leaves. -/
def destroyFiles (s : ClientFiles) : Files :=
  closeIfOpen (closeIfOpen s.files s.sockFd) s.tunFd

/-! ## The process -/

/-- A turn of the loop, with the way in which its calls fail. -/
structure FileTurn where
  turn : ClientTurn
  socketFailure : OpenFailure
  tunFailure : OpenFailure

/-- The client and its descriptors. -/
structure ClientProcess where
  loop : ClientLoop
  fds : ClientFiles

/-- `attempt_reconnect`. -/
def reconnectFiles (S : Sodium) (config : VpnConfig) (t : FileTurn) (p : ClientProcess) :
    ClientFiles :=
  if p.loop.vpn.client.connected then p.fds
  else if config.autoReconnect ≠ 0 then
    match (attemptReconnect S config t.turn.connect t.turn.setup p.loop.vpn).2.1 with
    | [] => p.fds
    | attempt :: _ =>
        let fds := recreateSocket t.turn.connect.socket t.socketFailure p.fds
        if attempt.connected then setupTunFiles t.turn.setup t.tunFailure fds else fds
  else p.fds

/-- One turn of the loop. -/
def clientProcessStep (S : Sodium) (config : VpnConfig) (p : ClientProcess) (t : FileTurn) :
    ClientProcess where
  loop := clientLoopStep S config p.loop t.turn
  fds := if p.loop.exit.isSome || !t.turn.running then p.fds else reconnectFiles S config t p

/-- The descriptors before the loop: `vpn_connect` and, if it succeeds, `setup_client_tun`. -/
def startFiles (S : Sodium) (config : VpnConfig) (secret : Key) (base : Finset ℕ) (t : ConnectTry)
    (socketFailure : OpenFailure) (setup : TunSetup) (tunFailure : OpenFailure) : ClientFiles :=
  let fds := recreateSocket t.socket socketFailure ⟨⟨base, 0⟩, none, none⟩
  if (connectOnce S (clientUsername config) (initVpnClient S secret) t).2 then
    setupTunFiles setup tunFailure fds
  else fds

/-- The descriptors when `main` returns, after the given calls. -/
def clientMainFiles (S : Sodium) (config : VpnConfig) (secret : Key) (base : Finset ℕ)
    (t : ConnectTry) (socketFailure : OpenFailure) (setup : TunSetup) (tunFailure : OpenFailure)
    (turns : List FileTurn) : Files :=
  let fds := startFiles S config secret base t socketFailure setup tunFailure
  match startClient S config secret t setup with
  | none => destroyFiles fds
  | some loop => destroyFiles (run (clientProcessStep S config) ⟨loop, fds⟩ turns).fds

/-! ## What is open -/

variable {S : Sodium} {base : Finset ℕ} {s : ClientFiles}

/-- The process has the two descriptors open, those that there are, and no others. -/
def HoldsFds (base : Finset ℕ) (s : ClientFiles) : Prop :=
  Owns base (s.sockFd.toList ++ s.tunFd.toList) s.files

theorem owns_closeIfOpen {fd : Option ℕ} {held : List ℕ} {files : Files}
    (h : Owns base (fd.toList ++ held) files) : Owns base held (closeIfOpen files fd) := by
  cases fd with
  | none => exact h
  | some fd =>
      have hclosed := h.close (List.mem_cons_self (a := fd))
      rw [Option.toList_some, List.singleton_append, List.erase_cons_head] at hclosed
      exact hclosed

/-- A failed call leaves the descriptors as they were. -/
theorem owns_failedOpen {held : List ℕ} {files : Files} (h : Owns base held files)
    (failure : OpenFailure) : Owns base held (failedOpen files failure) := by
  cases failure with
  | notOpened => exact h
  | closedAgain =>
      have hclosed := h.opened.close (List.mem_cons_self (a := lowestFree files.fds))
      rw [List.erase_cons_head] at hclosed
      exact hclosed

theorem HoldsFds.recreateSocket (h : HoldsFds base s) (ok : Bool) (failure : OpenFailure) :
    HoldsFds base (recreateSocket ok failure s) := by
  have hclosed : Owns base s.tunFd.toList (closeIfOpen s.files s.sockFd) := owns_closeIfOpen h
  unfold Vpn.recreateSocket
  cases ok with
  | true => exact hclosed.opened
  | false => exact owns_failedOpen hclosed failure

theorem HoldsFds.setupTunFiles (h : HoldsFds base s) (setup : TunSetup) (failure : OpenFailure) :
    HoldsFds base (setupTunFiles setup failure s) := by
  obtain ⟨files, sockFd, tunFd⟩ := s
  unfold Vpn.setupTunFiles
  cases tunFd with
  | some fd => exact h
  | none =>
      have howns : Owns base sockFd.toList files := by
        have howns : Owns base (sockFd.toList ++ []) files := h
        rwa [List.append_nil] at howns
      have hstill : ∀ failure, HoldsFds base ⟨failedOpen files failure, sockFd, none⟩ := by
        intro failure
        unfold HoldsFds
        rw [Option.toList_none, List.append_nil]
        exact owns_failedOpen howns failure
      simp only [Option.isSome_none, Bool.false_eq_true, if_false]
      split_ifs
      · exact hstill failure
      · exact hstill .closedAgain
      · have hperm : ([lowestFree files.fds] ++ sockFd.toList).Perm
            (sockFd.toList ++ [lowestFree files.fds]) := List.perm_append_comm
        exact howns.opened.perm hperm

theorem HoldsFds.destroyed (h : HoldsFds base s) : destroyFiles s = ⟨base, 0⟩ := by
  have hsock : Owns base s.tunFd.toList (closeIfOpen s.files s.sockFd) := owns_closeIfOpen h
  have htun : Owns base (s.tunFd.toList ++ []) (closeIfOpen s.files s.sockFd) := by
    rw [List.append_nil]
    exact hsock
  exact (owns_closeIfOpen htun).released

/-! ## The descriptors follow the loop -/

theorem connectOnce_socket {username : Bytes} {client : Client} {t : ConnectTry}
    (h : (connectOnce S username client t).2 = true) : t.socket = true := by
  unfold connectOnce at h
  cases hsocket : t.socket with
  | true => rfl
  | false =>
      rw [hsocket] at h
      exact absurd h (by simp)

@[simp] theorem tunFd_recreateSocket (ok : Bool) (failure : OpenFailure) :
    (recreateSocket ok failure s).tunFd = s.tunFd := by
  unfold recreateSocket
  cases ok <;> rfl

@[simp] theorem sockFd_setupTunFiles (setup : TunSetup) (failure : OpenFailure) :
    (setupTunFiles setup failure s).sockFd = s.sockFd := by
  unfold setupTunFiles
  split_ifs <;> rfl

/-- The model of the loop knows whether the TUN device is open. -/
theorem tunFd_setupTunFiles (vpn : VpnClient) (h : vpn.tunOpen = s.tunFd.isSome) (setup : TunSetup)
    (failure : OpenFailure) :
    (setupClientTun vpn setup).1.tunOpen = (setupTunFiles setup failure s).tunFd.isSome ∧
      ((setupClientTun vpn setup).2 = true →
        (setupTunFiles setup failure s).tunFd.isSome = true) := by
  obtain ⟨create, configure, bringUp⟩ := setup
  unfold setupClientTun setupTunFiles
  cases hopen : s.tunFd.isSome with
  | true =>
      rw [hopen] at h
      simp [h, hopen]
  | false =>
      rw [hopen] at h
      cases create <;> cases configure <;> cases bringUp <;> simp [h, hopen]

/-- What every turn keeps: the two models agree on the TUN device, and as long as the loop goes on
both descriptors are there. -/
structure Wired (base : Finset ℕ) (p : ClientProcess) : Prop where
  holds : HoldsFds base p.fds
  tun : p.loop.vpn.tunOpen = p.fds.tunFd.isSome
  both : p.loop.exit = none → p.fds.sockFd.isSome = true ∧ p.fds.tunFd.isSome = true

variable {p : ClientProcess}

/-- The first part of a turn. -/
theorem Wired.reconnect (h : Wired base p) (config : VpnConfig) (t : FileTurn) :
    Wired base ⟨reconnectPhase S config t.turn p.loop, reconnectFiles S config t p⟩ := by
  unfold reconnectPhase reconnectFiles
  by_cases hconnected : p.loop.vpn.client.connected = true
  · rw [if_pos hconnected, if_pos hconnected]
    exact h
  rw [if_neg hconnected, if_neg hconnected]
  by_cases hauto : config.autoReconnect ≠ 0
  · rw [if_pos hauto, if_pos hauto]
    by_cases hused : p.loop.vpn.client.reconnectAttempts ≥ config.maxReconnectAttempts
    · rw [attemptReconnect_refused hused]
      exact ⟨h.holds, h.tun, fun hnone => absurd hnone (by simp)⟩
    · have hholds := h.holds.recreateSocket t.turn.connect.socket t.socketFailure
      have htun : p.loop.vpn.tunOpen
          = (recreateSocket t.turn.connect.socket t.socketFailure p.fds).tunFd.isSome := by
        rw [tunFd_recreateSocket]
        exact h.tun
      unfold attemptReconnect
      rw [if_neg hused]
      dsimp only
      cases hconnect : connectOnce S (clientUsername config)
          (({ p.loop.vpn.client with
            reconnectAttempts := p.loop.vpn.client.reconnectAttempts + 1
            backoffSeconds := nextBackoff p.loop.vpn.client.backoffSeconds
            connected := false }) : Client) t.turn.connect with
      | mk client ok =>
          cases ok with
          | false => exact ⟨hholds, htun, fun hnone => absurd hnone (by simp)⟩
          | true =>
              have hsocket := connectOnce_socket (congrArg Prod.snd hconnect)
              have hset := tunFd_setupTunFiles { p.loop.vpn with client := client } htun
                t.turn.setup t.tunFailure
              have hsock : (setupTunFiles t.turn.setup t.tunFailure
                  (recreateSocket t.turn.connect.socket t.socketFailure p.fds)).sockFd.isSome
                  = true := by
                rw [sockFd_setupTunFiles, hsocket]
                rfl
              dsimp only
              cases hsetup : setupClientTun { p.loop.vpn with client := client } t.turn.setup with
              | mk vpn done =>
                  rw [hsetup] at hset
                  cases done with
                  | false =>
                      exact ⟨hholds.setupTunFiles _ _, hset.1, fun hnone => absurd hnone (by simp)⟩
                  | true => exact ⟨hholds.setupTunFiles _ _, hset.1, fun _ => ⟨hsock, hset.2 rfl⟩⟩
  · rw [if_neg hauto, if_neg hauto]
    exact ⟨h.holds, h.tun, fun hnone => absurd hnone (by simp)⟩

/-- **Every turn keeps the descriptors in order.** -/
theorem Wired.step (h : Wired base p) (config : VpnConfig) (t : FileTurn) :
    Wired base (clientProcessStep S config p t) := by
  unfold clientProcessStep clientLoopStep
  by_cases hleft : p.loop.exit.isSome = true
  · rw [if_pos hleft, hleft]
    exact h
  by_cases hrunning : t.turn.running = true
  · have hreconnect := h.reconnect (S := S) config t
    rw [if_neg hleft, hrunning, Bool.eq_false_of_not_eq_true hleft]
    simp only [Bool.not_true, Bool.or_false, Bool.false_eq_true, if_false]
    split_ifs with hlost
    · exact hreconnect
    · rcases selectPhase_outcome S config t.turn (reconnectPhase S config t.turn p.loop) with
        hselect | ⟨client, hselect, -⟩
      · rw [hselect]
        exact ⟨hreconnect.holds, hreconnect.tun, fun hnone => absurd hnone (by simp)⟩
      · rw [hselect]
        exact ⟨hreconnect.holds, hreconnect.tun, hreconnect.both⟩
  · rw [if_neg hleft, Bool.eq_false_of_not_eq_true hrunning]
    simp only [Bool.not_false, Bool.or_true, if_true]
    exact ⟨h.holds, h.tun, fun hnone => absurd hnone (by simp)⟩

theorem startFiles_holds (S : Sodium) (config : VpnConfig) (secret : Key) (base : Finset ℕ)
    (t : ConnectTry) (socketFailure : OpenFailure) (setup : TunSetup) (tunFailure : OpenFailure) :
    HoldsFds base (startFiles S config secret base t socketFailure setup tunFailure) := by
  have hstart : HoldsFds base ⟨⟨base, 0⟩, none, none⟩ := owns_nil base
  have hsocket := hstart.recreateSocket t.socket socketFailure
  unfold startFiles
  dsimp only
  split_ifs
  · exact hsocket.setupTunFiles setup tunFailure
  · exact hsocket

/-- A client that reaches its loop has both descriptors. -/
theorem startFiles_wired {config : VpnConfig} {secret : Key} {t : ConnectTry} {setup : TunSetup}
    {loop : ClientLoop} (hloop : startClient S config secret t setup = some loop)
    (socketFailure tunFailure : OpenFailure) :
    Wired base ⟨loop, startFiles S config secret base t socketFailure setup tunFailure⟩ := by
  have hholds := startFiles_holds S config secret base t socketFailure setup tunFailure
  obtain ⟨client, hconnect, hloop_eq⟩ := startClient_eq_some hloop
  have hsocket := connectOnce_socket (congrArg Prod.snd hconnect)
  have hfiles : startFiles S config secret base t socketFailure setup tunFailure
      = setupTunFiles setup tunFailure
          (recreateSocket t.socket socketFailure ⟨⟨base, 0⟩, none, none⟩) := by
    unfold startFiles
    rw [hconnect]
    rfl
  have hset := tunFd_setupTunFiles (s := recreateSocket t.socket socketFailure
    ⟨⟨base, 0⟩, none, none⟩) ⟨client, false, none⟩ (by rw [tunFd_recreateSocket]; rfl) setup
    tunFailure
  have hdone : (setupClientTun ⟨client, false, none⟩ setup).2 = true := by
    unfold startClient at hloop
    rw [hconnect] at hloop
    dsimp only at hloop
    cases hsetup : setupClientTun ⟨client, false, none⟩ setup with
    | mk vpn done =>
        rw [hsetup] at hloop
        cases done with
        | true => rfl
        | false => exact absurd hloop (by simp)
  have htun := hset.2 hdone
  rw [← hfiles] at htun
  have hsock : (startFiles S config secret base t socketFailure setup tunFailure).sockFd.isSome
      = true := by
    rw [hfiles, sockFd_setupTunFiles, hsocket]
    rfl
  rw [hloop_eq]
  exact ⟨hholds, htun.symm, fun _ => ⟨hsock, htun⟩⟩

/-- **A client that returns has closed its descriptors.**  Whichever calls fail and however often the
client reconnects: when `main` returns, the descriptors are as it has found them, and every `close`
was of one of its own open descriptors. -/
theorem clientProcess_released (S : Sodium) (config : VpnConfig) (secret : Key) (base : Finset ℕ)
    (t : ConnectTry) (socketFailure : OpenFailure) (setup : TunSetup) (tunFailure : OpenFailure)
    (turns : List FileTurn) :
    clientMainFiles S config secret base t socketFailure setup tunFailure turns = ⟨base, 0⟩ := by
  unfold clientMainFiles
  dsimp only
  cases hloop : startClient S config secret t setup with
  | none => exact (startFiles_holds S config secret base t socketFailure setup tunFailure).destroyed
  | some loop =>
      have hwired : Wired base (run (clientProcessStep S config)
          ⟨loop, startFiles S config secret base t socketFailure setup tunFailure⟩ turns) :=
        run_invariant (clientProcessStep S config) (fun _ t h => h.step config t)
          (startFiles_wired hloop socketFailure tunFailure) turns
      exact hwired.holds.destroyed

/-- **`select` has two open descriptors.**  In every run, a turn that gets as far as `select` has a
socket and a TUN device: two different descriptors of the process, both open. -/
theorem select_descriptors_open (S : Sodium) (config : VpnConfig) (secret : Key) (base : Finset ℕ)
    (t : ConnectTry) (socketFailure : OpenFailure) (setup : TunSetup) (tunFailure : OpenFailure)
    {loop : ClientLoop} (hloop : startClient S config secret t setup = some loop)
    (turns : List FileTurn) (turn : FileTurn)
    (hselect : (reconnectPhase S config turn.turn (run (clientProcessStep S config)
      ⟨loop, startFiles S config secret base t socketFailure setup tunFailure⟩ turns).loop).exit
        = none) :
    ∃ files sockFd tunFd,
      reconnectFiles S config turn (run (clientProcessStep S config)
        ⟨loop, startFiles S config secret base t socketFailure setup tunFailure⟩ turns)
          = ⟨files, some sockFd, some tunFd⟩ ∧
      sockFd ≠ tunFd ∧ sockFd ∈ files.fds ∧ tunFd ∈ files.fds := by
  have hwired : Wired base (run (clientProcessStep S config)
      ⟨loop, startFiles S config secret base t socketFailure setup tunFailure⟩ turns) :=
    run_invariant (clientProcessStep S config) (fun _ t h => h.step config t)
      (startFiles_wired hloop socketFailure tunFailure) turns
  have hmid := hwired.reconnect (S := S) config turn
  obtain ⟨hsock, htun⟩ := hmid.both hselect
  have howns := hmid.holds
  dsimp only at hsock htun howns
  generalize reconnectFiles S config turn _ = fds at hsock htun howns
  obtain ⟨files, sockFd, tunFd⟩ := fds
  obtain ⟨sockFd, rfl⟩ := Option.isSome_iff_exists.mp hsock
  obtain ⟨tunFd, rfl⟩ := Option.isSome_iff_exists.mp htun
  have howns : Owns base [sockFd, tunFd] files := howns
  refine ⟨files, sockFd, tunFd, rfl, ?_, ?_, ?_⟩
  · intro heq
    have hnodup := howns.nodup
    rw [heq] at hnodup
    exact absurd hnodup (by simp)
  · rw [howns.fds_eq]
    simp
  · rw [howns.fds_eq]
    simp

/-- The client hears nothing for 100 seconds and connects again. -/
def lostTurn : FileTurn := ⟨sampleTurn none 100, .notOpened, .notOpened⟩

/-- The turn in which it connects again. -/
def reconnectTurn : FileTurn :=
  ⟨sampleTurn (some (sampleReply firstIp)) 101, .notOpened, .notOpened⟩

/-- The client of the sample, with the descriptors it has opened. -/
def sampleClientProcess : ClientProcess :=
  ⟨sampleLoop (sampleConfig 3) (sampleReply firstIp),
    startFiles sampleSodium (sampleConfig 3) (Vector.replicate 32 0) {0, 1, 2}
      (sampleTry (some (sampleReply firstIp)) 0) .notOpened ⟨true, true, true⟩ .notOpened⟩

theorem select_descriptors_open_reconnected :
    ∃ files sockFd tunFd,
      reconnectFiles sampleSodium (sampleConfig 3) reconnectTurn
        (run (clientProcessStep sampleSodium (sampleConfig 3)) sampleClientProcess [lostTurn])
          = ⟨files, some sockFd, some tunFd⟩ ∧
      sockFd ≠ tunFd ∧ sockFd ∈ files.fds ∧ tunFd ∈ files.fds :=
  select_descriptors_open sampleSodium (sampleConfig 3) (Vector.replicate 32 0) {0, 1, 2}
    (sampleTry (some (sampleReply firstIp)) 0) .notOpened ⟨true, true, true⟩ .notOpened
    (show sampleStart (sampleConfig 3) (sampleReply firstIp)
      = some (sampleLoop (sampleConfig 3) (sampleReply firstIp)) from rfl)
    [lostTurn] reconnectTurn
    (show (reconnectPhase sampleSodium (sampleConfig 3) reconnectTurn.turn
      (run (clientProcessStep sampleSodium (sampleConfig 3)) sampleClientProcess
        [lostTurn]).loop).exit = none by decide +kernel)

end Vpn
