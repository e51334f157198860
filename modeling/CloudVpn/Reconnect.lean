/-
# The reconnection policy

The configuration names a number of attempts, and `attempt_reconnect` keeps a counter and a
backoff that doubles; `FollowsPolicy` says what they are for.  Called over and over, the function
keeps to the schedule: counter and backoff say how many attempts have failed since the last one
that succeeded (`OnSchedule`, `reconnect_schedule`).

The main loop, however, is left as soon as one attempt has failed, and a success resets counter
and backoff.  So the loop never gets beyond its first attempt (`GaveUp`), and the policy is
followed exactly by the runs in which every reconnection gets an answer that is accepted and by
those with a limit of one (`followsPolicy_iff`).
-/
import CloudVpn.ClientLoop
import Mathlib.Algebra.Order.Ring.Int

open Memory Runs

namespace Vpn

/-! ## The policy -/

/-- How many attempts have failed since the last one that succeeded; the last attempt comes
first in the list. -/
def consecutiveFailures : List Attempt → ℕ
  | [] => 0
  | a :: earlier => if a.connected then 0 else consecutiveFailures earlier + 1

/-- Before the `k`-th attempt in a row the client has waited `min (2 ^ (k - 1)) 60` seconds. -/
def WaitsDouble : List Attempt → Prop
  | [] => True
  | a :: earlier => a.wait = min (2 ^ consecutiveFailures earlier) 60 ∧ WaitsDouble earlier

/-- **The policy**: the waits double, and a connection is only given up after the configured
number of attempts in a row. -/
structure FollowsPolicy (config : VpnConfig) (s : ClientLoop) : Prop where
  waits : WaitsDouble s.attempts
  lost : s.exit = some .connectionLost →
    config.maxReconnectAttempts ≤ consecutiveFailures s.attempts

/-! ## Calls of `attempt_reconnect` -/

/-- A client with the attempts to reconnect that it has made, the last one first. -/
structure Reconnecting where
  vpn : VpnClient
  attempts : List Attempt

/-- The client that `init_vpn_client` returns. -/
def freshClient (S : Sodium) (secret : Key) : Reconnecting :=
  ⟨⟨initVpnClient S secret, false, none⟩, []⟩

/-- One call, with what its system calls return. -/
def reconnectStep (S : Sodium) (config : VpnConfig) (s : Reconnecting)
    (call : ConnectTry × TunSetup) : Reconnecting :=
  let (vpn, attempts, _) := attemptReconnect S config call.1 call.2 s.vpn
  ⟨vpn, attempts ++ s.attempts⟩

/-- The counters say how often the client has failed to connect since it last succeeded. -/
structure OnSchedule (config : VpnConfig) (s : Reconnecting) : Prop where
  waits : WaitsDouble s.attempts
  reconnectAttempts : s.vpn.client.reconnectAttempts = consecutiveFailures s.attempts
  backoffSeconds :
    s.vpn.client.backoffSeconds = min (2 ^ consecutiveFailures s.attempts) 60
  limit : s.vpn.client.reconnectAttempts ≤ max config.maxReconnectAttempts 0

/-- Doubling with a limit goes through the powers of two up to the limit. -/
theorem nextBackoff_min (k : ℕ) : nextBackoff (min (2 ^ k) 60) = min (2 ^ (k + 1)) 60 := by
  have hpow : (2 : ℤ) ^ (k + 1) = 2 ^ k * 2 := pow_succ 2 k
  have hpos : (0 : ℤ) < 2 ^ k := pow_pos (by omega) k
  unfold nextBackoff maxBackoff
  rw [hpow]
  generalize (2 : ℤ) ^ k = x at hpos
  split_ifs <;> omega

theorem OnSchedule.step {S : Sodium} {config : VpnConfig} {s : Reconnecting}
    (h : OnSchedule config s) (call : ConnectTry × TunSetup) :
    OnSchedule config (reconnectStep S config s call) := by
  have hout := attemptReconnect_outcome S config call.1 call.2 s.vpn
  unfold reconnectStep
  generalize attemptReconnect S config call.1 call.2 s.vpn = r at hout
  cases hout with
  | refused _ => exact h
  | failed hleft _ hattempts hbackoff =>
      refine ⟨⟨h.backoffSeconds, h.waits⟩, ?_, ?_, ?_⟩
      · show _ = ((consecutiveFailures s.attempts + 1 : ℕ) : ℤ)
        rw [hattempts, h.reconnectAttempts]
        rfl
      · rw [hbackoff, h.backoffSeconds]
        exact nextBackoff_min _
      · rw [hattempts]
        exact le_max_of_le_left hleft
  | connected _ _ _ hattempts hbackoff _ =>
      refine ⟨⟨h.backoffSeconds, h.waits⟩, ?_, ?_, ?_⟩
      · rw [client_setupClientTun]
        exact hattempts
      · rw [client_setupClientTun]
        exact hbackoff
      · rw [client_setupClientTun, hattempts]
        exact le_max_right _ _

theorem run_onSchedule (S : Sodium) (config : VpnConfig) (secret : Key)
    (calls : List (ConnectTry × TunSetup)) :
    OnSchedule config (run (reconnectStep S config) (freshClient S secret) calls) := by
  refine run_invariant (I := OnSchedule config) (reconnectStep S config)
    (fun s call h => h.step call) ?_ calls
  exact ⟨trivial, rfl, rfl, le_max_right _ _⟩

/-- **The schedule of the attempts.**  After any calls of `attempt_reconnect` on a new client, and
for any limit: the backoff is between 1 and 60 seconds, the counter between 0 and the limit, and
the waits have doubled from one second on since the last `vpn_connect` that succeeded, up to 60
seconds.  The next call makes no attempt exactly if the limit is reached; then it leaves the
client as it is. -/
theorem reconnect_schedule (S : Sodium) (config : VpnConfig) (secret : Key)
    (calls : List (ConnectTry × TunSetup)) :
    let s := run (reconnectStep S config) (freshClient S secret) calls
    (1 ≤ s.vpn.client.backoffSeconds ∧ s.vpn.client.backoffSeconds ≤ 60) ∧
    (0 ≤ s.vpn.client.reconnectAttempts ∧
      s.vpn.client.reconnectAttempts ≤ max config.maxReconnectAttempts 0) ∧
    WaitsDouble s.attempts ∧
    ∀ (t : ConnectTry) (setup : TunSetup),
      ((attemptReconnect S config t setup s.vpn).2.1 = [] ↔
        config.maxReconnectAttempts ≤ s.vpn.client.reconnectAttempts) ∧
      ((attemptReconnect S config t setup s.vpn).2.1 = [] →
        attemptReconnect S config t setup s.vpn = (s.vpn, [], false)) := by
  intro s
  have h : OnSchedule config s := run_onSchedule S config secret calls
  refine ⟨?_, ⟨?_, h.limit⟩, h.waits, fun t setup => ?_⟩
  · have hpow : (1 : ℤ) ≤ 2 ^ consecutiveFailures s.attempts := one_le_pow₀ (by omega)
    rw [h.backoffSeconds]
    omega
  · rw [h.reconnectAttempts]
    exact Int.natCast_nonneg _
  · refine ⟨attemptReconnect_attempts_eq_nil, fun hrefused => ?_⟩
    exact attemptReconnect_refused (attemptReconnect_attempts_eq_nil.mp hrefused) t setup

/-! ## Attempts that all succeed -/

/-- All attempts were first attempts and have succeeded. -/
def AllConnected (attempts : List Attempt) : Prop := ∀ a ∈ attempts, a = ⟨1, true⟩

theorem AllConnected.consecutiveFailures {attempts : List Attempt} (h : AllConnected attempts) :
    consecutiveFailures attempts = 0 := by
  cases attempts with
  | nil => rfl
  | cons a earlier =>
      rw [h a List.mem_cons_self]
      rfl

theorem AllConnected.waitsDouble {attempts : List Attempt} (h : AllConnected attempts) :
    WaitsDouble attempts := by
  induction attempts with
  | nil => trivial
  | cons a earlier ih =>
      obtain ⟨ha, hearlier⟩ := List.forall_mem_cons.mp h
      refine ⟨?_, ih hearlier⟩
      rw [ha, AllConnected.consecutiveFailures hearlier]
      rfl

/-! ## The loop -/

/-- The loop goes on, or has been left for another reason than a lost connection: every attempt
has succeeded, and the counters are as `vpn_connect` resets them. -/
structure Steady (s : ClientLoop) : Prop where
  tunOpen : s.vpn.tunOpen = true
  attempts : AllConnected s.attempts
  reconnectAttempts : s.vpn.client.reconnectAttempts = 0
  backoffSeconds : s.vpn.client.backoffSeconds = 1

/-- The loop has been left because of one attempt that has failed. -/
def GaveUp (s : ClientLoop) : Prop :=
  ∃ earlier, s.attempts = ⟨1, false⟩ :: earlier ∧ AllConnected earlier

/-- If the turn has to reconnect, it gets an answer that is accepted. -/
def ReconnectsAnswered (S : Sodium) (config : VpnConfig) (s : ClientLoop) (t : ClientTurn) :
    Prop :=
  s.exit = none → t.running = true → s.vpn.client.connected = false →
    AcceptsAnswer S (clientUsername config) s.vpn.client t.connect

variable {S : Sodium} {config : VpnConfig}

theorem Steady.selectPhase {s : ClientLoop} (h : Steady s) (hexit : s.exit = none)
    (t : ClientTurn) :
    (selectPhase S config t s).exit ≠ some .connectionLost ∧
      Steady (selectPhase S config t s) := by
  rcases selectPhase_outcome S config t s with heq | ⟨client, heq, -, hre, hba, -⟩
  · rw [heq]
    exact ⟨by simp, h.tunOpen, h.attempts, h.reconnectAttempts, h.backoffSeconds⟩
  · rw [heq]
    exact ⟨by simp [hexit], h.tunOpen, h.attempts, hre.trans h.reconnectAttempts,
      hba.trans h.backoffSeconds⟩

/-- The first part of a turn that has to reconnect makes one attempt, with the first backoff; it
succeeds if the answer is accepted. -/
theorem Steady.reconnectPhase {s : ClientLoop} (h : Steady s)
    (hlost : s.vpn.client.connected = false) (hauto : config.autoReconnect ≠ 0)
    (hmax : 1 ≤ config.maxReconnectAttempts) (t : ClientTurn) :
    (AcceptsAnswer S (clientUsername config) s.vpn.client t.connect ∧
        (reconnectPhase S config t s).exit = none ∧ Steady (reconnectPhase S config t s)) ∨
      (¬ AcceptsAnswer S (clientUsername config) s.vpn.client t.connect ∧
        (reconnectPhase S config t s).exit = some .connectionLost ∧
        GaveUp (reconnectPhase S config t s)) := by
  unfold Vpn.reconnectPhase
  rw [if_neg (by simp [hlost]), if_pos hauto]
  have hout := attemptReconnect_outcome S config t.connect t.setup s.vpn
  generalize attemptReconnect S config t.connect t.setup s.vpn = r at hout
  cases hout with
  | refused hused =>
      rw [h.reconnectAttempts] at hused
      omega
  | failed _ hanswer _ _ =>
      rw [h.backoffSeconds]
      exact Or.inr ⟨hanswer, rfl, s.attempts, rfl, h.attempts⟩
  | connected _ hanswer _ hre hba _ =>
      rw [setupClientTun_open h.tunOpen, h.backoffSeconds]
      refine Or.inl ⟨hanswer, rfl, h.tunOpen, ?_, hre, hba⟩
      exact List.forall_mem_cons.mpr ⟨rfl, h.attempts⟩

/-- **One turn** of a loop that is not left for a lost connection: it stays so if the turn gets
the answer it needs, and gives up otherwise. -/
theorem Steady.step {s : ClientLoop} (h : Steady s) (hkept : s.exit ≠ some .connectionLost)
    (hauto : config.autoReconnect ≠ 0) (hmax : 1 ≤ config.maxReconnectAttempts)
    (t : ClientTurn) :
    (ReconnectsAnswered S config s t ∧
        (clientLoopStep S config s t).exit ≠ some .connectionLost ∧
        Steady (clientLoopStep S config s t)) ∨
      (¬ ReconnectsAnswered S config s t ∧
        (clientLoopStep S config s t).exit = some .connectionLost ∧
        GaveUp (clientLoopStep S config s t)) := by
  cases hexit : s.exit with
  | some reason =>
      rw [clientLoopStep_left hexit t]
      exact Or.inl ⟨fun hnone => absurd (hexit.symm.trans hnone) (by simp), hkept, h⟩
  | none =>
      cases hrun : t.running with
      | false =>
          rw [clientLoopStep_signal hexit hrun]
          exact Or.inl ⟨fun _ hrunning => absurd (hrun.symm.trans hrunning) (by simp), by simp,
            h.tunOpen, h.attempts, h.reconnectAttempts, h.backoffSeconds⟩
      | true =>
          rw [clientLoopStep_running hexit hrun]
          cases hconnected : s.vpn.client.connected with
          | true =>
              rw [reconnectPhase_connected hconnected t, if_neg (by simp [hexit])]
              exact Or.inl ⟨fun _ _ hlost => absurd (hconnected.symm.trans hlost) (by simp),
                h.selectPhase hexit t⟩
          | false =>
              rcases h.reconnectPhase (S := S) hconnected hauto hmax t with
                ⟨hanswer, hnone, hs⟩ | ⟨hanswer, hlost, hgave⟩
              · rw [if_neg (by simp [hnone])]
                exact Or.inl ⟨fun _ _ _ => hanswer, hs.selectPhase hnone t⟩
              · rw [if_pos (by simp [hlost])]
                exact Or.inr ⟨fun hall => hanswer (hall hexit hrun hconnected), hlost, hgave⟩

/-- A loop that has been left stays as it is. -/
theorem run_left {s : ClientLoop} {reason : ExitReason} (h : s.exit = some reason)
    (turns : List ClientTurn) : run (clientLoopStep S config) s turns = s := by
  induction turns with
  | nil => rfl
  | cons t turns ih =>
      show run (clientLoopStep S config) (clientLoopStep S config s t) turns = s
      rw [clientLoopStep_left h t]
      exact ih

/-- **A run**: it is steady if every reconnection is answered, and gives up otherwise. -/
theorem Steady.run {s : ClientLoop} (h : Steady s) (hkept : s.exit ≠ some .connectionLost)
    (hauto : config.autoReconnect ≠ 0) (hmax : 1 ≤ config.maxReconnectAttempts)
    (turns : List ClientTurn) :
    (Along (clientLoopStep S config) (ReconnectsAnswered S config) s turns ∧
        (run (clientLoopStep S config) s turns).exit ≠ some .connectionLost ∧
        Steady (run (clientLoopStep S config) s turns)) ∨
      (¬ Along (clientLoopStep S config) (ReconnectsAnswered S config) s turns ∧
        (run (clientLoopStep S config) s turns).exit = some .connectionLost ∧
        GaveUp (run (clientLoopStep S config) s turns)) := by
  -- Induction on the turns: the first unanswered reconnection ends the run.
  induction turns generalizing s with
  | nil => exact Or.inl ⟨trivial, hkept, h⟩
  | cons t turns ih =>
      rcases h.step (S := S) hkept hauto hmax t with
        ⟨hanswered, hkept', hs⟩ | ⟨hunanswered, hlost, hgave⟩
      · rcases ih hs hkept' with ⟨halong, hend⟩ | ⟨hnot, hend⟩
        · exact Or.inl ⟨⟨hanswered, halong⟩, hend⟩
        · exact Or.inr ⟨fun halong => hnot halong.2, hend⟩
      · have hend : Runs.run (clientLoopStep S config) s (t :: turns)
            = clientLoopStep S config s t := run_left hlost turns
        rw [hend]
        exact Or.inr ⟨fun halong => hunanswered halong.1, hlost, hgave⟩

/-- After a start the loop is steady. -/
theorem startClient_steady {secret : Key} {t : ConnectTry} {setup : TunSetup} {s : ClientLoop}
    (h : startClient S config secret t setup = some s) : s.exit = none ∧ Steady s := by
  obtain ⟨client, hconnect, rfl⟩ := startClient_eq_some h
  obtain ⟨-, hre, hba, -⟩ := connectOnce_true hconnect
  exact ⟨rfl, rfl, fun a ha => absurd ha List.not_mem_nil, hre, hba⟩

/-- A loop that is left because of a lost connection has made one attempt since the last
success. -/
theorem GaveUp.consecutiveFailures {s : ClientLoop} (h : GaveUp s) :
    consecutiveFailures s.attempts = 1 := by
  obtain ⟨earlier, heq, hearlier⟩ := h
  rw [heq]
  show Vpn.consecutiveFailures earlier + 1 = 1
  rw [hearlier.consecutiveFailures]

theorem GaveUp.waitsDouble {s : ClientLoop} (h : GaveUp s) : WaitsDouble s.attempts := by
  obtain ⟨earlier, heq, hearlier⟩ := h
  rw [heq]
  refine ⟨?_, hearlier.waitsDouble⟩
  rw [hearlier.consecutiveFailures]
  rfl

/-! ## When the policy is followed -/

/-- **When the policy is followed**: when one attempt is all that is allowed, or when every
reconnection gets an answer that is accepted. -/
theorem followsPolicy_iff (S : Sodium) (config : VpnConfig)
    (hauto : config.autoReconnect ≠ 0) (hmax : 1 ≤ config.maxReconnectAttempts)
    {secret : Key} {t : ConnectTry} {setup : TunSetup} {s : ClientLoop}
    (hstart : startClient S config secret t setup = some s) (turns : List ClientTurn) :
    FollowsPolicy config (run (clientLoopStep S config) s turns) ↔
      config.maxReconnectAttempts = 1 ∨
        Along (clientLoopStep S config) (ReconnectsAnswered S config) s turns := by
  obtain ⟨hexit, hsteady⟩ := startClient_steady hstart
  rcases hsteady.run (S := S) (by simp [hexit]) hauto hmax turns with
    ⟨halong, hkept, hend⟩ | ⟨hnot, hlost, hgave⟩
  · constructor
    · exact fun _ => Or.inr halong
    · exact fun _ => ⟨hend.attempts.waitsDouble, fun h => absurd h hkept⟩
  · constructor
    · intro h
      have hle := h.lost hlost
      rw [hgave.consecutiveFailures] at hle
      exact Or.inl (le_antisymm hle hmax)
    · intro h
      refine ⟨hgave.waitsDouble, fun _ => ?_⟩
      rw [hgave.consecutiveFailures, h.resolve_right hnot]
      rfl

/-- With a limit of one the client gives up after one attempt, as it should; with a limit of ten
it goes on after a reconnection that is answered. -/
theorem followsPolicy_answered :
    FollowsPolicy (sampleConfig 1) (run (clientLoopStep sampleSodium (sampleConfig 1))
        (sampleLoop (sampleConfig 1) (sampleReply firstIp))
        [sampleTurn none 61, sampleTurn none 61]) ∧
      FollowsPolicy (sampleConfig 10) (run (clientLoopStep sampleSodium (sampleConfig 10))
        (sampleLoop (sampleConfig 10) (sampleReply firstIp))
        [sampleTurn none 61, sampleTurn (some (sampleReply firstIp)) 61]) := by
  constructor
  · exact (followsPolicy_iff sampleSodium (sampleConfig 1) (by decide) (by decide)
      (show sampleStart (sampleConfig 1) (sampleReply firstIp)
        = some (sampleLoop (sampleConfig 1) (sampleReply firstIp)) from rfl)
      [sampleTurn none 61, sampleTurn none 61]).mpr (Or.inl rfl)
  · refine (followsPolicy_iff sampleSodium (sampleConfig 10) (by decide) (by decide)
      (show sampleStart (sampleConfig 10) (sampleReply firstIp)
        = some (sampleLoop (sampleConfig 10) (sampleReply firstIp)) from rfl)
      [sampleTurn none 61, sampleTurn (some (sampleReply firstIp)) 61]).mpr (Or.inr ?_)
    refine ⟨fun _ _ hlost => absurd hlost (by decide +kernel), fun _ _ _ => ?_, trivial⟩
    exact ⟨rfl, rfl, rfl, by decide +kernel, by decide +kernel, by decide +kernel⟩

/-- **With a limit of ten the client gives up after one attempt as well.** -/
theorem lost_after_one_attempt :
    let s := run (clientLoopStep sampleSodium (sampleConfig 10))
      (sampleLoop (sampleConfig 10) (sampleReply firstIp))
      [sampleTurn none 61, sampleTurn none 61]
    s.exit = some .connectionLost ∧ s.attempts = [⟨1, false⟩] := by
  decide +kernel

end Vpn
