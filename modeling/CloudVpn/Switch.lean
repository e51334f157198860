/-
# A switch of sealed sessions

What a server of sealed sessions is for, in terms of its own.  Peers of any kind hold sessions; a
session has an address and a key.  A packet for the address of a session is sealed with its key
and goes to its peer; what a peer sends is opened with the key of its session.  A session ends
when its peer leaves or has been silent for too long.

The switch is a relation (`Step`): it may choose the address that it gives to a new peer, as long
as nobody holds it.

`survives` is what a peer can rely on: as long as it neither leaves nor connects again and is heard
from in time, its session keeps its address and its key, whatever the other peers do.
-/
import CloudVpn.Traces
import Mathlib.Algebra.Order.Ring.Int
import Mathlib.Data.Option.Basic
import Mathlib.Logic.Function.Basic

open Traces

namespace Switch

/-! ## The switch -/

/-- What a switch is told about its keys and packets. -/
structure Scheme (PublicKey Key Nonce Address Packet Sealed : Type) where
  /-- The key of a session with the owner of a public key. -/
  derive : PublicKey → Option Key
  encrypt : Nonce → Key → Packet → Option Sealed
  decrypt : Key → Sealed → Option Packet
  /-- The address that a packet is for. -/
  dest : Packet → Option Address
  /-- How long a peer may be silent. -/
  timeout : ℤ
  /-- How many sessions there can be. -/
  capacity : ℕ

/-- The session of a peer. -/
structure Session (Address Key : Type) where
  address : Address
  key : Key
  lastSeen : ℤ
  deriving DecidableEq

variable {Peer PublicKey Key Nonce Address Packet Sealed : Type}

/-- What can reach a switch. -/
inductive Input (Peer PublicKey Nonce Packet Sealed : Type) where
  | connect (peer : Peer) (publicKey : PublicKey) (now : ℤ)
  | data (peer : Peer) (content : Sealed) (now : ℤ)
  | ping (peer : Peer) (now : ℤ)
  | disconnect (peer : Peer)
  /-- A packet to forward, and whether the network takes it. -/
  | packet (packet : Packet) (nonce : Nonce) (now : ℤ) (taken : Bool)
  | sweep (now : ℤ)
  | noise

/-- What a switch puts out. -/
inductive Output (Peer Address Packet Sealed : Type) where
  | accept (peer : Peer) (address : Address)
  | pong (peer : Peer)
  | data (peer : Peer) (content : Sealed)
  | plain (packet : Packet)
  deriving DecidableEq

/-- The peer whose time is `now`. -/
def touch [DecidableEq Peer] (sessions : Peer → Option (Session Address Key)) (peer : Peer)
    (now : ℤ) : Peer → Option (Session Address Key) :=
  Function.update sessions peer
    ((sessions peer).map fun session => { session with lastSeen := now })

section
variable [DecidableEq Peer] (scheme : Scheme PublicKey Key Nonce Address Packet Sealed)

/-- The steps of a switch. -/
inductive Step (sessions : Peer → Option (Session Address Key)) :
    Input Peer PublicKey Nonce Packet Sealed → (Peer → Option (Session Address Key)) →
    List (Output Peer Address Packet Sealed) → Prop
  /-- There is no room, not even for a peer that has a session. -/
  | refused (peer : Peer) (publicKey : PublicKey) (now : ℤ) {peers : List Peer}
      (hdistinct : peers.Nodup) (hfull : scheme.capacity ≤ peers.length)
      (hheld : ∀ other ∈ peers, (sessions other).isSome) :
      Step sessions (.connect peer publicKey now) sessions []
  | accepted {peer : Peer} {publicKey : PublicKey} {key : Key} {address : Address} (now : ℤ)
      (hnew : sessions peer = none)
      (hfree : ∀ other session, sessions other = some session → session.address ≠ address)
      (hkey : scheme.derive publicKey = some key) :
      Step sessions (.connect peer publicKey now)
        (Function.update sessions peer (some ⟨address, key, now⟩)) [.accept peer address]
  /-- A peer that connects again keeps its address and gets the new key. -/
  | renewed {peer : Peer} {publicKey : PublicKey} {key : Key} {session : Session Address Key}
      (now : ℤ) (hold : sessions peer = some session) (hkey : scheme.derive publicKey = some key) :
      Step sessions (.connect peer publicKey now)
        (Function.update sessions peer (some ⟨session.address, key, now⟩))
        [.accept peer session.address]
  /-- A peer that offers a key that cannot be used loses its session. -/
  | failed {peer : Peer} {publicKey : PublicKey} (now : ℤ)
      (hkey : scheme.derive publicKey = none) :
      Step sessions (.connect peer publicKey now) (Function.update sessions peer none) []
  | opened {peer : Peer} {content : Sealed} {session : Session Address Key} {packet : Packet}
      (now : ℤ) (hold : sessions peer = some session)
      (hopen : scheme.decrypt session.key content = some packet) :
      Step sessions (.data peer content now) (touch sessions peer now) [.plain packet]
  | rejected {peer : Peer} {content : Sealed} {session : Session Address Key} (now : ℤ)
      (hold : sessions peer = some session)
      (hopen : scheme.decrypt session.key content = none) :
      Step sessions (.data peer content now) (touch sessions peer now) []
  | unknown {peer : Peer} (content : Sealed) (now : ℤ) (hnone : sessions peer = none) :
      Step sessions (.data peer content now) sessions []
  | ponged (peer : Peer) (now : ℤ) :
      Step sessions (.ping peer now) (touch sessions peer now) [.pong peer]
  | left (peer : Peer) : Step sessions (.disconnect peer) (Function.update sessions peer none) []
  | forwarded {peer : Peer} {packet : Packet} {nonce : Nonce} {session : Session Address Key}
      {content : Sealed} (now : ℤ) (taken : Bool) (hold : sessions peer = some session)
      (hdest : scheme.dest packet = some session.address)
      (hseal : scheme.encrypt nonce session.key packet = some content) :
      Step sessions (.packet packet nonce now taken)
        (if taken then touch sessions peer now else sessions) [.data peer content]
  | unsealed {peer : Peer} {packet : Packet} {nonce : Nonce} {session : Session Address Key}
      (now : ℤ) (taken : Bool) (hold : sessions peer = some session)
      (hdest : scheme.dest packet = some session.address)
      (hseal : scheme.encrypt nonce session.key packet = none) :
      Step sessions (.packet packet nonce now taken) sessions []
  | undeliverable {packet : Packet} (nonce : Nonce) (now : ℤ) (taken : Bool)
      (hnobody : ∀ peer session, sessions peer = some session →
        scheme.dest packet ≠ some session.address) :
      Step sessions (.packet packet nonce now taken) sessions []
  | swept (now : ℤ) :
      Step sessions (.sweep now) (fun peer => (sessions peer).filter fun session =>
        now - session.lastSeen ≤ scheme.timeout) []
  | ignored : Step sessions .noise sessions []

end

/-! ## What a peer can rely on -/

/-- The peer neither connects nor leaves, and every sweep comes in time after it was last heard
from.  It was last heard from at `t` or later. -/
def Heard (timeout : ℤ) (peer : Peer) :
    ℤ → List (Input Peer PublicKey Nonce Packet Sealed) → Prop
  | _, [] => True
  | t, .connect other _ _ :: inputs => other ≠ peer ∧ Heard timeout peer t inputs
  | t, .disconnect other :: inputs => other ≠ peer ∧ Heard timeout peer t inputs
  | t, .data other _ now :: inputs =>
      (other = peer → Heard timeout peer now inputs) ∧
        (other ≠ peer → Heard timeout peer t inputs)
  | t, .ping other now :: inputs =>
      (other = peer → Heard timeout peer now inputs) ∧
        (other ≠ peer → Heard timeout peer t inputs)
  -- A packet for the peer counts as a sign of life too.
  | t, .packet _ _ now _ :: inputs => Heard timeout peer (min t now) inputs
  | t, .sweep now :: inputs => now - t ≤ timeout ∧ Heard timeout peer t inputs
  | t, .noise :: inputs => Heard timeout peer t inputs

/-- The peer has a session with the address and the key, and it was last heard from at `t` or
later. -/
def Holds (sessions : Peer → Option (Session Address Key)) (peer : Peer) (address : Address)
    (key : Key) (t : ℤ) : Prop :=
  ∃ lastSeen, sessions peer = some ⟨address, key, lastSeen⟩ ∧ t ≤ lastSeen

section
variable {sessions sessions' : Peer → Option (Session Address Key)} {peer other : Peer}
  {address : Address} {key : Key} {t : ℤ}

theorem Holds.mono (h : Holds sessions peer address key t) {t' : ℤ} (hle : t' ≤ t) :
    Holds sessions peer address key t' := by
  obtain ⟨lastSeen, hold, hseen⟩ := h
  exact ⟨lastSeen, hold, hle.trans hseen⟩

variable [DecidableEq Peer] {scheme : Scheme PublicKey Key Nonce Address Packet Sealed}

theorem Holds.update (h : Holds sessions peer address key t) (hne : other ≠ peer)
    (session : Option (Session Address Key)) :
    Holds (Function.update sessions other session) peer address key t := by
  obtain ⟨lastSeen, hold, hseen⟩ := h
  exact ⟨lastSeen, by rw [Function.update_of_ne hne.symm]; exact hold, hseen⟩

theorem Holds.touch_self (h : Holds sessions peer address key t) (now : ℤ) :
    Holds (touch sessions peer now) peer address key now := by
  obtain ⟨lastSeen, hold, -⟩ := h
  refine ⟨now, ?_, le_refl now⟩
  unfold touch
  rw [Function.update_self, hold]
  rfl

/-- **One step.** -/
theorem Holds.step (h : Holds sessions peer address key t)
    {input : Input Peer PublicKey Nonce Packet Sealed}
    {outputs : List (Output Peer Address Packet Sealed)}
    (hstep : Step scheme sessions input sessions' outputs)
    {inputs : List (Input Peer PublicKey Nonce Packet Sealed)}
    (hheard : Heard scheme.timeout peer t (input :: inputs)) :
    ∃ t', Holds sessions' peer address key t' ∧ Heard scheme.timeout peer t' inputs := by
  cases hstep with
  | refused other _ _ _ _ _ => exact ⟨t, h, hheard.2⟩
  | accepted now _ _ _ => exact ⟨t, h.update hheard.1 _, hheard.2⟩
  | renewed now _ _ => exact ⟨t, h.update hheard.1 _, hheard.2⟩
  | failed now _ => exact ⟨t, h.update hheard.1 _, hheard.2⟩
  | @opened other _ _ _ now _ _ =>
      by_cases hother : other = peer
      · subst hother
        exact ⟨now, h.touch_self now, hheard.1 rfl⟩
      · exact ⟨t, h.update hother _, hheard.2 hother⟩
  | @rejected other _ _ now _ _ =>
      by_cases hother : other = peer
      · subst hother
        exact ⟨now, h.touch_self now, hheard.1 rfl⟩
      · exact ⟨t, h.update hother _, hheard.2 hother⟩
  | @unknown other _ now hnone =>
      have hother : other ≠ peer := by
        rintro rfl
        obtain ⟨lastSeen, hold, -⟩ := h
        rw [hnone] at hold
        exact absurd hold (by simp)
      exact ⟨t, h, hheard.2 hother⟩
  | ponged other now =>
      by_cases hother : other = peer
      · subst hother
        exact ⟨now, h.touch_self now, hheard.1 rfl⟩
      · exact ⟨t, h.update hother _, hheard.2 hother⟩
  | left other => exact ⟨t, h.update hheard.1 _, hheard.2⟩
  | @forwarded other _ _ _ _ now taken _ _ _ =>
      refine ⟨min t now, ?_, hheard⟩
      cases taken with
      | false => exact h.mono (min_le_left t now)
      | true =>
          by_cases hother : other = peer
          · subst hother
            exact (h.touch_self now).mono (min_le_right t now)
          · exact (h.update hother _).mono (min_le_left t now)
  | unsealed now _ _ _ _ => exact ⟨_, h.mono (min_le_left t now), hheard⟩
  | undeliverable _ now _ _ => exact ⟨_, h.mono (min_le_left t now), hheard⟩
  | swept now =>
      obtain ⟨lastSeen, hold, hseen⟩ := h
      refine ⟨t, ⟨lastSeen, ?_, hseen⟩, hheard.2⟩
      have hyoung := hheard.1
      have hkept : now - lastSeen ≤ scheme.timeout := by omega
      show (sessions peer).filter _ = _
      rw [hold, Option.filter_some_pos (by simpa using hkept)]
  | ignored => exact ⟨t, h, hheard⟩

/-- **What a peer can rely on.** -/
theorem survives {inputs : List (Input Peer PublicKey Nonce Packet Sealed)}
    {outputs : List (Output Peer Address Packet Sealed)}
    (hrun : SpecRun (Step scheme) sessions inputs sessions' outputs)
    (h : Holds sessions peer address key t) (hheard : Heard scheme.timeout peer t inputs) :
    ∃ t', Holds sessions' peer address key t' := by
  -- Induction on the run: what has been heard of the peer goes along with its session.
  induction hrun generalizing t with
  | nil => exact ⟨t, h⟩
  | cons hstep _ ih =>
      obtain ⟨t', h', hheard'⟩ := h.step hstep hheard
      exact ih h' hheard'

end

end Switch
