/-
# A registry of accounts

Reusable specification of services at which accounts are registered.  An account has an id, a
secret, and data to be shown; it is registered once under a key and stays.  `Step` says which
answers such a service may give: the acts are requests together with their answers.  Who is let
in is greeted with a part `greet` of the data.

* `lookup_iff` reads the table of a registry off the acts that have led to it;
* `authenticated_iff` says when a request with a key and a secret is let in: exactly if an
  account was registered under the key, with the secret;
* `id_injective` says that an id is given once.
-/
import CloudVpn.Traces
import Mathlib.Logic.Function.Basic

open Traces

namespace Registry

variable {κ ι ν ς β : Type}

/-- An account. -/
structure Account (ι ν ς : Type) where
  id : ι
  data : ν
  secret : ς

/-- The accounts by their keys. -/
abbrev Table (κ ι ν ς : Type) := κ → Option (Account ι ν ς)

/-- The registry without accounts. -/
def empty : Table κ ι ν ς := fun _ => none

/-- The requests with their answers. -/
inductive Act (κ ι ν ς β : Type) where
  | registered (key : κ) (account : Account ι ν ς)
  | taken (key : κ)
  | authenticated (key : κ) (secret : ς) (id : ι) (greeting : β)
  | denied (key : κ) (secret : ς)
  | unknown (key : κ) (secret : ς)
  | found (id : ι) (data : ν)
  | missing (id : ι)
  | checked (key : κ) (used : Bool)

/-- The answers that a registry may give. -/
inductive Step [DecidableEq κ] (greet : ν → β) (t : Table κ ι ν ς) :
    Act κ ι ν ς β → Table κ ι ν ς → Prop
  | registered {key : κ} {account : Account ι ν ς} (hfree : t key = none)
      (hfresh : ∀ key' account', t key' = some account' → account'.id ≠ account.id) :
      Step greet t (.registered key account) (Function.update t key (some account))
  | taken {key : κ} {account : Account ι ν ς} (h : t key = some account) :
      Step greet t (.taken key) t
  | authenticated {key : κ} {account : Account ι ν ς} (h : t key = some account) :
      Step greet t (.authenticated key account.secret account.id (greet account.data)) t
  | denied {key : κ} {secret : ς} {account : Account ι ν ς} (h : t key = some account)
      (hsecret : account.secret ≠ secret) : Step greet t (.denied key secret) t
  | unknown {key : κ} {secret : ς} (h : t key = none) : Step greet t (.unknown key secret) t
  | found {key : κ} {account : Account ι ν ς} (h : t key = some account) :
      Step greet t (.found account.id account.data) t
  | missing {id : ι} (h : ∀ key account, t key = some account → account.id ≠ id) :
      Step greet t (.missing id) t
  | checked {key : κ} {used : Bool} (h : used = (t key).isSome) : Step greet t (.checked key used) t

/-- The act is an answer to a request with a key and a secret. -/
def Act.Asks (key : κ) (secret : ς) : Act κ ι ν ς β → Prop
  | .authenticated key' secret' _ _ => key' = key ∧ secret' = secret
  | .denied key' secret' => key' = key ∧ secret' = secret
  | .unknown key' secret' => key' = key ∧ secret' = secret
  | _ => False

variable [DecidableEq κ] {greet : ν → β} {t t' : Table κ ι ν ς} {acts : List (Act κ ι ν ς β)}
  {key : κ} {account : Account ι ν ς}

/-- An act changes the table by what it registers. -/
theorem Step.lookup_iff {act : Act κ ι ν ς β} (h : Step greet t act t') :
    t' key = some account ↔ t key = some account ∨ act = .registered key account := by
  cases h with
  | @registered key' account' hfree _ =>
      by_cases hkey : key = key'
      · subst hkey
        simp [hfree]
      · rw [Function.update_of_ne hkey]
        refine ⟨Or.inl, fun h => h.resolve_right fun heq => ?_⟩
        cases heq
        exact hkey rfl
  | _ => simp

/-- **The table of a registry**, read off the acts. -/
theorem lookup_iff (h : LabelledRun (Step greet) t acts t') :
    t' key = some account ↔ t key = some account ∨ .registered key account ∈ acts := by
  induction h with
  | nil t => simp
  | cons hstep _ ih =>
      rw [ih, hstep.lookup_iff, List.mem_cons, or_assoc, eq_comm (b := Act.registered key account)]

theorem lookup_of_empty (h : LabelledRun (Step greet) empty acts t) :
    t key = some account ↔ .registered key account ∈ acts := by
  rw [lookup_iff h]
  exact ⟨fun hor => hor.resolve_left (fun hnone => nomatch hnone), Or.inr⟩

/-- **When a request is let in.** -/
theorem authenticated_iff {before after : List (Act κ ι ν ς β)} {act : Act κ ι ν ς β}
    (h : LabelledRun (Step greet) empty (before ++ act :: after) t) {secret : ς}
    (hasks : act.Asks key secret) {id : ι} {greeting : β} :
    act = .authenticated key secret id greeting ↔
      ∃ data, greet data = greeting ∧ .registered key ⟨id, data, secret⟩ ∈ before := by
  obtain ⟨t₁, hbefore, hrest⟩ := labelledRun_append.mp h
  simp only [← lookup_of_empty hbefore]
  cases hrest with
  | cons hstep _ =>
      cases hstep with
      | @authenticated key' account' hkey =>
          obtain ⟨rfl, rfl⟩ := hasks
          obtain ⟨id', data', secret'⟩ := account'
          simp only [hkey, Option.some.injEq, Account.mk.injEq, Act.authenticated.injEq, true_and,
            and_true]
          constructor
          · rintro ⟨rfl, rfl⟩
            exact ⟨data', rfl, rfl, rfl⟩
          · rintro ⟨data, rfl, rfl, rfl⟩
            exact ⟨rfl, rfl⟩
      | denied hkey hsecret =>
          obtain ⟨rfl, rfl⟩ := hasks
          refine ⟨(fun heq => nomatch heq), ?_⟩
          rintro ⟨data, -, hsome⟩
          refine absurd ?_ hsecret
          rw [Option.some.inj (hkey.symm.trans hsome)]
      | unknown hnone =>
          obtain ⟨rfl, rfl⟩ := hasks
          exact ⟨(fun heq => nomatch heq), fun ⟨_, _, hsome⟩ => nomatch hnone.symm.trans hsome⟩
      | _ => exact hasks.elim

/-- **An id is given once.** -/
theorem id_injective (h : LabelledRun (Step greet) empty acts t) {key' : κ}
    {account' : Account ι ν ς}
    (hreg : .registered key account ∈ acts) (hreg' : .registered key' account' ∈ acts)
    (hid : account.id = account'.id) : key = key' ∧ account = account' := by
  let Injective (t : Table κ ι ν ς) : Prop := ∀ k k' a a', t k = some a → t k' = some a' →
    a.id = a'.id → k = k'
  have hstep : ∀ {t t' : Table κ ι ν ς} {act}, Step greet t act t' → Injective t →
      Injective t' := by
    intro t t' act hact ht
    cases hact with
    | @registered new added hfree hfresh =>
        intro k k' a a' hk hk' heq
        by_cases hnew : k = new <;> by_cases hnew' : k' = new
        · rw [hnew, hnew']
        · subst hnew
          rw [Function.update_self, Option.some.injEq] at hk
          rw [Function.update_of_ne hnew'] at hk'
          exact absurd (hk ▸ heq.symm) (hfresh k' a' hk')
        · subst hnew'
          rw [Function.update_self, Option.some.injEq] at hk'
          rw [Function.update_of_ne hnew] at hk
          exact absurd (hk' ▸ heq) (hfresh k a hk)
        · rw [Function.update_of_ne hnew] at hk
          rw [Function.update_of_ne hnew'] at hk'
          exact ht k k' a a' hk hk' heq
    | _ => exact ht
  have hrun : ∀ {t t' : Table κ ι ν ς} {acts}, LabelledRun (Step greet) t acts t' → Injective t →
      Injective t' := by
    intro t t' acts hacts ht
    induction hacts with
    | nil => exact ht
    | cons hact _ ih => exact ih (hstep hact ht)
  have hinjective : Injective t := hrun h fun _ _ _ _ hk => nomatch hk
  have hkey := (lookup_of_empty h).mpr hreg
  have hkey' := (lookup_of_empty h).mpr hreg'
  obtain rfl := hinjective key key' account account' hkey hkey' hid
  exact ⟨rfl, Option.some.inj (hkey.symm.trans hkey')⟩

end Registry
