/-
# The sessions of the members

What the pages of `PageController` show to a session, in every interleaving of the requests of
`Accounts`.  A session has its attributes from logins alone, and none after its end:

* `pages_authenticated`: a page for a member is shown to a session only after a login in this
  session, with the number and the password of the member's sign-up, and only before the session
  has ended;
* `page_name_matches`: the name on the dashboard is the name of the member, as long as no login
  is about to write to a session that another request is using.  A login writes the id and the
  name in two steps, and the dashboard reads them in two steps.
-/
import CloudVpn.AccountRegistry

open Effects Interleaving Registry Runs Traces

namespace Cloud

/-! ## What a step does to the sessions -/

/-- The session that a page was shown to, or that has ended. -/
def Decision.ofSession : Decision → Option ℕ
  | .page _ sid _ => some sid
  | .ended sid => some sid
  | _ => none

/-- A request between its two uses of a session: the session, and the id that the first one has
written or read. -/
def Visit.midway : Visit → Option (ℕ × ℕ)
  | .settingName _ sid response => some (sid, response.memberId)
  | .readingName sid memberId => some (sid, memberId)
  | _ => none

/-- What a step without a session does: it may open a new one. -/
structure Untouched (a : Accounts) (t t' : Visit) (a' : Accounts) : Prop where
  sessions : a'.sessions = a.sessions ∨ a'.sessions = a.sessions ++ [some ⟨none, none⟩]
  midway : t'.midway = none
  said : ∀ d ∈ t'.said, d ∈ t.said ∨ d.ofSession = none

section
variable {encoder : PasswordEncoder} {collate : String → String} {a a' : Accounts} {t t' : Visit}
  {sid : ℕ} {session : Session}

theorem getSession_sessions (cookie : Option ℕ) :
    (a.getSession cookie).2.sessions = a.sessions ∨
      (a.getSession cookie).2.sessions = a.sessions ++ [some ⟨none, none⟩] := by
  unfold Accounts.getSession
  split
  · exact Or.inl rfl
  · exact Or.inr rfl

theorem ofSession_singleton {d : Decision} (h : d.ofSession = none) :
    ∀ d' ∈ [d], d'.ofSession = none := by
  intro d' hd'
  rw [List.mem_singleton.mp hd']
  exact h

theorem arrive_untouched (call : MemberCall) (a : Accounts) :
    Untouched a (.arrived call) (arrive collate call a).1 (arrive collate call a).2 := by
  have hkept : ∀ t' : Visit, t'.midway = none → (∀ d ∈ t'.said, d.ofSession = none) →
      Untouched a (.arrived call) t' a :=
    fun t' hmidway hsaid => ⟨Or.inl rfl, hmidway, fun d hd => Or.inr (hsaid d hd)⟩
  cases call with
  | signup request salt =>
      unfold arrive
      dsimp only
      split_ifs
      · split
        · exact hkept _ rfl (fun d hd => nomatch hd)
        · exact hkept _ rfl (ofSession_singleton rfl)
      · exact hkept _ rfl (fun d hd => nomatch hd)
  | login request cookie =>
      unfold arrive
      dsimp only
      split_ifs
      · exact ⟨getSession_sessions cookie, rfl, fun d hd => nomatch hd⟩
      · exact hkept _ rfl (fun d hd => nomatch hd)
  | getMemberInfo memberId => exact hkept _ rfl (ofSession_singleton rfl)
  | checkStudentNumber studentNumber => exact hkept _ rfl (ofSession_singleton rfl)
  | page page cookie => exact ⟨getSession_sessions cookie, rfl, fun d hd => nomatch hd⟩
  | logout cookie => exact ⟨getSession_sessions cookie, rfl, fun d hd => nomatch hd⟩
  | expire sid => exact hkept _ rfl (fun d hd => nomatch hd)

theorem register_sessions (request : SignupRequest) (salt : ℕ) (a : Accounts) :
    (final ((MemberService.register encoder collate request salt).run a)).sessions
      = a.sessions := by
  have hregister : Registered encoder collate request salt a _ := register_outcome request salt a
  generalize (MemberService.register encoder collate request salt).run a = result at hregister
  cases hregister <;> rfl

/-- **Every step without a session.** -/
theorem visit_untouched (ht : t.touches = none) :
    Untouched a t (t.next encoder collate a).1 (t.next encoder collate a).2 := by
  cases t with
  | arrived call => exact arrive_untouched call a
  | registering request salt =>
      exact ⟨Or.inl (register_sessions request salt a), rfl,
        fun d hd => Or.inr (ofSession_singleton rfl d hd)⟩
  | loggingIn request sid =>
      unfold Visit.next
      dsimp only
      split
      · exact ⟨Or.inl rfl, rfl, fun d hd => Or.inr (ofSession_singleton rfl d hd)⟩
      · exact ⟨Or.inl rfl, rfl, fun d hd => Or.inr (ofSession_singleton rfl d hd)⟩
  | done decision => exact ⟨Or.inl rfl, rfl, fun d hd => Or.inl hd⟩
  | _ => nomatch ht

/-- **Every step** uses one session or none. -/
theorem visit_cases (encoder : PasswordEncoder) (collate : String → String) (t : Visit)
    (a : Accounts) :
    (t.touches = none ∧
        Untouched a t (t.next encoder collate a).1 (t.next encoder collate a).2) ∨
      ∃ sid, t.touches = some sid ∧
        Touched a sid t (t.next encoder collate a).1 (t.next encoder collate a).2 := by
  cases htouches : t.touches with
  | none => exact Or.inl ⟨rfl, visit_untouched htouches⟩
  | some sid => exact Or.inr ⟨sid, rfl, visit_touched htouches⟩

/-! ## Sessions that live and sessions that have ended -/

theorem lt_of_session (h : a.session sid = some session) : sid < a.sessions.length := by
  by_contra hge
  unfold Accounts.session at h
  rw [List.getElem?_eq_none (Nat.le_of_not_lt hge)] at h
  nomatch h

theorem session_setSession_self (h : sid < a.sessions.length) (new : Option Session) :
    (a.setSession sid new).session sid = new := by
  unfold Accounts.session Accounts.setSession
  rw [List.getElem?_set_self h]
  rfl

theorem session_setSession_ne {sid' : ℕ} (h : sid' ≠ sid) (new : Option Session) :
    (a.setSession sid new).session sid' = a.session sid' := by
  unfold Accounts.session Accounts.setSession
  rw [List.getElem?_set_ne (Ne.symm h)]

namespace Untouched

/-- A session that is there stays as it is. -/
theorem session_eq (h : Untouched a t t' a') (hlt : sid < a.sessions.length) :
    a'.session sid = a.session sid := by
  unfold Accounts.session
  rcases h.sessions with hsame | hnew
  · rw [hsame]
  · rw [hnew, List.getElem?_append_left hlt]

theorem length_le (h : Untouched a t t' a') : a.sessions.length ≤ a'.sessions.length := by
  rcases h.sessions with hsame | hnew
  · rw [hsame]
  · rw [hnew, List.length_append]
    exact Nat.le_add_right _ _

/-- A session that lives has lived before, or it is new. -/
theorem session_cases (h : Untouched a t t' a') (hsession : a'.session sid = some session) :
    a.session sid = some session ∨ session = ⟨none, none⟩ := by
  rcases Nat.lt_or_ge sid a.sessions.length with hlt | hge
  · rw [h.session_eq hlt] at hsession
    exact Or.inl hsession
  · right
    unfold Accounts.session at hsession
    rcases h.sessions with hsame | hnew
    · rw [hsame, List.getElem?_eq_none hge] at hsession
      nomatch hsession
    · rw [hnew, List.getElem?_append_right hge] at hsession
      cases hnth : sid - a.sessions.length with
      | zero =>
          rw [hnth] at hsession
          exact (Option.some.inj hsession).symm
      | succ n =>
          rw [hnth] at hsession
          nomatch hsession

end Untouched

namespace Touched

theorem length_eq (h : Touched a sid t t' a') : a'.sessions.length = a.sessions.length := by
  cases h <;> first | rfl | exact List.length_set

/-- The other sessions stay as they are. -/
theorem session_ne (h : Touched a sid t t' a') {sid' : ℕ} (hne : sid' ≠ sid) :
    a'.session sid' = a.session sid' := by
  cases h with
  | setId => exact session_setSession_ne hne _
  | setName => exact session_setSession_ne hne _
  | ended => exact session_setSession_ne hne _
  | _ => rfl

/-- A session that has ended stays so. -/
theorem session_none (h : Touched a sid t t' a') (hdead : a.session sid = none) :
    a'.session sid = none := by
  cases h with
  | setId hsession => exact nomatch hdead.symm.trans hsession
  | setName hsession => exact nomatch hdead.symm.trans hsession
  | ended hsession => exact nomatch hdead.symm.trans hsession
  | _ => exact hdead

/-- The id in a session was there, or a login has written it. -/
theorem member_cases (h : Touched a sid t t' a') (hsession : a'.session sid = some session) :
    (∃ old, a.session sid = some old ∧ session.memberId = old.memberId) ∨
      ∃ request response, t = .settingId request sid response ∧
        session.memberId = some response.memberId := by
  cases h with
  | setId hold =>
      rw [session_setSession_self (lt_of_session hold), Option.some.injEq] at hsession
      subst hsession
      exact Or.inr ⟨_, _, rfl, rfl⟩
  | setName hold =>
      rw [session_setSession_self (lt_of_session hold), Option.some.injEq] at hsession
      subst hsession
      exact Or.inl ⟨_, hold, rfl⟩
  | ended hold =>
      rw [session_setSession_self (lt_of_session hold)] at hsession
      nomatch hsession
  | _ => exact Or.inl ⟨session, hsession, rfl⟩

end Touched

/-- Sessions do not come back. -/
theorem session_none_next (hdead : a.session sid = none) (hlt : sid < a.sessions.length) :
    (t.next encoder collate a).2.session sid = none ∧
      sid < (t.next encoder collate a).2.sessions.length := by
  rcases visit_cases encoder collate t a with ⟨-, huntouched⟩ | ⟨sid', -, htouched⟩
  · exact ⟨(huntouched.session_eq hlt).trans hdead, Nat.lt_of_lt_of_le hlt huntouched.length_le⟩
  · refine ⟨?_, Nat.lt_of_lt_of_eq hlt htouched.length_eq.symm⟩
    by_cases hsid : sid = sid'
    · subst hsid
      exact htouched.session_none hdead
    · exact (htouched.session_ne hsid).trans hdead

/-! ## What is shown -/

/-- The decisions of a step with a session. -/
inductive Announced (a : Accounts) (t : Visit) (a' : Accounts) : Decision → Prop
  | redirected {page : Page} {sid : ℕ} : Announced a t a' (.page page sid ⟨none, none⟩)
  | shown {page : Page} {sid : ℕ} {session : Session} {memberId : ℕ}
      (hsession : a.session sid = some session) (hmember : session.memberId = some memberId)
      (hpage : page ≠ .dashboard) : Announced a t a' (.page page sid ⟨some memberId, none⟩)
  | dashboard {sid : ℕ} {session : Session} {memberId : ℕ} (ht : t = .readingName sid memberId)
      (hsession : a.session sid = some session) :
      Announced a t a' (.page .dashboard sid ⟨some memberId, session.memberName⟩)
  | ended {sid : ℕ} {session : Session} (hsession : a.session sid = some session)
      (ha' : a' = a.setSession sid none) : Announced a t a' (.ended sid)

theorem mem_emit {d : Decision} (h : d ∈ t.emit encoder collate a) :
    t.said = [] ∧ (t.next encoder collate a).1.said = [d] := by
  unfold Visit.emit at h
  split at h
  case h_1 hsaid =>
    refine ⟨hsaid, ?_⟩
    rw [← said_head?] at h ⊢
    rw [Option.mem_toList] at h
    rw [h]
    rfl
  case h_2 => nomatch h

theorem Touched.announced {d : Decision} (h : Touched a sid t t' a') (hsaid : t.said = [])
    (hd : t'.said = [d]) : Announced a t a' d := by
  cases h with
  | dead hdead =>
      rw [hsaid] at hd
      nomatch hd
  | setId => nomatch hsaid
  | setName => nomatch hsaid
  | readId => nomatch hd
  | redirected hsession hmember =>
      obtain ⟨rfl, -⟩ := List.cons.inj hd
      exact .redirected
  | shown hsession hmember hpage =>
      obtain ⟨rfl, -⟩ := List.cons.inj hd
      exact .shown hsession hmember hpage
  | readName hsession =>
      obtain ⟨rfl, -⟩ := List.cons.inj hd
      exact .dashboard rfl hsession
  | ended hsession =>
      obtain ⟨rfl, -⟩ := List.cons.inj hd
      exact .ended hsession rfl

/-- **Where pages and ends of sessions come from.** -/
theorem announced_of_emit {d : Decision} (h : d ∈ t.emit encoder collate a)
    (hd : d.ofSession = some sid) : Announced a t (t.next encoder collate a).2 d := by
  obtain ⟨hsaid, hnext⟩ := mem_emit h
  rcases visit_cases encoder collate t a with ⟨-, huntouched⟩ | ⟨sid', -, htouched⟩
  · have hmem : d ∈ (t.next encoder collate a).1.said := by
      rw [hnext]
      exact List.mem_singleton_self d
    rcases huntouched.said d hmem with hbefore | hnone
    · rw [hsaid] at hbefore
      nomatch hbefore
    · exact nomatch hd.symm.trans hnone
  · exact htouched.announced hsaid hnext

theorem emit_length_le (t : Visit) (a : Accounts) : (t.emit encoder collate a).length ≤ 1 := by
  cases hemit : t.emit encoder collate a with
  | nil => exact Nat.zero_le 1
  | cons d ds =>
      have hmem : d ∈ t.emit encoder collate a := by
        rw [hemit]
        exact List.mem_cons_self
      obtain ⟨hsaid, hnext⟩ := mem_emit hmem
      rw [said_next, hsaid, List.nil_append, hemit] at hnext
      rw [hnext]
      exact Nat.le_refl 1

end

/-! ## Pages need a login -/

/-- A login in the session was answered with the id. -/
def LoggedIn (ds : List (ℕ × Decision)) (sid m : ℕ) : Prop :=
  ∃ j request response, (j, Decision.login request sid (.ok response)) ∈ ds ∧
    response.memberId = m

/-- What the sessions and the requests have from the decisions. -/
structure Authenticated (p : Pool Accounts Visit) (ds : List (ℕ × Decision)) : Prop where
  told : ∀ t ∈ p.threads, ∀ d ∈ t.said, ∃ j, (j, d) ∈ ds
  sessions : ∀ {sid session m}, p.shared.session sid = some session →
    session.memberId = some m → LoggedIn ds sid m
  reading : ∀ {sid m}, .readingName sid m ∈ p.threads → LoggedIn ds sid m
  ended : ∀ {j sid}, (j, .ended sid) ∈ ds →
    p.shared.session sid = none ∧ sid < p.shared.sessions.length

section
variable {encoder : PasswordEncoder} {collate : String → String} {a : Accounts} {t : Visit}
  {others before after : List Visit} {ds : List (ℕ × Decision)}

theorem LoggedIn.mono {sid m : ℕ} (h : LoggedIn ds sid m) (ds' : List (ℕ × Decision)) :
    LoggedIn (ds ++ ds') sid m := by
  obtain ⟨j, request, response, hlogin, hm⟩ := h
  exact ⟨j, request, response, List.mem_append_left ds' hlogin, hm⟩

/-- A step puts one thread in the place of another one. -/
theorem mem_replaced {t t' u : Visit} (h : u ∈ before ++ t' :: after) :
    u = t' ∨ u ∈ before ++ t :: after := by
  simp only [List.mem_append, List.mem_cons] at h ⊢
  tauto

theorem mem_middle (before : List Visit) (t : Visit) (after : List Visit) :
    t ∈ before ++ t :: after :=
  List.mem_append_right before List.mem_cons_self

namespace Authenticated

theorem spawn {call : MemberCall} (h : Authenticated ⟨a, others⟩ ds) :
    Authenticated ⟨a, others ++ [.arrived call]⟩ ds := by
  refine ⟨fun t ht d hd => ?_, h.sessions, fun ht => ?_, h.ended⟩
  · rcases List.mem_append.mp ht with hold | hnew
    · exact h.told t hold d hd
    · rw [List.mem_singleton.mp hnew] at hd
      nomatch hd
  · rcases List.mem_append.mp ht with hold | hnew
    · exact h.reading hold
    · nomatch List.mem_singleton.mp hnew

/-- The ids in the sessions after a step. -/
theorem sessions_next (h : Authenticated ⟨a, before ++ t :: after⟩ ds) {sid m : ℕ}
    {session : Session} (hsession : (t.next encoder collate a).2.session sid = some session)
    (hm : session.memberId = some m) : LoggedIn ds sid m := by
  rcases visit_cases encoder collate t a with ⟨-, huntouched⟩ | ⟨sid', -, htouched⟩
  · rcases huntouched.session_cases hsession with hold | rfl
    · exact h.sessions hold hm
    · nomatch hm
  · by_cases hsid : sid = sid'
    · subst hsid
      obtain ⟨old, hold, hid⟩ | ⟨request, response, rfl, hid⟩ := htouched.member_cases hsession
      · exact h.sessions hold (hid.symm.trans hm)
      · obtain ⟨j, hlogin⟩ := h.told _ (mem_middle before _ after) _ List.mem_cons_self
        exact ⟨j, request, response, hlogin, Option.some.inj (hid.symm.trans hm)⟩
    · rw [htouched.session_ne hsid] at hsession
      exact h.sessions hsession hm

/-- The dashboard that has read an id in its session. -/
theorem reading_next (h : Authenticated ⟨a, before ++ t :: after⟩ ds) {sid m : ℕ}
    (hnext : (t.next encoder collate a).1 = .readingName sid m) : LoggedIn ds sid m := by
  rcases visit_cases encoder collate t a with ⟨-, huntouched⟩ | ⟨sid', -, htouched⟩
  · have hmidway := huntouched.midway
    rw [hnext] at hmidway
    nomatch hmidway
  · rw [hnext] at htouched
    generalize (t.next encoder collate a).2 = a' at htouched
    cases htouched with
    | readId hsession hmember => exact h.sessions hsession hmember

/-- **A step keeps it.** -/
theorem step (h : Authenticated ⟨a, before ++ t :: after⟩ ds) (i : ℕ) :
    Authenticated ⟨(t.next encoder collate a).2, before ++ (t.next encoder collate a).1 :: after⟩
      (ds ++ (t.emit encoder collate a).map fun d => (i, d)) := by
  refine ⟨fun u hu d hd => ?_, fun hsession hm => (h.sessions_next hsession hm).mono _,
    fun hu => ?_, fun {j sid} hended => ?_⟩
  · rcases mem_replaced hu with rfl | hold
    · rw [said_next, List.mem_append] at hd
      rcases hd with hsaid | hemit
      · obtain ⟨j, hj⟩ := h.told t (mem_middle before t after) d hsaid
        exact ⟨j, List.mem_append_left _ hj⟩
      · exact ⟨i, List.mem_append_right _ (List.mem_map_of_mem hemit)⟩
    · obtain ⟨j, hj⟩ := h.told u hold d hd
      exact ⟨j, List.mem_append_left _ hj⟩
  · rcases mem_replaced hu with hnext | hold
    · exact (h.reading_next hnext.symm).mono _
    · exact (h.reading hold).mono _
  · rcases List.mem_append.mp hended with hbefore | hnow
    · obtain ⟨hdead, hlt⟩ := h.ended hbefore
      exact session_none_next hdead hlt
    · obtain ⟨d, hd, heq⟩ := List.mem_map.mp hnow
      cases heq
      cases announced_of_emit hd rfl with
      | ended hsession ha' =>
          rw [ha']
          have hlt := lt_of_session hsession
          exact ⟨session_setSession_self hlt none, Nat.lt_of_lt_of_eq hlt List.length_set.symm⟩

end Authenticated

/-- **Every run keeps it.** -/
theorem authenticated_run (encoder : PasswordEncoder) (collate : String → String)
    (es : List (Event MemberCall)) :
    Authenticated (run (visitStep encoder collate) ⟨.start, []⟩ es)
      (decisions encoder collate es) := by
  have hstart : Authenticated ⟨.start, []⟩ [] :=
    ⟨nofun, (fun hsession => nomatch hsession), nofun, nofun⟩
  exact thread_invariant (C := fun _ => True) (fun _ _ _ _ h => h.spawn)
    (fun _ _ _ _ _ i h _ => h.step i) hstart (along_true _ es)

/-- A login that was let in has the sign-up of its member before it, and the ids tell the sign-ups
apart. -/
theorem login_signup {es : List (Event MemberCall)} {ds ds' : List (ℕ × Decision)}
    (hes : decisions encoder collate es = ds ++ ds') {j sid : ℕ} {request : LoginRequest}
    {response : LoginResponse} (hlogin : (j, Decision.login request sid (.ok response)) ∈ ds) :
    (∃ k signup info, (k, Decision.signup signup (.ok info)) ∈ ds ∧
        info.id = response.memberId) ∧
      ∀ k signup info, (k, Decision.signup signup (.ok info)) ∈ ds →
        info.id = response.memberId →
        collate signup.studentNumber = collate request.studentNumber ∧
          encoder.effective signup.password = encoder.effective request.password := by
  obtain ⟨before, after, rfl⟩ := List.append_of_mem hlogin
  rw [List.append_assoc, List.cons_append] at hes
  obtain ⟨info, -, hregistered⟩ := (login_ok_iff hes response).mp rfl
  have hmem : ∀ {k signup info'}, (k, Decision.signup signup (.ok info')) ∈ before →
      (k, Decision.signup signup (.ok info'))
        ∈ before ++ (j, .login request sid (.ok response)) :: after :=
    fun h => List.mem_append_left _ h
  constructor
  · obtain ⟨k, signup, info', hsignup, -, haccount⟩ := registered_mem_iff.mp hregistered
    exact ⟨k, signup, info', hmem hsignup, (Account.mk.inj haccount).1⟩
  · intro k signup info' hsignup hid
    obtain ⟨t, hrun⟩ := decisions_linear encoder collate es
    have hthis : Act.registered (collate signup.studentNumber) (signup.account encoder info'.id)
        ∈ registryActs encoder collate (decisions encoder collate es) := by
      refine registered_mem_iff.mpr ⟨k, signup, info', ?_, rfl, rfl⟩
      rw [hes, ← List.cons_append, ← List.append_assoc]
      exact List.mem_append_left ds' hsignup
    have hother : Act.registered (collate request.studentNumber)
          ⟨response.memberId, info, encoder.effective request.password⟩
        ∈ registryActs encoder collate (decisions encoder collate es) := by
      unfold registryActs
      rw [hes, List.filterMap_append]
      exact List.mem_append_left _ hregistered
    obtain ⟨hkey, haccount⟩ := id_injective hrun hthis hother hid
    exact ⟨hkey, (Account.mk.inj haccount).2.2⟩

/-- **Pages need a login**: in every interleaving of requests, before a page for a member is shown
to a session, a login in this session was answered with the member's id, the member has signed
up, with the number of this login (as the column compares them) and its password (as far as the
encoder reads it), and the session has not ended. -/
theorem pages_authenticated {es : List (Event MemberCall)} {before after : List (ℕ × Decision)}
    {i sid m : ℕ} {page : Page} {session : Session}
    (h : decisions encoder collate es = before ++ (i, .page page sid session) :: after)
    (hm : session.memberId = some m) :
    (∃ j request response, (j, Decision.login request sid (.ok response)) ∈ before ∧
        response.memberId = m ∧
        (∃ k signup info, (k, Decision.signup signup (.ok info)) ∈ before ∧ info.id = m) ∧
        ∀ k signup info, (k, Decision.signup signup (.ok info)) ∈ before → info.id = m →
          collate signup.studentNumber = collate request.studentNumber ∧
            encoder.effective signup.password = encoder.effective request.password) ∧
      ∀ j, (j, Decision.ended sid) ∉ before := by
  obtain ⟨es₁, es₂, t, rfl, hbefore, ht, hemit⟩ := emitted_split emit_length_le h
  have hrun := authenticated_run encoder collate es₁
  rw [show decisions encoder collate es₁ = before from hbefore] at hrun
  have hpage : Announced _ t _ (.page page sid session) :=
    announced_of_emit (hemit ▸ List.mem_singleton_self _) rfl
  obtain ⟨hlogin, live, hlive⟩ : LoggedIn before sid m ∧ ∃ live,
      (run (visitStep encoder collate) ⟨.start, []⟩ es₁).shared.session sid = some live := by
    cases hpage with
    | redirected => nomatch hm
    | shown hsession hmember _ =>
        cases hm
        exact ⟨hrun.sessions hsession hmember, _, hsession⟩
    | dashboard hreading hsession =>
        cases hm
        subst hreading
        exact ⟨hrun.reading ht, _, hsession⟩
  refine ⟨?_, fun j hended => nomatch (hrun.ended hended).1.symm.trans hlive⟩
  obtain ⟨j, request, response, hmem, rfl⟩ := hlogin
  obtain ⟨hsignup, hunique⟩ := login_signup h hmem
  exact ⟨j, request, response, hmem, rfl, hsignup, hunique⟩

end

/-- A member signs up, logs in and opens a page. -/
def sampleSession (page : Page) : List (Event MemberCall) :=
  [.spawn (.signup ⟨"first", "20231234", "aaaa"⟩ 0), .run 0, .run 0,
    .spawn (.login ⟨"20231234", "aaaa"⟩ none), .run 1, .run 1, .run 1, .run 1,
    .spawn (.page page (some 0)), .run 2, .run 2, .run 2]

/-- The VPN page, with the decisions before it. -/
theorem pages_authenticated_vpn :
    decisions sampleEncoder id (sampleSession .vpnPage)
        = [(0, .signup ⟨"first", "20231234", "aaaa"⟩ (.ok ⟨1, "first", "20231234"⟩)),
            (1, .login ⟨"20231234", "aaaa"⟩ 0 (.ok ⟨1, "first", "로그인 성공"⟩))]
          ++ (2, .page .vpnPage 0 ⟨some 1, none⟩) :: [] ∧
      ∀ j, (j, Decision.ended 0)
        ∉ [(0, Decision.signup ⟨"first", "20231234", "aaaa"⟩ (.ok ⟨1, "first", "20231234"⟩)),
            (1, .login ⟨"20231234", "aaaa"⟩ 0 (.ok ⟨1, "first", "로그인 성공"⟩))] := by
  have hrun : decisions sampleEncoder id (sampleSession .vpnPage)
      = [(0, .signup ⟨"first", "20231234", "aaaa"⟩ (.ok ⟨1, "first", "20231234"⟩)),
          (1, .login ⟨"20231234", "aaaa"⟩ 0 (.ok ⟨1, "first", "로그인 성공"⟩))]
        ++ (2, .page .vpnPage 0 ⟨some 1, none⟩) :: [] := rfl
  exact ⟨hrun, (pages_authenticated hrun rfl).2⟩

/-! ## The name on the dashboard -/

/-- The session to which a login is about to write. -/
def Visit.writes : Visit → Option ℕ
  | .settingId _ sid _ => some sid
  | .settingName _ sid _ => some sid
  | _ => none

/-- The request is not about to write to a session that the other one is using. -/
def Apart (t u : Visit) : Prop := ∀ sid ∈ t.writes, ∀ use ∈ u.midway, use.1 ≠ sid

/-- No login is about to write to a session that another request is using. -/
def Undisturbed (p : Pool Accounts Visit) : Prop :=
  p.threads.Pairwise fun t u => Apart t u ∧ Apart u t

instance decidableApart (t u : Visit) : Decidable (Apart t u) := by
  unfold Apart
  infer_instance

instance decidableUndisturbed (p : Pool Accounts Visit) : Decidable (Undisturbed p) := by
  unfold Undisturbed
  infer_instance

/-- The attributes of the session are those of one login. -/
def Named (ds : List (ℕ × Decision)) (sid : ℕ) (session : Session) : Prop :=
  ∃ j request response, (j, Decision.login request sid (.ok response)) ∈ ds ∧
    session = ⟨some response.memberId, some response.name⟩

/-- A session is new, or has the attributes of one login, or a login has still to write the name;
and the id that a request has written or read is still there. -/
structure Consistent (p : Pool Accounts Visit) (ds : List (ℕ × Decision)) : Prop where
  settled : ∀ {sid session}, p.shared.session sid = some session →
    session = ⟨none, none⟩ ∨ Named ds sid session ∨
      ∃ request response, .settingName request sid response ∈ p.threads
  midway : ∀ {t sid m}, t ∈ p.threads → t.midway = some (sid, m) →
    sid < p.shared.sessions.length ∧
      ∀ session, p.shared.session sid = some session → session.memberId = some m

section
variable {encoder : PasswordEncoder} {collate : String → String} {a : Accounts} {t : Visit}
  {others before after : List Visit} {ds : List (ℕ × Decision)} {sid : ℕ} {session : Session}

theorem Named.mono (h : Named ds sid session) (ds' : List (ℕ × Decision)) :
    Named (ds ++ ds') sid session := by
  obtain ⟨j, request, response, hlogin, hsession⟩ := h
  exact ⟨j, request, response, List.mem_append_left ds' hlogin, hsession⟩

theorem Undisturbed.apart (h : Undisturbed ⟨a, before ++ t :: after⟩) {u : Visit}
    (hu : u ∈ before ∨ u ∈ after) : Apart t u := by
  obtain ⟨-, hafter, hbefore⟩ := List.pairwise_append.mp h
  rcases hu with hu | hu
  · exact (hbefore u hu t List.mem_cons_self).2
  · exact ((List.pairwise_cons.mp hafter).1 u hu).1

namespace Consistent

theorem spawn {call : MemberCall} (h : Consistent ⟨a, others⟩ ds) :
    Consistent ⟨a, others ++ [.arrived call]⟩ ds := by
  refine ⟨fun hsession => ?_, fun {t sid m} ht hmidway => ?_⟩
  · rcases h.settled hsession with hnew | hnamed | ⟨request, response, hsetting⟩
    · exact Or.inl hnew
    · exact Or.inr (Or.inl hnamed)
    · exact Or.inr (Or.inr ⟨request, response, List.mem_append_left _ hsetting⟩)
  · rcases List.mem_append.mp ht with hold | hnew
    · exact h.midway hold hmidway
    · rw [List.mem_singleton.mp hnew] at hmidway
      nomatch hmidway

/-- What was true of a session stays so, if the step is not that of a login that writes its
name. -/
theorem settled_replaced (h : Consistent ⟨a, before ++ t :: after⟩ ds)
    (hsession : a.session sid = some session)
    (ht : ∀ request response, t ≠ .settingName request sid response) (t' : Visit) :
    session = ⟨none, none⟩ ∨ Named ds sid session ∨
      ∃ request response, .settingName request sid response ∈ before ++ t' :: after := by
  rcases h.settled hsession with hnew | hnamed | ⟨request, response, hsetting⟩
  · exact Or.inl hnew
  · exact Or.inr (Or.inl hnamed)
  · rcases mem_replaced hsetting with heq | hkept
    · exact absurd heq.symm (ht request response)
    · exact Or.inr (Or.inr ⟨request, response, hkept⟩)

/-- The session that a step uses, after the step. -/
theorem settled_touched (h : Consistent ⟨a, before ++ t :: after⟩ ds)
    (htold : ∀ d ∈ t.said, ∃ j, (j, d) ∈ ds) {t' : Visit} {a' : Accounts}
    (htouched : Touched a sid t t' a') (hsession : a'.session sid = some session) :
    session = ⟨none, none⟩ ∨ Named ds sid session ∨
      ∃ request response, .settingName request sid response ∈ before ++ t' :: after := by
  cases htouched with
  | dead hdead => nomatch hdead.symm.trans hsession
  | setId hold => exact Or.inr (Or.inr ⟨_, _, mem_middle before _ after⟩)
  | @setName request response old hold =>
      -- The id is that of the same login: nobody has written to the session since.
      rw [session_setSession_self (lt_of_session hold), Option.some.injEq] at hsession
      obtain ⟨-, hid⟩ := h.midway (mem_middle before _ after) rfl
      obtain ⟨j, hlogin⟩ := htold _ List.mem_cons_self
      refine Or.inr (Or.inl ⟨j, request, response, hlogin, ?_⟩)
      rw [← hsession, hid old hold]
  | ended hold =>
      rw [session_setSession_self (lt_of_session hold)] at hsession
      nomatch hsession
  | redirected => exact h.settled_replaced hsession nofun _
  | readId => exact h.settled_replaced hsession nofun _
  | shown => exact h.settled_replaced hsession nofun _
  | readName => exact h.settled_replaced hsession nofun _

/-- The sessions after a step. -/
theorem settled_next (h : Consistent ⟨a, before ++ t :: after⟩ ds)
    (htold : ∀ d ∈ t.said, ∃ j, (j, d) ∈ ds)
    (hsession : (t.next encoder collate a).2.session sid = some session) :
    session = ⟨none, none⟩ ∨ Named ds sid session ∨
      ∃ request response,
        .settingName request sid response ∈ before ++ (t.next encoder collate a).1 :: after := by
  rcases visit_cases encoder collate t a with ⟨htouches, huntouched⟩ | ⟨sid', htouches, htouched⟩
  · rcases huntouched.session_cases hsession with hold | hnew
    · refine h.settled_replaced hold ?_ _
      rintro request response rfl
      nomatch htouches
    · exact Or.inl hnew
  · by_cases hsid : sid = sid'
    · subst hsid
      exact h.settled_touched htold htouched hsession
    · rw [htouched.session_ne hsid] at hsession
      refine h.settled_replaced hsession ?_ _
      rintro request response rfl
      exact hsid (Option.some.inj htouches)

/-- The request that makes the step, between its uses of the session. -/
theorem midway_self {m : ℕ} (hmidway : (t.next encoder collate a).1.midway = some (sid, m)) :
    sid < (t.next encoder collate a).2.sessions.length ∧
      ∀ session, (t.next encoder collate a).2.session sid = some session →
        session.memberId = some m := by
  rcases visit_cases encoder collate t a with ⟨-, huntouched⟩ | ⟨sid', -, htouched⟩
  · nomatch huntouched.midway.symm.trans hmidway
  · generalize (t.next encoder collate a).1 = t' at htouched hmidway
    generalize (t.next encoder collate a).2 = a' at htouched
    cases htouched with
    | setId hold =>
        cases hmidway
        have hlt := lt_of_session hold
        refine ⟨Nat.lt_of_lt_of_eq hlt List.length_set.symm, fun session hsession => ?_⟩
        rw [session_setSession_self hlt, Option.some.injEq] at hsession
        rw [← hsession]
    | readId hold hmember =>
        cases hmidway
        refine ⟨lt_of_session hold, fun session hsession => ?_⟩
        rw [← Option.some.inj (hold.symm.trans hsession)]
        exact hmember
    | _ => nomatch hmidway

/-- The other requests, between their uses of a session. -/
theorem midway_other (h : Consistent ⟨a, before ++ t :: after⟩ ds)
    (hC : Undisturbed ⟨a, before ++ t :: after⟩) {u : Visit} (hu : u ∈ before ∨ u ∈ after) {m : ℕ}
    (hmidway : u.midway = some (sid, m)) :
    sid < (t.next encoder collate a).2.sessions.length ∧
      ∀ session, (t.next encoder collate a).2.session sid = some session →
        session.memberId = some m := by
  have hmem : u ∈ before ++ t :: after := by
    rcases hu with hu | hu
    · exact List.mem_append_left _ hu
    · exact List.mem_append_right _ (List.mem_cons_of_mem t hu)
  obtain ⟨hlt, hid⟩ := h.midway hmem hmidway
  rcases visit_cases encoder collate t a with ⟨-, huntouched⟩ | ⟨sid', -, htouched⟩
  · refine ⟨Nat.lt_of_lt_of_le hlt huntouched.length_le, fun session hsession => ?_⟩
    rw [huntouched.session_eq hlt] at hsession
    exact hid session hsession
  · refine ⟨Nat.lt_of_lt_of_eq hlt htouched.length_eq.symm, fun session hsession => ?_⟩
    by_cases hsid : sid = sid'
    · subst hsid
      obtain ⟨old, hold, hsame⟩ | ⟨request, response, rfl, -⟩ := htouched.member_cases hsession
      · rw [hsame]
        exact hid old hold
      · exact absurd rfl (hC.apart hu sid rfl (sid, m) hmidway)
    · rw [htouched.session_ne hsid] at hsession
      exact hid session hsession

/-- **A step keeps it**, unless a login is about to write to a session that another request is
using. -/
theorem step (h : Consistent ⟨a, before ++ t :: after⟩ ds)
    (hC : Undisturbed ⟨a, before ++ t :: after⟩) (htold : ∀ d ∈ t.said, ∃ j, (j, d) ∈ ds)
    (ds' : List (ℕ × Decision)) :
    Consistent ⟨(t.next encoder collate a).2, before ++ (t.next encoder collate a).1 :: after⟩
      (ds ++ ds') := by
  refine ⟨fun hsession => ?_, fun {u sid m} hu hmidway => ?_⟩
  · rcases h.settled_next htold hsession with hnew | hnamed | hsetting
    · exact Or.inl hnew
    · exact Or.inr (Or.inl (hnamed.mono ds'))
    · exact Or.inr (Or.inr hsetting)
  · rcases List.mem_append.mp hu with hbefore | hrest
    · exact h.midway_other hC (Or.inl hbefore) hmidway
    · rcases List.mem_cons.mp hrest with rfl | hafter
      · exact midway_self hmidway
      · exact h.midway_other hC (Or.inr hafter) hmidway

end Consistent

/-- **Every undisturbed run keeps it.** -/
theorem consistent_run {es : List (Event MemberCall)}
    (hes : Along (visitStep encoder collate) (fun p _ => Undisturbed p) ⟨.start, []⟩ es) :
    Consistent (run (visitStep encoder collate) ⟨.start, []⟩ es)
      (decisions encoder collate es) := by
  let Both (p : Pool Accounts Visit) (ds : List (ℕ × Decision)) : Prop :=
    Authenticated p ds ∧ Consistent p ds
  have hstart : Both ⟨.start, []⟩ [] :=
    ⟨⟨nofun, (fun hsession => nomatch hsession), nofun, nofun⟩,
      ⟨(fun hsession => nomatch hsession), nofun⟩⟩
  have hrun : Both (run (visitStep encoder collate) ⟨.start, []⟩ es)
      (decisions encoder collate es) :=
    thread_invariant (I := Both) (C := Undisturbed) (fun _ _ _ _ h => ⟨h.1.spawn, h.2.spawn⟩)
      (fun _ before t after _ i h hC =>
        ⟨h.1.step i, h.2.step hC (h.1.told t (mem_middle before t after)) _⟩) hstart hes
  exact hrun.2

/-- **The name on the dashboard**: as long as no login is about to write to a session that another
request is using, the dashboard shows to a session the id and the name of one login in this
session. -/
theorem page_name_matches {es : List (Event MemberCall)}
    (hes : Along (visitStep encoder collate) (fun p _ => Undisturbed p) ⟨.start, []⟩ es)
    {before after : List (ℕ × Decision)} {i m : ℕ} {name : Option String}
    (h : decisions encoder collate es
      = before ++ (i, .page .dashboard sid ⟨some m, name⟩) :: after) :
    ∃ j request response, (j, Decision.login request sid (.ok response)) ∈ before ∧
      response.memberId = m ∧ name = some response.name := by
  obtain ⟨es₁, es₂, t, rfl, hbefore, ht, hemit⟩ := emitted_split emit_length_le h
  obtain ⟨hes₁, hnow, -⟩ := along_append.mp hes
  have hrun := consistent_run hes₁
  rw [show decisions encoder collate es₁ = before from hbefore] at hrun
  have hpage : Announced _ t _ (.page .dashboard sid ⟨some m, name⟩) :=
    announced_of_emit (hemit ▸ List.mem_singleton_self _) rfl
  cases hpage with
  | shown _ _ hpage => exact absurd rfl hpage
  | @dashboard _ session _ hreading hsession =>
      subst hreading
      have hid := (hrun.midway ht rfl).2 session hsession
      rcases hrun.settled hsession with rfl | hnamed | ⟨request, response, hsetting⟩
      · nomatch hid
      · obtain ⟨j, request, response, hlogin, rfl⟩ := hnamed
        exact ⟨j, request, response, hlogin, Option.some.inj hid, rfl⟩
      · -- A login that has still to write the name would disturb the dashboard.
        have hsymm : Std.Symm fun t u : Visit => Apart t u ∧ Apart u t := ⟨fun _ _ h => h.symm⟩
        have hpairs : List.Pairwise (fun t u : Visit => Apart t u ∧ Apart u t) _ := hnow
        have hapart := hpairs.forall hsetting ht nofun
        exact absurd rfl (hapart.1 sid rfl (sid, m) rfl)

end

/-- The dashboard of the member. -/
theorem page_name_matches_first :
    Along (visitStep sampleEncoder id) (fun p _ => Undisturbed p) ⟨.start, []⟩
        (sampleSession .dashboard) ∧
      decisions sampleEncoder id (sampleSession .dashboard)
        = [(0, .signup ⟨"first", "20231234", "aaaa"⟩ (.ok ⟨1, "first", "20231234"⟩)),
            (1, .login ⟨"20231234", "aaaa"⟩ 0 (.ok ⟨1, "first", "로그인 성공"⟩))]
          ++ (2, .page .dashboard 0 ⟨some 1, some "first"⟩) :: [] ∧
      ∃ j request response, (j, Decision.login request 0 (.ok response))
          ∈ [(0, Decision.signup ⟨"first", "20231234", "aaaa"⟩ (.ok ⟨1, "first", "20231234"⟩)),
            (1, .login ⟨"20231234", "aaaa"⟩ 0 (.ok ⟨1, "first", "로그인 성공"⟩))] ∧
        response.memberId = 1 ∧ some "first" = some response.name := by
  have hes : Along (visitStep sampleEncoder id) (fun p _ => Undisturbed p) ⟨.start, []⟩
      (sampleSession .dashboard) := by decide +kernel
  have hrun : decisions sampleEncoder id (sampleSession .dashboard)
      = [(0, .signup ⟨"first", "20231234", "aaaa"⟩ (.ok ⟨1, "first", "20231234"⟩)),
          (1, .login ⟨"20231234", "aaaa"⟩ 0 (.ok ⟨1, "first", "로그인 성공"⟩))]
        ++ (2, .page .dashboard 0 ⟨some 1, some "first"⟩) :: [] := rfl
  exact ⟨hes, hrun, page_name_matches hes hrun⟩

/-- Two members log in to one session, each between the two steps of the other. -/
def mixedLogins : List (Event MemberCall) :=
  [.spawn (.signup ⟨"first", "20231234", "aaaa"⟩ 0), .run 0, .run 0,
    .spawn (.signup ⟨"second", "20235678", "bbbb"⟩ 0), .run 1, .run 1,
    .spawn (.login ⟨"20231234", "aaaa"⟩ none), .run 2, .run 2, .run 2,
    .spawn (.login ⟨"20235678", "bbbb"⟩ (some 0)), .run 3, .run 3, .run 3, .run 3, .run 2,
    .spawn (.page .dashboard (some 0)), .run 4, .run 4, .run 4]

-- Without the condition the dashboard of the one has the name of the other.
example : (decisions sampleEncoder id mixedLogins).getLast?
    = some (4, .page .dashboard 0 ⟨some 2, some "first"⟩) := rfl

end Cloud
