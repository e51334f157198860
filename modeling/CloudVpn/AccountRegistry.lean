/-
# The accounts as a registry

The student number of a member is unique although `signup` asks for it in one step and inserts
in another: if another sign-up has come between, the unique column refuses the insert.  So the
service of `Accounts` refines the registry of `Registry`, where a request is one step:

* `accounts_linearizable`: in every interleaving the decisions of the service, in their order,
  are a run of the registry;
* `login_iff_signup`: a login is let in exactly if a sign-up with the number and the password
  was answered before, and with the id and the name of this sign-up.
-/
import CloudVpn.Accounts
import CloudVpn.Registry

open Effects Interleaving Registry Runs Traces

namespace Cloud

/-! ## The service and the registry -/

/-- The answer to a login for an account with these data. -/
def welcome (info : MemberInfo) : LoginResponse := ⟨info.id, info.name, "로그인 성공"⟩

/-- The acts of a registry of members. -/
abbrev MemberAct := Act String ℕ MemberInfo String LoginResponse

section
variable (encoder : PasswordEncoder) (collate : String → String)

/-- The account of a sign-up. -/
def SignupRequest.account (request : SignupRequest) (id : ℕ) : Account ℕ MemberInfo String :=
  ⟨id, ⟨id, request.name, request.studentNumber⟩, encoder.effective request.password⟩

/-- The act that a decision is for the registry.  The two exceptions of `signup` for a number that
is taken are the same to it. -/
def Decision.act : Decision → Option MemberAct
  | .signup request (.ok info) =>
      some (.registered (collate request.studentNumber) (request.account encoder info.id))
  | .signup request (.error (.base _)) => some (.taken (collate request.studentNumber))
  | .signup request (.error .duplicateEntry) => some (.taken (collate request.studentNumber))
  | .signup _ (.error _) => none
  | .login request _ (.ok response) =>
      some (.authenticated (collate request.studentNumber) (encoder.effective request.password)
        response.memberId response)
  | .login request _ (.error (.base .unauthorized)) =>
      some (.denied (collate request.studentNumber) (encoder.effective request.password))
  | .login request _ (.error _) =>
      some (.unknown (collate request.studentNumber) (encoder.effective request.password))
  | .getMemberInfo memberId (.ok info) => some (.found memberId info)
  | .getMemberInfo memberId (.error _) => some (.missing memberId)
  | .checkStudentNumber studentNumber (.ok used) => some (.checked (collate studentNumber) used)
  | .checkStudentNumber _ (.error _) => none
  | .page _ _ _ => none
  | .ended _ => none

/-- A row of the table and its account: the passwords that match the row are those with the
secret. -/
structure IsAccount (member : Member) (account : Account ℕ MemberInfo String) : Prop where
  id : account.id = member.id
  data : account.data = MemberInfo.ofMember member
  secret : ∀ raw, encoder.isMatch raw member.password
    = decide (encoder.effective raw = account.secret)

/-- The registry that a table stands for. -/
structure Tabulates (a : Accounts) (t : Table String ℕ MemberInfo String) : Prop where
  rows : ∀ key, Option.Rel (IsAccount encoder) (a.row collate key) (t key)
  keys : (a.members.map fun member => collate member.studentNumber).Nodup
  fresh : ∀ member ∈ a.members, member.id < a.nextId

end

section
variable {encoder : PasswordEncoder} {collate : String → String} {a : Accounts}
  {t : Table String ℕ MemberInfo String} {key : String}

theorem row_mem {member : Member} (h : a.row collate key = some member) : member ∈ a.members :=
  List.mem_of_find?_eq_some h

theorem row_key {member : Member} (h : a.row collate key = some member) :
    collate member.studentNumber = key := by
  simpa using List.find?_some h

namespace Tabulates

theorem start : Tabulates encoder collate .start Registry.empty :=
  ⟨fun _ => .none, List.nodup_nil, fun _ h => nomatch h⟩

/-- The sessions do not matter, and ids may be used up. -/
theorem congr (h : Tabulates encoder collate a t) {a' : Accounts}
    (hmembers : a'.members = a.members) (hnext : a.nextId ≤ a'.nextId) :
    Tabulates encoder collate a' t := by
  refine ⟨?_, ?_, ?_⟩
  · unfold Accounts.row
    rw [hmembers]
    exact h.rows
  · rw [hmembers]
    exact h.keys
  · rw [hmembers]
    exact fun member hmember => Nat.lt_of_lt_of_le (h.fresh member hmember) hnext

theorem lookup_none (h : Tabulates encoder collate a t) (hrow : a.row collate key = none) :
    t key = none := by
  have hrel := h.rows key
  rw [hrow] at hrel
  cases hkey : t key with
  | none => rfl
  | some account =>
      rw [hkey] at hrel
      nomatch hrel

theorem lookup_some (h : Tabulates encoder collate a t) {member : Member}
    (hrow : a.row collate key = some member) :
    ∃ account, t key = some account ∧ IsAccount encoder member account := by
  have hrel := h.rows key
  rw [hrow] at hrel
  cases hkey : t key with
  | none =>
      rw [hkey] at hrel
      nomatch hrel
  | some account =>
      rw [hkey] at hrel
      cases hrel with
      | some haccount => exact ⟨account, rfl, haccount⟩

/-- An account has a row. -/
theorem exists_row (h : Tabulates encoder collate a t) {account : Account ℕ MemberInfo String}
    (hkey : t key = some account) :
    ∃ member, a.row collate key = some member ∧ IsAccount encoder member account := by
  cases hrow : a.row collate key with
  | none => exact nomatch (h.lookup_none hrow).symm.trans hkey
  | some member =>
      obtain ⟨account', hkey', haccount⟩ := h.lookup_some hrow
      rw [Option.some.inj (hkey.symm.trans hkey')]
      exact ⟨member, rfl, haccount⟩

/-- The student number of a row finds this row. -/
theorem row_of_mem (h : Tabulates encoder collate a t) {member : Member}
    (hmember : member ∈ a.members) :
    a.row collate (collate member.studentNumber) = some member := by
  cases hrow : a.row collate (collate member.studentNumber) with
  | none =>
      have hne := List.find?_eq_none.mp hrow member hmember
      simp at hne
  | some member' =>
      rw [List.inj_on_of_nodup_map h.keys (row_mem hrow) hmember (row_key hrow)]

/-- A new row is an account that is registered. -/
theorem insert (h : Tabulates encoder collate a t) {request : SignupRequest} {salt : ℕ}
    {password : String} (hencode : encoder.encode salt request.password = some password)
    (hrow : a.row collate (collate request.studentNumber) = none) :
    Tabulates encoder collate
      { a with
        members := ⟨a.nextId, request.name, request.studentNumber, password⟩ :: a.members
        nextId := a.nextId + 1 }
      (Function.update t (collate request.studentNumber)
        (some (request.account encoder a.nextId))) := by
  refine ⟨fun key => ?_, List.nodup_cons.mpr ⟨fun hmem => ?_, h.keys⟩, ?_⟩
  · unfold Accounts.row
    by_cases hkey : key = collate request.studentNumber
    · subst hkey
      rw [Function.update_self, List.find?_cons_of_pos (by simp)]
      exact .some ⟨rfl, rfl, fun raw => encoder.isMatch_encode hencode⟩
    · rw [Function.update_of_ne hkey, List.find?_cons_of_neg (by simpa using Ne.symm hkey)]
      exact h.rows key
  · obtain ⟨member, hmember, hkey⟩ := List.mem_map.mp hmem
    have hsome := h.row_of_mem hmember
    rw [hkey, hrow] at hsome
    nomatch hsome
  · intro member hmember
    rcases List.mem_cons.mp hmember with rfl | hmember
    · exact Nat.lt_succ_self a.nextId
    · exact Nat.lt_succ_of_lt (h.fresh member hmember)

end Tabulates

section
variable {a' : Accounts} {ds : List Decision} {d : Decision} {act : MemberAct}

/-- A step that decides nothing for the registry. -/
theorem linear_quiet (h : Tabulates encoder collate a t)
    (hds : ds.filterMap (Decision.act encoder collate) = []) (hmembers : a'.members = a.members)
    (hnext : a'.nextId = a.nextId) :
    ∃ t', LabelledRun (Step welcome) t (ds.filterMap (Decision.act encoder collate)) t' ∧
      Tabulates encoder collate a' t' := by
  rw [hds]
  exact ⟨t, .nil t, h.congr hmembers (Nat.le_of_eq hnext.symm)⟩

/-- A step with one decision that is an act of the registry. -/
theorem linear_act {t' : Table String ℕ MemberInfo String} (hact : d.act encoder collate = some act)
    (hstep : Step welcome t act t') (h : Tabulates encoder collate a' t') :
    ∃ t', LabelledRun (Step welcome) t ([d].filterMap (Decision.act encoder collate)) t' ∧
      Tabulates encoder collate a' t' := by
  rw [List.filterMap_cons_some hact]
  exact ⟨t', labelledRun_singleton hstep, h⟩

end

theorem getSession_members (cookie : Option ℕ) : (a.getSession cookie).2.members = a.members := by
  unfold Accounts.getSession
  split <;> rfl

theorem getSession_nextId (cookie : Option ℕ) : (a.getSession cookie).2.nextId = a.nextId := by
  unfold Accounts.getSession
  split <;> rfl

/-- The first step of a request. -/
theorem arrive_linear (h : Tabulates encoder collate a t) (call : MemberCall) :
    ∃ t', LabelledRun (Step welcome) t
        ((arrive collate call a).1.said.filterMap (Decision.act encoder collate)) t' ∧
      Tabulates encoder collate (arrive collate call a).2 t' := by
  cases call with
  | signup request salt =>
      unfold arrive
      dsimp only
      rw [checkFree_outcome]
      split_ifs
      · cases hrow : a.row collate (collate request.studentNumber) with
        | none => exact linear_quiet h rfl rfl rfl
        | some member =>
            obtain ⟨account, hkey, -⟩ := h.lookup_some hrow
            exact linear_act rfl (.taken hkey) h
      · exact linear_quiet h rfl rfl rfl
  | login request cookie =>
      unfold arrive
      dsimp only
      split_ifs
      · exact linear_quiet h rfl (getSession_members cookie) (getSession_nextId cookie)
      · exact linear_quiet h rfl rfl rfl
  | getMemberInfo memberId =>
      unfold arrive
      dsimp only
      rw [getMemberInfo_outcome]
      cases hfind : a.findById memberId with
      | none =>
          refine linear_act rfl (.missing fun key account hkey hid => ?_) h
          obtain ⟨member, hrow, haccount⟩ := h.exists_row hkey
          have hne := List.find?_eq_none.mp hfind member (row_mem hrow)
          rw [← haccount.id, hid] at hne
          simp at hne
      | some member =>
          have hid : member.id = memberId := by simpa using List.find?_some hfind
          obtain ⟨account, hkey, haccount⟩ :=
            h.lookup_some (h.row_of_mem (List.mem_of_find?_eq_some hfind))
          have hstep : Step welcome t _ t := .found hkey
          rw [haccount.id, haccount.data, hid] at hstep
          exact linear_act rfl hstep h
  | checkStudentNumber studentNumber =>
      refine linear_act rfl (.checked ?_) h
      show (a.row collate (collate studentNumber)).isSome = _
      cases hrow : a.row collate (collate studentNumber) with
      | none =>
          rw [h.lookup_none hrow]
          rfl
      | some member =>
          obtain ⟨account, hkey, -⟩ := h.lookup_some hrow
          rw [hkey]
          rfl
  | page page cookie =>
      exact linear_quiet h rfl (getSession_members cookie) (getSession_nextId cookie)
  | logout cookie =>
      exact linear_quiet h rfl (getSession_members cookie) (getSession_nextId cookie)
  | expire sid => exact linear_quiet h rfl rfl rfl

/-- The insert of a sign-up. -/
theorem register_linear (h : Tabulates encoder collate a t) (request : SignupRequest) (salt : ℕ) :
    ∃ t', LabelledRun (Step welcome) t
        ([Decision.signup request
          (outcome ((MemberService.register encoder collate request salt).run a))].filterMap
            (Decision.act encoder collate)) t' ∧
      Tabulates encoder collate
        (final ((MemberService.register encoder collate request salt).run a)) t' := by
  have hregister : Registered encoder collate request salt a _ := register_outcome request salt a
  generalize (MemberService.register encoder collate request salt).run a = result at hregister
  cases hregister with
  | illegalArgument => exact linear_quiet h rfl rfl rfl
  | dataTooLong => exact linear_quiet h rfl rfl rfl
  | duplicate hrow =>
      obtain ⟨account, hkey, -⟩ := h.lookup_some hrow
      exact linear_act rfl (.taken hkey) (h.congr rfl (Nat.le_succ _))
  | inserted hencode hrow =>
      refine linear_act rfl (.registered (h.lookup_none hrow) fun key account hkey => ?_)
        (h.insert hencode hrow)
      -- The ids of the rows are below the next one.
      obtain ⟨member, hmember, haccount⟩ := h.exists_row hkey
      rw [haccount.id]
      exact Nat.ne_of_lt (h.fresh member (row_mem hmember))

/-- What `login` says of a request, to the registry. -/
theorem login_act (h : Tabulates encoder collate a t) (request : LoginRequest) (sid : ℕ) :
    ∃ act, (Decision.login request sid
        (outcome ((MemberService.login encoder collate request).run a))).act encoder collate
          = some act ∧ Step welcome t act t := by
  rw [login_outcome]
  cases hrow : a.row collate (collate request.studentNumber) with
  | none => exact ⟨_, rfl, .unknown (h.lookup_none hrow)⟩
  | some member =>
      obtain ⟨account, hkey, haccount⟩ := h.lookup_some hrow
      have hsecret := haccount.secret request.password
      dsimp only
      split_ifs with hmatch
      · rw [hmatch, eq_comm, decide_eq_true_eq] at hsecret
        have hstep : Step welcome t _ t := .authenticated hkey
        rw [haccount.id, haccount.data, ← hsecret] at hstep
        exact ⟨_, rfl, hstep⟩
      · rw [Bool.not_eq_true] at hmatch
        rw [hmatch, eq_comm, decide_eq_false_iff_not] at hsecret
        exact ⟨_, rfl, .denied hkey (Ne.symm hsecret)⟩

section
variable {sid : ℕ} {visit visit' : Visit} {a' : Accounts}

/-- A step with a session decides nothing for the registry … -/
theorem Touched.acts (h : Touched a sid visit visit' a') :
    visit'.said.filterMap (Decision.act encoder collate)
      = visit.said.filterMap (Decision.act encoder collate) := by
  cases h with
  | dead hdead =>
      show visit.said.head?.toList.filterMap _ = _
      rw [said_head?]
  | _ => rfl

/-- … and leaves the table. -/
theorem Touched.table (h : Touched a sid visit visit' a') :
    a'.members = a.members ∧ a'.nextId = a.nextId := by
  cases h <;> exact ⟨rfl, rfl⟩

theorem touched_linear (h : Tabulates encoder collate a t) (htouches : visit.touches = some sid) :
    ∃ t', LabelledRun (Step welcome) t
        ((visit.emit encoder collate a).filterMap (Decision.act encoder collate)) t' ∧
      Tabulates encoder collate (visit.next encoder collate a).2 t' := by
  have htouched : Touched a sid visit (visit.next encoder collate a).1
      (visit.next encoder collate a).2 := visit_touched htouches
  have hquiet : (visit.next encoder collate a).1.said.filterMap (Decision.act encoder collate)
      = visit.said.filterMap (Decision.act encoder collate) := htouched.acts
  rw [said_next, List.filterMap_append, List.append_right_eq_self] at hquiet
  exact linear_quiet h hquiet htouched.table.1 htouched.table.2

end

/-- **A step of a request, to the registry.** -/
theorem visit_linear (h : Tabulates encoder collate a t) (visit : Visit) :
    ∃ t', LabelledRun (Step welcome) t
        ((visit.emit encoder collate a).filterMap (Decision.act encoder collate)) t' ∧
      Tabulates encoder collate (visit.next encoder collate a).2 t' := by
  cases visit with
  | arrived call => exact arrive_linear h call
  | registering request salt => exact register_linear h request salt
  | loggingIn request sid =>
      obtain ⟨act, hact, hstep⟩ := login_act h request sid
      unfold Visit.emit Visit.said Visit.next
      dsimp only
      cases hlogin : outcome ((MemberService.login encoder collate request).run a) with
      | ok response =>
          rw [hlogin] at hact
          exact linear_act hact hstep h
      | error e =>
          rw [hlogin] at hact
          exact linear_act hact hstep h
  | settingId request sid response => exact touched_linear h rfl
  | settingName request sid response => exact touched_linear h rfl
  | readingId page sid => exact touched_linear h rfl
  | readingName sid memberId => exact touched_linear h rfl
  | invalidating sid => exact touched_linear h rfl
  | done decision =>
      refine linear_quiet h ?_ rfl rfl
      cases decision <;> rfl

end

/-! ## Every interleaving -/

section
variable {encoder : PasswordEncoder} {collate : String → String}

/-- What the registry sees of a run. -/
def registryActs (encoder : PasswordEncoder) (collate : String → String)
    (ds : List (ℕ × Decision)) : List MemberAct :=
  ds.filterMap fun d => d.2.act encoder collate

theorem decisions_linear (encoder : PasswordEncoder) (collate : String → String)
    (es : List (Event MemberCall)) :
    ∃ t, LabelledRun (Step welcome) Registry.empty
        (registryActs encoder collate (decisions encoder collate es)) t := by
  have hstep : ∀ visit a t, Tabulates encoder collate a t →
      ∃ t', LabelledRun (Step welcome) t
          ((Visit.emit encoder collate visit a).filterMap (Decision.act encoder collate)) t' ∧
        Tabulates encoder collate (Visit.next encoder collate visit a).2 t' :=
    fun visit _ _ h => visit_linear h visit
  obtain ⟨t, hrun, -⟩ := linearization hstep Tabulates.start es
  exact ⟨t, hrun⟩

/-- **The accounts are linearizable**: in every interleaving of requests the decisions of the
service are, in their order, a run of a registry of accounts.  Every request has one at most, and
it is the one that the request goes on with. -/
theorem accounts_linearizable (encoder : PasswordEncoder) (collate : String → String)
    (es : List (Event MemberCall)) :
    (∃ t, LabelledRun (Step welcome) Registry.empty
        (registryActs encoder collate (decisions encoder collate es)) t) ∧
      ∀ i, ofThread i (decisions encoder collate es)
          = (((run (visitStep encoder collate) ⟨.start, []⟩ es).threads[i]?).map
              Visit.said).getD [] ∧
        (ofThread i (decisions encoder collate es)).length ≤ 1 := by
  refine ⟨decisions_linear encoder collate es, fun i => ?_⟩
  have htold : ofThread i (decisions encoder collate es)
      = (((run (visitStep encoder collate) ⟨.start, []⟩ es).threads[i]?).map Visit.said).getD [] :=
    outputs_of_thread (fun _ => rfl) said_next .start es i
  refine ⟨htold, ?_⟩
  rw [htold]
  cases (run (visitStep encoder collate) ⟨.start, []⟩ es).threads[i]? with
  | none => exact Nat.zero_le 1
  | some visit =>
      show visit.said.length ≤ 1
      rw [← said_head?]
      cases visit.said.head? with
      | none => exact Nat.zero_le 1
      | some d => exact Nat.le_refl 1

/-- A decision that has registered an account. -/
theorem act_eq_registered {d : Decision} {key : String} {account : Account ℕ MemberInfo String} :
    d.act encoder collate = some (.registered key account) ↔
      ∃ request info, d = .signup request (.ok info) ∧ collate request.studentNumber = key ∧
        request.account encoder info.id = account := by
  constructor
  · intro h
    unfold Decision.act at h
    split at h
    case h_1 request info =>
      cases Option.some.inj h
      exact ⟨request, info, rfl, rfl, rfl⟩
    all_goals nomatch h
  · rintro ⟨request, info, rfl, rfl, rfl⟩
    rfl

/-- The accounts that were registered are those of the sign-ups. -/
theorem registered_mem_iff {ds : List (ℕ × Decision)} {key : String}
    {account : Account ℕ MemberInfo String} :
    Act.registered key account ∈ registryActs encoder collate ds ↔
      ∃ j request info, (j, Decision.signup request (.ok info)) ∈ ds ∧
        collate request.studentNumber = key ∧ request.account encoder info.id = account := by
  unfold registryActs
  rw [List.mem_filterMap]
  constructor
  · rintro ⟨⟨j, d⟩, hd, hact⟩
    obtain ⟨request, info, rfl, hkey, haccount⟩ := act_eq_registered.mp hact
    exact ⟨j, request, info, hd, hkey, haccount⟩
  · rintro ⟨j, request, info, hd, hkey, haccount⟩
    exact ⟨_, hd, act_eq_registered.mpr ⟨request, info, rfl, hkey, haccount⟩⟩

/-- Every answer to a login is one to the request for its number and its password. -/
theorem login_asks (request : LoginRequest) (sid : ℕ) (result : Except MemberError LoginResponse) :
    ∃ act, (Decision.login request sid result).act encoder collate = some act ∧
      act.Asks (collate request.studentNumber) (encoder.effective request.password) ∧
      ∀ response, result = .ok response ↔
        act = .authenticated (collate request.studentNumber) (encoder.effective request.password)
          response.memberId response := by
  cases result with
  | ok response' =>
      refine ⟨_, rfl, ⟨rfl, rfl⟩, fun response => ⟨?_, ?_⟩⟩
      · rintro ⟨rfl⟩
        rfl
      · intro heq
        rw [(Act.authenticated.inj heq).2.2.2]
  | error e =>
      -- An exception is `denied` or `unknown`, and both are answers to the request.
      cases e with
      | base code => cases code <;> exact ⟨_, rfl, ⟨rfl, rfl⟩, fun response => ⟨nofun, nofun⟩⟩
      | _ => exact ⟨_, rfl, ⟨rfl, rfl⟩, fun response => ⟨nofun, nofun⟩⟩

/-- A login is let in exactly if an account was registered before. -/
theorem login_ok_iff {es : List (Event MemberCall)} {before after : List (ℕ × Decision)}
    {i sid : ℕ} {request : LoginRequest} {result : Except MemberError LoginResponse}
    (h : decisions encoder collate es = before ++ (i, .login request sid result) :: after)
    (response : LoginResponse) :
    result = .ok response ↔
      ∃ info, welcome info = response ∧
        Act.registered (collate request.studentNumber)
            ⟨response.memberId, info, encoder.effective request.password⟩
          ∈ registryActs encoder collate before := by
  obtain ⟨t, hrun⟩ := decisions_linear encoder collate es
  obtain ⟨act, hact, hasks, hok⟩ : ∃ act, (Decision.login request sid result).act encoder collate
      = some act ∧ _ ∧ _ := login_asks request sid result
  have hacts : registryActs encoder collate (decisions encoder collate es)
      = registryActs encoder collate before ++ act :: registryActs encoder collate after := by
    simp only [registryActs, h, List.filterMap_append, List.filterMap_cons, hact]
  rw [hacts] at hrun
  rw [hok, authenticated_iff hrun hasks]

/-- **Who is let in**: in every interleaving of requests, a login is answered with an id and a name
exactly if a sign-up with the same student number (as the column compares them) and the same
password (as far as the encoder reads it) was answered before, with this id and for this name. -/
theorem login_iff_signup {es : List (Event MemberCall)} {before after : List (ℕ × Decision)}
    {i sid : ℕ} {request : LoginRequest} {result : Except MemberError LoginResponse}
    (h : decisions encoder collate es = before ++ (i, .login request sid result) :: after)
    (response : LoginResponse) :
    result = .ok response ↔
      ∃ j signup info, (j, Decision.signup signup (.ok info)) ∈ before ∧
        collate signup.studentNumber = collate request.studentNumber ∧
        encoder.effective signup.password = encoder.effective request.password ∧
        response = ⟨info.id, signup.name, "로그인 성공"⟩ := by
  rw [login_ok_iff h]
  constructor
  · rintro ⟨info, hwelcome, hmem⟩
    obtain ⟨j, signup, info', hd, hkey, haccount⟩ := registered_mem_iff.mp hmem
    obtain ⟨-, hinfo, hsecret⟩ := Account.mk.inj haccount
    rw [← hwelcome, ← hinfo]
    exact ⟨j, signup, info', hd, hkey, hsecret, rfl⟩
  · rintro ⟨j, signup, info, hd, hkey, hsecret, rfl⟩
    refine ⟨⟨info.id, signup.name, signup.studentNumber⟩, rfl,
      registered_mem_iff.mpr ⟨j, signup, info, hd, hkey, ?_⟩⟩
    rw [← hsecret]
    rfl

/-- An encoder that stores passwords of 72 characters at most as they are. -/
def sampleEncoder : PasswordEncoder where
  encode _ raw := if raw.length ≤ 72 then some raw else none
  isMatch raw stored := decide (raw = stored)
  effective raw := raw
  isMatch_encode := by
    intro salt raw raw' stored h
    obtain ⟨-, hsome⟩ := Option.ite_none_right_eq_some.mp h
    cases hsome
    rfl

/-- Two sign-ups for one number, both of which have found it free. -/
def sampleVisits : List (Event MemberCall) :=
  [.spawn (.signup ⟨"first", "20231234", "aaaa"⟩ 0),
    .spawn (.signup ⟨"second", "20231234", "bbbb"⟩ 0), .run 0, .run 1, .run 1, .run 0,
    .spawn (.login ⟨"20231234", "bbbb"⟩ none), .run 2, .run 2]

/-- The second one is registered, the first one is refused, and the password of the second one is
let in. -/
theorem login_iff_signup_race :
    decisions sampleEncoder id sampleVisits
        = [(1, .signup ⟨"second", "20231234", "bbbb"⟩ (.ok ⟨1, "second", "20231234"⟩)),
            (0, .signup ⟨"first", "20231234", "aaaa"⟩ (.error .duplicateEntry))]
          ++ (2, .login ⟨"20231234", "bbbb"⟩ 0 (.ok ⟨1, "second", "로그인 성공"⟩)) :: [] ∧
      ∃ j signup info, (j, Decision.signup signup (.ok info))
          ∈ [(1, Decision.signup ⟨"second", "20231234", "bbbb"⟩ (.ok ⟨1, "second", "20231234"⟩)),
            (0, .signup ⟨"first", "20231234", "aaaa"⟩ (.error .duplicateEntry))] ∧
        signup.studentNumber = "20231234" ∧ signup.password = "bbbb" ∧
        LoginResponse.mk 1 "second" "로그인 성공" = ⟨info.id, signup.name, "로그인 성공"⟩ := by
  have hrun : decisions sampleEncoder id sampleVisits
      = [(1, .signup ⟨"second", "20231234", "bbbb"⟩ (.ok ⟨1, "second", "20231234"⟩)),
          (0, .signup ⟨"first", "20231234", "aaaa"⟩ (.error .duplicateEntry))]
        ++ (2, .login ⟨"20231234", "bbbb"⟩ 0 (.ok ⟨1, "second", "로그인 성공"⟩)) :: [] := rfl
  exact ⟨hrun, (login_iff_signup hrun _).mp rfl⟩

end

end Cloud
