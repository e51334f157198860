/-
# Accounts

Model of `MemberServiceImpl` and of the requests of `MemberController` and `PageController` that
use it or the session, as threads over the table of the members and the sessions of the servlet
container.

`signup` asks whether the student number is free and inserts the member in a later step, and
`login` and the dashboard use two attributes of the session in two steps: between the steps of a
request there may be those of others.  `alone_signup` says that without others the steps of a
sign-up are the program `signup`.  `visit_touched` and `register_outcome` say once what a step
can do.

The outside is idealised in two places.  `PasswordEncoder` is BCrypt without collisions, and
`collate` is the collation of the column `student_number`: the database takes two numbers for
the same if it sends them to the same text.
-/
import CloudVpn.Interleaving
import CloudVpn.PageController

open Effects Interleaving Runs Traces

namespace Cloud

/-! ## The service -/

/-- `PasswordEncoder`.  `encode` takes a salt, and throws if the password is too long; passwords
match if the parts of them that are read are the same. -/
structure PasswordEncoder where
  encode : ℕ → String → Option String
  isMatch : String → String → Bool
  effective : String → String
  isMatch_encode : ∀ {salt : ℕ} {raw raw' stored : String}, encode salt raw' = some stored →
    isMatch raw stored = decide (effective raw = effective raw')

/-- The exceptions of the requests about members.  `duplicateEntry` and `dataTooLong` are the
causes of a `DataIntegrityViolationException`. -/
inductive MemberError where
  | base (code : ErrorStatus)
  | duplicateEntry
  | dataTooLong
  | illegalArgument
  deriving DecidableEq

/-- The table `member`, and the sessions by their numbers: one that was invalidated is `none`. -/
structure Accounts where
  members : List Member
  nextId : ℕ
  sessions : List (Option Session)

/-- The service before the first request. -/
def Accounts.start : Accounts := ⟨[], 1, []⟩

/-- A program of `MemberServiceImpl`. -/
abbrev MemberM := EStateM MemberError Accounts

/-- `@NotBlank`. -/
def notBlank (text : String) : Bool := text.toList.any (' ' < ·)

/-- The `length` of a string, which counts UTF-16 units. -/
def utf16Length (text : String) : ℕ :=
  text.toList.foldl (fun n c => if c.toNat < 0x10000 then n + 1 else n + 2) 0

/-- `SignupRequest`. -/
structure SignupRequest where
  name : String
  studentNumber : String
  password : String
  deriving DecidableEq

/-- The constraints on the fields of `SignupRequest`, with their messages. -/
def SignupRequest.constraints (request : SignupRequest) : List (String × String × Bool) :=
  [("name", "이름은 필수입니다", notBlank request.name),
    ("studentNumber", "학번은 필수입니다", notBlank request.studentNumber),
    ("password", "비밀번호는 필수입니다", notBlank request.password),
    ("password", "비밀번호는 최소 4자 이상이어야 합니다", 4 ≤ utf16Length request.password)]

/-- `LoginRequest`. -/
structure LoginRequest where
  studentNumber : String
  password : String
  deriving DecidableEq

/-- The constraints on the fields of `LoginRequest`, with their messages. -/
def LoginRequest.constraints (request : LoginRequest) : List (String × String × Bool) :=
  [("studentNumber", "학번은 필수입니다", notBlank request.studentNumber),
    ("password", "비밀번호는 필수입니다", notBlank request.password)]

/-- `@Valid`. -/
def passes (constraints : List (String × String × Bool)) : Bool :=
  constraints.all fun constraint => constraint.2.2

/-- `MemberInfo`. -/
structure MemberInfo where
  id : ℕ
  name : String
  studentNumber : String
  deriving DecidableEq

/-- `MemberInfo.from`. -/
def MemberInfo.ofMember (member : Member) : MemberInfo :=
  ⟨member.id, member.name, member.studentNumber⟩

/-- `LoginResponse`. -/
structure LoginResponse where
  memberId : ℕ
  name : String
  message : String
  deriving DecidableEq

section
variable (encoder : PasswordEncoder) (collate : String → String)

/-- The row with a student number, which is given as the database compares it. -/
def Accounts.row (a : Accounts) (key : String) : Option Member :=
  a.members.find? fun member => collate member.studentNumber == key

/-- `findByStudentNumber`. -/
def Accounts.findByStudentNumber (a : Accounts) (studentNumber : String) : Option Member :=
  a.row collate (collate studentNumber)

/-- `findById`. -/
def Accounts.findById (a : Accounts) (memberId : ℕ) : Option Member :=
  a.members.find? fun member => member.id == memberId

/-- The columns of a text have room for 255 characters. -/
def fitsColumn (text : String) : Bool := text.length ≤ 255

/-- `save` of a new member.  An insert that the unique column refuses has used up its id. -/
def saveMember (name studentNumber password : String) : MemberM Member := do
  let a ← get
  if [name, studentNumber, password].all fitsColumn then
    match a.findByStudentNumber collate studentNumber with
    | some _ =>
        set { a with nextId := a.nextId + 1 }
        throw .duplicateEntry
    | none =>
        let member : Member := ⟨a.nextId, name, studentNumber, password⟩
        set { a with members := member :: a.members, nextId := a.nextId + 1 }
        return member
  else throw .dataTooLong

namespace MemberService

/-- `existsByStudentNumber`. -/
def existsByStudentNumber (studentNumber : String) : MemberM Bool := do
  let a ← get
  return (a.findByStudentNumber collate studentNumber).isSome

/-- The first part of `signup`. -/
def checkFree (request : SignupRequest) : MemberM Unit := do
  let used ← existsByStudentNumber collate request.studentNumber
  if used then throw (.base .alreadyExist)

/-- The second part of `signup`. -/
def register (request : SignupRequest) (salt : ℕ) : MemberM MemberInfo := do
  match encoder.encode salt request.password with
  | none => throw .illegalArgument
  | some password =>
      let member ← saveMember collate request.name request.studentNumber password
      return MemberInfo.ofMember member

/-- `signup`. -/
def signup (request : SignupRequest) (salt : ℕ) : MemberM MemberInfo := do
  checkFree collate request
  register encoder collate request salt

/-- `login`. -/
def login (request : LoginRequest) : MemberM LoginResponse := do
  let a ← get
  match a.findByStudentNumber collate request.studentNumber with
  | none => throw (.base .notFound)
  | some member =>
      if encoder.isMatch request.password member.password then
        return ⟨member.id, member.name, "로그인 성공"⟩
      else throw (.base .unauthorized)

/-- `getMemberInfo`. -/
def getMemberInfo (memberId : ℕ) : MemberM MemberInfo := do
  let a ← get
  match a.findById memberId with
  | none => throw (.base .notFound)
  | some member => return MemberInfo.ofMember member

end MemberService

end

/-! ## Sessions -/

namespace Accounts

/-- The attributes of a session that is valid. -/
def session (a : Accounts) (sid : ℕ) : Option Session := (a.sessions[sid]?).join

/-- `getSession`: the session of the cookie, or a new one. -/
def getSession (a : Accounts) (cookie : Option ℕ) : ℕ × Accounts :=
  match cookie.filter fun sid => (a.session sid).isSome with
  | some sid => (sid, a)
  | none => (a.sessions.length, { a with sessions := a.sessions ++ [some ⟨none, none⟩] })

/-- The accounts with the attributes of a session replaced, or with the session gone. -/
def setSession (a : Accounts) (sid : ℕ) (session : Option Session) : Accounts :=
  { a with sessions := a.sessions.set sid session }

end Accounts

/-! ## Requests as threads -/

/-- The requests, with the salt of a new password and the number of the session in the cookie.
`expire` is the end of a session that nobody has used for long. -/
inductive MemberCall where
  | signup (request : SignupRequest) (salt : ℕ)
  | login (request : LoginRequest) (cookie : Option ℕ)
  | getMemberInfo (memberId : ℕ)
  | checkStudentNumber (studentNumber : String)
  | page (page : Page) (cookie : Option ℕ)
  | logout (cookie : Option ℕ)
  | expire (sid : ℕ)

/-- What has come of a request: the answer of the service, the attributes that a page has read in
its session, or the end of a session. -/
inductive Decision where
  | signup (request : SignupRequest) (result : Except MemberError MemberInfo)
  | login (request : LoginRequest) (sid : ℕ) (result : Except MemberError LoginResponse)
  | getMemberInfo (memberId : ℕ) (result : Except MemberError MemberInfo)
  | checkStudentNumber (studentNumber : String) (result : Except MemberError Bool)
  | page (page : Page) (sid : ℕ) (session : Session)
  | ended (sid : ℕ)

/-- The point that a request has reached: its next step, and what the earlier ones have found.
A request that was refused, or that has met a session without life, is `done` without a
decision. -/
inductive Visit where
  | arrived (call : MemberCall)
  | registering (request : SignupRequest) (salt : ℕ)
  | loggingIn (request : LoginRequest) (sid : ℕ)
  | settingId (request : LoginRequest) (sid : ℕ) (response : LoginResponse)
  | settingName (request : LoginRequest) (sid : ℕ) (response : LoginResponse)
  | readingId (page : Page) (sid : ℕ)
  | readingName (sid : ℕ) (memberId : ℕ)
  | invalidating (sid : ℕ)
  | done (decision : Option Decision)

/-- What a request has decided. -/
def Visit.said : Visit → List Decision
  | .settingId request sid response => [.login request sid (.ok response)]
  | .settingName request sid response => [.login request sid (.ok response)]
  | .done decision => decision.toList
  | _ => []

section
variable (encoder : PasswordEncoder) (collate : String → String)

/-- The first step: the validation, and the session that the handler asks for. -/
def arrive (call : MemberCall) (a : Accounts) : Visit × Accounts :=
  match call with
  | .signup request salt =>
      if passes request.constraints then
        match outcome ((MemberService.checkFree collate request).run a) with
        | .ok _ => (.registering request salt, a)
        | .error e => (.done (some (.signup request (.error e))), a)
      else (.done none, a)
  | .login request cookie =>
      if passes request.constraints then
        (.loggingIn request (a.getSession cookie).1, (a.getSession cookie).2)
      else (.done none, a)
  | .getMemberInfo memberId =>
      (.done (some (.getMemberInfo memberId
        (outcome ((MemberService.getMemberInfo memberId).run a)))), a)
  | .checkStudentNumber studentNumber =>
      (.done (some (.checkStudentNumber studentNumber
        (outcome ((MemberService.existsByStudentNumber collate studentNumber).run a)))), a)
  | .page page cookie => (.readingId page (a.getSession cookie).1, (a.getSession cookie).2)
  | .logout cookie => (.invalidating (a.getSession cookie).1, (a.getSession cookie).2)
  | .expire sid => (.invalidating sid, a)

/-- One step of a request.  Every call of the service but `signup` is one step: it reads the table
once. -/
def Visit.next : Visit → Accounts → Visit × Accounts
  | .arrived call, a => arrive collate call a
  | .registering request salt, a =>
      (.done (some (.signup request
        (outcome ((MemberService.register encoder collate request salt).run a)))),
        final ((MemberService.register encoder collate request salt).run a))
  | .loggingIn request sid, a =>
      match outcome ((MemberService.login encoder collate request).run a) with
      | .ok response => (.settingId request sid response, a)
      | .error e => (.done (some (.login request sid (.error e))), a)
  | .settingId request sid response, a =>
      match a.session sid with
      -- `IllegalStateException`
      | none => (.done (some (.login request sid (.ok response))), a)
      | some session =>
          (.settingName request sid response,
            a.setSession sid (some { session with memberId := some response.memberId }))
  | .settingName request sid response, a =>
      match a.session sid with
      | none => (.done (some (.login request sid (.ok response))), a)
      | some session =>
          (.done (some (.login request sid (.ok response))),
            a.setSession sid (some { session with memberName := some response.name }))
  | .readingId page sid, a =>
      match a.session sid with
      | none => (.done none, a)
      | some session =>
          match session.memberId, page with
          | none, _ => (.done (some (.page page sid ⟨none, none⟩)), a)
          | some memberId, .dashboard => (.readingName sid memberId, a)
          | some memberId, _ => (.done (some (.page page sid ⟨some memberId, none⟩)), a)
  | .readingName sid memberId, a =>
      match a.session sid with
      | none => (.done none, a)
      | some session =>
          (.done (some (.page .dashboard sid ⟨some memberId, session.memberName⟩)), a)
  | .invalidating sid, a =>
      match a.session sid with
      | none => (.done none, a)
      | some _ => (.done (some (.ended sid)), a.setSession sid none)
  | .done decision, a => (.done decision, a)

/-- What a step decides. -/
def Visit.emit (t : Visit) (a : Accounts) : List Decision :=
  match t.said with
  | [] => (t.next encoder collate a).1.said
  | _ => []

/-- One event: a request arrives or makes a step. -/
def visitStep : Pool Accounts Visit → Event MemberCall → Pool Accounts Visit :=
  step Visit.arrived (Visit.next encoder collate)

/-- What is decided in a run, with the number of the request. -/
def decisions (es : List (Event MemberCall)) : List (ℕ × Decision) :=
  outputs (stepOut Visit.arrived (Visit.next encoder collate) (Visit.emit encoder collate))
    ⟨.start, []⟩ es

end

/-! ## What can come of the calls -/

section
variable {encoder : PasswordEncoder} {collate : String → String} {a : Accounts}

/-- The session that the next step reads or changes. -/
def Visit.touches : Visit → Option ℕ
  | .settingId _ sid _ => some sid
  | .settingName _ sid _ => some sid
  | .readingId _ sid => some sid
  | .readingName sid _ => some sid
  | .invalidating sid => some sid
  | _ => none

/-- What can come of a step that reads or changes a session. -/
inductive Touched (a : Accounts) (sid : ℕ) : Visit → Visit → Accounts → Prop
  | dead {t : Visit} (hdead : a.session sid = none) : Touched a sid t (.done t.said.head?) a
  | setId {request : LoginRequest} {response : LoginResponse} {session : Session}
      (hsession : a.session sid = some session) :
      Touched a sid (.settingId request sid response) (.settingName request sid response)
        (a.setSession sid (some { session with memberId := some response.memberId }))
  | setName {request : LoginRequest} {response : LoginResponse} {session : Session}
      (hsession : a.session sid = some session) :
      Touched a sid (.settingName request sid response)
        (.done (some (.login request sid (.ok response))))
        (a.setSession sid (some { session with memberName := some response.name }))
  | redirected {page : Page} {session : Session} (hsession : a.session sid = some session)
      (hmember : session.memberId = none) :
      Touched a sid (.readingId page sid) (.done (some (.page page sid ⟨none, none⟩))) a
  | readId {session : Session} {memberId : ℕ} (hsession : a.session sid = some session)
      (hmember : session.memberId = some memberId) :
      Touched a sid (.readingId .dashboard sid) (.readingName sid memberId) a
  | shown {page : Page} {session : Session} {memberId : ℕ}
      (hsession : a.session sid = some session) (hmember : session.memberId = some memberId)
      (hpage : page ≠ .dashboard) :
      Touched a sid (.readingId page sid) (.done (some (.page page sid ⟨some memberId, none⟩))) a
  | readName {session : Session} {memberId : ℕ} (hsession : a.session sid = some session) :
      Touched a sid (.readingName sid memberId)
        (.done (some (.page .dashboard sid ⟨some memberId, session.memberName⟩))) a
  | ended {session : Session} (hsession : a.session sid = some session) :
      Touched a sid (.invalidating sid) (.done (some (.ended sid))) (a.setSession sid none)

theorem readingId_touched (page : Page) (sid : ℕ) :
    Touched a sid (.readingId page sid) ((Visit.readingId page sid).next encoder collate a).1
      ((Visit.readingId page sid).next encoder collate a).2 := by
  cases hsession : a.session sid with
  | none =>
      simp only [Visit.next, hsession]
      exact .dead hsession
  | some session =>
      cases hmember : session.memberId with
      | none =>
          simp only [Visit.next, hsession, hmember]
          exact .redirected hsession hmember
      | some memberId =>
          simp only [Visit.next, hsession, hmember]
          cases page with
          | dashboard => exact .readId hsession hmember
          | createVmPage => exact .shown hsession hmember Page.noConfusion
          | vmDetailPage vmId => exact .shown hsession hmember Page.noConfusion
          | vpnPage => exact .shown hsession hmember Page.noConfusion

/-- **Every step that reads or changes a session has one of the outcomes.** -/
theorem visit_touched {t : Visit} {sid : ℕ} (ht : t.touches = some sid) :
    Touched a sid t (t.next encoder collate a).1 (t.next encoder collate a).2 := by
  cases t with
  | readingId page sid' =>
      obtain rfl := Option.some.inj ht
      exact readingId_touched page sid'
  | settingId request sid' response =>
      obtain rfl := Option.some.inj ht
      cases hsession : a.session sid' with
      | none =>
          simp only [Visit.next, hsession]
          exact .dead hsession
      | some session =>
          simp only [Visit.next, hsession]
          exact .setId hsession
  | settingName request sid' response =>
      obtain rfl := Option.some.inj ht
      cases hsession : a.session sid' with
      | none =>
          simp only [Visit.next, hsession]
          exact .dead hsession
      | some session =>
          simp only [Visit.next, hsession]
          exact .setName hsession
  | readingName sid' memberId =>
      obtain rfl := Option.some.inj ht
      cases hsession : a.session sid' with
      | none =>
          simp only [Visit.next, hsession]
          exact .dead hsession
      | some session =>
          simp only [Visit.next, hsession]
          exact .readName hsession
  | invalidating sid' =>
      obtain rfl := Option.some.inj ht
      cases hsession : a.session sid' with
      | none =>
          simp only [Visit.next, hsession]
          exact .dead hsession
      | some session =>
          simp only [Visit.next, hsession]
          exact .ended hsession
  | _ => nomatch ht

/-- What a request has decided stays. -/
theorem said_next (t : Visit) (a : Accounts) :
    (t.next encoder collate a).1.said = t.said ++ t.emit encoder collate a := by
  cases hsaid : t.said with
  | nil =>
      unfold Visit.emit
      rw [hsaid]
      rfl
  | cons d ds =>
      have hemit : t.emit encoder collate a = [] := by
        unfold Visit.emit
        rw [hsaid]
      rw [hemit, List.append_nil, ← hsaid]
      cases t with
      | settingId request sid response =>
          unfold Visit.next
          dsimp only
          cases a.session sid <;> rfl
      | settingName request sid response =>
          unfold Visit.next
          dsimp only
          cases a.session sid <;> rfl
      | done decision => rfl
      | _ => nomatch hsaid

theorem said_head? (t : Visit) : t.said.head?.toList = t.said := by
  cases t with
  | done decision => cases decision <;> rfl
  | _ => rfl

/-- What can come of the second part of `signup`. -/
inductive Registered (encoder : PasswordEncoder) (collate : String → String)
    (request : SignupRequest) (salt : ℕ) (a : Accounts) :
    EStateM.Result MemberError Accounts MemberInfo → Prop
  | illegalArgument : Registered encoder collate request salt a (.error .illegalArgument a)
  | dataTooLong : Registered encoder collate request salt a (.error .dataTooLong a)
  | duplicate {member : Member}
      (hrow : a.row collate (collate request.studentNumber) = some member) :
      Registered encoder collate request salt a
        (.error .duplicateEntry { a with nextId := a.nextId + 1 })
  | inserted {password : String} (hencode : encoder.encode salt request.password = some password)
      (hrow : a.row collate (collate request.studentNumber) = none) :
      Registered encoder collate request salt a
        (.ok ⟨a.nextId, request.name, request.studentNumber⟩
          { a with
            members := ⟨a.nextId, request.name, request.studentNumber, password⟩ :: a.members
            nextId := a.nextId + 1 })

theorem register_outcome (request : SignupRequest) (salt : ℕ) (a : Accounts) :
    Registered encoder collate request salt a
      ((MemberService.register encoder collate request salt).run a) := by
  unfold MemberService.register
  cases hencode : encoder.encode salt request.password with
  | none => exact .illegalArgument
  | some password =>
      dsimp only
      unfold saveMember
      rw [EStateM.run_bind, EStateM.run_bind, EStateM.run_get]
      dsimp only
      split_ifs with hfits
      · cases hrow : a.row collate (collate request.studentNumber) with
        | none =>
            unfold Accounts.findByStudentNumber
            rw [hrow]
            exact .inserted hencode hrow
        | some member =>
            unfold Accounts.findByStudentNumber
            rw [hrow]
            exact .duplicate hrow
      · exact .dataTooLong

theorem existsByStudentNumber_run (studentNumber : String) :
    (MemberService.existsByStudentNumber collate studentNumber).run a
      = .ok (a.row collate (collate studentNumber)).isSome a := rfl

theorem checkFree_outcome (request : SignupRequest) :
    outcome ((MemberService.checkFree collate request).run a)
      = match a.row collate (collate request.studentNumber) with
        | none => .ok ()
        | some _ => .error (.base .alreadyExist) := by
  unfold MemberService.checkFree
  rw [EStateM.run_bind, existsByStudentNumber_run]
  cases a.row collate (collate request.studentNumber) <;> rfl

theorem login_outcome (request : LoginRequest) :
    outcome ((MemberService.login encoder collate request).run a)
      = match a.row collate (collate request.studentNumber) with
        | none => .error (.base .notFound)
        | some member =>
            if encoder.isMatch request.password member.password then
              .ok ⟨member.id, member.name, "로그인 성공"⟩
            else .error (.base .unauthorized) := by
  unfold MemberService.login Accounts.findByStudentNumber
  rw [EStateM.run_bind, EStateM.run_get]
  dsimp only
  cases a.row collate (collate request.studentNumber) with
  | none => rfl
  | some member =>
      dsimp only
      split_ifs <;> rfl

theorem getMemberInfo_outcome (memberId : ℕ) :
    outcome ((MemberService.getMemberInfo memberId).run a)
      = match a.findById memberId with
        | none => .error (.base .notFound)
        | some member => .ok (MemberInfo.ofMember member) := by
  unfold MemberService.getMemberInfo
  rw [EStateM.run_bind, EStateM.run_get]
  dsimp only
  cases a.findById memberId <;> rfl

theorem keeps_checkFree (request : SignupRequest) :
    Keeps id (MemberService.checkFree collate request) := by
  apply Keeps.bind (keeps_get.bind fun _ => keeps_pure _)
  intro used
  cases used with
  | true => exact keeps_throw _
  | false => exact keeps_pure _

/-- **A sign-up that runs alone.** -/
theorem alone_signup {request : SignupRequest} (hvalid : passes request.constraints = true)
    (salt : ℕ) (a : Accounts) :
    ∃ n, run (visitStep encoder collate) ⟨a, [.arrived (.signup request salt)]⟩
        (List.replicate n (.run 0))
      = ⟨final ((MemberService.signup encoder collate request salt).run a),
          [.done (some (.signup request
            (outcome ((MemberService.signup encoder collate request salt).run a))))]⟩ := by
  have harrive : (Visit.arrived (.signup request salt)).next encoder collate a
      = match outcome ((MemberService.checkFree collate request).run a) with
        | .ok _ => (.registering request salt, a)
        | .error e => (.done (some (.signup request (.error e))), a) := if_pos hvalid
  unfold MemberService.signup
  rw [EStateM.run_bind]
  cases hcheck : (MemberService.checkFree collate request).run a with
  | ok u a' =>
      -- The check changes nothing.
      have hsame : a' = a := (keeps_checkFree request).of_ok hcheck
      subst hsame
      refine ⟨2, ?_⟩
      unfold visitStep
      rw [run_alone, Function.iterate_succ_apply, Function.iterate_one]
      dsimp only
      rw [harrive, hcheck]
      rfl
  | error e a' =>
      have hsame : a' = a := (keeps_checkFree request).of_error hcheck
      subst hsame
      refine ⟨1, ?_⟩
      unfold visitStep
      rw [run_alone, Function.iterate_one]
      dsimp only
      rw [harrive, hcheck]
      rfl

end

end Cloud
