/-
# The pages of a member

Model of the pages of `PageController` that ask for a session, and of `getVm` and `getMyVms` of
`VmServiceImpl` that they call.  Both run in a read-only transaction: a status that `getVm` has
got from Proxmox is shown, but not written to the database.

The pages are compared on two portals that agree on one member and the VMs of that member
(`Agree`).  `getMyVms` asks for the VMs of the member, `getVm` for any id: so all pages are the
same on both, except the detail page of a VM that is not the member's own.
-/
import CloudVpn.VmService

open Effects

namespace Cloud

/-! ## The service -/

/-- `VmInfo`, with the fields of `VmSpecInfo` and the name in `SshInfo`. -/
structure VmInfo where
  id : ℕ
  proxmoxVmId : ℕ
  vmName : String
  internalIp : String
  status : VmStatus
  spec : Option VMSpec
  ssh : Option String
  createdAt : ℕ
  deriving DecidableEq

/-- `VmInfo.from`, with the column `created_at` of the rows. -/
def VmInfo.ofVMachine (createdAt : ℕ → ℕ) (vm : VMachine) : VmInfo where
  id := vm.id
  proxmoxVmId := vm.proxmoxVmId
  vmName := vm.vmName
  internalIp := vm.internalIp
  status := vm.status
  spec := vm.vmSpec
  ssh := vm.sshCredential.map (·.username)
  createdAt := createdAt vm.id

/-- `mapProxmoxStatus`. -/
def mapProxmoxStatus (proxmoxStatus : String) : VmStatus :=
  if proxmoxStatus.toLower = "running" then .running
  else if proxmoxStatus.toLower = "stopped" then .stopped
  else .error

/-- `findAllByMemberId`. -/
def Database.findAllByMemberId (db : Database) (memberId : ℕ) : List VMachine :=
  db.vms.filter fun vm => vm.memberId == memberId

namespace VmService

/-- `getVm`. -/
def getVm (net : ℕ → Exchange) (depth : ℕ) (createdAt : ℕ → ℕ) (vmId : ℕ) : Service VmInfo := do
  let b ← get
  match b.db.findById vmId with
  | none => throw (.base .notFound)
  | some vm =>
      let vm ← tryCatch (do
          let statusData ← api (getVmStatus net vm.proxmoxVmId depth)
          match statusData with
          | none => return vm
          | some data => return { vm with status := mapProxmoxStatus data.status })
        -- An exhausted stack is an `Error`, which is not caught.
        fun e => if e = .proxmox .stackOverflow then throw e else return vm
      return VmInfo.ofVMachine createdAt vm

/-- `getMyVms`. -/
def getMyVms (createdAt : ℕ → ℕ) (memberId : ℕ) : Service (List VmInfo) := do
  let b ← get
  return (b.db.findAllByMemberId memberId).map (VmInfo.ofVMachine createdAt)

end VmService

/-! ## The controller -/

/-- The attributes of the session that `login` sets. -/
structure Session where
  memberId : Option ℕ
  memberName : Option String

/-- The requests for the pages that ask for a session. -/
inductive Page where
  | dashboard
  | createVmPage
  | vmDetailPage (vmId : ℕ)
  | vpnPage

/-- The values that the controller puts into a model. -/
inductive Attribute where
  | text (value : Option String)
  | id (value : ℕ)
  | vm (value : VmInfo)
  | vms (value : List VmInfo)
  deriving DecidableEq

/-- The name of a view and its model. -/
structure View where
  name : String
  model : List (String × Attribute)
  deriving DecidableEq

/-- The handlers of `PageController`. -/
def handlePage (net : ℕ → Exchange) (depth : ℕ) (createdAt : ℕ → ℕ) (session : Session)
    (page : Page) : Service View :=
  match session.memberId with
  | none => return ⟨"redirect:/login", []⟩
  | some memberId =>
      match page with
      | .dashboard => do
          let vms ← VmService.getMyVms createdAt memberId
          return ⟨"dashboard", [("memberName", .text session.memberName),
            ("memberId", .id memberId), ("vms", .vms vms)]⟩
      | .createVmPage => return ⟨"vm-create", [("memberId", .id memberId)]⟩
      | .vmDetailPage vmId => do
          let vm ← VmService.getVm net depth createdAt vmId
          return ⟨"vm-detail", [("vm", .vm vm)]⟩
      | .vpnPage => return ⟨"vpn", [("memberId", .id memberId)]⟩

/-! ## Two portals -/

/-- A backend with the network behind it and the column `created_at` of its VMs, whose ids are a
primary key. -/
structure Portal where
  net : ℕ → Exchange
  backend : Backend
  createdAt : ℕ → ℕ
  keyed : (backend.db.vms.map (·.id)).Nodup

section
variable (depth : ℕ)

/-- What a page shows: a view, or an error. -/
def Portal.shows (portal : Portal) (session : Session) (page : Page) : Except ServiceError View :=
  outcome ((handlePage portal.net depth portal.createdAt session page).run portal.backend)

/-- What Proxmox answers to a request for the status of a VM. -/
def Portal.statusReply (portal : Portal) (proxmoxVmId : ℕ) : Except ApiError (Option StatusData) :=
  outcome ((getVmStatus portal.net proxmoxVmId depth).run portal.backend.proxmox)

/-- The VMs of a member. -/
def Portal.owned (portal : Portal) (memberId : ℕ) : List VMachine :=
  portal.backend.db.findAllByMemberId memberId

/-- The portals agree on a member, on the member's VMs and on their status at Proxmox. -/
structure Agree (memberId : ℕ) (s t : Portal) : Prop where
  member : s.backend.db.members.filter (·.id == memberId)
    = t.backend.db.members.filter (·.id == memberId)
  vms : s.owned memberId = t.owned memberId
  createdAt : ∀ vm ∈ s.owned memberId, s.createdAt vm.id = t.createdAt vm.id
  status : ∀ vm ∈ s.owned memberId,
    s.statusReply depth vm.proxmoxVmId = t.statusReply depth vm.proxmoxVmId

end

/-! ## What the pages show -/

/-- The status that `getVm` shows, from the reply of Proxmox and the status in the database. -/
def shownStatus (reply : Except ApiError (Option StatusData)) (stored : VmStatus) :
    Except ServiceError VmStatus :=
  match reply with
  | .ok (some data) => .ok (mapProxmoxStatus data.status)
  | .ok none => .ok stored
  | .error .stackOverflow => .error (.proxmox .stackOverflow)
  | .error _ => .ok stored

variable {depth : ℕ} {s t : Portal} {m vmId : ℕ} {vm : VMachine}

/-- What the detail page shows of a VM. -/
def detailView (createdAt : ℕ → ℕ) (vm : VMachine) (status : VmStatus) : View :=
  ⟨"vm-detail", [("vm", .vm (VmInfo.ofVMachine createdAt { vm with status := status }))]⟩

theorem shows_detail_none {session : Session} (hsession : session.memberId = some m)
    (h : s.backend.db.findById vmId = none) :
    s.shows depth session (.vmDetailPage vmId) = .error (.base .notFound) := by
  unfold Portal.shows handlePage VmService.getVm
  rw [hsession]
  dsimp only
  rw [EStateM.run_bind, EStateM.run_bind, EStateM.run_get]
  dsimp only
  rw [h]
  rfl

theorem shows_detail_some {session : Session} (hsession : session.memberId = some m)
    (h : s.backend.db.findById vmId = some vm) :
    s.shows depth session (.vmDetailPage vmId)
      = (shownStatus (s.statusReply depth vm.proxmoxVmId) vm.status).map
          (detailView s.createdAt vm) := by
  unfold Portal.shows handlePage VmService.getVm Portal.statusReply
  rw [hsession]
  dsimp only
  rw [EStateM.run_bind, EStateM.run_bind, EStateM.run_get]
  dsimp only
  rw [h]
  dsimp only
  rw [EStateM.run_bind, run_tryCatch, EStateM.run_bind]
  cases hreply : (getVmStatus s.net vm.proxmoxVmId depth).run s.backend.proxmox with
  | ok data proxmox =>
      rw [api_of_ok hreply]
      cases data with
      | none => rfl
      | some data => rfl
  | error e proxmox =>
      rw [api_of_error hreply]
      cases e <;> rfl

/-- The detail page of a VM that exists is not the error of one that does not. -/
theorem shows_detail_ne_notFound {session : Session} (hsession : session.memberId = some m)
    (h : s.backend.db.findById vmId = some vm) :
    s.shows depth session (.vmDetailPage vmId) ≠ .error (.base .notFound) := by
  rw [shows_detail_some hsession h]
  unfold shownStatus
  split <;> simp [Except.map]

theorem mem_owned : vm ∈ s.owned m ↔ vm ∈ s.backend.db.vms ∧ vm.memberId = m := by
  simp [Portal.owned, Database.findAllByMemberId]

/-- The id of a VM finds this VM. -/
theorem Portal.findById_of_mem (h : vm ∈ s.backend.db.vms) :
    s.backend.db.findById vm.id = some vm := by
  unfold Database.findById
  obtain ⟨vm', hfind⟩ : ∃ vm', s.backend.db.vms.find? (·.id == vm.id) = some vm' :=
    Option.isSome_iff_exists.mp (List.find?_isSome.mpr ⟨vm, h, by simp⟩)
  have hid : vm'.id = vm.id := by simpa using List.find?_some hfind
  rw [hfind, List.inj_on_of_nodup_map s.keyed (List.mem_of_find?_eq_some hfind) h hid]

/-- **The own pages are the same.** -/
theorem Agree.shows_eq (h : Agree depth m s t) {session : Session}
    (hsession : session.memberId = some m) {page : Page}
    (hown : ∀ vmId, page = .vmDetailPage vmId → ∃ vm ∈ s.owned m, vm.id = vmId) :
    s.shows depth session page = t.shows depth session page := by
  cases page with
  | createVmPage =>
      unfold Portal.shows handlePage
      rw [hsession]
      rfl
  | vpnPage =>
      unfold Portal.shows handlePage
      rw [hsession]
      rfl
  | dashboard =>
      have hlist : (s.owned m).map (VmInfo.ofVMachine s.createdAt)
          = (t.owned m).map (VmInfo.ofVMachine t.createdAt) := by
        rw [← h.vms]
        refine List.map_congr_left fun vm hvm => ?_
        unfold VmInfo.ofVMachine
        rw [h.createdAt vm hvm]
      have hshows : ∀ portal : Portal, portal.shows depth session .dashboard
          = .ok ⟨"dashboard", [("memberName", .text session.memberName), ("memberId", .id m),
              ("vms", .vms ((portal.owned m).map (VmInfo.ofVMachine portal.createdAt)))]⟩ := by
        intro portal
        unfold Portal.shows handlePage
        rw [hsession]
        rfl
      rw [hshows s, hshows t, hlist]
  | vmDetailPage vmId =>
      obtain ⟨vm, hvm, rfl⟩ := hown vmId rfl
      have hvm' : vm ∈ t.owned m := h.vms ▸ hvm
      rw [shows_detail_some hsession (s.findById_of_mem (mem_owned.mp hvm).1),
        shows_detail_some hsession (t.findById_of_mem (mem_owned.mp hvm').1), h.status vm hvm]
      have hview : detailView s.createdAt vm = detailView t.createdAt vm := by
        unfold detailView VmInfo.ofVMachine
        simp only [h.createdAt vm hvm]
      rw [hview]

/-! ## A VM of another member -/

/-- The portal without a VM. -/
def Portal.without (portal : Portal) (vmId : ℕ) : Portal where
  net := portal.net
  backend := { portal.backend with db := { portal.backend.db with
    vms := portal.backend.db.vms.filter fun vm => vm.id != vmId } }
  createdAt := portal.createdAt
  keyed := portal.keyed.sublist (List.filter_sublist.map _)

/-- The portal with a VM of another member under an id that is free. -/
def Portal.withVm (portal : Portal) (vm : VMachine) (hfree : vm.id ∉ portal.backend.db.vms.map (·.id)) :
    Portal where
  net := portal.net
  backend := { portal.backend with db := { portal.backend.db with
    vms := vm :: portal.backend.db.vms } }
  createdAt := portal.createdAt
  keyed := List.nodup_cons.mpr ⟨hfree, portal.keyed⟩

theorem agree_without (hvm : vm ∈ s.backend.db.vms) (hother : vm.memberId ≠ m) :
    Agree depth m s (s.without vm.id) := by
  have hvms : s.owned m = (s.without vm.id).owned m := by
    show s.backend.db.vms.filter _
      = (s.backend.db.vms.filter fun row => row.id != vm.id).filter fun row => row.memberId == m
    rw [List.filter_filter]
    refine List.filter_congr fun row hrow => ?_
    by_cases hmember : row.memberId = m
    · -- A VM of the member is not the one that is left out.
      have hne : row.id ≠ vm.id := by
        intro hid
        rw [List.inj_on_of_nodup_map s.keyed hrow hvm hid] at hmember
        exact hother hmember
      simp [hmember, hne]
    · simp [hmember]
  exact ⟨rfl, hvms, fun _ _ => rfl, fun _ _ => rfl⟩

theorem agree_withVm (hfree : vm.id ∉ s.backend.db.vms.map (·.id)) (hother : vm.memberId ≠ m) :
    Agree depth m s (s.withVm vm hfree) := by
  have hvms : s.owned m = (s.withVm vm hfree).owned m := by
    show s.backend.db.vms.filter (fun row => row.memberId == m)
      = (vm :: s.backend.db.vms).filter fun row => row.memberId == m
    rw [List.filter_cons_of_neg (by simpa using hother)]
  exact ⟨rfl, hvms, fun _ _ => rfl, fun _ _ => rfl⟩

/-- Whatever the detail page of a VM that is not the member's own shows, it shows something else
on a portal that agrees. -/
theorem exists_agree_shows_ne (depth : ℕ) (hown : ∀ vm ∈ s.owned m, vm.id ≠ vmId) {session : Session}
    (hsession : session.memberId = some m) :
    ∃ t, Agree depth m s t ∧
      s.shows depth session (.vmDetailPage vmId) ≠ t.shows depth session (.vmDetailPage vmId) := by
  cases hfind : s.backend.db.findById vmId with
  | none =>
      -- On the other portal a VM of another member has the id.
      let vm : VMachine := ⟨vmId, m + 1, 0, "", "", .stopped, none, none⟩
      have hfree : vm.id ∉ s.backend.db.vms.map (·.id) := by
        intro hmem
        obtain ⟨row, hrow, hid⟩ := List.mem_map.mp hmem
        exact List.find?_eq_none.mp hfind row hrow (by simpa using hid)
      have hfound : (s.withVm vm hfree).backend.db.findById vmId = some vm :=
        (s.withVm vm hfree).findById_of_mem List.mem_cons_self
      refine ⟨s.withVm vm hfree, agree_withVm hfree (Nat.succ_ne_self m), ?_⟩
      rw [shows_detail_none hsession hfind]
      exact (shows_detail_ne_notFound hsession hfound).symm
  | some vm =>
      -- On the other portal the VM does not exist.
      have hvm : vm ∈ s.backend.db.vms := List.mem_of_find?_eq_some hfind
      have hid : vm.id = vmId := by simpa using List.find?_some hfind
      have hother : vm.memberId ≠ m := fun hm => hown vm (mem_owned.mpr ⟨hvm, hm⟩) hid
      subst hid
      have hgone : (s.without vm.id).backend.db.findById vm.id = none := by
        refine List.find?_eq_none.mpr fun row hrow => ?_
        simpa using (List.mem_filter.mp hrow).2
      refine ⟨s.without vm.id, agree_without hvm hother, ?_⟩
      rw [shows_detail_none hsession hgone]
      exact shows_detail_ne_notFound hsession hfind

/-- **The pages show a member the own VMs only**: what a page shows is the same on all portals that
agree on the member, unless it is the detail page of a VM that is not the member's own. -/
theorem pages_show_own_iff (depth m : ℕ) (name : Option String) (page : Page) (s : Portal) :
    (∀ t, Agree depth m s t →
      s.shows depth ⟨some m, name⟩ page = t.shows depth ⟨some m, name⟩ page) ↔
    ∀ vmId, page = .vmDetailPage vmId → ∃ vm ∈ s.owned m, vm.id = vmId := by
  constructor
  · rintro hsame vmId rfl
    by_contra hnone
    have hown : ∀ vm ∈ s.owned m, vm.id ≠ vmId := fun vm hvm hid => hnone ⟨vm, hvm, hid⟩
    have hsession : (Session.mk (some m) name).memberId = some m := rfl
    obtain ⟨t, hagree, hne⟩ := exists_agree_shows_ne depth hown hsession
    exact hne (hsame t hagree)
  · exact fun hown t hagree => hagree.shows_eq rfl hown

/-- A portal where every request is served, with one VM of the second member. -/
def samplePortal : Portal where
  net := fun _ => ⟨false, .served, "", false, false, false⟩
  backend := ⟨startService sampleHost,
    ⟨[⟨1, "first", "20231234", "a"⟩, ⟨2, "second", "20235678", "b"⟩],
      [⟨7, 2, 100, "private", "10.8.0.9", .stopped, none, some ⟨"soongsil", "key"⟩⟩], 8⟩⟩
  createdAt := fun _ => 0
  keyed := by decide

/-- The first member sees the VM of the second, and would see that it does not exist. -/
theorem detail_of_foreign_vm :
    Agree 10 1 samplePortal (samplePortal.without 7) ∧
    samplePortal.shows 10 ⟨some 1, some "first"⟩ (.vmDetailPage 7)
      = .ok ⟨"vm-detail", [("vm", .vm ⟨7, 100, "private", "10.8.0.9", .stopped, none,
          some "soongsil", 0⟩)]⟩ ∧
    (samplePortal.without 7).shows 10 ⟨some 1, some "first"⟩ (.vmDetailPage 7)
      = .error (.base .notFound) := by
  have hvm : VMachine.mk 7 2 100 "private" "10.8.0.9" .stopped none (some ⟨"soongsil", "key"⟩)
      ∈ samplePortal.backend.db.vms := by decide
  exact ⟨agree_without hvm (by decide), rfl, rfl⟩

end Cloud
