/-
# Concurrent requests

The requests of the VM service as threads over one backend.  A `createVm` reads the next VM id,
chooses an address, clones, configures and saves, each in one atomic step; a `deleteVm` finds
the row, deletes the VM and deletes the row.  The database changes in the last step only, so
that a step that throws has nothing to undo: `alone_createVm` and `alone_deleteVm` say that a
thread that runs alone does what the transaction does.

An address is chosen among those that no row has, long before the row with it is saved, and
nothing keeps another thread from choosing it again.  `internalIps_unique_iff` says in which
interleavings this goes well.
-/
import CloudVpn.Interleaving
import CloudVpn.VmService

open Effects Interleaving Runs

namespace Cloud

/-! ## Threads -/

/-- The point that a request has reached: its next step, and what the earlier ones have
found. -/
inductive Thread where
  | choosing (request : CreateRequest)
  | allocating (request : CreateRequest) (newVmId : ℕ)
  | cloning (request : CreateRequest) (newVmId : ℕ) (internalIp : String)
  | configuring (request : CreateRequest) (newVmId : ℕ) (internalIp : String)
  | saving (request : CreateRequest) (newVmId : ℕ) (internalIp : String)
  | finding (vmId : ℕ)
  | removing (vm : VMachine)
  | erasing (vm : VMachine)
  | done

/-- The first step of a request. -/
def Thread.start : Request → Thread
  | .createVm request => .choosing request
  | .deleteVm vmId => .finding vmId

/-- The address that a request has chosen and not saved. -/
def Thread.address : Thread → Option String
  | .cloning _ _ internalIp => some internalIp
  | .configuring _ _ internalIp => some internalIp
  | .saving _ _ internalIp => some internalIp
  | _ => none

/-- The address that the next step saves. -/
def Thread.saves : Thread → Option String
  | .saving _ _ internalIp => some internalIp
  | _ => none

/-- The next step chooses an address. -/
def Thread.allocates : Thread → Bool
  | .allocating _ _ => true
  | _ => false

section
variable (net : ℕ → Exchange) (config : ProxmoxConfig) (depth : ℕ)

/-- The next step, as a program of the service. -/
def Thread.next : Thread → Service Thread
  | .choosing request => do
      let newVmId ← chooseVmId net config depth request
      return .allocating request newVmId
  | .allocating request newVmId => do
      let internalIp ← allocateInternalIp
      return .cloning request newVmId internalIp
  | .cloning request newVmId internalIp => do
      cloneAndWait net config request newVmId
      return .configuring request newVmId internalIp
  | .configuring request newVmId internalIp => do
      tryCatch (configureVm net request newVmId internalIp) fun _ => pure ()
      return .saving request newVmId internalIp
  | .saving request newVmId internalIp => do
      let _ ← saveVm request newVmId internalIp
      return .done
  | .finding vmId => do
      let b ← get
      match b.db.findById vmId with
      | none => throw (.base .notFound)
      | some vm => return .removing vm
  | .removing vm => do
      let _ ← api (Cloud.deleteVm net vm.proxmoxVmId)
      return .erasing vm
  | .erasing vm => do
      modify fun b => { b with db := b.db.delete vm.id }
      return .done
  | .done => return .done

/-- One step of a thread; an exception ends it. -/
def advance (t : Thread) (b : Backend) : Thread × Backend :=
  match (t.next net config depth).run b with
  | .ok t' b' => (t', b')
  | .error _ b' => (.done, b')

/-- One event of the service. -/
def serverStep : Pool Backend Thread → Event Request → Pool Backend Thread :=
  step Thread.start (advance net config depth)

end

/-! ## What a step can do -/

/-- What can come of a step of a thread, for the addresses. -/
inductive Advanced (b : Backend) : Thread → Thread → Backend → Prop
  | kept {t t' : Thread} {b' : Backend} (hdb : b'.db = b.db) (hsaves : t.saves = none)
      (haddress : t'.address = t.address ∨ t'.address = none) : Advanced b t t' b'
  | chose {request : CreateRequest} {newVmId : ℕ} {internalIp : String}
      (hcandidate : internalIp ∈ candidateIps)
      (hfresh : internalIp ∉ b.db.findAllUsedInternalIps) :
      Advanced b (.allocating request newVmId) (.cloning request newVmId internalIp) b
  | saved {request : CreateRequest} {newVmId : ℕ} {internalIp : String} {b' : Backend}
      (hdb : b'.db = b.db.save (newVMachine request newVmId internalIp)) :
      Advanced b (.saving request newVmId internalIp) .done b'
  | erased {vm : VMachine} {b' : Backend} (hdb : b'.db = b.db.delete vm.id) :
      Advanced b (.erasing vm) .done b'

section
variable {net : ℕ → Exchange} {config : ProxmoxConfig} {depth : ℕ}

section
variable {α : Type} {t : Thread} {k : α → Thread} {m : Service α} {b b' : Backend}

/-- A step whose program returns … -/
theorem advance_of_ok (hnext : t.next net config depth = (do let a ← m; return k a)) {a : α}
    (hrun : m.run b = .ok a b') : advance net config depth t b = (k a, b') := by
  unfold advance
  rw [hnext, EStateM.run_bind, hrun]
  rfl

/-- … and one whose program throws. -/
theorem advance_of_error (hnext : t.next net config depth = (do let a ← m; return k a))
    {e : ServiceError} (hrun : m.run b = .error e b') :
    advance net config depth t b = (.done, b') := by
  unfold advance
  rw [hnext, EStateM.run_bind, hrun]

end

/-- A step that goes on to a thread with the same address, or fails, and leaves the database. -/
theorem advanced_of_keeps {α : Type} (t : Thread) (k : α → Thread) {m : Service α}
    (hm : Keeps dbOf m) (hnext : t.next net config depth = (do let a ← m; return k a))
    (hsaves : t.saves = none) (hk : ∀ a, (k a).address = t.address) (b : Backend) :
    Advanced b t (advance net config depth t b).1 (advance net config depth t b).2 := by
  cases hrun : m.run b with
  | ok a b' =>
      rw [advance_of_ok hnext hrun]
      exact .kept (hm.of_ok hrun) hsaves (Or.inl (hk a))
  | error e b' =>
      rw [advance_of_error hnext hrun]
      exact .kept (hm.of_error hrun) hsaves (Or.inr rfl)

/-- **Every step has one of the outcomes.** -/
theorem advance_outcome (t : Thread) (b : Backend) :
    Advanced b t (advance net config depth t b).1 (advance net config depth t b).2 := by
  cases t with
  | choosing request =>
      exact advanced_of_keeps (.choosing request) (.allocating request) keeps_chooseVmId_db rfl rfl
        (fun _ => rfl) b
  | allocating request newVmId =>
      cases hrun : allocateInternalIp.run b with
      | ok internalIp b' =>
          rw [advance_of_ok rfl hrun]
          obtain ⟨rfl, hcandidate, hfresh⟩ := allocateInternalIp_eq_ok hrun
          exact .chose hcandidate hfresh
      | error e b' =>
          have hsame : b' = b := keeps_allocateInternalIp.of_error hrun
          rw [advance_of_error rfl hrun]
          exact .kept (by rw [hsame]) rfl (Or.inr rfl)
  | cloning request newVmId internalIp =>
      exact advanced_of_keeps (.cloning request newVmId internalIp)
        (fun _ => .configuring request newVmId internalIp) (keeps_cloneAndWait_db newVmId) rfl rfl
        (fun _ => rfl) b
  | configuring request newVmId internalIp =>
      exact advanced_of_keeps (.configuring request newVmId internalIp)
        (fun _ => .saving request newVmId internalIp)
        ((keeps_configureVm_db newVmId internalIp).tryCatch fun _ => keeps_pure ()) rfl rfl
        (fun _ => rfl) b
  | saving request newVmId internalIp => exact .saved rfl
  | finding vmId =>
      unfold advance Thread.next
      dsimp only
      rw [EStateM.run_bind, EStateM.run_get]
      dsimp only
      cases b.db.findById vmId with
      | none => exact .kept rfl rfl (Or.inr rfl)
      | some vm => exact .kept rfl rfl (Or.inl rfl)
  | removing vm =>
      exact advanced_of_keeps (.removing vm) (fun _ => .erasing vm) (keeps_api_db _) rfl rfl
        (fun _ => rfl) b
  | erasing vm => exact .erased rfl
  | done => exact .kept rfl rfl (Or.inl rfl)

/-! ## A thread that runs alone -/

theorem backend_eta {b b' : Backend} (hdb : b'.db = b.db) : (⟨b'.proxmox, b.db⟩ : Backend) = b' := by
  rw [← hdb]

/-- **Alone, a `createVm`** does in five steps what the transaction does. -/
theorem alone_createVm (request : CreateRequest) (b : Backend) :
    run (serverStep net config depth) ⟨b, [Thread.start (.createVm request)]⟩
        (List.replicate 5 (.run 0))
      = ⟨final ((VmService.createVm net config depth request).run b), [.done]⟩ := by
  have hout : Created net config depth request b _ := createVm_outcome net config depth request b
  unfold serverStep
  rw [run_alone]
  simp only [Function.iterate_succ_apply, Function.iterate_zero, id_eq, Thread.start]
  generalize (VmService.createVm net config depth request).run b = result at hout
  have hdone : ∀ b, advance net config depth .done b = (.done, b) := fun _ => rfl
  cases hout with
  | @unchosen e b₁ hchoose =>
      have h₁ : advance net config depth (.choosing request) b = (.done, b₁) :=
        advance_of_error rfl hchoose
      simp only [h₁, hdone, final_error, backend_eta (keeps_chooseVmId_db.of_error hchoose)]
  | @noAddress newVmId e b₁ hchoose hip =>
      have h₁ : advance net config depth (.choosing request) b = (.allocating request newVmId, b₁) :=
        advance_of_ok rfl hchoose
      have h₂ : advance net config depth (.allocating request newVmId) b₁ = (.done, b₁) :=
        advance_of_error rfl hip
      simp only [h₁, h₂, hdone, final_error, backend_eta (keeps_chooseVmId_db.of_ok hchoose)]
  | @uncloned newVmId internalIp e b₁ b₂ hchoose hip hclone =>
      have h₁ : advance net config depth (.choosing request) b = (.allocating request newVmId, b₁) :=
        advance_of_ok rfl hchoose
      have h₂ : advance net config depth (.allocating request newVmId) b₁
          = (.cloning request newVmId internalIp, b₁) := advance_of_ok rfl hip
      have h₃ : advance net config depth (.cloning request newVmId internalIp) b₁ = (.done, b₂) :=
        advance_of_error rfl hclone
      have hdb : b₂.db = b.db :=
        ((keeps_cloneAndWait_db newVmId).of_error hclone).trans (keeps_chooseVmId_db.of_ok hchoose)
      simp only [h₁, h₂, h₃, hdone, final_error, backend_eta hdb]
  | @created newVmId internalIp b₁ b₂ hchoose hip hclone =>
      let b₃ := final ((configureVm net request newVmId internalIp).run b₂)
      have h₁ : advance net config depth (.choosing request) b = (.allocating request newVmId, b₁) :=
        advance_of_ok rfl hchoose
      have h₂ : advance net config depth (.allocating request newVmId) b₁
          = (.cloning request newVmId internalIp, b₁) := advance_of_ok rfl hip
      have h₃ : advance net config depth (.cloning request newVmId internalIp) b₁
          = (.configuring request newVmId internalIp, b₂) :=
        advance_of_ok (k := fun _ => .configuring request newVmId internalIp) rfl hclone
      have h₄ : advance net config depth (.configuring request newVmId internalIp) b₂
          = (.saving request newVmId internalIp, b₃) :=
        advance_of_ok (k := fun _ => .saving request newVmId internalIp) rfl (run_swallow _ b₂)
      have h₅ : advance net config depth (.saving request newVmId internalIp) b₃
          = (.done, ⟨b₃.proxmox, b₃.db.save (newVMachine request newVmId internalIp)⟩) := rfl
      have hdb : b₃.db = b.db :=
        (keeps_configureVm_db newVmId internalIp b₂).trans
          (((keeps_cloneAndWait_db newVmId).of_ok hclone).trans (keeps_chooseVmId_db.of_ok hchoose))
      simp only [h₁, h₂, h₃, h₄, h₅, hdb, final_ok]
      rfl

/-- **Alone, a `deleteVm`** does in three steps what the transaction does. -/
theorem alone_deleteVm (vmId : ℕ) (b : Backend) :
    run (serverStep net config depth) ⟨b, [Thread.start (.deleteVm vmId)]⟩
        (List.replicate 3 (.run 0))
      = ⟨final ((VmService.deleteVm net vmId).run b), [.done]⟩ := by
  have hout : Deleted net vmId b _ := deleteVm_outcome net vmId b
  unfold serverStep
  rw [run_alone]
  simp only [Function.iterate_succ_apply, Function.iterate_zero, id_eq, Thread.start]
  generalize (VmService.deleteVm net vmId).run b = result at hout
  have hdone : ∀ b, advance net config depth .done b = (.done, b) := fun _ => rfl
  cases hout with
  | notFound hfind =>
      have h₁ : advance net config depth (.finding vmId) b = (.done, b) := by
        simp only [advance, Thread.next, EStateM.run_bind, EStateM.run_get, hfind, run_throw]
      simp only [h₁, hdone, final_error]
  | @failed vm e proxmox hfind hdelete =>
      have h₁ : advance net config depth (.finding vmId) b = (.removing vm, b) := by
        simp only [advance, Thread.next, EStateM.run_bind, EStateM.run_get, hfind, EStateM.run_pure]
      have h₂ : advance net config depth (.removing vm) b = (.done, ⟨proxmox, b.db⟩) :=
        advance_of_error rfl (api_of_error hdelete)
      simp only [h₁, h₂, hdone, final_error]
  | @deleted vm upid proxmox hfind hdelete =>
      have h₁ : advance net config depth (.finding vmId) b = (.removing vm, b) := by
        simp only [advance, Thread.next, EStateM.run_bind, EStateM.run_get, hfind, EStateM.run_pure]
      have h₂ : advance net config depth (.removing vm) b = (.erasing vm, ⟨proxmox, b.db⟩) :=
        advance_of_ok (k := fun _ => .erasing vm) rfl (api_of_ok hdelete)
      have h₃ : advance net config depth (.erasing vm) ⟨proxmox, b.db⟩
          = (.done, ⟨proxmox, b.db.delete vm.id⟩) := rfl
      simp only [h₁, h₂, h₃, final_ok]

end

/-! ## Addresses -/

/-- No two rows have the same address. -/
def UniqueIps (s : Pool Backend Thread) : Prop := s.shared.db.findAllUsedInternalIps.Nodup

instance (s : Pool Backend Thread) : Decidable (UniqueIps s) := by
  unfold UniqueIps
  infer_instance

/-- The addresses that requests have chosen and not saved. -/
def heldIps (threads : List Thread) : List String := threads.filterMap Thread.address

/-- A row that is saved has an address that no other row has. -/
def SavesFresh (s : Pool Backend Thread) : Event Request → Prop
  | .spawn _ => True
  | .run i =>
      ∀ t ∈ s.threads[i]?, ∀ internalIp ∈ t.saves,
        internalIp ∉ s.shared.db.findAllUsedInternalIps

/-- An address is chosen only while no other request holds one. -/
def Exclusive (s : Pool Backend Thread) : Event Request → Prop
  | .spawn _ => True
  | .run i => ∀ t ∈ s.threads[i]?, t.allocates = true → heldIps s.threads = []

instance (s : Pool Backend Thread) (e : Event Request) : Decidable (Exclusive s e) := by
  cases e with
  | spawn request => exact inferInstanceAs (Decidable True)
  | run i =>
      exact inferInstanceAs (Decidable (∀ t ∈ s.threads[i]?, t.allocates = true →
        heldIps s.threads = []))

theorem used_save (db : Database) (vm : VMachine) :
    (db.save vm).findAllUsedInternalIps = vm.internalIp :: db.findAllUsedInternalIps := rfl

theorem used_delete (db : Database) (vmId : ℕ) :
    (db.delete vmId).findAllUsedInternalIps.Sublist db.findAllUsedInternalIps :=
  List.eraseP_sublist.map _

theorem heldIps_middle (before after : List Thread) (t : Thread) :
    heldIps (before ++ t :: after) = heldIps before ++ (t.address.toList ++ heldIps after) := by
  unfold heldIps
  rw [List.filterMap_append, List.filterMap_cons]
  cases t.address <;> rfl

/-- A request holds no address when it arrives. -/
theorem heldIps_spawn (threads : List Thread) (request : Request) :
    heldIps (threads ++ [Thread.start request]) = heldIps threads := by
  unfold heldIps
  rw [List.filterMap_append]
  cases request <;> simp [Thread.start, Thread.address]

/-- What can come of an event, for the addresses of the rows and those that are held: some are
dropped, one is chosen, or one that was held is saved. -/
inductive AddressesStepped (s : Pool Backend Thread) :
    Event Request → Pool Backend Thread → Prop
  | dropped {e : Event Request} {s' : Pool Backend Thread}
      (hsaves : ∀ i, e = .run i → ∀ t ∈ s.threads[i]?, t.saves = none)
      (hused : s'.shared.db.findAllUsedInternalIps.Sublist s.shared.db.findAllUsedInternalIps)
      (hheld : (heldIps s'.threads).Sublist (heldIps s.threads)) : AddressesStepped s e s'
  | chose {i : ℕ} {t : Thread} {internalIp : String} {s' : Pool Backend Thread}
      (hi : s.threads[i]? = some t) (hallocates : t.allocates = true)
      (hcandidate : internalIp ∈ candidateIps)
      (hfresh : internalIp ∉ s.shared.db.findAllUsedInternalIps)
      (hused : s'.shared.db.findAllUsedInternalIps = s.shared.db.findAllUsedInternalIps)
      (hheld : (heldIps s'.threads).Perm (internalIp :: heldIps s.threads)) :
      AddressesStepped s (.run i) s'
  | saved {i : ℕ} {t : Thread} {internalIp : String} {s' : Pool Backend Thread}
      (hi : s.threads[i]? = some t) (hsaves : t.saves = some internalIp)
      (hused : s'.shared.db.findAllUsedInternalIps
        = internalIp :: s.shared.db.findAllUsedInternalIps)
      (hheld : (heldIps s.threads).Perm (internalIp :: heldIps s'.threads)) :
      AddressesStepped s (.run i) s'

theorem saves_of_allocates {t : Thread} (h : t.allocates = true) : t.saves = none := by
  cases t with
  | saving _ _ _ => cases h
  | _ => rfl

/-- A step of a thread, seen in the pool. -/
theorem Advanced.addresses {s : Pool Backend Thread} {i : ℕ} {before after : List Thread}
    {t t' : Thread} {b' : Backend} (h : Advanced s.shared t t' b') (hi : s.threads[i]? = some t)
    (hthreads : s.threads = before ++ t :: after) :
    AddressesStepped s (.run i) ⟨b', before ++ t' :: after⟩ := by
  have hheld : heldIps s.threads = heldIps before ++ (t.address.toList ++ heldIps after) := by
    rw [hthreads, heldIps_middle]
  have hheld' := heldIps_middle before after t'
  have hsaves : t.saves = none → ∀ j, (Event.run i : Event Request) = .run j →
      ∀ u ∈ s.threads[j]?, u.saves = none := by
    rintro hnone j hj u hu
    cases hj
    cases hi.symm.trans hu
    exact hnone
  cases h with
  | kept hdb hnone haddress =>
      refine .dropped (hsaves hnone) (by rw [hdb]) ?_
      rw [hheld, hheld']
      rcases haddress with hsame | hnone
      · rw [hsame]
      · rw [hnone]
        simp
  | @chose request newVmId internalIp hcandidate hfresh =>
      refine .chose hi rfl hcandidate hfresh rfl ?_
      rw [hheld, hheld']
      exact List.perm_middle
  | @saved request newVmId internalIp _ hdb =>
      refine .saved hi rfl (by rw [hdb, used_save]; rfl) ?_
      rw [hheld, hheld']
      exact List.perm_middle
  | erased hdb =>
      refine .dropped (hsaves rfl) (by rw [hdb]; exact used_delete _ _) ?_
      rw [hheld, hheld']
      exact List.Sublist.refl _

/-- The addresses of the rows and those that are held are all different. -/
def IpsDisjoint (s : Pool Backend Thread) : Prop :=
  (s.shared.db.findAllUsedInternalIps ++ heldIps s.threads).Nodup

section
variable {net : ℕ → Exchange} {config : ProxmoxConfig} {depth : ℕ}

/-- **Every event has one of the outcomes.** -/
theorem serverStep_addresses (s : Pool Backend Thread) (e : Event Request) :
    AddressesStepped s e (serverStep net config depth s e) := by
  cases e with
  | spawn request =>
      refine .dropped (fun i h => nomatch h) (List.Sublist.refl _) ?_
      exact (heldIps_spawn s.threads request) ▸ List.Sublist.refl _
  | run i =>
      cases hi : s.threads[i]? with
      | none =>
          have hsame : serverStep net config depth s (.run i) = s := step_idle hi
          rw [hsame]
          refine .dropped (fun j hj t ht => ?_) (List.Sublist.refl _) (List.Sublist.refl _)
          cases hj
          rw [hi] at ht
          cases ht
      | some t =>
          obtain ⟨before, after, hthreads, hstep⟩ := step_run hi
          have hstep' : serverStep net config depth s (.run i) = _ := hstep
          rw [hstep']
          exact (advance_outcome t s.shared).addresses hi hthreads

/-- **One event keeps the rows' addresses different** exactly if it saves no address twice. -/
theorem uniqueIps_step_iff {s : Pool Backend Thread} (hs : UniqueIps s) (e : Event Request) :
    UniqueIps (serverStep net config depth s e) ↔ SavesFresh s e := by
  have hout : AddressesStepped s e (serverStep net config depth s e) := serverStep_addresses s e
  unfold UniqueIps at hs ⊢
  generalize serverStep net config depth s e = s' at hout
  cases hout with
  | dropped hsaves hused _ =>
      refine ⟨fun _ => ?_, fun _ => hs.sublist hused⟩
      cases e with
      | spawn request => trivial
      | run i => exact fun t ht ip hip => absurd hip (by simp [hsaves i rfl t ht])
  | chose hi hallocates _ _ hused _ =>
      rw [hused]
      refine ⟨fun _ t ht ip hip => ?_, fun _ => hs⟩
      cases hi.symm.trans ht
      exact absurd hip (by simp [saves_of_allocates hallocates])
  | @saved i t internalIp s' hi hsaves hused _ =>
      rw [hused, List.nodup_cons]
      refine ⟨fun h t' ht' ip hip => ?_, fun h => ⟨h t hi internalIp hsaves, hs⟩⟩
      cases hi.symm.trans ht'
      cases hsaves.symm.trans hip
      exact h.1

/-- **One exclusive event keeps the addresses disjoint.** -/
theorem ipsDisjoint_step {s : Pool Backend Thread} {e : Event Request} (hs : IpsDisjoint s)
    (hexclusive : Exclusive s e) : IpsDisjoint (serverStep net config depth s e) := by
  have hout : AddressesStepped s e (serverStep net config depth s e) := serverStep_addresses s e
  unfold IpsDisjoint at hs ⊢
  generalize serverStep net config depth s e = s' at hout
  cases hout with
  | dropped _ hused hheld => exact hs.sublist (hused.append hheld)
  | chose hi hallocates _ hfresh hused hheld =>
      -- Nobody holds an address, so the new one is the only one.
      have hnone : heldIps s.threads = [] := hexclusive _ hi hallocates
      rw [hnone] at hs hheld
      rw [hused, List.perm_singleton.mp hheld, List.nodup_append_comm]
      exact List.nodup_cons.mpr ⟨hfresh, hs.of_append_left⟩
  | saved _ _ hused hheld =>
      -- The address moves from those that are held to those of the rows.
      rw [hused]
      exact ((hheld.append_left _).trans List.perm_middle).nodup_iff.mp hs

/-- **When the addresses of the rows are unique throughout a run** from an empty table: it is
enough that the requests choose their addresses one at a time, only while no other request holds
an address that it has not saved.  They are unique exactly if no address is saved that a row
has. -/
theorem internalIps_unique_iff {b : Backend} (hempty : b.db.vms = []) (events : List (Event Request)) :
    (Along (serverStep net config depth) Exclusive ⟨b, []⟩ events →
        Throughout (serverStep net config depth) UniqueIps ⟨b, []⟩ events) ∧
      (Throughout (serverStep net config depth) UniqueIps ⟨b, []⟩ events ↔
        Along (serverStep net config depth) SavesFresh ⟨b, []⟩ events) := by
  have hnone : b.db.findAllUsedInternalIps = [] := by
    unfold Database.findAllUsedInternalIps
    rw [hempty, List.map_nil]
  have hunique : UniqueIps ⟨b, []⟩ := by
    unfold UniqueIps
    dsimp only
    rw [hnone]
    exact List.nodup_nil
  have hdisjoint : IpsDisjoint ⟨b, []⟩ := by
    unfold IpsDisjoint
    dsimp only
    rw [hnone]
    exact List.nodup_nil
  constructor
  · exact Along.throughout (I := IpsDisjoint) (fun s hs => hs.of_append_left)
      (fun s e hs he => ipsDisjoint_step hs he) hdisjoint
  · exact throughout_iff_along_of_step (P := UniqueIps) (fun s e hs => uniqueIps_step_iff hs e)
      hunique events

end

/-! ## Samples -/

/-- Requests that are all served. -/
def servingNet (_ : ℕ) : Exchange := ⟨false, .served, "UPID", false, true, false⟩

/-- Two requests, one after the other. -/
def oneByOne : List (Event Request) :=
  [.spawn (.createVm plainRequest), .spawn (.createVm plainRequest)] ++
    List.replicate 5 (.run 0) ++ List.replicate 5 (.run 1)

/-- Two requests, the second of which begins while the first one configures its VM. -/
def overlapping : List (Event Request) :=
  [.spawn (.createVm plainRequest), .spawn (.createVm plainRequest)] ++
    List.replicate 3 (.run 0) ++ List.replicate 3 (.run 1) ++
    List.replicate 2 (.run 0) ++ List.replicate 2 (.run 1)

/-- Requests that do not overlap. -/
theorem internalIps_unique_oneByOne :
    Throughout (serverStep servingNet ⟨201⟩ 10) UniqueIps ⟨startBackend sampleHost, []⟩ oneByOne :=
  (internalIps_unique_iff rfl oneByOne).1 (by decide +kernel)

/-- **Two overlapping requests** save the same address: the second one chooses it while the first
one has not saved it. -/
theorem internalIp_saved_twice :
    (run (serverStep servingNet ⟨201⟩ 10) ⟨startBackend sampleHost, []⟩
        overlapping).shared.db.findAllUsedInternalIps = ["10.8.0.9", "10.8.0.9"] ∧
      ¬ Throughout (serverStep servingNet ⟨201⟩ 10) UniqueIps ⟨startBackend sampleHost, []⟩
        overlapping := by
  decide +kernel

end Cloud
