/-
# The ids of new VMs

`getNextVmId` takes the largest id from 100 on, without the template's, and adds one.  In the
model of the service the ids are natural numbers; here they are Java's `Integer`, whose addition
wraps (`nextVmIdInt`).  The two agree below `Integer.MAX_VALUE` (`nextVmId_eq_nextVmIdInt`).

`getNextVmId_fresh_iff` says when the id is a fresh one.  Leaving the template out of the search
is what makes it fail: once the other ids have come up to the template's, the next id is the
template's own.
-/
import CloudVpn.Proxmox
import Mathlib.Algebra.Ring.Nat

open Effects

namespace Cloud

/-- The largest of several Java integers. -/
instance int32LawfulOrderMax : Std.LawfulOrderMax Int32 where
  max_eq_or a b := by
    show (if a ≤ b then b else a) = a ∨ (if a ≤ b then b else a) = b
    grind
  max_le_iff a b c := by
    show (if a ≤ b then b else a) ≤ c ↔ a ≤ c ∧ b ≤ c
    grind

/-- The ids that `getNextVmId` looks at. -/
def usableIds (templateVmid : Int32) (vmids : List Int32) : List Int32 :=
  vmids.filter fun vmid => 100 ≤ vmid && vmid ≠ templateVmid

/-- What `getNextVmId` returns for the ids in a reply. -/
def nextVmIdInt (templateVmid : Int32) (vmids : List Int32) : Int32 :=
  match (usableIds templateVmid vmids).max? with
  | some max => max + 1
  | none => 100

/-- The template's id is the next one in line: no id is larger, and it is 100 or the id before
it is in use. -/
def TemplateNext (templateVmid : Int32) (vmids : List Int32) : Prop :=
  100 ≤ templateVmid ∧ (∀ vmid ∈ vmids, vmid ≤ templateVmid) ∧
    (templateVmid = 100 ∨ templateVmid - 1 ∈ vmids)

section
variable {templateVmid vmid : Int32} {vmids : List Int32}

@[simp] theorem mem_usableIds :
    vmid ∈ usableIds templateVmid vmids ↔
      vmid ∈ vmids ∧ 100 ≤ vmid ∧ vmid ≠ templateVmid := by
  simp [usableIds]

/-- The id that is returned, if there are ids to look at and if there are none. -/
theorem nextVmIdInt_cases (templateVmid : Int32) (vmids : List Int32) :
    (∃ max ∈ usableIds templateVmid vmids,
      (∀ vmid ∈ usableIds templateVmid vmids, vmid ≤ max) ∧
        nextVmIdInt templateVmid vmids = max + 1) ∨
    ((∀ vmid, vmid ∉ usableIds templateVmid vmids) ∧
      nextVmIdInt templateVmid vmids = 100) := by
  unfold nextVmIdInt
  cases hmax : (usableIds templateVmid vmids).max? with
  | some max =>
      obtain ⟨hmem, hle⟩ := List.max?_eq_some_iff.mp hmax
      exact Or.inl ⟨max, hmem, hle, rfl⟩
  | none =>
      rw [List.max?_eq_none_iff.mp hmax]
      exact Or.inr ⟨fun vmid => List.not_mem_nil, rfl⟩

theorem succ_eq_of_lt {a b : Int32} (hlt : a < b) (hle : b - 1 ≤ a) : a + 1 = b := by
  have hb : b = (b - 1) + 1 := by grind
  have ha : a = b - 1 := by grind
  rw [ha, ← hb]

/-- The template's id is returned exactly if it is the next one in line. -/
theorem nextVmIdInt_eq_template_iff (hmax : Int32.maxValue ∉ usableIds templateVmid vmids) :
    nextVmIdInt templateVmid vmids = templateVmid ↔ TemplateNext templateVmid vmids := by
  unfold TemplateNext
  rcases nextVmIdInt_cases templateVmid vmids with ⟨max, hmem, hle, hnext⟩ | ⟨hnone, hnext⟩
  · have hlt : max ≠ Int32.maxValue := fun h => hmax (h ▸ hmem)
    simp only [mem_usableIds] at hmem hle
    rw [hnext]
    constructor
    · intro htemplate
      refine ⟨by grind, fun vmid hvmid => ?_, Or.inr ?_⟩
      · have hvmid' := hle vmid
        grind
      · rw [← htemplate]
        have hmax' : max + 1 - 1 = max := by grind
        rw [hmax']
        exact hmem.1
    · rintro ⟨hfrom, hall, h100 | hbefore⟩
      · have hmem' := hall max hmem.1
        grind
      · have hlt : max < templateVmid := by
          have hmem' := hall max hmem.1
          grind
        exact succ_eq_of_lt hlt (hle _ ⟨hbefore, by grind, by grind⟩)
  · simp only [mem_usableIds] at hnone
    rw [hnext]
    constructor
    · intro htemplate
      refine ⟨by grind, fun vmid hvmid => ?_, Or.inl htemplate.symm⟩
      have hvmid' := hnone vmid
      grind
    · rintro ⟨hfrom, hall, h100 | hbefore⟩
      · exact h100.symm
      · have hbefore' := hnone (templateVmid - 1)
        grind

/-- The largest id there is, plus one, is negative. -/
theorem nextVmIdInt_wraps (hmax : Int32.maxValue ∈ usableIds templateVmid vmids) :
    nextVmIdInt templateVmid vmids = Int32.minValue := by
  rcases nextVmIdInt_cases templateVmid vmids with ⟨max, hmem, hle, hnext⟩ | ⟨hnone, hnext⟩
  · have hle' := hle _ hmax
    have heq : max = Int32.maxValue := by grind
    rw [hnext, heq]
    rfl
  · exact absurd hmax (hnone _)

/-- Below the largest id there is, the id is at least 100, and the only id in use that it can be
is the template's. -/
theorem nextVmIdInt_spec (hmax : Int32.maxValue ∉ usableIds templateVmid vmids) :
    100 ≤ nextVmIdInt templateVmid vmids ∧
      (nextVmIdInt templateVmid vmids ∈ vmids →
        nextVmIdInt templateVmid vmids = templateVmid) := by
  rcases nextVmIdInt_cases templateVmid vmids with ⟨max, hmem, hle, hnext⟩ | ⟨hnone, hnext⟩
  · have hlt : max ≠ Int32.maxValue := fun h => hmax (h ▸ hmem)
    have hnext' := hle (max + 1)
    simp only [mem_usableIds] at hmem hnext'
    rw [hnext]
    grind
  · have hnone' := hnone 100
    simp only [mem_usableIds] at hnone'
    rw [hnext]
    grind

end

/-! ## The service's ids as integers -/

section
variable {config : ProxmoxConfig} {vmids : List ℕ} {m n : ℕ}

theorem ofNat_le_ofNat_iff (hm : m < 2 ^ 31) (hn : n < 2 ^ 31) :
    Int32.ofNat m ≤ Int32.ofNat n ↔ m ≤ n := by
  rw [Int32.le_iff_toInt_le, Int32.toInt_ofNat_of_lt hm, Int32.toInt_ofNat_of_lt hn]
  exact Int.ofNat_le

theorem ofNat_inj_iff (hm : m < 2 ^ 31) (hn : n < 2 ^ 31) :
    Int32.ofNat m = Int32.ofNat n ↔ m = n := by
  rw [← Int32.toInt_inj, Int32.toInt_ofNat_of_lt hm, Int32.toInt_ofNat_of_lt hn]
  exact Int.ofNat_inj

/-- The ids that the model of the service looks at are those that the integers are. -/
theorem ofNat_mem_usableIds_iff (htemplate : config.templateVmid < 2 ^ 31)
    (hvmids : ∀ vmid ∈ vmids, vmid < 2 ^ 31) (hn : n ∈ vmids) :
    Int32.ofNat n ∈ usableIds (Int32.ofNat config.templateVmid) (vmids.map Int32.ofNat) ↔
      100 ≤ n ∧ n ≠ config.templateVmid := by
  have hlt := hvmids n hn
  have h100 : (100 : Int32) ≤ Int32.ofNat n ↔ 100 ≤ n :=
    ofNat_le_ofNat_iff (m := 100) (by omega) hlt
  rw [mem_usableIds, h100, ne_eq, ofNat_inj_iff hlt htemplate]
  exact ⟨fun h => h.2, fun h => ⟨List.mem_map_of_mem hn, h⟩⟩

/-- **The two ways to compute the id agree** on ids below `Integer.MAX_VALUE`. -/
theorem nextVmId_eq_nextVmIdInt (htemplate : config.templateVmid < 2 ^ 31)
    (hvmids : ∀ vmid ∈ vmids, vmid < 2 ^ 31 - 1) :
    (nextVmIdInt (Int32.ofNat config.templateVmid) (vmids.map Int32.ofNat)).toInt
      = nextVmId config vmids := by
  have hlt : ∀ vmid ∈ vmids, vmid < 2 ^ 31 := fun vmid h => lt_trans (hvmids vmid h) (by omega)
  have husable : ∀ vmid ∈ vmids, Int32.ofNat vmid ∈ usableIds _ (vmids.map Int32.ofNat) ↔
      100 ≤ vmid ∧ vmid ≠ config.templateVmid :=
    fun vmid => ofNat_mem_usableIds_iff htemplate hlt
  unfold nextVmId
  rcases nextVmIdInt_cases (Int32.ofNat config.templateVmid) (vmids.map Int32.ofNat) with
    ⟨max, hmem, hle, hnext⟩ | ⟨hnone, hnext⟩
  · obtain ⟨v, hv, rfl⟩ := List.mem_map.mp (mem_usableIds.mp hmem).1
    have hmax : (vmids.filter fun vmid => 100 ≤ vmid && vmid ≠ config.templateVmid).max?
        = some v := by
      rw [List.max?_eq_some_iff]
      simp only [List.mem_filter, Bool.and_eq_true, decide_eq_true_eq]
      refine ⟨⟨hv, (husable v hv).mp hmem⟩, fun w hw => ?_⟩
      exact (ofNat_le_ofNat_iff (hlt w hw.1) (hlt v hv)).mp (hle _ ((husable w hw.1).mpr hw.2))
    have hsucc : Int32.ofNat v + 1 = Int32.ofNat (v + 1) := (Int32.ofNat_add v 1).symm
    have hv' := hvmids v hv
    rw [hnext, hmax, hsucc, Int32.toInt_ofNat_of_lt (by omega)]
  · have hmax : (vmids.filter fun vmid => 100 ≤ vmid && vmid ≠ config.templateVmid).max?
        = none := by
      rw [List.max?_eq_none_iff, List.filter_eq_nil_iff]
      intro w hw
      simp only [Bool.and_eq_true, decide_eq_true_eq]
      exact fun h => hnone _ ((husable w hw).mpr h)
    rw [hnext, hmax]
    rfl

end

/-! ## What `getNextVmId` returns -/

section
variable {net : ℕ → Exchange} {α : Type} {s s' : Proxmox}

/-- What the operations that retry return comes from an attempt. -/
theorem retrying_ok {attempt : Api α} {depth : ℕ} {a : α}
    (h : (retrying net attempt depth).run s = .ok a s') : ∃ s₀, attempt.run s₀ = .ok a s' := by
  induction depth generalizing s with
  | zero => exact absurd h (by simp [retrying])
  | succ depth ih =>
      unfold retrying at h
      obtain ⟨-, s₁, -, h⟩ := run_bind_eq_ok.mp h
      rw [run_tryCatch] at h
      cases hattempt : attempt.run s₁ with
      | ok b s₂ =>
          rw [hattempt] at h
          exact ⟨s₁, hattempt.trans h⟩
      | error e s₂ =>
          rw [hattempt] at h
          dsimp only at h
          split_ifs at h
          · obtain ⟨_, _, -, hauth⟩ := run_bind_eq_ok.mp h
            obtain ⟨_, _, -, hagain⟩ := run_bind_eq_ok.mp hauth
            exact ih hagain
          · exact absurd h (by simp)

/-- `getNextVmId` returns 100 if the answer has no data, and otherwise what it computes from the
ids of the VMs on the host. -/
theorem getNextVmId_ok {config : ProxmoxConfig} {depth id : ℕ}
    (h : (getNextVmId net config depth).run s = .ok id s') :
    id = 100 ∨ id = nextVmId config s'.host.vms.keys := by
  obtain ⟨s₀, hattempt⟩ := retrying_ok h
  obtain ⟨response, s₁, hrequest, hreturn⟩ := run_bind_eq_ok.mp hattempt
  cases response with
  | none =>
      cases hreturn
      exact Or.inl rfl
  | some vmids =>
      cases hreturn
      have hout : Exchanged net true _ s₀ _ := exchange_outcome true (fun x host =>
        ((fun _ vms => some (vms, vms.keys)) x host.vms).map fun r =>
          ({ host with vms := r.1 }, r.2)) s₀
      rw [show (exchange net true _).run s₀ = _ from hrequest] at hout
      cases hout with
      | answered _ hhandle hresponse =>
          cases hhandle
          rcases hresponse with ⟨hvmids, -⟩ | ⟨hnone, -⟩
          · exact Or.inr (congrArg (nextVmId config) (Option.some.inj hvmids))
          · exact absurd hnone (by simp)

/-- **Fresh ids.**  The id that `getNextVmId` computes from the ids in a reply is at least 100, is
the id of no VM in the reply and is not the template's, exactly if `Integer.MAX_VALUE` is not
the id of a VM other than the template, and the template's id is not the next one in line.  In
the service it returns this id, or 100 if the reply has no data. -/
theorem getNextVmId_fresh_iff (templateVmid : Int32) (vmids : List Int32) :
    ((100 ≤ nextVmIdInt templateVmid vmids ∧ nextVmIdInt templateVmid vmids ∉ vmids ∧
        nextVmIdInt templateVmid vmids ≠ templateVmid) ↔
      (Int32.maxValue ∈ vmids → templateVmid = Int32.maxValue) ∧
        ¬ TemplateNext templateVmid vmids) ∧
    ∀ (net : ℕ → Exchange) (config : ProxmoxConfig) (depth returned : ℕ) (s s' : Proxmox),
      (getNextVmId net config depth).run s = .ok returned s' →
      config.templateVmid < 2 ^ 31 → Int32.ofNat config.templateVmid = templateVmid →
      (∀ vmid ∈ s'.host.vms.keys, vmid < 2 ^ 31 - 1) →
      s'.host.vms.keys.map Int32.ofNat = vmids →
      returned = 100 ∨ (returned : ℤ) = (nextVmIdInt templateVmid vmids).toInt := by
  constructor
  · by_cases hmax : Int32.maxValue ∈ usableIds templateVmid vmids
    · -- The sum wraps to a negative id.
      have hid := nextVmIdInt_wraps hmax
      obtain ⟨hmem, -, hne⟩ := mem_usableIds.mp hmax
      constructor
      · rintro ⟨hfrom, -, -⟩
        rw [hid] at hfrom
        exact absurd hfrom (by decide)
      · exact fun h => absurd (h.1 hmem).symm hne
    · have hspec := nextVmIdInt_spec hmax
      have htemplate := nextVmIdInt_eq_template_iff hmax
      have hmax' : Int32.maxValue ∈ vmids → templateVmid = Int32.maxValue := by
        intro hmem
        by_contra hne
        exact hmax (mem_usableIds.mpr ⟨hmem, by decide, fun h => hne h.symm⟩)
      constructor
      · rintro ⟨-, -, hne⟩
        exact ⟨hmax', fun h => hne (htemplate.mpr h)⟩
      · rintro ⟨-, hnext⟩
        have hne : nextVmIdInt templateVmid vmids ≠ templateVmid :=
          fun h => hnext (htemplate.mp h)
        exact ⟨hspec.1, fun hmem => hne (hspec.2 hmem), hne⟩
  · rintro net config depth returned s s' hrun htemplate rfl hvmids rfl
    rcases getNextVmId_ok hrun with h100 | hreturned
    · exact Or.inl h100
    · right
      rw [hreturned]
      exact (nextVmId_eq_nextVmIdInt htemplate hvmids).symm

/-- With the template at 201 and one VM at 200 the id is the template's, which is in the list. -/
theorem nextVmId_takes_template :
    let vmids : List Int32 := [201, 200]
    nextVmIdInt 201 vmids = 201 ∧ nextVmIdInt 201 vmids ∈ vmids := by
  decide

end

end Cloud
