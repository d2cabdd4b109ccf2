import Mathlib.Data.List.Nodup
import TrainFactory.Gpu.ResourceManager
import TrainFactory.Lib.Run

/-!
# Leases are exclusive until a lease is granted twice

`gpu_allocations` and `task_gpus` are inverse to each other in every state of a run exactly if no
lease that holds GPUs is granted GPUs again: a second grant overwrites the entry of the lease in
`task_gpus`, and the GPUs of the first grant are no longer found when the lease is released.
-/

namespace Gpu

open Lib

variable {host : Host}

/-! ## What an allocation does -/

def Manager.isFree (m : Manager) (blocked : List Int) (gpuId : Int) : Bool :=
  gpuId ∉ m.gpuAllocations && gpuId ∉ blocked

/-- The GPUs of the machine that an allocation may take. -/
def Manager.freeGpus (m : Manager) (blocked : List Int) : List Int :=
  m.gpus.filter (m.isFree blocked)

/-- Whether a parsed request can be met. -/
def Manager.meets (m : Manager) (blocked : List Int) : Option (List Int) × Int → Bool
  | (some gpuIds, _) =>
    gpuIds ≠ [] && gpuIds.all fun gpuId => gpuId < m.maxGpus && m.isFree blocked gpuId
  | (none, numGpus) => 1 ≤ numGpus && numGpus ≤ (m.freeGpus blocked).length

/-- Whether a request for GPUs can be met: it names only free GPUs of the machine, or asks for at
least one and at most as many as are free, and no reservation of another owner is unknown. -/
def Manager.isGrantable (host : Host) (m : Manager) (taskId : String)
    (deviceRequest : Option String) (session : Except GpuError RuntimeRows) : Bool :=
  !isBlankRequest deviceRequest && deviceRequest ≠ some "cpu" &&
    (match m.reservedGpuIds host session taskId with
      | .error _ => false
      | .ok blocked => m.meets blocked (parseDeviceRequest m.maxGpus (deviceRequest.getD "cpu")))

theorem collectAvailable_eq (isFree : Int → Bool) (n : Int) (gpuIds available : List Int)
    (h : (available.length : Int) < max n 1) :
    collectAvailable isFree n available gpuIds =
      (available ++ gpuIds.filter isFree).take (max n 1).toNat := by
  induction gpuIds generalizing available with
  | nil =>
    have hlen : available.length ≤ (max n 1).toNat := by omega
    simp [collectAvailable, List.take_of_length_le hlen]
  | cons gpuId gpuIds ih =>
    by_cases hfree : isFree gpuId
    · simp only [collectAvailable, hfree, ↓reduceIte, List.filter_cons_of_pos]
      have hassoc : available ++ gpuId :: gpuIds.filter isFree =
          (available ++ [gpuId]) ++ gpuIds.filter isFree := by simp
      have hlen : ((available ++ [gpuId]).length : Int) = available.length + 1 := by simp
      split_ifs with hn
      · have hmax : (max n 1).toNat = (available ++ [gpuId]).length := by omega
        rw [hassoc, hmax, List.take_left]
      · rw [hassoc]
        apply ih
        omega
    · simp only [collectAvailable, hfree, Bool.false_eq_true, ↓reduceIte, not_false_eq_true,
        List.filter_cons_of_neg]
      exact ih available h

theorem getAvailableGpus_eq (m : Manager) (n : Int) (blocked : List Int) :
    m.getAvailableGpus n blocked =
      if n ≤ 0 then some []
      else if n ≤ (m.freeGpus blocked).length then some ((m.freeGpus blocked).take n.toNat)
      else none := by
  have hstart : (([] : List Int).length : Int) < max n 1 := by
    have h0 : (([] : List Int).length : Int) = 0 := rfl
    omega
  have hcollect : collectAvailable (m.isFree blocked) n [] m.gpus =
      (m.freeGpus blocked).take (max n 1).toNat := by
    rw [collectAvailable_eq (m.isFree blocked) n m.gpus [] hstart, List.nil_append]
    rfl
  have hunfold : m.getAvailableGpus n blocked =
      (let available := (m.freeGpus blocked).take (max n 1).toNat
        if n ≤ available.length then some (sliceTo available n) else none) := by
    rw [← hcollect]
    rfl
  rw [hunfold]
  simp only [List.length_take]
  by_cases hn : n ≤ 0
  · have hle : n ≤ ((min (max n 1).toNat (m.freeGpus blocked).length : Nat) : Int) := by omega
    rw [if_pos hle, if_pos hn]
    have hone : ((m.freeGpus blocked).take (max n 1).toNat).length ≤ 1 := by
      rw [List.length_take]
      omega
    unfold sliceTo
    split_ifs with h0
    · have hzero : n.toNat = 0 := by omega
      rw [hzero, List.take_zero]
    · have hzero : (((m.freeGpus blocked).take (max n 1).toNat).length + n).toNat = 0 := by omega
      rw [hzero, List.take_zero]
  · rw [if_neg hn]
    have hmax : (max n 1).toNat = n.toNat := by omega
    rw [hmax]
    by_cases hle : n ≤ (m.freeGpus blocked).length
    · have hmin : n ≤ ((min n.toNat (m.freeGpus blocked).length : Nat) : Int) := by omega
      have h0 : 0 ≤ n := by omega
      rw [if_pos hmin, if_pos hle, sliceTo, if_pos h0, List.take_take, Nat.min_self]
    · have hmin : ¬ n ≤ ((min n.toNat (m.freeGpus blocked).length : Nat) : Int) := by omega
      rw [if_neg hmin, if_neg hle]

structure Grant (host : Host) (m : Manager) (taskId : String)
    (session : Except GpuError RuntimeRows) (gpuIds blocked : List Int) : Prop where
  reserved : m.reservedGpuIds host session taskId = .ok blocked
  nonempty : gpuIds ≠ []
  free : ∀ gpuId ∈ gpuIds, gpuId ∉ m.gpuAllocations ∧ gpuId ∉ blocked

theorem mem_freeGpus {m : Manager} {blocked : List Int} {gpuId : Int}
    (h : gpuId ∈ m.freeGpus blocked) : gpuId ∉ m.gpuAllocations ∧ gpuId ∉ blocked := by
  have hfree : m.isFree blocked gpuId = true := (List.mem_filter.mp h).2
  simpa [Manager.isFree] using hfree

/-- An allocation either leaves the manager as it is, or takes free GPUs; it does the latter exactly
if the request can be met. -/
theorem allocateGpusForTask_cases (host : Host) (m : Manager) (taskId : String)
    (deviceRequest : Option String)
    (session : Except GpuError RuntimeRows) (now : Nat) :
    (m.isGrantable host taskId deviceRequest session = false ∧
      ((isBlankRequest deviceRequest ∨ deviceRequest = some "cpu") ∧
          m.allocateGpusForTask host taskId deviceRequest session now = (some "cpu", m) ∨
        m.allocateGpusForTask host taskId deviceRequest session now = (none, m))) ∨
    (m.isGrantable host taskId deviceRequest session = true ∧
      ∃ gpuIds blocked, Grant host m taskId session gpuIds blocked ∧
        m.allocateGpusForTask host taskId deviceRequest session now =
          (some (deviceString gpuIds), (m.doAllocateGpus taskId gpuIds now).2)) := by
  unfold Manager.allocateGpusForTask Manager.isGrantable
  by_cases hcpu : isBlankRequest deviceRequest = true ∨ deviceRequest = some "cpu"
  · rw [if_pos hcpu]
    refine Or.inl ⟨?_, Or.inl ⟨hcpu, rfl⟩⟩
    rcases hcpu with h | h <;> simp [h]
  rw [if_neg hcpu]
  have hblank : isBlankRequest deviceRequest = false := by
    cases h : isBlankRequest deviceRequest with
    | true => exact absurd (Or.inl h) hcpu
    | false => rfl
  have hne : deviceRequest ≠ some "cpu" := fun h => hcpu (Or.inr h)
  simp only [hblank, hne, ne_eq, not_false_eq_true, decide_true, Bool.not_false, Bool.true_and]
  obtain ⟨requestedGpus, numGpus⟩ := parseDeviceRequest m.maxGpus (deviceRequest.getD "cpu")
  cases hres : m.reservedGpuIds host session taskId with
  | error e =>
    refine Or.inl ⟨rfl, Or.inr ?_⟩
    split <;> rfl
  | ok blocked =>
    cases requestedGpus with
    | some gpuIds =>
      cases gpuIds with
      | nil => exact Or.inl ⟨rfl, Or.inr rfl⟩
      | cons gpuId gpuIds =>
        -- the code asks the two conditions of a free GPU in two loops
        have hmeets : m.meets blocked (some (gpuId :: gpuIds), numGpus) = true ↔
            ¬ (gpuId :: gpuIds).any (· ∈ blocked) = true ∧
              m.canAllocateSpecificGpus (gpuId :: gpuIds) = true := by
          simp only [Manager.meets, Manager.canAllocateSpecificGpus, Manager.isFree]
          rw [Bool.and_eq_true, List.all_eq_true, List.all_eq_true, List.any_eq_true]
          constructor
          · rintro ⟨-, hall⟩
            refine ⟨?_, fun x hx => ?_⟩
            · rintro ⟨x, hx, hb⟩
              have := hall x hx
              simp_all
            · have := hall x hx
              simp_all
          · rintro ⟨hany, hall⟩
            refine ⟨by simp, fun x hx => ?_⟩
            have hx' := hall x hx
            have hb : x ∉ blocked := fun hb => hany ⟨x, hx, by simpa using hb⟩
            simp_all
        by_cases hcond : ¬ (gpuId :: gpuIds).any (· ∈ blocked) = true ∧
            m.canAllocateSpecificGpus (gpuId :: gpuIds) = true
        · refine Or.inr ⟨hmeets.mpr hcond, gpuId :: gpuIds, blocked, ⟨hres, by simp, ?_⟩, ?_⟩
          · intro x hx
            have hb : x ∉ blocked := by
              intro hb
              exact hcond.1 (List.any_eq_true.mpr ⟨x, hx, by simpa using hb⟩)
            have ha := List.all_eq_true.mp hcond.2 x hx
            simp only [Bool.and_eq_true, decide_eq_true_eq] at ha
            exact ⟨ha.2, hb⟩
          · simp only [hcond]
            rfl
        · refine Or.inl ⟨?_, Or.inr ?_⟩
          · exact Bool.eq_false_iff.mpr fun h => hcond (hmeets.mp h)
          · simp only [if_neg hcond]
    | none =>
      have havail := getAvailableGpus_eq m numGpus blocked
      by_cases hn : numGpus ≤ 0
      · rw [if_pos hn] at havail
        refine Or.inl ⟨?_, Or.inr ?_⟩
        · have h1 : ¬ 1 ≤ numGpus := by omega
          simp [Manager.meets, h1]
        · simp only [havail]
      · rw [if_neg hn] at havail
        by_cases hle : numGpus ≤ (m.freeGpus blocked).length
        · rw [if_pos hle] at havail
          have h1 : 1 ≤ numGpus := by omega
          have hne : (m.freeGpus blocked).take numGpus.toNat ≠ [] := by
            intro hnil
            have hlen := congrArg List.length hnil
            rw [List.length_take, List.length_nil] at hlen
            omega
          refine Or.inr ⟨by simp [Manager.meets, h1, hle], _, blocked, ⟨hres, hne, ?_⟩, ?_⟩
          · exact fun x hx => mem_freeGpus (List.mem_of_mem_take hx)
          · simp only [havail]
            obtain ⟨x, xs, hxs⟩ := List.exists_cons_of_ne_nil hne
            rw [hxs]
            rfl
        · rw [if_neg hle] at havail
          refine Or.inl ⟨?_, Or.inr ?_⟩
          · simp [Manager.meets, hle]
          · simp only [havail]

/-! ## The two tables -/

/-- `task_gpus` and `gpu_allocations` say the same. -/
def Manager.Inverse (m : Manager) : Prop :=
  ∀ gpuId taskId, gpuId ∈ m.gpusOf taskId ↔ m.gpuAllocations.lookup gpuId = some taskId

def Manager.ReleasesOwn (m : Manager) : Prop :=
  ∀ taskId gpuId holder,
    (m.releaseGpusForTask taskId).gpuAllocations.lookup gpuId = some holder ↔
      m.gpuAllocations.lookup gpuId = some holder ∧ holder ≠ taskId

def grantsOnce (host : Host) (m : Manager) : LeaseCall → Prop
  | .allocate taskId deviceRequest session _ =>
    taskId ∈ m.taskGpus → m.isGrantable host taskId deviceRequest session = false
  | .release _ => True
  | .forceRelease _ => True

theorem gpusOf_eq_nil {m : Manager} {taskId : String} (h : taskId ∉ m.taskGpus) :
    m.gpusOf taskId = [] := by
  rw [Manager.gpusOf, AList.lookup_eq_none.mpr h]
  rfl

theorem gpusOf_doAllocateGpus (m : Manager) (taskId holder : String) (gpuIds : List Int)
    (now : Nat) :
    ((m.doAllocateGpus taskId gpuIds now).2).gpusOf holder =
      if holder = taskId then gpuIds.dedup else m.gpusOf holder := by
  unfold Manager.gpusOf Manager.doAllocateGpus
  simp only [Dict.lookup_insert_eq]
  split_ifs <;> rfl

theorem lookup_doAllocateGpus (m : Manager) (taskId : String) (gpuIds : List Int) (now : Nat)
    (gpuId : Int) :
    ((m.doAllocateGpus taskId gpuIds now).2).gpuAllocations.lookup gpuId =
      if gpuId ∈ gpuIds then some taskId else m.gpuAllocations.lookup gpuId := by
  simp only [Manager.doAllocateGpus, Dict.lookup_setAll]

theorem lookup_releaseGpusForTask (m : Manager) (taskId : String) (gpuId : Int) :
    (m.releaseGpusForTask taskId).gpuAllocations.lookup gpuId =
      if gpuId ∈ m.gpusOf taskId then none else m.gpuAllocations.lookup gpuId := by
  unfold Manager.releaseGpusForTask Manager.gpusOf
  cases h : m.taskGpus.lookup taskId with
  | none => simp
  | some gpuIds => simp

theorem gpusOf_releaseGpusForTask (m : Manager) (taskId holder : String) :
    (m.releaseGpusForTask taskId).gpusOf holder =
      if holder = taskId then [] else m.gpusOf holder := by
  unfold Manager.releaseGpusForTask Manager.gpusOf
  cases h : m.taskGpus.lookup taskId with
  | none =>
    by_cases hk : holder = taskId
    · subst hk
      simp [h]
    · simp [hk]
  | some gpuIds =>
    simp only [Dict.lookup_erase_eq]
    split_ifs <;> rfl

theorem gpusOf_forceReleaseGpuForTask (m : Manager) (taskId holder : String) :
    (m.forceReleaseGpuForTask taskId).gpusOf holder =
      if holder = taskId then [] else m.gpusOf holder := by
  unfold Manager.forceReleaseGpuForTask Manager.gpusOf
  simp only [Dict.lookup_erase_eq]
  split_ifs <;> rfl

theorem Manager.Inverse.releasesOwn {m : Manager} (h : m.Inverse) : m.ReleasesOwn := by
  intro taskId gpuId holder
  rw [lookup_releaseGpusForTask]
  have hg := h gpuId taskId
  split_ifs with hmem
  · have hown : m.gpuAllocations.lookup gpuId = some taskId := hg.mp hmem
    rw [hown]
    constructor
    · intro hn
      exact absurd hn (by simp)
    · rintro ⟨he, hne⟩
      exact absurd (Option.some.inj he).symm hne
  · constructor
    · intro hl
      refine ⟨hl, fun he => hmem (hg.mpr ?_)⟩
      rw [hl, he]
    · exact fun hl => hl.1

theorem inverse_new (maxGpus : Int) : (Manager.new maxGpus).Inverse := by
  intro gpuId taskId
  simp [Manager.new, Manager.gpusOf]

theorem Manager.Inverse.doAllocateGpus {m : Manager} (h : m.Inverse) {taskId : String}
    {gpuIds : List Int} {now : Nat} (hnew : taskId ∉ m.taskGpus)
    (hfree : ∀ gpuId ∈ gpuIds, gpuId ∉ m.gpuAllocations) :
    ((m.doAllocateGpus taskId gpuIds now).2).Inverse := by
  intro gpuId holder
  rw [gpusOf_doAllocateGpus, lookup_doAllocateGpus]
  have hinv := h gpuId holder
  by_cases hk : holder = taskId
  · subst hk
    have hempty : m.gpusOf holder = [] := gpusOf_eq_nil hnew
    have hnone : m.gpuAllocations.lookup gpuId ≠ some holder := by
      intro hs
      have := hinv.mpr hs
      rw [hempty] at this
      exact absurd this List.not_mem_nil
    by_cases hmem : gpuId ∈ gpuIds <;> simp [hmem, hnone]
  · rw [if_neg hk]
    by_cases hmem : gpuId ∈ gpuIds
    · have hlookup : m.gpuAllocations.lookup gpuId = none :=
        AList.lookup_eq_none.mpr (hfree gpuId hmem)
      rw [if_pos hmem, hinv, hlookup]
      have hk' : taskId ≠ holder := fun he => hk he.symm
      simp [hk']
    · rw [if_neg hmem, hinv]

theorem Manager.Inverse.not_inverse_doAllocateGpus {m : Manager} (h : m.Inverse) {taskId : String}
    {gpuIds : List Int} {now : Nat} {held : Int} (hheld : held ∈ m.gpusOf taskId)
    (hfree : ∀ gpuId ∈ gpuIds, gpuId ∉ m.gpuAllocations) :
    ¬ ((m.doAllocateGpus taskId gpuIds now).2).Inverse := by
  intro hinv
  have hown : m.gpuAllocations.lookup held = some taskId := (h held taskId).mp hheld
  have hmem : held ∉ gpuIds := by
    intro hm
    have hnone := AList.lookup_eq_none.mpr (hfree held hm)
    rw [hown] at hnone
    exact absurd hnone (by simp)
  have hstill := (hinv held taskId).mpr (by rw [lookup_doAllocateGpus, if_neg hmem, hown])
  rw [gpusOf_doAllocateGpus, if_pos rfl, List.mem_dedup] at hstill
  exact hmem hstill

theorem Manager.Inverse.releaseGpusForTask {m : Manager} (h : m.Inverse) (taskId : String) :
    (m.releaseGpusForTask taskId).Inverse := by
  intro gpuId holder
  rw [gpusOf_releaseGpusForTask, h.releasesOwn taskId gpuId holder]
  have hinv := h gpuId holder
  by_cases hk : holder = taskId
  · simp [hk]
  · simp [hk, hinv]

theorem Manager.Inverse.forceReleaseGpuForTask {m : Manager} (h : m.Inverse) (taskId : String) :
    (m.forceReleaseGpuForTask taskId).Inverse := by
  intro gpuId holder
  rw [gpusOf_forceReleaseGpuForTask]
  have hlookup : (m.forceReleaseGpuForTask taskId).gpuAllocations.lookup gpuId =
      if m.gpuAllocations.lookup gpuId = some taskId then none
      else m.gpuAllocations.lookup gpuId := Dict.lookup_deleteValue ..
  have hinv := h gpuId holder
  rw [hlookup]
  by_cases hk : holder = taskId
  · subst hk
    by_cases hl : m.gpuAllocations.lookup gpuId = some holder <;> simp [hl]
  · rw [if_neg hk, hinv]
    split_ifs with hl
    · rw [hl]
      have hk' : taskId ≠ holder := fun he => hk he.symm
      simp [hk']
    · rfl

/-! ## Runs -/

def Manager.NoEmptyLease (m : Manager) : Prop := ∀ taskId ∈ m.taskGpus, m.gpusOf taskId ≠ []

theorem step_allocate_cases (host : Host) (m : Manager) (taskId : String)
    (deviceRequest : Option String)
    (session : Except GpuError RuntimeRows) (now : Nat) :
    (m.isGrantable host taskId deviceRequest session = false ∧
      m.step host (.allocate taskId deviceRequest session now) = m) ∨
    (m.isGrantable host taskId deviceRequest session = true ∧
      ∃ gpuIds blocked, Grant host m taskId session gpuIds blocked ∧
        m.step host (.allocate taskId deviceRequest session now) =
          (m.doAllocateGpus taskId gpuIds now).2) := by
  rcases allocateGpusForTask_cases host m taskId deviceRequest session now with
    ⟨hno, ⟨-, h⟩ | h⟩ | ⟨hyes, gpuIds, blocked, hgrant, h⟩
  · exact Or.inl ⟨hno, congrArg Prod.snd h⟩
  · exact Or.inl ⟨hno, congrArg Prod.snd h⟩
  · exact Or.inr ⟨hyes, gpuIds, blocked, hgrant, congrArg Prod.snd h⟩

theorem noEmptyLease_step {m : Manager} (h : m.NoEmptyLease) (call : LeaseCall) :
    (m.step host call).NoEmptyLease := by
  cases call with
  | allocate taskId deviceRequest session now =>
    rcases step_allocate_cases host m taskId deviceRequest session now with
      ⟨-, hs⟩ | ⟨-, gpuIds, blocked, hgrant, hs⟩
    · rw [hs]
      exact h
    · rw [hs]
      intro holder hmem
      rw [gpusOf_doAllocateGpus]
      split_ifs with hk
      · intro hnil
        obtain ⟨g, gs, hg⟩ := List.exists_cons_of_ne_nil hgrant.nonempty
        have hmem' : g ∈ gpuIds.dedup := List.mem_dedup.mpr (by simp [hg])
        rw [hnil] at hmem'
        exact absurd hmem' List.not_mem_nil
      · have hold : holder ∈ m.taskGpus := by
          have hmem' : holder ∈ m.taskGpus.insert taskId gpuIds.dedup := hmem
          rcases (AList.mem_insert _).mp hmem' with he | ho
          · exact absurd he hk
          · exact ho
        exact h holder hold
  | release taskId =>
    intro holder hmem
    show (m.releaseGpusForTask taskId).gpusOf holder ≠ []
    rw [gpusOf_releaseGpusForTask]
    have hmem' : holder ∈ (m.releaseGpusForTask taskId).taskGpus := hmem
    unfold Manager.releaseGpusForTask at hmem'
    cases hl : m.taskGpus.lookup taskId with
    | none =>
      simp only [hl] at hmem'
      have hk : holder ≠ taskId := by
        rintro rfl
        exact AList.lookup_eq_none.mp hl hmem'
      rw [if_neg hk]
      exact h holder hmem'
    | some gpuIds =>
      simp only [hl, AList.mem_erase] at hmem'
      rw [if_neg hmem'.1]
      exact h holder hmem'.2
  | forceRelease taskId =>
    intro holder hmem
    show (m.forceReleaseGpuForTask taskId).gpusOf holder ≠ []
    rw [gpusOf_forceReleaseGpuForTask]
    have hmem' : holder ∈ m.taskGpus.erase taskId := hmem
    rw [AList.mem_erase] at hmem'
    rw [if_neg hmem'.1]
    exact h holder hmem'.2

theorem inverse_step_iff {m : Manager} (hne : m.NoEmptyLease) (h : m.Inverse) (call : LeaseCall) :
    (m.step host call).Inverse ↔ grantsOnce host m call := by
  cases call with
  | allocate taskId deviceRequest session now =>
    rcases step_allocate_cases host m taskId deviceRequest session now with
      ⟨hno, hs⟩ | ⟨hyes, gpuIds, blocked, hgrant, hs⟩
    · rw [hs]
      exact ⟨fun _ _ => hno, fun _ => h⟩
    · rw [hs]
      have hfree : ∀ gpuId ∈ gpuIds, gpuId ∉ m.gpuAllocations :=
        fun gpuId hg => (hgrant.free gpuId hg).1
      constructor
      · intro hinv hmem
        obtain ⟨held, rest, hheld⟩ := List.exists_cons_of_ne_nil (hne taskId hmem)
        have hmem' : held ∈ m.gpusOf taskId := by simp [hheld]
        exact absurd hinv (h.not_inverse_doAllocateGpus hmem' hfree)
      · intro hok
        have hnew : taskId ∉ m.taskGpus := by
          intro hmem
          rw [hok hmem] at hyes
          exact absurd hyes (by simp)
        exact h.doAllocateGpus hnew hfree
  | release taskId => exact ⟨fun _ => trivial, fun _ => h.releaseGpusForTask taskId⟩
  | forceRelease taskId => exact ⟨fun _ => trivial, fun _ => h.forceReleaseGpuForTask taskId⟩

/-- The tables are inverse to each other, and releasing any lease frees exactly its own GPUs, in
every state of a run if and only if no call of the run grants GPUs to a lease that holds some. -/
theorem leases_exclusive_iff (host : Host) (maxGpus : Int) (calls : List LeaseCall) :
    (∀ before, before <+: calls →
      (exec (Manager.step host) (Manager.new maxGpus) before).Inverse ∧
      (exec (Manager.step host) (Manager.new maxGpus) before).ReleasesOwn) ↔
    Admits (Manager.step host) (grantsOnce host) (Manager.new maxGpus) calls := by
  have hrun : ∀ (calls : List LeaseCall) (m : Manager), m.NoEmptyLease → m.Inverse →
      ((∀ before, before <+: calls → (exec (Manager.step host) m before).Inverse ∧
        (exec (Manager.step host) m before).ReleasesOwn) ↔
      Admits (Manager.step host) (grantsOnce host) m calls) := by
    intro calls
    induction calls with
    | nil =>
      intro m _ h
      refine ⟨fun _ => trivial, fun _ before hb => ?_⟩
      rw [List.prefix_nil.mp hb]
      exact ⟨h, h.releasesOwn⟩
    | cons call calls ih =>
      intro m hne h
      have hnext := ih (m.step host call) (noEmptyLease_step hne call)
      constructor
      · intro hall
        have hfirst : (m.step host call).Inverse :=
          (hall [call] ⟨calls, rfl⟩).1
        refine ⟨(inverse_step_iff hne h call).mp hfirst, (hnext hfirst).mp ?_⟩
        intro before hb
        exact hall (call :: before) (List.cons_prefix_cons.mpr ⟨rfl, hb⟩)
      · rintro ⟨hok, hrest⟩ before hb
        have hfirst : (m.step host call).Inverse := (inverse_step_iff hne h call).mpr hok
        cases before with
        | nil => exact ⟨h, h.releasesOwn⟩
        | cons call' before =>
          obtain ⟨rfl, hb'⟩ := List.cons_prefix_cons.mp hb
          exact (hnext hfirst).mpr hrest before hb'
  have hne : (Manager.new maxGpus).NoEmptyLease := by
    intro taskId hmem
    exact absurd hmem (AList.notMem_empty _)
  exact hrun calls (Manager.new maxGpus) hne (inverse_new maxGpus)

def noRows : RuntimeRows :=
  ⟨Table.empty, Table.empty, Table.empty, fun t h => absurd h (Table.not_mem_empty t)⟩

def plainHost : Host := ⟨fun _ => none, fun _ => none, none, none⟩

/-- Two automatic allocations for one lease, and its release: GPU 0 still names the lease. -/
theorem second_grant_leaks :
    let calls := [LeaseCall.allocate "t" (some "auto") (.ok noRows) 0,
      .allocate "t" (some "auto") (.ok noRows) 1, .release "t"]
    let m := exec (Manager.step plainHost) (Manager.new 2) calls
    m.gpuAllocations.lookup 0 = some "t" ∧ m.gpusOf "t" = [] := by
  decide

end Gpu
