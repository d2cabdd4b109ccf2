import TrainFactory.Gpu.Proofs.LeaseProofs
import TrainFactory.Lib.DecimalText

/-!
# Requests that name their GPUs

A `cuda:` request lists GPUs, one in each of its comma-separated parts. A request whose parts are all
of the form `cuda:<number>` is granted as it is listed or refused. A part of another form is passed
over, or makes the whole request an automatic one.
-/

namespace Gpu

open Lib

/-! ## What a request lists -/

/-- The GPU that a part of a request lists; `none` if the part is not `cuda:<number>`. -/
def listedGpuId (part : String) : Option Int :=
  match split part ':' with
  | ["cuda", number] => parseInt number
  | _ => none

def listedGpuIds (request : String) : Option (List Int) :=
  (((split request ',').map strip).filter (· ≠ "")).mapM listedGpuId

/-- An outcome that is a refusal without effect, or a grant of just the listed GPUs that the device
string says again. -/
def GrantsAsListed (m : Manager) (taskId request : String) (outcome : Option String × Manager) :
    Prop :=
  outcome = (none, m) ∨
  ∃ gpuIds device, listedGpuIds request = some gpuIds ∧ outcome.1 = some device ∧
    (∀ gpuId, gpuId ∈ outcome.2.gpusOf taskId ↔ gpuId ∈ gpuIds) ∧
    (∀ gpuId, outcome.2.gpuAllocations.lookup gpuId =
      if gpuId ∈ gpuIds then some taskId else m.gpuAllocations.lookup gpuId) ∧
    ∃ decoded, strictDeviceIds (.str device) = .ok (some decoded) ∧
      ∀ gpuId, gpuId ∈ decoded ↔ gpuId ∈ gpuIds

/-! ## What the parser makes of a request -/

def cudaParts (parts : List String) : List String :=
  (parts.map strip).filter fun part => startsWith part "cuda:"

def partNumber (part : String) : Option Int := ((split part ':')[1]?).bind parseInt

def inRange (maxGpus gpuId : Int) : Bool := 0 ≤ gpuId && gpuId < maxGpus

theorem parseCudaParts_eq (maxGpus : Int) (parts : List String) :
    parseCudaParts maxGpus parts = ((cudaParts parts).mapM partNumber).map fun gpuIds =>
      (gpuIds.filter (inRange maxGpus), gpuIds.filter fun gpuId => !inRange maxGpus gpuId) := by
  induction parts with
  | nil => rfl
  | cons part parts ih =>
    rw [parseCudaParts]
    by_cases hcuda : startsWith (strip part) "cuda:" = true
    · have hparts : cudaParts (part :: parts) = strip part :: cudaParts parts := by
        simp [cudaParts, hcuda]
      have hnumber : ((split (strip part) ':')[1]?).bind parseInt = partNumber (strip part) := rfl
      rw [if_pos hcuda, hparts, List.mapM_cons, hnumber, ih]
      cases hn : partNumber (strip part) with
      | none => rfl
      | some gpuId =>
        cases hrest : (cudaParts parts).mapM partNumber with
        | none => rfl
        | some gpuIds =>
          by_cases hrange : 0 ≤ gpuId ∧ gpuId < maxGpus
          · simp [inRange, hrange]
          · have hout : inRange maxGpus gpuId = false := by
              rw [inRange, ← Bool.decide_and]
              exact decide_eq_false hrange
            simp [hrange, hout]
    · have hparts : cudaParts (part :: parts) = cudaParts parts := by
        simp [cudaParts, hcuda]
      rw [if_neg hcuda, hparts, ih]

theorem partNumber_of_listed {part : String} {gpuId : Int} (h : listedGpuId part = some gpuId) :
    startsWith part "cuda:" = true ∧ partNumber part = some gpuId := by
  unfold listedGpuId at h
  split at h
  · rename_i number hsplit
    refine ⟨?_, by rw [partNumber, hsplit]; simpa using h⟩
    have hpieces : part.toList.splitOn ':' = ["cuda".toList, number.toList] := by
      have hmap := congrArg (List.map String.toList) hsplit
      simpa [split] using hmap
    have hjoin : [':'].intercalate (part.toList.splitOn ':') = part.toList :=
      List.intercalate_splitOn ':'
    rw [hpieces] at hjoin
    rw [startsWith, ← hjoin]
    rfl
  · cases h

theorem mapM_partNumber_of_listed {parts : List String} {gpuIds : List Int}
    (h : ((parts.map strip).filter (· ≠ "")).mapM listedGpuId = some gpuIds) :
    (cudaParts parts).mapM partNumber = some gpuIds := by
  induction parts generalizing gpuIds with
  | nil => exact h
  | cons part parts ih =>
    by_cases hempty : strip part = ""
    · have hparts : cudaParts (part :: parts) = cudaParts parts := by
        have hcuda : ¬ startsWith (strip part) "cuda:" = true := by
          rw [hempty]
          decide
        simp [cudaParts, hcuda]
      rw [List.map_cons, List.filter_cons_of_neg (by simpa using hempty)] at h
      rw [hparts]
      exact ih h
    · rw [List.map_cons, List.filter_cons_of_pos (by simpa using hempty), List.mapM_cons] at h
      simp only [Option.bind_eq_bind, Option.bind_eq_some_iff, Option.pure_def,
        Option.some.injEq] at h
      obtain ⟨gpuId, hlisted, rest, hrest, rfl⟩ := h
      obtain ⟨hcuda, hnumber⟩ := partNumber_of_listed hlisted
      have hparts : cudaParts (part :: parts) = strip part :: cudaParts parts := by
        simp [cudaParts, hcuda]
      rw [hparts, List.mapM_cons, hnumber, ih hrest]
      rfl

/-! ## When a request can be met -/

theorem startsWith_iff {text start : String} :
    startsWith text start = true ↔ start.toList <+: text.toList := by
  rw [startsWith, List.isPrefixOf_iff_prefix]

/-- What the request that the parser sees needs: a free GPU if a part has no number, and otherwise
that the GPUs it names are free GPUs of the machine. -/
def Manager.canTake (m : Manager) (blocked : List Int) (request : String) : Prop :=
  match (cudaParts (split request ',')).mapM partNumber with
  | none => m.freeGpus blocked ≠ []
  | some gpuIds => gpuIds ≠ [] ∧
      ∀ gpuId ∈ gpuIds, inRange m.maxGpus gpuId = true ∧ m.isFree blocked gpuId = true

section Cuda

variable {request : String}

theorem toList_of_cuda (hcuda : startsWith request "cuda:" = true) :
    ∃ rest, request.toList = 'c' :: 'u' :: 'd' :: 'a' :: ':' :: rest := by
  obtain ⟨rest, hrest⟩ := startsWith_iff.mp hcuda
  exact ⟨rest, hrest.symm⟩

theorem ne_of_cuda (hcuda : startsWith request "cuda:" = true) {text : String}
    (h : startsWith text "cuda:" = false) : request ≠ text := by
  rintro rfl
  rw [hcuda] at h
  cases h

theorem isBlankRequest_of_cuda (hcuda : startsWith request "cuda:" = true) :
    isBlankRequest (some request) = false := by
  obtain ⟨rest, hrest⟩ := toList_of_cuda hcuda
  have hstrip : strip request ≠ "" := by
    intro hempty
    have hchars := congrArg String.toList hempty
    rw [strip, hrest, List.dropWhile_cons_of_neg (by decide), String.toList_ofList,
      String.toList_empty, List.reverse_eq_nil_iff, List.dropWhile_eq_nil_iff] at hchars
    exact absurd (hchars 'c' (by simp)) (by decide)
  have hnone : request ≠ "None" := ne_of_cuda hcuda (by decide)
  simp [isBlankRequest, hstrip, hnone]

theorem parseDeviceRequest_of_cuda (hcuda : startsWith request "cuda:" = true) (maxGpus : Int) :
    parseDeviceRequest maxGpus request =
      match (cudaParts (split request ',')).mapM partNumber with
      | none => (none, 1)
      | some gpuIds =>
        if gpuIds.all (inRange maxGpus) then
          if gpuIds = [] then (none, 0) else (some gpuIds, gpuIds.length)
        else (some [], 0) := by
  obtain ⟨rest, hrest⟩ := toList_of_cuda hcuda
  have hauto : ¬ startsWith request "auto:" = true := by
    rw [startsWith, hrest]
    exact Bool.false_ne_true
  rw [parseDeviceRequest, if_neg (ne_of_cuda hcuda (by decide)), if_neg hauto, if_pos hcuda,
    parseCudaParts_eq]
  cases (cudaParts (split request ',')).mapM partNumber with
  | none => rfl
  | some gpuIds =>
    simp only [Option.map_some]
    by_cases hall : gpuIds.all (inRange maxGpus) = true
    · have hin : gpuIds.filter (inRange maxGpus) = gpuIds :=
        List.filter_eq_self.mpr (List.all_eq_true.mp hall)
      have hout : (gpuIds.filter fun gpuId => !inRange maxGpus gpuId) = [] := by
        rw [List.filter_eq_nil_iff]
        intro gpuId hgpu
        rw [List.all_eq_true.mp hall gpuId hgpu]
        exact Bool.false_ne_true
      rw [if_pos hall, hin, hout, if_neg (by simp)]
      by_cases hempty : gpuIds = []
      · rw [if_pos hempty, if_neg (by simpa using hempty)]
      · rw [if_neg hempty, if_pos (by simpa using hempty)]
    · have hout : (gpuIds.filter fun gpuId => !inRange maxGpus gpuId) ≠ [] := by
        intro hnil
        refine hall (List.all_eq_true.mpr fun gpuId hgpu => ?_)
        have := List.filter_eq_nil_iff.mp hnil gpuId hgpu
        simpa using this
      rw [if_neg hall, if_pos hout]

theorem isGrantable_of_cuda (hcuda : startsWith request "cuda:" = true) (host : Host)
    (m : Manager) (taskId : String) (session : Except GpuError RuntimeRows) :
    m.isGrantable host taskId (some request) session = true ↔
      ∃ blocked, m.reservedGpuIds host session taskId = .ok blocked ∧
        m.canTake blocked request := by
  have hcpu : some request ≠ some "cpu" := fun h =>
    ne_of_cuda hcuda (by decide) (Option.some.inj h)
  simp only [Manager.isGrantable, isBlankRequest_of_cuda hcuda, ne_eq, hcpu, not_false_eq_true,
    decide_true, Bool.not_false, Bool.true_and, Option.getD_some]
  cases hreserved : m.reservedGpuIds host session taskId with
  | error e => simp
  | ok blocked =>
    have hone : m.meets blocked (parseDeviceRequest m.maxGpus request) = true ↔
        m.canTake blocked request := by
      rw [parseDeviceRequest_of_cuda hcuda, Manager.canTake]
      cases (cudaParts (split request ',')).mapM partNumber with
      | none =>
        simp only [Manager.meets, ← List.length_pos_iff]
        simp
        omega
      | some gpuIds =>
        simp only
        by_cases hall : gpuIds.all (inRange m.maxGpus) = true
        · rw [if_pos hall]
          by_cases hempty : gpuIds = []
          · simp [hempty, Manager.meets]
          · rw [if_neg hempty]
            rw [List.all_eq_true] at hall
            simp only [Manager.meets, hempty, ne_eq, not_false_eq_true, decide_true,
              Bool.true_and, List.all_eq_true, true_and]
            refine forall₂_congr fun gpuId hgpu => ?_
            have hrange := hall gpuId hgpu
            rw [hrange]
            rw [inRange, Bool.and_eq_true] at hrange
            simp [hrange.2]
        · rw [if_neg hall]
          constructor
          · intro h
            cases h
          · rintro ⟨-, hin⟩
            exact absurd (List.all_eq_true.mpr fun gpuId hgpu => (hin gpuId hgpu).1) hall
    simp [hone]

/-- What the parser reads is granted as it is. -/
theorem allocateGpusForTask_of_cuda (hcuda : startsWith request "cuda:" = true)
    {host : Host} {m : Manager} {taskId : String}
    {session : Except GpuError RuntimeRows} {blocked gpuIds : List Int}
    (hreserved : m.reservedGpuIds host session taskId = .ok blocked)
    (hnamed : (cudaParts (split request ',')).mapM partNumber = some gpuIds)
    (hcan : m.canTake blocked request) (now : Nat) :
    m.allocateGpusForTask host taskId (some request) session now =
      (some (deviceString gpuIds), (m.doAllocateGpus taskId gpuIds now).2) := by
  have hcpu : some request ≠ some "cpu" := fun h =>
    ne_of_cuda hcuda (by decide) (Option.some.inj h)
  rw [Manager.canTake, hnamed] at hcan
  obtain ⟨hne, hfree⟩ := hcan
  have hparse : parseDeviceRequest m.maxGpus request =
      (some gpuIds, (gpuIds.length : Int)) := by
    rw [parseDeviceRequest_of_cuda hcuda, hnamed]
    dsimp only
    rw [if_pos (List.all_eq_true.mpr fun gpuId hgpu => (hfree gpuId hgpu).1), if_neg hne]
  have hblocked : ¬ gpuIds.any (· ∈ blocked) = true := by
    intro hany
    obtain ⟨gpuId, hgpu, hmem⟩ := List.any_eq_true.mp hany
    have hisFree := (hfree gpuId hgpu).2
    simp only [Manager.isFree, Bool.and_eq_true, decide_eq_true_eq] at hisFree hmem
    exact hisFree.2 hmem
  have hspecific : m.canAllocateSpecificGpus gpuIds = true := by
    refine List.all_eq_true.mpr fun gpuId hgpu => ?_
    obtain ⟨hrange, hisFree⟩ := hfree gpuId hgpu
    simp only [inRange, Manager.isFree, Bool.and_eq_true] at hrange hisFree ⊢
    exact ⟨hrange.2, hisFree.1⟩
  obtain ⟨gpuId, rest, rfl⟩ := List.exists_cons_of_ne_nil hne
  rw [Manager.allocateGpusForTask, if_neg (by simp [isBlankRequest_of_cuda hcuda, hcpu]),
    Option.getD_some, hparse, hreserved]
  simp only [if_pos (And.intro hblocked hspecific)]
  rfl

end Cuda

/-! ## Reading back the device string -/

theorem deviceString_eq (gpuIds : List Int) :
    deviceString gpuIds = join "," (gpuIds.map cudaDevice) := by
  cases gpuIds with
  | nil => rfl
  | cons gpuId gpuIds =>
    cases gpuIds with
    | nil => simp [deviceString, join]
    | cons gpuId' gpuIds => rfl

theorem toList_cudaDevice (n : Nat) :
    (cudaDevice (n : Int)).toList = "cuda:".toList ++ Nat.toDigits 10 n := by
  have hprint : toString (n : Int) = n.repr := rfl
  rw [cudaDevice, String.toList_append, hprint, Nat.toList_repr]

theorem strictDeviceParts_cudaDevice {gpuIds : List Int}
    (h : ∀ gpuId ∈ gpuIds, 0 ≤ gpuId ∧ gpuId.natAbs < 10 ^ maxStrDigits) :
    strictDeviceParts (gpuIds.map cudaDevice) = .ok (some gpuIds) := by
  induction gpuIds with
  | nil => rfl
  | cons gpuId gpuIds ih =>
    obtain ⟨hpos, hlt⟩ := h gpuId (List.mem_cons_self ..)
    obtain ⟨n, rfl⟩ := Int.eq_ofNat_of_zero_le hpos
    have hrest := ih fun gpuId' hgpu => h gpuId' (List.mem_cons_of_mem _ hgpu)
    have hdigits : dropChars (cudaDevice (n : Int)) 5 = n.repr := by
      refine String.toList_injective ?_
      rw [dropChars, toList_cudaDevice, String.toList_ofList, Nat.toList_repr]
      rfl
    have hstarts : startsWith (cudaDevice (n : Int)) "cuda:" = true := by
      rw [startsWith_iff, toList_cudaDevice]
      exact List.prefix_append _ _
    have hall : n.repr.toList.all Char.isDigit = true := by
      rw [Nat.toList_repr, List.all_eq_true]
      exact isDigit_toDigits
    have hparse : parseInt n.repr = some (n : Int) := parseInt_repr hlt
    simp only [List.map_cons, strictDeviceParts, hdigits]
    rw [if_neg (by simp only [hstarts, hall, Nat.repr_ne_empty]; simp), hparse]
    dsimp only
    rw [hrest]

theorem strictDeviceIds_deviceString {gpuIds : List Int} (hne : gpuIds ≠ [])
    (h : ∀ gpuId ∈ gpuIds, 0 ≤ gpuId ∧ gpuId.natAbs < 10 ^ maxStrDigits) :
    strictDeviceIds (.str (deviceString gpuIds)) = .ok (some gpuIds) := by
  have hchars : (deviceString gpuIds).toList =
      [','].intercalate ((gpuIds.map cudaDevice).map String.toList) := by
    rw [deviceString_eq, join, String.toList_intercalate]
    rfl
  have hcomma : ∀ chars ∈ (gpuIds.map cudaDevice).map String.toList, ',' ∉ chars := by
    intro chars hmem
    rw [List.map_map] at hmem
    obtain ⟨gpuId, hgpu, rfl⟩ := List.mem_map.mp hmem
    obtain ⟨n, rfl⟩ := Int.eq_ofNat_of_zero_le (h gpuId hgpu).1
    rw [Function.comp_apply, toList_cudaDevice, List.mem_append]
    rintro (hlabel | hdigit)
    · exact absurd hlabel (by decide)
    · exact absurd (isDigit_toDigits _ hdigit) (by decide)
  have hsplit : split (deviceString gpuIds) ',' = gpuIds.map cudaDevice := by
    rw [split, hchars, List.splitOn_intercalate ',' hcomma (by simpa using hne), List.map_map]
    have hself : String.ofList ∘ String.toList = id := funext fun _ => String.ofList_toList
    rw [hself, List.map_id]
  have hstart : ∃ rest, (deviceString gpuIds).toList = 'c' :: 'u' :: rest := by
    obtain ⟨gpuId, rest, rfl⟩ := List.exists_cons_of_ne_nil hne
    obtain ⟨n, rfl⟩ := Int.eq_ofNat_of_zero_le (h gpuId (List.mem_cons_self ..)).1
    rw [hchars, List.map_cons, List.map_cons, toList_cudaDevice]
    cases rest with
    | nil => exact ⟨_, by rw [List.map_nil, List.map_nil, List.intercalate_singleton]; rfl⟩
    | cons gpuId' rest =>
      exact ⟨_, by rw [List.map_cons, List.map_cons, List.intercalate_cons_cons]; rfl⟩
  obtain ⟨rest, hrest⟩ := hstart
  have hcpu : deviceString gpuIds ≠ "cpu" := by
    intro heq
    rw [heq] at hrest
    exact absurd (List.cons.inj (List.cons.inj hrest).2).1 (by decide)
  have hempty : deviceString gpuIds ≠ "" := by
    intro heq
    rw [heq] at hrest
    cases hrest
  rw [strictDeviceIds, if_neg hcpu, if_neg hempty, hsplit]
  exact strictDeviceParts_cudaDevice h

theorem natAbs_lt_of_mapM {parts : List String} {gpuIds : List Int}
    (h : parts.mapM partNumber = some gpuIds) :
    ∀ gpuId ∈ gpuIds, gpuId.natAbs < 10 ^ maxStrDigits := by
  induction parts generalizing gpuIds with
  | nil =>
    cases h
    simp
  | cons part parts ih =>
    rw [List.mapM_cons] at h
    simp only [Option.bind_eq_bind, Option.bind_eq_some_iff, Option.pure_def,
      Option.some.injEq] at h
    obtain ⟨gpuId, hnumber, rest, hrest, rfl⟩ := h
    intro gpuId' hgpu
    rcases List.mem_cons.mp hgpu with rfl | hgpu
    · obtain ⟨text, -, hparse⟩ := Option.bind_eq_some_iff.mp hnumber
      exact parseInt_lt hparse
    · exact ih hrest gpuId' hgpu

/-! ## Explicit requests -/

/-- An explicit request is granted as it is listed, or refused without effect, if and only if it
lists GPUs in all its parts, or what the parser makes of it cannot be met. -/
theorem allocateGpusForTask_explicit_iff (host : Host) (m : Manager) (taskId : String)
    {request : String} (hcuda : startsWith request "cuda:" = true)
    (session : Except GpuError RuntimeRows) (now : Nat) :
    GrantsAsListed m taskId request
        (m.allocateGpusForTask host taskId (some request) session now) ↔
      (listedGpuIds request).isSome = true ∨
        ∀ blocked, m.reservedGpuIds host session taskId = .ok blocked →
          ¬ m.canTake blocked request := by
  have hgrantable := isGrantable_of_cuda hcuda host m taskId session
  rcases allocateGpusForTask_cases host m taskId (some request) session now with
    ⟨hno, hcases⟩ | ⟨hyes, gpuIds, blocked, hgrant, hresult⟩
  · -- a request that cannot be met is refused
    have hrefused : m.allocateGpusForTask host taskId (some request) session now = (none, m) := by
      rcases hcases with ⟨hblank | hcpu, -⟩ | hnone
      · rw [isBlankRequest_of_cuda hcuda] at hblank
        cases hblank
      · exact absurd (Option.some.inj hcpu) (ne_of_cuda hcuda (by decide))
      · exact hnone
    refine ⟨fun _ => Or.inr fun blocked hreserved hcan => ?_, fun _ => Or.inl hrefused⟩
    rw [hgrantable.mpr ⟨blocked, hreserved, hcan⟩] at hno
    cases hno
  · obtain ⟨blocked', hreserved, hcan⟩ := hgrantable.mp hyes
    constructor
    · rintro (hnone | ⟨listed, device, hlisted, -⟩)
      · rw [hresult] at hnone
        cases hnone
      · exact Or.inl (by rw [hlisted]; rfl)
    · rintro (hsome | hnever)
      · -- all parts list a GPU: the parser reads what is listed
        obtain ⟨listed, hlisted⟩ := Option.isSome_iff_exists.mp hsome
        have hnamed := mapM_partNumber_of_listed hlisted
        have hgranted := allocateGpusForTask_of_cuda hcuda hreserved hnamed hcan now
        rw [Manager.canTake, hnamed] at hcan
        have hbounds : ∀ gpuId ∈ listed, 0 ≤ gpuId ∧ gpuId.natAbs < 10 ^ maxStrDigits := by
          intro gpuId hgpu
          have hrange := (hcan.2 gpuId hgpu).1
          rw [inRange, Bool.and_eq_true, decide_eq_true_eq] at hrange
          exact ⟨hrange.1, natAbs_lt_of_mapM hnamed gpuId hgpu⟩
        rw [hgranted]
        refine Or.inr ⟨listed, deviceString listed, hlisted, rfl, fun gpuId => ?_,
          lookup_doAllocateGpus m taskId listed now, listed,
          strictDeviceIds_deviceString hcan.1 hbounds, fun _ => Iff.rfl⟩
        rw [gpusOf_doAllocateGpus, if_pos rfl, List.mem_dedup]
      · exact absurd hcan (hnever blocked' hreserved)

theorem allocateGpusForTask_bothListed :
    GrantsAsListed (Manager.new 2) "t" "cuda:0,cuda:1"
      ((Manager.new 2).allocateGpusForTask plainHost "t" (some "cuda:0,cuda:1") (.ok noRows) 0) :=
  (allocateGpusForTask_explicit_iff plainHost (Manager.new 2) "t" (by decide) (.ok noRows) 0).mpr
    (Or.inl (by decide))

/-- A part without `cuda:` is dropped, and a part without a number gets a GPU that was not asked
for. -/
theorem allocateGpusForTask_notAsListed :
    ¬ GrantsAsListed (Manager.new 2) "t" "cuda:0,1"
      ((Manager.new 2).allocateGpusForTask plainHost "t" (some "cuda:0,1") (.ok noRows) 0) ∧
    ¬ GrantsAsListed (Manager.new 2) "t" "cuda:x"
      ((Manager.new 2).allocateGpusForTask plainHost "t" (some "cuda:x") (.ok noRows) 0) := by
  have hdropped : ((Manager.new 2).allocateGpusForTask plainHost "t" (some "cuda:0,1")
      (.ok noRows) 0).1 = some "cuda:0" := by decide
  have hautomatic : ((Manager.new 2).allocateGpusForTask plainHost "t" (some "cuda:x")
      (.ok noRows) 0).1 = some "cuda:0" := by decide
  have hunlisted : listedGpuIds "cuda:0,1" = none ∧ listedGpuIds "cuda:x" = none := by decide
  constructor
  · rintro (hnone | ⟨gpuIds, device, hlisted, -⟩)
    · rw [hnone] at hdropped
      cases hdropped
    · rw [hunlisted.1] at hlisted
      cases hlisted
  · rintro (hnone | ⟨gpuIds, device, hlisted, -⟩)
    · rw [hnone] at hautomatic
      cases hautomatic
    · rw [hunlisted.2] at hlisted
      cases hlisted

end Gpu
