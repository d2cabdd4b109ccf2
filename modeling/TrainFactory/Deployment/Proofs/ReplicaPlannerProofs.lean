import Mathlib.Algebra.Order.Ring.Nat
import Mathlib.Data.List.Dedup
import Mathlib.Data.List.Induction
import Mathlib.Data.List.Nodup
import Mathlib.Data.List.Pairwise
import TrainFactory.Deployment.ReplicaPlanner

/-!
# Plans of replicas

A plan assigns GPUs that are enough, distinct and not shared without permission, it exists just where
the pool has enough of them, and a plan that fails holds no port.
-/

namespace Deployment

open Lib

/-! ## The slices of the automatic replicas -/

theorem slices_disjoint {xs : List Nat} (hnodup : xs.Nodup) {c n d : Nat} (h : c + n ≤ d)
    (m : Nat) : ((xs.drop c).take n).Disjoint ((xs.drop d).take m) := by
  have hdisjoint := List.disjoint_take_drop hnodup (Nat.le_refl d)
  intro x hx hx'
  refine hdisjoint ?_ (List.mem_of_mem_take hx')
  rw [List.take_drop] at hx
  have hmem := List.mem_of_mem_drop hx
  exact (List.take_prefix_take_left h).subset hmem

def automaticBefore (overrides : List (Nat × List Nat)) (replicas : List Nat) : Nat :=
  replicas.countP fun replicaIndex => (overrides.lookup replicaIndex).isNone

/-- A replica has its override, or the slice of the remaining GPUs behind those of the automatic
replicas before it. -/
theorem getElem?_assignReplicas (required : Nat) (overrides : List (Nat × List Nat))
    (remaining : List Nat) (cursor : Nat) (replicas : List Nat) (i : Nat) :
    (assignReplicas required overrides remaining cursor replicas)[i]? =
      (replicas[i]?).map fun replicaIndex =>
        (overrides.lookup replicaIndex).getD
          ((remaining.drop (cursor + automaticBefore overrides (replicas.take i) * required)).take
            required) := by
  induction replicas generalizing cursor i with
  | nil => rfl
  | cons replicaIndex replicas ih =>
    rw [assignReplicas]
    cases hoverride : overrides.lookup replicaIndex with
    | some override =>
      cases i with
      | zero => simp [hoverride]
      | succ i =>
        have hcount : automaticBefore overrides ((replicaIndex :: replicas).take (i + 1)) =
            automaticBefore overrides (replicas.take i) := by
          simp [automaticBefore, hoverride]
        dsimp only
        rw [List.getElem?_cons_succ, List.getElem?_cons_succ, ih, hcount]
    | none =>
      cases i with
      | zero => simp [hoverride, automaticBefore]
      | succ i =>
        have hcount : automaticBefore overrides ((replicaIndex :: replicas).take (i + 1)) =
            automaticBefore overrides (replicas.take i) + 1 := by
          simp [automaticBefore, hoverride]
        have hcursor : cursor + (automaticBefore overrides (replicas.take i) + 1) * required =
            cursor + required + automaticBefore overrides (replicas.take i) * required := by
          rw [Nat.add_mul]
          omega
        dsimp only
        rw [List.getElem?_cons_succ, List.getElem?_cons_succ, ih, hcount, hcursor]

theorem length_assignReplicas (required : Nat) (overrides : List (Nat × List Nat))
    (remaining : List Nat) (cursor : Nat) (replicas : List Nat) :
    (assignReplicas required overrides remaining cursor replicas).length = replicas.length := by
  induction replicas generalizing cursor with
  | nil => rfl
  | cons replicaIndex replicas ih =>
    rw [assignReplicas]
    split
    · rw [List.length_cons, List.length_cons, ih]
    · rw [List.length_cons, List.length_cons, ih]

/-! ## The GPUs of a plan -/

/-- The replicas have GPUs of the pool, as many as each needs; the overrides are kept, the other
replicas share no GPU with any replica, and none do unless that is allowed. -/
structure SoundGpus (config : CommonLaunchConfig) (count : Nat) (pool : List Nat)
    (assignments : List (List Nat)) : Prop where
  length : assignments.length = count
  size : ∀ gpuIds ∈ assignments, gpuIds.length = config.required
  nodup : ∀ gpuIds ∈ assignments, gpuIds.Nodup
  inPool : ∀ gpuIds ∈ assignments, ∀ gpuId ∈ gpuIds, gpuId ∈ pool
  overridden : ∀ override ∈ config.replicaGpuOverrides,
    assignments[override.replicaIndex]? = some override.gpuIds
  automatic : ∀ (i j : Nat) (gpuIds gpuIds' : List Nat), i ≠ j → assignments[i]? = some gpuIds →
    assignments[j]? = some gpuIds' →
    (∀ override ∈ config.replicaGpuOverrides, override.replicaIndex ≠ i) →
    gpuIds.Disjoint gpuIds'
  disjoint : config.allowGpuReuse = false → ∀ (i j : Nat) (gpuIds gpuIds' : List Nat), i ≠ j →
    assignments[i]? = some gpuIds → assignments[j]? = some gpuIds' → gpuIds.Disjoint gpuIds'

structure Admissible (config : CommonLaunchConfig) (count : Nat) (pool : List Nat) : Prop where
  index : ∀ override ∈ config.replicaGpuOverrides, override.replicaIndex < count
  size : ∀ override ∈ config.replicaGpuOverrides, override.gpuIds.length = config.required
  inPool : ∀ override ∈ config.replicaGpuOverrides, ∀ gpuId ∈ override.gpuIds, gpuId ∈ pool
  reuse : config.allowGpuReuse = true ∨
    config.replicaGpuOverrides.Pairwise fun override override' =>
      override.gpuIds.Disjoint override'.gpuIds

def IsEnough (config : CommonLaunchConfig) (count : Nat) (pool : List Nat) : Prop :=
  (count - config.replicaGpuOverrides.length) * config.required ≤
    (pool.filter fun gpuId => ∀ override ∈ config.replicaGpuOverrides,
      gpuId ∉ override.gpuIds).length

section Overrides

variable {config : CommonLaunchConfig} {count : Nat} {pool : List Nat}

theorem mem_overriddenIds {gpuId : Nat} :
    gpuId ∈ overriddenIds config.overrides ↔
      ∃ override ∈ config.replicaGpuOverrides, gpuId ∈ override.gpuIds := by
  simp [overriddenIds, CommonLaunchConfig.overrides]

theorem remainingGpus_eq (config : CommonLaunchConfig) (pool : List Nat) :
    remainingGpus pool config.overrides =
      pool.filter fun gpuId => ∀ override ∈ config.replicaGpuOverrides,
        gpuId ∉ override.gpuIds := by
  refine List.filter_congr fun gpuId _ => ?_
  have hiff : gpuId ∉ overriddenIds config.overrides ↔
      ∀ override ∈ config.replicaGpuOverrides, gpuId ∉ override.gpuIds := by
    rw [mem_overriddenIds]
    simp
  simp only [hiff]

theorem checkOverrides_ok_iff {required : Nat} {overrides : List (Nat × List Nat)} :
    checkOverrides required pool overrides = .ok () ↔
      ∀ override ∈ overrides, override.2.length = required ∧ ∀ gpuId ∈ override.2, gpuId ∈ pool := by
  induction overrides with
  | nil => simp [checkOverrides]
  | cons override overrides ih =>
    rw [checkOverrides, List.forall_mem_cons]
    by_cases hsize : override.2.length = required
    · rw [if_neg (not_not_intro hsize)]
      by_cases hpool : ∀ gpuId ∈ override.2, gpuId ∈ pool
      · rw [if_neg (by simpa using hpool), ih]
        exact (and_iff_right ⟨hsize, hpool⟩).symm
      · rw [if_pos (by simpa using hpool)]
        simp [hpool]
    · rw [if_pos hsize]
      simp [hsize]

theorem lookup_overrides {replicaIndex : Nat} {gpuIds : List Nat} :
    config.overrides.lookup replicaIndex = some gpuIds ↔
      ∃ override ∈ config.replicaGpuOverrides,
        override.replicaIndex = replicaIndex ∧ override.gpuIds = gpuIds := by
  have hnodup := config.uniqueIndexes
  unfold CommonLaunchConfig.overrides
  generalize config.replicaGpuOverrides = overrides at hnodup ⊢
  induction overrides with
  | nil => simp
  | cons override overrides ih =>
    rw [List.map_cons, List.nodup_cons] at hnodup
    obtain ⟨hnew, hnodup⟩ := hnodup
    rw [List.map_cons, List.lookup_cons]
    by_cases hindex : replicaIndex = override.replicaIndex
    · have hother : ∀ override' ∈ overrides, override'.replicaIndex ≠ replicaIndex := by
        intro override' hmem heq
        exact hnew (List.mem_map.mpr ⟨override', hmem, heq.trans hindex⟩)
      simp only [hindex, beq_self_eq_true, List.exists_mem_cons_iff, true_and,
        Option.some.injEq]
      constructor
      · exact Or.inl
      · rintro (h | ⟨override', hmem, heq, -⟩)
        · exact h
        · exact absurd (heq.trans hindex.symm) (hother override' hmem)
    · have hbeq : (replicaIndex == override.replicaIndex) = false := by simpa using hindex
      simp only [hbeq, ih hnodup, List.exists_mem_cons_iff, Ne.symm hindex, false_and, false_or]

theorem lookup_overrides_none {replicaIndex : Nat} :
    config.overrides.lookup replicaIndex = none ↔
      ∀ override ∈ config.replicaGpuOverrides, override.replicaIndex ≠ replicaIndex := by
  rw [Option.eq_none_iff_forall_ne_some]
  constructor
  · intro h override hmem heq
    exact h override.gpuIds (lookup_overrides.mpr ⟨override, hmem, heq, rfl⟩)
  · intro h gpuIds heq
    obtain ⟨override, hmem, hindex, -⟩ := lookup_overrides.mp heq
    exact h override hmem hindex

theorem automaticBefore_range_le
    (hindex : ∀ override ∈ config.replicaGpuOverrides, override.replicaIndex < count) :
    automaticBefore config.overrides (List.range count) ≤
      count - config.replicaGpuOverrides.length := by
  have hsub : config.replicaGpuOverrides.map ReplicaGpuOverride.replicaIndex ⊆
      (List.range count).filter fun i => !(config.overrides.lookup i).isNone := by
    intro i hi
    obtain ⟨override, hmem, rfl⟩ := List.mem_map.mp hi
    rw [List.mem_filter, List.mem_range]
    refine ⟨hindex override hmem, ?_⟩
    rw [lookup_overrides.mpr ⟨override, hmem, rfl, rfl⟩]
    rfl
  have hle := config.uniqueIndexes.length_le_of_subset hsub
  rw [List.length_map, ← List.countP_eq_length_filter] at hle
  have hsplit := List.length_eq_countP_add_countP
    (fun i => (config.overrides.lookup i).isNone) (l := List.range count)
  rw [List.length_range] at hsplit
  have hnot : (List.range count).countP (fun i => decide ¬ (config.overrides.lookup i).isNone = true) =
      (List.range count).countP fun i => !(config.overrides.lookup i).isNone := by
    refine List.countP_congr fun i _ => ?_
    simp
  rw [hnot] at hsplit
  unfold automaticBefore
  omega

theorem automaticBefore_lt {overrides : List (Nat × List Nat)} {i j : Nat} (h : i < j)
    (hauto : overrides.lookup i = none) :
    automaticBefore overrides (List.range i) + 1 ≤ automaticBefore overrides (List.range j) := by
  have hsucc : automaticBefore overrides (List.range (i + 1)) =
      automaticBefore overrides (List.range i) + 1 := by
    simp [automaticBefore, List.range_succ, hauto]
  rw [← hsucc]
  exact (List.range_sublist.mpr h).countP_le

def automaticSlice (config : CommonLaunchConfig) (pool : List Nat) (i : Nat) : List Nat :=
  ((remainingGpus pool config.overrides).drop
    (automaticBefore config.overrides (List.range i) * config.required)).take config.required

def assignmentsOf (config : CommonLaunchConfig) (count : Nat) (pool : List Nat) :
    List (List Nat) :=
  assignReplicas config.required config.overrides (remainingGpus pool config.overrides) 0
    (List.range count)

theorem getElem?_assignmentsOf {i : Nat} {gpuIds : List Nat} :
    (assignmentsOf config count pool)[i]? = some gpuIds ↔
      i < count ∧ ((∃ override ∈ config.replicaGpuOverrides,
          override.replicaIndex = i ∧ override.gpuIds = gpuIds) ∨
        config.overrides.lookup i = none ∧ automaticSlice config pool i = gpuIds) := by
  rw [assignmentsOf, getElem?_assignReplicas, ← lookup_overrides]
  by_cases hi : i < count
  · have htake : (List.range count).take i = List.range i := by
      rw [List.take_range, Nat.min_eq_left (Nat.le_of_lt hi)]
    rw [List.getElem?_range hi, Option.map_some, htake, Nat.zero_add, Option.some.injEq]
    cases config.overrides.lookup i with
    | some override => simp [hi]
    | none => simp [hi, automaticSlice]
  · rw [List.getElem?_eq_none (by rw [List.length_range]; omega)]
    simp [hi]

theorem mem_automaticSlice {i gpuId : Nat} (h : gpuId ∈ automaticSlice config pool i) :
    gpuId ∈ pool ∧ ∀ override ∈ config.replicaGpuOverrides, gpuId ∉ override.gpuIds := by
  have hmem := List.mem_of_mem_drop (List.mem_of_mem_take h)
  rw [remainingGpus_eq, List.mem_filter, decide_eq_true_eq] at hmem
  exact hmem

theorem remainingGpus_nodup (hpool : pool.Nodup) :
    (remainingGpus pool config.overrides).Nodup := hpool.filter _

theorem automaticSlice_disjoint (hpool : pool.Nodup) {i j : Nat} (hij : i ≠ j)
    (hi : config.overrides.lookup i = none) (hj : config.overrides.lookup j = none) :
    (automaticSlice config pool i).Disjoint (automaticSlice config pool j) := by
  have hlt : ∀ {k l : Nat}, k < l → config.overrides.lookup k = none →
      (automaticSlice config pool k).Disjoint (automaticSlice config pool l) := by
    intro k l hkl hk
    refine slices_disjoint (remainingGpus_nodup hpool) ?_ _
    have hmul := Nat.mul_le_mul_right config.required (automaticBefore_lt hkl hk)
    rw [Nat.add_mul, Nat.one_mul] at hmul
    exact hmul
  rcases Nat.lt_or_gt_of_ne hij with h | h
  · exact hlt h hi
  · exact List.disjoint_symm (hlt h hj)

theorem length_automaticSlice (hadmissible : Admissible config count pool)
    (henough : IsEnough config count pool) {i : Nat} (hi : i < count)
    (hauto : config.overrides.lookup i = none) :
    (automaticSlice config pool i).length = config.required := by
  have hnext := Nat.le_trans (automaticBefore_lt hi hauto)
    (automaticBefore_range_le hadmissible.index)
  have hmul := Nat.mul_le_mul_right config.required hnext
  rw [IsEnough, ← remainingGpus_eq] at henough
  have hfits := Nat.le_trans hmul henough
  rw [Nat.add_mul, Nat.one_mul] at hfits
  rw [automaticSlice, List.length_take, List.length_drop]
  omega

theorem soundGpus_assignmentsOf (hpool : pool.Nodup) (hadmissible : Admissible config count pool)
    (henough : IsEnough config count pool) :
    SoundGpus config count pool (assignmentsOf config count pool) := by
  have hcases : ∀ gpuIds ∈ assignmentsOf config count pool,
      (∃ override ∈ config.replicaGpuOverrides, override.gpuIds = gpuIds) ∨
        ∃ i, i < count ∧ config.overrides.lookup i = none ∧
          automaticSlice config pool i = gpuIds := by
    intro gpuIds hmem
    obtain ⟨i, hi⟩ := List.mem_iff_getElem?.mp hmem
    obtain ⟨hlt, ⟨override, hmem, -, heq⟩ | ⟨hauto, hslice⟩⟩ := getElem?_assignmentsOf.mp hi
    · exact Or.inl ⟨override, hmem, heq⟩
    · exact Or.inr ⟨i, hlt, hauto, hslice⟩
  have hautomatic : ∀ (i j : Nat) (gpuIds gpuIds' : List Nat), i ≠ j →
      (assignmentsOf config count pool)[i]? = some gpuIds →
      (assignmentsOf config count pool)[j]? = some gpuIds' →
      (∀ override ∈ config.replicaGpuOverrides, override.replicaIndex ≠ i) →
      gpuIds.Disjoint gpuIds' := by
    intro i j gpuIds gpuIds' hij hi hj hauto
    have hnone := lookup_overrides_none.mpr hauto
    obtain ⟨-, ⟨override, hmem, hindex, -⟩ | ⟨-, rfl⟩⟩ := getElem?_assignmentsOf.mp hi
    · exact absurd hindex (hauto override hmem)
    obtain ⟨-, ⟨override, hmem, -, rfl⟩ | ⟨hauto', rfl⟩⟩ := getElem?_assignmentsOf.mp hj
    · exact fun gpuId hslice htaken => (mem_automaticSlice hslice).2 override hmem htaken
    · exact automaticSlice_disjoint hpool hij hnone hauto'
  refine ⟨?_, ?_, ?_, ?_, ?_, hautomatic, ?_⟩
  · rw [assignmentsOf, length_assignReplicas, List.length_range]
  · intro gpuIds hmem
    rcases hcases gpuIds hmem with ⟨override, hmem', rfl⟩ | ⟨i, hi, hauto, rfl⟩
    · exact hadmissible.size override hmem'
    · exact length_automaticSlice hadmissible henough hi hauto
  · intro gpuIds hmem
    rcases hcases gpuIds hmem with ⟨override, hmem, rfl⟩ | ⟨i, hi, hauto, rfl⟩
    · exact override.nodup
    · exact ((remainingGpus_nodup hpool).sublist (List.drop_sublist _ _)).sublist
        (List.take_sublist _ _)
  · intro gpuIds hmem gpuId hgpu
    rcases hcases gpuIds hmem with ⟨override, hmem', rfl⟩ | ⟨i, hi, hauto, rfl⟩
    · exact hadmissible.inPool override hmem' gpuId hgpu
    · exact (mem_automaticSlice hgpu).1
  · intro override hmem
    exact getElem?_assignmentsOf.mpr
      ⟨hadmissible.index override hmem, Or.inl ⟨override, hmem, rfl, rfl⟩⟩
  · intro hreuse i j gpuIds gpuIds' hij hi hj
    by_cases hauto : ∀ override ∈ config.replicaGpuOverrides, override.replicaIndex ≠ i
    · exact hautomatic i j gpuIds gpuIds' hij hi hj hauto
    by_cases hauto' : ∀ override ∈ config.replicaGpuOverrides, override.replicaIndex ≠ j
    · exact List.disjoint_symm (hautomatic j i gpuIds' gpuIds hij.symm hj hi hauto')
    -- two overrides of different replicas
    have hpairwise := hadmissible.reuse.resolve_left (by rw [hreuse]; exact Bool.false_ne_true)
    obtain ⟨-, ⟨override, hmem, hindex, rfl⟩ | ⟨hnone, -⟩⟩ := getElem?_assignmentsOf.mp hi
    swap
    · exact absurd (lookup_overrides_none.mp hnone) hauto
    obtain ⟨-, ⟨override', hmem', hindex', rfl⟩ | ⟨hnone, -⟩⟩ := getElem?_assignmentsOf.mp hj
    swap
    · exact absurd (lookup_overrides_none.mp hnone) hauto'
    have hne : override ≠ override' := by
      rintro rfl
      exact hij (hindex.symm.trans hindex')
    have hsymm : Std.Symm fun override override' : ReplicaGpuOverride =>
        override.gpuIds.Disjoint override'.gpuIds := ⟨fun _ _ h => List.disjoint_symm h⟩
    exact hpairwise.forall hmem hmem' hne

end Overrides

/-! ## When the GPUs can be planned -/

theorem pool_nodup (config : CommonLaunchConfig) {inventory : List Nat} (h : inventory.Nodup) :
    (config.pool inventory).Nodup := by
  unfold CommonLaunchConfig.pool
  split
  · exact h
  · exact config.poolNodup

theorem length_dedup_eq_iff {xs : List Nat} : xs.dedup.length = xs.length ↔ xs.Nodup := by
  constructor
  · intro h
    have hself := (List.dedup_sublist xs).eq_of_length h
    rw [← hself]
    exact List.nodup_dedup xs
  · intro h
    rw [h.dedup]

theorem strictGpuInventory_nodup {gpuInventory : List Json} {inventory : List Nat}
    (h : strictGpuInventory gpuInventory = .ok inventory) : inventory.Nodup := by
  unfold strictGpuInventory at h
  split at h
  · cases h
  · rename_i inventory' _
    by_cases hdedup : inventory'.dedup.length = inventory'.length
    · rw [if_neg (not_not_intro hdedup)] at h
      cases h
      exact length_dedup_eq_iff.mp hdedup
    · rw [if_pos hdedup] at h
      cases h

theorem overriddenIds_nodup_iff (config : CommonLaunchConfig) :
    (overriddenIds config.overrides).Nodup ↔
      config.replicaGpuOverrides.Pairwise fun override override' =>
        override.gpuIds.Disjoint override'.gpuIds := by
  rw [overriddenIds, List.nodup_flatMap, CommonLaunchConfig.overrides, List.pairwise_map]
  refine and_iff_right ?_
  intro override hmem
  obtain ⟨override, -, rfl⟩ := List.mem_map.mp hmem
  exact override.nodup

theorem length_overrides_le {config : CommonLaunchConfig} {count : Nat}
    (hindex : ∀ override ∈ config.replicaGpuOverrides, override.replicaIndex < count) :
    config.replicaGpuOverrides.length ≤ count := by
  have hsub : config.replicaGpuOverrides.map ReplicaGpuOverride.replicaIndex ⊆
      List.range count := by
    intro i hi
    obtain ⟨override, hmem, rfl⟩ := List.mem_map.mp hi
    exact List.mem_range.mpr (hindex override hmem)
  have hle := config.uniqueIndexes.length_le_of_subset hsub
  rwa [List.length_map, List.length_range] at hle

theorem isEnough_iff {config : CommonLaunchConfig} {count : Nat} {pool : List Nat}
    (hindex : ∀ override ∈ config.replicaGpuOverrides, override.replicaIndex < count) :
    IsEnough config count pool ↔
      ¬ ((remainingGpus pool config.overrides).length : Int) <
        ((count : Int) - config.overrides.length) * config.required := by
  have hle := length_overrides_le hindex
  have hlength : config.overrides.length = config.replicaGpuOverrides.length := by
    rw [CommonLaunchConfig.overrides, List.length_map]
  rw [IsEnough, ← remainingGpus_eq, hlength, ← Int.ofNat_sub hle, Int.not_lt]
  exact_mod_cast Iff.rfl

/-- The GPUs are planned just where the replica count and the inventory are valid, the pool lies in
the inventory, the overrides fit, and there are enough GPUs. -/
theorem planGpuAssignments_eq_ok_iff (config : CommonLaunchConfig) (replicaCount : Json)
    (gpuInventory : List Json) (assignments : List (List Nat)) :
    planGpuAssignments config replicaCount gpuInventory = .ok assignments ↔
      ∃ count inventory, replicaCountOf replicaCount = some count ∧
        strictGpuInventory gpuInventory = .ok inventory ∧
        (∀ gpuId ∈ config.pool inventory, gpuId ∈ inventory) ∧
        Admissible config count (config.pool inventory) ∧
        IsEnough config count (config.pool inventory) ∧
        assignmentsOf config count (config.pool inventory) = assignments := by
  cases hcount : replicaCountOf replicaCount with
  | none => simp [planGpuAssignments, hcount]
  | some count =>
  cases hinventory : strictGpuInventory gpuInventory with
  | error e => simp [planGpuAssignments, hcount, hinventory]
  | ok inventory =>
  simp only [planGpuAssignments, hcount, hinventory, Option.some.injEq, Except.ok.injEq,
    exists_and_left, exists_eq_left']
  by_cases hpool : ∀ gpuId ∈ config.pool inventory, gpuId ∈ inventory
  swap
  · rw [if_pos (by simpa using hpool)]
    simp [hpool]
  rw [if_neg (by simpa using hpool)]
  by_cases hindex : ∀ override ∈ config.replicaGpuOverrides, override.replicaIndex < count
  swap
  · rw [if_pos (by simpa [CommonLaunchConfig.overrides] using hindex)]
    constructor
    · intro h
      cases h
    · rintro ⟨-, hadmissible, -⟩
      exact absurd hadmissible.index hindex
  rw [if_neg (by simpa [CommonLaunchConfig.overrides] using hindex)]
  have hchecked : checkOverrides config.required (config.pool inventory) config.overrides =
      .ok () ↔ ∀ override ∈ config.replicaGpuOverrides,
        override.gpuIds.length = config.required ∧
          ∀ gpuId ∈ override.gpuIds, gpuId ∈ config.pool inventory := by
    rw [checkOverrides_ok_iff, CommonLaunchConfig.overrides, List.forall_mem_map]
  cases hcheck : checkOverrides config.required (config.pool inventory) config.overrides with
  | error e =>
    rw [hcheck] at hchecked
    constructor
    · intro h
      cases h
    · rintro ⟨-, hadmissible, -⟩
      have hall := hchecked.mpr fun override hmem =>
        ⟨hadmissible.size override hmem, hadmissible.inPool override hmem⟩
      cases hall
  | ok _ =>
    have hfits := hchecked.mp hcheck
    dsimp only
    by_cases hreuse : config.allowGpuReuse = true ∨
        config.replicaGpuOverrides.Pairwise fun override override' =>
          override.gpuIds.Disjoint override'.gpuIds
    swap
    · obtain ⟨hforbidden, htwice⟩ := not_or.mp hreuse
      rw [← overriddenIds_nodup_iff, ← length_dedup_eq_iff] at htwice
      rw [if_pos ⟨by simpa using hforbidden, htwice⟩]
      constructor
      · intro h
        cases h
      · rintro ⟨-, hadmissible, -⟩
        exact absurd hadmissible.reuse hreuse
    have hadmissible : Admissible config count (config.pool inventory) :=
      ⟨hindex, fun override hmem => (hfits override hmem).1,
        fun override hmem => (hfits override hmem).2, hreuse⟩
    have hallowed : ¬ ((!config.allowGpuReuse) = true ∧
        (overriddenIds config.overrides).dedup.length ≠
          (overriddenIds config.overrides).length) := by
      rintro ⟨hforbidden, htwice⟩
      rcases hreuse with hallow | hpairwise
      · rw [hallow] at hforbidden
        cases hforbidden
      · exact htwice (length_dedup_eq_iff.mpr ((overriddenIds_nodup_iff config).mpr hpairwise))
    rw [if_neg hallowed]
    by_cases henough : IsEnough config count (config.pool inventory)
    · rw [if_neg ((isEnough_iff hindex).mp henough)]
      rw [Except.ok.injEq]
      exact ⟨fun h => ⟨hpool, hadmissible, henough, h⟩, fun h => h.2.2.2⟩
    · rw [if_pos (Classical.not_not.mp fun h => henough ((isEnough_iff hindex).mpr h))]
      simp [henough]

/-! ## The ports that are held -/

def holdStep (held : List (Nat × String)) : PortCall → List (Nat × String)
  | .findAvailablePort ownerToken (.ok value) =>
    match portOf value with
    | none => held
    | some port => if (port, ownerToken) ∈ held then held else held ++ [(port, ownerToken)]
  | .findAvailablePort _ (.error _) => held
  | .releasePort port ownerToken => held.erase (port, ownerToken)

def heldPorts (calls : List PortCall) : List (Nat × String) := calls.foldl holdStep []

def ownedBy (ownerToken : String) (ports : List Nat) : List (Nat × String) :=
  ports.map fun port => (port, ownerToken)

theorem mem_ownedBy {ownerToken : String} {ports : List Nat} {port : Nat} :
    (port, ownerToken) ∈ ownedBy ownerToken ports ↔ port ∈ ports := by
  simp [ownedBy]

/-- The loop over the ports holds just the ports it has collected, and collects all unless it
raises. -/
theorem reservePorts_spec (portAllocator : PortAllocator) (ownerToken : String) (replicas : Nat)
    {reservedPorts : List Nat} {calls : List PortCall}
    (hheld : heldPorts calls = ownedBy ownerToken reservedPorts) (hnodup : reservedPorts.Nodup) :
    let r := reservePorts portAllocator ownerToken replicas reservedPorts calls
    heldPorts r.calls = ownedBy ownerToken r.reservedPorts ∧ r.reservedPorts.Nodup ∧
      (r.raised = none → r.reservedPorts.length = reservedPorts.length + replicas) := by
  induction replicas generalizing reservedPorts calls with
  | zero => exact ⟨hheld, hnodup, fun _ => rfl⟩
  | succ replicas ih =>
    have hcalls (answer : Except PlanError Json) :
        heldPorts (calls ++ [.findAvailablePort ownerToken answer]) =
          holdStep (ownedBy ownerToken reservedPorts) (.findAvailablePort ownerToken answer) := by
      rw [heldPorts, List.foldl_append, ← heldPorts, hheld]
      rfl
    simp only [reservePorts]
    cases hanswer : portAllocator calls with
    | error e => exact ⟨hcalls _, hnodup, fun h => by cases h⟩
    | ok value =>
      dsimp only
      cases hport : portOf value with
      | none =>
        refine ⟨?_, hnodup, fun h => by cases h⟩
        rw [hcalls]
        simp only [holdStep, hport]
      | some port =>
        dsimp only
        by_cases hdup : port ∈ reservedPorts
        · rw [if_pos hdup]
          refine ⟨?_, hnodup, fun h => by cases h⟩
          rw [hcalls]
          simp only [holdStep, hport, if_pos (mem_ownedBy.mpr hdup)]
        · rw [if_neg hdup]
          have hnext : heldPorts (calls ++ [.findAvailablePort ownerToken (.ok value)]) =
              ownedBy ownerToken (reservedPorts ++ [port]) := by
            rw [hcalls]
            simp only [holdStep, hport, if_neg fun h => hdup (mem_ownedBy.mp h)]
            rw [ownedBy, ownedBy, List.map_append]
            rfl
          have hfresh : (reservedPorts ++ [port]).Nodup := by
            rw [List.nodup_append]
            refine ⟨hnodup, List.nodup_singleton _, ?_⟩
            intro port' hmem port'' hmem' heq
            rw [heq, List.mem_singleton.mp hmem'] at hmem
            exact hdup hmem
          obtain ⟨hheld', hnodup', hlength⟩ := ih hnext hfresh
          refine ⟨hheld', hnodup', fun hnone => ?_⟩
          rw [hlength hnone, List.length_append, List.length_singleton]
          omega

theorem heldPorts_releasePorts {ownerToken : String} {ports : List Nat} {calls : List PortCall}
    (hheld : heldPorts calls = ownedBy ownerToken ports) (hnodup : ports.Nodup) :
    heldPorts (releasePorts ownerToken ports calls) = [] := by
  rw [heldPorts, releasePorts, List.foldl_append, ← heldPorts, hheld]
  clear hheld
  induction ports using List.reverseRecOn with
  | nil => rfl
  | append_singleton ports port ih =>
    have hnew : (port, ownerToken) ∉ ownedBy ownerToken ports := by
      rw [mem_ownedBy]
      rw [List.nodup_append] at hnodup
      exact fun hmem => hnodup.2.2 port hmem port (List.mem_singleton_self _) rfl
    have hsplit : ownedBy ownerToken (ports ++ [port]) =
        ownedBy ownerToken ports ++ [(port, ownerToken)] := by
      rw [ownedBy, List.map_append]
      rfl
    rw [List.reverse_append, List.reverse_singleton, List.singleton_append, List.map_cons,
      List.foldl_cons]
    have hstep : holdStep (ownedBy ownerToken (ports ++ [port])) (.releasePort port ownerToken) =
        ownedBy ownerToken ports := by
      rw [holdStep, hsplit, List.erase_append_right _ hnew, List.erase_cons_head, List.append_nil]
    rw [hstep]
    exact ih (hnodup.sublist (List.sublist_append_left _ _))

/-! ## The replicas -/

theorem replicaName_injective (baseContainerName : String) :
    Function.Injective (replicaName baseContainerName) := by
  have hlabel : ∀ i, replicaName baseContainerName (i + 1) =
      baseContainerName ++ ("-r" ++ (i + 1).repr) := by
    intro i
    rw [replicaName, if_neg (Nat.succ_ne_zero i), String.append_assoc]
    rfl
  have hzero : ∀ i, replicaName baseContainerName 0 ≠ replicaName baseContainerName (i + 1) := by
    intro i heq
    rw [hlabel, replicaName, if_pos rfl] at heq
    have hlength := congrArg (fun name => name.toList.length) heq
    simp at hlength
  intro i j heq
  cases i with
  | zero =>
    cases j with
    | zero => rfl
    | succ j => exact absurd heq (hzero j)
  | succ i =>
    cases j with
    | zero => exact absurd heq.symm (hzero i)
    | succ j =>
      rw [hlabel, hlabel] at heq
      have hchars := congrArg String.toList heq
      simp only [String.toList_append, List.append_cancel_left_eq, Nat.toList_repr] at hchars
      have hnumber := congrArg (fun digits => Nat.ofDigitChars 10 digits 0) hchars
      simpa using hnumber

theorem buildReplicas_spec (baseContainerName ownerToken : String) (reservedPorts : List Nat)
    (calls : List PortCall) (replicaIndex : Nat) {assignments : List (List Nat)} {ports : List Nat}
    (hlength : assignments.length = ports.length) :
    (∃ replicas, buildReplicas baseContainerName ownerToken reservedPorts calls replicaIndex
        assignments ports = (.ok replicas, calls) ∧
      replicas.map ReplicaPlan.replicaIndex = List.range' replicaIndex assignments.length ∧
      replicas.map ReplicaPlan.containerName =
        (List.range' replicaIndex assignments.length).map (replicaName baseContainerName) ∧
      replicas.map ReplicaPlan.gpuIds = assignments ∧ replicas.map ReplicaPlan.port = ports) ∨
    ∃ e, buildReplicas baseContainerName ownerToken reservedPorts calls replicaIndex assignments
      ports = (.error e, releasePorts ownerToken reservedPorts calls) := by
  induction assignments generalizing replicaIndex ports with
  | nil =>
    obtain rfl := List.eq_nil_of_length_eq_zero hlength.symm
    exact Or.inl ⟨[], rfl, rfl, rfl, rfl, rfl⟩
  | cons gpuIds assignments ih =>
    cases ports with
    | nil => cases hlength
    | cons port ports =>
      rw [buildReplicas]
      by_cases hname : isContainerName (replicaName baseContainerName replicaIndex) = true
      · rw [if_neg (not_not_intro hname)]
        rcases ih (replicaIndex + 1) (Nat.succ.inj hlength) with
          ⟨replicas, hbuild, hindexes, hnames, hgpus, hports⟩ | ⟨e, hbuild⟩
        · rw [hbuild]
          refine Or.inl ⟨_, rfl, ?_, ?_, ?_, ?_⟩
          · rw [List.map_cons, hindexes, List.length_cons, List.range'_succ]
          · rw [List.map_cons, hnames, List.length_cons, List.range'_succ, List.map_cons]
          · rw [List.map_cons, hgpus]
          · rw [List.map_cons, hports]
        · rw [hbuild]
          exact Or.inr ⟨e, rfl⟩
      · rw [if_pos hname]
        exact Or.inr ⟨_, rfl⟩

/-! ## Plans -/

/-- The replicas of a plan have the indexes below their number, sound GPUs, and names and ports of
their own. -/
structure SoundPlan (config : CommonLaunchConfig) (count : Nat) (pool : List Nat)
    (plan : DeploymentPlan) : Prop where
  indexes : plan.replicas.map ReplicaPlan.replicaIndex = List.range count
  gpus : SoundGpus config count pool (plan.replicas.map ReplicaPlan.gpuIds)
  names : (plan.replicas.map ReplicaPlan.containerName).Nodup
  ports : (plan.replicas.map ReplicaPlan.port).Nodup

/-- The planner returns a sound plan and holds just its ports, or raises and holds no port; the GPUs
can be planned just where the overrides fit and the rest of the pool is enough for the others. -/
theorem planDeploymentReplicas_sound (baseContainerName : String) (replicaCount : Json)
    (config : CommonLaunchConfig) (gpuInventory : List Json) (portAllocator : PortAllocator)
    (ownerToken : String) :
    ((∃ plan calls count inventory,
        planDeploymentReplicas baseContainerName replicaCount config gpuInventory portAllocator
          ownerToken = (.ok plan, calls) ∧
        replicaCountOf replicaCount = some count ∧
        strictGpuInventory gpuInventory = .ok inventory ∧
        SoundPlan config count (config.pool inventory) plan ∧
        heldPorts calls = ownedBy ownerToken (plan.replicas.map ReplicaPlan.port)) ∨
      ∃ e calls, planDeploymentReplicas baseContainerName replicaCount config gpuInventory
        portAllocator ownerToken = (.error e, calls) ∧ heldPorts calls = []) ∧
    ((∃ assignments, planGpuAssignments config replicaCount gpuInventory = .ok assignments) ↔
      ∃ count inventory, replicaCountOf replicaCount = some count ∧
        strictGpuInventory gpuInventory = .ok inventory ∧
        (∀ gpuId ∈ config.pool inventory, gpuId ∈ inventory) ∧
        Admissible config count (config.pool inventory) ∧
        IsEnough config count (config.pool inventory)) := by
  refine ⟨?_, ?_⟩
  swap
  · constructor
    · rintro ⟨assignments, h⟩
      obtain ⟨count, inventory, hcount, hinventory, hpool, hadmissible, henough, -⟩ :=
        (planGpuAssignments_eq_ok_iff ..).mp h
      exact ⟨count, inventory, hcount, hinventory, hpool, hadmissible, henough⟩
    · rintro ⟨count, inventory, hcount, hinventory, hpool, hadmissible, henough⟩
      exact ⟨_, (planGpuAssignments_eq_ok_iff ..).mpr
        ⟨count, inventory, hcount, hinventory, hpool, hadmissible, henough, rfl⟩⟩
  rw [planDeploymentReplicas]
  by_cases hbase : isContainerName baseContainerName = true
  swap
  · rw [if_pos hbase]
    exact Or.inr ⟨_, _, rfl, rfl⟩
  rw [if_neg (not_not_intro hbase)]
  by_cases htoken : ownerToken = ""
  · rw [if_pos htoken]
    exact Or.inr ⟨_, _, rfl, rfl⟩
  rw [if_neg htoken]
  cases hplan : planGpuAssignments config replicaCount gpuInventory with
  | error e => exact Or.inr ⟨e, _, rfl, rfl⟩
  | ok assignments =>
    obtain ⟨count, inventory, hcount, hinventory, hpool, hadmissible, henough, rfl⟩ :=
      (planGpuAssignments_eq_ok_iff ..).mp hplan
    have hsound := soundGpus_assignmentsOf (pool_nodup config (strictGpuInventory_nodup hinventory))
      hadmissible henough
    rw [hcount, Option.getD_some]
    obtain ⟨hheld, hnodup, hall⟩ :=
      @reservePorts_spec portAllocator ownerToken count [] [] rfl List.nodup_nil
    cases hreserve : reservePorts portAllocator ownerToken count [] [] with
    | mk raised reservedPorts calls =>
    rw [hreserve] at hheld hnodup hall
    dsimp only at hheld hnodup hall ⊢
    cases raised with
    | some e => exact Or.inr ⟨e, _, rfl, heldPorts_releasePorts hheld hnodup⟩
    | none =>
      have hlength : (assignmentsOf config count (config.pool inventory)).length =
          reservedPorts.length := by
        rw [hsound.length, hall rfl, List.length_nil, Nat.zero_add]
      dsimp only
      rcases buildReplicas_spec baseContainerName ownerToken reservedPorts calls 0 hlength with
        ⟨replicas, hbuild, hindexes, hnames, hgpus, hports⟩ | ⟨e, hbuild⟩
      · rw [hsound.length, ← List.range_eq_range'] at hindexes hnames
        rw [hbuild]
        refine Or.inl ⟨_, calls, count, inventory, rfl, rfl, hinventory, ⟨hindexes, ?_, ?_, ?_⟩, ?_⟩
        · dsimp only
          rw [hgpus]
          exact hsound
        · dsimp only
          rw [hnames]
          exact List.nodup_range.map (replicaName_injective baseContainerName)
        · dsimp only
          rw [hports]
          exact hnodup
        · dsimp only
          rw [hports]
          exact hheld
      · rw [hbuild]
        exact Or.inr ⟨e, _, rfl, heldPorts_releasePorts hheld hnodup⟩

end Deployment
