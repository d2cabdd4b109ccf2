import Mathlib.Algebra.BigOperators.Group.List.Basic
import Mathlib.Tactic.Ring
import TrainFactory.DeepEvaluation.Runner

/-!
# Resuming a deep evaluation

A run that restores what interrupted runs saved ends as a run that evaluates every group does. Both
are described by what a run holds after it restored some groups and others completed: the table has
their results, and the pool the statistics of the successful ones, in some order.
-/

namespace DeepEvaluation

open Lib

/-! ## Pools -/

namespace PoolEntry

theorem pickBound_right_comm (pick : Rat → Rat → Rat)
    (hpick : ∀ a b c, pick (pick a b) c = pick (pick a c) b) (hcomm : ∀ a b, pick a b = pick b a)
    (current s t : Option Rat) :
    pickBound pick (pickBound pick current s) t = pickBound pick (pickBound pick current t) s := by
  cases s with
  | none => rfl
  | some s =>
    cases t with
    | none => rfl
    | some t =>
      cases current with
      | none => simp [pickBound, hcomm s t]
      | some c => simp [pickBound, hpick c s t]

instance : RightCommutative add where
  right_comm entry s t := by
    simp only [add, PoolEntry.mk.injEq]
    refine ⟨by ring, by ring, ?_, ?_⟩
    · exact pickBound_right_comm _ min_right_comm min_comm _ _ _
    · exact pickBound_right_comm _ max_right_comm max_comm _ _ _

end PoolEntry

theorem foldl_mergeMetric (mergedStats : Pool) (stats : List (String × Stat)) :
    stats.foldl mergeMetric mergedStats =
      Dict.accumulate PoolEntry.add PoolEntry.empty mergedStats stats := rfl

theorem keys_perm {V : Type*} {d d' : Dict String V} (h : ∀ name, d.lookup name = d'.lookup name) :
    d.keys.Perm d'.keys := by
  refine (List.perm_ext_iff_of_nodup d.keys_nodup d'.keys_nodup).mpr fun name => ?_
  rw [← AList.mem_keys, ← AList.mem_keys, Dict.mem_iff_lookup, Dict.mem_iff_lookup, h]

theorem min?_perm {xs ys : List Rat} (h : xs.Perm ys) : xs.min? = ys.min? := by
  ext q
  simp only [List.min?_eq_some_iff, h.mem_iff]

theorem max?_perm {xs ys : List Rat} (h : xs.Perm ys) : xs.max? = ys.max? := by
  ext q
  simp only [List.max?_eq_some_iff, h.mem_iff]

theorem overallSummary_congr {stats stats' : Pool}
    (h : ∀ name, stats.lookup name = stats'.lookup name) :
    overallSummary stats = overallSummary stats' := by
  have hmetrics : metricsSummary stats = metricsSummary stats' := by
    funext name
    rw [metricsSummary, metricsSummary, h]
  have hmeans : (metricMeans stats).Perm (metricMeans stats') := by
    rw [metricMeans, metricMeans, hmetrics]
    exact (keys_perm h).filterMap _
  have hsum : (metricMeans stats).sum = (metricMeans stats').sum := hmeans.sum_eq
  unfold overallSummary
  simp only [hsum, hmeans.length_eq, min?_perm hmeans, max?_perm hmeans, hmeans.isEmpty_eq]

/-! ## The results of the groups -/

section Groups

variable (task : Task)

def resultOf (name : String) : Option Json :=
  (task.indices.find? fun idx => task.groupName idx = name).map task.evaluate

def statsOf (name : String) : List (String × Stat) :=
  ((resultOf task name).bind groupStats).getD []

/-- A group is successful, but its statistics cannot be merged. -/
def Unmergeable (idx : Nat) : Prop :=
  isSuccessfulGroupResult (task.evaluate idx) = true ∧ groupStats (task.evaluate idx) = none

variable {task}

theorem resultOf_eq_some {name : String} {result : Json} (h : resultOf task name = some result) :
    ∃ idx ∈ task.indices, task.groupName idx = name ∧ task.evaluate idx = result := by
  obtain ⟨idx, hfind, hresult⟩ := Option.map_eq_some_iff.mp h
  exact ⟨idx, List.mem_of_find?_eq_some hfind, by simpa using List.find?_some hfind, hresult⟩

theorem groupName_inj (hnames : task.configuredGroupNames.Nodup) {idx idx' : Nat}
    (hidx : idx ∈ task.indices) (hidx' : idx' ∈ task.indices)
    (h : task.groupName idx = task.groupName idx') : idx = idx' :=
  List.inj_on_of_nodup_map hnames hidx hidx' h

theorem resultOf_groupName (hnames : task.configuredGroupNames.Nodup) {idx : Nat}
    (hidx : idx ∈ task.indices) :
    resultOf task (task.groupName idx) = some (task.evaluate idx) := by
  have hsome : (task.indices.find? fun i => task.groupName i = task.groupName idx).isSome := by
    rw [List.find?_isSome]
    exact ⟨idx, hidx, by simp⟩
  obtain ⟨idx', hfind⟩ := Option.isSome_iff_exists.mp hsome
  have hname : task.groupName idx' = task.groupName idx := by simpa using List.find?_some hfind
  have heq : idx' = idx := groupName_inj hnames (List.mem_of_find?_eq_some hfind) hidx hname
  rw [resultOf, hfind, heq]
  rfl

theorem resultOf_eq_none {name : String} (h : name ∉ task.configuredGroupNames) :
    resultOf task name = none := by
  rw [resultOf, Option.map_eq_none_iff, List.find?_eq_none]
  intro idx hidx
  have hne : task.groupName idx ≠ name := by
    rintro rfl
    exact h (List.mem_map_of_mem hidx)
  simpa using hne

end Groups

/-! ## What a run holds -/

section Run

variable {task : Task} {existing : Dict String Json} {completed restored : List String}
  {done : List Nat} {st : RunState}

def SavedFrom (task : Task) (existing : Dict String Json) : Prop :=
  ∀ name result, existing.lookup name = some result → resultOf task name = some result

def newGroups (task : Task) (completed : List String) (done : List Nat) : List Nat :=
  done.filter fun idx => task.groupName idx ∉ completed

def newSuccesses (task : Task) (completed : List String) (done : List Nat) : List Nat :=
  (newGroups task completed done).filter fun idx =>
    isSuccessfulGroupResult (task.evaluate idx)

structure PoolHolds (task : Task) (st : RunState) : Prop where
  mergedStats : st.mergedStats =
    Dict.accumulate PoolEntry.add PoolEntry.empty ∅ (st.pooled.flatMap (statsOf task))
  mergeable : ∀ idx ∈ task.indices, task.groupName idx ∈ st.pooled → ¬ Unmergeable task idx

structure Holds (task : Task) (completed restored : List String) (done : List Nat)
    (st : RunState) : Prop where
  pool : PoolHolds task st
  details : ∀ name, st.groupDetails.lookup name =
    if name ∈ restored ∨ name ∈ done.map task.groupName then resultOf task name else none
  pooled : st.pooled = restored ++ (newSuccesses task completed done).map task.groupName
  evaluated : st.evaluated = newGroups task completed done

/-- A run that raised did so at a successful group, and any other holds what it should. -/
structure Sound (task : Task) (completed restored : List String) (done : List Nat)
    (st : RunState) : Prop where
  saved : SavedFrom task st.groupDetails
  raised : st.raised = true → ∃ idx ∈ task.indices, Unmergeable task idx
  holds : st.raised = false → Holds task completed restored done st

theorem SavedFrom.insert (h : SavedFrom task existing) {name : String} {result : Json}
    (hresult : resultOf task name = some result) :
    SavedFrom task (existing.insert name result) := by
  intro name' result' hlookup
  rw [Dict.lookup_insert_eq] at hlookup
  split_ifs at hlookup with hname
  · rw [hname, hresult]
    exact hlookup
  · exact h name' result' hlookup

/-! ### Merging a group -/

theorem mergeGroupMetrics_details (name : String) (result : Json) :
    (st.mergeGroupMetrics name result).groupDetails = st.groupDetails := by
  unfold RunState.mergeGroupMetrics
  cases groupStats result <;> rfl

theorem mergeGroupMetrics_evaluated (name : String) (result : Json) :
    (st.mergeGroupMetrics name result).evaluated = st.evaluated := by
  unfold RunState.mergeGroupMetrics
  cases groupStats result <;> rfl

theorem mergeGroupMetrics_of_raised {name : String} {result : Json}
    (hraised : (st.mergeGroupMetrics name result).raised = true) (h : st.raised = false) :
    groupStats result = none := by
  unfold RunState.mergeGroupMetrics at hraised
  cases hstats : groupStats result with
  | none => rfl
  | some stats =>
    rw [hstats] at hraised
    exact absurd (h.symm.trans hraised) (by simp)

theorem mergeGroupMetrics_of_not_raised {name : String} {result : Json}
    (h : (st.mergeGroupMetrics name result).raised = false) :
    ∃ stats, groupStats result = some stats ∧
      (st.mergeGroupMetrics name result).pooled = st.pooled ++ [name] ∧
      (st.mergeGroupMetrics name result).mergedStats = stats.foldl mergeMetric st.mergedStats := by
  unfold RunState.mergeGroupMetrics at h ⊢
  cases hstats : groupStats result with
  | none =>
    rw [hstats] at h
    exact absurd h (by simp)
  | some stats => exact ⟨stats, rfl, rfl, rfl⟩

theorem PoolHolds.merge (hnames : task.configuredGroupNames.Nodup) {idx : Nat}
    (hidx : idx ∈ task.indices)
    (hraised : (st.mergeGroupMetrics (task.groupName idx) (task.evaluate idx)).raised = false)
    (h : PoolHolds task st) :
    PoolHolds task (st.mergeGroupMetrics (task.groupName idx) (task.evaluate idx)) := by
  obtain ⟨stats, hstats, hpooled, hmerged⟩ := mergeGroupMetrics_of_not_raised hraised
  have hof : statsOf task (task.groupName idx) = stats := by
    rw [statsOf, resultOf_groupName hnames hidx, Option.bind_some, hstats]
    rfl
  constructor
  · rw [hmerged, hpooled, foldl_mergeMetric, h.mergedStats, List.flatMap_append,
      Dict.accumulate_append, List.flatMap_singleton, hof]
  · intro idx' hidx' hmem hbad
    rw [hpooled, List.mem_append, List.mem_singleton] at hmem
    cases hmem with
    | inl hmem => exact h.mergeable idx' hidx' hmem hbad
    | inr hname =>
      rw [groupName_inj hnames hidx' hidx hname] at hbad
      exact absurd (hbad.2.symm.trans hstats) (by simp)

theorem PoolHolds.congr {st' : RunState} (h : PoolHolds task st)
    (hmerged : st'.mergedStats = st.mergedStats) (hpooled : st'.pooled = st.pooled) :
    PoolHolds task st' := by
  constructor
  · rw [hmerged, hpooled]
    exact h.mergedStats
  · rw [hpooled]
    exact h.mergeable

/-! ### Restoring and completing -/

theorem sound_start : Sound task completed [] [] RunState.start where
  saved := fun name result h => by simp [RunState.start] at h
  raised := fun h => by simp [RunState.start] at h
  holds := fun _ => {
    pool := ⟨rfl, fun idx _ hmem => by simp [RunState.start] at hmem⟩
    details := fun name => by simp [RunState.start]
    pooled := rfl
    evaluated := rfl }

theorem mem_completedGroupNames {name : String} :
    name ∈ task.completedGroupNames existing ↔
      name ∈ task.configuredGroupNames ∧
        (existing.lookup name).any isSuccessfulGroupResult = true := by
  constructor
  · intro h
    exact of_decide_eq_true (List.mem_filter.mp h).2
  · intro h
    refine List.mem_filter.mpr ⟨?_, decide_eq_true h⟩
    obtain ⟨result, hlookup, -⟩ := (Option.any_eq_true ..).mp h.2
    exact AList.mem_keys.mp (Dict.mem_iff_lookup.mpr ⟨result, hlookup⟩)

theorem exists_of_mem_completed (hsaved : SavedFrom task existing) {name : String}
    (h : name ∈ task.completedGroupNames existing) :
    ∃ idx ∈ task.indices, task.groupName idx = name ∧
      existing.lookup name = some (task.evaluate idx) ∧
      isSuccessfulGroupResult (task.evaluate idx) = true := by
  obtain ⟨result, hlookup, hsuccess⟩ := (Option.any_eq_true ..).mp (mem_completedGroupNames.mp h).2
  obtain ⟨idx, hidx, hname, hresult⟩ := resultOf_eq_some (hsaved name result hlookup)
  subst hresult
  exact ⟨idx, hidx, hname, hlookup, hsuccess⟩

theorem Sound.restore (hnames : task.configuredGroupNames.Nodup) (hsaved : SavedFrom task existing)
    (h : Sound task completed restored [] st) {name : String}
    (hname : name ∈ task.completedGroupNames existing) :
    Sound task completed (restored ++ [name]) [] (st.restore existing name) := by
  obtain ⟨idx, hidx, rfl, hlookup, hsuccess⟩ := exists_of_mem_completed hsaved hname
  have hresult := resultOf_groupName hnames hidx
  unfold RunState.restore
  by_cases hraised : st.raised = true
  · rw [if_pos hraised]
    exact ⟨h.saved, h.raised, fun hfalse => absurd (hraised.symm.trans hfalse) (by simp)⟩
  · have hnot : st.raised = false := by simpa using hraised
    rw [if_neg hraised, hlookup]
    dsimp only
    obtain ⟨hpool, hdetails, hpooled, hevaluated⟩ := h.holds hnot
    constructor
    · rw [mergeGroupMetrics_details]
      exact h.saved.insert hresult
    · intro hmerge
      exact ⟨idx, hidx, hsuccess, mergeGroupMetrics_of_raised hmerge hnot⟩
    · intro hmerge
      obtain ⟨stats, -, hmergePooled, -⟩ := mergeGroupMetrics_of_not_raised hmerge
      refine ⟨PoolHolds.merge hnames hidx hmerge (hpool.congr rfl rfl), fun name' => ?_, ?_, ?_⟩
      · rw [mergeGroupMetrics_details, Dict.lookup_insert_eq, hdetails]
        by_cases hname' : name' = task.groupName idx
        · subst hname'
          simp [hresult]
        · simp [hname']
      · rw [hmergePooled, hpooled]
        simp [newSuccesses, newGroups]
      · rw [mergeGroupMetrics_evaluated]
        exact hevaluated

theorem Sound.complete (hnames : task.configuredGroupNames.Nodup)
    (h : Sound task completed restored done st) (hrestored : ∀ name ∈ completed, name ∈ restored)
    {idx : Nat} (hidx : idx ∈ task.indices) :
    Sound task completed restored (done ++ [idx]) (st.complete task completed idx) := by
  have hresult := resultOf_groupName hnames hidx
  unfold RunState.complete
  by_cases hraised : st.raised = true
  · rw [if_pos hraised]
    exact ⟨h.saved, h.raised, fun hfalse => absurd (hraised.symm.trans hfalse) (by simp)⟩
  · have hnot : st.raised = false := by simpa using hraised
    rw [if_neg hraised]
    obtain ⟨hpool, hdetails, hpooled, hevaluated⟩ := h.holds hnot
    -- the entry of the group in the table, restored or new
    have hinsert : ∀ name, (st.groupDetails.insert (task.groupName idx)
          (task.evaluate idx)).lookup name =
        if name ∈ restored ∨ name ∈ (done ++ [idx]).map task.groupName then resultOf task name
        else none := by
      intro name
      rw [Dict.lookup_insert_eq, hdetails]
      by_cases hname : name = task.groupName idx
      · subst hname
        simp [hresult]
      · simp [hname]
    by_cases hcompleted : task.groupName idx ∈ completed
    · have hrestoredResult : st.restoredResult (task.groupName idx) = task.evaluate idx := by
        rw [RunState.restoredResult, hdetails, if_pos (.inl (hrestored _ hcompleted)), hresult]
        rfl
      have hnew : newGroups task completed (done ++ [idx]) = newGroups task completed done := by
        simp [newGroups, hcompleted]
      rw [if_pos hcompleted, hrestoredResult]
      constructor
      · exact h.saved.insert hresult
      · intro htrue
        exact absurd htrue hraised
      · intro _
        refine ⟨hpool.congr rfl rfl, hinsert, ?_, ?_⟩
        · rw [newSuccesses, hnew]
          exact hpooled
        · rw [hnew]
          exact hevaluated
    · have hnew : newGroups task completed (done ++ [idx]) =
          newGroups task completed done ++ [idx] := by
        simp [newGroups, hcompleted]
      rw [if_neg hcompleted]
      by_cases hsuccess : isSuccessfulGroupResult (task.evaluate idx) = true
      · rw [if_pos hsuccess]
        constructor
        · rw [mergeGroupMetrics_details]
          exact h.saved.insert hresult
        · intro hmerge
          exact ⟨idx, hidx, hsuccess, mergeGroupMetrics_of_raised hmerge hnot⟩
        · intro hmerge
          obtain ⟨stats, -, hmergePooled, -⟩ := mergeGroupMetrics_of_not_raised hmerge
          refine ⟨PoolHolds.merge hnames hidx hmerge (hpool.congr rfl rfl), fun name => ?_, ?_, ?_⟩
          · rw [mergeGroupMetrics_details]
            exact hinsert name
          · rw [hmergePooled, newSuccesses, hnew, List.filter_append, hpooled]
            simp [newSuccesses, hsuccess]
          · rw [mergeGroupMetrics_evaluated, hnew, ← hevaluated]
      · rw [if_neg hsuccess]
        constructor
        · exact h.saved.insert hresult
        · intro htrue
          exact absurd htrue hraised
        · intro _
          refine ⟨hpool.congr rfl rfl, hinsert, ?_, ?_⟩
          · rw [newSuccesses, hnew, List.filter_append]
            simpa [newSuccesses, hsuccess] using hpooled
          · rw [hnew, ← hevaluated]

theorem sound_restoreAll (hnames : task.configuredGroupNames.Nodup)
    (hsaved : SavedFrom task existing) (h : Sound task completed restored [] st)
    {names : List String} (hmem : ∀ name ∈ names, name ∈ task.completedGroupNames existing) :
    Sound task completed (restored ++ names) []
      (names.foldl (RunState.restore existing) st) := by
  induction names generalizing restored st with
  | nil => simpa using h
  | cons name names ih =>
    have hstep := h.restore hnames hsaved (hmem name List.mem_cons_self)
    simpa using ih hstep fun name' hname' => hmem name' (List.mem_cons_of_mem _ hname')

theorem sound_completeAll (hnames : task.configuredGroupNames.Nodup)
    (h : Sound task completed restored done st) (hrestored : ∀ name ∈ completed, name ∈ restored)
    {idxs : List Nat} (hmem : ∀ idx ∈ idxs, idx ∈ task.indices) :
    Sound task completed restored (done ++ idxs)
      (idxs.foldl (RunState.complete task completed) st) := by
  induction idxs generalizing done st with
  | nil => simpa using h
  | cons idx idxs ih =>
    have hstep := h.complete hnames hrestored (hmem idx List.mem_cons_self)
    simpa using ih hstep fun idx' hidx' => hmem idx' (List.mem_cons_of_mem _ hidx')

theorem sound_runUpTo (hnames : task.configuredGroupNames.Nodup) (hsaved : SavedFrom task existing)
    (hrestored : restored.Perm (task.completedGroupNames existing))
    (hdone : ∀ idx ∈ done, idx ∈ task.indices) :
    Sound task (task.completedGroupNames existing) restored done
      (runUpTo task existing restored done) := by
  have hempty : Sound task (task.completedGroupNames existing) [] [] RunState.start := sound_start
  have hstart := sound_restoreAll hnames hsaved hempty fun name => hrestored.mem_iff.mp
  have hrun := sound_completeAll hnames hstart
    (fun name hname => hrestored.mem_iff.mpr hname) hdone
  simpa [runUpTo] using hrun

/-! ### Whole runs -/

def successes (task : Task) : List Nat :=
  task.indices.filter fun idx => isSuccessfulGroupResult (task.evaluate idx)

theorem mem_indices_of_perm (hdone : done.Perm task.indices) {idx : Nat} (h : idx ∈ done) :
    idx ∈ task.indices :=
  hdone.mem_iff.mp h

theorem Holds.details_eq (hdone : done.Perm task.indices)
    (h : Holds task completed restored done st) (name : String) :
    st.groupDetails.lookup name = resultOf task name := by
  rw [h.details]
  split_ifs with hname
  · rfl
  · refine (resultOf_eq_none fun hconfigured => hname (.inr ?_)).symm
    exact (hdone.map task.groupName).mem_iff.mpr hconfigured

theorem Holds.pooled_perm (hnames : task.configuredGroupNames.Nodup)
    (hsaved : SavedFrom task existing)
    (hrestored : restored.Perm (task.completedGroupNames existing)) (hdone : done.Perm task.indices)
    (h : Holds task (task.completedGroupNames existing) restored done st) :
    st.pooled.Perm ((successes task).map task.groupName) := by
  have hnewNodup : (newSuccesses task (task.completedGroupNames existing) done).Nodup :=
    ((hdone.nodup_iff.mpr List.nodup_range).filter _).filter _
  have hnewMem : ∀ idx ∈ newSuccesses task (task.completedGroupNames existing) done,
      idx ∈ task.indices ∧ task.groupName idx ∉ task.completedGroupNames existing ∧
        isSuccessfulGroupResult (task.evaluate idx) = true := by
    intro idx hidx
    obtain ⟨hnew, hsuccess⟩ := List.mem_filter.mp hidx
    obtain ⟨hmem, hcompleted⟩ := List.mem_filter.mp hnew
    exact ⟨hdone.mem_iff.mp hmem, by simpa using hcompleted, hsuccess⟩
  rw [h.pooled]
  refine (List.perm_ext_iff_of_nodup ?_ ?_).mpr fun name => ?_
  · refine List.nodup_append.mpr ⟨?_, ?_, ?_⟩
    · exact hrestored.nodup_iff.mpr (existing.keys_nodup.filter _)
    · refine hnewNodup.map_on fun idx hidx idx' hidx' hname => ?_
      exact groupName_inj hnames (hnewMem idx hidx).1 (hnewMem idx' hidx').1 hname
    · rintro name hname name' hname' rfl
      obtain ⟨idx, hidx, rfl⟩ := List.mem_map.mp hname'
      exact (hnewMem idx hidx).2.1 (hrestored.mem_iff.mp hname)
  · refine (List.nodup_range.filter _).map_on fun idx hidx idx' hidx' hname => ?_
    exact groupName_inj hnames (List.mem_filter.mp hidx).1 (List.mem_filter.mp hidx').1 hname
  · rw [List.mem_append, List.mem_map, List.mem_map]
    constructor
    · rintro (hname | ⟨idx, hidx, rfl⟩)
      · obtain ⟨idx, hidx, hgroup, -, hsuccess⟩ :=
          exists_of_mem_completed hsaved (hrestored.mem_iff.mp hname)
        exact ⟨idx, List.mem_filter.mpr ⟨hidx, hsuccess⟩, hgroup⟩
      · obtain ⟨hmem, -, hsuccess⟩ := hnewMem idx hidx
        exact ⟨idx, List.mem_filter.mpr ⟨hmem, hsuccess⟩, rfl⟩
    · rintro ⟨idx, hidx, rfl⟩
      obtain ⟨hmem, hsuccess⟩ := List.mem_filter.mp hidx
      by_cases hcompleted : task.groupName idx ∈ task.completedGroupNames existing
      · exact .inl (hrestored.mem_iff.mpr hcompleted)
      · refine .inr ⟨idx, List.mem_filter.mpr ⟨List.mem_filter.mpr ⟨?_, ?_⟩, hsuccess⟩, rfl⟩
        · exact hdone.mem_iff.mpr hmem
        · simpa using hcompleted

theorem raised_iff (hnames : task.configuredGroupNames.Nodup) (hsaved : SavedFrom task existing)
    (hrestored : restored.Perm (task.completedGroupNames existing))
    (hdone : done.Perm task.indices) :
    (runUpTo task existing restored done).raised = true ↔
      ∃ idx ∈ task.indices, Unmergeable task idx := by
  have hsound := sound_runUpTo hnames hsaved hrestored fun idx => mem_indices_of_perm hdone
  constructor
  · exact hsound.raised
  · rintro ⟨idx, hidx, hbad⟩
    by_contra hraised
    have hholds := hsound.holds (by simpa using hraised)
    have hmem : task.groupName idx ∈ (successes task).map task.groupName :=
      List.mem_map_of_mem (List.mem_filter.mpr ⟨hidx, hbad.1⟩)
    have hpooled := (hholds.pooled_perm hnames hsaved hrestored hdone).mem_iff.mpr hmem
    exact hholds.pool.mergeable idx hidx hpooled hbad

structure SameSummary (summary summary' : Summary) : Prop where
  overall : summary.overall = summary'.overall
  metrics : summary.metrics = summary'.metrics
  byGroup : ∀ name, summary.byGroup.lookup name = summary'.byGroup.lookup name

/-- What a whole run has that did not raise, in terms of the task alone. -/
structure Whole (task : Task) (st : RunState) : Prop where
  details : ∀ name, st.groupDetails.lookup name = resultOf task name
  pool : PoolHolds task st
  pooled : st.pooled.Perm ((successes task).map task.groupName)

theorem Holds.whole (hnames : task.configuredGroupNames.Nodup) (hsaved : SavedFrom task existing)
    (hrestored : restored.Perm (task.completedGroupNames existing)) (hdone : done.Perm task.indices)
    (h : Holds task (task.completedGroupNames existing) restored done st) : Whole task st where
  details := h.details_eq hdone
  pool := h.pool
  pooled := h.pooled_perm hnames hsaved hrestored hdone

variable {st' : RunState}

theorem Whole.lookup_mergedStats (h : Whole task st) (h' : Whole task st') (metric : String) :
    st.mergedStats.lookup metric = st'.mergedStats.lookup metric := by
  rw [h.pool.mergedStats, h'.pool.mergedStats]
  exact Dict.lookup_accumulate_perm _ _ _ ((h.pooled.trans h'.pooled.symm).flatMap_right _) metric

theorem Whole.finish (h : Whole task st) (h' : Whole task st')
    (hraised : st.raised = st'.raised) :
    Option.Rel SameSummary (DeepEvaluation.finish st) (DeepEvaluation.finish st') := by
  have hdetails : ∀ name, st.groupDetails.lookup name = st'.groupDetails.lookup name :=
    fun name => (h.details name).trans (h'.details name).symm
  have hsuccess : anySuccessful st.groupDetails = anySuccessful st'.groupDetails := by
    simp only [anySuccessful, hdetails, (keys_perm hdetails).any_eq]
  unfold DeepEvaluation.finish
  rw [hraised, hsuccess]
  split_ifs
  · exact .none
  · refine .some ⟨?_, ?_, hdetails⟩
    · exact overallSummary_congr (h.lookup_mergedStats h')
    · funext metric
      simp only [metricsSummary, h.lookup_mergedStats h']

end Run

/-! ## Resuming -/

/-- What runs of a task that were interrupted left for its next run: each restored what there was,
and was interrupted after some groups completed. -/
inductive Saved (task : Task) : Dict String Json → Prop where
  | nothing : Saved task ∅
  | interrupted {existing : Dict String Json} {restored : List String} {done : List Nat} :
      Saved task existing → restored.Perm (task.completedGroupNames existing) → done.Nodup →
        (∀ idx ∈ done, idx ∈ task.indices) →
        Saved task (savedResults existing (runUpTo task existing restored done))

variable {task : Task} {existing : Dict String Json}

theorem Saved.savedFrom (hnames : task.configuredGroupNames.Nodup) (h : Saved task existing) :
    SavedFrom task existing := by
  induction h with
  | nothing =>
    intro name result hlookup
    exact absurd hlookup (by simp)
  | interrupted hsaved hrestored hnodup hdone ih =>
    unfold savedResults
    split_ifs
    · exact ih
    · exact (sound_runUpTo hnames ih hrestored hdone).saved

theorem newGroups_completed (done : List Nat) (hdone : ∀ idx ∈ done, idx ∈ task.indices) :
    newGroups task (task.completedGroupNames existing) done =
      done.filter fun idx =>
        !(existing.lookup (task.groupName idx)).any isSuccessfulGroupResult := by
  refine List.filter_congr fun idx hidx => ?_
  have hconfigured : task.groupName idx ∈ task.configuredGroupNames :=
    List.mem_map_of_mem (hdone idx hidx)
  simp [mem_completedGroupNames, hconfigured]

/-- A resumed run ends as a run that evaluates every group does, in whatever order groups are
restored and complete: with the same table and statistics, or failing where that fails. It pools
each successful group once, and evaluates the groups of which no successful result was saved. -/
theorem resumed_eq_uninterrupted (hnames : task.configuredGroupNames.Nodup)
    (hsaved : Saved task existing) {restored : List String} {done done' : List Nat}
    (hrestored : restored.Perm (task.completedGroupNames existing))
    (hdone : done.Perm task.indices) (hdone' : done'.Perm task.indices) :
    Option.Rel SameSummary (finish (runUpTo task existing restored done))
        (finish (runUpTo task ∅ [] done')) ∧
      ((runUpTo task existing restored done).raised = false →
        (runUpTo task existing restored done).pooled.Perm
            ((successes task).map task.groupName) ∧
          (runUpTo task existing restored done).evaluated.Perm
            (task.indices.filter fun idx =>
              !(existing.lookup (task.groupName idx)).any isSuccessfulGroupResult)) := by
  have hfrom := hsaved.savedFrom hnames
  have hempty : SavedFrom task ∅ := Saved.nothing.savedFrom hnames
  have hnone : ([] : List String).Perm (task.completedGroupNames ∅) := by
    simp [Task.completedGroupNames]
  have hsound := sound_runUpTo hnames hfrom hrestored fun idx => mem_indices_of_perm hdone
  have hsound' := sound_runUpTo hnames hempty hnone fun idx => mem_indices_of_perm hdone'
  have hraised : (runUpTo task existing restored done).raised =
      (runUpTo task ∅ [] done').raised := by
    rw [Bool.eq_iff_iff, raised_iff hnames hfrom hrestored hdone,
      raised_iff hnames hempty hnone hdone']
  constructor
  · by_cases htrue : (runUpTo task existing restored done).raised = true
    · have htrue' : (runUpTo task ∅ [] done').raised = true := hraised.symm.trans htrue
      simp [finish, htrue, htrue']
    · have hfalse : (runUpTo task existing restored done).raised = false := by simpa using htrue
      have hwhole := (hsound.holds hfalse).whole hnames hfrom hrestored hdone
      have hwhole' := (hsound'.holds (hraised.symm.trans hfalse)).whole hnames hempty hnone hdone'
      exact hwhole.finish hwhole' hraised
  · intro hfalse
    have hholds := hsound.holds hfalse
    refine ⟨hholds.pooled_perm hnames hfrom hrestored hdone, ?_⟩
    rw [hholds.evaluated, newGroups_completed done fun idx => mem_indices_of_perm hdone]
    exact hdone.filter _

def mrrResult (count : Int) : Json :=
  .obj [("retrieval", .obj []), ("llm", .obj [("datasets", .obj [("d", .obj [("summary",
    .obj [("metrics", .obj [("mrr", .obj [("mean", .int 1), ("min", .int 0), ("max", .int 1),
      ("count", .int count)])])])])])])]

def threeGroups : Task where
  modelGroups := [some "a", none, some "c"]
  evaluate idx := if idx = 2 then .obj [("_error", .str "timeout")] else mrrResult (idx + 1)

/-- A run that was interrupted after the second and the third group, resumed. -/
theorem threeGroups_resumed :
    Option.Rel SameSummary
        (finish (runUpTo threeGroups (savedResults ∅ (runUpTo threeGroups ∅ [] [2, 1]))
          ["模型组 2"] [2, 0, 1]))
        (finish (runUpTo threeGroups ∅ [] [0, 1, 2])) ∧
      ((runUpTo threeGroups (savedResults ∅ (runUpTo threeGroups ∅ [] [2, 1]))
        ["模型组 2"] [2, 0, 1]).evaluated.Perm [0, 2]) := by
  have hsaved : Saved threeGroups (savedResults ∅ (runUpTo threeGroups ∅ [] [2, 1])) :=
    .interrupted .nothing (by rfl) (by decide) (by decide)
  have hrestored : ["模型组 2"].Perm (threeGroups.completedGroupNames
      (savedResults ∅ (runUpTo threeGroups ∅ [] [2, 1]))) := by rfl
  have hdone : [2, 0, 1].Perm threeGroups.indices := by decide
  have hdone' : [0, 1, 2].Perm threeGroups.indices := by decide
  have hresumed := resumed_eq_uninterrupted (by decide +kernel) hsaved hrestored hdone hdone'
  exact ⟨hresumed.1, (hresumed.2 (by decide +kernel)).2⟩

def repeatedNames : Task where
  modelGroups := [some "g", some "g"]
  evaluate idx := mrrResult (idx + 1)

def pooledCount (metric : String) (summary : Option Summary) : Option Rat :=
  (summary.bind fun summary => summary.metrics metric).map MetricSummary.count

theorem pooledCount_congr {summary summary' : Option Summary}
    (h : Option.Rel SameSummary summary summary') (metric : String) :
    pooledCount metric summary = pooledCount metric summary' := by
  cases h with
  | none => rfl
  | some h => simp [pooledCount, h.metrics]

/-- With a repeated name the resumed run skips both groups for the one result that was saved, and
pools it once, where an uninterrupted run pools both. -/
theorem repeatedNames_not_resumed :
    Saved repeatedNames (savedResults ∅ (runUpTo repeatedNames ∅ [] [0])) ∧
      ["g"].Perm (repeatedNames.completedGroupNames
        (savedResults ∅ (runUpTo repeatedNames ∅ [] [0]))) ∧
      ¬ Option.Rel SameSummary
        (finish (runUpTo repeatedNames (savedResults ∅ (runUpTo repeatedNames ∅ [] [0])) ["g"]
          [0, 1]))
        (finish (runUpTo repeatedNames ∅ [] [0, 1])) := by
  refine ⟨.interrupted .nothing (by rfl) (by decide) (by decide), by rfl, fun h => ?_⟩
  exact absurd (pooledCount_congr h "mrr") (by decide +kernel)

end DeepEvaluation
