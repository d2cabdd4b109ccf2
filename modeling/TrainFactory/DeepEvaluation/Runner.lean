import Mathlib.Algebra.Order.Ring.Rat
import TrainFactory.Lib.Dict
import TrainFactory.Lib.Json

/-!
# The deep evaluation runner

The groups of a deep evaluation task, the table of their results and the pool of their metric
statistics, over what a run restores from an earlier one and what it evaluates itself. Evaluating a
group is a parameter; the statistics are rational numbers.
-/

namespace DeepEvaluation

open Lib

/-! ## Successful results -/

/-- `isinstance(value, (int, float)) and not isinstance(value, bool) and value > 0`. -/
def isPositive : Json → Bool
  | .int n => 0 < n
  | .float q => 0 < q
  | _ => false

def hasCountedMetric (metrics : Json) : Bool :=
  metrics.entries.any fun kv => isPositive ((kv.2.get? "count").getD .null)

mutual

def containsSuccessfulMetricResult : Json → Bool
  | .obj kvs =>
    isPositive ((kvs.lookup "successful_samples").getD .null) ||
      hasCountedMetric ((kvs.lookup "metrics").getD .null) || anyEntrySuccessful kvs
  | .arr xs => anyElementSuccessful xs
  | _ => false

def anyEntrySuccessful : List (String × Json) → Bool
  | [] => false
  | (key, item) :: kvs =>
    (key ≠ "_error" && key ≠ "metrics" && containsSuccessfulMetricResult item) ||
      anyEntrySuccessful kvs

def anyElementSuccessful : List Json → Bool
  | [] => false
  | item :: xs => containsSuccessfulMetricResult item || anyElementSuccessful xs

end

def isSuccessfulGroupResult : Json → Bool
  | .obj kvs =>
    (kvs.lookup "_error").isNone &&
      containsSuccessfulMetricResult (.obj
        [("retrieval", (kvs.lookup "retrieval").getD .null),
          ("llm", (kvs.lookup "llm").getD .null)])
  | _ => false

/-! ## Metric statistics -/

structure Stat where
  mean : Rat
  count : Rat
  min : Option Rat
  max : Option Rat

/-- An entry of `merged_stats`. -/
structure PoolEntry where
  sum : Rat
  count : Rat
  min : Option Rat
  max : Option Rat
  deriving DecidableEq

abbrev Pool := Dict String PoolEntry

namespace PoolEntry

/-- The entry that `setdefault` makes. -/
def empty : PoolEntry := { sum := 0, count := 0, min := none, max := none }

/-- `value if current is None else pick(current, value)`, unless the value is `None`. -/
def pickBound (pick : Rat → Rat → Rat) (current value : Option Rat) : Option Rat :=
  match value with
  | none => current
  | some v => some (match current with
    | none => v
    | some c => pick c v)

def add (entry : PoolEntry) (stat : Stat) : PoolEntry where
  sum := entry.sum + stat.mean * stat.count
  count := entry.count + stat.count
  min := pickBound Min.min entry.min stat.min
  max := pickBound Max.max entry.max stat.max

end PoolEntry

def mergeMetric (mergedStats : Pool) (metric : String × Stat) : Pool :=
  mergedStats.insert metric.1 (((mergedStats.lookup metric.1).getD PoolEntry.empty).add metric.2)

/-- A number of a statistic; `none` for any other value, and for a numeric text, which `float` would
read. -/
def toNumber? : Json → Option Rat
  | .bool b => some (if b then 1 else 0)
  | .int n => some n
  | .float q => some q
  | _ => none

def toBound? : Json → Option (Option Rat)
  | .null => some none
  | v => (toNumber? v).map some

def orZero (value : Json) : Json := if value.truthy then value else .int 0

/-- What `_merge_metric` merges of a statistic, if anything: it skips one without a mean or
samples. `none` where it raises. -/
def mergedStat (stat : Json) : Option (Option Stat) :=
  match stat with
  | .obj kvs =>
    match (kvs.lookup "mean").getD .null with
    | .null => some none
    | mean =>
      (toNumber? (orZero ((kvs.lookup "count").getD .null))).bind fun count =>
        if count ≤ 0 then some none
        else
          (toNumber? mean).bind fun mean =>
            (toBound? ((kvs.lookup "min").getD .null)).bind fun min =>
              (toBound? ((kvs.lookup "max").getD .null)).map fun max =>
                some { mean := mean, count := count, min := min, max := max }
  | _ => none

/-- `(value.get(key) or {})`, as entries: `none` where using it as a dictionary raises. -/
def dictOr (kvs : List (String × Json)) (key : String) : Option (List (String × Json)) :=
  match (kvs.lookup key).getD .null with
  | .obj entries => some entries
  | v => if v.truthy then none else some []

def datasetStats (datasetData : Json) : Option (List (String × Stat)) :=
  match datasetData with
  | .obj kvs =>
    (dictOr kvs "summary").bind fun datasetSummary =>
      (dictOr datasetSummary "metrics").bind fun metrics =>
        (metrics.mapM fun kv => (mergedStat kv.2).map fun stat => (kv.1, stat)).map fun stats =>
          stats.filterMap fun kv => kv.2.map fun stat => (kv.1, stat)
  | _ => none

def datasetsStats (summary : List (String × Json)) : Option (List (String × Stat)) :=
  (dictOr summary "datasets").bind fun datasets =>
    (datasets.mapM fun kv => datasetStats kv.2).map List.flatten

def modelStats (retrieval : List (String × Json)) (modelType : String) :
    Option (List (String × Stat)) :=
  (dictOr retrieval modelType).bind fun modelData =>
    (dictOr modelData "summary").bind datasetsStats

/-- What `_merge_group_metrics` merges, in order, or `none` where it raises. -/
def groupStats (groupResult : Json) : Option (List (String × Stat)) :=
  match groupResult with
  | .obj kvs =>
    (dictOr kvs "retrieval").bind fun retrieval =>
      (modelStats retrieval "embedding").bind fun embedding =>
        (modelStats retrieval "rerank").bind fun rerank =>
          (dictOr kvs "llm").bind fun llm =>
            (datasetsStats llm).map fun datasets => embedding ++ rerank ++ datasets
  | _ => none

/-! ## Runs -/

/-- `group.get("group_name") or f"模型组 {idx + 1}"`. -/
def groupNameOr (groupName : Option String) (idx : Nat) : String :=
  match groupName with
  | none => "模型组 " ++ toString (idx + 1)
  | some name => if name = "" then "模型组 " ++ toString (idx + 1) else name

/-- A task as far as its groups go: their names, and what evaluating each of them returns. -/
structure Task where
  modelGroups : List (Option String)
  evaluate : Nat → Json

namespace Task

variable (task : Task)

def groupName (idx : Nat) : String := groupNameOr (task.modelGroups.getD idx none) idx

def indices : List Nat := List.range task.modelGroups.length

def configuredGroupNames : List String := task.indices.map task.groupName

def completedGroupNames (existingResults : Dict String Json) : List String :=
  existingResults.keys.filter fun name =>
    name ∈ task.configuredGroupNames ∧
      ((existingResults.lookup name).any isSuccessfulGroupResult) = true

end Task

/-- What a run holds. The last two fields record what it did. -/
structure RunState where
  groupDetails : Dict String Json
  mergedStats : Pool
  /-- A merge raised, which ends the run. -/
  raised : Bool
  /-- The names of the groups that were merged, in order. -/
  pooled : List String
  /-- The indices of the groups that were evaluated, in order. -/
  evaluated : List Nat

namespace RunState

def start : RunState :=
  { groupDetails := ∅, mergedStats := ∅, raised := false, pooled := [], evaluated := [] }

def mergeGroupMetrics (st : RunState) (name : String) (groupResult : Json) : RunState :=
  match groupStats groupResult with
  | some stats =>
    { st with
      mergedStats := stats.foldl mergeMetric st.mergedStats
      pooled := st.pooled ++ [name] }
  | none => { st with raised := true }

def restore (existingResults : Dict String Json) (st : RunState) (name : String) : RunState :=
  if st.raised then st
  else
    match existingResults.lookup name with
    | some result =>
      { st with groupDetails := st.groupDetails.insert name result }.mergeGroupMetrics name result
    | none => st

/-- `group_details.get(group_name, {"retrieval": {}, "llm": {}})`. -/
def restoredResult (st : RunState) (name : String) : Json :=
  (st.groupDetails.lookup name).getD (.obj [("retrieval", .obj []), ("llm", .obj [])])

/-- A group completes: `run_group` skips it if it was restored, and its result is merged if it is
new and successful. -/
def complete (task : Task) (completed : List String) (st : RunState) (idx : Nat) : RunState :=
  let name := task.groupName idx
  if st.raised then st
  else if name ∈ completed then
    { st with groupDetails := st.groupDetails.insert name (st.restoredResult name) }
  else
    let result := task.evaluate idx
    let st := { st with
      groupDetails := st.groupDetails.insert name result
      evaluated := st.evaluated ++ [idx] }
    if isSuccessfulGroupResult result then st.mergeGroupMetrics name result else st

end RunState

/-- A run up to some point: the completed groups restored in the order `restored`, the groups `done`
completed in this order. -/
def runUpTo (task : Task) (existingResults : Dict String Json) (restored : List String)
    (done : List Nat) : RunState :=
  done.foldl (RunState.complete task (task.completedGroupNames existingResults))
    (restored.foldl (RunState.restore existingResults) RunState.start)

structure MetricSummary where
  mean : Rat
  min : Option Rat
  max : Option Rat
  count : Rat
  deriving DecidableEq

def summarize (entry : PoolEntry) : Option MetricSummary :=
  if entry.count ≤ 0 then none
  else some {
    mean := entry.sum / entry.count
    min := entry.min
    max := entry.max
    count := entry.count }

/-- `metrics_summary[name]`. -/
def metricsSummary (mergedStats : Pool) (name : String) : Option MetricSummary :=
  (mergedStats.lookup name).bind summarize

structure OverallSummary where
  mean : Rat
  min : Option Rat
  max : Option Rat
  deriving DecidableEq

def metricMeans (mergedStats : Pool) : List Rat :=
  mergedStats.keys.filterMap fun name => (metricsSummary mergedStats name).map MetricSummary.mean

def overallSummary (mergedStats : Pool) : Option OverallSummary :=
  let means := metricMeans mergedStats
  if means.isEmpty then none
  else some { mean := means.sum / means.length, min := means.min?, max := means.max? }

/-- The results that a run stores. -/
structure Summary where
  overall : Option OverallSummary
  metrics : String → Option MetricSummary
  byGroup : Dict String Json

def anySuccessful (groupDetails : Dict String Json) : Bool :=
  groupDetails.keys.any fun name => (groupDetails.lookup name).any isSuccessfulGroupResult

/-- `run_deep_evaluation_task` over groups that completed: it fails where a merge raised, or where
no group is successful. -/
def finish (st : RunState) : Option Summary :=
  if st.raised || !anySuccessful st.groupDetails then none
  else some {
    overall := overallSummary st.mergedStats
    metrics := metricsSummary st.mergedStats
    byGroup := st.groupDetails }

/-- What a run leaves behind for a resumption: `_save_partial_results` keeps the details, if there
are any. -/
def savedResults (existingResults : Dict String Json) (st : RunState) : Dict String Json :=
  if st.groupDetails.keys.isEmpty then existingResults else st.groupDetails

end DeepEvaluation
