import Mathlib.Algebra.Field.Basic
import Mathlib.Algebra.Order.Ring.Nat
import Mathlib.Data.List.Sort
import TrainFactory.Lib.Text
import TrainFactory.Lib.Dict
import TrainFactory.Lib.Json

/-!
# Ranking metrics

`_build_sample` of `deep_evaluation_runner.py`, which makes a sample of a row of positives and
negatives, and `_compute_metrics`, which ranks the documents of a sample by their scores. The values
are in a field, with its logarithm as a parameter.
-/

namespace DeepEvaluation

open Lib

/-- The functions of the standard library that read a row. -/
structure RowReader where
  /-- `str(value)`. -/
  str : Json → String
  /-- `json.dumps(value, ensure_ascii=False)`. -/
  dumps : Json → String
  /-- `json.loads(text)`; `none` where it raises. -/
  loads : String → Option Json
  /-- `str.lower`. -/
  lower : String → String

/-! ## Samples -/

section Samples

variable (py : RowReader)

def coerceText : Json → Option String
  | .null => none
  | .arr xs => some (py.dumps (.arr xs))
  | .obj kvs => some (py.dumps (.obj kvs))
  | value => some (py.str value)

def candidateText : Json → Option String
  | .null => none
  | .obj kvs =>
    match ["text", "passage", "document", "content"].findSome? fun key =>
        (kvs.lookup key).filter Json.truthy with
    | some value => some (py.str value)
    | none => some (py.dumps (.obj kvs))
  | item => some (py.str item)

def listCandidates (items : List Json) : List String :=
  (items.filterMap (candidateText py)).filter fun item => strip item ≠ ""

/-- `_normalize_candidates`. A text in brackets parses to a list, if at all. -/
def normalizeCandidates : Json → List String
  | .null => []
  | .str value =>
    let raw := strip value
    if raw = "" then []
    else if startsWith raw "[" && endsWith raw "]" then
      match py.loads raw with
      | some (.arr items) => listCandidates py items
      | _ => [raw]
    else [raw]
  | .arr items => listCandidates py items
  | value => [py.str value]

def getRowValue (row : Json) (key : Option String) (fallbackKeys : List String) : Json :=
  match key.filter fun key => key ≠ "" ∧ (row.get? key).isSome with
  | some key => row.getD key .null
  | none => (fallbackKeys.findSome? row.get?).getD .null

structure FieldMapping where
  query : Option String
  positives : Option String
  negatives : Option String

def rowQuery (mapping : FieldMapping) (row : Json) : Option String :=
  coerceText py (getRowValue row mapping.query ["query", "question", "input", "prompt"])

def rowPositives (mapping : FieldMapping) (row : Json) : Json :=
  getRowValue row mapping.positives
    ["positives", "positive", "pos", "relevant", "relevants", "answers", "answer"]

def rowNegatives (mapping : FieldMapping) (row : Json) : Json :=
  getRowValue row mapping.negatives
    ["negatives", "negative", "neg", "irrelevant", "irrelevants", "hard_negatives", "hard_negative"]

structure Sample where
  query : String
  documents : List String
  labels : List Nat

def buildSample (row : Json) (mapping : FieldMapping) : Option Sample :=
  match rowQuery py mapping row with
  | none => none
  | some query =>
    if strip query = "" then none
    else
      let positives := normalizeCandidates py (rowPositives mapping row)
      let negatives := normalizeCandidates py (rowNegatives mapping row)
      if positives.isEmpty then none
      else
        some
          { query := query
            documents := positives ++ negatives
            labels := List.replicate positives.length 1 ++ List.replicate negatives.length 0 }

end Samples

/-! ## Metrics -/

section Metrics

variable {S K : Type*} [LinearOrder S] [Field K] (py : RowReader) (log2 : Nat → K)

def ByScore (left right : S × Nat) : Prop := right.1 ≤ left.1

instance : DecidableRel (ByScore (S := S)) := fun left right =>
  inferInstanceAs (Decidable (right.1 ≤ left.1))

def rankedLabels (scores : List S) (labels : List Nat) : List Nat :=
  ((scores.zip labels).insertionSort ByScore).map Prod.snd

def parseMetric (metric : String) : String × Option Int :=
  match metric.toList.span (· ≠ '@') with
  | (_, []) => (py.lower metric, none)
  | (name, _ :: rawK) => (py.lower (String.ofList name), parseInt (String.ofList rawK))

def cutoffOf (k : Option Int) (n : Nat) : Int :=
  match k with
  | none => n
  | some k => if k = 0 then n else k

def dcgFrom (idx : Nat) : List Nat → K
  | [] => 0
  | rel :: labels =>
    if rel = 0 then dcgFrom (idx + 1) labels
    else ((2 ^ rel - 1 : Nat) : K) / log2 (idx + 1) + dcgFrom (idx + 1) labels

def dcg (labels : List Nat) (k : Nat) : K := dcgFrom log2 1 (labels.take k)

def reciprocalRankFrom (idx : Nat) : List Nat → K
  | [] => 0
  | label :: labels => if label ≠ 0 then 1 / (idx : K) else reciprocalRankFrom (idx + 1) labels

def sumPrecFrom (hit idx : Nat) : List Nat → K
  | [] => 0
  | label :: labels =>
    if label ≠ 0 then ((hit + 1 : Nat) : K) / (idx : K) + sumPrecFrom (hit + 1) (idx + 1) labels
    else sumPrecFrom hit (idx + 1) labels

variable [LinearOrder K]

/-- The value of a metric; `none` where it is not supported. -/
def metricValue (rankedLabels labels : List Nat) (metric : String) : Option K :=
  let (name, k) := parseMetric py metric
  let numPos := labels.sum
  if name = "mrr" then some (reciprocalRankFrom 1 rankedLabels)
  else if name = "map" then
    if numPos = 0 then some 0 else some (sumPrecFrom 0 1 rankedLabels / (numPos : K))
  else if name = "ndcg" then
    let cutoff := cutoffOf k rankedLabels.length
    if cutoff ≤ 0 then some 0
    else
      let idcg := dcg log2 (labels.insertionSort (· ≥ ·)) cutoff.toNat
      if 0 < idcg then some (dcg log2 rankedLabels cutoff.toNat / idcg) else some 0
  else if name = "recall" ∨ name = "precision" then
    let cutoff := min (cutoffOf k rankedLabels.length) rankedLabels.length
    if cutoff ≤ 0 then some 0
    else
      let hits := (rankedLabels.take cutoff.toNat).sum
      if name = "recall" then
        if numPos ≠ 0 then some ((hits : K) / (numPos : K)) else some 0
      else some ((hits : K) / (cutoff.toNat : K))
  else none

/-- The metrics of a ranking; `none` where one is not supported. -/
def metricsOf (rankedLabels labels : List Nat) (metrics : List String) : Option (Dict String K) :=
  (metrics.mapM fun metric =>
    (metricValue py log2 rankedLabels labels metric).map fun value => (metric, value)).map
      (Dict.writeAll ∅)

def computeMetrics (scores : List S) (labels : List Nat) (metrics : List String) :
    Option (Dict String K) :=
  metricsOf py log2 (rankedLabels scores labels) labels metrics

end Metrics

end DeepEvaluation
