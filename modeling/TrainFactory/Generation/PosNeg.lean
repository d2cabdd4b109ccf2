import TrainFactory.Lib.Text
import TrainFactory.Lib.Json
import TrainFactory.Lib.KeyedResume
import TrainFactory.Lib.RankedHits
import Mathlib.Algebra.Order.Field.Rat

/-!
# Positive and negative samples

The phase of a generation that makes a training sample of each QA record, for the universal output
format: `_generate_pos_neg_batch` and the consumer of `_run_doc_to_training`. Both read the samples
that an interrupted attempt has written, and pass over their records.
-/

namespace Generation

open Lib

/-- The functions of the standard library that make a key. -/
structure KeyStdlib where
  /-- `str.lower`. -/
  lower : String → String
  /-- `hashlib.md5(text.encode()).hexdigest()`. -/
  md5 : String → String

/-! ## Records and samples -/

structure QaRecord where
  query : String
  answer : String
  /-- `record.get("chunk_id")`. -/
  chunkId : Option String
  /-- The `source_doc_id` of `record["metadata"]`, if the record has metadata with one. -/
  sourceDocId : Option String
  chunkContent : String
deriving DecidableEq

def textOrNull : Option String → Json
  | none => .null
  | some text => .str text

def QaRecord.toJson (record : QaRecord) : Json :=
  .obj [("query", .str record.query), ("answer", .str record.answer),
    ("chunk_id", textOrNull record.chunkId),
    ("metadata", .obj [("source_doc_id", textOrNull record.sourceDocId)]),
    ("chunk_content", .str record.chunkContent)]

/-- A `GeneratedSample`, without the `role_config` that this phase does not set. -/
structure GeneratedSample where
  query : Json
  answer : Json
  positiveChunks : Json
  negativeChunks : Json
  sourceDocId : Json

def formatSample (sample : GeneratedSample) : Json :=
  .obj [("query", sample.query), ("answer", sample.answer), ("positives", sample.positiveChunks),
    ("negatives", sample.negativeChunks),
    ("metadata", .obj [("source_doc_id", sample.sourceDocId), ("role_config", .null)])]

/-! ## Keys -/

/-- `value or ""` as a text; `none` if it is none. -/
def textOr : Json → Option String
  | .str text => some text
  | value => if value.truthy then none else some ""

/-- `_qa_dedup_hash` of a query, an answer and a chunk id; `none` where it raises. -/
def qaDedupHash (py : KeyStdlib) (query answer chunkId : Json) : Option String :=
  match textOr query, textOr answer, textOr chunkId with
  | some query, some answer, some chunkId =>
    some (py.md5 (join "\x1f" [strip (py.lower query), strip (py.lower answer), chunkId]))
  | _, _, _ => none

/-- `_qa_checkpoint_key`; `none` where it raises. -/
def qaCheckpointKey (py : KeyStdlib) : Json → Option String
  | .obj record =>
    let metadata := (Json.obj record).getD "metadata" .null
    let chunkId := (Json.obj record).getD "chunk_id" .null
    let query := (Json.obj record).getD "query" (.str "")
    let answer := (Json.obj record).getD "answer" (.str "")
    if chunkId.truthy then qaDedupHash py query answer chunkId
    else
      match if metadata.truthy then metadata else .obj [] with
      | .obj metadata =>
        let sourceDocId := (Json.obj metadata).getD "source_doc_id" .null
        qaDedupHash py query answer (if sourceDocId.truthy then sourceDocId else .str "")
      | _ => none
  | _ => none

def QaRecord.dedupHash (py : KeyStdlib) (record : QaRecord) : Option String :=
  qaDedupHash py (record.toJson.getD "query" .null) (record.toJson.getD "answer" .null)
    (record.toJson.getD "chunk_id" .null)

def QaRecord.checkpointKey (py : KeyStdlib) (record : QaRecord) : Option String :=
  qaCheckpointKey py record.toJson

/-! ## The checkpoint -/

inductive CheckpointLine where
  | blank
  /-- `json.loads` raises `JSONDecodeError`. -/
  | malformed
  /-- Reading or parsing the line raises something else. -/
  | unreadable
  | value (obj : Json)

/-- The key and the sample of a line; `none` where it raises. -/
def resumedSample (py : KeyStdlib) : Json → Option (String × GeneratedSample)
  | .obj obj =>
    let metadata := (Json.obj obj).getD "metadata" .null
    match if metadata.truthy then metadata else .obj [] with
    | .obj metadata =>
      let sourceDocId := (Json.obj metadata).getD "source_doc_id" .null
      match qaCheckpointKey py (.obj obj) with
      | none => none
      | some key => some (key,
        { query := (Json.obj obj).getD "query" (.str "")
          answer := (Json.obj obj).getD "answer" (.str "")
          positiveChunks := (Json.obj obj).getD "positives" (.arr [])
          negativeChunks := (Json.obj obj).getD "negatives" (.arr [])
          sourceDocId := if sourceDocId.truthy then sourceDocId else .str "" })
    | _ => none
  | _ => none

structure LoadedCheckpoint where
  completedQaKeys : List String
  samples : List GeneratedSample
  /-- An exception has left the loop. -/
  raised : Bool

def loadLines (py : KeyStdlib) (completedQaKeys : List String) (samples : List GeneratedSample) :
    List CheckpointLine → LoadedCheckpoint
  | [] => ⟨completedQaKeys, samples, false⟩
  | .blank :: lines => loadLines py completedQaKeys samples lines
  | .malformed :: lines => loadLines py completedQaKeys samples lines
  | .unreadable :: _ => ⟨completedQaKeys, samples, true⟩
  | .value obj :: lines =>
    match resumedSample py obj with
    | none => ⟨completedQaKeys, samples, true⟩
    | some (key, sample) =>
      loadLines py (completedQaKeys ++ [key]) (samples ++ [sample]) lines

/-! ## Generation -/

abbrev MakeChunks := QaRecord → Option (List String × List String)

def sampleOf (makeChunks : MakeChunks) (record : QaRecord) : Option GeneratedSample :=
  (makeChunks record).map fun chunks =>
    { query := .str record.query
      answer := .str record.answer
      positiveChunks := .arr (chunks.1.map .str)
      negativeChunks := .arr (chunks.2.map .str)
      sourceDocId := textOrNull record.chunkId }

/-- The samples that are returned, and the records for which samples were made. -/
structure PosNegResult where
  samples : List GeneratedSample
  generated : List QaRecord

def generatePosNegBatch (py : KeyStdlib) (makeChunks : MakeChunks) (filteredRecords : List QaRecord)
    (checkpoint : List CheckpointLine) (skipCheckpoint : Bool) : PosNegResult :=
  let loaded := if skipCheckpoint then ⟨[], [], false⟩ else loadLines py [] [] checkpoint
  -- the handler clears the keys and the samples
  let completedQaKeys := if loaded.raised then [] else loaded.completedQaKeys
  let resumedSamples := if loaded.raised then [] else loaded.samples
  let allSamples := if completedQaKeys = [] then [] else resumedSamples
  let records := leftOver (QaRecord.checkpointKey py) (completedQaKeys.map some) filteredRecords
  { samples := allSamples ++ records.filterMap (sampleOf makeChunks), generated := records }

def consumeBatches (py : KeyStdlib) (makeChunks : MakeChunks)
    (executeBatch : List QaRecord → Option (List QaRecord)) (completedQaKeys : List String) :
    PosNegResult → List (List QaRecord) → PosNegResult
  | result, [] => result
  | result, batch :: batches =>
    match executeBatch batch with
    -- the failure of a batch is recorded
    | none => consumeBatches py makeChunks executeBatch completedQaKeys result batches
    | some filtered =>
      let newRecords :=
        leftOver (QaRecord.checkpointKey py) (completedQaKeys.map some) filtered
      if newRecords = [] then
        consumeBatches py makeChunks executeBatch completedQaKeys result batches
      else
        let generated := generatePosNegBatch py makeChunks newRecords [] true
        consumeBatches py makeChunks executeBatch completedQaKeys
          { samples := result.samples ++ generated.samples
            generated := result.generated ++ generated.generated } batches

def filterAndPosNegConsumer (py : KeyStdlib) (makeChunks : MakeChunks)
    (executeBatch : List QaRecord → Option (List QaRecord)) (checkpoint : List CheckpointLine)
    (batches : List (List QaRecord)) : PosNegResult :=
  let loaded := loadLines py [] [] checkpoint
  -- the handler clears the keys only
  let completedQaKeys := if loaded.raised then [] else loaded.completedQaKeys
  consumeBatches py makeChunks executeBatch completedQaKeys
    { samples := loaded.samples, generated := [] } batches

end Generation

/-!
## Training value of a ranking

`_calculate_average_precision` and `_check_training_value` of `pipeline.py`, and the loop of
`generate_pos_neg` that classifies the contexts by the verdicts on them. Floats are rational numbers.
-/

namespace Generation

open Lib

/-! ## Average precision -/

/-- The locals of the loop of `_calculate_average_precision`. -/
structure PrecisionState where
  relevant : Nat
  sumPrec : Rat

/-- The body of the loop, for the label `y` at position `k`. -/
def PrecisionState.step (s : PrecisionState) (y k : Nat) : PrecisionState :=
  if y ≠ 0 then
    { relevant := s.relevant + 1, sumPrec := s.sumPrec + ((s.relevant + 1 : Nat) : Rat) / (k : Rat) }
  else s

def calculateAveragePrecision (binaryLabels : List Nat) : Rat :=
  if binaryLabels.isEmpty then 0
  else
    let s := (binaryLabels.zipIdx 1).foldl
      (fun (s : PrecisionState) label => s.step label.1 label.2) ⟨0, 0⟩
    if s.relevant = 0 then 0 else s.sumPrec / (s.relevant : Rat)

def trainingEpsilon : Rat := 1 / 1000000

def checkTrainingValue (ap : Rat) (skipPerfect skipZero : Bool) (epsilon : Rat) : Bool × String :=
  if skipPerfect ∧ 1 - epsilon ≤ ap then (false, "AP=1 (perfect ranking, no training value)")
  else if skipZero ∧ ap ≤ epsilon then (false, "AP=0 (no positives in candidates)")
  else (true, "")

/-! ## Classes of negatives -/

structure PosIdx where
  first : Int
  last : Int
deriving DecidableEq

/-- The body of the loop that finds them, for the verdict `v` at index `i`. -/
def PosIdx.step (s : PosIdx) (v i : Nat) : PosIdx :=
  if v = 1 then { first := if s.first = -1 then i else s.first, last := i } else s

/-- The first and the last position that the evaluator judged relevant. -/
def posIdx (chunkVerdicts : List Nat) : PosIdx :=
  chunkVerdicts.zipIdx.foldl (fun (s : PosIdx) verdict => s.step verdict.1 verdict.2) ⟨-1, -1⟩

inductive NegativeClass where
  /-- Before all positives. -/
  | veryHard
  /-- Between positives. -/
  | hard
  /-- Behind all positives. -/
  | medium
deriving DecidableEq

def PosIdx.classOf (s : PosIdx) (i : Nat) : NegativeClass :=
  if s.first = -1 then .veryHard
  else if (i : Int) < s.first then .veryHard
  else if s.last < (i : Int) then .medium
  else .hard

structure Negatives (α : Type) where
  veryHard : List α
  hard : List α
  medium : List α
deriving DecidableEq

def Negatives.add {α : Type} (negs : Negatives α) (x : α) : NegativeClass → Negatives α
  | .veryHard => { negs with veryHard := negs.veryHard ++ [x] }
  | .hard => { negs with hard := negs.hard ++ [x] }
  | .medium => { negs with medium := negs.medium ++ [x] }

def Negatives.of {α : Type} (negs : Negatives α) : NegativeClass → List α
  | .veryHard => negs.veryHard
  | .hard => negs.hard
  | .medium => negs.medium

/-! ## The classification loop -/

structure ClassifyFlags where
  /-- `neg_detection_mode == "statement"`. -/
  statementMode : Bool
  supplementPositives : Bool
  /-- `evidence_removal or evidence_pruning`. -/
  evidence : Bool

/-- The locals of the loop. -/
structure Classification where
  positives : List String
  seenContents : List String
  positiveChunksForExtraction : List String
  seenChunks : List String
  negs : Negatives String

/-- The context is collected for an extraction, unless its text has been. -/
def Classification.collect (s : Classification) (ctx : String) : Classification :=
  if strip ctx ∈ s.seenChunks then s
  else
    { s with
      seenChunks := strip ctx :: s.seenChunks
      positiveChunksForExtraction := s.positiveChunksForExtraction ++ [ctx] }

/-- The body of the loop, for the context at a position and the verdict on it. -/
def Classification.step (flags : ClassifyFlags) (idx : PosIdx) (s : Classification) (ctx : String)
    (v i : Nat) : Classification :=
  if strip ctx ∈ s.seenContents then s
  else if v = 1 then
    if flags.statementMode then s.collect ctx
    else if flags.supplementPositives then
      let s :=
        { s with seenContents := strip ctx :: s.seenContents, positives := s.positives ++ [ctx] }
      if flags.evidence then s.collect ctx else s
    else s
  else
    { s with
      seenContents := strip ctx :: s.seenContents
      negs := s.negs.add ctx (idx.classOf i) }

def classify (flags : ClassifyFlags) (contexts : List String) (chunkVerdicts : List Nat)
    (s : Classification) : Classification :=
  (contexts.zip chunkVerdicts).zipIdx.foldl
    (fun (s : Classification) entry => s.step flags (posIdx chunkVerdicts) entry.1.1 entry.1.2 entry.2) s

end Generation
