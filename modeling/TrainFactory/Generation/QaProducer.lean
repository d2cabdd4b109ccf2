import TrainFactory.Generation.PosNeg
import TrainFactory.Lib.Run
import TrainFactory.Lib.TaggedLog
import TrainFactory.Lib.Lines

/-!
# The QA producer

`_streaming_qa_producer`: documents are worked off concurrently, and the records of each are
appended to a file, from which the next attempt goes on. An attempt runs to its end or crashes; a
crash may cut what is being appended.
-/

namespace Generation

open Lib

/-- The functions of the standard library that the producer uses. -/
structure QaStdlib extends KeyStdlib where
  /-- `json.loads`; `none` where it raises `JSONDecodeError`. -/
  loads : String → Option Json
  /-- `float.__repr__`. -/
  floatRepr : Rat → String
  floatRepr_visible : ∀ c : Char, c.toNat < 0x20 → ∀ q, c ∉ (floatRepr q).toList

/-! ## Records -/

/-- A `GeneratedSample` of a document. -/
structure ExtractedSample where
  query : String
  answer : Option String
  sourceDocId : Option String
  /-- The `chunk_content` of the metadata, if the sample has metadata with one. -/
  chunkContent : Option String

/-- A record of a document. -/
structure ExtractedQa where
  query : String
  answer : String
  chunkId : String
  chunkContent : String
  query_ne : query ≠ ""

def sampleToQaRecord (sample : ExtractedSample) : Option ExtractedQa :=
  if h : sample.query = "" then none
  else some
    { query := sample.query
      answer := sample.answer.getD ""
      chunkId := sample.sourceDocId.getD ""
      chunkContent := sample.chunkContent.getD ""
      query_ne := h }

/-- The record as a dictionary. -/
def ExtractedQa.toJson (r : ExtractedQa) : Json :=
  .obj [("query", .str r.query), ("answer", .str r.answer), ("chunk_id", .str r.chunkId),
    ("chunk_content", .str r.chunkContent)]

/-- The record with the index of its document. -/
def ExtractedQa.withDocIdx (r : ExtractedQa) (docIdx : Nat) : Json :=
  .obj [("query", .str r.query), ("answer", .str r.answer), ("chunk_id", .str r.chunkId),
    ("chunk_content", .str r.chunkContent), ("_doc_idx", .int docIdx)]

def ExtractedQa.hash (py : KeyStdlib) (r : ExtractedQa) : String :=
  py.md5 (join "\x1f" [strip (py.lower r.query), strip (py.lower r.answer), r.chunkId])

/-- `{k: v for k, v in record.items() if k != "_doc_idx"}`. -/
def withoutDocIdx (record : Json) : Json := .obj (Json.popEntry record.entries "_doc_idx")

/-! ## Resuming -/

/-- What `_load_resume_state` returns, other than the number of records. -/
structure ResumeState where
  seenHashes : List String
  records : List Json

/-- The hash of a loaded record, if it has a query; `none` where it raises. -/
def loadedHash (py : KeyStdlib) (record : Json) : Option (List String) :=
  if record.isObj then
    if (record.getD "query" .null).truthy then
      (qaDedupHash py (record.getD "query" .null) (record.getD "answer" .null)
        (record.getD "chunk_id" .null)).map fun hash => [hash]
    else some []
  else none

/-- The loop of `_load_resume_state`; `none` where it raises. -/
def loadRecords (py : QaStdlib) : List String → Option ResumeState
  | [] => some ⟨[], []⟩
  | line :: lines =>
    match py.loads line with
    -- a line that is not complete is passed over
    | none => loadRecords py lines
    | some record =>
      match loadedHash py.toKeyStdlib record, loadRecords py lines with
      | some hashes, some rest => some ⟨hashes ++ rest.seenHashes, record :: rest.records⟩
      | _, _ => none

/-- `_load_resume_state`; `none` where it raises. -/
def loadResumeState (py : QaStdlib) (file : Bytes) : Option ResumeState :=
  (strippedLines file).bind (loadRecords py)

/-- The index that `r.get("_doc_idx", -1)` tells, unless it is negative or equal to no index; `none`
where comparing it with a number raises. -/
def loadedDocIdx (record : Json) : Option (List Int) :=
  match record.getD "_doc_idx" (.int (-1)) with
  | .int n => some (if 0 ≤ n then [n] else [])
  | .bool b => some [if b then 1 else 0]
  | .float q => some (if 0 ≤ q.num ∧ q.den = 1 then [q.num] else [])
  | _ => none

/-- `completed_doc_idxs`; `none` where it raises. -/
def completedDocIdxs (records : List Json) : Option (List Int) :=
  (records.mapM loadedDocIdx).map List.flatten

/-! ## Batches -/

def cutBatches (batch : List Json) : List (List Json) × List Json :=
  if _h : 50 ≤ batch.length then
    let (batches, rest) := cutBatches (batch.drop 50)
    (batch.take 50 :: batches, rest)
  else ([], batch)
termination_by batch.length
decreasing_by rw [List.length_drop]; omega

def replayBatches (records : List Json) : List (List Json) :=
  let (batches, rest) := cutBatches records
  if rest.isEmpty then batches else batches ++ [rest]

/-! ## Attempts -/

/-- The memory of an attempt, and the queue. -/
structure Producer where
  allQa : List Json
  seenHashes : List String
  completedDocIdxs : List Int
  batch : List Json
  /-- The documents whose `process_one` has not got the lock. -/
  waiting : List Nat
  /-- `batches_to_send` of the documents that have released the lock. -/
  batchesToSend : List (List (List Json))
  queue : List (List Json)
  /-- The sentinel has been placed. -/
  ended : Bool

/-- The QA file, and the attempt that runs. A file that does not exist is like an empty one. -/
structure QaState where
  file : Bytes
  producer : Option Producer

/-- What is extracted, and `_is_dedup_enabled`. -/
structure QaTask where
  /-- The samples of the documents. -/
  documents : List (List ExtractedSample)
  dedupEnabled : Bool

namespace QaTask

variable (py : QaStdlib) (task : QaTask)

def records (docIdx : Nat) : List ExtractedQa :=
  (task.documents.getD docIdx []).filterMap sampleToQaRecord

/-- The producer up to its tasks; `none` where it raises. -/
def resume (file : Bytes) : Option Producer :=
  if file = [] then
    some
      { allQa := [], seenHashes := [], completedDocIdxs := [], batch := []
        waiting := List.range task.documents.length, batchesToSend := [], queue := []
        ended := false }
  else
    (loadResumeState py file).bind fun state =>
      (completedDocIdxs state.records).map fun completed =>
        { allQa := state.records, seenHashes := state.seenHashes, completedDocIdxs := completed
          batch := [], waiting := List.range task.documents.length, batchesToSend := []
          queue := replayBatches (state.records.map withoutDocIdx), ended := false }

/-- The records that `process_one` of a document adds, if it is not completed. -/
def added (p : Producer) (docIdx : Nat) : List ExtractedQa :=
  if (docIdx : Int) ∈ p.completedDocIdxs then []
  else logged (ExtractedQa.hash py.toKeyStdlib) task.dedupEnabled p.seenHashes (task.records docIdx)

def appended (p : Producer) (docIdx : Nat) : Bytes :=
  utf8 (linesText ((task.added py p docIdx).map fun r => (r.withDocIdx docIdx).dumps py.floatRepr))

/-- `process_one` of a document, while it has the lock. -/
def processOne (p : Producer) (docIdx : Nat) : Producer :=
  let records := task.added py p docIdx
  let stored := records.map fun r => r.withDocIdx docIdx
  let (batches, batch) := cutBatches (p.batch ++ stored.map withoutDocIdx)
  { p with
    allQa := p.allQa ++ stored
    seenHashes :=
      if task.dedupEnabled then p.seenHashes ++ records.map (ExtractedQa.hash py.toKeyStdlib)
      else p.seenHashes
    batch := batch
    waiting := p.waiting.erase docIdx
    batchesToSend := p.batchesToSend ++ [batches] }

end QaTask

/-- The next batch of a document is placed. -/
def Producer.put (p : Producer) (k : Nat) : Producer :=
  match p.batchesToSend[k]? with
  | some (batch :: batches) =>
    { p with batchesToSend := p.batchesToSend.set k batches, queue := p.queue ++ [batch] }
  | _ => p

/-- What follows `gather`. -/
def Producer.finish (p : Producer) : Producer :=
  { p with
    queue := if p.batch.isEmpty then p.queue else p.queue ++ [p.batch]
    batch := []
    ended := true }

/-- The steps of the attempts. -/
inductive QaAction where
  /-- An attempt starts. -/
  | start
  | processOne (docIdx : Nat)
  | put (k : Nat)
  | finish
  | crash
  /-- A crash while the records of a document are appended, of which some bytes are left. -/
  | crashAppending (docIdx left : Nat)

namespace QaTask

variable (py : QaStdlib) (task : QaTask)

def step (s : QaState) : QaAction → QaState
  | .start =>
    match s.producer with
    | none => { s with producer := task.resume py s.file }
    | some _ => s
  | .processOne docIdx =>
    match s.producer with
    | some p =>
      if docIdx ∈ p.waiting then
        ⟨s.file ++ task.appended py p docIdx, some (task.processOne py p docIdx)⟩
      else s
    | none => s
  | .put k => { s with producer := s.producer.map fun p => p.put k }
  | .finish =>
    match s.producer with
    | some p =>
      -- `gather` has returned
      if p.waiting = [] ∧ p.batchesToSend.flatten = [] then { s with producer := some p.finish }
      else s
    | none => s
  | .crash => { s with producer := none }
  | .crashAppending docIdx left =>
    match s.producer with
    | some p =>
      if docIdx ∈ p.waiting then
        ⟨s.file ++ (task.appended py p docIdx).take left, none⟩
      else s
    | none => s

/-- Before the first attempt. -/
def initial : QaState := ⟨[], none⟩

end QaTask

end Generation
