import TrainFactory.Generation.PosNeg

/-!
# Evaluation data

`_generate_eval_data_batch`: each QA record is looked up in the vector store, and what is found is
exported as an evaluation record. A resumed export keeps the records of the file of the task, and
passes over the QA records whose query and chunk id it finds there.
-/

namespace Generation

open Lib

/-! ## Retrieval -/

/-- The clients of the second phase, and the threshold of the rerank config. -/
structure RetrievalClients (Embedding : Type) where
  /-- `embedding_client.embed([query])`; `none` where it raises. -/
  embed : String → Option Embedding
  /-- The chunk contents of `milvus_client.search_similar(…, exclude_chunk_ids=[chunk_id])`; `none`
  where it raises. -/
  searchSimilar : Embedding → Option String → Option (List (List String))
  /-- `rerank_client.rerank(query, contexts)` if there is a client; `none` where it raises. -/
  rerank : Option (String → List String → Option (List (String × Rat)))
  rerankThreshold : Rat

variable {Embedding : Type}

/-- The contexts that `process_one` collects for a record; there are none where it fails. -/
def retrievalContext (clients : RetrievalClients Embedding) (record : QaRecord) : List String :=
  match clients.embed record.query with
  | none => []
  | some queryEmb =>
    match clients.searchSimilar queryEmb record.chunkId with
    | none => []
    | some searchResults =>
      let contexts := searchResults.head?.getD []
      if contexts = [] then []
      else
        match clients.rerank with
        | none => contexts
        | some rerank =>
          match rerank record.query contexts with
          -- a failed rerank leaves the order of the embedding
          | none => contexts
          | some rerankResults =>
            (rerankResults.filter fun r => r.2 ≤ clients.rerankThreshold).map Prod.fst

def evalRecord (clients : RetrievalClients Embedding) (record : QaRecord) : Option Json :=
  match retrievalContext clients record with
  | [] => none
  | contexts => some (.obj
      [("query", .str record.query), ("expected_output", .str record.answer),
        ("retrieval_context", .arr (contexts.map .str)),
        ("source_chunk_id", textOrNull record.chunkId),
        ("source_chunk_content", .str record.chunkContent)])

/-! ## The checkpoint -/

def evalKey (record : QaRecord) : String × Option String := (record.query, record.chunkId)

def candidateKeys (records : List QaRecord) : List (String × Option String) :=
  (records.filter fun r => r.query ≠ "").map evalKey

/-- The key of a line, if a record can have that key; `none` where it raises. -/
def exportedKey (obj : Json) : Option (Option (String × Option String)) :=
  if obj.isObj then
    let query := obj.getD "query" (.str "")
    let chunkId := obj.getD "source_chunk_id" (.str "")
    if query.truthy then
      if query.isHashable && chunkId.isHashable then
        match query, chunkId with
        | .str query, .str chunkId => some (some (query, some chunkId))
        | .str query, .null => some (some (query, none))
        | _, _ => some none
      else none
    else some none
  else none

structure LoadedExport where
  completedKeys : List (String × Option String)
  evalRecords : List Json
  /-- An exception has left the loop. -/
  raised : Bool

def loadExport (candidates completedKeys : List (String × Option String)) (evalRecords : List Json) :
    List CheckpointLine → LoadedExport
  | [] => ⟨completedKeys, evalRecords, false⟩
  | .blank :: lines => loadExport candidates completedKeys evalRecords lines
  | .malformed :: lines => loadExport candidates completedKeys evalRecords lines
  | .unreadable :: _ => ⟨completedKeys, evalRecords, true⟩
  | .value obj :: lines =>
    match exportedKey obj with
    | none => ⟨completedKeys, evalRecords, true⟩
    | some none => loadExport candidates completedKeys evalRecords lines
    | some (some key) =>
      if key ∈ candidates then
        loadExport candidates (completedKeys ++ [key]) (evalRecords ++ [obj]) lines
      else loadExport candidates completedKeys evalRecords lines

/-! ## The export -/

/-- The evaluation records that are returned, and the QA records that were passed over. -/
structure EvalDataResult where
  evalRecords : List Json
  skipped : List QaRecord

/-- `_generate_eval_data_batch` with the lines of the file. The tasks of the records end in the order
`finished`, and those of the records that `fails` tells fail. -/
def generateEvalDataBatch (clients : RetrievalClients Embedding) (fails : QaRecord → Bool)
    (records finished : List QaRecord) (checkpoint : List CheckpointLine) : EvalDataResult :=
  let loaded := loadExport (candidateKeys records) [] [] checkpoint
  -- the handler clears both
  let completedKeys := if loaded.raised then [] else loaded.completedKeys
  let evalRecords := if loaded.raised then [] else loaded.evalRecords
  { evalRecords := evalRecords ++ (leftOver evalKey completedKeys finished).filterMap fun record =>
      if fails record then none else evalRecord clients record
    skipped := finished.filter fun record => evalKey record ∈ completedKeys }

def saveDeepEvalData (checkpoint : List CheckpointLine) (records : List Json) :
    List CheckpointLine :=
  if records = [] then checkpoint else records.map .value

/-- The lines of the file after any number of earlier runs over the records, in each of which any
tasks may have failed. -/
inductive Exported (clients : RetrievalClients Embedding) (records : List QaRecord) :
    List CheckpointLine → Prop where
  | noFile : Exported clients records []
  | run {checkpoint : List CheckpointLine} (fails : QaRecord → Bool) {finished : List QaRecord}
      (h : Exported clients records checkpoint) (hfinished : finished.Perm records) :
      Exported clients records (saveDeepEvalData checkpoint
        (generateEvalDataBatch clients fails records finished checkpoint).evalRecords)

end Generation
