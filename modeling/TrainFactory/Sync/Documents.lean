import TrainFactory.Lib.CanonicalJson
import TrainFactory.Lib.Lines
import TrainFactory.Sync.BatchFiles

/-!
# The documents of a batch file

`_read_documents_from_batch` and `_iter_document_windows_from_batch` of `sync_worker.py`: a batch
file is read as the documents that are indexed. The first skips what is no document; the second
raises there, and yields the documents in windows of bounded size.
-/

namespace Sync

open Lib

/-- The standard library, with the functions that read a record. -/
structure JsonReader extends JsonStdlib where
  /-- `json.loads`; `none` where it raises. -/
  loads : String → Option Json

/-- The standard library, whose canonical text of a value is that of `Json.canonical`. -/
structure CanonicalReader extends JsonReader where
  dumpsCanonical_eq : ∀ v : Json, dumpsCanonical v = v.canonical fun q => repr (.float q)

/-- A `Document`. Nothing checks the type of its identifier. -/
structure Document where
  content : Json
  metadata : Json
  docId : Json

/-- What is wrong with a line. -/
inductive RecordFault where
  | undecodable
  | empty
  | invalid
  | notObject
  | emptyContent
  | invalidMetadata
deriving DecidableEq

def RecordFault.error (lineNum : Nat) : RecordFault → SyncError
  | .undecodable => .valueError "'utf-8' codec can't decode bytes"
  | .empty => .valueError s!"External sync JSONL record {lineNum} is empty"
  | .invalid => .valueError s!"External sync JSONL record {lineNum} is invalid"
  | .notObject => .valueError s!"External sync JSONL record {lineNum} must be an object"
  | .emptyContent => .valueError s!"External sync JSONL record {lineNum} has empty content"
  | .invalidMetadata => .valueError s!"External sync JSONL record {lineNum} has invalid metadata"

variable (py : JsonReader)

/-- `metadata.get(key)`, where it counts as true. -/
def truthyEntry (metadata : Json) (key : String) : Option Json :=
  (metadata.get? key).filter Json.truthy

/-- `raw_line.rstrip(b"\r\n")`, of the text of the line. -/
def withoutLineBreak (text : String) : String :=
  String.ofList (text.toList.rdropWhile fun c => c = '\r' || c = '\n')

/-- The `doc_id` of a record. -/
def documentId (metadata : Json) (text : String) : Json :=
  let stableChunkId := buildStableChunkId py.toStdlib metadata
  if stableChunkId ≠ "" then .str stableChunkId
  else
    match truthyEntry metadata "chunk_id" with
    | some chunkId => chunkId
    | none =>
      match truthyEntry metadata "source_doc_id" with
      | some sourceDocId => sourceDocId
      | none => .str ("v2:" ++ py.sha256 (withoutLineBreak text))

/-! ## All documents -/

def readDocument (rawLine : Bytes) : Except SyncError (Option Document) :=
  match decodeUtf8 rawLine with
  | none => .error (RecordFault.undecodable.error 0)
  | some text =>
    let line := strip text
    if line = "" then .ok none
    else
      match py.loads line with
      | none => .ok none
      | some (.obj kvs) =>
        let content := (Json.obj kvs).getD "content" (.str "")
        if !content.truthy then .ok none
        else
          let metadata := (Json.obj kvs).getD "metadata" (.obj [])
          if metadata.isObj then
            .ok (some { content := content, metadata := metadata
                        docId := documentId py metadata text })
          else .error (.runtimeError "object has no attribute 'get'")
      | some _ => .error (.runtimeError "object has no attribute 'get'")

/-- `_read_documents_from_batch` without limits, of the lines of a file. -/
def readDocuments : List Bytes → Except SyncError (List Document)
  | [] => .ok []
  | rawLine :: lines =>
    match readDocument py rawLine with
    | .error e => .error e
    | .ok document =>
      match readDocuments lines with
      | .error e => .error e
      | .ok documents => .ok (document.toList ++ documents)

/-! ## Windows -/

def windowRecord (rawLine : Bytes) : Except RecordFault Document :=
  match decodeUtf8 rawLine with
  | none => .error .undecodable
  | some text =>
    let line := strip text
    if line = "" then .error .empty
    else
      match py.loads line with
      | none => .error .invalid
      | some (.obj kvs) =>
        match (Json.obj kvs).getD "content" (.str "") with
        | .str content =>
          if strip content = "" then .error .emptyContent
          else
            let metadata := (Json.obj kvs).getD "metadata" (.obj [])
            if metadata.isObj then
              .ok { content := .str content, metadata := metadata
                    docId := documentId py metadata text }
            else .error .invalidMetadata
        | _ => .error .emptyContent
      | some _ => .error .notObject

variable (maxDocs maxBytes maxLineBytes : Nat)

/-- What the inner loop leaves: the documents of the window, the part of the file that is not read
yet, the number of lines read, and whether the end is reached. -/
structure Window where
  documents : List Document
  rest : Bytes
  lineNum : Nat
  reachedEof : Bool

/-- The inner loop of `_iter_document_windows_from_batch`, of the rest of the file. A line that does
not fit any more stays for the next window. -/
def fillWindow (documents : List Document) (windowBytes lineNum : Nat) (bytes : Bytes) :
    Except SyncError Window :=
  if documents.length < maxDocs ∧ windowBytes < maxBytes then
    let allowedBytes := min (maxBytes - windowBytes) maxLineBytes
    if (readLine (allowedBytes + 1) bytes).1 = [] then
      .ok { documents := documents, rest := bytes, lineNum := lineNum, reachedEof := true }
    else if allowedBytes < (readLine (allowedBytes + 1) bytes).1.length then
      if documents ≠ [] ∨ windowBytes ≠ 0 then
        .ok { documents := documents, rest := bytes, lineNum := lineNum, reachedEof := false }
      else .error recordTooLong
    else
      match windowRecord py (readLine (allowedBytes + 1) bytes).1 with
      | .error fault => .error (fault.error (lineNum + 1))
      | .ok document =>
        fillWindow (documents ++ [document])
          (windowBytes + (readLine (allowedBytes + 1) bytes).1.length) (lineNum + 1)
          (readLine (allowedBytes + 1) bytes).2
  else .ok { documents := documents, rest := bytes, lineNum := lineNum, reachedEof := false }
termination_by bytes.length
decreasing_by exact length_readLine_lt (by assumption)

structure Iteration where
  windows : List (List Document)
  raised : Option SyncError

/-- The outer loop, for at most `fuel` windows; `none` if it has not ended then. -/
def iterWindows : Nat → Nat → Bytes → Option Iteration
  | 0, _, _ => none
  | fuel + 1, lineNum, bytes =>
    match fillWindow py maxDocs maxBytes maxLineBytes [] 0 lineNum bytes with
    | .error e => some { windows := [], raised := some e }
    | .ok window =>
      let yielded := if window.documents = [] then [] else [window.documents]
      if window.reachedEof then some { windows := yielded, raised := none }
      else
        (iterWindows fuel window.lineNum window.rest).map fun more =>
          { more with windows := yielded ++ more.windows }

def iterDocumentWindows (settings : Settings) (fuel : Nat) (bytes : Bytes) : Option Iteration :=
  iterWindows py maxDocs maxBytes (min maxBytes settings.syncMaxRecordBytes) fuel 0 bytes

end Sync
