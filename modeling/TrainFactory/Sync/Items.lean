import TrainFactory.Lib.Text
import TrainFactory.Sync.Entities

/-!
# Records of the external API

What `sync_worker.py` computes from the records that a source returns: their identity, their
validation, the line they become in a batch file, and the boundary that recognizes them when the
next query returns them again.
-/

namespace Sync

open Lib

/-- A key as `hexdigest` prints it: the form in which `_merge_boundary_ids` keeps a previous key. -/
def isHashedKey (key : String) : Bool :=
  key.toList.length = 64 && key.toList.all (· ∈ "0123456789abcdefABCDEF".toList)

/-- The functions of the Python standard library that identify and serialize a record. -/
structure Stdlib where
  /-- `str(value)`, of a value that is not a string. -/
  repr : Json → String
  /-- `json.dumps(value, ensure_ascii=False)`. -/
  dumps : Json → String
  /-- `json.dumps(value)`. -/
  dumpsAscii : Json → String
  /-- `json.dumps(value, ensure_ascii=False, sort_keys=True, separators=(",", ":"))`. -/
  dumpsCanonical : Json → String
  /-- `hashlib.sha256(text.encode("utf-8")).hexdigest()`. -/
  sha256 : String → String
  /-- A digest has 64 hexadecimal digits. -/
  sha256_isHashedKey : ∀ text, isHashedKey (sha256 text) = true
  /-- `datetime.fromisoformat`, as a naive date of the application's time zone; `none` if it
  raises. -/
  fromIsoFormat : String → Option DateTime

variable (py : Stdlib)

/-- `str(value)`. -/
def Stdlib.str : Json → String
  | .str s => s
  | v => py.repr v

/-- `str(value or "")`, of an entry that may be missing. -/
def Stdlib.strOr (value : Option Json) : String :=
  match value with
  | some v => if v.truthy then py.str v else ""
  | none => ""

/-- `timedelta(seconds=n)`. -/
def seconds (n : Nat) : Nat := 1000000 * n

/-- `cursor - timedelta(seconds=rollback_seconds)`. -/
def rollBack (cursor : DateTime) (rollbackSeconds : Nat) : Except SyncError DateTime :=
  if seconds rollbackSeconds ≤ cursor then .ok (cursor - seconds rollbackSeconds)
  else .error .overflowError

/-! ## Identity -/

def itemDedupKey (item : Json) : String :=
  let id := py.strOr (item.get? "id")
  let sessionId := py.strOr (item.get? "session_id")
  let docId := py.strOr (item.get? "doc_id")
  let identity : Json :=
    if id = "" ∧ docId = "" then .obj [("record", item)]
    else .obj [("business_keys", .arr [.str id, .str sessionId, .str docId])]
  py.sha256 (py.dumpsCanonical identity)

def legacyItemDedupKey (item : Json) : String :=
  py.str (item.getD "id" (.str "")) ++ ":" ++ py.str (item.getD "session_id" (.str "")) ++ ":" ++
    py.str (item.getD "doc_id" (.str ""))

def itemMatchesBoundary (item : Json) (boundaryKeys : List String) : Bool :=
  itemDedupKey py item ∈ boundaryKeys || legacyItemDedupKey py item ∈ boundaryKeys

def parseCreatedAt (value : Option Json) : Option DateTime :=
  match value with
  | some (.str s) => if s = "" then none else py.fromIsoFormat (replaceChar s 'Z' "+00:00")
  | _ => none

def createdAt (item : Json) : Option DateTime := parseCreatedAt py (item.get? "created_at")

def itemIsAfter (item : Json) (threshold : DateTime) : Bool :=
  (createdAt py item).any fun t => threshold ≤ t

def getMaxTime : List Json → Option DateTime → Option DateTime
  | [], maxTime => maxTime
  | item :: items, maxTime =>
    match createdAt py item with
    | none => getMaxTime items maxTime
    | some t => getMaxTime items (if maxTime.all fun m => m < t then some t else maxTime)

/-! ## The line of a record -/

def buildStableChunkId (metadata : Json) : String :=
  let externalId := strip (py.strOr (metadata.get? "external_id"))
  let sessionId := strip (py.strOr (metadata.get? "session_id"))
  let docId := strip (py.strOr (metadata.get? "doc_id"))
  if externalId = "" ∧ docId = "" then ""
  else
    "v2:" ++ py.sha256 (py.dumpsCanonical (.obj
      [("external_id", .str externalId), ("session_id", .str sessionId), ("doc_id", .str docId)]))

/-- The entries of the metadata of a record that come from the record. -/
def itemMetadata (item : Json) : List (String × Json) :=
  [("external_id", item.getD "id" (.str "")), ("source", item.getD "source" (.str "")),
    ("doc_id", item.getD "doc_id" (.str "")), ("session_id", item.getD "session_id" (.str "")),
    ("created_at", item.getD "created_at" (.str ""))]

def itemChunkId (item : Json) : String :=
  let stableChunkId := buildStableChunkId py (.obj (itemMetadata item))
  if stableChunkId = "" then "v2:" ++ itemDedupKey py item else stableChunkId

def batchDocument (item : Json) : Json :=
  .obj [("content", item.getD "text" (.str "")),
    ("metadata", .obj (itemMetadata item ++ [("chunk_id", .str (itemChunkId py item))]))]

def Stdlib.line (document : Json) : String := py.dumps document ++ "\n"

def serializeBatchItem (item : Json) : String := py.line (batchDocument py item)

/-- `_file_sha256` of a batch file with these documents. -/
def documentsSha256 (documents : List Json) : String :=
  py.sha256 (String.join (documents.map py.line))

/-! ## Validation -/

def recordTooLong : SyncError :=
  .resourceLimit "External sync JSONL record byte limit exceeded"

/-- The checks of one record: its bytes as a line. -/
def validateItem (settings : Settings) (maxFuture : DateTime) (item : Json) :
    Except SyncError Nat :=
  if ¬ item.isObj then .error (.valueError "External sync records must be objects")
  else
    match item.get? "text" with
    | some (.str text) =>
      if strip text = "" then
        .error (.valueError "External sync record text must be a non-empty string")
      else
        match createdAt py item with
        | none => .error (.valueError "External sync record created_at is invalid")
        | some t =>
          if maxFuture < t then
            .error (.valueError "External sync record created_at exceeds future skew limit")
          else
            let encodedBytes := (serializeBatchItem py item).utf8ByteSize
            if settings.syncMaxRecordBytes < encodedBytes then .error recordTooLong
            else .ok encodedBytes
    | _ => .error (.valueError "External sync record text must be a non-empty string")

def validateItems (settings : Settings) (maxFuture : DateTime) :
    List Json → List Json → List String → Nat → Except SyncError (List Json)
  | [], uniqueItems, _, _ => .ok uniqueItems
  | item :: items, uniqueItems, seenKeys, totalBytes =>
    match validateItem py settings maxFuture item with
    | .error e => .error e
    | .ok encodedBytes =>
      let key := itemDedupKey py item
      if key ∈ seenKeys then validateItems settings maxFuture items uniqueItems seenKeys totalBytes
      else if settings.syncPendingMaxRecordsPerTask < uniqueItems.length + 1 then
        .error (.resourceLimit "External sync cycle record limit exceeded")
      else if settings.syncGenerationMaxInputBytes < totalBytes + encodedBytes then
        .error (.resourceLimit "External sync cycle byte limit exceeded")
      else
        validateItems settings maxFuture items (uniqueItems ++ [item]) (seenKeys ++ [key])
          (totalBytes + encodedBytes)

def validateAndDeduplicateItems (settings : Settings) (now : DateTime) (items : Json) :
    Except SyncError (List Json) :=
  match items with
  | .arr items =>
    validateItems py settings (now + seconds settings.syncMaxFutureSkewSeconds) items [] [] 0
  | _ => .error (.valueError "External sync response items must be a list")

/-! ## The boundary -/

def pushBoundaryKey (settings : Settings) (key : String) (keys : List String)
    (encodedBytes : Nat) : Except SyncError (List String × Nat) :=
  let projectedBytes :=
    encodedBytes + (py.dumpsAscii (.str key)).utf8ByteSize + if keys = [] then 0 else 2
  if settings.syncBoundaryMaxIds ≤ keys.length ∨ settings.syncBoundaryMaxBytes < projectedBytes then
    .error (.resourceLimit "External sync boundary deduplication limit exceeded")
  else .ok (keys ++ [key], projectedBytes)

/-- The loop of `_get_boundary_ids`. -/
def collectBoundaryKeys (settings : Settings) (cutoff : DateTime) :
    List Json → List String → Nat → Except SyncError (List String)
  | [], boundaryKeys, _ => .ok boundaryKeys
  | item :: items, boundaryKeys, encodedBytes =>
    if (createdAt py item).any fun t => cutoff ≤ t then
      match pushBoundaryKey py settings (itemDedupKey py item) boundaryKeys encodedBytes with
      | .error e => .error e
      | .ok (keys, bytes) => collectBoundaryKeys settings cutoff items keys bytes
    else collectBoundaryKeys settings cutoff items boundaryKeys encodedBytes

def getBoundaryIds (settings : Settings) (items : List Json) (maxTime : Option DateTime)
    (rollbackSeconds : Nat) : Except SyncError (List String) :=
  match maxTime with
  | none => .ok []
  | some maxTime =>
    match rollBack maxTime rollbackSeconds with
    | .error e => .error e
    | .ok cutoff => collectBoundaryKeys py settings cutoff items [] 2

def mergeBoundaryKeys (settings : Settings) :
    List String → List String → Nat → Except SyncError (List String)
  | [], result, _ => .ok result
  | key :: candidates, result, encodedBytes =>
    if key ∈ result then mergeBoundaryKeys settings candidates result encodedBytes
    else
      match pushBoundaryKey py settings key result encodedBytes with
      | .error e => .error e
      | .ok (result, bytes) => mergeBoundaryKeys settings candidates result bytes

def mergeBoundaryIds (settings : Settings) (previousKeys : List String) (fetchedItems : List Json)
    (previousCursor nextCursor : Option DateTime) (rollbackSeconds : Nat) :
    Except SyncError (List String) :=
  match nextCursor with
  | none => .ok []
  | some next =>
    match getBoundaryIds py settings fetchedItems (some next) rollbackSeconds with
    | .error e => .error e
    | .ok freshKeys =>
      match rollBack next rollbackSeconds with
      | .error e => .error e
      | .ok cutoff =>
        let retained :=
          if previousCursor.any fun c => cutoff ≤ c then previousKeys.filter isHashedKey else []
        mergeBoundaryKeys py settings (retained ++ freshKeys) [] 2

end Sync
