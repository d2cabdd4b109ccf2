import TrainFactory.Lib.Json
import TrainFactory.Lib.Text
import Mathlib.Algebra.Order.Ring.Rat

/-!
# Reranking

`RerankClient` of `rerank_client.py`: the requests for the batches of a list of documents, the
reading of their answers, and the merge of the batches.
-/

namespace Generation.Reranking

open Lib

structure RerankResult where
  index : Json
  score : Json
  text : Json

/-- The fields of `RerankConfig` that are read. -/
structure RerankConfig where
  endpoint : String
  topK : Nat
  batchSize : Nat
  maxRetries : Nat

/-- What becomes of one request over HTTP. -/
inductive Response where
  /-- No error, with what `response.json()` makes of it; `none` where it raises. -/
  | answer (data : Option Json)
  /-- `HTTPStatusError`. -/
  | status (code : Nat)
  /-- `TransportError`. -/
  | transport

/-- The documents of a request, and `top_n`. -/
structure Payload where
  query : String
  documents : List String
  topN : Nat

def number : Json → Option Rat
  | .bool b => some (if b then 1 else 0)
  | .int n => some n
  | .float q => some q
  | _ => none

/-- What is outside of the client: the authorization, the server, and `results.sort` by descending
scores. The server gets the position of the batch, the number of the attempt and the URL. -/
structure Host where
  authorized : Bool
  post : Nat → Payload → Nat → String → Response
  /-- `none` where a comparison of scores raises. -/
  sortByScore : List RerankResult → Option (List RerankResult)
  perm_sort : ∀ results sorted, sortByScore results = some sorted → sorted.Perm results
  /-- Numbers are sorted. -/
  sort_numbers : ∀ results, (∀ r ∈ results, (number r.score).isSome) →
    ∃ sorted, sortByScore results = some sorted ∧
      sorted.Pairwise fun a b => (number b.score).getD 0 ≤ (number a.score).getD 0

/-! ## Reading an answer -/

/-- `isinstance(value, int)`: the number. -/
def asInt : Option Json → Option Int
  | some (.int n) => some n
  | some (.bool b) => some (if b then 1 else 0)
  | _ => none

def resolveRerankText (item : Json) (documents : List String) : Json :=
  let fromDocument : Json :=
    match item.get? "document" with
    | some (.str doc) => .str doc
    | some (.obj doc) =>
      let text := Json.getD (.obj doc) "text" (.str "")
      if text.truthy then text else .str ""
    | _ => .str ""
  match asInt (item.get? "index") with
  | some idx =>
    if 0 ≤ idx ∧ idx < documents.length then .str (documents.getD idx.toNat "") else fromDocument
  | none => fromDocument

/-- `key in data`; `none` where it raises. -/
def contains (data : Json) (key : String) : Option Bool :=
  match data with
  | .obj kvs => some (kvs.lookup key).isSome
  | .arr xs => some (xs.any fun x => match x with
      | .str s => s = key
      | _ => false)
  | .str s => some (containsText key s)
  | _ => none

/-- The elements of a `for` loop over a value; `none` where it raises. -/
def iterate : Json → Option (List Json)
  | .arr xs => some xs
  | .obj kvs => some (kvs.map fun kv => .str kv.1)
  | .str s => some (s.toList.map fun c => .str (String.ofList [c]))
  | _ => none

/-- `data[key]`, and the elements of a `for` loop over it. -/
def entriesOf (data : Json) (key : String) : Option (List Json) := (data.get? key).bind iterate

def scoreOf (cohere : Bool) (item : Json) : Json :=
  if cohere then item.getD "relevance_score" (item.getD "score" (.float 0))
  else item.getD "score" (.float 0)

/-- The result that an item stands for; `none` where it is no object. -/
def readItem (documents : List String) (cohere : Bool) (item : Json) : Option RerankResult :=
  if item.isObj then
    some ⟨item.getD "index" (.int 0), scoreOf cohere item, resolveRerankText item documents⟩
  else none

/-- The items of an answer, and their style; `none` where the answer is not read. -/
def itemsOf (data : Json) : Option (Bool × List Json) :=
  (contains data "results").bind fun hasResults =>
    if hasResults then (entriesOf data "results").map fun items => (true, items)
    else
      (contains data "data").bind fun hasData =>
        if hasData then (entriesOf data "data").map fun items => (false, items)
        else some (false, [])

def readAnswer (documents : List String) (data : Json) : Option (List RerankResult) := do
  let items ← itemsOf data
  items.2.mapM (readItem documents items.1)

/-! ## Requests -/

def RerankConfig.urls (config : RerankConfig) : List String :=
  let endpoint := rstripChar config.endpoint '/'
  if endsWith endpoint "/v1/rerank" || endsWith endpoint "/rerank" then [endpoint]
  else if endsWith endpoint "/v1" then [endpoint ++ "/rerank"]
  else [endpoint ++ "/rerank", endpoint ++ "/v1/rerank"]

inductive Attempt where
  | answered (data : Option Json)
  | raised
  | again

def attemptUrls (post : String → Response) : List String → Attempt
  | [] => .again
  | url :: urls =>
    match post url with
    | .answer data => .answered data
    | .status code => if code = 404 ∨ 500 ≤ code then attemptUrls post urls else .raised
    | .transport => .again

/-- The attempts that are left, from a number on: the first answer, or `none` where the client
raises. -/
def attempts (post : Nat → String → Response) (urls : List String) : Nat → Nat → Option Json
  | 0, _ => none
  | left + 1, attempt =>
    match attemptUrls (post attempt) urls with
    | .answered data => data
    | .raised => none
    | .again => attempts post urls left (attempt + 1)

section Client

variable (host : Host) (config : RerankConfig)

def answerOf (offset : Nat) (query : String) (documents : List String) (topK : Nat) :
    Option Json :=
  if host.authorized then
    attempts (host.post offset ⟨query, documents, min topK documents.length⟩) config.urls
      config.maxRetries 0
  else none

/-- `_rerank_single`; `none` where it raises. -/
def rerankSingle (offset : Nat) (query : String) (documents : List String) (topK : Nat) :
    Option (List RerankResult) := do
  let data ← answerOf host config offset query documents topK
  let results ← readAnswer documents data
  let sorted ← host.sortByScore results
  pure (sorted.take topK)

/-- `index + i`; `none` where it raises. -/
def addIndex (index : Json) (offset : Nat) : Option Json :=
  match index with
  | .int n => some (.int (n + offset))
  | .bool b => some (.int ((if b then 1 else 0) + offset))
  | .float q => some (.float (q + offset))
  | _ => none

def shift (offset : Nat) (r : RerankResult) : Option RerankResult :=
  (addIndex r.index offset).map fun index => { r with index := index }

/-- `range(0, n, batch_size)` with the documents of each batch, from an offset on. The fuel is the
number of documents, of which each batch takes one at least. -/
def batchesFrom (batchSize : Nat) : Nat → Nat → List String → List (Nat × List String)
  | 0, _, _ => []
  | _, _, [] => []
  | fuel + 1, offset, d :: ds =>
    (offset, (d :: ds).take batchSize) ::
      batchesFrom batchSize fuel (offset + batchSize) ((d :: ds).drop batchSize)

def batches (batchSize : Nat) (documents : List String) : List (Nat × List String) :=
  batchesFrom batchSize documents.length 0 documents

def rerankBatch (query : String) (topK : Nat) (batch : Nat × List String) :
    Option (List RerankResult) := do
  let results ← rerankSingle host config batch.1 query batch.2 (min topK batch.2.length)
  results.mapM (shift batch.1)

def rerank (query : String) (documents : List String) (topK : Nat) : Option (List RerankResult) :=
  let topK := if topK = 0 then config.topK else topK
  if documents.length ≤ config.batchSize then rerankSingle host config 0 query documents topK
  else do
    let results ← (batches config.batchSize documents).mapM (rerankBatch host config query topK)
    let sorted ← host.sortByScore results.flatten
    pure (sorted.take topK)

/-- `scores[index] = score`; `none` where it raises. -/
def setScore (scores : List Json) (r : RerankResult) : Option (List Json) :=
  match asInt (some r.index) with
  | some idx =>
    if 0 ≤ idx ∧ idx < scores.length then some (scores.set idx.toNat r.score)
    else if -scores.length ≤ idx ∧ idx < 0 then
      some (scores.set (idx + scores.length).toNat r.score)
    else none
  | none => none

def score (query : String) (documents : List String) : Option (List Json) := do
  let results ← rerank host config query documents documents.length
  results.foldlM setScore (List.replicate documents.length (.float 0))

end Client

end Generation.Reranking
