import TrainFactory.Lib.Text
import TrainFactory.Lib.Json
import TrainFactory.Lib.JsonText

/-!
# The external API client

`fetch_all_since` of `external_client.py`: the records of a source are fetched page by page, within
four budgets. A page is what `fetch_incremental` makes of a reply of the server.
-/

namespace Sync

open Lib

inductive FetchError where
  /-- `ExternalApiResponseError`. -/
  | response (message : String)
  /-- `ExternalApiAuthenticationError`. -/
  | authentication
  | runtimeError (message : String)
  | valueError (message : String)
  /-- `OutboundResponseTooLargeError`. -/
  | tooLarge (maxBytes : Nat)
  /-- Any other error of the transport. -/
  | transport (message : String)
deriving DecidableEq

def schemaInvalid (what : String) : FetchError :=
  .response ("External API response schema is invalid: " ++ what)

/-! ## Pages -/

def allObjects (items : List Json) : Bool := items.all Json.isObj

def validatePagePayload (data : Json) : Except FetchError (Nat × List Json) :=
  match data with
  | .obj kvs =>
    match kvs.lookup "total" with
    | none => .error (schemaInvalid "total is required")
    | some (.int (.ofNat total)) =>
      match kvs.lookup "items" with
      | none => .error (schemaInvalid "items is required")
      | some (.arr items) =>
        if allObjects items then .ok (total, items)
        else .error (schemaInvalid "items must be a list of objects")
      | some _ => .error (schemaInvalid "items must be a list of objects")
    | some _ => .error (schemaInvalid "total must be a non-negative integer")
  | _ => .error (schemaInvalid "root must be an object")

def expectedHasMore (total : Nat) (items : List Json) (offset : Nat) : Except FetchError Bool :=
  if total < offset + items.length then
    .error (.response
      "External API pagination is inconsistent: page items extend beyond the reported total")
  else .ok (offset + items.length < total)

/-! ## The size of a page -/

/-- Why a value has no size: it exceeds the budget, or it is no JSON value. -/
inductive SizeFault where
  | exceeded
  | invalid (e : FetchError)
deriving DecidableEq

def consume (byteCount : Nat) (remaining : Int) : Except SizeFault Int :=
  if remaining < byteCount then .error .exceeded else .ok (remaining - byteCount)

def characterBytes (c : Char) : Nat :=
  if c = '"' ∨ c = '\\' ∨ c.toNat ∈ [8, 9, 10, 12, 13] then 2
  else if c.toNat < 0x20 then 6
  else if c.toNat ≤ 0x7F then 1
  else if c.toNat ≤ 0x7FF then 2
  else if c.toNat ≤ 0xFFFF then 3
  else 4

def consumeCharacters : List Char → Int → Except SizeFault Int
  | [], remaining => .ok remaining
  | c :: cs, remaining =>
    match consume (characterBytes c) remaining with
    | .error e => .error e
    | .ok remaining => consumeCharacters cs remaining

def consumeString (text : String) (remaining : Int) : Except SizeFault Int := do
  let remaining ← consume 1 remaining
  let remaining ← consumeCharacters text.toList remaining
  consume 1 remaining

def maxExternalSyncJsonDepth : Nat := 64

/-- An integer: `str` raises for one with too many digits. -/
def consumeInt (n remaining : Int) : Except SizeFault Int :=
  if maxStrDigits < (Nat.toDigits 10 n.natAbs).length then
    .error (.invalid (schemaInvalid "integer is too large"))
  else consume (Json.intChars n).length remaining

variable (floatRepr : Rat → String)

mutual

def consumeValue (depth : Nat) (value : Json) (remaining : Int) : Except SizeFault Int :=
  if maxExternalSyncJsonDepth < depth then
    .error (.invalid (schemaInvalid "maximum nesting depth is 64"))
  else
    match value with
    | .null => consume 4 remaining
    | .bool true => consume 4 remaining
    | .bool false => consume 5 remaining
    | .int n => consumeInt n remaining
    | .float q => consume (floatRepr q).length remaining
    | .str text => consumeString text remaining
    | .arr items => do
      let remaining ← consume 1 remaining
      let remaining ← consumeElements depth true items remaining
      consume 1 remaining
    | .obj entries => do
      let remaining ← consume 1 remaining
      let remaining ← consumeEntries depth true entries remaining
      consume 1 remaining

/-- The elements of a list; `first` tells that no comma stands before them. -/
def consumeElements (depth : Nat) (first : Bool) :
    List Json → Int → Except SizeFault Int
  | [], remaining => .ok remaining
  | item :: items, remaining => do
    let remaining ← if first then .ok remaining else consume 1 remaining
    let remaining ← consumeValue (depth + 1) item remaining
    consumeElements depth false items remaining

def consumeEntries (depth : Nat) (first : Bool) :
    List (String × Json) → Int → Except SizeFault Int
  | [], remaining => .ok remaining
  | (key, child) :: entries, remaining => do
    let remaining ← if first then .ok remaining else consume 1 remaining
    let remaining ← consumeString key remaining
    let remaining ← consume 1 remaining
    let remaining ← consumeValue (depth + 1) child remaining
    consumeEntries depth false entries remaining

end

/-- `_bounded_json_size`: the size, or `none` where it exceeds the budget. -/
def boundedJsonSize (value : Json) (maxBytes : Int) : Except FetchError (Option Nat) :=
  match consumeValue floatRepr 0 value maxBytes with
  | .ok remaining => .ok (some (maxBytes - remaining).toNat)
  | .error .exceeded => .ok none
  | .error (.invalid e) => .error e

def defaultMaxOutboundResponseBytes : Nat := 10 * 1024 * 1024

structure PageRequest where
  offset : Nat
  limit : Int
  responseLimit : Nat

/-! ## All pages -/

structure ClientLimits where
  maxPages : Nat := 1000
  maxRecords : Nat := 1000000
  maxAggregateResponseBytes : Nat := 100 * 1024 * 1024

/-- A page that was accepted, and the bytes it is accounted with. -/
structure FetchedPage where
  offset : Nat
  total : Nat
  items : List Json
  responseBytes : Nat

/-- The local variables of the loop. -/
structure FetchState where
  allItems : List Json := []
  offset : Nat := 0
  pages : Nat := 0
  aggregateResponseBytes : Nat := 0

/-- A run of the loop: its requests, the pages it accepted, and what it returns or raises. -/
structure FetchRun where
  requests : List PageRequest
  accepted : List FetchedPage
  outcome : Except FetchError (List Json)

def FetchRun.raise (e : FetchError) : FetchRun := ⟨[], [], .error e⟩

def FetchRun.afterRequest (request : PageRequest) (run : FetchRun) : FetchRun :=
  { run with requests := request :: run.requests }

def FetchRun.afterPage (page : FetchedPage) (run : FetchRun) : FetchRun :=
  { run with accepted := page :: run.accepted }

/-- The error of too many response bytes. -/
def aggregateExceeded (limits : ClientLimits) : FetchError :=
  .runtimeError ("External API pagination exceeded the maximum aggregate response size of " ++
    toString limits.maxAggregateResponseBytes ++ " bytes")

/-- The error of too many pages or records. -/
def paginationExceeded (maximum : Nat) (what : String) : FetchError :=
  .runtimeError ("External API pagination exceeded the maximum of " ++ toString maximum ++ what)

def checkPage (limits : ClientLimits) (s : FetchState) (result : Json)
    (lastResponseBytes : Option Nat) : Except FetchError (FetchedPage × Bool) :=
  let remainingResponseBytes := limits.maxAggregateResponseBytes - s.aggregateResponseBytes
  match validatePagePayload result with
  | .error e => .error e
  | .ok (total, items) =>
    match boundedJsonSize floatRepr result remainingResponseBytes with
    | .error e => .error e
    | .ok none => .error (aggregateExceeded limits)
    | .ok (some encodedResponseBytes) =>
      let responseBytes := max (lastResponseBytes.getD 0) encodedResponseBytes
      match result.get? "has_more" with
      | some (.bool hasMore) =>
        match expectedHasMore total items s.offset with
        | .error e => .error e
        | .ok expected =>
          if remainingResponseBytes < responseBytes then .error (aggregateExceeded limits)
          else if items.isEmpty then
            if hasMore || expected then
              .error (.runtimeError "External API pagination made no offset progress")
            else .ok (⟨s.offset, total, items, responseBytes⟩, false)
          else if hasMore ≠ expected then
            .error (schemaInvalid "has_more is inconsistent with total, offset, and items")
          else if limits.maxRecords < s.allItems.length + items.length then
            .error (paginationExceeded limits.maxRecords " records")
          else .ok (⟨s.offset, total, items, responseBytes⟩, hasMore)
      | _ => .error (schemaInvalid "has_more must be a boolean")

def FetchState.accept (s : FetchState) (page : FetchedPage) : FetchState where
  allItems := s.allItems ++ page.items
  offset := s.offset + page.items.length
  pages := s.pages + 1
  aggregateResponseBytes := s.aggregateResponseBytes + page.responseBytes

def pageRequest (limits : ClientLimits) (limit : Int) (s : FetchState) : PageRequest where
  offset := s.offset
  limit := limit
  responseLimit := min defaultMaxOutboundResponseBytes
    (limits.maxAggregateResponseBytes - s.aggregateResponseBytes)

def requestError (limits : ClientLimits) (s : FetchState) (request : PageRequest) :
    FetchError → FetchError
  | .tooLarge maxBytes =>
    if request.responseLimit = limits.maxAggregateResponseBytes - s.aggregateResponseBytes then
      aggregateExceeded limits
    else .tooLarge maxBytes
  | e => e

/-- The loop of `fetch_all_since`; `fetch k` is what `fetch_incremental` does with the request that
follows `k` pages. -/
def fetchLoop (limits : ClientLimits) (limit : Int)
    (fetch : Nat → PageRequest → Except FetchError (Json × Option Nat)) (s : FetchState) : FetchRun :=
  if limits.maxPages ≤ s.pages then .raise (paginationExceeded limits.maxPages " pages")
  else if limits.maxRecords ≤ s.allItems.length then
    .raise (paginationExceeded limits.maxRecords " records")
  else if limits.maxAggregateResponseBytes ≤ s.aggregateResponseBytes then
    .raise (aggregateExceeded limits)
  else
    let request := pageRequest limits limit s
    match fetch s.pages request with
    | .error e => (FetchRun.raise (requestError limits s request e)).afterRequest request
    | .ok (result, lastResponseBytes) =>
      match checkPage floatRepr limits s result lastResponseBytes with
      | .error e => (FetchRun.raise e).afterRequest request
      | .ok (page, hasMore) =>
        if hasMore then
          -- a page with more to come is not empty, so that the offset grows
          ((fetchLoop limits limit fetch (s.accept page)).afterPage page).afterRequest request
        else (FetchRun.afterPage page ⟨[], [], .ok (s.accept page).allItems⟩).afterRequest request
termination_by limits.maxPages - s.pages
decreasing_by
  simp only [FetchState.accept]
  omega

def fetchAllSince (limits : ClientLimits) (limit : Int)
    (fetch : Nat → PageRequest → Except FetchError (Json × Option Nat)) : FetchRun :=
  if limit ≤ 0 then .raise (.valueError "limit must be a positive integer")
  else fetchLoop floatRepr limits limit fetch {}

end Sync
