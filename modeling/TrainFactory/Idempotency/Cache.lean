import Mathlib.Data.List.MinMax
import TrainFactory.Lib.Bytes
import TrainFactory.Lib.Dict

/-!
# The idempotency cache

`core/idempotency.py`: the responses of requests by idempotency key, user and endpoint, in a cache
with an expiry and two bounds.
-/

namespace Idempotency

open Lib

abbrev DateTime := Nat

/-- `timedelta(hours=hours)`. -/
def hours (n : Int) : Nat := n.toNat * 3600000000

def maxIdempotencyKeyBytes : Nat := 256

def maxCacheEntries : Nat := 10000

def maxCacheEntriesPerUser : Nat := 1000

structure Entry (Response : Type) where
  userId : String
  response : Response
  createdAt : DateTime
  expiresAt : DateTime

abbrev Cache (Response : Type) := OrderedDict String (Entry Response)

variable {Response : Type}

def isValidIdempotencyKey : Option String → Bool
  | none => false
  | some key => key ≠ "" && (utf8 key).length ≤ maxIdempotencyKeyBytes

def cleanupExpiredEntries (now : DateTime) (cache : Cache Response) : Cache Response :=
  cache.filter fun item => now < item.2.expiresAt

def isCandidate (userId : Option String) (item : String × Entry Response) : Bool :=
  userId.all fun userId => item.2.userId = userId

/-- `_evict_oldest_entry_locked`: nothing where there is no candidate. -/
def evictOldestEntry (userId : Option String) (cache : Cache Response) : Option (Cache Response) :=
  ((cache.items.filter (isCandidate userId)).argmin fun item => item.2.createdAt).map fun oldest =>
    cache.erase oldest.1

/-- The two loops of `store_idempotency_response`, at a number of candidates: an eviction takes one
of them. -/
def evictBelow (userId : Option String) (limit : Nat) : Nat → Cache Response → Cache Response
  | 0, cache => cache
  | count + 1, cache =>
    if limit ≤ count + 1 then
      match evictOldestEntry userId cache with
      | none => cache
      | some rest => evictBelow userId limit count rest
    else cache

/-- The text of which `_generate_cache_key` takes the hash. -/
def rawCacheKey (idempotencyKey userId endpoint : String) : String :=
  userId ++ ":" ++ endpoint ++ ":" ++ idempotencyKey

variable (sha256 : String → String)

def generateCacheKey (idempotencyKey userId endpoint : String) : String :=
  sha256 (rawCacheKey idempotencyKey userId endpoint)

def checkIdempotency (now : DateTime) (idempotencyKey : Option String) (userId endpoint : String)
    (cache : Cache Response) : Option Response × Cache Response :=
  match idempotencyKey with
  | none => (none, cache)
  | some key =>
    if isValidIdempotencyKey (some key) then
      let cache := cleanupExpiredEntries now cache
      ((cache.get? (generateCacheKey sha256 key userId endpoint)).map Entry.response, cache)
    else (none, cache)

def makeRoom (userId : String) (cache : Cache Response) : Cache Response :=
  let userEntries := (cache.filter (isCandidate (some userId))).length
  let cache := evictBelow (some userId) maxCacheEntriesPerUser userEntries cache
  evictBelow none maxCacheEntries cache.length cache

def storeIdempotencyResponse (now : DateTime) (idempotencyKey : Option String)
    (userId endpoint : String) (response : Response) (ttlHours : Int) (cache : Cache Response) :
    Cache Response :=
  match idempotencyKey with
  | none => cache
  | some key =>
    if isValidIdempotencyKey (some key) = false ∨ ttlHours ≤ 0 then cache
    else
      let cacheKey := generateCacheKey sha256 key userId endpoint
      let entry : Entry Response := ⟨userId, response, now, now + hours ttlHours⟩
      let cache := cleanupExpiredEntries now cache
      if (cache.get? cacheKey).isSome then cache.set cacheKey entry
      else if maxCacheEntriesPerUser = 0 ∨ maxCacheEntries = 0 then cache
      else (makeRoom userId cache).set cacheKey entry

/-! ## Calls -/

/-- A request: who asks what, with which key. -/
structure Triple where
  userId : String
  endpoint : String
  key : Option String
deriving DecidableEq

inductive Call (Response : Type) where
  | store (triple : Triple) (response : Response) (ttlHours : Int)
  | check (triple : Triple)
  | cleanup

/-- A call at its time. -/
structure Event (Response : Type) where
  now : DateTime
  call : Call Response

def step (cache : Cache Response) (event : Event Response) : Cache Response :=
  match event.call with
  | .store triple response ttlHours =>
    storeIdempotencyResponse sha256 event.now triple.key triple.userId triple.endpoint response
      ttlHours cache
  | .check triple =>
    (checkIdempotency sha256 event.now triple.key triple.userId triple.endpoint cache).2
  | .cleanup => cleanupExpiredEntries event.now cache

def answer (cache : Cache Response) (event : Event Response) : Option Response :=
  match event.call with
  | .check triple =>
    (checkIdempotency sha256 event.now triple.key triple.userId triple.endpoint cache).1
  | _ => none

end Idempotency
