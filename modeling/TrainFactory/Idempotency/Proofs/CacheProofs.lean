import TrainFactory.Idempotency.Cache
import TrainFactory.Lib.Run

/-!
# Proofs: the idempotency cache keeps requests apart, within its bounds
-/

namespace Idempotency

open Lib

variable {Response : Type}

/-! ## What has been stored -/

def Triple.raw (t : Triple) : String := rawCacheKey (t.key.getD "") t.userId t.endpoint

/-- The request of a call, if its key is valid. -/
def Event.asked (event : Event Response) : Option Triple :=
  match event.call with
  | .store triple _ ttlHours =>
    if isValidIdempotencyKey triple.key = true ∧ 0 < ttlHours then some triple else none
  | .check triple => if isValidIdempotencyKey triple.key = true then some triple else none
  | .cleanup => none

def Event.storesFor (t : Triple) (event : Event Response) : Option (Response × DateTime) :=
  match event.call with
  | .store triple response ttlHours =>
    if isValidIdempotencyKey triple.key = true ∧ 0 < ttlHours ∧ triple = t then
      some (response, event.now + hours ttlHours)
    else none
  | _ => none

def latest (t : Triple) (events : List (Event Response)) : Option (Response × DateTime) :=
  events.reverse.findSome? (Event.storesFor t)

theorem latest_append (t : Triple) (past : List (Event Response)) (event : Event Response) :
    latest t (past ++ [event]) = (event.storesFor t).or (latest t past) := by
  rw [latest, List.reverse_append, List.reverse_singleton, List.singleton_append,
    List.findSome?_cons]
  cases event.storesFor t <;> rfl

theorem mem_asked_of_past {t : Triple} {past : List (Event Response)} {event : Event Response}
    (h : t ∈ past.filterMap Event.asked) : t ∈ (past ++ [event]).filterMap Event.asked := by
  rw [List.filterMap_append]
  exact List.mem_append_left _ h

theorem mem_asked_append (past : List (Event Response)) {event : Event Response} {t : Triple}
    (h : event.asked = some t) : t ∈ (past ++ [event]).filterMap Event.asked := by
  rw [List.filterMap_append]
  exact List.mem_append_right _ (List.mem_filterMap.mpr ⟨event, List.mem_singleton_self _, h⟩)

/-- No two different requests of a run have the same text. -/
def Unambiguous (events : List (Event Response)) : Prop :=
  ∀ t ∈ events.filterMap Event.asked, ∀ t' ∈ events.filterMap Event.asked, t.raw = t'.raw → t = t'

theorem colon_inj {a b c d : List Char} (ha : ':' ∉ a) (hb : ':' ∉ b)
    (h : a ++ ':' :: c = b ++ ':' :: d) : a = b ∧ c = d := by
  induction a generalizing b with
  | nil =>
    cases b with
    | nil => exact ⟨rfl, (List.cons.inj h).2⟩
    | cons x b => exact absurd (List.mem_cons.mpr (Or.inl (List.cons.inj h).1)) hb
  | cons x a ih =>
    cases b with
    | nil => exact absurd (List.mem_cons.mpr (Or.inl (List.cons.inj h).1.symm)) ha
    | cons y b =>
      obtain ⟨rfl, hrest⟩ := List.cons.inj h
      obtain ⟨rfl, rfl⟩ := ih (fun hmem => ha (List.mem_cons_of_mem x hmem))
        (fun hmem => hb (List.mem_cons_of_mem x hmem)) hrest
      exact ⟨rfl, rfl⟩

theorem unambiguous_of_plain {events : List (Event Response)}
    (h : ∀ t ∈ events.filterMap Event.asked,
      t.key.isSome = true ∧ ':' ∉ t.userId.toList ∧ ':' ∉ t.endpoint.toList) :
    Unambiguous events := by
  intro t ht t' ht' hraw
  obtain ⟨hkey, huser, hendpoint⟩ := h t ht
  obtain ⟨hkey', huser', hendpoint'⟩ := h t' ht'
  obtain ⟨key, hkey⟩ := Option.isSome_iff_exists.mp hkey
  obtain ⟨key', hkey'⟩ := Option.isSome_iff_exists.mp hkey'
  have hlist := congrArg String.toList hraw
  have hcolon : ":".toList = [':'] := rfl
  simp only [Triple.raw, rawCacheKey, hkey, hkey', Option.getD_some, String.toList_append, hcolon,
    List.append_assoc, List.singleton_append] at hlist
  obtain ⟨hu, hrest⟩ := colon_inj huser huser' hlist
  obtain ⟨he, hk⟩ := colon_inj hendpoint hendpoint' hrest
  obtain ⟨userId, endpoint, k⟩ := t
  obtain ⟨userId', endpoint', k'⟩ := t'
  obtain rfl := String.toList_injective hu
  obtain rfl := String.toList_injective he
  obtain rfl := String.toList_injective hk
  obtain rfl : k = some key := hkey
  obtain rfl : k' = some key := hkey'
  rfl

/-! ## Evictions -/

def candidates (userId : Option String) (cache : Cache Response) : Nat :=
  (cache.filter (isCandidate userId)).length

theorem candidates_none (cache : Cache Response) : candidates none cache = cache.length := by
  have hall : cache.items.filter (isCandidate none) = cache.items :=
    List.filter_eq_self.mpr fun _ _ => rfl
  exact congrArg List.length hall

theorem candidates_le_of_sublist {userId : Option String} {cache cache' : Cache Response}
    (h : cache'.items.Sublist cache.items) : candidates userId cache' ≤ candidates userId cache :=
  (h.filter _).length_le

theorem evictOldestEntry_spec {userId : Option String} {cache : Cache Response} {n : Nat}
    (h : candidates userId cache = n + 1) :
    ∃ rest, evictOldestEntry userId cache = some rest ∧ rest.items.Sublist cache.items ∧
      candidates userId rest = n := by
  unfold evictOldestEntry
  cases holdest : (cache.items.filter (isCandidate userId)).argmin fun item => item.2.createdAt with
  | none =>
    have hlength : (cache.items.filter (isCandidate userId)).length = n + 1 := h
    rw [List.argmin_eq_none.mp holdest] at hlength
    cases hlength
  | some oldest =>
    obtain ⟨hmem, hcandidate⟩ := List.mem_filter.mp (List.argmin_mem holdest)
    refine ⟨cache.erase oldest.1, rfl, List.filter_sublist, ?_⟩
    have hless : candidates userId (cache.erase oldest.1) + 1 = candidates userId cache :=
      OrderedDict.length_filter_erase hmem hcandidate
    omega

theorem evictBelow_spec {userId : Option String} {limit : Nat} (hlimit : 0 < limit) {count : Nat}
    {cache : Cache Response} (h : candidates userId cache = count) :
    (evictBelow userId limit count cache).items.Sublist cache.items ∧
      candidates userId (evictBelow userId limit count cache) < limit := by
  induction count generalizing cache with
  | zero =>
    rw [evictBelow, h]
    exact ⟨List.Sublist.refl _, hlimit⟩
  | succ count ih =>
    rw [evictBelow]
    by_cases hfull : limit ≤ count + 1
    · obtain ⟨rest, hrest, hsub, hcount⟩ := evictOldestEntry_spec h
      obtain ⟨hsub', hroom⟩ := ih hcount
      rw [if_pos hfull, hrest]
      exact ⟨hsub'.trans hsub, hroom⟩
    · rw [if_neg hfull]
      exact ⟨List.Sublist.refl _, h.trans_lt (not_le.mp hfull)⟩

theorem makeRoom_spec (userId : String) (cache : Cache Response) :
    (makeRoom userId cache).items.Sublist cache.items ∧
      candidates (some userId) (makeRoom userId cache) < maxCacheEntriesPerUser ∧
      (makeRoom userId cache).length < maxCacheEntries := by
  have hpositive : 0 < maxCacheEntriesPerUser := by decide
  obtain ⟨huser, hroom⟩ := @evictBelow_spec Response (some userId) _ hpositive _ cache rfl
  obtain ⟨hall, htotal⟩ := evictBelow_spec (by decide : 0 < maxCacheEntries)
    (candidates_none (evictBelow (some userId) maxCacheEntriesPerUser
      (candidates (some userId) cache) cache))
  rw [candidates_none] at htotal
  exact ⟨hall.trans huser, (candidates_le_of_sublist hall).trans_lt hroom, htotal⟩

/-! ## The invariant -/

structure Bounded (cache : Cache Response) : Prop where
  total : cache.length ≤ maxCacheEntries
  perUser : ∀ userId, candidates (some userId) cache ≤ maxCacheEntriesPerUser

section Invariant

variable (sha256 : String → String)

/-- Every entry is the latest one of a request that stands in the history. -/
structure CacheInv (past : List (Event Response)) (cache : Cache Response) : Prop
    extends Bounded cache where
  stored : ∀ item ∈ cache.items, ∃ t ∈ past.filterMap Event.asked, item.1 = sha256 t.raw ∧
    item.2.userId = t.userId ∧ latest t past = some (item.2.response, item.2.expiresAt)

variable {sha256}

theorem Bounded.of_sublist {cache cache' : Cache Response} (h : Bounded cache)
    (hsub : cache'.items.Sublist cache.items) : Bounded cache' :=
  ⟨hsub.length_le.trans h.total, fun userId =>
    (candidates_le_of_sublist hsub).trans (h.perUser userId)⟩

theorem CacheInv.of_sublist {past : List (Event Response)} {cache cache' : Cache Response}
    (h : CacheInv sha256 past cache) (hsub : cache'.items.Sublist cache.items) :
    CacheInv sha256 past cache' :=
  ⟨h.toBounded.of_sublist hsub, fun item hitem => h.stored item (hsub.subset hitem)⟩

theorem cleanupExpiredEntries_sublist (now : DateTime) (cache : Cache Response) :
    (cleanupExpiredEntries now cache).items.Sublist cache.items := List.filter_sublist

theorem CacheInv.append {past : List (Event Response)} {cache : Cache Response}
    (h : CacheInv sha256 past cache) {event : Event Response}
    (hnone : ∀ t, event.storesFor t = none) : CacheInv sha256 (past ++ [event]) cache := by
  refine ⟨h.toBounded, fun item hitem => ?_⟩
  obtain ⟨t, ht, hkey, huser, hlatest⟩ := h.stored item hitem
  refine ⟨t, mem_asked_of_past ht, hkey, huser, ?_⟩
  rw [latest_append, hnone t, Option.none_or, hlatest]

theorem candidates_set (userId : Option String) (cache : Cache Response) (k : String)
    (entry : Entry Response) :
    candidates userId (cache.set k entry) =
      candidates userId (cache.erase k) + if isCandidate userId (k, entry) = true then 1 else 0 :=
  OrderedDict.length_filter_set

theorem Bounded.set {cache : Cache Response} (h : Bounded cache) {k : String}
    {entry : Entry Response}
    (hroom : (∃ old, (k, old) ∈ cache.items ∧ old.userId = entry.userId) ∨
      (cache.length < maxCacheEntries ∧
        candidates (some entry.userId) cache < maxCacheEntriesPerUser)) :
    Bounded (cache.set k entry) := by
  have herase : (cache.erase k).items.Sublist cache.items := List.filter_sublist
  -- what the write adds to the candidates of any kind
  have hbound : ∀ (userId : Option String) (limit : Nat), candidates userId cache ≤ limit →
      (isCandidate userId (k, entry) = true →
        (∃ old, (k, old) ∈ cache.items ∧ isCandidate userId (k, old) = true) ∨
          candidates userId cache < limit) →
      candidates userId (cache.set k entry) ≤ limit := by
    intro userId limit hle hfree
    have hless : candidates userId (cache.erase k) ≤ candidates userId cache :=
      candidates_le_of_sublist herase
    rw [candidates_set]
    by_cases hcandidate : isCandidate userId (k, entry) = true
    · rw [if_pos hcandidate]
      rcases hfree hcandidate with ⟨old, hold, holdCandidate⟩ | hlt
      · have hone : candidates userId (cache.erase k) + 1 = candidates userId cache :=
          OrderedDict.length_filter_erase hold holdCandidate
        omega
      · omega
    · rw [if_neg hcandidate]
      omega
  constructor
  · rw [← candidates_none]
    refine hbound none _ (by rw [candidates_none]; exact h.total) fun _ => ?_
    rcases hroom with ⟨old, hold, -⟩ | ⟨htotal, -⟩
    · exact Or.inl ⟨old, hold, rfl⟩
    · exact Or.inr (by rw [candidates_none]; exact htotal)
  · intro userId
    refine hbound (some userId) _ (h.perUser userId) fun hcandidate => ?_
    have huser : entry.userId = userId := by simpa [isCandidate] using hcandidate
    rcases hroom with ⟨old, hold, hsame⟩ | ⟨-, hlt⟩
    · exact Or.inl ⟨old, hold, by simpa [isCandidate] using hsame.trans huser⟩
    · exact Or.inr (huser ▸ hlt)

theorem CacheInv.set {past : List (Event Response)} {cache : Cache Response}
    (hinj : Function.Injective sha256) (h : CacheInv sha256 past cache) {event : Event Response}
    (t : Triple) (entry : Entry Response) (hasked : event.asked = some t)
    (hstores : ∀ t', event.storesFor t' =
      if t = t' then some (entry.response, entry.expiresAt) else none)
    (huser : entry.userId = t.userId) (hclear : Unambiguous (past ++ [event]))
    (hroom : (∃ old, (sha256 t.raw, old) ∈ cache.items) ∨
      (cache.length < maxCacheEntries ∧
        candidates (some t.userId) cache < maxCacheEntriesPerUser)) :
    CacheInv sha256 (past ++ [event]) (cache.set (sha256 t.raw) entry) := by
  have hmem := mem_asked_append past hasked
  refine ⟨h.toBounded.set ?_, fun item hitem => ?_⟩
  · rcases hroom with ⟨old, hold⟩ | hfree
    · obtain ⟨t', ht', hkey, hold', -⟩ := h.stored _ hold
      obtain rfl : t = t' := hclear t hmem t' (mem_asked_of_past ht') (hinj hkey)
      exact Or.inl ⟨old, hold, hold'.trans huser.symm⟩
    · exact Or.inr (huser ▸ hfree)
  · rcases OrderedDict.mem_set.mp hitem with rfl | ⟨hitem, hne⟩
    · refine ⟨t, hmem, rfl, huser, ?_⟩
      rw [latest_append, hstores, if_pos rfl]
      rfl
    · obtain ⟨t', ht', hkey, huser', hlatest⟩ := h.stored item hitem
      have hother : t ≠ t' := by
        rintro rfl
        exact hne hkey
      refine ⟨t', mem_asked_of_past ht', hkey, huser', ?_⟩
      rw [latest_append, hstores, if_neg hother, Option.none_or, hlatest]

theorem storesFor_of_refused {now : DateTime} {t : Triple} {response : Response} {ttlHours : Int}
    (h : ¬ (isValidIdempotencyKey t.key = true ∧ 0 < ttlHours)) (t' : Triple) :
    Event.storesFor t' (⟨now, .store t response ttlHours⟩ : Event Response) = none := by
  rw [Event.storesFor]
  exact if_neg fun hall => h ⟨hall.1, hall.2.1⟩

theorem storesFor_of_stored {now : DateTime} {t : Triple} {response : Response} {ttlHours : Int}
    (h : isValidIdempotencyKey t.key = true ∧ 0 < ttlHours) (t' : Triple) :
    Event.storesFor t' (⟨now, .store t response ttlHours⟩ : Event Response) =
      if t = t' then some (response, now + hours ttlHours) else none := by
  rw [Event.storesFor]
  simp only [h.1, h.2, true_and]

theorem limits_ne_zero : ¬ (maxCacheEntriesPerUser = 0 ∨ maxCacheEntries = 0) := by decide

/-- One call keeps the invariant. -/
theorem CacheInv.step {past : List (Event Response)} {cache : Cache Response}
    (hinj : Function.Injective sha256) (h : CacheInv sha256 past cache) (event : Event Response)
    (hclear : Unambiguous (past ++ [event])) :
    CacheInv sha256 (past ++ [event]) (step sha256 cache event) := by
  obtain ⟨now, call⟩ := event
  have hcleaned := h.of_sublist (cleanupExpiredEntries_sublist now cache)
  cases call with
  | cleanup => exact hcleaned.append fun _ => rfl
  | check t =>
    obtain ⟨userId, endpoint, key⟩ := t
    cases key with
    | none => exact h.append fun _ => rfl
    | some key =>
      simp only [Idempotency.step, checkIdempotency]
      split
      · exact hcleaned.append fun _ => rfl
      · exact h.append fun _ => rfl
  | store t response ttlHours =>
    obtain ⟨userId, endpoint, key⟩ := t
    cases key with
    | none =>
      refine h.append (storesFor_of_refused ?_)
      rintro ⟨hvalid, -⟩
      cases hvalid
    | some key =>
      simp only [Idempotency.step, storeIdempotencyResponse]
      by_cases hrefused : isValidIdempotencyKey (some key) = false ∨ ttlHours ≤ 0
      · rw [if_pos hrefused]
        refine h.append (storesFor_of_refused ?_)
        rintro ⟨hvalid, httl⟩
        rcases hrefused with hinvalid | hnever
        · rw [hinvalid] at hvalid
          cases hvalid
        · omega
      · rw [if_neg hrefused]
        rw [not_or, Bool.not_eq_false, not_le] at hrefused
        have hasked : Event.asked (⟨now, .store ⟨userId, endpoint, some key⟩ response ttlHours⟩ :
            Event Response) = some ⟨userId, endpoint, some key⟩ := if_pos hrefused
        have hset := fun cache' (hinv : CacheInv sha256 past cache') =>
          hinv.set hinj ⟨userId, endpoint, some key⟩
            ⟨userId, response, now, now + hours ttlHours⟩ hasked (storesFor_of_stored hrefused) rfl
            hclear
        by_cases hpresent : ((cleanupExpiredEntries now cache).get?
            (generateCacheKey sha256 key userId endpoint)).isSome = true
        · rw [if_pos hpresent]
          obtain ⟨old, hold⟩ := Option.isSome_iff_exists.mp hpresent
          exact hset _ hcleaned (Or.inl ⟨old, OrderedDict.get?_eq_some.mp hold⟩)
        · obtain ⟨hsub, huserRoom, htotalRoom⟩ :=
            makeRoom_spec userId (cleanupExpiredEntries now cache)
          rw [if_neg hpresent, if_neg limits_ne_zero]
          exact hset _ (hcleaned.of_sublist hsub) (Or.inr ⟨htotalRoom, huserRoom⟩)

theorem CacheInv.answer {past : List (Event Response)} {cache : Cache Response}
    (hinj : Function.Injective sha256) (h : CacheInv sha256 past cache) {now : DateTime}
    {t : Triple} (hclear : Unambiguous (past ++ [⟨now, .check t⟩])) {response : Response}
    (hhit : answer sha256 cache ⟨now, .check t⟩ = some response) :
    ∃ expiresAt, latest t past = some (response, expiresAt) ∧ now < expiresAt := by
  obtain ⟨userId, endpoint, key⟩ := t
  cases key with
  | none => cases hhit
  | some key =>
    simp only [Idempotency.answer, checkIdempotency] at hhit
    split at hhit
    · next hvalid =>
      obtain ⟨entry, hentry, rfl⟩ := Option.map_eq_some_iff.mp hhit
      obtain ⟨hitem, hlive⟩ := OrderedDict.mem_filter.mp (OrderedDict.get?_eq_some.mp hentry)
      obtain ⟨t', ht', hkey, -, hlatest⟩ := h.stored _ hitem
      have hcheck : Event.asked (⟨now, .check ⟨userId, endpoint, some key⟩⟩ : Event Response) =
          some ⟨userId, endpoint, some key⟩ := if_pos hvalid
      have hasked := mem_asked_append past hcheck
      obtain rfl := hclear _ hasked _ (mem_asked_of_past ht') (hinj hkey)
      exact ⟨entry.expiresAt, hlatest, by simpa using hlive⟩
    · cases hhit

end Invariant

theorem Unambiguous.of_prefix {events before : List (Event Response)} (h : Unambiguous events)
    (hbefore : before <+: events) : Unambiguous before := by
  have hsub := (hbefore.sublist.filterMap Event.asked).subset
  exact fun t ht t' ht' => h t (hsub ht) t' (hsub ht')

theorem cacheInv_exec {sha256 : String → String} (hinj : Function.Injective sha256)
    (events : List (Event Response)) (hclear : Unambiguous events) :
    CacheInv sha256 events (exec (step sha256) OrderedDict.empty events) := by
  induction events using List.reverseRecOn with
  | nil =>
    exact ⟨⟨Nat.zero_le _, fun _ => Nat.zero_le _⟩, fun item hitem => absurd hitem List.not_mem_nil⟩
  | append_singleton past event ih =>
    rw [exec_append]
    exact (ih (hclear.of_prefix (List.prefix_append _ _))).step hinj event hclear

/-- In a run in which no two requests have the same text, a hit is the latest response that was
stored for exactly its request, and has not expired; and the cache stays within its bounds. -/
theorem idempotency_isolated (sha256 : String → String) (hinj : Function.Injective sha256)
    (events : List (Event Response)) (hclear : Unambiguous events) :
    (∀ (before : List (Event Response)) (now : DateTime) (t : Triple) (response : Response),
      before ++ [⟨now, .check t⟩] <+: events →
      answer sha256 (exec (step sha256) OrderedDict.empty before) ⟨now, .check t⟩ = some response →
        ∃ expiresAt, latest t before = some (response, expiresAt) ∧ now < expiresAt) ∧
    ∀ before, before <+: events → Bounded (exec (step sha256) OrderedDict.empty before) := by
  refine ⟨fun before now t response hbefore hhit => ?_, fun before hbefore => ?_⟩
  · have hclear' := hclear.of_prefix hbefore
    have hinv := cacheInv_exec hinj before (hclear'.of_prefix (List.prefix_append _ _))
    exact hinv.answer hinj hclear' hhit
  · exact (cacheInv_exec hinj before (hclear.of_prefix hbefore)).toBounded

/-- Responses to two users, and to one user on two endpoints, under one key. -/
def storedResponses : List (Event Nat) :=
  [⟨0, .store ⟨"alice", "/api/train", some "k"⟩ 7 24⟩,
    ⟨1, .store ⟨"bob", "/api/train", some "k"⟩ 8 24⟩,
    ⟨2, .store ⟨"alice", "/api/sync", some "k"⟩ 9 24⟩]

/-- A request that is answered from the cache, among others with its key. -/
theorem idempotency_isolated_hit :
    ∃ expiresAt, latest ⟨"alice", "/api/train", some "k"⟩ storedResponses = some (7, expiresAt) ∧
      5 < expiresAt := by
  have hclear : Unambiguous (storedResponses ++
      [⟨5, .check ⟨"alice", "/api/train", some "k"⟩⟩]) := by
    refine unambiguous_of_plain ?_
    decide
  exact (idempotency_isolated id Function.injective_id _ hclear).1 storedResponses 5 _ 7
    (List.prefix_refl _) (by decide)

/-- A response is returned to another user. -/
theorem idempotency_confused :
    answer id (exec (step id) OrderedDict.empty
        [(⟨0, .store ⟨"alice:b", "c", some "k"⟩ 7 24⟩ : Event Nat)])
      ⟨5, .check ⟨"alice", "b:c", some "k"⟩⟩ = some 7 ∧
    latest ⟨"alice", "b:c", some "k"⟩
      [(⟨0, .store ⟨"alice:b", "c", some "k"⟩ 7 24⟩ : Event Nat)] = none := by
  decide

end Idempotency
