import TrainFactory.Sync.ExternalClient

/-!
# Safe pagination

Whatever the server answers, a run of `fetch_all_since` makes a bounded number of requests, each at
the number of the records before it. It returns the records of all pages, within the budgets and up
to the reported total, or it raises.
-/

namespace Sync

open Lib

variable {floatRepr : Rat → String} {limits : ClientLimits} {limit : Int}
  {fetch : Nat → PageRequest → Except FetchError (Json × Option Nat)}

/-! ## One page -/

theorem expectedHasMore_ok {total offset : Nat} {items : List Json} {expected : Bool}
    (h : expectedHasMore total items offset = .ok expected) :
    offset + items.length ≤ total ∧ (expected = false → offset + items.length = total) := by
  unfold expectedHasMore at h
  split at h
  · cases h
  · rename_i hle
    cases h
    refine ⟨by omega, fun hend => ?_⟩
    have := of_decide_eq_false hend
    omega

/-- What an accepted page is: a valid payload within the budgets, and the last one if there is no
more. -/
structure Accepts (limits : ClientLimits) (s : FetchState) (result : Json)
    (lastResponseBytes : Option Nat) (page : FetchedPage) (hasMore : Bool) : Prop where
  offset : page.offset = s.offset
  payload : validatePagePayload result = .ok (page.total, page.items)
  measured : lastResponseBytes.getD 0 ≤ page.responseBytes
  bytes : page.responseBytes ≤ limits.maxAggregateResponseBytes - s.aggregateResponseBytes
  records : page.items ≠ [] → s.allItems.length + page.items.length ≤ limits.maxRecords
  last : hasMore = false → page.offset + page.items.length = page.total

theorem checkPage_ok {s : FetchState} {result : Json} {lastResponseBytes : Option Nat}
    {page : FetchedPage} {hasMore : Bool}
    (h : checkPage floatRepr limits s result lastResponseBytes = .ok (page, hasMore)) :
    Accepts limits s result lastResponseBytes page hasMore := by
  simp only [checkPage] at h
  cases hpayload : validatePagePayload result with
  | error e => simp only [hpayload, reduceCtorEq] at h
  | ok payload =>
    obtain ⟨total, items⟩ := payload
    simp only [hpayload] at h
    cases hsize : boundedJsonSize floatRepr result
        ↑(limits.maxAggregateResponseBytes - s.aggregateResponseBytes) with
    | error e => simp only [hsize, reduceCtorEq] at h
    | ok size =>
      cases size with
      | none => simp only [hsize, reduceCtorEq] at h
      | some encoded =>
        simp only [hsize] at h
        split at h
        · rename_i hasMore' _
          cases hexpected : expectedHasMore total items s.offset with
          | error e => simp only [hexpected, reduceCtorEq] at h
          | ok expected =>
            obtain ⟨-, hlast⟩ := expectedHasMore_ok hexpected
            simp only [hexpected] at h
            split at h
            · cases h
            · rename_i hbytes
              split at h
              · rename_i hempty
                split at h
                · cases h
                · rename_i hmore
                  cases h
                  have hnil : items = [] := List.isEmpty_iff.mp hempty
                  rw [Bool.or_eq_true, not_or, Bool.not_eq_true, Bool.not_eq_true] at hmore
                  exact ⟨rfl, hpayload, le_max_left _ _, not_lt.mp hbytes,
                    fun hne => absurd hnil hne, fun _ => hlast hmore.2⟩
              · split at h
                · cases h
                · rename_i hsame
                  split at h
                  · cases h
                  · rename_i hrecords
                    cases h
                    exact ⟨rfl, hpayload, le_max_left _ _, not_lt.mp hbytes,
                      fun _ => not_lt.mp hrecords,
                      fun hend => hlast ((not_not.mp hsame).symm.trans hend)⟩
        · cases h

/-! ## A run -/

/-- The invariant of the loop: the offset counts the records, within the budgets. -/
structure FetchInv (limits : ClientLimits) (s : FetchState) : Prop where
  offset : s.offset = s.allItems.length
  records : s.allItems.length ≤ limits.maxRecords
  bytes : s.aggregateResponseBytes ≤ limits.maxAggregateResponseBytes

theorem FetchInv.accept {s : FetchState} (h : FetchInv limits s) {result : Json}
    {lastResponseBytes : Option Nat} {page : FetchedPage} {hasMore : Bool}
    (hpage : Accepts limits s result lastResponseBytes page hasMore) :
    FetchInv limits (s.accept page) := by
  have hoffset := h.offset
  have hrecords := h.records
  have hbytes := h.bytes
  have hpageBytes := hpage.bytes
  refine ⟨?_, ?_, ?_⟩
  · simp only [FetchState.accept, List.length_append]
    omega
  · simp only [FetchState.accept, List.length_append]
    by_cases hnil : page.items = []
    · rw [hnil, List.length_nil]
      omega
    · exact hpage.records hnil
  · simp only [FetchState.accept]
    omega

def itemsOf (pages : List FetchedPage) : List Json := pages.flatMap FetchedPage.items

def bytesOf (pages : List FetchedPage) : Nat := (pages.map FetchedPage.responseBytes).sum

/-- What a run from `s` on does, whatever it ends in. -/
structure Paginates (limits : ClientLimits)
    (fetch : Nat → PageRequest → Except FetchError (Json × Option Nat)) (s : FetchState)
    (run : FetchRun) : Prop where
  bounded : run.requests.length ≤ limits.maxPages - s.pages
  offsets : ∀ (k : Nat) (request : PageRequest), run.requests[k]? = some request →
    request.offset = s.allItems.length + (itemsOf (run.accepted.take k)).length
  replies : ∀ (k : Nat) (page : FetchedPage), run.accepted[k]? = some page →
    ∃ request result lastResponseBytes, run.requests[k]? = some request ∧
      fetch (s.pages + k) request = .ok (result, lastResponseBytes) ∧
      validatePagePayload result = .ok (page.total, page.items) ∧ page.offset = request.offset ∧
      lastResponseBytes.getD 0 ≤ page.responseBytes

structure Returns (limits : ClientLimits) (s : FetchState) (run : FetchRun) (items : List Json) :
    Prop where
  complete : run.accepted.length = run.requests.length
  items_eq : items = s.allItems ++ itemsOf run.accepted
  records : items.length ≤ limits.maxRecords
  bytes : s.aggregateResponseBytes + bytesOf run.accepted ≤ limits.maxAggregateResponseBytes
  last : ∃ page, run.accepted.getLast? = some page ∧ page.offset + page.items.length = page.total

theorem Paginates.raise (s : FetchState) (e : FetchError) :
    Paginates limits fetch s (FetchRun.raise e) :=
  ⟨Nat.zero_le _, by simp [FetchRun.raise], by simp [FetchRun.raise]⟩

theorem Paginates.refused {s : FetchState} (h : FetchInv limits s) (hpages : s.pages < limits.maxPages)
    (e : FetchError) :
    Paginates limits fetch s ((FetchRun.raise e).afterRequest (pageRequest limits limit s)) := by
  refine ⟨?_, fun k request hrequest => ?_, by simp [FetchRun.raise, FetchRun.afterRequest]⟩
  · simp only [FetchRun.raise, FetchRun.afterRequest, List.length_singleton]
    omega
  · cases k with
    | zero =>
      obtain rfl : pageRequest limits limit s = request := Option.some.inj hrequest
      simpa [pageRequest, itemsOf] using h.offset
    | succ k => cases hrequest

theorem Paginates.step {s : FetchState} (h : FetchInv limits s) (hpages : s.pages < limits.maxPages)
    {result : Json} {lastResponseBytes : Option Nat} {page : FetchedPage} {hasMore : Bool}
    (hfetch : fetch s.pages (pageRequest limits limit s) = .ok (result, lastResponseBytes))
    (hpage : Accepts limits s result lastResponseBytes page hasMore) {run : FetchRun}
    (hrun : Paginates limits fetch (s.accept page) run) :
    Paginates limits fetch s
      ((run.afterPage page).afterRequest (pageRequest limits limit s)) := by
  have hbounded := hrun.bounded
  refine ⟨?_, fun k request hrequest => ?_, fun k page' hpage' => ?_⟩
  · simp only [FetchState.accept] at hbounded
    simp only [FetchRun.afterRequest, FetchRun.afterPage, List.length_cons]
    omega
  · cases k with
    | zero =>
      obtain rfl : pageRequest limits limit s = request := Option.some.inj hrequest
      simpa [pageRequest, itemsOf] using h.offset
    | succ k =>
      have hoffset := hrun.offsets k request hrequest
      rw [hoffset]
      simp only [FetchState.accept, FetchRun.afterRequest, FetchRun.afterPage, itemsOf,
        List.take_succ_cons, List.flatMap_cons, List.length_append]
      omega
  · cases k with
    | zero =>
      obtain rfl : page = page' := Option.some.inj hpage'
      exact ⟨_, result, lastResponseBytes, rfl, hfetch, hpage.payload, hpage.offset,
        hpage.measured⟩
    | succ k =>
      obtain ⟨request, result', lastResponseBytes', hrequest, hreply, hrest⟩ :=
        hrun.replies k page' hpage'
      refine ⟨request, result', lastResponseBytes', hrequest, ?_, hrest⟩
      have hindex : (s.accept page).pages + k = s.pages + (k + 1) := by
        simp only [FetchState.accept]
        omega
      rwa [hindex] at hreply

theorem Returns.last_page {s : FetchState} (h : FetchInv limits s) {result : Json}
    {lastResponseBytes : Option Nat} {page : FetchedPage}
    (hpage : Accepts limits s result lastResponseBytes page false) (request : PageRequest) :
    Returns limits s
      ((FetchRun.afterPage page ⟨[], [], .ok (s.accept page).allItems⟩).afterRequest request)
      (s.accept page).allItems := by
  have hnext := h.accept hpage
  refine ⟨rfl, by simp [FetchState.accept, itemsOf, FetchRun.afterRequest, FetchRun.afterPage],
    hnext.records, ?_, page, rfl, hpage.last rfl⟩
  have hbytes := hnext.bytes
  simpa [FetchState.accept, bytesOf, FetchRun.afterRequest, FetchRun.afterPage] using hbytes

theorem Returns.step {s : FetchState} {page : FetchedPage} {run : FetchRun} {items : List Json}
    (hrun : Returns limits (s.accept page) run items) (request : PageRequest) :
    Returns limits s ((run.afterPage page).afterRequest request) items := by
  obtain ⟨last, hlast, htotal⟩ := hrun.last
  refine ⟨?_, ?_, hrun.records, ?_, last, ?_, htotal⟩
  · simpa [FetchRun.afterRequest, FetchRun.afterPage] using hrun.complete
  · have hitems := hrun.items_eq
    simpa [FetchState.accept, itemsOf, FetchRun.afterRequest, FetchRun.afterPage] using hitems
  · have hbytes := hrun.bytes
    simp only [FetchState.accept] at hbytes
    simp only [bytesOf, FetchRun.afterRequest, FetchRun.afterPage, List.map_cons,
      List.sum_cons] at hbytes ⊢
    omega
  · simp only [FetchRun.afterRequest, FetchRun.afterPage, List.getLast?_cons, hlast,
      Option.getD_some]

theorem fetchLoop_spec (s : FetchState) (h : FetchInv limits s) :
    Paginates limits fetch s (fetchLoop floatRepr limits limit fetch s) ∧
      ∀ items, (fetchLoop floatRepr limits limit fetch s).outcome = .ok items →
        Returns limits s (fetchLoop floatRepr limits limit fetch s) items := by
  generalize hn : limits.maxPages - s.pages = n
  induction n generalizing s with
  | zero =>
    have hstop : limits.maxPages ≤ s.pages := by omega
    rw [fetchLoop, if_pos hstop]
    exact ⟨.raise s _, fun items hitems => by cases hitems⟩
  | succ n ih =>
    have hpages : s.pages < limits.maxPages := by omega
    rw [fetchLoop, if_neg (not_le.mpr hpages)]
    split
    · exact ⟨.raise s _, fun items hitems => by cases hitems⟩
    · split
      · exact ⟨.raise s _, fun items hitems => by cases hitems⟩
      · dsimp only
        cases hfetch : fetch s.pages (pageRequest limits limit s) with
        | error e => exact ⟨.refused h hpages _, fun items hitems => by cases hitems⟩
        | ok reply =>
          obtain ⟨result, lastResponseBytes⟩ := reply
          dsimp only
          cases hcheck : checkPage floatRepr limits s result lastResponseBytes with
          | error e => exact ⟨.refused h hpages _, fun items hitems => by cases hitems⟩
          | ok checked =>
            obtain ⟨page, hasMore⟩ := checked
            have hpage := checkPage_ok hcheck
            have hnext := h.accept hpage
            dsimp only
            split
            · have hless : limits.maxPages - (s.accept page).pages = n := by
                simp only [FetchState.accept]
                omega
              obtain ⟨hrun, hreturns⟩ := ih (s.accept page) hnext hless
              exact ⟨.step h hpages hfetch hpage hrun,
                fun items hitems => (hreturns items hitems).step _⟩
            · rename_i hend
              rw [Bool.not_eq_true] at hend
              subst hend
              have hdone : Paginates limits fetch (s.accept page)
                  ⟨[], [], .ok (s.accept page).allItems⟩ :=
                ⟨Nat.zero_le _, by simp, by simp⟩
              refine ⟨.step h hpages hfetch hpage hdone, fun items hitems => ?_⟩
              obtain rfl : (s.accept page).allItems = items := Except.ok.inj hitems
              exact .last_page h hpage _

/-- Pagination is safe against any server. -/
theorem fetchAllSince_safe (floatRepr : Rat → String) (limits : ClientLimits) (limit : Int)
    (fetch : Nat → PageRequest → Except FetchError (Json × Option Nat)) :
    (fetchAllSince floatRepr limits limit fetch).requests.length ≤ limits.maxPages ∧
    (∀ (k : Nat) (request : PageRequest),
      (fetchAllSince floatRepr limits limit fetch).requests[k]? = some request →
        request.offset =
          (itemsOf ((fetchAllSince floatRepr limits limit fetch).accepted.take k)).length) ∧
    (∀ (k : Nat) (page : FetchedPage),
      (fetchAllSince floatRepr limits limit fetch).accepted[k]? = some page →
        ∃ request result lastResponseBytes,
          (fetchAllSince floatRepr limits limit fetch).requests[k]? = some request ∧
          fetch k request = .ok (result, lastResponseBytes) ∧
          validatePagePayload result = .ok (page.total, page.items) ∧
          page.offset = request.offset ∧ lastResponseBytes.getD 0 ≤ page.responseBytes) ∧
    ∀ items, (fetchAllSince floatRepr limits limit fetch).outcome = .ok items →
      (fetchAllSince floatRepr limits limit fetch).accepted.length =
        (fetchAllSince floatRepr limits limit fetch).requests.length ∧
      items = itemsOf (fetchAllSince floatRepr limits limit fetch).accepted ∧
      items.length ≤ limits.maxRecords ∧
      bytesOf (fetchAllSince floatRepr limits limit fetch).accepted ≤
        limits.maxAggregateResponseBytes ∧
      ∃ page, (fetchAllSince floatRepr limits limit fetch).accepted.getLast? = some page ∧
        page.offset + page.items.length = page.total := by
  have hinit : FetchInv limits {} := ⟨rfl, Nat.zero_le _, Nat.zero_le _⟩
  have hloop : Paginates limits fetch {} (fetchAllSince floatRepr limits limit fetch) ∧
      ∀ items, (fetchAllSince floatRepr limits limit fetch).outcome = .ok items →
        Returns limits {} (fetchAllSince floatRepr limits limit fetch) items := by
    unfold fetchAllSince
    split
    · exact ⟨.raise {} _, fun items hitems => by cases hitems⟩
    · exact fetchLoop_spec {} hinit
  obtain ⟨hrun, hreturns⟩ := hloop
  refine ⟨hrun.bounded, fun k request hrequest => ?_, fun k page hpage => ?_, fun items hitems => ?_⟩
  · simpa using hrun.offsets k request hrequest
  · simpa using hrun.replies k page hpage
  · obtain ⟨hcomplete, hitems, hrecords, hbytes, hlast⟩ := hreturns items hitems
    exact ⟨hcomplete, by simpa using hitems, hrecords, by simpa using hbytes, hlast⟩

end Sync
