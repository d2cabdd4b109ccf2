import Mathlib.Data.List.Nodup
import Mathlib.Data.Set.Basic
import Mathlib.Order.Bounds.Basic

/-!
# Incremental ingestion behind a watermark

A feed returns records with an identity and a time, in any order and any number of times. The
ingesting side keeps a cursor, the latest time it has ingested, and a boundary, identities it has
ingested. It queries from some time before the cursor on, its window, and ingests what is in the
window and not in the boundary. `Advance` says how cursor and boundary must move for this to ingest
every record exactly once: the boundary has to hold what the next window can return again, and
nothing that was not ingested. The cursor is kept in a store of less precision than the times have,
so the next window may start before the boundary does: `NoGap` says that no ingested record lies
between the two.
-/

namespace Lib

variable {α κ τ : Type*}

/-- The identity and the time of the records of a feed, the start of the window behind a cursor, and
what the store of the cursor reads back. -/
structure Feed (α κ τ : Type*) [LinearOrder τ] where
  key : α → κ
  time : α → τ
  since : τ → τ
  since_mono : Monotone since
  store : τ → τ
  store_mono : Monotone store
  store_store : ∀ c, store (store c) = store c
  store_since : ∀ c, store (since (store c)) = since (store c)

/-- What the ingesting side remembers. -/
structure Watermark (κ τ : Type*) where
  cursor : Option τ
  boundary : Set κ

variable [LinearOrder τ] {feed : Feed α κ τ} {w w' : Watermark κ τ}

/-- The record is in the window behind the cursor; without a cursor everything is. -/
def Feed.InWindow (feed : Feed α κ τ) (w : Watermark κ τ) (x : α) : Prop :=
  ∀ c, w.cursor = some c → feed.since c ≤ feed.time x

/-- The records that are ingested when `returned` is returned. -/
def Feed.Fresh (feed : Feed α κ τ) (w : Watermark κ τ) (x : α) : Prop :=
  feed.InWindow w x ∧ feed.key x ∉ w.boundary

/-- The times that the cursor and the ingested records have reached when `returned` is returned. -/
def Feed.reached (feed : Feed α κ τ) (w : Watermark κ τ) (returned : List α) : Set τ :=
  { t | w.cursor = some t ∨ ∃ x ∈ returned, feed.Fresh w x ∧ feed.time x = t }

/-- The watermark moves from `w` to `w'` after `returned` was returned: the cursor to the latest time
`c`, as the store reads it back, and the boundary to what the window behind `c` holds. -/
structure Advance (feed : Feed α κ τ) (w : Watermark κ τ) (returned : List α) (c : τ)
    (w' : Watermark κ τ) : Prop where
  cursor_eq : w'.cursor = some (feed.store c)
  /-- The cursor does not move back, and reaches every record that is ingested. -/
  greatest : IsGreatest (feed.reached w returned) c
  /-- The boundary keeps identities, or takes them from the returned part of the window. -/
  boundary_from : ∀ k ∈ w'.boundary, k ∈ w.boundary ∨
    ∃ x ∈ returned, feed.since c ≤ feed.time x ∧ feed.key x = k
  /-- The returned part of the window is in the boundary. -/
  boundary_returned : ∀ x ∈ returned, feed.since c ≤ feed.time x → feed.key x ∈ w'.boundary
  /-- The boundary is kept while the window reaches back to the cursor. -/
  boundary_kept : ∀ c₀, w.cursor = some c₀ → feed.since c ≤ c₀ → w.boundary ⊆ w'.boundary

theorem Advance.cursor_le {returned : List α} {c : τ} (h : Advance feed w returned c w') {c₀ : τ}
    (hc₀ : w.cursor = some c₀) : c₀ ≤ c := h.greatest.2 (Or.inl hc₀)

theorem Advance.time_le {returned : List α} {c : τ} (h : Advance feed w returned c w') {x : α}
    (hx : x ∈ returned) (hfresh : feed.Fresh w x) : feed.time x ≤ c :=
  h.greatest.2 (Or.inr ⟨x, hx, hfresh, rfl⟩)

/-- A returned record of the next window is in the boundary, or it is ingested. -/
theorem Advance.boundary_or_fresh {returned : List α} {c : τ}
    (h : Advance feed w returned c w') {x : α} (hx : feed.since c ≤ feed.time x) :
    feed.key x ∈ w.boundary ∨ feed.Fresh w x := by
  by_cases hk : feed.key x ∈ w.boundary
  · exact Or.inl hk
  · refine Or.inr ⟨?_, hk⟩
    intro c₀ hc₀
    have hmono := feed.since_mono (h.cursor_le hc₀)
    exact hmono.trans hx

/-- The boundary gains no identity but those of ingested records. -/
theorem Advance.boundary_subset {returned : List α} {c : τ}
    (h : Advance feed w returned c w') {k : κ} (hk : k ∈ w'.boundary) :
    k ∈ w.boundary ∨ ∃ x ∈ returned, feed.Fresh w x ∧ feed.key x = k := by
  rcases h.boundary_from k hk with hk | ⟨x, hx, htime, rfl⟩
  · exact Or.inl hk
  · rcases h.boundary_or_fresh htime with hb | hfresh
    · exact Or.inl hb
    · exact Or.inr ⟨x, hx, hfresh, rfl⟩

/-! ## What the store loses -/

/-- No record that is ingested, or whose identity the boundary holds, lies between the start of the
window behind the stored cursor and the start of the window behind the exact one, where the next
boundary does not hold it. `timeOf` is the time that belongs to an identity. -/
structure Feed.NoGap (feed : Feed α κ τ) (timeOf : κ → Option τ) (w : Watermark κ τ)
    (returned : List α) (c : τ) : Prop where
  fresh : ∀ x ∈ returned, feed.Fresh w x → feed.since (feed.store c) ≤ feed.time x →
    feed.since c ≤ feed.time x
  /-- The boundary is not kept if the old cursor lies between the two; then its identities have to
  be returned again. -/
  kept : ∀ c₀, w.cursor = some c₀ → feed.since (feed.store c) ≤ c₀ → c₀ < feed.since c →
    ∀ k ∈ w.boundary, ∀ t, timeOf k = some t → feed.since (feed.store c) ≤ t →
      feed.since c ≤ t ∧ k ∈ returned.map feed.key

/-- A cursor that is not stored too early leaves no gap. -/
theorem Feed.NoGap.of_le {timeOf : κ → Option τ} {returned : List α} {c : τ}
    (h : c ≤ feed.store c) : feed.NoGap timeOf w returned c where
  fresh _ _ _ hx := (feed.since_mono h).trans hx
  kept _ _ hle hlt := absurd (hlt.trans_le (feed.since_mono h)) (not_lt.mpr hle)

/-! ## Exactly once -/

/-- What was ingested is remembered as long as the window can return it again. -/
structure Exact (feed : Feed α κ τ) (ingested : List α) (w : Watermark κ τ) : Prop where
  nodup : (ingested.map feed.key).Nodup
  start : w.cursor = none → ingested = []
  stored : ∀ c, w.cursor = some c → feed.store c = c
  time_le : ∀ c, w.cursor = some c → ∀ x ∈ ingested, feed.store (feed.time x) ≤ c
  boundary_sub : ∀ k ∈ w.boundary, k ∈ ingested.map feed.key
  boundary_covers : ∀ x ∈ ingested, feed.InWindow w x → feed.key x ∈ w.boundary

/-- Nothing is ingested at the start. -/
theorem Exact.init (hc : w.cursor = none) (hb : w.boundary = ∅) : Exact feed [] w where
  nodup := List.nodup_nil
  start _ := rfl
  stored c hc' := by rw [hc] at hc'; cases hc'
  time_le c hc' := by rw [hc] at hc'; cases hc'
  boundary_sub k hk := by rw [hb] at hk; cases hk
  boundary_covers x hx := by cases hx

variable {ingested returned : List α}

/-- In the window, the boundary decides whether a record was ingested: this is where a record must
come with the same time whenever it comes. -/
theorem Exact.mem_boundary_iff (h : Exact feed ingested w) {x : α} (hx : feed.InWindow w x)
    (htime : ∀ y ∈ ingested, feed.key y = feed.key x → feed.time y = feed.time x) :
    feed.key x ∈ w.boundary ↔ feed.key x ∈ ingested.map feed.key := by
  constructor
  · exact h.boundary_sub _
  · intro hk
    obtain ⟨y, hy, hyx⟩ := List.mem_map.mp hk
    have hyw : feed.InWindow w y := by
      intro c hc
      rw [htime y hy hyx]
      exact hx c hc
    rw [← hyx]
    exact h.boundary_covers y hy hyw

/-- What is ingested is what is in the window and was never ingested. -/
theorem Exact.fresh_iff (h : Exact feed ingested w) {x : α}
    (htime : ∀ y ∈ ingested, feed.key y = feed.key x → feed.time y = feed.time x) :
    feed.Fresh w x ↔ feed.InWindow w x ∧ feed.key x ∉ ingested.map feed.key := by
  constructor
  · rintro ⟨hx, hk⟩
    exact ⟨hx, fun hmem => hk ((h.mem_boundary_iff hx htime).mpr hmem)⟩
  · rintro ⟨hx, hk⟩
    exact ⟨hx, fun hmem => hk ((h.mem_boundary_iff hx htime).mp hmem)⟩

/-- An old record of the next window is in the next boundary: with the old cursor in reach the whole
boundary is kept, and otherwise the record lies in the gap. -/
theorem Exact.boundary_of_old (h : Exact feed ingested w) {c : τ}
    (hadv : Advance feed w returned c w') {timeOf : κ → Option τ}
    (hgap : feed.NoGap timeOf w returned c)
    (htimeOf : ∀ x, x ∈ ingested ∨ x ∈ returned → timeOf (feed.key x) = some (feed.time x))
    {x : α} (hx : x ∈ ingested) (hsince : feed.since (feed.store c) ≤ feed.time x) :
    feed.key x ∈ w'.boundary := by
  cases hw : w.cursor with
  | none => rw [h.start hw] at hx; cases hx
  | some c₀ =>
    have hc₀ : c₀ ≤ feed.store c := by
      rw [← h.stored c₀ hw]
      exact feed.store_mono (hadv.cursor_le hw)
    have hold : feed.key x ∈ w.boundary := by
      refine h.boundary_covers x hx ?_
      intro c' hc'
      obtain rfl : c₀ = c' := Option.some.inj (hw.symm.trans hc')
      exact (feed.since_mono hc₀).trans hsince
    by_cases hreach : feed.since c ≤ c₀
    · exact hadv.boundary_kept c₀ hw hreach hold
    · -- the stored window starts at a time that the store keeps, so it reaches back to the cursor
      have hback : feed.since (feed.store c) ≤ c₀ := by
        rw [← feed.store_since c]
        exact (feed.store_mono hsince).trans (h.time_le c₀ hw x hx)
      obtain ⟨htime, hreturned⟩ := hgap.kept c₀ hw hback (not_le.mp hreach) _ hold _
        (htimeOf x (Or.inl hx)) hsince
      obtain ⟨y, hy, hkey⟩ := List.mem_map.mp hreturned
      have hyx : feed.time y = feed.time x := by
        have := (htimeOf y (Or.inr hy)).symm.trans ((congrArg timeOf hkey).trans
          (htimeOf x (Or.inl hx)))
        exact Option.some.inj this
      rw [← hkey]
      refine hadv.boundary_returned y hy ?_
      rw [hyx]
      exact htime

/-- An advance that ingests the fresh records and leaves no gap keeps ingestion exact. -/
theorem Exact.advance (h : Exact feed ingested w) {c : τ} (hadv : Advance feed w returned c w')
    {timeOf : κ → Option τ} (hgap : feed.NoGap timeOf w returned c) {fresh : List α}
    (hfresh : ∀ x, x ∈ fresh ↔ x ∈ returned ∧ feed.Fresh w x)
    (hnodup : (fresh.map feed.key).Nodup)
    (htimeOf : ∀ x, x ∈ ingested ∨ x ∈ returned → timeOf (feed.key x) = some (feed.time x)) :
    Exact feed (ingested ++ fresh) w' where
  nodup := by
    rw [List.map_append, List.nodup_append]
    refine ⟨h.nodup, hnodup, ?_⟩
    intro k hk k' hk' heq
    obtain ⟨x, hx, rfl⟩ := List.mem_map.mp hk'
    obtain ⟨hxr, hxf⟩ := (hfresh x).mp hx
    have htime : ∀ y ∈ ingested, feed.key y = feed.key x → feed.time y = feed.time x := by
      intro y hy hyx
      have := (htimeOf y (Or.inl hy)).symm.trans ((congrArg timeOf hyx).trans
        (htimeOf x (Or.inr hxr)))
      exact Option.some.inj this
    exact ((h.fresh_iff htime).mp hxf).2 (heq ▸ hk)
  start hc := by
    rw [hadv.cursor_eq] at hc
    cases hc
  stored c' hc' := by
    obtain rfl : feed.store c = c' := Option.some.inj (hadv.cursor_eq.symm.trans hc')
    exact feed.store_store c
  time_le c' hc' x hx := by
    obtain rfl : feed.store c = c' := Option.some.inj (hadv.cursor_eq.symm.trans hc')
    rcases List.mem_append.mp hx with hx | hx
    · cases hw : w.cursor with
      | none => rw [h.start hw] at hx; cases hx
      | some c₀ =>
        calc feed.store (feed.time x) ≤ c₀ := h.time_le c₀ hw x hx
          _ = feed.store c₀ := (h.stored c₀ hw).symm
          _ ≤ feed.store c := feed.store_mono (hadv.cursor_le hw)
    · obtain ⟨hxr, hxf⟩ := (hfresh x).mp hx
      exact feed.store_mono (hadv.time_le hxr hxf)
  boundary_sub k hk := by
    rw [List.map_append, List.mem_append]
    rcases hadv.boundary_subset hk with hk | ⟨x, hx, hxf, rfl⟩
    · exact Or.inl (h.boundary_sub k hk)
    · exact Or.inr (List.mem_map.mpr ⟨x, (hfresh x).mpr ⟨hx, hxf⟩, rfl⟩)
  boundary_covers x hx hwin := by
    have hsince : feed.since (feed.store c) ≤ feed.time x := hwin _ hadv.cursor_eq
    rcases List.mem_append.mp hx with hx | hx
    · exact h.boundary_of_old hadv hgap htimeOf hx hsince
    · obtain ⟨hxr, hxf⟩ := (hfresh x).mp hx
      exact hadv.boundary_returned x hxr (hgap.fresh x hxr hxf hsince)

end Lib
