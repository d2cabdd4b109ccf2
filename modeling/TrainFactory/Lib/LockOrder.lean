import Mathlib.Data.List.Sort
import Mathlib.Logic.Relation
import Mathlib.Order.RelClasses
import TrainFactory.Lib.Table

/-!
# Ordered locks

A transaction that takes row locks one after the other, and may raise between two of them. Locks are
pairs of a table and a key. If all transactions take their locks in increasing order, for one strict
order, then no set of them can wait for each other in a cycle.
-/

namespace Lib

structure Locking (L ε α : Type) where
  locks : List L
  result : Except ε α

/-- `select(...).where(p).order_by(key)`. -/
def orderedSelect {R K : Type} [Keyed R K] [LinearOrder K] (t : Table R) (p : R → Bool) : List R :=
  (t.select p).insertionSort fun r r' => Keyed.key r ≤ Keyed.key r'

@[simp] theorem mem_orderedSelect {R K : Type} [Keyed R K] [LinearOrder K] {t : Table R}
    {p : R → Bool} {r : R} : r ∈ orderedSelect t p ↔ r ∈ t ∧ p r = true := by
  simp [orderedSelect]

namespace Locking

variable {L ε α β : Type}

instance : Monad (Locking L ε) where
  pure a := ⟨[], .ok a⟩
  bind x f :=
    match x.result with
    | .error e => ⟨x.locks, .error e⟩
    | .ok a => ⟨x.locks ++ (f a).locks, (f a).result⟩

/-- A part that takes no lock. -/
def checked (x : Except ε α) : Locking L ε α := ⟨[], x⟩

/-- `select(...).where(p).order_by(key).with_for_update()`. -/
def lockWhere {T R K : Type} [Keyed R K] [LinearOrder K] (table : T) (t : Table R) (p : R → Bool) :
    Locking (T × K) ε (List R) :=
  ⟨(orderedSelect t p).map fun r => (table, Keyed.key r), .ok (orderedSelect t p)⟩

@[simp] theorem locks_pure (a : α) : (pure a : Locking L ε α).locks = [] := rfl

@[simp] theorem result_pure (a : α) : (pure a : Locking L ε α).result = .ok a := rfl

@[simp] theorem locks_checked (x : Except ε α) : (checked x : Locking L ε α).locks = [] := rfl

@[simp] theorem result_checked (x : Except ε α) : (checked x : Locking L ε α).result = x := rfl

@[simp] theorem checked_ok_bind {a : α} {f : α → Locking L ε β} :
    ((checked (.ok a) : Locking L ε α) >>= f) = f a := rfl

@[simp] theorem checked_error_bind {e : ε} {f : α → Locking L ε β} :
    ((checked (.error e) : Locking L ε α) >>= f) = ⟨[], .error e⟩ := rfl

@[simp] theorem ok_bind {ls : List L} {a : α} {f : α → Locking L ε β} :
    ((⟨ls, .ok a⟩ : Locking L ε α) >>= f) = ⟨ls ++ (f a).locks, (f a).result⟩ := rfl

theorem locks_bind_ok {x : Locking L ε α} {f : α → Locking L ε β} {a : α} (h : x.result = .ok a) :
    (x >>= f).locks = x.locks ++ (f a).locks := by
  simp [bind, h]

/-- A transaction that goes on after a check goes on with its result. -/
theorem eq_of_checked_bind_eq_ok {x : Except ε α} {f : α → Locking L ε β} {b : β}
    (h : ((checked x : Locking L ε α) >>= f).result = .ok b) :
    ∃ a, x = .ok a ∧ ((checked x : Locking L ε α) >>= f) = f a := by
  cases x with
  | error e => cases h
  | ok a => exact ⟨a, rfl, rfl⟩

theorem locks_bind_error {x : Locking L ε α} {f : α → Locking L ε β} {e : ε}
    (h : x.result = .error e) : (x >>= f).locks = x.locks := by
  simp [bind, h]

/-- What a lock on the selected rows returns. -/
theorem mem_locks_lockWhere {T R K : Type} [Keyed R K] [LinearOrder K] {table : T} {t : Table R}
    {p : R → Bool} {l : T × K} :
    l ∈ (lockWhere table t p : Locking (T × K) ε (List R)).locks ↔
      l.1 = table ∧ ∃ r ∈ t, p r = true ∧ Keyed.key r = l.2 := by
  obtain ⟨table', k⟩ := l
  simp only [lockWhere, List.mem_map, mem_orderedSelect, Prod.mk.injEq]
  constructor
  · rintro ⟨r, ⟨hr, hp⟩, rfl, rfl⟩
    exact ⟨rfl, r, hr, hp, rfl⟩
  · rintro ⟨rfl, r, hr, hp, rfl⟩
    exact ⟨r, ⟨hr, hp⟩, rfl, rfl⟩

end Locking

/-! ## Transactions with increasing locks -/

section Order

variable {T K : Type} [LinearOrder K]

def Precedes (rank : T → ℕ) (l l' : T × K) : Prop :=
  rank l.1 < rank l'.1 ∨ rank l.1 = rank l'.1 ∧ l.2 < l'.2

variable (rank : T → ℕ)

instance : IsStrictOrder (T × K) (Precedes rank) where
  irrefl l h := by
    rcases h with h | ⟨-, h⟩
    · exact Nat.lt_irrefl _ h
    · exact absurd h (lt_irrefl _)
  trans l₁ l₂ l₃ h h' := by
    rcases h with h | ⟨he, h⟩ <;> rcases h' with h' | ⟨he', h'⟩
    · exact Or.inl (h.trans h')
    · exact Or.inl (he' ▸ h)
    · exact Or.inl (he ▸ h')
    · exact Or.inr ⟨he.trans he', h.trans h'⟩

namespace Locking

variable {ε α β : Type}

/-- The locks are taken in increasing order, all in tables whose rank is at least `lo` and below
`hi`. -/
structure Ascends (lo hi : ℕ) (x : Locking (T × K) ε α) : Prop where
  pairwise : x.locks.Pairwise (Precedes rank)
  ranks : ∀ l ∈ x.locks, lo ≤ rank l.1 ∧ rank l.1 < hi

variable {rank} {lo mid hi lo' hi' : ℕ}

theorem Ascends.pure (a : α) : Ascends rank lo hi (pure a : Locking (T × K) ε α) :=
  ⟨List.Pairwise.nil, by simp⟩

theorem Ascends.mono {x : Locking (T × K) ε α} (h : Ascends rank lo hi x) (hlo : lo' ≤ lo)
    (hhi : hi ≤ hi') : Ascends rank lo' hi' x := by
  refine ⟨h.pairwise, fun l hl => ?_⟩
  obtain ⟨h1, h2⟩ := h.ranks l hl
  omega

theorem Ascends.lockWhere {R : Type} [Keyed R K] {table : T} {t : Table R} {p : R → Bool} :
    Ascends rank (rank table) (rank table + 1)
      (lockWhere table t p : Locking (T × K) ε (List R)) := by
  constructor
  · have hsorted := List.pairwise_insertionSort
      (fun r r' : R => Keyed.key r ≤ Keyed.key r') (t.select p)
    have hnodup : ((orderedSelect t p).map Keyed.key).Nodup := by
      rw [orderedSelect, ((List.perm_insertionSort _ _).map _).nodup_iff]
      exact (List.filter_sublist.map _).nodup t.nodup
    rw [Locking.lockWhere, List.pairwise_map]
    rw [List.Nodup, List.pairwise_map] at hnodup
    refine (hsorted.and hnodup).imp fun {r r'} hr => ?_
    exact Or.inr ⟨rfl, lt_of_le_of_ne hr.1 hr.2⟩
  · intro l hl
    obtain ⟨htable, -⟩ := mem_locks_lockWhere.mp hl
    rw [htable]
    omega

theorem Ascends.bind {x : Locking (T × K) ε α} {f : α → Locking (T × K) ε β}
    (hx : Ascends rank lo mid x)
    (hf : ∀ a, x.result = .ok a → Ascends rank mid hi (f a)) (hlo : lo ≤ mid) (hhi : mid ≤ hi) :
    Ascends rank lo hi (x >>= f) := by
  cases h : x.result with
  | error e =>
    refine ⟨?_, ?_⟩ <;> rw [locks_bind_error h]
    · exact hx.pairwise
    · intro l hl
      obtain ⟨h1, h2⟩ := hx.ranks l hl
      omega
  | ok a =>
    have ha := hf a h
    refine ⟨?_, ?_⟩ <;> rw [locks_bind_ok h]
    · rw [List.pairwise_append]
      refine ⟨hx.pairwise, ha.pairwise, fun l hl l' hl' => ?_⟩
      have h1 := (hx.ranks l hl).2
      have h2 := (ha.ranks l' hl').1
      exact Or.inl (by omega)
    · intro l hl
      rcases List.mem_append.mp hl with hl | hl
      · obtain ⟨h1, h2⟩ := hx.ranks l hl
        omega
      · obtain ⟨h1, h2⟩ := ha.ranks l hl
        omega

/-- After a check, the same tables are free to be locked. -/
theorem Ascends.check_bind {x : Except ε α} {f : α → Locking (T × K) ε β}
    (hf : ∀ a, x = .ok a → Ascends rank lo hi (f a)) :
    Ascends rank lo hi ((Locking.checked x : Locking (T × K) ε α) >>= f) := by
  cases hx : x with
  | error e => exact ⟨List.Pairwise.nil, by simp [Bind.bind]⟩
  | ok a =>
    have ha := hf a hx
    refine ⟨?_, ?_⟩ <;> rw [locks_bind_ok rfl, locks_checked, List.nil_append]
    · exact ha.pairwise
    · exact ha.ranks

theorem Ascends.lock_bind {R : Type} [Keyed R K] {table : T} {t : Table R} {p : R → Bool}
    {f : List R → Locking (T × K) ε β} (hlo : lo ≤ rank table) (hhi : rank table < hi)
    (hf : ∀ rows, Ascends rank (rank table + 1) hi (f rows)) :
    Ascends rank lo hi ((Locking.lockWhere table t p : Locking (T × K) ε (List R)) >>= f) :=
  (Ascends.lockWhere.mono hlo le_rfl).bind (fun rows _ => hf rows) (by omega) hhi

end Locking

end Order

/-! ## Waiting -/

section Waiting

variable {L ι : Type} (runs : ι → List L) (taken : ι → ℕ)

def Waits (i j : ι) : Prop := ∃ l, (runs i)[taken i]? = some l ∧ l ∈ (runs j).take (taken j)

variable {runs taken} {lt : L → L → Prop}

/-- What a transaction has taken precedes what it takes next. -/
theorem lt_of_mem_take {ls : List L} (h : ls.Pairwise lt) {n : ℕ} {l l' : L} (hl : l ∈ ls.take n)
    (hl' : ls[n]? = some l') : lt l l' := by
  obtain ⟨k, hk, rfl⟩ := List.mem_iff_getElem.mp hl
  obtain ⟨hn, rfl⟩ := List.getElem?_eq_some_iff.mp hl'
  rw [List.length_take] at hk
  rw [List.getElem_take]
  exact List.pairwise_iff_getElem.mp h k n (by omega) hn (by omega)

theorem Waits.lt_of_transGen [IsTrans L lt] (h : ∀ i, (runs i).Pairwise lt) {i j : ι}
    (hw : Relation.TransGen (Waits runs taken) i j) {l l' : L} (hl : (runs i)[taken i]? = some l)
    (hl' : (runs j)[taken j]? = some l') : lt l l' := by
  induction hw generalizing l' with
  | single hij =>
    obtain ⟨m, hm, hmem⟩ := hij
    obtain rfl : l = m := Option.some.inj (hl.symm.trans hm)
    exact lt_of_mem_take (h _) hmem hl'
  | tail _ hjk ih =>
    obtain ⟨m, hm, hmem⟩ := hjk
    exact IsTrans.trans _ _ _ (ih hm) (lt_of_mem_take (h _) hmem hl')

theorem not_waits_cycle [IsStrictOrder L lt] (h : ∀ i, (runs i).Pairwise lt) (i : ι) :
    ¬ Relation.TransGen (Waits runs taken) i i := by
  intro hw
  obtain ⟨j, ⟨l, hl, -⟩, -⟩ := Relation.TransGen.head'_iff.mp hw
  exact irrefl l (Waits.lt_of_transGen h hw hl hl)

end Waiting

/-- A relation has no cycle if a rank increases along those of its edges whose ends both lie on a
cycle. -/
theorem not_transGen_self_of_lt {ι κ : Type} [Preorder κ] {r : ι → ι → Prop} {rank : ι → κ}
    (h : ∀ i j, r i j → Relation.TransGen r i i → Relation.TransGen r j j → rank i < rank j)
    (i : ι) : ¬ Relation.TransGen r i i := by
  -- a path from `i` on the cycle ends at a higher rank
  have hpath : ∀ j, Relation.TransGen r i j → Relation.ReflTransGen r j i → rank i < rank j := by
    intro j hij
    induction hij with
    | single hij =>
      intro hback
      exact h _ _ hij (Relation.TransGen.head' hij hback) (Relation.TransGen.tail' hback hij)
    | tail hij hjk ih =>
      intro hback
      have hj : Relation.ReflTransGen r _ i := Relation.ReflTransGen.head hjk hback
      have hlast := h _ _ hjk (Relation.TransGen.trans_right hj hij)
        (Relation.TransGen.trans_right hback (hij.tail hjk))
      exact lt_trans (ih hj) hlast
  intro hi
  exact lt_irrefl _ (hpath i hi Relation.ReflTransGen.refl)

end Lib
