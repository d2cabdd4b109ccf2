import Mathlib.Data.List.Nodup
import Mathlib.Data.List.Basic
import Mathlib.Algebra.BigOperators.Group.List.Basic
import Mathlib.Algebra.Order.BigOperators.Group.List
import Mathlib.Algebra.Order.Group.Nat
import Mathlib.Data.Fintype.EquivFin
import Mathlib.Tactic.Ring

/-!
# Keyed tables

A table of a relational store: a finite list of rows, in insertion order, with a `UNIQUE` column.
The uniqueness of the key is a field of the structure, so a table with two rows of one key cannot
be built: `insert` refuses a key that is taken, updates must keep the key, deletions keep the order
of the remaining rows.
-/

namespace Lib

/-- How a `WHERE` clause compares texts: by the weights that the collation of their columns gives
them. -/
structure Collation where
  weight : String → String

/-- The texts are equal to a `WHERE` clause. -/
def Collation.same (collation : Collation) (x y : String) : Bool :=
  collation.weight x = collation.weight y

/-- The values of a nullable column are equal, or both `NULL`. -/
def Collation.sameOrNull (collation : Collation) (x y : Option String) : Bool :=
  x.map collation.weight = y.map collation.weight

@[simp] theorem Collation.same_self (collation : Collation) (x : String) :
    collation.same x x = true :=
  decide_eq_true rfl

/-- Rows with a `UNIQUE` column of type `K`. -/
class Keyed (R : Type*) (K : outParam Type*) where
  /-- The unique column of a row. -/
  key : R → K

open Keyed

structure Table (R : Type*) {K : Type*} [Keyed R K] where
  /-- The rows, in insertion order. -/
  rows : List R
  /-- The `UNIQUE` constraint. -/
  nodup : (rows.map key).Nodup

namespace Table

variable {R K : Type*} [Keyed R K]

instance : Membership R (Table R) := ⟨fun t r => r ∈ t.rows⟩

/-- The table without rows. -/
def empty : Table R := ⟨[], List.nodup_nil⟩

def lookup [DecidableEq K] (t : Table R) (k : K) : Option R := t.rows.find? fun r => key r = k

def select (t : Table R) (p : R → Bool) : List R := t.rows.filter p

/-- Append a row, unless its key is taken. -/
def insert [DecidableEq K] (t : Table R) (r : R) : Option (Table R) :=
  if h : key r ∈ t.rows.map key then none
  else some ⟨t.rows ++ [r], by
    rw [List.map_append, List.nodup_append]
    refine ⟨t.nodup, by simp, ?_⟩
    intro a ha b hb hab
    simp only [List.map_cons, List.map_nil, List.mem_singleton] at hb
    exact h (hb ▸ hab ▸ ha)⟩

/-- Replace every row that satisfies `p` by its image under `f`, which keeps the key. -/
-- `Eq.symm` keeps the stated type of the default proof, so that rewriting finds it again
def updateWhere (t : Table R) (p : R → Bool) (f : R → R)
    (hf : ∀ r, key (f r) = key r := by intro _; exact Eq.symm rfl) : Table R :=
  ⟨t.rows.map fun r => if p r then f r else r, by
    have hmap : (t.rows.map fun r => if p r then f r else r).map key = t.rows.map key := by
      rw [List.map_map]
      apply List.map_congr_left
      intro r _
      by_cases hp : p r <;> simp [hp, hf]
    rw [hmap]
    exact t.nodup⟩

def update [DecidableEq K] (t : Table R) (k : K) (f : R → R)
    (hf : ∀ r, key (f r) = key r := by intro _; exact Eq.symm rfl) : Table R :=
  t.updateWhere (fun r => key r = k) f hf

def deleteWhere (t : Table R) (p : R → Bool) : Table R :=
  ⟨t.rows.filter fun r => !p r, (List.filter_sublist.map key).nodup t.nodup⟩

def sumBy {M : Type*} [AddCommMonoid M] (t : Table R) (g : R → M) : M := (t.rows.map g).sum

/-! ## Membership and lookup -/

theorem mem_def {t : Table R} {r : R} : r ∈ t ↔ r ∈ t.rows := Iff.rfl

@[simp] theorem not_mem_empty (r : R) : r ∉ (empty : Table R) := by simp [empty, mem_def]

/-- Two rows with the same key are the same row. -/
theorem eq_of_key {t : Table R} {r r' : R} (h : r ∈ t) (h' : r' ∈ t) (hk : key r = key r') :
    r = r' :=
  List.inj_on_of_nodup_map t.nodup h h' hk

@[simp] theorem mem_select {t : Table R} {p : R → Bool} {r : R} :
    r ∈ t.select p ↔ r ∈ t ∧ p r = true := by
  simp [select, mem_def]

theorem mem_updateWhere {t : Table R} {p : R → Bool} {f : R → R} {hf : ∀ r, key (f r) = key r}
    {r : R} : r ∈ t.updateWhere p f hf ↔ ∃ r₀ ∈ t, r = if p r₀ then f r₀ else r₀ := by
  rw [mem_def, updateWhere, List.mem_map]
  constructor
  · rintro ⟨r₀, hr₀, rfl⟩
    exact ⟨r₀, hr₀, rfl⟩
  · rintro ⟨r₀, hr₀, rfl⟩
    exact ⟨r₀, hr₀, rfl⟩

theorem mem_deleteWhere {t : Table R} {p : R → Bool} {r : R} :
    r ∈ t.deleteWhere p ↔ r ∈ t ∧ p r = false := by
  simp [deleteWhere, mem_def]

theorem select_eq_nil {t : Table R} {p : R → Bool} : t.select p = [] ↔ ∀ r ∈ t, p r = false := by
  simp [select, mem_def]

theorem nodup_rows (t : Table R) : t.rows.Nodup := List.Nodup.of_map key t.nodup

/-- A row that is the only one that satisfies `p` is all that is selected. -/
theorem select_eq_singleton {t : Table R} {p : R → Bool} {r : R} (h : r ∈ t) (hp : p r = true)
    (hone : ∀ r' ∈ t, p r' = true → r' = r) : t.select p = [r] := by
  have hnodup : (t.select p).Nodup := t.nodup_rows.filter p
  have hmem : ∀ r', r' ∈ t.select p ↔ r' = r := by
    intro r'
    rw [mem_select]
    constructor
    · rintro ⟨hr', hp'⟩
      exact hone r' hr' hp'
    · rintro rfl
      exact ⟨h, hp⟩
  exact List.perm_singleton.mp ((List.perm_ext_iff_of_nodup hnodup (List.nodup_singleton r)).mpr
    fun r' => (hmem r').trans List.mem_singleton.symm)

theorem select_updateWhere_of_disjoint {t : Table R} {p q : R → Bool} {f : R → R}
    {hf : ∀ r, key (f r) = key r} (hp : ∀ r, p r = true → q r = false)
    (hfq : ∀ r, p r = true → q (f r) = false) : (t.updateWhere p f hf).select q = t.select q := by
  obtain ⟨rows, nodup⟩ := t
  simp only [select, updateWhere]
  clear nodup
  induction rows with
  | nil => rfl
  | cons r rows ih =>
    by_cases hpr : p r = true
    · simp [hpr, hp r hpr, hfq r hpr, ih]
    · simp [hpr, List.filter_cons, ih]

/-- An update that selects no row changes nothing. -/
theorem updateWhere_eq_self {t : Table R} {p : R → Bool} {f : R → R}
    {hf : ∀ r, key (f r) = key r} (h : ∀ r ∈ t, p r = false) : t.updateWhere p f hf = t := by
  have hrows : (t.rows.map fun r => if p r then f r else r) = t.rows := by
    conv_rhs => rw [← List.map_id t.rows]
    apply List.map_congr_left
    intro r hr
    simp [h r hr]
  obtain ⟨rows, nodup⟩ := t
  simpa [updateWhere] using hrows

/-- What is read of the selected rows does not change if an update keeps it. -/
theorem map_select_updateWhere {α : Type*} {t : Table R} {p q : R → Bool} {f : R → R}
    (hf : ∀ r, key (f r) = key r) {h : R → α} (hq : ∀ r, q (f r) = q r) (hh : ∀ r, h (f r) = h r) :
    ((t.updateWhere p f hf).select q).map h = (t.select q).map h := by
  obtain ⟨rows, nodup⟩ := t
  simp only [select, updateWhere]
  clear nodup
  induction rows with
  | nil => rfl
  | cons r rows ih =>
    by_cases hp : p r <;> by_cases hqr : q r <;> simp [hp, hq, hh, hqr, ih]

section Lookup

variable [DecidableEq K]

theorem lookup_eq_some {t : Table R} {k : K} {r : R} :
    t.lookup k = some r ↔ r ∈ t ∧ key r = k := by
  constructor
  · intro h
    exact ⟨List.mem_of_find?_eq_some h, by simpa using List.find?_some h⟩
  · rintro ⟨hr, rfl⟩
    cases hl : t.lookup (key r) with
    | none => exact absurd (List.find?_eq_none.mp hl r hr) (by simp)
    | some r' =>
      have hr' : r' ∈ t := List.mem_of_find?_eq_some hl
      have hk : key r' = key r := by simpa using List.find?_some hl
      rw [eq_of_key hr' hr hk]

theorem lookup_eq_none {t : Table R} {k : K} : t.lookup k = none ↔ ∀ r ∈ t, key r ≠ k := by
  simp [lookup, mem_def]

theorem lookup_of_mem {t : Table R} {r : R} (h : r ∈ t) : t.lookup (key r) = some r :=
  lookup_eq_some.mpr ⟨h, rfl⟩

@[simp] theorem lookup_empty (k : K) : (empty : Table R).lookup k = none := rfl

theorem insert_eq_some {t t' : Table R} {r : R} :
    t.insert r = some t' ↔ (∀ r' ∈ t, key r' ≠ key r) ∧ t'.rows = t.rows ++ [r] := by
  have hmem : key r ∈ t.rows.map key ↔ ¬ ∀ r' ∈ t, key r' ≠ key r := by
    simp [mem_def]
  unfold insert
  by_cases h : key r ∈ t.rows.map key
  · simp only [h, ↓reduceDIte, reduceCtorEq, false_iff, not_and]
    intro hn
    exact absurd hn (hmem.mp h)
  · simp only [h, ↓reduceDIte, Option.some.injEq]
    have hn := not_not.mp (fun hc => h (hmem.mpr hc))
    constructor
    · rintro rfl
      exact ⟨hn, rfl⟩
    · rintro ⟨-, hr⟩
      cases t'
      simp only at hr
      subst hr
      rfl

theorem exists_insert {t : Table R} {r : R} (h : ∀ r' ∈ t, key r' ≠ key r) :
    ∃ t', t.insert r = some t' := by
  have hmem : key r ∉ t.rows.map key := by
    simpa [mem_def] using h
  exact ⟨_, dif_neg hmem⟩

theorem exists_fresh_key [Infinite K] (t : Table R) : ∃ k : K, ∀ r ∈ t, key r ≠ k := by
  obtain ⟨k, hk⟩ := Infinite.exists_notMem_finset (t.rows.map key).toFinset
  refine ⟨k, fun r hr hkey => hk ?_⟩
  rw [List.mem_toFinset]
  exact List.mem_map.mpr ⟨r, hr, hkey⟩

theorem mem_insert {t t' : Table R} {r r' : R} (h : t.insert r = some t') :
    r' ∈ t' ↔ r' ∈ t ∨ r' = r := by
  simp [mem_def, (insert_eq_some.mp h).2]

theorem lookup_insert {t t' : Table R} {r : R} (h : t.insert r = some t') (k : K) :
    t'.lookup k = if key r = k then some r else t.lookup k := by
  by_cases hk : key r = k
  · rw [if_pos hk]
    exact lookup_eq_some.mpr ⟨(mem_insert h).mpr (Or.inr rfl), hk⟩
  · rw [if_neg hk]
    cases hl : t.lookup k with
    | none =>
      rw [lookup_eq_none] at hl ⊢
      intro r' hr'
      rcases (mem_insert h).mp hr' with hr' | rfl
      · exact hl r' hr'
      · exact hk
    | some r' =>
      obtain ⟨hr', hkr⟩ := lookup_eq_some.mp hl
      exact lookup_eq_some.mpr ⟨(mem_insert h).mpr (Or.inl hr'), hkr⟩

theorem lookup_updateWhere (t : Table R) (p : R → Bool) (f : R → R)
    (hf : ∀ r, key (f r) = key r) (k : K) :
    (t.updateWhere p f hf).lookup k = (t.lookup k).map fun r => if p r then f r else r := by
  cases hl : t.lookup k with
  | none =>
    rw [lookup_eq_none] at hl
    rw [Option.map_none, lookup_eq_none]
    intro r hr
    obtain ⟨r₀, hr₀, rfl⟩ := mem_updateWhere.mp hr
    by_cases hp : p r₀ <;> simp [hp, hf, hl r₀ hr₀]
  | some r =>
    obtain ⟨hr, rfl⟩ := lookup_eq_some.mp hl
    rw [Option.map_some, lookup_eq_some]
    refine ⟨mem_updateWhere.mpr ⟨r, hr, rfl⟩, ?_⟩
    by_cases hp : p r <;> simp [hp, hf]

theorem lookup_update (t : Table R) (k : K) (f : R → R) (hf : ∀ r, key (f r) = key r) (k' : K) :
    (t.update k f hf).lookup k' = if k' = k then (t.lookup k).map f else t.lookup k' := by
  rw [update, lookup_updateWhere]
  by_cases hk : k' = k
  · subst hk
    rw [if_pos rfl]
    cases hl : t.lookup k' with
    | none => rfl
    | some r => simp [(lookup_eq_some.mp hl).2]
  · rw [if_neg hk]
    cases hl : t.lookup k' with
    | none => rfl
    | some r => simp [(lookup_eq_some.mp hl).2, hk]

theorem lookup_deleteWhere (t : Table R) (q : K → Bool) (k : K) :
    (t.deleteWhere fun r => q (key r)).lookup k = if q k then none else t.lookup k := by
  by_cases hq : q k = true
  · rw [if_pos hq, lookup_eq_none]
    intro r hr hk
    have hkept := (mem_deleteWhere.mp hr).2
    rw [hk, hq] at hkept
    exact absurd hkept (by simp)
  · rw [if_neg hq]
    cases hl : t.lookup k with
    | none =>
      rw [lookup_eq_none] at hl ⊢
      exact fun r hr => hl r (mem_deleteWhere.mp hr).1
    | some r =>
      obtain ⟨hr, hk⟩ := lookup_eq_some.mp hl
      refine lookup_eq_some.mpr ⟨mem_deleteWhere.mpr ⟨hr, ?_⟩, hk⟩
      rw [hk]
      simpa using hq

/-- An update of one row that a second update takes back. -/
theorem updateWhere_update_eq_self {t : Table R} {k : K} {p : R → Bool} {f g : R → R}
    (hf : ∀ r, key (f r) = key r) (hg : ∀ r, key (g r) = key r)
    (hother : ∀ r ∈ t, key r ≠ k → p r = false)
    (hback : ∀ r ∈ t, key r = k → p (f r) = true ∧ g (f r) = r) :
    (t.update k f hf).updateWhere p g hg = t := by
  have hrows : ((t.update k f hf).updateWhere p g hg).rows = t.rows := by
    simp only [update, updateWhere, List.map_map]
    conv_rhs => rw [← List.map_id t.rows]
    apply List.map_congr_left
    intro r hr
    by_cases hk : key r = k
    · obtain ⟨hp, hgf⟩ := hback r hr hk
      simp [hk, hp, hgf]
    · simp [hk, hother r hr hk]
  cases t
  simp only [updateWhere, update] at hrows ⊢
  simp only [hrows]

theorem mem_update {t : Table R} {k : K} {f : R → R} {hf : ∀ r, key (f r) = key r} {r : R} :
    r ∈ t.update k f hf ↔ ∃ r₀ ∈ t, r = if key r₀ = k then f r₀ else r₀ := by
  rw [update, mem_updateWhere]
  simp

/-- A row that has been inserted, after an update of its own. -/
theorem mem_update_insert {t t' : Table R} {r r' : R} (h : t.insert r = some t') {f : R → R}
    {hf : ∀ r, key (f r) = key r} : r' ∈ t'.update (key r) f hf ↔ r' ∈ t ∨ r' = f r := by
  have hfresh := (insert_eq_some.mp h).1
  rw [mem_update]
  constructor
  · rintro ⟨r₀, hr₀, rfl⟩
    rcases (mem_insert h).mp hr₀ with hr₀ | rfl
    · rw [if_neg (hfresh r₀ hr₀)]
      exact Or.inl hr₀
    · rw [if_pos rfl]
      exact Or.inr rfl
  · rintro (hr' | rfl)
    · exact ⟨r', (mem_insert h).mpr (Or.inl hr'), (if_neg (hfresh r' hr')).symm⟩
    · exact ⟨r, (mem_insert h).mpr (Or.inr rfl), (if_pos rfl).symm⟩

end Lookup

/-! ## Rows that stem from earlier rows -/

def RowsFrom (p : R → Prop) (t₀ t : Table R) : Prop :=
  ∀ r ∈ t, p r → ∃ r₀ ∈ t₀, key r₀ = key r ∧ p r₀

section RowsFrom

variable {p : R → Prop} {t₀ t : Table R}

theorem RowsFrom.refl (t : Table R) : RowsFrom p t t := fun r hr hp => ⟨r, hr, rfl, hp⟩

theorem RowsFrom.trans {t' : Table R} (h : RowsFrom p t₀ t) (h' : RowsFrom p t t') :
    RowsFrom p t₀ t' := by
  intro r hr hp
  obtain ⟨r', hr', hk', hp'⟩ := h' r hr hp
  obtain ⟨r₀, hr₀, hk₀, hp₀⟩ := h r' hr' hp'
  exact ⟨r₀, hr₀, hk₀.trans hk', hp₀⟩

theorem RowsFrom.updateWhere {q : R → Bool} {f : R → R}
    (hf : ∀ r, key (f r) = key r ∧ (p (f r) → p r)) :
    RowsFrom p t (t.updateWhere q f fun r => (hf r).1) := by
  intro r hr hpr
  obtain ⟨r₀, hr₀, rfl⟩ := mem_updateWhere.mp hr
  by_cases hq : q r₀ = true
  · rw [if_pos hq] at hpr ⊢
    exact ⟨r₀, hr₀, (hf r₀).1.symm, (hf r₀).2 hpr⟩
  · rw [if_neg hq] at hpr ⊢
    exact ⟨r₀, hr₀, rfl, hpr⟩

theorem RowsFrom.deleteWhere {q : R → Bool} : RowsFrom p t (t.deleteWhere q) :=
  fun r hr hp => ⟨r, (mem_deleteWhere.mp hr).1, rfl, hp⟩

theorem RowsFrom.update [DecidableEq K] {k : K} {f : R → R}
    (hf : ∀ r, key (f r) = key r ∧ (p (f r) → p r)) :
    RowsFrom p t (t.update k f fun r => (hf r).1) :=
  RowsFrom.updateWhere hf

theorem RowsFrom.insert [DecidableEq K] {t' : Table R} {r : R} (hr : ¬ p r)
    (h : t.insert r = some t') : RowsFrom p t t' := by
  intro r' hr' hp
  rcases (mem_insert h).mp hr' with hr' | rfl
  · exact ⟨r', hr', rfl, hp⟩
  · exact absurd hp hr

end RowsFrom

/-! ## Columns that are kept -/

def SameColumn {V : Type*} (col : R → V) (t₀ t : Table R) : Prop :=
  ∀ r ∈ t, ∃ r₀ ∈ t₀, key r₀ = key r ∧ col r₀ = col r

section SameColumn

variable {V : Type*} {col : R → V} {t₀ t : Table R}

theorem SameColumn.refl (t : Table R) : SameColumn col t t := fun r hr => ⟨r, hr, rfl, rfl⟩

theorem SameColumn.trans {t' : Table R} (h : SameColumn col t₀ t) (h' : SameColumn col t t') :
    SameColumn col t₀ t' := by
  intro r hr
  obtain ⟨r', hr', hk', hc'⟩ := h' r hr
  obtain ⟨r₀, hr₀, hk₀, hc₀⟩ := h r' hr'
  exact ⟨r₀, hr₀, hk₀.trans hk', hc₀.trans hc'⟩

theorem SameColumn.updateWhere {q : R → Bool} {f : R → R}
    (hf : ∀ r, key (f r) = key r ∧ col (f r) = col r) :
    SameColumn col t (t.updateWhere q f fun r => (hf r).1) := by
  intro r hr
  obtain ⟨r₀, hr₀, rfl⟩ := mem_updateWhere.mp hr
  refine ⟨r₀, hr₀, ?_⟩
  split
  · exact ⟨(hf r₀).1.symm, (hf r₀).2.symm⟩
  · exact ⟨rfl, rfl⟩

theorem SameColumn.update [DecidableEq K] {k : K} {f : R → R}
    (hf : ∀ r, key (f r) = key r ∧ col (f r) = col r) :
    SameColumn col t (t.update k f fun r => (hf r).1) :=
  SameColumn.updateWhere hf

/-- No row is lost by an update. -/
theorem SameColumn.ofUpdateWhere {q : R → Bool} {f : R → R}
    (hf : ∀ r, key (f r) = key r ∧ col (f r) = col r) :
    SameColumn col (t.updateWhere q f fun r => (hf r).1) t := by
  intro r hr
  refine ⟨_, mem_updateWhere.mpr ⟨r, hr, rfl⟩, ?_⟩
  split
  · exact hf r
  · exact ⟨rfl, rfl⟩

theorem SameColumn.ofUpdate [DecidableEq K] {k : K} {f : R → R}
    (hf : ∀ r, key (f r) = key r ∧ col (f r) = col r) :
    SameColumn col (t.update k f fun r => (hf r).1) t :=
  SameColumn.ofUpdateWhere hf

theorem SameColumn.ofInsert [DecidableEq K] {t' : Table R} {r : R} (h : t.insert r = some t') :
    SameColumn col t' t :=
  fun r' hr' => ⟨r', (mem_insert h).mpr (Or.inl hr'), rfl, rfl⟩

/-- A row is looked up where its predecessor was. -/
theorem SameColumn.lookup [DecidableEq K] {t' : Table R} (h : SameColumn col t t') {k : K} {r : R}
    (hr : t'.lookup k = some r) : ∃ r₀, t.lookup k = some r₀ ∧ col r₀ = col r := by
  obtain ⟨hmem, hk⟩ := lookup_eq_some.mp hr
  obtain ⟨r₀, hr₀, hk₀, hc⟩ := h r hmem
  exact ⟨r₀, lookup_eq_some.mpr ⟨hr₀, hk₀.trans hk⟩, hc⟩

end SameColumn

/-! ## Sums -/

section Sums

variable {M : Type*} [AddCommMonoid M]

@[simp] theorem sumBy_empty (g : R → M) : (empty : Table R).sumBy g = 0 := rfl

theorem sumBy_congr {t : Table R} {g g' : R → M} (h : ∀ r ∈ t, g r = g' r) :
    t.sumBy g = t.sumBy g' := by
  unfold sumBy
  rw [List.map_congr_left h]

theorem sumBy_eq_zero {t : Table R} {g : R → M} (h : ∀ r ∈ t, g r = 0) : t.sumBy g = 0 := by
  apply List.sum_eq_zero
  intro x hx
  obtain ⟨r, hr, rfl⟩ := List.mem_map.mp hx
  exact h r hr

theorem sumBy_insert [DecidableEq K] {t t' : Table R} {r : R} (h : t.insert r = some t')
    (g : R → M) : t'.sumBy g = t.sumBy g + g r := by
  simp [sumBy, (insert_eq_some.mp h).2]

theorem sumBy_updateWhere (t : Table R) (p : R → Bool) (f : R → R)
    (hf : ∀ r, key (f r) = key r) (g : R → M) :
    (t.updateWhere p f hf).sumBy g = t.sumBy fun r => if p r then g (f r) else g r := by
  unfold sumBy updateWhere
  rw [List.map_map]
  congr 1
  apply List.map_congr_left
  intro r _
  by_cases hp : p r <;> simp [hp]

theorem sumBy_deleteWhere (t : Table R) (p : R → Bool) (g : R → M) :
    (t.deleteWhere p).sumBy g = t.sumBy fun r => if p r then 0 else g r := by
  obtain ⟨rows, nodup⟩ := t
  simp only [sumBy, deleteWhere]
  clear nodup
  induction rows with
  | nil => rfl
  | cons r rows ih => by_cases hp : p r <;> simp [hp, ih]

theorem sumBy_single [DecidableEq K] {t : Table R} {r : R} (h : r ∈ t) (g : R → M) :
    (t.sumBy fun r' => if key r' = key r then g r' else 0) = g r := by
  obtain ⟨rows, nodup⟩ := t
  simp only [mem_def] at h
  simp only [sumBy]
  induction rows with
  | nil => cases h
  | cons r' rows ih =>
    rw [List.map_cons, List.nodup_cons] at nodup
    rw [List.map_cons, List.sum_cons]
    rcases List.mem_cons.mp h with rfl | h
    · have hzero : (rows.map fun r' => if key r' = key r then g r' else 0).sum = 0 := by
        apply List.sum_eq_zero
        intro x hx
        obtain ⟨r', hr', rfl⟩ := List.mem_map.mp hx
        rw [if_neg]
        intro hk
        exact nodup.1 (List.mem_map.mpr ⟨r', hr', hk⟩)
      rw [if_pos rfl, hzero, add_zero]
    · have hne : key r' ≠ key r := fun hk => nodup.1 (hk ▸ List.mem_map.mpr ⟨r, h, rfl⟩)
      rw [if_neg hne, zero_add]
      exact ih nodup.2 h

end Sums

/-- A sum of non-negative contributions is not negative. -/
theorem sumBy_nonneg {t : Table R} {g : R → Int} (hg : ∀ r ∈ t, 0 ≤ g r) : 0 ≤ t.sumBy g := by
  apply List.sum_nonneg
  intro x hx
  obtain ⟨r, hr, rfl⟩ := List.mem_map.mp hx
  exact hg r hr

/-- A contribution is at most the sum, if no row contributes less than nothing. -/
theorem le_sumBy {t : Table R} {r : R} (h : r ∈ t) {g : R → Int} (hg : ∀ r ∈ t, 0 ≤ g r) :
    g r ≤ t.sumBy g := by
  have hnn : ∀ x ∈ t.rows.map g, 0 ≤ x := by
    intro x hx
    obtain ⟨r', hr', rfl⟩ := List.mem_map.mp hx
    exact hg r' hr'
  exact List.single_le_sum hnn _ (List.mem_map.mpr ⟨r, h, rfl⟩)

/-! ## Bounds by key -/

section Bounds

variable {S : Type*} [Keyed S K] [DecidableEq K]

/-- At most one row has a given key, so a bound on that row bounds the sum over it. -/
theorem sumBy_key_le_of_le {t : Table R} {k : K} {g : R → Nat} {n : Nat}
    (h : ∀ r ∈ t, key r = k → g r ≤ n) : (t.sumBy fun r => if key r = k then g r else 0) ≤ n := by
  cases hl : t.lookup k with
  | none =>
    have hzero : (t.sumBy fun r => if key r = k then g r else 0) = 0 :=
      sumBy_eq_zero fun r hr => if_neg (lookup_eq_none.mp hl r hr)
    omega
  | some r =>
    obtain ⟨hr, rfl⟩ := lookup_eq_some.mp hl
    rw [sumBy_single hr g]
    exact h r hr rfl

/-- If every row is bounded by the row of the other table with its key, the sum over the keys of
that table is bounded by its sum. -/
theorem sumBy_keys_le {t : Table R} {u : Table S} {g : R → Nat} {h : S → Nat}
    (hle : ∀ r ∈ t, ∀ s ∈ u, key r = key s → g r ≤ h s) :
    (t.sumBy fun r => if key r ∈ u.rows.map key then g r else 0) ≤ u.sumBy h := by
  obtain ⟨rows, nodup⟩ := u
  simp only [mem_def] at hle
  show (t.rows.map fun r => if key r ∈ rows.map key then g r else 0).sum ≤ (rows.map h).sum
  clear nodup
  induction rows with
  | nil => simp
  | cons s rows ih =>
    have hrest := ih fun r hr s' hs' => hle r hr s' (List.mem_cons_of_mem _ hs')
    have hhead : (t.sumBy fun r => if key r = key s then g r else 0) ≤ h s :=
      sumBy_key_le_of_le fun r hr hk => hle r hr s (List.mem_cons_self ..) hk
    have hsplit : (t.rows.map fun r => if key r ∈ (s :: rows).map key then g r else 0).sum ≤
        (t.sumBy fun r => if key r = key s then g r else 0) +
          (t.rows.map fun r => if key r ∈ rows.map key then g r else 0).sum := by
      unfold sumBy
      rw [← List.sum_map_add]
      refine List.sum_le_sum fun r _ => ?_
      by_cases h1 : key r = key s
      · by_cases h2 : key r ∈ rows.map key <;> simp [h1]
      · by_cases h2 : key r ∈ rows.map key
        · have h3 : key r ∈ (s :: rows).map key := List.mem_cons_of_mem _ h2
          simp only [h1, h2, h3, if_true, if_false]
          omega
        · have h3 : key r ∉ (s :: rows).map key := by
            rw [List.map_cons, List.mem_cons]
            exact not_or.mpr ⟨h1, h2⟩
          simp only [h1, h2, h3, if_false]
          omega
    have hsum : ((s :: rows).map h).sum = h s + (rows.map h).sum := List.sum_cons
    omega

end Bounds

/-- Replacing one row replaces its contribution to a sum. -/
theorem sumBy_update_add {M : Type*} [AddCommMonoid M] [DecidableEq K] {t : Table R} {r : R}
    (h : r ∈ t) (f : R → R) (hf : ∀ r, key (f r) = key r) (g : R → M) :
    (t.update (key r) f hf).sumBy g + g r = t.sumBy g + g (f r) := by
  have hadd : ∀ g' : R → M, t.sumBy g + t.sumBy g' = t.sumBy fun r' => g r' + g' r' := by
    intro g'
    unfold sumBy
    rw [← List.sum_map_add]
  have hadd' : ∀ g' : R → M, (t.update (key r) f hf).sumBy g + t.sumBy g' =
      t.sumBy fun r' => (if key r' = key r then g (f r') else g r') + g' r' := by
    intro g'
    rw [update, sumBy_updateWhere]
    unfold sumBy
    rw [← List.sum_map_add]
    simp
  rw [← sumBy_single h g, ← sumBy_single h fun r' => g (f r'), hadd, hadd']
  apply sumBy_congr
  intro r' _
  by_cases hk : key r' = key r
  · rw [if_pos hk, if_pos hk, if_pos hk, add_comm]
  · rw [if_neg hk, if_neg hk, if_neg hk]

/-- Replacing one row changes a sum by the difference of its contributions. -/
theorem sumBy_update [DecidableEq K] {t : Table R} {r : R} (h : r ∈ t) (f : R → R)
    (hf : ∀ r, key (f r) = key r) (g : R → Int) :
    (t.update (key r) f hf).sumBy g = t.sumBy g + (g (f r) - g r) := by
  have hsplit : (t.update (key r) f hf).sumBy g =
      t.sumBy fun r' => g r' + if key r' = key r then g (f r') - g r' else 0 := by
    rw [update, sumBy_updateWhere]
    apply sumBy_congr
    intro r' _
    by_cases hk : key r' = key r <;> simp [hk]
  rw [hsplit]
  have hadd : (t.sumBy fun r' => g r' + if key r' = key r then g (f r') - g r' else 0) =
      t.sumBy g + t.sumBy fun r' => if key r' = key r then g (f r') - g r' else 0 := by
    unfold sumBy
    rw [← List.sum_map_add]
  rw [hadd, sumBy_single h fun r' => g (f r') - g r']

end Table

end Lib
