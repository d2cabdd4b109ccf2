import Mathlib.Data.Finset.Card
import Mathlib.Data.List.AList
import Mathlib.Data.List.Basic
import Mathlib.Data.List.Nodup

/-!
# Dictionaries

A dictionary with constant value type, as an association list with unique keys, and the loops that
write or delete many of its entries. The order of the entries is not kept by an insertion, so these
serve for dictionaries that are only looked up, or whose loops do not depend on the order.
-/

namespace Lib

variable {K V : Type*}

abbrev Dict (K V : Type*) := AList fun _ : K => V

namespace Dict

variable [DecidableEq K]

/-- `for k in ks: d[k] = v`. -/
def setAll (d : Dict K V) (ks : List K) (v : V) : Dict K V :=
  ks.foldl (fun d k => d.insert k v) d

/-- `for k in ks: d.pop(k, None)`. -/
def deleteAll (d : Dict K V) (ks : List K) : Dict K V := ks.foldl (fun d k => d.erase k) d

def deleteValue [DecidableEq V] (d : Dict K V) (v : V) : Dict K V :=
  d.keys.foldl (fun d k => if d.lookup k = some v then d.erase k else d) d

theorem lookup_insert_eq (d : Dict K V) (k k' : K) (v : V) :
    (d.insert k v).lookup k' = if k' = k then some v else d.lookup k' := by
  by_cases h : k' = k
  · subst h
    simp
  · rw [AList.lookup_insert_ne h, if_neg h]

theorem lookup_erase_eq (d : Dict K V) (k k' : K) :
    (d.erase k).lookup k' = if k' = k then none else d.lookup k' := by
  by_cases h : k' = k
  · subst h
    simp
  · rw [AList.lookup_erase_ne h, if_neg h]

@[simp] theorem lookup_setAll (d : Dict K V) (ks : List K) (v : V) (k : K) :
    (d.setAll ks v).lookup k = if k ∈ ks then some v else d.lookup k := by
  induction ks generalizing d with
  | nil => simp [setAll]
  | cons k' ks ih =>
    have hstep : d.setAll (k' :: ks) v = Dict.setAll (d.insert k' v) ks v := rfl
    rw [hstep, ih, lookup_insert_eq]
    by_cases hk : k ∈ ks
    · simp [hk]
    · by_cases hkk : k = k' <;> simp [hk, hkk]

@[simp] theorem lookup_deleteAll (d : Dict K V) (ks : List K) (k : K) :
    (d.deleteAll ks).lookup k = if k ∈ ks then none else d.lookup k := by
  induction ks generalizing d with
  | nil => simp [deleteAll]
  | cons k' ks ih =>
    have hstep : d.deleteAll (k' :: ks) = Dict.deleteAll (d.erase k') ks := rfl
    rw [hstep, ih, lookup_erase_eq]
    by_cases hk : k ∈ ks
    · simp [hk]
    · by_cases hkk : k = k' <;> simp [hk, hkk]

theorem lookup_deleteValue_loop [DecidableEq V] (v : V) (ks : List K) (d : Dict K V) (k : K) :
    AList.lookup k (ks.foldl (fun d k => if d.lookup k = some v then d.erase k else d) d) =
      if k ∈ ks ∧ d.lookup k = some v then none else d.lookup k := by
  induction ks generalizing d with
  | nil => simp
  | cons k' ks ih =>
    rw [List.foldl_cons, ih]
    by_cases hv : d.lookup k' = some v
    · rw [if_pos hv, lookup_erase_eq]
      by_cases hkk : k = k'
      · subst hkk
        simp [hv]
      · simp [hkk]
    · rw [if_neg hv]
      by_cases hkk : k = k'
      · subst hkk
        simp [hv]
      · simp [hkk]

@[simp] theorem lookup_deleteValue [DecidableEq V] (d : Dict K V) (v : V) (k : K) :
    (d.deleteValue v).lookup k = if d.lookup k = some v then none else d.lookup k := by
  rw [deleteValue, lookup_deleteValue_loop]
  by_cases hv : d.lookup k = some v
  · have hk : k ∈ d.keys := by
      rw [← AList.mem_keys, ← AList.lookup_isSome, hv]
      rfl
    simp [hv, hk]
  · simp [hv]

/-! ## Writing entries -/

/-- `for k, v in entries: d[k] = v`. -/
def writeAll (d : Dict K V) (entries : List (K × V)) : Dict K V :=
  entries.foldl (fun d e => d.insert e.1 e.2) d

@[simp] theorem writeAll_nil (d : Dict K V) : writeAll d [] = d := rfl

theorem writeAll_cons (d : Dict K V) (e : K × V) (entries : List (K × V)) :
    writeAll d (e :: entries) = writeAll (d.insert e.1 e.2) entries := rfl

theorem mem_writeAll {d : Dict K V} {entries : List (K × V)} {k : K} :
    k ∈ writeAll d entries ↔ k ∈ d ∨ k ∈ entries.map Prod.fst := by
  induction entries generalizing d with
  | nil => simp
  | cons e entries ih =>
    rw [writeAll_cons, ih, AList.mem_insert, List.map_cons, List.mem_cons]
    tauto

theorem lookup_writeAll_of_notMem {d : Dict K V} {entries : List (K × V)} {k : K}
    (h : k ∉ entries.map Prod.fst) : (writeAll d entries).lookup k = d.lookup k := by
  induction entries generalizing d with
  | nil => rfl
  | cons e entries ih =>
    rw [List.map_cons, List.mem_cons, not_or] at h
    rw [writeAll_cons, ih h.2, AList.lookup_insert_ne h.1]

/-- Where no key is written twice, each entry is kept. -/
theorem lookup_writeAll_of_nodup {d : Dict K V} {entries : List (K × V)}
    (h : (entries.map Prod.fst).Nodup) {e : K × V} (he : e ∈ entries) :
    (writeAll d entries).lookup e.1 = some e.2 := by
  induction entries generalizing d with
  | nil => cases he
  | cons e' entries ih =>
    rw [List.map_cons, List.nodup_cons] at h
    rw [writeAll_cons]
    rcases List.mem_cons.mp he with rfl | he
    · rw [lookup_writeAll_of_notMem h.1, AList.lookup_insert]
    · exact ih h.2 he

/-- Entries that agree on each key are kept, however often they are written. -/
theorem lookup_writeAll_of_agree {d : Dict K V} {entries : List (K × V)} {value : K → Option V}
    (h : ∀ e ∈ entries, value e.1 = some e.2) {k : K} (hk : k ∈ entries.map Prod.fst) :
    (writeAll d entries).lookup k = value k := by
  induction entries generalizing d with
  | nil => cases hk
  | cons e entries ih =>
    rw [writeAll_cons]
    by_cases hlater : k ∈ entries.map Prod.fst
    · exact ih (fun e' he' => h e' (List.mem_cons_of_mem e he')) hlater
    · obtain rfl : k = e.1 := (List.mem_cons.mp hk).resolve_right hlater
      rw [lookup_writeAll_of_notMem hlater, AList.lookup_insert, h e List.mem_cons_self]

/-! ## Accumulating entries -/

section Accumulate

variable {W : Type*} (f : V → W → V) (init : V)

/-- `for k, w in entries: d[k] = f(d.setdefault(k, init), w)`. -/
def accumulate (d : Dict K V) (entries : List (K × W)) : Dict K V :=
  entries.foldl (fun d e => d.insert e.1 (f ((d.lookup e.1).getD init) e.2)) d

@[simp] theorem accumulate_nil (d : Dict K V) : accumulate f init d ([] : List (K × W)) = d := rfl

theorem accumulate_append (d : Dict K V) (entries entries' : List (K × W)) :
    accumulate f init d (entries ++ entries') =
      accumulate f init (accumulate f init d entries) entries' :=
  List.foldl_append

theorem lookup_accumulate (d : Dict K V) (entries : List (K × W)) (k : K) :
    (accumulate f init d entries).lookup k =
      (entries.filter fun e => e.1 = k).foldl (fun v e => some (f (v.getD init) e.2))
        (d.lookup k) := by
  induction entries generalizing d with
  | nil => simp
  | cons e entries ih =>
    have hstep : accumulate f init d (e :: entries) =
        accumulate f init (d.insert e.1 (f ((d.lookup e.1).getD init) e.2)) entries := rfl
    rw [hstep, ih, lookup_insert_eq]
    by_cases hk : e.1 = k
    · subst hk
      simp
    · simp [hk, Ne.symm hk]

/-- The order of the entries does not matter where `f` does not mind it. -/
theorem lookup_accumulate_perm [RightCommutative f] (d : Dict K V) {entries entries' : List (K × W)}
    (h : entries.Perm entries') (k : K) :
    (accumulate f init d entries).lookup k = (accumulate f init d entries').lookup k := by
  rw [lookup_accumulate, lookup_accumulate]
  refine (h.filter _).foldl_eq' (fun x _ y _ v => ?_) _
  exact congrArg some (RightCommutative.right_comm (v.getD init) x.2 y.2)

end Accumulate

/-! ## Counting entries -/

def countValue [DecidableEq V] (d : Dict K V) (v : V) : Nat :=
  (d.keys.filter fun k => d.lookup k = some v).length

theorem mem_iff_lookup {d : Dict K V} {k : K} : k ∈ d ↔ ∃ v, d.lookup k = some v := by
  rw [← AList.lookup_isSome, Option.isSome_iff_exists]

/-- A list without duplicates is at most one longer than another that has all but one of its
elements. -/
theorem length_le_succ_of_subset {xs ys : List K} (hnodup : xs.Nodup) {k : K}
    (h : ∀ x ∈ xs, x ≠ k → x ∈ ys) : xs.length ≤ ys.length + 1 := by
  have hsub : xs.toFinset ⊆ insert k ys.toFinset := by
    intro x hx
    rw [List.mem_toFinset] at hx
    by_cases hk : x = k
    · exact Finset.mem_insert.mpr (Or.inl hk)
    · exact Finset.mem_insert.mpr (Or.inr (List.mem_toFinset.mpr (h x hx hk)))
  calc xs.length = xs.toFinset.card := (List.toFinset_card_of_nodup hnodup).symm
    _ ≤ (insert k ys.toFinset).card := Finset.card_le_card hsub
    _ ≤ ys.toFinset.card + 1 := Finset.card_insert_le ..
    _ ≤ ys.length + 1 := Nat.add_le_add_right (List.toFinset_card_le ys) 1

/-- Two dictionaries that agree but for one key differ by at most one in length. -/
theorem length_keys_le_succ {d d' : Dict K V} {k : K}
    (h : ∀ k', k' ≠ k → d'.lookup k' = d.lookup k') : d'.keys.length ≤ d.keys.length + 1 := by
  refine length_le_succ_of_subset d'.keys_nodup (k := k) fun k' hk' hne => ?_
  rw [← AList.mem_keys, mem_iff_lookup] at hk' ⊢
  rwa [← h k' hne]

/-- Two dictionaries that agree but for one key differ by at most one in how often a value
occurs. -/
theorem countValue_le_succ [DecidableEq V] {d d' : Dict K V} {k : K} (v : V)
    (h : ∀ k', k' ≠ k → d'.lookup k' = d.lookup k') : d'.countValue v ≤ d.countValue v + 1 := by
  refine length_le_succ_of_subset (d'.keys_nodup.filter _) (k := k) fun k' hk' hne => ?_
  obtain ⟨-, hv⟩ := List.mem_filter.mp hk'
  have hv' : d.lookup k' = some v := by
    rw [← h k' hne]
    simpa using hv
  rw [List.mem_filter, ← AList.mem_keys, mem_iff_lookup]
  exact ⟨⟨v, hv'⟩, by simpa using hv'⟩

end Dict

end Lib

/-!
## Ordered dictionaries

A dictionary that remembers the order in which its keys were first written, as Python's `dict`.
-/

namespace Lib

structure OrderedDict (K V : Type) where
  items : List (K × V)
  nodup : (items.map Prod.fst).Nodup

namespace OrderedDict

variable {K V : Type}

/-- A dictionary without items. -/
def empty : OrderedDict K V := ⟨[], List.nodup_nil⟩

def length (d : OrderedDict K V) : Nat := d.items.length

/-- The items that satisfy a test. -/
def filter (d : OrderedDict K V) (p : K × V → Bool) : OrderedDict K V :=
  ⟨d.items.filter p, (List.filter_sublist.map Prod.fst).nodup d.nodup⟩

theorem mem_filter {d : OrderedDict K V} {p : K × V → Bool} {item : K × V} :
    item ∈ (d.filter p).items ↔ item ∈ d.items ∧ p item = true := List.mem_filter

theorem nodup_append {items : List (K × V)} {k : K} {v : V} (h : (items.map Prod.fst).Nodup)
    (hk : k ∉ items.map Prod.fst) : ((items ++ [(k, v)]).map Prod.fst).Nodup := by
  rw [List.map_append, List.nodup_append]
  refine ⟨h, List.nodup_singleton _, fun a ha b hb => ?_⟩
  rw [List.map_singleton, List.mem_singleton] at hb
  rintro rfl
  obtain rfl : a = k := hb
  exact hk ha

variable [DecidableEq K]

/-- `d.get(k)`. -/
def get? (d : OrderedDict K V) (k : K) : Option V := d.items.lookup k

/-- `del d[k]`. -/
def erase (d : OrderedDict K V) (k : K) : OrderedDict K V := d.filter fun item => item.1 ≠ k

theorem map_fst_replace (items : List (K × V)) (k : K) (v : V) :
    (items.map fun item => if item.1 = k then (k, v) else item).map Prod.fst =
      items.map Prod.fst := by
  rw [List.map_map]
  refine List.map_congr_left fun item _ => ?_
  by_cases h : item.1 = k
  · simp [h]
  · simp [h]

/-- `d[k] = v`: a key that is there keeps its place. -/
def set (d : OrderedDict K V) (k : K) (v : V) : OrderedDict K V :=
  if h : k ∈ d.items.map Prod.fst then
    ⟨d.items.map fun item => if item.1 = k then (k, v) else item,
      (map_fst_replace d.items k v).symm ▸ d.nodup⟩
  else ⟨d.items ++ [(k, v)], nodup_append d.nodup h⟩

theorem get?_eq_some {d : OrderedDict K V} {k : K} {v : V} :
    d.get? k = some v ↔ (k, v) ∈ d.items := by
  obtain ⟨items, hnodup⟩ := d
  rw [get?]
  induction items with
  | nil => simp
  | cons item items ih =>
    obtain ⟨a, b⟩ := item
    rw [List.map_cons, List.nodup_cons] at hnodup
    by_cases ha : k = a
    · subst ha
      rw [List.lookup_cons_self, List.mem_cons]
      constructor
      · intro h
        exact Or.inl (by rw [Option.some.inj h])
      · rintro (h | h)
        · rw [(Prod.mk.inj h).2]
        · exact absurd (List.mem_map_of_mem h) hnodup.1
    · rw [List.lookup_cons, beq_false_of_ne ha]
      dsimp only
      rw [ih hnodup.2, List.mem_cons, Prod.mk.injEq]
      exact ⟨Or.inr, fun h => h.elim (fun h => absurd h.1 ha) id⟩

/-- After a write the key has the new value, and every other item is what it was. -/
theorem mem_set {d : OrderedDict K V} {k : K} {v : V} {item : K × V} :
    item ∈ (d.set k v).items ↔ item = (k, v) ∨ (item ∈ d.items ∧ item.1 ≠ k) := by
  unfold set
  by_cases h : k ∈ d.items.map Prod.fst
  · rw [dif_pos h]
    constructor
    · intro hitem
      obtain ⟨old, hold, rfl⟩ := List.mem_map.mp hitem
      by_cases hk : old.1 = k
      · rw [if_pos hk]
        exact Or.inl rfl
      · rw [if_neg hk]
        exact Or.inr ⟨hold, hk⟩
    · rintro (rfl | ⟨hitem, hk⟩)
      · obtain ⟨old, hold, hk⟩ := List.mem_map.mp h
        exact List.mem_map.mpr ⟨old, hold, if_pos hk⟩
      · exact List.mem_map.mpr ⟨item, hitem, if_neg hk⟩
  · rw [dif_neg h, List.mem_append, List.mem_singleton]
    constructor
    · rintro (hitem | hitem)
      · exact Or.inr ⟨hitem, fun hk => h (hk ▸ List.mem_map_of_mem hitem)⟩
      · exact Or.inl hitem
    · rintro (hitem | ⟨hitem, -⟩)
      · exact Or.inr hitem
      · exact Or.inl hitem

/-- Erasing an item takes one from the items of every kind to which it belongs. -/
theorem length_filter_erase {d : OrderedDict K V} {p : K × V → Bool} {item : K × V}
    (hitem : item ∈ d.items) (hp : p item = true) :
    ((d.erase item.1).filter p).length + 1 = (d.filter p).length := by
  obtain ⟨items, hnodup⟩ := d
  simp only [length, erase, filter]
  induction items with
  | nil => cases hitem
  | cons other items ih =>
    rw [List.map_cons, List.nodup_cons] at hnodup
    rcases List.mem_cons.mp hitem with rfl | hmem
    · have hrest : items.filter (fun other => decide (other.1 ≠ item.1)) = items := by
        refine List.filter_eq_self.mpr fun other hother => ?_
        rw [decide_eq_true_eq]
        intro hsame
        exact hnodup.1 (hsame ▸ List.mem_map_of_mem hother)
      rw [List.filter_cons_of_neg (by simp), hrest, List.filter_cons_of_pos hp, List.length_cons]
    · have hne : other.1 ≠ item.1 := fun hsame => hnodup.1 (hsame ▸ List.mem_map_of_mem hmem)
      have hless := ih hnodup.2 hmem
      rw [List.filter_cons_of_pos (by simpa using hne)]
      by_cases hother : p other = true
      · rw [List.filter_cons_of_pos hother, List.filter_cons_of_pos hother, List.length_cons,
          List.length_cons, hless]
      · rw [List.filter_cons_of_neg hother, List.filter_cons_of_neg hother, hless]

/-- A write leaves the items of a kind that are not of its key, and adds its own. -/
theorem length_filter_set {d : OrderedDict K V} {p : K × V → Bool} {k : K} {v : V} :
    ((d.set k v).filter p).length =
      ((d.erase k).filter p).length + if p (k, v) = true then 1 else 0 := by
  obtain ⟨items, hnodup⟩ := d
  unfold set
  by_cases h : k ∈ items.map Prod.fst
  · rw [dif_pos h]
    simp only [length, erase, filter]
    induction items with
    | nil => cases h
    | cons item items ih =>
      rw [List.map_cons, List.nodup_cons] at hnodup
      rw [List.map_cons]
      by_cases hk : item.1 = k
      · have habsent : ∀ other ∈ items, other.1 ≠ k := fun other hother hsame =>
          hnodup.1 (hk ▸ hsame ▸ List.mem_map_of_mem hother)
        have hrest : (items.map fun item => if item.1 = k then (k, v) else item) = items := by
          refine (List.map_congr_left fun other hother => ?_).trans (List.map_id items)
          rw [if_neg (habsent other hother)]
          rfl
        have hkept : items.filter (fun item => decide (item.1 ≠ k)) = items :=
          List.filter_eq_self.mpr fun other hother => by simpa using habsent other hother
        have hhead : (item :: items).filter (fun item => decide (item.1 ≠ k)) = items := by
          rw [List.filter_cons_of_neg (by simp [hk]), hkept]
        rw [if_pos hk, hrest, hhead, List.filter_cons]
        by_cases hp : p (k, v) = true
        · rw [if_pos hp, if_pos hp, List.length_cons]
        · rw [if_neg hp, if_neg hp, Nat.add_zero]
      · have hmem : k ∈ items.map Prod.fst := by
          rcases List.mem_cons.mp h with hsame | hmem
          · exact absurd hsame.symm hk
          · exact hmem
        have hrest := ih hnodup.2 hmem
        have hhead : (item :: items).filter (fun item => decide (item.1 ≠ k)) =
            item :: items.filter fun item => decide (item.1 ≠ k) :=
          List.filter_cons_of_pos (by simpa using hk)
        rw [if_neg hk, hhead, List.filter_cons, List.filter_cons]
        by_cases hp : p item = true
        · rw [if_pos hp, if_pos hp, List.length_cons, List.length_cons, hrest]
          omega
        · rw [if_neg hp, if_neg hp, hrest]
  · rw [dif_neg h]
    simp only [length, erase, filter]
    have hkept : items.filter (fun item => decide (item.1 ≠ k)) = items :=
      List.filter_eq_self.mpr fun other hother => by
        simpa using fun hsame : other.1 = k => h (hsame ▸ List.mem_map_of_mem hother)
    rw [hkept, List.filter_append, List.length_append]
    by_cases hp : p (k, v) = true
    · rw [if_pos hp, List.filter_cons_of_pos hp, List.filter_nil, List.length_singleton]
    · rw [if_neg hp, List.filter_cons_of_neg hp, List.filter_nil, List.length_nil]

end OrderedDict

end Lib
