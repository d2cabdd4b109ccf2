import Mathlib.Data.List.Find
import Mathlib.Data.List.Nodup
import Mathlib.Data.List.Perm.Subperm
import Mathlib.Data.List.Sort

/-!
# The ends of a stable sort

Insertion sort is stable: among elements of one rank it keeps the order of the list. So it puts the
first of the least elements first, and the last of the greatest ones last.
-/

namespace Lib

variable {α : Type*} (r : α → α → Prop) [DecidableRel r]

def isLeast (l : List α) (a : α) : Bool := l.all fun b => decide (r a b)

def isGreatest (l : List α) (a : α) : Bool := l.all fun b => decide (r b a)

def firstOfLeast (l : List α) : Option α := l.find? (isLeast r l)

def lastOfGreatest (l : List α) : Option α := l.reverse.find? (isGreatest r l)

variable {r}

theorem isLeast_iff {l : List α} {a : α} : isLeast r l a = true ↔ ∀ b ∈ l, r a b := by
  simp [isLeast]

theorem isGreatest_iff {l : List α} {a : α} : isGreatest r l a = true ↔ ∀ b ∈ l, r b a := by
  simp [isGreatest]

theorem firstOfLeast_spec {l : List α} {a : α} (h : firstOfLeast r l = some a) :
    a ∈ l ∧ ∀ b ∈ l, r a b :=
  ⟨List.mem_of_find?_eq_some h, isLeast_iff.mp (List.find?_some h)⟩

theorem lastOfGreatest_spec {l : List α} {a : α} (h : lastOfGreatest r l = some a) :
    a ∈ l ∧ ∀ b ∈ l, r b a :=
  ⟨List.mem_reverse.mp (List.mem_of_find?_eq_some h), isGreatest_iff.mp (List.find?_some h)⟩

theorem isLeast_cons (a c : α) (l : List α) :
    isLeast r (a :: l) c = (decide (r c a) && isLeast r l c) := rfl

theorem isGreatest_cons (a c : α) (l : List α) :
    isGreatest r (a :: l) c = (decide (r a c) && isGreatest r l c) := rfl

theorem eq_nil_of_insertionSort {l : List α} (h : l.insertionSort r = []) : l = [] := by
  refine List.eq_nil_of_length_eq_zero ?_
  rw [← List.length_insertionSort r, h, List.length_nil]

variable [Std.Total r] [IsTrans α r]

omit [DecidableRel r] [IsTrans α r] in
theorem rel_of_not_rel {a b : α} (h : ¬ r a b) : r b a := (Std.Total.total a b).resolve_left h

theorem head?_insertionSort (l : List α) : (l.insertionSort r).head? = firstOfLeast r l := by
  induction l with
  | nil => rfl
  | cons a l ih =>
    cases hs : l.insertionSort r with
    | nil =>
      obtain rfl := eq_nil_of_insertionSort hs
      simp [firstOfLeast, isLeast, refl_of r a]
    | cons b t =>
      have hb : firstOfLeast r l = some b := by rw [← ih, hs, List.head?_cons]
      obtain ⟨hmem, hall⟩ := firstOfLeast_spec hb
      rw [List.insertionSort_cons, hs, List.orderedInsert_cons]
      by_cases hab : r a b
      · have hleast : isLeast r (a :: l) a = true := by
          rw [isLeast_cons, Bool.and_eq_true, isLeast_iff]
          exact ⟨decide_eq_true (refl_of r a), fun c hc => trans_of r hab (hall c hc)⟩
        rw [if_pos hab, List.head?_cons, firstOfLeast, List.find?_cons_of_pos hleast]
      · have hnot : ¬ isLeast r (a :: l) a = true := fun h =>
          hab (isLeast_iff.mp h b (List.mem_cons_of_mem a hmem))
        -- what comes before `b` comes before `a`
        have hsame : ∀ c ∈ l, isLeast r (a :: l) c = isLeast r l c := by
          intro c _
          rw [isLeast_cons, Bool.and_eq_right_iff_imp]
          exact fun h =>
            decide_eq_true (trans_of r (isLeast_iff.mp h b hmem) (rel_of_not_rel hab))
        rw [if_neg hab, List.head?_cons, firstOfLeast, List.find?_cons_of_neg hnot,
          List.find?_congr hsame]
        exact hb.symm

theorem getLast?_orderedInsert {a c : α} {s : List α} (hs : s.Pairwise r)
    (hc : s.getLast? = some c) :
    (s.orderedInsert r a).getLast? = if r a c then some c else some a := by
  induction s with
  | nil => cases hc
  | cons b s ih =>
    have hbc : r b c := by
      rcases List.mem_cons.mp (List.mem_of_getLast? hc) with rfl | hmem
      · exact refl_of r c
      · exact (List.pairwise_cons.mp hs).1 c hmem
    rw [List.orderedInsert_cons]
    by_cases hab : r a b
    · rw [if_pos hab, if_pos (trans_of r hab hbc), List.getLast?_cons_cons, hc]
    · rw [if_neg hab]
      cases s with
      | nil =>
        obtain rfl : b = c := Option.some.inj hc
        rw [if_neg hab]
        rfl
      | cons d s =>
        rw [List.getLast?_cons_cons] at hc
        have hrest := ih (List.pairwise_cons.mp hs).2 hc
        cases hins : (d :: s).orderedInsert r a with
        | nil =>
          have hlen := List.orderedInsert_length r (d :: s) a
          rw [hins] at hlen
          cases hlen
        | cons e t =>
          rw [hins] at hrest
          rw [List.getLast?_cons_cons, hrest]

theorem getLast?_insertionSort (l : List α) :
    (l.insertionSort r).getLast? = lastOfGreatest r l := by
  induction l with
  | nil => rfl
  | cons a l ih =>
    cases hc : (l.insertionSort r).getLast? with
    | none =>
      obtain rfl := eq_nil_of_insertionSort (List.getLast?_eq_none_iff.mp hc)
      simp [lastOfGreatest, isGreatest, refl_of r a]
    | some c =>
      have hlast : lastOfGreatest r l = some c := by rw [← ih, hc]
      obtain ⟨hmem, hall⟩ := lastOfGreatest_spec hlast
      rw [List.insertionSort_cons, getLast?_orderedInsert (List.pairwise_insertionSort r l) hc,
        lastOfGreatest, List.reverse_cons, List.find?_append]
      by_cases hac : r a c
      · have hsame : ∀ d ∈ l.reverse, isGreatest r (a :: l) d = isGreatest r l d := by
          intro d _
          rw [isGreatest_cons, Bool.and_eq_right_iff_imp]
          exact fun h => decide_eq_true (trans_of r hac (isGreatest_iff.mp h c hmem))
        rw [if_pos hac, List.find?_congr hsame, ← lastOfGreatest, hlast, Option.some_or]
      · have hnone : l.reverse.find? (isGreatest r (a :: l)) = none := by
          refine List.find?_eq_none.mpr fun d hd h => hac ?_
          rw [isGreatest_iff] at h
          exact trans_of r (h a List.mem_cons_self) (hall d (List.mem_reverse.mp hd))
        have hgreatest : isGreatest r (a :: l) a = true := by
          rw [isGreatest_cons, Bool.and_eq_true, isGreatest_iff]
          exact ⟨decide_eq_true (refl_of r a),
            fun d hd => trans_of r (hall d hd) (rel_of_not_rel hac)⟩
        rw [if_neg hac, hnone, Option.none_or, List.find?_cons_of_pos hgreatest]

omit [Std.Total r] [IsTrans α r] in
/-- Relations that agree on each element and those behind it sort a list alike. -/
theorem insertionSort_congr {s : α → α → Prop} [DecidableRel s] {l : List α}
    (h : l.Pairwise fun a b => (r a b ↔ s a b)) : l.insertionSort r = l.insertionSort s := by
  induction l with
  | nil => rfl
  | cons a l ih =>
    obtain ⟨hhead, htail⟩ := List.pairwise_cons.mp h
    have hinsert : ∀ t : List α, (∀ b ∈ t, (r a b ↔ s a b)) →
        t.orderedInsert r a = t.orderedInsert s a := by
      intro t ht
      induction t with
      | nil => rfl
      | cons b t iht =>
        have hrest := iht fun c hc => ht c (List.mem_cons_of_mem b hc)
        rw [List.orderedInsert_cons, List.orderedInsert_cons, hrest,
          if_congr (ht b List.mem_cons_self) rfl rfl]
    rw [List.insertionSort_cons, List.insertionSort_cons, ← ih htail]
    exact hinsert _ fun b hb => hhead b ((List.mem_insertionSort r).mp hb)

/-- Where no two elements are of one rank, the order of the list does not matter. -/
theorem insertionSort_eq_of_perm {l l' : List α} (h : l.Perm l')
    (hrank : ∀ a ∈ l, ∀ b ∈ l, r a b → r b a → a = b) :
    l.insertionSort r = l'.insertionSort r := by
  have hperm : (l.insertionSort r).Perm (l'.insertionSort r) :=
    ((List.perm_insertionSort r l).trans h).trans (List.perm_insertionSort r l').symm
  refine List.Perm.eq_of_pairwise (fun a b ha hb => ?_) (List.pairwise_insertionSort r l)
    (List.pairwise_insertionSort r l') hperm
  rw [List.mem_insertionSort] at ha hb
  exact hrank a ha b (h.mem_iff.mpr hb)

omit [DecidableRel r] [Std.Total r] [IsTrans α r] in
/-- What comes first with a property in a sorted list comes before all that have it. -/
theorem rel_of_find?_eq_some [Std.Refl r] {p : α → Bool} {l : List α} (h : l.Pairwise r) {a : α}
    (hfind : l.find? p = some a) : ∀ b ∈ l, p b = true → r a b := by
  induction l with
  | nil => cases hfind
  | cons c l ih =>
    obtain ⟨hc, hrest⟩ := List.pairwise_cons.mp h
    intro b hb hpb
    cases hpc : p c with
    | true =>
      rw [List.find?_cons_of_pos hpc] at hfind
      obtain rfl := Option.some.inj hfind
      rcases List.mem_cons.mp hb with rfl | hb
      · exact refl_of r b
      · exact hc b hb
    | false =>
      rw [List.find?_cons_of_neg (by simp [hpc])] at hfind
      rcases List.mem_cons.mp hb with rfl | hb
      · rw [hpc] at hpb
        cases hpb
      · exact ih hrest hfind b hb hpb

/-! ## Insertion between two parts -/

omit [Std.Total r] [IsTrans α r] in
/-- What comes before a second part is inserted into the first. -/
theorem orderedInsert_append_left {a : α} (l : List α) {l' : List α} (h : ∀ b ∈ l', r a b) :
    ∃ u v, l = u ++ v ∧ (l ++ l').orderedInsert r a = u ++ a :: (v ++ l') := by
  induction l with
  | nil =>
    refine ⟨[], [], rfl, ?_⟩
    cases l' with
    | nil => rfl
    | cons b l' => exact List.orderedInsert_cons_of_le r l' (h b List.mem_cons_self)
  | cons b l ih =>
    rw [List.cons_append, List.orderedInsert_cons]
    by_cases hab : r a b
    · exact ⟨[], b :: l, rfl, if_pos hab⟩
    · obtain ⟨u, v, rfl, hinsert⟩ := ih
      exact ⟨b :: u, v, rfl, by rw [if_neg hab, hinsert, List.cons_append]⟩

omit [Std.Total r] [IsTrans α r] in
/-- What does not come before a first part is inserted into the second. -/
theorem orderedInsert_append_right {a : α} {l : List α} (l' : List α) (h : ∀ b ∈ l, ¬ r a b) :
    ∃ u v, l' = u ++ v ∧ (l ++ l').orderedInsert r a = l ++ (u ++ a :: v) := by
  induction l with
  | nil =>
    have hnone : ∀ b ∈ ([] : List α), r a b := fun _ hmem => absurd hmem List.not_mem_nil
    obtain ⟨u, v, hl', hinsert⟩ := orderedInsert_append_left l' hnone
    rw [List.append_nil, List.append_nil] at hinsert
    exact ⟨u, v, hl', hinsert⟩
  | cons b l ih =>
    obtain ⟨u, v, hl', hinsert⟩ := ih fun c hc => h c (List.mem_cons_of_mem b hc)
    refine ⟨u, v, hl', ?_⟩
    rw [List.cons_append, List.orderedInsert_cons, if_neg (h b List.mem_cons_self), hinsert,
      List.cons_append]

end Lib

/-!
## The greatest elements of a list

The `k` greatest elements of a list, in descending order, when no two elements have one rank. They
are unique, and the greatest of a list of parts are the greatest of the greatest of each part.
-/

namespace Lib

variable {α κ : Type*} [LinearOrder κ]

/-- The `k` greatest elements of `l`, or all of a shorter list, in descending order. -/
structure IsTop (f : α → κ) (k : Nat) (l t : List α) : Prop where
  sorted : t.Pairwise fun a b => f b < f a
  subset : t ⊆ l
  length : t.length = min k l.length
  above : ∀ a ∈ l, a ∉ t → ∀ b ∈ t, f a < f b

variable {f : α → κ} {k : Nat} {l t t' : List α}

theorem IsTop.nodup (h : IsTop f k l t) : t.Nodup :=
  h.sorted.imp fun hab heq => absurd (heq ▸ hab) (lt_irrefl _)

/-- Lists that descend strictly are equal if they have the same elements. -/
theorem eq_of_perm_of_descends (ht : t.Pairwise fun a b => f b < f a)
    (ht' : t'.Pairwise fun a b => f b < f a) (hperm : t.Perm t') : t = t' :=
  hperm.eq_of_pairwise (fun _ _ _ _ hab hba => absurd hab (lt_asymm hba)) ht ht'

/-- The greatest elements are unique. -/
theorem IsTop.unique (h : IsTop f k l t) (h' : IsTop f k l t') : t = t' := by
  have hlength : t.length = t'.length := h.length.trans h'.length.symm
  have hsub : t ⊆ t' := by
    intro a ha
    by_contra hnot
    -- some element of `t'` is missing in `t` as well
    have hmissing : ∃ b ∈ t', b ∉ t := by
      by_contra hall
      push Not at hall
      have hperm := List.subperm_of_subset h'.nodup hall
      exact hnot ((hperm.perm_of_length_le hlength.le).mem_iff.mpr ha)
    obtain ⟨b, hb, hbt⟩ := hmissing
    have hab := h'.above a (h.subset ha) hnot b hb
    have hba := h.above b (h'.subset hb) hbt a ha
    exact lt_asymm hab hba
  have hperm := (List.subperm_of_subset h.nodup hsub).perm_of_length_le hlength.ge
  exact eq_of_perm_of_descends h.sorted h'.sorted hperm

theorem isTop_take {s : List α} (hs : s.Pairwise fun a b => f b < f a) (hperm : s.Perm l) :
    IsTop f k l (s.take k) := by
  refine ⟨hs.sublist (List.take_sublist k s), fun a ha => ?_, ?_, fun a ha hnot b hb => ?_⟩
  · exact hperm.mem_iff.mp (List.mem_of_mem_take ha)
  · rw [List.length_take, hperm.length_eq]
  · have hsplit : (s.take k ++ s.drop k).Pairwise fun a b => f b < f a := by
      rwa [List.take_append_drop]
    have ha' : a ∈ s.take k ++ s.drop k := by
      rw [List.take_append_drop]
      exact hperm.mem_iff.mpr ha
    have hdrop := (List.mem_append.mp ha').resolve_left hnot
    exact (List.pairwise_append.mp hsplit).2.2 b hb a hdrop

theorem IsTop.of_min (h : IsTop f (min k l.length) l t) : IsTop f k l t :=
  ⟨h.sorted, h.subset, h.length.trans (by omega), h.above⟩

theorem IsTop.map {g : α → α} (hg : ∀ a, f (g a) = f a) (h : IsTop f k l t) :
    IsTop f k (l.map g) (t.map g) := by
  refine ⟨?_, List.map_subset g h.subset, by simpa using h.length, ?_⟩
  · rw [List.pairwise_map]
    simpa only [hg] using h.sorted
  · intro a ha hnot b hb
    obtain ⟨a', ha', rfl⟩ := List.mem_map.mp ha
    obtain ⟨b', hb', rfl⟩ := List.mem_map.mp hb
    rw [hg, hg]
    exact h.above a' ha' (fun hat => hnot (List.mem_map_of_mem hat)) b' hb'

theorem subperm_flatten {parts tops : List (List α)} (h : List.Forall₂ (IsTop f k) parts tops) :
    tops.flatten.Subperm parts.flatten := by
  induction h with
  | nil => exact List.Subperm.refl _
  | cons hfirst _ ih => exact (List.subperm_of_subset hfirst.nodup hfirst.subset).append ih

/-- Lists that descend weakly, and in which no two elements have one rank, descend. -/
theorem descends_of_distinct (hle : t.Pairwise fun a b => f b ≤ f a)
    (hne : t.Pairwise fun a b => f a ≠ f b) : t.Pairwise fun a b => f b < f a :=
  (hle.and hne).imp fun h => lt_of_le_of_ne h.1 (Ne.symm h.2)

/-- The parts of a list and their greatest elements have as many elements, up to `k`. -/
theorem min_length_flatten {parts tops : List (List α)}
    (h : List.Forall₂ (IsTop f k) parts tops) :
    min k tops.flatten.length = min k parts.flatten.length := by
  induction h with
  | nil => rfl
  | cons hfirst _ ih =>
    have := hfirst.length
    simp only [List.flatten_cons, List.length_append]
    omega

/-- The greatest of all parts are the greatest among the greatest of each part. -/
theorem IsTop.flatten {parts tops : List (List α)} (h : List.Forall₂ (IsTop f k) parts tops)
    (ht : IsTop f k tops.flatten t) : IsTop f k parts.flatten t := by
  have hlength := min_length_flatten h
  have hparts : ∀ a ∈ parts.flatten, ∃ part top, IsTop f k part top ∧ a ∈ part ∧
      ∀ c ∈ top, c ∈ tops.flatten := by
    clear ht hlength
    induction h with
    | nil => intro a ha; cases ha
    | cons hfirst _ ih =>
      intro a ha
      rw [List.flatten_cons, List.mem_append] at ha
      rcases ha with ha | ha
      · exact ⟨_, _, hfirst, ha, fun c hc => List.mem_append_left _ hc⟩
      · obtain ⟨part, top, htop, hpart, hsub⟩ := ih a ha
        exact ⟨part, top, htop, hpart, fun c hc => List.mem_append_right _ (hsub c hc)⟩
  have hsubset := (subperm_flatten h).subset
  refine ⟨ht.sorted, fun a ha => hsubset (ht.subset ha), ht.length.trans hlength, ?_⟩
  intro a ha hnot b hb
  obtain ⟨part, top, htop, hpart, hsub⟩ := hparts a ha
  by_cases hatop : a ∈ top
  · exact ht.above a (hsub a hatop) hnot b hb
  -- the part has `k` elements above `a`; if `b` were not above it, they would be in `t` with `b`
  by_contra hnlt
  have hbelow : ∀ c ∈ top, f b < f c := fun c hc =>
    lt_of_le_of_lt (not_lt.mp hnlt) (htop.above a hpart hatop c hc)
  have hall : b :: top ⊆ t := by
    intro c hc
    rcases List.mem_cons.mp hc with rfl | hc
    · exact hb
    · by_contra hcnot
      exact lt_asymm (ht.above c (hsub c hc) hcnot b hb) (hbelow c hc)
  have hnodup : (b :: top).Nodup :=
    List.nodup_cons.mpr ⟨fun hbtop => lt_irrefl _ (hbelow b hbtop), htop.nodup⟩
  have hcount := (List.subperm_of_subset hnodup hall).length_le
  have hfull : top.length < part.length := by
    have hall' : a :: top ⊆ part := by
      intro c hc
      rcases List.mem_cons.mp hc with rfl | hc
      · exact hpart
      · exact htop.subset hc
    have hnodup' : (a :: top).Nodup := List.nodup_cons.mpr ⟨hatop, htop.nodup⟩
    have hle := (List.subperm_of_subset hnodup' hall').length_le
    rw [List.length_cons] at hle
    omega
  have h1 := htop.length
  have h2 := ht.length
  simp only [List.length_cons] at hcount
  omega

end Lib
