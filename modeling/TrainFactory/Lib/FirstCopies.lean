import Mathlib.Data.List.Nodup
import Mathlib.Data.List.Basic

/-!
# First copies

The entries of a list whose key occurs for the first time: the result of a scan that remembers the
keys it has seen. A relation in the place of the keys tells which entries copy an earlier one.
-/

namespace Lib

variable {α κ : Type*} [DecidableEq κ]

/-- The entries of `xs` whose key is not in `seen` and does not occur before them. -/
def firstCopiesFrom (key : α → κ) : List κ → List α → List α
  | _, [] => []
  | seen, x :: xs =>
    if key x ∈ seen then firstCopiesFrom key seen xs
    else x :: firstCopiesFrom key (seen ++ [key x]) xs

def firstCopies (key : α → κ) (xs : List α) : List α := firstCopiesFrom key [] xs

variable {key : α → κ}

theorem firstCopiesFrom_sublist (seen : List κ) (xs : List α) :
    (firstCopiesFrom key seen xs).Sublist xs := by
  induction xs generalizing seen with
  | nil => exact List.Sublist.slnil
  | cons x xs ih =>
    unfold firstCopiesFrom
    split
    · exact (ih seen).cons x
    · exact (ih _).cons_cons x

theorem firstCopiesFrom_key {seen : List κ} {xs : List α} {x : α}
    (h : x ∈ firstCopiesFrom key seen xs) : key x ∉ seen := by
  induction xs generalizing seen with
  | nil => cases h
  | cons y ys ih =>
    unfold firstCopiesFrom at h
    split at h
    · exact ih h
    · rename_i hy
      rcases List.mem_cons.mp h with rfl | h
      · exact hy
      · have := ih h
        exact fun hx => this (List.mem_append.mpr (Or.inl hx))

theorem firstCopiesFrom_nodup (seen : List κ) (xs : List α) :
    ((firstCopiesFrom key seen xs).map key).Nodup := by
  induction xs generalizing seen with
  | nil => exact List.nodup_nil
  | cons x xs ih =>
    unfold firstCopiesFrom
    split
    · exact ih seen
    · rw [List.map_cons, List.nodup_cons]
      refine ⟨?_, ih _⟩
      intro hx
      obtain ⟨y, hy, hk⟩ := List.mem_map.mp hx
      have hnew := firstCopiesFrom_key hy
      rw [hk] at hnew
      exact hnew (List.mem_append.mpr (Or.inr (List.mem_singleton.mpr rfl)))

theorem key_mem_firstCopiesFrom (seen : List κ) {xs : List α} {x : α} (h : x ∈ xs) :
    key x ∈ seen ∨ key x ∈ (firstCopiesFrom key seen xs).map key := by
  induction xs generalizing seen with
  | nil => cases h
  | cons y ys ih =>
    unfold firstCopiesFrom
    split
    · rename_i hy
      rcases List.mem_cons.mp h with rfl | h
      · exact Or.inl hy
      · exact ih seen h
    · rw [List.map_cons, List.mem_cons]
      rcases List.mem_cons.mp h with rfl | h
      · exact Or.inr (Or.inl rfl)
      · rcases ih (seen ++ [key y]) h with hseen | hcopy
        · rcases List.mem_append.mp hseen with hseen | hy
          · exact Or.inl hseen
          · exact Or.inr (Or.inl (List.mem_singleton.mp hy))
        · exact Or.inr (Or.inr hcopy)

theorem mem_of_mem_firstCopies {xs : List α} {x : α} (h : x ∈ firstCopies key xs) : x ∈ xs :=
  (firstCopiesFrom_sublist [] xs).subset h

theorem firstCopies_nodup (xs : List α) : ((firstCopies key xs).map key).Nodup :=
  firstCopiesFrom_nodup [] xs

/-! ## Scans of scans -/

theorem firstCopiesFrom_append (seen : List κ) (xs ys : List α) :
    firstCopiesFrom key seen (xs ++ ys) = firstCopiesFrom key seen xs ++
      firstCopiesFrom key (seen ++ (firstCopiesFrom key seen xs).map key) ys := by
  induction xs generalizing seen with
  | nil => simp [firstCopiesFrom]
  | cons x xs ih =>
    rw [List.cons_append, firstCopiesFrom, firstCopiesFrom]
    split
    · exact ih seen
    · rw [ih, List.cons_append, List.map_cons, List.append_assoc]
      rfl

/-- Entries with keys of their own are kept. -/
theorem firstCopiesFrom_eq_self {seen : List κ} {xs : List α} (hnodup : (xs.map key).Nodup)
    (hfresh : ∀ x ∈ xs, key x ∉ seen) : firstCopiesFrom key seen xs = xs := by
  induction xs generalizing seen with
  | nil => rfl
  | cons x xs ih =>
    rw [List.map_cons, List.nodup_cons] at hnodup
    rw [firstCopiesFrom, if_neg (hfresh x (List.mem_cons_self ..)), ih hnodup.2 fun y hy hmem => ?_]
    rcases List.mem_append.mp hmem with hmem | hmem
    · exact hfresh y (List.mem_cons_of_mem _ hy) hmem
    · exact hnodup.1 (List.mem_singleton.mp hmem ▸ List.mem_map_of_mem hy)

/-- A scan that has seen less before another one takes nothing from it. -/
theorem firstCopiesFrom_firstCopiesFrom {seen seen' : List κ} (h : ∀ k ∈ seen, k ∈ seen')
    (xs : List α) :
    firstCopiesFrom key seen' (firstCopiesFrom key seen xs) = firstCopiesFrom key seen' xs := by
  induction xs generalizing seen seen' with
  | nil => rfl
  | cons x xs ih =>
    by_cases hx : key x ∈ seen
    · rw [firstCopiesFrom, if_pos hx, ih h, firstCopiesFrom.eq_2, if_pos (h _ hx)]
    · rw [firstCopiesFrom.eq_2 key seen, if_neg hx, firstCopiesFrom, firstCopiesFrom.eq_2]
      split
      · next hx' =>
        refine ih fun k hk => ?_
        rcases List.mem_append.mp hk with hk | hk
        · exact h k hk
        · exact List.mem_singleton.mp hk ▸ hx'
      · rw [ih fun k hk => ?_]
        rcases List.mem_append.mp hk with hk | hk
        · exact List.mem_append_left _ (h k hk)
        · exact List.mem_append_right _ hk

theorem firstCopiesFrom_congr {seen seen' : List κ} (h : ∀ k, k ∈ seen ↔ k ∈ seen') (xs : List α) :
    firstCopiesFrom key seen xs = firstCopiesFrom key seen' xs := by
  induction xs generalizing seen seen' with
  | nil => rfl
  | cons x xs ih =>
    have hnext : ∀ k, k ∈ seen ++ [key x] ↔ k ∈ seen' ++ [key x] := fun k => by
      rw [List.mem_append, List.mem_append, h]
    rw [firstCopiesFrom, firstCopiesFrom, ih h, ih hnext]
    simp only [h]

/-- Entries whose keys have been seen are left out. -/
theorem firstCopiesFrom_eq_nil {seen : List κ} {xs : List α} (h : ∀ x ∈ xs, key x ∈ seen) :
    firstCopiesFrom key seen xs = [] := by
  induction xs with
  | nil => rfl
  | cons x xs ih =>
    rw [firstCopiesFrom, if_pos (h x (List.mem_cons_self ..))]
    exact ih fun y hy => h y (List.mem_cons_of_mem _ hy)

/-- Entries whose keys have been seen can be left out before. -/
theorem firstCopiesFrom_filter {seen : List κ} {p : α → Bool} {xs : List α}
    (h : ∀ x ∈ xs, p x = false → key x ∈ seen) :
    firstCopiesFrom key seen (xs.filter p) = firstCopiesFrom key seen xs := by
  induction xs generalizing seen with
  | nil => rfl
  | cons x xs ih =>
    have hrest := fun y hy => h y (List.mem_cons_of_mem x hy)
    cases hp : p x with
    | false =>
      rw [List.filter_cons_of_neg (by rw [hp]; exact Bool.false_ne_true), ih hrest,
        firstCopiesFrom, if_pos (h x (List.mem_cons_self ..) hp)]
    | true =>
      rw [List.filter_cons_of_pos hp, firstCopiesFrom, firstCopiesFrom, ih hrest, ih fun y hy hpy =>
        List.mem_append_left _ (hrest y hy hpy)]

theorem firstCopiesFrom_map {β : Type*} (f : β → α) (seen : List κ) (xs : List β) :
    firstCopiesFrom key seen (xs.map f) = (firstCopiesFrom (fun x => key (f x)) seen xs).map f := by
  induction xs generalizing seen with
  | nil => rfl
  | cons x xs ih =>
    rw [List.map_cons, firstCopiesFrom, firstCopiesFrom]
    split
    · exact ih seen
    · rw [List.map_cons, ih]

/-- A second scan changes nothing. -/
theorem firstCopies_idem (xs : List α) : firstCopies key (firstCopies key xs) = firstCopies key xs :=
  firstCopiesFrom_eq_self (firstCopies_nodup xs) fun _ _ => List.not_mem_nil

theorem firstCopies_append (xs ys : List α) :
    firstCopies key (firstCopies key xs ++ firstCopies key ys) = firstCopies key (xs ++ ys) := by
  have hidem := @firstCopies_idem α κ _ key xs
  have hnone : ∀ k ∈ ([] : List κ), k ∈ [] ++ (firstCopiesFrom key [] xs).map key :=
    fun k hk => nomatch hk
  unfold firstCopies at hidem ⊢
  rw [firstCopiesFrom_append, hidem, firstCopiesFrom_append, firstCopiesFrom_firstCopiesFrom hnone]

/-! ## Copies by a relation -/

/-- The entries of `xs` that copy none of `before` and none of those before them. -/
def withoutCopiesFrom (same : α → α → Bool) : List α → List α → List α
  | _, [] => []
  | before, x :: xs =>
    if before.any fun y => same y x then withoutCopiesFrom same (before ++ [x]) xs
    else x :: withoutCopiesFrom same (before ++ [x]) xs

/-- The entries that copy no earlier one. -/
def withoutCopies (same : α → α → Bool) (xs : List α) : List α := withoutCopiesFrom same [] xs

theorem firstCopiesFrom_eq_withoutCopiesFrom {seen : List κ} {before : List α}
    (h : ∀ k, k ∈ seen ↔ k ∈ before.map key) (xs : List α) :
    firstCopiesFrom key seen xs = withoutCopiesFrom (fun y x => key y = key x) before xs := by
  induction xs generalizing seen before with
  | nil => rfl
  | cons x xs ih =>
    have hany : (before.any fun y => key y = key x) = true ↔ key x ∈ seen := by
      rw [h, List.any_eq_true, List.mem_map]
      simp
    rw [firstCopiesFrom, withoutCopiesFrom]
    by_cases hx : key x ∈ seen
    · rw [if_pos hx, if_pos (hany.mpr hx)]
      refine ih fun k => ?_
      rw [List.map_append, List.mem_append, h]
      refine ⟨Or.inl, fun hk => hk.elim id fun hk => ?_⟩
      rw [List.mem_singleton.mp hk]
      exact (h _).mp hx
    · rw [if_neg hx, if_neg (hany.not.mpr hx)]
      refine congrArg _ (ih fun k => ?_)
      rw [List.map_append, List.mem_append, List.mem_append, h]
      rfl

theorem firstCopies_eq_withoutCopies (xs : List α) :
    firstCopies key xs = withoutCopies (fun y x => key y = key x) xs :=
  firstCopiesFrom_eq_withoutCopiesFrom (fun k => by simp) xs

section Relations

variable {same same' : α → α → Bool}

/-- What copies more is left out more often. -/
theorem length_withoutCopiesFrom_le (himp : ∀ y x, same y x = true → same' y x = true)
    (before xs : List α) :
    (withoutCopiesFrom same' before xs).length ≤ (withoutCopiesFrom same before xs).length := by
  induction xs generalizing before with
  | nil => exact Nat.le_refl _
  | cons x xs ih =>
    have hrest := ih (before ++ [x])
    unfold withoutCopiesFrom
    split
    · split
      · exact hrest
      · exact Nat.le_trans hrest (Nat.le_succ _)
    · next hno =>
      have hno' : ¬ (before.any fun y => same y x) = true := by
        intro hany
        obtain ⟨y, hy, hsame⟩ := List.any_eq_true.mp hany
        exact hno (List.any_eq_true.mpr ⟨y, hy, himp y x hsame⟩)
      rw [if_neg hno']
      exact Nat.succ_le_succ hrest

theorem withoutCopiesFrom_eq_iff (himp : ∀ y x, same y x = true → same' y x = true)
    (before xs : List α) :
    withoutCopiesFrom same' before xs = withoutCopiesFrom same before xs ↔
      ∀ pre x post, xs = pre ++ x :: post → ∀ y ∈ before ++ pre, same' y x = true →
        ∃ y ∈ before ++ pre, same y x = true := by
  induction xs generalizing before with
  | nil => exact iff_of_true rfl fun pre x post h => by simp at h
  | cons x xs ih =>
    -- the first entry, and the entries after it
    have hsplit : (∀ pre z post, x :: xs = pre ++ z :: post → ∀ y ∈ before ++ pre,
        same' y z = true → ∃ y ∈ before ++ pre, same y z = true) ↔
          (∀ y ∈ before, same' y x = true → ∃ y ∈ before, same y x = true) ∧
            ∀ pre z post, xs = pre ++ z :: post → ∀ y ∈ before ++ [x] ++ pre,
              same' y z = true → ∃ y ∈ before ++ [x] ++ pre, same y z = true := by
      constructor
      · intro h
        refine ⟨by simpa using h [] x xs rfl, fun pre z post heq => ?_⟩
        have hz := h (x :: pre) z post (by rw [heq, List.cons_append])
        rwa [List.append_assoc, List.singleton_append]
      · rintro ⟨hx, hrest⟩ pre z post heq
        cases pre with
        | nil =>
          obtain ⟨rfl, rfl⟩ := List.cons.inj heq
          simpa using hx
        | cons x' pre =>
          obtain ⟨rfl, htail⟩ := List.cons.inj heq
          have hz := hrest pre z post htail
          rwa [List.append_assoc, List.singleton_append] at hz
    rw [hsplit, ← ih (before ++ [x]), withoutCopiesFrom, withoutCopiesFrom]
    by_cases hany : (before.any fun y => same y x) = true
    · obtain ⟨y, hy, hsame⟩ := List.any_eq_true.mp hany
      rw [if_pos (List.any_eq_true.mpr ⟨y, hy, himp y x hsame⟩), if_pos hany]
      exact ⟨fun h => ⟨fun _ _ _ => ⟨y, hy, hsame⟩, h⟩, And.right⟩
    · have hnone : ¬ ∃ y ∈ before, same y x = true := by rwa [List.any_eq_true] at hany
      rw [if_neg hany]
      by_cases hany' : (before.any fun y => same' y x) = true
      · rw [if_pos hany']
        refine iff_of_false (fun heq => ?_) fun h => ?_
        · have hle := length_withoutCopiesFrom_le himp (before ++ [x]) xs
          rw [heq, List.length_cons] at hle
          omega
        · obtain ⟨y, hy, hsame⟩ := List.any_eq_true.mp hany'
          exact hnone (h.1 y hy hsame)
      · rw [if_neg hany', List.cons.injEq]
        refine ⟨fun h => ⟨fun y hy hsame => ?_, h.2⟩, fun h => ⟨rfl, h.2⟩⟩
        exact absurd (List.any_eq_true.mpr ⟨y, hy, hsame⟩) hany'

/-- Two relations, of which one implies the other, leave out the same entries if and only if every
entry that copies an earlier one by the weaker relation does so by the stronger. -/
theorem withoutCopies_eq_iff (himp : ∀ y x, same y x = true → same' y x = true) (xs : List α) :
    withoutCopies same' xs = withoutCopies same xs ↔
      ∀ before x after, xs = before ++ x :: after → ∀ y ∈ before, same' y x = true →
        ∃ y ∈ before, same y x = true :=
  withoutCopiesFrom_eq_iff himp [] xs

end Relations

end Lib
