import TrainFactory.Lib.FirstCopies
import TrainFactory.Sync.Items

/-!
# Proofs: records of the external API

Validation keeps the first copy of every key, a document determines the key of its record, and the
boundary holds the keys that were kept and the keys of the fetched window.
-/

namespace Sync

open Lib

variable {py : Stdlib} {settings : Settings}

/-! ## Times -/

theorem rollBack_eq_ok {cursor t : DateTime} {rollbackSeconds : Nat}
    (h : rollBack cursor rollbackSeconds = .ok t) : t = cursor - seconds rollbackSeconds := by
  unfold rollBack at h
  split at h
  · cases h
    rfl
  · cases h

theorem getMaxTime_ge {items : List Json} {m : Option DateTime} :
    (∀ a, m = some a → ∃ r, getMaxTime py items m = some r ∧ a ≤ r) ∧
    ∀ item ∈ items, ∀ t, createdAt py item = some t →
      ∃ r, getMaxTime py items m = some r ∧ t ≤ r := by
  induction items generalizing m with
  | nil => exact ⟨fun a ha => ⟨a, ha, le_refl a⟩, fun item hitem => by cases hitem⟩
  | cons item items ih =>
    cases ht : createdAt py item with
    | none =>
      obtain ⟨ih₁, ih₂⟩ := @ih m
      simp only [getMaxTime, ht]
      refine ⟨ih₁, ?_⟩
      intro i hi t hit
      rcases List.mem_cons.mp hi with rfl | hi
      · rw [ht] at hit
        cases hit
      · exact ih₂ i hi t hit
    | some t =>
      simp only [getMaxTime, ht]
      -- the new maximum is above both the old one and `t`
      have hnew : ∃ n, (if m.all (fun m => m < t) then some t else m) = some n ∧ t ≤ n ∧
          ∀ a, m = some a → a ≤ n := by
        cases m with
        | none => exact ⟨t, rfl, le_refl t, by simp⟩
        | some a =>
          by_cases hat : a < t
          · refine ⟨t, by simp [hat], le_refl t, ?_⟩
            rintro a' ⟨⟩
            exact le_of_lt hat
          · exact ⟨a, by simp [hat], not_lt.mp hat, by simp⟩
      obtain ⟨n, hn, htn, hmn⟩ := hnew
      rw [hn]
      obtain ⟨ih₁, ih₂⟩ := @ih (some n)
      obtain ⟨r, hr, hnr⟩ := ih₁ n rfl
      refine ⟨?_, ?_⟩
      · intro a ha
        exact ⟨r, hr, (hmn a ha).trans hnr⟩
      · intro i hi t' hit
        rcases List.mem_cons.mp hi with rfl | hi
        · have : t = t' := Option.some.inj (ht.symm.trans hit)
          exact ⟨r, hr, this ▸ htn.trans hnr⟩
        · exact ih₂ i hi t' hit

theorem getMaxTime_mem {items : List Json} {m : Option DateTime} {r : DateTime}
    (h : getMaxTime py items m = some r) :
    m = some r ∨ ∃ item ∈ items, createdAt py item = some r := by
  induction items generalizing m with
  | nil => exact Or.inl h
  | cons item items ih =>
    unfold getMaxTime at h
    split at h
    · rcases ih h with hm | ⟨i, hi, hit⟩
      · exact Or.inl hm
      · exact Or.inr ⟨i, List.mem_cons_of_mem _ hi, hit⟩
    · rename_i t ht
      rcases ih h with hm | ⟨i, hi, hit⟩
      · split at hm
        · exact Or.inr ⟨item, List.mem_cons_self .., ht.trans hm⟩
        · exact Or.inl hm
      · exact Or.inr ⟨i, List.mem_cons_of_mem _ hi, hit⟩

theorem datetimeColumn_seconds (n : Nat) : datetimeColumn (seconds n) = seconds n := by
  show (1000000 * n + 500000) / 1000000 * 1000000 = 1000000 * n
  omega

theorem datetimeColumn_eq_seconds (t : DateTime) :
    datetimeColumn t = seconds ((t + 500000) / 1000000) := Nat.mul_comm _ _

theorem datetimeColumn_datetimeColumn (t : DateTime) :
    datetimeColumn (datetimeColumn t) = datetimeColumn t := by
  rw [datetimeColumn_eq_seconds t, datetimeColumn_seconds]

theorem datetimeColumn_mono : Monotone datetimeColumn := by
  intro t t' h
  unfold datetimeColumn
  exact Nat.mul_le_mul_right _ (Nat.div_le_div_right (Nat.add_le_add_right h _))

/-- A date column rounds down exactly the times with a fraction below half a second. -/
theorem le_datetimeColumn_iff (t : Nat) :
    t ≤ datetimeColumn t ↔ t % 1000000 = 0 ∨ 500000 ≤ t % 1000000 := by
  have hcolumn : datetimeColumn t = (t + 500000) / 1000000 * 1000000 := rfl
  rw [hcolumn]
  omega

/-! ## Identity -/

theorem itemDedupKey_isHashedKey (py : Stdlib) (item : Json) :
    isHashedKey (itemDedupKey py item) = true := py.sha256_isHashedKey _

theorem legacyItemDedupKey_isHashedKey (py : Stdlib) (item : Json) :
    isHashedKey (legacyItemDedupKey py item) = false := by
  have hcolon : ':' ∈ (legacyItemDedupKey py item).toList := by
    simp [legacyItemDedupKey]
  unfold isHashedKey
  rw [Bool.and_eq_false_iff]
  right
  rw [List.all_eq_false]
  exact ⟨':', hcolon, by simp⟩

theorem itemMatchesBoundary_iff {boundaryKeys : List String} {item : Json}
    (h : ∀ k ∈ boundaryKeys, isHashedKey k = true) :
    itemMatchesBoundary py item boundaryKeys = true ↔ itemDedupKey py item ∈ boundaryKeys := by
  have hlegacy : legacyItemDedupKey py item ∉ boundaryKeys := by
    intro hmem
    have := h _ hmem
    rw [legacyItemDedupKey_isHashedKey] at this
    cases this
  simp [itemMatchesBoundary, hlegacy]

/-- The part of the identity of a record that its document shows: an entry that is missing counts
as an empty one. -/
theorem strOr_getD (item : Json) (k : String) :
    py.strOr (item.get? k) = py.strOr (some (item.getD k (.str ""))) := by
  cases h : item.get? k with
  | none => simp [Json.getD, h, Stdlib.strOr, Json.truthy]
  | some v => simp only [Json.getD, h, Option.getD_some]

theorem strOr_eq_empty_of_itemMetadata {item : Json} :
    py.strOr ((Json.obj (itemMetadata item)).get? "external_id") = py.strOr (item.get? "id") ∧
    py.strOr ((Json.obj (itemMetadata item)).get? "doc_id") = py.strOr (item.get? "doc_id") := by
  constructor
  · rw [strOr_getD item]
    rfl
  · rw [strOr_getD item]
    rfl

/-! ## Validation -/

theorem validateItem_eq_ok {maxFuture : DateTime} {item : Json} {n : Nat}
    (h : validateItem py settings maxFuture item = .ok n) : ∃ t, createdAt py item = some t := by
  unfold validateItem at h
  split at h
  · cases h
  split at h
  · split at h
    · cases h
    split at h
    · cases h
    · rename_i t ht
      exact ⟨t, ht⟩
  · cases h

theorem validateItems_eq_ok {maxFuture : DateTime} {items uniqueItems result : List Json}
    {seenKeys : List String} {totalBytes : Nat}
    (h : validateItems py settings maxFuture items uniqueItems seenKeys totalBytes = .ok result) :
    result = uniqueItems ++ firstCopiesFrom (itemDedupKey py) seenKeys items ∧
      ∀ item ∈ items, ∃ t, createdAt py item = some t := by
  induction items generalizing uniqueItems seenKeys totalBytes with
  | nil =>
    cases h
    simp [firstCopiesFrom]
  | cons item items ih =>
    unfold validateItems at h
    split at h
    · cases h
    rename_i n hvalid
    have htime := validateItem_eq_ok hvalid
    simp only [] at h
    split at h
    · rename_i hseen
      obtain ⟨hresult, htimes⟩ := ih h
      simp only [firstCopiesFrom, if_pos hseen]
      exact ⟨hresult, List.forall_mem_cons.mpr ⟨htime, htimes⟩⟩
    · rename_i hnew
      split at h
      · cases h
      split at h
      · cases h
      obtain ⟨hresult, htimes⟩ := ih h
      simp only [firstCopiesFrom, if_neg hnew]
      refine ⟨?_, List.forall_mem_cons.mpr ⟨htime, htimes⟩⟩
      rw [hresult, List.append_assoc]
      rfl

theorem validateAndDeduplicateItems_eq_ok {now : DateTime} {response : Json} {result : List Json}
    (h : validateAndDeduplicateItems py settings now response = .ok result) :
    ∃ items, response = .arr items ∧ result = firstCopies (itemDedupKey py) items ∧
      ∀ item ∈ items, ∃ t, createdAt py item = some t := by
  unfold validateAndDeduplicateItems at h
  split at h
  · rename_i items
    obtain ⟨hresult, htimes⟩ := validateItems_eq_ok h
    exact ⟨items, rfl, by simpa [firstCopies] using hresult, htimes⟩
  · cases h

/-! ## The boundary -/

theorem pushBoundaryKey_eq_ok {key : String} {keys keys' : List String} {bytes bytes' : Nat}
    (h : pushBoundaryKey py settings key keys bytes = .ok (keys', bytes')) :
    keys' = keys ++ [key] := by
  unfold pushBoundaryKey at h
  dsimp only at h
  generalize bytes + _ + _ = projected at h
  split at h
  · cases h
  · cases h
    rfl

/-- `_get_boundary_ids` returns the keys of the records in the window. -/
theorem mem_collectBoundaryKeys {cutoff : DateTime} {items : List Json} {keys result : List String}
    {bytes : Nat} (h : collectBoundaryKeys py settings cutoff items keys bytes = .ok result)
    (k : String) : k ∈ result ↔ k ∈ keys ∨
      ∃ item ∈ items, itemIsAfter py item cutoff = true ∧ itemDedupKey py item = k := by
  induction items generalizing keys bytes with
  | nil =>
    cases h
    simp
  | cons item items ih =>
    unfold collectBoundaryKeys at h
    split at h
    · rename_i hafter
      have hafter : itemIsAfter py item cutoff = true := hafter
      split at h
      · cases h
      rename_i keys' bytes' hpush
      have hkeys := pushBoundaryKey_eq_ok hpush
      subst hkeys
      rw [ih h]
      constructor
      · rintro (hk | ⟨i, hi, hia, hik⟩)
        · rcases List.mem_append.mp hk with hk | hk
          · exact Or.inl hk
          · exact Or.inr ⟨item, List.mem_cons_self .., hafter, (List.mem_singleton.mp hk).symm⟩
        · exact Or.inr ⟨i, List.mem_cons_of_mem _ hi, hia, hik⟩
      · rintro (hk | ⟨i, hi, hia, hik⟩)
        · exact Or.inl (List.mem_append.mpr (Or.inl hk))
        · rcases List.mem_cons.mp hi with rfl | hi
          · exact Or.inl (List.mem_append.mpr (Or.inr (List.mem_singleton.mpr hik.symm)))
          · exact Or.inr ⟨i, hi, hia, hik⟩
    · rename_i hbefore
      have hbefore : ¬ itemIsAfter py item cutoff = true := hbefore
      rw [ih h]
      constructor
      · rintro (hk | ⟨i, hi, hia, hik⟩)
        · exact Or.inl hk
        · exact Or.inr ⟨i, List.mem_cons_of_mem _ hi, hia, hik⟩
      · rintro (hk | ⟨i, hi, hia, hik⟩)
        · exact Or.inl hk
        · rcases List.mem_cons.mp hi with rfl | hi
          · exact absurd hia hbefore
          · exact Or.inr ⟨i, hi, hia, hik⟩

theorem mem_mergeBoundaryKeys {candidates keys result : List String} {bytes : Nat}
    (h : mergeBoundaryKeys py settings candidates keys bytes = .ok result) (k : String) :
    k ∈ result ↔ k ∈ keys ∨ k ∈ candidates := by
  induction candidates generalizing keys bytes with
  | nil =>
    cases h
    simp
  | cons key candidates ih =>
    unfold mergeBoundaryKeys at h
    split at h
    · rename_i hmem
      rw [ih h, List.mem_cons]
      constructor
      · rintro (hk | hk)
        · exact Or.inl hk
        · exact Or.inr (Or.inr hk)
      · rintro (hk | rfl | hk)
        · exact Or.inl hk
        · exact Or.inl hmem
        · exact Or.inr hk
    · split at h
      · cases h
      rename_i keys' bytes' hpush
      have hkeys := pushBoundaryKey_eq_ok hpush
      subst hkeys
      rw [ih h, List.mem_append, List.mem_singleton, List.mem_cons, or_assoc]

/-- `_merge_boundary_ids` keeps the hashed previous keys while the previous cursor lies in the next
window, and adds the keys of the fetched records of the next window. -/
theorem mem_mergeBoundaryIds {previousKeys : List String} {fetchedItems : List Json}
    {previousCursor : Option DateTime} {next : DateTime} {rollbackSeconds : Nat}
    {result : List String}
    (h : mergeBoundaryIds py settings previousKeys fetchedItems previousCursor (some next)
      rollbackSeconds = .ok result) (k : String) :
    k ∈ result ↔
      (k ∈ previousKeys ∧ isHashedKey k = true ∧
        ∃ c, previousCursor = some c ∧ next - seconds rollbackSeconds ≤ c) ∨
      ∃ item ∈ fetchedItems, itemIsAfter py item (next - seconds rollbackSeconds) = true ∧
        itemDedupKey py item = k := by
  unfold mergeBoundaryIds at h
  simp only [] at h
  split at h
  · cases h
  rename_i freshKeys hfresh
  split at h
  · cases h
  rename_i cutoff hcutoff
  have hcut := rollBack_eq_ok hcutoff
  have hfresh' : ∀ k, k ∈ freshKeys ↔ ∃ item ∈ fetchedItems,
      itemIsAfter py item cutoff = true ∧ itemDedupKey py item = k := by
    intro k
    unfold getBoundaryIds at hfresh
    simp only [hcutoff] at hfresh
    rw [mem_collectBoundaryKeys hfresh]
    simp
  rw [mem_mergeBoundaryKeys h, List.mem_append, hfresh', ← hcut]
  constructor
  · rintro (hk | hk | hk)
    · cases hk
    · split at hk
      · rename_i hretain
        obtain ⟨hk, hhash⟩ := List.mem_filter.mp hk
        obtain ⟨c, hc, hle⟩ := Option.any_eq_true _ _ |>.mp hretain
        exact Or.inl ⟨hk, hhash, c, hc, by simpa using hle⟩
      · cases hk
    · exact Or.inr hk
  · rintro (⟨hk, hhash, c, hc, hle⟩ | hk)
    · refine Or.inr (Or.inl ?_)
      rw [if_pos (by rw [hc]; exact decide_eq_true hle)]
      exact List.mem_filter.mpr ⟨hk, hhash⟩
    · exact Or.inr (Or.inr hk)

end Sync
