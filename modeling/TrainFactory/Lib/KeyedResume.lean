import Mathlib.Data.List.Nodup
import Mathlib.Data.List.Perm.Basic

/-!
# Resuming work by keys

Records are worked off one by one, each into a result or into none. Work that is resumed keeps the
results of the records that were completed, and works off those whose key is not among the completed
keys. Where the keys tell the completed records from the others, nothing is lost or done twice.
-/

namespace Lib

variable {α β κ : Type*} [DecidableEq κ] (work : α → Option β) (key : α → κ)

def leftOver (keys : List κ) (records : List α) : List α := records.filter fun r => key r ∉ keys

def TellsApart (records completed : List α) (keys : List κ) : Prop :=
  ∀ r ∈ records, (work r).isSome = true → (key r ∈ keys ↔ r ∈ completed)

variable {work key} {records completed : List α} {keys : List κ}

theorem mem_leftOver {r : α} : r ∈ leftOver key keys records ↔ r ∈ records ∧ key r ∉ keys := by
  rw [leftOver, List.mem_filter, decide_eq_true_eq]

open Classical in
theorem filterMap_leftOver (h : TellsApart work key records completed keys) :
    (leftOver key keys records).filterMap work =
      (records.filter fun r => r ∉ completed).filterMap work := by
  rw [leftOver, List.filterMap_filter, List.filterMap_filter]
  refine List.filterMap_congr fun r hr => ?_
  cases hwork : work r with
  | none => simp
  | some result =>
    have hiff := h r hr (by rw [hwork]; rfl)
    simp [hiff]

open Classical in
theorem filterMap_completed (work : α → Option β) (hrecords : records.Nodup)
    (hcompleted : completed.Nodup) (hsub : ∀ r ∈ completed, r ∈ records) :
    (completed.filterMap work ++ (records.filter fun r => r ∉ completed).filterMap work).Perm
      (records.filterMap work) := by
  have hsame : completed.Perm (records.filter fun r => r ∈ completed) := by
    rw [List.perm_ext_iff_of_nodup hcompleted (hrecords.filter _)]
    intro r
    simp only [List.mem_filter, decide_eq_true_eq]
    exact ⟨fun hr => ⟨hsub r hr, hr⟩, fun hr => hr.2⟩
  have hsplit := List.filter_append_perm (fun r => decide (r ∈ completed)) records
  simp only [← decide_not] at hsplit
  rw [← List.filterMap_append]
  exact ((hsame.append_right _).trans hsplit).filterMap work

theorem resume_perm (h : TellsApart work key records completed keys) (hrecords : records.Nodup)
    (hcompleted : completed.Nodup) (hsub : ∀ r ∈ completed, r ∈ records) :
    (completed.filterMap work ++ (leftOver key keys records).filterMap work).Perm
      (records.filterMap work) := by
  rw [filterMap_leftOver h]
  exact filterMap_completed work hrecords hcompleted hsub

/-- Of records without duplicates, the only one with a result gives the only result. -/
theorem filterMap_eq_singleton {rs : List α} (hnodup : rs.Nodup) {r : α} {result : β}
    (hr : r ∈ rs) (hwork : work r = some result)
    (honly : ∀ r' ∈ rs, (work r').isSome = true → r' = r) : rs.filterMap work = [result] := by
  induction rs with
  | nil => cases hr
  | cons first rs ih =>
    obtain ⟨hnew, hnodup⟩ := List.nodup_cons.mp hnodup
    have hnone (h : r ∉ rs) : rs.filterMap work = [] := by
      rw [List.filterMap_eq_nil_iff]
      intro r' hr'
      cases hwork' : work r' with
      | none => rfl
      | some result' =>
        have heq := honly r' (List.mem_cons_of_mem _ hr') (by rw [hwork']; rfl)
        exact absurd (heq ▸ hr') h
    rcases List.mem_cons.mp hr with rfl | hr
    · rw [List.filterMap_cons_some hwork, hnone hnew]
    · have hfirst : work first = none := by
        cases hwork' : work first with
        | none => rfl
        | some result' =>
          have heq := honly first (List.mem_cons_self ..) (by rw [hwork']; rfl)
          exact absurd (heq ▸ hr) hnew
      rw [List.filterMap_cons_none hfirst]
      exact ih hnodup hr fun r' hr' => honly r' (List.mem_cons_of_mem _ hr')

/-- A further result with a key of its own completes the work just where it is the result of a record
with that key that was not completed. -/
theorem resume_further_iff (h : TellsApart work key records completed keys)
    (hrecords : records.Nodup) (hcompleted : completed.Nodup)
    (hsub : ∀ r ∈ completed, r ∈ records)
    (hdistinct : ∀ r ∈ records, ∀ r' ∈ records, (work r).isSome = true →
      (work r').isSome = true → key r = key r' → r = r') (result : β) (furtherKey : κ) :
    (completed.filterMap work ++ result ::
        (leftOver key (keys ++ [furtherKey]) records).filterMap work).Perm
      (records.filterMap work) ↔
    ∃ r ∈ records, r ∉ completed ∧ key r = furtherKey ∧ work r = some result := by
  classical
  let rest := records.filter fun r => r ∉ completed
  have hrest : rest.Nodup := hrecords.filter _
  have hmem : ∀ {r}, r ∈ rest ↔ r ∈ records ∧ r ∉ completed := by
    intro r
    simp [rest]
  have hleft : (leftOver key (keys ++ [furtherKey]) records).filterMap work =
      (rest.filter fun r => ¬ key r = furtherKey).filterMap work := by
    have hagain : leftOver key (keys ++ [furtherKey]) records =
        (leftOver key keys records).filter fun r => ¬ key r = furtherKey := by
      rw [leftOver, leftOver, List.filter_filter]
      refine List.filter_congr fun r _ => ?_
      simp [not_or, and_comm]
    have hsub' : TellsApart work key
        (records.filter fun r => ¬ key r = furtherKey) completed keys := fun r hr =>
      h r (List.mem_filter.mp hr).1
    have hcomm : ∀ (p q : α → Bool) (rs : List α), (rs.filter p).filter q = (rs.filter q).filter p := by
      intro p q rs
      rw [List.filter_filter, List.filter_filter]
      exact List.filter_congr fun r _ => Bool.and_comm ..
    rw [hagain, leftOver, hcomm, ← leftOver, filterMap_leftOver hsub', hcomm]
  have hsplit : (rest.filterMap work).Perm ((rest.filter fun r => key r = furtherKey).filterMap work ++
      (rest.filter fun r => ¬ key r = furtherKey).filterMap work) := by
    have hfilter := List.filter_append_perm (fun r => decide (key r = furtherKey)) rest
    simp only [← decide_not] at hfilter
    rw [← List.filterMap_append]
    exact hfilter.symm.filterMap work
  have hall := filterMap_completed work hrecords hcompleted hsub
  have hcancel : (completed.filterMap work ++ result ::
        (leftOver key (keys ++ [furtherKey]) records).filterMap work).Perm
      (records.filterMap work) ↔
      (rest.filter fun r => key r = furtherKey).filterMap work = [result] := by
    rw [hleft]
    constructor
    · intro hperm
      have hsame : ([result] ++ (rest.filter fun r => ¬ key r = furtherKey).filterMap work).Perm
          (rest.filterMap work) := (List.perm_append_left_iff _).mp (hperm.trans hall.symm)
      have hone := (List.perm_append_right_iff _).mp (hsame.trans hsplit)
      exact List.perm_singleton.mp hone.symm
    · intro hone
      rw [hone] at hsplit
      exact ((hsplit.symm.append_left _).trans hall)
  rw [hcancel]
  constructor
  · intro hone
    have hin : result ∈ (rest.filter fun r => key r = furtherKey).filterMap work := by
      rw [hone]
      exact List.mem_singleton_self _
    obtain ⟨r, hr, hwork⟩ := List.mem_filterMap.mp hin
    obtain ⟨hr, hkey⟩ := List.mem_filter.mp hr
    obtain ⟨hr, hnew⟩ := hmem.mp hr
    exact ⟨r, hr, hnew, of_decide_eq_true hkey, hwork⟩
  · rintro ⟨r, hr, hnew, hkey, hwork⟩
    refine filterMap_eq_singleton (hrest.filter _)
      (List.mem_filter.mpr ⟨hmem.mpr ⟨hr, hnew⟩, decide_eq_true hkey⟩) hwork ?_
    intro r' hr' hsome
    obtain ⟨hr', hkey'⟩ := List.mem_filter.mp hr'
    have hsame : key r' = key r := (of_decide_eq_true hkey').trans hkey.symm
    exact hdistinct r' (hmem.mp hr').1 r hr hsome (by rw [hwork]; rfl) hsame

end Lib
