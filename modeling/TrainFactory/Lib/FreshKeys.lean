import TrainFactory.Lib.Result
import Mathlib.Data.List.Forall2
import Mathlib.Data.List.Nodup
import Mathlib.Data.List.Perm.Subperm
import Mathlib.Data.List.Range
import Mathlib.Data.List.Basic

/-!
# Entries under fresh keys

A loop that puts an entry for each element under the key of the element, and raises where a key has
been seen before.
-/

namespace Lib

variable {ε S K V : Type} [DecidableEq K]

def freshEntries (keyOf : S → Except ε K) (valueOf : K → S → Except ε V) (collision : K → ε)
    (seen : List K) : List S → Except ε (List (K × V))
  | [] => .ok []
  | s :: rest =>
    match keyOf s with
    | .error error => .error error
    | .ok key =>
      if key ∈ seen then .error (collision key)
      else
        match valueOf key s with
        | .error error => .error error
        | .ok value =>
          (freshEntries keyOf valueOf collision (seen ++ [key]) rest).map fun entries =>
            (key, value) :: entries

variable {keyOf : S → Except ε K} {valueOf : K → S → Except ε V} {collision : K → ε}

def IsEntry (keyOf : S → Except ε K) (valueOf : K → S → Except ε V) (s : S) (entry : K × V) :
    Prop :=
  keyOf s = .ok entry.1 ∧ valueOf entry.1 s = .ok entry.2

/-- The loop returns exactly if each element has an entry, under keys that are distinct and new. -/
theorem freshEntries_eq_ok {seen : List K} {l : List S} {entries : List (K × V)} :
    freshEntries keyOf valueOf collision seen l = .ok entries ↔
      List.Forall₂ (IsEntry keyOf valueOf) l entries ∧ (entries.map Prod.fst).Nodup ∧
        ∀ entry ∈ entries, entry.1 ∉ seen := by
  induction l generalizing seen entries with
  | nil =>
    rw [freshEntries]
    constructor
    · rintro ⟨⟩
      simp
    · rintro ⟨h, -, -⟩
      cases h
      rfl
  | cons s rest ih =>
    rw [freshEntries]
    constructor
    · intro h
      cases hkey : keyOf s with
      | error error =>
        rw [hkey] at h
        cases h
      | ok key =>
        rw [hkey] at h
        obtain ⟨hnew, h⟩ := ite_error_eq_ok.mp h
        cases hvalue : valueOf key s with
        | error error =>
          rw [hvalue] at h
          cases h
        | ok value =>
          rw [hvalue] at h
          obtain ⟨others, hrest, rfl⟩ := map_eq_ok.mp h
          obtain ⟨hall, hnodup, hseen⟩ := ih.mp hrest
          refine ⟨List.Forall₂.cons ⟨hkey, hvalue⟩ hall, ?_, ?_⟩
          · refine List.nodup_cons.mpr ⟨fun hmem => ?_, hnodup⟩
            obtain ⟨entry, hentry, heq⟩ := List.mem_map.mp hmem
            exact hseen entry hentry
              (List.mem_append_right _ (List.mem_singleton.mpr heq))
          · intro entry hentry
            rcases List.mem_cons.mp hentry with rfl | hentry
            · exact hnew
            · exact fun hmem => hseen entry hentry (List.mem_append_left _ hmem)
    · rintro ⟨hall, hnodup, hseen⟩
      cases hall with
      | @cons _ entry _ others hentry hothers =>
        obtain ⟨hkey, hvalue⟩ := hentry
        obtain ⟨hfirst, hnodup⟩ := List.nodup_cons.mp hnodup
        have hrest : freshEntries keyOf valueOf collision (seen ++ [entry.1]) rest = .ok others := by
          refine ih.mpr ⟨hothers, hnodup, fun other hother hmem => ?_⟩
          rcases List.mem_append.mp hmem with hmem | hmem
          · exact hseen other (List.mem_cons_of_mem _ hother) hmem
          · refine hfirst (List.mem_map.mpr ⟨other, hother, ?_⟩)
            exact List.mem_singleton.mp hmem
        rw [hkey]
        dsimp only
        rw [if_neg (hseen entry (List.mem_cons_self ..)), hvalue]
        dsimp only
        rw [hrest]
        rfl

theorem freshEntries_of_forall₂ {l : List S} {entries : List (K × V)}
    (hall : List.Forall₂ (IsEntry keyOf valueOf) l entries)
    (hnodup : (entries.map Prod.fst).Nodup) :
    freshEntries keyOf valueOf collision [] l = .ok entries :=
  freshEntries_eq_ok.mpr ⟨hall, hnodup, fun _ _ => List.not_mem_nil⟩

/-! ## Looking up entries -/

theorem mem_of_lookup_eq_some {V : Type*} {entries : List (String × V)} {key : String} {value : V}
    (h : entries.lookup key = some value) : (key, value) ∈ entries := by
  obtain ⟨before, after, rfl, -⟩ := List.lookup_eq_some_iff.mp h
  exact List.mem_append_right _ (List.mem_cons_self ..)

/-- Under distinct keys, each entry is found. -/
theorem lookup_eq_some_of_mem {V : Type*} {entries : List (String × V)}
    (hnodup : (entries.map Prod.fst).Nodup) {key : String} {value : V}
    (hmem : (key, value) ∈ entries) : entries.lookup key = some value := by
  cases hlookup : entries.lookup key with
  | none =>
    have hother := List.lookup_eq_none_iff.mp hlookup _ hmem
    simp at hother
  | some found =>
    have hsame := List.inj_on_of_nodup_map hnodup (mem_of_lookup_eq_some hlookup) hmem rfl
    rw [(Prod.mk.inj hsame).2]

end Lib

/-!
## The first free candidate

A loop that counts up until a candidate is not taken stops after as many steps as names are taken,
if the candidates are distinct.
-/

namespace Lib

variable {α : Type*} [DecidableEq α]

def firstFree (candidate : Nat → α) (taken : List α) : Nat → Nat → α
  | 0, n => candidate n
  | steps + 1, n =>
    if candidate n ∈ taken then firstFree candidate taken steps (n + 1) else candidate n

variable {candidate : Nat → α} {taken : List α}

theorem firstFree_free_or (steps n : Nat) : firstFree candidate taken steps n ∉ taken ∨
    ∀ i ≤ steps, candidate (n + i) ∈ taken := by
  induction steps generalizing n with
  | zero =>
    by_cases h : candidate n ∈ taken
    · refine Or.inr fun i hi => ?_
      rwa [Nat.le_zero.mp hi]
    · exact Or.inl h
  | succ steps ih =>
    unfold firstFree
    split
    · next h =>
      refine (ih (n + 1)).imp_right fun hall i hi => ?_
      cases i with
      | zero => exact h
      | succ i =>
        have hi' := hall i (Nat.le_of_succ_le_succ hi)
        rwa [Nat.add_right_comm] at hi'
    · next h => exact Or.inl h

theorem firstFree_notMem (h : Function.Injective candidate) :
    firstFree candidate taken taken.length 0 ∉ taken := by
  refine (firstFree_free_or taken.length 0).resolve_right fun hall => ?_
  have hnodup : ((List.range (taken.length + 1)).map candidate).Nodup :=
    List.nodup_range.map h
  have hsub : (List.range (taken.length + 1)).map candidate ⊆ taken := by
    intro x hx
    obtain ⟨i, hi, rfl⟩ := List.mem_map.mp hx
    have hmem := hall i (Nat.le_of_lt_succ (List.mem_range.mp hi))
    rwa [Nat.zero_add] at hmem
  have hle := (hnodup.subperm hsub).length_le
  rw [List.length_map, List.length_range] at hle
  exact absurd hle (Nat.not_succ_le_self _)

/-- The loop returns a candidate. -/
theorem exists_firstFree_eq (steps n : Nat) :
    ∃ i, firstFree candidate taken steps n = candidate i := by
  induction steps generalizing n with
  | zero => exact ⟨n, rfl⟩
  | succ steps ih =>
    unfold firstFree
    split
    · exact ih (n + 1)
    · exact ⟨n, rfl⟩

end Lib
