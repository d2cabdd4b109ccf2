import Mathlib.Data.List.Basic

/-!
# Longest prefixes

A loop that takes elements from the front of a list, as long as what it has taken meets a condition,
ends with the longest prefix that meets it, if every prefix of what meets the condition does.
-/

namespace Lib

variable {α : Type*}

structure IsLongestPrefix (Fits : List α → Prop) (xs p : List α) : Prop where
  isPrefix : p <+: xs
  fits : Fits p
  longest : ∀ q, q <+: xs → Fits q → q.length ≤ p.length

def PrefixClosed (Fits : List α → Prop) : Prop := ∀ p q : List α, p <+: q → Fits q → Fits p

variable {Fits : List α → Prop} {taken rest : List α} {x : α}

/-- The loop ends at the end of the list. -/
theorem IsLongestPrefix.all (h : Fits taken) : IsLongestPrefix Fits taken taken :=
  ⟨List.prefix_rfl, h, fun _ hq _ => hq.length_le⟩

/-- The loop ends at the first element that does not fit. -/
theorem IsLongestPrefix.stop (hclosed : PrefixClosed Fits) (h : Fits taken)
    (hx : ¬ Fits (taken ++ [x])) : IsLongestPrefix Fits (taken ++ x :: rest) taken := by
  refine ⟨List.prefix_append _ _, h, fun q hq hfits => ?_⟩
  by_contra hlt
  have hone : taken ++ [x] <+: taken ++ x :: rest := ⟨rest, by simp⟩
  have hle : (taken ++ [x]).length ≤ q.length := by
    rw [List.length_append, List.length_singleton]
    omega
  exact hx (hclosed _ _ (List.prefix_of_prefix_length_le hone hq hle) hfits)

/-- A limit on the length can be applied first. -/
theorem IsLongestPrefix.of_take {xs p : List α} {n : ℕ} (h : IsLongestPrefix Fits (xs.take n) p) :
    IsLongestPrefix (fun l => l.length ≤ n ∧ Fits l) xs p := by
  have hlength : p.length ≤ n :=
    Nat.le_trans h.isPrefix.length_le (List.length_take_le n xs)
  refine ⟨h.isPrefix.trans (List.take_prefix n xs), ⟨hlength, h.fits⟩, fun q hq hfits => ?_⟩
  refine h.longest q ?_ hfits.2
  rw [List.prefix_take_iff]
  exact ⟨hq, hfits.1⟩

end Lib
