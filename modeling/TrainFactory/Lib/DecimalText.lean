import Mathlib.Algebra.Ring.Nat
import TrainFactory.Lib.Text

/-!
# Reading back a printed number

`int(str(n))` is `n` where `n` has at most 4300 digits, and no number that `int` returns has more.
-/

namespace Lib

/-! ## Digits -/

theorem decimalDigit_lt {c : Char} {d : Nat} (h : decimalDigit c = some d) : d < 10 := by
  obtain ⟨start, hstart, rfl⟩ := Option.map_eq_some_iff.mp h
  have hin := List.find?_some hstart
  simp only [Bool.and_eq_true, decide_eq_true_eq] at hin
  omega

theorem decimalDigits_lt {cs : List Char} {ds : List Nat} (h : decimalDigits cs = some ds) :
    ∀ d ∈ ds, d < 10 := by
  induction cs using decimalDigits.induct generalizing ds with
  | case1 => cases h
  | case2 c =>
    obtain ⟨d, hd, rfl⟩ := Option.map_eq_some_iff.mp h
    intro d' hd'
    rw [List.mem_singleton.mp hd']
    exact decimalDigit_lt hd
  | case3 c cs ih =>
    simp only [decimalDigits, Option.bind_eq_bind, Option.bind_eq_some_iff, Option.pure_def,
      Option.some.injEq] at h
    obtain ⟨d, hd, ds', hds, rfl⟩ := h
    intro d' hd'
    rcases List.mem_cons.mp hd' with rfl | hd'
    · exact decimalDigit_lt hd
    · exact ih hds d' hd'
  | case4 c c' cs hne ih =>
    rw [decimalDigits] at h
    · simp only [Option.bind_eq_bind, Option.bind_eq_some_iff, Option.pure_def,
        Option.some.injEq] at h
      obtain ⟨d, hd, ds', hds, rfl⟩ := h
      intro d' hd'
      rcases List.mem_cons.mp hd' with rfl | hd'
      · exact decimalDigit_lt hd
      · exact ih hds d' hd'
    · exact hne

theorem foldl_digits_lt {ds : List Nat} (h : ∀ d ∈ ds, d < 10) (n k : Nat) (hn : n < 10 ^ k) :
    ds.foldl (fun n d => 10 * n + d) n < 10 ^ (k + ds.length) := by
  induction ds generalizing n k with
  | nil => exact hn
  | cons d ds ih =>
    have hd : d < 10 := h d (List.mem_cons_self ..)
    have hnext : 10 * n + d < 10 ^ (k + 1) := by
      rw [pow_succ]
      omega
    have hrest := ih (fun d' hd' => h d' (List.mem_cons_of_mem _ hd')) (10 * n + d) (k + 1) hnext
    have hlen : k + 1 + ds.length = k + (d :: ds).length := by
      rw [List.length_cons]
      omega
    rw [hlen] at hrest
    exact hrest

/-- A number is below the power of ten that its digits number. -/
theorem ofDigits_lt {ds : List Nat} (h : ∀ d ∈ ds, d < 10) : ofDigits ds < 10 ^ ds.length := by
  have hfold := foldl_digits_lt h 0 0 Nat.one_pos
  rwa [Nat.zero_add] at hfold

theorem decimalNat_lt {cs : List Char} {n : Nat} (h : decimalNat cs = some n) :
    n < 10 ^ maxStrDigits := by
  unfold decimalNat at h
  cases hdigits : decimalDigits cs with
  | none =>
    rw [hdigits] at h
    cases h
  | some ds =>
    rw [hdigits] at h
    dsimp only at h
    have hlt := ofDigits_lt (decimalDigits_lt hdigits)
    by_cases hlen : ds.length ≤ maxStrDigits
    · rw [if_pos hlen] at h
      cases h
      generalize maxStrDigits = bound at hlen ⊢
      exact Nat.lt_of_lt_of_le hlt (Nat.pow_le_pow_right (Nat.succ_pos 9) hlen)
    · rw [if_neg hlen] at h
      cases h

theorem parseInt_lt {text : String} {n : Int} (h : parseInt text = some n) :
    n.natAbs < 10 ^ maxStrDigits := by
  have hsome : ∃ cs k, decimalNat cs = some k ∧ n.natAbs = k := by
    unfold parseInt at h
    split at h
    all_goals
      obtain ⟨m, hm, rfl⟩ := Option.map_eq_some_iff.mp h
      obtain ⟨k, hk, hkm⟩ := Option.bind_eq_some_iff.mp hm
      cases hkm
      exact ⟨_, k, hk, by simp⟩
  obtain ⟨cs, k, hk, hn⟩ := hsome
  rw [hn]
  exact decimalNat_lt hk

/-! ## Printed numbers -/

theorem decimalDigit_of_isDigit {c : Char} (h : c.isDigit = true) :
    decimalDigit c = some (c.toNat - 48) := by
  have hrange : 48 ≤ c.toNat ∧ c.toNat < 48 + 10 := by
    obtain ⟨hlow, hhigh⟩ := Char.isDigit_iff_toNat.mp h
    exact ⟨hlow, Nat.lt_succ_of_le hhigh⟩
  rw [decimalDigit, decimalZeros, List.find?_cons_of_pos (by simp [hrange])]
  rfl

/-- A numeral of ASCII digits is read digit by digit. -/
theorem decimalDigits_of_isDigit {cs : List Char} (hne : cs ≠ [])
    (h : ∀ c ∈ cs, c.isDigit = true) :
    decimalDigits cs = some (cs.map fun c => c.toNat - 48) := by
  induction cs using decimalDigits.induct with
  | case1 => exact absurd rfl hne
  | case2 c =>
    rw [decimalDigits, decimalDigit_of_isDigit (h c (List.mem_singleton_self c))]
    rfl
  | case3 c cs ih =>
    have hsep : '_'.isDigit = true := h '_' (List.mem_cons_of_mem _ (List.mem_cons_self ..))
    cases hsep
  | case4 c c' cs hsep ih =>
    have hrest := ih (List.cons_ne_nil _ _) fun d hd => h d (List.mem_cons_of_mem _ hd)
    rw [decimalDigits]
    · rw [decimalDigit_of_isDigit (h c (List.mem_cons_self ..)), hrest]
      rfl
    · exact hsep

theorem ofDigits_map_toDigits (n : Nat) :
    ofDigits ((Nat.toDigits 10 n).map fun c => c.toNat - 48) = n := by
  have hchars := Nat.ofDigitChars_ten_toDigits (n := n)
  rw [Nat.ofDigitChars_eq_foldl] at hchars
  rw [ofDigits, List.foldl_map]
  exact hchars

theorem isDigit_toDigits {n : Nat} : ∀ c ∈ Nat.toDigits 10 n, c.isDigit = true := fun _ hc =>
  Nat.isDigit_of_mem_toDigits (by decide) (by decide) hc

theorem isSpace_of_isDigit {c : Char} (h : c.isDigit = true) : isSpace c = false := by
  have hlow : 48 ≤ c.toNat := (Char.isDigit_iff_toNat.mp h).1
  have hhigh : c.toNat ≤ 57 := (Char.isDigit_iff_toNat.mp h).2
  simp only [isSpace, Bool.or_eq_false_iff, Bool.and_eq_false_iff, decide_eq_false_iff_not]
  omega

theorem strip_of_isDigit {text : String} (h : ∀ c ∈ text.toList, c.isDigit = true) :
    strip text = text :=
  strip_of_isSpace fun c hc => isSpace_of_isDigit (h c hc)

/-- `int(str(n))` is `n` if `n` is not too long. -/
theorem parseInt_repr {n : Nat} (h : n < 10 ^ maxStrDigits) : parseInt n.repr = some (n : Int) := by
  have hdigits : decimalDigits (Nat.toDigits 10 n) =
      some ((Nat.toDigits 10 n).map fun c => c.toNat - 48) :=
    decimalDigits_of_isDigit Nat.toDigits_ne_nil isDigit_toDigits
  have hlen : (Nat.toDigits 10 n).length ≤ maxStrDigits :=
    (Nat.length_toDigits_le_iff (by decide) (by decide)).mpr h
  have hnat : decimalNat (Nat.toDigits 10 n) = some n := by
    rw [decimalNat, hdigits]
    dsimp only
    rw [List.length_map, if_pos hlen, ofDigits_map_toDigits]
  have hstrip : (strip n.repr).toList = Nat.toDigits 10 n := by
    rw [strip_of_isDigit, Nat.toList_repr]
    rw [Nat.toList_repr]
    exact isDigit_toDigits
  have hsign (c : Char) (hc : c ∉ Nat.toDigits 10 n) (cs : List Char) :
      Nat.toDigits 10 n ≠ c :: cs := fun heq => hc (heq ▸ List.mem_cons_self ..)
  have hnosign (c : Char) (hc : c.isDigit = false) : c ∉ Nat.toDigits 10 n := fun hmem =>
    absurd (isDigit_toDigits c hmem) (by rw [hc]; exact Bool.false_ne_true)
  unfold parseInt
  rw [hstrip]
  split
  · rename_i cs heq
    exact absurd heq (hsign '-' (hnosign '-' rfl) cs)
  · rename_i cs heq
    exact absurd heq (hsign '+' (hnosign '+' rfl) cs)
  · rw [hnat]
    rfl

end Lib
