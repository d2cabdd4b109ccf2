import Mathlib.Algebra.Order.Field.Basic
import Mathlib.Data.List.Count
import Mathlib.Logic.Relation
import Mathlib.Tactic.FieldSimp
import Mathlib.Tactic.Linarith
import Mathlib.Tactic.Positivity
import Mathlib.Tactic.Ring

/-!
# Ranked hits

A ranking says of each position whether it is a hit. What a ranking is worth is summed up over its
hits, by their positions; it grows as hits are moved to the front.
-/

namespace Lib

abbrev hitCount (l : List Bool) : Nat := l.count true

theorem hitCount_le_length (l : List Bool) : hitCount l ≤ l.length := List.count_le_length

theorem hitCount_lt_length {l : List Bool} (h : false ∈ l) : hitCount l < l.length := by
  refine lt_of_le_of_ne (hitCount_le_length l) fun heq => ?_
  exact Bool.false_ne_true ((List.count_eq_length.mp heq) false h).symm

/-! ## Labels -/

def IsBinary (labels : List Nat) : Prop := ∀ y ∈ labels, y = 0 ∨ y = 1

def hitsOf (labels : List Nat) : List Bool := labels.map fun y => !(y == 0)

@[simp]
theorem hitsOf_cons_zero (labels : List Nat) : hitsOf (0 :: labels) = false :: hitsOf labels := rfl

theorem hitsOf_cons_of_ne {y : Nat} (h : y ≠ 0) (labels : List Nat) :
    hitsOf (y :: labels) = true :: hitsOf labels := by simp [hitsOf, h]

theorem hitsOf_getElem? (labels : List Nat) (i : Nat) :
    (hitsOf labels)[i]? = labels[i]?.map fun y => !(y == 0) := List.getElem?_map

@[simp]
theorem hitsOf_length (labels : List Nat) : (hitsOf labels).length = labels.length :=
  List.length_map _

theorem hitsOf_take (labels : List Nat) (k : Nat) :
    hitsOf (labels.take k) = (hitsOf labels).take k := List.map_take

theorem IsBinary.of_cons {y : Nat} {labels : List Nat} (h : IsBinary (y :: labels)) :
    IsBinary labels := fun y' hy' => h y' (List.mem_cons_of_mem y hy')

theorem sum_eq_hitCount {labels : List Nat} (h : IsBinary labels) :
    labels.sum = hitCount (hitsOf labels) := by
  induction labels with
  | nil => rfl
  | cons y labels ih =>
    rw [List.sum_cons, ih h.of_cons]
    rcases h y List.mem_cons_self with rfl | rfl
    · simp
    · simp [hitsOf_cons_of_ne, Nat.add_comm]

/-! ## Hits that are moved to the front -/

/-- A hit changes places with the position before it, which is none. -/
inductive Promote : List Bool → List Bool → Prop
  | swap (u v : List Bool) : Promote (u ++ false :: true :: v) (u ++ true :: false :: v)

/-- Hits are moved to the front, one place at a time. -/
abbrev Ahead : List Bool → List Bool → Prop := Relation.ReflTransGen Promote

theorem Promote.prepend {l l' : List Bool} (h : Promote l l') (w : List Bool) :
    Promote (w ++ l) (w ++ l') := by
  cases h with
  | swap u v =>
    rw [← List.append_assoc, ← List.append_assoc]
    exact Promote.swap (w ++ u) v

theorem Ahead.prepend {l l' : List Bool} (h : Ahead l l') (w : List Bool) :
    Ahead (w ++ l) (w ++ l') :=
  Relation.ReflTransGen.lift (w ++ ·) (fun _ _ hstep => hstep.prepend w) _ _ h

theorem Promote.append {l l' : List Bool} (h : Promote l l') (w : List Bool) :
    Promote (l ++ w) (l' ++ w) := by
  cases h with
  | swap u v =>
    rw [List.append_assoc, List.append_assoc]
    exact Promote.swap u (v ++ w)

theorem Ahead.append {l l' : List Bool} (h : Ahead l l') (w : List Bool) :
    Ahead (l ++ w) (l' ++ w) :=
  Relation.ReflTransGen.lift (· ++ w) (fun _ _ hstep => hstep.append w) _ _ h

theorem ahead_hit (l : List Bool) : Ahead (l ++ [true]) (true :: l) := by
  induction l with
  | nil => exact Relation.ReflTransGen.refl
  | cons hit l ih =>
    have hmoved : Ahead (hit :: (l ++ [true])) (hit :: true :: l) := ih.prepend [hit]
    cases hit with
    | true => exact hmoved
    | false => exact hmoved.tail (Promote.swap [] l)

theorem ahead_miss (l : List Bool) : Ahead (false :: l) (l ++ [false]) := by
  induction l with
  | nil => exact Relation.ReflTransGen.refl
  | cons hit l ih =>
    have hmoved : Ahead (hit :: false :: l) (hit :: (l ++ [false])) := ih.prepend [hit]
    cases hit with
    | true => exact Relation.ReflTransGen.head (Promote.swap [] l) hmoved
    | false => exact hmoved

/-- A hit that is directly behind a miss comes over what is before the miss, and the miss behind
what is behind the hit. -/
theorem ahead_exchange (u u' v v' : List Bool) :
    Ahead (u ++ u' ++ false :: true :: (v ++ v')) (u ++ true :: (u' ++ (v ++ false :: v'))) := by
  have hswap : Ahead (u ++ u' ++ false :: true :: (v ++ v'))
      (u ++ u' ++ true :: false :: (v ++ v')) :=
    Relation.ReflTransGen.single (Promote.swap (u ++ u') (v ++ v'))
  have hmiss : Ahead (u ++ u' ++ true :: false :: (v ++ v'))
      (u ++ u' ++ true :: (v ++ false :: v')) := by
    have h := ((ahead_miss v).append v').prepend (u ++ u' ++ [true])
    simpa using h
  have hhit : Ahead (u ++ u' ++ true :: (v ++ false :: v'))
      (u ++ true :: (u' ++ (v ++ false :: v'))) := by
    have h := ((ahead_hit u').append (v ++ false :: v')).prepend u
    simpa using h
  exact (hswap.trans hmiss).trans hhit

/-- The hits come first. -/
def ideal (l : List Bool) : List Bool :=
  List.replicate (hitCount l) true ++ List.replicate (l.length - hitCount l) false

/-- The ideal ranking only depends on how many positions and hits there are. -/
theorem ideal_eq_of_perm {l l' : List Bool} (h : l.Perm l') : ideal l = ideal l' := by
  rw [ideal, ideal, hitCount, hitCount, h.count_eq, h.length_eq]

theorem ideal_cons_hit (l : List Bool) : ideal (true :: l) = true :: ideal l := by
  simp [ideal, hitCount, List.replicate_succ]

theorem ahead_ideal (l : List Bool) : Ahead l (ideal l) := by
  induction l with
  | nil => exact Relation.ReflTransGen.refl
  | cons hit l ih =>
    cases hit with
    | true =>
      rw [ideal_cons_hit]
      exact ih.prepend [true]
    | false =>
      have hle := hitCount_le_length l
      have hideal : ideal (false :: l) = ideal l ++ [false] := by
        have hlen : (false :: l).length - hitCount (false :: l) = l.length - hitCount l + 1 := by
          simp only [hitCount, List.length_cons, List.count_cons, beq_iff_eq, Bool.false_eq_true,
            if_false] at hle ⊢
          omega
        rw [ideal, hlen, List.replicate_succ', ideal, ← List.append_assoc]
        simp [hitCount]
      rw [hideal]
      exact Relation.ReflTransGen.trans (ih.prepend [false]) (ahead_miss (ideal l))

/-- What grows with every promotion grows as hits are moved to the front. -/
theorem Ahead.le {β : Type*} [Preorder β] {F : List Bool → β}
    (h : ∀ {l l'}, Promote l l' → F l ≤ F l') {l l' : List Bool} (hahead : Ahead l l') :
    F l ≤ F l' := by
  induction hahead with
  | refl => exact le_refl _
  | tail _ hstep ih => exact ih.trans (h hstep)

theorem Promote.length_eq {l l' : List Bool} (h : Promote l l') : l.length = l'.length := by
  cases h
  simp

theorem Promote.hitCount_eq {l l' : List Bool} (h : Promote l l') : hitCount l = hitCount l' := by
  cases h
  simp [hitCount, List.count_append]

theorem Ahead.length_eq {l l' : List Bool} (h : Ahead l l') : l.length = l'.length := by
  induction h with
  | refl => rfl
  | tail _ hstep ih => exact ih.trans hstep.length_eq

theorem Ahead.hitCount_eq {l l' : List Bool} (h : Ahead l l') : hitCount l = hitCount l' := by
  induction h with
  | refl => rfl
  | tail _ hstep ih => exact ih.trans hstep.hitCount_eq

theorem Ahead.ideal_eq {l l' : List Bool} (h : Ahead l l') : ideal l = ideal l' := by
  rw [ideal, ideal, h.length_eq, h.hitCount_eq]

/-! ## Gains -/

section Gains

variable {K : Type*} [Field K]

/-- The gains of the hits, by their positions; `pos` positions come before. -/
def gainSum (gain : Nat → K) (pos : Nat) : List Bool → K
  | [] => 0
  | true :: l => gain (pos + 1) + gainSum gain (pos + 1) l
  | false :: l => gainSum gain (pos + 1) l

theorem gainSum_append (gain : Nat → K) (pos : Nat) (l l' : List Bool) :
    gainSum gain pos (l ++ l') = gainSum gain pos l + gainSum gain (pos + l.length) l' := by
  induction l generalizing pos with
  | nil => simp [gainSum]
  | cons hit l ih =>
    have hpos : pos + 1 + l.length = pos + (hit :: l).length := by
      rw [List.length_cons]
      omega
    cases hit with
    | true => rw [List.cons_append, gainSum, gainSum, ih, hpos, add_assoc]
    | false => rw [List.cons_append, gainSum, gainSum, ih, hpos]

theorem gainSum_one (pos : Nat) (l : List Bool) :
    gainSum (fun _ => (1 : K)) pos l = (hitCount l : Nat) := by
  induction l generalizing pos with
  | nil => simp [gainSum]
  | cons hit l ih =>
    cases hit with
    | true => simp [gainSum, ih, add_comm]
    | false => simp [gainSum, ih]

variable [LinearOrder K] [IsStrictOrderedRing K]

theorem gainSum_nonneg {gain : Nat → K} (h : ∀ pos, 0 ≤ gain (pos + 1)) (pos : Nat)
    (l : List Bool) : 0 ≤ gainSum gain pos l := by
  induction l generalizing pos with
  | nil => exact le_refl _
  | cons hit l ih =>
    cases hit with
    | true => exact add_nonneg (h _) (ih _)
    | false => exact ih _

/-- Gains that fall with the position grow as hits are moved to the front. -/
theorem gainSum_promote {gain : Nat → K} (h : ∀ pos, gain (pos + 2) ≤ gain (pos + 1))
    (pos : Nat) {l l' : List Bool} (hpromote : Promote l l') :
    gainSum gain pos l ≤ gainSum gain pos l' := by
  cases hpromote with
  | swap u v =>
    rw [gainSum_append, gainSum_append]
    simp only [gainSum]
    have hgain := h (pos + u.length)
    linarith

omit [LinearOrder K] [IsStrictOrderedRing K] in
/-- The gains of a number of positions, as gains that end behind them. -/
theorem gainSum_take (gain : Nat → K) (pos k : Nat) (l : List Bool) :
    gainSum gain pos (l.take k) = gainSum (fun i => if i ≤ pos + k then gain i else 0) pos l := by
  induction l generalizing pos k with
  | nil => simp [gainSum]
  | cons hit l ih =>
    cases k with
    | zero =>
      have hzero : ∀ (pos' : Nat), pos ≤ pos' →
          gainSum (fun i => if i ≤ pos + 0 then gain i else 0) pos' (hit :: l) = 0 := by
        intro pos' hle
        generalize hit :: l = l'
        induction l' generalizing pos' with
        | nil => rfl
        | cons hit l' ih' =>
          have hrest := ih' (pos' + 1) (Nat.le_succ_of_le hle)
          cases hit with
          | true =>
            rw [gainSum, if_neg (by omega), hrest, zero_add]
          | false => rw [gainSum, hrest]
      rw [List.take_zero, hzero pos (le_refl pos), gainSum]
    | succ k =>
      have hpos : pos + 1 + k = pos + (k + 1) := by omega
      cases hit with
      | true => rw [List.take_succ_cons, gainSum, gainSum, ih, hpos, if_pos (by omega)]
      | false => rw [List.take_succ_cons, gainSum, gainSum, ih, hpos]

/-- The gains of the first positions grow as hits are moved to the front. -/
theorem gainSum_take_promote {gain : Nat → K} (hnonneg : ∀ pos, 0 ≤ gain (pos + 1))
    (h : ∀ pos, gain (pos + 2) ≤ gain (pos + 1)) (k : Nat) {l l' : List Bool}
    (hpromote : Promote l l') : gainSum gain 0 (l.take k) ≤ gainSum gain 0 (l'.take k) := by
  rw [gainSum_take, gainSum_take]
  refine gainSum_promote (fun pos => ?_) 0 hpromote
  by_cases hnext : pos + 2 ≤ 0 + k
  · rw [if_pos hnext, if_pos (by omega)]
    exact h pos
  · rw [if_neg hnext]
    split_ifs
    · exact hnonneg pos
    · exact le_refl _

/-- The first positions have more hits as hits are moved to the front. -/
theorem hitCount_take_promote (k : Nat) {l l' : List Bool} (hpromote : Promote l l') :
    (hitCount (l.take k) : K) ≤ hitCount (l'.take k) := by
  rw [← gainSum_one 0, ← gainSum_one 0]
  exact gainSum_take_promote (fun _ => zero_le_one) (fun _ => le_refl 1) k hpromote

end Gains

/-! ## Reciprocal rank -/

section ReciprocalRank

variable {K : Type*} [Field K]

def reciprocalRank (pos : Nat) : List Bool → K
  | [] => 0
  | true :: _ => 1 / ((pos + 1 : Nat) : K)
  | false :: l => reciprocalRank (pos + 1) l

theorem reciprocalRank_append_hit (pos : Nat) {l : List Bool} (l' : List Bool) (h : true ∈ l) :
    (reciprocalRank pos (l ++ l') : K) = reciprocalRank pos l := by
  induction l generalizing pos with
  | nil => cases h
  | cons hit l ih =>
    cases hit with
    | true => rfl
    | false => exact ih (pos + 1) ((List.mem_cons.mp h).resolve_left Bool.true_eq_false.mp)

theorem reciprocalRank_append_miss (pos : Nat) {l : List Bool} (l' : List Bool) (h : true ∉ l) :
    (reciprocalRank pos (l ++ l') : K) = reciprocalRank (pos + l.length) l' := by
  induction l generalizing pos with
  | nil => rfl
  | cons hit l ih =>
    have hpos : pos + 1 + l.length = pos + (hit :: l).length := by
      rw [List.length_cons]
      omega
    cases hit with
    | true => exact absurd List.mem_cons_self h
    | false =>
      rw [List.cons_append, reciprocalRank, ih _ fun hmem => h (List.mem_cons_of_mem false hmem),
        hpos]

variable [LinearOrder K] [IsStrictOrderedRing K]

theorem reciprocalRank_nonneg (pos : Nat) (l : List Bool) : (0 : K) ≤ reciprocalRank pos l := by
  induction l generalizing pos with
  | nil => exact le_refl _
  | cons hit l ih =>
    cases hit with
    | true =>
      rw [reciprocalRank]
      positivity
    | false => exact ih _

theorem reciprocalRank_le_one (pos : Nat) (l : List Bool) : (reciprocalRank pos l : K) ≤ 1 := by
  induction l generalizing pos with
  | nil => exact zero_le_one
  | cons hit l ih =>
    cases hit with
    | true =>
      rw [reciprocalRank, div_le_one (Nat.cast_pos.mpr (Nat.succ_pos pos))]
      exact Nat.one_le_cast.mpr (Nat.succ_pos pos)
    | false => exact ih _

theorem reciprocalRank_promote (pos : Nat) {l l' : List Bool} (h : Promote l l') :
    (reciprocalRank pos l : K) ≤ reciprocalRank pos l' := by
  cases h with
  | swap u v =>
    by_cases hu : true ∈ u
    · rw [reciprocalRank_append_hit pos _ hu, reciprocalRank_append_hit pos _ hu]
    · rw [reciprocalRank_append_miss pos _ hu, reciprocalRank_append_miss pos _ hu]
      simp only [reciprocalRank]
      refine one_div_le_one_div_of_le (Nat.cast_pos.mpr (Nat.succ_pos _)) ?_
      exact Nat.cast_le.mpr (Nat.le_succ _)

end ReciprocalRank

/-! ## Precision -/

section Precision

variable {K : Type*} [Field K]

def precisionSum (hits pos : Nat) : List Bool → K
  | [] => 0
  | true :: l =>
    ((hits + 1 : Nat) : K) / ((pos + 1 : Nat) : K) + precisionSum (hits + 1) (pos + 1) l
  | false :: l => precisionSum hits (pos + 1) l

theorem precisionSum_append (hits pos : Nat) (l l' : List Bool) :
    (precisionSum hits pos (l ++ l') : K) =
      precisionSum hits pos l + precisionSum (hits + hitCount l) (pos + l.length) l' := by
  induction l generalizing hits pos with
  | nil => simp [precisionSum]
  | cons hit l ih =>
    have hpos : pos + 1 + l.length = pos + (hit :: l).length := by
      rw [List.length_cons]
      omega
    cases hit with
    | true =>
      have hhits : hits + 1 + hitCount l = hits + hitCount (true :: l) := by
        simp only [hitCount, List.count_cons_self]
        omega
      rw [List.cons_append, precisionSum, precisionSum, ih, hpos, hhits, add_assoc]
    | false =>
      have hhits : hits + hitCount l = hits + hitCount (false :: l) := by simp [hitCount]
      rw [List.cons_append, precisionSum, precisionSum, ih, hpos, hhits]

theorem precisionSum_concat_hit (l : List Bool) :
    (precisionSum 0 0 (l ++ [true]) : K) =
      precisionSum 0 0 l + ((hitCount l + 1 : Nat) : K) / ((l.length + 1 : Nat) : K) := by
  rw [precisionSum_append]
  simp [precisionSum]

theorem precisionSum_concat_miss (l : List Bool) :
    (precisionSum 0 0 (l ++ [false]) : K) = precisionSum 0 0 l := by
  rw [precisionSum_append]
  simp [precisionSum]

theorem precisionSum_misses (hits pos n : Nat) :
    (precisionSum hits pos (List.replicate n false) : K) = 0 := by
  induction n generalizing pos with
  | zero => rfl
  | succ n ih => exact ih (pos + 1)

variable [LinearOrder K] [IsStrictOrderedRing K]

theorem precisionSum_nonneg (hits pos : Nat) (l : List Bool) :
    (0 : K) ≤ precisionSum hits pos l := by
  induction l generalizing hits pos with
  | nil => exact le_refl _
  | cons hit l ih =>
    cases hit with
    | true =>
      rw [precisionSum]
      have hih := ih (hits + 1) (pos + 1)
      positivity
    | false => exact ih _ _

theorem precisionSum_promote (hits pos : Nat) {l l' : List Bool} (h : Promote l l') :
    (precisionSum hits pos l : K) ≤ precisionSum hits pos l' := by
  cases h with
  | swap u v =>
    rw [precisionSum_append, precisionSum_append]
    simp only [precisionSum]
    have hgain : ((hits + hitCount u + 1 : Nat) : K) / ((pos + u.length + 1 + 1 : Nat) : K) ≤
        ((hits + hitCount u + 1 : Nat) : K) / ((pos + u.length + 1 : Nat) : K) := by
      refine div_le_div_of_nonneg_left (Nat.cast_nonneg _) (Nat.cast_pos.mpr (Nat.succ_pos _)) ?_
      exact Nat.cast_le.mpr (Nat.le_succ _)
    linarith

theorem precisionSum_le_hitCount (l : List Bool) :
    (precisionSum 0 0 l : K) ≤ (hitCount l : Nat) := by
  induction l using List.reverseRecOn with
  | nil => simp [precisionSum]
  | append_singleton l hit ih =>
    cases hit with
    | true =>
      have hone : ((hitCount l + 1 : Nat) : K) / ((l.length + 1 : Nat) : K) ≤ 1 := by
        rw [div_le_one (Nat.cast_pos.mpr (Nat.succ_pos _))]
        exact Nat.cast_le.mpr (Nat.succ_le_succ (hitCount_le_length l))
      have hcount : hitCount (l ++ [true]) = hitCount l + 1 := by simp [hitCount]
      calc precisionSum 0 0 (l ++ [true])
          = precisionSum 0 0 l + ((hitCount l + 1 : Nat) : K) / ((l.length + 1 : Nat) : K) :=
            precisionSum_concat_hit l
        _ ≤ (hitCount l : K) + 1 := add_le_add ih hone
        _ = ((hitCount (l ++ [true]) : Nat) : K) := by rw [hcount, Nat.cast_succ]
    | false =>
      have hcount : hitCount (l ++ [false]) = hitCount l := by simp [hitCount]
      rw [precisionSum_concat_miss, hcount]
      exact ih

theorem precisionSum_hits_first (hits n : Nat) :
    (precisionSum 0 0 (List.replicate hits true ++ List.replicate n false) : K) = hits := by
  have hhits : (precisionSum 0 0 (List.replicate hits true) : K) = hits := by
    induction hits with
    | zero => simp [precisionSum]
    | succ hits ih =>
      have hne : ((hits + 1 : Nat) : K) ≠ 0 := Nat.cast_ne_zero.mpr (Nat.succ_ne_zero _)
      have hcount : hitCount (List.replicate hits true) = hits := by simp [hitCount]
      rw [List.replicate_succ', precisionSum_concat_hit, ih, hcount, List.length_replicate,
        div_self hne, Nat.cast_succ]
  rw [precisionSum_append, hhits, precisionSum_misses, add_zero]

/-- No precision is below one in the number of positions. -/
theorem hitCount_div_le_precisionSum {n hits pos : Nat} {l : List Bool}
    (h : pos + l.length ≤ n) : (hitCount l : K) / n ≤ precisionSum hits pos l := by
  induction l generalizing hits pos with
  | nil => simp [precisionSum]
  | cons hit l ih =>
    rw [List.length_cons] at h
    cases hit with
    | true =>
      have hn : (0 : K) < n := Nat.cast_pos.mpr (by omega)
      have hpos : (0 : K) < ((pos + 1 : Nat) : K) := Nat.cast_pos.mpr (Nat.succ_pos _)
      have hprec : (1 : K) / n ≤ ((hits + 1 : Nat) : K) / ((pos + 1 : Nat) : K) := by
        refine div_le_div₀ (Nat.cast_nonneg _) ?_ hpos (Nat.cast_le.mpr (by omega))
        exact Nat.one_le_cast.mpr (Nat.succ_pos _)
      have hrest : (hitCount l : K) / n ≤ precisionSum (hits + 1) (pos + 1) l := ih (by omega)
      have hcount : hitCount (true :: l) = hitCount l + 1 := by simp [hitCount]
      rw [precisionSum, hcount, Nat.cast_succ, add_div]
      linarith
    | false =>
      have hcount : hitCount (false :: l) = hitCount l := by simp [hitCount]
      rw [precisionSum, hcount]
      exact ih (by omega)

/-! ## Imperfect rankings -/

/-- A position that is no hit comes before one that is. -/
def IsImperfect (l : List Bool) : Prop :=
  ∃ i j : Nat, i < j ∧ l[i]? = some false ∧ l[j]? = some true

theorem IsImperfect.cons {l : List Bool} (h : IsImperfect l) (hit : Bool) :
    IsImperfect (hit :: l) := by
  obtain ⟨i, j, hij, hi, hj⟩ := h
  exact ⟨i + 1, j + 1, Nat.succ_lt_succ hij, hi, hj⟩

theorem eq_ideal_of_not_isImperfect {l : List Bool} (h : ¬ IsImperfect l) : l = ideal l := by
  induction l with
  | nil => rfl
  | cons hit l ih =>
    cases hit with
    | true =>
      have hl := ih fun himperfect => h (himperfect.cons true)
      rw [ideal_cons_hit, ← hl]
    | false =>
      have hmisses : ∀ hit ∈ l, hit = false := by
        intro hit hhit
        cases hit with
        | false => rfl
        | true =>
          obtain ⟨j, hj⟩ := List.mem_iff_getElem?.mp hhit
          exact absurd ⟨0, j + 1, Nat.succ_pos j, rfl, hj⟩ h
      have hl : l = List.replicate l.length false := List.eq_replicate_of_mem hmisses
      have hcount : hitCount (false :: l) = 0 := by
        refine List.count_eq_zero.mpr fun hmem => ?_
        rcases List.mem_cons.mp hmem with htrue | hmem
        · cases htrue
        · cases hmisses true hmem
      rw [ideal, hcount, List.replicate_zero, List.nil_append, Nat.sub_zero, List.length_cons,
        List.replicate_succ, ← hl]

theorem precisionSum_of_not_isImperfect {l : List Bool} (h : ¬ IsImperfect l) :
    (precisionSum 0 0 l : K) = (hitCount l : Nat) := by
  have hl := eq_ideal_of_not_isImperfect h
  rw [hl, ideal, precisionSum_hits_first, ← ideal, ← hl]

/-- The least that an imperfect ranking loses: its last hit comes one position late. -/
theorem precisionSum_le_of_isImperfect {l : List Bool} (h : IsImperfect l) :
    (precisionSum 0 0 l : K) ≤ (hitCount l : Nat) - 1 / ((hitCount l + 1 : Nat) : K) := by
  induction l using List.reverseRecOn with
  | nil =>
    obtain ⟨i, j, hij, hi, hj⟩ := h
    cases hi
  | append_singleton l hit ih =>
    obtain ⟨i, j, hij, hi, hj⟩ := h
    have hjlt : j < l.length + 1 := by
      have hlt := (List.getElem?_eq_some_iff.mp hj).1
      rwa [List.length_append, List.length_singleton] at hlt
    have hi' : l[i]? = some false := by rwa [List.getElem?_append_left (by omega)] at hi
    cases hit with
    | false =>
      have hjne : j ≠ l.length := by
        rintro rfl
        simp at hj
      have hj' : l[j]? = some true := by rwa [List.getElem?_append_left (by omega)] at hj
      have hcount : hitCount (l ++ [false]) = hitCount l := by simp [hitCount]
      rw [precisionSum_concat_miss, hcount]
      exact ih ⟨i, j, hij, hi', hj'⟩
    | true =>
      have hlt : hitCount l + 1 ≤ l.length := hitCount_lt_length (List.mem_of_getElem? hi')
      have hle : (precisionSum 0 0 l : K) ≤ (hitCount l : Nat) := precisionSum_le_hitCount l
      have hcount : hitCount (l ++ [true]) = hitCount l + 1 := by simp [hitCount]
      have hlast : ((hitCount l + 1 : Nat) : K) / ((l.length + 1 : Nat) : K) ≤
          1 - 1 / ((hitCount l + 1 + 1 : Nat) : K) := by
        have hpos : (0 : K) < ((hitCount l + 1 + 1 : Nat) : K) := Nat.cast_pos.mpr (Nat.succ_pos _)
        have hone : (1 : K) - 1 / ((hitCount l + 1 + 1 : Nat) : K) =
            ((hitCount l + 1 : Nat) : K) / ((hitCount l + 1 + 1 : Nat) : K) := by
          rw [Nat.cast_succ (hitCount l + 1)] at hpos ⊢
          field_simp
          ring
        rw [hone]
        refine div_le_div_of_nonneg_left (Nat.cast_nonneg _) hpos ?_
        exact Nat.cast_le.mpr (by omega)
      rw [precisionSum_concat_hit, hcount]
      rw [Nat.cast_succ (hitCount l)] at hlast ⊢
      linarith

end Precision

end Lib
