import TrainFactory.Generation.PosNeg

/-!
# What the filter by average precision keeps

The rankings that can be trained on are those where something irrelevant comes before something
relevant. Up to a thousand positions, their average precision stays below one by more than the filter
allows. The classification loop appends a context to the list of the class of its position.
-/

namespace Generation

open Lib

/-- Something irrelevant comes before something relevant. -/
def IsTrainable (labels : List Nat) : Prop :=
  ∃ i j : Nat, i < j ∧ labels[i]? = some 0 ∧ labels[j]? = some 1

/-! ## Average precision -/

theorem foldl_precisionStep (labels : List Nat) (s : PrecisionState) (k : Nat) :
    (labels.zipIdx (k + 1)).foldl (fun (s : PrecisionState) label => s.step label.1 label.2) s =
      ⟨s.relevant + hitCount (hitsOf labels),
        s.sumPrec + precisionSum s.relevant k (hitsOf labels)⟩ := by
  induction labels generalizing s k with
  | nil => simp [hitsOf, precisionSum]
  | cons y labels ih =>
    rw [List.zipIdx_cons, List.foldl_cons, ih]
    by_cases hy : y = 0
    · subst hy
      simp [PrecisionState.step, precisionSum]
    · simp [hitsOf_cons_of_ne hy, hy, PrecisionState.step, precisionSum, add_assoc, add_comm 1]

theorem calculateAveragePrecision_eq (labels : List Nat) :
    calculateAveragePrecision labels =
      precisionSum 0 0 (hitsOf labels) / (hitCount (hitsOf labels) : Rat) := by
  cases labels with
  | nil => simp [calculateAveragePrecision, hitsOf]
  | cons y labels =>
    rw [calculateAveragePrecision, List.isEmpty_cons, if_neg Bool.false_ne_true,
      foldl_precisionStep]
    simp only [zero_add]
    by_cases hzero : hitCount (hitsOf (y :: labels)) = 0
    · rw [if_pos hzero, hzero, Nat.cast_zero, div_zero]
    · rw [if_neg hzero]

theorem isImperfect_hitsOf {labels : List Nat} (h : IsBinary labels) :
    IsImperfect (hitsOf labels) ↔ IsTrainable labels := by
  constructor
  · rintro ⟨i, j, hij, hi, hj⟩
    rw [hitsOf_getElem?, Option.map_eq_some_iff] at hi hj
    obtain ⟨y, hi, hy⟩ := hi
    obtain ⟨y', hj, hy'⟩ := hj
    refine ⟨i, j, hij, ?_, ?_⟩
    · rcases h y (List.mem_of_getElem? hi) with rfl | rfl
      · exact hi
      · cases hy
    · rcases h y' (List.mem_of_getElem? hj) with rfl | rfl
      · cases hy'
      · exact hj
  · rintro ⟨i, j, hij, hi, hj⟩
    refine ⟨i, j, hij, ?_, ?_⟩
    · rw [hitsOf_getElem?, hi]
      rfl
    · rw [hitsOf_getElem?, hj]
      rfl

theorem calculateAveragePrecision_nonneg (labels : List Nat) :
    0 ≤ calculateAveragePrecision labels := by
  rw [calculateAveragePrecision_eq]
  exact div_nonneg (precisionSum_nonneg 0 0 _) (Nat.cast_nonneg _)

theorem calculateAveragePrecision_le_one (labels : List Nat) :
    calculateAveragePrecision labels ≤ 1 := by
  rw [calculateAveragePrecision_eq]
  exact div_le_one_of_le₀ (precisionSum_le_hitCount _) (Nat.cast_nonneg _)

theorem calculateAveragePrecision_of_perfect {labels : List Nat}
    (h : ¬ IsImperfect (hitsOf labels)) (hhit : hitCount (hitsOf labels) ≠ 0) :
    calculateAveragePrecision labels = 1 := by
  rw [calculateAveragePrecision_eq, precisionSum_of_not_isImperfect h]
  exact div_self (Nat.cast_ne_zero.mpr hhit)

theorem epsilon_lt_calculateAveragePrecision {labels : List Nat} (hlen : labels.length ≤ 1000)
    (hhit : hitCount (hitsOf labels) ≠ 0) :
    trainingEpsilon < calculateAveragePrecision labels := by
  have hpos : (0 : Rat) < hitCount (hitsOf labels) :=
    Nat.cast_pos.mpr (Nat.pos_of_ne_zero hhit)
  have hsum : (hitCount (hitsOf labels) : Rat) / (1000 : Nat) ≤ precisionSum 0 0 (hitsOf labels) :=
    hitCount_div_le_precisionSum (by simpa [hitsOf] using hlen)
  have hap : (1 : Rat) / (1000 : Nat) ≤ calculateAveragePrecision labels := by
    rw [calculateAveragePrecision_eq, le_div_iff₀ hpos, one_div_mul_eq_div]
    exact hsum
  refine lt_of_lt_of_le ?_ hap
  norm_num [trainingEpsilon]

/-- An imperfect ranking of at most a thousand positions stays below one by more than the filter's
bound: the worst case has 999 hits, the last one position late. -/
theorem calculateAveragePrecision_lt_of_imperfect {labels : List Nat}
    (hlen : labels.length ≤ 1000) (h : IsImperfect (hitsOf labels)) :
    calculateAveragePrecision labels < 1 - trainingEpsilon := by
  obtain ⟨i, j, hij, hi, hj⟩ := id h
  set hits := hitCount (hitsOf labels) with hhits
  have hpos : 0 < hits := List.count_pos_iff.mpr (List.mem_of_getElem? hj)
  have hlt : hits + 1 ≤ 1000 := by
    have hcount := hitCount_lt_length (List.mem_of_getElem? hi)
    have hlength := hitsOf_length labels
    omega
  have hposQ : (0 : Rat) < hits := Nat.cast_pos.mpr hpos
  have hltQ : (hits : Rat) + 1 ≤ 1000 := by exact_mod_cast hlt
  have hloss : trainingEpsilon * hits < 1 / ((hits + 1 : Nat) : Rat) := by
    rw [lt_div_iff₀ (Nat.cast_pos.mpr (Nat.succ_pos _)), Nat.cast_succ, trainingEpsilon]
    nlinarith
  rw [calculateAveragePrecision_eq, ← hhits, div_lt_iff₀ hposQ]
  have hsum : (precisionSum 0 0 (hitsOf labels) : Rat) ≤ hits - 1 / ((hits + 1 : Nat) : Rat) :=
    precisionSum_le_of_isImperfect h
  linarith

/-! ## The first and the last relevant position -/

theorem posIdx_concat (verdicts : List Nat) (v : Nat) :
    posIdx (verdicts ++ [v]) = (posIdx verdicts).step v verdicts.length := by
  simp [posIdx, List.zipIdx_append]

/-- What the loop finds: nothing, or the first and the last relevant position. -/
theorem posIdx_spec (verdicts : List Nat) :
    (posIdx verdicts = ⟨-1, -1⟩ ∧ ∀ j : Nat, verdicts[j]? ≠ some 1) ∨
    ∃ first last : Nat, posIdx verdicts = ⟨first, last⟩ ∧ verdicts[first]? = some 1 ∧
      verdicts[last]? = some 1 ∧ ∀ j : Nat, verdicts[j]? = some 1 → first ≤ j ∧ j ≤ last := by
  induction verdicts using List.reverseRecOn with
  | nil =>
    left
    refine ⟨rfl, fun j hj => ?_⟩
    cases hj
  | append_singleton verdicts v ih =>
    have hlast : (verdicts ++ [v])[verdicts.length]? = some v := List.getElem?_concat_length
    have hbefore : ∀ j : Nat, (verdicts ++ [v])[j]? = some 1 → j ≠ verdicts.length →
        verdicts[j]? = some 1 ∧ j < verdicts.length := by
      intro j hj hne
      have hlt := (List.getElem?_eq_some_iff.mp hj).1
      rw [List.length_append, List.length_singleton] at hlt
      have hj' : j < verdicts.length := by omega
      rw [List.getElem?_append_left hj'] at hj
      exact ⟨hj, hj'⟩
    have hkept : ∀ j : Nat, verdicts[j]? = some 1 → (verdicts ++ [v])[j]? = some 1 := by
      intro j hj
      rwa [List.getElem?_append_left (List.getElem?_eq_some_iff.mp hj).1]
    rw [posIdx_concat]
    by_cases hv : v = 1
    · subst hv
      right
      rcases ih with ⟨hidx, hnone⟩ | ⟨first, last, hidx, hfirst, -, hall⟩
      · refine ⟨verdicts.length, verdicts.length, ?_, hlast, hlast, fun j hj => ?_⟩
        · rw [hidx]
          rfl
        · by_contra hne
          have hjlen : j ≠ verdicts.length := by
            rintro rfl
            exact hne ⟨le_refl _, le_refl _⟩
          exact hnone j (hbefore j hj hjlen).1
      · refine ⟨first, verdicts.length, ?_, hkept first hfirst, hlast, fun j hj => ?_⟩
        · have hne : (first : Int) ≠ -1 := by omega
          rw [hidx, PosIdx.step, if_pos rfl, if_neg hne]
        · have hle : first < verdicts.length := (List.getElem?_eq_some_iff.mp hfirst).1
          by_cases hjlen : j = verdicts.length
          · omega
          · obtain ⟨hj, hjlt⟩ := hbefore j hj hjlen
            have hfj := (hall j hj).1
            omega
    · rw [PosIdx.step, if_neg hv]
      have hbefore' : ∀ j : Nat, (verdicts ++ [v])[j]? = some 1 → verdicts[j]? = some 1 := by
        intro j hj
        refine (hbefore j hj ?_).1
        rintro rfl
        rw [hlast] at hj
        exact hv (Option.some.inj hj)
      rcases ih with ⟨hidx, hnone⟩ | ⟨first, last, hidx, hfirst, hlast', hall⟩
      · exact .inl ⟨hidx, fun j hj => hnone j (hbefore' j hj)⟩
      · exact .inr ⟨first, last, hidx, hkept first hfirst, hkept last hlast',
          fun j hj => hall j (hbefore' j hj)⟩

theorem classOf_eq_medium_iff {verdicts : List Nat} {i : Nat} :
    (posIdx verdicts).classOf i = .medium ↔
      (∃ j : Nat, verdicts[j]? = some 1) ∧ ∀ j : Nat, verdicts[j]? = some 1 → j < i := by
  rcases posIdx_spec verdicts with ⟨hidx, hnone⟩ | ⟨first, last, hidx, hfirst, hlast, hall⟩
  · rw [hidx, PosIdx.classOf, if_pos rfl]
    refine iff_of_false NegativeClass.noConfusion ?_
    rintro ⟨⟨j, hj⟩, -⟩
    exact hnone j hj
  · have hne : (first : Int) ≠ -1 := by omega
    have hle := (hall last hlast).1
    rw [hidx, PosIdx.classOf, if_neg hne]
    constructor
    · intro hclass
      refine ⟨⟨first, hfirst⟩, fun j hj => ?_⟩
      have hj' := (hall j hj).2
      by_contra hij
      have hli : ¬ (last : Int) < i := by omega
      rw [if_neg hli] at hclass
      split at hclass <;> cases hclass
    · rintro ⟨-, hbefore⟩
      have hli := hbefore last hlast
      have hfi : ¬ (i : Int) < first := by omega
      have hli' : (last : Int) < i := by exact_mod_cast hli
      rw [if_neg hfi, if_pos hli']

/-! ## The classification loop -/

/-- Whether the loop records the text of a relevant context as seen. -/
def ClassifyFlags.recordsPositives (flags : ClassifyFlags) : Bool :=
  !flags.statementMode && flags.supplementPositives

@[simp]
theorem Classification.collect_seenContents (s : Classification) (ctx : String) :
    (s.collect ctx).seenContents = s.seenContents := by
  unfold collect
  split <;> rfl

@[simp]
theorem Classification.collect_negs (s : Classification) (ctx : String) :
    (s.collect ctx).negs = s.negs := by
  unfold collect
  split <;> rfl

/-- What a step does to the seen texts and the negatives. -/
inductive ClassifyStep (flags : ClassifyFlags) (idx : PosIdx) (s : Classification) (ctx : String)
    (v i : Nat) (s' : Classification) : Prop
  /-- The text has been seen. -/
  | seen (hseen : strip ctx ∈ s.seenContents) (h : s' = s)
  | recorded (hseen : strip ctx ∉ s.seenContents) (hv : v = 1)
      (hflags : flags.recordsPositives = true)
      (hcontents : s'.seenContents = strip ctx :: s.seenContents) (hnegs : s'.negs = s.negs)
  | unrecorded (hseen : strip ctx ∉ s.seenContents) (hv : v = 1)
      (hflags : flags.recordsPositives = false)
      (hcontents : s'.seenContents = s.seenContents) (hnegs : s'.negs = s.negs)
  | negative (hseen : strip ctx ∉ s.seenContents) (hv : v ≠ 1)
      (hcontents : s'.seenContents = strip ctx :: s.seenContents)
      (hnegs : s'.negs = s.negs.add ctx (idx.classOf i))

theorem Classification.step_cases (flags : ClassifyFlags) (idx : PosIdx) (s : Classification)
    (ctx : String) (v i : Nat) : ClassifyStep flags idx s ctx v i (s.step flags idx ctx v i) := by
  by_cases hseen : strip ctx ∈ s.seenContents
  · exact .seen hseen (if_pos hseen)
  by_cases hv : v = 1
  · rw [step, if_neg hseen, if_pos hv]
    cases hmode : flags.statementMode with
    | true =>
      exact .unrecorded hseen hv (by simp [ClassifyFlags.recordsPositives, hmode]) (by simp)
        (by simp)
    | false =>
      cases hsupp : flags.supplementPositives with
      | false =>
        exact .unrecorded hseen hv (by simp [ClassifyFlags.recordsPositives, hsupp]) (by simp)
          (by simp)
      | true =>
        refine .recorded hseen hv (by simp [ClassifyFlags.recordsPositives, hmode, hsupp]) ?_ ?_
        · cases flags.evidence <;> simp
        · cases flags.evidence <;> simp
  · rw [step, if_neg hseen, if_neg hv]
    exact .negative hseen hv rfl rfl

theorem Negatives.mem_of_add {α : Type} {negs : Negatives α} {x y : α} {c c' : NegativeClass} :
    x ∈ (negs.add y c').of c ↔ x ∈ negs.of c ∨ x = y ∧ c = c' := by
  cases c <;> cases c' <;> simp [Negatives.add, Negatives.of]

/-- An irrelevant context of a class, at a position where no context before has recorded its text.
The positions count from `k`. -/
def IsNegativeOf (flags : ClassifyFlags) (idx : PosIdx) (c : NegativeClass)
    (entries : List (String × Nat)) (k : Nat) (x : String) : Prop :=
  ∃ (i v : Nat), entries[i]? = some (x, v) ∧ v ≠ 1 ∧ idx.classOf (k + i) = c ∧
    ∀ (j : Nat) (y : String) (w : Nat), j < i → entries[j]? = some (y, w) → strip y = strip x →
      w = 1 ∧ flags.recordsPositives = false

theorem isNegativeOf_cons {flags : ClassifyFlags} {idx : PosIdx} {c : NegativeClass}
    {ctx : String} {v : Nat} {entries : List (String × Nat)} {k : Nat} {x : String} :
    IsNegativeOf flags idx c ((ctx, v) :: entries) k x ↔
      x = ctx ∧ v ≠ 1 ∧ idx.classOf k = c ∨
      (strip ctx = strip x → v = 1 ∧ flags.recordsPositives = false) ∧
        IsNegativeOf flags idx c entries (k + 1) x := by
  constructor
  · rintro ⟨i, v', hi, hv, hclass, hbefore⟩
    cases i with
    | zero =>
      simp only [List.getElem?_cons_zero, Option.some.injEq, Prod.mk.injEq] at hi
      obtain ⟨rfl, rfl⟩ := hi
      exact .inl ⟨rfl, hv, hclass⟩
    | succ i =>
      refine .inr ⟨hbefore 0 ctx v (Nat.succ_pos i) rfl, i, v', hi, hv, ?_, ?_⟩
      · rwa [Nat.add_assoc, Nat.add_comm 1]
      · exact fun j y w hj => hbefore (j + 1) y w (Nat.succ_lt_succ hj)
  · rintro (⟨rfl, hv, hclass⟩ | ⟨hctx, i, v', hi, hv, hclass, hbefore⟩)
    · exact ⟨0, v, rfl, hv, hclass, fun j y w hj => absurd hj (Nat.not_lt_zero j)⟩
    · refine ⟨i + 1, v', hi, hv, ?_, fun j y w hj hy htext => ?_⟩
      · rwa [Nat.add_comm i, ← Nat.add_assoc]
      · cases j with
        | zero =>
          simp only [List.getElem?_cons_zero, Option.some.injEq, Prod.mk.injEq] at hy
          obtain ⟨rfl, rfl⟩ := hy
          exact hctx htext
        | succ j => exact hbefore j y w (Nat.lt_of_succ_lt_succ hj) hy htext

theorem mem_foldl_classify {flags : ClassifyFlags} {idx : PosIdx} {entries : List (String × Nat)}
    {k : Nat} {s : Classification} {x : String} {c : NegativeClass} :
    x ∈ ((entries.zipIdx k).foldl (fun (s : Classification) entry =>
        s.step flags idx entry.1.1 entry.1.2 entry.2) s).negs.of c ↔
      x ∈ s.negs.of c ∨ strip x ∉ s.seenContents ∧ IsNegativeOf flags idx c entries k x := by
  induction entries generalizing k s with
  | nil => simp [IsNegativeOf]
  | cons entry entries ih =>
    obtain ⟨ctx, v⟩ := entry
    rw [List.zipIdx_cons, List.foldl_cons, ih, isNegativeOf_cons]
    cases s.step_cases flags idx ctx v k with
    | seen hseen h =>
      rw [h]
      have hne : strip x ∉ s.seenContents → strip ctx ≠ strip x := by
        rintro hx heq
        exact hx (heq ▸ hseen)
      grind
    | recorded hseen hv hflags hcontents hnegs =>
      rw [hcontents, hnegs]
      grind
    | unrecorded hseen hv hflags hcontents hnegs =>
      rw [hcontents, hnegs]
      grind
    | negative hseen hv hcontents hnegs =>
      rw [hcontents, hnegs, Negatives.mem_of_add]
      grind

/-- A negative whose text is new goes to the class of its position. -/
theorem mem_classify {flags : ClassifyFlags} {contexts : List String} {labels : List Nat}
    {s : Classification} {i : Nat} {ctx : String} (hlabel : labels[i]? = some 0)
    (hctx : contexts[i]? = some ctx) (hseen : strip ctx ∉ s.seenContents)
    (hfirst : ∀ (j : Nat) (y : String), j < i → contexts[j]? = some y → strip y ≠ strip ctx) :
    ctx ∈ (classify flags contexts labels s).negs.of ((posIdx labels).classOf i) := by
  rw [classify, mem_foldl_classify]
  refine .inr ⟨hseen, i, 0, List.getElem?_zip_eq_some.mpr ⟨hctx, hlabel⟩, Nat.zero_ne_one,
    by rw [Nat.zero_add], ?_⟩
  intro j y w hj hy htext
  exact absurd htext (hfirst j y hj (List.getElem?_zip_eq_some.mp hy).1)

/-- The loop appends an irrelevant context, whose text it has not seen before, to the list of the class
of its position, and to no other. -/
theorem mem_classify_iff {flags : ClassifyFlags} {contexts : List String} {labels : List Nat}
    {s : Classification} {i : Nat} {ctx : String} (hlabel : labels[i]? = some 0)
    (hctx : contexts[i]? = some ctx) (hseen : strip ctx ∉ s.seenContents)
    (hfirst : ∀ (j : Nat) (y : String), j < i → contexts[j]? = some y → strip y ≠ strip ctx)
    (hnegs : ∀ c, ctx ∉ s.negs.of c) (c : NegativeClass) :
    ctx ∈ (classify flags contexts labels s).negs.of c ↔ c = (posIdx labels).classOf i := by
  have hentry : ∀ {j : Nat} {y : String} {w : Nat}, (contexts.zip labels)[j]? = some (y, w) →
      contexts[j]? = some y ∧ labels[j]? = some w := fun h => List.getElem?_zip_eq_some.mp h
  have hi : (contexts.zip labels)[i]? = some (ctx, 0) :=
    List.getElem?_zip_eq_some.mpr ⟨hctx, hlabel⟩
  constructor
  · rw [classify, mem_foldl_classify]
    rintro (hmem | ⟨-, j, v, hj, hv, hclass, hbefore⟩)
    · exact absurd hmem (hnegs c)
    · have hij : j = i := by
        rcases Nat.lt_trichotomy j i with hlt | heq | hlt
        · exact absurd rfl (hfirst j ctx hlt (hentry hj).1)
        · exact heq
        · exact absurd (hbefore i ctx 0 hlt hi rfl).1 Nat.zero_ne_one
      rw [← hclass, hij, Nat.zero_add]
  · rintro rfl
    exact mem_classify hlabel hctx hseen hfirst

/-! ## The filter -/

theorem checkTrainingValue_iff {ap epsilon : Rat} :
    (checkTrainingValue ap true true epsilon).1 = true ↔ ap < 1 - epsilon ∧ epsilon < ap := by
  rw [checkTrainingValue]
  by_cases hperfect : 1 - epsilon ≤ ap
  · rw [if_pos ⟨rfl, hperfect⟩]
    exact iff_of_false Bool.false_ne_true fun h => absurd h.1 (not_lt.mpr hperfect)
  · rw [if_neg fun h => hperfect h.2]
    by_cases hzero : ap ≤ epsilon
    · rw [if_pos ⟨rfl, hzero⟩]
      exact iff_of_false Bool.false_ne_true fun h => absurd h.2 (not_lt.mpr hzero)
    · rw [if_neg fun h => hzero h.2]
      exact iff_of_true rfl ⟨not_le.mp hperfect, not_le.mp hzero⟩

theorem checkTrainingValue_iff_imperfect {labels : List Nat} (hlen : labels.length ≤ 1000) :
    (checkTrainingValue (calculateAveragePrecision labels) true true trainingEpsilon).1 = true ↔
      IsImperfect (hitsOf labels) := by
  have heps : 0 < trainingEpsilon := by norm_num [trainingEpsilon]
  rw [checkTrainingValue_iff]
  constructor
  · rintro ⟨hlt, hgt⟩
    by_contra hperfect
    have hhit : hitCount (hitsOf labels) ≠ 0 := by
      intro hzero
      rw [calculateAveragePrecision_eq, hzero, Nat.cast_zero, div_zero] at hgt
      exact absurd hgt (not_lt.mpr heps.le)
    rw [calculateAveragePrecision_of_perfect hperfect hhit] at hlt
    linarith
  · intro h
    obtain ⟨i, j, -, -, hj⟩ := id h
    have hhit : hitCount (hitsOf labels) ≠ 0 :=
      (List.count_pos_iff.mpr (List.mem_of_getElem? hj)).ne'
    exact ⟨calculateAveragePrecision_lt_of_imperfect hlen h,
      epsilon_lt_calculateAveragePrecision hlen hhit⟩

theorem IsTrainable.hard {labels : List Nat} (h : IsTrainable labels) :
    ∃ i : Nat, labels[i]? = some 0 ∧
      ((posIdx labels).classOf i = .veryHard ∨ (posIdx labels).classOf i = .hard) := by
  obtain ⟨i, j, hij, hi, hj⟩ := h
  refine ⟨i, hi, ?_⟩
  cases hclass : (posIdx labels).classOf i with
  | veryHard => exact .inl rfl
  | hard => exact .inr rfl
  | medium =>
    have hbehind := (classOf_eq_medium_iff.mp hclass).2 j hj
    omega

/-- The texts of the contexts are pairwise distinct and have not been seen. -/
structure HasNewTexts (contexts : List String) (s : Classification) : Prop where
  unseen : ∀ ctx ∈ contexts, strip ctx ∉ s.seenContents
  nodup : (contexts.map strip).Nodup

theorem HasNewTexts.first {contexts : List String} {s : Classification}
    (h : HasNewTexts contexts s) {i : Nat} {ctx : String} (hctx : contexts[i]? = some ctx) :
    ∀ (j : Nat) (y : String), j < i → contexts[j]? = some y → strip y ≠ strip ctx := by
  intro j y hj hy htext
  have htexts : (contexts.map strip)[j]? = (contexts.map strip)[i]? := by
    rw [List.getElem?_map, List.getElem?_map, hy, hctx, Option.map_some, Option.map_some, htext]
  have hlt : j < (contexts.map strip).length := by
    rw [List.length_map]
    exact (List.getElem?_eq_some_iff.mp hy).1
  exact absurd ((List.getElem?_inj hlt h.nodup).mp htexts) (Nat.ne_of_lt hj)

/-- The filter by average precision keeps exactly the rankings that can be trained on. They have an
irrelevant position that is very hard or hard, and where the texts of the contexts are new, the
classification loop yields such a negative, and puts each irrelevant position into one class. -/
theorem checkTrainingValue_iff_trainable {labels : List Nat} (hbinary : IsBinary labels)
    (hlen : labels.length ≤ 1000) :
    (0 ≤ calculateAveragePrecision labels ∧ calculateAveragePrecision labels ≤ 1) ∧
    ((checkTrainingValue (calculateAveragePrecision labels) true true trainingEpsilon).1 = true ↔
      IsTrainable labels) ∧
    ((checkTrainingValue (calculateAveragePrecision labels) true true trainingEpsilon).1 = true →
      (∃ i : Nat, labels[i]? = some 0 ∧
        ((posIdx labels).classOf i = .veryHard ∨ (posIdx labels).classOf i = .hard)) ∧
      ∀ (flags : ClassifyFlags) (contexts : List String) (s : Classification),
        contexts.length = labels.length → HasNewTexts contexts s →
        (classify flags contexts labels s).negs.veryHard ++
          (classify flags contexts labels s).negs.hard ≠ []) ∧
    ∀ (flags : ClassifyFlags) (contexts : List String) (s : Classification) (i : Nat)
      (ctx : String), labels[i]? = some 0 → contexts[i]? = some ctx → strip ctx ∉ s.seenContents →
      (∀ (j : Nat) (y : String), j < i → contexts[j]? = some y → strip y ≠ strip ctx) →
      (∀ c, ctx ∉ s.negs.of c) → ∀ c,
      (ctx ∈ (classify flags contexts labels s).negs.of c ↔ c = (posIdx labels).classOf i) := by
  have hkept := (checkTrainingValue_iff_imperfect hlen).trans (isImperfect_hitsOf hbinary)
  refine ⟨⟨calculateAveragePrecision_nonneg labels, calculateAveragePrecision_le_one labels⟩,
    hkept, fun h => ⟨(hkept.mp h).hard, ?_⟩, ?_⟩
  · intro flags contexts s hlength hnew
    obtain ⟨i, hlabel, hclass⟩ := (hkept.mp h).hard
    have hi : i < contexts.length := hlength ▸ (List.getElem?_eq_some_iff.mp hlabel).1
    have hctx : contexts[i]? = some contexts[i] := List.getElem?_eq_getElem hi
    have hmem : contexts[i] ∈ (classify flags contexts labels s).negs.of ((posIdx labels).classOf i) :=
      mem_classify hlabel hctx (hnew.unseen _ (List.getElem_mem hi)) (hnew.first hctx)
    rcases hclass with hclass | hclass
    · rw [hclass] at hmem
      exact List.append_ne_nil_of_left_ne_nil (List.ne_nil_of_mem hmem) _
    · rw [hclass] at hmem
      exact List.append_ne_nil_of_right_ne_nil _ (List.ne_nil_of_mem hmem)
  · intro flags contexts s i ctx hlabel hctx hseen hfirst hnegs c
    exact mem_classify_iff hlabel hctx hseen hfirst hnegs c

/-- The start of the loop for a record whose source has a text. -/
def sourceSeen (text : String) : Classification := ⟨[], [text], [], [], ⟨[], [], []⟩⟩

theorem checkTrainingValue_miss_hit :
    calculateAveragePrecision [0, 1] ≤ 1 ∧
    (checkTrainingValue (calculateAveragePrecision [0, 1]) true true trainingEpsilon).1 = true ∧
    (classify ⟨false, false, false⟩ ["near", "relevant"] [0, 1] (sourceSeen "src")).negs.veryHard ++
      (classify ⟨false, false, false⟩ ["near", "relevant"] [0, 1] (sourceSeen "src")).negs.hard ≠
      [] := by
  have hbinary : IsBinary [0, 1] := by simp [IsBinary]
  obtain ⟨hbounds, hkept, hhard, -⟩ := checkTrainingValue_iff_trainable hbinary (by decide)
  have hvalue := hkept.mpr ⟨0, 1, Nat.zero_lt_one, rfl, rfl⟩
  have hnew : HasNewTexts ["near", "relevant"] (sourceSeen "src") :=
    ⟨by decide +kernel, by decide +kernel⟩
  exact ⟨hbounds.2, hvalue, (hhard hvalue).2 ⟨false, false, false⟩ _ _ rfl hnew⟩

/-- The only negative of a ranking that is kept repeats the text of the source: the loop passes over
it, and there is no negative. -/
theorem checkTrainingValue_seen_negative :
    (checkTrainingValue (calculateAveragePrecision [0, 1]) true true trainingEpsilon).1 = true ∧
    (classify ⟨false, false, false⟩ ["src ", "relevant"] [0, 1] (sourceSeen "src")).negs =
      ⟨[], [], []⟩ := by
  decide +kernel

end Generation
