import Mathlib.Analysis.SpecialFunctions.Log.Base
import TrainFactory.DeepEvaluation.Proofs.RankingOrderProofs
import TrainFactory.Lib.Result

/-!
# Offline ranking metrics

The metrics are functions of the hits as they are ranked. They lie between zero and one, and grow as
hits come to the front; how the documents are laid out does not matter to them, but for a positive
and a negative of one score.
-/

namespace DeepEvaluation

open Lib

section Values

variable {K : Type*} [Field K] (py : RowReader) (log2 : Nat → K)

/-! ## The loops -/

def dcgGain (pos : Nat) : K := 1 / log2 (pos + 1)

theorem dcgFrom_eq {labels : List Nat} (h : IsBinary labels) (pos : Nat) :
    dcgFrom log2 (pos + 1) labels = gainSum (dcgGain log2) pos (hitsOf labels) := by
  induction labels generalizing pos with
  | nil => rfl
  | cons rel labels ih =>
    rcases h rel List.mem_cons_self with rfl | rfl
    · rw [dcgFrom, if_pos rfl, ih h.of_cons, hitsOf_cons_zero, gainSum]
    · rw [dcgFrom, if_neg Nat.one_ne_zero, ih h.of_cons, hitsOf_cons_of_ne Nat.one_ne_zero, gainSum]
      simp [dcgGain]

theorem reciprocalRankFrom_eq (labels : List Nat) (pos : Nat) :
    (reciprocalRankFrom (pos + 1) labels : K) = reciprocalRank pos (hitsOf labels) := by
  induction labels generalizing pos with
  | nil => rfl
  | cons label labels ih =>
    by_cases hlabel : label = 0
    · subst hlabel
      rw [reciprocalRankFrom, if_neg (not_not.mpr rfl), ih, hitsOf_cons_zero, reciprocalRank]
    · rw [reciprocalRankFrom, if_pos hlabel, hitsOf_cons_of_ne hlabel, reciprocalRank]

theorem sumPrecFrom_eq (labels : List Nat) (hit pos : Nat) :
    (sumPrecFrom hit (pos + 1) labels : K) = precisionSum hit pos (hitsOf labels) := by
  induction labels generalizing hit pos with
  | nil => rfl
  | cons label labels ih =>
    by_cases hlabel : label = 0
    · subst hlabel
      rw [sumPrecFrom, if_neg (not_not.mpr rfl), ih, hitsOf_cons_zero, precisionSum]
    · rw [sumPrecFrom, if_pos hlabel, ih, hitsOf_cons_of_ne hlabel, precisionSum]

theorem dcg_eq {labels : List Nat} (h : IsBinary labels) (k : Nat) :
    dcg log2 labels k = gainSum (dcgGain log2) 0 ((hitsOf labels).take k) := by
  have htake : IsBinary (labels.take k) := fun y hy => h y (List.mem_of_mem_take hy)
  rw [dcg, dcgFrom_eq log2 htake, hitsOf_take]

theorem sum_take_eq {labels : List Nat} (h : IsBinary labels) (k : Nat) :
    (labels.take k).sum = hitCount ((hitsOf labels).take k) := by
  have htake : IsBinary (labels.take k) := fun y hy => h y (List.mem_of_mem_take hy)
  rw [sum_eq_hitCount htake, hitsOf_take]

/-! ## Values by the hits -/

def hitsValue (metric : String) (hits : List Bool) : Option K :=
  let (name, k) := parseMetric py metric
  let cutoff := cutoffOf k hits.length
  if name = "mrr" then some (reciprocalRank 0 hits)
  else if name = "map" then some (precisionSum 0 0 hits / (hitCount hits : K))
  else if name = "ndcg" then
    some (if cutoff ≤ 0 then 0
      else gainSum (dcgGain log2) 0 (hits.take cutoff.toNat) /
        gainSum (dcgGain log2) 0 ((ideal hits).take cutoff.toNat))
  else if name = "recall" ∨ name = "precision" then
    let cutoff := min cutoff hits.length
    some (if cutoff ≤ 0 then 0
      else (hitCount (hits.take cutoff.toNat) : K) /
        (if name = "recall" then (hitCount hits : K) else (cutoff.toNat : K)))
  else none

theorem hitsOf_sorted {labels ranked : List Nat} (h : IsBinary labels)
    (hperm : ranked.Perm labels) : hitsOf (labels.insertionSort (· ≥ ·)) = ideal (hitsOf ranked) := by
  have hsorted : (labels.insertionSort (· ≥ ·)).Pairwise (· ≥ ·) :=
    List.pairwise_insertionSort (· ≥ ·) labels
  have hbinary : IsBinary (labels.insertionSort (· ≥ ·)) :=
    fun y hy => h y ((List.mem_insertionSort _).mp hy)
  have hperfect : ¬ IsImperfect (hitsOf (labels.insertionSort (· ≥ ·))) := by
    rintro ⟨i, j, hij, hi, hj⟩
    rw [hitsOf_getElem?, Option.map_eq_some_iff] at hi hj
    obtain ⟨y, hi, hy⟩ := hi
    obtain ⟨y', hj, hy'⟩ := hj
    obtain ⟨hilt, rfl⟩ := List.getElem?_eq_some_iff.mp hi
    obtain ⟨hjlt, rfl⟩ := List.getElem?_eq_some_iff.mp hj
    have hle := List.pairwise_iff_getElem.mp hsorted i j hilt hjlt hij
    have hzero : (labels.insertionSort (· ≥ ·))[i] = 0 := by simpa using hy
    have hne : (labels.insertionSort (· ≥ ·))[j] ≠ 0 := by simpa using hy'
    omega
  rw [eq_ideal_of_not_isImperfect hperfect]
  refine ideal_eq_of_perm (List.Perm.map _ ?_)
  exact (List.perm_insertionSort _ labels).trans hperm.symm

variable [LinearOrder K] [IsStrictOrderedRing K]

/-- The logarithm as the metrics use it: it is positive from two on, and grows. -/
structure IsLogarithm : Prop where
  pos : ∀ n, 2 ≤ n → 0 < log2 n
  mono : ∀ n, 2 ≤ n → log2 n ≤ log2 (n + 1)

variable {log2}

theorem IsLogarithm.gain_nonneg (h : IsLogarithm log2) (pos : Nat) : 0 ≤ dcgGain log2 (pos + 1) :=
  one_div_nonneg.mpr (h.pos (pos + 2) (by omega)).le

theorem IsLogarithm.gain_antitone (h : IsLogarithm log2) (pos : Nat) :
    dcgGain log2 (pos + 2) ≤ dcgGain log2 (pos + 1) :=
  one_div_le_one_div_of_le (h.pos (pos + 2) (by omega)) (h.mono (pos + 2) (by omega))

theorem metricValue_eq {labels ranked : List Nat} (h : IsBinary labels)
    (hperm : ranked.Perm labels) (hlog : IsLogarithm log2) (metric : String) :
    metricValue py log2 ranked labels metric = hitsValue py log2 metric (hitsOf ranked) := by
  have hranked : IsBinary ranked := fun y hy => h y (hperm.mem_iff.mp hy)
  have hsum : labels.sum = hitCount (hitsOf ranked) := by
    rw [← hperm.sum_eq, sum_eq_hitCount hranked]
  have hsorted : IsBinary (labels.insertionSort (· ≥ ·)) :=
    fun y hy => h y ((List.mem_insertionSort _).mp hy)
  rw [metricValue, hitsValue]
  cases hparse : parseMetric py metric with
  | mk name k =>
    dsimp only
    rw [hitsOf_length, hsum]
    by_cases hmrr : name = "mrr"
    · rw [if_pos hmrr, if_pos hmrr, reciprocalRankFrom_eq ranked 0]
    rw [if_neg hmrr, if_neg hmrr]
    by_cases hmap : name = "map"
    · rw [if_pos hmap, if_pos hmap, sumPrecFrom_eq ranked 0 0]
      split_ifs with hzero
      · rw [hzero, Nat.cast_zero, div_zero]
      · rfl
    rw [if_neg hmap, if_neg hmap]
    by_cases hndcg : name = "ndcg"
    · rw [if_pos hndcg, if_pos hndcg, dcg_eq log2 hsorted, dcg_eq log2 hranked,
        hitsOf_sorted h hperm]
      have hideal : 0 ≤ gainSum (dcgGain log2) 0
          ((ideal (hitsOf ranked)).take (cutoffOf k ranked.length).toNat) :=
        gainSum_nonneg hlog.gain_nonneg 0 _
      split_ifs with hcutoff hpos
      · rfl
      · rfl
      · rw [le_antisymm (not_lt.mp hpos) hideal, div_zero]
    rw [if_neg hndcg, if_neg hndcg]
    by_cases hcount : name = "recall" ∨ name = "precision"
    · rw [if_pos hcount, if_pos hcount, sum_take_eq hranked]
      split_ifs with hcutoff hrecall hzero
      · rfl
      · rfl
      · rw [not_not.mp hzero, Nat.cast_zero, div_zero]
      · rfl
    · rw [if_neg hcount, if_neg hcount]

/-! ## Bounds and growth -/

theorem gainSum_le_ideal (hlog : IsLogarithm log2) (k : Nat) (hits : List Bool) :
    gainSum (dcgGain log2) 0 (hits.take k) ≤ gainSum (dcgGain log2) 0 ((ideal hits).take k) :=
  (ahead_ideal hits).le (F := fun hits => gainSum (dcgGain log2) 0 (hits.take k))
    (gainSum_take_promote hlog.gain_nonneg hlog.gain_antitone k)

/-- Every value lies between zero and one. -/
theorem hitsValue_bounds (hlog : IsLogarithm log2) {metric : String} {hits : List Bool} {value : K}
    (h : hitsValue py log2 metric hits = some value) : 0 ≤ value ∧ value ≤ 1 := by
  rw [hitsValue] at h
  cases hparse : parseMetric py metric with
  | mk name k =>
    rw [hparse] at h
    dsimp only at h
    by_cases hmrr : name = "mrr"
    · rw [if_pos hmrr] at h
      obtain rfl := Option.some.inj h
      exact ⟨reciprocalRank_nonneg 0 hits, reciprocalRank_le_one 0 hits⟩
    rw [if_neg hmrr] at h
    by_cases hmap : name = "map"
    · rw [if_pos hmap] at h
      obtain rfl := Option.some.inj h
      exact ⟨div_nonneg (precisionSum_nonneg 0 0 hits) (Nat.cast_nonneg _),
        div_le_one_of_le₀ (precisionSum_le_hitCount hits) (Nat.cast_nonneg _)⟩
    rw [if_neg hmap] at h
    by_cases hndcg : name = "ndcg"
    · rw [if_pos hndcg] at h
      obtain rfl := Option.some.inj h
      split_ifs
      · exact ⟨le_refl 0, zero_le_one⟩
      · have hideal : 0 ≤ gainSum (dcgGain log2) 0
            ((ideal hits).take (cutoffOf k hits.length).toNat) :=
          gainSum_nonneg hlog.gain_nonneg 0 _
        exact ⟨div_nonneg (gainSum_nonneg hlog.gain_nonneg 0 _) hideal,
          div_le_one_of_le₀ (gainSum_le_ideal hlog _ hits) hideal⟩
    rw [if_neg hndcg] at h
    by_cases hcount : name = "recall" ∨ name = "precision"
    · rw [if_pos hcount] at h
      obtain rfl := Option.some.inj h
      split_ifs
      · exact ⟨le_refl 0, zero_le_one⟩
      · have hle : hitCount (hits.take (min (cutoffOf k hits.length) hits.length).toNat) ≤
            hitCount hits := (List.take_sublist _ hits).count_le true
        exact ⟨div_nonneg (Nat.cast_nonneg _) (Nat.cast_nonneg _),
          div_le_one_of_le₀ (Nat.cast_le.mpr hle) (Nat.cast_nonneg _)⟩
      · have hle : hitCount (hits.take (min (cutoffOf k hits.length) hits.length).toNat) ≤
            (min (cutoffOf k hits.length) hits.length).toNat :=
          (hitCount_le_length _).trans (List.length_take_le _ hits)
        exact ⟨div_nonneg (Nat.cast_nonneg _) (Nat.cast_nonneg _),
          div_le_one_of_le₀ (Nat.cast_le.mpr hle) (Nat.cast_nonneg _)⟩
    · rw [if_neg hcount] at h
      cases h

theorem hitsValue_ahead (hlog : IsLogarithm log2) {metric : String} {hits hits' : List Bool}
    (hahead : Ahead hits hits') {value : K} (h : hitsValue py log2 metric hits = some value) :
    ∃ value', hitsValue py log2 metric hits' = some value' ∧ value ≤ value' := by
  rw [hitsValue] at h ⊢
  cases hparse : parseMetric py metric with
  | mk name k =>
    rw [hparse] at h
    dsimp only at h ⊢
    rw [← hahead.length_eq, ← hahead.hitCount_eq, ← hahead.ideal_eq]
    by_cases hmrr : name = "mrr"
    · rw [if_pos hmrr] at h ⊢
      obtain rfl := Option.some.inj h
      exact ⟨_, rfl, hahead.le (reciprocalRank_promote 0)⟩
    rw [if_neg hmrr] at h ⊢
    by_cases hmap : name = "map"
    · rw [if_pos hmap] at h ⊢
      obtain rfl := Option.some.inj h
      exact ⟨_, rfl, div_le_div_of_nonneg_right (hahead.le (precisionSum_promote 0 0))
        (Nat.cast_nonneg _)⟩
    rw [if_neg hmap] at h ⊢
    by_cases hndcg : name = "ndcg"
    · rw [if_pos hndcg] at h ⊢
      obtain rfl := Option.some.inj h
      refine ⟨_, rfl, ?_⟩
      split_ifs
      · exact le_refl 0
      · refine div_le_div_of_nonneg_right ?_ (gainSum_nonneg hlog.gain_nonneg 0 _)
        exact hahead.le (F := fun hits => gainSum (dcgGain log2) 0 (hits.take _))
          (gainSum_take_promote hlog.gain_nonneg hlog.gain_antitone _)
    rw [if_neg hndcg] at h ⊢
    by_cases hcount : name = "recall" ∨ name = "precision"
    · rw [if_pos hcount] at h ⊢
      obtain rfl := Option.some.inj h
      refine ⟨_, rfl, ?_⟩
      have hhits : ∀ c, (hitCount (hits.take c) : K) ≤ hitCount (hits'.take c) := fun c =>
        hahead.le (F := fun hits => (hitCount (hits.take c) : K)) (hitCount_take_promote c)
      split_ifs
      · exact le_refl 0
      · exact div_le_div_of_nonneg_right (hhits _) (Nat.cast_nonneg _)
      · exact div_le_div_of_nonneg_right (hhits _) (Nat.cast_nonneg _)
    · rw [if_neg hcount] at h
      cases h

/-! ## Results -/

omit [IsStrictOrderedRing K] in
theorem lookup_metricsOf {ranked labels : List Nat} {metrics : List String} {d : Dict String K}
    (h : metricsOf py log2 ranked labels metrics = some d) {metric : String} {value : K} :
    d.lookup metric = some value ↔
      metric ∈ metrics ∧ metricValue py log2 ranked labels metric = some value := by
  rw [metricsOf, Option.map_eq_some_iff] at h
  obtain ⟨entries, hentries, rfl⟩ := h
  have hentry : ∀ e, e ∈ entries ↔ e.1 ∈ metrics ∧
      metricValue py log2 ranked labels e.1 = some e.2 := by
    intro e
    rw [mem_of_mapM_eq_some hentries]
    constructor
    · rintro ⟨metric, hmetric, hpair⟩
      obtain ⟨value, hvalue, rfl⟩ := Option.map_eq_some_iff.mp hpair
      exact ⟨hmetric, hvalue⟩
    · rintro ⟨hmetric, hvalue⟩
      exact ⟨e.1, hmetric, by rw [hvalue, Option.map_some]⟩
  by_cases hmem : metric ∈ entries.map Prod.fst
  · obtain ⟨e, he, rfl⟩ := List.mem_map.mp hmem
    rw [Dict.lookup_writeAll_of_agree (fun e he => ((hentry e).mp he).2) hmem]
    exact (and_iff_right ((hentry e).mp he).1).symm
  · rw [Dict.lookup_writeAll_of_notMem hmem]
    refine iff_of_false (Option.some_ne_none value).symm fun hvalue => hmem ?_
    exact List.mem_map.mpr ⟨(metric, value), (hentry _).mpr hvalue, rfl⟩

omit [IsStrictOrderedRing K] in
theorem exists_metricsOf {ranked labels : List Nat} {metrics : List String} :
    (∃ d, metricsOf py log2 ranked labels metrics = some d) ↔
      ∀ metric ∈ metrics, ∃ value, metricValue py log2 ranked labels metric = some value := by
  have hmap : (∃ d, metricsOf py log2 ranked labels metrics = some d) ↔
      ∃ entries, (metrics.mapM fun metric =>
        (metricValue py log2 ranked labels metric).map fun value => (metric, value)) =
          some entries := by
    simp only [metricsOf, Option.map_eq_some_iff]
    exact ⟨fun ⟨_, entries, hentries, _⟩ => ⟨entries, hentries⟩,
      fun ⟨entries, hentries⟩ => ⟨_, entries, hentries, rfl⟩⟩
  rw [hmap, exists_mapM_eq_some]
  refine forall₂_congr fun metric _ => ?_
  simp only [Option.map_eq_some_iff]
  exact ⟨fun ⟨_, value, hvalue, _⟩ => ⟨value, hvalue⟩,
    fun ⟨value, hvalue⟩ => ⟨_, value, hvalue, rfl⟩⟩

section Scores

variable {S : Type*} [LinearOrder S] {scores : List S} {labels : List Nat} {metrics : List String}

omit [IsStrictOrderedRing K] [LinearOrder K] [Field K] in
theorem perm_rankedLabels (hlength : scores.length = labels.length) :
    (rankedLabels scores labels).Perm labels := by
  have hperm := (List.perm_insertionSort ByScore (scores.zip labels)).map Prod.snd
  rwa [List.map_snd_zip hlength.ge] at hperm

theorem computeMetrics_bounds (hlog : IsLogarithm log2) (hbinary : IsBinary labels)
    (hlength : scores.length = labels.length) {d : Dict String K}
    (h : computeMetrics py log2 scores labels metrics = some d) {metric : String} {value : K}
    (hvalue : d.lookup metric = some value) : 0 ≤ value ∧ value ≤ 1 := by
  have hmetric := ((lookup_metricsOf py h).mp hvalue).2
  rw [metricValue_eq py hbinary (perm_rankedLabels hlength) hlog] at hmetric
  exact hitsValue_bounds py hlog hmetric

theorem computeMetrics_exchange (hlog : IsLogarithm log2) (hbinary : IsBinary labels)
    (hlength : scores.length = labels.length) {p q : Nat} (hp : labels[p]? = some 0)
    (hq : labels[q]? = some 1) (hbelow : RankedDirectlyBelow scores labels p q)
    {d : Dict String K} (h : computeMetrics py log2 scores labels metrics = some d) :
    ∃ d', computeMetrics py log2 (exchangeScores scores p q) labels metrics = some d' ∧
      ∀ metric value, d.lookup metric = some value →
        ∃ value', d'.lookup metric = some value' ∧ value ≤ value' := by
  have hlength' : (exchangeScores scores p q).length = labels.length := by
    rw [exchangeScores, List.length_mapIdx, hlength]
  have hgrow : ∀ metric value,
      metricValue py log2 (rankedLabels scores labels) labels metric = some value →
      ∃ value', metricValue py log2 (rankedLabels (exchangeScores scores p q) labels) labels
        metric = some value' ∧ value ≤ value' := by
    intro metric value hvalue
    rw [metricValue_eq py hbinary (perm_rankedLabels hlength) hlog] at hvalue
    rw [metricValue_eq py hbinary (perm_rankedLabels hlength') hlog]
    exact hitsValue_ahead py hlog (ahead_exchangeScores hp hq hbelow) hvalue
  obtain ⟨d', hd'⟩ := (exists_metricsOf py).mpr fun metric hmetric => by
    obtain ⟨value, hvalue⟩ := (exists_metricsOf py).mp ⟨d, h⟩ metric hmetric
    obtain ⟨value', hvalue', -⟩ := hgrow metric value hvalue
    exact ⟨value', hvalue'⟩
  refine ⟨d', hd', fun metric value hvalue => ?_⟩
  obtain ⟨hmetric, hvalue⟩ := (lookup_metricsOf py h).mp hvalue
  obtain ⟨value', hvalue', hle⟩ := hgrow metric value hvalue
  exact ⟨value', (lookup_metricsOf py hd').mpr ⟨hmetric, hvalue'⟩, hle⟩

end Scores

end Values

/-! ## Samples -/

section Samples

variable {S : Type} [LinearOrder S] (py : RowReader)

/-- The dual logarithm of a natural number. -/
noncomputable def logTwo (n : Nat) : ℝ := Real.logb 2 n

theorem logTwo_isLogarithm : IsLogarithm logTwo where
  pos n hn := Real.logb_pos one_lt_two (by exact_mod_cast hn)
  mono n hn := by
    have hpos : (0 : ℝ) < n := by exact_mod_cast (lt_of_lt_of_le Nat.zero_lt_two hn)
    exact Real.logb_le_logb_of_le one_lt_two hpos (by exact_mod_cast Nat.le_succ n)

/-- The metrics of a sample, in exact arithmetic, with scores by the texts of the documents. -/
noncomputable def evaluate (score : String → S) (metrics : List String) (sample : Sample) :
    Option (Dict String ℝ) :=
  computeMetrics py logTwo (sample.documents.map score) sample.labels metrics

def PermutedList (value value' : Json) : Prop :=
  value = value' ∨ ∃ items items', value = .arr items ∧ value' = .arr items' ∧ items.Perm items'

/-- Two rows are the same but for the order of their positives and negatives. -/
structure PermutedRow (mapping : FieldMapping) (row row' : Json) : Prop where
  query : rowQuery py mapping row = rowQuery py mapping row'
  positives : PermutedList (rowPositives mapping row) (rowPositives mapping row')
  negatives : PermutedList (rowNegatives mapping row) (rowNegatives mapping row')

/-- The documents of a sample are laid out in another order, together with their labels. -/
structure Interleaves (layout sample : Sample) : Prop where
  length_eq : layout.documents.length = layout.labels.length
  perm : (layout.documents.zip layout.labels).Perm (sample.documents.zip sample.labels)

variable {py}

theorem PermutedList.candidates_perm (py : RowReader) {value value' : Json}
    (h : PermutedList value value') :
    (normalizeCandidates py value).Perm (normalizeCandidates py value') := by
  rcases h with rfl | ⟨items, items', rfl, rfl, hperm⟩
  · exact List.Perm.refl _
  · exact (hperm.filterMap _).filter _

omit [LinearOrder S] in
theorem zip_labels (positives negatives : List String) (score : String → S) :
    ((positives ++ negatives).map score).zip
        (List.replicate positives.length 1 ++ List.replicate negatives.length 0) =
      positives.map (fun text => (score text, 1)) ++ negatives.map fun text => (score text, 0) := by
  have hzip : ∀ (texts : List String) (label : Nat),
      (texts.map score).zip (List.replicate texts.length label) =
        texts.map fun text => (score text, label) := by
    intro texts label
    induction texts with
    | nil => rfl
    | cons text texts ih =>
      rw [List.map_cons, List.length_cons, List.replicate_succ, List.zip_cons_cons, ih,
        List.map_cons]
  rw [List.map_append, List.zip_append (by simp), hzip, hzip]

omit [LinearOrder S] in
theorem positives_first (positives negatives : List String) (score : String → S) :
    (positives.map (fun text => (score text, 1)) ++
      negatives.map fun text => (score text, 0)).Pairwise
        fun (left right : S × Nat) => right.2 ≤ left.2 := by
  refine List.pairwise_append.mpr ⟨?_, ?_, ?_⟩
  · exact List.pairwise_map.mpr (List.pairwise_of_forall fun _ _ => le_refl 1)
  · exact List.pairwise_map.mpr (List.pairwise_of_forall fun _ _ => le_refl 0)
  · intro left hleft right hright
    obtain ⟨_, -, rfl⟩ := List.mem_map.mp hleft
    obtain ⟨_, -, rfl⟩ := List.mem_map.mp hright
    exact Nat.zero_le 1

def sampleOf (query : String) (positives negatives : List String) : Sample where
  query := query
  documents := positives ++ negatives
  labels := List.replicate positives.length 1 ++ List.replicate negatives.length 0

theorem buildSample_eq_some {row : Json} {mapping : FieldMapping} {sample : Sample} :
    buildSample py row mapping = some sample ↔
      ∃ query, rowQuery py mapping row = some query ∧ strip query ≠ "" ∧
        normalizeCandidates py (rowPositives mapping row) ≠ [] ∧
        sample = sampleOf query (normalizeCandidates py (rowPositives mapping row))
          (normalizeCandidates py (rowNegatives mapping row)) := by
  rw [buildSample]
  cases rowQuery py mapping row with
  | none => simp
  | some query =>
    dsimp only
    by_cases hquery : strip query = ""
    · rw [if_pos hquery]
      refine iff_of_false (Option.some_ne_none sample).symm ?_
      rintro ⟨query', hquery', hne, -⟩
      obtain rfl := Option.some.inj hquery'
      exact hne hquery
    · rw [if_neg hquery]
      by_cases hpositives : normalizeCandidates py (rowPositives mapping row) = []
      · rw [hpositives]
        simp
      · rw [if_neg (by simpa using hpositives), Option.some.injEq]
        constructor
        · rintro rfl
          exact ⟨query, rfl, hquery, hpositives, rfl⟩
        · rintro ⟨query', hquery', -, -, rfl⟩
          obtain rfl := Option.some.inj hquery'
          rfl

theorem sampleOf_isBinary (query : String) (positives negatives : List String) :
    IsBinary (sampleOf query positives negatives).labels := by
  intro label hlabel
  rcases List.mem_append.mp hlabel with hmem | hmem
  · exact .inr (List.eq_of_mem_replicate hmem)
  · exact .inl (List.eq_of_mem_replicate hmem)

theorem evaluate_sampleOf_perm {positives positives' negatives negatives' : List String}
    (hpositives : positives.Perm positives') (hnegatives : negatives.Perm negatives')
    (query : String) (score : String → S) (metrics : List String) :
    evaluate py score metrics (sampleOf query positives' negatives') =
      evaluate py score metrics (sampleOf query positives negatives) := by
  have hlabels : (sampleOf query positives' negatives').labels =
      (sampleOf query positives negatives).labels := by
    rw [sampleOf, sampleOf, hpositives.length_eq, hnegatives.length_eq]
  have hranked : rankedLabels ((sampleOf query positives' negatives').documents.map score)
      (sampleOf query positives' negatives').labels =
        rankedLabels ((sampleOf query positives negatives).documents.map score)
          (sampleOf query positives negatives).labels := by
    rw [rankedLabels, rankedLabels, sampleOf, sampleOf, zip_labels, zip_labels,
      insertionSort_eq_of_positives_first ((hpositives.map _).append (hnegatives.map _))
        (positives_first positives negatives score)
        (positives_first positives' negatives' score)]
  rw [evaluate, evaluate, computeMetrics, computeMetrics, hranked, hlabels]

omit [LinearOrder S] in
theorem Interleaves.scored_perm {layout sample : Sample} (h : Interleaves layout sample)
    (score : String → S) :
    ((layout.documents.map score).zip layout.labels).Perm
      ((sample.documents.map score).zip sample.labels) := by
  have hmap : ∀ (documents : List String) (labels : List Nat),
      (documents.map score).zip labels =
        (documents.zip labels).map fun document => (score document.1, document.2) := by
    intro documents labels
    rw [List.zip_map_left]
    rfl
  rw [hmap, hmap]
  exact h.perm.map _

theorem Interleaves.labels_perm {layout sample : Sample} (h : Interleaves layout sample)
    (hsample : sample.documents.length = sample.labels.length) :
    layout.labels.Perm sample.labels := by
  have hperm := h.perm.map Prod.snd
  rwa [List.map_snd_zip h.length_eq.ge, List.map_snd_zip hsample.ge] at hperm

theorem evaluate_interleaved {layout sample : Sample} (h : Interleaves layout sample)
    (hsample : sample.documents.length = sample.labels.length)
    (hbinary : IsBinary sample.labels) {score : String → S}
    (hties : NoTies ((sample.documents.map score).zip sample.labels)) (metrics : List String) :
    evaluate py score metrics layout = evaluate py score metrics sample := by
  have hlabels := h.labels_perm hsample
  have hbinary' : IsBinary layout.labels := fun y hy => hbinary y (hlabels.mem_iff.mp hy)
  have hranked : rankedLabels (layout.documents.map score) layout.labels =
      rankedLabels (sample.documents.map score) sample.labels := by
    rw [rankedLabels, rankedLabels, insertionSort_eq_of_noTies (h.scored_perm score).symm hties]
  have hperm : (rankedLabels (sample.documents.map score) sample.labels).Perm sample.labels :=
    perm_rankedLabels (by rw [List.length_map, hsample])
  have hvalues : metricValue py logTwo (rankedLabels (sample.documents.map score) sample.labels)
      layout.labels = metricValue py logTwo
        (rankedLabels (sample.documents.map score) sample.labels) sample.labels := by
    funext metric
    rw [metricValue_eq py hbinary' (hperm.trans hlabels.symm) logTwo_isLogarithm,
      metricValue_eq py hbinary hperm logTwo_isLogarithm]
  rw [evaluate, evaluate, computeMetrics, computeMetrics, hranked, metricsOf, metricsOf, hvalues]

/-- The metrics of a sample do not depend on the order of the positives and of the negatives of its
row, nor on how the documents are laid out if no positive and negative have one score. Whatever the
layout, every value lies between zero and one, and none falls as a positive exchanges its score with
a negative directly above it. -/
theorem evaluate_layout_independent {row : Json} {mapping : FieldMapping} {sample : Sample}
    (h : buildSample py row mapping = some sample) (score : String → S) (metrics : List String) :
    (∀ row', PermutedRow py mapping row row' → ∃ sample',
      buildSample py row' mapping = some sample' ∧
      evaluate py score metrics sample' = evaluate py score metrics sample) ∧
    (∀ layout, Interleaves layout sample → NoTies ((sample.documents.map score).zip sample.labels) →
      evaluate py score metrics layout = evaluate py score metrics sample) ∧
    ∀ layout, Interleaves layout sample →
      (∀ d metric value, evaluate py score metrics layout = some d →
        d.lookup metric = some value → 0 ≤ value ∧ value ≤ 1) ∧
      ∀ (scores : List S) (p q : Nat) (d : Dict String ℝ), scores.length = layout.labels.length →
        layout.labels[p]? = some 0 → layout.labels[q]? = some 1 →
        RankedDirectlyBelow scores layout.labels p q →
        computeMetrics py logTwo scores layout.labels metrics = some d →
        ∃ d', computeMetrics py logTwo (exchangeScores scores p q) layout.labels metrics = some d' ∧
          ∀ metric value, d.lookup metric = some value →
            ∃ value', d'.lookup metric = some value' ∧ value ≤ value' := by
  obtain ⟨query, hquery, hne, hpositives, rfl⟩ := buildSample_eq_some.mp h
  have hsample : ∀ positives negatives : List String,
      (sampleOf query positives negatives).documents.length =
        (sampleOf query positives negatives).labels.length := by
    intro positives negatives
    simp [sampleOf]
  refine ⟨fun row' hrow => ?_, fun layout hlayout hties => ?_, fun layout hlayout => ?_⟩
  · have hpositives' := hrow.positives.candidates_perm py
    have hnegatives' := hrow.negatives.candidates_perm py
    refine ⟨_, buildSample_eq_some.mpr ⟨query, hrow.query.symm.trans hquery, hne, ?_, rfl⟩,
      evaluate_sampleOf_perm hpositives' hnegatives' query score metrics⟩
    intro hnil
    rw [hnil] at hpositives'
    exact hpositives (List.perm_nil.mp hpositives')
  · exact evaluate_interleaved hlayout (hsample _ _) (sampleOf_isBinary query _ _) hties metrics
  · have hlabels := hlayout.labels_perm (hsample _ _)
    have hbinary : IsBinary layout.labels :=
      fun y hy => sampleOf_isBinary query _ _ y (hlabels.mem_iff.mp hy)
    constructor
    · intro d metric value hd hvalue
      refine computeMetrics_bounds py logTwo_isLogarithm hbinary ?_ hd hvalue
      rw [List.length_map, hlayout.length_eq]
    · intro scores p q d hlength hp hq hbelow hd
      exact computeMetrics_exchange py logTwo_isLogarithm hbinary hlength hp hq hbelow hd

end Samples

/-! ## A tie -/

def textReader : RowReader where
  str
    | .str text => text
    | _ => ""
  dumps _ := ""
  loads _ := none
  lower text := text

def pairRow : Json :=
  .obj [("query", .str "q"), ("positives", .arr [.str "a"]), ("negatives", .arr [.str "b"])]

def noMapping : FieldMapping := ⟨none, none, none⟩

theorem buildSample_pairRow :
    buildSample textReader pairRow noMapping = some (sampleOf "q" ["a"] ["b"]) := by
  refine buildSample_eq_some.mpr ⟨"q", rfl, by decide +kernel, ?_, ?_⟩
  · have hpositives : normalizeCandidates textReader (rowPositives noMapping pairRow) = ["a"] := by
      decide +kernel
    rw [hpositives]
    exact List.cons_ne_nil "a" []
  · have hpositives : normalizeCandidates textReader (rowPositives noMapping pairRow) = ["a"] := by
      decide +kernel
    have hnegatives : normalizeCandidates textReader (rowNegatives noMapping pairRow) = ["b"] := by
      decide +kernel
    rw [hpositives, hnegatives]

def negativeFirst : Sample := ⟨"q", ["b", "a"], [0, 1]⟩

theorem negativeFirst_interleaves : Interleaves negativeFirst (sampleOf "q" ["a"] ["b"]) where
  length_eq := rfl
  perm := List.Perm.swap _ _ []

/-- A pair with different scores is evaluated alike in both orders. -/
theorem evaluate_pairRow :
    evaluate textReader (fun text => if text = "a" then 1 else 0) ["mrr", "ndcg@1"] negativeFirst =
      evaluate textReader (fun text => if text = "a" then 1 else 0) ["mrr", "ndcg@1"]
        (sampleOf "q" ["a"] ["b"]) := by
  have hties : NoTies (((sampleOf "q" ["a"] ["b"]).documents.map
      fun text => if text = "a" then 1 else 0).zip (sampleOf "q" ["a"] ["b"]).labels) := by
    unfold NoTies
    decide +kernel
  exact (evaluate_layout_independent buildSample_pairRow
    (fun text => if text = "a" then 1 else 0) ["mrr", "ndcg@1"]).2.1 negativeFirst
      negativeFirst_interleaves hties

/-- With one score for both, the one that is laid out first is ranked first. -/
theorem evaluate_tie :
    buildSample textReader pairRow noMapping = some (sampleOf "q" ["a"] ["b"]) ∧
    Interleaves negativeFirst (sampleOf "q" ["a"] ["b"]) ∧
    evaluate textReader (fun _ => 0) ["mrr"] negativeFirst ≠
      evaluate textReader (fun _ => 0) ["mrr"] (sampleOf "q" ["a"] ["b"]) := by
  refine ⟨buildSample_pairRow, negativeFirst_interleaves, fun heq => ?_⟩
  have hparse : parseMetric textReader "mrr" = ("mrr", none) := by decide +kernel
  have hvalue : ∀ ranked labels : List Nat,
      metricValue textReader logTwo ranked labels "mrr" = some (reciprocalRankFrom 1 ranked) := by
    intro ranked labels
    rw [metricValue, hparse]
    rfl
  have hresult : ∀ sample : Sample, ∃ d,
      evaluate textReader (fun _ => 0) ["mrr"] sample = some d ∧
        d.lookup "mrr" = some (reciprocalRankFrom 1
          (rankedLabels (sample.documents.map fun _ => 0) sample.labels)) := by
    intro sample
    have hall : ∀ metric ∈ ["mrr"], ∃ value, metricValue textReader logTwo
        (rankedLabels (sample.documents.map fun _ => 0) sample.labels) sample.labels metric =
          some value := by
      intro metric hmetric
      obtain rfl := List.mem_singleton.mp hmetric
      exact ⟨_, hvalue _ _⟩
    obtain ⟨d, hd⟩ := (exists_metricsOf textReader).mpr hall
    exact ⟨d, hd, (lookup_metricsOf textReader hd).mpr ⟨List.mem_singleton_self _, hvalue _ _⟩⟩
  obtain ⟨d, hd, hmrr⟩ := hresult negativeFirst
  obtain ⟨d', hd', hmrr'⟩ := hresult (sampleOf "q" ["a"] ["b"])
  obtain rfl := Option.some.inj (hd.symm.trans (heq.trans hd'))
  have hranked : rankedLabels (negativeFirst.documents.map fun _ => 0) negativeFirst.labels =
      [0, 1] := by decide +kernel
  have hranked' : rankedLabels ((sampleOf "q" ["a"] ["b"]).documents.map fun _ => 0)
      (sampleOf "q" ["a"] ["b"]).labels = [1, 0] := by decide +kernel
  rw [hranked] at hmrr
  rw [hmrr, hranked'] at hmrr'
  have hvalues := Option.some.inj hmrr'
  norm_num [reciprocalRankFrom] at hvalues

end DeepEvaluation
