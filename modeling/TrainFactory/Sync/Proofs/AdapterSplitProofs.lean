import Mathlib.Algebra.Order.Field.Basic
import Mathlib.Algebra.Order.Field.Rat
import TrainFactory.Sync.AdapterSplit
import TrainFactory.Sync.Proofs.DocumentsProofs

/-!
# Weighted splits

With balancing, every document goes to one adapter. No adapter runs ahead of another by more than
its last document, and the windows of a file are split as the file would be.
-/

namespace Sync

open Lib

variable {py : FloatReader} {α : Type}

/-! ## Weights -/

theorem positiveOrOne_pos (weight : Rat) : 0 < positiveOrOne weight := by
  unfold positiveOrOne
  split
  · exact one_pos
  · rename_i h
    exact not_le.mp h

theorem candidateWeight_pos {rawWeights : Json} {keys : List String} {weight : Rat}
    (h : candidateWeight py rawWeights keys = .ok weight) : 0 < weight := by
  induction keys with
  | nil =>
    cases h
    exact one_pos
  | cons key keys ih =>
    simp only [candidateWeight] at h
    split at h
    · cases h
    · exact ih h
    · cases h
      exact positiveOrOne_pos _

theorem adapterWeights_spec {genCfg : Json} {targets : List IndexTarget} {weights : List Rat}
    (h : adapterWeights py genCfg targets = .ok weights) :
    weights.length = targets.length ∧ ∀ w ∈ weights, 0 < w := by
  induction targets generalizing weights with
  | nil =>
    cases h
    exact ⟨rfl, by simp⟩
  | cons target targets ih =>
    simp only [adapterWeights] at h
    split at h
    · cases h
    · rename_i weight hweight
      split at h
      · cases h
      · rename_i rest hrest
        cases h
        obtain ⟨hlen, hpos⟩ := ih hrest
        refine ⟨by rw [List.length_cons, List.length_cons, hlen], fun w hw => ?_⟩
        rcases List.mem_cons.mp hw with rfl | hw
        · exact candidateWeight_pos hweight
        · exact hpos w hw

theorem score_monotone {weight : Rat} (h : 0 < weight) : Monotone (score weight) := by
  intro m n hmn
  exact div_le_div_of_nonneg_right (Nat.cast_le.mpr hmn) (le_of_lt h)

/-! ## The loop over the documents -/

theorem assignDocs_spec (weights : List Rat) (docs : List α) (slices : List (List α))
    (counts : List Nat) :
    (assignDocs weights docs slices counts).2 = assignMany score weights counts docs.length ∧
      ∀ i : Nat, (assignDocs weights docs slices counts).1[i]? =
        (slices[i]?).map (· ++ picked (choices score weights counts docs.length) docs i) := by
  induction docs generalizing slices counts with
  | nil => exact ⟨rfl, fun i => by simp [assignDocs, choices]⟩
  | cons doc docs ih =>
    obtain ⟨hcounts, hslices⟩ := ih (slices.modify (leastLoaded score weights counts) (· ++ [doc]))
      (counts.modify (leastLoaded score weights counts) (· + 1))
    refine ⟨hcounts, fun i => ?_⟩
    rw [assignDocs, hslices i, List.getElem?_modify, List.length_cons, choices, picked_cons,
      Option.map_eq_map, Option.map_map]
    congr 1
    funext slice
    by_cases h : leastLoaded score weights counts = i
    · simp [h, assignNext]
    · simp [h, assignNext]

theorem length_assignDocs (weights : List Rat) (docs : List α) (slices : List (List α))
    (counts : List Nat) : (assignDocs weights docs slices counts).1.length = slices.length := by
  induction docs generalizing slices counts with
  | nil => rfl
  | cons doc docs ih => rw [assignDocs, ih, List.length_modify]

/-! ## The documents of a collection -/

theorem lookup_setDocs_of_notMem {entries : List (IndexTarget × List α)} {collection : String}
    (h : collection ∉ entries.map fun entry => entry.1.collectionName)
    (docsByCollection : Dict String (List α)) :
    (setDocs entries docsByCollection).lookup collection = docsByCollection.lookup collection := by
  induction entries generalizing docsByCollection with
  | nil => rfl
  | cons entry entries ih =>
    rw [List.map_cons, List.mem_cons, not_or] at h
    have hstep : setDocs (entry :: entries) docsByCollection =
        setDocs entries (docsByCollection.insert entry.1.collectionName entry.2) := rfl
    rw [hstep, ih h.2, AList.lookup_insert_ne h.1]

theorem lookup_setDocs {entries : List (IndexTarget × List α)}
    (hdistinct : (entries.map fun entry => entry.1.collectionName).Nodup) {i : Nat}
    {target : IndexTarget} {docs : List α} (h : entries[i]? = some (target, docs))
    (docsByCollection : Dict String (List α)) :
    (setDocs entries docsByCollection).lookup target.collectionName = some docs := by
  induction entries generalizing docsByCollection i with
  | nil => cases h
  | cons entry entries ih =>
    rw [List.map_cons, List.nodup_cons] at hdistinct
    have hstep : setDocs (entry :: entries) docsByCollection =
        setDocs entries (docsByCollection.insert entry.1.collectionName entry.2) := rfl
    rw [hstep]
    cases i with
    | zero =>
      obtain rfl : entry = (target, docs) := Option.some.inj h
      rw [lookup_setDocs_of_notMem hdistinct.1, AList.lookup_insert]
    | succ i => exact ih hdistinct.2 h _

/-! ## A split -/

/-- The targets are adapters of distinct collections, with these weights, that share the
documents. -/
structure Balanced (py : FloatReader) (genCfg : Json) (targets : List IndexTarget)
    (weights : List Rat) : Prop where
  balancing : balancingEnabled genCfg = true
  adapters : ∀ t ∈ targets, t.collectionName ≠ "" ∧ t.type = "adapter"
  nonempty : targets ≠ []
  distinct : (targets.map IndexTarget.collectionName).Nodup
  weights_eq : adapterWeights py genCfg targets = .ok weights

namespace Balanced

variable {genCfg : Json} {targets : List IndexTarget} {weights : List Rat}

theorem adapterTargets_eq (h : Balanced py genCfg targets weights) :
    adapterTargets targets = targets := by
  refine List.filter_eq_self.mpr fun t ht => ?_
  exact decide_eq_true (h.adapters t ht)

theorem length_weights (h : Balanced py genCfg targets weights) :
    weights.length = targets.length := (adapterWeights_spec h.weights_eq).1

theorem monotone (h : Balanced py genCfg targets weights) : ∀ w ∈ weights, Monotone (score w) :=
  fun w hw => score_monotone ((adapterWeights_spec h.weights_eq).2 w hw)

theorem weights_ne_nil (h : Balanced py genCfg targets weights) : weights ≠ [] := by
  intro hnil
  have hlen := h.length_weights
  rw [hnil, List.length_nil] at hlen
  exact h.nonempty (List.eq_nil_of_length_eq_zero hlen.symm)

theorem split (h : Balanced py genCfg targets weights) (batchDocuments : List α)
    (historicalDocs : Option (List α)) (assignedCounts : Option (List Nat)) {counts : List Nat}
    (hcounts : assignedCounts.getD (List.replicate targets.length 0) = counts)
    (hlen : counts.length = targets.length) {docs : List α}
    (hdocs : historicalDocs.getD batchDocuments = docs) :
    ∃ split, splitDocsForTargets py genCfg batchDocuments targets historicalDocs assignedCounts =
        .ok split ∧
      split.assignedCounts =
        assignedCounts.map (fun _ => assignMany score weights counts docs.length) ∧
      ∀ (i : Nat) (t : IndexTarget), targets[i]? = some t →
        split.docsByCollection.lookup t.collectionName =
          some (picked (choices score weights counts docs.length) docs i) := by
  have hempty : targets.isEmpty = false := by simpa using h.nonempty
  have hdistinct := h.distinct
  simp only [splitDocsForTargets, h.adapterTargets_eq, hempty, hdocs, hcounts, h.balancing,
    h.weights_eq, Bool.not_true, Bool.false_eq_true, if_false, hlen, ne_eq, not_true_eq_false]
  cases docs with
  | nil =>
    refine ⟨_, rfl, ?_, fun i t ht => ?_⟩
    · cases assignedCounts with
      | none => rfl
      | some assigned =>
        have : assigned = counts := hcounts
        simp [assignMany, this]
    · refine lookup_setDocs (i := i) ?_ (by simp [ht, choices]) _
      simpa [Function.comp_def] using hdistinct
  | cons doc docs =>
    obtain ⟨hassigned, hslices⟩ := assignDocs_spec weights (doc :: docs)
      (List.replicate targets.length []) counts
    have hlength := length_assignDocs weights (doc :: docs)
      (List.replicate targets.length ([] : List α)) counts
    rw [List.length_replicate] at hlength
    refine ⟨_, rfl, by rw [hassigned], fun i t ht => ?_⟩
    have hi : i < targets.length := (List.getElem?_eq_some_iff.mp ht).1
    refine lookup_setDocs (i := i) ?_ ?_ _
    · have hfst : (targets.zip (assignDocs weights (doc :: docs)
          (List.replicate targets.length []) counts).1).map Prod.fst = targets :=
        List.map_fst_zip (le_of_eq hlength.symm)
      have hcollections := congrArg (List.map IndexTarget.collectionName) hfst
      rw [List.map_map] at hcollections
      rw [← hcollections] at hdistinct
      exact hdistinct
    · rw [List.getElem?_zip_eq_some]
      refine ⟨ht, ?_⟩
      rw [hslices i]
      simp [hi]

theorem windows (h : Balanced py genCfg targets weights) (windows : List (List α))
    {counts : List Nat} (hlen : counts.length = targets.length) :
    ∃ splits, splitWindows py genCfg targets windows counts =
        .ok (splits, assignMany score weights counts windows.flatten.length) ∧
      ∀ (i : Nat) (t : IndexTarget), targets[i]? = some t →
        windowDocs splits t =
          picked (choices score weights counts windows.flatten.length) windows.flatten i := by
  induction windows generalizing counts with
  | nil => exact ⟨[], rfl, fun i t _ => rfl⟩
  | cons documents windows ih =>
    cases documents with
    | nil => exact ih hlen
    | cons doc docs =>
      obtain ⟨split, hsplit, hassigned, hdocs⟩ := h.split [] (some (doc :: docs))
        (some counts) rfl hlen rfl
      have hlength : (assignMany score weights counts (doc :: docs).length).length =
          targets.length := by
        rw [length_assignMany, hlen]
      obtain ⟨splits, hsplits, hrest⟩ := ih hlength
      refine ⟨split.docsByCollection :: splits, ?_, fun i t ht => ?_⟩
      · rw [splitWindows, if_neg (by simp), hsplit]
        simp only [hassigned, Option.map_some, Option.getD_some, hsplits]
        rw [List.flatten_cons, List.length_append, assignMany_add]
      · rw [windowDocs, List.flatMap_cons, hdocs i t ht, Option.getD_some, List.flatten_cons,
          List.length_append, choices_add, picked_append (by rw [length_choices])]
        exact congrArg _ (hrest i t ht)

end Balanced

/-- With balancing each document goes to one adapter, the counts are fair after every prefix, and
the windows of the documents are split as the documents at once. -/
theorem splitDocsForTargets_balanced {genCfg : Json} {targets : List IndexTarget}
    {weights : List Rat} (hbalancing : balancingEnabled genCfg = true)
    (hadapters : ∀ t ∈ targets, t.collectionName ≠ "" ∧ t.type = "adapter")
    (hnonempty : targets ≠ []) (hdistinct : (targets.map IndexTarget.collectionName).Nodup)
    (hweights : adapterWeights py genCfg targets = .ok weights) (batchDocuments : List α)
    (historicalDocs : Option (List α)) (docs : List α)
    (hdocs : historicalDocs.getD batchDocuments = docs) :
    ∃ choices : List Nat, choices.length = docs.length ∧ (∀ i ∈ choices, i < targets.length) ∧
      (∃ split, splitDocsForTargets py genCfg batchDocuments targets historicalDocs none =
          .ok split ∧
        ∀ (i : Nat) (t : IndexTarget), targets[i]? = some t →
          split.docsByCollection.lookup t.collectionName = some (picked choices docs i)) ∧
      (∀ (k i j : Nat) (w v : Rat), weights[i]? = some w → weights[j]? = some v →
        1 ≤ (choices.take k).count i →
        (((choices.take k).count i : Rat) - 1) / w ≤ (choices.take k).count j / v) ∧
      ∀ windows : List (List α), windows.flatten = docs →
        ∃ splits counts, splitWindows py genCfg targets windows
            (List.replicate targets.length 0) = .ok (splits, counts) ∧
          ∀ (i : Nat) (t : IndexTarget), targets[i]? = some t →
            windowDocs splits t = picked choices docs i ∧ counts[i]? = some (choices.count i) := by
  have h : Balanced py genCfg targets weights :=
    ⟨hbalancing, hadapters, hnonempty, hdistinct, hweights⟩
  have hlen : (List.replicate targets.length 0).length = targets.length := List.length_replicate
  have hlen' : (List.replicate targets.length 0).length = weights.length := by
    rw [hlen, h.length_weights]
  refine ⟨choices score weights (List.replicate targets.length 0) docs.length,
    length_choices _ _, fun i hi => ?_, ?_, ?_, ?_⟩
  · rw [← h.length_weights]
    exact choices_lt h.weights_ne_nil hlen' _ i hi
  · obtain ⟨split, hsplit, -, hslices⟩ := h.split batchDocuments historicalDocs none rfl hlen
      hdocs
    exact ⟨split, hsplit, hslices⟩
  · intro k i j w v hw hv hpos
    rw [← h.length_weights] at hpos ⊢
    have hfair := choices_fair h.weights_ne_nil h.monotone docs.length k hw hv hpos
    rwa [score, score, Nat.cast_sub hpos, Nat.cast_one] at hfair
  · rintro windows rfl
    obtain ⟨splits, hsplits, hslices⟩ := h.windows windows hlen
    refine ⟨splits, _, hsplits, fun i t ht => ⟨hslices i t ht, ?_⟩⟩
    have hi : i < targets.length := (List.getElem?_eq_some_iff.mp ht).1
    rw [getElem?_assignMany, List.getElem?_replicate, if_pos hi]
    simp

def twoAdapters : List IndexTarget :=
  [{ type := "adapter", collectionName := "c1", adapterId := some "a1" },
    { type := "adapter", collectionName := "c2", adapterId := some "a2" }]

/-- The first adapter weighs twice as much as the second. -/
def twoToOne : Json :=
  .obj [("adapter_request_balancing", .bool true),
    ("adapter_request_weights", .obj [("a1", .int 2), ("a2", .int 1)])]

def intReader : FloatReader where
  toJsonReader := oneDocument
  float
    | .int n => some n
    | _ => none

theorem splitDocsForTargets_twoAdapters :
    ∃ choices : List Nat, choices.length = 3 ∧ (∀ i ∈ choices, i < 2) ∧
      (∃ split, splitDocsForTargets intReader twoToOne [] twoAdapters (some [10, 20, 30]) none =
        .ok split ∧ split.docsByCollection.lookup "c2" = some (picked choices [10, 20, 30] 1)) ∧
      ∃ splits counts, splitWindows intReader twoToOne twoAdapters [[10], [20, 30]] [0, 0] =
        .ok (splits, counts) ∧ counts[1]? = some (choices.count 1) := by
  have hweights : adapterWeights intReader twoToOne twoAdapters = .ok [2, 1] := by
    decide +kernel
  obtain ⟨choices, hlen, hlt, ⟨split, hsplit, hslices⟩, -, hwindows⟩ :=
    @splitDocsForTargets_balanced intReader Nat twoToOne twoAdapters [2, 1]
      rfl (by simp [twoAdapters]) (by simp [twoAdapters]) (by simp [twoAdapters]) hweights []
      (some [10, 20, 30]) [10, 20, 30] rfl
  obtain ⟨splits, counts, hsplits, hcounts⟩ := hwindows [[10], [20, 30]] rfl
  exact ⟨choices, hlen, hlt, ⟨split, hsplit, hslices 1 _ rfl⟩, splits, counts, hsplits,
    (hcounts 1 _ rfl).2⟩

end Sync
