import TrainFactory.Embedding.Proofs.MultiNegativesProofs
import TrainFactory.Embedding.MemoryDatasets

/-!
# Agreement of detection and preparation

A dataset is prepared for the format that is detected, with the columns that the format requires, if
and only if it has what the branch of the format reads, under the names that the branch knows.
-/

namespace Embedding

open Lib

def RequiredColumns (columns : List String) : Format → Prop
  | .cosinePairs => columns = ["sentence1", "sentence2", "label"]
  | .mnrPairs => columns = ["anchor", "positive"]
  | .mnrTriplets => columns = ["anchor", "positive", "negative"]
  | .mnrMultiNegatives => IsMultiColumns columns
  | .dynamicNegatives => ∃ n, 0 < n ∧ columns = dynamicColumns n
  | _ => columns = labelledTripletColumns

section Fits

variable {D : Type} (lib : DatasetLibrary D) (dataset : D)

/-- The columns of the query, the positive, the negative and the label, each under one of its names. -/
structure FitsTriplets : Prop where
  query : HasOneOf (lib.columnNames dataset) "query" "anchor"
  positive : HasOneOf (lib.columnNames dataset) "positive" "pos"
  negative : HasOneOf (lib.columnNames dataset) "negative" "neg"
  label : HasOneOf (lib.columnNames dataset) "label" "margin"

/-- Triplets with a pair of scores in every row; the query has no other name. -/
structure FitsScoreTriplets : Prop where
  query : "query" ∈ lib.columnNames dataset
  positive : HasOneOf (lib.columnNames dataset) "positive" "pos"
  negative : HasOneOf (lib.columnNames dataset) "negative" "neg"
  label : "label" ∈ lib.columnNames dataset
  pairs : ∀ row ∈ lib.rows dataset, ∃ pos neg, row "label" = some (.numbers [pos, neg])

/-- Columns of a query, of a positive and of a negative. -/
structure FitsColumns : Prop where
  query : "query" ∈ lib.columnNames dataset
  positive : HasStandard (lib.columnNames dataset) "positive"
  negative : HasStandard (lib.columnNames dataset) "negative" ∨
    HasStandard (lib.columnNames dataset) "negative_scores"

def Fits : Format → Prop
  | .cosinePairs =>
    ∀ entry ∈ cosinePairColumnAliases, ∃ name ∈ entry.2, name ∈ lib.columnNames dataset
  | .mnrPairs => ∀ c ∈ ["query", "positive"], HasStandard (lib.columnNames dataset) c
  | .mnrTriplets => ∀ c ∈ ["query", "positive", "negative"], HasStandard (lib.columnNames dataset) c
  | .mnrMultiNegatives =>
    HasLists lib dataset ∧ FitsLists lib dataset ∨ ¬ HasLists lib dataset ∧ FitsColumns lib dataset
  | .marginTriplets => FitsTriplets lib dataset
  | .scoreTriplets => FitsScoreTriplets lib dataset
  | .marginMultiMargins =>
    HasOneOf (lib.columnNames dataset) "query" "anchor" ∧ ∃ row ∈ lib.rows dataset, HasMargin row
  | .marginMultiScores =>
    HasOneOf (lib.columnNames dataset) "query" "anchor" ∧ ∃ row ∈ lib.rows dataset, HasScores row
  | .dynamicNegatives => ∃ row ∈ lib.rows dataset, (row.getList "neg").IsFilled

end Fits

section Agreement

variable {D : Type} {lib : DatasetLibrary D} {dataset : D}

theorem IsEmbedding.dropAuxiliaryColumns (hd : IsEmbedding lib dataset) :
    dropAuxiliaryColumns lib dataset = .ok dataset := by
  have hall : ∀ c ∈ textColumns ++ labelColumns, startsWith c "_benchmark" = false := by decide
  have hnone : ((lib.columnNames dataset).filter fun c => startsWith c "_benchmark") = [] := by
    rw [List.filter_eq_nil_iff]
    intro c hc
    rw [hall c (hd.named c hc)]
    exact Bool.false_ne_true
  unfold Embedding.dropAuxiliaryColumns
  rw [hnone]
  rfl

theorem prepareDatasetForRecipe_eq (hd : IsEmbedding lib dataset) {format : Format}
    (hformat : detectDataFormat lib dataset = .ok format) (maxNegatives : Option Int) :
    prepareDatasetForRecipe lib maxNegatives dataset = prepareFormat lib maxNegatives dataset format := by
  rw [prepareDatasetForRecipe, hd.dropAuxiliaryColumns]
  simp only [bind, Except.bind]
  rw [hformat]
  cases format <;> rfl

theorem prepareFormat_iff_fits (hd : IsEmbedding lib dataset) (maxNegatives : Option Int)
    (format : Format) :
    (∃ dataset', prepareFormat lib maxNegatives dataset format = .ok dataset' ∧
      RequiredColumns (lib.columnNames dataset') format) ↔ Fits lib dataset format := by
  cases format with
  | cosinePairs => exact prepareCosinePairs_iff
  | mnrPairs => exact prepareMnr_iff hd.isPlain (by decide) (by decide)
  | mnrTriplets => exact prepareMnr_iff hd.isPlain (by decide) (by decide)
  | mnrMultiNegatives =>
    refine (prepareMnrMultiNegatives_iff hd).trans (or_congr_right (and_congr_right fun _ => ?_))
    exact ⟨fun ⟨hquery, hpositive, hnegative⟩ => ⟨hquery, hpositive, hnegative⟩,
      fun ⟨hquery, hpositive, hnegative⟩ => ⟨hquery, hpositive, hnegative⟩⟩
  | marginTriplets =>
    refine prepareMarginTriplets_iff.trans ?_
    exact ⟨fun ⟨hquery, hpositive, hnegative, hlabel⟩ => ⟨hquery, hpositive, hnegative, hlabel⟩,
      fun ⟨hquery, hpositive, hnegative, hlabel⟩ => ⟨hquery, hpositive, hnegative, hlabel⟩⟩
  | scoreTriplets =>
    refine prepareScoreTriplets_iff.trans ?_
    exact ⟨fun ⟨hquery, hpositive, hnegative, hlabel, hpairs⟩ =>
        ⟨hquery, hpositive, hnegative, hlabel, hpairs⟩,
      fun ⟨hquery, hpositive, hnegative, hlabel, hpairs⟩ =>
        ⟨hquery, hpositive, hnegative, hlabel, hpairs⟩⟩
  | marginMultiMargins => exact prepareMarginMultiMargins_iff hd maxNegatives
  | marginMultiScores => exact prepareMarginMultiScores_iff hd maxNegatives
  | dynamicNegatives => exact prepareDynamicNegatives_iff hd maxNegatives

/-- A dataset whose format is detected is prepared for it exactly if the branch of the format finds
what it reads. -/
theorem prepareDatasetForRecipe_iff_fits (hd : IsEmbedding lib dataset) {format : Format}
    (hformat : detectDataFormat lib dataset = .ok format) (maxNegatives : Option Int) :
    (∃ dataset', prepareDatasetForRecipe lib maxNegatives dataset = .ok dataset' ∧
      RequiredColumns (lib.columnNames dataset') format) ↔ Fits lib dataset format := by
  rw [prepareDatasetForRecipe_eq hd hformat maxNegatives]
  exact prepareFormat_iff_fits hd maxNegatives format

end Agreement

/-! ## Pairs under other names -/

def pairRow (c : String) : Row := fun column =>
  if column = c then some (.text "q") else if column = "positive" then some (.text "p") else none

theorem isSome_pairRow (c column : String) :
    (pairRow c column).isSome = true ↔ column ∈ [c, "positive"] := by
  unfold pairRow
  split
  · simp_all
  · split <;> simp_all

def textPair (c : String) : MemoryDataset := MemoryDataset.make [c, "positive"] [pairRow c]

theorem isEmbedding_textPair {c : String} (hc : c ∈ ["query", "anchor"]) :
    IsEmbedding memoryLibrary (textPair c) := by
  have hne : c ≠ "positive" := fun heq => absurd (heq ▸ hc) (by decide)
  have hnodup : [c, "positive"].Nodup := List.nodup_cons.mpr ⟨by simpa using hne, by simp⟩
  have hcolumns : memoryLibrary.columnNames (textPair c) = [c, "positive"] :=
    MemoryDataset.make_columns hnodup [pairRow c]
  have hrows : memoryLibrary.rows (textPair c) = [pairRow c] :=
    MemoryDataset.make_rows hnodup fun row hrow column => by
      rw [List.mem_singleton.mp hrow]
      exact isSome_pairRow c column
  have htext (column : String) (value : Cell) (h : pairRow c column = some value) :
      value.kind = .text ∧ column ∈ [c, "positive"] := by
    refine ⟨?_, (isSome_pairRow c column).mp (by rw [h]; rfl)⟩
    unfold pairRow at h
    split at h
    · exact Option.some.inj h ▸ rfl
    · split at h
      · exact Option.some.inj h ▸ rfl
      · cases h
  have hlabel : ∀ column ∈ labelColumns, column ∉ ["query", "anchor"] ∧ column ≠ "positive" := by
    decide
  constructor
  · rw [hrows]
    exact List.cons_ne_nil _ _
  · rw [hcolumns]
    intro column hcolumn
    have hall : ∀ column ∈ ["query", "anchor", "positive"],
        column ∈ textColumns ++ labelColumns := by decide
    rcases List.mem_cons.mp hcolumn with rfl | hcolumn
    · exact hall column (List.mem_append_left ["positive"] hc)
    · exact hall column (List.mem_append_right ["query", "anchor"] hcolumn)
  · rw [hrows]
    intro row hrow column _ value hvalue
    rw [List.mem_singleton.mp hrow] at hvalue
    rw [(htext column value hvalue).1]
    decide
  · rw [hrows]
    intro row hrow column hcolumn value hvalue
    rw [List.mem_singleton.mp hrow] at hvalue
    obtain ⟨hnot, hpositive⟩ := hlabel column hcolumn
    rcases List.mem_cons.mp (htext column value hvalue).2 with heq | hmem
    · exact absurd hc (heq ▸ hnot)
    · exact absurd (List.mem_singleton.mp hmem) hpositive
  · rw [hrows]
    intro row hrow row' hrow' column
    rw [List.mem_singleton.mp hrow, List.mem_singleton.mp hrow']

/-- A pair under the names that the preparation reads. -/
theorem prepareDatasetForRecipe_query :
    ∃ dataset', prepareDatasetForRecipe memoryLibrary none (textPair "query") = .ok dataset' ∧
      RequiredColumns (memoryLibrary.columnNames dataset') .mnrPairs := by
  have hall : ∀ c ∈ ["query", "positive"], c ∈ memoryLibrary.columnNames (textPair "query") := by decide
  exact (prepareDatasetForRecipe_iff_fits (isEmbedding_textPair (List.mem_cons_self ..)) (by rfl)
    none).mpr fun c hc => Or.inl (hall c hc)

/-- The detection knows the anchor by that name; the preparation of pairs does not. -/
theorem prepareDatasetForRecipe_anchor :
    IsEmbedding memoryLibrary (textPair "anchor") ∧
      detectDataFormat memoryLibrary (textPair "anchor") = .ok .mnrPairs ∧
        prepareDatasetForRecipe memoryLibrary none (textPair "anchor") =
          .error (.recipe "数据列缺失: ['query']") :=
  ⟨isEmbedding_textPair (List.mem_cons_of_mem _ (List.mem_cons_self ..)), by rfl, by rfl⟩

end Embedding
