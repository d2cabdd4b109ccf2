import TrainFactory.Embedding.Datasets

/-!
# Embedding recipes

`utils/embedding_recipe.py`: the format of a dataset is detected from its columns and its rows, and
the dataset is prepared for the loss of the format.
-/

namespace Embedding

open Lib

inductive Format where
  | cosinePairs
  | mnrPairs
  | mnrTriplets
  | mnrMultiNegatives
  | marginTriplets
  | scoreTriplets
  | marginMultiMargins
  | marginMultiScores
  | dynamicNegatives
deriving DecidableEq

/-! ## Columns -/

def cosinePairColumnAliases : List (String × List String) :=
  [("sentence1", ["sentence1", "premise", "text1", "text_a"]),
    ("sentence2", ["sentence2", "hypothesis", "text2", "text_b"]),
    ("label", ["label", "score", "similarity"])]

def containsAliasColumns (columns : List String) (aliasMap : List (String × List String)) : Bool :=
  aliasMap.all fun entry => entry.2.any fun name => name ∈ columns

def hasAny (columns candidates : List String) : Bool := candidates.any fun c => c ∈ columns

def getFirst (sample : Row) (candidates : List String) : Cell :=
  match candidates.find? fun c => (sample c).isSome with
  | none => .null
  | some c => sample.get c

/-- What `_sort_negative_columns` sorts a column by first. -/
def negativeNumber (name : String) : Int := (parseInt (replaceText name "negative" "")).getD 9999

def sortNegativeColumns (columnNames : List String) : List String :=
  (columnNames.filter fun c => startsWith c "negative").mergeSort fun c c' =>
    negativeNumber c < negativeNumber c' || (negativeNumber c = negativeNumber c' && !(c' < c))

/-! ## Detection -/

/-- The number of negatives of a row; of one without a list of them, zero. -/
def negCount (row : Row) : Nat :=
  (if (row "neg").isSome then row.get "neg" else row.getList "negative").listLength

def sameNegCounts (rows : List Row) : Bool := (rows.map negCount).dedup.length = 1

def detectThree (columns : List String) (sample : Row) (rows : List Row) : Format :=
  if hasAny columns ["label", "score", "similarity"] then .cosinePairs
  else
    let posVal := getFirst sample ["pos", "positive", "sentence2", "text2"]
    let negVal := getFirst sample ["neg", "negative"]
    if posVal.isList || negVal.isList then
      if sameNegCounts rows then .mnrMultiNegatives else .dynamicNegatives
    else .mnrTriplets

def detectFour (sample : Row) : Format :=
  let negVal := getFirst sample ["neg", "negative"]
  let labelLike := getFirst sample ["scores", "margins", "label", "margin"]
  if !negVal.isList then
    if labelLike.isList && labelLike.listLength = 2 then .scoreTriplets else .marginTriplets
  else if labelLike.isList then
    if labelLike.listLength = negVal.listLength + 1 then .marginMultiScores
    else if labelLike.listLength = negVal.listLength then .marginMultiMargins
    else if (sample "scores").isSome then .marginMultiScores
    else if (sample "margins").isSome then .marginMultiMargins
    else .mnrMultiNegatives
  else .mnrMultiNegatives

def validateUniversalRow (idx : Nat) (row : Row) : Except PrepareError Unit :=
  let pos := row.get "pos"
  let neg := row.get "neg"
  let ps := row.get "pos_scores"
  let ns := row.get "neg_scores"
  if !(pos.isList && neg.isList && ps.isList && ns.isList) then
    .error (.recipe "Universal: pos/neg/pos_scores/neg_scores 必须均为数组类型")
  else if pos.listLength ≠ ps.listLength ∨ neg.listLength ≠ ns.listLength then
    .error (.recipe ("Universal: 第" ++ toString (idx + 1) ++ "条样本标签数量不一致，pos=" ++
      toString pos.listLength ++ " pos_scores=" ++ toString ps.listLength ++ "; neg=" ++
      toString neg.listLength ++ " neg_scores=" ++ toString ns.listLength))
  else .ok ()

def validateUniversal : Nat → List Row → Except PrepareError Unit
  | _, [] => .ok ()
  | idx, row :: rows =>
    match validateUniversalRow idx row with
    | .error e => .error e
    | .ok () => validateUniversal (idx + 1) rows

def labelledTriplets (columns : List String) (sample : Row) : Option Format :=
  if "label" ∈ columns ∨ "margin" ∈ columns then
    let labelVal := sample.get (if "label" ∈ columns then "label" else "margin")
    if labelVal.isList && labelVal.listLength = 2 then some .scoreTriplets
    else if labelVal.isNumber then some .marginTriplets
    else none
  else none

def detectPosNeg (columns : List String) (sample : Row) (rows : List Row) : Option Format :=
  let scoresVal := sample.get "scores"
  let marginsVal := sample.get "margins"
  let posVal := getFirst sample ["pos", "positive"]
  let negVal := getFirst sample ["neg", "negative"]
  let lists := posVal.isList && negVal.isList
  if lists && scoresVal.isList && 1 ≤ scoresVal.listLength then some .marginMultiScores
  else if lists && marginsVal.isList && 1 ≤ marginsVal.listLength then some .marginMultiMargins
  else
    match labelledTriplets columns sample with
    | some format => some format
    | none =>
      if lists then some (if sameNegCounts rows then .mnrMultiNegatives else .dynamicNegatives)
      else if posVal.isText && negVal.isText then some .mnrTriplets
      else none

def labelledNegatives (label : Cell) (negativeCols : List String) : Option Format :=
  if label.isList then
    if label.listLength = negativeCols.length then some .marginMultiMargins
    else if label.listLength = negativeCols.length + 1 then some .marginMultiScores
    else none
  else none

def detectPositive (columns : List String) (sample : Row) : Format :=
  let negativeCols := columns.filter fun c => startsWith c "negative"
  if negativeCols.isEmpty then .mnrPairs
  else
    let labelled :=
      if "label" ∈ columns then labelledNegatives (sample.get "label") negativeCols else none
    match labelled with
    | some format => format
    | none =>
      if (sample.get "scores").isList then .marginMultiScores
      else if (sample.get "margins").isList then .marginMultiMargins
      else .mnrMultiNegatives

def detectLabel (columns : List String) (sample : Row) : Except PrepareError Format :=
  let negativeCols := columns.filter fun c => startsWith c "negative"
  let labelled :=
    if "label" ∈ columns ∧ negativeCols ≠ [] then labelledNegatives (sample.get "label") negativeCols
    else none
  match labelled with
  | some format => .ok format
  | none => .error (.recipe "无法自动识别数据格式，请在配置中显式设置 embedding_data_format。")

def detectOther (columns : List String) (sample : Row) (rows : List Row) :
    Except PrepareError Format :=
  if ∀ c ∈ ["query", "pos", "neg", "pos_scores", "neg_scores"], c ∈ columns then
    (validateUniversal 0 rows).map fun _ => .marginMultiScores
  else if (∀ c ∈ ["sentence1", "sentence2", "label"], c ∈ columns) ∨
      containsAliasColumns columns cosinePairColumnAliases = true then .ok .cosinePairs
  else
    let queried := hasAny columns ["query", "anchor"]
    if queried && hasAny columns ["positive"] && hasAny columns ["negative"] then
      .ok ((labelledTriplets columns sample).getD .mnrTriplets)
    else
      let posNeg :=
        if queried && hasAny columns ["pos", "positive"] && hasAny columns ["neg", "negative"] then
          detectPosNeg columns sample rows
        else none
      match posNeg with
      | some format => .ok format
      | none =>
        if queried && hasAny columns ["positive"] then .ok (detectPositive columns sample)
        else detectLabel columns sample

section Library

variable {D : Type} (lib : DatasetLibrary D)

def detectDataFormat (dataset : D) : Except PrepareError Format :=
  match lib.rows dataset with
  | [] => .error (.recipe "数据集为空，无法自动识别数据格式。")
  | sample :: rest =>
    let baseCols := (lib.columnNames dataset).filter fun c => !startsWith c "_benchmark"
    if baseCols.length = 2 then .ok .mnrPairs
    else if baseCols.length = 3 then .ok (detectThree baseCols sample (sample :: rest))
    else if baseCols.length = 4 then .ok (detectFour sample)
    else detectOther baseCols sample (sample :: rest)

/-! ## Operations -/

def dropAuxiliaryColumns (dataset : D) : Except PrepareError D :=
  let dropCols := (lib.columnNames dataset).filter fun c => startsWith c "_benchmark"
  if dropCols.isEmpty then .ok dataset else lib.removeColumns dataset dropCols

def namesText (columns : List String) : String :=
  "[" ++ join ", " (columns.map fun c => "'" ++ c ++ "'") ++ "]"

def ensureColumnsOrder (dataset : D) (orderedColumns : List String) : Except PrepareError D :=
  let existing := orderedColumns.filter fun c => c ∈ lib.columnNames dataset
  let missing := orderedColumns.filter fun c => c ∉ lib.columnNames dataset
  if missing ≠ [] then .error (.recipe ("数据列缺失: " ++ namesText missing))
  else lib.selectColumns dataset existing

def renameColumns : D → List (String × String) → Except PrepareError D
  | dataset, [] => .ok dataset
  | dataset, (src, dst) :: mapping =>
    if src ∈ lib.columnNames dataset ∧ src ≠ dst then
      match lib.renameColumn dataset src dst with
      | .error e => .error e
      | .ok dataset => renameColumns dataset mapping
    else renameColumns dataset mapping

def standardizeCosinePairColumns (dataset : D) : Except PrepareError D :=
  let columns := lib.columnNames dataset
  renameColumns lib dataset (cosinePairColumnAliases.filterMap fun entry =>
    if entry.1 ∈ columns then none
    else (entry.2.find? fun name => name ∈ columns ∧ name ≠ entry.1).map fun name =>
      (name, entry.1))

def standardizeMnrColumns (dataset : D) : Except PrepareError D :=
  let columns := lib.columnNames dataset
  let positive := if "positive" ∉ columns ∧ "pos" ∈ columns then [("pos", "positive")] else []
  let negative := if "negative" ∉ columns ∧ "neg" ∈ columns then [("neg", "negative")] else []
  let numbered := columns.filterMap fun c =>
    let newCol := "negative_" ++ dropChars c 4
    if startsWith c "neg_" ∧ newCol ∉ columns then some (c, newCol) else none
  renameColumns lib dataset (positive ++ negative ++ numbered)

/-! ## The formats -/

def prepareCosinePairs (dataset : D) : Except PrepareError D := do
  let dataset ← standardizeCosinePairColumns lib dataset
  ensureColumnsOrder lib dataset ["sentence1", "sentence2", "label"]

def prepareMnr (dataset : D) (ordered : List String) : Except PrepareError D := do
  let dataset ← standardizeMnrColumns lib dataset
  let dataset ← ensureColumnsOrder lib dataset ordered
  renameColumns lib dataset [("query", "anchor")]

def prepareMnrPairs (dataset : D) : Except PrepareError D :=
  prepareMnr lib dataset ["query", "positive"]

def prepareMnrTriplets (dataset : D) : Except PrepareError D :=
  prepareMnr lib dataset ["query", "positive", "negative"]

def multiColumnRecord (query pos : Cell) (negs : List Cell) : Record :=
  [("query", query), ("positive", pos)] ++ negs.zipIdx.filterMap fun (neg, idx) =>
    if neg.truthy then some ("negative_" ++ toString idx, neg) else none

def convertArrayToMultiColumns (row : Row) : Except PrepareError (List Record) := do
  let query ← row.item "query"
  let posList ← (row.getOr "pos" "positive").elements
  let negList := row.getOr "neg" "negative"
  let records ← (posList.filter Cell.truthy).mapM fun pos =>
    negList.elements.map fun negs => multiColumnRecord query pos negs
  pure (if negList.truthy then records else [])

/-- The dataset with a column for each negative, where its rows have lists. -/
def expandArrays (dataset : D) : Except PrepareError D :=
  let columns := lib.columnNames dataset
  match lib.rows dataset with
  -- there is no `dataset[0]`
  | [] => if "pos" ∈ columns ∨ "positive" ∈ columns then .error .library else .ok dataset
  | firstSample :: rest =>
    if ("pos" ∈ columns ∨ "positive" ∈ columns) ∧
        (firstSample.getOr "pos" "positive").isList = true ∧
          (firstSample.getOr "neg" "negative").isList = true then do
      let expandedData ← (firstSample :: rest).mapM convertArrayToMultiColumns
      lib.fromList expandedData.flatten
    else .ok dataset

def prepareMnrMultiNegatives (dataset : D) : Except PrepareError D := do
  let dataset ← expandArrays lib dataset
  let dataset ← standardizeMnrColumns lib dataset
  let ordered := ["query", "positive"] ++ sortNegativeColumns (lib.columnNames dataset)
  let dataset ← ensureColumnsOrder lib dataset ordered
  renameColumns lib dataset [("query", "anchor")]

def labelledTripletColumns : List String := ["query", "positive", "negative", "label"]

def prepareMarginTriplets (dataset : D) : Except PrepareError D := do
  let dataset ← renameColumns lib dataset
    [("anchor", "query"), ("pos", "positive"), ("neg", "negative"), ("margin", "label")]
  ensureColumnsOrder lib dataset labelledTripletColumns

def convertScorePair (row : Row) : Except PrepareError Record := do
  let scores ← row.item "label"
  if !scores.isList || scores.listLength ≠ 2 then
    .error (.recipe "score_triplets 数据期望label为长度2的列表： [positive_score, negative_score]")
  else
    match scores with
    | .numbers [pos, neg] => .ok [("label", .number (pos - neg))]
    -- a difference of texts
    | _ => .error .typeError

def convertScorePairsToMargin (dataset : D) : Except PrepareError D :=
  lib.map dataset convertScorePair

def prepareScoreTriplets (dataset : D) : Except PrepareError D := do
  let dataset ← renameColumns lib dataset [("pos", "positive"), ("neg", "negative")]
  let dataset ← ensureColumnsOrder lib dataset labelledTripletColumns
  convertScorePairsToMargin lib dataset

def tripletRecord (query pos neg label : Cell) : Record :=
  [("query", query), ("positive", pos), ("negative", neg), ("label", label)]

/-- `pos_list[0] if pos_list else ""`, of a row whose `pos` is a list or becomes one. -/
def firstPositive (row : Row) : Cell :=
  match row.getList "pos" with
  | .texts [] => .text ""
  | .texts (s :: _) => .text s
  | .numbers [] => .text ""
  | .numbers (q :: _) => .number q
  | pos => if pos.truthy then pos else .text ""

/-- The least of some numbers, bounded by a positive `max_negatives`. -/
def allowedK (maxNegatives : Option Int) (effs : List Nat) : Option Nat :=
  effs.min?.map fun least =>
    match maxNegatives with
    | some bound => if 0 < bound then min least bound.toNat else least
    | none => least

def effMargins (row : Row) : Except PrepareError Nat := do
  let negs ← (row.getList "neg").len
  let margins ← (row.getList "margins").len
  pure (min negs margins)

/-- `expand_margins`; the positive is that of the last row. -/
def expandMargins (pos : Cell) (allowed : Nat) (row : Row) : Except PrepareError (List Record) := do
  let query ← row.item "query"
  let negs ← (row.getList "neg").elements
  let margins ← (row.getList "margins").elements
  pure ((negs.zip margins).take allowed |>.map fun (neg, margin) =>
    tripletRecord query pos neg margin)

def prepareMarginMultiMargins (maxNegatives : Option Int) (dataset : D) :
    Except PrepareError D := do
  let dataset ← renameColumns lib dataset [("anchor", "query")]
  let effs ← (lib.rows dataset).mapM effMargins
  match allowedK maxNegatives (effs.filter (0 < ·)), (lib.rows dataset).getLast? with
  | some allowed, some last => do
    let expanded ← (lib.rows dataset).mapM (expandMargins (firstPositive last) allowed)
    let dataset ← lib.fromList expanded.flatten
    ensureColumnsOrder lib dataset labelledTripletColumns
  | _, _ =>
    .error (.recipe "margin_multi_margins: 数据集中无可用的(neg, margins)成对项，无法展开")

/-- `scores`, or the scores of positives and negatives of the universal format, where they are lists
of numbers. -/
def rowScores (row : Row) : Cell :=
  let scores := row.getList "scores"
  if !scores.isList || !scores.truthy then
    match row.get "pos_scores", row.get "neg_scores" with
    | .numbers ps, .numbers ns => .numbers (ps.headD (9 / 10) :: ns)
    | _, _ => scores
  else scores

def effScores (row : Row) : Except PrepareError Nat :=
  let scores := row.getList "scores"
  if scores.isList = true ∧ 2 ≤ scores.listLength then
    (row.getList "neg").len.map fun negs => min negs (scores.listLength - 1)
  else .ok 0

def expandScores (allowed : Nat) (row : Row) : Except PrepareError (List Record) := do
  let query ← row.item "query"
  match rowScores row with
  | .numbers (posScore :: negScores) => do
    let negs ← (row.getList "neg").elements
    pure ((negs.zip negScores).take allowed |>.map fun (neg, negScore) =>
      tripletRecord query (firstPositive row) neg (.number (posScore - negScore)))
  -- a text is no score
  | .texts (_ :: _) => .error .typeError
  | _ => pure []

def prepareMarginMultiScores (maxNegatives : Option Int) (dataset : D) : Except PrepareError D := do
  let dataset ← renameColumns lib dataset [("anchor", "query")]
  let effs ← (lib.rows dataset).mapM effScores
  match allowedK maxNegatives (effs.filter (0 < ·)) with
  | none => .error (.recipe "margin_multi_scores: 数据集中无可用的(neg, scores)成对项，无法展开")
  | some allowed => do
    let expanded ← (lib.rows dataset).mapM (expandScores allowed)
    let dataset ← lib.fromList expanded.flatten
    ensureColumnsOrder lib dataset labelledTripletColumns

def maxNegs (maxNegatives : Option Int) (counts : List Nat) : Nat :=
  let most := counts.foldl max 0
  match maxNegatives with
  | some bound => if 0 < bound then min most bound.toNat else most
  | none => most

/-- `pos_list[0] if pos_list else ""`, of the `pos` of a row. -/
def positiveOrEmpty (sample : Row) : Except PrepareError Cell :=
  if (sample.getList "pos").truthy then
    (sample.getList "pos").elements.map fun pos => pos.headD .null
  else .ok (.text "")

def convertDynamicNegatives (maxNegs : Nat) (sample : Row) : Except PrepareError Record := do
  let negs ← (sample.getList "neg").elements
  let positive ← positiveOrEmpty sample
  pure ([("anchor", (sample "query").getD (.text "")), ("positive", positive)] ++
    (List.range maxNegs).map fun idx =>
      let neg := negs.getD idx (.text "")
      ("negative_" ++ toString idx, if neg.truthy then neg else .text ""))

def prepareDynamicNegatives (maxNegatives : Option Int) (dataset : D) : Except PrepareError D := do
  let counts ← (lib.rows dataset).mapM fun sample => (sample.getList "neg").len
  lib.mapOnly dataset (convertDynamicNegatives (maxNegs maxNegatives counts))

/-- `prepare_dataset_for_recipe` with the format `auto` and the default loss. -/
def prepareDatasetForRecipe (maxNegatives : Option Int) (dataset : D) : Except PrepareError D := do
  let dataset ← dropAuxiliaryColumns lib dataset
  match ← detectDataFormat lib dataset with
  | .cosinePairs => prepareCosinePairs lib dataset
  | .mnrPairs => prepareMnrPairs lib dataset
  | .mnrTriplets => prepareMnrTriplets lib dataset
  | .mnrMultiNegatives => prepareMnrMultiNegatives lib dataset
  | .marginTriplets => prepareMarginTriplets lib dataset
  | .scoreTriplets => prepareScoreTriplets lib dataset
  | .marginMultiMargins => prepareMarginMultiMargins lib maxNegatives dataset
  | .marginMultiScores => prepareMarginMultiScores lib maxNegatives dataset
  | .dynamicNegatives => prepareDynamicNegatives lib maxNegatives dataset

def resolveFormat (requested : Option Format) (dataset : D) : Except PrepareError Format :=
  match requested with
  | none => detectDataFormat lib dataset
  | some format => .ok format

def prepareFormat (maxNegatives : Option Int) (dataset : D) : Format → Except PrepareError D
  | .cosinePairs => prepareCosinePairs lib dataset
  | .mnrPairs => prepareMnrPairs lib dataset
  | .mnrTriplets => prepareMnrTriplets lib dataset
  | .mnrMultiNegatives => prepareMnrMultiNegatives lib dataset
  | .marginTriplets => prepareMarginTriplets lib dataset
  | .scoreTriplets => prepareScoreTriplets lib dataset
  | .marginMultiMargins => prepareMarginMultiMargins lib maxNegatives dataset
  | .marginMultiScores => prepareMarginMultiScores lib maxNegatives dataset
  | .dynamicNegatives => prepareDynamicNegatives lib maxNegatives dataset

/-- `prepare_dataset_for_recipe` with a requested format and the default loss. -/
def prepareDatasetAs (requested : Option Format) (maxNegatives : Option Int) (dataset : D) :
    Except PrepareError D := do
  let dataset ← dropAuxiliaryColumns lib dataset
  let format ← resolveFormat lib requested dataset
  prepareFormat lib maxNegatives dataset format

def formatOf (requested : Option Format) (dataset : D) : Except PrepareError Format := do
  let dataset ← dropAuxiliaryColumns lib dataset
  resolveFormat lib requested dataset

end Library

end Embedding
