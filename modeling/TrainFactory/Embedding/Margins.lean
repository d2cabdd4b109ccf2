import TrainFactory.Embedding.MemoryDatasets
import TrainFactory.Embedding.Recipe
import TrainFactory.Embedding.Proofs.RecipeProofs

/-!
# Triplets of margins

The margins of a row, given or as differences of its scores, and the triplets that a dataset should
be expanded to: those of each row, of its own texts, and of every row equally many.
-/

namespace Embedding

open Lib

/-! ## Rows -/

namespace Row

def query (row : Row) : Cell :=
  if (row "query").isSome then row.get "query" else row.get "anchor"

def negTexts (row : Row) : List String :=
  match row.get "neg" with
  | .texts l => l
  | _ => []

def margins (row : Row) : List Rat :=
  match row.get "margins" with
  | .numbers l => l
  | _ => []

def ownScores (row : Row) : List Rat :=
  match row.get "scores" with
  | .numbers l => l
  | _ => []

def universalScores (row : Row) : List Rat :=
  match row.get "pos_scores", row.get "neg_scores" with
  | .numbers ps, .numbers ns => ps.headD (9 / 10) :: ns
  | _, _ => []

def scores (row : Row) : List Rat :=
  if row.ownScores = [] then row.universalScores else row.ownScores

/-- By how much the first score exceeds the others. -/
def scoreMargins (row : Row) : List Rat :=
  row.scores.tail.map fun score => row.scores.headD 0 - score

def alignable (row : Row) (margins : Row → List Rat) : List (String × Rat) :=
  row.negTexts.zip (margins row)

def triplet (row : Row) (pair : String × Rat) : Row :=
  Row.ofRecord (tripletRecord row.query (firstPositive row) (.text pair.1) (.number pair.2))

end Row

/-! ## Datasets -/

section Library

variable {D : Type} (lib : DatasetLibrary D)

/-- The values of queries, positives and negatives are of their kinds. -/
structure HasNegatives (dataset : D) : Prop where
  query : ∀ row ∈ lib.rows dataset, ∀ c ∈ ["query", "anchor"], ∀ value, row c = some value →
    value.kind ∈ [Kind.null, Kind.text]
  positives : ∀ row ∈ lib.rows dataset, ∀ value, row "pos" = some value →
    value.kind ∈ [Kind.null, Kind.text, Kind.texts]
  negatives : ∀ row ∈ lib.rows dataset, ∀ value, row "neg" = some value → value.kind = .texts

structure IsMultiMargins (dataset : D) : Prop extends HasNegatives lib dataset where
  margins : ∀ row ∈ lib.rows dataset, ∀ value, row "margins" = some value →
    value.kind = .numbers

structure IsMultiScores (dataset : D) : Prop extends HasNegatives lib dataset where
  scores : ∀ row ∈ lib.rows dataset, ∀ c ∈ ["scores", "pos_scores", "neg_scores"], ∀ value,
    row c = some value → value.kind ∈ [Kind.null, Kind.numbers]

def atMost (maxNegatives : Option Int) (n : Nat) : Nat :=
  match maxNegatives with
  | none => n
  | some bound => min n bound.toNat

/-- How many negatives of a row are kept: no more than the least number that a row has, if it has
any, and no more than `max_negatives`. -/
def keptNegatives (margins : Row → List Rat) (maxNegatives : Option Int) (rows : List Row) : Nat :=
  let counts := rows.map fun row => (row.alignable margins).length
  atMost maxNegatives (((counts.filter (0 < ·)).min?).getD 0)

def ownTriplets (margins : Row → List Rat) (maxNegatives : Option Int) (rows : List Row) :
    List Row :=
  rows.flatMap fun row =>
    ((row.alignable margins).take (keptNegatives margins maxNegatives rows)).map row.triplet

def ExpandsOwn (margins : Row → List Rat) (maxNegatives : Option Int) (dataset : D) :
    Except PrepareError D → Prop
  | .ok dataset' => lib.columnNames dataset' = labelledTripletColumns ∧
      lib.rows dataset' = ownTriplets margins maxNegatives (lib.rows dataset)
  | .error _ => ∀ row ∈ lib.rows dataset, row.alignable margins = []

/-! ## When rows keep their texts -/

structure IsBounded (maxNegatives : Option Int) (dataset : D) : Prop where
  query : HasOneOf (lib.columnNames dataset) "query" "anchor"
  bound : ∀ bound, maxNegatives = some bound → 0 < bound

/-- If a row can be expanded, the rows that can be have the first positive of the last row. -/
def SharePositive (maxNegatives : Option Int) (dataset : D) : Prop :=
  (∃ row ∈ lib.rows dataset, row.alignable Row.margins ≠ []) →
    IsBounded lib maxNegatives dataset ∧
      ∀ row ∈ lib.rows dataset, row.alignable Row.margins ≠ [] →
        ∀ last, (lib.rows dataset).getLast? = some last → firstPositive row = firstPositive last

def IsCounted (row : Row) : Prop := row.ownScores ≠ [] ∧ row.alignable Row.scoreMargins ≠ []

/-- If a row can be expanded, a row that is counted can be, and a row of the universal format has as
many negatives as one that is counted, or as may be kept. -/
def ScoresCounted (maxNegatives : Option Int) (dataset : D) : Prop :=
  (∃ row ∈ lib.rows dataset, row.alignable Row.scoreMargins ≠ []) →
    IsBounded lib maxNegatives dataset ∧ (∃ row ∈ lib.rows dataset, IsCounted row) ∧
      ∀ row ∈ lib.rows dataset, row.alignable Row.scoreMargins ≠ [] →
        (∃ counted ∈ lib.rows dataset, IsCounted counted ∧
          (counted.alignable Row.scoreMargins).length ≤ (row.alignable Row.scoreMargins).length) ∨
        ∃ bound, maxNegatives = some bound ∧ bound ≤ (row.alignable Row.scoreMargins).length

end Library

end Embedding
