import TrainFactory.Embedding.Margins
import TrainFactory.Embedding.Proofs.MultiNegativesProofs

/-!
# Numbered negatives

What a dataset of arrays should become: a row for each positive that is not empty, with the
negatives of its row in the columns of their numbers.
-/

namespace Embedding

open Lib

/-! ## Rows -/

namespace Row

def posTexts (row : Row) : List String :=
  match row.get "pos" with
  | .texts l => l
  | _ => []

def filledPositives (row : Row) : List String := row.posTexts.filter (· ≠ "")

def HasNegative (row : Row) (idx : Nat) (neg : String) : Prop :=
  row.negTexts[idx]? = some neg ∧ neg ≠ ""

end Row

section Library

variable {D : Type} (lib : DatasetLibrary D)

structure IsArrays (n : Nat) (dataset : D) : Prop where
  columns : ∀ c, startsWith c "_benchmark" = false →
    (c ∈ lib.columnNames dataset ↔ c ∈ ["query", "pos", "neg"])
  query : ∀ row ∈ lib.rows dataset, (row.get "query").kind ∈ [Kind.null, Kind.text]
  positives : ∀ row ∈ lib.rows dataset, (row.get "pos").kind = .texts
  negatives : ∀ row ∈ lib.rows dataset, ∃ l, row.get "neg" = .texts l ∧ l.length = n

/-! ## Columns of negatives -/

def expandedRows (rows : List Row) : List (Row × String) :=
  rows.flatMap fun row => row.filledPositives.map fun positive => (row, positive)

/-- A row of numbered negatives: each that is not empty has the column of its number, and no other
column has a text. -/
structure HoldsNegatives (row : Row) (positive : String) (expanded : Row) : Prop where
  anchor : expanded "anchor" = some row.query
  positive : expanded "positive" = some (.text positive)
  held : ∀ idx neg, row.HasNegative idx neg → expanded (negativeName idx) = some (.text neg)
  blank : ∀ idx, (∀ neg, ¬ row.HasNegative idx neg) → expanded.get (negativeName idx) = .null

def IsNumbered (n : Nat) (columns : List String) : Prop :=
  ∃ idxs : List Nat, idxs.Pairwise (· < ·) ∧ (∀ idx ∈ idxs, idx < n) ∧
    columns = "anchor" :: "positive" :: idxs.map negativeName

def ExpandsNegatives (n : Nat) (dataset : D) : Except PrepareError D → Prop
  | .ok dataset' => IsNumbered n (lib.columnNames dataset') ∧
      List.Forall₂ (fun e expanded => HoldsNegatives e.1 e.2 expanded)
        (expandedRows (lib.rows dataset)) (lib.rows dataset')
  | .error _ => False

def KeepsNegatives (dataset : D) : Except PrepareError D → Prop
  | .ok dataset' => List.Forall₂ (fun row kept => kept "anchor" = some row.query ∧
      ∀ idx neg, row.negTexts[idx]? = some neg → kept (negativeName idx) = some (.text neg))
        (lib.rows dataset) (lib.rows dataset')
  | .error _ => False

/-! ## When negatives are kept -/

/-- Every row has positives, and the first row with one that is not empty has a negative wherever
another such row has one, in columns whose names are in the order of their numbers. -/
structure FirstCovers (dataset : D) : Prop where
  positives : ∀ row ∈ lib.rows dataset, row.posTexts ≠ []
  first : ∃ first, IsFirst (lib.rows dataset) (fun row => row.filledPositives ≠ []) first ∧
    (∀ row ∈ lib.rows dataset, row.filledPositives ≠ [] → ∀ idx neg, row.HasNegative idx neg →
      ∃ neg', first.HasNegative idx neg') ∧
    ∀ idx idx' neg neg', first.HasNegative idx neg → first.HasNegative idx' neg' → idx < idx' →
      negativeName idx < negativeName idx'

end Library

end Embedding
