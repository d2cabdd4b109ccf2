import Mathlib.Data.Rat.Defs
import Mathlib.Data.List.Nodup
import TrainFactory.Lib.Text

/-!
# Datasets

The rows of an embedding dataset, and what the recipes use of the `datasets` library: the operations
on datasets are parameters, with what the library documents of their columns and rows.
-/

namespace Embedding

open Lib

/-! ## Values -/

inductive Cell where
  | null
  | text (s : String)
  | number (q : Rat)
  | texts (l : List String)
  | numbers (l : List Rat)

inductive Kind where
  | null
  | text
  | number
  | texts
  | numbers
deriving DecidableEq

/-- An exception. -/
inductive PrepareError where
  /-- `EmbeddingRecipeError`. -/
  | recipe (message : String)
  | keyError (key : String)
  | typeError
  /-- An exception of the library. -/
  | library

namespace Cell

def kind : Cell → Kind
  | null => .null
  | text _ => .text
  | number _ => .number
  | texts _ => .texts
  | numbers _ => .numbers

/-- `isinstance(value, list)`. -/
def isList : Cell → Bool
  | texts _ => true
  | numbers _ => true
  | _ => false

/-- `isinstance(value, str)`. -/
def isText : Cell → Bool
  | text _ => true
  | _ => false

/-- `isinstance(value, (int, float))`. -/
def isNumber : Cell → Bool
  | number _ => true
  | _ => false

def truthy : Cell → Bool
  | null => false
  | text s => s ≠ ""
  | number q => q ≠ 0
  | texts l => !l.isEmpty
  | numbers l => !l.isEmpty

/-- `list(value)`; an error where the value is not iterable. -/
def elements : Cell → Except PrepareError (List Cell)
  | text s => .ok (s.toList.map fun c => .text (String.singleton c))
  | texts l => .ok (l.map .text)
  | numbers l => .ok (l.map .number)
  | _ => .error .typeError

/-- `len(value)`. -/
def len (value : Cell) : Except PrepareError Nat := value.elements.map List.length

def listLength : Cell → Nat
  | texts l => l.length
  | numbers l => l.length
  | _ => 0

end Cell

/-! ## Rows -/

abbrev Row := String → Option Cell

/-- A dictionary that becomes a row. -/
abbrev Record := List (String × Cell)

namespace Row

/-- `row.get(column)`. -/
def get (row : Row) (column : String) : Cell := (row column).getD .null

/-- `row.get(column, [])`. -/
def getList (row : Row) (column : String) : Cell := (row column).getD (.texts [])

/-- `row.get(column) or row.get(other)`. -/
def getOr (row : Row) (column other : String) : Cell :=
  if (row.get column).truthy then row.get column else row.get other

/-- `row[column]`. -/
def item (row : Row) (column : String) : Except PrepareError Cell :=
  match row column with
  | none => .error (.keyError column)
  | some value => .ok value

def rename (row : Row) (src dst : String) : Row := fun column =>
  if column = dst then row src else if column = src then none else row column

def select (row : Row) (columns : List String) : Row := fun column =>
  if column ∈ columns then row column else none

end Row

/-- The values of every column have one kind, or are missing. -/
def Uniform (records : List Record) : Prop :=
  ∃ kindOf : String → Kind, ∀ record ∈ records, ∀ e ∈ record,
    e.2.kind = .null ∨ e.2.kind = kindOf e.1

/-! ## The library -/

structure DatasetLibrary (D : Type) where
  /-- `dataset.column_names`. -/
  columnNames : D → List String
  /-- The rows, in order. -/
  rows : D → List Row
  /-- `dataset.rename_column(src, dst)`. -/
  renameColumn : D → String → String → Except PrepareError D
  /-- `dataset.select_columns(columns)`. -/
  selectColumns : D → List String → Except PrepareError D
  /-- `dataset.remove_columns(columns)`. -/
  removeColumns : D → List String → Except PrepareError D
  /-- `Dataset.from_list(records)`. -/
  fromList : List Record → Except PrepareError D
  /-- `dataset.map(f)`. -/
  map : D → (Row → Except PrepareError Record) → Except PrepareError D
  /-- `dataset.map(f, remove_columns=dataset.column_names)`. -/
  mapOnly : D → (Row → Except PrepareError Record) → Except PrepareError D
  columnNames_nodup : ∀ d, (columnNames d).Nodup
  /-- A row is a dictionary over the columns. -/
  isSome_row : ∀ d, ∀ row ∈ rows d, ∀ column, (row column).isSome = true ↔ column ∈ columnNames d
  /-- A column is not renamed to one that exists. -/
  renameColumn_error : ∀ d src dst, dst ∈ columnNames d → ∃ e, renameColumn d src dst = .error e
  renameColumn_ok : ∀ d src dst, src ∈ columnNames d → dst ∉ columnNames d →
    ∃ d', renameColumn d src dst = .ok d' ∧
      columnNames d' = (columnNames d).map (fun column => if column = src then dst else column) ∧
      rows d' = (rows d).map fun row => Row.rename row src dst
  selectColumns_ok : ∀ d columns, (∀ column ∈ columns, column ∈ columnNames d) → columns.Nodup →
    ∃ d', selectColumns d columns = .ok d' ∧ columnNames d' = columns ∧
      rows d' = (rows d).map fun row => Row.select row columns
  fromList_nil : ∃ d, fromList [] = .ok d ∧ columnNames d = []
  /-- The columns are the keys of the first record. -/
  fromList_ok : ∀ record records, (record.map Prod.fst).Nodup → Uniform (record :: records) →
    ∃ d, fromList (record :: records) = .ok d ∧ columnNames d = record.map Prod.fst
  /-- An exception of the function ends `map`. -/
  map_error : ∀ d f row e, row ∈ rows d → f row = .error e → ∃ e', map d f = .error e'
  /-- Columns that are set stay where they are. -/
  map_ok : ∀ d f records, (rows d).mapM f = .ok records →
    (∀ record ∈ records, ∀ e ∈ record, e.1 ∈ columnNames d) → Uniform records →
      ∃ d', map d f = .ok d' ∧ columnNames d' = columnNames d
  mapOnly_error : ∀ d f row e, row ∈ rows d → f row = .error e → ∃ e', mapOnly d f = .error e'
  mapOnly_ok : ∀ d f records columns, rows d ≠ [] → (rows d).mapM f = .ok records →
    (∀ record ∈ records, record.map Prod.fst = columns) → columns.Nodup → Uniform records →
      ∃ d', mapOnly d f = .ok d' ∧ columnNames d' = columns

end Embedding
