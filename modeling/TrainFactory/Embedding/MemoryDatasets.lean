import Mathlib.Data.List.Dedup
import TrainFactory.Embedding.Datasets
import TrainFactory.Lib.Result

/-!
# Datasets in memory

Datasets as lists of rows over a list of columns. They have the operations of the library, which
shows that what it documents can be had all at once.
-/

namespace Embedding

open Lib

/-- Rows over columns. -/
structure MemoryDataset where
  columns : List String
  rows : List Row
  nodup : columns.Nodup
  isSome : ∀ row ∈ rows, ∀ column, (row column).isSome = true ↔ column ∈ columns

def Row.over (row : Row) (columns : List String) : Row := fun column =>
  if column ∈ columns then some (row.get column) else none

theorem Row.isSome_over (row : Row) (columns : List String) (column : String) :
    (row.over columns column).isSome = true ↔ column ∈ columns := by
  unfold Row.over
  split <;> simp_all

theorem Row.over_eq {row : Row} {columns : List String}
    (h : ∀ column, (row column).isSome = true ↔ column ∈ columns) : row.over columns = row := by
  funext column
  unfold Row.over Row.get
  split
  · rename_i hmem
    obtain ⟨value, hvalue⟩ := Option.isSome_iff_exists.mp ((h column).mpr hmem)
    rw [hvalue]
    rfl
  · rename_i hnot
    cases hvalue : row column with
    | none => rfl
    | some value => exact absurd ((h column).mp (by rw [hvalue]; rfl)) hnot

def Row.ofRecord (record : Record) : Row := fun column =>
  (record.find? fun e => e.1 = column).map Prod.snd

def Row.update (row : Row) (record : Record) : Row := fun column =>
  match Row.ofRecord record column with
  | none => row column
  | some value => some value

namespace MemoryDataset

theorem isSome_map_over (columns : List String) (rows : List Row) :
    ∀ row ∈ rows.map (fun row => row.over columns), ∀ column,
      (row column).isSome = true ↔ column ∈ columns := by
  intro row hrow column
  obtain ⟨row, -, rfl⟩ := List.mem_map.mp hrow
  exact row.isSome_over columns column

def make (columns : List String) (rows : List Row) : MemoryDataset where
  columns := columns.dedup
  rows := rows.map fun row => row.over columns.dedup
  nodup := columns.nodup_dedup
  isSome := isSome_map_over columns.dedup rows

theorem make_columns {columns : List String} (h : columns.Nodup) (rows : List Row) :
    (make columns rows).columns = columns := h.dedup

theorem make_rows {columns : List String} (h : columns.Nodup) {rows : List Row}
    (hrows : ∀ row ∈ rows, ∀ column, (row column).isSome = true ↔ column ∈ columns) :
    (make columns rows).rows = rows := by
  have hover : (make columns rows).rows = rows.map fun row => row.over columns.dedup := rfl
  rw [hover, h.dedup]
  conv_rhs => rw [← List.map_id rows]
  exact List.map_congr_left fun row hrow => Row.over_eq (hrows row hrow)

def renameColumn (t : MemoryDataset) (src dst : String) : Except PrepareError MemoryDataset :=
  if dst ∈ t.columns ∨ src ∉ t.columns then .error .library
  else .ok (make (t.columns.map fun column => if column = src then dst else column)
    (t.rows.map fun row => Row.rename row src dst))

def selectColumns (t : MemoryDataset) (columns : List String) : Except PrepareError MemoryDataset :=
  if ∀ column ∈ columns, column ∈ t.columns then
    .ok (make columns (t.rows.map fun row => Row.select row columns))
  else .error .library

def removeColumns (t : MemoryDataset) (columns : List String) : Except PrepareError MemoryDataset :=
  .ok (make (t.columns.filter fun column => column ∉ columns) t.rows)

def fromList (records : List Record) : MemoryDataset :=
  make ((records.headD []).map Prod.fst) (records.map Row.ofRecord)

def map (t : MemoryDataset) (f : Row → Except PrepareError Record) : Except PrepareError MemoryDataset :=
  (t.rows.mapM f).map fun records =>
    make (t.columns ++ ((records.headD []).map Prod.fst).filter fun column => column ∉ t.columns)
      (t.rows.zipWith Row.update records)

/-- `map` with the columns removed. -/
def mapOnly (t : MemoryDataset) (f : Row → Except PrepareError Record) : Except PrepareError MemoryDataset :=
  (t.rows.mapM f).map fromList

theorem renameColumn_ok (t : MemoryDataset) (src dst : String) (hsrc : src ∈ t.columns)
    (hdst : dst ∉ t.columns) :
    ∃ t', t.renameColumn src dst = .ok t' ∧
      t'.columns = t.columns.map (fun column => if column = src then dst else column) ∧
      t'.rows = t.rows.map fun row => Row.rename row src dst := by
  have hnodup : (t.columns.map fun column => if column = src then dst else column).Nodup := by
    refine List.Nodup.map_on (fun c hc c' hc' heq => ?_) t.nodup
    split at heq <;> split at heq
    · simp_all
    · exact absurd (heq ▸ hc') hdst
    · exact absurd (heq ▸ hc) hdst
    · exact heq
  have hrows : ∀ row ∈ t.rows.map (fun row => Row.rename row src dst), ∀ column,
      (row column).isSome = true ↔
        column ∈ t.columns.map fun column => if column = src then dst else column := by
    intro row hrow column
    obtain ⟨row, hmem, rfl⟩ := List.mem_map.mp hrow
    rw [List.mem_map]
    unfold Row.rename
    split
    · rename_i heq
      rw [t.isSome row hmem src]
      exact iff_of_true hsrc ⟨src, hsrc, by rw [if_pos rfl, heq]⟩
    · rename_i hne
      split
      · rename_i heq
        refine iff_of_false (by simp) ?_
        rintro ⟨c, -, hc⟩
        split at hc
        · exact hne hc.symm
        · rename_i hcs
          exact hcs (hc.trans heq)
      · rename_i hcs
        rw [t.isSome row hmem column]
        constructor
        · exact fun hthere => ⟨column, hthere, if_neg hcs⟩
        · rintro ⟨c, hthere, hc⟩
          split at hc
          · exact absurd hc.symm hne
          · exact hc ▸ hthere
  refine ⟨_, if_neg ?_, make_columns hnodup _, make_rows hnodup hrows⟩
  exact not_or.mpr ⟨hdst, not_not_intro hsrc⟩

theorem selectColumns_ok (t : MemoryDataset) (columns : List String)
    (h : ∀ column ∈ columns, column ∈ t.columns) (hnodup : columns.Nodup) :
    ∃ t', t.selectColumns columns = .ok t' ∧ t'.columns = columns ∧
      t'.rows = t.rows.map fun row => Row.select row columns := by
  refine ⟨_, if_pos h, make_columns hnodup _, make_rows hnodup ?_⟩
  intro row hrow column
  obtain ⟨row, hthere, rfl⟩ := List.mem_map.mp hrow
  unfold Row.select
  split
  · rename_i hmem
    exact iff_of_true ((t.isSome row hthere column).mpr (h column hmem)) hmem
  · rename_i hnot
    exact iff_of_false (by simp) hnot

theorem mapM_error {rows : List Row} {f : Row → Except PrepareError Record} {row : Row}
    {e : PrepareError} (hrow : row ∈ rows) (hf : f row = .error e) :
    ∃ e', rows.mapM f = .error e' := by
  cases hmap : rows.mapM f with
  | error e' => exact ⟨e', rfl⟩
  | ok records =>
    obtain ⟨record, -, hok⟩ := exists_of_mapM_eq_ok hmap hrow
    rw [hf] at hok
    cases hok

theorem map_error (t : MemoryDataset) (f : Row → Except PrepareError Record) (row : Row) (e : PrepareError)
    (hrow : row ∈ t.rows) (hf : f row = .error e) : ∃ e', t.map f = .error e' := by
  obtain ⟨e', he'⟩ := mapM_error hrow hf
  exact ⟨e', by rw [map, he']; rfl⟩

theorem mapOnly_error (t : MemoryDataset) (f : Row → Except PrepareError Record) (row : Row)
    (e : PrepareError) (hrow : row ∈ t.rows) (hf : f row = .error e) :
    ∃ e', t.mapOnly f = .error e' := by
  obtain ⟨e', he'⟩ := mapM_error hrow hf
  exact ⟨e', by rw [mapOnly, he']; rfl⟩

theorem renameColumn_error (t : MemoryDataset) (src dst : String) (h : dst ∈ t.columns) :
    ∃ e, t.renameColumn src dst = .error e := ⟨_, if_pos (Or.inl h)⟩

theorem fromList_ok (record : Record) (records : List Record)
    (hnodup : (record.map Prod.fst).Nodup) (_ : Uniform (record :: records)) :
    ∃ t, (Except.ok (fromList (record :: records)) : Except PrepareError MemoryDataset) = .ok t ∧
      t.columns = record.map Prod.fst := ⟨_, rfl, make_columns hnodup _⟩

theorem map_ok (t : MemoryDataset) (f : Row → Except PrepareError Record) (records : List Record)
    (hmap : t.rows.mapM f = .ok records)
    (hkeys : ∀ record ∈ records, ∀ e ∈ record, e.1 ∈ t.columns) (_ : Uniform records) :
    ∃ t', t.map f = .ok t' ∧ t'.columns = t.columns := by
  refine ⟨_, by rw [map, hmap]; rfl, ?_⟩
  have hnone : (((records.headD []).map Prod.fst).filter fun column => column ∉ t.columns) = [] := by
    rw [List.filter_eq_nil_iff]
    intro c hc
    obtain ⟨e, he, rfl⟩ := List.mem_map.mp hc
    cases records with
    | nil => cases he
    | cons record records => simpa using hkeys record (List.mem_cons_self ..) e he
  dsimp only
  rw [hnone, List.append_nil]
  exact make_columns t.nodup _

theorem mapOnly_ok (t : MemoryDataset) (f : Row → Except PrepareError Record) (records : List Record)
    (columns : List String) (hne : t.rows ≠ []) (hmap : t.rows.mapM f = .ok records)
    (hkeys : ∀ record ∈ records, record.map Prod.fst = columns) (hnodup : columns.Nodup)
    (_ : Uniform records) :
    ∃ t', t.mapOnly f = .ok t' ∧ t'.columns = columns := by
  refine ⟨_, by rw [mapOnly, hmap]; rfl, ?_⟩
  cases records with
  | nil =>
    have hlength := (mapM_eq_ok.mp hmap).length_eq
    exact absurd (List.length_eq_zero_iff.mp hlength) hne
  | cons record records =>
    have hrecord := hkeys record (List.mem_cons_self ..)
    exact (make_columns (hrecord ▸ hnodup) _).trans hrecord

end MemoryDataset

def memoryLibrary : DatasetLibrary MemoryDataset where
  columnNames := MemoryDataset.columns
  rows := MemoryDataset.rows
  renameColumn := MemoryDataset.renameColumn
  selectColumns := MemoryDataset.selectColumns
  removeColumns := MemoryDataset.removeColumns
  fromList records := .ok (MemoryDataset.fromList records)
  map := MemoryDataset.map
  mapOnly := MemoryDataset.mapOnly
  columnNames_nodup := MemoryDataset.nodup
  isSome_row := MemoryDataset.isSome
  renameColumn_error := MemoryDataset.renameColumn_error
  renameColumn_ok := MemoryDataset.renameColumn_ok
  selectColumns_ok := MemoryDataset.selectColumns_ok
  fromList_nil := ⟨_, rfl, rfl⟩
  fromList_ok := MemoryDataset.fromList_ok
  map_error := MemoryDataset.map_error
  map_ok := MemoryDataset.map_ok
  mapOnly_error := MemoryDataset.mapOnly_error
  mapOnly_ok := MemoryDataset.mapOnly_ok

/-! ## Rows -/

structure KeepsRows {D : Type} (lib : DatasetLibrary D) : Prop where
  removeColumns_ok : ∀ d columns, (∀ column ∈ columns, column ∈ lib.columnNames d) →
    ∃ d', lib.removeColumns d columns = .ok d' ∧
      lib.columnNames d' = (lib.columnNames d).filter (fun column => column ∉ columns) ∧
      lib.rows d' = (lib.rows d).map fun row =>
        Row.select row ((lib.columnNames d).filter fun column => column ∉ columns)
  /-- The rows have the columns of the first record; what they do not have is missing. -/
  fromList_rows : ∀ record records d, (record.map Prod.fst).Nodup → Uniform (record :: records) →
    lib.fromList (record :: records) = .ok d →
      lib.rows d = (record :: records).map fun r => (Row.ofRecord r).over (record.map Prod.fst)
  mapOnly_rows : ∀ d f records columns d', lib.rows d ≠ [] → (lib.rows d).mapM f = .ok records →
    (∀ record ∈ records, record.map Prod.fst = columns) → columns.Nodup → Uniform records →
      lib.mapOnly d f = .ok d' → lib.rows d' = records.map Row.ofRecord
  /-- There is nothing to map in a dataset without rows. -/
  mapOnly_nil : ∀ d f, lib.rows d = [] → ∃ d', lib.mapOnly d f = .ok d' ∧ lib.rows d' = []

theorem Row.select_eq_over {row : Row} {columns columns' : List String}
    (h : ∀ column, (row column).isSome = true ↔ column ∈ columns)
    (hsubset : ∀ column ∈ columns', column ∈ columns) : row.over columns' = row.select columns' := by
  funext column
  unfold Row.over Row.select
  split
  · rename_i hmem
    obtain ⟨value, hvalue⟩ := Option.isSome_iff_exists.mp ((h column).mpr (hsubset column hmem))
    rw [Row.get, hvalue]
    rfl
  · rfl

theorem Row.isSome_ofRecord (record : Record) (column : String) :
    (Row.ofRecord record column).isSome = true ↔ column ∈ record.map Prod.fst := by
  rw [Row.ofRecord, Option.isSome_map, List.find?_isSome, List.mem_map]
  constructor
  · rintro ⟨e, he, hcolumn⟩
    exact ⟨e, he, of_decide_eq_true hcolumn⟩
  · rintro ⟨e, he, hcolumn⟩
    exact ⟨e, he, decide_eq_true hcolumn⟩

namespace MemoryDataset

theorem fromList_rows (record : Record) (records : List Record)
    (hnodup : (record.map Prod.fst).Nodup) :
    (fromList (record :: records)).rows =
      (record :: records).map fun r => (Row.ofRecord r).over (record.map Prod.fst) := by
  have hrows : (fromList (record :: records)).rows = ((record :: records).map Row.ofRecord).map
      fun row => row.over (record.map Prod.fst).dedup := rfl
  rw [hrows, hnodup.dedup, List.map_map]
  rfl

theorem removeColumns_ok (t : MemoryDataset) (columns : List String) :
    ∃ t', t.removeColumns columns = .ok t' ∧
      t'.columns = t.columns.filter (fun column => column ∉ columns) ∧
      t'.rows = t.rows.map fun row =>
        Row.select row (t.columns.filter fun column => column ∉ columns) := by
  have hnodup : (t.columns.filter fun column => column ∉ columns).Nodup := t.nodup.filter _
  refine ⟨_, rfl, make_columns hnodup _, ?_⟩
  have hrows : (make (t.columns.filter fun column => column ∉ columns) t.rows).rows =
      t.rows.map fun row => row.over (t.columns.filter fun column => column ∉ columns).dedup := rfl
  rw [hrows, hnodup.dedup]
  exact List.map_congr_left fun row hrow =>
    Row.select_eq_over (t.isSome row hrow) fun column hcolumn => (List.mem_filter.mp hcolumn).1

theorem mapOnly_rows (t : MemoryDataset) (f : Row → Except PrepareError Record)
    (records : List Record) (columns : List String) (t' : MemoryDataset)
    (hmap : t.rows.mapM f = .ok records) (hkeys : ∀ record ∈ records, record.map Prod.fst = columns)
    (hnodup : columns.Nodup) (h : t.mapOnly f = .ok t') :
    t'.rows = records.map Row.ofRecord := by
  rw [mapOnly, hmap] at h
  obtain rfl := Except.ok.inj h
  cases records with
  | nil => rfl
  | cons record records =>
    have hrecord := hkeys record (List.mem_cons_self ..)
    rw [fromList_rows record records (hrecord ▸ hnodup)]
    refine List.map_congr_left fun r hr => Row.over_eq fun column => ?_
    rw [Row.isSome_ofRecord, hkeys r hr, hrecord]

end MemoryDataset

theorem memoryLibrary_keepsRows : KeepsRows memoryLibrary where
  removeColumns_ok t columns _ := MemoryDataset.removeColumns_ok t columns
  fromList_rows record records t hnodup _ h := by
    obtain rfl := Except.ok.inj h
    exact MemoryDataset.fromList_rows record records hnodup
  mapOnly_rows t f records columns t' _ hmap hkeys hnodup _ h :=
    MemoryDataset.mapOnly_rows t f records columns t' hmap hkeys hnodup h
  mapOnly_nil t f hrows := by
    have hnil : t.rows = [] := hrows
    refine ⟨MemoryDataset.fromList [], ?_, rfl⟩
    show (t.rows.mapM f).map MemoryDataset.fromList = _
    rw [hnil]
    rfl

end Embedding
