import Mathlib.Data.List.Perm.Basic
import Mathlib.Data.String.Basic
import TrainFactory.Embedding.Negatives
import TrainFactory.Embedding.Proofs.MarginsProofs
import TrainFactory.Lib.DecimalText

/-!
# Negatives in their columns

The records of arrays have the columns of the first of them, and these in the order of their names.
So a dataset keeps its negatives exactly if the first row with a positive has all that others have.
-/

namespace Embedding

open Lib

/-! ## The order of columns -/

theorem replaceFrom_of_notMem {c : Char} {old new cs : List Char} (h : c ∉ cs) :
    replaceFrom (c :: old) new 0 cs = cs := by
  induction cs with
  | nil => rfl
  | cons d cs ih =>
    obtain ⟨hne, hcs⟩ := not_or.mp fun hmem => h (List.mem_cons.mpr hmem)
    have hno : (c :: old).isPrefixOf (d :: cs) = false := by
      rw [List.isPrefixOf_cons_cons, beq_false_of_ne hne, Bool.false_and]
    rw [replaceFrom, hno, if_neg Bool.false_ne_true, ih hcs]

theorem replaceText_negativeName (idx : Nat) :
    replaceText (negativeName idx) "negative" "" = String.ofList ('_' :: Nat.toDigits 10 idx) := by
  have hdigits : 'n' ∉ Nat.toDigits 10 idx := fun h =>
    absurd (isDigit_toDigits _ h) (by decide)
  have htext : (negativeName idx).toList = "negative_".toList ++ Nat.toDigits 10 idx := by
    rw [negativeName, String.toList_append]
    congr 1
    simp [Nat.repr]
  have hline : 'n' ∉ '_' :: Nat.toDigits 10 idx := by
    intro hmem
    rcases List.mem_cons.mp hmem with heq | hmem
    · exact absurd heq (by decide)
    · exact hdigits hmem
  have hrest := @replaceFrom_of_notMem 'n' "egative".toList [] _ hline
  rw [replaceText, htext]
  exact congrArg String.ofList hrest

/-- A name that starts with a line is no number. -/
theorem parseInt_underscore (cs : List Char) : parseInt (String.ofList ('_' :: cs)) = none := by
  have hstrip : ∃ rest, (strip (String.ofList ('_' :: cs))).toList = '_' :: rest := by
    have hfront : ('_' :: cs).dropWhile isSpace = '_' :: cs := by
      rw [List.dropWhile_cons_of_neg (by decide)]
    rw [strip, String.toList_ofList, String.toList_ofList, hfront]
    have hback : ['_'].dropWhile isSpace = ['_'] := by decide
    rw [List.reverse_cons, List.dropWhile_append, hback]
    split
    · exact ⟨[], rfl⟩
    · exact ⟨_, by rw [List.reverse_append]; rfl⟩
  obtain ⟨rest, hrest⟩ := hstrip
  have hdigits : decimalDigits ('_' :: rest) = none := by
    have hline : decimalDigit '_' = none := by decide
    unfold decimalDigits
    split
    · rfl
    · rename_i c heq
      obtain ⟨rfl, -⟩ := List.cons.inj heq
      rw [hline]
      rfl
    · rename_i c cs heq
      obtain ⟨rfl, -⟩ := List.cons.inj heq
      rw [hline]
      rfl
    · rename_i c c' cs _ heq
      obtain ⟨rfl, -⟩ := List.cons.inj heq
      rw [hline]
      rfl
  have hnone : decimalNat ('_' :: rest) = none := by
    rw [decimalNat, hdigits]
  rw [parseInt, hrest]
  split
  · rename_i heq
    exact absurd (List.cons.inj heq).1 (by decide)
  · rename_i heq
    exact absurd (List.cons.inj heq).1 (by decide)
  · rw [hnone]
    rfl

theorem negativeNumber_negativeName (idx : Nat) : negativeNumber (negativeName idx) = 9999 := by
  rw [negativeNumber, replaceText_negativeName, parseInt_underscore]
  rfl

def namesOrder (c c' : String) : Bool :=
  negativeNumber c < negativeNumber c' || (negativeNumber c = negativeNumber c' && !(c' < c))

theorem namesOrder_iff {c c' : String} : namesOrder c c' = true ↔
    negativeNumber c < negativeNumber c' ∨ negativeNumber c = negativeNumber c' ∧ c ≤ c' := by
  rw [namesOrder, Bool.or_eq_true, Bool.and_eq_true, decide_eq_true_iff, decide_eq_true_iff,
    Bool.not_eq_true', decide_eq_false_iff_not, not_lt]

theorem namesOrder_trans (a b c : String) (hab : namesOrder a b = true)
    (hbc : namesOrder b c = true) : namesOrder a c = true := by
  rw [namesOrder_iff] at hab hbc ⊢
  rcases hab with hab | ⟨hab, hle⟩
  · rcases hbc with hbc | ⟨hbc, -⟩
    · exact Or.inl (by omega)
    · exact Or.inl (by omega)
  · rcases hbc with hbc | ⟨hbc, hle'⟩
    · exact Or.inl (by omega)
    · exact Or.inr ⟨by omega, hle.trans hle'⟩

theorem namesOrder_total (a b : String) : (namesOrder a b || namesOrder b a) = true := by
  rw [Bool.or_eq_true, namesOrder_iff, namesOrder_iff]
  rcases lt_trichotomy (negativeNumber a) (negativeNumber b) with h | h | h
  · exact Or.inl (Or.inl h)
  · rcases le_total a b with hle | hle
    · exact Or.inl (Or.inr ⟨h, hle⟩)
    · exact Or.inr (Or.inr ⟨h.symm, hle⟩)
  · exact Or.inr (Or.inl h)

theorem namesOrder_negativeName {idx idx' : Nat} (h : idx ≠ idx') :
    namesOrder (negativeName idx) (negativeName idx') = true ↔
      negativeName idx < negativeName idx' := by
  have hne : negativeName idx ≠ negativeName idx' := fun heq => h (negativeName_injective heq)
  rw [namesOrder_iff, negativeNumber_negativeName, negativeNumber_negativeName]
  constructor
  · rintro (hlt | ⟨-, hle⟩)
    · exact absurd hlt (lt_irrefl _)
    · exact lt_of_le_of_ne hle hne
  · exact fun hlt => Or.inr ⟨rfl, hlt.le⟩

theorem sortNegativeColumns_numbered (idxs : List Nat) :
    sortNegativeColumns ("query" :: "positive" :: idxs.map negativeName) =
      (idxs.map negativeName).mergeSort namesOrder := by
  have hfilter : ("query" :: "positive" :: idxs.map negativeName).filter
      (fun c => startsWith c "negative") = idxs.map negativeName := by
    rw [List.filter_cons_of_neg (by decide), List.filter_cons_of_neg (by decide),
      List.filter_eq_self]
    intro c hc
    obtain ⟨idx, -, rfl⟩ := List.mem_map.mp hc
    exact startsWith_negativeName idx
  unfold sortNegativeColumns
  rw [hfilter]
  rfl

theorem mergeSort_names_iff {n : Nat} {idxs : List Nat} (hsorted : idxs.Pairwise (· < ·))
    (hlt : ∀ idx ∈ idxs, idx < n) :
    IsNumbered n ("anchor" :: "positive" :: (idxs.map negativeName).mergeSort namesOrder) ↔
      ∀ idx ∈ idxs, ∀ idx' ∈ idxs, idx < idx' → negativeName idx < negativeName idx' := by
  have hpairwise : (idxs.map negativeName).Pairwise (fun c c' => namesOrder c c' = true) ↔
      ∀ idx ∈ idxs, ∀ idx' ∈ idxs, idx < idx' → negativeName idx < negativeName idx' := by
    rw [List.pairwise_map]
    constructor
    · intro h idx hidx idx' hidx' hless
      have hforward : idxs.Pairwise fun i j =>
          i < j → namesOrder (negativeName i) (negativeName j) = true :=
        List.Pairwise.imp (fun {i j} hij (_ : i < j) => hij) h
      have hbackward : idxs.Pairwise (flip fun i j =>
          i < j → namesOrder (negativeName i) (negativeName j) = true) :=
        hsorted.imp fun hij hji => absurd hij (lt_asymm hji)
      exact (namesOrder_negativeName hless.ne).mp (hforward.forall_of_forall_of_flip
        (fun i _ hii => absurd hii (lt_irrefl i)) hbackward hidx hidx' hless)
    · intro h
      exact hsorted.imp_of_mem fun hi hj hij =>
        (namesOrder_negativeName hij.ne).mpr (h _ hi _ hj hij)
  rw [← hpairwise]
  constructor
  · rintro ⟨idxs', hsorted', -, hcolumns⟩
    have heq := (List.cons.inj (List.cons.inj hcolumns).2).2
    have hperm : idxs'.Perm idxs := by
      refine (List.map_perm_map_iff negativeName_injective).mp ?_
      rw [← heq]
      exact List.mergeSort_perm _ _
    have hsame : idxs' = idxs :=
      hperm.eq_of_pairwise (fun i j _ _ hij hji => absurd hij (lt_asymm hji)) hsorted' hsorted
    rw [hsame] at heq
    rw [← heq]
    exact List.pairwise_mergeSort namesOrder_trans namesOrder_total _
  · intro h
    exact ⟨idxs, hsorted, hlt, by rw [List.mergeSort_of_pairwise h]⟩

/-! ## Records -/

section Records

theorem ofRecord_of_mem {record : Record} (hnodup : (record.map Prod.fst).Nodup)
    {e : String × Cell} (he : e ∈ record) : Row.ofRecord record e.1 = some e.2 := by
  induction record with
  | nil => cases he
  | cons first record ih =>
    obtain ⟨hnot, hnodup⟩ := List.nodup_cons.mp hnodup
    unfold Row.ofRecord
    rcases List.mem_cons.mp he with rfl | he
    · have hfirst : (fun e' : String × Cell => decide (e'.1 = e.1)) e = true := decide_eq_true rfl
      rw [List.find?_cons_of_pos (p := fun e' : String × Cell => decide (e'.1 = e.1)) hfirst]
      rfl
    · have hne : first.1 ≠ e.1 := fun heq => hnot (heq ▸ List.mem_map_of_mem he)
      rw [List.find?_cons_of_neg (by simpa using hne)]
      exact ih hnodup he

theorem ofRecord_of_notMem {record : Record} {c : String} (h : c ∉ record.map Prod.fst) :
    Row.ofRecord record c = none := by
  cases hvalue : Row.ofRecord record c with
  | none => rfl
  | some value => exact absurd ((Row.isSome_ofRecord record c).mp (by rw [hvalue]; rfl)) h

theorem mem_truthyIdxs {negs : List Cell} {idx : Nat} :
    idx ∈ truthyIdxs negs ↔ ∃ neg, negs[idx]? = some neg ∧ neg.truthy = true := by
  rw [truthyIdxs, List.mem_map]
  constructor
  · rintro ⟨⟨neg, idx'⟩, he, rfl⟩
    obtain ⟨he, htruthy⟩ := List.mem_filter.mp he
    exact ⟨neg, List.mk_mem_zipIdx_iff_getElem?.mp he, htruthy⟩
  · rintro ⟨neg, hneg, htruthy⟩
    exact ⟨(neg, idx), List.mem_filter.mpr ⟨List.mk_mem_zipIdx_iff_getElem?.mpr hneg, htruthy⟩, rfl⟩

theorem pairwise_truthyIdxs (negs : List Cell) : (truthyIdxs negs).Pairwise (· < ·) := by
  have hall : (negs.zipIdx.map Prod.snd).Pairwise (· < ·) := by
    rw [List.zipIdx_map_snd]
    exact List.pairwise_lt_range'
  exact hall.sublist (List.filter_sublist.map Prod.snd)

def arrayRecord (row : Row) (positive : String) : Record :=
  multiColumnRecord row.query (.text positive) (row.negTexts.map .text)

def filledIdxs (row : Row) : List Nat := truthyIdxs (row.negTexts.map .text)

theorem truthy_text_iff {s : String} : (Cell.text s).truthy = true ↔ s ≠ "" := decide_eq_true_iff

theorem mem_filledIdxs {row : Row} {idx : Nat} :
    idx ∈ filledIdxs row ↔ ∃ neg, row.HasNegative idx neg := by
  rw [filledIdxs, mem_truthyIdxs]
  constructor
  · rintro ⟨value, hvalue, htruthy⟩
    rw [List.getElem?_map] at hvalue
    obtain ⟨neg, hneg, rfl⟩ := Option.map_eq_some_iff.mp hvalue
    exact ⟨neg, hneg, truthy_text_iff.mp htruthy⟩
  · rintro ⟨neg, hneg, hne⟩
    exact ⟨.text neg, by rw [List.getElem?_map, hneg]; rfl, truthy_text_iff.mpr hne⟩

theorem keys_arrayRecord (row : Row) (positive : String) :
    (arrayRecord row positive).map Prod.fst =
      "query" :: "positive" :: (filledIdxs row).map negativeName :=
  keys_multiColumnRecord _ _ _

theorem nodup_keys_arrayRecord (row : Row) (positive : String) :
    ((arrayRecord row positive).map Prod.fst).Nodup := by
  rw [keys_arrayRecord]
  exact nodup_numbered (by decide) (by decide) (by decide) (nodup_truthyIdxs _)

theorem ofRecord_query (row : Row) (positive : String) :
    Row.ofRecord (arrayRecord row positive) "query" = some row.query := rfl

theorem ofRecord_positive (row : Row) (positive : String) :
    Row.ofRecord (arrayRecord row positive) "positive" = some (.text positive) := rfl

theorem ofRecord_negative {row : Row} {positive : String} {idx : Nat} {neg : String}
    (h : row.HasNegative idx neg) :
    Row.ofRecord (arrayRecord row positive) (negativeName idx) = some (.text neg) := by
  refine @ofRecord_of_mem _ (nodup_keys_arrayRecord row positive) (negativeName idx, .text neg)
    (List.mem_append_right _ (List.mem_filterMap.mpr ⟨(.text neg, idx), ?_, ?_⟩))
  · rw [List.mk_mem_zipIdx_iff_getElem?, List.getElem?_map, h.1]
    rfl
  · exact if_pos (truthy_text_iff.mpr h.2)

theorem ofRecord_blank {row : Row} {positive : String} {idx : Nat}
    (h : ∀ neg, ¬ row.HasNegative idx neg) :
    Row.ofRecord (arrayRecord row positive) (negativeName idx) = none := by
  refine ofRecord_of_notMem ?_
  rw [keys_arrayRecord]
  intro hmem
  rcases List.mem_cons.mp hmem with heq | hmem
  · exact ne_of_startsWith_negative (startsWith_negativeName idx) (by decide) heq
  rcases List.mem_cons.mp hmem with heq | hmem
  · exact ne_of_startsWith_negative (startsWith_negativeName idx) (by decide) heq
  obtain ⟨idx', hidx', heq⟩ := List.mem_map.mp hmem
  obtain rfl := negativeName_injective heq
  obtain ⟨neg, hneg⟩ := mem_filledIdxs.mp hidx'
  exact h neg hneg

theorem uniform_arrayRecords {es : List (Row × String)}
    (hquery : ∀ e ∈ es, e.1.query.kind ∈ [Kind.null, Kind.text]) :
    Uniform (es.map fun e => arrayRecord e.1 e.2) := by
  refine ⟨fun _ => .text, fun record hrecord field hfield => ?_⟩
  obtain ⟨e, he, rfl⟩ := List.mem_map.mp hrecord
  rcases mem_multiColumnRecord hfield with rfl | ⟨-, hvalue | hvalue⟩
  · rcases List.mem_cons.mp (hquery e he) with hnull | htext
    · exact Or.inl hnull
    · exact Or.inr (List.mem_singleton.mp htext)
  · exact Or.inr (hvalue ▸ rfl)
  · obtain ⟨neg, -, heq⟩ := List.mem_map.mp hvalue
    exact Or.inr (heq ▸ rfl)

end Records

/-! ## Datasets of records -/

section Datasets

variable {D : Type} {lib : DatasetLibrary D} {dataset d : D} {g : Row → Row} {n : Nat}

theorem standardizeMnrColumns_numbered {idxs : List Nat}
    (hcolumns : lib.columnNames d = "query" :: "positive" :: idxs.map negativeName) :
    standardizeMnrColumns lib d = .ok d := by
  have hnone : (shortNames.filter fun e =>
      e.1 ∈ lib.columnNames d ∧ e.2 ∉ lib.columnNames d) = [] := by
    rw [List.filter_eq_nil_iff]
    intro e he hthere
    have hmem := (of_decide_eq_true hthere).1
    have hnames : ∀ e ∈ shortNames, e.1 ≠ "query" ∧ e.1 ≠ "positive" ∧
        startsWith e.1 "negative" = false := by decide
    obtain ⟨hquery, hpositive, hstarts⟩ := hnames e he
    rw [hcolumns] at hmem
    rcases List.mem_cons.mp hmem with heq | hmem
    · exact hquery heq
    rcases List.mem_cons.mp hmem with heq | hmem
    · exact hpositive heq
    obtain ⟨idx, -, heq⟩ := List.mem_map.mp hmem
    exact ne_of_startsWith_negative (startsWith_negativeName idx) hstarts heq
  rw [standardizeMnrColumns_eq (hcolumns ▸ isPlain_numbered idxs), hnone]
  rfl

def sortedColumns (idxs : List Nat) : List String :=
  ["query", "positive"] ++ (idxs.map negativeName).mergeSort namesOrder

theorem mem_sortedColumns {idxs : List Nat} {c : String} :
    c ∈ sortedColumns idxs ↔ c ∈ "query" :: "positive" :: idxs.map negativeName := by
  rw [sortedColumns, List.mem_append, List.mem_mergeSort, List.mem_cons, List.mem_singleton,
    List.mem_cons, List.mem_cons, or_assoc]

theorem nodup_sortedColumns {idxs : List Nat} (h : idxs.Nodup) : (sortedColumns idxs).Nodup := by
  have hperm : (sortedColumns idxs).Perm ("query" :: "positive" :: idxs.map negativeName) :=
    ((List.mergeSort_perm _ _).cons _).cons _
  exact hperm.nodup_iff.mpr (nodup_numbered (by decide) (by decide) (by decide) h)

theorem rename_sortedColumns (idxs : List Nat) :
    (sortedColumns idxs).map (fun c => if c = "query" then "anchor" else c) =
      "anchor" :: "positive" :: (idxs.map negativeName).mergeSort namesOrder := by
  have hsame : ((idxs.map negativeName).mergeSort namesOrder).map
      (fun c => if c = "query" then "anchor" else c) =
        (idxs.map negativeName).mergeSort namesOrder := by
    conv_rhs => rw [← List.map_id ((idxs.map negativeName).mergeSort namesOrder)]
    refine List.map_congr_left fun c hc => if_neg ?_
    obtain ⟨idx, -, rfl⟩ := List.mem_map.mp (List.mem_mergeSort.mp hc)
    exact ne_of_startsWith_negative (startsWith_negativeName idx) (by decide)
  rw [sortedColumns, List.map_append, hsame]
  rfl

def finishedRow (idxs : List Nat) (row : Row) : Row :=
  Row.rename (Row.select row (sortedColumns idxs)) "query" "anchor"

theorem orderMultiNegatives_rows {idxs : List Nat} (hnodup : idxs.Nodup)
    (hcolumns : lib.columnNames d = "query" :: "positive" :: idxs.map negativeName) :
    ∃ dataset', orderMultiNegatives lib d = .ok dataset' ∧
      lib.columnNames dataset' =
        "anchor" :: "positive" :: (idxs.map negativeName).mergeSort namesOrder ∧
      lib.rows dataset' = (lib.rows d).map (finishedRow idxs) := by
  have hordered : ["query", "positive"] ++ sortNegativeColumns (lib.columnNames d) =
      sortedColumns idxs := by
    rw [hcolumns, sortNegativeColumns_numbered]
    rfl
  obtain ⟨d', hd', hcolumns', hrows'⟩ := @ensureColumnsOrder_of_subset D lib d _
    (nodup_sortedColumns hnodup) fun c hc => hcolumns ▸ mem_sortedColumns.mp hc
  have hquery : "query" ∈ lib.columnNames d' := by
    rw [hcolumns']
    exact List.mem_cons_self ..
  have hanchor : "anchor" ∉ lib.columnNames d' := by
    rw [hcolumns', mem_sortedColumns]
    intro hmem
    rcases List.mem_cons.mp hmem with heq | hmem
    · exact absurd heq (by decide)
    rcases List.mem_cons.mp hmem with heq | hmem
    · exact absurd heq (by decide)
    obtain ⟨idx, -, heq⟩ := List.mem_map.mp hmem
    exact ne_of_startsWith_negative (startsWith_negativeName idx) (by decide) heq
  obtain ⟨d'', hd'', hcolumns'', hrows''⟩ := lib.renameColumn_ok d' "query" "anchor" hquery hanchor
  refine ⟨d'', bind_eq_ok.mpr ⟨d, standardizeMnrColumns_numbered hcolumns,
    bind_eq_ok.mpr ⟨d', by rw [hordered]; exact hd', ?_⟩⟩, ?_, ?_⟩
  · rw [renameColumns, if_pos ⟨hquery, by decide⟩, hd'']
    rfl
  · rw [hcolumns'', hcolumns', rename_sortedColumns]
  · rw [hrows'', hrows', List.map_map]
    rfl

theorem holdsNegatives_iff {first row : Row} {positive positive' : String} :
    HoldsNegatives row positive (finishedRow (filledIdxs first)
        ((Row.ofRecord (arrayRecord row positive)).over
          ((arrayRecord first positive').map Prod.fst))) ↔
      ∀ idx neg, row.HasNegative idx neg → ∃ neg', first.HasNegative idx neg' := by
  rw [keys_arrayRecord]
  have hvalue (c : String) (hc : c ≠ "query") (ha : c ≠ "anchor") :
      finishedRow (filledIdxs first) ((Row.ofRecord (arrayRecord row positive)).over
          ("query" :: "positive" :: (filledIdxs first).map negativeName)) c =
        if c ∈ "query" :: "positive" :: (filledIdxs first).map negativeName then
          some ((Row.ofRecord (arrayRecord row positive)).get c) else none := by
    rw [finishedRow, Row.rename, if_neg ha, if_neg hc, Row.select]
    by_cases hmem : c ∈ "query" :: "positive" :: (filledIdxs first).map negativeName
    · rw [if_pos (mem_sortedColumns.mpr hmem), Row.over, if_pos hmem]
    · rw [if_neg fun h => hmem (mem_sortedColumns.mp h), if_neg hmem]
  have hnegative (idx : Nat) : negativeName idx ∈
      "query" :: "positive" :: (filledIdxs first).map negativeName ↔
        ∃ neg', first.HasNegative idx neg' := by
    rw [← mem_filledIdxs, List.mem_cons, List.mem_cons,
      or_iff_right (ne_of_startsWith_negative (startsWith_negativeName idx) (by decide)),
      or_iff_right (ne_of_startsWith_negative (startsWith_negativeName idx) (by decide)),
      List.mem_map_of_injective negativeName_injective]
  have hquery (idx : Nat) : negativeName idx ≠ "query" :=
    ne_of_startsWith_negative (startsWith_negativeName idx) (by decide)
  have hanchor (idx : Nat) : negativeName idx ≠ "anchor" :=
    ne_of_startsWith_negative (startsWith_negativeName idx) (by decide)
  constructor
  · intro h idx neg hneg
    have hheld := h.held idx neg hneg
    rw [hvalue _ (hquery idx) (hanchor idx)] at hheld
    split at hheld
    · rename_i hmem
      exact (hnegative idx).mp hmem
    · cases hheld
  · intro h
    refine ⟨?_, ?_, fun idx neg hneg => ?_, fun idx hblank => ?_⟩
    · rw [finishedRow, Row.rename, if_pos rfl, Row.select,
        if_pos (mem_sortedColumns.mpr (List.mem_cons_self ..)), Row.over,
        if_pos (List.mem_cons_self ..), get_of_some (ofRecord_query row positive)]
    · rw [hvalue _ (by decide) (by decide),
        if_pos (List.mem_cons_of_mem _ (List.mem_cons_self ..)),
        get_of_some (ofRecord_positive row positive)]
    · rw [hvalue _ (hquery idx) (hanchor idx), if_pos ((hnegative idx).mpr (h idx neg hneg)),
        get_of_some (ofRecord_negative hneg)]
    · have hget := get_of_none (@ofRecord_blank row positive idx hblank)
      unfold Row.get
      rw [hvalue _ (hquery idx) (hanchor idx)]
      split
      · exact hget
      · rfl

end Datasets

/-! ## Rows of arrays -/

section Arrays

variable {D : Type} {lib : DatasetLibrary D} {dataset d : D} {g : Row → Row} {n : Nat} {row : Row}

theorem IsTrimmed.get (h : IsTrimmed lib dataset d g) (hrow : row ∈ lib.rows dataset) {c : String}
    (hc : startsWith c "_benchmark" = false) : (g row).get c = row.get c := by
  rw [Row.get, Row.get, h.same row hrow c hc]

theorem IsArrays.get_pos (hd : IsArrays lib n dataset) (hrow : row ∈ lib.rows dataset) :
    row.get "pos" = .texts row.posTexts := by
  have hkind := hd.positives row hrow
  unfold Row.posTexts
  cases hvalue : row.get "pos" with
  | texts l => rfl
  | null => rw [hvalue] at hkind; cases hkind
  | text s => rw [hvalue] at hkind; cases hkind
  | number q => rw [hvalue] at hkind; cases hkind
  | numbers l => rw [hvalue] at hkind; cases hkind

theorem IsArrays.get_neg (hd : IsArrays lib n dataset) (hrow : row ∈ lib.rows dataset) :
    row.get "neg" = .texts row.negTexts ∧ row.negTexts.length = n := by
  obtain ⟨l, hl, hlength⟩ := hd.negatives row hrow
  rw [Row.negTexts, hl]
  exact ⟨rfl, hlength⟩

theorem IsArrays.query_eq (hd : IsArrays lib n dataset) (hrow : row ∈ lib.rows dataset) :
    row "query" = some row.query := by
  have hthere := (hd.columns "query" (by decide)).mpr (List.mem_cons_self ..)
  obtain ⟨query, hvalue⟩ := Option.isSome_iff_exists.mp
    ((lib.isSome_row dataset row hrow "query").mpr hthere)
  rw [Row.query, hvalue, get_of_some hvalue]
  rfl

theorem IsArrays.kind_query (hd : IsArrays lib n dataset) (hrow : row ∈ lib.rows dataset) :
    row.query.kind ∈ [Kind.null, Kind.text] := by
  have hkind := hd.query row hrow
  rwa [get_of_some (hd.query_eq hrow)] at hkind

theorem IsArrays.positives_eq (hd : IsArrays lib n dataset) (ht : IsTrimmed lib dataset d g)
    (hrow : row ∈ lib.rows dataset) :
    (g row).positives = if row.posTexts = [] then .null else .texts row.posTexts := by
  have hpositive : row.get "positive" = .null := by
    refine get_of_none ?_
    have hnot : "positive" ∉ lib.columnNames dataset := fun hmem =>
      absurd ((hd.columns "positive" (by decide)).mp hmem) (by decide)
    cases hvalue : row "positive" with
    | none => rfl
    | some value =>
      exact absurd ((lib.isSome_row dataset row hrow "positive").mp (by rw [hvalue]; rfl)) hnot
  rw [Row.positives, Row.getOr, ht.get hrow (by decide), ht.get hrow (by decide), hd.get_pos hrow,
    hpositive]
  cases row.posTexts with
  | nil => rfl
  | cons s l => rfl

theorem IsArrays.negatives_eq (hd : IsArrays lib n dataset) (hn : 1 ≤ n)
    (ht : IsTrimmed lib dataset d g) (hrow : row ∈ lib.rows dataset) :
    (g row).negatives = .texts row.negTexts := by
  obtain ⟨hget, hlength⟩ := hd.get_neg hrow
  rw [Row.negatives, Row.getOr, ht.get hrow (by decide), hget]
  cases hneg : row.negTexts with
  | nil =>
    rw [hneg, List.length_nil] at hlength
    omega
  | cons s l => rfl

theorem filter_truthy_texts (l : List String) :
    (l.map Cell.text).filter Cell.truthy = (l.filter (· ≠ "")).map .text := List.filter_map

theorem convertArray_ok (hd : IsArrays lib n dataset) (hn : 1 ≤ n)
    (ht : IsTrimmed lib dataset d g) (hrow : row ∈ lib.rows dataset) (hpos : row.posTexts ≠ []) :
    convertArrayToMultiColumns (g row) = .ok (row.filledPositives.map (arrayRecord row)) := by
  have hpositives := hd.positives_eq ht hrow
  rw [if_neg hpos] at hpositives
  have hnegatives := hd.negatives_eq hn ht hrow
  have hitem : (g row).item "query" = .ok row.query := by
    rw [Row.item, ht.same row hrow "query" (by decide), hd.query_eq hrow]
  have hnegs : (g row).negatives.elements = .ok (row.negTexts.map .text) := by
    rw [hnegatives]
    rfl
  have htruthy : (g row).negatives.truthy = true := by
    rw [hnegatives, Cell.truthy, Bool.not_eq_true', List.isEmpty_eq_false_iff, ← List.length_pos_iff,
      (hd.get_neg hrow).2]
    omega
  refine bind_eq_ok.mpr ⟨row.query, hitem, bind_eq_ok.mpr ⟨row.posTexts.map .text, ?_,
    bind_eq_ok.mpr ⟨_, mapM_map_const _ hnegs, ?_⟩⟩⟩
  · show (g row).positives.elements = _
    rw [hpositives]
    rfl
  · show pure (if (g row).negatives.truthy = true then _ else []) = _
    rw [if_pos htruthy, filter_truthy_texts, List.map_map]
    rfl

theorem convertArray_of_nil (hd : IsArrays lib n dataset) (ht : IsTrimmed lib dataset d g)
    (hrow : row ∈ lib.rows dataset) (hpos : row.posTexts = []) (records : List Record) :
    convertArrayToMultiColumns (g row) ≠ .ok records := by
  intro h
  obtain ⟨query, poss, -, hposs, -⟩ := convertArrayToMultiColumns_cases h
  rw [hd.positives_eq ht hrow, if_pos hpos] at hposs
  cases hposs

theorem mem_expandedRows {rows : List Row} {e : Row × String} (he : e ∈ expandedRows rows) :
    e.1 ∈ rows ∧ e.1.filledPositives ≠ [] := by
  obtain ⟨row, hrow, hmem⟩ := List.mem_flatMap.mp he
  obtain ⟨positive, hpositive, rfl⟩ := List.mem_map.mp hmem
  exact ⟨hrow, List.ne_nil_of_mem hpositive⟩

theorem exists_first_of_expandedRows {rows : List Row} {e : Row × String}
    {rest : List (Row × String)} (h : expandedRows rows = e :: rest) :
    IsFirst rows (fun row => row.filledPositives ≠ []) e.1 := by
  induction rows with
  | nil => cases h
  | cons row rows ih =>
    rw [expandedRows, List.flatMap_cons] at h
    cases hfilled : row.filledPositives with
    | nil =>
      rw [hfilled] at h
      obtain ⟨before, after, rfl, hbefore, hfirst⟩ := ih h
      refine ⟨row :: before, after, rfl, List.forall_mem_cons.mpr ⟨?_, hbefore⟩, hfirst⟩
      exact not_not_intro hfilled
    | cons positive positives =>
      rw [hfilled] at h
      obtain rfl := (List.cons.inj h).1
      have hne : row.filledPositives ≠ [] := by
        rw [hfilled]
        exact List.cons_ne_nil _ _
      exact ⟨[], rows, rfl, fun r hr => absurd hr (List.not_mem_nil), hne⟩

theorem IsTrimmed.isPlain (hd : IsArrays lib n dataset) (ht : IsTrimmed lib dataset d g) :
    IsPlain (lib.columnNames d) := by
  intro c hc hstarts
  have hbenchmark : startsWith c "_benchmark" = false := by
    rw [startsWith] at hstarts ⊢
    cases hlist : c.toList with
    | nil =>
      rw [hlist] at hstarts
      cases hstarts
    | cons a cs =>
      rw [hlist] at hstarts
      have ha : a = 'n' := by
        have hand := Bool.and_eq_true_iff.mp hstarts
        exact (eq_of_beq hand.1).symm
      rw [ha]
      rfl
  have hmem := (hd.columns c hbenchmark).mp ((ht.columns c hbenchmark).mp hc)
  have hall : ∀ c ∈ ["query", "pos", "neg"], startsWith c "neg_" = false := by decide
  rw [hall c hmem] at hstarts
  cases hstarts

theorem negative_mem_of_order (hd : IsArrays lib n dataset) (ht : IsTrimmed lib dataset d g)
    {dataset' : D} (h : orderMultiNegatives lib d = .ok dataset') :
    "negative" ∈ lib.columnNames dataset' := by
  obtain ⟨d₁, hstandard, h⟩ := bind_eq_ok.mp h
  obtain ⟨d₂, horder, hrename⟩ := bind_eq_ok.mp h
  obtain ⟨d', hd', hcolumns⟩ := standardizeMnrColumns_ok (ht.isPlain hd)
  obtain rfl := Except.ok.inj (hd'.symm.trans hstandard)
  have hneg : "neg" ∈ lib.columnNames d :=
    (ht.columns "neg" (by decide)).mpr ((hd.columns "neg" (by decide)).mpr (by decide))
  have hnegative : "negative" ∈ lib.columnNames d' :=
    (hcolumns "negative" (by decide)).mpr (Or.inr ⟨("neg", "negative"), by decide, rfl, hneg⟩)
  have hsorted : "negative" ∈ sortNegativeColumns (lib.columnNames d') :=
    mem_sortNegativeColumns.mpr ⟨hnegative, by decide⟩
  have hthere : "negative" ∈ lib.columnNames d₂ := by
    rw [(ensureColumnsOrder_spec (nodup_multiColumns lib d') horder).1]
    exact List.mem_append_right _ hsorted
  exact ((renameColumns_spec (by decide) hrename).columns "negative").mpr
    ((renamed_other_iff (by decide)).mpr hthere)

theorem negativeName_ne (idx : Nat) : negativeName idx ≠ "negative" := by
  intro h
  have hlength := congrArg (fun s : String => s.toList.length) h
  rw [negativeName] at hlength
  simp only [String.toList_append, List.length_append] at hlength
  have hword : "negative_".toList.length = 9 := by decide
  have hshort : "negative".toList.length = 8 := by decide
  omega

theorem notMem_of_isNumbered {columns : List String} (h : IsNumbered n columns) :
    "negative" ∉ columns := by
  obtain ⟨idxs, -, -, rfl⟩ := h
  intro hmem
  rcases List.mem_cons.mp hmem with heq | hmem
  · exact absurd heq (by decide)
  rcases List.mem_cons.mp hmem with heq | hmem
  · exact absurd heq (by decide)
  obtain ⟨idx, -, heq⟩ := List.mem_map.mp hmem
  exact negativeName_ne idx heq

theorem mem_rows_of_isTrimmed (ht : IsTrimmed lib dataset d g) (hrow : row ∈ lib.rows dataset) :
    g row ∈ lib.rows d := ht.rows ▸ List.mem_map_of_mem hrow

theorem mapM_convertArray (hd : IsArrays lib n dataset) (hn : 1 ≤ n)
    (ht : IsTrimmed lib dataset d g) (hpos : ∀ row ∈ lib.rows dataset, row.posTexts ≠ []) :
    (lib.rows d).mapM convertArrayToMultiColumns =
      .ok ((lib.rows dataset).map fun row => row.filledPositives.map (arrayRecord row)) := by
  rw [ht.rows]
  exact mapM_map_eq_ok fun row hrow => convertArray_ok hd hn ht hrow (hpos row hrow)

theorem flatten_records (rows : List Row) :
    (rows.map fun row => row.filledPositives.map (arrayRecord row)).flatten =
      (expandedRows rows).map fun e => arrayRecord e.1 e.2 := by
  rw [← List.flatMap_def, expandedRows, List.map_flatMap]
  refine List.flatMap_congr fun row _ => ?_
  rw [List.map_map]
  rfl

theorem orderMultiNegatives_nil {dataset' : D} (hcolumns : lib.columnNames d = []) :
    orderMultiNegatives lib d ≠ .ok dataset' := by
  intro h
  obtain ⟨d₁, hstandard, h⟩ := bind_eq_ok.mp h
  obtain ⟨d₂, horder, -⟩ := bind_eq_ok.mp h
  have hplain : IsPlain (lib.columnNames d) := by
    rw [hcolumns]
    exact fun c hc => nomatch hc
  obtain ⟨d', hd', hstandardMnr⟩ := standardizeMnrColumns_ok hplain
  obtain rfl := Except.ok.inj (hd'.symm.trans hstandard)
  have hquery := subset_of_ensureColumnsOrder horder "query" (List.mem_cons_self ..)
  have hthere := hasStandard_query.mp ((hstandardMnr "query" (by decide)).mp hquery)
  rw [hcolumns] at hthere
  cases hthere

theorem of_prepareMnrMultiNegatives (hd : IsArrays lib n dataset) (hn : 1 ≤ n)
    (ht : IsTrimmed lib dataset d g) {dataset' : D}
    (h : prepareMnrMultiNegatives lib d = .ok dataset')
    (hnumbered : IsNumbered n (lib.columnNames dataset')) :
    (∀ row ∈ lib.rows dataset, row.posTexts ≠ []) ∧
      ∃ row ∈ lib.rows dataset, row.filledPositives ≠ [] := by
  rw [prepareMnrMultiNegatives_eq] at h
  obtain ⟨d₁, hexpand, horder⟩ := bind_eq_ok.mp h
  by_cases hlists : HasLists lib d
  · rw [expandArrays_lists hlists] at hexpand
    obtain ⟨expanded, hexpanded, hfrom⟩ := bind_eq_ok.mp hexpand
    have hpos : ∀ row ∈ lib.rows dataset, row.posTexts ≠ [] := by
      intro row hrow hnil
      obtain ⟨records, -, hconvert⟩ :=
        exists_of_mapM_eq_ok hexpanded (mem_rows_of_isTrimmed ht hrow)
      exact convertArray_of_nil hd ht hrow hnil records hconvert
    refine ⟨hpos, by_contra fun hnone => ?_⟩
    obtain rfl := Except.ok.inj ((mapM_convertArray hd hn ht hpos).symm.trans hexpanded)
    have hempty : expandedRows (lib.rows dataset) = [] := by
      refine List.eq_nil_iff_forall_not_mem.mpr fun e he => hnone ?_
      exact ⟨e.1, mem_expandedRows he⟩
    rw [flatten_records, hempty] at hfrom
    obtain ⟨d₂, hd₂, hcolumns⟩ := lib.fromList_nil
    obtain rfl := Except.ok.inj (hd₂.symm.trans hfrom)
    exact orderMultiNegatives_nil hcolumns horder
  · have hne : lib.rows d ≠ [] := by
      intro hnil
      have hpos : "pos" ∈ lib.columnNames d :=
        (ht.columns "pos" (by decide)).mpr ((hd.columns "pos" (by decide)).mpr (by decide))
      unfold expandArrays at hexpand
      dsimp only at hexpand
      rw [hnil] at hexpand
      dsimp only at hexpand
      rw [if_pos (Or.inl hpos)] at hexpand
      cases hexpand
    rw [expandArrays_other hne hlists] at hexpand
    obtain rfl := Except.ok.inj hexpand
    exact absurd (negative_mem_of_order hd ht horder) (notMem_of_isNumbered hnumbered)

theorem prepareMnrMultiNegatives_ok (hlib : KeepsRows lib) (hd : IsArrays lib n dataset)
    (hn : 1 ≤ n) (ht : IsTrimmed lib dataset d g)
    (hpos : ∀ row ∈ lib.rows dataset, row.posTexts ≠ [])
    (hsome : ∃ row ∈ lib.rows dataset, row.filledPositives ≠ []) :
    ∃ dataset' first positive, prepareMnrMultiNegatives lib d = .ok dataset' ∧
      IsFirst (lib.rows dataset) (fun row => row.filledPositives ≠ []) first ∧
      lib.columnNames dataset' = "anchor" :: "positive" ::
        ((filledIdxs first).map negativeName).mergeSort namesOrder ∧
      lib.rows dataset' = (expandedRows (lib.rows dataset)).map fun e =>
        finishedRow (filledIdxs first) ((Row.ofRecord (arrayRecord e.1 e.2)).over
          ((arrayRecord first positive).map Prod.fst)) := by
  obtain ⟨row, hrow, hfilled⟩ := hsome
  have hne : expandedRows (lib.rows dataset) ≠ [] := by
    obtain ⟨positive, hpositive⟩ := List.exists_mem_of_ne_nil _ hfilled
    exact List.ne_nil_of_mem (List.mem_flatMap.mpr
      ⟨row, hrow, List.mem_map_of_mem (f := fun positive => (row, positive)) hpositive⟩)
  obtain ⟨⟨first, positive⟩, rest, hexpanded⟩ := List.exists_cons_of_ne_nil hne
  have hfirst := exists_first_of_expandedRows hexpanded
  have hlists : HasLists lib d := by
    obtain ⟨head, tail, hrows⟩ := List.exists_cons_of_ne_nil (List.ne_nil_of_mem hrow)
    have hhead : head ∈ lib.rows dataset := hrows ▸ List.mem_cons_self ..
    refine ⟨g head, tail.map g, by rw [ht.rows, hrows]; rfl, ?_, ?_⟩
    · rw [hd.positives_eq ht hhead, if_neg (hpos head hhead)]
      rfl
    · rw [hd.negatives_eq hn ht hhead]
      rfl
  have huniform : Uniform ((expandedRows (lib.rows dataset)).map fun e => arrayRecord e.1 e.2) :=
    uniform_arrayRecords fun e he => hd.kind_query (mem_expandedRows he).1
  rw [hexpanded, List.map_cons] at huniform
  obtain ⟨d₁, hd₁, hcolumns₁⟩ := lib.fromList_ok _ _ (nodup_keys_arrayRecord first positive) huniform
  have hrows₁ := hlib.fromList_rows _ _ d₁ (nodup_keys_arrayRecord first positive) huniform hd₁
  obtain ⟨dataset', horder, hcolumns, hrows⟩ := @orderMultiNegatives_rows D lib d₁ _
    (nodup_truthyIdxs _) (hcolumns₁.trans (keys_arrayRecord first positive))
  refine ⟨dataset', first, positive, ?_, hfirst, hcolumns, ?_⟩
  · rw [prepareMnrMultiNegatives_eq, expandArrays_lists hlists]
    refine bind_eq_ok.mpr ⟨d₁, bind_eq_ok.mpr ⟨_, mapM_convertArray hd hn ht hpos, ?_⟩, horder⟩
    rw [flatten_records, hexpanded]
    exact hd₁
  · rw [hrows, hrows₁, hexpanded, List.map_cons, List.map_cons, List.map_cons, List.map_map,
      List.map_map]
    rfl

/-- Every row keeps its negatives in their columns exactly if the first row with a positive has all
that others have. -/
theorem prepareMnrMultiNegatives_expands_iff (hlib : KeepsRows lib) (hd : IsArrays lib n dataset)
    (hn : 1 ≤ n) (ht : IsTrimmed lib dataset d g) :
    ExpandsNegatives lib n dataset (prepareMnrMultiNegatives lib d) ↔ FirstCovers lib dataset := by
  by_cases hready : (∀ row ∈ lib.rows dataset, row.posTexts ≠ []) ∧
      ∃ row ∈ lib.rows dataset, row.filledPositives ≠ []
  swap
  · refine iff_of_false (fun h => ?_) fun h => ?_
    · cases hresult : prepareMnrMultiNegatives lib d with
      | error e =>
        rw [hresult] at h
        exact h
      | ok dataset' =>
        rw [hresult] at h
        exact hready (of_prepareMnrMultiNegatives hd hn ht hresult h.1)
    · obtain ⟨first, hfirst, -⟩ := h.first
      exact hready ⟨h.positives, first, hfirst.mem, hfirst.holds⟩
  obtain ⟨hpos, hsome⟩ := hready
  obtain ⟨dataset', first, positive, hok, hfirst, hcolumns, hrows⟩ :=
    prepareMnrMultiNegatives_ok hlib hd hn ht hpos hsome
  have hless : ∀ idx ∈ filledIdxs first, idx < n := by
    intro idx hidx
    obtain ⟨neg, hneg, -⟩ := mem_filledIdxs.mp hidx
    rw [← (hd.get_neg hfirst.mem).2]
    exact (List.getElem?_eq_some_iff.mp hneg).1
  have hheld : List.Forall₂ (fun e expanded => HoldsNegatives e.1 e.2 expanded)
      (expandedRows (lib.rows dataset)) (lib.rows dataset') ↔
        ∀ row ∈ lib.rows dataset, row.filledPositives ≠ [] → ∀ idx neg, row.HasNegative idx neg →
          ∃ neg', first.HasNegative idx neg' := by
    rw [hrows, List.forall₂_map_right_iff, List.forall₂_same]
    constructor
    · intro h row hrow hfilled
      obtain ⟨p, hp⟩ := List.exists_mem_of_ne_nil _ hfilled
      exact holdsNegatives_iff.mp (h (row, p) (List.mem_flatMap.mpr
        ⟨row, hrow, List.mem_map_of_mem (f := fun positive => (row, positive)) hp⟩))
    · intro h e he
      exact holdsNegatives_iff.mpr (h e.1 (mem_expandedRows he).1 (mem_expandedRows he).2)
  have hsorted := mergeSort_names_iff (pairwise_truthyIdxs (first.negTexts.map .text)) hless
  rw [hok]
  show IsNumbered n (lib.columnNames dataset') ∧ _ ↔ _
  rw [hheld, hcolumns]
  constructor
  · rintro ⟨hnumbered, hcovers⟩
    refine ⟨hpos, first, hfirst, hcovers, fun idx idx' neg neg' hneg hneg' => ?_⟩
    exact hsorted.mp hnumbered idx (mem_filledIdxs.mpr ⟨neg, hneg⟩) idx'
      (mem_filledIdxs.mpr ⟨neg', hneg'⟩)
  · rintro ⟨-, first', hfirst', hcovers, hnames⟩
    obtain rfl := hfirst.unique hfirst'
    refine ⟨hsorted.mpr fun idx hidx idx' hidx' hlt => ?_, hcovers⟩
    obtain ⟨neg, hneg⟩ := mem_filledIdxs.mp hidx
    obtain ⟨neg', hneg'⟩ := mem_filledIdxs.mp hidx'
    exact hnames idx idx' neg neg' hneg hneg' hlt

end Arrays

/-! ## Dynamic negatives -/

section Dynamic

variable {D : Type} {lib : DatasetLibrary D} {dataset d : D} {g : Row → Row} {n : Nat} {row : Row}

theorem getList_of_get {c : String} {l : List String} (h : row.get c = .texts l) :
    row.getList c = .texts l := by
  cases hvalue : row c with
  | none =>
    rw [get_of_none hvalue] at h
    cases h
  | some value =>
    rw [get_of_some hvalue] at h
    rw [getList_of_some hvalue, h]

theorem IsArrays.getList_neg (hd : IsArrays lib n dataset) (ht : IsTrimmed lib dataset d g)
    (hrow : row ∈ lib.rows dataset) : (g row).getList "neg" = .texts row.negTexts := by
  refine getList_of_get ?_
  rw [ht.get hrow (by decide)]
  exact (hd.get_neg hrow).1

theorem IsArrays.positiveOrEmpty_eq (hd : IsArrays lib n dataset) (ht : IsTrimmed lib dataset d g)
    (hrow : row ∈ lib.rows dataset) :
    positiveOrEmpty (g row) = .ok (.text (row.posTexts.headD "")) := by
  have hlist : (g row).getList "pos" = .texts row.posTexts := by
    refine getList_of_get ?_
    rw [ht.get hrow (by decide)]
    exact hd.get_pos hrow
  rw [positiveOrEmpty, hlist]
  cases row.posTexts with
  | nil => rfl
  | cons s l => rfl

def dynamicRecord (n : Nat) (row : Row) : Record :=
  [("anchor", row.query), ("positive", .text (row.posTexts.headD ""))] ++
    (List.range n).map fun idx => (negativeName idx, .text (row.negTexts.getD idx ""))

theorem keys_dynamicRecord (n : Nat) (row : Row) :
    (dynamicRecord n row).map Prod.fst = dynamicColumns n := by
  rw [dynamicRecord, List.map_append, List.map_map]
  rfl

theorem convertDynamicNegatives_eq (hd : IsArrays lib n dataset) (ht : IsTrimmed lib dataset d g)
    (hrow : row ∈ lib.rows dataset) (m : Nat) :
    convertDynamicNegatives m (g row) = .ok (dynamicRecord m row) := by
  refine bind_eq_ok.mpr ⟨row.negTexts.map .text, ?_, bind_eq_ok.mpr
    ⟨_, hd.positiveOrEmpty_eq ht hrow, ?_⟩⟩
  · rw [hd.getList_neg ht hrow]
    rfl
  · have hquery : (g row) "query" = some row.query := by
      rw [ht.same row hrow "query" (by decide), hd.query_eq hrow]
    rw [hquery]
    refine congrArg Except.ok (congrArg _ (List.map_congr_left fun idx _ => ?_))
    have hvalue : (row.negTexts.map Cell.text).getD idx (.text "") =
        .text (row.negTexts.getD idx "") := by
      rw [List.getD_eq_getElem?_getD, List.getD_eq_getElem?_getD, List.getElem?_map]
      cases row.negTexts[idx]? <;> rfl
    dsimp only
    rw [hvalue]
    split
    · rfl
    · rename_i hempty
      rw [truthy_text_iff, not_not] at hempty
      rw [hempty]
      rfl

theorem le_foldl_max {counts : List Nat} {m : Nat} :
    m ≤ counts.foldl max m ∧ ∀ count ∈ counts, count ≤ counts.foldl max m := by
  induction counts generalizing m with
  | nil => exact ⟨Nat.le_refl m, fun _ h => nomatch h⟩
  | cons count counts ih =>
    obtain ⟨hle, hall⟩ := @ih (max m count)
    rw [List.foldl_cons]
    refine ⟨by omega, List.forall_mem_cons.mpr ⟨by omega, hall⟩⟩

theorem prepareDynamicNegatives_keeps (hlib : KeepsRows lib) (hd : IsArrays lib n dataset)
    (ht : IsTrimmed lib dataset d g) :
    KeepsNegatives lib dataset (prepareDynamicNegatives lib none d) := by
  have hcounts : (lib.rows d).mapM (fun sample => (sample.getList "neg").len) =
      .ok ((lib.rows dataset).map fun row => row.negTexts.length) := by
    rw [ht.rows]
    refine mapM_map_eq_ok fun row hrow => ?_
    rw [hd.getList_neg ht hrow]
    exact len_eq_ok.mpr ⟨_, rfl, List.length_map ..⟩
  set most := maxNegs none ((lib.rows dataset).map fun row => row.negTexts.length) with hmost
  have hprepare : prepareDynamicNegatives lib none d =
      lib.mapOnly d (convertDynamicNegatives most) := by
    rw [prepareDynamicNegatives, hcounts]
    rfl
  rw [hprepare]
  by_cases hempty : lib.rows dataset = []
  · obtain ⟨d', hd', hrows'⟩ := hlib.mapOnly_nil d (convertDynamicNegatives most) (by
      rw [ht.rows, hempty]
      rfl)
    rw [hd']
    show List.Forall₂ _ (lib.rows dataset) (lib.rows d')
    rw [hempty, hrows']
    exact List.Forall₂.nil
  have hne : lib.rows d ≠ [] := by
    rw [ht.rows]
    exact fun hnil => hempty (List.map_eq_nil_iff.mp hnil)
  have hrecords : (lib.rows d).mapM (convertDynamicNegatives most) =
      .ok ((lib.rows dataset).map (dynamicRecord most)) := by
    rw [ht.rows]
    exact mapM_map_eq_ok fun row hrow => convertDynamicNegatives_eq hd ht hrow most
  have hkeys : ∀ record ∈ (lib.rows dataset).map (dynamicRecord most),
      record.map Prod.fst = dynamicColumns most := by
    intro record hrecord
    obtain ⟨row, -, rfl⟩ := List.mem_map.mp hrecord
    exact keys_dynamicRecord most row
  have hnodup : (dynamicColumns most).Nodup :=
    nodup_numbered (by decide) (by decide) (by decide) List.nodup_range
  have huniform : Uniform ((lib.rows dataset).map (dynamicRecord most)) := by
    refine ⟨fun _ => .text, fun record hrecord field hfield => ?_⟩
    obtain ⟨row, hrow, rfl⟩ := List.mem_map.mp hrecord
    rcases List.mem_append.mp hfield with hfield | hfield
    · rcases List.mem_cons.mp hfield with rfl | hfield
      · rcases List.mem_cons.mp (hd.kind_query hrow) with hnull | htext
        · exact Or.inl hnull
        · exact Or.inr (List.mem_singleton.mp htext)
      · obtain rfl := List.mem_singleton.mp hfield
        exact Or.inr rfl
    · obtain ⟨idx, -, rfl⟩ := List.mem_map.mp hfield
      exact Or.inr rfl
  obtain ⟨d', hd', -⟩ := lib.mapOnly_ok d _ _ _ hne hrecords hkeys hnodup huniform
  have hrows' := hlib.mapOnly_rows d _ _ _ d' hne hrecords hkeys hnodup huniform hd'
  rw [hd']
  show List.Forall₂ _ (lib.rows dataset) (lib.rows d')
  rw [hrows', List.map_map, List.forall₂_map_right_iff, List.forall₂_same]
  refine fun row hrow => ⟨rfl, fun idx neg hneg => ?_⟩
  have hlt : idx < most := by
    have hle := (@le_foldl_max _ 0).2 _ (List.mem_map_of_mem (f := fun row => row.negTexts.length) hrow)
    exact Nat.lt_of_lt_of_le (List.getElem?_eq_some_iff.mp hneg).1 hle
  have hfield : (negativeName idx, Cell.text neg) ∈ dynamicRecord most row := by
    refine List.mem_append_right _ (List.mem_map.mpr ⟨idx, List.mem_range.mpr hlt, ?_⟩)
    rw [List.getD_eq_getElem?_getD, hneg]
    rfl
  exact ofRecord_of_mem (by rw [keys_dynamicRecord]; exact hnodup) hfield

end Dynamic

/-! ## The prepared dataset -/

section Prepared

variable {D : Type} {lib : DatasetLibrary D}

/-- Arrays with equally many negatives are expanded to numbered columns with all negatives that are
not empty exactly if the first row with a positive has them all; padded, they always keep them. -/
theorem arrays_keep_negatives_iff (hlib : KeepsRows lib) (requested : Option Format)
    (maxNegatives : Option Int) {n : Nat} (hn : 1 ≤ n) (dataset : D)
    (hd : IsArrays lib n dataset) :
    (formatOf lib requested dataset = .ok .mnrMultiNegatives →
      (ExpandsNegatives lib n dataset (prepareDatasetAs lib requested maxNegatives dataset) ↔
        FirstCovers lib dataset)) ∧
    (formatOf lib requested dataset = .ok .dynamicNegatives →
      KeepsNegatives lib dataset (prepareDatasetAs lib requested none dataset)) := by
  constructor
  · intro hformat
    obtain ⟨d, g, ht, heq⟩ := prepareDatasetAs_eq hlib hformat maxNegatives
    rw [heq]
    exact prepareMnrMultiNegatives_expands_iff hlib hd hn ht
  · intro hformat
    obtain ⟨d, g, ht, heq⟩ := prepareDatasetAs_eq hlib hformat none
    rw [heq]
    exact prepareDynamicNegatives_keeps hlib hd ht

end Prepared

/-! ## Arrays in memory -/

def arraysRecord (query positive : String) (negatives : List String) : Record :=
  [("query", .text query), ("pos", .texts [positive]), ("neg", .texts negatives)]

/-- Two rows with the same blank. -/
def coveredArrays : MemoryDataset :=
  MemoryDataset.fromList [arraysRecord "q" "p" ["n", ""], arraysRecord "r" "o" ["k", ""]]

/-- Two rows, the first of which has a blank where the second has a negative. -/
def raggedArrays : MemoryDataset :=
  MemoryDataset.fromList [arraysRecord "q" "p" ["", "m"], arraysRecord "r" "o" ["k", "l"]]

def manyNegatives : MemoryDataset :=
  MemoryDataset.fromList
    [arraysRecord "q" "p" ["a", "b", "c", "d", "e", "f", "g", "h", "i", "j", "k"]]

theorem isArrays_coveredArrays : IsArrays memoryLibrary 2 coveredArrays where
  columns _ _ := Iff.rfl
  query := by decide
  positives := by decide
  negatives := List.forall_mem_cons.mpr ⟨⟨_, rfl, rfl⟩, List.forall_mem_singleton.mpr ⟨_, rfl, rfl⟩⟩

theorem isArrays_raggedArrays : IsArrays memoryLibrary 2 raggedArrays where
  columns _ _ := Iff.rfl
  query := by decide
  positives := by decide
  negatives := List.forall_mem_cons.mpr ⟨⟨_, rfl, rfl⟩, List.forall_mem_singleton.mpr ⟨_, rfl, rfl⟩⟩

theorem isArrays_manyNegatives : IsArrays memoryLibrary 11 manyNegatives where
  columns _ _ := Iff.rfl
  query := by decide
  positives := by decide
  negatives := List.forall_mem_singleton.mpr ⟨_, rfl, rfl⟩

theorem eq_zero_of_hasNegative {row : Row} {text neg : String} {idx : Nat}
    (htexts : row.negTexts = [text, ""]) (h : row.HasNegative idx neg) : idx = 0 := by
  obtain ⟨hidx, hne⟩ := h
  rw [htexts] at hidx
  match idx with
  | 0 => rfl
  | 1 => exact absurd (Option.some.inj hidx).symm hne
  | idx + 2 => cases hidx

theorem firstCovers_coveredArrays : FirstCovers memoryLibrary coveredArrays where
  positives := List.forall_mem_cons.mpr
    ⟨List.cons_ne_nil _ _, List.forall_mem_singleton.mpr (List.cons_ne_nil _ _)⟩
  first := by
    have htexts : ∀ row ∈ memoryLibrary.rows coveredArrays, ∃ text, row.negTexts = [text, ""] :=
      List.forall_mem_cons.mpr ⟨⟨_, rfl⟩, List.forall_mem_singleton.mpr ⟨_, rfl⟩⟩
    refine ⟨_, ⟨[], _, rfl, fun r hr => absurd hr List.not_mem_nil, List.cons_ne_nil _ _⟩, ?_, ?_⟩
    · intro row hrow _ idx neg hneg
      obtain ⟨text, htext⟩ := htexts row hrow
      rw [eq_zero_of_hasNegative htext hneg]
      exact ⟨"n", rfl, by decide⟩
    · intro idx idx' neg neg' hneg hneg' hlt
      rw [eq_zero_of_hasNegative rfl hneg, eq_zero_of_hasNegative rfl hneg'] at hlt
      exact absurd hlt (lt_irrefl 0)

/-- Rows with the same blanks, and rows that are padded. -/
theorem arrays_keep_negatives_covered :
    ExpandsNegatives memoryLibrary 2 coveredArrays
        (prepareDatasetAs memoryLibrary none none coveredArrays) ∧
      KeepsNegatives memoryLibrary raggedArrays
        (prepareDatasetAs memoryLibrary (some .dynamicNegatives) none raggedArrays) :=
  ⟨((arrays_keep_negatives_iff memoryLibrary_keepsRows none none (by decide) coveredArrays
      isArrays_coveredArrays).1 rfl).mpr firstCovers_coveredArrays,
    (arrays_keep_negatives_iff memoryLibrary_keepsRows (some .dynamicNegatives) none
      (by decide : 1 ≤ 2) raggedArrays isArrays_raggedArrays).2 rfl⟩

/-- A negative is lost where the first row has a blank, and the eleventh column comes third. -/
theorem arrays_lose_negatives :
    (IsArrays memoryLibrary 2 raggedArrays ∧
      formatOf memoryLibrary none raggedArrays = .ok .mnrMultiNegatives ∧
      ¬ ExpandsNegatives memoryLibrary 2 raggedArrays
        (prepareDatasetAs memoryLibrary none none raggedArrays)) ∧
    IsArrays memoryLibrary 11 manyNegatives ∧
      formatOf memoryLibrary none manyNegatives = .ok .mnrMultiNegatives ∧
      ¬ ExpandsNegatives memoryLibrary 11 manyNegatives
        (prepareDatasetAs memoryLibrary none none manyNegatives) := by
  have hragged : formatOf memoryLibrary none raggedArrays = .ok .mnrMultiNegatives := rfl
  have hmany : formatOf memoryLibrary none manyNegatives = .ok .mnrMultiNegatives := rfl
  refine ⟨⟨isArrays_raggedArrays, hragged, fun h => ?_⟩, isArrays_manyNegatives, hmany, fun h => ?_⟩
  · obtain ⟨d, g, ht, heq⟩ := prepareDatasetAs_eq memoryLibrary_keepsRows hragged none
    rw [heq] at h
    obtain ⟨first, hfirst, hcovers, -⟩ := ((prepareMnrMultiNegatives_expands_iff
      memoryLibrary_keepsRows isArrays_raggedArrays (by decide) ht).mp h).first
    have hhead : IsFirst (memoryLibrary.rows raggedArrays) (fun row => row.filledPositives ≠ []) _ :=
      ⟨[], _, rfl, fun r hr => absurd hr List.not_mem_nil, List.cons_ne_nil _ _⟩
    obtain rfl := hfirst.unique hhead
    obtain ⟨neg, hneg, hne⟩ := hcovers _ (List.mem_cons_of_mem _ (List.mem_cons_self ..))
      (List.cons_ne_nil _ _) 0 "k" ⟨rfl, by decide⟩
    exact hne (Option.some.inj hneg).symm
  · obtain ⟨d, g, ht, heq⟩ := prepareDatasetAs_eq memoryLibrary_keepsRows hmany none
    rw [heq] at h
    obtain ⟨first, hfirst, -, hnames⟩ := ((prepareMnrMultiNegatives_expands_iff
      memoryLibrary_keepsRows isArrays_manyNegatives (by decide) ht).mp h).first
    obtain rfl := List.mem_singleton.mp hfirst.mem
    have hless := hnames 2 10 "c" "k" ⟨rfl, by decide⟩ ⟨rfl, by decide⟩ (by decide)
    exact absurd hless (by decide)

end Embedding
