import TrainFactory.Embedding.Margins
import TrainFactory.Embedding.Proofs.ExpansionProofs

/-!
# Texts of one row

Margins and scores are expanded to triplets of the texts of each row exactly if the rows share the
first positive of the last of them, and if all rows are counted.
-/

namespace Embedding

open Lib

/-! ## Lists in a row -/

section Concat

variable {α β : Type} {f g : α → List β} {l : List α}

theorem length_flatMap_le (h : ∀ x ∈ l, (g x).length ≤ (f x).length) :
    (l.flatMap g).length ≤ (l.flatMap f).length := by
  induction l with
  | nil => exact Nat.le_refl _
  | cons x l ih =>
    obtain ⟨hx, hl⟩ := List.forall_mem_cons.mp h
    rw [List.flatMap_cons, List.flatMap_cons, List.length_append, List.length_append]
    exact Nat.add_le_add hx (ih hl)

theorem forall_eq_of_flatMap_eq (hle : ∀ x ∈ l, (g x).length ≤ (f x).length)
    (h : l.flatMap f = l.flatMap g) : ∀ x ∈ l, f x = g x := by
  induction l with
  | nil => exact fun x hx => nomatch hx
  | cons y l ih =>
    obtain ⟨hy, hl⟩ := List.forall_mem_cons.mp hle
    rw [List.flatMap_cons, List.flatMap_cons] at h
    have hlength : (f y).length = (g y).length := by
      have htotal := congrArg List.length h
      have hrest := length_flatMap_le hl
      rw [List.length_append, List.length_append] at htotal
      omega
    obtain ⟨hfirst, hrest⟩ := List.append_inj h hlength
    exact List.forall_mem_cons.mpr ⟨hfirst, ih hl hrest⟩

theorem flatMap_eq_iff (hle : ∀ x ∈ l, (g x).length ≤ (f x).length) :
    l.flatMap f = l.flatMap g ↔ ∀ x ∈ l, f x = g x :=
  ⟨forall_eq_of_flatMap_eq hle, List.flatMap_congr⟩

end Concat

theorem mapM_map_eq_ok {α β γ : Type} {g : α → β} {f : β → Except PrepareError γ} {h : α → γ}
    {l : List α} (hall : ∀ x ∈ l, f (g x) = .ok (h x)) : (l.map g).mapM f = .ok (l.map h) := by
  rw [mapM_eq_ok, List.forall₂_map_left_iff, List.forall₂_map_right_iff]
  exact List.forall₂_same.mpr hall

/-! ## Bounds -/

section Bounds

variable {maxNegatives : Option Int} {counts : List Nat} {least allowed : Nat}

theorem atMost_le (maxNegatives : Option Int) (n : Nat) : atMost maxNegatives n ≤ n := by
  cases maxNegatives with
  | none => exact Nat.le_refl n
  | some bound => exact Nat.min_le_left n bound.toNat

theorem atMost_eq_or (maxNegatives : Option Int) (n : Nat) : atMost maxNegatives n = n ∨
    ∃ bound, maxNegatives = some bound ∧ atMost maxNegatives n = bound.toNat := by
  cases maxNegatives with
  | none => exact Or.inl rfl
  | some bound =>
    rcases Nat.le_total n bound.toNat with h | h
    · exact Or.inl (Nat.min_eq_left h)
    · exact Or.inr ⟨bound, rfl, Nat.min_eq_right h⟩

theorem atMost_mono (maxNegatives : Option Int) {m n : Nat} (h : m ≤ n) :
    atMost maxNegatives m ≤ atMost maxNegatives n := by
  cases maxNegatives with
  | none => exact h
  | some bound =>
    show min m bound.toNat ≤ min n bound.toNat
    omega

theorem bound_of_atMost {n : Nat} (h : 0 < atMost maxNegatives n) :
    ∀ bound, maxNegatives = some bound → 0 < bound := by
  rintro bound rfl
  have hle : atMost (some bound) n ≤ bound.toNat := Nat.min_le_right n bound.toNat
  omega

theorem allowedK_of_bound (hbound : ∀ bound, maxNegatives = some bound → 0 < bound)
    (h : counts.min? = some least) :
    allowedK maxNegatives counts = some (atMost maxNegatives least) := by
  rw [allowedK, h, Option.map_some]
  cases maxNegatives with
  | none => rfl
  | some bound =>
    dsimp only
    rw [if_pos (hbound bound rfl)]
    rfl

theorem atMost_le_of_allowedK (h : counts.min? = some least)
    (hallowed : allowedK maxNegatives counts = some allowed) :
    atMost maxNegatives least ≤ allowed := by
  rw [allowedK, h, Option.map_some] at hallowed
  obtain rfl := Option.some.inj hallowed
  cases maxNegatives with
  | none => exact Nat.le_refl least
  | some bound =>
    dsimp only
    split
    · exact Nat.le_refl _
    · exact atMost_le (some bound) least

theorem allowedK_le (h : counts.min? = some least)
    (hallowed : allowedK maxNegatives counts = some allowed) : allowed ≤ least := by
  rw [allowedK, h, Option.map_some] at hallowed
  obtain rfl := Option.some.inj hallowed
  cases maxNegatives with
  | none => exact Nat.le_refl least
  | some bound =>
    dsimp only
    split
    · exact Nat.min_le_left least bound.toNat
    · exact Nat.le_refl least

theorem min?_filter_eq_some : (counts.filter (0 < ·)).min? = some least ↔
    least ∈ counts ∧ 0 < least ∧ ∀ count ∈ counts, 0 < count → least ≤ count := by
  rw [List.min?_eq_some_iff]
  constructor
  · rintro ⟨hmem, hle⟩
    obtain ⟨hmem, hpos⟩ := List.mem_filter.mp hmem
    refine ⟨hmem, of_decide_eq_true hpos, fun count hcount hpos => hle count ?_⟩
    exact List.mem_filter.mpr ⟨hcount, decide_eq_true hpos⟩
  · rintro ⟨hmem, hpos, hle⟩
    refine ⟨List.mem_filter.mpr ⟨hmem, decide_eq_true hpos⟩, fun count hcount => ?_⟩
    obtain ⟨hcount, hpos⟩ := List.mem_filter.mp hcount
    exact hle count hcount (of_decide_eq_true hpos)

theorem exists_allowedK (h : counts.min? = some least) (maxNegatives : Option Int) :
    ∃ allowed, allowedK maxNegatives counts = some allowed := by
  rw [allowedK, h]
  exact ⟨_, rfl⟩

theorem exists_min?_filter {count : Nat} (h : count ∈ counts) (hpos : 0 < count) :
    ∃ least, (counts.filter (0 < ·)).min? = some least := by
  have hne : counts.filter (0 < ·) ≠ [] :=
    List.ne_nil_of_mem (List.mem_filter.mpr ⟨h, decide_eq_true hpos⟩)
  exact Option.ne_none_iff_exists'.mp fun hnone => hne (List.min?_eq_none_iff.mp hnone)

end Bounds

/-! ## Values of rows -/

section Rows

variable {D : Type} {lib : DatasetLibrary D} {dataset : D} {row : Row}

theorem get_of_none {c : String} (h : row c = none) : row.get c = .null := by
  rw [Row.get, h]
  rfl

theorem get_of_some {c : String} {value : Cell} (h : row c = some value) : row.get c = value := by
  rw [Row.get, h]
  rfl

theorem HasNegatives.getList_neg (hd : HasNegatives lib dataset) (hrow : row ∈ lib.rows dataset) :
    row.getList "neg" = .texts row.negTexts := by
  unfold Row.negTexts
  cases hvalue : row "neg" with
  | none => rw [getList_of_none hvalue, get_of_none hvalue]
  | some value =>
    have hkind := hd.negatives row hrow value hvalue
    rw [getList_of_some hvalue, get_of_some hvalue]
    cases value with
    | texts l => rfl
    | null => cases hkind
    | text s => cases hkind
    | number q => cases hkind
    | numbers l => cases hkind

theorem HasNegatives.kind_query (hd : HasNegatives lib dataset) (hrow : row ∈ lib.rows dataset) :
    row.query.kind ∈ [Kind.null, Kind.text] := by
  have hget (c : String) (hc : c ∈ ["query", "anchor"]) :
      (row.get c).kind ∈ [Kind.null, Kind.text] := by
    cases hvalue : row c with
    | none =>
      rw [get_of_none hvalue]
      decide
    | some value =>
      rw [get_of_some hvalue]
      exact hd.query row hrow c hc value hvalue
  unfold Row.query
  split
  · exact hget "query" (by decide)
  · exact hget "anchor" (by decide)

theorem HasNegatives.kind_firstPositive (hd : HasNegatives lib dataset)
    (hrow : row ∈ lib.rows dataset) : (firstPositive row).kind = .text := by
  unfold firstPositive
  cases hvalue : row "pos" with
  | none =>
    rw [getList_of_none hvalue]
    rfl
  | some value =>
    have hkind := hd.positives row hrow value hvalue
    rw [getList_of_some hvalue]
    cases value with
    | null => rfl
    | text s =>
      dsimp only
      split <;> rfl
    | texts l => cases l <;> rfl
    | number q => simp [Cell.kind] at hkind
    | numbers l => simp [Cell.kind] at hkind

theorem IsMultiMargins.elements_margins (hd : IsMultiMargins lib dataset)
    (hrow : row ∈ lib.rows dataset) :
    (row.getList "margins").elements = .ok (row.margins.map .number) := by
  unfold Row.margins
  cases hvalue : row "margins" with
  | none =>
    rw [getList_of_none hvalue, get_of_none hvalue]
    rfl
  | some value =>
    have hkind := hd.margins row hrow value hvalue
    rw [getList_of_some hvalue, get_of_some hvalue]
    cases value with
    | numbers l => rfl
    | null => cases hkind
    | text s => cases hkind
    | number q => cases hkind
    | texts l => cases hkind

end Rows

/-! ## The columns that are read -/

section Columns

variable {D : Type} {lib : DatasetLibrary D} {dataset d : D} {g : Row → Row}

/-- Rows without columns that no format reads. -/
structure IsTrimmed (lib : DatasetLibrary D) (dataset d : D) (g : Row → Row) : Prop where
  columns : ∀ c, startsWith c "_benchmark" = false →
    (c ∈ lib.columnNames d ↔ c ∈ lib.columnNames dataset)
  rows : lib.rows d = (lib.rows dataset).map g
  same : ∀ row ∈ lib.rows dataset, ∀ c, startsWith c "_benchmark" = false → g row c = row c

theorem dropAuxiliaryColumns_ok (hlib : KeepsRows lib) (dataset : D) :
    ∃ d g, dropAuxiliaryColumns lib dataset = .ok d ∧ IsTrimmed lib dataset d g := by
  have hmem (c : String) (hc : startsWith c "_benchmark" = false) :
      c ∉ (lib.columnNames dataset).filter fun c => startsWith c "_benchmark" := by
    intro hdrop
    rw [(List.mem_filter.mp hdrop).2] at hc
    cases hc
  unfold dropAuxiliaryColumns
  dsimp only
  split
  · exact ⟨dataset, id, rfl, fun c _ => Iff.rfl, (List.map_id _).symm, fun _ _ _ _ => rfl⟩
  · obtain ⟨d, hd, hcolumns, hrows⟩ := hlib.removeColumns_ok dataset _
      fun c hc => (List.mem_filter.mp hc).1
    refine ⟨d, _, hd, fun c hc => ?_, hrows, fun row hrow c hc => ?_⟩
    · rw [hcolumns, List.mem_filter, decide_eq_true_iff, and_iff_left (hmem c hc)]
    · unfold Row.select
      split
      · rfl
      · rename_i hnot
        cases hvalue : row c with
        | none => rfl
        | some value =>
          have hthere := (lib.isSome_row dataset row hrow c).mp (by rw [hvalue]; rfl)
          exact absurd (List.mem_filter.mpr ⟨hthere, decide_eq_true (hmem c hc)⟩) hnot

theorem IsTrimmed.hasOneOf_iff (h : IsTrimmed lib dataset d g) :
    HasOneOf (lib.columnNames d) "query" "anchor" ↔
      HasOneOf (lib.columnNames dataset) "query" "anchor" := by
  rw [HasOneOf, HasOneOf, h.columns "query" (by decide), h.columns "anchor" (by decide)]

/-- Rows whose query is under the name that the branches read, and that are the same otherwise. -/
structure IsQueried (lib : DatasetLibrary D) (dataset d : D) (g : Row → Row) : Prop where
  rows : lib.rows d = (lib.rows dataset).map g
  query : ∀ row ∈ lib.rows dataset, (g row).item "query" = .ok row.query
  same : ∀ row ∈ lib.rows dataset, ∀ c, startsWith c "_benchmark" = false → c ≠ "query" →
    c ≠ "anchor" → g row c = row c

theorem renameQuery_ok (ht : IsTrimmed lib dataset d g)
    (h : HasOneOf (lib.columnNames dataset) "query" "anchor") :
    ∃ d' g', renameColumns lib d [("anchor", "query")] = .ok d' ∧
      IsQueried lib dataset d' g' := by
  have hquery := ht.columns "query" (by decide)
  have hanchor := ht.columns "anchor" (by decide)
  have hsome (c : String) (hc : c ∈ lib.columnNames dataset) (row : Row)
      (hrow : row ∈ lib.rows dataset) : ∃ value, row c = some value :=
    Option.isSome_iff_exists.mp ((lib.isSome_row dataset row hrow c).mpr hc)
  rcases h with ⟨hthere, hnot⟩ | ⟨hnot, hthere⟩
  · refine ⟨d, g, ?_, ht.rows, fun row hrow => ?_, fun row hrow c hc _ _ => ht.same row hrow c hc⟩
    · rw [renameColumns, if_neg fun hand => hnot (hanchor.mp hand.1)]
      rfl
    · obtain ⟨query, hvalue⟩ := hsome "query" hthere row hrow
      rw [Row.item, ht.same row hrow "query" (by decide), Row.query, hvalue,
        get_of_some hvalue]
      rfl
  · obtain ⟨d', hd', -, hrows⟩ := lib.renameColumn_ok d "anchor" "query" (hanchor.mpr hthere)
      fun hmem => hnot (hquery.mp hmem)
    refine ⟨d', fun row => Row.rename (g row) "anchor" "query", ?_, ?_, fun row hrow => ?_,
      fun row hrow c hc hq ha => ?_⟩
    · rw [renameColumns, if_pos ⟨hanchor.mpr hthere, by decide⟩, hd']
      rfl
    · rw [hrows, ht.rows, List.map_map]
      rfl
    · obtain ⟨anchor, hvalue⟩ := hsome "anchor" hthere row hrow
      have hnone : (row "query").isSome ≠ true := fun hmem =>
        hnot ((lib.isSome_row dataset row hrow "query").mp hmem)
      rw [Row.item, Row.rename, if_pos rfl, ht.same row hrow "anchor" (by decide), hvalue,
        Row.query, if_neg hnone, get_of_some hvalue]
    · rw [Row.rename, if_neg hq, if_neg ha, ht.same row hrow c hc]

theorem IsQueried.getList (h : IsQueried lib dataset d g) {row : Row}
    (hrow : row ∈ lib.rows dataset) {c : String} (hc : startsWith c "_benchmark" = false)
    (hq : c ≠ "query") (ha : c ≠ "anchor") : (g row).getList c = row.getList c := by
  rw [Row.getList, Row.getList, h.same row hrow c hc hq ha]

theorem IsQueried.get (h : IsQueried lib dataset d g) {row : Row} (hrow : row ∈ lib.rows dataset)
    {c : String} (hc : startsWith c "_benchmark" = false) (hq : c ≠ "query") (ha : c ≠ "anchor") :
    (g row).get c = row.get c := by
  rw [Row.get, Row.get, h.same row hrow c hc hq ha]

theorem IsQueried.firstPositive (h : IsQueried lib dataset d g) {row : Row}
    (hrow : row ∈ lib.rows dataset) : firstPositive (g row) = firstPositive row := by
  unfold Embedding.firstPositive
  rw [h.getList hrow (by decide) (by decide) (by decide)]

end Columns

/-! ## Datasets of triplets -/

section Triplets

variable {D : Type} {lib : DatasetLibrary D} {dataset : D}

def IsTextTriplet (record : Record) : Prop :=
  ∃ query pos neg label, record = tripletRecord query pos neg label ∧
    query.kind ∈ [Kind.null, Kind.text] ∧ pos.kind = .text ∧ neg.kind = .text ∧
    label.kind = .number

theorem uniform_of_isTextTriplet {records : List Record}
    (h : ∀ record ∈ records, IsTextTriplet record) : Uniform records := by
  refine ⟨fun c => if c = "label" then .number else .text, ?_⟩
  intro record hrecord e he
  obtain ⟨query, pos, neg, label, rfl, hquery, hpos, hneg, hlabel⟩ := h record hrecord
  simp only [tripletRecord, List.mem_cons, List.not_mem_nil, or_false] at he
  rcases he with rfl | rfl | rfl | rfl
  · rcases List.mem_cons.mp hquery with hnull | htext
    · exact Or.inl hnull
    · exact Or.inr (List.mem_singleton.mp htext)
  · exact Or.inr hpos
  · exact Or.inr hneg
  · exact Or.inr hlabel

theorem keys_of_isTextTriplet {record : Record} (h : IsTextTriplet record) :
    record.map Prod.fst = labelledTripletColumns := by
  obtain ⟨query, pos, neg, label, rfl, -⟩ := h
  rfl

theorem over_ofRecord {record : Record} (h : IsTextTriplet record) :
    (Row.ofRecord record).over labelledTripletColumns = Row.ofRecord record := by
  obtain ⟨query, pos, neg, label, rfl, -⟩ := h
  refine Row.over_eq fun column => ?_
  rw [Row.ofRecord, Option.isSome_map, List.find?_isSome]
  simp [tripletRecord, labelledTripletColumns, eq_comm]

theorem select_over (row : Row) (columns : List String) :
    Row.select (row.over columns) columns = row.over columns := by
  funext c
  unfold Row.select Row.over
  split
  · rfl
  · rfl

theorem fromList_textTriplets (hlib : KeepsRows lib) {records : List Record} (hne : records ≠ [])
    (h : ∀ record ∈ records, IsTextTriplet record) :
    ∃ dataset', (lib.fromList records >>= fun d =>
        ensureColumnsOrder lib d labelledTripletColumns) = .ok dataset' ∧
      lib.columnNames dataset' = labelledTripletColumns ∧
      lib.rows dataset' = records.map Row.ofRecord := by
  cases records with
  | nil => exact absurd rfl hne
  | cons record records =>
    have hkeys := keys_of_isTextTriplet (h record (List.mem_cons_self ..))
    have hnodup : (record.map Prod.fst).Nodup := by
      rw [hkeys]
      decide
    obtain ⟨d, hd, hcolumns⟩ := lib.fromList_ok record records hnodup (uniform_of_isTextTriplet h)
    have hrows := hlib.fromList_rows record records d hnodup (uniform_of_isTextTriplet h) hd
    obtain ⟨d', hd', hcolumns', hrows'⟩ := @ensureColumnsOrder_of_subset D lib d
      labelledTripletColumns (by decide) fun c hc => by rwa [hcolumns, hkeys]
    refine ⟨d', bind_eq_ok.mpr ⟨d, hd, hd'⟩, hcolumns', ?_⟩
    rw [hrows', hrows, List.map_map, hkeys]
    refine List.map_congr_left fun r hr => ?_
    rw [Function.comp_apply, select_over, over_ofRecord (h r hr)]

theorem expand_textTriplets (hlib : KeepsRows lib) {rows : List Row} {g : Row → Row}
    {f : Row → Except PrepareError (List Record)} {expanded : Row → List Record}
    (hf : ∀ row ∈ rows, f (g row) = .ok (expanded row))
    (hall : ∀ row ∈ rows, ∀ record ∈ expanded row, IsTextTriplet record)
    (hsome : ∃ row ∈ rows, expanded row ≠ []) :
    ∃ dataset', ((rows.map g).mapM f >>= fun all => lib.fromList all.flatten >>= fun d =>
        ensureColumnsOrder lib d labelledTripletColumns) = .ok dataset' ∧
      lib.columnNames dataset' = labelledTripletColumns ∧
      lib.rows dataset' = rows.flatMap fun row => (expanded row).map Row.ofRecord := by
  have hne : (rows.map expanded).flatten ≠ [] := by
    obtain ⟨row, hrow, hexpanded⟩ := hsome
    intro hnil
    exact hexpanded (List.flatten_eq_nil_iff.mp hnil _ (List.mem_map_of_mem hrow))
  have htriplets : ∀ record ∈ (rows.map expanded).flatten, IsTextTriplet record := by
    intro record hrecord
    rw [← List.flatMap_def] at hrecord
    obtain ⟨row, hrow, hrecord⟩ := List.mem_flatMap.mp hrecord
    exact hall row hrow record hrecord
  obtain ⟨d, hd, hcolumns, hrows⟩ := fromList_textTriplets hlib hne htriplets
  refine ⟨d, bind_eq_ok.mpr ⟨_, mapM_map_eq_ok hf, hd⟩, hcolumns, ?_⟩
  rw [hrows, ← List.flatMap_def, List.map_flatMap]

def tripletRecords (row : Row) (pos : Cell) (pairs : List (String × Rat)) : List Record :=
  pairs.map fun e => tripletRecord row.query pos (.text e.1) (.number e.2)

theorem HasNegatives.isTextTriplet (hd : HasNegatives lib dataset) {row : Row}
    (hrow : row ∈ lib.rows dataset) {pos : Cell} (hpos : pos.kind = .text)
    {pairs : List (String × Rat)} :
    ∀ record ∈ tripletRecords row pos pairs, IsTextTriplet record := by
  intro record hrecord
  obtain ⟨e, -, rfl⟩ := List.mem_map.mp hrecord
  exact ⟨_, _, _, _, rfl, hd.kind_query hrow, hpos, rfl, rfl⟩

theorem length_tripletRecords (row : Row) (pos : Cell) (pairs : List (String × Rat)) :
    (tripletRecords row pos pairs).length = pairs.length := List.length_map ..

theorem tripletRecords_ne_nil {row : Row} {pos : Cell} {pairs : List (String × Rat)} {n : Nat}
    (hpairs : 0 < pairs.length) (hn : 0 < n) : tripletRecords row pos (pairs.take n) ≠ [] := by
  rw [← List.length_pos_iff, length_tripletRecords, List.length_take]
  omega

theorem map_ofRecord_tripletRecords (row : Row) (pairs : List (String × Rat)) :
    (tripletRecords row (firstPositive row) pairs).map Row.ofRecord = pairs.map row.triplet := by
  rw [tripletRecords, List.map_map]
  rfl

abbrev alignedCounts (margins : Row → List Rat) (rows : List Row) : List Nat :=
  rows.map fun row => (row.alignable margins).length

theorem exists_least {margins : Row → List Rat} {rows : List Row} {row : Row} (hrow : row ∈ rows)
    (hne : row.alignable margins ≠ []) :
    ∃ least, ((alignedCounts margins rows).filter (0 < ·)).min? = some least :=
  exists_min?_filter (List.mem_map_of_mem hrow) (List.length_pos_iff.mpr hne)

theorem keptNegatives_eq {margins : Row → List Rat} {rows : List Row} {least : Nat}
    {maxNegatives : Option Int}
    (h : ((alignedCounts margins rows).filter (0 < ·)).min? = some least) :
    keptNegatives margins maxNegatives rows = atMost maxNegatives least := by
  rw [keptNegatives, h]
  rfl

theorem expandsOwn_ok_iff {margins : Row → List Rat} {maxNegatives : Option Int} {dataset' : D}
    {f : Row → List Row} (hcolumns : lib.columnNames dataset' = labelledTripletColumns)
    (hrows : lib.rows dataset' = (lib.rows dataset).flatMap f)
    (hle : ∀ row ∈ lib.rows dataset, (((row.alignable margins).take
      (keptNegatives margins maxNegatives (lib.rows dataset))).map row.triplet).length ≤
        (f row).length) :
    ExpandsOwn lib margins maxNegatives dataset (.ok dataset') ↔
      ∀ row ∈ lib.rows dataset, f row = ((row.alignable margins).take
        (keptNegatives margins maxNegatives (lib.rows dataset))).map row.triplet := by
  rw [← flatMap_eq_iff hle, ← hrows]
  exact and_iff_right hcolumns

end Triplets

/-! ## Margins -/

section Margins

variable {D : Type} {lib : DatasetLibrary D} {dataset d : D} {g : Row → Row} {row : Row}

theorem effMargins_eq (hd : IsMultiMargins lib dataset) (hq : IsQueried lib dataset d g)
    (hrow : row ∈ lib.rows dataset) :
    effMargins (g row) = .ok (row.alignable Row.margins).length := by
  refine effMargins_eq_ok.mpr ⟨row.negTexts.map .text, row.margins.map .number, ?_, ?_, ?_⟩
  · rw [hq.getList hrow (by decide) (by decide) (by decide), hd.getList_neg hrow]
    rfl
  · rw [hq.getList hrow (by decide) (by decide) (by decide), hd.elements_margins hrow]
  · rw [List.length_map, List.length_map, Row.alignable, List.length_zip]

theorem expandMargins_eq (hd : IsMultiMargins lib dataset) (hq : IsQueried lib dataset d g)
    (hrow : row ∈ lib.rows dataset) (pos : Cell) (allowed : Nat) :
    expandMargins pos allowed (g row) =
      .ok (tripletRecords row pos ((row.alignable Row.margins).take allowed)) := by
  refine expandMargins_eq_ok.mpr
    ⟨row.query, row.negTexts.map .text, row.margins.map .number, hq.query row hrow, ?_, ?_, ?_⟩
  · rw [hq.getList hrow (by decide) (by decide) (by decide), hd.getList_neg hrow]
    rfl
  · rw [hq.getList hrow (by decide) (by decide) (by decide), hd.elements_margins hrow]
  · rw [List.zip_map, ← List.map_take, List.map_map]
    rfl

theorem of_prepareMarginMultiMargins (hd : IsMultiMargins lib dataset)
    (ht : IsTrimmed lib dataset d g) {maxNegatives : Option Int} {dataset' : D}
    (h : prepareMarginMultiMargins lib maxNegatives d = .ok dataset') :
    HasOneOf (lib.columnNames dataset) "query" "anchor" ∧
      ∃ row ∈ lib.rows dataset, row.alignable Row.margins ≠ [] := by
  obtain ⟨d₁, hrename, h⟩ := bind_eq_ok.mp h
  obtain ⟨effs, heffs, h⟩ := bind_eq_ok.mp h
  split at h
  · rename_i allowed last hallowed hlast
    obtain ⟨expanded, hexpanded, -⟩ := bind_eq_ok.mp h
    have hlast' : last ∈ lib.rows d₁ := List.mem_of_getLast? hlast
    obtain ⟨records, -, hrecords⟩ := exists_of_mapM_eq_ok hexpanded hlast'
    obtain ⟨query, -, -, hquery, -⟩ := expandMargins_eq_ok.mp hrecords
    have hone := ht.hasOneOf_iff.mp
      (hasOneOf_of_renameAnchor hrename (query_mem_of_item hlast' hquery))
    refine ⟨hone, ?_⟩
    obtain ⟨d₂, g₂, hd₂, hq⟩ := renameQuery_ok ht hone
    obtain rfl := Except.ok.inj (hd₂.symm.trans hrename)
    obtain ⟨row', hrow', n, hn, hpos⟩ := exists_of_allowedK heffs hallowed
    rw [hq.rows] at hrow'
    obtain ⟨row, hrow, rfl⟩ := List.mem_map.mp hrow'
    obtain rfl := Except.ok.inj ((effMargins_eq hd hq hrow).symm.trans hn)
    exact ⟨row, hrow, List.length_pos_iff.mp hpos⟩
  · cases h

theorem prepareMarginMultiMargins_ok (hlib : KeepsRows lib) (hd : IsMultiMargins lib dataset)
    (ht : IsTrimmed lib dataset d g) (hone : HasOneOf (lib.columnNames dataset) "query" "anchor")
    {least allowed : Nat} {maxNegatives : Option Int}
    (hleast : ((alignedCounts Row.margins (lib.rows dataset)).filter (0 < ·)).min? = some least)
    (hallowed : allowedK maxNegatives
      ((alignedCounts Row.margins (lib.rows dataset)).filter (0 < ·)) = some allowed) :
    ∃ dataset' last, prepareMarginMultiMargins lib maxNegatives d = .ok dataset' ∧
      lib.columnNames dataset' = labelledTripletColumns ∧
      (lib.rows dataset).getLast? = some last ∧
      lib.rows dataset' = (lib.rows dataset).flatMap fun row =>
        (tripletRecords row (firstPositive last)
          ((row.alignable Row.margins).take allowed)).map Row.ofRecord := by
  obtain ⟨d₁, g₁, hrename, hq⟩ := renameQuery_ok ht hone
  have heffs := mapM_map_eq_ok fun row hrow => @effMargins_eq D lib dataset d₁ g₁ row hd hq hrow
  obtain ⟨hmem, hpos, -⟩ := min?_filter_eq_some.mp hleast
  obtain ⟨row, hrow, hcount⟩ := List.mem_map.mp hmem
  obtain ⟨last, hlast⟩ : ∃ last, (lib.rows dataset).getLast? = some last :=
    ⟨_, List.getLast?_eq_some_getLast (List.ne_nil_of_mem hrow)⟩
  have hlast' : last ∈ lib.rows dataset := List.mem_of_getLast? hlast
  have hallowedPos : 0 < allowed := allowedK_pos (fun count hcount =>
    of_decide_eq_true (List.mem_filter.mp hcount).2) hallowed
  obtain ⟨dataset', hexpand, hcolumns, hrows⟩ := @expand_textTriplets D lib hlib _ g₁
    (expandMargins (firstPositive last) allowed) _
    (fun row hrow => expandMargins_eq hd hq hrow (firstPositive last) allowed)
    (fun row hrow => hd.isTextTriplet hrow (hd.kind_firstPositive hlast'))
    ⟨row, hrow, tripletRecords_ne_nil (by omega) hallowedPos⟩
  refine ⟨dataset', last, bind_eq_ok.mpr ⟨d₁, hrename,
    bind_eq_ok.mpr ⟨alignedCounts Row.margins (lib.rows dataset), ?_, ?_⟩⟩, hcolumns, hlast, hrows⟩
  · rw [hq.rows]
    exact heffs
  · rw [hallowed, hq.rows, List.getLast?_map, hlast, Option.map_some]
    dsimp only
    rw [hq.firstPositive hlast']
    exact hexpand

theorem positive_of_triplets {pos : Cell} {pairs : List (String × Rat)} (hne : pairs ≠ [])
    {m n : Nat} (hm : 0 < m) (hn : 0 < n)
    (h : (tripletRecords row pos (pairs.take m)).map Row.ofRecord =
      (pairs.take n).map row.triplet) : firstPositive row = pos := by
  obtain ⟨e, pairs, rfl⟩ := List.exists_cons_of_ne_nil hne
  obtain ⟨m, rfl⟩ := Nat.exists_eq_succ_of_ne_zero (Nat.pos_iff_ne_zero.mp hm)
  obtain ⟨n, rfl⟩ := Nat.exists_eq_succ_of_ne_zero (Nat.pos_iff_ne_zero.mp hn)
  rw [List.take_succ_cons, List.take_succ_cons, tripletRecords, List.map_cons, List.map_cons,
    List.map_cons] at h
  have hrow := congrFun (List.cons.inj h).1 "positive"
  exact (Option.some.inj hrow).symm

theorem prepareMarginMultiMargins_own_iff (hlib : KeepsRows lib) (hd : IsMultiMargins lib dataset)
    (ht : IsTrimmed lib dataset d g) (maxNegatives : Option Int) :
    ExpandsOwn lib Row.margins maxNegatives dataset
        (prepareMarginMultiMargins lib maxNegatives d) ↔
      SharePositive lib maxNegatives dataset := by
  by_cases hsome : ∃ row ∈ lib.rows dataset, row.alignable Row.margins ≠ []
  swap
  · refine iff_of_true ?_ fun h => absurd h hsome
    cases hresult : prepareMarginMultiMargins lib maxNegatives d with
    | error e => exact fun row hrow => by_contra fun hne => hsome ⟨row, hrow, hne⟩
    | ok dataset' => exact absurd (of_prepareMarginMultiMargins hd ht hresult).2 hsome
  obtain ⟨row, hrow, hne⟩ := hsome
  by_cases hone : HasOneOf (lib.columnNames dataset) "query" "anchor"
  swap
  · refine iff_of_false ?_ fun h => hone (h ⟨row, hrow, hne⟩).1.query
    cases hresult : prepareMarginMultiMargins lib maxNegatives d with
    | error e => exact fun h => hne (h row hrow)
    | ok dataset' => exact absurd (of_prepareMarginMultiMargins hd ht hresult).1 hone
  obtain ⟨least, hleast⟩ := exists_least hrow hne
  obtain ⟨allowed, hallowed⟩ := exists_allowedK hleast maxNegatives
  obtain ⟨dataset', last, hok, hcolumns, hlast, hrows⟩ :=
    prepareMarginMultiMargins_ok hlib hd ht hone hleast hallowed
  have hkept : keptNegatives Row.margins maxNegatives (lib.rows dataset) =
      atMost maxNegatives least := keptNegatives_eq hleast
  have hle := atMost_le_of_allowedK hleast hallowed
  have hleastLe := (min?_filter_eq_some.mp hleast).2.2
  have hpos : 0 < allowed := allowedK_pos (fun count hcount =>
    of_decide_eq_true (List.mem_filter.mp hcount).2) hallowed
  have hallowedLe := allowedK_le hleast hallowed
  rw [hok, expandsOwn_ok_iff hcolumns hrows fun row hrow => by
    rw [hkept, List.length_map, List.length_map, length_tripletRecords, List.length_take,
      List.length_take]
    omega]
  rw [hkept]
  constructor
  · intro h _
    have hlength := congrArg List.length (h row hrow)
    rw [List.length_map, List.length_map, length_tripletRecords, List.length_take,
      List.length_take] at hlength
    have hrowLe := hleastLe _ (List.mem_map_of_mem hrow) (List.length_pos_iff.mpr hne)
    have hkeptPos : 0 < atMost maxNegatives least := by omega
    refine ⟨⟨hone, bound_of_atMost hkeptPos⟩, fun row hrow hne last' hlast' => ?_⟩
    obtain rfl := Option.some.inj (hlast.symm.trans hlast')
    exact positive_of_triplets hne hpos hkeptPos (h row hrow)
  · intro h row' hrow'
    obtain ⟨hbounded, hshare⟩ := h ⟨row, hrow, hne⟩
    have heq := allowedK_of_bound hbounded.bound hleast
    obtain rfl := Option.some.inj (hallowed.symm.trans heq)
    by_cases hempty : row'.alignable Row.margins = []
    · rw [hempty, List.take_nil]
      rfl
    · rw [← hshare row' hrow' hempty last hlast, map_ofRecord_tripletRecords]

end Margins

/-! ## Scores -/

section Scores

variable {D : Type} {lib : DatasetLibrary D} {dataset d : D} {g : Row → Row} {row : Row}

theorem IsMultiScores.get_cases (hd : IsMultiScores lib dataset) (hrow : row ∈ lib.rows dataset)
    {c : String} (hc : c ∈ ["scores", "pos_scores", "neg_scores"]) :
    row.get c = .null ∨ ∃ l, row.get c = .numbers l := by
  cases hvalue : row c with
  | none => exact Or.inl (get_of_none hvalue)
  | some value =>
    have hkind := hd.scores row hrow c hc value hvalue
    rw [get_of_some hvalue]
    cases value with
    | null => exact Or.inl rfl
    | numbers l => exact Or.inr ⟨l, rfl⟩
    | text s => simp [Cell.kind] at hkind
    | number q => simp [Cell.kind] at hkind
    | texts l => simp [Cell.kind] at hkind

theorem IsMultiScores.getList_cases (hd : IsMultiScores lib dataset)
    (hrow : row ∈ lib.rows dataset) :
    row.getList "scores" = .numbers row.ownScores ∨
      row.ownScores = [] ∧ (row.getList "scores" = .texts [] ∨ row.getList "scores" = .null) := by
  unfold Row.ownScores
  cases hvalue : row "scores" with
  | none =>
    rw [getList_of_none hvalue, get_of_none hvalue]
    exact Or.inr ⟨rfl, Or.inl rfl⟩
  | some value =>
    have hget := hd.get_cases hrow (c := "scores") (by decide)
    rw [get_of_some hvalue] at hget
    rw [getList_of_some hvalue, get_of_some hvalue]
    rcases hget with rfl | ⟨l, rfl⟩
    · exact Or.inr ⟨rfl, Or.inr rfl⟩
    · exact Or.inl rfl

/-- The scores that are read of a row are its scores. -/
theorem IsMultiScores.rowScores_eq (hd : IsMultiScores lib dataset)
    (hrow : row ∈ lib.rows dataset) :
    rowScores row = .numbers row.scores ∨ row.scores = [] ∧
      (rowScores row = .texts [] ∨ rowScores row = .null) := by
  unfold rowScores Row.scores
  by_cases hown : row.ownScores = []
  · have hcond : (!(row.getList "scores").isList || !(row.getList "scores").truthy) = true := by
      rcases hd.getList_cases hrow with hlist | ⟨-, hlist | hlist⟩
      · rw [hlist, hown]
        rfl
      · rw [hlist]
        rfl
      · rw [hlist]
        rfl
    rw [if_pos hcond, if_pos hown, Row.universalScores]
    have hscores : row.getList "scores" = .numbers [] ∨
        row.getList "scores" = .texts [] ∨ row.getList "scores" = .null := by
      rcases hd.getList_cases hrow with hlist | ⟨-, hlist⟩
      · exact Or.inl (hown ▸ hlist)
      · exact Or.inr hlist
    rcases hd.get_cases hrow (c := "pos_scores") (by decide) with hpos | ⟨ps, hpos⟩
    · rw [hpos]
      exact hscores.imp id fun h => ⟨rfl, h⟩
    · rcases hd.get_cases hrow (c := "neg_scores") (by decide) with hneg | ⟨ns, hneg⟩
      · rw [hpos, hneg]
        exact hscores.imp id fun h => ⟨rfl, h⟩
      · rw [hpos, hneg]
        exact Or.inl rfl
  · rw [if_neg hown]
    rcases hd.getList_cases hrow with hlist | ⟨hnil, -⟩
    · obtain ⟨score, scores, hscores⟩ := List.exists_cons_of_ne_nil hown
      rw [hlist, hscores]
      exact Or.inl rfl
    · exact absurd hnil hown

def countedNegatives (row : Row) : Nat :=
  if row.ownScores = [] then 0 else (row.alignable Row.scoreMargins).length

theorem countedNegatives_pos_iff : 0 < countedNegatives row ↔ IsCounted row := by
  unfold countedNegatives IsCounted
  split
  · rename_i hnil
    exact iff_of_false (Nat.lt_irrefl 0) fun h => h.1 hnil
  · rename_i hne
    rw [and_iff_right hne]
    exact List.length_pos_iff

theorem countedNegatives_eq (h : IsCounted row) :
    countedNegatives row = (row.alignable Row.scoreMargins).length := if_neg h.1

theorem length_alignable_scores (row : Row) :
    (row.alignable Row.scoreMargins).length = min row.negTexts.length (row.scores.length - 1) := by
  rw [Row.alignable, List.length_zip, Row.scoreMargins, List.length_map, List.length_tail]

theorem effScores_eq (hd : IsMultiScores lib dataset) (hq : IsQueried lib dataset d g)
    (hrow : row ∈ lib.rows dataset) : effScores (g row) = .ok (countedNegatives row) := by
  unfold effScores
  dsimp only
  rw [hq.getList hrow (by decide) (by decide) (by decide),
    hq.getList hrow (by decide) (by decide) (by decide), hd.getList_neg hrow]
  have hlen : (Cell.texts row.negTexts).len = .ok row.negTexts.length :=
    len_eq_ok.mpr ⟨_, rfl, List.length_map ..⟩
  rw [hlen]
  rcases hd.getList_cases hrow with hlist | ⟨hnil, hlist⟩
  · rw [hlist]
    by_cases hlength : 2 ≤ row.ownScores.length
    · have hne : row.ownScores ≠ [] := List.ne_nil_of_length_pos (by omega)
      rw [if_pos ⟨rfl, hlength⟩, countedNegatives, if_neg hne, length_alignable_scores,
        Row.scores, if_neg hne]
      rfl
    · rw [if_neg fun h => hlength h.2, countedNegatives, length_alignable_scores]
      split
      · rfl
      · rename_i hne
        rw [Row.scores, if_neg hne]
        congr 1
        omega
  · have hno : ¬ ((row.getList "scores").isList = true ∧
        2 ≤ (row.getList "scores").listLength) := by
      rcases hlist with hlist | hlist
      · rw [hlist]
        exact fun h => absurd h.2 (by decide)
      · rw [hlist]
        exact fun h => absurd h.1 (by decide)
    rw [if_neg hno, countedNegatives, if_pos hnil]

theorem rowScores_of_isQueried (hq : IsQueried lib dataset d g) (hrow : row ∈ lib.rows dataset) :
    rowScores (g row) = rowScores row := by
  unfold rowScores
  rw [hq.getList hrow (by decide) (by decide) (by decide),
    hq.get hrow (by decide) (by decide) (by decide),
    hq.get hrow (by decide) (by decide) (by decide)]

theorem expandScores_eq (hd : IsMultiScores lib dataset) (hq : IsQueried lib dataset d g)
    (hrow : row ∈ lib.rows dataset) (allowed : Nat) :
    expandScores allowed (g row) = .ok (tripletRecords row (firstPositive row)
      ((row.alignable Row.scoreMargins).take allowed)) := by
  have hscores := hd.rowScores_eq hrow
  have hread := rowScores_of_isQueried hq hrow
  cases hrowScores : row.scores with
  | nil =>
    have halign : row.alignable Row.scoreMargins = [] := by
      rw [Row.alignable, Row.scoreMargins, hrowScores]
      exact List.zip_nil_right
    rw [halign, List.take_nil]
    rw [hrowScores] at hscores
    have hcases : rowScores (g row) = .numbers [] ∨ rowScores (g row) = .texts [] ∨
        rowScores (g row) = .null := by
      rw [hread]
      exact hscores.imp id And.right
    refine expandScores_of_none (hq.query row hrow) (fun score scores h => ?_) fun s l h => ?_
    · rw [h] at hcases
      rcases hcases with hcases | hcases | hcases <;> cases hcases
    · rw [h] at hcases
      rcases hcases with hcases | hcases | hcases <;> cases hcases
  | cons score scores =>
    have hnumbers : rowScores (g row) = .numbers (score :: scores) := by
      rw [hread]
      rcases hscores with hscores | ⟨hnil, -⟩
      · rw [hscores, hrowScores]
      · rw [hrowScores] at hnil
        cases hnil
    have hneg : ((g row).getList "neg").elements = .ok (row.negTexts.map .text) := by
      rw [hq.getList hrow (by decide) (by decide) (by decide), hd.getList_neg hrow]
      rfl
    rw [expandScores_of_numbers (hq.query row hrow) hnumbers hneg, hq.firstPositive hrow,
      Row.alignable, Row.scoreMargins, hrowScores, List.tail_cons, List.headD_cons,
      List.zip_map_left, List.zip_map_right, ← List.map_take, ← List.map_take, tripletRecords,
      List.map_map, List.map_map]
    rfl

theorem of_prepareMarginMultiScores (hd : IsMultiScores lib dataset)
    (ht : IsTrimmed lib dataset d g) {maxNegatives : Option Int} {dataset' : D}
    (h : prepareMarginMultiScores lib maxNegatives d = .ok dataset') :
    HasOneOf (lib.columnNames dataset) "query" "anchor" ∧
      ∃ row ∈ lib.rows dataset, IsCounted row := by
  obtain ⟨d₁, hrename, h⟩ := bind_eq_ok.mp h
  obtain ⟨effs, heffs, h⟩ := bind_eq_ok.mp h
  split at h
  · cases h
  · rename_i allowed hallowed
    obtain ⟨expanded, hexpanded, -⟩ := bind_eq_ok.mp h
    obtain ⟨row', hrow', n, hn, hpos⟩ := exists_of_allowedK heffs hallowed
    obtain ⟨records, -, hrecords⟩ := exists_of_mapM_eq_ok hexpanded hrow'
    obtain ⟨query, hitem, -⟩ := bind_eq_ok.mp hrecords
    have hone := ht.hasOneOf_iff.mp
      (hasOneOf_of_renameAnchor hrename (query_mem_of_item hrow' hitem))
    refine ⟨hone, ?_⟩
    obtain ⟨d₂, g₂, hd₂, hq⟩ := renameQuery_ok ht hone
    obtain rfl := Except.ok.inj (hd₂.symm.trans hrename)
    rw [hq.rows] at hrow'
    obtain ⟨row, hrow, rfl⟩ := List.mem_map.mp hrow'
    obtain rfl := Except.ok.inj ((effScores_eq hd hq hrow).symm.trans hn)
    exact ⟨row, hrow, countedNegatives_pos_iff.mp hpos⟩

theorem prepareMarginMultiScores_ok (hlib : KeepsRows lib) (hd : IsMultiScores lib dataset)
    (ht : IsTrimmed lib dataset d g) (hone : HasOneOf (lib.columnNames dataset) "query" "anchor")
    {least allowed : Nat} {maxNegatives : Option Int}
    (hleast : (((lib.rows dataset).map countedNegatives).filter (0 < ·)).min? = some least)
    (hallowed : allowedK maxNegatives
      (((lib.rows dataset).map countedNegatives).filter (0 < ·)) = some allowed) :
    ∃ dataset', prepareMarginMultiScores lib maxNegatives d = .ok dataset' ∧
      lib.columnNames dataset' = labelledTripletColumns ∧
      lib.rows dataset' = (lib.rows dataset).flatMap fun row =>
        ((row.alignable Row.scoreMargins).take allowed).map row.triplet := by
  obtain ⟨d₁, g₁, hrename, hq⟩ := renameQuery_ok ht hone
  have heffs := mapM_map_eq_ok fun row hrow => @effScores_eq D lib dataset d₁ g₁ row hd hq hrow
  obtain ⟨hmem, hpos, -⟩ := min?_filter_eq_some.mp hleast
  obtain ⟨row, hrow, rfl⟩ := List.mem_map.mp hmem
  have hcounted := countedNegatives_pos_iff.mp hpos
  have hallowedPos : 0 < allowed := allowedK_pos (fun count hcount =>
    of_decide_eq_true (List.mem_filter.mp hcount).2) hallowed
  obtain ⟨dataset', hexpand, hcolumns, hrows⟩ := @expand_textTriplets D lib hlib _ g₁
    (expandScores allowed) _ (fun row hrow => expandScores_eq hd hq hrow allowed)
    (fun row hrow => hd.isTextTriplet hrow (hd.kind_firstPositive hrow))
    ⟨row, hrow, tripletRecords_ne_nil (List.length_pos_iff.mpr hcounted.2) hallowedPos⟩
  refine ⟨dataset', bind_eq_ok.mpr ⟨d₁, hrename,
    bind_eq_ok.mpr ⟨(lib.rows dataset).map countedNegatives, ?_, ?_⟩⟩, hcolumns, ?_⟩
  · rw [hq.rows]
    exact heffs
  · rw [hallowed, hq.rows]
    exact hexpand
  · rw [hrows]
    exact List.flatMap_congr fun row _ => map_ofRecord_tripletRecords row _

/-- Each row is expanded to its own triplets, of all rows equally many, exactly if the rows of the
universal format are no less than those that are counted. -/
theorem prepareMarginMultiScores_own_iff (hlib : KeepsRows lib) (hd : IsMultiScores lib dataset)
    (ht : IsTrimmed lib dataset d g) (maxNegatives : Option Int) :
    ExpandsOwn lib Row.scoreMargins maxNegatives dataset
        (prepareMarginMultiScores lib maxNegatives d) ↔
      ScoresCounted lib maxNegatives dataset := by
  have hall : ∀ row ∈ lib.rows dataset, countedNegatives row ≤
      (row.alignable Row.scoreMargins).length := by
    intro row _
    unfold countedNegatives
    split <;> omega
  by_cases hsome : ∃ row ∈ lib.rows dataset, row.alignable Row.scoreMargins ≠ []
  swap
  · refine iff_of_true ?_ fun h => absurd h hsome
    cases hresult : prepareMarginMultiScores lib maxNegatives d with
    | error e => exact fun row hrow => by_contra fun hne => hsome ⟨row, hrow, hne⟩
    | ok dataset' =>
      obtain ⟨row, hrow, hcounted⟩ := (of_prepareMarginMultiScores hd ht hresult).2
      exact absurd ⟨row, hrow, hcounted.2⟩ hsome
  obtain ⟨row, hrow, hne⟩ := hsome
  by_cases hready : HasOneOf (lib.columnNames dataset) "query" "anchor" ∧
      ∃ row ∈ lib.rows dataset, IsCounted row
  swap
  · refine iff_of_false ?_ fun h => hready
      ⟨(h ⟨row, hrow, hne⟩).1.query, (h ⟨row, hrow, hne⟩).2.1⟩
    cases hresult : prepareMarginMultiScores lib maxNegatives d with
    | error e => exact fun h => hne (h row hrow)
    | ok dataset' => exact absurd (of_prepareMarginMultiScores hd ht hresult) hready
  obtain ⟨hone, counted, hcountedRow, hcounted⟩ := hready
  obtain ⟨least, hleast⟩ := exists_min?_filter
    (List.mem_map_of_mem (f := countedNegatives) hcountedRow) (countedNegatives_pos_iff.mpr hcounted)
  obtain ⟨allowed, hallowed⟩ := exists_allowedK hleast maxNegatives
  obtain ⟨dataset', hok, hcolumns, hrows⟩ :=
    prepareMarginMultiScores_ok hlib hd ht hone hleast hallowed
  obtain ⟨all, hallLeast⟩ := exists_least hrow hne
  have hkept : keptNegatives Row.scoreMargins maxNegatives (lib.rows dataset) =
      atMost maxNegatives all := keptNegatives_eq hallLeast
  obtain ⟨hleastMem, hleastPos, hleastLe⟩ := min?_filter_eq_some.mp hleast
  obtain ⟨hallMem, hallPos, hallLe⟩ := min?_filter_eq_some.mp hallLeast
  obtain ⟨leastRow, hleastRow, hleastEq⟩ := List.mem_map.mp hleastMem
  have hleastCounted : IsCounted leastRow := countedNegatives_pos_iff.mp (hleastEq ▸ hleastPos)
  rw [countedNegatives_eq hleastCounted] at hleastEq
  have hallLeastLe : all ≤ least := by
    rw [← hleastEq]
    exact hallLe _ (List.mem_map_of_mem hleastRow) (hleastEq ▸ hleastPos)
  have hle : atMost maxNegatives all ≤ allowed :=
    (atMost_mono maxNegatives hallLeastLe).trans (atMost_le_of_allowedK hleast hallowed)
  rw [hok, expandsOwn_ok_iff hcolumns hrows fun row hrow => by
    rw [hkept, List.length_map, List.length_map, List.length_take, List.length_take]
    omega]
  rw [hkept]
  have hpos : 0 < allowed := allowedK_pos (fun count hcount =>
    of_decide_eq_true (List.mem_filter.mp hcount).2) hallowed
  have hallowedLe := allowedK_le hleast hallowed
  constructor
  · intro h _
    have hlength := congrArg List.length (h leastRow hleastRow)
    rw [List.length_map, List.length_map, List.length_take, List.length_take, hleastEq] at hlength
    have hkeptEq : atMost maxNegatives all = allowed := by omega
    have hbound := bound_of_atMost (hkeptEq ▸ hpos)
    refine ⟨⟨hone, hbound⟩, ⟨counted, hcountedRow, hcounted⟩, fun row' hrow' hne' => ?_⟩
    have hrowLe := hallLe _ (List.mem_map_of_mem hrow') (List.length_pos_iff.mpr hne')
    have heq := allowedK_of_bound hbound hleast
    obtain rfl := Option.some.inj (hallowed.symm.trans heq)
    have hatMost := atMost_le maxNegatives all
    rcases atMost_eq_or maxNegatives least with hatLeast | ⟨bound, hmax, hatLeast⟩
    · refine Or.inl ⟨leastRow, hleastRow, hleastCounted, ?_⟩
      omega
    · refine Or.inr ⟨bound, hmax, ?_⟩
      omega
  · intro h
    obtain ⟨hbounded, -, hcovered⟩ := h ⟨row, hrow, hne⟩
    have heq := allowedK_of_bound hbounded.bound hleast
    obtain rfl := Option.some.inj (hallowed.symm.trans heq)
    obtain ⟨allRow, hallRow, hallEq⟩ := List.mem_map.mp hallMem
    have hsame : atMost maxNegatives least = atMost maxNegatives all := by
      rcases hcovered allRow hallRow (List.length_pos_iff.mp (by omega)) with
        ⟨other, hother, hotherCounted, hotherLe⟩ | ⟨bound, rfl, hboundLe⟩
      · have hleastOther := hleastLe _ (List.mem_map_of_mem hother)
          (countedNegatives_pos_iff.mpr hotherCounted)
        rw [countedNegatives_eq hotherCounted] at hleastOther
        have hsame : least = all := by omega
        rw [hsame]
      · show min least bound.toNat = min all bound.toNat
        omega
    rw [hsame]
    exact fun _ _ => rfl

end Scores

/-! ## The prepared dataset -/

section Prepared

variable {D : Type} {lib : DatasetLibrary D} {dataset : D}

theorem prepareDatasetAs_eq (hlib : KeepsRows lib) {requested : Option Format} {format : Format}
    (h : formatOf lib requested dataset = .ok format) (maxNegatives : Option Int) :
    ∃ d g, IsTrimmed lib dataset d g ∧
      prepareDatasetAs lib requested maxNegatives dataset =
        prepareFormat lib maxNegatives d format := by
  obtain ⟨d, g, hd, ht⟩ := dropAuxiliaryColumns_ok hlib dataset
  refine ⟨d, g, ht, ?_⟩
  obtain ⟨d', hd', hformat⟩ := bind_eq_ok.mp h
  obtain rfl := Except.ok.inj (hd.symm.trans hd')
  rw [prepareDatasetAs, hd]
  show (resolveFormat lib requested d >>= fun format => prepareFormat lib maxNegatives d format) = _
  rw [hformat]
  rfl

/-- Each row is expanded to triplets of its own texts exactly if the rows with margins share the
first positive of the last row, and rows that are counted bound those of the universal format. -/
theorem margins_keep_texts_iff (hlib : KeepsRows lib) (requested : Option Format)
    (maxNegatives : Option Int) (dataset : D) :
    (formatOf lib requested dataset = .ok .marginMultiMargins → IsMultiMargins lib dataset →
      (ExpandsOwn lib Row.margins maxNegatives dataset
          (prepareDatasetAs lib requested maxNegatives dataset) ↔
        SharePositive lib maxNegatives dataset)) ∧
    (formatOf lib requested dataset = .ok .marginMultiScores → IsMultiScores lib dataset →
      (ExpandsOwn lib Row.scoreMargins maxNegatives dataset
          (prepareDatasetAs lib requested maxNegatives dataset) ↔
        ScoresCounted lib maxNegatives dataset)) := by
  constructor
  · intro hformat hd
    obtain ⟨d, g, ht, heq⟩ := prepareDatasetAs_eq hlib hformat maxNegatives
    rw [heq]
    exact prepareMarginMultiMargins_own_iff hlib hd ht maxNegatives
  · intro hformat hd
    obtain ⟨d, g, ht, heq⟩ := prepareDatasetAs_eq hlib hformat maxNegatives
    rw [heq]
    exact prepareMarginMultiScores_own_iff hlib hd ht maxNegatives

end Prepared

/-! ## Datasets in memory -/

def marginRecord (query pos neg : String) (margin : Rat) : Record :=
  [("query", .text query), ("pos", .texts [pos]), ("neg", .texts [neg]),
    ("margins", .numbers [margin])]

def universalRecord (query pos neg : String) : Record :=
  [("query", .text query), ("pos", .texts [pos]), ("neg", .texts [neg]),
    ("pos_scores", .numbers [1]), ("neg_scores", .numbers [0])]

theorem isMultiMargins_of_kinds {t : MemoryDataset}
    (h : ∀ row ∈ t.rows, (∀ c ∈ ["query", "anchor"], (row.get c).kind ∈ [Kind.null, Kind.text]) ∧
      (row.get "pos").kind ∈ [Kind.null, Kind.text, Kind.texts] ∧
      (row.get "neg").kind = .texts ∧ (row.get "margins").kind = .numbers) :
    IsMultiMargins memoryLibrary t where
  query row hrow c hc value hvalue := by
    have hkind := (h row hrow).1 c hc
    rwa [get_of_some hvalue] at hkind
  positives row hrow value hvalue := by
    have hkind := (h row hrow).2.1
    rwa [get_of_some hvalue] at hkind
  negatives row hrow value hvalue := by
    have hkind := (h row hrow).2.2.1
    rwa [get_of_some hvalue] at hkind
  margins row hrow value hvalue := by
    have hkind := (h row hrow).2.2.2
    rwa [get_of_some hvalue] at hkind

theorem isMultiScores_of_kinds {t : MemoryDataset}
    (h : ∀ row ∈ t.rows, (∀ c ∈ ["query", "anchor"], (row.get c).kind ∈ [Kind.null, Kind.text]) ∧
      (row.get "pos").kind ∈ [Kind.null, Kind.text, Kind.texts] ∧ (row.get "neg").kind = .texts ∧
      ∀ c ∈ ["scores", "pos_scores", "neg_scores"], (row.get c).kind ∈ [Kind.null, Kind.numbers]) :
    IsMultiScores memoryLibrary t where
  query row hrow c hc value hvalue := by
    have hkind := (h row hrow).1 c hc
    rwa [get_of_some hvalue] at hkind
  positives row hrow value hvalue := by
    have hkind := (h row hrow).2.1
    rwa [get_of_some hvalue] at hkind
  negatives row hrow value hvalue := by
    have hkind := (h row hrow).2.2.1
    rwa [get_of_some hvalue] at hkind
  scores row hrow c hc value hvalue := by
    have hkind := (h row hrow).2.2.2 c hc
    rwa [get_of_some hvalue] at hkind

/-- Two rows with one positive. -/
def sharedMargins : MemoryDataset :=
  MemoryDataset.fromList [marginRecord "q" "p" "n" 1, marginRecord "r" "p" "m" 2]

/-- Two rows with positives of their own. -/
def apartMargins : MemoryDataset :=
  MemoryDataset.fromList [marginRecord "q" "p" "n" 1, marginRecord "r" "o" "m" 2]

def countedScores : MemoryDataset :=
  MemoryDataset.fromList [[("query", .text "q"), ("pos", .texts ["p"]), ("neg", .texts ["n", "m"]),
    ("scores", .numbers [3, 2, 1])]]

def universalTexts : MemoryDataset := MemoryDataset.fromList [universalRecord "q" "p" "n"]

theorem isMultiMargins_sharedMargins : IsMultiMargins memoryLibrary sharedMargins :=
  isMultiMargins_of_kinds (by decide)

theorem isMultiMargins_apartMargins : IsMultiMargins memoryLibrary apartMargins :=
  isMultiMargins_of_kinds (by decide)

theorem isMultiScores_countedScores : IsMultiScores memoryLibrary countedScores :=
  isMultiScores_of_kinds (by decide)

theorem isMultiScores_universalTexts : IsMultiScores memoryLibrary universalTexts :=
  isMultiScores_of_kinds (by decide)

theorem sharePositive_sharedMargins : SharePositive memoryLibrary none sharedMargins := by
  have hall : ∀ row ∈ memoryLibrary.rows sharedMargins, firstPositive row = .text "p" :=
    List.forall_mem_cons.mpr ⟨rfl, List.forall_mem_singleton.mpr rfl⟩
  refine fun _ => ⟨⟨Or.inl ⟨by decide, by decide⟩, fun bound h => nomatch h⟩, ?_⟩
  intro row hrow _ last hlast
  rw [hall row hrow, hall last (List.mem_of_getLast? hlast)]

theorem scoresCounted_countedScores : ScoresCounted memoryLibrary (some 1) countedScores := by
  refine fun _ => ⟨⟨Or.inl ⟨by decide, by decide⟩, fun bound h => ?_⟩, ?_, fun row hrow hne => ?_⟩
  · obtain rfl := Option.some.inj h
    decide
  · exact ⟨_, List.mem_cons_self .., List.cons_ne_nil _ _, List.cons_ne_nil _ _⟩
  · exact Or.inr ⟨1, rfl, Int.ofNat_le.mpr (List.length_pos_iff.mpr hne)⟩

/-- Rows with margins that share their positive, and a row with scores that is counted. -/
theorem margins_keep_texts_shared :
    ExpandsOwn memoryLibrary Row.margins none sharedMargins
        (prepareDatasetAs memoryLibrary none none sharedMargins) ∧
      ExpandsOwn memoryLibrary Row.scoreMargins (some 1) countedScores
        (prepareDatasetAs memoryLibrary none (some 1) countedScores) :=
  ⟨((margins_keep_texts_iff memoryLibrary_keepsRows none none sharedMargins).1 rfl
      isMultiMargins_sharedMargins).mpr sharePositive_sharedMargins,
    ((margins_keep_texts_iff memoryLibrary_keepsRows none (some 1) countedScores).2 rfl
      isMultiScores_countedScores).mpr scoresCounted_countedScores⟩

/-- Two rows with margins both get the positive of the second, and a row of the universal format
alone raises. -/
theorem margins_of_other_row :
    (formatOf memoryLibrary none apartMargins = .ok .marginMultiMargins ∧
      IsMultiMargins memoryLibrary apartMargins ∧
      ¬ ExpandsOwn memoryLibrary Row.margins none apartMargins
        (prepareDatasetAs memoryLibrary none none apartMargins)) ∧
    formatOf memoryLibrary none universalTexts = .ok .marginMultiScores ∧
      IsMultiScores memoryLibrary universalTexts ∧
      ¬ ExpandsOwn memoryLibrary Row.scoreMargins none universalTexts
        (prepareDatasetAs memoryLibrary none none universalTexts) := by
  have hformat : formatOf memoryLibrary none apartMargins = .ok .marginMultiMargins := rfl
  refine ⟨⟨hformat, isMultiMargins_apartMargins, fun h => ?_⟩, rfl, isMultiScores_universalTexts,
    fun h => ?_⟩
  · obtain ⟨d, g, ht, heq⟩ := prepareDatasetAs_eq memoryLibrary_keepsRows hformat none
    rw [heq] at h
    have hshare := ((prepareMarginMultiMargins_own_iff memoryLibrary_keepsRows
      isMultiMargins_apartMargins ht none).mp h ⟨_, List.mem_cons_self .., List.cons_ne_nil _ _⟩).2
    have hsame : Cell.text "p" = Cell.text "o" :=
      hshare _ (List.mem_cons_self ..) (List.cons_ne_nil _ _) _ rfl
    exact absurd (Cell.text.inj hsame) (by decide)
  · have hraised : prepareDatasetAs memoryLibrary none none universalTexts =
        .error (.recipe "margin_multi_scores: 数据集中无可用的(neg, scores)成对项，无法展开") := rfl
    rw [hraised] at h
    exact List.cons_ne_nil _ _ (h _ (List.mem_cons_self ..))

end Embedding
