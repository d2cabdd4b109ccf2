import TrainFactory.Embedding.Proofs.RecipeProofs

/-!
# Lists of negatives

The formats whose rows have lists of negatives: each row is expanded to records, of which a new
dataset is made.
-/

namespace Embedding

open Lib

/-! ## Embedding datasets -/

def textColumns : List String :=
  ["query", "anchor", "pos", "positive", "neg", "negative", "sentence1", "premise", "text1",
    "text_a", "sentence2", "hypothesis", "text2", "text_b"]

def labelColumns : List String :=
  ["scores", "margins", "label", "margin", "score", "similarity", "pos_scores", "neg_scores"]

/-- A dataset of columns that the detection knows, whose rows have values of the same kinds. -/
structure IsEmbedding {D : Type} (lib : DatasetLibrary D) (dataset : D) : Prop where
  nonempty : lib.rows dataset ≠ []
  named : ∀ c ∈ lib.columnNames dataset, c ∈ textColumns ++ labelColumns
  texts : ∀ row ∈ lib.rows dataset, ∀ c ∈ textColumns, ∀ value, row c = some value →
    value.kind ∈ [Kind.null, Kind.text, Kind.texts]
  labels : ∀ row ∈ lib.rows dataset, ∀ c ∈ labelColumns, ∀ value, row c = some value →
    value.kind ∈ [Kind.null, Kind.number, Kind.numbers]
  kinds : ∀ row ∈ lib.rows dataset, ∀ row' ∈ lib.rows dataset, ∀ c,
    (row c).map Cell.kind = (row' c).map Cell.kind

/-! ## Elements -/

def Cell.IsFilled (value : Cell) : Prop := ∃ n, value.len = .ok n ∧ 0 < n

theorem len_eq_ok {value : Cell} {n : Nat} :
    value.len = .ok n ↔ ∃ l, value.elements = .ok l ∧ l.length = n := by
  rw [Cell.len]
  exact map_eq_ok

theorem elements_ok_iff {value : Cell} :
    (∃ l, value.elements = .ok l) ↔ value.kind ≠ .null ∧ value.kind ≠ .number := by
  cases value <;> simp [Cell.elements, Cell.kind]

theorem elements_ok_of_kind {value value' : Cell} (hkind : value.kind = value'.kind)
    (h : ∃ l, value.elements = .ok l) : ∃ l, value'.elements = .ok l := by
  rw [elements_ok_iff] at h ⊢
  rwa [← hkind]

theorem kind_of_mem_elements_text {value : Cell} {l : List Cell}
    (hkind : value.kind ∈ [Kind.null, Kind.text, Kind.texts]) (h : value.elements = .ok l) :
    ∀ x ∈ l, x.kind = .text := by
  cases value with
  | text s =>
    obtain rfl := Except.ok.inj h
    intro x hx
    obtain ⟨c, -, rfl⟩ := List.mem_map.mp hx
    rfl
  | texts l' =>
    obtain rfl := Except.ok.inj h
    intro x hx
    obtain ⟨s, -, rfl⟩ := List.mem_map.mp hx
    rfl
  | numbers l' => simp [Cell.kind] at hkind
  | null => cases h
  | number q => cases h

theorem kind_of_mem_elements_number {value : Cell} {l : List Cell}
    (hkind : value.kind ∈ [Kind.null, Kind.number, Kind.numbers]) (h : value.elements = .ok l) :
    ∀ x ∈ l, x.kind = .number := by
  cases value with
  | numbers l' =>
    obtain rfl := Except.ok.inj h
    intro x hx
    obtain ⟨q, -, rfl⟩ := List.mem_map.mp hx
    rfl
  | text s => simp [Cell.kind] at hkind
  | texts l' => simp [Cell.kind] at hkind
  | null => cases h
  | number q => cases h

section Rows

variable {D : Type} {lib : DatasetLibrary D} {dataset : D} {row : Row} {c : String}

theorem getList_of_none (h : row c = none) : row.getList c = .texts [] := by
  rw [Row.getList, h]
  rfl

theorem getList_of_some {value : Cell} (h : row c = some value) : row.getList c = value := by
  rw [Row.getList, h]
  rfl

theorem IsEmbedding.kind_getList (h : IsEmbedding lib dataset) (hrow : row ∈ lib.rows dataset)
    {row' : Row} (hrow' : row' ∈ lib.rows dataset) (c : String) :
    (row.getList c).kind = (row'.getList c).kind := by
  have hkinds := h.kinds row hrow row' hrow' c
  cases hc : row c with
  | none =>
    have hc' : row' c = none := by
      rw [hc] at hkinds
      exact Option.map_eq_none_iff.mp hkinds.symm
    rw [getList_of_none hc, getList_of_none hc']
  | some value =>
    rw [hc] at hkinds
    obtain ⟨value', hc', hkind⟩ := Option.map_eq_some_iff.mp hkinds.symm
    rw [getList_of_some hc, getList_of_some hc', hkind]

theorem IsEmbedding.textElements (h : IsEmbedding lib dataset) (hrow : row ∈ lib.rows dataset)
    (hc : c ∈ textColumns) {l : List Cell} (hl : (row.getList c).elements = .ok l) :
    ∀ x ∈ l, x.kind = .text := by
  refine kind_of_mem_elements_text ?_ hl
  cases hvalue : row c with
  | none =>
    rw [getList_of_none hvalue]
    decide
  | some value =>
    rw [getList_of_some hvalue]
    exact h.texts row hrow c hc value hvalue

theorem IsEmbedding.labelElements (h : IsEmbedding lib dataset) (hrow : row ∈ lib.rows dataset)
    (hc : c ∈ labelColumns) {l : List Cell} (hl : (row.getList c).elements = .ok l) :
    ∀ x ∈ l, x.kind = .number := by
  cases hvalue : row c with
  | none =>
    rw [getList_of_none hvalue] at hl
    obtain rfl := Except.ok.inj hl
    exact fun x hx => nomatch hx
  | some value =>
    rw [getList_of_some hvalue] at hl
    exact kind_of_mem_elements_number (h.labels row hrow c hc value hvalue) hl

theorem IsEmbedding.elements_ok (h : IsEmbedding lib dataset) (hrow : row ∈ lib.rows dataset)
    (hfilled : (row.getList c).IsFilled) {row' : Row} (hrow' : row' ∈ lib.rows dataset) :
    ∃ l, (row'.getList c).elements = .ok l := by
  obtain ⟨n, hn, -⟩ := hfilled
  obtain ⟨l, hl, -⟩ := len_eq_ok.mp hn
  exact elements_ok_of_kind (h.kind_getList hrow hrow' c) ⟨l, hl⟩

theorem IsEmbedding.kind_firstPositive (h : IsEmbedding lib dataset)
    (hrow : row ∈ lib.rows dataset) : (firstPositive row).kind = .text := by
  have hkind : (row.getList "pos").kind ∈ [Kind.null, Kind.text, Kind.texts] := by
    cases hvalue : row "pos" with
    | none =>
      rw [getList_of_none hvalue]
      decide
    | some value =>
      rw [getList_of_some hvalue]
      exact h.texts row hrow "pos" (by decide) value hvalue
  unfold firstPositive
  cases hpos : row.getList "pos" with
  | texts l => cases l <;> rfl
  | text s =>
    dsimp only
    split <;> rfl
  | null => rfl
  | number q => simp [hpos, Cell.kind] at hkind
  | numbers l => simp [hpos, Cell.kind] at hkind

end Rows

/-! ## The query under its name -/

section Query

variable {D : Type} {lib : DatasetLibrary D} {dataset : D}

theorem IsEmbedding.rename (h : IsEmbedding lib dataset) {dataset' : D}
    (hcolumns : lib.columnNames dataset' = (lib.columnNames dataset).map fun column =>
      if column = "anchor" then "query" else column)
    (hrows : lib.rows dataset' = (lib.rows dataset).map fun row =>
      Row.rename row "anchor" "query") : IsEmbedding lib dataset' where
  nonempty hnil := by
    rw [hrows] at hnil
    exact h.nonempty (List.map_eq_nil_iff.mp hnil)
  named c hc := by
    rw [hcolumns, mem_rename] at hc
    rcases hc with ⟨hc, -⟩ | ⟨rfl, -⟩
    · exact h.named c hc
    · decide
  texts row' hrow' c hc value hvalue := by
    rw [hrows] at hrow'
    obtain ⟨row, hrow, rfl⟩ := List.mem_map.mp hrow'
    unfold Row.rename at hvalue
    split at hvalue
    · exact h.texts row hrow "anchor" (by decide) value hvalue
    · split at hvalue
      · cases hvalue
      · exact h.texts row hrow c hc value hvalue
  labels row' hrow' c hc value hvalue := by
    rw [hrows] at hrow'
    obtain ⟨row, hrow, rfl⟩ := List.mem_map.mp hrow'
    unfold Row.rename at hvalue
    split at hvalue
    · rename_i hquery
      rw [hquery] at hc
      exact absurd hc (by decide)
    · split at hvalue
      · cases hvalue
      · exact h.labels row hrow c hc value hvalue
  kinds row₁ hrow₁ row₂ hrow₂ c := by
    rw [hrows] at hrow₁ hrow₂
    obtain ⟨row, hrow, rfl⟩ := List.mem_map.mp hrow₁
    obtain ⟨row', hrow', rfl⟩ := List.mem_map.mp hrow₂
    unfold Row.rename
    split
    · exact h.kinds row hrow row' hrow' "anchor"
    · split
      · rfl
      · exact h.kinds row hrow row' hrow' c

/-- The rows of a dataset whose query is under the name that the branches read. -/
structure HasQuery (lib : DatasetLibrary D) (dataset dataset' : D) (g : Row → Row) : Prop where
  query : "query" ∈ lib.columnNames dataset'
  rows : lib.rows dataset' = (lib.rows dataset).map g
  same : ∀ row c, c ≠ "query" → c ≠ "anchor" → g row c = row c

theorem renameAnchor_ok (h : HasOneOf (lib.columnNames dataset) "query" "anchor") :
    ∃ dataset' g, renameColumns lib dataset [("anchor", "query")] = .ok dataset' ∧
      HasQuery lib dataset dataset' g ∧
      (IsEmbedding lib dataset → IsEmbedding lib dataset') := by
  rcases h with ⟨hquery, hanchor⟩ | ⟨hquery, hanchor⟩
  · refine ⟨dataset, id, ?_, ⟨hquery, (List.map_id _).symm, fun _ _ _ _ => rfl⟩, id⟩
    rw [renameColumns, if_neg fun hand => hanchor hand.1]
    rfl
  · obtain ⟨d, hd, hcolumns, hrows⟩ := lib.renameColumn_ok dataset "anchor" "query" hanchor hquery
    refine ⟨d, fun row => Row.rename row "anchor" "query", ?_, ⟨?_, hrows, fun row c hq ha => ?_⟩,
      fun hdataset => ?_⟩
    · rw [renameColumns, if_pos ⟨hanchor, by decide⟩, hd]
      rfl
    · rw [hcolumns]
      exact mem_rename.mpr (Or.inr ⟨rfl, hanchor⟩)
    · rw [Row.rename, if_neg hq, if_neg ha]
    · exact hdataset.rename hcolumns hrows

theorem hasOneOf_of_renameAnchor {dataset' : D}
    (h : renameColumns lib dataset [("anchor", "query")] = .ok dataset')
    (hquery : "query" ∈ lib.columnNames dataset') :
    HasOneOf (lib.columnNames dataset) "query" "anchor" := by
  have hnodup : (mappingNames [("anchor", "query")]).Nodup := by decide
  have hfree := notMem_of_renameColumns hnodup h ("anchor", "query") (List.mem_singleton_self _)
  have hrenamed := ((renameColumns_spec hnodup h).columns "query").mp hquery
  rw [renamed_new_iff hnodup (List.mem_singleton_self _)] at hrenamed
  exact hasOneOf_iff.mpr ⟨hfree, hrenamed⟩

theorem query_mem_of_item {row : Row} (hrow : row ∈ lib.rows dataset) {query : Cell}
    (h : row.item "query" = .ok query) : "query" ∈ lib.columnNames dataset := by
  refine (lib.isSome_row dataset row hrow "query").mp ?_
  unfold Row.item at h
  cases hrow : row "query" with
  | none =>
    rw [hrow] at h
    cases h
  | some value => rfl

theorem item_query_ok {row : Row} (hrow : row ∈ lib.rows dataset)
    (h : "query" ∈ lib.columnNames dataset) :
    ∃ query, row.item "query" = .ok query ∧ row "query" = some query := by
  obtain ⟨query, hquery⟩ := Option.isSome_iff_exists.mp
    ((lib.isSome_row dataset row hrow "query").mpr h)
  refine ⟨query, ?_, hquery⟩
  rw [Row.item, hquery]

end Query

/-! ## Triplets of expanded rows -/

def IsTriplet (k : Kind) (record : Record) : Prop :=
  ∃ query pos neg label, record = tripletRecord query pos neg label ∧ query.kind = k ∧
    pos.kind = .text ∧ neg.kind = .text ∧ label.kind = .number

theorem uniform_of_isTriplet {k : Kind} {records : List Record}
    (h : ∀ record ∈ records, IsTriplet k record) : Uniform records := by
  refine ⟨fun c => if c = "query" then k else if c = "label" then .number else .text, ?_⟩
  intro record hrecord e he
  obtain ⟨query, pos, neg, label, rfl, hquery, hpos, hneg, hlabel⟩ := h record hrecord
  simp only [tripletRecord, List.mem_cons, List.not_mem_nil, or_false] at he
  rcases he with rfl | rfl | rfl | rfl
  · exact Or.inr hquery
  · exact Or.inr hpos
  · exact Or.inr hneg
  · exact Or.inr hlabel

theorem keys_of_isTriplet {k : Kind} {record : Record} (h : IsTriplet k record) :
    record.map Prod.fst = labelledTripletColumns := by
  obtain ⟨query, pos, neg, label, rfl, -⟩ := h
  rfl

section Triplets

variable {D : Type} {lib : DatasetLibrary D}

theorem fromList_triplets {k : Kind} {records : List Record} (hne : records ≠ [])
    (h : ∀ record ∈ records, IsTriplet k record) :
    ∃ dataset', (lib.fromList records >>= fun d =>
        ensureColumnsOrder lib d labelledTripletColumns) = .ok dataset' ∧
      lib.columnNames dataset' = labelledTripletColumns := by
  cases records with
  | nil => exact absurd rfl hne
  | cons record records =>
    have hkeys := keys_of_isTriplet (h record (List.mem_cons_self ..))
    obtain ⟨d, hd, hcolumns⟩ := lib.fromList_ok record records
      (hkeys ▸ (by decide : labelledTripletColumns.Nodup)) (uniform_of_isTriplet h)
    obtain ⟨d', hd', hcolumns'⟩ := (@ensureColumnsOrder_iff D lib d labelledTripletColumns
      (by decide)).mpr fun c hc => by rwa [hcolumns, hkeys]
    exact ⟨d', bind_eq_ok.mpr ⟨d, hd, hd'⟩, hcolumns'⟩

theorem expand_triplets {k : Kind} {rows : List Row} {f : Row → Except PrepareError (List Record)}
    (hall : ∀ row ∈ rows, ∃ records, f row = .ok records ∧ ∀ record ∈ records, IsTriplet k record)
    (hsome : ∃ row ∈ rows, ∀ records, f row = .ok records → records ≠ []) :
    ∃ dataset', (rows.mapM f >>= fun expanded => lib.fromList expanded.flatten >>= fun d =>
        ensureColumnsOrder lib d labelledTripletColumns) = .ok dataset' ∧
      lib.columnNames dataset' = labelledTripletColumns := by
  obtain ⟨expanded, hexpanded⟩ := exists_mapM_eq_ok fun row hrow =>
    (hall row hrow).imp fun records h => h.1
  have htriplet : ∀ record ∈ expanded.flatten, IsTriplet k record := by
    intro record hrecord
    obtain ⟨records, hrecords, hrecord⟩ := List.mem_flatten.mp hrecord
    obtain ⟨row, hrow, hf⟩ := exists_of_mem_mapM hexpanded hrecords
    obtain ⟨records', hf', h⟩ := hall row hrow
    obtain rfl := Except.ok.inj (hf'.symm.trans hf)
    exact h record hrecord
  have hne : expanded.flatten ≠ [] := by
    obtain ⟨row, hrow, hnonempty⟩ := hsome
    obtain ⟨records, hrecords, hf⟩ := exists_of_mapM_eq_ok hexpanded hrow
    intro hnil
    exact hnonempty records hf (List.flatten_eq_nil_iff.mp hnil records hrecords)
  obtain ⟨d, hd, hcolumns⟩ := @fromList_triplets D lib k expanded.flatten hne htriplet
  exact ⟨d, bind_eq_ok.mpr ⟨expanded, hexpanded, hd⟩, hcolumns⟩

end Triplets

theorem allowedK_pos {maxNegatives : Option Int} {effs : List Nat} {allowed : Nat}
    (hpos : ∀ eff ∈ effs, 0 < eff) (h : allowedK maxNegatives effs = some allowed) :
    0 < allowed := by
  obtain ⟨least, hleast, rfl⟩ := Option.map_eq_some_iff.mp h
  have hmem := hpos least (List.min?_mem hleast)
  cases maxNegatives with
  | none => exact hmem
  | some bound =>
    dsimp only
    split
    · omega
    · exact hmem

theorem allowedK_isSome_iff {maxNegatives : Option Int} {effs : List Nat} :
    (∃ allowed, allowedK maxNegatives effs = some allowed) ↔ effs ≠ [] := by
  unfold allowedK
  cases h : effs.min? with
  | none => simp [List.min?_eq_none_iff.mp h]
  | some least =>
    have hne : effs ≠ [] := fun hnil => by
      rw [hnil] at h
      cases h
    simp [hne]

theorem allowedK_ok {rows : List Row} {f : Row → Except PrepareError Nat}
    (hall : ∀ row ∈ rows, ∃ n, f row = .ok n) {row : Row} (hrow : row ∈ rows)
    (hsome : ∃ n, f row = .ok n ∧ 0 < n) (maxNegatives : Option Int) :
    ∃ effs allowed, rows.mapM f = .ok effs ∧
      allowedK maxNegatives (effs.filter (0 < ·)) = some allowed ∧ 0 < allowed := by
  obtain ⟨effs, heffs⟩ := exists_mapM_eq_ok hall
  obtain ⟨n, hn, hpos⟩ := hsome
  have hne : effs.filter (0 < ·) ≠ [] := by
    obtain ⟨eff, heff, heq⟩ := exists_of_mapM_eq_ok heffs hrow
    obtain rfl := Except.ok.inj (heq.symm.trans hn)
    exact List.ne_nil_of_mem (List.mem_filter.mpr ⟨heff, decide_eq_true hpos⟩)
  obtain ⟨allowed, hallowed⟩ := allowedK_isSome_iff.mpr hne
  exact ⟨effs, allowed, heffs, hallowed, allowedK_pos (fun eff heff =>
    of_decide_eq_true (List.mem_filter.mp heff).2) hallowed⟩

theorem exists_of_allowedK {rows : List Row} {f : Row → Except PrepareError Nat} {effs : List Nat}
    (heffs : rows.mapM f = .ok effs) {maxNegatives : Option Int} {allowed : Nat}
    (h : allowedK maxNegatives (effs.filter (0 < ·)) = some allowed) :
    ∃ row ∈ rows, ∃ n, f row = .ok n ∧ 0 < n := by
  obtain ⟨eff, heff⟩ := List.exists_mem_of_ne_nil _ (allowedK_isSome_iff.mp ⟨allowed, h⟩)
  obtain ⟨heff, hpos⟩ := List.mem_filter.mp heff
  obtain ⟨row, hrow, heq⟩ := exists_of_mem_mapM heffs heff
  exact ⟨row, hrow, eff, heq, of_decide_eq_true hpos⟩

/-! ## Margins -/

theorem effMargins_eq_ok {row : Row} {n : Nat} : effMargins row = .ok n ↔
    ∃ negs margins, (row.getList "neg").elements = .ok negs ∧
      (row.getList "margins").elements = .ok margins ∧ min negs.length margins.length = n := by
  unfold effMargins
  constructor
  · intro h
    obtain ⟨a, ha, h⟩ := bind_eq_ok.mp h
    obtain ⟨b, hb, h⟩ := bind_eq_ok.mp h
    obtain ⟨negs, hnegs, rfl⟩ := len_eq_ok.mp ha
    obtain ⟨margins, hmargins, rfl⟩ := len_eq_ok.mp hb
    exact ⟨negs, margins, hnegs, hmargins, pure_eq_ok.mp h⟩
  · rintro ⟨negs, margins, hnegs, hmargins, rfl⟩
    exact bind_eq_ok.mpr ⟨_, len_eq_ok.mpr ⟨negs, hnegs, rfl⟩,
      bind_eq_ok.mpr ⟨_, len_eq_ok.mpr ⟨margins, hmargins, rfl⟩, rfl⟩⟩

theorem expandMargins_eq_ok {pos : Cell} {allowed : Nat} {row : Row} {records : List Record} :
    expandMargins pos allowed row = .ok records ↔
      ∃ query negs margins, row.item "query" = .ok query ∧
        (row.getList "neg").elements = .ok negs ∧ (row.getList "margins").elements = .ok margins ∧
        ((negs.zip margins).take allowed).map (fun e => tripletRecord query pos e.1 e.2) =
          records := by
  unfold expandMargins
  constructor
  · intro h
    obtain ⟨query, hquery, h⟩ := bind_eq_ok.mp h
    obtain ⟨negs, hnegs, h⟩ := bind_eq_ok.mp h
    obtain ⟨margins, hmargins, h⟩ := bind_eq_ok.mp h
    exact ⟨query, negs, margins, hquery, hnegs, hmargins, pure_eq_ok.mp h⟩
  · rintro ⟨query, negs, margins, hquery, hnegs, hmargins, rfl⟩
    exact bind_eq_ok.mpr ⟨query, hquery, bind_eq_ok.mpr ⟨negs, hnegs,
      bind_eq_ok.mpr ⟨margins, hmargins, rfl⟩⟩⟩

section Margins

variable {D : Type} {lib : DatasetLibrary D} {dataset : D}

def HasMargin (row : Row) : Prop :=
  (row.getList "neg").IsFilled ∧ (row.getList "margins").IsFilled

theorem effMargins_pos_iff {row : Row} :
    (∃ n, effMargins row = .ok n ∧ 0 < n) ↔ HasMargin row := by
  constructor
  · rintro ⟨n, hn, hpos⟩
    obtain ⟨negs, margins, hnegs, hmargins, rfl⟩ := effMargins_eq_ok.mp hn
    exact ⟨⟨_, len_eq_ok.mpr ⟨negs, hnegs, rfl⟩, by omega⟩,
      ⟨_, len_eq_ok.mpr ⟨margins, hmargins, rfl⟩, by omega⟩⟩
  · rintro ⟨⟨a, ha, hapos⟩, ⟨b, hb, hbpos⟩⟩
    obtain ⟨negs, hnegs, rfl⟩ := len_eq_ok.mp ha
    obtain ⟨margins, hmargins, rfl⟩ := len_eq_ok.mp hb
    exact ⟨_, effMargins_eq_ok.mpr ⟨negs, margins, hnegs, hmargins, rfl⟩, by omega⟩

theorem HasQuery.getList {dataset' : D} {g : Row → Row} (h : HasQuery lib dataset dataset' g)
    (row : Row) {c : String} (hq : c ≠ "query") (ha : c ≠ "anchor") :
    (g row).getList c = row.getList c := by
  rw [Row.getList, Row.getList, h.same row c hq ha]

theorem HasQuery.hasMargin_iff {dataset' : D} {g : Row → Row}
    (h : HasQuery lib dataset dataset' g) (row : Row) : HasMargin (g row) ↔ HasMargin row := by
  rw [HasMargin, h.getList row (by decide) (by decide), h.getList row (by decide) (by decide),
    HasMargin]

theorem IsEmbedding.queryKind (hd : IsEmbedding lib dataset)
    (hquery : "query" ∈ lib.columnNames dataset) :
    ∃ k : Kind, ∀ row ∈ lib.rows dataset, ∃ query, row.item "query" = .ok query ∧
      query.kind = k := by
  obtain ⟨first, hfirst⟩ := List.exists_mem_of_ne_nil _ hd.nonempty
  obtain ⟨query, -, hfirstQuery⟩ := item_query_ok hfirst hquery
  refine ⟨query.kind, fun row hrow => ?_⟩
  obtain ⟨query', hitem, hrowQuery⟩ := item_query_ok hrow hquery
  have hkinds := hd.kinds row hrow first hfirst "query"
  rw [hfirstQuery, hrowQuery] at hkinds
  exact ⟨query', hitem, Option.some.inj hkinds⟩

theorem expandMargins_ok (hd : IsEmbedding lib dataset)
    (hquery : "query" ∈ lib.columnNames dataset) {row : Row} (hrow : row ∈ lib.rows dataset)
    (hmargin : HasMargin row) {pos : Cell} (hpos : pos.kind = .text) {allowed : Nat}
    (hallowed : 0 < allowed) :
    ∃ dataset', ((lib.rows dataset).mapM (expandMargins pos allowed) >>= fun expanded =>
        lib.fromList expanded.flatten >>= fun d =>
          ensureColumnsOrder lib d labelledTripletColumns) = .ok dataset' ∧
      lib.columnNames dataset' = labelledTripletColumns := by
  obtain ⟨k, hk⟩ := hd.queryKind hquery
  refine @expand_triplets D lib k _ _ (fun row' hrow' => ?_)
    ⟨row, hrow, fun records hrecords hnil => ?_⟩
  · obtain ⟨query, hitem, hkind⟩ := hk row' hrow'
    obtain ⟨negs, hnegs⟩ := hd.elements_ok hrow hmargin.1 hrow'
    obtain ⟨margins, hmargins⟩ := hd.elements_ok hrow hmargin.2 hrow'
    refine ⟨_, expandMargins_eq_ok.mpr ⟨query, negs, margins, hitem, hnegs, hmargins, rfl⟩, ?_⟩
    intro record hrecord
    obtain ⟨⟨neg, margin⟩, he, rfl⟩ := List.mem_map.mp hrecord
    obtain ⟨hneg, hmargin⟩ := List.of_mem_zip (List.mem_of_mem_take he)
    exact ⟨query, pos, neg, margin, rfl, hkind, hpos,
      hd.textElements hrow' (by decide) hnegs neg hneg,
      hd.labelElements hrow' (by decide) hmargins margin hmargin⟩
  · obtain ⟨query, negs, margins, -, hnegs, hmargins, rfl⟩ := expandMargins_eq_ok.mp hrecords
    obtain ⟨n, hn, hpos⟩ := effMargins_pos_iff.mpr hmargin
    have hlen := effMargins_eq_ok.mpr ⟨negs, margins, hnegs, hmargins, rfl⟩
    obtain rfl := Except.ok.inj (hlen.symm.trans hn)
    have hlength := congrArg List.length hnil
    simp only [List.length_map, List.length_take, List.length_zip, List.length_nil] at hlength
    omega

theorem effMargins_ok (hd : IsEmbedding lib dataset) {row : Row} (hrow : row ∈ lib.rows dataset)
    (hmargin : HasMargin row) (maxNegatives : Option Int) :
    ∃ effs allowed, (lib.rows dataset).mapM effMargins = .ok effs ∧
      allowedK maxNegatives (effs.filter (0 < ·)) = some allowed ∧ 0 < allowed := by
  refine allowedK_ok (fun row' hrow' => ?_) hrow (effMargins_pos_iff.mpr hmargin) maxNegatives
  obtain ⟨negs, hnegs⟩ := hd.elements_ok hrow hmargin.1 hrow'
  obtain ⟨margins, hmargins⟩ := hd.elements_ok hrow hmargin.2 hrow'
  exact ⟨_, effMargins_eq_ok.mpr ⟨negs, margins, hnegs, hmargins, rfl⟩⟩

theorem prepareMarginMultiMargins_iff (hd : IsEmbedding lib dataset) (maxNegatives : Option Int) :
    (∃ dataset', prepareMarginMultiMargins lib maxNegatives dataset = .ok dataset' ∧
      lib.columnNames dataset' = labelledTripletColumns) ↔
      HasOneOf (lib.columnNames dataset) "query" "anchor" ∧
        ∃ row ∈ lib.rows dataset, HasMargin row := by
  constructor
  · rintro ⟨dataset', h, -⟩
    obtain ⟨d, hrename, h⟩ := bind_eq_ok.mp h
    obtain ⟨effs, heffs, h⟩ := bind_eq_ok.mp h
    split at h
    · rename_i allowed last hallowed hlast
      obtain ⟨expanded, hexpanded, -⟩ := bind_eq_ok.mp h
      have hlast' : last ∈ lib.rows d := List.mem_of_getLast? hlast
      obtain ⟨records, -, hrecords⟩ := exists_of_mapM_eq_ok hexpanded hlast'
      obtain ⟨query, -, -, hquery, -⟩ := expandMargins_eq_ok.mp hrecords
      have hone := hasOneOf_of_renameAnchor hrename (query_mem_of_item hlast' hquery)
      refine ⟨hone, ?_⟩
      obtain ⟨d', g, hd', hquery', -⟩ := renameAnchor_ok hone
      obtain rfl := Except.ok.inj (hd'.symm.trans hrename)
      obtain ⟨row', hrow', hsome⟩ := exists_of_allowedK heffs hallowed
      rw [hquery'.rows] at hrow'
      obtain ⟨row, hrow, rfl⟩ := List.mem_map.mp hrow'
      exact ⟨row, hrow, (hquery'.hasMargin_iff row).mp (effMargins_pos_iff.mp hsome)⟩
    · cases h
  · rintro ⟨hone, row, hrow, hmargin⟩
    obtain ⟨d, g, hrename, hquery, hembedding⟩ := renameAnchor_ok hone
    have hd' := hembedding hd
    have hrow' : g row ∈ lib.rows d := hquery.rows ▸ List.mem_map_of_mem hrow
    have hmargin' := (hquery.hasMargin_iff row).mpr hmargin
    obtain ⟨effs, allowed, heffs, hallowed, hpos⟩ := effMargins_ok hd' hrow' hmargin' maxNegatives
    obtain ⟨last, hlast⟩ : ∃ last, (lib.rows d).getLast? = some last :=
      ⟨_, List.getLast?_eq_some_getLast hd'.nonempty⟩
    have hlast' : last ∈ lib.rows d := List.mem_of_getLast? hlast
    obtain ⟨dataset', hprepared, hcolumns⟩ := expandMargins_ok hd' hquery.query hrow' hmargin'
      (hd'.kind_firstPositive hlast') hpos
    refine ⟨dataset', bind_eq_ok.mpr ⟨d, hrename, bind_eq_ok.mpr ⟨effs, heffs, ?_⟩⟩, hcolumns⟩
    rw [hallowed, hlast]
    exact hprepared

end Margins

/-! ## Scores -/

def HasScores (row : Row) : Prop :=
  (row.getList "neg").IsFilled ∧ ∃ l, row.getList "scores" = .numbers l ∧ 2 ≤ l.length

theorem HasQuery.hasScores_iff {D : Type} {lib : DatasetLibrary D} {dataset dataset' : D}
    {g : Row → Row} (h : HasQuery lib dataset dataset' g) (row : Row) :
    HasScores (g row) ↔ HasScores row := by
  rw [HasScores, h.getList row (by decide) (by decide), h.getList row (by decide) (by decide),
    HasScores]

section Scores

variable {D : Type} {lib : DatasetLibrary D} {dataset : D}

theorem IsEmbedding.scores_cases (hd : IsEmbedding lib dataset) {row : Row}
    (hrow : row ∈ lib.rows dataset) {c : String} (hc : c ∈ labelColumns) :
    (∃ l, row.getList c = .numbers l) ∨ row.getList c = .texts [] ∨
      (row.getList c).isList = false := by
  cases hvalue : row c with
  | none => exact Or.inr (Or.inl (getList_of_none hvalue))
  | some value =>
    rw [getList_of_some hvalue]
    have hkind := hd.labels row hrow c hc value hvalue
    cases value with
    | numbers l => exact Or.inl ⟨l, rfl⟩
    | texts l => simp [Cell.kind] at hkind
    | null => exact Or.inr (Or.inr rfl)
    | text s => exact Or.inr (Or.inr rfl)
    | number q => exact Or.inr (Or.inr rfl)

theorem IsEmbedding.scores_iff (hd : IsEmbedding lib dataset) {row : Row}
    (hrow : row ∈ lib.rows dataset) :
    ((row.getList "scores").isList = true ∧ 2 ≤ (row.getList "scores").listLength) ↔
      ∃ l, row.getList "scores" = .numbers l ∧ 2 ≤ l.length := by
  rcases hd.scores_cases hrow (by decide : "scores" ∈ labelColumns) with ⟨l, hl⟩ | hnil | hno
  · rw [hl]
    constructor
    · rintro ⟨-, hlen⟩
      exact ⟨l, rfl, hlen⟩
    · rintro ⟨l', hl', hlen⟩
      obtain rfl := Cell.numbers.inj hl'
      exact ⟨rfl, hlen⟩
  · rw [hnil]
    refine iff_of_false (fun h => absurd h.2 (by decide)) ?_
    rintro ⟨l, hl, -⟩
    cases hl
  · refine iff_of_false (fun h => ?_) ?_
    · rw [hno] at h
      exact absurd h.1 (by decide)
    · rintro ⟨l, hl, -⟩
      rw [hl] at hno
      cases hno

theorem effScores_pos_iff (hd : IsEmbedding lib dataset) {row : Row}
    (hrow : row ∈ lib.rows dataset) : (∃ n, effScores row = .ok n ∧ 0 < n) ↔ HasScores row := by
  have hscores := hd.scores_iff hrow
  unfold effScores HasScores
  dsimp only
  constructor
  · rintro ⟨n, hn, hpos⟩
    split at hn
    · rename_i hcond
      obtain ⟨a, ha, rfl⟩ := map_eq_ok.mp hn
      exact ⟨⟨a, ha, by omega⟩, hscores.mp hcond⟩
    · obtain rfl := Except.ok.inj hn
      exact absurd hpos (Nat.lt_irrefl 0)
  · rintro ⟨⟨a, ha, hpos⟩, hlist⟩
    have hcond := hscores.mpr hlist
    rw [if_pos hcond]
    exact ⟨_, map_eq_ok.mpr ⟨a, ha, rfl⟩, by omega⟩

theorem effScores_ok (hd : IsEmbedding lib dataset) {row : Row} (hrow : row ∈ lib.rows dataset)
    (hscores : HasScores row) (maxNegatives : Option Int) :
    ∃ effs allowed, (lib.rows dataset).mapM effScores = .ok effs ∧
      allowedK maxNegatives (effs.filter (0 < ·)) = some allowed ∧ 0 < allowed := by
  refine allowedK_ok (fun row' hrow' => ?_) hrow ((effScores_pos_iff hd hrow).mpr hscores)
    maxNegatives
  obtain ⟨negs, hnegs⟩ := hd.elements_ok hrow hscores.1 hrow'
  unfold effScores
  dsimp only
  split
  · exact ⟨_, map_eq_ok.mpr ⟨_, len_eq_ok.mpr ⟨negs, hnegs, rfl⟩, rfl⟩⟩
  · exact ⟨0, rfl⟩

/-- The scores of a row are numbers, or there are none. -/
theorem IsEmbedding.rowScores_cases (hd : IsEmbedding lib dataset) {row : Row}
    (hrow : row ∈ lib.rows dataset) :
    (∃ posScore negScores, rowScores row = .numbers (posScore :: negScores)) ∨
      (∀ posScore negScores, rowScores row ≠ .numbers (posScore :: negScores)) ∧
        ∀ s l, rowScores row ≠ .texts (s :: l) := by
  have hnone (value : Cell) (hvalue : value = .numbers [] ∨ value = .texts [] ∨
      value.isList = false) : (∀ posScore negScores, value ≠ .numbers (posScore :: negScores)) ∧
        ∀ s l, value ≠ .texts (s :: l) := by
    rcases hvalue with rfl | rfl | hvalue
    · constructor
      · rintro posScore negScores h
        cases h
      · rintro s l h
        cases h
    · constructor
      · rintro posScore negScores h
        cases h
      · rintro s l h
        cases h
    · constructor
      · rintro posScore negScores rfl
        cases hvalue
      · rintro s l rfl
        cases hvalue
  have hscores := hd.scores_cases hrow (by decide : "scores" ∈ labelColumns)
  unfold rowScores
  dsimp only
  split
  · rename_i hcond
    split
    · exact Or.inl ⟨_, _, rfl⟩
    · refine Or.inr (hnone _ ?_)
      rcases hscores with ⟨l, hl⟩ | hnil | hno
      · rw [hl] at hcond ⊢
        cases l with
        | nil => exact Or.inl rfl
        | cons q l => simp [Cell.isList, Cell.truthy] at hcond
      · exact Or.inr (Or.inl hnil)
      · exact Or.inr (Or.inr hno)
  · rename_i hcond
    rcases hscores with ⟨l, hl⟩ | hnil | hno
    · cases l with
      | nil =>
        rw [hl] at hcond
        exact absurd rfl hcond
      | cons q l => exact Or.inl ⟨q, l, hl⟩
    · rw [hnil] at hcond
      exact absurd rfl hcond
    · rw [hno] at hcond
      exact absurd rfl hcond

theorem rowScores_eq {row : Row} {l : List Rat} (h : row.getList "scores" = .numbers l)
    (hlen : 2 ≤ l.length) : rowScores row = .numbers l := by
  cases l with
  | nil => exact absurd hlen (by decide)
  | cons q l =>
    unfold rowScores
    dsimp only
    rw [h, if_neg (by simp [Cell.isList, Cell.truthy])]

theorem expandScores_of_numbers {allowed : Nat} {row : Row} {query : Cell} {posScore : Rat}
    {negScores : List Rat} {negs : List Cell} (hquery : row.item "query" = .ok query)
    (hscores : rowScores row = .numbers (posScore :: negScores))
    (hnegs : (row.getList "neg").elements = .ok negs) :
    expandScores allowed row = .ok (((negs.zip negScores).take allowed).map fun e =>
      tripletRecord query (firstPositive row) e.1 (.number (posScore - e.2))) := by
  unfold expandScores
  rw [hquery, hscores]
  refine bind_eq_ok.mpr ⟨query, rfl, ?_⟩
  exact bind_eq_ok.mpr ⟨negs, hnegs, rfl⟩

theorem expandScores_of_none {allowed : Nat} {row : Row} {query : Cell}
    (hquery : row.item "query" = .ok query)
    (hnumbers : ∀ posScore negScores, rowScores row ≠ .numbers (posScore :: negScores))
    (htexts : ∀ s l, rowScores row ≠ .texts (s :: l)) : expandScores allowed row = .ok [] := by
  unfold expandScores
  rw [hquery]
  refine bind_eq_ok.mpr ⟨query, rfl, ?_⟩
  split
  · rename_i posScore negScores hscores
    exact absurd hscores (hnumbers posScore negScores)
  · rename_i s l hscores
    exact absurd hscores (htexts s l)
  · rfl

theorem expandScores_ok (hd : IsEmbedding lib dataset)
    (hquery : "query" ∈ lib.columnNames dataset) {row : Row} (hrow : row ∈ lib.rows dataset)
    (hscores : HasScores row) {allowed : Nat} (hallowed : 0 < allowed) :
    ∃ dataset', ((lib.rows dataset).mapM (expandScores allowed) >>= fun expanded =>
        lib.fromList expanded.flatten >>= fun d =>
          ensureColumnsOrder lib d labelledTripletColumns) = .ok dataset' ∧
      lib.columnNames dataset' = labelledTripletColumns := by
  obtain ⟨k, hk⟩ := hd.queryKind hquery
  refine @expand_triplets D lib k _ _ (fun row' hrow' => ?_)
    ⟨row, hrow, fun records hrecords hnil => ?_⟩
  · obtain ⟨query, hitem, hkind⟩ := hk row' hrow'
    obtain ⟨negs, hnegs⟩ := hd.elements_ok hrow hscores.1 hrow'
    rcases hd.rowScores_cases hrow' with ⟨posScore, negScores, hnumbers⟩ | ⟨hnumbers, htexts⟩
    · refine ⟨_, expandScores_of_numbers hitem hnumbers hnegs, ?_⟩
      intro record hrecord
      obtain ⟨⟨neg, negScore⟩, he, rfl⟩ := List.mem_map.mp hrecord
      obtain ⟨hneg, -⟩ := List.of_mem_zip (List.mem_of_mem_take he)
      exact ⟨query, _, neg, _, rfl, hkind, hd.kind_firstPositive hrow',
        hd.textElements hrow' (by decide) hnegs neg hneg, rfl⟩
    · exact ⟨[], expandScores_of_none hitem hnumbers htexts, fun _ h => nomatch h⟩
  · obtain ⟨⟨n, hn, hpos⟩, l, hl, hlen⟩ := hscores
    obtain ⟨negs, hnegs, rfl⟩ := len_eq_ok.mp hn
    obtain ⟨query, hitem, -⟩ := hk row hrow
    cases l with
    | nil => exact absurd hlen (by decide)
    | cons posScore negScores =>
      have hexpand := @expandScores_of_numbers allowed row query posScore negScores negs hitem
        (rowScores_eq hl hlen) hnegs
      obtain rfl := Except.ok.inj (hexpand.symm.trans hrecords)
      have hlength := congrArg List.length hnil
      simp only [List.length_map, List.length_take, List.length_zip, List.length_nil] at hlength
      rw [List.length_cons] at hlen
      omega

theorem prepareMarginMultiScores_iff (hd : IsEmbedding lib dataset) (maxNegatives : Option Int) :
    (∃ dataset', prepareMarginMultiScores lib maxNegatives dataset = .ok dataset' ∧
      lib.columnNames dataset' = labelledTripletColumns) ↔
      HasOneOf (lib.columnNames dataset) "query" "anchor" ∧
        ∃ row ∈ lib.rows dataset, HasScores row := by
  constructor
  · rintro ⟨dataset', h, -⟩
    obtain ⟨d, hrename, h⟩ := bind_eq_ok.mp h
    obtain ⟨effs, heffs, h⟩ := bind_eq_ok.mp h
    split at h
    · cases h
    · rename_i allowed hallowed
      obtain ⟨expanded, hexpanded, -⟩ := bind_eq_ok.mp h
      obtain ⟨row', hrow', hsome⟩ := exists_of_allowedK heffs hallowed
      obtain ⟨records, -, hrecords⟩ := exists_of_mapM_eq_ok hexpanded hrow'
      obtain ⟨query, hitem, -⟩ := bind_eq_ok.mp hrecords
      have hone := hasOneOf_of_renameAnchor hrename (query_mem_of_item hrow' hitem)
      obtain ⟨d', g, hd', hquery, hembedding⟩ := renameAnchor_ok hone
      obtain rfl := Except.ok.inj (hd'.symm.trans hrename)
      have hscores := (effScores_pos_iff (hembedding hd) hrow').mp hsome
      rw [hquery.rows] at hrow'
      obtain ⟨row, hrow, rfl⟩ := List.mem_map.mp hrow'
      exact ⟨hone, row, hrow, (hquery.hasScores_iff row).mp hscores⟩
  · rintro ⟨hone, row, hrow, hscores⟩
    obtain ⟨d, g, hrename, hquery, hembedding⟩ := renameAnchor_ok hone
    have hd' := hembedding hd
    have hrow' : g row ∈ lib.rows d := hquery.rows ▸ List.mem_map_of_mem hrow
    have hscores' := (hquery.hasScores_iff row).mpr hscores
    obtain ⟨effs, allowed, heffs, hallowed, hpos⟩ := effScores_ok hd' hrow' hscores' maxNegatives
    obtain ⟨dataset', hprepared, hcolumns⟩ :=
      expandScores_ok hd' hquery.query hrow' hscores' hpos
    refine ⟨dataset', bind_eq_ok.mpr ⟨d, hrename, bind_eq_ok.mpr ⟨effs, heffs, ?_⟩⟩, hcolumns⟩
    rw [hallowed]
    exact hprepared

end Scores

/-! ## Numbered negatives -/

def negativeName (idx : Nat) : String := "negative_" ++ toString idx

theorem negativeName_injective : Function.Injective negativeName := by
  intro i j h
  have hlist := congrArg String.toList h
  simp only [negativeName, String.toList_append, List.append_cancel_left_eq] at hlist
  have hdigits : Nat.toDigits 10 i = Nat.toDigits 10 j := by
    simpa [Nat.repr] using hlist
  rw [← Nat.ofDigitChars_ten_toDigits (n := i), hdigits, Nat.ofDigitChars_ten_toDigits]

theorem startsWith_negativeName (idx : Nat) : startsWith (negativeName idx) "negative" = true := by
  simp [startsWith, negativeName, String.toList_append]

theorem startsWith_neg_negativeName (idx : Nat) : startsWith (negativeName idx) "neg_" = false := by
  rw [negativeName, startsWith, String.toList_append]
  rfl

theorem nodup_numbered {c c' : String} (hc : startsWith c "negative" = false)
    (hc' : startsWith c' "negative" = false) (hne : c ≠ c') {idxs : List Nat} (hidxs : idxs.Nodup) :
    (c :: c' :: idxs.map negativeName).Nodup := by
  have hnot (c : String) (hc : startsWith c "negative" = false) : c ∉ idxs.map negativeName := by
    intro hmem
    obtain ⟨idx, -, rfl⟩ := List.mem_map.mp hmem
    rw [startsWith_negativeName] at hc
    cases hc
  rw [List.nodup_cons, List.nodup_cons]
  refine ⟨fun hmem => ?_, hnot c' hc', hidxs.map negativeName_injective⟩
  rcases List.mem_cons.mp hmem with h | h
  · exact hne h
  · exact hnot c hc h

/-! ## Dynamic negatives -/

theorem foldl_max_pos_iff {counts : List Nat} {n : Nat} :
    0 < counts.foldl max n ↔ 0 < n ∨ ∃ count ∈ counts, 0 < count := by
  induction counts generalizing n with
  | nil => simp
  | cons count counts ih =>
    have hmax : 0 < max n count ↔ 0 < n ∨ 0 < count := by omega
    rw [List.foldl_cons, ih, List.exists_mem_cons_iff, hmax, or_assoc]

theorem maxNegs_pos_iff {maxNegatives : Option Int} {counts : List Nat} :
    0 < maxNegs maxNegatives counts ↔ ∃ count ∈ counts, 0 < count := by
  have hmost : 0 < counts.foldl max 0 ↔ ∃ count ∈ counts, 0 < count := by
    rw [foldl_max_pos_iff]
    simp
  rw [← hmost]
  unfold maxNegs
  cases maxNegatives with
  | none => exact Iff.rfl
  | some bound =>
    dsimp only
    split
    · omega
    · exact Iff.rfl

def dynamicColumns (n : Nat) : List String :=
  "anchor" :: "positive" :: (List.range n).map negativeName

section Dynamic

variable {D : Type} {lib : DatasetLibrary D} {dataset : D}

theorem IsEmbedding.positive_ok (hd : IsEmbedding lib dataset) {row : Row}
    (hrow : row ∈ lib.rows dataset) :
    ∃ positive, positiveOrEmpty row = .ok positive ∧ positive.kind = .text := by
  unfold positiveOrEmpty
  split
  · rename_i htruthy
    have hpos : (row.getList "pos").kind ∈ [Kind.null, Kind.text, Kind.texts] := by
      cases hvalue : row "pos" with
      | none =>
        rw [getList_of_none hvalue]
        decide
      | some value =>
        rw [getList_of_some hvalue]
        exact hd.texts row hrow "pos" (by decide) value hvalue
    cases hvalue : row.getList "pos" with
    | null =>
      rw [hvalue] at htruthy
      cases htruthy
    | text s =>
      rw [hvalue] at htruthy
      have hne : s.toList ≠ [] := by simpa [Cell.truthy] using htruthy
      cases hs : s.toList with
      | nil => exact absurd hs hne
      | cons c cs => exact ⟨.text (String.singleton c), by simp [Cell.elements, hs, Except.map], rfl⟩
    | texts l =>
      rw [hvalue] at htruthy
      cases l with
      | nil => cases htruthy
      | cons s l => exact ⟨.text s, rfl, rfl⟩
    | number q => simp [hvalue, Cell.kind] at hpos
    | numbers l => simp [hvalue, Cell.kind] at hpos
  · exact ⟨.text "", rfl, rfl⟩

theorem IsEmbedding.anchorKind (hd : IsEmbedding lib dataset) :
    ∃ k : Kind, ∀ row ∈ lib.rows dataset, ((row "query").getD (.text "")).kind = k := by
  obtain ⟨first, hfirst⟩ := List.exists_mem_of_ne_nil _ hd.nonempty
  refine ⟨((first "query").getD (.text "")).kind, fun row hrow => ?_⟩
  have hkinds := hd.kinds row hrow first hfirst "query"
  cases hrowQuery : row "query" with
  | none =>
    rw [hrowQuery] at hkinds
    rw [Option.map_eq_none_iff.mp hkinds.symm]
  | some query =>
    rw [hrowQuery] at hkinds
    obtain ⟨query', hquery', hkind⟩ := Option.map_eq_some_iff.mp hkinds.symm
    rw [hquery']
    exact hkind.symm

theorem convertDynamicNegatives_ok (hd : IsEmbedding lib dataset) {row : Row}
    (hrow : row ∈ lib.rows dataset) {negs : List Cell}
    (hnegs : (row.getList "neg").elements = .ok negs) (n : Nat) :
    ∃ record, convertDynamicNegatives n row = .ok record ∧
      record.map Prod.fst = dynamicColumns n ∧
      ∀ e ∈ record, e = ("anchor", (row "query").getD (.text "")) ∨
        e.1 ≠ "anchor" ∧ e.2.kind = .text := by
  obtain ⟨positive, hpositive, hkind⟩ := hd.positive_ok hrow
  refine ⟨_, bind_eq_ok.mpr ⟨negs, hnegs, bind_eq_ok.mpr ⟨positive, hpositive, rfl⟩⟩, ?_, ?_⟩
  · simp [dynamicColumns, List.map_map, Function.comp_def, negativeName]
  · intro e he
    rcases List.mem_append.mp he with he | he
    · rcases List.mem_cons.mp he with rfl | he
      · exact Or.inl rfl
      · obtain rfl := List.mem_singleton.mp he
        have hne : "positive" ≠ "anchor" := by decide
        exact Or.inr ⟨hne, hkind⟩
    · obtain ⟨idx, -, rfl⟩ := List.mem_map.mp he
      refine Or.inr ⟨fun h => ?_, ?_⟩
      · have hstart := startsWith_negativeName idx
        rw [negativeName] at hstart
        dsimp only at h
        rw [h] at hstart
        exact absurd hstart (by decide)
      · dsimp only
        split
        · have htexts := hd.textElements hrow (by decide) hnegs
          rw [List.getD_eq_getElem?_getD]
          cases hidx : negs[idx]? with
          | none => rfl
          | some neg => exact htexts neg (List.mem_of_getElem? hidx)
        · rfl

theorem prepareDynamicNegatives_ok (hd : IsEmbedding lib dataset) (maxNegatives : Option Int)
    {counts : List Nat}
    (hcounts : (lib.rows dataset).mapM (fun sample => (sample.getList "neg").len) = .ok counts) :
    ∃ dataset', prepareDynamicNegatives lib maxNegatives dataset = .ok dataset' ∧
      lib.columnNames dataset' = dynamicColumns (maxNegs maxNegatives counts) := by
  have hrow (row : Row) (hrow : row ∈ lib.rows dataset) :=
    let ⟨count, _, hcount⟩ := exists_of_mapM_eq_ok hcounts hrow
    let ⟨negs, hnegs, _⟩ := len_eq_ok.mp hcount
    convertDynamicNegatives_ok hd hrow hnegs (maxNegs maxNegatives counts)
  obtain ⟨records, hrecords⟩ := exists_mapM_eq_ok fun row hmem =>
    (hrow row hmem).imp fun record h => h.1
  have hspec : ∀ record ∈ records, ∃ row ∈ lib.rows dataset,
      record.map Prod.fst = dynamicColumns (maxNegs maxNegatives counts) ∧
      ∀ e ∈ record, e = ("anchor", (row "query").getD (.text "")) ∨
        e.1 ≠ "anchor" ∧ e.2.kind = .text := by
    intro record hrecord
    obtain ⟨row, hmem, hconvert⟩ := exists_of_mem_mapM hrecords hrecord
    obtain ⟨record', hrecord', hkeys, hkinds⟩ := hrow row hmem
    obtain rfl := Except.ok.inj (hrecord'.symm.trans hconvert)
    exact ⟨row, hmem, hkeys, hkinds⟩
  obtain ⟨k, hk⟩ := hd.anchorKind
  obtain ⟨dataset', hok, hcolumns⟩ := lib.mapOnly_ok dataset _ records
    (dynamicColumns (maxNegs maxNegatives counts)) hd.nonempty hrecords
    (fun record hrecord => by
      obtain ⟨row, -, hkeys, -⟩ := hspec record hrecord
      exact hkeys)
    (nodup_numbered (by decide) (by decide) (by decide) List.nodup_range)
    ⟨fun c => if c = "anchor" then k else .text, fun record hrecord e he => by
      obtain ⟨row, hmem, -, hkinds⟩ := hspec record hrecord
      rcases hkinds e he with rfl | ⟨hne, hkind⟩
      · exact Or.inr (hk row hmem)
      · dsimp only
        rw [if_neg hne]
        exact Or.inr hkind⟩
  exact ⟨dataset', bind_eq_ok.mpr ⟨counts, hcounts, hok⟩, hcolumns⟩

theorem prepareDynamicNegatives_iff (hd : IsEmbedding lib dataset) (maxNegatives : Option Int) :
    (∃ dataset', prepareDynamicNegatives lib maxNegatives dataset = .ok dataset' ∧
      ∃ n, 0 < n ∧ lib.columnNames dataset' = dynamicColumns n) ↔
      ∃ row ∈ lib.rows dataset, (row.getList "neg").IsFilled := by
  constructor
  · rintro ⟨dataset', h, n, hpos, hcolumns⟩
    obtain ⟨counts, hcounts, -⟩ := bind_eq_ok.mp h
    obtain ⟨d, hd', hcolumns'⟩ := prepareDynamicNegatives_ok hd maxNegatives hcounts
    obtain rfl := Except.ok.inj (hd'.symm.trans h)
    have hlength := congrArg List.length (hcolumns.symm.trans hcolumns')
    simp only [dynamicColumns, List.length_cons, List.length_map, List.length_range] at hlength
    have hmax : 0 < maxNegs maxNegatives counts := by omega
    obtain ⟨count, hcount, hcountPos⟩ := maxNegs_pos_iff.mp hmax
    obtain ⟨row, hrow, hlen⟩ := exists_of_mem_mapM hcounts hcount
    exact ⟨row, hrow, count, hlen, hcountPos⟩
  · rintro ⟨row, hrow, hfilled⟩
    obtain ⟨counts, hcounts⟩ : ∃ counts,
        (lib.rows dataset).mapM (fun sample => (sample.getList "neg").len) = .ok counts :=
      exists_mapM_eq_ok fun row' hrow' => by
        obtain ⟨negs, hnegs⟩ := hd.elements_ok hrow hfilled hrow'
        exact ⟨_, len_eq_ok.mpr ⟨negs, hnegs, rfl⟩⟩
    obtain ⟨d, hd', hcolumns⟩ := prepareDynamicNegatives_ok hd maxNegatives hcounts
    refine ⟨d, hd', _, maxNegs_pos_iff.mpr ?_, hcolumns⟩
    obtain ⟨n, hn, hpos⟩ := hfilled
    obtain ⟨count, hcount, hlen⟩ := exists_of_mapM_eq_ok hcounts hrow
    exact ⟨count, hcount, by rwa [Except.ok.inj (hlen.symm.trans hn)]⟩

end Dynamic

end Embedding
