import TrainFactory.Embedding.Proofs.ExpansionProofs

/-!
# Many negatives

The format with a column for each negative, and the datasets that are prepared for the format that
is detected.
-/

namespace Embedding

open Lib

/-! ## Columns of negatives -/

def IsMultiColumns (columns : List String) : Prop :=
  ∃ negs, negs ≠ [] ∧ columns = "anchor" :: "positive" :: negs ∧
    ∀ c ∈ negs, startsWith c "negative" = true

theorem mem_sortNegativeColumns {columns : List String} {c : String} :
    c ∈ sortNegativeColumns columns ↔ c ∈ columns ∧ startsWith c "negative" = true := by
  rw [sortNegativeColumns, (List.mergeSort_perm _ _).mem_iff, List.mem_filter]

theorem nodup_sortNegativeColumns {columns : List String} (h : columns.Nodup) :
    (sortNegativeColumns columns).Nodup :=
  (List.mergeSort_perm _ _).nodup_iff.mpr (h.filter _)

theorem ne_of_startsWith_negative {c c' : String} (h : startsWith c "negative" = true)
    (h' : startsWith c' "negative" = false) : c ≠ c' := by
  rintro rfl
  rw [h] at h'
  cases h'

section Finish

variable {D : Type} {lib : DatasetLibrary D} {dataset : D}

theorem nodup_multiColumns (lib : DatasetLibrary D) (dataset : D) :
    (["query", "positive"] ++ sortNegativeColumns (lib.columnNames dataset)).Nodup := by
  refine List.Nodup.append (by decide) (nodup_sortNegativeColumns (lib.columnNames_nodup dataset)) ?_
  intro c hc hc'
  have hstarts := (mem_sortNegativeColumns.mp hc').2
  rcases List.mem_cons.mp hc with rfl | hc
  · exact ne_of_startsWith_negative hstarts (by decide) rfl
  · obtain rfl := List.mem_singleton.mp hc
    exact ne_of_startsWith_negative hstarts (by decide) rfl

def orderMultiNegatives (lib : DatasetLibrary D) (dataset : D) : Except PrepareError D :=
  standardizeMnrColumns lib dataset >>= fun d =>
    ensureColumnsOrder lib d (["query", "positive"] ++ sortNegativeColumns (lib.columnNames d)) >>=
      fun d => renameColumns lib d [("query", "anchor")]

theorem prepareMnrMultiNegatives_eq (lib : DatasetLibrary D) (dataset : D) :
    prepareMnrMultiNegatives lib dataset = expandArrays lib dataset >>= orderMultiNegatives lib :=
  rfl

theorem orderMultiNegatives_iff (hplain : IsPlain (lib.columnNames dataset)) :
    (∃ dataset', orderMultiNegatives lib dataset = .ok dataset' ∧
      IsMultiColumns (lib.columnNames dataset')) ↔
      "query" ∈ lib.columnNames dataset ∧ HasStandard (lib.columnNames dataset) "positive" ∧
        ∃ c, startsWith c "negative" = true ∧ HasStandard (lib.columnNames dataset) c := by
  obtain ⟨d, hd, hstandard⟩ := standardizeMnrColumns_ok hplain
  have hquery : "query" ∈ lib.columnNames d ↔ "query" ∈ lib.columnNames dataset :=
    (hstandard "query" (by decide)).trans hasStandard_query
  have hpositive := hstandard "positive" (by decide)
  have hshort : ∀ c ∈ shortNames.map Prod.fst, startsWith c "negative" = false := by decide
  have hnegative (c : String) (hc : startsWith c "negative" = true) :=
    hstandard c fun hmem => ne_of_startsWith_negative hc (hshort c hmem) rfl
  have hsorted (c : String) (hc : c ∈ sortNegativeColumns (lib.columnNames d)) :=
    (mem_sortNegativeColumns.mp hc).2
  have hnodup := nodup_multiColumns lib d
  have hanchor : "anchor" ∉ ["query", "positive"] ++ sortNegativeColumns (lib.columnNames d) := by
    intro hmem
    rcases List.mem_append.mp hmem with hmem | hmem
    · exact absurd hmem (by decide)
    · exact ne_of_startsWith_negative (hsorted _ hmem) (by decide) rfl
  have hrenamed : (["query", "positive"] ++ sortNegativeColumns (lib.columnNames d)).map
      (fun c => if c = "query" then "anchor" else c) =
        "anchor" :: "positive" :: sortNegativeColumns (lib.columnNames d) := by
    have hsame : (sortNegativeColumns (lib.columnNames d)).map
        (fun c => if c = "query" then "anchor" else c) = sortNegativeColumns (lib.columnNames d) := by
      conv_rhs => rw [← List.map_id (sortNegativeColumns (lib.columnNames d))]
      exact List.map_congr_left fun c hc =>
        if_neg (ne_of_startsWith_negative (hsorted c hc) (by decide))
    rw [List.map_append, hsame]
    rfl
  have horder : orderMultiNegatives lib dataset =
      (ensureColumnsOrder lib d (["query", "positive"] ++ sortNegativeColumns (lib.columnNames d)) >>=
        fun d => renameColumns lib d [("query", "anchor")]) := by
    rw [orderMultiNegatives, hd]
    rfl
  have hiff := @ensureColumnsOrder_anchor_iff D lib d _ hnodup hanchor
  rw [hrenamed, ← horder] at hiff
  constructor
  · rintro ⟨dataset', hok, negs, hne, hcolumns, hnegs⟩
    have hall : ∀ c ∈ ["query", "positive"] ++ sortNegativeColumns (lib.columnNames d),
        c ∈ lib.columnNames d := by
      rw [horder] at hok
      obtain ⟨d', hd', -⟩ := bind_eq_ok.mp hok
      exact subset_of_ensureColumnsOrder hd'
    obtain ⟨dataset'', hok', hcolumns'⟩ := hiff.mpr hall
    obtain rfl := Except.ok.inj (hok'.symm.trans hok)
    obtain rfl : negs = sortNegativeColumns (lib.columnNames d) :=
      (List.cons.inj (List.cons.inj (hcolumns.symm.trans hcolumns')).2).2
    obtain ⟨c, hc⟩ := List.exists_mem_of_ne_nil _ hne
    refine ⟨hquery.mp (hall _ (by simp)), hpositive.mp (hall _ (by simp)), c, hsorted c hc, ?_⟩
    exact (hnegative c (hsorted c hc)).mp (mem_sortNegativeColumns.mp hc).1
  · rintro ⟨hq, hp, c, hc, hthere⟩
    obtain ⟨dataset', hok, hcolumns⟩ := hiff.mpr (by
      intro c hc
      rcases List.mem_append.mp hc with hc | hc
      · rcases List.mem_cons.mp hc with rfl | hc
        · exact hquery.mpr hq
        · obtain rfl := List.mem_singleton.mp hc
          exact hpositive.mpr hp
      · exact (mem_sortNegativeColumns.mp hc).1)
    refine ⟨dataset', hok, _, ?_, hcolumns, hsorted⟩
    exact List.ne_nil_of_mem (mem_sortNegativeColumns.mpr ⟨(hnegative c hc).mpr hthere, hc⟩)

end Finish

/-! ## Records of rows -/

abbrev Row.positives (row : Row) : Cell := row.getOr "pos" "positive"

abbrev Row.negatives (row : Row) : Cell := row.getOr "neg" "negative"

def Cell.HasElement (value : Cell) : Prop :=
  ∃ l, value.elements = .ok l ∧ ∃ x ∈ l, x.truthy = true

def IsProductive (row : Row) : Prop :=
  row.positives.HasElement ∧ row.negatives.truthy = true

def truthyIdxs (negs : List Cell) : List Nat :=
  (negs.zipIdx.filter fun e => e.1.truthy).map Prod.snd

theorem nodup_truthyIdxs (negs : List Cell) : (truthyIdxs negs).Nodup := by
  have hall : (negs.zipIdx.map Prod.snd).Nodup := by
    rw [List.zipIdx_map_snd]
    exact List.nodup_range'
  exact hall.sublist (List.filter_sublist.map Prod.snd)

theorem truthyIdxs_ne_nil_iff {negs : List Cell} :
    truthyIdxs negs ≠ [] ↔ ∃ x ∈ negs, x.truthy = true := by
  constructor
  · intro h
    obtain ⟨idx, hidx⟩ := List.exists_mem_of_ne_nil _ h
    obtain ⟨e, he, -⟩ := List.mem_map.mp hidx
    obtain ⟨he, htruthy⟩ := List.mem_filter.mp he
    exact ⟨e.1, List.fst_mem_of_mem_zipIdx he, htruthy⟩
  · rintro ⟨x, hx, htruthy⟩
    obtain ⟨i, hi⟩ := List.mem_iff_getElem?.mp hx
    refine List.ne_nil_of_mem (List.mem_map.mpr ⟨(x, i), List.mem_filter.mpr ⟨?_, htruthy⟩, rfl⟩)
    exact List.mk_mem_zipIdx_iff_getElem?.mpr hi

theorem keys_multiColumnRecord (query pos : Cell) (negs : List Cell) :
    (multiColumnRecord query pos negs).map Prod.fst =
      "query" :: "positive" :: (truthyIdxs negs).map negativeName := by
  have hkeys : ∀ es : List (Cell × Nat), (es.filterMap fun e =>
      if e.1.truthy = true then some ("negative_" ++ toString e.2, e.1) else none).map Prod.fst =
        ((es.filter fun e => e.1.truthy).map Prod.snd).map negativeName := by
    intro es
    induction es with
    | nil => rfl
    | cons e es ih =>
      by_cases he : e.1.truthy = true
      · simpa [he, negativeName] using ih
      · simpa [he] using ih
  rw [multiColumnRecord, List.map_append]
  exact congrArg _ (hkeys negs.zipIdx)

theorem mem_multiColumnRecord {query pos : Cell} {negs : List Cell} {e : String × Cell}
    (h : e ∈ multiColumnRecord query pos negs) :
    e = ("query", query) ∨ e.1 ≠ "query" ∧ (e.2 = pos ∨ e.2 ∈ negs) := by
  rcases List.mem_append.mp h with h | h
  · rcases List.mem_cons.mp h with rfl | h
    · exact Or.inl rfl
    · obtain rfl := List.mem_singleton.mp h
      have hne : "positive" ≠ "query" := by decide
      exact Or.inr ⟨hne, Or.inl rfl⟩
  · obtain ⟨⟨neg, idx⟩, he, hsome⟩ := List.mem_filterMap.mp h
    dsimp only at hsome
    split at hsome
    · obtain rfl := Option.some.inj hsome
      refine Or.inr ⟨?_, Or.inr (List.fst_mem_of_mem_zipIdx he)⟩
      exact ne_of_startsWith_negative (startsWith_negativeName idx) (by decide)
    · cases hsome

theorem mapM_map_const {α β γ : Type} {x : Except PrepareError α} (f : β → α → γ) {l : List β}
    {a : α} (hx : x = .ok a) : l.mapM (fun y => x.map (f y)) = .ok (l.map fun y => f y a) := by
  subst hx
  induction l with
  | nil => rfl
  | cons y l ih =>
    rw [List.mapM_cons, ih]
    rfl

theorem convertArrayToMultiColumns_cases {row : Row} {records : List Record}
    (h : convertArrayToMultiColumns row = .ok records) :
    ∃ query poss, row.item "query" = .ok query ∧ row.positives.elements = .ok poss ∧
      (¬ row.positives.HasElement ∧ records = [] ∨
        row.positives.HasElement ∧ ∃ negs, row.negatives.elements = .ok negs ∧
          records = if row.negatives.truthy then
            (poss.filter Cell.truthy).map fun pos => multiColumnRecord query pos negs
          else []) := by
  obtain ⟨query, hquery, h⟩ := bind_eq_ok.mp h
  obtain ⟨poss, hposs, h⟩ := bind_eq_ok.mp h
  obtain ⟨records', hrecords', h⟩ := bind_eq_ok.mp h
  have heq := pure_eq_ok.mp h
  refine ⟨query, poss, hquery, hposs, ?_⟩
  by_cases hhas : row.positives.HasElement
  · obtain ⟨l, hl, x, hx, htruthy⟩ := hhas
    obtain rfl := Except.ok.inj (hl.symm.trans hposs)
    obtain ⟨record, -, hrecord⟩ := exists_of_mapM_eq_ok hrecords'
      (List.mem_filter.mpr ⟨hx, htruthy⟩)
    obtain ⟨negs, hnegs, -⟩ := map_eq_ok.mp hrecord
    refine Or.inr ⟨⟨l, hl, x, hx, htruthy⟩, negs, hnegs, ?_⟩
    rw [mapM_map_const _ hnegs] at hrecords'
    rw [← heq, ← Except.ok.inj hrecords']
  · have hnone : poss.filter Cell.truthy = [] := by
      rw [List.filter_eq_nil_iff]
      exact fun x hx htruthy => hhas ⟨poss, hposs, x, hx, htruthy⟩
    refine Or.inl ⟨hhas, ?_⟩
    rw [hnone] at hrecords'
    obtain rfl := pure_eq_ok.mp hrecords'
    rw [← heq]
    split <;> rfl

theorem convertArrayToMultiColumns_ok {row : Row} {query : Cell} {poss : List Cell}
    (hquery : row.item "query" = .ok query) (hposs : row.positives.elements = .ok poss)
    (hnegs : row.positives.HasElement → ∃ negs, row.negatives.elements = .ok negs) :
    ∃ records, convertArrayToMultiColumns row = .ok records := by
  have hrecords : ∃ records, (poss.filter Cell.truthy).mapM (fun pos =>
      row.negatives.elements.map fun negs => multiColumnRecord query pos negs) = .ok records := by
    refine exists_mapM_eq_ok fun pos hpos => ?_
    obtain ⟨hpos, htruthy⟩ := List.mem_filter.mp hpos
    obtain ⟨negs, hnegs⟩ := hnegs ⟨poss, hposs, pos, hpos, htruthy⟩
    exact ⟨_, map_eq_ok.mpr ⟨negs, hnegs, rfl⟩⟩
  obtain ⟨records, hrecords⟩ := hrecords
  exact ⟨_, bind_eq_ok.mpr ⟨query, hquery, bind_eq_ok.mpr ⟨poss, hposs,
    bind_eq_ok.mpr ⟨records, hrecords, rfl⟩⟩⟩⟩

theorem convertArrayToMultiColumns_eq_nil_iff {row : Row} {records : List Record}
    (h : convertArrayToMultiColumns row = .ok records) : records = [] ↔ ¬ IsProductive row := by
  obtain ⟨query, poss, -, hposs, ⟨hnot, rfl⟩ | ⟨⟨l, hl, x, hx, htruthy⟩, negs, -, rfl⟩⟩ :=
    convertArrayToMultiColumns_cases h
  · exact iff_of_true rfl fun hproductive => hnot hproductive.1
  · obtain rfl := Except.ok.inj (hl.symm.trans hposs)
    have hne : l.filter Cell.truthy ≠ [] := List.ne_nil_of_mem (List.mem_filter.mpr ⟨hx, htruthy⟩)
    by_cases hnegs : row.negatives.truthy = true
    · rw [if_pos hnegs]
      refine iff_of_false (fun hnil => hne (List.map_eq_nil_iff.mp hnil)) ?_
      exact not_not_intro ⟨⟨l, hl, x, hx, htruthy⟩, hnegs⟩
    · rw [if_neg hnegs]
      exact iff_of_true rfl fun hproductive => hnegs hproductive.2

theorem exists_first_of_flatten {f : Row → Except PrepareError (List Record)} {rows : List Row}
    {expanded : List (List Record)} (h : rows.mapM f = .ok expanded) {record : Record}
    {rest : List Record} (hflatten : expanded.flatten = record :: rest) :
    ∃ before row after tail, rows = before ++ row :: after ∧ (∀ r ∈ before, f r = .ok []) ∧
      f row = .ok (record :: tail) := by
  induction rows generalizing expanded with
  | nil =>
    obtain rfl := pure_eq_ok.mp h
    cases hflatten
  | cons r rows ih =>
    rw [List.mapM_cons] at h
    obtain ⟨records, hrecords, h⟩ := bind_eq_ok.mp h
    obtain ⟨expanded', hexpanded', h⟩ := bind_eq_ok.mp h
    obtain rfl := pure_eq_ok.mp h
    cases records with
    | nil =>
      obtain ⟨before, row, after, tail, rfl, hbefore, hrow⟩ := ih hexpanded' hflatten
      refine ⟨r :: before, row, after, tail, rfl, ?_, hrow⟩
      exact List.forall_mem_cons.mpr ⟨hrecords, hbefore⟩
    | cons first tail =>
      obtain ⟨rfl, -⟩ := List.cons.inj hflatten
      exact ⟨[], r, rows, tail, rfl, (fun _ h => nomatch h), hrecords⟩

/-! ## Rows with lists -/

def IsFirst (rows : List Row) (p : Row → Prop) (row : Row) : Prop :=
  ∃ before after, rows = before ++ row :: after ∧ (∀ r ∈ before, ¬ p r) ∧ p row

theorem IsFirst.mem {rows : List Row} {p : Row → Prop} {row : Row} (h : IsFirst rows p row) :
    row ∈ rows := by
  obtain ⟨before, after, rfl, -⟩ := h
  exact List.mem_append_right _ (List.mem_cons_self ..)

theorem IsFirst.holds {rows : List Row} {p : Row → Prop} {row : Row} (h : IsFirst rows p row) :
    p row := by
  obtain ⟨before, after, -, -, hrow⟩ := h
  exact hrow

theorem IsFirst.unique {rows : List Row} {p : Row → Prop} {row row' : Row}
    (h : IsFirst rows p row) (h' : IsFirst rows p row') : row = row' := by
  obtain ⟨before, after, rfl, hbefore, hrow⟩ := h
  obtain ⟨before', after', heq, hbefore', hrow'⟩ := h'
  induction before generalizing before' with
  | nil =>
    cases before' with
    | nil => exact (List.cons.inj heq).1
    | cons r before' =>
      obtain rfl := (List.cons.inj heq).1
      exact absurd hrow (hbefore' _ (List.mem_cons_self ..))
  | cons r before ih =>
    cases before' with
    | nil =>
      obtain rfl := (List.cons.inj heq).1
      exact absurd hrow' (hbefore _ (List.mem_cons_self ..))
    | cons r' before' =>
      exact ih (fun r hr => hbefore r (List.mem_cons_of_mem _ hr)) before' (List.cons.inj heq).2
        fun r hr => hbefore' r (List.mem_cons_of_mem _ hr)

section Lists

variable {D : Type} {lib : DatasetLibrary D} {dataset : D}

def HasLists (lib : DatasetLibrary D) (dataset : D) : Prop :=
  ∃ first rest, lib.rows dataset = first :: rest ∧ first.positives.isList = true ∧
    first.negatives.isList = true

/-- Every row has positives, and negatives if it has a positive; the first row that gives records has
a negative. -/
structure FitsLists (lib : DatasetLibrary D) (dataset : D) : Prop where
  query : "query" ∈ lib.columnNames dataset
  positives : ∀ row ∈ lib.rows dataset, row.positives.kind ≠ .null
  negatives : ∀ row ∈ lib.rows dataset, row.positives.HasElement → row.negatives.kind ≠ .null
  first : ∃ row, IsFirst (lib.rows dataset) IsProductive row ∧ row.negatives.HasElement

theorem IsEmbedding.kind_getOr (hd : IsEmbedding lib dataset) {row : Row}
    (hrow : row ∈ lib.rows dataset) {c c' : String} (hc : c ∈ textColumns)
    (hc' : c' ∈ textColumns) :
    (row.getOr c c').kind ∈ [Kind.null, Kind.text, Kind.texts] := by
  have hget (c : String) (hc : c ∈ textColumns) :
      (row.get c).kind ∈ [Kind.null, Kind.text, Kind.texts] := by
    unfold Row.get
    cases hvalue : row c with
    | none => decide
    | some value => exact hd.texts row hrow c hc value hvalue
  unfold Row.getOr
  split
  · exact hget c hc
  · exact hget c' hc'

theorem elements_ok_of_text {value : Cell} (hkind : value.kind ∈ [Kind.null, Kind.text, Kind.texts])
    (hne : value.kind ≠ .null) : ∃ l, value.elements = .ok l := by
  refine elements_ok_iff.mpr ⟨hne, fun h => ?_⟩
  rw [h] at hkind
  exact absurd hkind (by decide)

theorem expandArrays_lists (h : HasLists lib dataset) :
    expandArrays lib dataset = ((lib.rows dataset).mapM convertArrayToMultiColumns >>= fun expanded =>
      lib.fromList expanded.flatten) := by
  obtain ⟨first, rest, hrows, hpos, hneg⟩ := h
  have hfirst : first ∈ lib.rows dataset := hrows ▸ List.mem_cons_self ..
  have hthere (c : String) (hc : (first.get c).isList = true) : c ∈ lib.columnNames dataset := by
    refine (lib.isSome_row dataset first hfirst c).mp ?_
    unfold Row.get at hc
    cases hvalue : first c with
    | none =>
      rw [hvalue] at hc
      cases hc
    | some value => rfl
  have hcolumn : "pos" ∈ lib.columnNames dataset ∨ "positive" ∈ lib.columnNames dataset := by
    unfold Row.positives Row.getOr at hpos
    split at hpos
    · exact Or.inl (hthere _ hpos)
    · exact Or.inr (hthere _ hpos)
  unfold expandArrays
  dsimp only
  rw [hrows]
  exact if_pos ⟨hcolumn, hpos, hneg⟩

theorem expandArrays_other (hne : lib.rows dataset ≠ []) (h : ¬ HasLists lib dataset) :
    expandArrays lib dataset = .ok dataset := by
  unfold expandArrays
  dsimp only
  split
  · rename_i hnil
    exact absurd hnil hne
  · rename_i first rest hrows
    exact if_neg fun hand => h ⟨first, rest, hrows, hand.2⟩

theorem fromList_multi (hd : IsEmbedding lib dataset) {expanded : List (List Record)}
    (hexpanded : (lib.rows dataset).mapM convertArrayToMultiColumns = .ok expanded)
    {record : Record} {rest : List Record} (hflatten : expanded.flatten = record :: rest) :
    ∃ row negs d, IsFirst (lib.rows dataset) IsProductive row ∧
      row.negatives.elements = .ok negs ∧ lib.fromList expanded.flatten = .ok d ∧
      lib.columnNames d = "query" :: "positive" :: (truthyIdxs negs).map negativeName := by
  have hrecord : ∀ record ∈ expanded.flatten, ∃ row ∈ lib.rows dataset, ∃ query pos negs,
      row.item "query" = .ok query ∧ row.negatives.elements = .ok negs ∧ pos.kind = .text ∧
        (∀ x ∈ negs, x.kind = .text) ∧ record = multiColumnRecord query pos negs := by
    intro record hrecord
    obtain ⟨records, hrecords, hrecord⟩ := List.mem_flatten.mp hrecord
    obtain ⟨row, hrow, hconvert⟩ := exists_of_mem_mapM hexpanded hrecords
    obtain ⟨query, poss, hquery, hposs, ⟨-, rfl⟩ | ⟨-, negs, hnegs, rfl⟩⟩ :=
      convertArrayToMultiColumns_cases hconvert
    · cases hrecord
    · split at hrecord
      · obtain ⟨pos, hpos, rfl⟩ := List.mem_map.mp hrecord
        exact ⟨row, hrow, query, pos, negs, hquery, hnegs,
          kind_of_mem_elements_text (hd.kind_getOr hrow (by decide) (by decide)) hposs pos
            (List.mem_filter.mp hpos).1,
          kind_of_mem_elements_text (hd.kind_getOr hrow (by decide) (by decide)) hnegs, rfl⟩
      · cases hrecord
  obtain ⟨before, row, after, tail, hrows, hbefore, hconvert⟩ :=
    exists_first_of_flatten hexpanded hflatten
  have hproductive : IsProductive row := by
    by_contra hnot
    exact absurd ((convertArrayToMultiColumns_eq_nil_iff hconvert).mpr hnot) (List.cons_ne_nil _ _)
  have hfirst : IsFirst (lib.rows dataset) IsProductive row :=
    ⟨before, after, hrows, fun r hr =>
      (convertArrayToMultiColumns_eq_nil_iff (hbefore r hr)).mp rfl, hproductive⟩
  obtain ⟨query, poss, hquery, hposs, ⟨hnot, -⟩ | ⟨-, negs, hnegs, heq⟩⟩ :=
    convertArrayToMultiColumns_cases hconvert
  · exact absurd hproductive.1 hnot
  · rw [if_pos hproductive.2] at heq
    have hmem : record ∈ (poss.filter Cell.truthy).map fun pos => multiColumnRecord query pos negs :=
      heq ▸ List.mem_cons_self ..
    obtain ⟨pos, -, rfl⟩ := List.mem_map.mp hmem
    have hkeys := keys_multiColumnRecord query pos negs
    have hall := hfirst.mem
    obtain ⟨k, hk⟩ := hd.queryKind (query_mem_of_item hall hquery)
    have huniform : Uniform (multiColumnRecord query pos negs :: rest) := by
      refine ⟨fun c => if c = "query" then k else .text, fun r hr e he => ?_⟩
      rw [← hflatten] at hr
      obtain ⟨row', hrow', query', pos', negs', hquery', -, hpos', hnegs', rfl⟩ := hrecord r hr
      rcases mem_multiColumnRecord he with rfl | ⟨hne, hvalue⟩
      · obtain ⟨query'', hquery'', hkind⟩ := hk row' hrow'
        obtain rfl := Except.ok.inj (hquery''.symm.trans hquery')
        exact Or.inr hkind
      · dsimp only
        rw [if_neg hne]
        rcases hvalue with hvalue | hvalue
        · exact Or.inr (hvalue ▸ hpos')
        · exact Or.inr (hnegs' _ hvalue)
    obtain ⟨d, hfrom, hcolumns⟩ := lib.fromList_ok _ rest (by
      rw [hkeys]
      exact nodup_numbered (by decide) (by decide) (by decide) (nodup_truthyIdxs negs)) huniform
    exact ⟨row, negs, d, hfirst, hnegs, hflatten ▸ hfrom, hcolumns.trans hkeys⟩

theorem IsEmbedding.isPlain (hd : IsEmbedding lib dataset) : IsPlain (lib.columnNames dataset) := by
  have hall : ∀ c ∈ textColumns ++ labelColumns,
      startsWith c "neg_" = true → c = "neg_scores" := by decide
  exact fun c hc => hall c (hd.named c hc)

theorem IsEmbedding.exists_negative_iff (hd : IsEmbedding lib dataset) :
    (∃ c, startsWith c "negative" = true ∧ HasStandard (lib.columnNames dataset) c) ↔
      HasStandard (lib.columnNames dataset) "negative" ∨
        HasStandard (lib.columnNames dataset) "negative_scores" := by
  have hall : ∀ c ∈ textColumns ++ labelColumns, startsWith c "negative" = true → c = "negative" := by
    decide
  have hlong : ∀ e ∈ shortNames, startsWith e.2 "negative" = true →
      e.2 = "negative" ∨ e.2 = "negative_scores" := by decide
  constructor
  · rintro ⟨c, hc, hthere | ⟨e, he, rfl, hthere⟩⟩
    · obtain rfl := hall c (hd.named c hthere) hc
      exact Or.inl (Or.inl hthere)
    · rcases hlong e he hc with heq | heq
      · exact Or.inl (Or.inr ⟨e, he, heq, hthere⟩)
      · exact Or.inr (Or.inr ⟨e, he, heq, hthere⟩)
  · rintro (h | h)
    · exact ⟨"negative", by decide, h⟩
    · exact ⟨"negative_scores", by decide, h⟩

theorem isPlain_numbered (idxs : List Nat) :
    IsPlain ("query" :: "positive" :: idxs.map negativeName) := by
  intro c hc hstarts
  rcases List.mem_cons.mp hc with rfl | hc
  · exact absurd hstarts (by decide)
  rcases List.mem_cons.mp hc with rfl | hc
  · exact absurd hstarts (by decide)
  obtain ⟨idx, -, rfl⟩ := List.mem_map.mp hc
  rw [startsWith_neg_negativeName] at hstarts
  cases hstarts

theorem orderMultiNegatives_of_nil {d : D} (hcolumns : lib.columnNames d = []) :
    ¬ ∃ dataset', orderMultiNegatives lib d = .ok dataset' ∧
      IsMultiColumns (lib.columnNames dataset') := by
  have hplain : IsPlain (lib.columnNames d) := by
    rw [hcolumns]
    exact fun c hc => nomatch hc
  rw [orderMultiNegatives_iff hplain, hcolumns]
  exact fun h => nomatch h.1

theorem orderMultiNegatives_numbered {d : D} {negs : List Cell}
    (hcolumns : lib.columnNames d = "query" :: "positive" :: (truthyIdxs negs).map negativeName) :
    (∃ dataset', orderMultiNegatives lib d = .ok dataset' ∧
      IsMultiColumns (lib.columnNames dataset')) ↔ ∃ x ∈ negs, x.truthy = true := by
  have hplain : IsPlain (lib.columnNames d) := hcolumns ▸ isPlain_numbered _
  have hlong : ∀ e ∈ shortNames, e.1 ∉ lib.columnNames d := by
    rw [hcolumns]
    intro e he hmem
    have hnames : ∀ e ∈ shortNames, e.1 ≠ "query" ∧ e.1 ≠ "positive" ∧
        startsWith e.1 "negative" = false := by decide
    obtain ⟨hquery, hpositive, hstarts⟩ := hnames e he
    rcases List.mem_cons.mp hmem with heq | hmem
    · exact hquery heq
    rcases List.mem_cons.mp hmem with heq | hmem
    · exact hpositive heq
    obtain ⟨idx, -, heq⟩ := List.mem_map.mp hmem
    exact ne_of_startsWith_negative (startsWith_negativeName idx) hstarts heq
  rw [orderMultiNegatives_iff hplain, ← truthyIdxs_ne_nil_iff]
  constructor
  · rintro ⟨-, -, c, hc, hthere | ⟨e, he, -, hthere⟩⟩ hnil
    · rw [hcolumns, hnil] at hthere
      rcases List.mem_cons.mp hthere with rfl | hthere
      · exact absurd hc (by decide)
      · obtain rfl := List.mem_singleton.mp hthere
        exact absurd hc (by decide)
    · exact hlong e he hthere
  · intro hne
    obtain ⟨idx, hidx⟩ := List.exists_mem_of_ne_nil _ hne
    refine ⟨?_, Or.inl ?_, negativeName idx, startsWith_negativeName idx, Or.inl ?_⟩
    all_goals rw [hcolumns]
    · exact List.mem_cons_self ..
    · exact List.mem_cons_of_mem _ (List.mem_cons_self ..)
    · exact List.mem_cons_of_mem _ (List.mem_cons_of_mem _ (List.mem_map_of_mem hidx))

theorem prepareMnrMultiNegatives_lists_iff (hd : IsEmbedding lib dataset)
    (hlists : HasLists lib dataset) :
    (∃ dataset', prepareMnrMultiNegatives lib dataset = .ok dataset' ∧
      IsMultiColumns (lib.columnNames dataset')) ↔ FitsLists lib dataset := by
  rw [prepareMnrMultiNegatives_eq, expandArrays_lists hlists]
  constructor
  · rintro ⟨dataset', hok, hcolumns⟩
    obtain ⟨d, hexpand, horder⟩ := bind_eq_ok.mp hok
    obtain ⟨expanded, hexpanded, hfrom⟩ := bind_eq_ok.mp hexpand
    cases hflatten : expanded.flatten with
    | nil =>
      obtain ⟨d', hd', hnil⟩ := lib.fromList_nil
      rw [hflatten, hd'] at hfrom
      obtain rfl := Except.ok.inj hfrom
      exact absurd ⟨dataset', horder, hcolumns⟩ (orderMultiNegatives_of_nil hnil)
    | cons record rest =>
      obtain ⟨row, negs, d', hfirst, hnegs, hfrom', hnumbered⟩ := fromList_multi hd hexpanded hflatten
      obtain rfl := Except.ok.inj (hfrom'.symm.trans hfrom)
      have hall (r : Row) (hr : r ∈ lib.rows dataset) :=
        exists_of_mapM_eq_ok hexpanded hr
      refine ⟨?_, fun r hr => ?_, fun r hr hhas => ?_, row, hfirst, negs, hnegs,
        (orderMultiNegatives_numbered hnumbered).mp ⟨dataset', horder, hcolumns⟩⟩
      · obtain ⟨records, -, hconvert⟩ := hall row hfirst.mem
        obtain ⟨query, poss, hquery, -⟩ := convertArrayToMultiColumns_cases hconvert
        exact query_mem_of_item hfirst.mem hquery
      · obtain ⟨records, -, hconvert⟩ := hall r hr
        obtain ⟨query, poss, -, hposs, -⟩ := convertArrayToMultiColumns_cases hconvert
        exact (elements_ok_iff.mp ⟨poss, hposs⟩).1
      · obtain ⟨records, -, hconvert⟩ := hall r hr
        obtain ⟨query, poss, -, -, ⟨hnot, -⟩ | ⟨-, negs', hnegs', -⟩⟩ :=
          convertArrayToMultiColumns_cases hconvert
        · exact absurd hhas hnot
        · exact (elements_ok_iff.mp ⟨negs', hnegs'⟩).1
  · intro hfits
    obtain ⟨row, hfirst, negs, hnegs, hneg⟩ := hfits.first
    have hrows : ∀ r ∈ lib.rows dataset, ∃ records, convertArrayToMultiColumns r = .ok records := by
      intro r hr
      obtain ⟨query, hquery, -⟩ := item_query_ok hr hfits.query
      obtain ⟨poss, hposs⟩ := elements_ok_of_text
        (hd.kind_getOr hr (by decide) (by decide)) (hfits.positives r hr)
      exact convertArrayToMultiColumns_ok hquery hposs fun hhas =>
        elements_ok_of_text (hd.kind_getOr hr (by decide) (by decide)) (hfits.negatives r hr hhas)
    obtain ⟨expanded, hexpanded⟩ := exists_mapM_eq_ok hrows
    obtain ⟨records, hrecords, hconvert⟩ := exists_of_mapM_eq_ok hexpanded hfirst.mem
    have hproductive := hfirst.holds
    have hne : expanded.flatten ≠ [] := by
      intro hnil
      have hempty : records = [] := List.flatten_eq_nil_iff.mp hnil records hrecords
      exact (convertArrayToMultiColumns_eq_nil_iff hconvert).mp hempty hproductive
    obtain ⟨record, rest, hflatten⟩ := List.exists_cons_of_ne_nil hne
    obtain ⟨row', negs', d, hfirst', hnegs', hfrom, hnumbered⟩ :=
      fromList_multi hd hexpanded hflatten
    obtain rfl := hfirst.unique hfirst'
    obtain rfl := Except.ok.inj (hnegs.symm.trans hnegs')
    obtain ⟨dataset', horder, hcolumns⟩ := (orderMultiNegatives_numbered hnumbered).mpr hneg
    exact ⟨dataset', bind_eq_ok.mpr ⟨d, bind_eq_ok.mpr ⟨expanded, hexpanded, hfrom⟩, horder⟩,
      hcolumns⟩

theorem prepareMnrMultiNegatives_iff (hd : IsEmbedding lib dataset) :
    (∃ dataset', prepareMnrMultiNegatives lib dataset = .ok dataset' ∧
      IsMultiColumns (lib.columnNames dataset')) ↔
      (HasLists lib dataset ∧ FitsLists lib dataset ∨
        ¬ HasLists lib dataset ∧ "query" ∈ lib.columnNames dataset ∧
          HasStandard (lib.columnNames dataset) "positive" ∧
          (HasStandard (lib.columnNames dataset) "negative" ∨
            HasStandard (lib.columnNames dataset) "negative_scores")) := by
  by_cases hlists : HasLists lib dataset
  · rw [prepareMnrMultiNegatives_lists_iff hd hlists]
    simp [hlists]
  · rw [prepareMnrMultiNegatives_eq, expandArrays_other hd.nonempty hlists]
    have horder := @orderMultiNegatives_iff D lib dataset hd.isPlain
    rw [hd.exists_negative_iff] at horder
    refine Iff.trans horder ?_
    simp [hlists]

end Lists

end Embedding
