import Mathlib.Data.List.Flatten
import TrainFactory.Embedding.Recipe
import TrainFactory.Lib.Result

/-!
# Detection and preparation

A dataset whose format is detected is prepared for it, with the columns that the format requires, if
and only if it has the columns under the names that the branch of the format reads.
-/

namespace Embedding

open Lib

section Operations

variable {D : Type} {lib : DatasetLibrary D} {dataset : D}

/-! ## Columns in order -/

theorem ensureColumnsOrder_of_subset {ordered : List String} (hnodup : ordered.Nodup)
    (h : ∀ c ∈ ordered, c ∈ lib.columnNames dataset) :
    ∃ dataset', ensureColumnsOrder lib dataset ordered = .ok dataset' ∧
      lib.columnNames dataset' = ordered ∧
      lib.rows dataset' = (lib.rows dataset).map fun row => Row.select row ordered := by
  have hmissing : ordered.filter (fun c => c ∉ lib.columnNames dataset) = [] := by
    rw [List.filter_eq_nil_iff]
    intro c hc
    simpa using h c hc
  have hexisting : ordered.filter (fun c => c ∈ lib.columnNames dataset) = ordered := by
    rw [List.filter_eq_self]
    intro c hc
    simpa using h c hc
  have hselect := lib.selectColumns_ok dataset ordered h hnodup
  unfold ensureColumnsOrder
  rw [hmissing, hexisting]
  exact hselect

theorem subset_of_ensureColumnsOrder {ordered : List String} {dataset' : D}
    (h : ensureColumnsOrder lib dataset ordered = .ok dataset') :
    ∀ c ∈ ordered, c ∈ lib.columnNames dataset := by
  intro c hc
  by_contra hnot
  unfold ensureColumnsOrder at h
  dsimp only at h
  obtain ⟨hmissing, -⟩ := ite_error_eq_ok.mp h
  refine hmissing fun hnil => ?_
  have hmem : c ∈ ordered.filter fun c => c ∉ lib.columnNames dataset :=
    List.mem_filter.mpr ⟨hc, by simpa using hnot⟩
  rw [hnil] at hmem
  cases hmem

theorem ensureColumnsOrder_spec {ordered : List String} (hnodup : ordered.Nodup) {dataset' : D}
    (h : ensureColumnsOrder lib dataset ordered = .ok dataset') :
    lib.columnNames dataset' = ordered ∧
      lib.rows dataset' = (lib.rows dataset).map fun row => Row.select row ordered := by
  obtain ⟨d, hd, hspec⟩ := ensureColumnsOrder_of_subset hnodup (subset_of_ensureColumnsOrder h)
  obtain rfl := Except.ok.inj (hd.symm.trans h)
  exact hspec

theorem ensureColumnsOrder_iff {ordered : List String} (hnodup : ordered.Nodup) :
    (∃ dataset', ensureColumnsOrder lib dataset ordered = .ok dataset' ∧
      lib.columnNames dataset' = ordered) ↔ ∀ c ∈ ordered, c ∈ lib.columnNames dataset := by
  constructor
  · rintro ⟨dataset', h, -⟩
    exact subset_of_ensureColumnsOrder h
  · intro h
    obtain ⟨dataset', hok, hcolumns, -⟩ := ensureColumnsOrder_of_subset hnodup h
    exact ⟨dataset', hok, hcolumns⟩

/-! ## Other names -/

def mappingNames (mapping : List (String × String)) : List String :=
  mapping.flatMap fun e => [e.1, e.2]

def Renamed (columns : List String) (mapping : List (String × String)) (c : String) : Prop :=
  c ∈ columns ∧ c ∉ mapping.map Prod.fst ∨ ∃ e ∈ mapping, e.2 = c ∧ e.1 ∈ columns

theorem mem_rename {columns : List String} {src dst c : String} :
    c ∈ columns.map (fun column => if column = src then dst else column) ↔
      c ∈ columns ∧ c ≠ src ∨ c = dst ∧ src ∈ columns := by
  rw [List.mem_map]
  constructor
  · rintro ⟨c', hc', rfl⟩
    by_cases heq : c' = src
    · rw [if_pos heq]
      exact Or.inr ⟨rfl, heq ▸ hc'⟩
    · rw [if_neg heq]
      exact Or.inl ⟨hc', heq⟩
  · rintro (⟨hc, hne⟩ | ⟨rfl, hsrc⟩)
    · exact ⟨c, hc, if_neg hne⟩
    · exact ⟨src, hsrc, if_pos rfl⟩

theorem mem_mappingNames {mapping : List (String × String)} {e : String × String}
    (he : e ∈ mapping) : e.1 ∈ mappingNames mapping ∧ e.2 ∈ mappingNames mapping :=
  ⟨List.mem_flatMap.mpr ⟨e, he, List.mem_cons_self ..⟩,
    List.mem_flatMap.mpr ⟨e, he, List.mem_cons_of_mem _ (List.mem_singleton_self _)⟩⟩

theorem apart_of_nodup {mapping : List (String × String)} {src dst : String}
    (h : (mappingNames ((src, dst) :: mapping)).Nodup) :
    src ≠ dst ∧ src ∉ mappingNames mapping ∧ dst ∉ mappingNames mapping ∧
      (mappingNames mapping).Nodup := by
  have hcons : mappingNames ((src, dst) :: mapping) = src :: dst :: mappingNames mapping := rfl
  rw [hcons, List.nodup_cons, List.nodup_cons] at h
  obtain ⟨hsrc, hdst, hnodup⟩ := h
  exact ⟨fun heq => hsrc (heq ▸ List.mem_cons_self ..),
    fun hmem => hsrc (List.mem_cons_of_mem _ hmem), hdst, hnodup⟩

theorem renamed_cons_iff {columns columns' : List String} {mapping : List (String × String)}
    {src dst c : String} (hnodup : (mappingNames ((src, dst) :: mapping)).Nodup)
    (hthere : src ∈ columns) (hmem : ∀ c, c ∈ columns' ↔ c ∈ columns ∧ c ≠ src ∨ c = dst) :
    Renamed columns' mapping c ↔ Renamed columns ((src, dst) :: mapping) c := by
  obtain ⟨hne, hsrc, hdst, -⟩ := apart_of_nodup hnodup
  have hfirst : ∀ e ∈ mapping, (e.1 ∈ columns' ↔ e.1 ∈ columns) := by
    intro e he
    have hnames := (mem_mappingNames he).1
    have hes : e.1 ≠ src := fun heq => hsrc (heq ▸ hnames)
    have hed : e.1 ≠ dst := fun heq => hdst (heq ▸ hnames)
    simp [hmem, hes, hed]
  have hfst : dst ∉ mapping.map Prod.fst := fun h => by
    obtain ⟨e, he, heq⟩ := List.mem_map.mp h
    exact hdst (heq ▸ (mem_mappingNames he).1)
  constructor
  · rintro (⟨hc, hnot⟩ | ⟨e, he, hec, hthere'⟩)
    · rcases (hmem c).mp hc with ⟨hc, hcs⟩ | rfl
      · refine Or.inl ⟨hc, fun h => ?_⟩
        rcases List.mem_cons.mp h with h | h
        · exact hcs h
        · exact hnot h
      · exact Or.inr ⟨(src, c), List.mem_cons_self .., rfl, hthere⟩
    · exact Or.inr ⟨e, List.mem_cons_of_mem _ he, hec, (hfirst e he).mp hthere'⟩
  · rintro (⟨hc, hnot⟩ | ⟨e, he, hec, hthere'⟩)
    · refine Or.inl ⟨(hmem c).mpr (Or.inl ⟨hc, fun h => hnot ?_⟩), fun h => hnot ?_⟩
      · rw [h]
        exact List.mem_cons_self ..
      · exact List.mem_cons_of_mem _ h
    · rcases List.mem_cons.mp he with rfl | he
      · obtain rfl : dst = c := hec
        exact Or.inl ⟨(hmem dst).mpr (Or.inr rfl), hfst⟩
      · exact Or.inr ⟨e, he, hec, (hfirst e he).mpr hthere'⟩

theorem renamed_cons_of_notMem {columns : List String} {mapping : List (String × String)}
    {src dst c : String} (hnot : src ∉ columns) :
    Renamed columns mapping c ↔ Renamed columns ((src, dst) :: mapping) c := by
  constructor
  · rintro (⟨hc, hfst⟩ | ⟨e, he, h⟩)
    · refine Or.inl ⟨hc, fun h => ?_⟩
      rcases List.mem_cons.mp h with h | h
      · have hcs : c = src := h
        exact hnot (hcs ▸ hc)
      · exact hfst h
    · exact Or.inr ⟨e, List.mem_cons_of_mem _ he, h⟩
  · rintro (⟨hc, hfst⟩ | ⟨e, he, hec, hthere⟩)
    · exact Or.inl ⟨hc, fun h => hfst (List.mem_cons_of_mem _ h)⟩
    · rcases List.mem_cons.mp he with rfl | he
      · exact absurd hthere hnot
      · exact Or.inr ⟨e, he, hec, hthere⟩

/-- The columns and the rows under other names. -/
structure IsRenamed (lib : DatasetLibrary D) (dataset dataset' : D)
    (mapping : List (String × String)) : Prop where
  columns : ∀ c, c ∈ lib.columnNames dataset' ↔ Renamed (lib.columnNames dataset) mapping c
  rows : ∃ g : Row → Row, lib.rows dataset' = (lib.rows dataset).map g ∧
    ∀ row c, c ∉ mappingNames mapping → g row c = row c

theorem renameColumns_ok {mapping : List (String × String)} (hnodup : (mappingNames mapping).Nodup)
    (h : ∀ e ∈ mapping, e.1 ∈ lib.columnNames dataset → e.2 ∉ lib.columnNames dataset) :
    ∃ dataset', renameColumns lib dataset mapping = .ok dataset' ∧
      IsRenamed lib dataset dataset' mapping := by
  induction mapping generalizing dataset with
  | nil =>
    refine ⟨dataset, rfl, fun c => ?_, id, (List.map_id _).symm, fun row c _ => rfl⟩
    simp [Renamed]
  | cons e mapping ih =>
    obtain ⟨src, dst⟩ := e
    obtain ⟨hne, hsrc, hdst, hrest⟩ := apart_of_nodup hnodup
    by_cases hthere : src ∈ lib.columnNames dataset
    · have hnot := h _ (List.mem_cons_self ..) hthere
      obtain ⟨d, hd, hcolumns, hrows⟩ := lib.renameColumn_ok dataset src dst hthere hnot
      have hmem (c : String) : c ∈ lib.columnNames d ↔
          c ∈ lib.columnNames dataset ∧ c ≠ src ∨ c = dst := by
        rw [hcolumns, mem_rename, and_iff_left hthere]
      have hother (c : String) (hc : c ∈ mappingNames mapping) :
          c ∈ lib.columnNames d ↔ c ∈ lib.columnNames dataset := by
        have hcs : c ≠ src := fun heq => hsrc (heq ▸ hc)
        have hcd : c ≠ dst := fun heq => hdst (heq ▸ hc)
        simp [hmem, hcs, hcd]
      obtain ⟨d', hd', hrenamed⟩ := @ih d hrest fun e he h1 h2 =>
        h e (List.mem_cons_of_mem _ he) ((hother _ (mem_mappingNames he).1).mp h1)
          ((hother _ (mem_mappingNames he).2).mp h2)
      obtain ⟨g, hg, hsame⟩ := hrenamed.rows
      refine ⟨d', ?_, fun c => ?_, fun row => g (Row.rename row src dst), ?_, fun row c hc => ?_⟩
      · rw [renameColumns, if_pos ⟨hthere, hne⟩, hd]
        exact hd'
      · rw [hrenamed.columns c]
        exact renamed_cons_iff hnodup hthere hmem
      · rw [hg, hrows, List.map_map]
        rfl
      · have hcs : c ≠ src := fun heq => hc (heq ▸ List.mem_cons_self ..)
        have hcd : c ≠ dst := fun heq =>
          hc (heq ▸ List.mem_cons_of_mem _ (List.mem_cons_self ..))
        have hrest : c ∉ mappingNames mapping := fun hmem =>
          hc (List.mem_cons_of_mem _ (List.mem_cons_of_mem _ hmem))
        dsimp only
        rw [hsame _ c hrest, Row.rename, if_neg hcd, if_neg hcs]
    · obtain ⟨d', hd', hrenamed⟩ := @ih dataset hrest fun e he =>
        h e (List.mem_cons_of_mem _ he)
      obtain ⟨g, hg, hsame⟩ := hrenamed.rows
      refine ⟨d', ?_, fun c => ?_, g, hg, fun row c hc => hsame row c fun hmem => hc ?_⟩
      · rw [renameColumns, if_neg fun hand => hthere hand.1]
        exact hd'
      · rw [hrenamed.columns c]
        exact renamed_cons_of_notMem hthere
      · exact List.mem_cons_of_mem _ (List.mem_cons_of_mem _ hmem)

/-- A column that is renamed was not there under its new name. -/
theorem notMem_of_renameColumns {mapping : List (String × String)} {dataset' : D}
    (hnodup : (mappingNames mapping).Nodup)
    (h : renameColumns lib dataset mapping = .ok dataset') :
    ∀ e ∈ mapping, e.1 ∈ lib.columnNames dataset → e.2 ∉ lib.columnNames dataset := by
  induction mapping generalizing dataset with
  | nil => exact fun e he => nomatch he
  | cons e mapping ih =>
    obtain ⟨src, dst⟩ := e
    obtain ⟨hne, hsrc, hdst, hrest⟩ := apart_of_nodup hnodup
    unfold renameColumns at h
    split at h
    · rename_i hand
      cases hd : lib.renameColumn dataset src dst with
      | error e =>
        rw [hd] at h
        cases h
      | ok d =>
        rw [hd] at h
        have hnot : dst ∉ lib.columnNames dataset := fun hmem => by
          obtain ⟨e, he⟩ := lib.renameColumn_error dataset src dst hmem
          rw [he] at hd
          cases hd
        obtain ⟨d', hd', hcolumns, -⟩ := lib.renameColumn_ok dataset src dst hand.1 hnot
        obtain rfl := Except.ok.inj (hd'.symm.trans hd)
        have hother (c : String) (hc : c ∈ mappingNames mapping) :
            c ∈ lib.columnNames d' ↔ c ∈ lib.columnNames dataset := by
          have hcs : c ≠ src := fun heq => hsrc (heq ▸ hc)
          have hcd : c ≠ dst := fun heq => hdst (heq ▸ hc)
          rw [hcolumns, mem_rename]
          simp [hcs, hcd]
        intro e he hthere
        rcases List.mem_cons.mp he with rfl | he
        · exact hnot
        · intro hmem
          exact ih hrest h e he ((hother _ (mem_mappingNames he).1).mpr hthere)
            ((hother _ (mem_mappingNames he).2).mpr hmem)
    · rename_i hand
      intro e he hthere
      rcases List.mem_cons.mp he with rfl | he
      · exact absurd ⟨hthere, hne⟩ hand
      · exact ih hrest h e he hthere

theorem renameColumns_spec {mapping : List (String × String)} {dataset' : D}
    (hnodup : (mappingNames mapping).Nodup)
    (h : renameColumns lib dataset mapping = .ok dataset') :
    IsRenamed lib dataset dataset' mapping := by
  obtain ⟨d', hd', hrenamed⟩ := renameColumns_ok hnodup (notMem_of_renameColumns hnodup h)
  obtain rfl := Except.ok.inj (hd'.symm.trans h)
  exact hrenamed

/-! ## Pairs and triplets of texts -/

/-- The short names that `_standardize_mnr_columns` renames, among those that the detection knows. -/
def shortNames : List (String × String) :=
  [("pos", "positive"), ("neg", "negative"), ("neg_scores", "negative_scores")]

/-- There is a column of a name, or of a short form of it. -/
def HasStandard (columns : List String) (c : String) : Prop :=
  c ∈ columns ∨ ∃ e ∈ shortNames, e.2 = c ∧ e.1 ∈ columns

theorem hasStandard_query {columns : List String} :
    HasStandard columns "query" ↔ "query" ∈ columns := by
  simp [HasStandard, shortNames]

def IsStandardMnr (columns columns' : List String) : Prop :=
  ∀ c, c ∉ shortNames.map Prod.fst → (c ∈ columns' ↔ HasStandard columns c)

/-- No negatives are numbered under short names; the scores of negatives may be there. -/
def IsPlain (columns : List String) : Prop :=
  ∀ c ∈ columns, startsWith c "neg_" = true → c = "neg_scores"

def numberedRenaming (columns : List String) (c : String) : Option (String × String) :=
  let newCol := "negative_" ++ dropChars c 4
  if startsWith c "neg_" ∧ newCol ∉ columns then some (c, newCol) else none

theorem numberedRenaming_eq_some {columns : List String} (h : IsPlain columns) {c : String}
    (hc : c ∈ columns) {e : String × String} :
    numberedRenaming columns c = some e ↔
      c = "neg_scores" ∧ "negative_scores" ∉ columns ∧ e = ("neg_scores", "negative_scores") := by
  have hname : "negative_" ++ dropChars "neg_scores" 4 = "negative_scores" := by decide
  have hstarts : startsWith "neg_scores" "neg_" = true := by decide
  unfold numberedRenaming
  constructor
  · intro hsome
    dsimp only at hsome
    split at hsome
    · rename_i hand
      obtain rfl := h c hc hand.1
      rw [hname] at hand hsome
      exact ⟨rfl, hand.2, (Option.some.inj hsome).symm⟩
    · cases hsome
  · rintro ⟨rfl, hnot, rfl⟩
    dsimp only
    rw [hname, if_pos ⟨hstarts, hnot⟩]

theorem filterMap_numberedRenaming {columns : List String} (hnodup : columns.Nodup)
    (h : IsPlain columns) :
    columns.filterMap (numberedRenaming columns) =
      if "neg_scores" ∈ columns ∧ "negative_scores" ∉ columns then
        [("neg_scores", "negative_scores")] else [] := by
  have hmem (e : String × String) : e ∈ columns.filterMap (numberedRenaming columns) ↔
      ("neg_scores" ∈ columns ∧ "negative_scores" ∉ columns) ∧
        e = ("neg_scores", "negative_scores") := by
    rw [List.mem_filterMap]
    constructor
    · rintro ⟨c, hc, hsome⟩
      obtain ⟨rfl, hnot, rfl⟩ := (numberedRenaming_eq_some h hc).mp hsome
      exact ⟨⟨hc, hnot⟩, rfl⟩
    · rintro ⟨⟨hc, hnot⟩, rfl⟩
      exact ⟨"neg_scores", hc, (numberedRenaming_eq_some h hc).mpr ⟨rfl, hnot, rfl⟩⟩
  have hfst (c : String) (e : String × String) (hsome : numberedRenaming columns c = some e) :
      e.1 = c := by
    unfold numberedRenaming at hsome
    dsimp only at hsome
    split at hsome
    · obtain rfl := Option.some.inj hsome
      rfl
    · cases hsome
  have hmapping : (columns.filterMap (numberedRenaming columns)).Nodup :=
    hnodup.filterMap fun c c' e he he' =>
      (hfst c e (Option.mem_def.mp he)).symm.trans (hfst c' e (Option.mem_def.mp he'))
  by_cases hthere : "neg_scores" ∈ columns ∧ "negative_scores" ∉ columns
  · rw [if_pos hthere]
    refine ((List.perm_ext_iff_of_nodup hmapping (List.nodup_singleton _)).mpr fun e => ?_).eq_singleton
    rw [hmem e, List.mem_singleton, and_iff_right hthere]
  · rw [if_neg hthere]
    exact List.eq_nil_iff_forall_not_mem.mpr fun e he => hthere ((hmem e).mp he).1

theorem standardizeMnrColumns_eq (h : IsPlain (lib.columnNames dataset)) :
    standardizeMnrColumns lib dataset = renameColumns lib dataset (shortNames.filter fun e =>
      e.1 ∈ lib.columnNames dataset ∧ e.2 ∉ lib.columnNames dataset) := by
  have hnumbered := filterMap_numberedRenaming (lib.columnNames_nodup dataset) h
  unfold numberedRenaming at hnumbered
  unfold standardizeMnrColumns
  dsimp only at hnumbered ⊢
  rw [hnumbered]
  congr 1
  by_cases hpos : "pos" ∈ lib.columnNames dataset <;>
    by_cases hpositive : "positive" ∈ lib.columnNames dataset <;>
      by_cases hneg : "neg" ∈ lib.columnNames dataset <;>
        by_cases hnegative : "negative" ∈ lib.columnNames dataset <;>
          simp [shortNames, hpos, hpositive, hneg, hnegative, List.filter_cons]

theorem standardizeMnrColumns_ok (h : IsPlain (lib.columnNames dataset)) :
    ∃ dataset', standardizeMnrColumns lib dataset = .ok dataset' ∧
      IsStandardMnr (lib.columnNames dataset) (lib.columnNames dataset') := by
  set mapping := shortNames.filter fun e =>
    e.1 ∈ lib.columnNames dataset ∧ e.2 ∉ lib.columnNames dataset with hmapping
  have hmem (e : String × String) : e ∈ mapping ↔
      e ∈ shortNames ∧ e.1 ∈ lib.columnNames dataset ∧ e.2 ∉ lib.columnNames dataset := by
    rw [hmapping, List.mem_filter, decide_eq_true_eq]
  have hnames : (mappingNames shortNames).Nodup := by decide
  have hnodup : (mappingNames mapping).Nodup :=
    hnames.sublist (List.filter_sublist.flatMap _)
  obtain ⟨d', hd', hrenamed⟩ := renameColumns_ok hnodup fun e he _ => ((hmem e).mp he).2.2
  refine ⟨d', (standardizeMnrColumns_eq h).trans hd', fun c hc => ?_⟩
  rw [hrenamed.columns]
  constructor
  · rintro (⟨hthere, -⟩ | ⟨e, he, heq, hthere⟩)
    · exact Or.inl hthere
    · exact Or.inr ⟨e, ((hmem e).mp he).1, heq, hthere⟩
  · intro hstandard
    by_cases hthere : c ∈ lib.columnNames dataset
    · refine Or.inl ⟨hthere, fun hfst => hc ?_⟩
      exact (List.filter_sublist.map Prod.fst).subset hfst
    · obtain ⟨e, he, rfl, hsrc⟩ := hstandard.resolve_left hthere
      exact Or.inr ⟨e, (hmem e).mpr ⟨he, hsrc, hthere⟩, rfl, hsrc⟩

theorem ensureColumnsOrder_anchor_iff {ordered : List String} (hnodup : ordered.Nodup)
    (hanchor : "anchor" ∉ ordered) :
    (∃ dataset', (ensureColumnsOrder lib dataset ordered >>= fun d =>
        renameColumns lib d [("query", "anchor")]) = .ok dataset' ∧
      lib.columnNames dataset' = ordered.map fun c => if c = "query" then "anchor" else c) ↔
      ∀ c ∈ ordered, c ∈ lib.columnNames dataset := by
  constructor
  · rintro ⟨dataset', h, -⟩
    obtain ⟨d, hd, -⟩ := bind_eq_ok.mp h
    exact subset_of_ensureColumnsOrder hd
  · intro h
    obtain ⟨d, hd, hcolumns, -⟩ := ensureColumnsOrder_of_subset hnodup h
    by_cases hquery : "query" ∈ ordered
    · obtain ⟨d', hd', hcolumns', -⟩ := lib.renameColumn_ok d "query" "anchor" (hcolumns ▸ hquery)
        (hcolumns ▸ hanchor)
      refine ⟨d', bind_eq_ok.mpr ⟨d, hd, ?_⟩, hcolumns ▸ hcolumns'⟩
      rw [renameColumns, if_pos ⟨hcolumns ▸ hquery, by decide⟩, hd']
      rfl
    · refine ⟨d, bind_eq_ok.mpr ⟨d, hd, ?_⟩, ?_⟩
      · rw [renameColumns, if_neg fun hand => hquery (hcolumns ▸ hand.1)]
        rfl
      · rw [hcolumns]
        conv_lhs => rw [← List.map_id ordered]
        exact List.map_congr_left fun c hc => (if_neg fun (heq : c = "query") => hquery (heq ▸ hc)).symm

theorem prepareMnr_iff (hplain : IsPlain (lib.columnNames dataset))
    {ordered : List String} (hnodup : ordered.Nodup)
    (hnames : ∀ c ∈ ordered, c ≠ "anchor" ∧ c ∉ shortNames.map Prod.fst) :
    (∃ dataset', prepareMnr lib dataset ordered = .ok dataset' ∧
      lib.columnNames dataset' = ordered.map fun c => if c = "query" then "anchor" else c) ↔
      ∀ c ∈ ordered, HasStandard (lib.columnNames dataset) c := by
  obtain ⟨d, hd, hstandard⟩ := standardizeMnrColumns_ok hplain
  have hprepare : prepareMnr lib dataset ordered =
      (ensureColumnsOrder lib d ordered >>= fun d => renameColumns lib d [("query", "anchor")]) := by
    rw [prepareMnr, hd]
    rfl
  rw [hprepare, ensureColumnsOrder_anchor_iff hnodup fun h => (hnames _ h).1 rfl]
  refine forall₂_congr fun c hc => ?_
  exact hstandard c (hnames c hc).2

/-! ## Pairs with a label -/

theorem eq_of_mem_cosineAliases : ∀ entry ∈ cosinePairColumnAliases,
    ∀ entry' ∈ cosinePairColumnAliases, ∀ c ∈ entry.2, c ∈ entry'.2 → entry = entry' := by
  decide +kernel

theorem mem_cosineAliases : ∀ entry ∈ cosinePairColumnAliases, entry.1 ∈ entry.2 := by
  decide +kernel

/-- What a group of names gives the mapping. -/
def cosineRenaming (columns : List String) (entry : String × List String) :
    Option (String × String) :=
  if entry.1 ∈ columns then none
  else (entry.2.find? fun name => name ∈ columns ∧ name ≠ entry.1).map fun name => (name, entry.1)

theorem cosineRenaming_eq_some {columns : List String} {entry : String × List String}
    {e : String × String} (h : cosineRenaming columns entry = some e) :
    e.2 = entry.1 ∧ entry.1 ∉ columns ∧ e.1 ∈ entry.2 ∧ e.1 ∈ columns ∧ e.1 ≠ e.2 := by
  unfold cosineRenaming at h
  split at h
  · cases h
  · rename_i hnot
    obtain ⟨name, hfind, rfl⟩ := Option.map_eq_some_iff.mp h
    have hname := List.find?_some hfind
    simp only [decide_eq_true_eq] at hname
    exact ⟨rfl, hnot, List.mem_of_find?_eq_some hfind, hname⟩

theorem cosineRenaming_eq_none_iff {columns : List String} {entry : String × List String}
    (hnot : entry.1 ∉ columns) :
    cosineRenaming columns entry = none ↔ ∀ name ∈ entry.2, name ∉ columns := by
  rw [cosineRenaming, if_neg hnot, Option.map_eq_none_iff, List.find?_eq_none]
  refine forall₂_congr fun name _ => ?_
  simp only [decide_eq_true_eq, not_and, not_not]
  constructor
  · intro h hmem
    exact hnot (h hmem ▸ hmem)
  · exact fun h hmem => absurd hmem h

theorem nodup_mappingNames_filterMap {table : List (String × List String)}
    {f : String × List String → Option (String × String)}
    (hf : ∀ entry ∈ table, ∀ e, f entry = some e → e.1 ∈ entry.2 ∧ e.2 ∈ entry.2 ∧ e.1 ≠ e.2)
    (hapart : table.Pairwise fun x y => List.Disjoint x.2 y.2) :
    (mappingNames (table.filterMap f)).Nodup := by
  induction table with
  | nil => exact List.nodup_nil
  | cons entry table ih =>
    obtain ⟨hfirst, hapart⟩ := List.pairwise_cons.mp hapart
    have hrest := ih (fun entry' h => hf entry' (List.mem_cons_of_mem _ h)) hapart
    cases hentry : f entry with
    | none => rwa [List.filterMap_cons_none hentry]
    | some e =>
      obtain ⟨hsrc, hdst, hne⟩ := hf entry (List.mem_cons_self ..) e hentry
      have hother : ∀ c ∈ entry.2, c ∉ mappingNames (table.filterMap f) := by
        intro c hc hmem
        obtain ⟨e', he', hce⟩ := List.mem_flatMap.mp hmem
        obtain ⟨entry', hentry', he'⟩ := List.mem_filterMap.mp he'
        obtain ⟨hsrc', hdst', -⟩ := hf entry' (List.mem_cons_of_mem _ hentry') e' he'
        refine hfirst entry' hentry' hc ?_
        rcases List.mem_cons.mp hce with rfl | hce
        · exact hsrc'
        · obtain rfl := List.mem_singleton.mp hce
          exact hdst'
      have hcons : mappingNames (e :: table.filterMap f) =
          e.1 :: e.2 :: mappingNames (table.filterMap f) := rfl
      rw [List.filterMap_cons_some hentry, hcons, List.nodup_cons, List.nodup_cons]
      refine ⟨fun hmem => ?_, hother _ hdst, hrest⟩
      rcases List.mem_cons.mp hmem with heq | hmem
      · exact hne heq
      · exact hother _ hsrc hmem

theorem disjoint_cosineAliases :
    cosinePairColumnAliases.Pairwise fun x y => List.Disjoint x.2 y.2 := by
  simp [cosinePairColumnAliases, List.Disjoint]

theorem standardizeCosinePairColumns_ok :
    ∃ dataset', standardizeCosinePairColumns lib dataset = .ok dataset' ∧
      ∀ entry ∈ cosinePairColumnAliases, (entry.1 ∈ lib.columnNames dataset' ↔
        ∃ name ∈ entry.2, name ∈ lib.columnNames dataset) := by
  have hnodup : (mappingNames (cosinePairColumnAliases.filterMap
      (cosineRenaming (lib.columnNames dataset)))).Nodup := by
    refine nodup_mappingNames_filterMap (fun entry hentry e he => ?_) disjoint_cosineAliases
    obtain ⟨heq, -, hmem, -, hne⟩ := cosineRenaming_eq_some he
    exact ⟨hmem, heq ▸ mem_cosineAliases entry hentry, hne⟩
  obtain ⟨d, hd, hrenamed⟩ := @renameColumns_ok D lib dataset _ hnodup fun e he _ => by
    obtain ⟨entry, -, he⟩ := List.mem_filterMap.mp he
    obtain ⟨heq, hnot, -⟩ := cosineRenaming_eq_some he
    exact heq ▸ hnot
  refine ⟨d, hd, fun entry hentry => ?_⟩
  rw [hrenamed.columns]
  by_cases hthere : entry.1 ∈ lib.columnNames dataset
  · refine iff_of_true (Or.inl ⟨hthere, fun hmem => ?_⟩)
      ⟨entry.1, mem_cosineAliases entry hentry, hthere⟩
    obtain ⟨e, he, heq⟩ := List.mem_map.mp hmem
    obtain ⟨entry', hentry', he⟩ := List.mem_filterMap.mp he
    obtain ⟨-, hnot, hsrc, -⟩ := cosineRenaming_eq_some he
    have hsame := eq_of_mem_cosineAliases entry hentry entry' hentry' entry.1
      (mem_cosineAliases entry hentry) (heq ▸ hsrc)
    exact hnot (hsame ▸ hthere)
  · cases hentry' : cosineRenaming (lib.columnNames dataset) entry with
    | none =>
      have hnone := (cosineRenaming_eq_none_iff hthere).mp hentry'
      refine iff_of_false ?_ fun ⟨name, hname, hmem⟩ => hnone name hname hmem
      rintro (⟨hmem, -⟩ | ⟨e, he, heq, -⟩)
      · exact hthere hmem
      · obtain ⟨other, hother, he⟩ := List.mem_filterMap.mp he
        obtain ⟨heq', -⟩ := cosineRenaming_eq_some he
        have hsame := eq_of_mem_cosineAliases entry hentry other hother entry.1
          (mem_cosineAliases entry hentry)
          (by rw [← heq, heq']; exact mem_cosineAliases other hother)
        rw [← hsame, hentry'] at he
        cases he
    | some e =>
      obtain ⟨heq, -, hname, hmem, -⟩ := cosineRenaming_eq_some hentry'
      exact iff_of_true (Or.inr ⟨e, List.mem_filterMap.mpr ⟨entry, hentry, hentry'⟩, heq, hmem⟩)
        ⟨e.1, hname, hmem⟩

theorem prepareCosinePairs_iff :
    (∃ dataset', prepareCosinePairs lib dataset = .ok dataset' ∧
      lib.columnNames dataset' = ["sentence1", "sentence2", "label"]) ↔
      ∀ entry ∈ cosinePairColumnAliases, ∃ name ∈ entry.2, name ∈ lib.columnNames dataset := by
  obtain ⟨d, hd, hcolumns⟩ := @standardizeCosinePairColumns_ok D lib dataset
  have hprepare : prepareCosinePairs lib dataset =
      ensureColumnsOrder lib d ["sentence1", "sentence2", "label"] := by
    rw [prepareCosinePairs, hd]
    rfl
  have hnames : ["sentence1", "sentence2", "label"] = cosinePairColumnAliases.map Prod.fst := rfl
  rw [hprepare, ensureColumnsOrder_iff (by decide), hnames, List.forall_mem_map]
  exact forall₂_congr hcolumns

/-! ## Labelled triplets -/

/-- There is a column under one of two names. -/
def HasOneOf (columns : List String) (c c' : String) : Prop :=
  c ∈ columns ∧ c' ∉ columns ∨ c ∉ columns ∧ c' ∈ columns

theorem hasOneOf_iff {columns : List String} {c c' : String} :
    HasOneOf columns c c' ↔ (c' ∈ columns → c ∉ columns) ∧ (c ∈ columns ∨ c' ∈ columns) := by
  unfold HasOneOf
  by_cases hc : c ∈ columns <;> by_cases hc' : c' ∈ columns <;> simp [hc, hc']

theorem renamed_other_iff {columns : List String} {mapping : List (String × String)} {c : String}
    (hc : c ∉ mappingNames mapping) : Renamed columns mapping c ↔ c ∈ columns := by
  have hfst : c ∉ mapping.map Prod.fst := fun h => by
    obtain ⟨e, he, rfl⟩ := List.mem_map.mp h
    exact hc (mem_mappingNames he).1
  constructor
  · rintro (⟨hmem, -⟩ | ⟨e, he, rfl, -⟩)
    · exact hmem
    · exact absurd (mem_mappingNames he).2 hc
  · exact fun hmem => Or.inl ⟨hmem, hfst⟩

/-- A new name is there if it was or if the old one was. -/
theorem renamed_new_iff {columns : List String} {mapping : List (String × String)}
    {src dst : String} (hnodup : (mappingNames mapping).Nodup) (he : (src, dst) ∈ mapping) :
    Renamed columns mapping dst ↔ dst ∈ columns ∨ src ∈ columns := by
  induction mapping with
  | nil => cases he
  | cons e mapping ih =>
    obtain ⟨src', dst'⟩ := e
    obtain ⟨hne, hsrc, hdst, hrest⟩ := apart_of_nodup hnodup
    have hother (c : String) (hc : c ∉ mappingNames mapping) : c ∉ mapping.map Prod.fst :=
      fun h => by
        obtain ⟨e, he, rfl⟩ := List.mem_map.mp h
        exact hc (mem_mappingNames he).1
    rcases List.mem_cons.mp he with heq | he
    · obtain ⟨rfl, rfl⟩ := Prod.mk.inj heq
      constructor
      · rintro (⟨hmem, -⟩ | ⟨e, he, hed, hthere⟩)
        · exact Or.inl hmem
        · rcases List.mem_cons.mp he with rfl | he
          · exact Or.inr hthere
          · exact absurd (hed ▸ (mem_mappingNames he).2) hdst
      · rintro (hmem | hthere)
        · refine Or.inl ⟨hmem, fun h => ?_⟩
          rcases List.mem_cons.mp h with h | h
          · exact hne h.symm
          · exact hother dst hdst h
        · exact Or.inr ⟨(src, dst), List.mem_cons_self .., rfl, hthere⟩
    · have hnames := mem_mappingNames he
      have hdst' : dst ≠ src' := fun heq => hsrc (heq ▸ hnames.2)
      have hdst'' : dst' ≠ dst := fun heq => hdst (heq ▸ hnames.2)
      rw [← ih hrest he]
      constructor
      · rintro (⟨hmem, hnot⟩ | ⟨e, he, hed, hthere⟩)
        · exact Or.inl ⟨hmem, fun h => hnot (List.mem_cons_of_mem _ h)⟩
        · rcases List.mem_cons.mp he with rfl | he
          · exact absurd hed hdst''
          · exact Or.inr ⟨e, he, hed, hthere⟩
      · rintro (⟨hmem, hnot⟩ | ⟨e, he, hed, hthere⟩)
        · refine Or.inl ⟨hmem, fun h => ?_⟩
          rcases List.mem_cons.mp h with h | h
          · exact hdst' h
          · exact hnot h
        · exact Or.inr ⟨e, List.mem_cons_of_mem _ he, hed, hthere⟩

theorem renameColumns_order_iff {mapping : List (String × String)}
    (hnodup : (mappingNames mapping).Nodup) {ordered : List String} (hordered : ordered.Nodup) :
    (∃ dataset', (renameColumns lib dataset mapping >>= fun d =>
        ensureColumnsOrder lib d ordered) = .ok dataset' ∧ lib.columnNames dataset' = ordered) ↔
      (∀ e ∈ mapping, e.1 ∈ lib.columnNames dataset → e.2 ∉ lib.columnNames dataset) ∧
        ∀ c ∈ ordered, Renamed (lib.columnNames dataset) mapping c := by
  constructor
  · rintro ⟨dataset', h, -⟩
    obtain ⟨d, hd, horder⟩ := bind_eq_ok.mp h
    have hrenamed := renameColumns_spec hnodup hd
    exact ⟨notMem_of_renameColumns hnodup hd, fun c hc =>
      (hrenamed.columns c).mp (subset_of_ensureColumnsOrder horder c hc)⟩
  · rintro ⟨hfree, hall⟩
    obtain ⟨d, hd, hrenamed⟩ := renameColumns_ok hnodup hfree
    obtain ⟨d', hd', hcolumns⟩ := (ensureColumnsOrder_iff hordered).mpr fun c hc =>
      (hrenamed.columns c).mpr (hall c hc)
    exact ⟨d', bind_eq_ok.mpr ⟨d, hd, hd'⟩, hcolumns⟩

theorem prepareMarginTriplets_iff :
    (∃ dataset', prepareMarginTriplets lib dataset = .ok dataset' ∧
      lib.columnNames dataset' = labelledTripletColumns) ↔
      HasOneOf (lib.columnNames dataset) "query" "anchor" ∧
        HasOneOf (lib.columnNames dataset) "positive" "pos" ∧
        HasOneOf (lib.columnNames dataset) "negative" "neg" ∧
        HasOneOf (lib.columnNames dataset) "label" "margin" := by
  have hnodup : (mappingNames
      [("anchor", "query"), ("pos", "positive"), ("neg", "negative"), ("margin", "label")]).Nodup := by
    decide
  have hnew (src dst : String) (he : (src, dst) ∈
      [("anchor", "query"), ("pos", "positive"), ("neg", "negative"), ("margin", "label")]) :=
    @renamed_new_iff (lib.columnNames dataset) _ src dst hnodup he
  rw [prepareMarginTriplets, renameColumns_order_iff hnodup (by decide), labelledTripletColumns]
  simp only [List.forall_mem_cons, hasOneOf_iff]
  rw [hnew "anchor" "query" (by simp), hnew "pos" "positive" (by simp),
    hnew "neg" "negative" (by simp), hnew "margin" "label" (by simp)]
  constructor
  · rintro ⟨⟨h1, h2, h3, h4, -⟩, g1, g2, g3, g4, -⟩
    exact ⟨⟨h1, g1⟩, ⟨h2, g2⟩, ⟨h3, g3⟩, h4, g4⟩
  · rintro ⟨⟨h1, g1⟩, ⟨h2, g2⟩, ⟨h3, g3⟩, h4, g4⟩
    exact ⟨⟨h1, h2, h3, h4, fun _ he => nomatch he⟩, g1, g2, g3, g4, fun _ hc => nomatch hc⟩

/-! ## Pairs of scores -/

theorem convertScorePair_eq_ok {row : Row} {record : Record} :
    convertScorePair row = .ok record ↔
      ∃ pos neg, row "label" = some (.numbers [pos, neg]) ∧
        record = [("label", .number (pos - neg))] := by
  unfold convertScorePair Row.item
  cases row "label" with
  | none => simp [bind, Except.bind]
  | some value =>
    cases value with
    | numbers l =>
      match l with
      | [] => simp [bind, Except.bind, Cell.isList, Cell.listLength]
      | [_] => simp [bind, Except.bind, Cell.isList, Cell.listLength]
      | [pos, neg] => simp [bind, Except.bind, Cell.isList, Cell.listLength, eq_comm]
      | _ :: _ :: _ :: _ => simp [bind, Except.bind, Cell.isList, Cell.listLength]
    | texts l =>
      simp only [bind, Except.bind]
      split <;> simp
    | _ => simp [bind, Except.bind, Cell.isList]

theorem prepareScoreTriplets_iff :
    (∃ dataset', prepareScoreTriplets lib dataset = .ok dataset' ∧
      lib.columnNames dataset' = labelledTripletColumns) ↔
      "query" ∈ lib.columnNames dataset ∧ HasOneOf (lib.columnNames dataset) "positive" "pos" ∧
        HasOneOf (lib.columnNames dataset) "negative" "neg" ∧
        "label" ∈ lib.columnNames dataset ∧
        ∀ row ∈ lib.rows dataset, ∃ pos neg, row "label" = some (.numbers [pos, neg]) := by
  have hnodup : (mappingNames [("pos", "positive"), ("neg", "negative")]).Nodup := by decide
  have hordered : labelledTripletColumns.Nodup := by decide
  have hcolumns : (∃ dataset', (renameColumns lib dataset [("pos", "positive"), ("neg", "negative")]
      >>= fun d => ensureColumnsOrder lib d labelledTripletColumns) = .ok dataset' ∧
        lib.columnNames dataset' = labelledTripletColumns) ↔
      "query" ∈ lib.columnNames dataset ∧ HasOneOf (lib.columnNames dataset) "positive" "pos" ∧
        HasOneOf (lib.columnNames dataset) "negative" "neg" ∧
        "label" ∈ lib.columnNames dataset := by
    rw [renameColumns_order_iff hnodup hordered, labelledTripletColumns]
    simp only [List.forall_mem_cons, hasOneOf_iff]
    rw [@renamed_new_iff (lib.columnNames dataset) _ "pos" "positive" hnodup (by simp),
      @renamed_new_iff (lib.columnNames dataset) _ "neg" "negative" hnodup (by simp),
      @renamed_other_iff (lib.columnNames dataset) _ "query" (by decide),
      @renamed_other_iff (lib.columnNames dataset) _ "label" (by decide)]
    constructor
    · rintro ⟨⟨h1, h2, -⟩, g1, g2, g3, g4, -⟩
      exact ⟨g1, ⟨h1, g2⟩, ⟨h2, g3⟩, g4⟩
    · rintro ⟨g1, ⟨h1, g2⟩, ⟨h2, g3⟩, g4⟩
      exact ⟨⟨h1, h2, fun _ he => nomatch he⟩, g1, g2, g3, g4, fun _ hc => nomatch hc⟩
  have hprepare : prepareScoreTriplets lib dataset =
      ((renameColumns lib dataset [("pos", "positive"), ("neg", "negative")] >>= fun d =>
        ensureColumnsOrder lib d labelledTripletColumns) >>= convertScorePairsToMargin lib) := by
    rw [prepareScoreTriplets, bind_assoc]
  have hlabels (d : D) (hd : (renameColumns lib dataset [("pos", "positive"), ("neg", "negative")]
      >>= fun d => ensureColumnsOrder lib d labelledTripletColumns) = .ok d) :
      ∃ g : Row → Row, lib.rows d = (lib.rows dataset).map g ∧
        ∀ row, g row "label" = row "label" := by
    obtain ⟨d', hd', hd⟩ := bind_eq_ok.mp hd
    obtain ⟨g, hg, hsame⟩ := (renameColumns_spec hnodup hd').rows
    have hrows := (ensureColumnsOrder_spec hordered hd).2
    refine ⟨fun row => Row.select (g row) labelledTripletColumns, ?_, fun row => ?_⟩
    · rw [hrows, hg, List.map_map]
      rfl
    · dsimp only
      rw [Row.select, if_pos (by decide), hsame _ _ (by decide)]
  rw [hprepare]
  constructor
  · rintro ⟨dataset', h, -⟩
    obtain ⟨d, hd, hmap⟩ := bind_eq_ok.mp h
    have horder : lib.columnNames d = labelledTripletColumns := by
      obtain ⟨d', -, horder⟩ := bind_eq_ok.mp hd
      exact (ensureColumnsOrder_spec hordered horder).1
    obtain ⟨hquery, hpositive, hnegative, hlabel⟩ := hcolumns.mp ⟨d, hd, horder⟩
    refine ⟨hquery, hpositive, hnegative, hlabel, fun row hrow => ?_⟩
    obtain ⟨g, hg, hsame⟩ := hlabels d hd
    have hrow' : g row ∈ lib.rows d := hg ▸ List.mem_map_of_mem hrow
    cases hconvert : convertScorePair (g row) with
    | error e =>
      obtain ⟨e', he'⟩ := lib.map_error d convertScorePair (g row) e hrow' hconvert
      have hmap' : lib.map d convertScorePair = .ok dataset' := hmap
      rw [he'] at hmap'
      cases hmap'
    | ok record =>
      obtain ⟨pos, neg, hpair, -⟩ := convertScorePair_eq_ok.mp hconvert
      exact ⟨pos, neg, hsame row ▸ hpair⟩
  · rintro ⟨hquery, hpositive, hnegative, hlabel, hpairs⟩
    obtain ⟨d, hd, horder⟩ := hcolumns.mpr ⟨hquery, hpositive, hnegative, hlabel⟩
    obtain ⟨g, hg, hsame⟩ := hlabels d hd
    have hall : ∀ row ∈ lib.rows d, ∃ record, convertScorePair row = .ok record := by
      intro row hrow
      rw [hg] at hrow
      obtain ⟨row', hrow', rfl⟩ := List.mem_map.mp hrow
      obtain ⟨pos, neg, hpair⟩ := hpairs row' hrow'
      exact ⟨_, convertScorePair_eq_ok.mpr ⟨pos, neg, (hsame row').trans hpair, rfl⟩⟩
    obtain ⟨records, hrecords⟩ := exists_mapM_eq_ok hall
    have hrecord : ∀ record ∈ records, ∃ q, record = [("label", .number q)] := by
      intro record hmem
      obtain ⟨row, -, hrow⟩ := exists_of_mem_mapM hrecords hmem
      obtain ⟨pos, neg, -, rfl⟩ := convertScorePair_eq_ok.mp hrow
      exact ⟨_, rfl⟩
    obtain ⟨d', hd', hcolumns'⟩ := lib.map_ok d convertScorePair records hrecords
      (fun record hmem e he => by
        obtain ⟨q, rfl⟩ := hrecord record hmem
        obtain rfl := List.mem_singleton.mp he
        have hlabel : "label" ∈ labelledTripletColumns := by decide
        rw [horder]
        exact hlabel)
      ⟨fun _ => .number, fun record hmem e he => by
        obtain ⟨q, rfl⟩ := hrecord record hmem
        obtain rfl := List.mem_singleton.mp he
        exact Or.inr rfl⟩
    exact ⟨d', bind_eq_ok.mpr ⟨d, hd, hd'⟩, hcolumns'.trans horder⟩

end Operations

end Embedding
