import TrainFactory.Lib.Result
import TrainFactory.Lib.Run
import TrainFactory.Milvus.Collections

/-!
# Fences of Milvus collections

A deletion fences all its names or none, holds each fence until its owner restores or deletes the
collection, and takes its fences back without a trace. Links name registered collections as long as
a restoration is given the acquisition that has made the fences it takes back.
-/

namespace Milvus

open Lib

variable {host : Dataset.Host} {db db' : Tables} {s : Registry}

/-! ## Names -/

theorem mem_normalizedNames {names : List String} {name : String} :
    name ∈ normalizedNames names ↔ name ≠ "" ∧ ∃ text ∈ names, strip text = name := by
  rw [normalizedNames, (List.perm_insertionSort (· ≤ ·) _).mem_iff, List.mem_dedup,
    List.mem_filter, List.mem_map, decide_eq_true_eq, and_comm]

theorem nodup_normalizedNames (names : List String) : (normalizedNames names).Nodup :=
  (List.perm_insertionSort (· ≤ ·) _).nodup_iff.mpr (List.nodup_dedup _)

def IsNormal (name : String) : Prop := strip name = name ∧ name ≠ ""

theorem isNormal_of_mem {names : List String} {name : String} (h : name ∈ normalizedNames names) :
    IsNormal name := by
  obtain ⟨hne, text, -, rfl⟩ := mem_normalizedNames.mp h
  exact ⟨strip_strip text, hne⟩

theorem mem_normalizedNames_of_normal {names : List String} (h : ∀ name ∈ names, IsNormal name)
    {name : String} : name ∈ normalizedNames names ↔ name ∈ names := by
  rw [mem_normalizedNames]
  constructor
  · rintro ⟨-, text, htext, rfl⟩
    rw [(h text htext).1]
    exact htext
  · intro hname
    exact ⟨(h name hname).2, name, hname, (h name hname).1⟩

theorem normalizeDeletionOwner_ok {deletionOwner owner : String}
    (h : normalizeDeletionOwner deletionOwner = .ok owner) : owner = strip deletionOwner := by
  obtain ⟨-, h⟩ := ite_error_eq_ok.mp h
  obtain ⟨-, h⟩ := ite_error_eq_ok.mp h
  exact (Except.ok.inj h).symm

/-! ## Rows -/

def IsFencedBy (owner : String) (c : CollectionRow) : Prop :=
  c.status = .deleting ∧ c.deletionOwner = some owner

instance (owner : String) (c : CollectionRow) : Decidable (IsFencedBy owner c) :=
  inferInstanceAs (Decidable (_ ∧ _))

theorem isFencedBy_fenced (owner : String) (c : CollectionRow) : IsFencedBy owner (fenced owner c) :=
  ⟨rfl, rfl⟩

theorem fenced_of_isFencedBy {owner : String} {c : CollectionRow} (h : IsFencedBy owner c) :
    fenced owner c = c := by
  obtain ⟨hstatus, howner⟩ := h
  simp [fenced, ← hstatus, ← howner]

theorem lookup_insertCollection {collections collections' : Table CollectionRow}
    {entry : CollectionRow} (h : insertCollection collections entry = some collections') :
    collections.lookup entry.collectionName = none ∧ ∀ name, collections'.lookup name =
      if entry.collectionName = name then some entry else collections.lookup name := by
  unfold insertCollection at h
  split_ifs at h
  refine ⟨?_, fun name => Table.lookup_insert h name⟩
  exact Table.lookup_eq_none.mpr (Table.insert_eq_some.mp h).1

theorem lookup_deleteName (collections : Table CollectionRow) (collectionName name : String) :
    (collections.deleteWhere fun c => c.collectionName = collectionName).lookup name =
      if name = collectionName then none else collections.lookup name := by
  have h := Table.lookup_deleteWhere collections (fun k => decide (k = collectionName)) name
  simpa using h

/-! ## Acquisition -/

def AcquireFences.fencedRow (args : AcquireFences) (owner name : String) :
    Option CollectionRow → CollectionRow
  | none => args.placeholder owner name
  | some c => fenced owner c

def Fenceable (owner : String) (entry : Option CollectionRow) : Prop :=
  ∀ c, entry = some c → IsFencedBy owner c ∨ c.status = .active ∨
    c.status = .creating ∧ c.deletionOwner = none

def newlyFencedOf (owner : String) (rows : String → Option CollectionRow) (names : List String) :
    List String :=
  names.filter fun name => !(rows name).any fun c => IsFencedBy owner c

def placeholdersOf (rows : String → Option CollectionRow) (names : List String) : List String :=
  names.filter fun name => (rows name).isNone

def creatingOf (rows : String → Option CollectionRow) (names : List String) : List String :=
  names.filter fun name => (rows name).any fun c => c.status = .creating

theorem mem_newlyFencedOf {owner name : String} {rows : String → Option CollectionRow}
    {names : List String} : name ∈ newlyFencedOf owner rows names ↔
      name ∈ names ∧ ∀ c, rows name = some c → ¬ IsFencedBy owner c := by
  rw [newlyFencedOf, List.mem_filter]
  cases rows name <;> simp

theorem mem_placeholdersOf {name : String} {rows : String → Option CollectionRow}
    {names : List String} :
    name ∈ placeholdersOf rows names ↔ name ∈ names ∧ rows name = none := by
  rw [placeholdersOf, List.mem_filter, Option.isNone_iff_eq_none]

theorem mem_creatingOf {name : String} {rows : String → Option CollectionRow}
    {names : List String} : name ∈ creatingOf rows names ↔
      name ∈ names ∧ ∃ c, rows name = some c ∧ c.status = .creating := by
  rw [creatingOf, List.mem_filter]
  cases rows name <;> simp

structure FencesNames (args : AcquireFences) (owner : String) (names : List String)
    (f f' : Fencing) : Prop where
  rows : ∀ name, f'.collections.lookup name =
    if name ∈ names then some (args.fencedRow owner name (f.collections.lookup name))
    else f.collections.lookup name
  fenceable : ∀ name ∈ names, Fenceable owner (f.collections.lookup name)
  newlyFenced : f'.newlyFenced =
    f.newlyFenced ++ newlyFencedOf owner f.collections.lookup names
  createdPlaceholders : f'.createdPlaceholders =
    f.createdPlaceholders ++ placeholdersOf f.collections.lookup names
  previousCreating : f'.previousCreating =
    f.previousCreating ++ creatingOf f.collections.lookup names

theorem fenceName_ok {args : AcquireFences} {owner name : String} {f f' : Fencing}
    (h : args.fenceName owner f name = .ok f') : FencesNames args owner [name] f f' := by
  unfold AcquireFences.fenceName at h
  obtain ⟨-, h⟩ := ite_error_eq_ok.mp h
  cases hentry : f.collections.lookup name with
  | none =>
    simp only [hentry] at h
    cases hins : insertCollection f.collections (args.placeholder owner name) with
    | none => simp [hins] at h
    | some collections =>
      simp only [hins, Except.ok.injEq] at h
      subst h
      obtain ⟨-, hrows⟩ := lookup_insertCollection hins
      refine ⟨fun n => ?_, ?_, ?_, ?_, ?_⟩
      · rw [hrows]
        by_cases hn : n = name
        · subst hn
          simp [hentry, AcquireFences.fencedRow, AcquireFences.placeholder]
        · have hn' : (args.placeholder owner name).collectionName ≠ n := fun hc => hn hc.symm
          simp [hn, hn']
      · intro n hn c hc
        obtain rfl := List.mem_singleton.mp hn
        rw [hentry] at hc
        exact absurd hc (by simp)
      · simp [newlyFencedOf, hentry]
      · simp [placeholdersOf, hentry]
      · simp [creatingOf, hentry]
  | some c =>
    simp only [hentry] at h
    obtain ⟨-, h⟩ := ite_error_eq_ok.mp h
    have hrows : ∀ n, (f.collections.update name (fenced owner) (key_fenced owner)).lookup n =
        if n ∈ [name] then some (args.fencedRow owner n (f.collections.lookup n))
        else f.collections.lookup n := by
      intro n
      rw [Table.lookup_update]
      by_cases hn : n = name
      · subst hn
        simp [hentry, AcquireFences.fencedRow]
      · simp [hn]
    cases hstatus : c.status with
    | deleting =>
      simp only [hstatus] at h
      obtain ⟨howner, h⟩ := ite_error_eq_ok.mp h
      obtain rfl := Except.ok.inj h
      have hfenced : IsFencedBy owner c := ⟨hstatus, not_not.mp howner⟩
      refine ⟨fun n => ?_, ?_, ?_, ?_, ?_⟩
      · by_cases hn : n = name
        · subst hn
          simp [hentry, AcquireFences.fencedRow, fenced_of_isFencedBy hfenced]
        · simp [hn]
      · intro n hn c' hc
        obtain rfl := List.mem_singleton.mp hn
        obtain rfl := Option.some.inj (hentry.symm.trans hc)
        exact Or.inl hfenced
      · simp [newlyFencedOf, hentry, hfenced]
      · simp [placeholdersOf, hentry]
      · simp [creatingOf, hentry, hstatus]
    | creating =>
      simp only [hstatus] at h
      split at h
      · rename_i habort
        obtain rfl := Except.ok.inj h
        have howner : c.deletionOwner = none := by
          simp only [AcquireFences.exactManualAbort, Bool.and_eq_true, decide_eq_true_eq] at habort
          exact habort.2
        have hnot : ¬ IsFencedBy owner c := by simp [IsFencedBy, hstatus]
        refine ⟨hrows, ?_, ?_, ?_, ?_⟩
        · intro n hn c' hc
          obtain rfl := List.mem_singleton.mp hn
          obtain rfl := Option.some.inj (hentry.symm.trans hc)
          exact Or.inr (Or.inr ⟨hstatus, howner⟩)
        · simp [newlyFencedOf, hentry, hnot]
        · simp [placeholdersOf, hentry]
        · simp [creatingOf, hentry, hstatus]
      · exact absurd h (by simp)
    | active =>
      simp only [hstatus, Except.ok.injEq] at h
      subst h
      have hnot : ¬ IsFencedBy owner c := by simp [IsFencedBy, hstatus]
      refine ⟨hrows, ?_, ?_, ?_, ?_⟩
      · intro n hn c' hc
        obtain rfl := List.mem_singleton.mp hn
        obtain rfl := Option.some.inj (hentry.symm.trans hc)
        exact Or.inr (Or.inl hstatus)
      · simp [newlyFencedOf, hentry, hnot]
      · simp [placeholdersOf, hentry]
      · simp [creatingOf, hentry, hstatus]

theorem FencesNames.filter_congr {args : AcquireFences} {owner name : String} {names : List String}
    {f f' : Fencing} (h : FencesNames args owner [name] f f') (hname : name ∉ names)
    (p : Option CollectionRow → Bool) :
    names.filter (fun n => p (f'.collections.lookup n)) =
      names.filter fun n => p (f.collections.lookup n) := by
  refine List.filter_congr fun n hn => ?_
  have hne : n ∉ [name] := by
    intro hc
    exact hname (List.mem_singleton.mp hc ▸ hn)
  rw [h.rows, if_neg hne]

theorem foldlM_fenceName_ok {args : AcquireFences} {owner : String} {names : List String}
    (hnodup : names.Nodup) {f f' : Fencing}
    (h : names.foldlM (args.fenceName owner) f = .ok f') : FencesNames args owner names f f' := by
  induction names generalizing f with
  | nil =>
    obtain rfl := pure_eq_ok.mp h
    exact ⟨fun _ => rfl, fun _ hn => absurd hn (by simp), by simp [newlyFencedOf],
      by simp [placeholdersOf], by simp [creatingOf]⟩
  | cons name names ih =>
    obtain ⟨hname, hnodup⟩ := List.nodup_cons.mp hnodup
    rw [List.foldlM_cons] at h
    obtain ⟨f₁, hfirst, hrest⟩ := bind_eq_ok.mp h
    have h₁ := fenceName_ok hfirst
    have h₂ := ih hnodup hrest
    have hother : ∀ n ∈ names, f₁.collections.lookup n = f.collections.lookup n := by
      intro n hn
      have hne : n ∉ [name] := fun hc => hname (List.mem_singleton.mp hc ▸ hn)
      rw [h₁.rows, if_neg hne]
    refine ⟨fun n => ?_, ?_, ?_, ?_, ?_⟩
    · rw [h₂.rows]
      by_cases hn : n ∈ names
      · rw [if_pos hn, if_pos (List.mem_cons_of_mem _ hn), hother n hn]
      · rw [if_neg hn, h₁.rows]
        by_cases hn' : n = name
        · subst hn'
          simp
        · simp [hn, hn']
    · intro n hn
      rcases List.mem_cons.mp hn with rfl | hn
      · exact h₁.fenceable n (List.mem_singleton.mpr rfl)
      · have hrest := h₂.fenceable n hn
        rw [hother n hn] at hrest
        exact hrest
    · have hsame := h₁.filter_congr hname
        fun entry => !entry.any fun c => decide (IsFencedBy owner c)
      rw [h₂.newlyFenced, h₁.newlyFenced, List.append_assoc]
      unfold newlyFencedOf
      rw [hsame, ← List.filter_append]
      rfl
    · have hsame := h₁.filter_congr hname Option.isNone
      rw [h₂.createdPlaceholders, h₁.createdPlaceholders, List.append_assoc]
      unfold placeholdersOf
      rw [hsame, ← List.filter_append]
      rfl
    · have hsame := h₁.filter_congr hname fun entry => entry.any fun c => c.status = .creating
      rw [h₂.previousCreating, h₁.previousCreating, List.append_assoc]
      unfold creatingOf
      rw [hsame, ← List.filter_append]
      rfl

/-- What an acquisition does and returns. -/
structure Acquires (args : AcquireFences) (db : Tables) (owner : String) (a : Acquisition)
    (db' : Tables) : Prop where
  normalized : normalizeDeletionOwner args.deletionOwner = .ok owner
  names : a.collectionNames = normalizedNames args.collectionNames
  links : db'.links = db.links
  rows : ∀ name, db'.collections.lookup name =
    if name ∈ a.collectionNames then
      some (args.fencedRow owner name (db.collections.lookup name))
    else db.collections.lookup name
  fenceable : ∀ name ∈ a.collectionNames, Fenceable owner (db.collections.lookup name)
  newlyFenced : a.newlyFenced = newlyFencedOf owner db.collections.lookup a.collectionNames
  createdPlaceholders :
    a.createdPlaceholders = placeholdersOf db.collections.lookup a.collectionNames
  previousCreating : a.previousCreating = creatingOf db.collections.lookup a.collectionNames

theorem acquireDeletionFences_ok {args : AcquireFences} {a : Acquisition}
    (h : acquireDeletionFences args db = .ok (a, db')) : ∃ owner, Acquires args db owner a db' := by
  obtain ⟨owner, howner, h⟩ := bind_eq_ok.mp h
  obtain ⟨-, h⟩ := ite_error_eq_ok.mp h
  obtain ⟨f, hf, h⟩ := bind_eq_ok.mp h
  obtain ⟨rfl, rfl⟩ := Prod.mk.inj (Except.ok.inj h)
  have hnames := foldlM_fenceName_ok (nodup_normalizedNames args.collectionNames) hf
  exact ⟨owner, howner, rfl, rfl, hnames.rows, hnames.fenceable, by simpa using hnames.newlyFenced,
    by simpa using hnames.createdPlaceholders, by simpa using hnames.previousCreating⟩

/-! ## Restoration and deletion -/

def restoredRow (placeholders creatingNames : List String) (name : String) :
    Option CollectionRow → Option CollectionRow
  | none => none
  | some c =>
    if name ∈ placeholders then none
    else some (unfenced (if name ∈ creatingNames then .creating else .active) c)

structure RestoresNames (owner : String) (placeholders creatingNames names : List String)
    (rows rows' : Table CollectionRow) : Prop where
  restored : ∀ name, rows'.lookup name =
    if name ∈ names then restoredRow placeholders creatingNames name (rows.lookup name)
    else rows.lookup name
  fenced : ∀ name ∈ names, ∀ c, rows.lookup name = some c → IsFencedBy owner c

theorem restoreName_ok {owner name : String} {placeholders creatingNames : List String}
    {rows rows' : Table CollectionRow}
    (h : restoreName owner placeholders creatingNames rows name = .ok rows') :
    RestoresNames owner placeholders creatingNames [name] rows rows' := by
  unfold restoreName at h
  cases hentry : rows.lookup name with
  | none =>
    simp only [hentry, Except.ok.injEq] at h
    subst h
    refine ⟨fun n => ?_, ?_⟩
    · by_cases hn : n = name
      · subst hn
        simp [hentry, restoredRow]
      · simp [hn]
    · intro n hn c hc
      obtain rfl := List.mem_singleton.mp hn
      rw [hentry] at hc
      exact absurd hc (by simp)
  | some c =>
    simp only [hentry] at h
    obtain ⟨hfenced, h⟩ := ite_error_eq_ok.mp h
    refine ⟨fun n => ?_, ?_⟩
    · by_cases hplaceholder : name ∈ placeholders
      · rw [if_pos hplaceholder] at h
        obtain rfl := Except.ok.inj h
        rw [lookup_deleteName]
        by_cases hn : n = name
        · subst hn
          simp [hentry, restoredRow, hplaceholder]
        · simp [hn]
      · rw [if_neg hplaceholder] at h
        obtain rfl := Except.ok.inj h
        rw [Table.lookup_update]
        by_cases hn : n = name
        · subst hn
          simp [hentry, restoredRow, hplaceholder]
        · simp [hn]
    · intro n hn c' hc
      obtain rfl := List.mem_singleton.mp hn
      obtain rfl := Option.some.inj (hentry.symm.trans hc)
      simp only [not_or, not_not] at hfenced
      exact hfenced

theorem foldlM_restoreName_ok {owner : String} {placeholders creatingNames names : List String}
    (hnodup : names.Nodup) {rows rows' : Table CollectionRow}
    (h : names.foldlM (restoreName owner placeholders creatingNames) rows = .ok rows') :
    RestoresNames owner placeholders creatingNames names rows rows' := by
  induction names generalizing rows with
  | nil =>
    obtain rfl := pure_eq_ok.mp h
    exact ⟨fun _ => rfl, fun _ hn => absurd hn (by simp)⟩
  | cons name names ih =>
    obtain ⟨hname, hnodup⟩ := List.nodup_cons.mp hnodup
    rw [List.foldlM_cons] at h
    obtain ⟨rows₁, hfirst, hrest⟩ := bind_eq_ok.mp h
    have h₁ := restoreName_ok hfirst
    have h₂ := ih hnodup hrest
    have hother : ∀ n ∈ names, rows₁.lookup n = rows.lookup n := by
      intro n hn
      have hne : n ∉ [name] := fun hc => hname (List.mem_singleton.mp hc ▸ hn)
      rw [h₁.restored, if_neg hne]
    refine ⟨fun n => ?_, ?_⟩
    · rw [h₂.restored]
      by_cases hn : n ∈ names
      · rw [if_pos hn, if_pos (List.mem_cons_of_mem _ hn), hother n hn]
      · rw [if_neg hn, h₁.restored]
        by_cases hn' : n = name
        · subst hn'
          simp
        · simp [hn, hn']
    · intro n hn c hc
      rcases List.mem_cons.mp hn with rfl | hn
      · exact h₁.fenced n (List.mem_singleton.mpr rfl) c hc
      · exact h₂.fenced n hn c ((hother n hn).trans hc)

theorem restoreDeletionFences_ok {names placeholders creatingNames : List String}
    {deletionOwner : String}
    (h : restoreDeletionFences names deletionOwner placeholders creatingNames db = .ok db') :
    db'.links = db.links ∧
      RestoresNames (strip deletionOwner) (normalizedNames placeholders)
        (normalizedNames creatingNames) (normalizedNames names) db.collections
        db'.collections := by
  obtain ⟨owner, howner, h⟩ := bind_eq_ok.mp h
  obtain ⟨collections, hrows, h⟩ := bind_eq_ok.mp h
  obtain rfl := pure_eq_ok.mp h
  obtain rfl := normalizeDeletionOwner_ok howner
  exact ⟨rfl, foldlM_restoreName_ok (nodup_normalizedNames _) hrows⟩

structure Deletes (names : List String) (owner : String) (db db' : Tables) : Prop where
  rows : ∀ name, db'.collections.lookup name =
    if name ∈ names then none else db.collections.lookup name
  links : ∀ l, l ∈ db'.links ↔ l ∈ db.links ∧ l.collectionName ∉ names
  fenced : ∀ name ∈ names, ∀ c, db.collections.lookup name = some c → IsFencedBy owner c

theorem deleteCollections_ok {names : List String} {deletionOwner : String} {deleted : Bool}
    (h : deleteCollections names deletionOwner db = .ok (deleted, db')) :
    db' = db ∨ Deletes (normalizedNames names) (strip deletionOwner) db db' := by
  obtain ⟨owner, howner, h⟩ := bind_eq_ok.mp h
  obtain rfl := normalizeDeletionOwner_ok howner
  dsimp only at h
  split at h
  · exact Or.inl (Prod.mk.inj (pure_eq_ok.mp h)).2.symm
  · obtain ⟨-, h⟩ := ite_error_eq_ok.mp h
    split at h
    · exact absurd h (by simp)
    · rename_i hfind
      obtain ⟨-, rfl⟩ := Prod.mk.inj (pure_eq_ok.mp h)
      refine Or.inr ⟨fun name => ?_, fun l => ?_, fun name hname c hc => ?_⟩
      · have hrows := Table.lookup_deleteWhere db.collections
          (fun k => decide (k ∈ normalizedNames names)) name
        simpa using hrows
      · simp [Table.mem_deleteWhere]
      · obtain ⟨hmem, hkey⟩ := Table.lookup_eq_some.mp hc
        obtain rfl : c.collectionName = name := hkey
        have hsel := List.find?_eq_none.mp hfind c
          (Table.mem_select.mpr ⟨hmem, by simpa using hname⟩)
        have hfenced : c.status = .deleting ∧ c.deletionOwner = some (strip deletionOwner) := by
          simpa using hsel
        exact hfenced

/-! ## Creation and links -/

/-- The rows and links after a creation or a link, which touch no row that exists, except a
reservation that is activated or cancelled. -/
inductive RowStep (db : Tables) : Tables → Prop where
  | stay : RowStep db db
  | insert {entry : CollectionRow} {collections : Table CollectionRow}
      (hins : insertCollection db.collections entry = some collections)
      (hstatus : entry.status ≠ .deleting) (howner : entry.deletionOwner = none) :
      RowStep db { db with collections }
  | activate (name : String) {c : CollectionRow} (hrow : db.collections.lookup name = some c)
      (hstatus : c.status = .creating) :
      RowStep db { db with collections := db.collections.update name activated key_activated }
  | cancel (name : String) {c : CollectionRow} (hrow : db.collections.lookup name = some c)
      (hstatus : c.status = .creating) :
      RowStep db { db with
        collections := db.collections.deleteWhere fun c => c.collectionName = name }
  | link {l : LinkRow} {links : Table LinkRow} {c : CollectionRow}
      (hlinks : ∀ l' ∈ links, l' ∈ db.links ∨ l'.collectionName = l.collectionName)
      (hrow : db.collections.lookup l.collectionName = some c) (hstatus : c.status = .active) :
      RowStep db { db with links }

theorem registerCollection_ok {args : NewCollection} {syncTaskId : Option String}
    {entry : CollectionRow} (h : registerCollection args syncTaskId db = .ok (entry, db')) :
    RowStep db db' ∧
      ∀ c, db.collections.lookup args.collectionName = some c → c.status = .active := by
  obtain ⟨syncTaskId', -, h⟩ := bind_eq_ok.mp h
  obtain ⟨_, -, h⟩ := bind_eq_ok.mp h
  obtain ⟨_, -, h⟩ := bind_eq_ok.mp h
  split at h
  · rename_i existing hrow
    obtain ⟨hcheck, h⟩ := ite_error_eq_ok.mp h
    obtain ⟨-, rfl⟩ := Prod.mk.inj (Except.ok.inj h)
    simp only [not_or, not_not] at hcheck
    refine ⟨.stay, fun c hc => ?_⟩
    obtain rfl := Option.some.inj (hrow.symm.trans hc)
    exact hcheck.1
  · rename_i hrow
    dsimp only at h
    split at h
    · rename_i collections hins
      obtain ⟨-, rfl⟩ := Prod.mk.inj (Except.ok.inj h)
      refine ⟨.insert hins (by simp [NewCollection.row]) rfl, fun c hc => ?_⟩
      rw [hrow] at hc
      exact absurd hc (by simp)
    · exact absurd h (by simp)

theorem reserveManualCollection_ok {args : NewCollection} {hybridEnabled created : Bool}
    {entry : CollectionRow}
    (h : reserveManualCollection args hybridEnabled db = .ok (entry, created, db')) :
    RowStep db db' ∧
      ∀ c, db.collections.lookup args.collectionName = some c → c.status = .creating := by
  obtain ⟨_, -, h⟩ := bind_eq_ok.mp h
  obtain ⟨_, -, h⟩ := bind_eq_ok.mp h
  split at h
  · rename_i existing hrow
    split at h
    · rename_i hmatches
      obtain ⟨-, hrest⟩ := Prod.mk.inj (Except.ok.inj h)
      obtain ⟨-, rfl⟩ := Prod.mk.inj hrest
      refine ⟨.stay, fun c hc => ?_⟩
      obtain rfl := Option.some.inj (hrow.symm.trans hc)
      simp only [matchesCreationIntent, Bool.and_eq_true, decide_eq_true_eq] at hmatches
      exact hmatches.1.1.1.1.1.1.1.1.1
    · exact absurd h (by simp)
  · rename_i hrow
    dsimp only at h
    split at h
    · rename_i collections hins
      obtain ⟨-, hrest⟩ := Prod.mk.inj (Except.ok.inj h)
      obtain ⟨-, rfl⟩ := Prod.mk.inj hrest
      refine ⟨.insert hins (by simp [NewCollection.row]) rfl, fun c hc => ?_⟩
      rw [hrow] at hc
      exact absurd hc (by simp)
    · exact absurd h (by simp)

theorem reservation_of_any {name collectionId : String} {userId : Option String}
    (h : (db.collections.lookup name).any (isReservation collectionId userId) = true) :
    ∃ c, db.collections.lookup name = some c ∧ c.status = .creating := by
  obtain ⟨c, hc, hreservation⟩ := (Option.any_eq_true _ _).mp h
  simp only [isReservation, Bool.and_eq_true, decide_eq_true_eq] at hreservation
  exact ⟨c, hc, hreservation.1.2⟩

theorem activateManualCollection_ok {name collectionId : String} {userId : Option String}
    (h : activateManualCollection name collectionId userId db = .ok db') :
    RowStep db db' ∧ ∃ c, db.collections.lookup name = some c ∧ c.status = .creating := by
  unfold activateManualCollection at h
  split_ifs at h with hreservation
  obtain rfl := Except.ok.inj h
  obtain ⟨c, hrow, hstatus⟩ := reservation_of_any hreservation
  exact ⟨.activate name hrow hstatus, c, hrow, hstatus⟩

theorem cancelManualCollectionCreation_ok {name collectionId : String} {userId : Option String}
    (h : cancelManualCollectionCreation name collectionId userId db = .ok db') :
    RowStep db db' ∧ ∃ c, db.collections.lookup name = some c ∧ c.status = .creating := by
  unfold cancelManualCollectionCreation at h
  split_ifs at h with hreservation
  obtain rfl := Except.ok.inj h
  obtain ⟨c, hrow, hstatus⟩ := reservation_of_any hreservation
  exact ⟨.cancel name hrow hstatus, c, hrow, hstatus⟩

theorem lockCollectionForConsumption_ok {name : String} {userId : Option String}
    {c : CollectionRow} (h : lockCollectionForConsumption db.collections name userId = .ok c) :
    db.collections.lookup name = some c ∧ c.status = .active := by
  unfold lockCollectionForConsumption at h
  split at h
  · exact absurd h (by simp)
  · rename_i entry hrow
    obtain ⟨hcheck, h⟩ := ite_error_eq_ok.mp h
    obtain rfl := Except.ok.inj h
    simp only [not_or, not_not] at hcheck
    exact ⟨hrow, hcheck.1⟩

theorem linkDataset_ok {args : LinkDataset} (h : linkDataset host args db = .ok db') :
    RowStep db db' ∧
      ∃ c, db.collections.lookup args.collectionName = some c ∧ c.status = .active := by
  unfold linkDataset at h
  split at h
  · exact absurd h (by simp)
  · exact absurd h (by simp)
  · split at h
    · exact absurd h (by simp)
    · rename_i c hlock
      obtain ⟨hrow, hstatus⟩ := lockCollectionForConsumption_ok hlock
      refine ⟨?_, c, hrow, hstatus⟩
      split at h
      · rename_i links hins
        obtain rfl := Except.ok.inj h
        refine .link (l := args.row) (fun l' hl' => ?_) hrow hstatus
        rcases (Table.mem_insert hins).mp hl' with hl' | rfl
        · exact Or.inl hl'
        · exact Or.inr rfl
      · obtain rfl := Except.ok.inj h
        refine .link (l := args.row) (fun l' hl' => ?_) hrow hstatus
        obtain ⟨l₀, hl₀, rfl⟩ := Table.mem_update.mp hl'
        split_ifs with hkey
        · exact Or.inr (Prod.mk.inj hkey).1
        · exact Or.inl hl₀

end Milvus
