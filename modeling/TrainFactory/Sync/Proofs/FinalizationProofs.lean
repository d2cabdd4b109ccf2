import Mathlib.Data.List.Perm.Subperm
import TrainFactory.Sync.Finalization

/-!
# Deleting exactly a snapshot

A deletion that is not refused removes the parent and all rows of the task, and each of them was in
the snapshot with the same compared columns.
-/

namespace Sync

open Lib

variable {R : Type} {ε : Type}

/-! ## Snapshots -/

/-- A snapshot by identity: each entry is an item under its identity, and the identities are
distinct. -/
structure Mapped (resource : Resource R) (snapshot : List Json) (entries : List (Scalar × Json)) :
    Prop where
  distinct : (entries.map Prod.fst).Nodup
  items : entries.map Prod.snd = snapshot
  identity : ∀ e ∈ entries, scalarOf (e.2.getD resource.identityKey .null) = some e.1

theorem Mapped.snapshotMap {resource : Resource R} {snapshot items : List Json}
    {mapped entries : List (Scalar × Json)} (h : snapshotMap resource items mapped = .ok entries)
    (hmapped : Mapped resource snapshot mapped) : Mapped resource (snapshot ++ items) entries := by
  induction items generalizing mapped snapshot with
  | nil =>
    cases h
    rwa [List.append_nil]
  | cons item items ih =>
    rw [Sync.snapshotMap] at h
    split at h
    · cases h
    · rename_i identity hidentity
      split at h
      · cases h
      · rename_i hnew
        have hfresh : identity ∉ mapped.map Prod.fst := fun hmem => hnew (Or.inr (Or.inr hmem))
        have hnext : Mapped resource (snapshot ++ [item]) (mapped ++ [(identity, item)]) := by
          refine ⟨?_, ?_, fun e he => ?_⟩
          · rw [List.map_append, List.nodup_append]
            refine ⟨hmapped.distinct, List.nodup_singleton _, fun a ha b hb hab => ?_⟩
            rw [hab, List.mem_singleton.mp hb] at ha
            exact hfresh ha
          · rw [List.map_append, hmapped.items]
            rfl
          · rcases List.mem_append.mp he with he | he
            · exact hmapped.identity e he
            · rw [List.mem_singleton.mp he]
              exact hidentity
        have hrest := ih h hnext
        rwa [List.append_assoc, List.singleton_append] at hrest

theorem Mapped.of_ok {resource : Resource R} {snapshot : List Json} {entries : List (Scalar × Json)}
    (h : Sync.snapshotMap resource snapshot [] = .ok entries) : Mapped resource snapshot entries := by
  have hnil : Mapped resource [] [] := ⟨List.nodup_nil, rfl, by simp⟩
  simpa using Mapped.snapshotMap h hnil

theorem Mapped.mem_iff {resource : Resource R} {snapshot : List Json}
    {entries : List (Scalar × Json)} (h : Mapped resource snapshot entries) {item : Json} :
    item ∈ snapshot ↔ ∃ e ∈ entries, e.2 = item := by
  rw [← h.items, List.mem_map]

/-! ## The rows of a snapshot -/

section LockRows

variable {skipMissing : Bool} {rows : List (StoredRow R)} {identity : StoredRow R → Scalar}
  {key : ε → Scalar} {ok : ε → StoredRow R → Bool} {changed : SyncError}

/-- What the loop finds: rows that are as expected, in the order of their entries. -/
theorem lockRows_ok {es : List ε} {found : List (StoredRow R)}
    (h : lockRows skipMissing rows identity key ok changed es = .ok found) :
    (found.map identity).Sublist (es.map key) ∧
      (∀ r ∈ found, r ∈ rows ∧ ∃ e ∈ es, identity r = key e ∧ ok e r = true) ∧
      ∀ e ∈ es, (∃ r ∈ found, identity r = key e ∧ ok e r = true) ∨
        skipMissing = true ∧ ∀ r ∈ rows, identity r ≠ key e := by
  induction es generalizing found with
  | nil =>
    cases h
    exact ⟨List.Sublist.slnil, by simp, by simp⟩
  | cons e es ih =>
    rw [lockRows] at h
    split at h
    · rename_i hnone
      have hmissing : ∀ r ∈ rows, identity r ≠ key e := by
        simpa using List.find?_eq_none.mp hnone
      split at h
      · rename_i hskip
        obtain ⟨hsub, hfound, hentries⟩ := ih h
        refine ⟨hsub.cons _, fun r hr => ?_, fun e' he' => ?_⟩
        · obtain ⟨hrow, e', he', hmatch⟩ := hfound r hr
          exact ⟨hrow, e', List.mem_cons_of_mem _ he', hmatch⟩
        · rcases List.mem_cons.mp he' with rfl | he'
          · exact Or.inr ⟨hskip, hmissing⟩
          · exact hentries e' he'
      · cases h
    · rename_i row hsome
      have hrow : row ∈ rows := List.mem_of_find?_eq_some hsome
      have hkey : identity row = key e := by simpa using List.find?_some hsome
      split at h
      · rename_i hok
        split at h
        · cases h
        · rename_i more hmore
          cases h
          obtain ⟨hsub, hfound, hentries⟩ := ih hmore
          refine ⟨?_, fun r hr => ?_, fun e' he' => ?_⟩
          · rw [List.map_cons, List.map_cons, hkey]
            exact hsub.cons_cons _
          · rcases List.mem_cons.mp hr with rfl | hr
            · exact ⟨hrow, e, List.mem_cons_self .., hkey, hok⟩
            · obtain ⟨hrow', e', he', hmatch⟩ := hfound r hr
              exact ⟨hrow', e', List.mem_cons_of_mem _ he', hmatch⟩
          · rcases List.mem_cons.mp he' with rfl | he'
            · exact Or.inl ⟨row, List.mem_cons_self .., hkey, hok⟩
            · rcases hentries e' he' with ⟨r, hr, hmatch⟩ | hskip
              · exact Or.inl ⟨r, List.mem_cons_of_mem _ hr, hmatch⟩
              · exact Or.inr hskip
      · cases h

theorem length_lockRows {es : List ε} {found : List (StoredRow R)}
    (h : lockRows false rows identity key ok changed es = .ok found) :
    found.length = es.length := by
  induction es generalizing found with
  | nil =>
    cases h
    rfl
  | cons e es ih =>
    rw [lockRows] at h
    split at h
    · cases h
    · split at h
      · split at h
        · cases h
        · rename_i more hmore
          cases h
          rw [List.length_cons, List.length_cons, ih hmore]
      · cases h

theorem lockRows_complete {es : List ε} {found taskRows : List (StoredRow R)}
    (h : lockRows false rows identity key ok changed es = .ok found)
    (hdistinct : (es.map key).Nodup) (hcount : taskRows.length = es.length)
    (htask : ∀ r ∈ found, r ∈ taskRows) : ∀ r ∈ taskRows, r ∈ found := by
  obtain ⟨hsub, -, -⟩ := lockRows_ok h
  have hnodup : found.Nodup := (hsub.nodup hdistinct).of_map identity
  have hperm : found.Perm taskRows := by
    refine (hnodup.subperm htask).perm_of_length_le ?_
    rw [hcount, length_lockRows h]
  exact fun r hr => hperm.symm.subset hr

end LockRows

theorem mem_rowsOf {resource : Resource R} {taskId : String} {table : Table (StoredRow R)}
    {r : StoredRow R} : r ∈ resource.rowsOf taskId table ↔ r ∈ table ∧ resource.taskId r.row = taskId := by
  rw [Resource.rowsOf, Table.mem_select, decide_eq_true_eq]

theorem rowsOf_nodup (resource : Resource R) (taskId : String) (table : Table (StoredRow R)) :
    (resource.rowsOf taskId table).Nodup :=
  (table.nodup.of_map _).filter _

/-- The compared columns of the row are those of the entry. -/
def Resource.Matches (resource : Resource R) (row : StoredRow R) (expected : Json) : Prop :=
  ∀ f ∈ resource.fields, scalarOf (expected.getD f.name .null) = some (f.column row)

theorem agrees_iff {resource : Resource R} {row : StoredRow R} {expected : Json} :
    resource.agrees row expected = true ↔ resource.Matches row expected := by
  simp [Resource.agrees, Resource.Matches]

def NamesTask (taskId : String) (item : Json) : Prop := item.getD "task_id" .null = .str taskId

def Resource.ComparesTask (resource : Resource R) : Prop :=
  ∃ f ∈ resource.fields, f.name = "task_id" ∧ ∀ r, f.column r = .text (resource.taskId r.row)

theorem batchResource_comparesTask : batchResource.ComparesTask :=
  ⟨⟨"task_id", fun b => .text b.row.taskId⟩, by simp [batchResource], rfl, fun _ => rfl⟩

theorem generationResource_comparesTask : generationResource.ComparesTask :=
  ⟨⟨"task_id", fun b => .text b.row.taskId⟩, by simp [generationResource], rfl, fun _ => rfl⟩

theorem trainingResource_comparesTask : trainingResource.ComparesTask :=
  ⟨⟨"task_id", fun b => .text b.row.taskId⟩, by simp [trainingResource], rfl, fun _ => rfl⟩

theorem Resource.Matches.taskId_eq {resource : Resource R} {row : StoredRow R} {item : Json}
    (h : resource.Matches row item) (hcompares : resource.ComparesTask) {taskId : String}
    (hitem : NamesTask taskId item) : resource.taskId row.row = taskId := by
  obtain ⟨f, hf, hname, hcolumn⟩ := hcompares
  have hmatch := h f hf
  rw [hname, hitem, hcolumn row] at hmatch
  have htext : Scalar.text taskId = .text (resource.taskId row.row) := Option.some.inj hmatch
  injection htext with heq
  exact heq.symm

/-! ## Exact rows -/

/-- The rows of the task are those of the snapshot: each of them is an item with the same compared
columns, and each item is one of them, or is gone where `mayBeGone` allows it. -/
structure ExactRows (resource : Resource R) (taskId : String) (mayBeGone : Bool)
    (table : Table (StoredRow R)) (snapshot : List Json) : Prop where
  listed : ∀ r ∈ table, resource.taskId r.row = taskId → ∃ item ∈ snapshot, resource.Matches r item
  present : ∀ item ∈ snapshot,
    (∃ r ∈ table, resource.taskId r.row = taskId ∧ resource.Matches r item) ∨
      mayBeGone = true ∧
        ∀ r ∈ table, scalarOf (item.getD resource.identityKey .null) ≠ some (resource.identity r)

section Lock

variable {resource : Resource R} {taskId : String} {table : Table (StoredRow R)} {mayBeGone : Bool}
  {snapshot : List Json} {entries : List (Scalar × Json)} {found : List (StoredRow R)}

theorem ExactRows.of_found (hmapped : Mapped resource snapshot entries)
    (h : resource.lock mayBeGone table entries = .ok found)
    (hrows : ∀ r, r ∈ found ↔ r ∈ resource.rowsOf taskId table) :
    ExactRows resource taskId mayBeGone table snapshot := by
  obtain ⟨-, hfound, hentries⟩ := lockRows_ok h
  constructor
  · intro r hr htask
    obtain ⟨-, e, he, -, hmatch⟩ := hfound r ((hrows r).mpr (mem_rowsOf.mpr ⟨hr, htask⟩))
    exact ⟨e.2, hmapped.mem_iff.mpr ⟨e, he, rfl⟩, agrees_iff.mp hmatch⟩
  · intro item hitem
    obtain ⟨e, he, rfl⟩ := hmapped.mem_iff.mp hitem
    rcases hentries e he with ⟨r, hr, -, hmatch⟩ | ⟨hgone, hmissing⟩
    · obtain ⟨hmem, htask⟩ := mem_rowsOf.mp ((hrows r).mp hr)
      exact Or.inl ⟨r, hmem, htask, agrees_iff.mp hmatch⟩
    · refine Or.inr ⟨hgone, fun r hr hidentity => hmissing r hr ?_⟩
      rw [hmapped.identity e he] at hidentity
      exact (Option.some.inj hidentity).symm

theorem lock_subset (hmapped : Mapped resource snapshot entries)
    (h : resource.lock mayBeGone table entries = .ok found) (hcompares : resource.ComparesTask)
    (hnames : ∀ item ∈ snapshot, NamesTask taskId item) :
    ∀ r ∈ found, r ∈ resource.rowsOf taskId table := by
  intro r hr
  obtain ⟨-, hfound, -⟩ := lockRows_ok h
  obtain ⟨hrow, e, he, -, hmatch⟩ := hfound r hr
  have hitem := hnames e.2 (hmapped.mem_iff.mpr ⟨e, he, rfl⟩)
  exact mem_rowsOf.mpr ⟨hrow, (agrees_iff.mp hmatch).taskId_eq hcompares hitem⟩

theorem lockTracked_ok (hmapped : Mapped resource snapshot entries)
    (hinj : ∀ r ∈ table, ∀ r' ∈ table, resource.identity r = resource.identity r' → r = r')
    (hcompares : resource.ComparesTask)
    (hnames : mayBeGone = true → ∀ item ∈ snapshot, NamesTask taskId item)
    (h : lockTracked resource mayBeGone taskId table entries = .ok found) :
    ExactRows resource taskId mayBeGone table snapshot ∧
      ∀ r, r ∈ found ↔ r ∈ resource.rowsOf taskId table := by
  unfold lockTracked at h
  simp only at h
  split at h
  · cases h
  · rename_i hcheck
    rw [not_or, not_and, not_not, not_not] at hcheck
    obtain ⟨hunknown, hcount⟩ := hcheck
    have hknown : ∀ r ∈ resource.rowsOf taskId table,
        resource.identity r ∈ entries.map Prod.fst := by
      have hnone := List.filter_eq_nil_iff.mp (List.eq_nil_of_length_eq_zero hunknown)
      intro r hr
      simpa using hnone r hr
    obtain ⟨hsub, hfound, hentries⟩ := lockRows_ok h
    have hcomplete : ∀ r ∈ resource.rowsOf taskId table, r ∈ found := by
      intro r hr
      obtain ⟨e, he, hkey⟩ := List.mem_map.mp (hknown r hr)
      have hmem := (mem_rowsOf.mp hr).1
      rcases hentries e he with ⟨r', hr', hidentity, -⟩ | ⟨-, hmissing⟩
      · have heq := hinj r' (hfound r' hr').1 r hmem (hidentity.trans hkey)
        exact heq ▸ hr'
      · exact absurd hkey.symm (hmissing r hmem)
    have hsound : ∀ r ∈ found, r ∈ resource.rowsOf taskId table := by
      cases mayBeGone with
      | true => exact lock_subset hmapped h hcompares (hnames rfl)
      | false =>
        -- As many rows as identities: each identity is that of a row of the task.
        have hnodup : ((resource.rowsOf taskId table).map resource.identity).Nodup := by
          refine (rowsOf_nodup resource taskId table).map_on fun r hr r' hr' heq => ?_
          exact hinj r (mem_rowsOf.mp hr).1 r' (mem_rowsOf.mp hr').1 heq
        have hsubset : (resource.rowsOf taskId table).map resource.identity ⊆
            entries.map Prod.fst := by
          intro k hk
          obtain ⟨r, hr, rfl⟩ := List.mem_map.mp hk
          exact hknown r hr
        have hperm : ((resource.rowsOf taskId table).map resource.identity).Perm
            (entries.map Prod.fst) := by
          refine (hnodup.subperm hsubset).perm_of_length_le ?_
          rw [List.length_map, List.length_map, hcount rfl]
        intro r hr
        obtain ⟨hrow, e, he, hkey, -⟩ := hfound r hr
        obtain ⟨r', hr', hidentity⟩ :=
          List.mem_map.mp (hperm.symm.subset (List.mem_map.mpr ⟨e, he, rfl⟩))
        have heq := hinj r' (mem_rowsOf.mp hr').1 r hrow (hidentity.trans hkey.symm)
        exact heq ▸ hr'
    have hrows : ∀ r, r ∈ found ↔ r ∈ resource.rowsOf taskId table :=
      fun r => ⟨hsound r, hcomplete r⟩
    exact ⟨ExactRows.of_found hmapped h hrows, hrows⟩

end Lock

theorem lockBatches_ok {taskId : String} {table : Table (StoredRow ExternalSyncBatch)}
    {snapshot : List Json} {entries : List (Scalar × Json)} {found : List (StoredRow ExternalSyncBatch)}
    (hmapped : Mapped batchResource snapshot entries)
    (hnames : ∀ item ∈ snapshot, NamesTask taskId item)
    (h : lockBatches taskId table entries = .ok found) :
    ExactRows batchResource taskId false table snapshot ∧
      ∀ r, r ∈ found ↔ r ∈ batchResource.rowsOf taskId table := by
  unfold lockBatches at h
  split at h
  · cases h
  · rename_i hcount
    have hsound := lock_subset hmapped h batchResource_comparesTask hnames
    have hcomplete := lockRows_complete h hmapped.distinct (not_not.mp hcount) hsound
    have hrows : ∀ r, r ∈ found ↔ r ∈ batchResource.rowsOf taskId table :=
      fun r => ⟨hsound r, hcomplete r⟩
    exact ⟨ExactRows.of_found hmapped h hrows, hrows⟩

theorem lockTargets_ok {taskId : String} {table : Table (StoredRow ExternalSyncTrainingTarget)}
    {targetIds : List Scalar} {found : List (StoredRow ExternalSyncTrainingTarget)}
    (hdistinct : targetIds.Nodup) (h : lockTargets taskId table targetIds = .ok found) :
    (∀ r, r ∈ found ↔ r ∈ table ∧ r.row.taskId = taskId) ∧
      ∀ targetId, targetId ∈ targetIds ↔
        ∃ r ∈ table, r.row.taskId = taskId ∧ Scalar.text r.row.targetId = targetId := by
  unfold lockTargets at h
  simp only at h
  split at h
  · cases h
  · rename_i hcount
    obtain ⟨-, hfound, hentries⟩ := lockRows_ok h
    have hsound : ∀ r ∈ found, r ∈ table.select fun t => t.row.taskId = taskId := by
      intro r hr
      obtain ⟨hrow, e, -, -, hok⟩ := hfound r hr
      exact Table.mem_select.mpr ⟨hrow, hok⟩
    have hcomplete := lockRows_complete h (by rwa [List.map_id]) (not_not.mp hcount) hsound
    have hrows : ∀ r, r ∈ found ↔ r ∈ table ∧ r.row.taskId = taskId := by
      intro r
      have hselect : r ∈ (table.select fun t => t.row.taskId = taskId) ↔
          r ∈ table ∧ r.row.taskId = taskId := by
        rw [Table.mem_select, decide_eq_true_eq]
      exact ⟨fun hr => hselect.mp (hsound r hr), fun hr => hcomplete r (hselect.mpr hr)⟩
    refine ⟨hrows, fun targetId => ⟨fun htarget => ?_, ?_⟩⟩
    · rcases hentries targetId htarget with ⟨r, hr, hkey, -⟩ | ⟨hskip, -⟩
      · exact ⟨r, ((hrows r).mp hr).1, ((hrows r).mp hr).2, hkey⟩
      · cases hskip
    · rintro ⟨r, hr, htask, rfl⟩
      obtain ⟨-, e, he, hkey, -⟩ := hfound r ((hrows r).mpr ⟨hr, htask⟩)
      rw [hkey]
      exact he

/-! ## The transaction -/

theorem deleteRows_rows {found : List (StoredRow R)} {table : Table (StoredRow R)} {p : StoredRow R → Prop}
    [DecidablePred p] (hrows : ∀ r, r ∈ found ↔ r ∈ table ∧ p r) :
    (deleteRows found table).rows = table.rows.filter fun r => ¬ p r := by
  refine List.filter_congr fun r hr => ?_
  have hmem : r.id ∈ found.map StoredRow.id ↔ p r := by
    rw [List.mem_map]
    constructor
    · rintro ⟨r', hr', hid⟩
      obtain ⟨hmem', hp⟩ := (hrows r').mp hr'
      exact (table.eq_of_key hmem' hr hid) ▸ hp
    · intro hp
      exact ⟨r, (hrows r).mpr ⟨hr, hp⟩, rfl⟩
  show (!(found.map StoredRow.id).contains r.id) = decide (¬ p r)
  rw [List.contains_eq_mem, ← decide_not]
  exact decide_eq_decide.mpr (not_congr hmem)

/-- The parent and all rows of the task are gone, and no other row is. -/
structure RemovesTask (taskId : String) (db db' : StoredDatabase) : Prop where
  parent : ∃ config ∈ db.tasks, config.row.taskId = taskId ∧
    db'.tasks.rows = db.tasks.rows.filter fun t => t.id ≠ config.id
  batches : db'.batches.rows = db.batches.rows.filter fun b => b.row.taskId ≠ taskId
  generations : db'.generations.rows = db.generations.rows.filter fun g => g.row.taskId ≠ taskId
  trainings : db'.trainings.rows = db.trainings.rows.filter fun t => t.row.taskId ≠ taskId
  targets : db'.targets.rows = db.targets.rows.filter fun t => t.row.taskId ≠ taskId

/-- The database after a call: one that raises changes nothing. -/
def committed (db : StoredDatabase) : Except SyncError (Bool × StoredDatabase) → StoredDatabase
  | .ok (_, db') => db'
  | .error _ => db

theorem FinalizeRequest.maps_ok {request : FinalizeRequest} {maps : SnapshotMaps}
    (h : request.maps = .ok maps) :
    Mapped batchResource request.batchSnapshot maps.batches ∧
      Mapped generationResource request.generationSnapshot maps.generations ∧
      Mapped trainingResource request.trainingSnapshot maps.trainings ∧
      request.expectedTrainingTargetIds.Nodup := by
  unfold FinalizeRequest.maps at h
  split at h
  · cases h
  · rename_i batches hbatches
    split at h
    · cases h
    · rename_i generations hgenerations
      split at h
      · cases h
      · rename_i trainings htrainings
        split at h
        · cases h
        · rename_i htargets
          cases h
          rw [not_or, not_not] at htargets
          exact ⟨.of_ok hbatches, .of_ok hgenerations, .of_ok htrainings, htargets.1⟩

theorem lockSnapshot_ok {request : FinalizeRequest} {maps : SnapshotMaps} {db : StoredDatabase}
    {locked : LockedRows} (h : lockSnapshot request maps db = .ok locked) :
    lockBatches request.taskId db.batches maps.batches = .ok locked.batches ∧
      lockTracked generationResource request.cascade request.taskId db.generations
        maps.generations = .ok locked.generations ∧
      lockTracked trainingResource request.cascade request.taskId db.trainings maps.trainings =
        .ok locked.trainings ∧
      lockTargets request.taskId db.targets request.expectedTrainingTargetIds =
        .ok locked.targets := by
  unfold lockSnapshot at h
  split at h
  · cases h
  · rename_i batches hbatches
    split at h
    · cases h
    · rename_i generations hgenerations
      split at h
      · cases h
      · rename_i trainings htrainings
        split at h
        · cases h
        · rename_i targets htargets
          cases h
          exact ⟨hbatches, hgenerations, htrainings, htargets⟩

theorem number_id_injective (table : Table (StoredRow R)) :
    ∀ r ∈ table, ∀ r' ∈ table, Scalar.number (r.id : Rat) = .number (r'.id : Rat) → r = r' := by
  intro r hr r' hr' heq
  injection heq with hid
  exact table.eq_of_key hr hr' (Int.cast_injective hid)

/-- A call is refused and changes nothing, or it removes the task, whose rows were exactly those of
the snapshots. -/
theorem finalizeTaskDeletion_exact (db : StoredDatabase) (request : FinalizeRequest)
    (hbatches : ∀ item ∈ request.batchSnapshot, NamesTask request.taskId item)
    (hcascade : request.cascade = true →
      ∀ item ∈ request.generationSnapshot ++ request.trainingSnapshot,
        NamesTask request.taskId item) :
    (((∃ e, finalizeTaskDeletion db request = .error e) ∨
        ∃ db', finalizeTaskDeletion db request = .ok (false, db')) ∧
      committed db (finalizeTaskDeletion db request) = db) ∨
    ∃ db', finalizeTaskDeletion db request = .ok (true, db') ∧
      RemovesTask request.taskId db db' ∧
      ExactRows batchResource request.taskId false db.batches request.batchSnapshot ∧
      ExactRows generationResource request.taskId request.cascade db.generations
        request.generationSnapshot ∧
      ExactRows trainingResource request.taskId request.cascade db.trainings
        request.trainingSnapshot ∧
      ∀ targetId, targetId ∈ request.expectedTrainingTargetIds ↔
        ∃ t ∈ db.targets, t.row.taskId = request.taskId ∧
          Scalar.text t.row.targetId = targetId := by
  unfold finalizeTaskDeletion
  split
  · rename_i e _
    exact Or.inl ⟨Or.inl ⟨e, rfl⟩, rfl⟩
  · rename_i maps hmaps
    obtain ⟨hmapped, hmapped', hmapped'', hdistinct⟩ := FinalizeRequest.maps_ok hmaps
    split
    · exact Or.inl ⟨Or.inr ⟨db, rfl⟩, rfl⟩
    · rename_i config hconfig
      have hparent : config ∈ db.tasks := List.mem_of_find?_eq_some hconfig
      have htask : config.row.taskId = request.taskId := by simpa using List.find?_some hconfig
      split
      · exact Or.inl ⟨Or.inl ⟨_, rfl⟩, rfl⟩
      · split
        · rename_i e _
          exact Or.inl ⟨Or.inl ⟨e, rfl⟩, rfl⟩
        · rename_i locked hlocked
          obtain ⟨hb, hg, ht, htargets⟩ := lockSnapshot_ok hlocked
          obtain ⟨hexact, hrows⟩ := lockBatches_ok hmapped hbatches hb
          obtain ⟨hexact', hrows'⟩ := lockTracked_ok hmapped' (number_id_injective _)
            generationResource_comparesTask
            (fun hc item hi => hcascade hc item (List.mem_append_left _ hi)) hg
          obtain ⟨hexact'', hrows''⟩ := lockTracked_ok hmapped'' (number_id_injective _)
            trainingResource_comparesTask
            (fun hc item hi => hcascade hc item (List.mem_append_right _ hi)) ht
          obtain ⟨htargetRows, htargetIds⟩ := lockTargets_ok hdistinct htargets
          refine Or.inr ⟨_, rfl, ⟨⟨config, hparent, htask, ?_⟩, ?_, ?_, ?_, ?_⟩, hexact, hexact',
            hexact'', htargetIds⟩
          · refine List.filter_congr fun t _ => ?_
            simp
          · exact deleteRows_rows fun r => (hrows r).trans mem_rowsOf
          · exact deleteRows_rows fun r => (hrows' r).trans mem_rowsOf
          · exact deleteRows_rows fun r => (hrows'' r).trans mem_rowsOf
          · exact deleteRows_rows htargetRows

def fencedTask : StoredRow ExternalSyncTask :=
  ⟨1, { taskId := "t1", userId := "u1", status := .deletingCascade, isActive := false }⟩

def storedBatch (id : Int) (batchId taskId : String) : StoredRow ExternalSyncBatch :=
  ⟨id, { batchId := batchId, taskId := taskId, userId := "u1", storagePath := "p", fetchedAt := 0 }⟩

def batchItem (batchId taskId : String) : Json :=
  .obj [("batch_id", .str batchId), ("task_id", .str taskId), ("user_id", .str "u1"),
    ("storage_path", .str "p"), ("status", .str "fetched"), ("dataset_id", .null),
    ("generation_task_id", .null)]

theorem storedBatch_nodup :
    ([storedBatch 1 "b1" "t1", storedBatch 2 "b2" "t2"].map Keyed.key).Nodup := by
  simp [storedBatch, Keyed.key]

/-- A task that is being deleted, and a batch of it and of another task. -/
def twoBatches : StoredDatabase where
  tasks := ⟨[fencedTask], List.nodup_singleton _⟩
  batches := ⟨[storedBatch 1 "b1" "t1", storedBatch 2 "b2" "t2"], storedBatch_nodup⟩
  generations := Table.empty
  trainings := Table.empty
  targets := Table.empty

def oneBatchRequest (item : Json) : FinalizeRequest where
  taskId := "t1"
  cascade := true
  expectedUserId := some "u1"
  expectedTaskIdentity := some 1
  batchSnapshot := [item]
  generationSnapshot := []
  trainingSnapshot := []
  expectedTrainingTargetIds := []

theorem finalizeTaskDeletion_twoBatches :
    ∃ db', finalizeTaskDeletion twoBatches (oneBatchRequest (batchItem "b1" "t1")) =
      .ok (true, db') ∧ RemovesTask "t1" twoBatches db' := by
  have hok : (finalizeTaskDeletion twoBatches (oneBatchRequest (batchItem "b1" "t1"))).toOption.map
      Prod.fst = some true := by decide +kernel
  rcases finalizeTaskDeletion_exact twoBatches (oneBatchRequest (batchItem "b1" "t1"))
    (by simp [oneBatchRequest, batchItem, NamesTask, Json.getD, Json.get?, List.lookup_cons])
    (fun _ => by simp [oneBatchRequest]) with ⟨⟨e, he⟩ | ⟨db', hdb'⟩, -⟩ | ⟨db', hdb', hremoves, -⟩
  · rw [he] at hok
    exact absurd hok (by simp [Except.toOption])
  · rw [hdb'] at hok
    exact absurd hok (by simp [Except.toOption])
  · exact ⟨db', hdb', hremoves⟩

/-- A snapshot with the batch of another task deletes that batch, and not the batch of the task. -/
theorem finalizeTaskDeletion_foreign :
    ∃ db', finalizeTaskDeletion twoBatches (oneBatchRequest (batchItem "b2" "t2")) =
        .ok (true, db') ∧
      twoBatches.batches.rows = [storedBatch 1 "b1" "t1", storedBatch 2 "b2" "t2"] ∧
      db'.batches.rows = [storedBatch 1 "b1" "t1"] :=
  ⟨_, rfl, rfl, rfl⟩

end Sync
