import TrainFactory.Lib.Watermark
import TrainFactory.Sync.Proofs.ItemsProofs
import TrainFactory.Sync.Proofs.PositionProofs

/-!
# Proofs: one sync cycle

`CycleMove` lists what a cycle can do: keep the position, or record the batch of its plan, whose
file is in place before the position moves to the plan's. The plan itself is an advance of the
watermark that the cursor and the boundary of the task make up.
-/

namespace Sync

open Lib

variable {py : Stdlib} {env : Env} {taskId : String} {input : CycleInput}

/-! ## The plan -/

/-- The feed of a task: the records of its source, the window that its rollback leaves open, and the
column of the cursor. -/
def recordFeed (py : Stdlib) (rollbackSeconds : Nat) : Feed Json String DateTime where
  key := itemDedupKey py
  time item := (createdAt py item).getD 0
  since cursor := cursor - seconds rollbackSeconds
  since_mono _ _ h := Nat.sub_le_sub_right h _
  store := datetimeColumn
  store_mono := datetimeColumn_mono
  store_store := datetimeColumn_datetimeColumn
  store_since cursor := by
    rw [datetimeColumn_eq_seconds cursor]
    unfold seconds
    rw [← Nat.mul_sub]
    exact datetimeColumn_seconds _

def ExternalSyncTask.watermark (t : ExternalSyncTask) : Watermark String DateTime where
  cursor := t.lastSyncAt
  boundary := { k | k ∈ t.lastSyncBoundaryIds }

/-- The cursor that is read back, and the boundary of a plan. -/
def CyclePlan.watermark (plan : CyclePlan) (untilTime : DateTime) :
    Watermark String DateTime where
  cursor := some (datetimeColumn untilTime)
  boundary := { k | k ∈ plan.boundaryIds }

abbrev ExternalSyncTask.feed (py : Stdlib) (config : ExternalSyncTask) :
    Feed Json String DateTime := recordFeed py config.boundaryRollbackSeconds

/-- `created_at` is not before the cursor minus the rollback. -/
def ExternalSyncTask.inWindow (py : Stdlib) (config : ExternalSyncTask) (item : Json) : Bool :=
  config.lastSyncAt.all fun cursor =>
    itemIsAfter py item (cursor - seconds config.boundaryRollbackSeconds)

section Plan

variable {config : ExternalSyncTask} {since : Option DateTime} {settings : Settings}
  {validated : List Json} {plan : CyclePlan}

theorem since_eq_ok (h : config.since = .ok since) :
    since = config.lastSyncAt.map (· - seconds config.boundaryRollbackSeconds) := by
  unfold ExternalSyncTask.since at h
  split at h
  · rename_i hcursor
    cases h
    rw [hcursor]
    rfl
  · rename_i cursor hcursor
    split at h
    · cases h
    · rename_i t ht
      cases h
      rw [hcursor, rollBack_eq_ok ht]
      rfl

theorem itemIsAfter_iff {item : Json} {threshold : DateTime}
    (h : ∃ t, createdAt py item = some t) :
    itemIsAfter py item threshold = true ↔ threshold ≤ (createdAt py item).getD 0 := by
  obtain ⟨t, ht⟩ := h
  simp [itemIsAfter, ht]

theorem inWindow_iff {item : Json} (h : ∃ t, createdAt py item = some t) :
    config.inWindow py item = true ↔ (config.feed py).InWindow config.watermark item := by
  unfold ExternalSyncTask.inWindow Feed.InWindow ExternalSyncTask.watermark
  cases config.lastSyncAt with
  | none => simp
  | some cursor =>
    rw [Option.all_some, itemIsAfter_iff h]
    constructor
    · rintro hle c ⟨⟩
      exact hle
    · intro hle
      exact hle cursor rfl

theorem newItems_eq (hsince : config.since = .ok since)
    (hhash : ∀ k ∈ config.lastSyncBoundaryIds, isHashedKey k = true) :
    newItems py config since validated = validated.filter fun item =>
      config.inWindow py item && decide (itemDedupKey py item ∉ config.lastSyncBoundaryIds) := by
  have hmatch : ∀ item, (!itemMatchesBoundary py item config.lastSyncBoundaryIds) =
      decide (itemDedupKey py item ∉ config.lastSyncBoundaryIds) := by
    intro item
    rw [Bool.eq_iff_iff, decide_eq_true_eq, Bool.not_eq_true', ← Bool.not_eq_true,
      itemMatchesBoundary_iff hhash]
  rw [since_eq_ok hsince]
  unfold newItems ExternalSyncTask.inWindow
  simp only [hmatch]
  cases config.lastSyncAt with
  | none => simp
  | some cursor => simp only [Option.map_some, Option.all_some, List.filter_filter]

theorem newItems_sublist : (newItems py config since validated).Sublist validated := by
  unfold newItems
  cases since with
  | none => exact List.filter_sublist
  | some since => exact List.filter_sublist.trans List.filter_sublist

theorem mem_newItems (hsince : config.since = .ok since)
    (hhash : ∀ k ∈ config.lastSyncBoundaryIds, isHashedKey k = true)
    (htimes : ∀ item ∈ validated, ∃ t, createdAt py item = some t) (item : Json) :
    item ∈ newItems py config since validated ↔
      item ∈ validated ∧ (config.feed py).Fresh config.watermark item := by
  rw [newItems_eq hsince hhash, List.mem_filter, Bool.and_eq_true, decide_eq_true_eq]
  constructor
  · rintro ⟨hitem, hwin, hkey⟩
    exact ⟨hitem, (inWindow_iff (htimes item hitem)).mp hwin, hkey⟩
  · rintro ⟨hitem, hwin, hkey⟩
    exact ⟨hitem, (inWindow_iff (htimes item hitem)).mpr hwin, hkey⟩

theorem planCycle_eq_some (h : planCycle py settings config since validated = .ok (some plan)) :
    plan.items = newItems py config since validated ∧ plan.items ≠ [] ∧
      plan.untilTime = untilTimeOf py config plan.items ∧
      mergeBoundaryIds py settings config.lastSyncBoundaryIds validated config.lastSyncAt
        plan.untilTime config.boundaryRollbackSeconds = .ok plan.boundaryIds := by
  unfold planCycle at h
  simp only [] at h
  split at h
  · cases h
  rename_i hne
  split at h
  · cases h
  rename_i boundaryIds hmerge
  cases h
  exact ⟨rfl, by simpa using hne, rfl, hmerge⟩

theorem planCycle_eq_none (h : planCycle py settings config since validated = .ok none) :
    newItems py config since validated = [] := by
  unfold planCycle at h
  simp only [] at h
  split at h
  · rename_i hnil
    simpa using hnil
  · split at h <;> cases h

/-- `until_time` is the latest of the cursor and the times of the new records. -/
theorem untilTimeOf_spec {items : List Json} (hne : items ≠ [])
    (htimes : ∀ item ∈ items, ∃ t, createdAt py item = some t) :
    ∃ c, untilTimeOf py config items = some c ∧
      IsGreatest { t | config.lastSyncAt = some t ∨
        ∃ item ∈ items, (createdAt py item).getD 0 = t } c := by
  obtain ⟨first, hfirst⟩ := List.exists_mem_of_ne_nil items hne
  obtain ⟨t, ht⟩ := htimes first hfirst
  obtain ⟨m, hm, -⟩ := (@getMaxTime_ge py items none).2 first hfirst t ht
  have hmax : ∀ item ∈ items, (createdAt py item).getD 0 ≤ m := by
    intro item hitem
    obtain ⟨t, ht⟩ := htimes item hitem
    obtain ⟨r, hr, hle⟩ := (@getMaxTime_ge py items none).2 item hitem t ht
    obtain rfl : m = r := Option.some.inj (hm.symm.trans hr)
    rw [ht]
    exact hle
  have hmem : ∃ item ∈ items, (createdAt py item).getD 0 = m := by
    rcases getMaxTime_mem hm with h | ⟨item, hitem, hcreated⟩
    · cases h
    · exact ⟨item, hitem, by rw [hcreated]; rfl⟩
  unfold untilTimeOf
  simp only [hm]
  cases config.lastSyncAt with
  | none =>
    refine ⟨m, rfl, Or.inr hmem, ?_⟩
    rintro t (⟨⟨⟩⟩ | ⟨item, hitem, rfl⟩)
    exact hmax item hitem
  | some cursor =>
    by_cases hlt : m < cursor
    · refine ⟨cursor, by simp [hlt], Or.inl rfl, ?_⟩
      rintro t (⟨⟨⟩⟩ | ⟨item, hitem, rfl⟩)
      · exact le_refl _
      · exact (hmax item hitem).trans hlt.le
    · refine ⟨m, by simp [hlt], Or.inr hmem, ?_⟩
      rintro t (⟨⟨⟩⟩ | ⟨item, hitem, rfl⟩)
      · exact not_lt.mp hlt
      · exact hmax item hitem

theorem planCycle_advance (h : planCycle py settings config since validated = .ok (some plan))
    (hsince : config.since = .ok since)
    (hhash : ∀ k ∈ config.lastSyncBoundaryIds, isHashedKey k = true)
    (htimes : ∀ item ∈ validated, ∃ t, createdAt py item = some t) :
    ∃ c, plan.untilTime = some c ∧
      Advance (config.feed py) config.watermark validated c (plan.watermark c) ∧
      ∀ k ∈ plan.boundaryIds, isHashedKey k = true := by
  obtain ⟨hitems, hne, huntil, hmerge⟩ := planCycle_eq_some h
  have hmem : ∀ item, item ∈ plan.items ↔ item ∈ validated ∧
      (config.feed py).Fresh config.watermark item := by
    rw [hitems]
    exact mem_newItems hsince hhash htimes
  obtain ⟨c, hc, hgreatest⟩ := @untilTimeOf_spec py config plan.items hne
    (fun item hitem => htimes item ((hmem item).mp hitem).1)
  have hreached : { t | config.lastSyncAt = some t ∨
      ∃ item ∈ plan.items, (createdAt py item).getD 0 = t } =
      (config.feed py).reached config.watermark validated := by
    ext t
    simp only [Set.mem_ofPred_eq, Feed.reached, hmem, and_assoc]
    exact Iff.rfl
  rw [hreached] at hgreatest
  rw [← huntil] at hc
  rw [hc] at hmerge
  have hboundary := mem_mergeBoundaryIds hmerge
  refine ⟨c, hc, ?_, ?_⟩
  · refine ⟨rfl, hgreatest, ?_, ?_, ?_⟩
    · intro k hk
      rcases (hboundary k).mp hk with ⟨hk, -, -⟩ | ⟨item, hitem, hafter, hkey⟩
      · exact Or.inl hk
      · exact Or.inr ⟨item, hitem, (itemIsAfter_iff (htimes item hitem)).mp hafter, hkey⟩
    · intro item hitem hle
      exact (hboundary _).mpr
        (Or.inr ⟨item, hitem, (itemIsAfter_iff (htimes item hitem)).mpr hle, rfl⟩)
    · intro c₀ hc₀ hle k hk
      exact (hboundary k).mpr (Or.inl ⟨hk, hhash k hk, c₀, hc₀, hle⟩)
  · intro k hk
    rcases (hboundary k).mp hk with ⟨-, hhash, -⟩ | ⟨item, -, -, rfl⟩
    · exact hhash
    · exact itemDedupKey_isHashedKey py item

end Plan

/-! ## The transactions of a cycle -/

section Transactions

variable {db db' : Database}

theorem writePosition_eq_ok {patch : TaskPatch} (hreset : patch.lastSyncAt ≠ some none)
    (h : writePosition env input taskId patch db = .ok db') :
    db' = { db with tasks := db.tasks.update taskId patch.apply } := by
  unfold writePosition at h
  cases hup : updateTask env.legacyTrainingTargetId input.verdict
      { taskId := taskId, patch := patch } db with
  | error e => rw [hup] at h; cases h
  | ok result =>
    rw [hup] at h
    obtain ⟨r, db''⟩ := result
    obtain rfl : db'' = db' := Except.ok.inj h
    unfold updateTask at hup
    simp only [finalTargets, Option.getD_none, List.map_nil] at hup
    split at hup
    · cases hup
    · rename_i hlock
      cases hup
      have hnone : db.tasks.lookup taskId = none := by
        unfold lockWriterScope at hlock
        split at hlock
        · assumption
        repeat' split at hlock
        all_goals cases hlock
      have hstay : db.tasks.update taskId patch.apply = db.tasks := by
        refine Table.updateWhere_eq_self fun t ht => ?_
        simpa using Table.lookup_eq_none.mp hnone t ht
      rw [hstay]
    · rename_i task targets hlock
      obtain ⟨htask, -, rfl⟩ := lockWriterScope_eq_some hlock
      obtain ⟨-, hid⟩ := Table.lookup_eq_some.mp htask
      have hid : task.taskId = taskId := hid
      subst hid
      split at hup
      · cases hup
      simp only [replaceTargets] at hup
      have hnot : isPositionReset patch task = false := by
        simp [isPositionReset, hreset]
      rw [writeTask_of_not_reset hnot] at hup
      have hpatch : patchedTask env.legacyTrainingTargetId patch none
          (db.targetsOf task.taskId) = patch.apply := by
        funext t
        simp [patchedTask, legacyTargetToCreate, deletesAllLegacyTargets]
      simp only [hpatch] at hup
      exact (Prod.mk.inj (Except.ok.inj hup)).2.symm

theorem promoteBatch_eq_ok {config : ExternalSyncTask} {batch : ExternalSyncBatch}
    (h : promoteBatch input config batch db = .ok db') :
    SamePosition db.tasks db'.tasks ∧ BatchesKept db.batches db'.batches := by
  unfold promoteBatch at h
  split at h
  · cases h
    exact ⟨.refl _, .refl _⟩
  · cases hp : promoteBatchToFetched config.taskId batch.batchId config.userId db with
    | error e => rw [hp] at h; cases h
    | ok result =>
      rw [hp] at h
      obtain ⟨r, db''⟩ := result
      obtain rfl : db'' = db' := Except.ok.inj h
      have hcommit : (promoteBatchToFetched config.taskId batch.batchId config.userId db).commit db =
          db'' := by rw [hp]; rfl
      rcases promoteBatchToFetched_commit db config.taskId batch.batchId config.userId with
        he | ⟨task, b, -, -, -, -, he⟩ <;> rw [hcommit] at he <;> subst he
      · exact ⟨.refl _, .refl _⟩
      · exact ⟨.update (by intro _; exact ⟨rfl, rfl⟩), .ofUpdate (by intro _; exact ⟨rfl, rfl⟩)⟩

theorem reconcilePendingRecords_kept (taskId : String) :
    SamePosition db.tasks ((reconcilePendingRecords taskId db).commit db).tasks ∧
      ((reconcilePendingRecords taskId db).commit db).batches = db.batches := by
  rcases reconcilePendingRecords_commit db taskId with h | ⟨task, -, -, h⟩ <;> rw [h]
  · exact ⟨.refl _, rfl⟩
  · exact ⟨.update (by intro _; exact ⟨rfl, rfl⟩), rfl⟩

/-- `create_batch` returns the row it adds, or the unconsumed row of the same window whose file the
new one duplicates. -/
theorem createBatch_eq_ok {settings : Settings} {sha256 : String → Option String}
    {args : CreateBatch} {batch : ExternalSyncBatch} {isNew : Bool}
    (h : createBatch settings sha256 args db = .ok ((batch, isNew), db')) :
    db'.tasks = db.tasks ∧ BatchesKept db.batches db'.batches ∧ batch ∈ db'.batches ∧
      batch.taskId = args.taskId ∧
      (batch.storagePath = args.storagePath ∨
        isNew = false ∧ isDuplicate sha256 args.recordCount args.storagePath batch = true) := by
  unfold createBatch at h
  split at h
  · cases h
  split at h
  · cases h
  split at h
  · cases h
  split at h
  · rename_i existing hfind
    cases h
    have hmem := List.mem_of_find?_eq_some hfind
    have hdup : isDuplicate sha256 args.recordCount args.storagePath batch = true :=
      List.find?_some hfind
    obtain ⟨hrow, hcond⟩ := Table.mem_select.mp hmem
    simp only [Bool.and_eq_true, decide_eq_true_eq] at hcond
    exact ⟨rfl, .refl _, hrow, hcond.1.1.1, Or.inr ⟨rfl, hdup⟩⟩
  · split at h
    · cases h
    split at h
    · cases h
    split at h
    · cases h
    rename_i batches hins
    cases h
    exact ⟨rfl, .ofInsert hins, (Table.mem_insert hins).mpr (Or.inr rfl), rfl, Or.inl rfl⟩

end Transactions

/-! ## Files -/

def CollisionFree (py : Stdlib) (files : String → Option (List Json)) (documents : List Json) :
    Prop :=
  ∀ path docs, files path = some docs → documentsSha256 py docs = documentsSha256 py documents →
    docs = documents

/-- No file is removed or changed. -/
def FilesKept (files files' : String → Option (List Json)) : Prop :=
  ∀ path docs, files path = some docs → files' path = some docs

section Files

variable {files files' : String → Option (List Json)} {path : String}

theorem FilesKept.refl (files : String → Option (List Json)) : FilesKept files files :=
  fun _ _ h => h

theorem FilesKept.trans {files'' : String → Option (List Json)} (h : FilesKept files files')
    (h' : FilesKept files' files'') : FilesKept files files'' :=
  fun path docs hdocs => h' path docs (h path docs hdocs)

theorem FilesKept.update (hnone : files path = none) (docs : Option (List Json)) :
    FilesKept files (Function.update files path docs) := by
  intro path' docs' hdocs
  have hne : path' ≠ path := by
    rintro rfl
    rw [hnone] at hdocs
    cases hdocs
  rwa [Function.update_of_ne hne]

theorem saveBatch_eq_ok {settings : Settings} {plan : CyclePlan}
    (h : saveBatch py settings input plan files = .ok files') :
    files input.batchFile = none ∧
      files' = Function.update files input.batchFile (some (plan.documents py)) := by
  unfold saveBatch at h
  split at h
  · cases h
  split at h
  · cases h
  split at h
  · cases h
  split at h
  · cases h
  rename_i hfree
  cases h
  exact ⟨by simpa using hfree, rfl⟩

/-- The file of the returned batch holds the documents of the plan: it is the new file, or a file
with the digest of the new one. -/
theorem isDuplicate_documents {documents : List Json} {n : Int} {batch : ExternalSyncBatch}
    (hcollision : CollisionFree py files documents)
    (h : isDuplicate (fileSha256 py (Function.update files path (some documents))) n path batch =
      true) :
    Function.update files path (some documents) batch.storagePath = some documents := by
  by_cases hpath : batch.storagePath = path
  · rw [hpath, Function.update_self]
  · have hexists : Function.update files path (some documents) batch.storagePath =
        files batch.storagePath := Function.update_of_ne hpath ..
    simp only [isDuplicate, hpath, decide_false, Bool.false_or, Bool.and_eq_true,
      decide_eq_true_eq, fileSha256, hexists, Function.update_self, Option.map_some] at h
    obtain ⟨-, hdigest⟩ := h
    obtain ⟨docs, hdocs, hsha⟩ := Option.map_eq_some_iff.mp hdigest
    rw [hexists, hdocs, hcollision _ docs hdocs hsha]

theorem removeDuplicate_of_eq {batch : ExternalSyncBatch} {docs : List Json}
    (h : files batch.storagePath = some docs) :
    removeDuplicate input batch files batch.storagePath = some docs := by
  unfold removeDuplicate
  split
  · rename_i hne
    rw [Function.update_of_ne (Ne.symm hne.2.2)]
    exact h
  · exact h

end Files

/-! ## One cycle -/

/-- What a cycle of a task read and planned. -/
structure Planned (py : Stdlib) (env : Env) (taskId : String) (input : CycleInput) (w : World)
    (config : ExternalSyncTask) (since : Option DateTime) (validated : List Json)
    (plan : Option CyclePlan) : Prop where
  lookup : w.db.tasks.lookup taskId = some config
  since_eq : config.since = .ok since
  valid : input.response.bind (validateAndDeduplicateItems py env.settings input.now) =
    .ok validated
  plan_eq : planCycle py env.settings config since validated = .ok plan

/-- Positions, batches and files are kept. -/
structure Keeps (w w' : World) : Prop where
  position : SamePosition w.db.tasks w'.db.tasks
  batches : BatchesKept w.db.batches w'.db.batches
  files : FilesKept w.files w'.files

structure Records (py : Stdlib) (taskId : String) (plan : CyclePlan) (batch : ExternalSyncBatch)
    (w w' : World) : Prop where
  batches : BatchesKept w.db.batches w'.db.batches
  files : FilesKept w.files w'.files
  row : ∃ b ∈ w'.db.batches, b.place = (taskId, batch.storagePath)
  documents : CollisionFree py w.files (plan.documents py) →
    w'.files batch.storagePath = some (plan.documents py)

def PositionMoved (taskId : String) (input : CycleInput) (rollbackSeconds : Nat)
    (plan : CyclePlan) (db : Database) : Prop :=
  ∀ t, db.tasks.lookup taskId = some t → t.position =
    (some (datetimeColumn (plan.untilTime.getD input.now)), plan.boundaryIds, rollbackSeconds)

/-- What a cycle can do. -/
inductive CycleMove (py : Stdlib) (env : Env) (taskId : String) (input : CycleInput) (w : World) :
    CycleOutcome × World → Prop
  /-- The cycle raised, or was cut off, before it got a batch. -/
  | quiet {outcome : CycleOutcome} {w' : World} (hquiet : outcome.isQuiet = true)
      (hkeeps : Keeps w w') : CycleMove py env taskId input w (outcome, w')
  /-- There was nothing new. -/
  | idle {w' : World} {config : ExternalSyncTask} {since : Option DateTime}
      {validated : List Json} (hplan : Planned py env taskId input w config since validated none)
      (hkeeps : Keeps w w') : CycleMove py env taskId input w (.idle, w')
  /-- The cycle got a batch and was cut off. -/
  | stopped {plan : CyclePlan} {batch : ExternalSyncBatch} {isNew : Bool} {w' : World}
      {config : ExternalSyncTask} {since : Option DateTime} {validated : List Json}
      (hplan : Planned py env taskId input w config since validated (some plan))
      (hrecords : Records py taskId plan batch w w')
      (hposition : SamePosition w.db.tasks w'.db.tasks) :
      CycleMove py env taskId input w (.recorded plan batch isNew false, w')
  /-- The cycle got a batch and moved the position. -/
  | advanced {plan : CyclePlan} {batch : ExternalSyncBatch} {isNew : Bool} {w' : World}
      {config : ExternalSyncTask} {since : Option DateTime} {validated : List Json}
      (hplan : Planned py env taskId input w config since validated (some plan))
      (hrecords : Records py taskId plan batch w w')
      (hposition : PositionMoved taskId input config.boundaryRollbackSeconds plan w'.db) :
      CycleMove py env taskId input w (.recorded plan batch isNew true, w')

section Moves

variable {w w₁ : World} {config : ExternalSyncTask} {plan : CyclePlan}
  {batch : ExternalSyncBatch}

theorem Keeps.trans {w' : World} (h : Keeps w w₁) (h' : Keeps w₁ w') : Keeps w w' :=
  ⟨h.position.trans h'.position, h'.batches.trans h.batches, h.files.trans h'.files⟩

theorem writePosition_keeps {patch : TaskPatch} {db : Database}
    (hcursor : patch.lastSyncAt = none) (hboundary : patch.lastSyncBoundaryIds = none)
    (h : writePosition env input taskId patch w.db = .ok db) : Keeps w { w with db := db } := by
  have hdb := writePosition_eq_ok (by rw [hcursor]; nofun) h
  subst hdb
  have hpatch : ∀ t, (patch.apply t).position = t.position := by
    intro t
    simp [ExternalSyncTask.position, TaskPatch.apply, hcursor, hboundary]
  refine ⟨?_, .refl _, .refl _⟩
  show SamePosition w.db.tasks (w.db.tasks.update taskId patch.apply)
  exact .update (by intro t; exact ⟨rfl, hpatch t⟩)

theorem writePosition_getD_keeps {patch : TaskPatch} (hcursor : patch.lastSyncAt = none)
    (hboundary : patch.lastSyncBoundaryIds = none) :
    Keeps w { w with db := (writePosition env input taskId patch w.db).toOption.getD w.db } := by
  cases h : writePosition env input taskId patch w.db with
  | error e => exact ⟨.refl _, .refl _, .refl _⟩
  | ok db => exact writePosition_keeps hcursor hboundary h

theorem advancePosition_eq_ok {db db' : Database}
    (h : writePosition env input config.taskId (advancePosition input plan) db = .ok db')
    (hrollback : ∀ t, db.tasks.lookup config.taskId = some t →
      t.boundaryRollbackSeconds = config.boundaryRollbackSeconds) :
    PositionMoved config.taskId input config.boundaryRollbackSeconds plan db' ∧
      db'.batches = db.batches := by
  have hdb := writePosition_eq_ok (by simp [advancePosition]) h
  subst hdb
  refine ⟨?_, rfl⟩
  intro t ht
  simp only [Table.lookup_update, if_pos] at ht
  obtain ⟨t₀, ht₀, rfl⟩ := Option.map_eq_some_iff.mp ht
  simp [ExternalSyncTask.position, TaskPatch.apply, advancePosition, hrollback t₀ ht₀]

theorem SamePosition.rollback {tasks tasks' : Table ExternalSyncTask} {r : Nat}
    (h : SamePosition tasks tasks')
    (hr : ∀ t, tasks.lookup taskId = some t → t.boundaryRollbackSeconds = r) :
    ∀ t, tasks'.lookup taskId = some t → t.boundaryRollbackSeconds = r := by
  intro t ht
  obtain ⟨t₀, ht₀, hpos⟩ := Table.SameColumn.lookup h ht
  have hroll : t₀.boundaryRollbackSeconds = t.boundaryRollbackSeconds :=
    congrArg (fun p => p.2.2) hpos
  rw [← hroll]
  exact hr t₀ ht₀

structure Finishes (input : CycleInput) (config : ExternalSyncTask) (plan : CyclePlan)
    (batch : ExternalSyncBatch) (isNew : Bool) (w : World) (result : CycleOutcome × World)
    (advanced : Bool) : Prop where
  outcome : result.1 = .recorded plan batch isNew advanced
  batches : BatchesKept w.db.batches result.2.db.batches
  stopped : advanced = false → SamePosition w.db.tasks result.2.db.tasks
  moved : advanced = true →
    PositionMoved config.taskId input config.boundaryRollbackSeconds plan result.2.db

theorem finishNew_files (w : World) :
    (finishNew env input config plan batch w).2.files = w.files := by
  unfold finishNew
  cases promoteBatch input config batch w.db with
  | error e => rfl
  | ok db =>
    simp only []
    split
    · rfl
    · cases writePosition env input config.taskId (advancePosition input plan) db <;> rfl

theorem finishDuplicate_files (w : World) :
    (finishDuplicate env input config plan batch w).2.files =
      removeDuplicate input batch w.files := by
  unfold finishDuplicate
  simp only []
  split
  · rfl
  · cases writePosition env input config.taskId (advancePosition input plan) w.db <;> rfl

theorem finishNew_finishes (hrollback : ∀ t, w.db.tasks.lookup config.taskId = some t →
      t.boundaryRollbackSeconds = config.boundaryRollbackSeconds) :
    ∃ advanced, Finishes input config plan batch true w
      (finishNew env input config plan batch w) advanced := by
  unfold finishNew
  cases hpromote : promoteBatch input config batch w.db with
  | error e => exact ⟨false, rfl, .refl _, fun _ => .refl _, nofun⟩
  | ok db =>
    obtain ⟨hsame, hkept⟩ := promoteBatch_eq_ok hpromote
    simp only []
    split
    · exact ⟨false, rfl, hkept, fun _ => hsame, nofun⟩
    · cases hwrite : writePosition env input config.taskId (advancePosition input plan) db with
      | error e => exact ⟨false, rfl, hkept, fun _ => hsame, nofun⟩
      | ok db' =>
        obtain ⟨hmoved, hbatches⟩ := advancePosition_eq_ok hwrite
          (SamePosition.rollback hsame hrollback)
        refine ⟨true, rfl, ?_, nofun, fun _ => hmoved⟩
        show BatchesKept w.db.batches db'.batches
        rw [hbatches]
        exact hkept

theorem PositionMoved.of_same {rollbackSeconds : Nat} {db db' : Database}
    (h : PositionMoved taskId input rollbackSeconds plan db)
    (hsame : SamePosition db.tasks db'.tasks) :
    PositionMoved taskId input rollbackSeconds plan db' := by
  intro t ht
  obtain ⟨t₀, ht₀, hpos⟩ := Table.SameColumn.lookup hsame ht
  exact hpos.symm.trans (h t₀ ht₀)

theorem finishDuplicate_finishes (hrollback : ∀ t, w.db.tasks.lookup config.taskId = some t →
      t.boundaryRollbackSeconds = config.boundaryRollbackSeconds) :
    ∃ advanced, Finishes input config plan batch false w
      (finishDuplicate env input config plan batch w) advanced := by
  unfold finishDuplicate
  simp only []
  split
  · exact ⟨false, rfl, .refl _, fun _ => .refl _, nofun⟩
  · cases hwrite : writePosition env input config.taskId (advancePosition input plan) w.db with
    | error e => exact ⟨false, rfl, .refl _, fun _ => .refl _, nofun⟩
    | ok db =>
      obtain ⟨hmoved, hbatches⟩ := advancePosition_eq_ok hwrite hrollback
      simp only []
      split
      · cases hpromote : promoteBatch input config batch db with
        | error e =>
          exact ⟨true, rfl, by rw [← hbatches]; exact .refl _, nofun, fun _ => hmoved⟩
        | ok db' =>
          obtain ⟨hsame, hkept⟩ := promoteBatch_eq_ok hpromote
          rw [hbatches] at hkept
          exact ⟨true, rfl, hkept, nofun, fun _ => hmoved.of_same hsame⟩
      · obtain ⟨hsame, hkept⟩ := @reconcilePendingRecords_kept db config.taskId
        refine ⟨true, rfl, ?_, nofun, fun _ => hmoved.of_same hsame⟩
        show BatchesKept w.db.batches ((reconcilePendingRecords config.taskId db).commit db).batches
        rw [hkept, hbatches]
        exact .refl _

theorem recordBatch_move {since : Option DateTime} {validated : List Json}
    (hplan : Planned py env config.taskId input w config since validated (some plan))
    (hkeeps : Keeps w w₁) (hfiles : w₁.files = w.files) :
    CycleMove py env config.taskId input w (recordBatch py env input config plan w₁) := by
  have hrollback : ∀ t, w₁.db.tasks.lookup config.taskId = some t →
      t.boundaryRollbackSeconds = config.boundaryRollbackSeconds := by
    refine SamePosition.rollback hkeeps.position ?_
    intro t ht
    rw [Option.some.inj (ht.symm.trans hplan.lookup)]
  unfold recordBatch
  cases hsave : saveBatch py env.settings input plan w₁.files with
  | error e => exact .quiet rfl hkeeps
  | ok files =>
    obtain ⟨hfree, rfl⟩ := saveBatch_eq_ok hsave
    have hnew := FilesKept.update hfree (some (plan.documents py))
    simp only []
    split
    · exact .quiet rfl ⟨hkeeps.position, hkeeps.batches, hkeeps.files.trans hnew⟩
    cases hcreate : createBatch env.settings
        (fileSha256 py (Function.update w₁.files input.batchFile (some (plan.documents py))))
        (plan.createBatch input config) w₁.db with
    | error e =>
      refine .quiet rfl ⟨hkeeps.position, hkeeps.batches, ?_⟩
      simp only [Function.update_idem]
      exact hkeeps.files.trans (FilesKept.update hfree none)
    | ok result =>
      obtain ⟨⟨batch, isNew⟩, db⟩ := result
      obtain ⟨htasks, hbatches, hrow, htask, hpath⟩ := createBatch_eq_ok hcreate
      have hkept := hbatches.trans hkeeps.batches
      have hsame : SamePosition w.db.tasks db.tasks := by
        rw [htasks]
        exact hkeeps.position
      -- the file of the returned batch holds the plan's documents, new or not
      have hdocs : CollisionFree py w.files (plan.documents py) →
          Function.update w₁.files input.batchFile (some (plan.documents py)) batch.storagePath =
            some (plan.documents py) := by
        intro hfreeHash
        rw [← hfiles] at hfreeHash
        rcases hpath with hpath | ⟨-, hdup⟩
        · rw [show batch.storagePath = input.batchFile from hpath, Function.update_self]
        · exact isDuplicate_documents hfreeHash hdup
      have hallfiles := hkeeps.files.trans hnew
      have hplace : ∃ b ∈ db.batches, b.place = (config.taskId, batch.storagePath) :=
        ⟨batch, hrow, by rw [ExternalSyncBatch.place, htask]; rfl⟩
      have hrollback' : ∀ t, db.tasks.lookup config.taskId = some t →
          t.boundaryRollbackSeconds = config.boundaryRollbackSeconds := by
        rw [htasks]
        exact hrollback
      simp only []
      split
      · exact .stopped hplan ⟨hkept, hallfiles, hplace, hdocs⟩ hsame
      -- what the end of the cycle does to the batches and the position, in one form for both ends
      have hfinish : ∀ {result : CycleOutcome × World} {advanced : Bool} {files'},
          Finishes input config plan batch isNew
            { db := db, files := Function.update w₁.files input.batchFile
                (some (plan.documents py)) } result advanced →
          result.2.files = files' → FilesKept w.files files' →
          (CollisionFree py w.files (plan.documents py) →
            files' batch.storagePath = some (plan.documents py)) →
          CycleMove py env config.taskId input w result := by
        rintro ⟨outcome, w'⟩ advanced files' hfin rfl hfk hfd
        obtain rfl : outcome = .recorded plan batch isNew advanced := hfin.outcome
        have hplace' : ∃ b ∈ w'.db.batches, b.place = (config.taskId, batch.storagePath) := by
          obtain ⟨b, hb, hbp⟩ := hplace
          obtain ⟨b', hb', -, hbp'⟩ := hfin.batches b hb
          exact ⟨b', hb', hbp'.trans hbp⟩
        have hrecords : Records py config.taskId plan batch w w' :=
          ⟨hfin.batches.trans hkept, hfk, hplace', hfd⟩
        cases advanced with
        | false => exact .stopped hplan hrecords (hsame.trans (hfin.stopped rfl))
        | true => exact .advanced hplan hrecords (hfin.moved rfl)
      cases isNew with
      | true =>
        obtain ⟨advanced, hfin⟩ := @finishNew_finishes env input
          { db := db, files := Function.update w₁.files input.batchFile
              (some (plan.documents py)) } config plan batch hrollback'
        exact hfinish hfin (finishNew_files _) hallfiles hdocs
      | false =>
        obtain ⟨advanced, hfin⟩ := @finishDuplicate_finishes env input
          { db := db, files := Function.update w₁.files input.batchFile
              (some (plan.documents py)) } config plan batch hrollback'
        refine hfinish hfin (finishDuplicate_files _) ?_ fun h => removeDuplicate_of_eq (hdocs h)
        -- removing the new file again loses none of the others
        unfold removeDuplicate
        split
        · rw [Function.update_idem]
          exact hkeeps.files.trans (FilesKept.update hfree none)
        · exact hallfiles

theorem runCycle_move (w : World) :
    CycleMove py env taskId input w (runCycle py env taskId input w) := by
  unfold runCycle
  have hrefl : Keeps w w := ⟨.refl _, .refl _, .refl _⟩
  cases hlookup : w.db.tasks.lookup taskId with
  | none => exact .quiet rfl hrefl
  | some config =>
    obtain rfl : config.taskId = taskId := (Table.lookup_eq_some.mp hlookup).2
    simp only []
    cases hsince : config.since with
    | error e => exact .quiet rfl hrefl
    | ok since =>
      simp only []
      cases hsyncing : writePosition env input config.taskId
          { status := some .syncing, errorMessage := some none } w.db with
      | error e => exact .quiet rfl hrefl
      | ok db =>
        have hkeeps := writePosition_keeps rfl rfl hsyncing
        simp only []
        cases hvalid : input.response.bind
            (validateAndDeduplicateItems py env.settings input.now) with
        | error e =>
          exact .quiet rfl (hkeeps.trans (writePosition_getD_keeps rfl rfl))
        | ok validated =>
          simp only []
          cases hplan : planCycle py env.settings config since validated with
          | error e => exact .quiet rfl hkeeps
          | ok plan =>
            cases plan with
            | none =>
              exact .idle ⟨hlookup, hsince, hvalid, hplan⟩
                (hkeeps.trans (writePosition_getD_keeps rfl rfl))
            | some plan =>
              exact recordBatch_move ⟨hlookup, hsince, hvalid, hplan⟩ hkeeps rfl

/-- A batch comes of a plan, and holds its records. -/
theorem runCycle_recorded {isNew advanced : Bool}
    (h : (runCycle py env taskId input w).1 = .recorded plan batch isNew advanced) :
    ∃ config since validated, Planned py env taskId input w config since validated (some plan) ∧
      Records py taskId plan batch w (runCycle py env taskId input w).2 := by
  have hmove := @runCycle_move py env taskId input w
  generalize runCycle py env taskId input w = result at h hmove
  cases hmove with
  | quiet hquiet hkeeps => subst h; cases hquiet
  | idle hplan hkeeps => cases h
  | stopped hplan hrecords hposition => cases h; exact ⟨_, _, _, hplan, hrecords⟩
  | advanced hplan hrecords hposition => cases h; exact ⟨_, _, _, hplan, hrecords⟩

/-! ## The other files -/

theorem update_eq_some {files : String → Option (List Json)} {path path' : String}
    {new : Option (List Json)} {docs : List Json}
    (h : Function.update files path new path' = some docs) :
    files path' = some docs ∨ path' = path ∧ new = some docs := by
  by_cases hpath : path' = path
  · subst hpath
    rw [Function.update_self] at h
    exact Or.inr ⟨rfl, h⟩
  · rw [Function.update_of_ne hpath] at h
    exact Or.inl h

theorem recordBatch_files {path : String} {docs : List Json}
    (h : (recordBatch py env input config plan w).2.files path = some docs) :
    w.files path = some docs ∨ path = input.batchFile ∧ docs = plan.documents py := by
  have hnew : ∀ {path docs}, Function.update w.files input.batchFile (some (plan.documents py))
      path = some docs →
      w.files path = some docs ∨ path = input.batchFile ∧ docs = plan.documents py := by
    intro path docs h
    rcases update_eq_some h with h | ⟨hpath, hdocs⟩
    · exact Or.inl h
    · exact Or.inr ⟨hpath, (Option.some.inj hdocs).symm⟩
  have hremoved : ∀ {path docs}, Function.update (Function.update w.files input.batchFile
      (some (plan.documents py))) input.batchFile none path = some docs →
      w.files path = some docs ∨ path = input.batchFile ∧ docs = plan.documents py := by
    intro path docs h
    rcases update_eq_some h with h | ⟨-, hdocs⟩
    · exact hnew h
    · cases hdocs
  unfold recordBatch at h
  cases hsave : saveBatch py env.settings input plan w.files with
  | error e =>
    rw [hsave] at h
    exact Or.inl h
  | ok files =>
    obtain ⟨-, rfl⟩ := saveBatch_eq_ok hsave
    simp only [hsave] at h
    split at h
    · exact hnew h
    split at h
    · exact hremoved h
    · split at h
      · exact hnew h
      split at h
      · rw [finishNew_files] at h
        exact hnew h
      · rw [finishDuplicate_files] at h
        unfold removeDuplicate at h
        split at h
        · exact hremoved h
        · exact hnew h

theorem runCycle_files {path : String} {docs : List Json}
    (h : (runCycle py env taskId input w).2.files path = some docs) :
    w.files path = some docs ∨ path = input.batchFile ∧ ∃ config since validated plan,
      Planned py env taskId input w config since validated (some plan) ∧
        docs = plan.documents py := by
  unfold runCycle at h
  split at h
  · exact Or.inl h
  rename_i config hlookup
  split at h
  · exact Or.inl h
  rename_i since hsince
  split at h
  · exact Or.inl h
  simp only [] at h
  split at h
  · exact Or.inl h
  rename_i validated hvalid
  split at h
  · exact Or.inl h
  · exact Or.inl h
  · rename_i plan hplan
    rcases recordBatch_files h with h | ⟨hpath, hdocs⟩
    · exact Or.inl h
    · exact Or.inr ⟨hpath, config, since, validated, plan, ⟨hlookup, hsince, hvalid, hplan⟩, hdocs⟩

end Moves

end Sync
