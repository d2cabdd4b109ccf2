import TrainFactory.Generation.Publication
import TrainFactory.Lib.Run

/-!
# Proofs: publication is atomic and fenced by attempt

A completion changes nothing or publishes exactly what its attempt has staged, only in a step in
which the task is publishing with the token of the attempt. A token that a task has given up is
never handed out again, so nothing that carries it makes a product visible.
-/

namespace Generation

open Lib
open Dataset (DatasetRow DatasetStatus)

variable {host : Host} {db db' : Database}

/-! ## Conditional updates -/

theorem taskWhere_eq_some {taskId : String} {conditions : GenerationTask → Bool}
    {t : GenerationTask} : taskWhere db taskId conditions = some t ↔
      db.tasks.lookup taskId = some t ∧ conditions t = true := by
  simp [taskWhere, Option.filter_eq_some_iff]

/-- What an update of tasks does with tokens: it keeps the row of every other task, and the row it
writes keeps its token or gets the given one. -/
structure TaskMove (token : Option String) (db db' : Database) : Prop where
  tasks : ∀ id t', db'.tasks.lookup id = some t' → ∃ t, db.tasks.lookup id = some t ∧
    (t'.runToken = t.runToken ∨ token ≠ none ∧ t'.runToken = token)
  datasets : db'.datasets = db.datasets
  assets : db'.assets = db.assets
  edges : db'.edges = db.edges
  collections : db'.collections = db.collections
  links : db'.links = db.links

theorem TaskMove.refl (token : Option String) (db : Database) : TaskMove token db db :=
  ⟨fun _ t h => ⟨t, h, Or.inl rfl⟩, rfl, rfl, rfl, rfl, rfl⟩

theorem lookup_updateTask {taskId : String} {values : GenerationTask → GenerationTask} {id : String}
    {t' : GenerationTask}
    (h : (db.tasks.update taskId (keepId values) (key_keepId values)).lookup id = some t') :
    ∃ t, db.tasks.lookup id = some t ∧ (id ≠ taskId ∧ t' = t ∨ id = taskId ∧ t' = keepId values t) := by
  rw [Table.lookup_update] at h
  by_cases hid : id = taskId
  · rw [if_pos hid] at h
    obtain ⟨t, hl, rfl⟩ := Option.map_eq_some_iff.mp h
    exact ⟨t, hid ▸ hl, Or.inr ⟨hid, rfl⟩⟩
  · rw [if_neg hid] at h
    exact ⟨t', h, Or.inl ⟨hid, rfl⟩⟩

theorem updateIf_move {token : Option String} {taskId : String}
    {conditions : GenerationTask → Bool} {values : GenerationTask → GenerationTask}
    (h : ∀ t, conditions t = true →
      (values t).runToken = t.runToken ∨ token ≠ none ∧ (values t).runToken = token) :
    TaskMove token db (updateIf db taskId conditions values).2 := by
  unfold updateIf
  by_cases hsome : (taskWhere db taskId conditions).isSome
  · rw [if_pos hsome]
    obtain ⟨t₀, ht₀⟩ := Option.isSome_iff_exists.mp hsome
    obtain ⟨hl₀, hc₀⟩ := taskWhere_eq_some.mp ht₀
    refine ⟨fun id t' hl => ?_, rfl, rfl, rfl, rfl, rfl⟩
    obtain ⟨t, hlt, ⟨-, rfl⟩ | ⟨rfl, rfl⟩⟩ := lookup_updateTask hl
    · exact ⟨_, hlt, Or.inl rfl⟩
    · obtain rfl : t₀ = t := Option.some.inj (hl₀.symm.trans hlt)
      exact ⟨t₀, hlt, h t₀ hc₀⟩
  · rw [if_neg hsome]
    exact .refl token db

def Op.isLifecycle : Op → Bool
  | .stageDataset _ | .completePublication _ | .compensateAttempt _ => false
  | _ => true

theorem getD_token {old : Option String} {new : String} :
    some (old.getD new) = old ∨ some new ≠ none ∧ some (old.getD new) = some new := by
  cases old <;> simp

theorem lifecycle_move {op : Op} (hop : op.isLifecycle = true) :
    TaskMove op.newToken db (op.apply host db) := by
  cases op with
  | claimRunning available taskId expectedRunToken legacyRunToken now =>
    simp only [Op.apply, claimRunning]
    split
    · exact .refl _ db
    · split
      · exact updateIf_move fun t _ => getD_token
      · exact .refl _ db
  | claimOrphanRecovery taskId expectedStatus expectedRunToken legacyRecoveryToken =>
    simp only [Op.apply, claimOrphanRecovery]
    split
    · exact .refl _ db
    · split
      · exact .refl _ db
      · exact updateIf_move fun t _ => getD_token
  | finishOrphanRecovery taskId expectedRunToken terminalStatus errorMessage now =>
    simp only [Op.apply, finishOrphanRecovery]
    split_ifs
    · exact .refl _ db
    · exact updateIf_move fun t _ => Or.inl rfl
  | beginRestart available taskId expectedRunToken newRunToken requireSourceDataset =>
    simp only [Op.apply, beginRestart]
    split
    · exact .refl _ db
    · split
      · exact .refl _ db
      · split_ifs <;> first
          | exact .refl _ db
          | exact updateIf_move fun t _ => Or.inr ⟨by simp [Op.newToken], rfl⟩
  | finishRestart taskId expectedRunToken outputPath =>
    simp only [Op.apply, finishRestart]
    split_ifs
    · exact .refl _ db
    · exact updateIf_move fun t _ => Or.inl rfl
  | failRestart taskId expectedRunToken errorMessage now =>
    exact updateIf_move fun t _ => Or.inl rfl
  | updateStatus args =>
    simp only [Op.apply, updateStatus]
    split
    · exact .refl _ db
    · split_ifs
      · exact .refl _ db
      · exact updateIf_move fun t _ => Or.inr ⟨by simp [Op.newToken], rfl⟩
      · exact .refl _ db
      · exact updateIf_move fun t _ => Or.inl rfl
  | stageDataset args => cases hop
  | completePublication args => cases hop
  | compensateAttempt args => cases hop

/-! ## Staging -/

/-- What `stage_dataset` changes: it adds rows that are not visible, and nothing else. -/
structure Stages (db db' : Database) : Prop where
  tasks : db'.tasks = db.tasks
  datasets : ∀ d ∈ db'.datasets, d ∈ db.datasets ∨ d.status = .staging
  collections : db'.collections = db.collections
  links : db'.links = db.links

theorem Stages.refl (db : Database) : Stages db db := ⟨rfl, fun _ h => Or.inl h, rfl, rfl⟩

theorem Stages.trans {db'' : Database} (h : Stages db db') (h' : Stages db' db'') :
    Stages db db'' := by
  refine ⟨h'.tasks.trans h.tasks, fun d hd => ?_, h'.collections.trans h.collections,
    h'.links.trans h.links⟩
  rcases h'.datasets d hd with hd' | hd'
  · exact h.datasets d hd'
  · exact Or.inr hd'

theorem stageRow_stages {args : StageDataset} (h : stageRow host args db = some db') :
    Stages db db' := by
  unfold stageRow at h
  split at h
  · split_ifs at h
    obtain rfl := Option.some.inj h
    exact .refl db
  · split_ifs at h
    obtain ⟨datasets, hins, rfl⟩ := Option.map_eq_some_iff.mp h
    refine ⟨rfl, fun d hd => ?_, rfl, rfl⟩
    rcases (Table.mem_insert hins).mp hd with hd | rfl
    · exact Or.inl hd
    · exact Or.inr rfl

theorem stageAsset_stages (args : StageDataset) (db : Database) :
    Stages db (stageAsset args db) := by
  unfold stageAsset
  split
  · exact .refl db
  · exact ⟨rfl, fun _ h => Or.inl h, rfl, rfl⟩

theorem stageEdge_stages {args : StageDataset} (h : stageEdge host args db = some db') :
    Stages db db' := by
  unfold stageEdge at h
  split at h
  · obtain ⟨edges, -, rfl⟩ := Option.map_eq_some_iff.mp h
    exact ⟨rfl, fun _ h => Or.inl h, rfl, rfl⟩
  · split_ifs at h
    obtain rfl := Option.some.inj h
    exact .refl db

theorem stageDataset_stages (args : StageDataset) (db : Database) :
    Stages db (stageDataset host args db).2 := by
  unfold stageDataset
  split
  · exact .refl db
  · split
    · exact .refl db
    · split
      · exact .refl db
      · split
        · exact .refl db
        · next db' hstaged =>
          obtain ⟨db₁, hrow, hedge⟩ := Option.bind_eq_some_iff.mp hstaged
          exact ((stageRow_stages hrow).trans (stageAsset_stages args db₁)).trans
            (stageEdge_stages hedge)

/-! ## Bindings -/

theorem binding_bind (t : GenerationTask) {field : BindingField}
    (h : field ∈ datasetBindingFields) (datasetId : String) (field' : BindingField) :
    (t.bind field datasetId).binding field' =
      if field' = field then some datasetId else t.binding field' := by
  simp only [datasetBindingFields, List.mem_cons, List.not_mem_nil, or_false] at h
  rcases h with rfl | rfl | rfl | rfl <;> cases field' <;> rfl

theorem binding_foldl {bindings : List (BindingField × String)}
    (hfields : ∀ b ∈ bindings, b.1 ∈ datasetBindingFields)
    (hnodup : (bindings.map Prod.fst).Nodup) (t : GenerationTask) (field : BindingField) :
    (bindings.foldl (fun t (field, datasetId) => t.bind field datasetId) t).binding field =
      (((bindings.find? fun b => b.1 = field).map Prod.snd).or (t.binding field)) := by
  induction bindings generalizing t with
  | nil => rfl
  | cons b bindings ih =>
    obtain ⟨field₀, datasetId⟩ := b
    rw [List.map_cons, List.nodup_cons] at hnodup
    obtain ⟨hnew, hnodup⟩ := hnodup
    have hfield₀ : field₀ ∈ datasetBindingFields := hfields _ (List.mem_cons_self ..)
    rw [List.foldl_cons, ih (fun b hb => hfields b (List.mem_cons_of_mem _ hb)) hnodup,
      binding_bind t hfield₀]
    by_cases hsame : field = field₀
    · subst hsame
      have hnone : bindings.find? (fun b => b.1 = field) = none := by
        rw [List.find?_eq_none]
        intro b hb heq
        exact hnew (List.mem_map.mpr ⟨b, hb, by simpa using heq⟩)
      simp [hnone]
    · have hne : field₀ ≠ field := fun h => hsame h.symm
      simp [hsame, hne]

theorem writeArtifact_binding (t : GenerationTask) (update : ArtifactUpdate)
    (field : BindingField) : (t.writeArtifact update).binding field = t.binding field := by
  cases update <;> cases field <;> rfl

theorem foldl_writeArtifact {α : Type} {f : GenerationTask → α}
    (hf : ∀ t update, f (t.writeArtifact update) = f t) (updates : List ArtifactUpdate)
    (t : GenerationTask) : f (updates.foldl GenerationTask.writeArtifact t) = f t := by
  induction updates generalizing t with
  | nil => rfl
  | cons update updates ih => rw [List.foldl_cons, ih, hf]

theorem foldl_bind {α : Type} {f : GenerationTask → α}
    (hf : ∀ t field datasetId, f (GenerationTask.bind t field datasetId) = f t)
    (bindings : List (BindingField × String)) (t : GenerationTask) :
    f (bindings.foldl (fun t (field, datasetId) => t.bind field datasetId) t) = f t := by
  induction bindings generalizing t with
  | nil => rfl
  | cons b bindings ih => rw [List.foldl_cons, ih, hf]

namespace CompletePublication

variable (args : CompletePublication)

theorem bindings_fields_nodup : (args.bindings.map Prod.fst).Nodup := by
  have hsub : (args.bindings.map Prod.fst).Sublist (args.datasetBindings.map Prod.fst) := by
    unfold bindings
    induction args.datasetBindings with
    | nil => exact .slnil
    | cons b bs ih =>
      obtain ⟨field, datasetId⟩ := b
      cases datasetId with
      | none => simpa [truthy] using ih.trans (List.sublist_cons_self ..)
      | some id =>
        by_cases hid : id = ""
        · simpa [truthy, hid] using ih.trans (List.sublist_cons_self ..)
        · simpa [truthy, hid] using ih
  exact hsub.nodup args.distinctFields

theorem status_values (t : GenerationTask) : (args.values t).status = .completed := by
  unfold values
  rw [foldl_writeArtifact (f := GenerationTask.status) (by intro t u; cases u <;> rfl),
    foldl_bind (f := GenerationTask.status) (by intro t field _; cases field <;> rfl)]

theorem runToken_values (t : GenerationTask) : (args.values t).runToken = t.runToken := by
  unfold values
  rw [foldl_writeArtifact (f := GenerationTask.runToken) (by intro t u; cases u <;> rfl),
    foldl_bind (f := GenerationTask.runToken) (by intro t field _; cases field <;> rfl)]

end CompletePublication

/-! ## Completion -/

def BindsStaged (args : CompletePublication) (db : Database) : Prop :=
  ∀ id, id ∈ args.bindings.map Prod.snd ↔
    ∃ d ∈ db.datasets, d.datasetId = id ∧ isStaged args.taskId (some args.expectedRunToken) d = true

/-- What a publication does: it completes a task that is publishing with the token, with the
bindings given, and makes ready exactly what the attempt has staged. -/
structure Publishes (args : CompletePublication) (db db' : Database) : Prop where
  task : ∃ t t', db.tasks.lookup args.taskId = some t ∧ db'.tasks.lookup args.taskId = some t' ∧
    t.status = .publishing ∧ t.runToken = some args.expectedRunToken ∧
    t'.status = .completed ∧ t'.runToken = t.runToken ∧
    ∀ field, t'.binding field =
      ((args.bindings.find? fun b => b.1 = field).map Prod.snd).or (t.binding field)
  others : ∀ id, id ≠ args.taskId → db'.tasks.lookup id = db.tasks.lookup id
  bound : BindsStaged args db
  datasets : db'.datasets = db.datasets.updateWhere
    (isStaged args.taskId (some args.expectedRunToken)) published key_published
  assets : db'.assets = db.assets
  edges : db'.edges = db.edges

theorem register_ok {args : CompletePublication} {task : GenerationTask}
    (h : args.register task db = some db') : db'.tasks = db.tasks ∧ db'.datasets = db.datasets ∧
      db'.assets = db.assets ∧ db'.edges = db.edges := by
  unfold CompletePublication.register at h
  split at h
  · obtain rfl := Option.some.inj h
    exact ⟨rfl, rfl, rfl, rfl⟩
  · unfold prepareCollectionRegistration at h
    split at h
    · split_ifs at h
      split at h
      · obtain rfl := Option.some.inj h
        exact ⟨rfl, rfl, rfl, rfl⟩
      · exact absurd h (by simp)
    · exact absurd h (by simp)

theorem mem_datasetBindingFields {args : CompletePublication}
    (h : (args.datasetBindings.all fun (field, _) => datasetBindingFields.contains field) = true) :
    ∀ b ∈ args.bindings, b.1 ∈ datasetBindingFields := by
  intro b hb
  obtain ⟨⟨field, datasetId⟩, hmem, hsome⟩ := List.mem_filterMap.mp hb
  have hfield := List.all_eq_true.mp h _ hmem
  dsimp only at hsome hfield
  split_ifs at hsome
  obtain ⟨id, -, rfl⟩ := Option.map_eq_some_iff.mp hsome
  simpa using hfield

theorem bindsStaged_of {args : CompletePublication}
    (h : ¬ ¬ (((db.datasets.select (isStaged args.taskId (some args.expectedRunToken))).map
        DatasetRow.datasetId).all (· ∈ args.bindings.map Prod.snd) &&
      (args.bindings.map Prod.snd).all
        (· ∈ (db.datasets.select (isStaged args.taskId (some args.expectedRunToken))).map
          DatasetRow.datasetId)) = true) : BindsStaged args db := by
  rw [not_not, Bool.and_eq_true, List.all_eq_true, List.all_eq_true] at h
  obtain ⟨hstaged, hexpected⟩ := h
  intro id
  constructor
  · intro hid
    have hmem := of_decide_eq_true (hexpected id hid)
    obtain ⟨d, hd, rfl⟩ := List.mem_map.mp hmem
    obtain ⟨hd, hs⟩ := Table.mem_select.mp hd
    exact ⟨d, hd, rfl, hs⟩
  · rintro ⟨d, hd, rfl, hs⟩
    exact of_decide_eq_true
      (hstaged _ (List.mem_map.mpr ⟨d, Table.mem_select.mpr ⟨hd, hs⟩, rfl⟩))

theorem binding_values {args : CompletePublication}
    (hfields : ∀ b ∈ args.bindings, b.1 ∈ datasetBindingFields) (t : GenerationTask)
    (field : BindingField) : (args.values t).binding field =
      ((args.bindings.find? fun b => b.1 = field).map Prod.snd).or (t.binding field) := by
  unfold CompletePublication.values
  rw [foldl_writeArtifact (f := (GenerationTask.binding · field))
      (fun t update => writeArtifact_binding t update field),
    binding_foldl hfields args.bindings_fields_nodup]
  cases field <;> rfl

theorem publishes_of {args : CompletePublication} {task : GenerationTask} {db₁ : Database}
    (htask : taskWhere db args.taskId (isPublishing args.expectedRunToken) = some task)
    (hregister : args.register task db = some db₁)
    (hfields : ∀ b ∈ args.bindings, b.1 ∈ datasetBindingFields) (hbound : BindsStaged args db) :
    ∃ db', updateIf (publishDatasets args.taskId args.expectedRunToken db₁) args.taskId
      (isPublishing args.expectedRunToken) args.values = (true, db') ∧ Publishes args db db' := by
  obtain ⟨htasks, hdatasets, hassets, hedges⟩ := register_ok hregister
  obtain ⟨hlookup, hpublishing⟩ := taskWhere_eq_some.mp htask
  have hlookup₁ : db₁.tasks.lookup args.taskId = some task := by rw [htasks, hlookup]
  have hsome : (taskWhere (publishDatasets args.taskId args.expectedRunToken db₁) args.taskId
      (isPublishing args.expectedRunToken)).isSome = true :=
    Option.isSome_iff_exists.mpr ⟨task, taskWhere_eq_some.mpr ⟨hlookup₁, hpublishing⟩⟩
  refine ⟨_, by rw [updateIf, if_pos hsome], ?_⟩
  simp only [isPublishing, Bool.and_eq_true, decide_eq_true_eq] at hpublishing
  obtain ⟨hstatus, htoken⟩ := hpublishing
  refine ⟨⟨task, keepId args.values task, hlookup, ?_, hstatus, htoken, args.status_values task,
    args.runToken_values task, binding_values hfields task⟩, fun id hid => ?_, hbound, ?_, hassets,
    hedges⟩
  · show (db₁.tasks.update _ _ (key_keepId args.values)).lookup args.taskId = _
    rw [Table.lookup_update, if_pos rfl, hlookup₁]
    rfl
  · show (db₁.tasks.update _ _ (key_keepId args.values)).lookup id = _
    rw [Table.lookup_update, if_neg hid, htasks]
  · show db₁.datasets.updateWhere _ _ key_published = _
    rw [hdatasets]

/-- A completion that is refused changes nothing; any other one publishes the attempt. -/
theorem completePublication_cases (args : CompletePublication) (db : Database) :
    ((completePublication args db).commit db = db ∧
      ∀ db', completePublication args db ≠ .ok (true, db')) ∨
    ∃ db', completePublication args db = .ok (true, db') ∧ Publishes args db db' := by
  unfold completePublication
  split
  · exact Or.inl ⟨rfl, by simp⟩
  split
  · exact Or.inl ⟨rfl, by simp⟩
  next hfields =>
  split
  · exact Or.inl ⟨rfl, by simp⟩
  split
  · exact Or.inl ⟨rfl, by simp⟩
  next task htask =>
  dsimp only
  split
  · exact Or.inl ⟨rfl, by simp⟩
  next hbound =>
  split
  · exact Or.inl ⟨rfl, by simp⟩
  split
  · exact Or.inl ⟨rfl, by simp⟩
  split
  · exact Or.inl ⟨rfl, by simp⟩
  next db₁ hregister =>
  split
  · exact Or.inl ⟨rfl, by simp⟩
  obtain ⟨db', hupdate, hpublishes⟩ := publishes_of htask hregister
    (mem_datasetBindingFields (not_not.mp hfields)) (bindsStaged_of hbound)
  rw [hupdate]
  exact Or.inr ⟨db', rfl, hpublishes⟩

/-! ## Compensation -/

/-- What a compensation removes: the datasets that the attempt has staged, with their assets and the
lineage into them, and the collections that the attempt was creating. -/
structure Compensates (args : CompensateAttempt) (db db' : Database) : Prop where
  tasks : db'.tasks = db.tasks
  links : db'.links = db.links
  datasets : ∀ d ∈ db.datasets, d ∉ db'.datasets → isStaged args.taskId args.expectedRunToken d
  assets : ∀ a ∈ db.assets, a ∉ db'.assets →
    ∃ d ∈ db.datasets, d ∉ db'.datasets ∧ a.datasetId = d.datasetId
  edges : ∀ e ∈ db.edges, e ∉ db'.edges →
    ∃ d ∈ db.datasets, d ∉ db'.datasets ∧ e.toDatasetId = d.datasetId
  collections : ∀ c ∈ db.collections, c ∉ db'.collections → args.creates c
  adds : (∀ d ∈ db'.datasets, d ∈ db.datasets) ∧ (∀ a ∈ db'.assets, a ∈ db.assets) ∧
    (∀ e ∈ db'.edges, e ∈ db.edges) ∧ ∀ c ∈ db'.collections, c ∈ db.collections

theorem Compensates.refl (args : CompensateAttempt) (db : Database) : Compensates args db db :=
  ⟨rfl, rfl, fun _ h hn => absurd h hn, fun _ h hn => absurd h hn, fun _ h hn => absurd h hn,
    fun _ h hn => absurd h hn, fun _ h => h, fun _ h => h, fun _ h => h, fun _ h => h⟩

theorem isStaged_iff {taskId : String} {runToken : Option String} {d : DatasetRow} :
    isStaged taskId runToken d = true ↔ d.sourceTaskType = some "generation" ∧
      d.sourceTaskId = some taskId ∧ d.generationRunToken = runToken ∧ d.status = .staging := by
  simp [isStaged, isProductOf, and_assoc]

theorem compensateAttempt_compensates (args : CompensateAttempt) (db : Database) :
    Compensates args db (compensateAttempt args db).2 := by
  unfold compensateAttempt
  split
  · exact .refl args db
  dsimp only
  split
  · exact .refl args db
  split
  · exact .refl args db
  have hstaged : ∀ id, id ∈ (args.staged db).map DatasetRow.datasetId ↔ ∃ d ∈ db.datasets,
      d.datasetId = id ∧ isStaged args.taskId args.expectedRunToken d = true ∧
        d.userId = args.userId := by
    intro id
    simp only [CompensateAttempt.staged, List.mem_map, Table.mem_select, Bool.and_eq_true,
      decide_eq_true_eq]
    grind
  -- a staged dataset is removed with everything that names it
  have hremoved : ∀ id ∈ (args.staged db).map DatasetRow.datasetId, ∃ d ∈ db.datasets,
      d ∉ db.datasets.deleteWhere (fun d => decide (d.datasetId ∈
        (args.staged db).map DatasetRow.datasetId) && decide (d.status = .staging) &&
          decide (d.generationRunToken = args.expectedRunToken)) ∧ id = d.datasetId := by
    intro id hid
    obtain ⟨d, hd, rfl, hs, -⟩ := (hstaged id).mp hid
    obtain ⟨-, -, htoken, hstatus⟩ := isStaged_iff.mp hs
    refine ⟨d, hd, fun hkept => ?_, rfl⟩
    have hkept := (Table.mem_deleteWhere.mp hkept).2
    rw [decide_eq_true hid, decide_eq_true hstatus, decide_eq_true htoken] at hkept
    exact absurd hkept (by simp)
  refine ⟨rfl, rfl, fun d hd hgone => ?_, fun a ha hgone => ?_, fun e he hgone => ?_,
    fun c hc hgone => ?_, fun d hd => (Table.mem_deleteWhere.mp hd).1,
    fun a ha => (List.mem_filter.mp ha).1, fun e he => (Table.mem_deleteWhere.mp he).1,
    fun c hc => (Table.mem_deleteWhere.mp hc).1⟩
  · rw [Table.mem_deleteWhere, not_and, Bool.not_eq_false] at hgone
    have hdeleted := hgone hd
    simp only [Bool.and_eq_true, decide_eq_true_eq] at hdeleted
    obtain ⟨d', hd', hid, hs, -⟩ := (hstaged _).mp hdeleted.1.1
    obtain rfl : d' = d := Table.eq_of_key hd' hd hid
    exact hs
  · have hid : a.datasetId ∈ (args.staged db).map DatasetRow.datasetId := by
      by_contra hn
      exact hgone (List.mem_filter.mpr ⟨ha, by simpa using hn⟩)
    exact hremoved _ hid
  · rw [Table.mem_deleteWhere, not_and, Bool.not_eq_false] at hgone
    exact hremoved _ (of_decide_eq_true (hgone he))
  · rw [Table.mem_deleteWhere, not_and, Bool.not_eq_false] at hgone
    exact hgone hc

/-! ## What becomes visible -/

/-- No product becomes visible: no dataset is made ready, no collection active, no link added. -/
structure ShowsNothing (db db' : Database) : Prop where
  datasets : ∀ d ∈ db'.datasets, d.status = .ready → d ∈ db.datasets
  collections : ∀ c ∈ db'.collections, c.status = .active → c ∈ db.collections
  links : ∀ l ∈ db'.links, l ∈ db.links

theorem showsNothing_apply {op : Op} (hop : ∀ args, op ≠ .completePublication args) :
    ShowsNothing db (op.apply host db) := by
  by_cases hlifecycle : op.isLifecycle = true
  · have hmove : TaskMove _ db (op.apply host db) := lifecycle_move hlifecycle
    exact ⟨fun d hd _ => hmove.datasets ▸ hd, fun c hc _ => hmove.collections ▸ hc,
      fun l hl => hmove.links ▸ hl⟩
  · cases op with
    | stageDataset args =>
      have hstages : Stages db (stageDataset host args db).2 := stageDataset_stages args db
      refine ⟨fun d hd hready => ?_, fun c hc _ => hstages.collections ▸ hc,
        fun l hl => hstages.links ▸ hl⟩
      rcases hstages.datasets d hd with hd | hs
      · exact hd
      · rw [hready] at hs
        exact absurd hs (by simp)
    | compensateAttempt args =>
      have hcompensates := compensateAttempt_compensates args db
      obtain ⟨hdatasets, -, -, hcollections⟩ := hcompensates.adds
      exact ⟨fun d hd _ => hdatasets d hd, fun c hc _ => hcollections c hc,
        fun l hl => hcompensates.links ▸ hl⟩
    | completePublication args => exact absurd rfl (hop args)
    | _ => exact absurd rfl hlifecycle

/-- A dataset becomes ready only by the completion of its own attempt, whose task is publishing with
the token of the attempt. -/
theorem ready_of_publishing {op : Op} {d : DatasetRow} (hd : d ∈ (op.apply host db).datasets)
    (hready : d.status = .ready) (hnew : d ∉ db.datasets) :
    ∃ taskId t, d.sourceTaskType = some "generation" ∧ d.sourceTaskId = some taskId ∧
      db.tasks.lookup taskId = some t ∧ t.status = .publishing ∧
      t.runToken = d.generationRunToken := by
  by_cases hop : ∃ args, op = .completePublication args
  · obtain ⟨args, rfl⟩ := hop
    rcases completePublication_cases args db with ⟨hsame, -⟩ | ⟨db', hok, hpublishes⟩
    · rw [Op.apply, hsame] at hd
      exact absurd hd hnew
    · rw [Op.apply, hok, Outcome.commit_ok, hpublishes.datasets] at hd
      obtain ⟨d₀, hd₀, rfl⟩ := Table.mem_updateWhere.mp hd
      by_cases hs : isStaged args.taskId (some args.expectedRunToken) d₀ = true
      · rw [if_pos hs]
        obtain ⟨htype, hsource, htoken, -⟩ := isStaged_iff.mp hs
        obtain ⟨t, t', hl, -, hstatus, hrun, -⟩ := hpublishes.task
        exact ⟨args.taskId, t, htype, hsource, hl, hstatus, hrun.trans htoken.symm⟩
      · rw [if_neg hs] at hnew
        exact absurd hd₀ hnew
  · have hnothing : ShowsNothing db (op.apply host db) :=
      showsNothing_apply fun args h => hop ⟨args, h⟩
    exact absurd (hnothing.datasets d hd hready) hnew

/-! ## Runs -/

theorem lookup_apply {op : Op} {id : String} {t' : GenerationTask}
    (h : (op.apply host db).tasks.lookup id = some t') : ∃ t, db.tasks.lookup id = some t ∧
      (t'.runToken = t.runToken ∨ op.newToken ≠ none ∧ t'.runToken = op.newToken) := by
  by_cases hlifecycle : op.isLifecycle = true
  · exact (lifecycle_move hlifecycle).tasks id t' h
  · cases op with
    | stageDataset args =>
      have hstages : Stages db (stageDataset host args db).2 := stageDataset_stages args db
      rw [Op.apply, hstages.tasks] at h
      exact ⟨t', h, Or.inl rfl⟩
    | compensateAttempt args =>
      rw [Op.apply, (compensateAttempt_compensates args db).tasks] at h
      exact ⟨t', h, Or.inl rfl⟩
    | completePublication args =>
      rcases completePublication_cases args db with ⟨hsame, -⟩ | ⟨db', hok, hpublishes⟩
      · rw [Op.apply, hsame] at h
        exact ⟨t', h, Or.inl rfl⟩
      · rw [Op.apply, hok, Outcome.commit_ok] at h
        by_cases hid : id = args.taskId
        · obtain ⟨t, t'', hl, hl', -, -, -, htoken, -⟩ := hpublishes.task
          rw [hid, hl'] at h
          obtain rfl := Option.some.inj h
          exact ⟨t, hid ▸ hl, Or.inl htoken⟩
        · rw [hpublishes.others id hid] at h
          exact ⟨t', h, Or.inl rfl⟩
    | _ => exact absurd rfl hlifecycle

def Database.tokens (db : Database) : List String :=
  db.tasks.rows.filterMap GenerationTask.runToken

/-- The tokens that a run has used: those it starts with, and those its transactions hand out. -/
def usedTokens (initial : List String) (ops : List Op) : List String :=
  ops.foldl (fun used op => op.newToken.toList ++ used) initial

def FreshTokens : List String → List Op → Prop
  | _, [] => True
  | used, op :: ops =>
    (∀ token, op.newToken = some token → token ∉ used) ∧
      FreshTokens (op.newToken.toList ++ used) ops

theorem FreshTokens.append {used : List String} {ops ops' : List Op}
    (h : FreshTokens used (ops ++ ops')) : FreshTokens (usedTokens used ops) ops' := by
  induction ops generalizing used with
  | nil => exact h
  | cons op ops ih => exact ih h.2

theorem usedTokens_append (used : List String) (ops ops' : List Op) :
    usedTokens used (ops ++ ops') = usedTokens (usedTokens used ops) ops' := by
  simp [usedTokens]

theorem mem_usedTokens {used : List String} {token : String} (h : token ∈ used) (ops : List Op) :
    token ∈ usedTokens used ops := by
  induction ops generalizing used with
  | nil => exact h
  | cons op ops ih => exact ih (List.mem_append_right _ h)

theorem token_mem_usedTokens {used : List String}
    (hused : ∀ id t token, db.tasks.lookup id = some t → t.runToken = some token → token ∈ used)
    (ops : List Op) {id : String} {t : GenerationTask} {token : String}
    (hl : (exec (Op.apply host) db ops).tasks.lookup id = some t)
    (htoken : t.runToken = some token) : token ∈ usedTokens used ops := by
  induction ops generalizing db used with
  | nil => exact hused id t token hl htoken
  | cons op ops ih =>
    refine ih (fun id t' token hl' htoken' => ?_) hl
    obtain ⟨t₀, hl₀, hkept | ⟨-, hnew⟩⟩ := lookup_apply hl'
    · exact List.mem_append_right _ (hused id t₀ token hl₀ (hkept ▸ htoken'))
    · rw [htoken'] at hnew
      exact List.mem_append_left _ (by simp [← hnew])

theorem token_not_returned {used : List String} {token id : String} (hused : token ∈ used)
    (hother : ∀ t, db.tasks.lookup id = some t → t.runToken ≠ some token) {ops : List Op}
    (hfresh : FreshTokens used ops) {t : GenerationTask}
    (hl : (exec (Op.apply host) db ops).tasks.lookup id = some t) : t.runToken ≠ some token := by
  induction ops generalizing db used with
  | nil => exact hother t hl
  | cons op ops ih =>
    obtain ⟨hnew, hrest⟩ := hfresh
    refine ih (List.mem_append_right _ hused) (fun t' hl' htoken => ?_) hrest hl
    obtain ⟨t₀, hl₀, hkept | ⟨-, hdrawn⟩⟩ := lookup_apply hl'
    · exact hother t₀ hl₀ (hkept ▸ htoken)
    · exact hnew token (hdrawn ▸ htoken) hused

def Op.taskId : Op → String
  | .claimRunning _ taskId _ _ _ | .claimOrphanRecovery taskId _ _ _
  | .finishOrphanRecovery taskId _ _ _ _ | .beginRestart _ taskId _ _ _
  | .finishRestart taskId _ _ | .failRestart taskId _ _ _ => taskId
  | .updateStatus args => args.taskId
  | .stageDataset args => args.taskId
  | .completePublication args => args.taskId
  | .compensateAttempt args => args.taskId

def Op.expectedRunToken : Op → Option String
  | .claimRunning _ _ expectedRunToken _ _ | .claimOrphanRecovery _ _ expectedRunToken _
  | .beginRestart _ _ expectedRunToken _ _ => expectedRunToken.join
  | .finishOrphanRecovery _ expectedRunToken _ _ _ | .finishRestart _ expectedRunToken _
  | .failRestart _ expectedRunToken _ _ => some expectedRunToken
  | .updateStatus args => args.expectedRunToken.join
  | .stageDataset args => some args.expectedRunToken
  | .completePublication args => some args.expectedRunToken
  | .compensateAttempt args => args.expectedRunToken

theorem showsNothing_of_otherToken {op : Op} {token : String}
    (hother : ∀ t, db.tasks.lookup op.taskId = some t → t.runToken ≠ some token)
    (hcarries : op.expectedRunToken = some token) : ShowsNothing db (op.apply host db) := by
  by_cases hop : ∃ args, op = .completePublication args
  · obtain ⟨args, rfl⟩ := hop
    obtain rfl : args.expectedRunToken = token := Option.some.inj hcarries
    rcases completePublication_cases args db with ⟨hsame, -⟩ | ⟨db', -, hpublishes⟩
    · rw [Op.apply, hsame]
      exact ⟨fun _ h _ => h, fun _ h _ => h, fun _ h => h⟩
    · obtain ⟨t, -, hl, -, -, htoken, -⟩ := hpublishes.task
      exact absurd htoken (hother t hl)
  · exact showsNothing_apply fun args h => hop ⟨args, h⟩

/-- Publication is atomic and fenced by attempt. A completion leaves the database as it is, or in
one step completes its task with the bindings given and makes ready exactly what the attempt has
staged. A dataset becomes ready only while its task is publishing with the token of the attempt
that made it. With fresh tokens, once the token of a task has changed, no transaction with the old
one shows anything, and no transaction makes a dataset of the old attempt ready. A compensation
removes what its attempt has staged, with the assets and the lineage of the datasets removed. -/
theorem publication_fenced (host : Host) (db : Database) :
    (∀ args, ((completePublication args db).commit db = db ∧
        ∀ db', completePublication args db ≠ .ok (true, db')) ∨
      ∃ db', completePublication args db = .ok (true, db') ∧ Publishes args db db') ∧
    (∀ op : Op, ∀ d ∈ (op.apply host db).datasets, d.status = .ready → d ∉ db.datasets →
      ∃ taskId t, d.sourceTaskType = some "generation" ∧ d.sourceTaskId = some taskId ∧
        db.tasks.lookup taskId = some t ∧ t.status = .publishing ∧
        t.runToken = d.generationRunToken) ∧
    (∀ before between after taskId t token,
      FreshTokens db.tokens (before ++ between ++ after) →
      (exec (Op.apply host) db before).tasks.lookup taskId = some t → t.runToken = some token →
      (∀ t', (exec (Op.apply host) db (before ++ between)).tasks.lookup taskId = some t' →
        t'.runToken ≠ some token) →
      let s := exec (Op.apply host) db (before ++ between ++ after)
      ∀ op : Op,
        (op.taskId = taskId → op.expectedRunToken = some token →
          ShowsNothing s (op.apply host s)) ∧
        ∀ d ∈ (op.apply host s).datasets, d.status = .ready → d ∉ s.datasets →
          d.sourceTaskId = some taskId → d.generationRunToken ≠ some token) ∧
    ∀ args, Compensates args db (compensateAttempt args db).2 := by
  refine ⟨fun args => completePublication_cases args db,
    fun op d hd hready hnew => ready_of_publishing hd hready hnew, ?_,
    fun args => compensateAttempt_compensates args db⟩
  intro before between after taskId t token hfresh hl htoken hchanged s op
  have hused : token ∈ usedTokens db.tokens (before ++ between) := by
    rw [usedTokens_append]
    refine mem_usedTokens (token_mem_usedTokens (fun id t₀ token₀ hl₀ ht₀ => ?_) before hl htoken) _
    exact List.mem_filterMap.mpr ⟨t₀, (Table.lookup_eq_some.mp hl₀).1, ht₀⟩
  have hother : ∀ t', s.tasks.lookup taskId = some t' → t'.runToken ≠ some token := by
    intro t' hl'
    have hs : s = exec (Op.apply host) (exec (Op.apply host) db (before ++ between)) after :=
      exec_append db (before ++ between) after
    rw [hs] at hl'
    exact token_not_returned hused hchanged hfresh.append hl'
  refine ⟨fun hid hcarries => showsNothing_of_otherToken (hid ▸ hother) hcarries,
    fun d hd hready hnew hsource hd' => ?_⟩
  obtain ⟨taskId', t', -, hsource', hl', -, htoken'⟩ := ready_of_publishing hd hready hnew
  obtain rfl : taskId = taskId' := Option.some.inj (hsource.symm.trans hsource')
  exact hother t' hl' (htoken'.trans hd')

/-- A failed task with a dataset that its attempt has staged, into which another task has recorded a
lineage edge. -/
def stagedDatabase : Database where
  tasks := ⟨[{ taskId := "a", status := .failed, runToken := some "t" }], List.nodup_singleton _⟩
  datasets := ⟨[⟨"d", "local", some "/d", none, none, .staging, none, none, none,
    some "generation", some "a", some "t"⟩], List.nodup_singleton _⟩
  assets := []
  edges := ⟨[⟨"key", none, "d", "merged", some "sync", some "b"⟩], List.nodup_singleton _⟩
  collections := Table.empty
  links := Table.empty

/-- The compensation of the attempt removes the edge of the other task. -/
theorem compensation_removes_edge_of_other_task :
    let args : CompensateAttempt := { taskId := "a", expectedRunToken := some "t", userId := none }
    let db' := (compensateAttempt args stagedDatabase).2
    stagedDatabase.edges.rows.map LineageEdge.opTaskId = [some "b"] ∧ db'.edges.rows = [] := by
  decide

end Generation
