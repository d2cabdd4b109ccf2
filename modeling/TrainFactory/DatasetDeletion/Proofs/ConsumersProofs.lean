import TrainFactory.DatasetDeletion.Proofs.ListingProofs

/-!
# How consumers come to be

A transaction adds a consumer only as the admission it is: a creation, a reset or a link, after the
lock on the datasets has answered.
-/

namespace DatasetDeletion

open Lib

variable {host : Dataset.Host} {t : Tables} {kind : Kind} {c : References}

/-- A consumer that a transaction is about to add, and the lock it takes before. -/
structure Admission where
  kind : Kind
  references : References
  request : Dataset.LockRequest

def Transaction.admission (t : Tables) : Transaction → Option Admission
  | .createGeneration task requireSourceDataset _ =>
    some ⟨.task .generation, task.created.references, generationRequest task requireSourceDataset⟩
  | .createTraining task requireManagedDatasets _ =>
    some ⟨.task .training, trainingReferences task, trainingRequest task requireManagedDatasets⟩
  | .resetTraining taskId _ requireManagedDatasets _ _ =>
    (t.training.lookup taskId).map fun task =>
      ⟨.task .training, trainingReferences task, trainingRequest task requireManagedDatasets⟩
  | .createEvaluation task requireManagedDatasets _ =>
    some ⟨.task .evaluation, task.references,
      evaluationRequest task.references requireManagedDatasets⟩
  | .resetEvaluation taskId requireManagedDatasets _ _ datasetConfigs _ _ _ _ =>
    (t.evaluation.lookup taskId).map fun e =>
      ⟨.task .evaluation, snapshotReferences e datasetConfigs,
        evaluationRequest (snapshotReferences e datasetConfigs) requireManagedDatasets⟩
  | .linkDataset _ datasetId _ _ _ => some ⟨.link, ⟨[datasetId], []⟩, linkRequest datasetId⟩
  | _ => none

def Accounted (host : Dataset.Host) (t : Tables) (a : Transaction) (kind : Kind) (c : References) :
    Prop :=
  c ∈ t.consumers kind ∨ ∃ admission ∈ a.admission t, admission.kind = kind ∧
    admission.references = c ∧ locks host t.datasets admission.request = true

/-! ## Rows -/

section Rows

variable {R : Type} [Keyed R String] {rows : Table R} {active : R → Bool} {references : R → References}

theorem mem_consumers_update {taskId : String} {f : R → R} (hf : ∀ r, Keyed.key (f r) = Keyed.key r)
    (h : ∀ r ∈ rows.lookup taskId, active (f r) = true →
      active r = true ∧ references (f r) = references r)
    (hc : c ∈ ((rows.update taskId f hf).select active).map references) :
    c ∈ (rows.select active).map references := by
  obtain ⟨r, hr, rfl⟩ := List.mem_map.mp hc
  obtain ⟨hmem, hactive⟩ := Table.mem_select.mp hr
  obtain ⟨r₀, hr₀, rfl⟩ := Table.mem_update.mp hmem
  by_cases hkey : Keyed.key r₀ = taskId
  · rw [if_pos hkey] at hactive ⊢
    obtain ⟨hactive₀, hsame⟩ := h r₀ (hkey ▸ Table.lookup_of_mem hr₀) hactive
    rw [hsame]
    exact List.mem_map_of_mem (Table.mem_select.mpr ⟨hr₀, hactive₀⟩)
  · rw [if_neg hkey] at hactive ⊢
    exact List.mem_map_of_mem (Table.mem_select.mpr ⟨hr₀, hactive⟩)

theorem mem_consumers_update_new {taskId : String} {f : R → R}
    (hf : ∀ r, Keyed.key (f r) = Keyed.key r)
    (hc : c ∈ ((rows.update taskId f hf).select active).map references) :
    c ∈ (rows.select active).map references ∨
      ∃ r ∈ rows.lookup taskId, active (f r) = true ∧ references (f r) = c := by
  obtain ⟨r, hr, rfl⟩ := List.mem_map.mp hc
  obtain ⟨hmem, hactive⟩ := Table.mem_select.mp hr
  obtain ⟨r₀, hr₀, rfl⟩ := Table.mem_update.mp hmem
  by_cases hkey : Keyed.key r₀ = taskId
  · rw [if_pos hkey] at hactive ⊢
    exact Or.inr ⟨r₀, hkey ▸ Table.lookup_of_mem hr₀, hactive, rfl⟩
  · rw [if_neg hkey] at hactive ⊢
    exact Or.inl (List.mem_map_of_mem (Table.mem_select.mpr ⟨hr₀, hactive⟩))

theorem mem_consumers_insert {r : R}
    (hc : c ∈ (((rows.insert r).getD rows).select active).map references) :
    c ∈ (rows.select active).map references ∨ references r = c := by
  cases hinsert : rows.insert r with
  | none => exact Or.inl (by simpa [hinsert] using hc)
  | some rows' =>
    rw [hinsert, Option.getD_some] at hc
    obtain ⟨r', hr', rfl⟩ := List.mem_map.mp hc
    obtain ⟨hmem, hactive⟩ := Table.mem_select.mp hr'
    rcases (Table.mem_insert hinsert).mp hmem with hmem | rfl
    · exact Or.inl (List.mem_map_of_mem (Table.mem_select.mpr ⟨hmem, hactive⟩))
    · exact Or.inr rfl

theorem mem_consumers_of_active {active' : R → Bool} (h : ∀ r ∈ rows, active' r = true → active r = true)
    (hc : c ∈ (rows.select active').map references) : c ∈ (rows.select active).map references := by
  obtain ⟨r, hr, rfl⟩ := List.mem_map.mp hc
  obtain ⟨hmem, hactive⟩ := Table.mem_select.mp hr
  exact List.mem_map_of_mem (Table.mem_select.mpr ⟨hmem, h r hmem hactive⟩)

end Rows

attribute [local simp] Tables.apply

/-! ## Training tasks -/

theorem updateIf_cases (tasks : Training.Tasks) (taskId : String)
    (conditions : Training.TrainingTask → Bool)
    (values : Training.TrainingTask → Training.TrainingTask) :
    (Training.updateIf tasks taskId conditions values).2 = tasks ∨
      ∃ task ∈ tasks.lookup taskId, conditions task = true ∧
        (Training.updateIf tasks taskId conditions values).2 =
          tasks.update taskId (Training.keepId values) (Training.key_keepId values) := by
  unfold Training.updateIf
  cases hlookup : tasks.lookup taskId with
  | none => exact Or.inl rfl
  | some task =>
    by_cases hcond : conditions task = true
    · exact Or.inr ⟨task, rfl, hcond, by simp only [if_pos hcond]⟩
    · exact Or.inl (by simp only [if_neg hcond])

theorem claimPreparing_cases (tasks : Training.Tasks) (taskId runToken : String)
    (references : Training.References) (now : Nat) :
    committedTraining tasks (Training.claimPreparing tasks taskId runToken references now) = tasks ∨
      committedTraining tasks (Training.claimPreparing tasks taskId runToken references now) =
        (Training.updateIf tasks taskId
          (fun t => t.status = .pending && (t.runToken = some runToken || t.runToken = none))
          fun t => { t with
            status := .preparing
            runToken := some runToken
            updatedAt := now }).2 := by
  unfold Training.claimPreparing
  by_cases htoken : runToken = ""
  · rw [if_pos htoken]
    exact Or.inl rfl
  rw [if_neg htoken]
  cases tasks.lookup taskId with
  | none => exact Or.inl rfl
  | some task =>
    cases references with
    | available => exact Or.inr rfl
    | lockRaises message => exact Or.inl rfl
    | unavailable message => exact Or.inl rfl

theorem resetForResume_cases (tasks : Training.Tasks) (taskId runToken : String)
    (references : Training.References) (now : Nat) :
    committedTraining tasks (Training.resetForResume tasks taskId runToken references now) = tasks ∨
      references = .available ∧
      committedTraining tasks (Training.resetForResume tasks taskId runToken references now) =
        (Training.updateIf tasks taskId
          (fun t => t.status ∈ [.failed, .stopped] && Training.hasNoProcess t)
          fun t => { t with
            status := .pending
            errorMessage := none
            progress := 0
            processPid := none
            processStatus := none
            processCreateTime := none
            runToken := some runToken
            startedAt := none
            completedAt := none
            updatedAt := now }).2 := by
  unfold Training.resetForResume
  by_cases htoken : runToken = ""
  · rw [if_pos htoken]
    exact Or.inl rfl
  rw [if_neg htoken]
  cases tasks.lookup taskId with
  | none => exact Or.inl rfl
  | some task =>
    cases references with
    | available => exact Or.inr ⟨rfl, rfl⟩
    | lockRaises message => exact Or.inl rfl
    | unavailable message => exact Or.inl rfl

theorem locked_of_withDatasets {locked : Bool} {models : Training.References}
    (h : withDatasets locked models = .available) : locked = true := by
  cases models with
  | available =>
    cases locked with
    | true => rfl
    | false => exact absurd h (by simp [withDatasets])
  | lockRaises message => exact absurd h (by simp [withDatasets])
  | unavailable message => exact absurd h (by simp [withDatasets])

theorem accounted_claimTraining {taskId runToken : String} {models : Training.References} {now : Nat}
    (hc : c ∈ (t.apply host (.claimTraining taskId runToken models now)).consumers kind) :
    c ∈ t.consumers kind := by
  simp only [Tables.apply] at hc
  rcases claimPreparing_cases t.training taskId runToken (withDatasets
    ((t.training.lookup taskId).any fun task => locks host t.datasets (trainingRequest task false))
    models) now with hsame | hupdate
  · rwa [hsame] at hc
  rw [hupdate] at hc
  rcases updateIf_cases t.training taskId _ _ with hsame | ⟨task, htask, hcond, hrows⟩
  · rwa [hsame] at hc
  rw [hrows] at hc
  cases kind with
  | link => exact hc
  | task kind =>
    cases kind with
    | generation => exact hc
    | evaluation => exact hc
    | training =>
      refine mem_consumers_update (Training.key_keepId _) (fun r hr hactive => ?_) hc
      cases Option.some.inj (htask.symm.trans hr)
      have hpending : task.status = .pending := by
        simpa using (Bool.and_eq_true_iff.mp hcond).1
      exact ⟨by simp [hpending, Training.lockingStatuses], rfl⟩

theorem accounted_stopTraining {taskId : String} {now : Nat}
    (hc : c ∈ (t.apply host (.stopTraining taskId now)).consumers kind) : c ∈ t.consumers kind := by
  simp only [Tables.apply, Training.stopIfActive, committedTraining] at hc
  rcases updateIf_cases t.training taskId _ _ with hsame | ⟨task, htask, hcond, hrows⟩
  · rwa [hsame] at hc
  rw [hrows] at hc
  cases kind with
  | link => exact hc
  | task kind =>
    cases kind with
    | generation => exact hc
    | evaluation => exact hc
    | training =>
      refine mem_consumers_update (Training.key_keepId _) (fun r hr _ => ?_) hc
      cases Option.some.inj (htask.symm.trans hr)
      have hactive : task.status ∈ Training.lockingStatuses := of_decide_eq_true hcond
      exact ⟨by simp [hactive], rfl⟩

theorem accounted_resetTraining {taskId runToken : String} {requireManagedDatasets : Bool}
    {models : Training.References} {now : Nat}
    (hc : c ∈ (t.apply host (.resetTraining taskId runToken requireManagedDatasets models
      now)).consumers kind) :
    Accounted host t (.resetTraining taskId runToken requireManagedDatasets models now) kind c := by
  simp only [Tables.apply] at hc
  rcases resetForResume_cases t.training taskId runToken (withDatasets
    ((t.training.lookup taskId).any fun task =>
      locks host t.datasets (trainingRequest task requireManagedDatasets)) models) now with
    hsame | ⟨havailable, hupdate⟩
  · rw [hsame] at hc
    exact Or.inl hc
  have hlocked := locked_of_withDatasets havailable
  rw [hupdate] at hc
  rcases updateIf_cases t.training taskId _ _ with hsame | ⟨task, htask, -, hrows⟩
  · rw [hsame] at hc
    exact Or.inl hc
  rw [hrows] at hc
  cases kind with
  | link => exact Or.inl hc
  | task kind =>
    cases kind with
    | generation => exact Or.inl hc
    | evaluation => exact Or.inl hc
    | training =>
      rcases mem_consumers_update_new (Training.key_keepId _) hc with hold | ⟨r, hr, -, rfl⟩
      · exact Or.inl hold
      · refine Or.inr ⟨_, Option.mem_map.mpr ⟨r, hr, rfl⟩, rfl, rfl, ?_⟩
        rw [show t.training.lookup taskId = some r from hr, Option.any_some] at hlocked
        exact hlocked

theorem accounted_createTraining {task : Training.TrainingTask}
    {requireManagedDatasets available : Bool}
    (hc : c ∈ (t.apply host (.createTraining task requireManagedDatasets available)).consumers
      kind) :
    Accounted host t (.createTraining task requireManagedDatasets available) kind c := by
  simp only [Tables.apply] at hc
  by_cases hlock : (locks host t.datasets (trainingRequest task requireManagedDatasets) &&
      available) = true
  · rw [if_pos hlock] at hc
    cases kind with
    | link => exact Or.inl hc
    | task kind =>
      cases kind with
      | generation => exact Or.inl hc
      | evaluation => exact Or.inl hc
      | training =>
        rcases mem_consumers_insert hc with hold | hnew
        · exact Or.inl hold
        · exact Or.inr ⟨_, rfl, rfl, hnew, (Bool.and_eq_true_iff.mp hlock).1⟩
  · rw [if_neg hlock] at hc
    exact Or.inl hc

/-! ## Generation tasks -/

theorem accounted_createGeneration {task : GenerationRow} {requireSourceDataset available : Bool}
    (hc : c ∈ (t.apply host (.createGeneration task requireSourceDataset available)).consumers
      kind) :
    Accounted host t (.createGeneration task requireSourceDataset available) kind c := by
  simp only [Tables.apply] at hc
  by_cases hlock : (locks host t.datasets (generationRequest task requireSourceDataset) &&
      available) = true
  · rw [if_pos hlock] at hc
    cases kind with
    | link => exact Or.inl hc
    | task kind =>
      cases kind with
      | training => exact Or.inl hc
      | evaluation => exact Or.inl hc
      | generation =>
        rcases mem_consumers_insert hc with hold | hnew
        · exact Or.inl hold
        · exact Or.inr ⟨_, rfl, rfl, hnew, (Bool.and_eq_true_iff.mp hlock).1⟩
  · rw [if_neg hlock] at hc
    exact Or.inl hc

theorem accounted_updateGeneration {taskId : String} {f : GenerationRow → GenerationRow}
    (hf : ∀ g, Keyed.key (f g) = Keyed.key g)
    (hactive : ∀ g ∈ t.generation.lookup taskId, g.status ∈ activeGenerationStatuses)
    (hsame : ∀ g ∈ t.generation.lookup taskId, (f g).references = g.references)
    (hc : c ∈ { t with generation := t.generation.update taskId f hf }.consumers kind) :
    c ∈ t.consumers kind := by
  cases kind with
  | link => exact hc
  | task kind =>
    cases kind with
    | training => exact hc
    | evaluation => exact hc
    | generation =>
      exact mem_consumers_update hf (fun g hg _ => ⟨by simp [hactive g hg], hsame g hg⟩) hc

theorem references_eq {g g' : GenerationRow} (hsource : g'.sourceDatasetId = g.sourceDatasetId)
    (hpath : g'.inputPath = g.inputPath) (h : g.status ≠ .restarting) (h' : g'.status ≠ .restarting) :
    g'.references = g.references := by
  simp only [GenerationRow.references, GenerationRow.datasetIds, if_neg h, if_neg h', hsource, hpath]

theorem accounted_claimGeneration {taskId legacyRunToken : String}
    {expectedRunToken : Option (Option String)} {available : Bool} {now : Nat}
    (hc : c ∈ (t.apply host (.claimGeneration taskId expectedRunToken legacyRunToken available
      now)).consumers kind) : c ∈ t.consumers kind := by
  simp only [Tables.apply] at hc
  split_ifs at hc with hcond
  · obtain ⟨g, hg, hcond⟩ := (Option.any_eq_true ..).mp hcond
    have hpending : g.status = .pending := by
      simp only [Bool.and_eq_true, decide_eq_true_eq] at hcond
      exact hcond.1.1
    refine accounted_updateGeneration _ (fun g' hg' => ?_) (fun g' hg' => ?_) hc
    · cases Option.some.inj (hg.symm.trans hg')
      simp [hpending, activeGenerationStatuses]
    · cases Option.some.inj (hg.symm.trans hg')
      exact references_eq rfl rfl (by simp [hpending]) (by simp [GenerationRow.claimed])
  · exact hc

theorem accounted_failGeneration {taskId : String} {errorMessage : Option String} {now : Nat}
    (hc : c ∈ (t.apply host (.failGeneration taskId errorMessage now)).consumers kind) :
    c ∈ t.consumers kind := by
  simp only [Tables.apply] at hc
  split_ifs at hc with hcond
  · obtain ⟨g, hg, hcond⟩ := (Option.any_eq_true ..).mp hcond
    have hstatus : g.status ∈ [.pending, .running, .stopping, .publishing] :=
      of_decide_eq_true hcond
    refine accounted_updateGeneration _ (fun g' hg' => ?_) (fun g' hg' => ?_) hc
    · cases Option.some.inj (hg.symm.trans hg')
      simp only [List.mem_cons, List.not_mem_nil, or_false] at hstatus
      rcases hstatus with h | h | h | h <;> simp [h, activeGenerationStatuses]
    · cases Option.some.inj (hg.symm.trans hg')
      refine references_eq rfl rfl (fun h => ?_) (by simp [GenerationRow.failed])
      simp [h] at hstatus
  · exact hc

/-! ## Evaluation tasks -/

theorem mem_consumers_after {taskId : String}
    {transaction : Evaluation.EvaluationTask → Evaluation.Outcome}
    (hc : c ∈ { t with
      evaluation := t.evaluation.update taskId (EvaluationRow.after transaction)
        (EvaluationRow.key_after transaction) }.consumers kind) :
    c ∈ t.consumers kind ∨ kind = .task .evaluation ∧ ∃ e ∈ t.evaluation.lookup taskId,
      ∃ task, transaction e.task = .ok (some task) ∧
        evaluationDatasetReferences task.datasetConfigs = c := by
  cases kind with
  | link => exact Or.inl hc
  | task kind =>
    cases kind with
    | training => exact Or.inl hc
    | generation => exact Or.inl hc
    | evaluation =>
      rcases mem_consumers_update_new (EvaluationRow.key_after transaction) hc with
        hold | ⟨e, he, hactive, href⟩
      · exact Or.inl hold
      cases hrun : transaction e.task with
      | error err =>
        simp only [EvaluationRow.after, hrun] at hactive href
        exact Or.inl (href ▸ List.mem_map_of_mem (Table.mem_select.mpr
          ⟨(Table.lookup_eq_some.mp he).1, hactive⟩))
      | ok result =>
        cases result with
        | none =>
          simp only [EvaluationRow.after, hrun] at hactive href
          exact Or.inl (href ▸ List.mem_map_of_mem (Table.mem_select.mpr
            ⟨(Table.lookup_eq_some.mp he).1, hactive⟩))
        | some task =>
          simp only [EvaluationRow.after, hrun] at href
          exact Or.inr ⟨rfl, e, he, task, hrun, href⟩

theorem accounted_after {taskId : String}
    {transaction : Evaluation.EvaluationTask → Evaluation.Outcome}
    (h : ∀ task task', transaction task = .ok (some task') →
      (task.status = .pending ∨ task.status = .running) ∧
        task'.datasetConfigs = task.datasetConfigs)
    (hc : c ∈ { t with
      evaluation := t.evaluation.update taskId (EvaluationRow.after transaction)
        (EvaluationRow.key_after transaction) }.consumers kind) : c ∈ t.consumers kind := by
  rcases mem_consumers_after hc with hold | ⟨rfl, e, he, task, hrun, rfl⟩
  · exact hold
  obtain ⟨hstatus, hconfigs⟩ := h _ _ hrun
  rw [hconfigs]
  refine List.mem_map.mpr ⟨e, Table.mem_select.mpr ⟨(Table.lookup_eq_some.mp he).1, ?_⟩, rfl⟩
  rcases hstatus with h | h <;> simp [h]

theorem accounted_claimEvaluation {taskId : String} {runToken : Option String}
    {legacyRunToken : String} {available : Bool} {now : Nat}
    (hc : c ∈ (t.apply host (.claimEvaluation taskId runToken legacyRunToken available
      now)).consumers kind) : c ∈ t.consumers kind := by
  refine accounted_after (fun task task' hrun => ?_) hc
  unfold Evaluation.claimRunning at hrun
  split_ifs at hrun with hcond
  · cases hrun
    exact ⟨Or.inl hcond.1, rfl⟩
  · exact absurd hrun (by simp)

theorem accounted_cancelEvaluation {taskId : String} {now : Nat}
    (hc : c ∈ (t.apply host (.cancelEvaluation taskId now)).consumers kind) :
    c ∈ t.consumers kind := by
  refine accounted_after (fun task task' hrun => ?_) hc
  unfold Evaluation.cancelTask at hrun
  split_ifs at hrun with hcond
  · cases hrun
    exact ⟨hcond, rfl⟩
  · exact absurd hrun (by simp)

theorem resetForResume_some {now : Nat} {task task' : Evaluation.EvaluationTask} {available : Bool}
    {modelConfigs datasetConfigs results modelProgress : Option Json} {newRunToken : String}
    (h : Evaluation.resetForResume now task available modelConfigs datasetConfigs results
      modelProgress newRunToken = .ok (some task')) :
    available = true ∧
      task'.datasetConfigs = Evaluation.orStored datasetConfigs task.datasetConfigs := by
  unfold Evaluation.resetForResume at h
  split_ifs at h with hcond
  · dsimp only at h
    generalize Evaluation.resumeResults _ _ _ = resumed at h
    cases resumed with
    | error e => simp [bind, Except.bind] at h
    | ok results =>
      simp only [bind, Except.bind, pure, Except.pure, Except.ok.injEq, Option.some.injEq] at h
      subst h
      exact ⟨hcond.2, rfl⟩
  · exact absurd h (by simp)

theorem accounted_resetEvaluation {taskId : String} {requireManagedDatasets available : Bool}
    {modelConfigs datasetConfigs results modelProgress : Option Json} {newRunToken : String}
    {now : Nat}
    (hc : c ∈ (t.apply host (.resetEvaluation taskId requireManagedDatasets available modelConfigs
      datasetConfigs results modelProgress newRunToken now)).consumers kind) :
    Accounted host t (.resetEvaluation taskId requireManagedDatasets available modelConfigs
      datasetConfigs results modelProgress newRunToken now) kind c := by
  rcases mem_consumers_after hc with hold | ⟨rfl, e, he, task, hrun, rfl⟩
  · exact Or.inl hold
  obtain ⟨hlocked, hconfigs⟩ := resetForResume_some hrun
  rw [hconfigs]
  refine Or.inr ⟨_, Option.mem_map.mpr ⟨e, he, rfl⟩, rfl, rfl, ?_⟩
  have hlocked := (Bool.and_eq_true_iff.mp hlocked).1
  rw [show t.evaluation.lookup taskId = some e from he, Option.any_some] at hlocked
  exact hlocked

theorem accounted_createEvaluation {task : EvaluationRow} {requireManagedDatasets available : Bool}
    (hc : c ∈ (t.apply host (.createEvaluation task requireManagedDatasets available)).consumers
      kind) :
    Accounted host t (.createEvaluation task requireManagedDatasets available) kind c := by
  simp only [Tables.apply] at hc
  by_cases hlock : (locks host t.datasets (evaluationRequest task.references
      requireManagedDatasets) && available) = true
  · rw [if_pos hlock] at hc
    cases kind with
    | link => exact Or.inl hc
    | task kind =>
      cases kind with
      | training => exact Or.inl hc
      | generation => exact Or.inl hc
      | evaluation =>
        rcases mem_consumers_insert hc with hold | hnew
        · exact Or.inl hold
        · exact Or.inr ⟨_, rfl, rfl, hnew, (Bool.and_eq_true_iff.mp hlock).1⟩
  · rw [if_neg hlock] at hc
    exact Or.inl hc

/-! ## Links and workers -/

theorem mem_links_update {links : Table Milvus.LinkRow} {args : Milvus.LinkDataset}
    {k : String × String}
    (hc : c ∈ (links.update k (Milvus.relinked args) (Milvus.key_relinked args)).rows.map
      linkReferences) : c ∈ links.rows.map linkReferences := by
  obtain ⟨l, hl, rfl⟩ := List.mem_map.mp hc
  obtain ⟨l₀, hl₀, rfl⟩ := Table.mem_update.mp hl
  refine List.mem_map.mpr ⟨l₀, hl₀, ?_⟩
  split_ifs <;> rfl

theorem mem_links_insert {links links' : Table Milvus.LinkRow} (args : Milvus.LinkDataset)
    (hinsert : links.insert args.row = some links') (hc : c ∈ links'.rows.map linkReferences) :
    c ∈ links.rows.map linkReferences ∨ c = ⟨[args.datasetId], []⟩ := by
  obtain ⟨l, hl, rfl⟩ := List.mem_map.mp hc
  rcases (Table.mem_insert hinsert).mp hl with hl | rfl
  · exact Or.inl (List.mem_map_of_mem hl)
  · exact Or.inr rfl

theorem accounted_linkDataset {collectionName datasetId : String} {datasetName : Option String}
    {chunkCount : Int} {taskId : Option String}
    (hc : c ∈ (t.apply host (.linkDataset collectionName datasetId datasetName chunkCount
      taskId)).consumers kind) :
    Accounted host t (.linkDataset collectionName datasetId datasetName chunkCount taskId) kind
      c := by
  simp only [Tables.apply, Milvus.linkDataset] at hc
  cases hlock : host.lockDatasetsForConsumption t.datasets ⟨[datasetId], [], true, false⟩ with
  | error e =>
    simp only [hlock] at hc
    exact Or.inl hc
  | ok datasets =>
    have hlocks : locks host t.datasets (linkRequest datasetId) = true := by
      simp only [locks, linkRequest, hlock]
    cases datasets with
    | nil =>
      simp only [hlock] at hc
      exact Or.inl hc
    | cons d rest =>
      cases hcollection : Milvus.lockCollectionForConsumption t.milvus.collections collectionName
          d.userId with
      | error e =>
        simp only [hlock, hcollection] at hc
        exact Or.inl hc
      | ok collection =>
        simp only [hlock, hcollection] at hc
        cases hinsert : t.milvus.links.insert
            (⟨collectionName, datasetId, datasetName, chunkCount, taskId⟩ : Milvus.LinkRow) with
        | none =>
          simp only [Milvus.LinkDataset.row, hinsert] at hc
          cases kind with
          | task kind => exact Or.inl (by cases kind <;> exact hc)
          | link => exact Or.inl (mem_links_update hc)
        | some links =>
          simp only [Milvus.LinkDataset.row, hinsert] at hc
          cases kind with
          | task kind => exact Or.inl (by cases kind <;> exact hc)
          | link =>
            rcases mem_links_insert ⟨collectionName, datasetId, datasetName, chunkCount, taskId,
              t.datasets⟩ hinsert hc with hold | hnew
            · exact Or.inl hold
            · exact Or.inr ⟨_, rfl, rfl, hnew.symm, hlocks⟩

theorem mem_consumers_workerStarts {worker : TaskKind} {taskId : String}
    (hc : c ∈ (t.apply host (.workerStarts worker taskId)).consumers kind) :
    c ∈ t.consumers kind := by
  simp only [Tables.apply] at hc
  by_cases hpending : t.isPending taskId worker = true
  · rw [if_pos hpending] at hc
    have hexecuting : ∀ kind' id, (kind', id) ∈ (worker, taskId) :: t.executing →
        (kind', id) ∈ t.executing ∨ kind' = worker ∧ id = taskId := by
      intro kind' id hmem
      rcases List.mem_cons.mp hmem with heq | hmem
      · exact Or.inr (Prod.mk.inj heq)
      · exact Or.inl hmem
    cases kind with
    | link => exact hc
    | task kind =>
      cases kind with
      | generation =>
        refine mem_consumers_of_active (fun g hg hactive => ?_) hc
        simp only [Tables.isExecuting, Bool.or_eq_true, decide_eq_true_eq] at hactive ⊢
        rcases hactive with hactive | hactive
        · exact Or.inl hactive
        rcases hexecuting _ _ hactive with hactive | ⟨rfl, hid⟩
        · exact Or.inr hactive
        subst hid
        simp only [Tables.isPending, Table.lookup_of_mem hg, ← key_generationRow, Option.any_some,
          decide_eq_true_eq] at hpending
        exact Or.inl (by simp [hpending, activeGenerationStatuses])
      | training =>
        refine mem_consumers_of_active (fun task htask hactive => ?_) hc
        simp only [Tables.isExecuting, Bool.or_eq_true, decide_eq_true_eq] at hactive ⊢
        rcases hactive with (hactive | hactive) | hactive
        · exact Or.inl (Or.inl hactive)
        · rcases hexecuting _ _ hactive with hactive | ⟨rfl, hid⟩
          · exact Or.inl (Or.inr hactive)
          subst hid
          simp only [Tables.isPending, Table.lookup_of_mem htask, ← Training.key_trainingTask,
            Option.any_some, decide_eq_true_eq] at hpending
          exact Or.inl (Or.inl (by simp [hpending, Training.lockingStatuses]))
        · exact Or.inr hactive
      | evaluation =>
        refine mem_consumers_of_active (fun e he hactive => ?_) hc
        simp only [Tables.isExecuting, Bool.or_eq_true, decide_eq_true_eq] at hactive ⊢
        rcases hactive with hactive | hactive
        · exact Or.inl hactive
        rcases hexecuting _ _ hactive with hactive | ⟨rfl, hid⟩
        · exact Or.inr hactive
        subst hid
        simp only [Tables.isPending, Table.lookup_of_mem he, ← key_evaluationRow, Option.any_some,
          decide_eq_true_eq] at hpending
        exact Or.inl (Or.inl hpending)
  · rw [if_neg hpending] at hc
    exact hc

theorem mem_consumers_workerExits {worker : TaskKind} {taskId : String}
    (hc : c ∈ (t.apply host (.workerExits worker taskId)).consumers kind) :
    c ∈ t.consumers kind := by
  have hexecuting : ∀ kind' id, (kind', id) ∈ t.executing.filter (· ≠ (worker, taskId)) →
      (kind', id) ∈ t.executing := fun _ _ hmem => (List.mem_filter.mp hmem).1
  cases kind with
  | link => exact hc
  | task kind =>
    cases kind with
    | generation =>
      refine mem_consumers_of_active (fun g _ hactive => ?_) hc
      simp only [Tables.isExecuting, Bool.or_eq_true, decide_eq_true_eq] at hactive ⊢
      exact hactive.imp_right (hexecuting _ _)
    | training =>
      refine mem_consumers_of_active (fun task _ hactive => ?_) hc
      simp only [Tables.isExecuting, Bool.or_eq_true, decide_eq_true_eq] at hactive ⊢
      exact hactive.imp_left fun h => h.imp_right (hexecuting _ _)
    | evaluation =>
      refine mem_consumers_of_active (fun e _ hactive => ?_) hc
      simp only [Tables.isExecuting, Bool.or_eq_true, decide_eq_true_eq] at hactive ⊢
      exact hactive.imp_right (hexecuting _ _)

theorem mem_consumers_datasets {rows : Dataset.Datasets}
    (hc : c ∈ { t with datasets := rows }.consumers kind) : c ∈ t.consumers kind := by
  cases kind with
  | link => exact hc
  | task kind => cases kind <;> exact hc

theorem accounted (a : Transaction) (hc : c ∈ (t.apply host a).consumers kind) :
    Accounted host t a kind c := by
  cases a with
  | createGeneration => exact accounted_createGeneration hc
  | claimGeneration => exact Or.inl (accounted_claimGeneration hc)
  | failGeneration => exact Or.inl (accounted_failGeneration hc)
  | createTraining => exact accounted_createTraining hc
  | claimTraining => exact Or.inl (accounted_claimTraining hc)
  | resetTraining => exact accounted_resetTraining hc
  | stopTraining => exact Or.inl (accounted_stopTraining hc)
  | createEvaluation => exact accounted_createEvaluation hc
  | claimEvaluation => exact Or.inl (accounted_claimEvaluation hc)
  | resetEvaluation => exact accounted_resetEvaluation hc
  | cancelEvaluation => exact Or.inl (accounted_cancelEvaluation hc)
  | linkDataset => exact accounted_linkDataset hc
  | updateDataset args =>
    refine Or.inl ?_
    simp only [Tables.apply] at hc
    split at hc
    · exact mem_consumers_datasets hc
    · exact hc
  | updateStatus datasetId status errorMessage =>
    refine Or.inl ?_
    simp only [Tables.apply] at hc
    split at hc
    · exact mem_consumers_datasets hc
    · exact hc
  | workerStarts => exact Or.inl (mem_consumers_workerStarts hc)
  | workerExits => exact Or.inl (mem_consumers_workerExits hc)

end DatasetDeletion
