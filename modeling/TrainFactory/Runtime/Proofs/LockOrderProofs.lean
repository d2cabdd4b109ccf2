import TrainFactory.Runtime.DeleteFence

/-!
# Proofs: the order of the runtime locks

The fence of a model deletion and the transactions of tasks lock the tables in the order of
`LockTable.rank`. Only the consumers of dependencies are locked with the generations and the
evaluations before the sync tasks, which the fence locks first.
-/

namespace Runtime

open Lib Locking

def LockTable.rank : LockTable → ℕ
  | .models => 0
  | .deployments => 1
  | .configs => 2
  | .syncTasks => 3
  | .syncTargets => 4
  | .syncTrainings => 5
  | .replicas => 6
  | .trainings => 7
  | .generations => 8
  | .evaluations => 9
  | .collections => 10

abbrev Ordered {α : Type} (lo hi : ℕ) (x : Transaction α) : Prop := Ascends LockTable.rank lo hi x

variable (host : Host)

/-! ## The procedures -/

theorem lockRuntimeDependencies_ordered (view : View) (references : References)
    (expectedUserId : Option String) :
    Ordered 0 3 (host.lockRuntimeDependencies view references expectedUserId) := by
  refine Ascends.check_bind fun plan _ => ?_
  refine Ascends.lock_bind (by decide) (by decide) fun models => ?_
  refine Ascends.check_bind fun _ _ => ?_
  refine Ascends.lock_bind (by decide) (by decide) fun deployments => ?_
  refine Ascends.check_bind fun _ _ => ?_
  refine Ascends.lock_bind (by decide) (by decide) fun configs => ?_
  exact Ascends.check_bind fun _ _ => Ascends.pure _

theorem lockRuntimeTaskAfterDependencies_ordered {R : Type} [Keyed R String] (db : Database)
    (entity : LockTable) (rowsOf : Database → Table R) (taskId : String) (conditions : R → Bool)
    (referenceParser : R → References) (expectedSignature : References) :
    Ordered entity.rank (entity.rank + 1) (lockRuntimeTaskAfterDependencies db entity rowsOf taskId
      conditions referenceParser expectedSignature) := by
  refine Ascends.lock_bind le_rfl (Nat.lt_succ_self _) fun tasks => ?_
  cases tasks.head? with
  | none => exact Ascends.pure _
  | some task => exact Ascends.check_bind fun _ _ => Ascends.pure _

theorem lockRuntimeTaskForTransition_ordered {R : Type} [Keyed R String] (view : View)
    {entity : LockTable} (hentity : 3 ≤ entity.rank) (rowsOf : Database → Table R)
    (taskId : String) (conditions : R → Bool) (referenceParser : R → References)
    (dependencyReferenceBuilder : Option (R → References)) :
    Ordered 0 (entity.rank + 1) (host.lockRuntimeTaskForTransition view entity rowsOf taskId
      conditions referenceParser dependencyReferenceBuilder) := by
  unfold Host.lockRuntimeTaskForTransition
  cases ((rowsOf (view 0)).select fun t => Keyed.key t = taskId && conditions t).head? with
  | none => exact Ascends.pure _
  | some candidate =>
    refine (lockRuntimeDependencies_ordered host _ _ _).bind (fun _ _ => ?_) (by omega) (by omega)
    exact (lockRuntimeTaskAfterDependencies_ordered _ _ _ _ _ _ _).mono hentity le_rfl

theorem lockModelDeleteDependencyScope_ordered (view : View) (modelId deleteToken : String)
    (claims : List DeploymentClaim) :
    Ordered 0 3 (host.lockModelDeleteDependencyScope view modelId deleteToken claims) := by
  refine Ascends.check_bind fun plan _ => ?_
  refine Ascends.lock_bind (by decide) (by decide) fun models => ?_
  refine Ascends.check_bind fun _ _ => ?_
  refine Ascends.lock_bind (by decide) (by decide) fun deployments => ?_
  refine Ascends.check_bind fun _ _ => ?_
  refine Ascends.lock_bind (by decide) (by decide) fun configs => ?_
  exact Ascends.check_bind fun _ _ => Ascends.pure _

theorem lockSyncTasks_ordered (view : View) (plan : GuardPlan) :
    Ordered 3 6 (host.lockSyncTasks view plan) := by
  refine Ascends.lock_bind (by decide) (by decide) fun tasks => ?_
  refine Ascends.lock_bind (by decide) (by decide) fun targets => ?_
  refine Ascends.check_bind fun _ _ => ?_
  refine Ascends.check_bind fun _ _ => ?_
  exact Ascends.lock_bind (by decide) (by decide) fun _ => Ascends.pure _

theorem guardModelDeleteRuntimeDependencies_ordered (view : View) (scope : DeleteScope)
    (snapshot : ExecutionSnapshot) (executionTaskIds : List String) :
    Ordered 3 11
      (host.guardModelDeleteRuntimeDependencies view scope snapshot executionTaskIds) := by
  refine Ascends.check_bind fun plan _ => ?_
  refine (lockSyncTasks_ordered host view plan).bind (fun syncTasks _ => ?_) (by omega) (by omega)
  refine Ascends.check_bind fun _ _ => ?_
  refine Ascends.lock_bind (by decide) (by decide) fun replicas => ?_
  refine Ascends.check_bind fun _ _ => ?_
  refine Ascends.lock_bind (by decide) (by decide) fun trainings => ?_
  refine Ascends.check_bind fun _ _ => ?_
  refine Ascends.lock_bind (by decide) (by decide) fun generations => ?_
  refine Ascends.lock_bind (by decide) (by decide) fun evaluations => ?_
  refine Ascends.check_bind fun _ _ => ?_
  refine Ascends.lock_bind (by decide) (by decide) fun collections => ?_
  exact Ascends.check_bind fun _ _ => Ascends.pure _

theorem lockModelDeleteFence_ordered (view : View) (modelId deleteToken : String)
    (claims : List DeploymentClaim) (snapshot : ExecutionSnapshot)
    (executionTaskIds : List String) :
    Ordered 0 11
      (host.lockModelDeleteFence view modelId deleteToken claims snapshot executionTaskIds) :=
  (lockModelDeleteDependencyScope_ordered host view modelId deleteToken claims).bind
    (fun _ _ => guardModelDeleteRuntimeDependencies_ordered host _ _ _ _) (by omega) (by omega)

/-! ## The consumers -/

section Consumers

variable (view : View) (references : References) (snapshot : ExecutionSnapshot)

/-- The dependencies are consumed by an active generation, or by an active evaluation. -/
def ConsumedByTask : Prop :=
  (∃ t ∈ (view 3).generations, t.taskId ∈ activeGenerationIds (view 0) references snapshot) ∨
    ∃ t ∈ (view 4).evaluations, t.taskId ∈ activeEvaluationIds (view 1) references snapshot

def ConsumedBySync : Prop := ∃ t ∈ (view 5).syncTasks, t.taskId ∈ activeSyncIds (view 2) references

def lockGenerations : Transaction (List GenerationRow) :=
  lockWhere .generations (view 3).generations fun t =>
    t.taskId ∈ activeGenerationIds (view 0) references snapshot

def lockEvaluations : Transaction (List EvaluationRow) :=
  lockWhere .evaluations (view 4).evaluations fun t =>
    t.taskId ∈ activeEvaluationIds (view 1) references snapshot

def lockSyncs : Transaction (List SyncTaskRow) :=
  lockWhere .syncTasks (view 5).syncTasks fun t => t.taskId ∈ activeSyncIds (view 2) references

theorem overlaps_nil {left right : References}
    (h : right.configIds = [] ∧ right.deploymentIds = []) : left.overlaps right = false := by
  simp [References.overlaps, h.1, h.2]

theorem mem_locks_lockGenerations {l : Lock} :
    l ∈ (lockGenerations view references snapshot).locks ↔ l.1 = .generations ∧
      ∃ t ∈ (view 3).generations,
        t.taskId ∈ activeGenerationIds (view 0) references snapshot ∧ t.taskId = l.2 := by
  simp [lockGenerations, mem_locks_lockWhere]

theorem mem_locks_lockEvaluations {l : Lock} :
    l ∈ (lockEvaluations view references snapshot).locks ↔ l.1 = .evaluations ∧
      ∃ t ∈ (view 4).evaluations,
        t.taskId ∈ activeEvaluationIds (view 1) references snapshot ∧ t.taskId = l.2 := by
  simp [lockEvaluations, mem_locks_lockWhere]

theorem mem_locks_lockSyncs {l : Lock} :
    l ∈ (lockSyncs view references).locks ↔ l.1 = .syncTasks ∧
      ∃ t ∈ (view 5).syncTasks, t.taskId ∈ activeSyncIds (view 2) references ∧ t.taskId = l.2 := by
  simp [lockSyncs, mem_locks_lockWhere]

theorem consumers_locks :
    (lockActiveRuntimeDependencyConsumers view references snapshot).locks =
      (lockGenerations view references snapshot).locks ++
        ((lockEvaluations view references snapshot).locks ++
          (lockSyncs view references).locks) := by
  unfold lockActiveRuntimeDependencyConsumers
  split
  · rename_i hnone
    have hgenerations : (lockGenerations view references snapshot).locks = [] := by
      rw [List.eq_nil_iff_forall_not_mem]
      intro l hl
      obtain ⟨-, t, -, hid, -⟩ := (mem_locks_lockGenerations ..).mp hl
      simp [activeGenerationIds, overlaps_nil hnone] at hid
    have hevaluations : (lockEvaluations view references snapshot).locks = [] := by
      rw [List.eq_nil_iff_forall_not_mem]
      intro l hl
      obtain ⟨-, t, -, hid, -⟩ := (mem_locks_lockEvaluations ..).mp hl
      simp [activeEvaluationIds, overlaps_nil hnone] at hid
    have hsyncs : (lockSyncs view references).locks = [] := by
      rw [List.eq_nil_iff_forall_not_mem]
      intro l hl
      obtain ⟨-, t, -, hid, -⟩ := (mem_locks_lockSyncs ..).mp hl
      simp [activeSyncIds, overlaps_nil hnone] at hid
    rw [hgenerations, hevaluations, hsyncs]
    rfl
  · simp only [lockGenerations, lockEvaluations, lockSyncs, lockWhere, ok_bind, locks_pure,
      List.append_nil]

theorem consumers_ordered
    (h : ¬ (ConsumedByTask view references snapshot ∧ ConsumedBySync view references)) :
    Ordered 3 11 (lockActiveRuntimeDependencyConsumers view references snapshot) := by
  have hgenerations : Ordered 8 9 (lockGenerations view references snapshot) :=
    (Ascends.lockWhere : Ordered (LockTable.rank .generations) _
      (lockGenerations view references snapshot))
  have hevaluations : Ordered 9 10 (lockEvaluations view references snapshot) :=
    (Ascends.lockWhere : Ordered (LockTable.rank .evaluations) _
      (lockEvaluations view references snapshot))
  have hsyncs : Ordered 3 4 (lockSyncs view references) :=
    (Ascends.lockWhere : Ordered (LockTable.rank .syncTasks) _ (lockSyncs view references))
  have htasks : ((lockGenerations view references snapshot).locks ++
      (lockEvaluations view references snapshot).locks).Pairwise (Precedes LockTable.rank) := by
    rw [List.pairwise_append]
    refine ⟨hgenerations.pairwise, hevaluations.pairwise, fun l hl l' hl' => Or.inl ?_⟩
    have h1 := (hgenerations.ranks l hl).2
    have h2 := (hevaluations.ranks l' hl').1
    omega
  refine ⟨?_, ?_⟩ <;> rw [consumers_locks, ← List.append_assoc]
  · rw [List.pairwise_append]
    refine ⟨htasks, hsyncs.pairwise, fun l hl l' hl' => absurd ⟨?_, ?_⟩ h⟩
    · rcases List.mem_append.mp hl with hl | hl
      · obtain ⟨-, t, ht, hid, -⟩ := (mem_locks_lockGenerations ..).mp hl
        exact Or.inl ⟨t, ht, hid⟩
      · obtain ⟨-, t, ht, hid, -⟩ := (mem_locks_lockEvaluations ..).mp hl
        exact Or.inr ⟨t, ht, hid⟩
    · obtain ⟨-, t, ht, hid, -⟩ := (mem_locks_lockSyncs ..).mp hl'
      exact ⟨t, ht, hid⟩
  · intro l hl
    rcases List.mem_append.mp hl with hl | hl
    · rcases List.mem_append.mp hl with hl | hl
      · have := hgenerations.ranks l hl
        omega
      · have := hevaluations.ranks l hl
        omega
    · have := hsyncs.ranks l hl
      omega

theorem lockDependenciesAndConsumers_ordered (expectedUserId : Option String)
    (h : ¬ (ConsumedByTask (view.after dependencyStatements) references snapshot ∧
      ConsumedBySync (view.after dependencyStatements) references)) :
    Ordered 0 11
      (host.lockDependenciesAndConsumers view references expectedUserId snapshot) :=
  (lockRuntimeDependencies_ordered host view references expectedUserId).bind
    (fun _ _ => consumers_ordered _ references snapshot h) (by omega) (by omega)

end Consumers

/-! ## Two deletions that cross

A model `m` is deleted, and a config `d` of another model. A sync task `s`, a generation `g` and an
evaluation `e` use both `d` and the config `c` of `m`. -/

section Crossing

variable (s g e : String)

def oneRow {R K : Type} [Keyed R K] (r : R) : Table R := ⟨[r], List.nodup_singleton _⟩

theorem orderedSelect_oneRow {R K : Type} [Keyed R K] [LinearOrder K] {r : R} {p : R → Bool}
    (h : p r = true) : orderedSelect (oneRow r) p = [r] := by
  simp [orderedSelect, oneRow, Table.select, h]

def deletedModel : Registry.ModelRow where
  modelId := "m"
  modelName := "m"
  version := "1"
  modelType := "llm"
  sourceTaskId := none
  baseModelPath := none
  modelPath := "/m"
  modelPathHash := none
  sourceType := "training"
  isAdapter := false
  downloadStatus := none
  description := none
  tags := none
  category := none
  extraMetadata :=
    some (.obj [(Registry.modelDeleteIntentMetadataKey, .obj [("token", .str "t")])])
  metrics := none
  fileSize := none
  status := "deleting"
  isLatest := true
  userId := none

def deletedConfig : ConfigRow := ⟨"c", some "m", none, none⟩

def otherConfig : ConfigRow := ⟨"d", none, none, none⟩

def configReference (configId : String) : Json := .obj [("config_id", .str configId)]

def crossingSyncTask : SyncTaskRow where
  taskId := s
  userId := "u"
  generationConfig := some (.obj
    [("llm_config", configReference "c"), ("eval_llm_config", configReference "d")])

def crossingGeneration : GenerationRow where
  taskId := g
  runToken := none
  llmConfig := some (configReference "c")
  evalLlmConfig := some (configReference "d")
  embeddingConfig := none
  rerankConfig := none
  embeddingConfigId := none

def crossingEvaluation : EvaluationRow where
  taskId := e
  evalFramework := "mteb"
  modelConfigs := some (.arr [configReference "c", configReference "d"])
  llmConfig := none
  workerGroups := none
  status := .pending

def crossing : Database :=
  { Database.empty with
    models := oneRow deletedModel
    configs := ⟨[deletedConfig, otherConfig], by decide⟩
    syncTasks := oneRow (crossingSyncTask s)
    generations := oneRow (crossingGeneration g)
    evaluations := oneRow (crossingEvaluation e) }

def crossingScope : DeleteScope := ⟨deletedModel, [], [deletedConfig]⟩

def crossingFence : Transaction (List ReplicaRow) :=
  host.lockModelDeleteFence (fun _ => crossing s g e) "m" "t" [] ⟨[], []⟩ []

def crossingDelete : Transaction (List Consumer) :=
  host.lockDependenciesAndConsumers (fun _ => crossing s g e) ⟨["d"], [], []⟩ none ⟨[], []⟩

theorem crossing_configs {p : ConfigRow → Bool} (hc : p deletedConfig = true)
    (hd : p otherConfig = false) :
    orderedSelect (crossing s g e).configs p = [deletedConfig] := by
  simp [orderedSelect, Table.select, crossing, hc, hd]

theorem crossing_scopePlan :
    host.planScope (fun _ => crossing s g e) "m" "t" =
      .ok ⟨"m", "t", "/m", [], [("c", some "m", none)], [], [], ["m"]⟩ := by
  have hm : identifier (some "m") = some "m" := rfl
  have ht : identifier (some "t") = some "t" := rfl
  have htarget : (crossing s g e).models.lookup "m" = some deletedModel := rfl
  have hdeployments (p) : orderedSelect (crossing s g e).deployments p = [] := rfl
  have howners :
      host.overlapOwnerIds (fun _ => crossing s g e) "m" deletedModel.modelPath = [] := rfl
  have hconfigs := crossing_configs s g e
    (p := fun c => c.registryId = some "m" ||
      ([] : List String).any fun id => c.deploymentId = some id) rfl rfl
  simp only [Host.planScope, hm, ht, htarget, hdeployments, List.map_nil, hconfigs, howners]
  rfl

theorem crossing_scope :
    host.lockModelDeleteDependencyScope (fun _ => crossing s g e) "m" "t" [] =
      ⟨[(.models, "m"), (.configs, "c")], .ok crossingScope⟩ := by
  have hmodels : lockWhere (ε := RuntimeError) LockTable.models (crossing s g e).models
      (fun m => m.modelId ∈ ["m"]) = ⟨[(.models, "m")], .ok [deletedModel]⟩ := rfl
  have hdeployments (p) : lockWhere (ε := RuntimeError) LockTable.deployments
      (crossing s g e).deployments p = ⟨[], .ok []⟩ := rfl
  have hconfigs : lockWhere (ε := RuntimeError) LockTable.configs (crossing s g e).configs
      (fun c => c.registryId = some "m" ||
        ([] : List DeploymentRow).any fun d => c.deploymentId = some d.deploymentId) =
      ⟨[(.configs, "c")], .ok [deletedConfig]⟩ := by
    rw [lockWhere, crossing_configs s g e rfl rfl]
    rfl
  have htarget : checkScopeModels ⟨"m", "t", "/m", [], [("c", some "m", none)], [], [], ["m"]⟩
      [deletedModel] = .ok deletedModel := rfl
  have htargets : checkScopeDeployments
      ⟨"m", "t", "/m", [], [("c", some "m", none)], [], [], ["m"]⟩ [] [] = .ok [] := rfl
  simp only [Host.lockModelDeleteDependencyScope, crossing_scopePlan, checked_ok_bind, hmodels,
    ok_bind, htarget, hdeployments, htargets, hconfigs]
  rfl

/-- What the guard of the deletion of `m` has read when it takes its first lock. -/
def crossingPlan : GuardPlan where
  replicaSignatures := []
  bindingSyncIds := []
  pathRuntimeSyncIds := []
  syncIds := [s]
  syncSignatures := [host.syncSignature [] (crossingSyncTask s)]
  targetSignatures := []
  trainingSignatures := []
  generationIds := [g]
  evaluationIds := [e]

theorem crossing_syncTasks {p : SyncTaskRow → Bool} (h : p (crossingSyncTask s) = true) :
    orderedSelect (crossing s g e).syncTasks p = [crossingSyncTask s] := orderedSelect_oneRow h

theorem crossing_plan :
    host.planGuard (fun _ => crossing s g e) crossingScope ⟨[], []⟩ [] =
      .ok (crossingPlan host s g e) := by
  have hpath : host.pathRuntimeSyncIds (fun _ => crossing s g e) crossingScope = [] := rfl
  have hbinding : bindingSyncIds (fun _ => crossing s g e) [] [] = [] := rfl
  have htrainings : host.trainingSignatures (crossing s g e) crossingScope [] = [] := rfl
  have hreplicas : orderedSelect (crossing s g e).replicas crossingScope.hasReplica = [] := rfl
  have htargets (p) : orderedSelect (crossing s g e).syncTargets p = [] := rfl
  have hids : crossingScope.references.deploymentIds = [] := rfl
  have hnone : sortedSet [] = [] := rfl
  have hsync : activeSyncIds (crossing s g e) crossingScope.references = [s] := rfl
  have hgenerations : activeGenerationIds (crossing s g e) crossingScope.references ⟨[], []⟩ =
      [g] := rfl
  have hevaluations : activeEvaluationIds (crossing s g e) crossingScope.references ⟨[], []⟩ =
      [e] := rfl
  simp only [Host.planGuard, hgenerations, hevaluations, hsync, hpath, hreplicas, hbinding, hids,
    hnone, List.map_nil, List.append_nil, htargets, htrainings]
  rw [crossing_syncTasks s g e (by simp [crossingSyncTask, sortedSet])]
  simp [require, crossingSyncTask, crossingPlan, sortedSet]

theorem crossing_lockSyncTasks :
    host.lockSyncTasks (fun _ => crossing s g e) (crossingPlan host s g e) =
      ⟨[(.syncTasks, s)], .ok [crossingSyncTask s]⟩ := by
  have htargets (p) : orderedSelect (crossing s g e).syncTargets p = [] := rfl
  have htrainings (p) : orderedSelect (crossing s g e).syncTrainings p = [] := rfl
  simp only [Host.lockSyncTasks, lockWhere, htargets, htrainings]
  rw [crossing_syncTasks s g e (by simp [crossingSyncTask, crossingPlan])]
  simp [require, crossingPlan, crossingSyncTask]

theorem crossingFence_locks :
    (crossingFence host s g e).locks =
      [(.models, "m"), (.configs, "c"), (.syncTasks, s), (.generations, g),
        (.evaluations, e)] := by
  have hbindings : checkBindings (crossingPlan host s g e) = .ok () := rfl
  have hreplicas : lockWhere (ε := RuntimeError) LockTable.replicas (crossing s g e).replicas
      crossingScope.hasReplica = ⟨[], .ok []⟩ := rfl
  have htrainings (p) : lockWhere (ε := RuntimeError) LockTable.trainings
      (crossing s g e).trainings p = ⟨[], .ok []⟩ := rfl
  have hgenerations : lockWhere (ε := RuntimeError) LockTable.generations
      (crossing s g e).generations (fun t => t.taskId ∈ (crossingPlan host s g e).generationIds) =
        ⟨[(.generations, g)], .ok [crossingGeneration g]⟩ := by
    rw [lockWhere, crossing, orderedSelect_oneRow (by simp [crossingGeneration, crossingPlan])]
    rfl
  have hevaluations : lockWhere (ε := RuntimeError) LockTable.evaluations
      (crossing s g e).evaluations (fun t => t.taskId ∈ (crossingPlan host s g e).evaluationIds) =
        ⟨[(.evaluations, e)], .ok [crossingEvaluation e]⟩ := by
    rw [lockWhere, crossing, orderedSelect_oneRow (by simp [crossingEvaluation, crossingPlan])]
    rfl
  have hconsumer : syncConsumers crossingScope.references [crossingSyncTask s] =
      [⟨"external_sync", s⟩] := rfl
  have hraised (consumers : List Consumer) :
      checkConsumers [] [] (⟨"external_sync", s⟩ :: consumers) =
        .error (.unavailable "Model dependency is referenced by an active runtime task") := rfl
  have hguard : (host.guardModelDeleteRuntimeDependencies (fun _ => crossing s g e) crossingScope
      ⟨[], []⟩ []).locks = [(.syncTasks, s), (.generations, g), (.evaluations, e)] := by
    simp only [Host.guardModelDeleteRuntimeDependencies, crossing_plan, checked_ok_bind,
      crossing_lockSyncTasks, ok_bind, hbindings, hreplicas, htrainings, hgenerations,
      hevaluations, hconsumer]
    simp only [crossingPlan, require, hraised, List.map_nil, decide_true, if_true,
      checked_ok_bind, checked_error_bind, List.cons_append, List.nil_append]
  rw [crossingFence, Host.lockModelDeleteFence, crossing_scope, ok_bind, View.after_const]
  simp only [hguard, List.cons_append, List.nil_append]

theorem crossingDelete_locks :
    (crossingDelete host s g e).locks =
      [(.configs, "d"), (.generations, g), (.evaluations, e), (.syncTasks, s)] := by
  have hplan : host.planDependencies (fun _ => crossing s g e) ⟨["d"], [], []⟩ none =
      .ok ⟨["d"], [], [], [], [("d", none, none)], [], []⟩ := rfl
  have hdependencies : host.lockRuntimeDependencies (fun _ => crossing s g e) ⟨["d"], [], []⟩ none =
      ⟨[(.configs, "d")], .ok ⟨[], [], [otherConfig]⟩⟩ := by
    rw [Host.lockRuntimeDependencies, hplan]
    rfl
  have hgenerations : (lockGenerations (fun _ => crossing s g e) ⟨["d"], [], []⟩
      ⟨[], []⟩).locks = [(.generations, g)] := by
    have hids : activeGenerationIds (crossing s g e) ⟨["d"], [], []⟩ ⟨[], []⟩ = [g] := rfl
    rw [lockGenerations, hids, lockWhere, crossing,
      orderedSelect_oneRow (by simp [crossingGeneration])]
    rfl
  have hevaluations : (lockEvaluations (fun _ => crossing s g e) ⟨["d"], [], []⟩
      ⟨[], []⟩).locks = [(.evaluations, e)] := by
    have hids : activeEvaluationIds (crossing s g e) ⟨["d"], [], []⟩ ⟨[], []⟩ = [e] := rfl
    rw [lockEvaluations, hids, lockWhere, crossing,
      orderedSelect_oneRow (by simp [crossingEvaluation])]
    rfl
  have hsyncs : (lockSyncs (fun _ => crossing s g e) ⟨["d"], [], []⟩).locks =
      [(.syncTasks, s)] := by
    have hids : activeSyncIds (crossing s g e) ⟨["d"], [], []⟩ = [s] := rfl
    rw [lockSyncs, hids, lockWhere, crossing_syncTasks s g e (by simp [crossingSyncTask])]
    rfl
  rw [crossingDelete, Host.lockDependenciesAndConsumers, hdependencies, ok_bind, View.after_const,
    consumers_locks, hgenerations, hevaluations, hsyncs]
  rfl

end Crossing

/-! ## The order -/

/-- The locks of a run of one of the procedures, in order. The consumers are locked where the
locks of the dependencies were taken without an error: otherwise a run takes the locks of
`lock_runtime_dependencies` only. -/
inductive RuntimeRun (admits : View → References → ExecutionSnapshot → Prop) :
    List Lock → Prop where
  | dependencies (view : View) (references : References) (expectedUserId : Option String) :
    RuntimeRun admits (host.lockRuntimeDependencies view references expectedUserId).locks
  | transition {R : Type} [Keyed R String] (view : View) (entity : LockTable)
      (hentity : entity ≠ .models ∧ entity ≠ .deployments ∧ entity ≠ .configs)
      (rowsOf : Database → Table R) (taskId : String) (conditions : R → Bool)
      (referenceParser : R → References)
      (dependencyReferenceBuilder : Option (R → References)) :
    RuntimeRun admits (host.lockRuntimeTaskForTransition view entity rowsOf taskId conditions
      referenceParser dependencyReferenceBuilder).locks
  | modelDelete (view : View) (modelId deleteToken : String) (claims : List DeploymentClaim)
      (snapshot : ExecutionSnapshot) (executionTaskIds : List String) :
    RuntimeRun admits
      (host.lockModelDeleteFence view modelId deleteToken claims snapshot executionTaskIds).locks
  | consumers (view : View) (references : References) (expectedUserId : Option String)
      (snapshot : ExecutionSnapshot) (locked : LockedDependencies)
      (hlocked : (host.lockRuntimeDependencies view references expectedUserId).result = .ok locked)
      (hadmits : admits view references snapshot) :
    RuntimeRun admits
      (host.lockDependenciesAndConsumers view references expectedUserId snapshot).locks

/-- The dependencies are not consumed by a sync task and a task of another kind at once, when their
consumers are locked. -/
def ConsumedByOneKind (view : View) (references : References) (snapshot : ExecutionSnapshot) :
    Prop :=
  ¬ (ConsumedByTask (view.after dependencyStatements) references snapshot ∧
    ConsumedBySync (view.after dependencyStatements) references)

theorem RuntimeRun.pairwise {locks : List Lock} (h : RuntimeRun host ConsumedByOneKind locks) :
    locks.Pairwise (Precedes LockTable.rank) := by
  cases h with
  | dependencies view references expectedUserId =>
    exact (lockRuntimeDependencies_ordered host view references expectedUserId).pairwise
  | transition view entity hentity rowsOf taskId conditions referenceParser builder =>
    have hrank : 3 ≤ entity.rank := by
      revert hentity
      cases entity <;> decide
    exact (lockRuntimeTaskForTransition_ordered host view hrank rowsOf taskId conditions
      referenceParser builder).pairwise
  | modelDelete view modelId deleteToken claims snapshot executionTaskIds =>
    exact (lockModelDeleteFence_ordered host view modelId deleteToken claims snapshot
      executionTaskIds).pairwise
  | consumers view references expectedUserId snapshot locked hlocked hadmits =>
    exact (lockDependenciesAndConsumers_ordered host view references snapshot expectedUserId
      hadmits).pairwise

theorem RuntimeRun.mono {admits admits' : View → References → ExecutionSnapshot → Prop}
    (hle : ∀ view references snapshot, admits view references snapshot →
      admits' view references snapshot) {locks : List Lock} (h : RuntimeRun host admits locks) :
    RuntimeRun host admits' locks := by
  cases h with
  | dependencies view references expectedUserId =>
    exact .dependencies view references expectedUserId
  | transition view entity hentity rowsOf taskId conditions referenceParser builder =>
    exact .transition view entity hentity rowsOf taskId conditions referenceParser builder
  | modelDelete view modelId deleteToken claims snapshot executionTaskIds =>
    exact .modelDelete view modelId deleteToken claims snapshot executionTaskIds
  | consumers view references expectedUserId snapshot locked hlocked hadmits =>
    exact .consumers view references expectedUserId snapshot locked hlocked (hle _ _ _ hadmits)

theorem consumedByOneKind_of_order {lt : Lock → Lock → Prop} [IsStrictOrder Lock lt]
    (hfence : ∀ s g e, (crossingFence host s g e).locks.Pairwise lt) {view : View}
    {references : References} {expectedUserId : Option String} {snapshot : ExecutionSnapshot}
    {locked : LockedDependencies}
    (hlocked : (host.lockRuntimeDependencies view references expectedUserId).result = .ok locked)
    (h : (host.lockDependenciesAndConsumers view references expectedUserId
      snapshot).locks.Pairwise lt) :
    ConsumedByOneKind view references snapshot := by
  rintro ⟨htask, t, ht, htid⟩
  rw [Host.lockDependenciesAndConsumers, locks_bind_ok hlocked, consumers_locks] at h
  have hconsumers := (List.pairwise_append.mp h).2.1
  have hs : (LockTable.syncTasks, t.taskId) ∈
      (lockSyncs (view.after dependencyStatements) references).locks :=
    (mem_locks_lockSyncs ..).mpr ⟨rfl, t, ht, htid, rfl⟩
  rcases htask with ⟨u, hu, huid⟩ | ⟨u, hu, huid⟩
  · have hg : (LockTable.generations, u.taskId) ∈
        (lockGenerations (view.after dependencyStatements) references snapshot).locks :=
      (mem_locks_lockGenerations ..).mpr ⟨rfl, u, hu, huid, rfl⟩
    have hbefore := (List.pairwise_append.mp hconsumers).2.2 _ hg _
      (List.mem_append_right _ hs)
    have hafter := hfence t.taskId u.taskId ""
    rw [crossingFence_locks] at hafter
    simp only [List.pairwise_cons, List.mem_cons, forall_eq_or_imp] at hafter
    exact asymm hbefore hafter.2.2.1.1
  · have hg : (LockTable.evaluations, u.taskId) ∈
        (lockEvaluations (view.after dependencyStatements) references snapshot).locks :=
      (mem_locks_lockEvaluations ..).mpr ⟨rfl, u, hu, huid, rfl⟩
    have hbefore := (List.pairwise_append.mp (List.pairwise_append.mp hconsumers).2.1).2.2 _ hg _ hs
    have hafter := hfence t.taskId "" u.taskId
    rw [crossingFence_locks] at hafter
    simp only [List.pairwise_cons, List.mem_cons, forall_eq_or_imp] at hafter
    exact asymm hbefore hafter.2.2.1.2.1

/-- The procedures take their locks in one order, and do not wait for each other in a cycle, as long
as the consumers that a run locks are not a sync task and a task of another kind at once. A run
that locks both fits in no order with the fences of model deletions. -/
theorem runtime_locks_ordered :
    (∃ lt : Lock → Lock → Prop, IsStrictOrder Lock lt ∧
      ∀ locks, RuntimeRun host ConsumedByOneKind locks → locks.Pairwise lt) ∧
    (∀ (ι : Type) (runs : ι → List Lock) (taken : ι → ℕ),
      (∀ i, RuntimeRun host ConsumedByOneKind (runs i)) →
        ∀ i, ¬ Relation.TransGen (Waits runs taken) i i) ∧
    ∀ (view : View) (references : References) (expectedUserId : Option String)
      (snapshot : ExecutionSnapshot) (locked : LockedDependencies),
      (host.lockRuntimeDependencies view references expectedUserId).result = .ok locked →
        ((∃ lt : Lock → Lock → Prop, IsStrictOrder Lock lt ∧
          (∀ locks, RuntimeRun host (fun _ _ _ => False) locks → locks.Pairwise lt) ∧
          (host.lockDependenciesAndConsumers view references expectedUserId
            snapshot).locks.Pairwise lt) ↔
        ConsumedByOneKind view references snapshot) := by
  refine ⟨⟨Precedes LockTable.rank, inferInstance, fun locks h => h.pairwise⟩, ?_, ?_⟩
  · intro ι runs taken hruns i
    exact not_waits_cycle (fun j => (hruns j).pairwise) i
  · intro view references expectedUserId snapshot locked hlocked
    constructor
    · rintro ⟨lt, hlt, hruns, h⟩
      exact consumedByOneKind_of_order host
        (fun s g e => hruns _ (.modelDelete _ "m" "t" [] ⟨[], []⟩ [])) hlocked h
    · intro hone
      refine ⟨Precedes LockTable.rank, inferInstance, fun locks h => ?_, ?_⟩
      · exact (RuntimeRun.mono host (fun _ _ _ => False.elim) h).pairwise
      · exact (RuntimeRun.consumers view references expectedUserId snapshot locked hlocked
          hone).pairwise

/-- The deletion of a model holds the sync task and waits for the generation, and the deletion of a
config of another model holds the generation and waits for the sync task: no order has both. -/
theorem model_delete_and_config_delete_wait_for_each_other :
    (¬ ∃ lt : Lock → Lock → Prop, IsStrictOrder Lock lt ∧
      ∀ locks, RuntimeRun ⟨id⟩ (fun _ _ _ => True) locks → locks.Pairwise lt) ∧
    ∃ runs : Bool → List Lock, (∀ b, RuntimeRun ⟨id⟩ (fun _ _ _ => True) (runs b)) ∧
      runs true = (crossingFence ⟨id⟩ "s" "g" "e").locks ∧
      runs false = (crossingDelete ⟨id⟩ "s" "g" "e").locks ∧
      ∃ taken : Bool → ℕ,
        ((runs true).take (taken true)).Disjoint ((runs false).take (taken false)) ∧
        Waits runs taken true false ∧ Waits runs taken false true := by
  have hfence := crossingFence_locks ⟨id⟩ "s" "g" "e"
  have hdelete := crossingDelete_locks ⟨id⟩ "s" "g" "e"
  have hruns : ∀ b : Bool, RuntimeRun ⟨id⟩ (fun _ _ _ => True)
      (if b then (crossingFence ⟨id⟩ "s" "g" "e").locks
        else (crossingDelete ⟨id⟩ "s" "g" "e").locks) := by
    intro b
    cases b with
    | true => exact .modelDelete _ "m" "t" [] ⟨[], []⟩ []
    | false => exact .consumers _ ⟨["d"], [], []⟩ none ⟨[], []⟩ ⟨[], [], [otherConfig]⟩ rfl trivial
  refine ⟨?_, _, hruns, rfl, rfl, fun _ => 3, ?_⟩
  · rintro ⟨lt, hlt, hordered⟩
    have h1 := hordered _ (hruns true)
    have h2 := hordered _ (hruns false)
    simp only [if_true, Bool.false_eq_true, if_false, hfence, hdelete, List.pairwise_cons,
      List.mem_cons, forall_eq_or_imp] at h1 h2
    exact asymm h1.2.2.1.1 h2.2.1.2.1
  · simp only [Waits, if_true, Bool.false_eq_true, if_false, hfence, hdelete]
    refine ⟨by simp, ⟨_, rfl, by decide⟩, ⟨_, rfl, by decide⟩⟩

end Runtime
