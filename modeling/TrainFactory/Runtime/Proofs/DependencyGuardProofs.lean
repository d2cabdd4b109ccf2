import TrainFactory.Lib.FreshKeys
import TrainFactory.Runtime.Locks

/-!
# Proofs: what `lock_runtime_dependencies` guards

References are read without locks, and rows may change until they are locked. When the transaction
has its locks, no change has slipped in: what is referenced from a locked row is locked as well, and
no locked row is being deleted.
-/

namespace Runtime

open Lib Locking

/-! ## Checks that have passed -/

theorem require_eq_ok {condition : Bool} {error : RuntimeError} :
    require condition error = .ok () ↔ condition = true := by
  cases condition <;> simp [require]

theorem mem_of_requireFound {text : String} {requested actual : List String}
    (h : requireFound text requested actual = .ok ()) {id : String} (hid : id ∈ requested) :
    id ∈ actual := by
  unfold requireFound at h
  cases hfind : requested.find? fun id => id ∉ actual with
  | some missing =>
    rw [hfind] at h
    cases h
  | none =>
    have hfound := List.find?_eq_none.mp hfind id hid
    simpa using hfound

theorem owned_of_requireOwnership {userIds : List (Option String)} {expectedUserId : Option String}
    (h : requireOwnership userIds expectedUserId = .ok ()) (hexpected : expectedUserId ≠ none)
    {userId : Option String} (hmem : userId ∈ userIds) : userId = expectedUserId := by
  have hcheck := require_eq_ok.mp h
  rw [Bool.or_eq_true] at hcheck
  rcases hcheck with hnone | hall
  · exact absurd (Option.isNone_iff_eq_none.mp hnone) hexpected
  · exact of_decide_eq_true (List.all_eq_true.mp hall userId hmem)

theorem lookup_select {R V : Type} [Keyed R String] (t : Table R) (p : R → Bool) (value : R → V)
    {r : R} (hr : r ∈ t) (hp : p r = true) :
    ((t.select p).map fun r => (Keyed.key r, value r)).lookup (Keyed.key r) = some (value r) := by
  refine lookup_eq_some_of_mem ?_ (List.mem_map.mpr ⟨r, Table.mem_select.mpr ⟨hr, hp⟩, rfl⟩)
  rw [List.map_map]
  exact (List.filter_sublist.map Keyed.key).nodup t.nodup

/-! ## What the transaction reads and locks -/

variable {host : Host} {view : View} {references : References} {expectedUserId : Option String}

def DependencyPlan.models (plan : DependencyPlan) (db : Database) : List Registry.ModelRow :=
  orderedSelect db.models fun m => m.modelId ∈ plan.modelIds

def DependencyPlan.deployments (plan : DependencyPlan) (db : Database) : List DeploymentRow :=
  orderedSelect db.deployments fun d => d.deploymentId ∈ plan.deploymentIds

def DependencyPlan.configs (plan : DependencyPlan) (db : Database) : List ConfigRow :=
  orderedSelect db.configs fun c => c.configId ∈ plan.configIds

/-- A transaction that returns has passed all checks with what it has locked. -/
structure Passed (host : Host) (view : View) (references : References)
    (expectedUserId : Option String) (plan : DependencyPlan) (locks : List Lock) : Prop where
  planned : host.planDependencies view references expectedUserId = .ok plan
  models : host.checkModels references expectedUserId plan (plan.models (view 3)) = .ok ()
  deployments : checkDeployments expectedUserId plan (plan.deployments (view 4)) = .ok ()
  configs : checkConfigs expectedUserId plan (plan.configs (view 5)) = .ok ()
  locks_eq : locks = (plan.models (view 3)).map (fun m => (.models, m.modelId)) ++
    ((plan.deployments (view 4)).map (fun d => (.deployments, d.deploymentId)) ++
      (plan.configs (view 5)).map fun c => (.configs, c.configId))

theorem passed_of_returned {locked : LockedDependencies}
    (h : (host.lockRuntimeDependencies view references expectedUserId).result = .ok locked) :
    ∃ plan, Passed host view references expectedUserId plan
      (host.lockRuntimeDependencies view references expectedUserId).locks := by
  unfold Host.lockRuntimeDependencies at h ⊢
  obtain ⟨plan, hplan, heq⟩ := eq_of_checked_bind_eq_ok h
  rw [heq, lockWhere, ok_bind] at h ⊢
  obtain ⟨_, hmodels, heq⟩ := eq_of_checked_bind_eq_ok h
  rw [heq, lockWhere, ok_bind] at h ⊢
  obtain ⟨_, hdeployments, heq⟩ := eq_of_checked_bind_eq_ok h
  rw [heq, lockWhere, ok_bind] at h ⊢
  obtain ⟨_, hconfigs, heq⟩ := eq_of_checked_bind_eq_ok h
  rw [heq]
  refine ⟨plan, hplan, hmodels, hdeployments, hconfigs, ?_⟩
  rw [locks_pure, List.append_nil]
  rfl

/-- What the reads without locks have found. -/
structure Found (host : Host) (view : View) (references : References)
    (plan : DependencyPlan) : Prop where
  configIds : plan.configIds = sortedSet references.configIds
  directDeploymentIds : ∀ id ∈ references.deploymentIds, id ∈ plan.deploymentIds
  configModels : ∀ id registryId deploymentId,
    plan.configSignatures.lookup id = some (registryId, deploymentId) →
      (∀ modelId, setId registryId = some modelId → modelId ∈ plan.requiredModelIds) ∧
      ∀ id', setId deploymentId = some id' → id' ∈ plan.deploymentIds
  requiredModels : ∀ id ∈ plan.requiredModelIds, id ∈ plan.modelIds
  deploymentModels : ∀ id modelId,
    plan.deploymentSignatures.lookup id = some modelId → modelId ∈ plan.modelIds
  artifactModels : ∀ m ∈ (view 2).models,
    (references.artifactPaths.any fun path =>
      host.artifactPathUsesRoot (some path) (some m.modelPath)) = true →
    plan.artifactModelSignatures.lookup m.modelId = some m.modelPath

theorem found_of_planned {plan : DependencyPlan}
    (h : host.planDependencies view references expectedUserId = .ok plan) :
    Found host view references plan := by
  unfold Host.planDependencies at h
  obtain ⟨_, -, h⟩ := bind_eq_ok.mp h
  obtain ⟨_, -, h⟩ := bind_eq_ok.mp h
  obtain ⟨_, -, h⟩ := bind_eq_ok.mp h
  obtain ⟨_, -, h⟩ := bind_eq_ok.mp h
  obtain rfl := pure_eq_ok.mp h
  refine ⟨rfl, ?_, ?_, ?_, ?_, ?_⟩
  · intro id hid
    exact mem_sortedSet.mpr (List.mem_append_left _ hid)
  · intro id registryId deploymentId hlookup
    obtain ⟨c, hc, heq⟩ := List.mem_map.mp (mem_of_lookup_eq_some hlookup)
    obtain ⟨-, hsignature⟩ := Prod.mk.inj heq
    obtain ⟨rfl, rfl⟩ := Prod.mk.inj hsignature
    constructor
    · intro modelId hmodel
      exact mem_sortedSet.mpr (List.mem_filterMap.mpr ⟨c, hc, hmodel⟩)
    · intro id' hdeployment
      exact mem_sortedSet.mpr
        (List.mem_append_right _ (List.mem_filterMap.mpr ⟨c, hc, hdeployment⟩))
  · intro id hid
    exact mem_sortedSet.mpr (List.mem_append_left _ (List.mem_append_left _ hid))
  · intro id modelId hlookup
    obtain ⟨d, hd, heq⟩ := List.mem_map.mp (mem_of_lookup_eq_some hlookup)
    obtain ⟨-, rfl⟩ := Prod.mk.inj heq
    exact mem_sortedSet.mpr
      (List.mem_append_left _ (List.mem_append_right _ (List.mem_map.mpr ⟨d, hd, rfl⟩)))
  · intro m hm huses
    exact lookup_select (view 2).models _ (fun m => m.modelPath) hm huses

namespace Passed

variable {plan : DependencyPlan} {locks : List Lock}

theorem mem_models {db : Database} {m : Registry.ModelRow} :
    m ∈ plan.models db ↔ m ∈ db.models ∧ m.modelId ∈ plan.modelIds := by
  rw [DependencyPlan.models, mem_orderedSelect, decide_eq_true_eq]

theorem mem_deployments {db : Database} {d : DeploymentRow} :
    d ∈ plan.deployments db ↔ d ∈ db.deployments ∧ d.deploymentId ∈ plan.deploymentIds := by
  rw [DependencyPlan.deployments, mem_orderedSelect, decide_eq_true_eq]

theorem mem_configs {db : Database} {c : ConfigRow} :
    c ∈ plan.configs db ↔ c ∈ db.configs ∧ c.configId ∈ plan.configIds := by
  rw [DependencyPlan.configs, mem_orderedSelect, decide_eq_true_eq]

theorem mem_locks_models (h : Passed host view references expectedUserId plan locks) {id : String} :
    (LockTable.models, id) ∈ locks ↔ ∃ m ∈ (view 3).models, m.modelId = id ∧ id ∈ plan.modelIds := by
  rw [h.locks_eq]
  simp only [List.mem_append, List.mem_map, Prod.mk.injEq, reduceCtorEq, false_and, and_false,
    exists_false, or_false, true_and, mem_models]
  constructor
  · rintro ⟨m, ⟨hm, hid⟩, rfl⟩
    exact ⟨m, hm, rfl, hid⟩
  · rintro ⟨m, hm, rfl, hid⟩
    exact ⟨m, ⟨hm, hid⟩, rfl⟩

theorem mem_locks_deployments (h : Passed host view references expectedUserId plan locks)
    {id : String} : (LockTable.deployments, id) ∈ locks ↔
      ∃ d ∈ (view 4).deployments, d.deploymentId = id ∧ id ∈ plan.deploymentIds := by
  rw [h.locks_eq]
  simp only [List.mem_append, List.mem_map, Prod.mk.injEq, reduceCtorEq, false_and, and_false,
    exists_false, or_false, false_or, true_and, mem_deployments]
  constructor
  · rintro ⟨d, ⟨hd, hid⟩, rfl⟩
    exact ⟨d, hd, rfl, hid⟩
  · rintro ⟨d, hd, rfl, hid⟩
    exact ⟨d, ⟨hd, hid⟩, rfl⟩

theorem mem_locks_configs (h : Passed host view references expectedUserId plan locks)
    {id : String} : (LockTable.configs, id) ∈ locks ↔
      ∃ c ∈ (view 5).configs, c.configId = id ∧ id ∈ plan.configIds := by
  rw [h.locks_eq]
  simp only [List.mem_append, List.mem_map, Prod.mk.injEq, reduceCtorEq, false_and, and_false,
    exists_false, false_or, true_and, mem_configs]
  constructor
  · rintro ⟨c, ⟨hc, hid⟩, rfl⟩
    exact ⟨c, hc, rfl, hid⟩
  · rintro ⟨c, hc, rfl, hid⟩
    exact ⟨c, ⟨hc, hid⟩, rfl⟩

/-! ### What the checks have compared -/

theorem requiredModel_found (h : Passed host view references expectedUserId plan locks)
    {id : String} (hid : id ∈ plan.requiredModelIds) :
    ∃ m ∈ plan.models (view 3), m.modelId = id := by
  obtain ⟨_, hfound, -⟩ := bind_eq_ok.mp h.models
  exact List.mem_map.mp (mem_of_requireFound hfound hid)

theorem models_owned (h : Passed host view references expectedUserId plan locks)
    (hexpected : expectedUserId ≠ none) {m : Registry.ModelRow} (hm : m ∈ plan.models (view 3)) :
    m.userId = expectedUserId := by
  obtain ⟨_, -, hrest⟩ := bind_eq_ok.mp h.models
  obtain ⟨_, howned, -⟩ := bind_eq_ok.mp hrest
  exact owned_of_requireOwnership howned hexpected (List.mem_map.mpr ⟨m, hm, rfl⟩)

theorem artifactModel_found (h : Passed host view references expectedUserId plan locks)
    {id path : String} (hsignature : plan.artifactModelSignatures.lookup id = some path) :
    ∃ m ∈ plan.models (view 3), m.modelId = id ∧ m.modelPath = path := by
  obtain ⟨_, -, hrest⟩ := bind_eq_ok.mp h.models
  obtain ⟨_, -, hrest⟩ := bind_eq_ok.mp hrest
  obtain ⟨_, hmembership, -⟩ := bind_eq_ok.mp hrest
  have hcheck := require_eq_ok.mp hmembership
  rw [Bool.and_eq_true] at hcheck
  have hpresent := List.all_eq_true.mp hcheck.2 _ (mem_of_lookup_eq_some hsignature)
  obtain ⟨m, hm, hid⟩ := List.any_eq_true.mp hpresent
  have hmodel : m.modelId = id := of_decide_eq_true hid
  have hpath := List.all_eq_true.mp hcheck.1 m hm
  rw [hmodel, hsignature] at hpath
  simp only [Bool.and_eq_true, decide_eq_true_eq] at hpath
  exact ⟨m, hm, hmodel, hpath.1.symm⟩

theorem models_not_deleting (h : Passed host view references expectedUserId plan locks)
    {m : Registry.ModelRow} (hm : m ∈ plan.models (view 3)) : m.status ≠ "deleting" := by
  obtain ⟨_, -, hrest⟩ := bind_eq_ok.mp h.models
  obtain ⟨_, -, hrest⟩ := bind_eq_ok.mp hrest
  obtain ⟨_, -, hrest⟩ := bind_eq_ok.mp hrest
  cases hfind : (plan.models (view 3)).find? fun m => m.status = "deleting" with
  | some deleting =>
    rw [hfind] at hrest
    cases hrest
  | none =>
    have hnot := List.find?_eq_none.mp hfind m hm
    simpa using hnot

theorem deployment_found (h : Passed host view references expectedUserId plan locks)
    {id : String} (hid : id ∈ plan.deploymentIds) :
    ∃ d ∈ plan.deployments (view 4), d.deploymentId = id := by
  obtain ⟨_, hfound, -⟩ := bind_eq_ok.mp h.deployments
  exact List.mem_map.mp (mem_of_requireFound hfound hid)

theorem deployments_owned (h : Passed host view references expectedUserId plan locks)
    (hexpected : expectedUserId ≠ none) {d : DeploymentRow} (hd : d ∈ plan.deployments (view 4)) :
    d.userId = expectedUserId := by
  obtain ⟨_, -, hrest⟩ := bind_eq_ok.mp h.deployments
  obtain ⟨_, howned, -⟩ := bind_eq_ok.mp hrest
  exact owned_of_requireOwnership howned hexpected (List.mem_map.mpr ⟨d, hd, rfl⟩)

theorem deployment_checked (h : Passed host view references expectedUserId plan locks)
    {d : DeploymentRow} (hd : d ∈ plan.deployments (view 4)) :
    plan.deploymentSignatures.lookup d.deploymentId = some d.modelId ∧
      ¬ (truthy d.replicaOperationToken = true ∧ d.replicaOperationKind = some .delete) := by
  obtain ⟨_, -, hrest⟩ := bind_eq_ok.mp h.deployments
  obtain ⟨_, -, hall⟩ := bind_eq_ok.mp hrest
  have hchecked := forM_eq_ok.mp hall d hd
  obtain ⟨_, hsignature, hdelete⟩ := bind_eq_ok.mp hchecked
  refine ⟨of_decide_eq_true (require_eq_ok.mp hsignature), ?_⟩
  rintro ⟨htoken, hkind⟩
  have hno := require_eq_ok.mp hdelete
  simp [htoken, hkind] at hno

theorem config_found (h : Passed host view references expectedUserId plan locks)
    {id : String} (hid : id ∈ plan.configIds) : ∃ c ∈ plan.configs (view 5), c.configId = id := by
  obtain ⟨_, hfound, -⟩ := bind_eq_ok.mp h.configs
  exact List.mem_map.mp (mem_of_requireFound hfound hid)

theorem configs_owned (h : Passed host view references expectedUserId plan locks)
    (hexpected : expectedUserId ≠ none) {c : ConfigRow} (hc : c ∈ plan.configs (view 5)) :
    c.userId = expectedUserId := by
  obtain ⟨_, -, hrest⟩ := bind_eq_ok.mp h.configs
  obtain ⟨_, howned, -⟩ := bind_eq_ok.mp hrest
  exact owned_of_requireOwnership howned hexpected (List.mem_map.mpr ⟨c, hc, rfl⟩)

theorem config_checked (h : Passed host view references expectedUserId plan locks)
    {c : ConfigRow} (hc : c ∈ plan.configs (view 5)) :
    plan.configSignatures.lookup c.configId = some (c.registryId, c.deploymentId) := by
  obtain ⟨_, -, hrest⟩ := bind_eq_ok.mp h.configs
  obtain ⟨_, -, hall⟩ := bind_eq_ok.mp hrest
  exact of_decide_eq_true (List.all_eq_true.mp (require_eq_ok.mp hall) c hc)

end Passed

/-! ## The state in which the transaction returns -/

/-- The rows with the ids of a locking read, and the gaps of the ids without a row, stay as they were
read: until the transaction ends, no other one updates, deletes or inserts such a row. -/
def Keeps {R : Type} [Keyed R String] (ids : List String) (read atReturn : Table R) : Prop :=
  ∀ r, Keyed.key r ∈ ids → (r ∈ atReturn ↔ r ∈ read)

/-- The locks hold until the transaction returns. All else may change between two statements. -/
structure LocksHold (host : Host) (view : View) (references : References)
    (expectedUserId : Option String) : Prop where
  models : ∀ plan, host.planDependencies view references expectedUserId = .ok plan →
    Keeps plan.modelIds (view 3).models (view dependencyStatements).models
  deployments : ∀ plan, host.planDependencies view references expectedUserId = .ok plan →
    Keeps plan.deploymentIds (view 4).deployments (view dependencyStatements).deployments
  configs : ∀ plan, host.planDependencies view references expectedUserId = .ok plan →
    Keeps plan.configIds (view 5).configs (view dependencyStatements).configs

def UsesArtifact (host : Host) (references : References) (m : Registry.ModelRow) : Prop :=
  ∃ path ∈ references.artifactPaths, host.artifactPathUsesRoot (some path) (some m.modelPath) = true

/-- What holds of a database with some rows locked, for the models `artifactModels` that were read
without locks. -/
structure Guarded (host : Host) (references : References) (expectedUserId : Option String)
    (artifactModels : Table Registry.ModelRow) (db : Database) (locks : List Lock) : Prop where
  requestedConfigs : ∀ id ∈ references.configIds,
    (∃ c ∈ db.configs, c.configId = id) ∧ (LockTable.configs, id) ∈ locks
  requestedDeployments : ∀ id ∈ references.deploymentIds,
    (∃ d ∈ db.deployments, d.deploymentId = id) ∧ (LockTable.deployments, id) ∈ locks
  configModels : ∀ c ∈ db.configs, (LockTable.configs, c.configId) ∈ locks →
    ∀ id, setId c.registryId = some id →
      (∃ m ∈ db.models, m.modelId = id) ∧ (LockTable.models, id) ∈ locks
  configDeployments : ∀ c ∈ db.configs, (LockTable.configs, c.configId) ∈ locks →
    ∀ id, setId c.deploymentId = some id →
      (∃ d ∈ db.deployments, d.deploymentId = id) ∧ (LockTable.deployments, id) ∈ locks
  deploymentModels : ∀ d ∈ db.deployments, (LockTable.deployments, d.deploymentId) ∈ locks →
    ∀ m ∈ db.models, m.modelId = d.modelId → (LockTable.models, m.modelId) ∈ locks
  artifacts : ∀ m ∈ artifactModels, UsesArtifact host references m →
    ∃ m' ∈ db.models, m'.modelId = m.modelId ∧ UsesArtifact host references m'
  modelsNotDeleting : ∀ m ∈ db.models, (LockTable.models, m.modelId) ∈ locks →
    m.status ≠ "deleting"
  deploymentsNotDeleting : ∀ d ∈ db.deployments, (LockTable.deployments, d.deploymentId) ∈ locks →
    ¬ (truthy d.replicaOperationToken = true ∧ d.replicaOperationKind = some .delete)
  modelsOwned : ∀ m ∈ db.models, (LockTable.models, m.modelId) ∈ locks →
    expectedUserId ≠ none → m.userId = expectedUserId
  deploymentsOwned : ∀ d ∈ db.deployments, (LockTable.deployments, d.deploymentId) ∈ locks →
    expectedUserId ≠ none → d.userId = expectedUserId
  configsOwned : ∀ c ∈ db.configs, (LockTable.configs, c.configId) ∈ locks →
    expectedUserId ≠ none → c.userId = expectedUserId

section Returned

variable {plan : DependencyPlan} {locks : List Lock}
  (h : Passed host view references expectedUserId plan locks)
  (hlocks : LocksHold host view references expectedUserId)

include h hlocks

theorem locked_model {m : Registry.ModelRow} (hm : m ∈ (view dependencyStatements).models)
    (hlock : (LockTable.models, m.modelId) ∈ locks) : m ∈ plan.models (view 3) := by
  obtain ⟨-, -, -, hid⟩ := h.mem_locks_models.mp hlock
  exact Passed.mem_models.mpr ⟨(hlocks.models plan h.planned m hid).mp hm, hid⟩

theorem locked_deployment {d : DeploymentRow} (hd : d ∈ (view dependencyStatements).deployments)
    (hlock : (LockTable.deployments, d.deploymentId) ∈ locks) :
    d ∈ plan.deployments (view 4) := by
  obtain ⟨-, -, -, hid⟩ := h.mem_locks_deployments.mp hlock
  exact Passed.mem_deployments.mpr ⟨(hlocks.deployments plan h.planned d hid).mp hd, hid⟩

theorem locked_config {c : ConfigRow} (hc : c ∈ (view dependencyStatements).configs)
    (hlock : (LockTable.configs, c.configId) ∈ locks) : c ∈ plan.configs (view 5) := by
  obtain ⟨-, -, -, hid⟩ := h.mem_locks_configs.mp hlock
  exact Passed.mem_configs.mpr ⟨(hlocks.configs plan h.planned c hid).mp hc, hid⟩

theorem model_locked {m : Registry.ModelRow} (hm : m ∈ plan.models (view 3)) :
    m ∈ (view dependencyStatements).models ∧ (LockTable.models, m.modelId) ∈ locks := by
  obtain ⟨hread, hid⟩ := Passed.mem_models.mp hm
  exact ⟨(hlocks.models plan h.planned m hid).mpr hread, h.mem_locks_models.mpr ⟨m, hread, rfl, hid⟩⟩

theorem deployment_locked {id : String} (hid : id ∈ plan.deploymentIds) :
    (∃ d ∈ (view dependencyStatements).deployments, d.deploymentId = id) ∧
      (LockTable.deployments, id) ∈ locks := by
  obtain ⟨d, hd, rfl⟩ := h.deployment_found hid
  obtain ⟨hread, -⟩ := Passed.mem_deployments.mp hd
  exact ⟨⟨d, (hlocks.deployments plan h.planned d hid).mpr hread, rfl⟩,
    h.mem_locks_deployments.mpr ⟨d, hread, rfl, hid⟩⟩

theorem config_locked {id : String} (hid : id ∈ plan.configIds) :
    (∃ c ∈ (view dependencyStatements).configs, c.configId = id) ∧
      (LockTable.configs, id) ∈ locks := by
  obtain ⟨c, hc, rfl⟩ := h.config_found hid
  obtain ⟨hread, -⟩ := Passed.mem_configs.mp hc
  exact ⟨⟨c, (hlocks.configs plan h.planned c hid).mpr hread, rfl⟩,
    h.mem_locks_configs.mpr ⟨c, hread, rfl, hid⟩⟩

theorem guarded_of_passed : Guarded host references expectedUserId (view 2).models
    (view dependencyStatements) locks := by
  have hfound := found_of_planned h.planned
  constructor
  case requestedConfigs =>
    intro id hid
    exact config_locked h hlocks (hfound.configIds ▸ mem_sortedSet.mpr hid)
  case requestedDeployments =>
    intro id hid
    exact deployment_locked h hlocks (hfound.directDeploymentIds id hid)
  case configModels =>
    intro c hc hlock id hid
    have hsignature := h.config_checked (locked_config h hlocks hc hlock)
    obtain ⟨m, hm, rfl⟩ :=
      h.requiredModel_found ((hfound.configModels _ _ _ hsignature).1 id hid)
    obtain ⟨hpresent, hmlock⟩ := model_locked h hlocks hm
    exact ⟨⟨m, hpresent, rfl⟩, hmlock⟩
  case configDeployments =>
    intro c hc hlock id hid
    have hsignature := h.config_checked (locked_config h hlocks hc hlock)
    exact deployment_locked h hlocks ((hfound.configModels _ _ _ hsignature).2 id hid)
  case deploymentModels =>
    intro d hd hlock m hm hmodel
    have hsignature := (h.deployment_checked (locked_deployment h hlocks hd hlock)).1
    have hid : m.modelId ∈ plan.modelIds := hmodel ▸ hfound.deploymentModels _ _ hsignature
    exact h.mem_locks_models.mpr ⟨m, (hlocks.models plan h.planned m hid).mp hm, rfl, hid⟩
  case artifacts =>
    rintro m hm ⟨path, hpath, huses⟩
    have hany : (references.artifactPaths.any fun path =>
        host.artifactPathUsesRoot (some path) (some m.modelPath)) = true :=
      List.any_eq_true.mpr ⟨path, hpath, huses⟩
    obtain ⟨m', hm', hid, hsame⟩ := h.artifactModel_found (hfound.artifactModels m hm hany)
    refine ⟨m', (model_locked h hlocks hm').1, hid, path, hpath, ?_⟩
    rwa [hsame]
  case modelsNotDeleting =>
    intro m hm hlock
    exact h.models_not_deleting (locked_model h hlocks hm hlock)
  case deploymentsNotDeleting =>
    intro d hd hlock
    exact (h.deployment_checked (locked_deployment h hlocks hd hlock)).2
  case modelsOwned =>
    intro m hm hlock hexpected
    exact h.models_owned hexpected (locked_model h hlocks hm hlock)
  case deploymentsOwned =>
    intro d hd hlock hexpected
    exact h.deployments_owned hexpected (locked_deployment h hlocks hd hlock)
  case configsOwned =>
    intro c hc hlock hexpected
    exact h.configs_owned hexpected (locked_config h hlocks hc hlock)

end Returned

def boundModel : Registry.ModelRow where
  modelId := "m"
  modelName := "m"
  version := "1"
  modelType := "embedding"
  sourceTaskId := none
  baseModelPath := none
  modelPath := "/m"
  modelPathHash := none
  sourceType := "local"
  isAdapter := false
  downloadStatus := none
  description := none
  tags := none
  category := none
  extraMetadata := none
  metrics := none
  fileSize := none
  status := "active"
  isLatest := true
  userId := some "u"

def boundDeployment : DeploymentRow where
  deploymentId := "d"
  modelId := "m"
  modelUid := none
  xinferenceEndpoint := ""
  deployMode := "shared"
  containerName := none
  gpuId := none
  inferenceFramework := "vllm"
  externalApiConfigId := none
  config := none
  healthStatus := .unknown
  status := .stopped
  errorMessage := none
  userId := some "u"
  updatedAt := 0
  startedAt := none
  stoppedAt := none
  replicaOperationToken := none
  replicaOperationKind := none
  replicaOperationReplicaId := none
  replicaOperationGeneration := 0
  replicaOperationStartedAt := none
  replicaOperationHeartbeatAt := none

def boundConfig : ConfigRow := ⟨"c", some "m", some "d", some "u"⟩

/-- The three rows. -/
def boundDatabase : Database :=
  { Database.empty with
    models := ⟨[boundModel], List.nodup_singleton _⟩
    deployments := ⟨[boundDeployment], List.nodup_singleton _⟩
    configs := ⟨[boundConfig], List.nodup_singleton _⟩ }

end Runtime
