import TrainFactory.SyncTraining.TargetDatasets

/-!
# Which phase feeds a launch

The records of the QA datasets have the fields that a launch reads. Those of the final datasets do
not, so that a launch for a target of that phase raises at the first of them.
-/

namespace SyncTraining

open Lib Sync

variable {env : LaunchEnv} {db : StoredDatabase} {configId : String}
  {target : ExternalSyncTrainingTarget}

def phaseConfigs (env : LaunchEnv) (dataPhase : String) (gens : List (StoredRow ExternalSyncGeneration)) :
    List DatasetConfig :=
  gens.map fun g =>
    { path := (storedLocation env (phaseDataset dataPhase g)).getD ""
      datasetId := phaseDataset dataPhase g
      sampleCount := phaseSamples dataPhase g }

theorem datasetIdOf_qaDict {g : StoredRow ExternalSyncGeneration}
    (h : (g.row.qaDatasetId).isSome = true) :
    datasetIdOf (qaDict g) = .ok (phaseDataset "qa" g) := by
  obtain ⟨datasetId, hid⟩ := Option.isSome_iff_exists.mp h
  have hdict : (qaDict g).get? "dataset_id" = some (.str datasetId) := by
    simp [qaDict, Json.get?, hid, jsonOfOption]
  rw [datasetIdOf, hdict]
  simp [phaseDataset, hid]

theorem sampleCountOf_qaDict (g : StoredRow ExternalSyncGeneration) :
    sampleCountOf (qaDict g) = .ok (phaseSamples "qa" g) := by
  have hdict : (qaDict g).getD "sample_count" (.int 0) = .int g.row.qaSampleCount := by
    simp [qaDict, Json.getD, Json.get?, List.lookup_cons]
  rw [sampleCountOf, hdict]
  rfl

theorem datasetIdOf_generationDict (g : StoredRow ExternalSyncGeneration) :
    datasetIdOf (generationDict env.isoformat g) = .error (.keyError "dataset_id") := by
  have hdict : (generationDict env.isoformat g).get? "dataset_id" = none := by
    simp [generationDict, Json.get?, List.lookup_cons]
  rw [datasetIdOf, hdict]

theorem collectDatasets_qa {gens : List (StoredRow ExternalSyncGeneration)}
    (hsome : ∀ g ∈ gens, (g.row.qaDatasetId).isSome = true)
    (hstored : ∀ g ∈ gens, (storedLocation env (phaseDataset "qa" g)).isSome = true) :
    collectDatasets env (gens.map qaDict) =
      .ok (phaseConfigs env "qa" gens, (gens.map (phaseSamples "qa")).sum) := by
  induction gens with
  | nil => rfl
  | cons g gens ih =>
    obtain ⟨path, hpath⟩ := Option.isSome_iff_exists.mp (hstored g (List.mem_cons_self ..))
    have hrest := ih (fun g' hg' => hsome g' (List.mem_cons_of_mem _ hg'))
      (fun g' hg' => hstored g' (List.mem_cons_of_mem _ hg'))
    rw [List.map_cons, collectDatasets, datasetIdOf_qaDict (hsome g (List.mem_cons_self ..))]
    simp only [hpath, sampleCountOf_qaDict, hrest]
    have hcons : phaseConfigs env "qa" (g :: gens) =
        { path := path, datasetId := phaseDataset "qa" g, sampleCount := phaseSamples "qa" g } ::
          phaseConfigs env "qa" gens := by
      simp [phaseConfigs, hpath]
    rw [hcons, List.map_cons, List.sum_cons]

theorem collectDatasets_final {gens : List (StoredRow ExternalSyncGeneration)} (hne : gens ≠ []) :
    collectDatasets env (gens.map (generationDict env.isoformat)) =
      .error (.keyError "dataset_id") := by
  cases gens with
  | nil => exact absurd rfl hne
  | cons g gens => rw [List.map_cons, collectDatasets, datasetIdOf_generationDict]

theorem qaGenerations_some {g : StoredRow ExternalSyncGeneration}
    (h : g ∈ qaGenerations db configId) : (g.row.qaDatasetId).isSome = true := by
  have hselect := (Table.mem_select.mp h).2
  simp only [Bool.and_eq_true] at hselect
  exact hselect.1.2

theorem launchTrainingForTarget_of_ne_qa {task : StoredRow ExternalSyncTask}
    (htask : (db.tasks.rows.find? fun t => t.row.taskId = configId) = some task)
    (howner : target.taskId = configId) (hbase : baseModelPath env target ≠ "")
    (hphase : target.dataPhase ≠ "qa") (hne : finalGenerations db configId ≠ [])
    (requireThreshold : Bool) :
    launchTrainingForTarget env db configId target requireThreshold =
      .error (.keyError "dataset_id") := by
  have hforeign : ¬ (target.taskId ≠ "" ∧ target.taskId ≠ configId) := fun h => h.2 howner
  have hdatasets : targetDatasets env db configId target =
      (finalGenerations db configId).map (generationDict env.isoformat) := by
    rw [targetDatasets, if_neg hphase]
    rfl
  have hempty : ((finalGenerations db configId).map
      (generationDict env.isoformat)).isEmpty = false := by
    rw [List.isEmpty_map]
    simpa using hne
  simp only [launchTrainingForTarget, htask, if_neg hforeign, if_neg hbase, hdatasets, hempty,
    collectDatasets_final hne, Bool.false_eq_true, if_false]

/-- A launch reaches its claim with the datasets and the samples of its phase just where the phase is
`qa`, the target has a base model, and its paths are accepted. -/
theorem launchTrainingForTarget_feeds_iff {task : StoredRow ExternalSyncTask}
    (htask : (db.tasks.rows.find? fun t => t.row.taskId = configId) = some task)
    (howner : target.taskId = configId)
    (hne : phaseGenerations db configId target.dataPhase ≠ [])
    (hstored : ∀ g ∈ phaseGenerations db configId target.dataPhase,
      (storedLocation env (phaseDataset target.dataPhase g)).isSome = true)
    (requireThreshold : Bool) :
    (∃ args, launchTrainingForTarget env db configId target requireThreshold = .ok (some args) ∧
      args.inputDatasetIds =
        (phaseGenerations db configId target.dataPhase).map (phaseDataset target.dataPhase) ∧
      args.totalSamples =
        ((phaseGenerations db configId target.dataPhase).map (phaseSamples target.dataPhase)).sum) ↔
    target.dataPhase = "qa" ∧ baseModelPath env target ≠ "" ∧
      env.normalize (trainingConfigOf env task.row target
        (phaseConfigs env target.dataPhase (phaseGenerations db configId target.dataPhase))) =
        .ok () := by
  have hforeign : ¬ (target.taskId ≠ "" ∧ target.taskId ≠ configId) := fun h => h.2 howner
  simp only [launchTrainingForTarget, htask, if_neg hforeign]
  by_cases hbase : baseModelPath env target = ""
  · rw [if_pos hbase]
    constructor
    · rintro ⟨args, h, -⟩
      cases h
    · rintro ⟨-, h, -⟩
      exact absurd hbase h
  · rw [if_neg hbase]
    by_cases hphase : target.dataPhase = "qa"
    · rw [hphase] at hne hstored ⊢
      have hgens : phaseGenerations db configId "qa" = qaGenerations db configId := if_pos rfl
      rw [hgens] at hne hstored ⊢
      have hdatasets : targetDatasets env db configId target =
          (qaGenerations db configId).map qaDict := by
        rw [targetDatasets, if_pos hphase]
        rfl
      have hcollect := collectDatasets_qa (fun g hg => qaGenerations_some hg) hstored
      have hconfigs : (phaseConfigs env "qa" (qaGenerations db configId)).isEmpty = false := by
        rw [phaseConfigs, List.isEmpty_map]
        simpa using hne
      have hids : (phaseConfigs env "qa" (qaGenerations db configId)).map DatasetConfig.datasetId =
          (qaGenerations db configId).map (phaseDataset "qa") := by
        rw [phaseConfigs, List.map_map]
        rfl
      have hempty : ((qaGenerations db configId).map qaDict).isEmpty = false := by
        rw [List.isEmpty_map]
        simpa using hne
      simp only [hdatasets, hcollect, hempty, hconfigs, hids, Bool.false_eq_true, if_false]
      cases hnormalize : env.normalize (trainingConfigOf env task.row target
        (phaseConfigs env "qa" (qaGenerations db configId))) with
      | error e => simp
      | ok _ => simp [hbase]
    · have hgens : phaseGenerations db configId target.dataPhase = finalGenerations db configId :=
        if_neg hphase
      rw [hgens] at hne
      have hraises := launchTrainingForTarget_of_ne_qa htask howner hbase hphase hne requireThreshold
      simp only [launchTrainingForTarget, htask, if_neg hforeign, if_neg hbase] at hraises
      rw [hraises]
      constructor
      · rintro ⟨args, h, -⟩
        cases h
      · rintro ⟨h, -⟩
        exact absurd h hphase

def storedEnv : LaunchEnv where
  isoformat _ := "2024-01-01T00:00:00"
  getDataset _ := some { storagePath := some "/app/data/dataset.jsonl" }
  resolveBaseModelPath _ := none
  normalize _ := .ok ()
  trainingTaskId := "training"
  now := 0

def completedGeneration : StoredRow ExternalSyncGeneration :=
  ⟨1, { generationTaskId := "g1", taskId := "t1", userId := "u1", outputDatasetId := some "final-1"
        outputSampleCount := 20, qaDatasetId := some "qa-1", qaSampleCount := 30
        status := .completed, createdAt := 0 }⟩

def oneGeneration : StoredDatabase where
  tasks := ⟨[⟨1, { taskId := "t1", userId := "u1" }⟩], List.nodup_singleton _⟩
  batches := Table.empty
  generations := ⟨[completedGeneration], List.nodup_singleton _⟩
  trainings := Table.empty
  targets := Table.empty

def phaseTarget (dataPhase : String) : ExternalSyncTrainingTarget :=
  { targetId := "target", taskId := "t1", targetName := "target", dataPhase := dataPhase
    baseModelPath := "/app/models/base" }

theorem qaGenerations_oneGeneration : qaGenerations oneGeneration "t1" = [completedGeneration] :=
  rfl

theorem launchTrainingForTarget_qa :
    ∃ args, launchTrainingForTarget storedEnv oneGeneration "t1" (phaseTarget "qa") false =
      .ok (some args) ∧ args.inputDatasetIds =
        (phaseGenerations oneGeneration "t1" "qa").map (phaseDataset "qa") ∧
      args.totalSamples = ((phaseGenerations oneGeneration "t1" "qa").map (phaseSamples "qa")).sum := by
  have hgens : phaseGenerations oneGeneration "t1" (phaseTarget "qa").dataPhase =
      [completedGeneration] := qaGenerations_oneGeneration
  have hne : phaseGenerations oneGeneration "t1" (phaseTarget "qa").dataPhase ≠ [] := by
    rw [hgens]
    exact List.cons_ne_nil _ _
  have hiff := @launchTrainingForTarget_feeds_iff storedEnv oneGeneration "t1" (phaseTarget "qa")
    ⟨1, { taskId := "t1", userId := "u1" }⟩ rfl rfl hne (fun g _ => rfl) false
  exact hiff.mpr ⟨rfl, by decide, rfl⟩

/-- A target of the phase `final` raises. -/
theorem launchTrainingForTarget_final :
    launchTrainingForTarget storedEnv oneGeneration "t1" (phaseTarget "final") false =
        .error (.keyError "dataset_id") ∧
      phaseGenerations oneGeneration "t1" "final" = [completedGeneration] ∧
      storedLocation storedEnv (phaseDataset "final" completedGeneration) =
        some "/app/data/dataset.jsonl" := by
  have hgens : finalGenerations oneGeneration "t1" = [completedGeneration] := by
    rw [finalGenerations]
    exact List.mergeSort_singleton _
  have hbase : baseModelPath storedEnv (phaseTarget "final") ≠ "" := by decide
  have hphase : (phaseTarget "final").dataPhase ≠ "qa" := by decide
  have hne : finalGenerations oneGeneration "t1" ≠ [] := by
    rw [hgens]
    exact List.cons_ne_nil _ _
  have hraises := @launchTrainingForTarget_of_ne_qa storedEnv oneGeneration "t1"
    (phaseTarget "final") ⟨1, { taskId := "t1", userId := "u1" }⟩ rfl rfl hbase hphase hne false
  exact ⟨hraises, hgens, rfl⟩

end SyncTraining
