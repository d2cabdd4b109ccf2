import TrainFactory.Lib.Run
import TrainFactory.Sync.Proofs.TrainingsProofs
import TrainFactory.SyncTraining.OutputDirs

/-!
# Proofs: when sync trainings share an output directory

The directory of a training tells its task, its target and its round. So two trainings of a task
share their directory just where the launch of the second has read the counter that the launch of
the first has read.
-/

namespace SyncTraining

open Lib Sync

/-- The training tasks of every sync task have different output directories. -/
def DistinctOutputDirs (s : Launches) : Prop :=
  ∀ configId : String, ((s.created.filter fun task => task.launch.configId.name = configId).map
    CreatedTask.outputDir).Nodup

/-- A training task is created by a launch that has read another counter than the launches of the
earlier training tasks of its target. -/
def LaunchAction.readsFreshCounter (s : Launches) : LaunchAction → Prop
  | .createTask taskId => ∀ launch, s.claimedLaunch taskId = some launch →
    ∀ earlier ∈ s.created, earlier.launch.configId = launch.configId →
      earlier.launch.targetId = launch.targetId →
        earlier.launch.totalTrainings ≠ launch.totalTrainings
  | _ => True

/-! ## Directories -/

theorem isPlainName_round (n : Int) : isPlainName ("round_" ++ intText n) = true := by
  have hchars : ("round_" ++ intText n).toList = "round_".toList ++ (intText n).toList := by simp
  refine isPlainName_iff.mpr ⟨?_, ?_, ?_⟩
  · rw [hchars]
    intro h
    rcases List.mem_append.mp h with h | h
    · exact absurd h (by decide)
    · exact slash_notMem_intText n h
  · intro h
    have hlength := congrArg (fun s => s.toList.length) h
    simp [hchars] at hlength
  · intro h
    have hfirst := congrArg (fun s => s.toList.head?) h
    simp at hfirst

theorem pathComponents_outputDir (outputRoot : String) (configId targetId : PlainName)
    (trainingRound : Int) :
    pathComponents (buildSyncTargetOutputDir outputRoot configId.name targetId.name
        trainingRound) =
      pathComponents (replaceChar outputRoot '\\' "/") ++
        ["sync", configId.name, targetId.name, "round_" ++ intText trainingRound] := by
  unfold buildSyncTargetOutputDir
  rw [pathComponents_purePath, pathComponents_joinPath _ (isPlainName_round _),
    pathComponents_joinPath _ targetId.plain, pathComponents_joinPath _ configId.plain,
    pathComponents_joinPath _ (by decide)]
  simp

theorem outputDir_injective {outputRoot : String} {configId configId' targetId targetId' : PlainName}
    {n n' : Int}
    (h : buildSyncTargetOutputDir outputRoot configId.name targetId.name n =
      buildSyncTargetOutputDir outputRoot configId'.name targetId'.name n') :
    configId = configId' ∧ targetId = targetId' ∧ n = n' := by
  have hcomps := congrArg pathComponents h
  rw [pathComponents_outputDir, pathComponents_outputDir] at hcomps
  have hnames := List.append_cancel_left hcomps
  simp only [List.cons.injEq, true_and, and_true] at hnames
  obtain ⟨hconfig, htarget, hround⟩ := hnames
  refine ⟨PlainName.ext hconfig, PlainName.ext htarget, intText_injective ?_⟩
  exact (String.append_right_inj "round_").mp hround

/-! ## Runs -/

/-- The directories of different training tasks differ, and each is that of its launch. -/
structure DirsInv (outputRoot : String) (s : Launches) : Prop where
  distinct : DistinctOutputDirs s
  named : ∀ task ∈ s.created, task.outputDir = buildSyncTargetOutputDir outputRoot
    task.launch.configId.name task.launch.targetId.name task.launch.trainingRound

section Steps

variable {env : Env} {outputRoot : String} {s : Launches}

theorem DirsInv.of_eq (hI : DirsInv outputRoot s) {s' : Launches} (h : s'.created = s.created) :
    DirsInv outputRoot s' := by
  refine ⟨?_, ?_⟩
  · intro configId
    rw [h]
    exact hI.distinct configId
  · rw [h]
    exact hI.named

def newTask (outputRoot : String) (launch : Launch) : CreatedTask where
  launch := launch
  outputDir := buildSyncTargetOutputDir outputRoot launch.configId.name launch.targetId.name
    launch.trainingRound

theorem newTask_launch (outputRoot : String) (launch : Launch) :
    (newTask outputRoot launch).launch = launch := rfl

theorem newTask_outputDir (outputRoot : String) (launch : Launch) :
    (newTask outputRoot launch).outputDir = buildSyncTargetOutputDir outputRoot
      launch.configId.name launch.targetId.name launch.trainingRound := by
  rw [newTask]

theorem created_launchStep (a : LaunchAction) :
    (launchStep env outputRoot s a).created = s.created ∨
    ∃ taskId launch, a = .createTask taskId ∧ s.claimedLaunch taskId = some launch ∧
      (launchStep env outputRoot s a).created = s.created ++ [newTask outputRoot launch] := by
  cases a with
  | readTarget launch =>
    left
    simp only [launchStep]
    split
    · rfl
    · split <;> rfl
  | claim taskId now =>
    left
    simp only [launchStep]
    split
    · rfl
    · split <;> rfl
  | createTask taskId =>
    simp only [launchStep]
    cases hlaunch : s.claimedLaunch taskId with
    | none => exact Or.inl rfl
    | some launch => exact Or.inr ⟨taskId, launch, rfl, hlaunch, rfl⟩
  | abort taskId reason now restores =>
    left
    simp only [launchStep]
    split <;> rfl
  | onTrainingCompleted taskId now verdict writes returns => exact Or.inl rfl
  | onTrainingFailed taskId reason now => exact Or.inl rfl
  | sync op => exact Or.inl rfl

theorem outputDirs_append (launch : Launch) (configId : String) :
    ((s.created ++ [newTask outputRoot launch]).filter
      fun task => task.launch.configId.name = configId).map CreatedTask.outputDir =
    (s.created.filter fun task => task.launch.configId.name = configId).map CreatedTask.outputDir ++
      if launch.configId.name = configId then [(newTask outputRoot launch).outputDir] else [] := by
  rw [List.filter_append, List.map_append]
  by_cases h : launch.configId.name = configId
  · simp [newTask, h]
  · simp [newTask, h]

theorem DirsInv.outputDir_eq_iff (hI : DirsInv outputRoot s) {task : CreatedTask}
    (htask : task ∈ s.created) (launch : Launch) :
    task.outputDir = (newTask outputRoot launch).outputDir ↔
      task.launch.configId = launch.configId ∧ task.launch.targetId = launch.targetId ∧
        task.launch.totalTrainings = launch.totalTrainings := by
  rw [hI.named task htask, newTask_outputDir]
  constructor
  · intro h
    obtain ⟨hconfig, htarget, hround⟩ := outputDir_injective h
    exact ⟨hconfig, htarget, (Int.add_left_inj 1).mp hround⟩
  · rintro ⟨hconfig, htarget, htotal⟩
    unfold Launch.trainingRound
    rw [hconfig, htarget, htotal]

theorem DirsInv.step (hI : DirsInv outputRoot s) {a : LaunchAction} (ha : a.readsFreshCounter s) :
    DirsInv outputRoot (launchStep env outputRoot s a) := by
  rcases @created_launchStep env outputRoot s a with
    h | ⟨taskId, launch, rfl, hlaunch, h⟩
  · exact hI.of_eq h
  refine ⟨?_, ?_⟩
  · intro configId
    rw [h, outputDirs_append]
    by_cases hconfig : launch.configId.name = configId
    · rw [if_pos hconfig, List.nodup_append]
      refine ⟨hI.distinct configId, List.nodup_singleton _, ?_⟩
      intro dir hdir dir' hdir' heq
      obtain ⟨task, htask, rfl⟩ := List.mem_map.mp hdir
      have hmem := (List.mem_filter.mp htask).1
      rw [List.mem_singleton.mp hdir'] at heq
      obtain ⟨hc, ht, htotal⟩ := (hI.outputDir_eq_iff hmem launch).mp heq
      exact ha launch hlaunch task hmem hc ht htotal
    · rw [if_neg hconfig, List.append_nil]
      exact hI.distinct configId
  · intro task htask
    rw [h] at htask
    rcases List.mem_append.mp htask with htask | htask
    · exact hI.named task htask
    · rw [List.mem_singleton.mp htask, newTask_outputDir, newTask_launch]

theorem DirsInv.shares (hI : DirsInv outputRoot s) {a : LaunchAction}
    (ha : ¬ a.readsFreshCounter s) : ¬ DistinctOutputDirs (launchStep env outputRoot s a) := by
  cases a with
  | createTask taskId =>
    simp only [LaunchAction.readsFreshCounter, not_forall, not_not] at ha
    obtain ⟨launch, hlaunch, earlier, hearlier, hconfig, htarget, htotal⟩ := ha
    intro hdistinct
    have hcreated : (launchStep env outputRoot s (.createTask taskId)).created =
        s.created ++ [newTask outputRoot launch] := by
      simp only [launchStep, hlaunch]
      rfl
    have hnodup := hdistinct launch.configId.name
    rw [hcreated, outputDirs_append, if_pos rfl, List.nodup_append] at hnodup
    refine hnodup.2.2 earlier.outputDir ?_ _ (List.mem_singleton_self _) ?_
    · refine List.mem_map.mpr ⟨earlier, List.mem_filter.mpr ⟨hearlier, ?_⟩, rfl⟩
      simp [hconfig]
    · exact (hI.outputDir_eq_iff hearlier launch).mpr ⟨hconfig, htarget, htotal⟩
  | _ => exact absurd trivial ha

end Steps

/-- In every state of a run the training tasks of a sync task have different output directories if
and only if every launch that creates one has read a counter that no launch of an earlier training
task of its target has read. -/
theorem outputDirs_distinct_iff (env : Env) (outputRoot : String) {s : Launches}
    (hs : s.created = []) (actions : List LaunchAction) :
    (∀ before, before <+: actions →
      DistinctOutputDirs (exec (launchStep env outputRoot) s before)) ↔
    Admits (launchStep env outputRoot) (fun s a => a.readsFreshCounter s) s actions := by
  have hI : DirsInv outputRoot s := by
    refine ⟨fun configId => ?_, ?_⟩
    · rw [hs]
      exact List.nodup_nil
    · rw [hs]
      exact fun task h => absurd h List.not_mem_nil
  exact @prefixes_iff_admits _ _ (launchStep env outputRoot) (fun s a => a.readsFreshCounter s)
    (DirsInv outputRoot) DistinctOutputDirs (fun _ hI => hI.distinct)
    (fun _ _ hI ha => hI.step ha) (fun _ _ hI ha => hI.shares ha) s hI actions

/-! ## Two trainings of one target -/

theorem readsFreshCounter_of_all {s : Launches} {taskId : String}
    (h : ((s.claimedLaunch taskId).all fun launch => s.created.all fun earlier =>
      earlier.launch.totalTrainings ≠ launch.totalTrainings) = true) :
    (LaunchAction.createTask taskId).readsFreshCounter s := by
  intro launch hlaunch earlier hearlier _ _
  rw [hlaunch, Option.all_some, List.all_eq_true] at h
  simpa using h earlier hearlier

def loadedBetween : List LaunchAction :=
  launching "first" ++
    .onTrainingCompleted "first" 2 {} [.compareAndSetTaskStatus "task" .loadingAdapter .idle none]
      true :: launching "second"

theorem outputDirs_distinct_loaded :
    DistinctOutputDirs (exec (launchStep defaultEnv "/out") Launches.ofTarget loadedBetween) :=
  (outputDirs_distinct_iff defaultEnv "/out" rfl loadedBetween).mpr
    ⟨trivial, trivial, readsFreshCounter_of_all (by decide), trivial, trivial, trivial,
      readsFreshCounter_of_all (by decide +kernel), trivial⟩ loadedBetween List.prefix_rfl

/-- The first training fails before the second launch, which reads the same counter. -/
def failedBetween : List LaunchAction :=
  launching "first" ++ .onTrainingFailed "first" "Out of memory" 2 :: launching "second"

theorem outputDir_shared_failed :
    Launches.ofTarget.created = [] ∧ ¬ DistinctOutputDirs
      (exec (launchStep defaultEnv "/out") Launches.ofTarget failedBetween) := by
  refine ⟨rfl, fun hdistinct => ?_⟩
  have hdirs : ((exec (launchStep defaultEnv "/out") Launches.ofTarget failedBetween).created.filter
      fun task => task.launch.configId.name = "task").map CreatedTask.outputDir =
      [buildSyncTargetOutputDir "/out" "task" "target" 1,
        buildSyncTargetOutputDir "/out" "task" "target" 1] := by
    rfl
  have hnodup := hdistinct "task"
  rw [hdirs] at hnodup
  exact (List.nodup_cons.mp hnodup).1 (List.mem_singleton_self _)

end SyncTraining
