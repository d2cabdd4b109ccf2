import Mathlib.Algebra.Order.Ring.Rat
import Mathlib.Logic.Relation
import TrainFactory.Lib.RowHistory
import TrainFactory.Training.Proofs.FencingProofs

/-!
# The life of a training task

Whatever transactions run, and in whatever order, the status of a task moves along
`VALID_TRANSITIONS`, and its progress and its two times go on fitting its status.
-/

namespace Training

open Lib

/-- The statuses that only a task that has run can have. -/
def ranStatuses : List TrainingStatus := [.running, .evaluating, .succeeded]

/-- The progress is a percentage; a task that ran has a start, and one that ended has an end. -/
structure TrainingTask.InOrder (t : TrainingTask) : Prop where
  progress : 0 ≤ t.progress ∧ t.progress ≤ 100
  started : t.status ∈ ranStatuses → t.startedAt ≠ none
  completed : t.status ∈ terminalStatuses → t.completedAt ≠ none

/-- What a row may become. -/
structure TrainingTask.LivesAs (t t' : TrainingTask) : Prop where
  status : Relation.ReflTransGen (fun old new => new ∈ validTransitions old) t.status t'.status
  order : t.InOrder → t'.InOrder

instance : Std.Refl TrainingTask.LivesAs := ⟨fun _ => ⟨.refl, id⟩⟩

instance : IsTrans TrainingTask TrainingTask.LivesAs :=
  ⟨fun _ _ _ h h' => ⟨h.status.trans h'.status, h'.order ∘ h.order⟩⟩

theorem ran_of_move {old new : TrainingStatus} (hmove : new = old ∨ new ∈ validTransitions old)
    (hran : new ∈ ranStatuses) (hne : new ≠ .running) : old ∈ ranStatuses := by
  revert hmove hran hne
  cases new <;> cases old <;> decide

theorem livesAs_of_move {t t' : TrainingTask}
    (hmove : t'.status = t.status ∨ t'.status ∈ validTransitions t.status)
    (horder : t.InOrder → t'.InOrder) : t.LivesAs t' := by
  refine ⟨?_, horder⟩
  rcases hmove with heq | hvalid
  · rw [heq]
  · exact .single hvalid

/-- An update of columns that the life of a row is not about. -/
theorem livesAs_of_eq {t t' : TrainingTask} (hstatus : t'.status = t.status)
    (hprogress : t'.progress = t.progress) (hstarted : t'.startedAt = t.startedAt)
    (hcompleted : t'.completedAt = t.completedAt) : t.LivesAs t' := by
  refine livesAs_of_move (Or.inl hstatus) fun h => ⟨?_, ?_, ?_⟩
  · rw [hprogress]
    exact h.progress
  · rw [hstatus, hstarted]
    exact h.started
  · rw [hstatus, hcompleted]
    exact h.completed

theorem livesAs_of_waiting {t t' : TrainingTask} (status : TrainingStatus)
    (ht' : t'.status = status) (hwaits : status ∉ ranStatuses ∧ status ∉ terminalStatuses)
    (hmove : status ∈ validTransitions t.status)
    (hprogress : t'.progress = t.progress ∨ t'.progress = 0) : t.LivesAs t' := by
  refine livesAs_of_move (Or.inr (ht' ▸ hmove)) fun h => ⟨?_, fun hran => ?_, fun hends => ?_⟩
  · rcases hprogress with heq | hzero
    · rw [heq]
      exact h.progress
    · rw [hzero]
      norm_num
  · exact absurd (ht' ▸ hran) hwaits.1
  · exact absurd (ht' ▸ hends) hwaits.2

/-! ## Transactions -/

/-- The table a transaction leaves behind evolves as its rows may. -/
def Evolved (tasks : Tasks) (outcome : Outcome) : Prop :=
  ∀ won tasks', outcome = .ok (won, tasks') →
    Table.Evolves (fun _ => False) TrainingTask.LivesAs tasks tasks'

theorem evolved_error (tasks : Tasks) (e : TrainingError) : Evolved tasks (.error e) := by
  rintro _ _ ⟨⟩

theorem evolved_lost (tasks : Tasks) : Evolved tasks (.ok (false, tasks)) := by
  rintro _ _ ⟨⟩
  exact .refl tasks

theorem evolved_updateIf {tasks : Tasks} {taskId : String} {conditions : TrainingTask → Bool}
    {values : TrainingTask → TrainingTask}
    (h : ∀ t, conditions t = true → t.LivesAs (keepId values t)) :
    Evolved tasks (.ok (updateIf tasks taskId conditions values)) := by
  rcases updateIf_cases tasks taskId conditions values with hno | ⟨t, hl, hc, hyes⟩
  · rw [hno]
    exact evolved_lost tasks
  · rw [hyes]
    rintro _ _ ⟨⟩
    obtain ⟨hmem, rfl⟩ := Table.lookup_eq_some.mp hl
    exact .update hmem (h t hc)

theorem evolved_updateTaskStatus (tasks : Tasks) (args : UpdateStatus) (references : References)
    (now : Nat) : Evolved tasks (updateTaskStatus tasks args references now) := by
  unfold updateTaskStatus
  split
  · exact evolved_lost tasks
  dsimp only
  split
  · exact evolved_lost tasks
  split
  · exact evolved_error tasks _
  split
  · exact evolved_lost tasks
  split
  · exact evolved_error tasks _
  split
  · exact evolved_error tasks _
  rename_i hvalid
  refine evolved_updateIf fun t ht => ?_
  simp only [Bool.and_eq_true, decide_eq_true_eq] at ht
  rw [← ht.1.1] at hvalid
  have hmove : args.status = t.status ∨ args.status ∈ validTransitions t.status := by
    by_contra hno
    exact hvalid (not_or.mp hno)
  refine livesAs_of_move hmove fun h => ⟨h.progress, fun hran => ?_, fun hends => ?_⟩
  · show ite _ _ _ ≠ none
    split_ifs with hrun
    · exact Option.some_ne_none now
    · intro hnone
      exact h.started (ran_of_move hmove hran fun heq => hrun ⟨heq, hnone⟩) hnone
  · show ite _ _ _ ≠ none
    rw [if_pos (show args.status ∈ terminalStatuses from hends)]
    exact Option.some_ne_none now

theorem evolved_completeTask (tasks : Tasks) (args : CompleteTask) (now : Nat) :
    Evolved tasks (completeTask tasks args now) := by
  unfold completeTask
  split
  · exact evolved_error tasks _
  rename_i hterminal
  refine evolved_updateIf fun t ht => ?_
  have hsource := of_decide_eq_true (Bool.and_eq_true_iff.mp ht).1
  have hmove : args.status = t.status ∨ args.status ∈ validTransitions t.status :=
    Or.inr (of_decide_eq_true (List.mem_filter.mp hsource).2)
  refine livesAs_of_move hmove fun h => ⟨h.progress, fun hran => ?_,
    fun _ => Option.some_ne_none now⟩
  have hne : args.status ≠ .running := by
    intro heq
    rw [heq] at hterminal
    exact hterminal (by decide)
  exact h.started (ran_of_move hmove hran hne)

theorem evolved_registerTrainingProcess (tasks : Tasks) (taskId : String) (processPid : Int)
    (processCreateTime : Option Rat) (runToken : String) (now : Nat) :
    Evolved tasks
      (registerTrainingProcess tasks taskId processPid processCreateTime runToken now) := by
  have hfrom : ∀ createTime (old : TrainingStatus),
      TrainingStatus.running = old ∨ .running ∈ validTransitions old →
      Evolved tasks (.ok (updateIf tasks taskId
        (fun t => registrationConditions processPid createTime runToken t && t.status = old)
        (registrationValues processPid createTime now))) := by
    intro createTime old hold
    refine evolved_updateIf fun t ht => ?_
    obtain rfl : t.status = old := of_decide_eq_true (Bool.and_eq_true_iff.mp ht).2
    refine livesAs_of_move hold fun h => ⟨h.progress, fun _ => ?_, fun hends => ?_⟩
    · cases hstart : t.startedAt <;> simp [keepId, registrationValues, hstart]
    · exact absurd (show TrainingStatus.running ∈ terminalStatuses from hends) (by decide)
  unfold registerTrainingProcess
  split
  · exact evolved_lost tasks
  dsimp only
  split
  · exact evolved_lost tasks
  split
  · rename_i hwon
    exact hwon ▸ hfrom _ .preparing (Or.inr (by decide))
  · exact hfrom _ .running (Or.inl rfl)

theorem evolved_claimPreparing (tasks : Tasks) (taskId runToken : String)
    (references : References) (now : Nat) :
    Evolved tasks (claimPreparing tasks taskId runToken references now) := by
  unfold claimPreparing
  repeat' split
  any_goals first | exact evolved_lost tasks | exact evolved_error tasks _
  refine evolved_updateIf fun t ht => ?_
  have hs : t.status = .pending := of_decide_eq_true (Bool.and_eq_true_iff.mp ht).1
  exact livesAs_of_waiting .preparing rfl (by decide) (hs ▸ by decide) (Or.inl rfl)

theorem evolved_resetForResume (tasks : Tasks) (taskId runToken : String)
    (references : References) (now : Nat) :
    Evolved tasks (resetForResume tasks taskId runToken references now) := by
  unfold resetForResume
  repeat' split
  any_goals first | exact evolved_lost tasks | exact evolved_error tasks _
  refine evolved_updateIf fun t ht => ?_
  have hs : t.status ∈ [.failed, .stopped] := of_decide_eq_true (Bool.and_eq_true_iff.mp ht).1
  refine livesAs_of_waiting .pending rfl (by decide) ?_ (Or.inr rfl)
  revert hs
  cases t.status <;> decide

theorem evolved_updateTaskExecutionConfig (tasks : Tasks) (args : ExecutionConfig)
    (references : References) (now : Nat) :
    Evolved tasks (updateTaskExecutionConfig tasks args references now) := by
  unfold updateTaskExecutionConfig
  dsimp only
  repeat' split
  any_goals first | exact evolved_lost tasks | exact evolved_error tasks _
  exact evolved_updateIf fun t _ => livesAs_of_eq rfl rfl rfl rfl

theorem evolved_outcome (tasks : Tasks) (call : Call) : Evolved tasks (call.outcome tasks) := by
  cases call with
  | claimPreparing taskId runToken references now =>
    exact evolved_claimPreparing tasks taskId runToken references now
  | registerTrainingProcess taskId processPid createTime runToken now =>
    exact evolved_registerTrainingProcess tasks taskId processPid createTime runToken now
  | updateTaskStatus args references now =>
    exact evolved_updateTaskStatus tasks args references now
  | completeTask args now => exact evolved_completeTask tasks args now
  | updateTaskProgress taskId progress =>
    refine evolved_updateIf fun t _ => ⟨.refl, fun h => ⟨?_, h.started, h.completed⟩⟩
    show 0 ≤ min (max progress 0) 100 ∧ min (max progress 0) 100 ≤ 100
    exact ⟨le_min (le_max_right ..) (by norm_num), min_le_right ..⟩
  | updateTaskMetrics => exact evolved_updateIf fun t _ => livesAs_of_eq rfl rfl rfl rfl
  | updateTaskExecutionConfig args references now =>
    exact evolved_updateTaskExecutionConfig tasks args references now
  | updateProcessInfo => exact evolved_updateIf fun t _ => livesAs_of_eq rfl rfl rfl rfl
  | stopIfActive taskId now =>
    refine evolved_updateIf fun t ht => livesAs_of_move (Or.inr ?_) fun h =>
      ⟨h.progress, fun hran => ?_, fun _ => Option.some_ne_none now⟩
    · have hs := of_decide_eq_true ht
      show TrainingStatus.stopped ∈ validTransitions t.status
      revert hs
      cases t.status <;> decide
    · exact absurd (show TrainingStatus.stopped ∈ ranStatuses from hran) (by decide)
  | resetForResume taskId runToken references now =>
    exact evolved_resetForResume tasks taskId runToken references now

/-- In every run of the transactions on training tasks no row is lost and none appears, and every
row lives on as `LivesAs` allows: its status moves along `VALID_TRANSITIONS` only, and a task in
order stays so. -/
theorem tasks_live_by_table (tasks : Tasks) (calls : List Call) :
    Table.Evolves (fun _ => False) TrainingTask.LivesAs tasks (exec step tasks calls) := by
  have hstep : ∀ tasks call,
      Table.Evolves (fun _ => False) TrainingTask.LivesAs (id tasks) (id (step tasks call)) := by
    intro tasks call
    unfold step
    cases hout : call.outcome tasks with
    | error e => exact .refl tasks
    | ok result => exact evolved_outcome tasks call result.1 result.2 hout
  exact Table.Evolves.exec hstep tasks calls

end Training
