import TrainFactory.Lib.Run
import TrainFactory.Training.Service

/-!
# Attempts are fenced by their run token

Every transaction either leaves the table as it is or updates the row of its task, and then the row
met the conditions of its `UPDATE`. From this: a fresh token shuts out everything that carries an
older one, and a terminal status stays until the next `reset_for_resume`.
-/

namespace Training

open Lib

/-! ## What a transaction does to its row -/

/-- The conditions a transaction found its row in, and what it made of it. -/
def Call.Effect (t t' : TrainingTask) : Call → Prop
  | .claimPreparing _ runToken _ _ =>
    t.status = .pending ∧ (t.runToken = some runToken ∨ t.runToken = none) ∧
      t'.status = .preparing ∧ t'.runToken = some runToken
  | .registerTrainingProcess _ processPid processCreateTime runToken _ =>
    t.runToken = some runToken ∧ t.status ∈ [.preparing, .running] ∧
      (hasNoProcess t = true ∨ t.processPid = some processPid ∧
        t.processCreateTime = processCreateTime ∧ t.processStatus = some "running") ∧
      t'.status = .running ∧ t'.runToken = t.runToken ∧ t'.processPid = some processPid ∧
        t'.processCreateTime = processCreateTime
  | .updateTaskStatus args _ _ =>
    hasToken args.runToken t = true ∧
      (args.status = t.status ∨ args.status ∈ validTransitions t.status) ∧
      t'.status = args.status ∧ t'.runToken = t.runToken
  | .completeTask args _ =>
    hasToken args.runToken t = true ∧ t.status ∈ allowedSources args.status ∧
      t'.status = args.status ∧ t'.runToken = t.runToken
  | .updateTaskProgress _ _ runToken _ =>
    hasToken runToken t = true ∧ t'.status = t.status ∧ t'.runToken = t.runToken
  | .updateTaskMetrics _ _ _ runToken _ =>
    hasToken runToken t = true ∧ t'.status = t.status ∧ t'.runToken = t.runToken
  | .updateTaskExecutionConfig args _ _ =>
    hasToken args.runToken t = true ∧ t'.status = t.status ∧ t'.runToken = t.runToken
  | .updateProcessInfo args _ =>
    hasToken args.runToken t = true ∧ t'.status = t.status ∧ t'.runToken = t.runToken
  | .stopIfActive _ _ =>
    t.status ∈ [.pending, .preparing, .running, .evaluating] ∧ t'.status = .stopped ∧
      t'.runToken = t.runToken
  | .resetForResume _ runToken _ _ =>
    t.status ∈ [.failed, .stopped] ∧ hasNoProcess t = true ∧ t'.status = .pending ∧
      t'.runToken = some runToken

/-- A transaction that loses, and one that wins. -/
inductive StepCase (tasks : Tasks) (call : Call) : Prop where
  | lost (hwins : call.wins tasks = false) (hstep : step tasks call = tasks)
  | won (t : TrainingTask) (values : TrainingTask → TrainingTask) (hwins : call.wins tasks = true)
      (hlookup : tasks.lookup call.taskId = some t)
      (hstep : step tasks call = tasks.update call.taskId (keepId values) (key_keepId values))
      (heffect : call.Effect t (values t))

theorem stepCase_of_lost {tasks : Tasks} {call : Call}
    (h : call.outcome tasks = .ok (false, tasks)) : StepCase tasks call :=
  .lost (by simp [Call.wins, h]) (by simp [step, h])

theorem stepCase_of_error {tasks : Tasks} {call : Call} {e : TrainingError}
    (h : call.outcome tasks = .error e) : StepCase tasks call :=
  .lost (by simp [Call.wins, h]) (by simp [step, h])

theorem updateIf_cases (tasks : Tasks) (taskId : String) (conditions : TrainingTask → Bool)
    (values : TrainingTask → TrainingTask) :
    updateIf tasks taskId conditions values = (false, tasks) ∨
      ∃ t, tasks.lookup taskId = some t ∧ conditions t = true ∧
        updateIf tasks taskId conditions values =
          (true, tasks.update taskId (keepId values) (key_keepId values)) := by
  unfold updateIf
  cases hl : tasks.lookup taskId with
  | none => exact Or.inl rfl
  | some t =>
    by_cases hc : conditions t = true
    · exact Or.inr ⟨t, rfl, hc, by simp only [hc, if_true]⟩
    · exact Or.inl (by simp [hc])

theorem stepCase_of_updateIf {tasks : Tasks} {call : Call} {conditions : TrainingTask → Bool}
    {values : TrainingTask → TrainingTask}
    (h : call.outcome tasks = .ok (updateIf tasks call.taskId conditions values))
    (heffect : ∀ t, tasks.lookup call.taskId = some t → conditions t = true →
      call.Effect t (values t)) : StepCase tasks call := by
  rcases updateIf_cases tasks call.taskId conditions values with hno | ⟨t, hl, hc, hyes⟩
  · exact stepCase_of_lost (h.trans (by rw [hno]))
  · rw [hyes] at h
    exact .won t values (by simp [Call.wins, h]) hl (by simp [step, h]) (heffect t hl hc)

theorem hasToken_of_or {runToken : Option String} {t : TrainingTask} {rest : Bool}
    (h : (decide (runToken = none) || hasToken runToken t && rest) = true) :
    hasToken runToken t = true := by
  rcases Bool.or_eq_true_iff.mp h with hnone | hsome
  · have heq : runToken = none := of_decide_eq_true hnone
    rw [heq]
    rfl
  · exact (Bool.and_eq_true_iff.mp hsome).1

theorem stepCase_updateTaskStatus (tasks : Tasks) (args : UpdateStatus) (references : References)
    (now : Nat) : StepCase tasks (.updateTaskStatus args references now) := by
  have hout : (Call.updateTaskStatus args references now).outcome tasks =
      updateTaskStatus tasks args references now := rfl
  unfold updateTaskStatus at hout
  cases hl : tasks.lookup args.taskId with
  | none =>
    simp only [hl] at hout
    exact stepCase_of_lost hout
  | some task =>
    simp only [hl] at hout
    by_cases htoken : hasToken args.runToken task = true
    swap
    · simp only [htoken, not_false_eq_true, if_true, Bool.false_eq_true] at hout
      exact stepCase_of_lost hout
    simp only [htoken, not_true_eq_false, if_false] at hout
    cases hlock : references.lockError (lockingStatuses.contains args.status) with
    | some e =>
      simp only [hlock] at hout
      exact stepCase_of_error hout
    | none =>
      simp only [hlock] at hout
      by_cases hid : args.identityConditions task = true
      swap
      · simp only [hid, not_false_eq_true, if_true, Bool.false_eq_true] at hout
        exact stepCase_of_lost hout
      simp only [hid, not_true_eq_false, if_false] at hout
      cases hcheck : references.checkError (lockingStatuses.contains args.status) with
      | some e =>
        simp only [hcheck] at hout
        exact stepCase_of_error hout
      | none =>
        simp only [hcheck] at hout
        by_cases hbad : args.status ≠ task.status ∧ args.status ∉ validTransitions task.status
        · rw [if_pos hbad] at hout
          exact stepCase_of_error hout
        · rw [if_neg hbad] at hout
          refine stepCase_of_updateIf hout fun t ht _ => ?_
          have heq : task = t := Option.some.inj (hl.symm.trans ht)
          subst heq
          refine ⟨htoken, ?_, rfl, rfl⟩
          by_cases hs : args.status = task.status
          · exact Or.inl hs
          · exact Or.inr (by_contra fun hn => hbad ⟨hs, hn⟩)

theorem stepCase_registerTrainingProcess (tasks : Tasks) (taskId : String) (processPid : Int)
    (processCreateTime : Option Rat) (runToken : String) (now : Nat) :
    StepCase tasks
      (.registerTrainingProcess taskId processPid processCreateTime runToken now) := by
  have hout : (Call.registerTrainingProcess taskId processPid processCreateTime runToken
      now).outcome tasks =
        registerTrainingProcess tasks taskId processPid processCreateTime runToken now := rfl
  unfold registerTrainingProcess at hout
  cases processCreateTime with
  | none => exact stepCase_of_lost hout
  | some createTime =>
    simp only at hout
    split_ifs at hout with hinvalid
    · exact stepCase_of_lost hout
    · have heffect : ∀ (status : TrainingStatus), status ∈ [.preparing, .running] → ∀ t,
          (registrationConditions processPid createTime runToken t && t.status = status) = true →
          Call.Effect t (registrationValues processPid createTime now t)
            (.registerTrainingProcess taskId processPid (some createTime) runToken now) := by
        intro status hstatus t ht
        obtain ⟨hc, hs⟩ := Bool.and_eq_true_iff.mp ht
        have hs' : t.status = status := of_decide_eq_true hs
        obtain ⟨htoken, hproc⟩ := Bool.and_eq_true_iff.mp hc
        refine ⟨of_decide_eq_true htoken, hs' ▸ hstatus, ?_, rfl, rfl, rfl, rfl⟩
        rcases Bool.or_eq_true_iff.mp hproc with hnone | hsame
        · exact Or.inl hnone
        · simp only [Bool.and_eq_true, decide_eq_true_eq] at hsame
          exact Or.inr ⟨hsame.1.1, hsame.1.2, hsame.2⟩
      -- the second update is tried on the same table if the first changes nothing
      rcases updateIf_cases tasks taskId (fun t =>
          registrationConditions processPid createTime runToken t && t.status = .preparing)
          (registrationValues processPid createTime now) with hno | ⟨t, hl, hc, hyes⟩
      · rw [hno] at hout
        exact stepCase_of_updateIf hout fun t _ hc => heffect .running (by simp) t hc
      · rw [hyes] at hout
        refine .won t _ (by simp [Call.wins, hout]) hl ?_ (heffect .preparing (by simp) t hc)
        simp only [step, hout]
        rfl

theorem stepCase_claimPreparing (tasks : Tasks) (taskId runToken : String)
    (references : References) (now : Nat) :
    StepCase tasks (.claimPreparing taskId runToken references now) := by
  have hout : (Call.claimPreparing taskId runToken references now).outcome tasks =
      claimPreparing tasks taskId runToken references now := rfl
  unfold claimPreparing at hout
  split_ifs at hout with hempty
  · exact stepCase_of_lost hout
  · cases hl : tasks.lookup taskId with
    | none =>
      simp only [hl] at hout
      exact stepCase_of_lost hout
    | some task =>
      simp only [hl] at hout
      cases references with
      | lockRaises message => exact stepCase_of_error hout
      | unavailable message => exact stepCase_of_lost hout
      | available =>
        refine stepCase_of_updateIf hout fun t _ hc => ?_
        simp only [Bool.and_eq_true, Bool.or_eq_true, decide_eq_true_eq] at hc
        exact ⟨hc.1, hc.2, rfl, rfl⟩

theorem stepCase_resetForResume (tasks : Tasks) (taskId runToken : String)
    (references : References) (now : Nat) :
    StepCase tasks (.resetForResume taskId runToken references now) := by
  have hout : (Call.resetForResume taskId runToken references now).outcome tasks =
      resetForResume tasks taskId runToken references now := rfl
  unfold resetForResume at hout
  split_ifs at hout with hempty
  · exact stepCase_of_lost hout
  · cases hl : tasks.lookup taskId with
    | none =>
      simp only [hl] at hout
      exact stepCase_of_lost hout
    | some task =>
      simp only [hl] at hout
      cases references with
      | lockRaises message => exact stepCase_of_error hout
      | unavailable message => exact stepCase_of_lost hout
      | available =>
        refine stepCase_of_updateIf hout fun t _ hc => ?_
        obtain ⟨hs, hp⟩ := Bool.and_eq_true_iff.mp hc
        exact ⟨of_decide_eq_true hs, hp, rfl, rfl⟩

theorem stepCase_updateTaskExecutionConfig (tasks : Tasks) (args : ExecutionConfig)
    (references : References) (now : Nat) :
    StepCase tasks (.updateTaskExecutionConfig args references now) := by
  have hout : (Call.updateTaskExecutionConfig args references now).outcome tasks =
      updateTaskExecutionConfig tasks args references now := rfl
  unfold updateTaskExecutionConfig at hout
  cases hl : tasks.lookup args.taskId with
  | none =>
    simp only [hl] at hout
    exact stepCase_of_lost hout
  | some task =>
    simp only [hl] at hout
    by_cases hc : args.conditions task = true
    swap
    · rw [if_pos hc] at hout
      exact stepCase_of_lost hout
    · rw [if_neg (not_not.mpr hc)] at hout
      cases herr : (references.lockError (args.modelPath.isSome || args.trainingParams.isSome)).or
          (references.checkError (args.modelPath.isSome || args.trainingParams.isSome)) with
      | some e =>
        simp only [herr] at hout
        exact stepCase_of_error hout
      | none =>
        simp only [herr] at hout
        exact stepCase_of_updateIf hout fun t _ hc => ⟨hasToken_of_or hc, rfl, rfl⟩

theorem step_cases (tasks : Tasks) (call : Call) : StepCase tasks call := by
  cases call with
  | claimPreparing taskId runToken references now =>
    exact stepCase_claimPreparing tasks taskId runToken references now
  | registerTrainingProcess taskId processPid processCreateTime runToken now =>
    exact stepCase_registerTrainingProcess tasks taskId processPid processCreateTime runToken now
  | updateTaskStatus args references now =>
    exact stepCase_updateTaskStatus tasks args references now
  | completeTask args now =>
    by_cases hterminal : args.status ∉ terminalStatuses
    · exact stepCase_of_error (by simp only [Call.outcome, completeTask, if_pos hterminal]; rfl)
    · refine stepCase_of_updateIf (by simp only [Call.outcome, completeTask, if_neg hterminal]; rfl)
        fun t _ hc => ?_
      obtain ⟨hs, htoken⟩ := Bool.and_eq_true_iff.mp hc
      exact ⟨htoken, of_decide_eq_true hs, rfl, rfl⟩
  | updateTaskProgress taskId progress runToken now =>
    exact stepCase_of_updateIf rfl fun t _ hc => ⟨hasToken_of_or hc, rfl, rfl⟩
  | updateTaskMetrics taskId metrics updatedAt runToken now =>
    exact stepCase_of_updateIf rfl fun t _ hc => ⟨hasToken_of_or hc, rfl, rfl⟩
  | updateTaskExecutionConfig args references now =>
    exact stepCase_updateTaskExecutionConfig tasks args references now
  | updateProcessInfo args now =>
    refine stepCase_of_updateIf rfl fun t _ hc => ?_
    simp only [Bool.and_eq_true] at hc
    exact ⟨hc.1.1, rfl, rfl⟩
  | stopIfActive taskId now =>
    exact stepCase_of_updateIf rfl fun t _ hc => ⟨of_decide_eq_true hc, rfl, rfl⟩
  | resetForResume taskId runToken references now =>
    exact stepCase_resetForResume tasks taskId runToken references now

/-! ## One row -/

theorem lookup_step {tasks : Tasks} {taskId : String} {t : TrainingTask}
    (h : tasks.lookup taskId = some t) (call : Call) :
    ((step tasks call).lookup taskId = some t ∧
      (call.taskId = taskId → call.wins tasks = false)) ∨
    ∃ t', (step tasks call).lookup taskId = some t' ∧ call.taskId = taskId ∧
      call.wins tasks = true ∧ call.Effect t t' := by
  cases step_cases tasks call with
  | lost hwins hstep =>
    rw [hstep]
    exact Or.inl ⟨h, fun _ => hwins⟩
  | won t₀ values hwins hlookup hstep heffect =>
    rw [hstep, Table.lookup_update]
    by_cases hk : taskId = call.taskId
    · subst hk
      have heq : t₀ = t := Option.some.inj (hlookup.symm.trans h)
      subst heq
      refine Or.inr ⟨keepId values t₀, by simp [hlookup], rfl, hwins, ?_⟩
      -- the id of the row plays no part in the effect of a transaction
      cases call <;> exact heffect
    · rw [if_neg hk]
      exact Or.inl ⟨h, fun he => absurd he.symm hk⟩

theorem Call.Effect.hasToken {t t' : TrainingTask} {call : Call} (h : call.Effect t t')
    {token : String} (htoken : call.token = some token) (hreset : call.isReset = false) :
    t.runToken = some token ∨ t.runToken = none := by
  have hgiven : ∀ {runToken : Option String}, runToken = some token →
      Training.hasToken runToken t = true → t.runToken = some token := by
    intro runToken hr ht
    rw [hr] at ht
    exact of_decide_eq_true ht
  cases call with
  | claimPreparing taskId runToken references now =>
    have heq : runToken = token := Option.some.inj htoken
    exact heq ▸ h.2.1
  | registerTrainingProcess taskId processPid processCreateTime runToken now =>
    have heq : runToken = token := Option.some.inj htoken
    exact Or.inl (heq ▸ h.1)
  | updateTaskStatus args references now => exact Or.inl (hgiven htoken h.1)
  | completeTask args now => exact Or.inl (hgiven htoken h.1)
  | updateTaskProgress taskId progress runToken now => exact Or.inl (hgiven htoken h.1)
  | updateTaskMetrics taskId metrics updatedAt runToken now => exact Or.inl (hgiven htoken h.1)
  | updateTaskExecutionConfig args references now => exact Or.inl (hgiven htoken h.1)
  | updateProcessInfo args now => exact Or.inl (hgiven htoken h.1)
  | stopIfActive taskId now => exact absurd htoken (by simp [Call.token])
  | resetForResume taskId runToken references now => exact absurd hreset (by simp [Call.isReset])

/-- The token of a row changes by a `reset_for_resume` of a failed or stopped task without a process,
or by the first claim of a pending task that was created without one. -/
theorem Call.Effect.token_changed {t t' : TrainingTask} {call : Call} (h : call.Effect t t')
    (hne : t'.runToken ≠ t.runToken) :
    (call.isReset = true ∧ t.status ∈ [.failed, .stopped] ∧ hasNoProcess t = true ∧
      t'.runToken = call.token) ∨
    (t.runToken = none ∧ t.status = .pending ∧ t'.status = .preparing ∧
      t'.runToken = call.token) := by
  cases call with
  | claimPreparing taskId runToken references now =>
    obtain ⟨hs, htoken, hs', htoken'⟩ := h
    rcases htoken with hsame | hnone
    · exact absurd (htoken'.trans hsame.symm) hne
    · exact Or.inr ⟨hnone, hs, hs', htoken'⟩
  | registerTrainingProcess taskId processPid processCreateTime runToken now =>
    exact absurd h.2.2.2.2.1 hne
  | updateTaskStatus args references now => exact absurd h.2.2.2 hne
  | completeTask args now => exact absurd h.2.2.2 hne
  | updateTaskProgress taskId progress runToken now => exact absurd h.2.2 hne
  | updateTaskMetrics taskId metrics updatedAt runToken now => exact absurd h.2.2 hne
  | updateTaskExecutionConfig args references now => exact absurd h.2.2 hne
  | updateProcessInfo args now => exact absurd h.2.2 hne
  | stopIfActive taskId now => exact absurd h.2.2 hne
  | resetForResume taskId runToken references now => exact Or.inl ⟨rfl, h.1, h.2.1, h.2.2.2⟩

def Call.isOrdinary : Call → Prop
  | .updateTaskStatus args _ _ => args.status ≠ .pending
  | _ => True

def Call.endsOrRegisters : Call → Bool
  | .registerTrainingProcess .. | .completeTask .. | .stopIfActive .. => true
  | _ => false

theorem not_mem_validTransitions {status new : TrainingStatus} (h : status ∈ terminalStatuses)
    (hnew : new ≠ .pending) : new ∉ validTransitions status := by
  cases status <;> simp_all [terminalStatuses, validTransitions]

theorem not_mem_allowedSources {status source : TrainingStatus} (h : source ∈ terminalStatuses)
    (hstatus : status ∈ terminalStatuses) : source ∉ allowedSources status := by
  cases source <;> cases status <;> revert h hstatus <;> decide

theorem not_active_of_terminal {status : TrainingStatus} (h : status ∈ terminalStatuses) :
    status ∉ [.pending, .preparing, .running, .evaluating] := by
  revert h
  cases status <;> decide

/-- A transaction that finds a terminal status keeps it, and none that ends an attempt or registers
a child wins. -/
theorem Call.Effect.terminal {t t' : TrainingTask} {call : Call} (h : call.Effect t t')
    (ht : t.status ∈ terminalStatuses) (hord : call.isOrdinary) (hreset : call.isReset = false)
    (hcomplete : ∀ args now, call = .completeTask args now → args.status ∈ terminalStatuses) :
    t'.status = t.status ∧ call.endsOrRegisters = false := by
  cases call with
  | claimPreparing taskId runToken references now =>
    rw [h.1] at ht
    exact absurd ht (by decide)
  | registerTrainingProcess taskId processPid processCreateTime runToken now =>
    have hs : t.status ∈ [.pending, .preparing, .running, .evaluating] := by
      rcases List.mem_cons.mp h.2.1 with hs | hs
      · simp [hs]
      · simp [List.mem_singleton.mp hs]
    exact absurd hs (not_active_of_terminal ht)
  | updateTaskStatus args references now =>
    obtain ⟨-, hs, hs', -⟩ := h
    rcases hs with hsame | hvalid
    · exact ⟨hs'.trans hsame, rfl⟩
    · exact absurd hvalid (not_mem_validTransitions ht hord)
  | completeTask args now =>
    exact absurd h.2.1 (not_mem_allowedSources ht (hcomplete args now rfl))
  | updateTaskProgress taskId progress runToken now => exact ⟨h.2.1, rfl⟩
  | updateTaskMetrics taskId metrics updatedAt runToken now => exact ⟨h.2.1, rfl⟩
  | updateTaskExecutionConfig args references now => exact ⟨h.2.1, rfl⟩
  | updateProcessInfo args now => exact ⟨h.2.1, rfl⟩
  | stopIfActive taskId now =>
    exact absurd h.1 (not_active_of_terminal ht)
  | resetForResume taskId runToken references now => exact absurd hreset (by simp [Call.isReset])

theorem mem_terminalStatuses_of_wins {tasks : Tasks} {args : CompleteTask} {now : Nat}
    (h : (Call.completeTask args now).wins tasks = true) : args.status ∈ terminalStatuses := by
  by_contra hn
  have hout : (Call.completeTask args now).outcome tasks = .error (.valueError
      "Completion status must be one of: cancelled, failed, stopped, succeeded") := by
    simp only [Call.outcome, completeTask, if_pos hn]
  simp [Call.wins, hout] at h

def Call.endsAttempt : Call → Bool
  | .completeTask .. | .stopIfActive .. => true
  | _ => false

theorem terminal_of_wins {taskId : String} {tasks : Tasks} {call : Call}
    (hid : call.taskId = taskId) (hends : call.endsAttempt = true)
    (hwins : call.wins tasks = true) :
    ∃ t', (step tasks call).lookup taskId = some t' ∧ t'.status ∈ terminalStatuses := by
  cases step_cases tasks call with
  | lost hlost hstep =>
    rw [hwins] at hlost
    exact absurd hlost (by simp)
  | won t values hw hlookup hstep heffect =>
    refine ⟨keepId values t, ?_, ?_⟩
    · rw [hstep, Table.lookup_update, if_pos hid.symm, hlookup]
      rfl
    · show (values t).status ∈ terminalStatuses
      cases call with
      | completeTask args now =>
        rw [heffect.2.2.1]
        exact mem_terminalStatuses_of_wins hwins
      | stopIfActive taskId now =>
        rw [heffect.2.1]
        decide
      | _ => exact absurd hends (by simp [Call.endsAttempt])

/-! ## Runs -/

def usedTokens (initial : List String) (calls : List Call) : List String :=
  calls.foldl (fun used call => call.token.toList ++ used) initial

def FreshTokens : List String → List Call → Prop
  | _, [] => True
  | used, call :: calls =>
    (call.isReset = true → ∀ token, call.token = some token → token ∉ used) ∧
      FreshTokens (call.token.toList ++ used) calls

theorem FreshTokens.append {used : List String} {calls calls' : List Call}
    (h : FreshTokens used (calls ++ calls')) : FreshTokens (usedTokens used calls) calls' := by
  induction calls generalizing used with
  | nil => exact h
  | cons call calls ih => exact ih h.2

/-- The row of the task has a token that is none of the given ones. -/
def HasOtherToken (old : List String) (taskId : String) (tasks : Tasks) : Prop :=
  ∃ t token, tasks.lookup taskId = some t ∧ t.runToken = some token ∧ token ∉ old

theorem HasOtherToken.exec {old used : List String} {taskId : String} {tasks : Tasks}
    (h : HasOtherToken old taskId tasks) (hused : ∀ token ∈ old, token ∈ used) {calls : List Call}
    (hfresh : FreshTokens used calls) : HasOtherToken old taskId (exec step tasks calls) := by
  induction calls generalizing tasks used with
  | nil => exact h
  | cons call calls ih =>
    obtain ⟨hnew, hrest⟩ := hfresh
    have hused' : ∀ token ∈ old, token ∈ call.token.toList ++ used :=
      fun token hm => List.mem_append_right _ (hused token hm)
    refine ih ?_ hused' hrest
    obtain ⟨t, token, hl, htoken, hother⟩ := h
    rcases lookup_step hl call with ⟨hl', -⟩ | ⟨t', hl', -, -, heffect⟩
    · exact ⟨t, token, hl', htoken, hother⟩
    · by_cases hsame : t'.runToken = t.runToken
      · exact ⟨t', token, hl', hsame.trans htoken, hother⟩
      · rcases heffect.token_changed hsame with ⟨hreset, hs, -, hc⟩ | ⟨hnone, -⟩
        · cases call with
          | resetForResume taskId' runToken references now =>
            exact ⟨t', runToken, hl', hc, fun hm => hnew rfl runToken rfl (hused runToken hm)⟩
          | _ => exact absurd hreset (by simp [Call.isReset])
        · rw [hnone] at htoken
          exact absurd htoken (by simp)

theorem HasOtherToken.step_eq {old : List String} {taskId : String} {tasks : Tasks}
    (h : HasOtherToken old taskId tasks) {call : Call} (hid : call.taskId = taskId)
    (hreset : call.isReset = false) {token : String} (htoken : call.token = some token)
    (hold : token ∈ old) : step tasks call = tasks := by
  obtain ⟨t, token', hl, ht, hother⟩ := h
  cases step_cases tasks call with
  | lost hwins hstep => exact hstep
  | won t₀ values hwins hlookup hstep heffect =>
    rw [hid] at hlookup
    have heq : t₀ = t := Option.some.inj (hlookup.symm.trans hl)
    rw [heq] at heffect
    rcases heffect.hasToken htoken hreset with hsame | hnone
    · have htt : token' = token := Option.some.inj (ht.symm.trans hsame)
      exact absurd (htt ▸ hold) hother
    · rw [hnone] at ht
      exact absurd ht (by simp)

/-- A terminal status stays as long as no transaction resets the task, and no transaction ends the
attempt or registers a child. -/
theorem terminal_exec {taskId : String} {tasks : Tasks} {t : TrainingTask}
    (hl : tasks.lookup taskId = some t) (ht : t.status ∈ terminalStatuses) {calls : List Call}
    (hord : ∀ call ∈ calls, call.isOrdinary)
    (hreset : ∀ call ∈ calls, call.taskId = taskId → call.isReset = false) :
    ∃ t', (exec step tasks calls).lookup taskId = some t' ∧ t'.status = t.status := by
  induction calls generalizing tasks t with
  | nil => exact ⟨t, hl, rfl⟩
  | cons call calls ih =>
    have hord' : ∀ c ∈ calls, c.isOrdinary := fun c hc => hord c (List.mem_cons_of_mem _ hc)
    have hreset' : ∀ c ∈ calls, c.taskId = taskId → c.isReset = false :=
      fun c hc => hreset c (List.mem_cons_of_mem _ hc)
    rcases lookup_step hl call with ⟨hl', -⟩ | ⟨t', hl', hid, hwins, heffect⟩
    · exact ih hl' ht hord' hreset'
    · have hcomplete : ∀ args now, call = .completeTask args now →
          args.status ∈ terminalStatuses := by
        rintro args now rfl
        exact mem_terminalStatuses_of_wins hwins
      have hstatus := (heffect.terminal ht (hord call (List.mem_cons_self ..))
        (hreset call (List.mem_cons_self ..) hid) hcomplete).1
      obtain ⟨t'', hl'', hs''⟩ := ih hl' (hstatus ▸ ht) hord' hreset'
      exact ⟨t'', hl'', hs''.trans hstatus⟩

theorem wins_eq_false_of_terminal {taskId : String} {tasks : Tasks} {t : TrainingTask}
    (hl : tasks.lookup taskId = some t) (ht : t.status ∈ terminalStatuses) {call : Call}
    (hid : call.taskId = taskId) (hends : call.endsOrRegisters = true) :
    call.wins tasks = false := by
  rcases lookup_step hl call with ⟨-, hno⟩ | ⟨t', -, -, hwins, heffect⟩
  · exact hno hid
  · have hord : call.isOrdinary := by
      cases call <;> trivial
    have hreset : call.isReset = false := by
      cases call <;> first | rfl | exact absurd hends (by simp [Call.endsOrRegisters])
    have hcomplete : ∀ args now, call = .completeTask args now →
        args.status ∈ terminalStatuses := by
      rintro args now rfl
      exact mem_terminalStatuses_of_wins hwins
    have hfalse := (heffect.terminal ht hord hreset hcomplete).2
    rw [hends] at hfalse
    exact absurd hfalse (by simp)

/-- In every run on a training task with fresh tokens: after a `reset_for_resume` that won, nothing
that carries an older token changes the table; a token is replaced only by a reset of a failed or
stopped task without a process, or set by the first claim of a pending task without one; a child
registers only where no other process is recorded; and from a terminal status on, until the next
reset, the status stays, and no stop, completion or registration wins; a stop or a completion that
wins leaves such a status. -/
theorem attempts_fenced (tasks : Tasks) (taskId : String) :
    (∀ before token references now after call old,
      FreshTokens ((tasks.lookup taskId).bind TrainingTask.runToken).toList
        (before ++ .resetForResume taskId token references now :: after) →
      (Call.resetForResume taskId token references now).wins (exec step tasks before) = true →
      call.taskId = taskId → call.isReset = false → call.token = some old →
      old ∈ usedTokens ((tasks.lookup taskId).bind TrainingTask.runToken).toList before →
      let s := exec step tasks (before ++ .resetForResume taskId token references now :: after)
      step s call = s) ∧
    (∀ calls call t t', (exec step tasks calls).lookup taskId = some t →
      (exec step tasks (calls ++ [call])).lookup taskId = some t' → t'.runToken ≠ t.runToken →
      (call.isReset = true ∧ t.status ∈ [.failed, .stopped] ∧ hasNoProcess t = true) ∨
        (t.runToken = none ∧ t.status = .pending ∧ t'.status = .preparing)) ∧
    (∀ calls processPid createTime runToken now t,
      (exec step tasks calls).lookup taskId = some t →
      (Call.registerTrainingProcess taskId processPid createTime runToken now).wins
        (exec step tasks calls) = true →
      hasNoProcess t = true ∨ t.processPid = some processPid ∧ t.processCreateTime = createTime) ∧
    (∀ before after t, (exec step tasks before).lookup taskId = some t →
      t.status ∈ terminalStatuses → (∀ call ∈ after, call.isOrdinary) →
      (∀ call ∈ after, call.taskId = taskId → call.isReset = false) →
      (∃ t', (exec step tasks (before ++ after)).lookup taskId = some t' ∧
        t'.status = t.status) ∧
      ∀ call : Call, call.taskId = taskId → call.endsOrRegisters = true →
        call.wins (exec step tasks (before ++ after)) = false) ∧
    (∀ calls (call : Call), call.taskId = taskId → call.endsAttempt = true →
      call.wins (exec step tasks calls) = true →
      ∃ t', (exec step tasks (calls ++ [call])).lookup taskId = some t' ∧
        t'.status ∈ terminalStatuses) := by
  refine ⟨?_, ?_, ?_, ?_, ?_⟩
  · intro before token references now after call old hfresh hwins hid hreset htoken hold
    have hfresh' := hfresh.append
    obtain ⟨hnew, hafter⟩ := hfresh'
    have hother : HasOtherToken
        (usedTokens ((tasks.lookup taskId).bind TrainingTask.runToken).toList before) taskId
        (step (exec step tasks before) (.resetForResume taskId token references now)) := by
      cases step_cases (exec step tasks before) (.resetForResume taskId token references now) with
      | lost hlost hstep =>
        rw [hwins] at hlost
        exact absurd hlost (by simp)
      | won t values hw hlookup hstep heffect =>
        refine ⟨keepId values t, token, ?_, heffect.2.2.2, hnew rfl token rfl⟩
        have hlookup' : (exec step tasks before).lookup taskId = some t := hlookup
        rw [hstep, Table.lookup_update]
        show (if taskId = taskId then _ else _) = _
        rw [if_pos rfl]
        show ((exec step tasks before).lookup taskId).map _ = _
        rw [hlookup']
        rfl
    have hrun := hother.exec (fun token hm => List.mem_append_right _ hm) hafter
    intro s
    have hs : s = exec step (step (exec step tasks before)
        (.resetForResume taskId token references now)) after := by
      show exec step tasks (before ++ _ :: after) = _
      rw [exec_append, exec_cons]
    rw [hs]
    exact hrun.step_eq hid hreset htoken hold
  · intro calls call t t' hl hl' hne
    rw [exec_append] at hl'
    rcases lookup_step hl call with ⟨hsame, -⟩ | ⟨t'', hl'', -, -, heffect⟩
    · have heq : t = t' := Option.some.inj (hsame.symm.trans hl')
      exact absurd (by rw [heq]) hne
    · have heq : t'' = t' := Option.some.inj (hl''.symm.trans hl')
      rw [heq] at heffect
      rcases heffect.token_changed hne with ⟨h1, h2, h3, -⟩ | ⟨h1, h2, h3, -⟩
      · exact Or.inl ⟨h1, h2, h3⟩
      · exact Or.inr ⟨h1, h2, h3⟩
  · intro calls processPid createTime runToken now t hl hwins
    rcases lookup_step hl (.registerTrainingProcess taskId processPid createTime runToken now) with
      ⟨-, hno⟩ | ⟨t', -, -, -, heffect⟩
    · rw [hno rfl] at hwins
      exact absurd hwins (by simp)
    · rcases heffect.2.2.1 with hnone | hsame
      · exact Or.inl hnone
      · exact Or.inr ⟨hsame.1, hsame.2.1⟩
  · intro before after t hl ht hord hreset
    obtain ⟨t', hl', hs'⟩ := terminal_exec hl ht hord hreset
    rw [exec_append]
    refine ⟨⟨t', hl', hs'⟩, fun call hid hends => ?_⟩
    exact wins_eq_false_of_terminal hl' (hs' ▸ ht) hid hends
  · intro calls call hid hends hwins
    rw [exec_append]
    exact terminal_of_wins hid hends hwins

def tokenlessTask : TrainingTask :=
  ⟨"a", none, .pending, 0, none, none, none, none, none, none, .null, none, .null, none, none, none,
    none, none, none, 0⟩

/-- The claim of a task without a token installs one while the task is pending. -/
theorem claim_installs_token :
    let tasks : Tasks := ⟨[tokenlessTask], List.nodup_singleton _⟩
    let tasks' := step tasks (.claimPreparing "a" "t" .available 0)
    (tasks.lookup "a").map (fun t => (t.runToken, t.status)) = some (none, .pending) ∧
      (tasks'.lookup "a").map (fun t => (t.runToken, t.status)) = some (some "t", .preparing) := by
  decide

end Training
