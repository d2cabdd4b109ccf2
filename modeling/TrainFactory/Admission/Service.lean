import TrainFactory.Lib.Dict
import TrainFactory.Lib.Table

/-!
# Background task admission

`BackgroundTaskAdmissionService`: the in-process registries of executing and deleting tasks, the
leases and guards that stand for their entries, the capacity check against the rows of the three
task tables, and `run_async` with its handshake between the waiter and the worker.

The service lock makes each registry operation one step. Releasing a lease is two: its own lock
covers the flag, the service lock the registry.
-/

namespace Admission

open Lib

/-! ## Rows -/

inductive TaskKind where
  | evaluation | generation | training
deriving DecidableEq

def TaskKind.value : TaskKind → String
  | .evaluation => "evaluation"
  | .generation => "generation"
  | .training => "training"

def TaskKind.parse (taskKind : String) : Option TaskKind :=
  [TaskKind.evaluation, .generation, .training].find? fun kind => kind.value = taskKind

/-- The statuses of the three kinds that count as active for one of them, and all others. -/
inductive TaskStatus where
  | pending | preparing | running | evaluating | stopping | publishing | recovering | restarting
  | inactive
deriving DecidableEq

/-- `_ACTIVE_STATUSES`, `_GENERATION_ACTIVE_STATUSES` and `_TRAINING_ACTIVE_STATUSES`. -/
def activeStatuses : TaskKind → List TaskStatus
  | .evaluation => [.pending, .running]
  | .generation => [.pending, .running, .stopping, .publishing, .recovering, .restarting]
  | .training => [.pending, .preparing, .running, .evaluating]

structure TaskRow where
  taskId : String
  userId : Option String
  status : TaskStatus

instance : Keyed TaskRow String := ⟨TaskRow.taskId⟩

@[simp] theorem key_taskRow (r : TaskRow) : Keyed.key r = r.taskId := rfl

abbrev TaskRows := TaskKind → Table TaskRow

/-- `f"{task_kind}:{task_id}"`. -/
def taskKey (kind : TaskKind) (taskId : String) : String := kind.value ++ ":" ++ taskId

def TaskRow.under (new old : TaskRow) : TaskRow := { new with taskId := old.taskId }

theorem key_under (new old : TaskRow) : Keyed.key (new.under old) = Keyed.key old := rfl

def writeRow (rows : TaskRows) (kind : TaskKind) (row : TaskRow) : TaskRows :=
  Function.update rows kind
    (match (rows kind).insert row with
      | some table => table
      | none => (rows kind).update row.taskId row.under (key_under row))

def TaskRow.withStatus (status : TaskStatus) (row : TaskRow) : TaskRow :=
  { row with status := status }

theorem key_withStatus (status : TaskStatus) (row : TaskRow) :
    Keyed.key (row.withStatus status) = Keyed.key row := rfl

def setStatus (rows : TaskRows) (kind : TaskKind) (taskId : String) (status : TaskStatus) :
    TaskRows :=
  Function.update rows kind
    ((rows kind).update taskId (TaskRow.withStatus status) (key_withStatus status))

/-! ## State -/

/-- A lease or a guard: `_released` is set first, the registry entry is removed after it. -/
inductive Phase where
  | held | releasing | released
deriving DecidableEq

/-- `BackgroundTaskExecutionLease`, `BackgroundTaskDeletionGuard`. -/
structure Handle where
  taskKey : String
  phase : Phase
deriving DecidableEq

/-- The future of a submission; `rejected` if `submit` was never reached. -/
inductive Future where
  | rejected | pending | running | cancelled | done
deriving DecidableEq

/-- A call of `run_async`: its lease, its future, and the two flags of the handshake. -/
structure AsyncRun where
  lease : Nat
  future : Future
  started : Bool
  abandoned : Bool
deriving DecidableEq

/-- A `BackgroundTaskAdmissionService`, the objects it has handed out, and the task rows. -/
structure Service where
  globalLimit : Nat
  perUserLimit : Nat
  executing : Dict String (Option String)
  deleting : Finset String
  asyncWorkersStopped : Bool
  leases : List Handle
  guards : List Handle
  runs : List AsyncRun
  rows : TaskRows

def Service.new (globalLimit perUserLimit : Nat) (rows : TaskRows) : Service :=
  ⟨globalLimit, perUserLimit, ∅, ∅, false, [], [], [], rows⟩

/-! ## Capacity -/

def activeEntries (rows : TaskRows) (kind : TaskKind) : List (String × Option String) :=
  ((rows kind).rows.filter fun r => r.status ∈ activeStatuses kind).map fun r =>
    (taskKey kind r.taskId, r.userId)

def activeTaskOwners (rows : TaskRows) : Dict String (Option String) :=
  (activeEntries rows .evaluation ++ activeEntries rows .generation ++
    activeEntries rows .training).foldl (fun owners entry => owners.insert entry.1 entry.2) ∅

/-- `owners.update(self._executing)`. -/
def Service.owners (s : Service) : Dict String (Option String) :=
  s.executing ∪ activeTaskOwners s.rows

inductive AdmissionError where
  | valueError (message : String)
  /-- `BackgroundTaskCapacityExceeded`. -/
  | capacityExceeded (message : String)
  /-- `BackgroundTaskAlreadyExecuting`. -/
  | alreadyExecuting (message : String)
  /-- What the admitted operation raises. -/
  | operation
deriving DecidableEq

def Service.assertCapacity (s : Service) (userId : Option String) : Except AdmissionError Unit :=
  let activeGlobal := s.owners.keys.length
  let activeUser := s.owners.countValue userId
  if s.globalLimit ≤ activeGlobal then
    .error (.capacityExceeded "Background task global active limit exceeded")
  else if s.perUserLimit ≤ activeUser then
    .error (.capacityExceeded "Background task per-user active limit exceeded")
  else .ok ()

/-! ## Admission -/

/-- What an admitted operation returns: it raises, is `False` or `None`, a dictionary with its
`task_id`, or anything else. -/
inductive OperationResult where
  | raised
  | refused
  | dict (taskId : Option String)
  | other
deriving DecidableEq

/-- An admitted operation: the row it writes, if any, and its result. -/
structure Operation where
  write : Option TaskRow
  result : OperationResult

def nonEmpty : Option String → Option String
  | some s => if s = "" then none else some s
  | none => none

def resolvedTaskId (requestedTaskId : Option String) (result : OperationResult) : Option String :=
  match requestedTaskId, result with
  | none, .dict taskId => nonEmpty taskId
  | requestedTaskId, _ => nonEmpty requestedTaskId

def Operation.rowsAfter (op : Operation) (rows : TaskRows) (kind : TaskKind) : TaskRows :=
  match op.write with
  | none => rows
  | some row => writeRow rows kind row

def Service.isBlocked (s : Service) (key : String) : Bool := key ∈ s.executing || key ∈ s.deleting

/-- The error of a task that is executing or being deleted. -/
def blockedError : AdmissionError :=
  .alreadyExecuting "Background task is already executing or being deleted"

/-- `admit_execution`: the index of the new lease, if the operation was not refused. -/
def Service.admitExecution (s : Service) (taskKind : String) (requestedTaskId : Option String)
    (admissionUserId : Option String) (op : Operation) :
    Except AdmissionError (Option Nat) × Service :=
  match TaskKind.parse taskKind with
  | none => (.error (.valueError ("Unsupported background task kind: " ++ taskKind)), s)
  | some kind =>
    if ((nonEmpty requestedTaskId).map (taskKey kind)).any s.isBlocked then
      (.error blockedError, s)
    else
      match s.assertCapacity admissionUserId with
      | .error e => (.error e, s)
      | .ok () =>
        let s := { s with rows := op.rowsAfter s.rows kind }
        match op.result with
        | .raised => (.error .operation, s)
        | .refused => (.ok none, s)
        | result =>
          match resolvedTaskId requestedTaskId result with
          | none =>
            (.error (.valueError "Admitted background operation did not return a task ID"), s)
          | some taskId =>
            let key := taskKey kind taskId
            if s.isBlocked key then (.error blockedError, s)
            else (.ok (some s.leases.length), { s with
              executing := s.executing.insert key admissionUserId
              leases := s.leases ++ [⟨key, .held⟩] })

/-- `begin_deletion`: the index of the new guard. -/
def Service.beginDeletion (s : Service) (taskKind taskId : String) :
    Except AdmissionError Nat × Service :=
  match TaskKind.parse taskKind with
  | none => (.error (.valueError ("Unsupported background task kind: " ++ taskKind)), s)
  | some kind =>
    let key := taskKey kind taskId
    if s.isBlocked key then (.error blockedError, s)
    else (.ok s.guards.length, { s with
      deleting := insert key s.deleting
      guards := s.guards ++ [⟨key, .held⟩] })

/-! ## Release -/

def setReleased (handles : List Handle) (i : Nat) : List Handle :=
  match handles[i]? with
  | some h => if h.phase = .held then handles.set i { h with phase := .releasing } else handles
  | none => handles

/-- The rest of `release`: the key whose registry entry goes. -/
def finishRelease (handles : List Handle) (i : Nat) : Option (String × List Handle) :=
  match handles[i]? with
  | some h =>
    if h.phase = .releasing then some (h.taskKey, handles.set i { h with phase := .released })
    else none
  | none => none

/-- `lease.release()`, up to the flag. -/
def Service.release (s : Service) (lease : Nat) : Service :=
  { s with leases := setReleased s.leases lease }

/-- `_finish_execution`, by the caller that set the flag of the lease. -/
def Service.finishExecution (s : Service) (lease : Nat) : Service :=
  match finishRelease s.leases lease with
  | none => s
  | some (key, leases) => { s with executing := s.executing.erase key, leases := leases }

/-- `guard.release()`, up to the flag. -/
def Service.releaseGuard (s : Service) (guard : Nat) : Service :=
  { s with guards := setReleased s.guards guard }

/-- `_finish_deletion`, by the caller that set the flag of the guard. -/
def Service.finishDeletion (s : Service) (guard : Nat) : Service :=
  match finishRelease s.guards guard with
  | none => s
  | some (key, guards) => { s with deleting := s.deleting.erase key, guards := guards }

/-! ## Workers -/

/-- The submission of `run_async`. -/
def Service.submit (s : Service) (lease : Nat) : Service :=
  let future := if s.asyncWorkersStopped then Future.rejected else .pending
  { s with runs := s.runs ++ [⟨lease, future, false, false⟩] }

/-- The pool cancels a future before a worker takes it; its callback releases the lease. -/
def Service.cancel (s : Service) (run : Nat) : Service :=
  match s.runs[run]? with
  | some r =>
    if r.future = .pending then
      { s with runs := s.runs.set run { r with future := .cancelled } }.release r.lease
    else s
  | none => s

/-- A worker takes the future. -/
def Service.take (s : Service) (run : Nat) : Service :=
  match s.runs[run]? with
  | some r =>
    if r.future = .pending then { s with runs := s.runs.set run { r with future := .running } }
    else s
  | none => s

def AsyncRun.starts (r : AsyncRun) : Bool := r.future = .running && !r.started && !r.abandoned

/-- The first lines of `execute`: an abandoned run returns, any other starts its operation. -/
def Service.enter (s : Service) (run : Nat) : Service :=
  match s.runs[run]? with
  | some r =>
    if r.future = .running ∧ r.started = false then
      if r.abandoned then { s with runs := s.runs.set run { r with future := .done } }
      else { s with runs := s.runs.set run { r with started := true } }
    else s
  | none => s

/-- The operation ends, and `execute` releases the lease. -/
def Service.exit (s : Service) (run : Nat) : Service :=
  match s.runs[run]? with
  | some r =>
    if r.future = .running ∧ r.started = true then
      { s with runs := s.runs.set run { r with future := .done } }.release r.lease
    else s
  | none => s

/-- The `finally` of `run_async`, when its waiter is done or cancelled. -/
def Service.leave (s : Service) (run : Nat) : Service :=
  match s.runs[run]? with
  | some r =>
    if r.started = false then
      { s with runs := s.runs.set run { r with abandoned := true } }.release r.lease
    else s
  | none => s

/-! ## Steps -/

/-- One step of any thread. -/
inductive Call where
  | admitExecution (taskKind : String) (requestedTaskId admissionUserId : Option String)
      (op : Operation)
  | beginDeletion (taskKind taskId : String)
  | release (lease : Nat)
  | finishExecution (lease : Nat)
  | releaseGuard (guard : Nat)
  | finishDeletion (guard : Nat)
  | runAsync (lease : Nat)
  | cancel (run : Nat)
  | take (run : Nat)
  | enter (run : Nat)
  | exit (run : Nat)
  | leave (run : Nat)
  | setWorkersStopped (stopped : Bool)
  /-- A row leaves the active statuses. -/
  | deactivate (kind : TaskKind) (taskId : String)

def Service.step (s : Service) : Call → Service
  | .admitExecution taskKind requestedTaskId admissionUserId op =>
    (s.admitExecution taskKind requestedTaskId admissionUserId op).2
  | .beginDeletion taskKind taskId => (s.beginDeletion taskKind taskId).2
  | .release lease => s.release lease
  | .finishExecution lease => s.finishExecution lease
  | .releaseGuard guard => s.releaseGuard guard
  | .finishDeletion guard => s.finishDeletion guard
  | .runAsync lease => s.submit lease
  | .cancel run => s.cancel run
  | .take run => s.take run
  | .enter run => s.enter run
  | .exit run => s.exit run
  | .leave run => s.leave run
  | .setWorkersStopped stopped => { s with asyncWorkersStopped := stopped }
  | .deactivate kind taskId => { s with rows := setStatus s.rows kind taskId .inactive }

end Admission
