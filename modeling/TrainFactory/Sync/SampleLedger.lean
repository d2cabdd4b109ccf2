import TrainFactory.Sync.Operations

/-!
# The sample ledger

What the claim protocol is for, as a ledger: generations credit samples to beneficiaries, trainings
claim what is pending, and a claim is consumed or restored. The credits and the reconciliations of a
run are the histories its operations emit; the database holds the counters.
-/

namespace Sync

open Lib

inductive OutputKind where
  | final | qa
  deriving DecidableEq, Repr

inductive Beneficiary where
  | task (taskId : String)
  | target (targetId : String)
  deriving DecidableEq, Repr

structure Credit where
  generationTaskId : String
  kind : OutputKind
  beneficiary : Beneficiary
  amount : Int

def Credit.key (c : Credit) : String × OutputKind × Beneficiary :=
  (c.generationTaskId, c.kind, c.beneficiary)

def creditedTo (ledger : List Credit) (b : Beneficiary) : Int :=
  ((ledger.filter fun c => c.beneficiary = b).map Credit.amount).sum

def targetCredits (db : Database) (generationTaskId : String) (kind : OutputKind)
    (taskId phase : String) (count : Int) : List Credit :=
  (db.targets.select (·.isEligible taskId phase)).map fun t =>
    { generationTaskId := generationTaskId, kind := kind, beneficiary := .target t.targetId
      amount := count }

def finalCredits (db : Database) (g : ExternalSyncGeneration) (outputDatasetId : Option String)
    (count : Int) : List Credit :=
  if truthy outputDatasetId ∧ count > 0 then
    if db.targetsOf g.taskId ≠ [] then
      targetCredits db g.generationTaskId .final g.taskId "final" count
    else
      [{ generationTaskId := g.generationTaskId, kind := .final, beneficiary := .task g.taskId
         amount := count }]
  else []

def qaCredits (db : Database) (g : ExternalSyncGeneration) (qaDatasetId : Option String)
    (count : Int) : List Credit :=
  if truthy qaDatasetId ∧ count > 0 then
    targetCredits db g.generationTaskId .qa g.taskId "qa" count
  else []

def Op.credits (db : Database) : Op → List Credit
  | .completeGenerationAndConsumeBatches now generationTaskId outputDatasetId outputSampleCount =>
    match Sync.completeGenerationAndConsumeBatches now generationTaskId outputDatasetId
        outputSampleCount db, db.generations.lookup generationTaskId with
    | .ok (result, _), some g =>
      if result.completed then
        finalCredits db g outputDatasetId (max outputSampleCount 0) ++
          qaCredits db g g.qaDatasetId (max g.qaSampleCount 0)
      else []
    | _, _ => []
  | .updateGenerationQaOutput generationTaskId qaDatasetId qaSampleCount =>
    match Sync.updateGenerationQaOutput generationTaskId qaDatasetId qaSampleCount db,
        db.generations.lookup generationTaskId with
    | .ok (result, _), some g =>
      if result.recorded ∧ g.status = .completed then
        qaCredits db g qaDatasetId (max qaSampleCount 0)
      else []
    | _, _ => []
  | _ => []

def ExternalSyncTraining.beneficiary (t : ExternalSyncTraining) : Beneficiary :=
  if truthy t.targetId then .target (t.targetId.getD "") else .task t.taskId

def Database.openClaims (db : Database) (b : Beneficiary) : Int :=
  db.trainings.sumBy fun t =>
    if t.beneficiary = b ∧ t.claimReconciled = false then t.claimedSampleCount else 0

def Database.consumedClaims (db : Database) (b : Beneficiary) : Int :=
  db.trainings.sumBy fun t =>
    if t.beneficiary = b ∧ t.claimReconciled = true ∧ t.status ≠ .failed then t.claimedSampleCount
    else 0

def Op.reconciles (db : Database) : Op → List String
  | .completeTrainingClaim now trainingTaskId =>
    match Sync.completeTrainingClaim now trainingTaskId db with
    | .ok (result, _) => if result.completed then [trainingTaskId] else []
    | .error _ => []
  | .failTrainingAndRestoreClaim now trainingTaskId reason =>
    match Sync.failTrainingAndRestoreClaim now trainingTaskId reason db with
    | .ok (result, _) => if result.recovered then [trainingTaskId] else []
    | .error _ => []
  | _ => []

def Op.isReconciliation : Op → Bool
  | .completeTrainingClaim .. | .failTrainingAndRestoreClaim .. => true
  | _ => false

/-- The operation leaves the targets of the tasks, the sample counters and the statuses of trainings
to the claim protocol. -/
def Op.keepsSamples : Op → Prop
  | .toggleGenerationDisabled .. => False
  | .recalculateSampleCounters _ => False
  | .updateTrainingStatus .. => False
  | .createTrainingTarget .. => False
  | .migrateLegacyTrainingTarget .. => False
  | .updateTask _ args => args.trainingTargets = none
  | _ => True

def creditLedger (env : Env) (db : Database) (ops : List Op) : List Credit :=
  events (Op.apply env) Op.credits db ops

/-- The trainings whose claims a run reconciles, in order. -/
def reconciliations (env : Env) (db : Database) (ops : List Op) : List String :=
  events (Op.apply env) Op.reconciles db ops

end Sync
