import TrainFactory.Evaluation.TaskService
import TrainFactory.Lib.Result
import TrainFactory.Lib.Run

/-!
# Durable results

A successful result of a pair stays, or is replaced by another one: through every merge of results
whose model entries are dicts, and through every resume whose progress matrix has the pair.
-/

namespace Evaluation

open Lib

variable {task task' : EvaluationTask} {now : Nat}

def HasSuccess (task : EvaluationTask) (model dataset : String) : Prop :=
  isSuccessfulResult (pairEntry task.results model dataset) = true

def isCompleted (entry : Json) : Bool :=
  match entry.get? "status" with
  | some (.str status) => status = "completed"
  | _ => false

def Op.token : Op → Option (Option String)
  | .claimRunning _ runToken _ => runToken.map some
  | .updateStatus _ _ _ runToken => some runToken
  | .updateModelProgress _ _ _ _ _ _ runToken => some runToken
  | .saveModelDatasetResult _ _ _ runToken => some runToken
  | .savePartialResults _ runToken => some runToken
  | .completeTask _ _ _ _ runToken => some runToken
  | .cancelTask | .resetForResume .. => none

def Op.mints : Op → Option String
  | .claimRunning _ runToken _ => runToken
  | .resetForResume _ _ _ _ _ newRunToken => some newRunToken
  | _ => none

def attempts (task : EvaluationTask) (ops : List (Nat × Op)) : List (Option String) :=
  task.runToken :: events step (fun task op => [(step task op).runToken]) task ops

/-- What a step needs to keep the result of a pair: results have a dict for the model, if they have
an entry, and a resume is given, or finds, a matrix with the pair. -/
def Keeps (model dataset : String) (task : EvaluationTask) (op : Nat × Op) : Prop :=
  match op.2 with
  | .savePartialResults results _ | .completeTask _ results _ _ _ =>
    ∀ entry ∈ results.entries, entry.1 = model → entry.2.isObj = true
  | .resetForResume _ _ _ _ modelProgress _ =>
    (pairEntry (orStored modelProgress task.modelProgress) model dataset).isSome = true
  | _ => True

/-! ## Entries of pairs -/

theorem lookup_entries (value : Json) (key : String) : value.entries.lookup key = value.get? key := by
  cases value <;> rfl

theorem lookup_entries_getD (value : Option Json) (key : String) :
    (value.getD .null).entries.lookup key = value.bind fun v => v.get? key := by
  cases value with
  | none => rfl
  | some v => exact lookup_entries v key

theorem pairEntry_obj (models : List (String × Json)) (model dataset : String) :
    pairEntry (.obj models) model dataset =
      (models.lookup model).bind fun datasets => datasets.get? dataset := rfl

theorem pairEntry_entries (matrix : Json) (model dataset : String) :
    pairEntry (.obj matrix.entries) model dataset = pairEntry matrix model dataset := by
  rw [pairEntry_obj, lookup_entries]
  rfl

theorem pairEntry_setEntry_of_ne (models : List (String × Json)) {model model' : String}
    (dataset : String) (entry : Json) (hne : model ≠ model') :
    pairEntry (.obj (Json.setEntry models model' entry)) model dataset =
      pairEntry (.obj models) model dataset := by
  rw [pairEntry_obj, pairEntry_obj, Json.lookup_setEntry_of_ne models entry hne]

theorem pairEntry_setEntry_self (models datasets : List (String × Json)) (model dataset : String) :
    pairEntry (.obj (Json.setEntry models model (.obj datasets))) model dataset =
      datasets.lookup dataset := by
  rw [pairEntry_obj, Json.lookup_setEntry_self]
  rfl

/-! ## Merging -/

section Merge

variable {model dataset : String}

theorem mergeDataset_success {existing : List (String × Json)} {incoming : String × Json}
    (h : isSuccessfulResult (existing.lookup dataset) = true) :
    isSuccessfulResult ((mergeDataset existing incoming).lookup dataset) = true := by
  unfold mergeDataset
  split_ifs with hskip
  · exact h
  · by_cases hkey : dataset = incoming.1
    · subst hkey
      rw [Json.lookup_setEntry_self]
      simpa [h] using hskip
    · rw [Json.lookup_setEntry_of_ne _ _ hkey]
      exact h

theorem mergeDatasets_success {existing : List (String × Json)} (incoming : List (String × Json))
    (h : isSuccessfulResult (existing.lookup dataset) = true) :
    isSuccessfulResult ((incoming.foldl mergeDataset existing).lookup dataset) = true := by
  induction incoming generalizing existing with
  | nil => exact h
  | cons entry incoming ih => exact ih (mergeDataset_success h)

theorem mergeModel_success {merged : List (String × Json)} {incoming : String × Json}
    (hobj : incoming.1 = model → incoming.2.isObj = true)
    (h : isSuccessfulResult (pairEntry (.obj merged) model dataset) = true) :
    isSuccessfulResult (pairEntry (.obj (mergeModel merged incoming)) model dataset) = true := by
  obtain ⟨key, value⟩ := incoming
  by_cases hkey : key = model
  · subst hkey
    cases value with
    | obj datasets =>
      simp only [mergeModel]
      rw [pairEntry_setEntry_self]
      apply mergeDatasets_success
      rw [lookup_entries_getD]
      exact h
    | null => exact absurd (hobj rfl) Bool.false_ne_true
    | bool b => exact absurd (hobj rfl) Bool.false_ne_true
    | int n => exact absurd (hobj rfl) Bool.false_ne_true
    | float q => exact absurd (hobj rfl) Bool.false_ne_true
    | str s => exact absurd (hobj rfl) Bool.false_ne_true
    | arr xs => exact absurd (hobj rfl) Bool.false_ne_true
  · have hother : ∃ entry, mergeModel merged (key, value) = Json.setEntry merged key entry := by
      cases value <;> exact ⟨_, rfl⟩
    obtain ⟨entry, hentry⟩ := hother
    rw [hentry, pairEntry_setEntry_of_ne _ _ _ (Ne.symm hkey)]
    exact h

theorem mergeModels_success {merged : List (String × Json)} {incoming : List (String × Json)}
    (hobj : ∀ entry ∈ incoming, entry.1 = model → entry.2.isObj = true)
    (h : isSuccessfulResult (pairEntry (.obj merged) model dataset) = true) :
    isSuccessfulResult (pairEntry (.obj (incoming.foldl mergeModel merged)) model dataset) =
      true := by
  induction incoming generalizing merged with
  | nil => exact h
  | cons entry incoming ih =>
    apply ih fun entry' hentry' => hobj entry' (List.mem_cons_of_mem _ hentry')
    exact mergeModel_success (hobj entry (List.mem_cons_self ..)) h

theorem merge_success {existing incoming merged : Json}
    (hmerge : mergeEvaluationResults existing incoming = .ok merged)
    (hobj : ∀ entry ∈ incoming.entries, entry.1 = model → entry.2.isObj = true)
    (h : isSuccessfulResult (pairEntry existing model dataset) = true) :
    isSuccessfulResult (pairEntry merged model dataset) = true := by
  rw [← pairEntry_entries] at h
  cases incoming with
  | null =>
    obtain rfl := Except.ok.inj hmerge
    exact h
  | obj models =>
    obtain rfl := Except.ok.inj hmerge
    exact mergeModels_success hobj h
  | bool b => cases hmerge
  | int n => cases hmerge
  | float q => cases hmerge
  | str s => cases hmerge
  | arr xs => cases hmerge

theorem withResults_success {results : Json} (hres : withResults now task results = .ok task')
    (hobj : ∀ entry ∈ results.entries, entry.1 = model → entry.2.isObj = true)
    (h : HasSuccess task model dataset) : HasSuccess task' model dataset := by
  by_cases hnull : results = .null
  · subst hnull
    obtain rfl := Except.ok.inj hres
    exact h
  · have hbind : withResults now task results =
        (do
          let merged ← mergeEvaluationResults task.results results
          pure { task with results := merged, updatedAt := now }) := by
      cases results with
      | null => exact absurd rfl hnull
      | bool b => rfl
      | int n => rfl
      | float q => rfl
      | str s => rfl
      | arr xs => rfl
      | obj kvs => rfl
    rw [hbind] at hres
    obtain ⟨merged, hmerged, hres⟩ := bind_eq_ok.mp hres
    obtain rfl := pure_eq_ok.mp hres
    exact merge_success hmerged hobj h

theorem mergeDatasets_incoming {incoming : List (String × Json)} {existing : List (String × Json)}
    {result : Json} (hmem : (dataset, result) ∈ incoming)
    (hresult : isSuccessfulResult (some result) = true) :
    isSuccessfulResult ((incoming.foldl mergeDataset existing).lookup dataset) = true := by
  induction incoming generalizing existing with
  | nil => cases hmem
  | cons entry incoming ih =>
    rcases List.mem_cons.mp hmem with rfl | hmem
    · rw [List.foldl_cons]
      apply mergeDatasets_success
      simp [mergeDataset, hresult]
    · exact ih hmem

theorem mergeModels_incoming {incoming merged datasets : List (String × Json)} {result : Json}
    (hobj : ∀ entry ∈ incoming, entry.2.isObj = true) (hmem : (model, .obj datasets) ∈ incoming)
    (hdataset : (dataset, result) ∈ datasets) (hresult : isSuccessfulResult (some result) = true) :
    isSuccessfulResult (pairEntry (.obj (incoming.foldl mergeModel merged)) model dataset) =
      true := by
  induction incoming generalizing merged with
  | nil => cases hmem
  | cons entry incoming ih =>
    have hrest : ∀ entry ∈ incoming, entry.2.isObj = true :=
      fun entry' hentry' => hobj entry' (List.mem_cons_of_mem _ hentry')
    rcases List.mem_cons.mp hmem with rfl | hmem
    · have hhead : isSuccessfulResult
          (pairEntry (.obj (mergeModel merged (model, .obj datasets))) model dataset) = true := by
        simp only [mergeModel]
        rw [pairEntry_setEntry_self]
        exact mergeDatasets_incoming hdataset hresult
      rw [List.foldl_cons]
      exact mergeModels_success (fun entry' hentry' _ => hrest entry' hentry') hhead
    · exact ih hrest hmem

end Merge

/-! ## Resuming -/

section Resume

variable {model dataset : String}

theorem mem_entries_of_get? {value entry : Json} {key : String} (h : value.get? key = some entry) :
    (key, entry) ∈ value.entries := by
  rw [← lookup_entries] at h
  obtain ⟨before, after, hsplit, -⟩ := List.lookup_eq_some_iff.mp h
  rw [hsplit]
  simp

theorem lateSuccesses_isObj {results modelProgress : Json} :
    ∀ entry ∈ lateSuccesses results modelProgress, entry.2.isObj = true := by
  intro entry hentry
  obtain ⟨stored, -, hstored⟩ := List.mem_filterMap.mp hentry
  dsimp only at hstored
  split_ifs at hstored
  obtain rfl := Option.some.inj hstored
  rfl

theorem mem_lateSuccesses {results modelProgress : Json}
    (hpair : (pairEntry modelProgress model dataset).isSome = true)
    (hsuccess : isSuccessfulResult (pairEntry results model dataset) = true) :
    ∃ datasets result, (model, .obj datasets) ∈ lateSuccesses results modelProgress ∧
      (dataset, result) ∈ datasets ∧ isSuccessfulResult (some result) = true := by
  obtain ⟨entry, hentry⟩ := Option.isSome_iff_exists.mp hpair
  obtain ⟨stored, hstored, hdataset⟩ := Option.bind_eq_some_iff.mp hentry
  cases hresult : pairEntry results model dataset with
  | none =>
    rw [hresult] at hsuccess
    cases hsuccess
  | some result =>
    rw [hresult] at hsuccess
    have hlate : (dataset, result) ∈ lateDatasets results model stored := by
      refine List.mem_filterMap.mpr ⟨(dataset, entry), mem_entries_of_get? hdataset, ?_⟩
      simp only [lateSuccess, hresult, hsuccess, if_true]
    have hne : (lateDatasets results model stored).isEmpty = false := by
      rw [List.isEmpty_eq_false_iff]
      exact List.ne_nil_of_mem hlate
    refine ⟨lateDatasets results model stored, result, ?_, hlate, hsuccess⟩
    refine List.mem_filterMap.mpr ⟨(model, stored), mem_entries_of_get? hstored, ?_⟩
    simp only [hne, Bool.false_eq_true, if_false]

theorem resumeResults_success {results snapshotResults snapshotProgress persisted : Json}
    (hpersisted : resumeResults results snapshotResults snapshotProgress = .ok persisted)
    (hpair : (pairEntry snapshotProgress model dataset).isSome = true)
    (hsuccess : isSuccessfulResult (pairEntry results model dataset) = true) :
    isSuccessfulResult (pairEntry persisted model dataset) = true := by
  obtain ⟨datasets, result, hmem, hdataset, hresult⟩ := mem_lateSuccesses hpair hsuccess
  have hne : (lateSuccesses results snapshotProgress).isEmpty = false := by
    rw [List.isEmpty_eq_false_iff]
    exact List.ne_nil_of_mem hmem
  unfold resumeResults at hpersisted
  dsimp only at hpersisted
  rw [hne, if_neg Bool.false_ne_true] at hpersisted
  obtain rfl := Except.ok.inj hpersisted
  exact mergeModels_incoming lateSuccesses_isObj hmem hdataset hresult

theorem lookup_map_self {keys : List String} {f : String → Json} {key : String} :
    (keys.map fun k => (k, f k)).lookup key = if key ∈ keys then some (f key) else none := by
  induction keys with
  | nil => rfl
  | cons k keys ih =>
    rw [List.map_cons, List.lookup_cons]
    by_cases hk : key = k
    · subst hk
      simp
    · rw [beq_false_of_ne hk, ih]
      simp [hk]

theorem pairEntry_reconcile {results modelProgress entry : Json}
    (h : pairEntry (reconcileModelProgress results modelProgress) model dataset = some entry) :
    entry = reconciledEntry (isSuccessfulResult (pairEntry results model dataset)) := by
  unfold reconcileModelProgress at h
  dsimp only at h
  rw [pairEntry_obj, lookup_map_self] at h
  split_ifs at h
  · rw [Option.bind_some] at h
    unfold reconcileModel at h
    dsimp only [Json.get?] at h
    rw [lookup_map_self] at h
    split_ifs at h
    rw [← Option.some.inj h, lookup_entries_getD]
    rfl
  · cases h

theorem isCompleted_reconciledEntry (completed : Bool) :
    isCompleted (reconciledEntry completed) = completed := by
  cases completed <;> rfl

end Resume

/-! ## One transaction -/

section Step

variable {model dataset : String}

theorem claimRunning_results {available : Bool} {runToken : Option String} {legacy : String}
    (h : claimRunning now task available runToken legacy = .ok (some task')) :
    task'.results = task.results := by
  obtain ⟨-, h⟩ := ite_none_eq_ok.mp h
  obtain rfl := Option.some.inj (Except.ok.inj h)
  rfl

theorem cancelTask_results (h : cancelTask now task = .ok (some task')) :
    task'.results = task.results := by
  obtain ⟨-, h⟩ := ite_none_eq_ok.mp h
  obtain rfl := Option.some.inj (Except.ok.inj h)
  rfl

theorem updateStatus_results {available : Bool} {status : EvaluationStatus}
    {errorMessage runToken : Option String}
    (h : updateStatus now task available status errorMessage runToken = .ok (some task')) :
    task'.results = task.results := by
  unfold updateStatus at h
  by_cases htoken : task.runToken ≠ runToken
  · rw [if_pos htoken] at h
    cases Except.ok.inj h
  · rw [if_neg htoken] at h
    by_cases hrunning : status = .running
    · rw [if_pos hrunning] at h
      obtain ⟨-, h⟩ := ite_none_eq_ok.mp h
      obtain rfl := Option.some.inj (Except.ok.inj h)
      rfl
    · rw [if_neg hrunning] at h
      obtain ⟨-, h⟩ := ite_error_eq_ok.mp h
      obtain rfl := Option.some.inj (Except.ok.inj h)
      rfl

theorem updateModelProgress_results {model dataset status : String} {progress : Rat}
    {currentModel currentDataset runToken : Option String}
    (h : updateModelProgress now task model dataset progress status currentModel currentDataset
      runToken = .ok (some task')) : task'.results = task.results := by
  obtain ⟨-, h⟩ := ite_none_eq_ok.mp h
  obtain ⟨modelProgress, -, h⟩ := bind_eq_ok.mp h
  obtain rfl := Option.some.inj (pure_eq_ok.mp h)
  rfl

theorem saveModelDatasetResult_success {model' dataset' : String} {result : Json}
    {runToken : Option String}
    (h : saveModelDatasetResult now task model' dataset' result runToken = .ok (some task'))
    (hsuccess : HasSuccess task model dataset) : HasSuccess task' model dataset := by
  obtain ⟨hresult, h⟩ := ite_error_eq_ok.mp h
  obtain ⟨-, h⟩ := ite_none_eq_ok.mp h
  obtain rfl := Option.some.inj (Except.ok.inj h)
  show isSuccessfulResult (pairEntry (setPair task.results model' dataset' result) model dataset) =
    true
  unfold setPair
  dsimp only
  by_cases hmodel : model = model'
  · subst hmodel
    rw [pairEntry_setEntry_self]
    by_cases hdataset : dataset = dataset'
    · subst hdataset
      rw [Json.lookup_setEntry_self]
      exact not_not.mp hresult
    · rw [Json.lookup_setEntry_of_ne _ _ hdataset, lookup_entries_getD, lookup_entries]
      exact hsuccess
  · rw [pairEntry_setEntry_of_ne _ _ _ hmodel, pairEntry_entries]
    exact hsuccess

theorem savePartialResults_success {results : Json} {runToken : Option String}
    (h : savePartialResults now task results runToken = .ok (some task'))
    (hobj : ∀ entry ∈ results.entries, entry.1 = model → entry.2.isObj = true)
    (hsuccess : HasSuccess task model dataset) : HasSuccess task' model dataset := by
  obtain ⟨-, h⟩ := ite_none_eq_ok.mp h
  obtain ⟨merged, hmerged, h⟩ := bind_eq_ok.mp h
  obtain rfl := Option.some.inj (pure_eq_ok.mp h)
  exact withResults_success hmerged hobj hsuccess

theorem completeTask_success {status : EvaluationStatus} {results : Json}
    {reportPath errorMessage runToken : Option String}
    (h : completeTask now task status results reportPath errorMessage runToken = .ok (some task'))
    (hobj : ∀ entry ∈ results.entries, entry.1 = model → entry.2.isObj = true)
    (hsuccess : HasSuccess task model dataset) : HasSuccess task' model dataset := by
  obtain ⟨-, h⟩ := ite_error_eq_ok.mp h
  obtain ⟨-, h⟩ := ite_none_eq_ok.mp h
  obtain ⟨merged, hmerged, h⟩ := bind_eq_ok.mp h
  obtain rfl := Option.some.inj (pure_eq_ok.mp h)
  have hkept : HasSuccess merged model dataset := withResults_success hmerged hobj hsuccess
  exact hkept

/-- What a resume leaves: results that keep the successes of the supplied matrix, and the matrix that
is reconciled with them. -/
theorem resetForResume_spec {available : Bool}
    {modelConfigs datasetConfigs results modelProgress : Option Json} {newRunToken : String}
    (h : resetForResume now task available modelConfigs datasetConfigs results modelProgress
      newRunToken = .ok (some task')) :
    resumeResults task.results (orStored results task.results)
        (orStored modelProgress task.modelProgress) = .ok task'.results ∧
      task'.modelProgress =
        reconcileModelProgress task'.results (orStored modelProgress task.modelProgress) := by
  obtain ⟨-, h⟩ := ite_none_eq_ok.mp h
  obtain ⟨persisted, hpersisted, h⟩ := bind_eq_ok.mp h
  obtain rfl := Option.some.inj (pure_eq_ok.mp h)
  exact ⟨hpersisted, rfl⟩

theorem run_success {op : Op} (h : op.run now task = .ok (some task'))
    (hkeeps : Keeps model dataset task (now, op)) (hsuccess : HasSuccess task model dataset) :
    HasSuccess task' model dataset := by
  have hsame : ∀ {task'' : EvaluationTask}, task''.results = task.results →
      HasSuccess task'' model dataset := by
    intro task'' hresults
    unfold HasSuccess
    rw [hresults]
    exact hsuccess
  cases op with
  | claimRunning available runToken legacy => exact hsame (claimRunning_results h)
  | updateStatus available status errorMessage runToken => exact hsame (updateStatus_results h)
  | updateModelProgress model' dataset' progress status currentModel currentDataset runToken =>
    exact hsame (updateModelProgress_results h)
  | saveModelDatasetResult model' dataset' result runToken =>
    exact saveModelDatasetResult_success h hsuccess
  | savePartialResults results runToken => exact savePartialResults_success h hkeeps hsuccess
  | completeTask status results reportPath errorMessage runToken =>
    exact completeTask_success h hkeeps hsuccess
  | cancelTask => exact hsame (cancelTask_results h)
  | resetForResume available modelConfigs datasetConfigs results modelProgress newRunToken =>
    obtain ⟨hresults, -⟩ := resetForResume_spec h
    exact resumeResults_success hresults hkeeps hsuccess

theorem step_cases (task : EvaluationTask) (op : Nat × Op) :
    step task op = task ∨ op.2.run op.1 task = .ok (some (step task op)) := by
  unfold step
  split
  · next h => exact Or.inr h
  · exact Or.inl rfl

theorem step_success {op : Nat × Op} (hsuccess : HasSuccess task model dataset)
    (hkeeps : Keeps model dataset task op) : HasSuccess (step task op) model dataset := by
  rcases step_cases task op with hsame | hrun
  · rw [hsame]
    exact hsuccess
  · exact run_success hrun hkeeps hsuccess

end Step

/-! ## Superseded attempts -/

theorem isCurrentAttempt_eq_false {runToken : Option String} (h : runToken ≠ task.runToken) :
    isCurrentAttempt task runToken = false := by
  simp [isCurrentAttempt, Ne.symm h]

/-- A transaction with the token of another attempt does not change the row, unless it starts an
attempt. -/
theorem step_of_other_token {op : Op} {token : Option String} (htoken : op.token = some token)
    (hother : token ≠ task.runToken) (hstarts : op.mints = none) : step task (now, op) = task := by
  have hnot : ¬ task.runToken = token := fun h => hother h.symm
  have hattempt := isCurrentAttempt_eq_false hother
  cases op with
  | claimRunning available runToken legacy =>
    simp only [Op.mints] at hstarts
    simp [Op.token, hstarts] at htoken
  | updateStatus available status errorMessage runToken =>
    obtain rfl := Option.some.inj htoken
    simp [step, Op.run, updateStatus, hnot]
  | updateModelProgress model dataset progress status currentModel currentDataset runToken =>
    obtain rfl := Option.some.inj htoken
    simp [step, Op.run, updateModelProgress, hattempt]
  | saveModelDatasetResult model dataset result runToken =>
    obtain rfl := Option.some.inj htoken
    by_cases hresult : isSuccessfulResult (some result) = true <;>
      simp [step, Op.run, saveModelDatasetResult, hattempt, hresult]
  | savePartialResults results runToken =>
    obtain rfl := Option.some.inj htoken
    simp [step, Op.run, savePartialResults, hnot]
  | completeTask status results reportPath errorMessage runToken =>
    obtain rfl := Option.some.inj htoken
    by_cases hstatus : status ≠ .succeeded ∧ status ≠ .failed <;>
      simp [step, Op.run, completeTask, hattempt, hstatus]
  | cancelTask => cases htoken
  | resetForResume available modelConfigs datasetConfigs results modelProgress newRunToken =>
    cases htoken

/-- Through every run, from any row:
a pair that has a durable success keeps one, as long as merged results have dicts for its model and
resumes are given matrices with the pair;
a transaction with the token of an attempt that is superseded changes nothing, if new attempts get
new tokens;
after a resume, a pair of the matrix is completed exactly if it has a durable success. -/
theorem results_durable :
    (∀ (task : EvaluationTask) (ops : List (Nat × Op)) (model dataset : String),
      HasSuccess task model dataset → Admits step (Keeps model dataset) task ops →
        HasSuccess (exec step task ops) model dataset) ∧
    (∀ (task : EvaluationTask) (ops : List (Nat × Op)) (now : Nat) (op : Op)
      (token : Option String), op.token = some token → token ∈ attempts task ops →
        token ≠ (exec step task ops).runToken →
        (∀ minted, op.mints = some minted → some minted ∉ attempts task ops) →
          step (exec step task ops) (now, op) = exec step task ops) ∧
    (∀ (task : EvaluationTask) (now : Nat) (available : Bool)
      (modelConfigs datasetConfigs results modelProgress : Option Json) (newRunToken : String)
      (task' : EvaluationTask), resetForResume now task available modelConfigs datasetConfigs
        results modelProgress newRunToken = .ok (some task') →
        ∀ model dataset entry, pairEntry task'.modelProgress model dataset = some entry →
          (isCompleted entry = true ↔ HasSuccess task' model dataset)) := by
  refine ⟨?_, ?_, ?_⟩
  · intro task ops model dataset hsuccess hkeeps
    have hstep : ∀ task op, HasSuccess task model dataset → Keeps model dataset task op →
        HasSuccess (step task op) model dataset :=
      fun _ _ h hk => step_success h hk
    exact exec_invariant hstep hsuccess hkeeps
  · intro task ops now op token htoken hattempt hother hfresh
    apply step_of_other_token htoken hother
    cases hmints : op.mints with
    | none => rfl
    | some minted =>
      -- only a claim carries the token that it mints
      exfalso
      cases op with
      | claimRunning available runToken legacy =>
        simp only [Op.mints] at hmints
        simp only [Op.token, hmints, Option.map_some, Option.some.injEq] at htoken
        exact hfresh minted hmints (htoken ▸ hattempt)
      | resetForResume _ _ _ _ _ _ => cases htoken
      | updateStatus _ _ _ _ => cases hmints
      | updateModelProgress _ _ _ _ _ _ _ => cases hmints
      | saveModelDatasetResult _ _ _ _ => cases hmints
      | savePartialResults _ _ => cases hmints
      | completeTask _ _ _ _ _ => cases hmints
      | cancelTask => cases hmints
  · intro task now available modelConfigs datasetConfigs results modelProgress newRunToken task' h
      model dataset entry hentry
    obtain ⟨-, hmatrix⟩ := resetForResume_spec h
    rw [hmatrix] at hentry
    rw [pairEntry_reconcile hentry, isCompleted_reconciledEntry]
    rfl

/-! ## A resume with an older snapshot -/

def newTask : EvaluationTask where
  modelConfigs := .null
  datasetConfigs := .null
  status := .pending
  runToken := some "t0"
  progress := 0
  currentModel := none
  currentDataset := none
  errorMessage := none
  modelProgress := .null
  results := .null
  resultsPath := none
  updatedAt := 0
  startedAt := none
  completedAt := none

def emptyAttempt : List (Nat × Op) :=
  [(1, .claimRunning true (some "t1") "t0"), (2, .savePartialResults (.obj []) (some "t1")),
    (3, .cancelTask), (4, .resetForResume true none none none none "t2")]

def pairAttempt : List (Nat × Op) :=
  [(5, .claimRunning true (some "t3") "t2"),
    (6, .saveModelDatasetResult "m" "d" (.obj [("ndcg", .int 1)]) (some "t3")), (7, .cancelTask)]

def staleResume : Nat × Op := (8, .resetForResume true none none (some (.obj [])) (some (.obj [])) "t4")

/-- A resume with a snapshot that was read before a pair was in the matrix loses its result. -/
theorem stale_resume_loses_result :
    (exec step newTask emptyAttempt).results = .obj [] ∧
      (exec step newTask emptyAttempt).modelProgress = .obj [] ∧
      HasSuccess (exec step newTask (emptyAttempt ++ pairAttempt)) "m" "d" ∧
      (pairEntry (exec step newTask (emptyAttempt ++ pairAttempt)).modelProgress "m" "d").isSome ∧
      ¬ HasSuccess (exec step newTask (emptyAttempt ++ pairAttempt ++ [staleResume])) "m" "d" := by
  refine ⟨rfl, rfl, rfl, rfl, ?_⟩
  intro h
  cases h

def resumed : EvaluationTask :=
  exec step newTask (emptyAttempt ++ pairAttempt ++
    [(8, .resetForResume true none none (some (.obj []))
      (some (.obj [("m", .obj [("d", progressEntry 0 "running")])])) "t4")])

/-- A resume with a snapshot that has the pair keeps its result and completes the pair, and the first
attempt changes nothing any more. -/
theorem resume_keeps_result :
    HasSuccess resumed "m" "d" ∧
      step (exec step newTask emptyAttempt) (9, .savePartialResults (.obj [("m", .null)]) (some "t1")) =
        exec step newTask emptyAttempt ∧
      (isCompleted (progressEntry 100 "completed") = true ↔ HasSuccess resumed "m" "d") := by
  refine ⟨?_, ?_, ?_⟩
  · exact results_durable.1 (exec step newTask (emptyAttempt ++ pairAttempt))
      [(8, .resetForResume true none none (some (.obj []))
        (some (.obj [("m", .obj [("d", progressEntry 0 "running")])])) "t4")] "m" "d" rfl
      ⟨rfl, trivial⟩
  · have hattempt : some "t1" ∈ attempts newTask emptyAttempt :=
      List.mem_cons_of_mem _ (List.mem_cons_self ..)
    exact results_durable.2.1 newTask emptyAttempt 9 _ (some "t1") rfl hattempt (by decide)
      (fun minted h => by cases h)
  · exact results_durable.2.2 (exec step newTask (emptyAttempt ++ pairAttempt)) 8 true none none
      (some (.obj [])) (some (.obj [("m", .obj [("d", progressEntry 0 "running")])])) "t4" resumed
      rfl "m" "d" _ rfl

end Evaluation
