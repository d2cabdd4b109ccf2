import TrainFactory.Sync.Proofs.IngestionProofs

/-!
# Proofs: aborted cycles lose no record

A cycle writes its file, then its batch row, then the position. Wherever it is cut off, the boundary
holds only keys of records that are in the file of a batch row, so what is in no batch is not in the
boundary and the next complete cycle takes it in.
-/

namespace Sync

open Lib

variable {py : Stdlib} {env : Env} {taskId : String} {w w' : World}

def Stored (py : Stdlib) (taskId : String) (w : World) (key : String) : Prop :=
  ∃ b ∈ w.db.batches, b.taskId = taskId ∧ ∃ docs, w.files b.storagePath = some docs ∧
    ∃ item, itemDedupKey py item = key ∧ batchDocument py item ∈ docs

/-- A step of a run in which cycles may be cut off anywhere. The digests of batch files do not
collide. -/
def Interruptible (py : Stdlib) (env : Env) (taskId : String) (w : World) : CycleStep → Prop
  | .service op => op.keepsPosition
  | .cycle input => ∀ plan batch isNew advanced,
      (runCycle py env taskId input w).1 = .recorded plan batch isNew advanced →
      CollisionFree py w.files (plan.documents py)

/-- The boundary of the task holds hashed keys of stored records. -/
structure RecoveryInv (py : Stdlib) (taskId : String) (w : World) : Prop where
  stored : ∀ config, w.db.tasks.lookup taskId = some config →
    ∀ k ∈ config.lastSyncBoundaryIds, Stored py taskId w k
  hashed : ∀ config, w.db.tasks.lookup taskId = some config →
    ∀ k ∈ config.lastSyncBoundaryIds, isHashedKey k = true

theorem Stored.mono {key : String} (hbatches : BatchesKept w.db.batches w'.db.batches)
    (hfiles : FilesKept w.files w'.files) (h : Stored py taskId w key) :
    Stored py taskId w' key := by
  obtain ⟨b, hb, hid, docs, hdocs, hitem⟩ := h
  obtain ⟨b', hb', -, hplace⟩ := hbatches b hb
  have htask : b'.taskId = b.taskId := congrArg Prod.fst hplace
  have hpath : b'.storagePath = b.storagePath := congrArg Prod.snd hplace
  refine ⟨b', hb', htask.trans hid, docs, ?_, hitem⟩
  rw [hpath]
  exact hfiles _ docs hdocs

theorem RecoveryInv.of_keeps (hI : RecoveryInv py taskId w) (h : Keeps w w') :
    RecoveryInv py taskId w' where
  stored config hconfig k hk := by
    obtain ⟨config₀, hconfig₀, hpos⟩ := h.position.lookup hconfig
    obtain ⟨-, -, hboundary⟩ := @position_eq py _ _ hpos
    rw [← hboundary] at hk
    exact (hI.stored config₀ hconfig₀ k hk).mono h.batches h.files
  hashed config hconfig k hk := by
    obtain ⟨config₀, hconfig₀, hpos⟩ := h.position.lookup hconfig
    obtain ⟨-, -, hboundary⟩ := @position_eq py _ _ hpos
    rw [← hboundary] at hk
    exact hI.hashed config₀ hconfig₀ k hk

theorem Records.stored {plan : CyclePlan} {batch : ExternalSyncBatch}
    (h : Records py taskId plan batch w w') (hcollision : CollisionFree py w.files
      (plan.documents py)) {item : Json} (hitem : item ∈ plan.items) :
    Stored py taskId w' (itemDedupKey py item) := by
  obtain ⟨b, hb, hplace⟩ := h.row
  have htask : b.taskId = taskId := congrArg Prod.fst hplace
  have hpath : b.storagePath = batch.storagePath := congrArg Prod.snd hplace
  refine ⟨b, hb, htask, plan.documents py, ?_, item, rfl, ?_⟩
  · rw [hpath]
    exact h.documents hcollision
  · exact List.mem_map.mpr ⟨item, hitem, rfl⟩

theorem RecoveryInv.step (hI : RecoveryInv py taskId w) (s : CycleStep)
    (hs : Interruptible py env taskId w s) : RecoveryInv py taskId (w.step py env taskId s) := by
  cases s with
  | service op =>
    have hop : op.keepsPosition := hs
    exact hI.of_keeps ⟨hop.samePosition, hop.batchesKept, .refl _⟩
  | cycle input =>
    have hcollision : ∀ plan batch isNew advanced,
        (runCycle py env taskId input w).1 = .recorded plan batch isNew advanced →
        CollisionFree py w.files (plan.documents py) := hs
    simp only [World.step]
    generalize hresult : runCycle py env taskId input w = result at hcollision
    have hmove := @runCycle_move py env taskId input w
    rw [hresult] at hmove
    cases hmove with
    | quiet hquiet hkeeps => exact hI.of_keeps hkeeps
    | idle hplan hkeeps => exact hI.of_keeps hkeeps
    | stopped hplan hrecords hposition =>
      exact hI.of_keeps ⟨hposition, hrecords.batches, hrecords.files⟩
    | @advanced plan batch isNew w' config since validated hplan hrecords hposition =>
      have hfree := hcollision plan batch isNew true rfl
      have hhash := hI.hashed config hplan.lookup
      obtain ⟨c, -, hadv, hhash'⟩ :=
        planCycle_advance hplan.plan_eq hplan.since_eq hhash hplan.times
      have hboundary : ∀ config', w'.db.tasks.lookup taskId = some config' →
          config'.lastSyncBoundaryIds = plan.boundaryIds :=
        fun config' hconfig' => congrArg (fun p => p.2.1) (hposition config' hconfig')
      refine ⟨?_, ?_⟩
      · intro config' hconfig' k hk
        rw [hboundary config' hconfig'] at hk
        -- a key is in the new boundary because it was in the old one, or because the plan saves it
        rcases hadv.boundary_subset hk with hk | ⟨item, hitem, hfresh, rfl⟩
        · exact (hI.stored config hplan.lookup k hk).mono hrecords.batches hrecords.files
        · have hsaved : item ∈ plan.items := by
            rw [(planCycle_eq_some hplan.plan_eq).1]
            exact (mem_newItems hplan.since_eq hhash hplan.times item).mpr ⟨hitem, hfresh⟩
          exact hrecords.stored hfree hsaved
      · intro config' hconfig' k hk
        rw [hboundary config' hconfig'] at hk
        exact hhash' k hk

theorem RecoveryInv.saves (hI : RecoveryInv py taskId w) {input : CycleInput}
    (hs : Interruptible py env taskId w (.cycle input)) {config : ExternalSyncTask}
    (hconfig : w.db.tasks.lookup taskId = some config) {items : List Json}
    (hresponse : input.response = .ok (.arr items))
    (hcomplete : (runCycle py env taskId input w).1.isComplete = true) {item : Json}
    (hitem : item ∈ firstCopies (itemDedupKey py) items) (hwindow : config.inWindow py item = true)
    (hlost : ¬ Stored py taskId w (itemDedupKey py item)) :
    ∃ plan batch isNew, (runCycle py env taskId input w).1 = .recorded plan batch isNew true ∧
      item ∈ plan.items ∧
      (runCycle py env taskId input w).2.files batch.storagePath = some (plan.documents py) := by
  have hnew : ∀ {config' since validated plan},
      Planned py env taskId input w config' since validated plan →
      item ∈ newItems py config' since validated := by
    intro config' since validated plan hplan
    obtain rfl : config' = config := Option.some.inj (hplan.lookup.symm.trans hconfig)
    obtain ⟨items', hresponse', rfl, -⟩ := hplan.validated_eq
    obtain rfl : items' = items := by
      have := hresponse'.symm.trans hresponse
      simpa using this
    rw [Sync.newItems_eq hplan.since_eq (hI.hashed config' hconfig), List.mem_filter,
      Bool.and_eq_true, decide_eq_true_eq]
    exact ⟨hitem, hwindow, fun hk => hlost (hI.stored config' hconfig _ hk)⟩
  have hcollision : ∀ plan batch isNew advanced,
      (runCycle py env taskId input w).1 = .recorded plan batch isNew advanced →
      CollisionFree py w.files (plan.documents py) := hs
  generalize hresult : runCycle py env taskId input w = result at hcomplete hcollision
  have hmove := @runCycle_move py env taskId input w
  rw [hresult] at hmove
  cases hmove with
  | quiet hquiet hkeeps =>
    rw [isComplete_of_isQuiet hquiet] at hcomplete
    cases hcomplete
  | idle hplan hkeeps =>
    have hmem := hnew hplan
    rw [planCycle_eq_none hplan.plan_eq] at hmem
    cases hmem
  | stopped hplan hrecords hposition => cases hcomplete
  | @advanced plan batch isNew w' config' since validated hplan hrecords hposition =>
    refine ⟨plan, batch, isNew, rfl, ?_, ?_⟩
    · rw [(planCycle_eq_some hplan.plan_eq).1]
      exact hnew hplan
    · exact hrecords.documents (hcollision plan batch isNew true rfl)

/-- No record is lost: in every run of cycles that may be cut off anywhere, of a task that starts
without a boundary, every key of the boundary belongs to a record in the file of a batch row; a cycle
that gets a batch, new or not, leaves it with exactly the records of the file it wrote; and a returned
record in the window that is in no batch is saved by the next complete cycle. -/
theorem no_record_lost (py : Stdlib) (env : Env) (taskId : String) (w : World)
    (steps : List CycleStep)
    (hnew : ∀ config, w.db.tasks.lookup taskId = some config → config.lastSyncBoundaryIds = [])
    (hok : Admits (World.step py env taskId) (Interruptible py env taskId) w steps) :
    let w' := exec (World.step py env taskId) w steps
    (∀ config, w'.db.tasks.lookup taskId = some config →
      ∀ k ∈ config.lastSyncBoundaryIds, Stored py taskId w' k) ∧
    ∀ input, Interruptible py env taskId w' (.cycle input) →
      (∀ plan batch isNew advanced,
        (runCycle py env taskId input w').1 = .recorded plan batch isNew advanced →
        (runCycle py env taskId input w').2.files batch.storagePath = some (plan.documents py)) ∧
      ∀ config items item, w'.db.tasks.lookup taskId = some config →
        input.response = .ok (.arr items) →
        (runCycle py env taskId input w').1.isComplete = true →
        item ∈ firstCopies (itemDedupKey py) items → config.inWindow py item = true →
        ¬ Stored py taskId w' (itemDedupKey py item) →
        ∃ plan batch isNew, (runCycle py env taskId input w').1 = .recorded plan batch isNew true ∧
          item ∈ plan.items ∧
          (runCycle py env taskId input w').2.files batch.storagePath =
            some (plan.documents py) := by
  have hinit : RecoveryInv py taskId w := by
    refine ⟨?_, ?_⟩ <;> intro config hconfig k hk <;> rw [hnew config hconfig] at hk <;> cases hk
  have hrun : RecoveryInv py taskId (exec (World.step py env taskId) w steps) :=
    exec_invariant (fun w s hI hs => hI.step s hs) hinit hok
  refine ⟨hrun.stored, fun input hinput => ⟨?_, ?_⟩⟩
  · intro plan batch isNew advanced houtcome
    exact recorded_documents houtcome (hinput plan batch isNew advanced houtcome)
  · intro config items item hconfig hresponse hcomplete hitem hwindow hlost
    exact hrun.saves hinput hconfig hresponse hcomplete hitem hwindow hlost

def cutOffHello : CycleInput where
  response := .ok (.arr [helloRecord])
  now := 63839664001000000
  batchFile := "first.jsonl"
  batchId := "first"
  abort := some .created

/-- A cycle is cut off after `create_batch`, the next one finds its batch and moves the position: the
boundary holds the key of the record, which is in the batch of the first. -/
theorem no_record_lost_first :
    let w := exec (World.step oneRecord defaultEnv "task") newWorld
      [.cycle cutOffHello, fetchHello "second.jsonl" "second"]
    (w.db.batches.rows.map ExternalSyncBatch.batchId = ["first"] ∧
      (w.db.tasks.lookup "task").any (fun config =>
        config.lastSyncBoundaryIds = [itemDedupKey oneRecord helloRecord]) = true) ∧
    Stored oneRecord "task" w (itemDedupKey oneRecord helloRecord) := by
  have hend : (exec (World.step oneRecord defaultEnv "task") newWorld
      [.cycle cutOffHello, fetchHello "second.jsonl" "second"]).db.batches.rows.map
        ExternalSyncBatch.batchId = ["first"] ∧
      ((exec (World.step oneRecord defaultEnv "task") newWorld
        [.cycle cutOffHello, fetchHello "second.jsonl" "second"]).db.tasks.lookup "task").any
          (fun config => config.lastSyncBoundaryIds = [itemDedupKey oneRecord helloRecord]) =
        true := by
    decide +kernel
  refine ⟨hend, ?_⟩
  obtain ⟨config, hconfig, hids⟩ := (Option.any_eq_true _ _).mp hend.2
  rw [decide_eq_true_eq] at hids
  refine (no_record_lost oneRecord defaultEnv "task" newWorld
    [.cycle cutOffHello, fetchHello "second.jsonl" "second"] ?_ ?_).1 config hconfig _
      (by rw [hids]; exact List.mem_singleton.mpr rfl)
  · intro config hconfig
    obtain rfl : newTask = config := Option.some.inj hconfig
    rfl
  refine ⟨?_, ?_, trivial⟩
  · intro plan batch isNew advanced houtcome path docs hdocs
    cases hdocs
  · -- the file of the first cycle holds the document of the second
    intro plan batch isNew advanced houtcome path docs hdocs hdigest
    have hhello : ∀ {w input config since validated plan},
        input.response = .ok (.arr [helloRecord]) →
        Planned oneRecord defaultEnv "task" input w config since validated (some plan) →
        plan.documents oneRecord = [batchDocument oneRecord helloRecord] := by
      intro w input config since validated plan hresponse hplan
      obtain ⟨hsub, hne⟩ := hplan.items_sublist hresponse
      have hitems : plan.items = [helloRecord] := (List.sublist_singleton.mp hsub).resolve_left hne
      rw [CyclePlan.documents, hitems]
      rfl
    obtain ⟨config, since, validated, hplan, -⟩ := runCycle_recorded houtcome
    rw [hhello rfl hplan]
    rcases runCycle_files hdocs with h | ⟨-, config₁, since₁, validated₁, plan₁, hplan₁, rfl⟩
    · cases h
    · exact hhello rfl hplan₁

end Sync
