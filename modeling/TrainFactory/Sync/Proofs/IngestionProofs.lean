import TrainFactory.Sync.Proofs.CycleProofs

/-!
# Proofs: uninterrupted cycles ingest every record once

The watermark of a task and the records its cycles have saved stay exact along every run of
uninterrupted cycles in which no record lies in a gap: in the window, the boundary knows precisely
what was saved. The gap opens where the column of the cursor rounds down: the boundary is cut at
`until_time` minus the rollback, and the next query starts at the cursor that is read back.
-/

namespace Sync

open Lib

variable {py : Stdlib} {env : Env} {taskId : String} {createdAtOf : String → Option DateTime}
  {w : World} {saved : List Json}

/-- The records come with the `created_at` that belongs to their key. -/
def TimesOf (py : Stdlib) (createdAtOf : String → Option DateTime) (items : List Json) : Prop :=
  ∀ item ∈ items, createdAt py item = createdAtOf (itemDedupKey py item)

/-- A step of a run without interruptions, of a source in which a key has one `created_at`. The
digests of batch files do not collide. -/
def Uninterrupted (py : Stdlib) (env : Env) (taskId : String)
    (createdAtOf : String → Option DateTime) (w : World) : CycleStep → Prop
  | .service op => op.keepsPosition
  | .cycle input =>
    (runCycle py env taskId input w).1.isInterrupted = false ∧
    (∀ items, input.response = .ok (.arr items) → TimesOf py createdAtOf items) ∧
    ∀ plan batch isNew advanced,
      (runCycle py env taskId input w).1 = .recorded plan batch isNew advanced →
      CollisionFree py w.files (plan.documents py)

/-- The rounding of the cursor leaves no gap: with `last` the latest of the cursor and the
`created_at` of the returned records that are in the window and not in the boundary, none of these
was created from the rounded `last` minus the rollback on but before the exact one; and if the cursor
lies there, the keys of the boundary that were created from there on are returned again, not before
the exact one. -/
def LeavesNoGap (py : Stdlib) (taskId : String) (createdAtOf : String → Option DateTime)
    (w : World) : CycleStep → Prop
  | .service _ => True
  | .cycle input => ∀ config items last, w.db.tasks.lookup taskId = some config →
    input.response = .ok (.arr items) →
    let returned := firstCopies (itemDedupKey py) items
    IsGreatest ((config.feed py).reached config.watermark returned) last →
    (config.feed py).NoGap createdAtOf config.watermark returned last

/-- The records have a `created_at`, the one that belongs to their key. -/
def Dated (py : Stdlib) (createdAtOf : String → Option DateTime) (items : List Json) : Prop :=
  ∀ item ∈ items, createdAtOf (itemDedupKey py item) = some ((createdAt py item).getD 0)

/-- The position of the task is exact for the records that were saved. -/
structure IngestionInv (py : Stdlib) (taskId : String) (createdAtOf : String → Option DateTime)
    (saved : List Json) (w : World) : Prop where
  exact : ∀ config, w.db.tasks.lookup taskId = some config →
    Exact (config.feed py) saved config.watermark
  hashed : ∀ config, w.db.tasks.lookup taskId = some config →
    ∀ k ∈ config.lastSyncBoundaryIds, isHashedKey k = true
  dated : Dated py createdAtOf saved
  nodup : (saved.map (itemDedupKey py)).Nodup

theorem IngestionInv.init (h : ∀ config, w.db.tasks.lookup taskId = some config →
    config.lastSyncAt = none ∧ config.lastSyncBoundaryIds = []) :
    IngestionInv py taskId createdAtOf [] w where
  exact config hconfig := by
    obtain ⟨hcursor, hboundary⟩ := h config hconfig
    refine Exact.init hcursor ?_
    simp [ExternalSyncTask.watermark, hboundary]
  hashed config hconfig k hk := by
    rw [(h config hconfig).2] at hk
    cases hk
  dated item hitem := by cases hitem
  nodup := List.nodup_nil

theorem position_eq {t t' : ExternalSyncTask} (h : t.position = t'.position) :
    t.watermark = t'.watermark ∧ t.feed py = t'.feed py ∧
      t.lastSyncBoundaryIds = t'.lastSyncBoundaryIds := by
  have hcursor : t.lastSyncAt = t'.lastSyncAt := congrArg (fun p => p.1) h
  have hboundary : t.lastSyncBoundaryIds = t'.lastSyncBoundaryIds := congrArg (fun p => p.2.1) h
  have hrollback : t.boundaryRollbackSeconds = t'.boundaryRollbackSeconds :=
    congrArg (fun p => p.2.2) h
  refine ⟨?_, ?_, hboundary⟩
  · unfold ExternalSyncTask.watermark
    rw [hcursor, hboundary]
  · unfold ExternalSyncTask.feed
    rw [hrollback]

theorem IngestionInv.of_same {w' : World} (hI : IngestionInv py taskId createdAtOf saved w)
    (h : SamePosition w.db.tasks w'.db.tasks) :
    IngestionInv py taskId createdAtOf saved w' where
  exact config hconfig := by
    obtain ⟨config₀, hconfig₀, hpos⟩ := h.lookup hconfig
    obtain ⟨hwatermark, hfeed, -⟩ := @position_eq py _ _ hpos
    rw [← hwatermark, ← hfeed]
    exact hI.exact config₀ hconfig₀
  hashed config hconfig := by
    obtain ⟨config₀, hconfig₀, hpos⟩ := h.lookup hconfig
    obtain ⟨-, -, hboundary⟩ := @position_eq py _ _ hpos
    rw [← hboundary]
    exact hI.hashed config₀ hconfig₀
  dated := hI.dated
  nodup := hI.nodup

theorem savedItems_of_isQuiet {outcome : CycleOutcome} (h : outcome.isQuiet = true) :
    outcome.savedItems = [] := by
  cases outcome with
  | recorded plan batch isNew advanced => cases h
  | _ => rfl

theorem isComplete_of_isQuiet {outcome : CycleOutcome} (h : outcome.isQuiet = true) :
    outcome.isComplete = false := by
  cases outcome with
  | raised | fetchFailed | cutOff => rfl
  | idle | recorded => cases h

section Cycle

variable {input : CycleInput} {config : ExternalSyncTask} {since : Option DateTime}
  {validated : List Json} {plan : Option CyclePlan}

theorem Planned.validated_eq (h : Planned py env taskId input w config since validated plan) :
    ∃ items, input.response = .ok (.arr items) ∧
      validated = firstCopies (itemDedupKey py) items ∧
      ∀ item ∈ items, ∃ t, createdAt py item = some t := by
  have hvalid := h.valid
  cases hresponse : input.response with
  | error e => rw [hresponse] at hvalid; cases hvalid
  | ok response =>
    rw [hresponse] at hvalid
    obtain ⟨items, rfl, heq, htimes⟩ := validateAndDeduplicateItems_eq_ok hvalid
    exact ⟨items, rfl, heq, htimes⟩

theorem Planned.times (h : Planned py env taskId input w config since validated plan) :
    ∀ item ∈ validated, ∃ t, createdAt py item = some t := by
  obtain ⟨items, -, rfl, htimes⟩ := h.validated_eq
  exact fun item hitem => htimes item (mem_of_mem_firstCopies hitem)

theorem TimesOf.dated {items : List Json} (h : TimesOf py createdAtOf items)
    (htimes : ∀ item ∈ items, ∃ t, createdAt py item = some t) : Dated py createdAtOf items := by
  intro item hitem
  obtain ⟨t, ht⟩ := htimes item hitem
  rw [← h item hitem, ht]
  rfl

theorem Dated.time_eq {items items' : List Json} (h : Dated py createdAtOf items)
    (h' : Dated py createdAtOf items') {x y : Json} (hx : x ∈ items) (hy : y ∈ items')
    (hkey : itemDedupKey py y = itemDedupKey py x) :
    (config.feed py).time y = (config.feed py).time x := by
  have htime := h' y hy
  rw [hkey, h x hx] at htime
  exact (Option.some.inj htime).symm

/-- In a cycle of an exact position, the new records are those in the window that were never
saved. -/
theorem IngestionInv.newItems_eq (hI : IngestionInv py taskId createdAtOf saved w)
    (h : Planned py env taskId input w config since validated plan)
    (htimes : TimesOf py createdAtOf validated) :
    newItems py config since validated = validated.filter fun item =>
      config.inWindow py item && decide (itemDedupKey py item ∉ saved.map (itemDedupKey py)) := by
  rw [Sync.newItems_eq h.since_eq (hI.hashed config h.lookup)]
  refine List.filter_congr fun item hitem => ?_
  have hwindow := @inWindow_iff py config item (h.times item hitem)
  have hfresh := (hI.exact config h.lookup).fresh_iff (x := item) fun y hy hkey =>
    (htimes.dated h.times).time_eq hI.dated hitem hy hkey
  rw [Bool.eq_iff_iff, Bool.and_eq_true, Bool.and_eq_true, decide_eq_true_eq, decide_eq_true_eq,
    hwindow]
  exact hfresh

/-- A cycle that saves its plan, moves the position to it and leaves no gap keeps the invariant. -/
theorem IngestionInv.advance {w' : World} {plan : CyclePlan}
    (hI : IngestionInv py taskId createdAtOf saved w)
    (h : Planned py env taskId input w config since validated (some plan))
    (htimes : TimesOf py createdAtOf validated)
    (hgap : ∀ last, IsGreatest ((config.feed py).reached config.watermark validated) last →
      (config.feed py).NoGap createdAtOf config.watermark validated last)
    (hmoved : PositionMoved taskId input config.boundaryRollbackSeconds plan w'.db) :
    IngestionInv py taskId createdAtOf (saved ++ plan.items) w' := by
  have hhash := hI.hashed config h.lookup
  obtain ⟨c, hc, hadv, hhash'⟩ := planCycle_advance h.plan_eq h.since_eq hhash h.times
  have hitems := (planCycle_eq_some h.plan_eq).1
  have hmem : ∀ item, item ∈ plan.items ↔ item ∈ validated ∧
      (config.feed py).Fresh config.watermark item := by
    rw [hitems]
    exact mem_newItems h.since_eq hhash h.times
  have hdated := htimes.dated h.times
  have hnodup : (plan.items.map (itemDedupKey py)).Nodup := by
    obtain ⟨items, -, hvalidated, -⟩ := h.validated_eq
    have hsub : plan.items.Sublist validated := by
      rw [hitems]
      exact newItems_sublist
    have hvalid : (validated.map (itemDedupKey py)).Nodup := by
      rw [hvalidated]
      exact firstCopies_nodup items
    exact (hsub.map _).nodup hvalid
  have hexact : Exact (config.feed py) (saved ++ plan.items) (plan.watermark c) := by
    refine (hI.exact config h.lookup).advance hadv (hgap c hadv.greatest) hmem hnodup ?_
    rintro item (hitem | hitem)
    · exact hI.dated item hitem
    · exact hdated item hitem
  refine ⟨?_, ?_, ?_, hexact.nodup⟩
  · intro config' hconfig'
    have hpos := hmoved config' hconfig'
    rw [hc, Option.getD_some] at hpos
    have hcursor : config'.lastSyncAt = some (datetimeColumn c) := congrArg (fun p => p.1) hpos
    have hboundary : config'.lastSyncBoundaryIds = plan.boundaryIds := congrArg (fun p => p.2.1) hpos
    have hrollback : config'.boundaryRollbackSeconds = config.boundaryRollbackSeconds :=
      congrArg (fun p => p.2.2) hpos
    have hfeed : config'.feed py = config.feed py := by
      unfold ExternalSyncTask.feed
      rw [hrollback]
    have hwatermark : config'.watermark = plan.watermark c := by
      unfold ExternalSyncTask.watermark CyclePlan.watermark
      rw [hcursor, hboundary]
    rw [hfeed, hwatermark]
    exact hexact
  · intro config' hconfig'
    have hboundary : config'.lastSyncBoundaryIds = plan.boundaryIds :=
      congrArg (fun p => p.2.1) (hmoved config' hconfig')
    rw [hboundary]
    exact hhash'
  · intro item hitem
    rcases List.mem_append.mp hitem with hitem | hitem
    · exact hI.dated item hitem
    · exact hdated item ((hmem item).mp hitem).1

end Cycle

theorem IngestionInv.step (hI : IngestionInv py taskId createdAtOf saved w) (s : CycleStep)
    (hs : Uninterrupted py env taskId createdAtOf w s)
    (hgap : LeavesNoGap py taskId createdAtOf w s) :
    IngestionInv py taskId createdAtOf (saved ++ w.saves py env taskId s)
      (w.step py env taskId s) := by
  cases s with
  | service op =>
    have hop : op.keepsPosition := hs
    simp only [World.saves, List.append_nil]
    exact hI.of_same hop.samePosition
  | cycle input =>
    obtain ⟨hgoes, htimes, -⟩ := hs
    have hvalidated : ∀ {config since validated plan},
        Planned py env taskId input w config since validated plan →
        TimesOf py createdAtOf validated := by
      intro config since validated plan hplan
      obtain ⟨items, hresponse, rfl, -⟩ := hplan.validated_eq
      exact fun item hitem => htimes items hresponse item (mem_of_mem_firstCopies hitem)
    simp only [World.saves, World.step]
    generalize hresult : runCycle py env taskId input w = result at hgoes
    have hmove := @runCycle_move py env taskId input w
    rw [hresult] at hmove
    cases hmove with
    | quiet hquiet hkeeps =>
      rw [savedItems_of_isQuiet hquiet, List.append_nil]
      exact hI.of_same hkeeps.position
    | idle hplan hkeeps =>
      simp only [CycleOutcome.savedItems, List.append_nil]
      exact hI.of_same hkeeps.position
    | stopped hplan hrecords hposition => cases hgoes
    | advanced hplan hrecords hposition =>
      refine hI.advance hplan (hvalidated hplan) ?_ hposition
      obtain ⟨items, hresponse, rfl, -⟩ := hplan.validated_eq
      exact fun last => hgap _ items last hplan.lookup hresponse

/-- What a complete cycle saves, from an exact position. -/
theorem IngestionInv.saves_eq (hI : IngestionInv py taskId createdAtOf saved w)
    {input : CycleInput} (hs : Uninterrupted py env taskId createdAtOf w (.cycle input))
    {config : ExternalSyncTask} (hconfig : w.db.tasks.lookup taskId = some config)
    {items : List Json} (hresponse : input.response = .ok (.arr items))
    (hcomplete : (runCycle py env taskId input w).1.isComplete = true) :
    w.saves py env taskId (.cycle input) =
      (firstCopies (itemDedupKey py) items).filter fun item =>
        config.inWindow py item && decide (itemDedupKey py item ∉ saved.map (itemDedupKey py)) := by
  obtain ⟨-, htimes, -⟩ := hs
  have hnew : ∀ {config' since validated plan},
      Planned py env taskId input w config' since validated plan →
      newItems py config' since validated =
        (firstCopies (itemDedupKey py) items).filter fun item => config.inWindow py item &&
          decide (itemDedupKey py item ∉ saved.map (itemDedupKey py)) := by
    intro config' since validated plan hplan
    obtain rfl : config' = config := Option.some.inj (hplan.lookup.symm.trans hconfig)
    obtain ⟨items', hresponse', rfl, -⟩ := hplan.validated_eq
    obtain rfl : items' = items := by
      have := hresponse'.symm.trans hresponse
      simpa using this
    refine hI.newItems_eq hplan ?_
    exact fun item hitem => htimes items' hresponse item (mem_of_mem_firstCopies hitem)
  simp only [World.saves]
  generalize hresult : runCycle py env taskId input w = result at hcomplete
  have hmove := @runCycle_move py env taskId input w
  rw [hresult] at hmove
  cases hmove with
  | quiet hquiet hkeeps =>
    rw [isComplete_of_isQuiet hquiet] at hcomplete
    cases hcomplete
  | idle hplan hkeeps =>
    rw [← hnew hplan, planCycle_eq_none hplan.plan_eq]
    rfl
  | stopped hplan hrecords hposition => cases hcomplete
  | advanced hplan hrecords hposition =>
    rw [← hnew hplan]
    exact (planCycle_eq_some hplan.plan_eq).1

theorem recorded_documents {input : CycleInput} {plan : CyclePlan} {batch : ExternalSyncBatch}
    {isNew advanced : Bool}
    (h : (runCycle py env taskId input w).1 = .recorded plan batch isNew advanced)
    (hcollision : CollisionFree py w.files (plan.documents py)) :
    (runCycle py env taskId input w).2.files batch.storagePath = some (plan.documents py) := by
  obtain ⟨-, -, -, -, hrecords⟩ := runCycle_recorded h
  exact hrecords.documents hcollision

/-- A step of an uninterrupted run that leaves no gap. -/
def Ingests (py : Stdlib) (env : Env) (taskId : String)
    (createdAtOf : String → Option DateTime) (w : World) (s : CycleStep) : Prop :=
  Uninterrupted py env taskId createdAtOf w s ∧ LeavesNoGap py taskId createdAtOf w s

/-- A plan holds some of the de-duplicated returned records. -/
theorem Planned.items_sublist {input : CycleInput} {config : ExternalSyncTask}
    {since : Option DateTime} {validated : List Json} {plan : CyclePlan} {items : List Json}
    (h : Planned py env taskId input w config since validated (some plan))
    (hresponse : input.response = .ok (.arr items)) :
    plan.items.Sublist (firstCopies (itemDedupKey py) items) ∧ plan.items ≠ [] := by
  obtain ⟨hitems, hne, -, -⟩ := planCycle_eq_some h.plan_eq
  obtain ⟨items', hresponse', rfl, -⟩ := h.validated_eq
  obtain rfl : items' = items := by simpa using hresponse'.symm.trans hresponse
  refine ⟨?_, hne⟩
  rw [hitems]
  exact newItems_sublist

theorem IngestionInv.run (hI : IngestionInv py taskId createdAtOf [] w) {steps : List CycleStep}
    (hok : Admits (World.step py env taskId) (Ingests py env taskId createdAtOf) w steps) :
    IngestionInv py taskId createdAtOf
      (events (World.step py env taskId) (World.saves py env taskId) w steps)
      (exec (World.step py env taskId) w steps) :=
  events_invariant (fun _ _ s hI hs => hI.step s hs.1 hs.2) steps [] w hI hok

/-- No duplicate ingestion: in every run of uninterrupted cycles that leave no gap, of a task that
starts without a cursor and a boundary and a source in which a key has one `created_at`, a complete
cycle saves exactly the de-duplicated returned records that are in the window and were not saved
before, its batch holds exactly their documents, and no key is saved twice. -/
theorem records_ingested_once (py : Stdlib) (env : Env) (taskId : String)
    (createdAtOf : String → Option DateTime) (w : World) (steps : List CycleStep)
    (hnew : ∀ config, w.db.tasks.lookup taskId = some config →
      config.lastSyncAt = none ∧ config.lastSyncBoundaryIds = [])
    (hok : Admits (World.step py env taskId) (Ingests py env taskId createdAtOf) w steps) :
    ((events (World.step py env taskId) (World.saves py env taskId) w steps).map
      (itemDedupKey py)).Nodup ∧
    ∀ before input after, steps = before ++ .cycle input :: after →
      let saved := events (World.step py env taskId) (World.saves py env taskId) w before
      let w' := exec (World.step py env taskId) w before
      ∀ config items, w'.db.tasks.lookup taskId = some config →
        input.response = .ok (.arr items) →
        (runCycle py env taskId input w').1.isComplete = true →
        w'.saves py env taskId (.cycle input) =
          ((firstCopies (itemDedupKey py) items).filter fun item =>
            config.inWindow py item &&
              decide (itemDedupKey py item ∉ saved.map (itemDedupKey py))) ∧
        ∀ plan batch isNew advanced,
          (runCycle py env taskId input w').1 = .recorded plan batch isNew advanced →
          (runCycle py env taskId input w').2.files batch.storagePath =
            some ((w'.saves py env taskId (.cycle input)).map (batchDocument py)) := by
  have hI : IngestionInv py taskId createdAtOf [] w := .init hnew
  refine ⟨(hI.run hok).nodup, ?_⟩
  rintro before input after rfl saved w' config items hconfig hresponse hcomplete
  obtain ⟨hbefore, hcycle, -⟩ := hok.append
  refine ⟨(hI.run hbefore).saves_eq hcycle.1 hconfig hresponse hcomplete, ?_⟩
  intro plan batch isNew advanced houtcome
  rw [recorded_documents houtcome (hcycle.1.2.2 plan batch isNew advanced houtcome)]
  simp only [World.saves, houtcome]
  rfl

/-- Times without a fraction below half a second leave no gap. -/
theorem LeavesNoGap.of_times {input : CycleInput}
    (hcursor : ∀ config cursor, w.db.tasks.lookup taskId = some config →
      config.lastSyncAt = some cursor → datetimeColumn cursor = cursor)
    (htimes : ∀ items, input.response = .ok (.arr items) → ∀ item ∈ items,
      (createdAt py item).getD 0 % 1000000 = 0 ∨ 500000 ≤ (createdAt py item).getD 0 % 1000000) :
    LeavesNoGap py taskId createdAtOf w (.cycle input) := by
  intro config items last hconfig hresponse returned hlast
  refine Feed.NoGap.of_le ?_
  rcases hlast.1 with hc | ⟨item, hitem, -, rfl⟩
  · exact (hcursor config last hconfig hc).ge
  · exact (le_datetimeColumn_iff _).mpr
      (htimes items hresponse item (mem_of_mem_firstCopies hitem))

/-- The record is saved when it is fetched for the first time only. -/
theorem records_ingested_once_first :
    let saved := events (World.step oneRecord defaultEnv "task")
      (World.saves oneRecord defaultEnv "task") newWorld
      [fetchHello "first.jsonl" "first", fetchHello "second.jsonl" "second"]
    saved.length = 1 ∧ (saved.map (itemDedupKey oneRecord)).Nodup := by
  refine ⟨by decide +kernel, ?_⟩
  refine (records_ingested_once oneRecord defaultEnv "task" (fun _ => some 63839664000000000)
    newWorld _ ?_ ?_).1
  · intro config hconfig
    obtain rfl : newTask = config := Option.some.inj hconfig
    exact ⟨rfl, rfl⟩
  have htimes : ∀ items, (Except.ok (.arr [helloRecord]) : Except SyncError Json) =
      .ok (.arr items) → TimesOf oneRecord (fun _ => some 63839664000000000) items := by
    rintro items ⟨⟩ item hitem
    obtain rfl := List.mem_singleton.mp hitem
    decide +kernel
  have hwhole : ∀ items, (Except.ok (.arr [helloRecord]) : Except SyncError Json) =
      .ok (.arr items) → ∀ item ∈ items, (createdAt oneRecord item).getD 0 % 1000000 = 0 ∨
        500000 ≤ (createdAt oneRecord item).getD 0 % 1000000 := by
    rintro items ⟨⟩ item hitem
    obtain rfl := List.mem_singleton.mp hitem
    decide +kernel
  have hcursor : ((newWorld.step oneRecord defaultEnv "task"
      (fetchHello "first.jsonl" "first")).db.tasks.lookup "task").all (fun config =>
        config.lastSyncAt.all fun cursor => datetimeColumn cursor = cursor) = true := by
    decide +kernel
  refine ⟨⟨⟨by decide +kernel, htimes, ?_⟩, .of_times ?_ hwhole⟩,
    ⟨⟨by decide +kernel, htimes, ?_⟩, .of_times ?_ hwhole⟩, trivial⟩
  · intro plan batch isNew advanced houtcome path docs hdocs
    cases hdocs
  · intro config cursor hconfig hc
    obtain rfl : newTask = config := Option.some.inj hconfig
    cases hc
  · -- the second cycle finds nothing new
    intro plan batch isNew advanced houtcome
    have hidle : (runCycle oneRecord defaultEnv "task"
        { response := .ok (.arr [helloRecord]), now := 63839664001000000
          batchFile := "second.jsonl", batchId := "second" }
        (newWorld.step oneRecord defaultEnv "task"
          (fetchHello "first.jsonl" "first"))).1.isRecorded = false := by decide +kernel
    rw [houtcome] at hidle
    cases hidle
  · intro config cursor hconfig hc
    rw [hconfig, Option.all_some, hc, Option.all_some, decide_eq_true_eq] at hcursor
    exact hcursor

/-! ## Two records around the gap -/

def lateRecord : Json :=
  .obj [("id", .str "a1"), ("text", .str "hello"), ("created_at", .str "2024-01-01T00:00:05.400Z")]

def earlyRecord : Json :=
  .obj [("id", .str "b1"), ("text", .str "world"), ("created_at", .str "2024-01-01T00:00:00.200Z")]

/-- The library functions on the two records, without batch files. -/
def twoRecordKeys : Stdlib where
  repr := oneRecord.repr
  dumps := oneRecord.dumps
  dumpsAscii := oneRecord.dumpsAscii
  dumpsCanonical := oneRecord.dumpsCanonical
  sha256 text :=
    if text = "\x7b\"business_keys\":[\"b1\",\"\",\"\"]\x7d" then
      "6694863046c2d4f21fd94e35281f0fe82cca8ffae690415b345e6c1d5382ea07"
    else if text = "\x7b\"doc_id\":\"\",\"external_id\":\"b1\",\"session_id\":\"\"\x7d" then
      "16fc6c6b1e44da66a2bdde6aa0cbea4d3fef8ba46d52e259232bead18bfc4264"
    else oneRecord.sha256 text
  sha256_isHashedKey text := by
    split
    · decide +kernel
    · split
      · decide +kernel
      · exact oneRecord.sha256_isHashedKey text
  fromIsoFormat text :=
    if text = "2024-01-01T00:00:05.400+00:00" then some 63839664005400000
    else if text = "2024-01-01T00:00:00.200+00:00" then some 63839664000200000
    else none

/-- The library functions on the two records and the batch files of both, or of the early one. -/
def twoRecords : Stdlib :=
  { twoRecordKeys with
    sha256 := fun text =>
      if text = serializeBatchItem twoRecordKeys lateRecord ++
          serializeBatchItem twoRecordKeys earlyRecord then
        "d34e46ead19eedf25c8f2ffee99daee0b6edb2f08f014615735a21e3c4cc9628"
      else if text = serializeBatchItem twoRecordKeys earlyRecord then
        "67f453f441410cd9f5d496f0a1d3e5bc27463243886beaaba3447d3e48cb81c9"
      else twoRecordKeys.sha256 text
    sha256_isHashedKey := by
      intro text
      split
      · decide +kernel
      · split
        · decide +kernel
        · exact twoRecordKeys.sha256_isHashedKey text }

def fetchBoth (batchFile batchId : String) : CycleInput where
  response := .ok (.arr [lateRecord, earlyRecord])
  now := 63839664006000000
  batchFile := batchFile
  batchId := batchId

/-- The `created_at` of the two records. -/
def createdAtOfBoth (key : String) : Option DateTime :=
  if key = itemDedupKey twoRecords lateRecord then some 63839664005400000
  else some 63839664000200000

/-- With the late record the cursor is rounded down to 00:00:05 and the boundary is cut at
00:00:00.4, so the early record is not in it; the next query starts at 00:00:00 and returns it
again, and it is saved again. -/
theorem early_record_ingested_twice :
    let steps := [.cycle (fetchBoth "first.jsonl" "first"),
      .cycle (fetchBoth "second.jsonl" "second")]
    (∀ config, newWorld.db.tasks.lookup "task" = some config →
      config.lastSyncAt = none ∧ config.lastSyncBoundaryIds = []) ∧
    Admits (World.step twoRecords defaultEnv "task")
      (Uninterrupted twoRecords defaultEnv "task" createdAtOfBoth) newWorld steps ∧
    ¬ ((events (World.step twoRecords defaultEnv "task") (World.saves twoRecords defaultEnv "task")
      newWorld steps).map (itemDedupKey twoRecords)).Nodup := by
  refine ⟨?_, ?_, by decide +kernel⟩
  · intro config hconfig
    obtain rfl : newTask = config := Option.some.inj hconfig
    exact ⟨rfl, rfl⟩
  have htimes : ∀ items, (Except.ok (.arr [lateRecord, earlyRecord]) : Except SyncError Json) =
      .ok (.arr items) → TimesOf twoRecords createdAtOfBoth items := by
    rintro items ⟨⟩ item hitem
    rcases List.mem_pair.mp hitem with rfl | rfl <;> decide +kernel
  refine ⟨⟨by decide +kernel, htimes, ?_⟩, ⟨by decide +kernel, htimes, ?_⟩, trivial⟩
  · intro plan batch isNew advanced houtcome path docs hdocs
    cases hdocs
  · -- the only batch file holds both records, and has another digest
    intro plan batch isNew advanced houtcome path docs hdocs hdigest
    have hsecond : documentsSha256 twoRecords ((runCycle twoRecords defaultEnv "task"
        (fetchBoth "second.jsonl" "second") (newWorld.step twoRecords defaultEnv "task"
          (.cycle (fetchBoth "first.jsonl" "first")))).1.savedItems.map (batchDocument twoRecords)) =
        "67f453f441410cd9f5d496f0a1d3e5bc27463243886beaaba3447d3e48cb81c9" := by decide +kernel
    have hfirst : ((newWorld.step twoRecords defaultEnv "task" (.cycle (fetchBoth "first.jsonl"
        "first"))).files "first.jsonl").map (documentsSha256 twoRecords) =
        some "d34e46ead19eedf25c8f2ffee99daee0b6edb2f08f014615735a21e3c4cc9628" := by
      decide +kernel
    obtain rfl : path = "first.jsonl" := by
      rcases runCycle_files hdocs with h | ⟨hpath, -⟩
      · cases h
      · exact hpath
    rw [hdocs] at hfirst
    rw [houtcome] at hsecond
    have hne := (Option.some.inj hfirst).symm.trans (hdigest.trans hsecond)
    exact absurd hne (by decide)

end Sync
