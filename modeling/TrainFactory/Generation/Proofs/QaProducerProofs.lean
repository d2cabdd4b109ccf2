import TrainFactory.Generation.QaProducer

/-!
# Extraction across crashes

Every record is extracted once if a crash leaves none or all of the bytes that are being appended
for a document. A document of which the file has a part counts as completed, and the rest of it is
lost.
-/

namespace Generation

open Lib

/-! ## Batches -/

theorem cutBatches_of_lt {batch : List Json} (h : batch.length < 50) :
    cutBatches batch = ([], batch) := by
  rw [cutBatches, dif_neg (Nat.not_le.mpr h)]

theorem flatten_cutBatches (batch : List Json) :
    (cutBatches batch).1.flatten ++ (cutBatches batch).2 = batch := by
  induction hn : batch.length using Nat.strong_induction_on generalizing batch with
  | _ n ih =>
    unfold cutBatches
    split
    · rename_i hlen
      have hrest := ih (batch.drop 50).length (by rw [List.length_drop]; omega) (batch.drop 50) rfl
      rw [List.flatten_cons, List.append_assoc, hrest, List.take_append_drop]
    · rfl

@[simp] theorem flatten_replayBatches (records : List Json) :
    (replayBatches records).flatten = records := by
  have hcut := flatten_cutBatches records
  unfold replayBatches
  dsimp only
  split
  · rename_i hrest
    rw [List.isEmpty_iff.mp hrest, List.append_nil] at hcut
    exact hcut
  · simpa using hcut

/-! ## The file -/

def storedLog (log : List (ExtractedQa × Nat)) : List Json := log.map fun e => e.1.withDocIdx e.2

def logBytes (py : QaStdlib) (log : List (ExtractedQa × Nat)) : Bytes :=
  utf8 (linesText ((storedLog log).map fun record => record.dumps py.floatRepr))

/-- The records of the documents are read as they are written. -/
def QaTask.ReadsBack (py : QaStdlib) (task : QaTask) : Prop :=
  ∀ docIdx < task.documents.length, ∀ r ∈ task.records docIdx,
    py.loads ((r.withDocIdx docIdx).dumps py.floatRepr) = some (r.withDocIdx docIdx)

@[simp] theorem withoutDocIdx_withDocIdx (r : ExtractedQa) (docIdx : Nat) :
    withoutDocIdx (r.withDocIdx docIdx) = r.toJson := by
  simp [withoutDocIdx, ExtractedQa.withDocIdx, ExtractedQa.toJson, Json.entries, Json.popEntry]

theorem loadedHash_withDocIdx (py : KeyStdlib) (r : ExtractedQa) (docIdx : Nat) :
    loadedHash py (r.withDocIdx docIdx) = some [r.hash py] := by
  have htruthy : (Json.str r.query).truthy = true := by simpa [Json.truthy] using r.query_ne
  have hobj : (r.withDocIdx docIdx).isObj = true := rfl
  have hquery : (r.withDocIdx docIdx).getD "query" .null = .str r.query := rfl
  rw [loadedHash, if_pos hobj, hquery, if_pos htruthy]
  rfl

theorem loadedDocIdx_withDocIdx (r : ExtractedQa) (docIdx : Nat) :
    loadedDocIdx (r.withDocIdx docIdx) = some [(docIdx : Int)] := by
  have hidx : (r.withDocIdx docIdx).getD "_doc_idx" (.int (-1)) = .int docIdx := rfl
  rw [loadedDocIdx, hidx]
  simp

theorem withoutDocIdx_storedLog (log : List (ExtractedQa × Nat)) :
    (storedLog log).map withoutDocIdx = (log.map Prod.fst).map ExtractedQa.toJson := by
  simp [storedLog, List.map_map, Function.comp_def]

theorem completedDocIdxs_storedLog (log : List (ExtractedQa × Nat)) :
    completedDocIdxs (storedLog log) = some (log.map fun e => (e.2 : Int)) := by
  have hmap : (storedLog log).mapM loadedDocIdx = some (log.map fun e => [(e.2 : Int)]) := by
    induction log with
    | nil => rfl
    | cons e log ih =>
      rw [storedLog, List.map_cons, List.mapM_cons, loadedDocIdx_withDocIdx, ← storedLog, ih]
      rfl
  rw [completedDocIdxs, hmap, Option.map_some, ← List.flatMap_def, ← List.map_eq_flatMap]

section Loading

variable {py : QaStdlib} {task : QaTask} {log : List (ExtractedQa × Nat)}

theorem logBytes_append (log' : List (ExtractedQa × Nat)) :
    logBytes py (log ++ log') = logBytes py log ++ logBytes py log' := by
  simp [logBytes, storedLog]

theorem loadRecords_storedLog
    (hloads : ∀ e ∈ log, py.loads ((e.1.withDocIdx e.2).dumps py.floatRepr) =
      some (e.1.withDocIdx e.2)) :
    loadRecords py ((storedLog log).map fun record => record.dumps py.floatRepr) =
      some ⟨logKeys (ExtractedQa.hash py.toKeyStdlib) log, storedLog log⟩ := by
  induction log with
  | nil => rfl
  | cons e log ih =>
    have hrest := ih fun e' he' => hloads e' (List.mem_cons_of_mem _ he')
    have hfirst := hloads e (List.mem_cons_self ..)
    have hcons : storedLog (e :: log) = e.1.withDocIdx e.2 :: storedLog log := rfl
    rw [hcons, List.map_cons, loadRecords, hfirst]
    dsimp only
    rw [loadedHash_withDocIdx, hrest]
    rfl

theorem loadResumeState_logBytes
    (hloads : ∀ e ∈ log, py.loads ((e.1.withDocIdx e.2).dumps py.floatRepr) =
      some (e.1.withDocIdx e.2)) :
    loadResumeState py (logBytes py log) =
      some ⟨logKeys (ExtractedQa.hash py.toKeyStdlib) log, storedLog log⟩ := by
  have hvisible : ∀ line ∈ (storedLog log).map fun record => record.dumps py.floatRepr,
      IsVisibleLine line := by
    intro line hline
    obtain ⟨record, hrecord, rfl⟩ := List.mem_map.mp hline
    obtain ⟨e, -, rfl⟩ := List.mem_map.mp hrecord
    exact isVisibleLine_dumps py.floatRepr_visible _
  rw [loadResumeState, logBytes, strippedLines_linesText hvisible]
  exact loadRecords_storedLog hloads

theorem eq_nil_of_logBytes
    (hloads : ∀ e ∈ log, py.loads ((e.1.withDocIdx e.2).dumps py.floatRepr) =
      some (e.1.withDocIdx e.2)) (h : logBytes py log = []) : log = [] := by
  have hlog := loadResumeState_logBytes hloads
  have hnil : loadResumeState py (logBytes py []) = some ⟨[], []⟩ :=
    loadResumeState_logBytes fun e he => nomatch he
  have hempty : logBytes py [] = [] := rfl
  rw [h, ← hempty, hnil] at hlog
  have hrecords : [] = storedLog log := congrArg ResumeState.records (Option.some.inj hlog)
  exact List.map_eq_nil_iff.mp hrecords.symm

end Loading

/-! ## The invariant -/

section Invariant

variable (py : QaStdlib) (task : QaTask)

abbrev QaTask.IsQaLog (log : List (ExtractedQa × Nat)) : Prop :=
  IsLog (ExtractedQa.hash py.toKeyStdlib) task.records task.dedupEnabled task.documents.length log

abbrev QaTask.CoversDoc (log : List (ExtractedQa × Nat)) (docIdx : Nat) : Prop :=
  Covered (ExtractedQa.hash py.toKeyStdlib) task.records task.dedupEnabled log docIdx

structure QaTask.IsAttempt (log : List (ExtractedQa × Nat)) (p : Producer) : Prop where
  allQa : p.allQa = storedLog log
  placed : (p.queue.flatten ++ p.batchesToSend.flatten.flatten ++ p.batch).Perm
    ((log.map Prod.fst).map ExtractedQa.toJson)
  seen : task.dedupEnabled = true →
    ∀ hash, hash ∈ p.seenHashes ↔ hash ∈ logKeys (ExtractedQa.hash py.toKeyStdlib) log
  waiting_nodup : p.waiting.Nodup
  waiting_lt : ∀ docIdx ∈ p.waiting, docIdx < task.documents.length
  completed : ∀ docIdx ∈ p.waiting, (docIdx : Int) ∈ p.completedDocIdxs ↔ ∃ e ∈ log, e.2 = docIdx
  covered : ∀ docIdx < task.documents.length, docIdx ∉ p.waiting → task.CoversDoc py log docIdx
  ended : p.ended = true → p.waiting = [] ∧ p.batchesToSend.flatten = [] ∧ p.batch = []

/-- The file is that of a log, which the attempt knows. -/
def QaTask.Logged (s : QaState) : Prop :=
  ∃ log, task.IsQaLog py log ∧ s.file = logBytes py log ∧
    ∀ p, s.producer = some p → task.IsAttempt py log p

end Invariant

section Steps

variable {py : QaStdlib} {task : QaTask} {log : List (ExtractedQa × Nat)} {p : Producer}

theorem QaTask.ReadsBack.of_isQaLog (hread : task.ReadsBack py) (hlog : task.IsQaLog py log) :
    ∀ e ∈ log, py.loads ((e.1.withDocIdx e.2).dumps py.floatRepr) = some (e.1.withDocIdx e.2) :=
  fun e he => hread e.2 (hlog.lt e he) e.1 (hlog.mem e he)

theorem isAttempt_resumed {hashes : List String}
    (hseen : ∀ hash, hash ∈ hashes ↔ hash ∈ logKeys (ExtractedQa.hash py.toKeyStdlib) log)
    {completed : List Int} (hcompleted : completed = log.map fun e => (e.2 : Int))
    {queue : List (List Json)}
    (hqueue : queue.flatten = (log.map Prod.fst).map ExtractedQa.toJson) :
    task.IsAttempt py log
      { allQa := storedLog log, seenHashes := hashes, completedDocIdxs := completed, batch := []
        waiting := List.range task.documents.length, batchesToSend := [], queue := queue
        ended := false } where
  allQa := rfl
  placed := by simp [hqueue]
  seen _ := hseen
  waiting_nodup := List.nodup_range
  waiting_lt _ h := List.mem_range.mp h
  completed docIdx _ := by
    subst hcompleted
    simp
  covered docIdx hlt hnot := absurd (List.mem_range.mpr hlt) hnot
  ended h := nomatch h

theorem resume_logBytes
    (hloads : ∀ e ∈ log, py.loads ((e.1.withDocIdx e.2).dumps py.floatRepr) =
      some (e.1.withDocIdx e.2)) (hne : log ≠ []) :
    task.resume py (logBytes py log) = some
      { allQa := storedLog log
        seenHashes := logKeys (ExtractedQa.hash py.toKeyStdlib) log
        completedDocIdxs := log.map fun e => (e.2 : Int)
        batch := []
        waiting := List.range task.documents.length
        batchesToSend := []
        queue := replayBatches ((storedLog log).map withoutDocIdx)
        ended := false } := by
  have hfile : logBytes py log ≠ [] := fun h => hne (eq_nil_of_logBytes hloads h)
  rw [QaTask.resume, if_neg hfile, loadResumeState_logBytes hloads, Option.bind_some,
    completedDocIdxs_storedLog, Option.map_some]

theorem isAttempt_resume (hread : task.ReadsBack py) (hlog : task.IsQaLog py log)
    (hresume : task.resume py (logBytes py log) = some p) : task.IsAttempt py log p := by
  by_cases hnil : log = []
  · subst hnil
    obtain rfl := Option.some.inj hresume
    exact isAttempt_resumed (fun _ => Iff.rfl) rfl rfl
  · rw [resume_logBytes (hread.of_isQaLog hlog) hnil] at hresume
    obtain rfl := Option.some.inj hresume
    refine isAttempt_resumed (fun _ => Iff.rfl) rfl ?_
    rw [flatten_replayBatches, withoutDocIdx_storedLog]

theorem appended_eq (docIdx : Nat) :
    task.appended py p docIdx = logBytes py (tagWith docIdx (task.added py p docIdx)) := by
  simp [QaTask.appended, logBytes, storedLog, tagWith, List.map_map, Function.comp_def]

theorem isQaLog_added (hlog : task.IsQaLog py log) (h : task.IsAttempt py log p) {docIdx : Nat}
    (hwait : docIdx ∈ p.waiting) :
    task.IsQaLog py (log ++ tagWith docIdx (task.added py p docIdx)) ∧
      task.CoversDoc py (log ++ tagWith docIdx (task.added py p docIdx)) docIdx := by
  unfold QaTask.added
  split
  · rename_i hdone
    obtain ⟨e, he, hidx⟩ := (h.completed docIdx hwait).mp hdone
    have hnone : tagWith docIdx ([] : List ExtractedQa) = [] := rfl
    rw [hnone, List.append_nil]
    exact ⟨hlog, hidx ▸ hlog.covered e he⟩
  · rename_i hnot
    have hnew : ∀ e ∈ log, e.2 ≠ docIdx := fun e he hidx =>
      hnot ((h.completed docIdx hwait).mpr ⟨e, he, hidx⟩)
    exact ⟨hlog.append (h.waiting_lt docIdx hwait) h.seen hnew, covered_append_self h.seen hnew⟩

/-- An attempt knows the log after it has worked off a document. -/
theorem isAttempt_processOne (hlog : task.IsQaLog py log) (h : task.IsAttempt py log p)
    {docIdx : Nat} (hwait : docIdx ∈ p.waiting) :
    task.IsAttempt py (log ++ tagWith docIdx (task.added py p docIdx))
      (task.processOne py p docIdx) where
  allQa := by
    simp [QaTask.processOne, h.allQa, storedLog, tagWith, List.map_map, Function.comp_def]
  placed := by
    have hcut := flatten_cutBatches (p.batch ++
      ((task.added py p docIdx).map fun r => r.withDocIdx docIdx).map withoutDocIdx)
    have hadded : ((task.added py p docIdx).map fun r => r.withDocIdx docIdx).map withoutDocIdx =
        (task.added py p docIdx).map ExtractedQa.toJson := by
      simp [List.map_map, Function.comp_def]
    have hplaced := h.placed.append_right ((task.added py p docIdx).map ExtractedQa.toJson)
    have hlogged : ((log ++ tagWith docIdx (task.added py p docIdx)).map Prod.fst).map
        ExtractedQa.toJson = (log.map Prod.fst).map ExtractedQa.toJson ++
          (task.added py p docIdx).map ExtractedQa.toJson := by
      simp [tagWith, List.map_map, Function.comp_def]
    rw [hlogged]
    refine List.Perm.trans (List.Perm.of_eq ?_) hplaced
    rw [hadded] at hcut
    simp only [QaTask.processOne, hadded, List.flatten_append, List.flatten_singleton,
      List.append_assoc]
    rw [hcut]
  seen hdedup hash := by
    have hseen := h.seen hdedup hash
    simp [QaTask.processOne, hdedup, hseen]
  waiting_nodup := h.waiting_nodup.erase docIdx
  waiting_lt other hother := h.waiting_lt other (List.mem_of_mem_erase hother)
  completed other hother := by
    obtain ⟨hne, hother⟩ := h.waiting_nodup.mem_erase_iff.mp hother
    have hiff := h.completed other hother
    simp only [QaTask.processOne]
    rw [hiff]
    constructor
    · rintro ⟨e, he, hidx⟩
      exact ⟨e, List.mem_append_left _ he, hidx⟩
    · rintro ⟨e, he, hidx⟩
      rcases List.mem_append.mp he with he | he
      · exact ⟨e, he, hidx⟩
      · exact absurd (hidx.symm.trans (mem_tagWith.mp he).2) hne
  covered other hlt hother := by
    by_cases hsame : other = docIdx
    · subst hsame
      exact (isQaLog_added hlog h hwait).2
    · refine (h.covered other hlt fun hmem => hother ?_).append hsame _
      exact (h.waiting_nodup.mem_erase_iff).mpr ⟨hsame, hmem⟩
  ended hend := by
    obtain ⟨hnone, -⟩ := h.ended hend
    rw [hnone] at hwait
    cases hwait

theorem flatten_set_perm {waiting : List (List (List Json))} {k : Nat} {batch : List Json}
    {batches : List (List Json)} (h : waiting[k]? = some (batch :: batches)) :
    waiting.flatten.Perm (batch :: (waiting.set k batches).flatten) := by
  induction waiting generalizing k with
  | nil => cases h
  | cons first waiting ih =>
    cases k with
    | zero =>
      obtain rfl : first = batch :: batches := Option.some.inj h
      exact List.Perm.refl _
    | succ k =>
      have hrest := ih (k := k) h
      rw [List.set_cons_succ, List.flatten_cons, List.flatten_cons]
      exact (hrest.append_left first).trans List.perm_middle

theorem isAttempt_put (h : task.IsAttempt py log p) (k : Nat) :
    task.IsAttempt py log (p.put k) := by
  unfold Producer.put
  split
  · rename_i batch batches hk
    have hperm := flatten_set_perm hk
    exact {
      allQa := h.allQa
      placed := by
        refine List.Perm.trans ?_ h.placed
        have hflat := hperm.symm.flatten
        rw [List.flatten_cons] at hflat
        rw [List.flatten_append, List.flatten_singleton, List.append_assoc p.queue.flatten]
        exact (hflat.append_left _).append_right _
      seen := h.seen
      waiting_nodup := h.waiting_nodup
      waiting_lt := h.waiting_lt
      completed := h.completed
      covered := h.covered
      ended := fun hend => by
        obtain ⟨-, hnone, -⟩ := h.ended hend
        rw [hnone] at hperm
        exact absurd hperm.nil_eq (List.cons_ne_nil _ _).symm }
  · exact h

theorem isAttempt_finish (h : task.IsAttempt py log p) (hwait : p.waiting = [])
    (hsend : p.batchesToSend.flatten = []) : task.IsAttempt py log p.finish where
  allQa := h.allQa
  placed := by
    have hplaced := h.placed
    rw [hsend, List.flatten_nil, List.append_nil] at hplaced
    unfold Producer.finish
    split
    · rename_i hempty
      rw [List.isEmpty_iff.mp hempty] at hplaced
      simpa [hsend] using hplaced
    · simpa [hsend] using hplaced
  seen := h.seen
  waiting_nodup := h.waiting_nodup
  waiting_lt := h.waiting_lt
  completed := h.completed
  covered := h.covered
  ended _ := ⟨hwait, hsend, rfl⟩

/-- The crash, if the action is one, leaves none or all of the bytes that are being appended. -/
def QaTask.CleanCut (py : QaStdlib) (task : QaTask) (s : QaState) : QaAction → Prop
  | .crashAppending docIdx left =>
    ∀ p, s.producer = some p → left = 0 ∨ (task.appended py p docIdx).length ≤ left
  | _ => True

theorem logged_of_log (hlog : task.IsQaLog py log) {producer : Option Producer}
    (h : ∀ p, producer = some p → task.IsAttempt py log p) :
    task.Logged py ⟨logBytes py log, producer⟩ := ⟨log, hlog, rfl, h⟩

section Equations

variable {file : Bytes} {docIdx : Nat}

theorem step_start :
    task.step py ⟨file, none⟩ .start = ⟨file, task.resume py file⟩ := rfl

theorem step_processOne (hwait : docIdx ∈ p.waiting) :
    task.step py ⟨file, some p⟩ (.processOne docIdx) =
      ⟨file ++ task.appended py p docIdx, some (task.processOne py p docIdx)⟩ := if_pos hwait

theorem step_finish (hwait : p.waiting = []) (hsend : p.batchesToSend.flatten = []) :
    task.step py ⟨file, some p⟩ .finish = ⟨file, some p.finish⟩ := if_pos ⟨hwait, hsend⟩

theorem step_crashAppending (hwait : docIdx ∈ p.waiting) (left : Nat) :
    task.step py ⟨file, some p⟩ (.crashAppending docIdx left) =
      ⟨file ++ (task.appended py p docIdx).take left, none⟩ := if_pos hwait

end Equations

/-- A step keeps the file that of a log, unless it cuts what is being appended. -/
theorem logged_step (hread : task.ReadsBack py) {s : QaState} (action : QaAction)
    (h : task.Logged py s) (hclean : task.CleanCut py s action) :
    task.Logged py (task.step py s action) := by
  obtain ⟨file, producer⟩ := s
  have hsame := h
  obtain ⟨log, hlog, hfile, hattempt⟩ := h
  obtain rfl : file = logBytes py log := hfile
  cases action with
  | start =>
    cases producer with
    | none =>
      rw [step_start]
      exact logged_of_log hlog fun p hp => isAttempt_resume hread hlog hp
    | some p => exact hsame
  | processOne docIdx =>
    cases producer with
    | none => exact hsame
    | some p =>
      have hp := hattempt p rfl
      by_cases hwait : docIdx ∈ p.waiting
      · rw [step_processOne hwait, appended_eq, ← logBytes_append]
        refine logged_of_log (isQaLog_added hlog hp hwait).1 ?_
        intro p' hp'
        obtain rfl := Option.some.inj hp'
        exact isAttempt_processOne hlog hp hwait
      · have hstep : task.step py ⟨logBytes py log, some p⟩ (.processOne docIdx) =
            ⟨logBytes py log, some p⟩ := if_neg hwait
        rw [hstep]
        exact hsame
  | put k =>
    refine logged_of_log hlog ?_
    intro p' hp'
    obtain ⟨p, hp, rfl⟩ := Option.map_eq_some_iff.mp hp'
    exact isAttempt_put (hattempt p hp) k
  | finish =>
    cases producer with
    | none => exact hsame
    | some p =>
      by_cases hdone : p.waiting = [] ∧ p.batchesToSend.flatten = []
      · rw [step_finish hdone.1 hdone.2]
        refine logged_of_log hlog ?_
        intro p' hp'
        obtain rfl := Option.some.inj hp'
        exact isAttempt_finish (hattempt p rfl) hdone.1 hdone.2
      · have hstep : task.step py ⟨logBytes py log, some p⟩ .finish =
            ⟨logBytes py log, some p⟩ := if_neg hdone
        rw [hstep]
        exact hsame
  | crash => exact logged_of_log hlog fun _ hp => nomatch hp
  | crashAppending docIdx left =>
    cases producer with
    | none => exact hsame
    | some p =>
      have hp := hattempt p rfl
      by_cases hwait : docIdx ∈ p.waiting
      · rw [step_crashAppending hwait]
        rcases hclean p rfl with rfl | hall
        · rw [List.take_zero, List.append_nil]
          exact logged_of_log hlog fun _ hp => nomatch hp
        · rw [List.take_of_length_le hall, appended_eq, ← logBytes_append]
          exact logged_of_log (isQaLog_added hlog hp hwait).1 fun _ hp => nomatch hp
      · have hstep : task.step py ⟨logBytes py log, some p⟩ (.crashAppending docIdx left) =
            ⟨logBytes py log, some p⟩ := if_neg hwait
        rw [hstep]
        exact hsame

theorem logged_initial : task.Logged py QaTask.initial :=
  ⟨[], isLog_nil, rfl, fun _ hp => nomatch hp⟩

end Steps

/-! ## Ended attempts -/

def QaTask.allRecords (task : QaTask) : List ExtractedQa :=
  (List.range task.documents.length).flatMap task.records

/-- What is returned, what has been placed and what the file holds are the records of all documents,
or one of them for each hash. -/
def QaTask.IsExtraction (py : QaStdlib) (task : QaTask) (file : Bytes) (p : Producer) : Prop :=
  ∃ kept, KeepsAll (ExtractedQa.hash py.toKeyStdlib) task.dedupEnabled task.allRecords kept ∧
    (p.allQa.map withoutDocIdx).Perm (kept.map ExtractedQa.toJson) ∧
    p.queue.flatten.Perm (kept.map ExtractedQa.toJson) ∧
    ∃ state, loadResumeState py file = some state ∧
      (state.records.map withoutDocIdx).Perm (kept.map ExtractedQa.toJson)

/-- An attempt that has ended has extracted every record once, if every crash has left none or all
of the bytes that were being appended. -/
theorem qaProducer_extracts_once (py : QaStdlib) (task : QaTask) (hread : task.ReadsBack py)
    {run : List QaAction} (hclean : Admits (task.step py) (task.CleanCut py) QaTask.initial run)
    {p : Producer} (hp : (exec (task.step py) QaTask.initial run).producer = some p)
    (hend : p.ended = true) :
    task.IsExtraction py (exec (task.step py) QaTask.initial run).file p := by
  have hlogged : task.Logged py (exec (task.step py) QaTask.initial run) :=
    exec_invariant (fun s action => logged_step hread action) logged_initial hclean
  obtain ⟨log, hlog, hfile, hattempt⟩ := hlogged
  have h := hattempt p hp
  obtain ⟨hwait, hsend, hbatch⟩ := h.ended hend
  refine ⟨log.map Prod.fst, hlog.keepsAll ?_, ?_, ?_, ?_⟩
  · intro docIdx hlt
    refine h.covered docIdx hlt ?_
    rw [hwait]
    exact List.not_mem_nil
  · rw [h.allQa, withoutDocIdx_storedLog]
  · have hplaced := h.placed
    rw [hsend, hbatch, List.flatten_nil, List.append_nil, List.append_nil] at hplaced
    exact hplaced
  · refine ⟨_, hfile ▸ loadResumeState_logBytes (hread.of_isQaLog hlog), ?_⟩
    rw [withoutDocIdx_storedLog]

/-! ## Two records of a document -/

def firstSample : ExtractedSample where
  query := "q1"
  answer := some "a"
  sourceDocId := some "c"
  chunkContent := some "text"

def secondSample : ExtractedSample := { firstSample with query := "q2" }

def twoRecords (dedupEnabled : Bool) : QaTask := ⟨[[firstSample, secondSample]], dedupEnabled⟩

def firstQa : ExtractedQa := ⟨"q1", "a", "c", "text", by decide⟩

def secondQa : ExtractedQa := ⟨"q2", "a", "c", "text", by decide⟩

def zeroText (_ : Rat) : String := "0.0"

theorem zeroText_visible (c : Char) (hc : c.toNat < 0x20) (q : Rat) :
    c ∉ (zeroText q).toList := by
  have hvisible : "0.0".toList.all (fun d => 0x20 ≤ d.toNat) = true := by decide
  exact Json.control_notMem_of_visible hc hvisible

def loadsTwo (text : String) : Option Json :=
  if text = (firstQa.withDocIdx 0).dumps zeroText then some (firstQa.withDocIdx 0)
  else if text = (secondQa.withDocIdx 0).dumps zeroText then some (secondQa.withDocIdx 0)
  else none

def twoQa : QaStdlib where
  lower := id
  md5 := id
  loads := loadsTwo
  floatRepr := zeroText
  floatRepr_visible := zeroText_visible

theorem records_twoRecords (dedupEnabled : Bool) :
    (twoRecords dedupEnabled).records 0 = [firstQa, secondQa] := by
  rfl

theorem loadsTwo_firstQa : loadsTwo ((firstQa.withDocIdx 0).dumps zeroText) =
    some (firstQa.withDocIdx 0) := if_pos rfl

theorem loadsTwo_secondQa : loadsTwo ((secondQa.withDocIdx 0).dumps zeroText) =
    some (secondQa.withDocIdx 0) := by
  have hne : (secondQa.withDocIdx 0).dumps zeroText ≠ (firstQa.withDocIdx 0).dumps zeroText := by
    decide +kernel
  rw [loadsTwo, if_neg hne, if_pos rfl]

theorem readsBack_twoRecords (dedupEnabled : Bool) : (twoRecords dedupEnabled).ReadsBack twoQa := by
  intro docIdx hlt r hr
  obtain rfl : docIdx = 0 := Nat.lt_one_iff.mp hlt
  rw [records_twoRecords] at hr
  rcases List.mem_cons.mp hr with rfl | hr
  · exact loadsTwo_firstQa
  · obtain rfl := List.mem_singleton.mp hr
    exact loadsTwo_secondQa

/-- A crash that leaves the first record of two. -/
def cutRun : List QaAction :=
  [.start, .crashAppending 0 (logBytes twoQa [(firstQa, 0)]).length, .start, .processOne 0, .finish]

def firstAttempt : Producer where
  allQa := []
  seenHashes := []
  completedDocIdxs := []
  batch := []
  waiting := [0]
  batchesToSend := []
  queue := []
  ended := false

def secondAttempt : Producer where
  allQa := [firstQa.withDocIdx 0]
  seenHashes := [firstQa.hash twoQa.toKeyStdlib]
  completedDocIdxs := [0]
  batch := []
  waiting := [0]
  batchesToSend := []
  queue := replayBatches ([firstQa.withDocIdx 0].map withoutDocIdx)
  ended := false

theorem appended_firstAttempt : (twoRecords false).appended twoQa firstAttempt 0 =
    logBytes twoQa [(firstQa, 0)] ++ logBytes twoQa [(secondQa, 0)] := by
  have hadded : (twoRecords false).added twoQa firstAttempt 0 = [firstQa, secondQa] := rfl
  rw [appended_eq, hadded, ← logBytes_append]
  rfl

theorem resume_firstQa :
    (twoRecords false).resume twoQa (logBytes twoQa [(firstQa, 0)]) = some secondAttempt := by
  refine resume_logBytes ?_ (List.cons_ne_nil _ _)
  intro e he
  obtain rfl := List.mem_singleton.mp he
  exact loadsTwo_firstQa

theorem exec_cutRun : exec ((twoRecords false).step twoQa) QaTask.initial cutRun =
    ⟨logBytes twoQa [(firstQa, 0)],
      some ((twoRecords false).processOne twoQa secondAttempt 0).finish⟩ := by
  have hstart : (twoRecords false).resume twoQa [] = some firstAttempt := rfl
  have hfirst : 0 ∈ firstAttempt.waiting := List.mem_singleton_self 0
  have hsecond : 0 ∈ secondAttempt.waiting := List.mem_singleton_self 0
  have hnone : (twoRecords false).appended twoQa secondAttempt 0 = [] := rfl
  have hcut : cutBatches [] = ([], []) := cutBatches_of_lt (by decide)
  have hsend :
      ((twoRecords false).processOne twoQa secondAttempt 0).batchesToSend.flatten = [] := by
    have hbatches : ((twoRecords false).processOne twoQa secondAttempt 0).batchesToSend =
        [(cutBatches []).1] := rfl
    rw [hbatches, hcut]
    rfl
  rw [cutRun, exec_cons, QaTask.initial, step_start, hstart, exec_cons, step_crashAppending hfirst,
    appended_firstAttempt, List.take_left, List.nil_append, exec_cons, step_start, resume_firstQa,
    exec_cons, step_processOne hsecond, hnone, List.append_nil, exec_cons, step_finish rfl hsend,
    exec_nil]

/-- The second record is lost. -/
theorem qaProducer_loses_record :
    ¬ ∀ (py : QaStdlib) (task : QaTask), task.ReadsBack py → ∀ (run : List QaAction) (p : Producer),
      (exec (task.step py) QaTask.initial run).producer = some p → p.ended = true →
        task.IsExtraction py (exec (task.step py) QaTask.initial run).file p := by
  intro hall
  have h := hall twoQa (twoRecords false) (readsBack_twoRecords false) cutRun
  rw [exec_cutRun] at h
  obtain ⟨kept, hkept, hreturned, -⟩ := h _ rfl rfl
  have hall : kept.length = 2 := hkept.length_eq
  have hone := hreturned.length_eq
  rw [List.length_map, List.length_map, hall] at hone
  exact absurd hone (by decide)

/-- A crash that leaves nothing of the two records. -/
def cleanRun : List QaAction := [.start, .crashAppending 0 0, .start, .processOne 0, .finish]

theorem exec_cleanRun : exec ((twoRecords true).step twoQa) QaTask.initial cleanRun =
    ⟨(twoRecords true).appended twoQa firstAttempt 0,
      some ((twoRecords true).processOne twoQa firstAttempt 0).finish⟩ := by
  have hstart : (twoRecords true).resume twoQa [] = some firstAttempt := rfl
  have hfirst : 0 ∈ firstAttempt.waiting := List.mem_singleton_self 0
  have hsend : ((twoRecords true).processOne twoQa firstAttempt 0).batchesToSend.flatten = [] := by
    have hcut (batch : List Json) (h : batch.length < 50) :
        [(cutBatches batch).1].flatten = [] := by
      rw [cutBatches_of_lt h]
      rfl
    exact hcut _ (by decide)
  rw [cleanRun, exec_cons, QaTask.initial, step_start, hstart, exec_cons,
    step_crashAppending hfirst, List.take_zero, List.append_nil, exec_cons, step_start, hstart,
    exec_cons, step_processOne hfirst, List.nil_append, exec_cons, step_finish rfl hsend, exec_nil]

theorem admits_cleanRun :
    Admits ((twoRecords true).step twoQa) ((twoRecords true).CleanCut twoQa) QaTask.initial
      cleanRun :=
  ⟨trivial, fun _ _ => Or.inl rfl, trivial, trivial, trivial, trivial⟩

theorem qaProducer_extracts_two :
    (twoRecords true).IsExtraction twoQa
      (exec ((twoRecords true).step twoQa) QaTask.initial cleanRun).file
      ((twoRecords true).processOne twoQa firstAttempt 0).finish :=
  qaProducer_extracts_once twoQa (twoRecords true) (readsBack_twoRecords true)
    admits_cleanRun (congrArg QaState.producer exec_cleanRun) rfl

end Generation
