import TrainFactory.Generation.EvalData

/-!
# Resuming an export of evaluation data

An export that is resumed returns the evaluation records of all QA records, and passes over none that
is not in its file, exactly when no record shares its query and chunk id with an exported record
without being exported itself.
-/

namespace Generation

open Lib

variable {Embedding : Type} {clients : RetrievalClients Embedding}

/-! ## Evaluation records and their keys -/

structure IsRecordOf (record : QaRecord) (obj : Json) : Prop where
  query : obj.get? "query" = some (.str record.query)
  expectedOutput : obj.get? "expected_output" = some (.str record.answer)
  sourceChunkId : obj.get? "source_chunk_id" = some (textOrNull record.chunkId)

theorem evalRecord_eq_some {record : QaRecord} {obj : Json} (h : evalRecord clients record = some obj) :
    ∃ contexts : List String, obj = .obj
      [("query", .str record.query), ("expected_output", .str record.answer),
        ("retrieval_context", .arr (contexts.map .str)),
        ("source_chunk_id", textOrNull record.chunkId),
        ("source_chunk_content", .str record.chunkContent)] := by
  unfold evalRecord at h
  cases hcontexts : retrievalContext clients record with
  | nil =>
    rw [hcontexts] at h
    cases h
  | cons first contexts =>
    rw [hcontexts] at h
    exact ⟨first :: contexts, (Option.some.inj h).symm⟩

theorem isRecordOf_evalRecord {record : QaRecord} {obj : Json}
    (h : evalRecord clients record = some obj) : IsRecordOf record obj := by
  obtain ⟨contexts, rfl⟩ := evalRecord_eq_some h
  exact ⟨rfl, rfl, rfl⟩

/-- What tells records apart: query, answer and chunk id. -/
def identityOf (record : QaRecord) : String × String × Option String :=
  (record.query, record.answer, record.chunkId)

theorem textOrNull_inj {text text' : Option String} (h : textOrNull text = textOrNull text') :
    text = text' := by
  cases text with
  | none =>
    cases text' with
    | none => rfl
    | some text' => cases h
  | some text =>
    cases text' with
    | none => cases h
    | some text' =>
      rw [Json.str.inj h]

theorem identityOf_eq_of_isRecordOf {record record' : QaRecord} {obj : Json}
    (h : IsRecordOf record obj) (h' : IsRecordOf record' obj) :
    identityOf record = identityOf record' := by
  have hquery := Json.str.inj (Option.some.inj (h.query.symm.trans h'.query))
  have hanswer := Json.str.inj (Option.some.inj (h.expectedOutput.symm.trans h'.expectedOutput))
  have hchunk := textOrNull_inj (Option.some.inj (h.sourceChunkId.symm.trans h'.sourceChunkId))
  rw [identityOf, hquery, hanswer, hchunk, identityOf]

theorem exportedKey_eq {obj : Json} {query : String} {chunkId : Option String}
    (hobj : obj.isObj = true) (hquery : obj.getD "query" (.str "") = .str query)
    (hchunk : obj.getD "source_chunk_id" (.str "") = textOrNull chunkId) :
    exportedKey obj = some (if query = "" then none else some (query, chunkId)) := by
  unfold exportedKey
  dsimp only
  rw [if_pos hobj, hquery, hchunk]
  by_cases hempty : query = ""
  · rw [if_pos hempty, if_neg (by simp [Json.truthy, hempty])]
  · rw [if_neg hempty, if_pos (by simp [Json.truthy, hempty])]
    cases chunkId <;> rfl

theorem exportedKey_evalRecord {record : QaRecord} {obj : Json}
    (h : evalRecord clients record = some obj) :
    exportedKey obj = some (if record.query = "" then none else some (evalKey record)) := by
  obtain ⟨contexts, rfl⟩ := evalRecord_eq_some h
  exact exportedKey_eq rfl rfl rfl

theorem mem_candidateKeys {records : List QaRecord} {r : QaRecord} (hr : r ∈ records)
    (hquery : r.query ≠ "") : evalKey r ∈ candidateKeys records :=
  List.mem_map.mpr ⟨r, List.mem_filter.mpr ⟨hr, decide_eq_true hquery⟩, rfl⟩

/-! ## The file of the task -/

def keptOf (exported : List QaRecord) : List QaRecord := exported.filter fun r => r.query ≠ ""

theorem mem_keptOf {exported : List QaRecord} {r : QaRecord} :
    r ∈ keptOf exported ↔ r ∈ exported ∧ r.query ≠ "" := by
  rw [keptOf, List.mem_filter, decide_eq_true_eq]

theorem loadExport_saved {records exported : List QaRecord}
    (hsub : ∀ r ∈ exported, r ∈ records) (completedKeys : List (String × Option String))
    (evalRecords : List Json)
    (hsome : ∀ r ∈ exported, (evalRecord clients r).isSome = true) :
    loadExport (candidateKeys records) completedKeys evalRecords
        ((exported.filterMap (evalRecord clients)).map .value) =
      ⟨completedKeys ++ (keptOf exported).map evalKey,
        evalRecords ++ (keptOf exported).filterMap (evalRecord clients), false⟩ := by
  induction exported generalizing completedKeys evalRecords with
  | nil => simp [loadExport, keptOf]
  | cons r exported ih =>
    obtain ⟨obj, hobj⟩ := Option.isSome_iff_exists.mp (hsome r (List.mem_cons_self ..))
    have hrest := fun keys objs => ih (fun r' hr' => hsub r' (List.mem_cons_of_mem _ hr')) keys objs
      fun r' hr' => hsome r' (List.mem_cons_of_mem _ hr')
    rw [List.filterMap_cons_some hobj, List.map_cons, loadExport, exportedKey_evalRecord hobj]
    by_cases hempty : r.query = ""
    · have hkept : keptOf (r :: exported) = keptOf exported := by simp [keptOf, hempty]
      rw [if_pos hempty, hkept]
      exact hrest completedKeys evalRecords
    · have hkept : keptOf (r :: exported) = r :: keptOf exported := by simp [keptOf, hempty]
      have hcandidate := mem_candidateKeys (hsub r (List.mem_cons_self ..)) hempty
      rw [if_neg hempty, hkept]
      dsimp only
      rw [if_pos hcandidate, hrest, List.map_cons, List.filterMap_cons_some hobj, List.append_assoc,
        List.append_assoc]
      rfl

structure Saved (clients : RetrievalClients Embedding) (records exported : List QaRecord)
    (checkpoint : List CheckpointLine) : Prop where
  lines : checkpoint = (exported.filterMap (evalRecord clients)).map .value
  nodup : exported.Nodup
  subset : ∀ r ∈ exported, r ∈ records
  isSome : ∀ r ∈ exported, (evalRecord clients r).isSome = true

namespace Saved

variable {records exported finished : List QaRecord} {checkpoint : List CheckpointLine}

def added (clients : RetrievalClients Embedding) (fails : QaRecord → Bool)
    (exported finished : List QaRecord) : List QaRecord :=
  (leftOver evalKey ((keptOf exported).map evalKey) finished).filter fun r =>
    !fails r && (evalRecord clients r).isSome

theorem evalRecords_eq (h : Saved clients records exported checkpoint) (fails : QaRecord → Bool)
    (finished : List QaRecord) :
    (generateEvalDataBatch clients fails records finished checkpoint).evalRecords =
      (keptOf exported).filterMap (evalRecord clients) ++
        (leftOver evalKey ((keptOf exported).map evalKey) finished).filterMap fun r =>
          if fails r then none else evalRecord clients r := by
  unfold generateEvalDataBatch
  rw [h.lines, loadExport_saved h.subset [] [] h.isSome]
  rfl

theorem skipped_eq (h : Saved clients records exported checkpoint) (fails : QaRecord → Bool)
    (finished : List QaRecord) :
    (generateEvalDataBatch clients fails records finished checkpoint).skipped =
      finished.filter fun r => evalKey r ∈ (keptOf exported).map evalKey := by
  unfold generateEvalDataBatch
  rw [h.lines, loadExport_saved h.subset [] [] h.isSome]
  rfl

theorem evalRecords_eq_filterMap (h : Saved clients records exported checkpoint)
    (fails : QaRecord → Bool) (finished : List QaRecord) :
    (generateEvalDataBatch clients fails records finished checkpoint).evalRecords =
      (keptOf exported ++ added clients fails exported finished).filterMap (evalRecord clients) := by
  rw [h.evalRecords_eq, List.filterMap_append, added, List.filterMap_filter]
  congr 1
  refine List.filterMap_congr fun r _ => ?_
  cases hfails : fails r with
  | true => rfl
  | false =>
    cases hrecord : evalRecord clients r with
    | none => rfl
    | some obj => rfl

theorem run (h : Saved clients records exported checkpoint) (fails : QaRecord → Bool)
    (hnodup : records.Nodup) (hfinished : finished.Perm records) :
    ∃ exported', Saved clients records exported' (saveDeepEvalData checkpoint
      (generateEvalDataBatch clients fails records finished checkpoint).evalRecords) := by
  unfold saveDeepEvalData
  split_ifs
  · exact ⟨exported, h⟩
  · refine ⟨keptOf exported ++ added clients fails exported finished, ?_, ?_, ?_, ?_⟩
    · rw [h.evalRecords_eq_filterMap]
    · refine List.nodup_append.mpr ⟨h.nodup.filter _, ?_, fun r hr r' hr' heq => ?_⟩
      · exact ((hfinished.nodup_iff.mpr hnodup).filter _).filter _
      · -- what is added has none of the keys that are kept
        subst heq
        have hnew := (mem_leftOver.mp (List.mem_filter.mp hr').1).2
        exact hnew (List.mem_map.mpr ⟨r, hr, rfl⟩)
    · intro r hr
      rcases List.mem_append.mp hr with hr | hr
      · exact h.subset r (mem_keptOf.mp hr).1
      · exact hfinished.mem_iff.mp (mem_leftOver.mp (List.mem_filter.mp hr).1).1
    · intro r hr
      rcases List.mem_append.mp hr with hr | hr
      · exact h.isSome r (mem_keptOf.mp hr).1
      · have hadded := (List.mem_filter.mp hr).2
        rw [Bool.and_eq_true] at hadded
        exact hadded.2

end Saved

theorem Exported.exists_saved {records : List QaRecord} {checkpoint : List CheckpointLine}
    (hnodup : records.Nodup) (h : Exported clients records checkpoint) :
    ∃ exported, Saved clients records exported checkpoint := by
  induction h with
  | noFile => exact ⟨[], rfl, List.nodup_nil, by simp, by simp⟩
  | run fails _ hfinished ih =>
    obtain ⟨exported, hsaved⟩ := ih
    exact hsaved.run fails hnodup hfinished

/-! ## Resuming -/

variable {records finished : List QaRecord} {checkpoint : List CheckpointLine}

def IsExported (clients : RetrievalClients Embedding) (checkpoint : List CheckpointLine)
    (record : QaRecord) : Prop :=
  ∃ obj, evalRecord clients record = some obj ∧ .value obj ∈ checkpoint

/-- The result of a resumed export: the evaluation records of all records, each once, where no record
was passed over whose evaluation record is not in the file. -/
structure ResumesExport (clients : RetrievalClients Embedding) (records : List QaRecord)
    (checkpoint : List CheckpointLine) (result : EvalDataResult) : Prop where
  evalRecords : result.evalRecords.Perm (records.filterMap (evalRecord clients))
  skipped : ∀ r ∈ result.skipped, ∃ obj, .value obj ∈ checkpoint ∧ IsRecordOf r obj

namespace Saved

variable {exported : List QaRecord}

theorem exists_of_mem (h : Saved clients records exported checkpoint) {obj : Json}
    (hobj : .value obj ∈ checkpoint) : ∃ r ∈ exported, evalRecord clients r = some obj := by
  rw [h.lines] at hobj
  obtain ⟨obj', hobj', heq⟩ := List.mem_map.mp hobj
  rw [CheckpointLine.value.inj heq] at hobj'
  exact List.mem_filterMap.mp hobj'

theorem mem_of_isRecordOf (h : Saved clients records exported checkpoint)
    (hdistinct : (records.map identityOf).Nodup) {r : QaRecord} (hr : r ∈ records) {obj : Json}
    (hobj : .value obj ∈ checkpoint) (hrecord : IsRecordOf r obj) : r ∈ exported := by
  obtain ⟨e, he, heval⟩ := h.exists_of_mem hobj
  have hsame := identityOf_eq_of_isRecordOf (isRecordOf_evalRecord heval) hrecord
  rwa [List.inj_on_of_nodup_map hdistinct (h.subset e he) hr hsame] at he

theorem isExported_iff (h : Saved clients records exported checkpoint)
    (hdistinct : (records.map identityOf).Nodup) {r : QaRecord} (hr : r ∈ records) :
    IsExported clients checkpoint r ↔ r ∈ exported := by
  constructor
  · rintro ⟨obj, heval, hobj⟩
    exact h.mem_of_isRecordOf hdistinct hr hobj (isRecordOf_evalRecord heval)
  · intro hmem
    obtain ⟨obj, hobj⟩ := Option.isSome_iff_exists.mp (h.isSome r hmem)
    refine ⟨obj, hobj, ?_⟩
    rw [h.lines]
    exact List.mem_map.mpr ⟨obj, List.mem_filterMap.mpr ⟨r, hmem, hobj⟩, rfl⟩

theorem exists_of_key_mem {r : QaRecord} (hkey : evalKey r ∈ (keptOf exported).map evalKey) :
    r.query ≠ "" ∧ ∃ e ∈ exported, evalKey e = evalKey r := by
  obtain ⟨e, he, heq⟩ := List.mem_map.mp hkey
  obtain ⟨hexported, hquery⟩ := mem_keptOf.mp he
  have hsame : e.query = r.query := congrArg Prod.fst heq
  exact ⟨hsame ▸ hquery, e, hexported, heq⟩

end Saved

/-- A resumed export loses nothing exactly when a record with the query and the chunk id of an exported
record is exported, too. -/
theorem generateEvalDataBatch_resumes_iff (hdistinct : (records.map identityOf).Nodup)
    (hexported : Exported clients records checkpoint) (hfinished : finished.Perm records) :
    ResumesExport clients records checkpoint
        (generateEvalDataBatch clients (fun _ => false) records finished checkpoint) ↔
      ∀ r ∈ records, r.query ≠ "" → ∀ e ∈ records, IsExported clients checkpoint e →
        evalKey e = evalKey r → IsExported clients checkpoint r := by
  have hnodup : records.Nodup := hdistinct.of_map
  obtain ⟨exported, hsaved⟩ := hexported.exists_saved hnodup
  constructor
  · intro hresumes r hr hquery e he hexported heq
    have hkept : e ∈ keptOf exported := by
      have hsame : e.query = r.query := congrArg Prod.fst heq
      exact mem_keptOf.mpr ⟨(hsaved.isExported_iff hdistinct he).mp hexported, hsame ▸ hquery⟩
    have hskipped : r ∈
        (generateEvalDataBatch clients (fun _ => false) records finished checkpoint).skipped := by
      rw [hsaved.skipped_eq, List.mem_filter, decide_eq_true_eq]
      exact ⟨hfinished.mem_iff.mpr hr, List.mem_map.mpr ⟨e, hkept, heq⟩⟩
    obtain ⟨obj, hobj, hrecord⟩ := hresumes.skipped r hskipped
    exact (hsaved.isExported_iff hdistinct hr).mpr
      (hsaved.mem_of_isRecordOf hdistinct hr hobj hrecord)
  · intro hshared
    have hmem : ∀ r ∈ records, evalKey r ∈ (keptOf exported).map evalKey → r ∈ exported := by
      intro r hr hkey
      obtain ⟨hquery, e, he, heq⟩ := Saved.exists_of_key_mem hkey
      have hrecord := hsaved.subset e he
      exact (hsaved.isExported_iff hdistinct hr).mp (hshared r hr hquery e hrecord
        ((hsaved.isExported_iff hdistinct hrecord).mpr he) heq)
    have hapart : TellsApart (evalRecord clients) evalKey finished (keptOf exported)
        ((keptOf exported).map evalKey) := by
      intro r hr _
      constructor
      · intro hkey
        exact mem_keptOf.mpr
          ⟨hmem r (hfinished.mem_iff.mp hr) hkey, (Saved.exists_of_key_mem hkey).1⟩
      · exact fun hkept => List.mem_map.mpr ⟨r, hkept, rfl⟩
    refine ⟨?_, fun r hr => ?_⟩
    · rw [hsaved.evalRecords_eq]
      have hresume := resume_perm hapart (hfinished.nodup_iff.mpr hnodup) (hsaved.nodup.filter _)
        fun r hr => hfinished.mem_iff.mpr (hsaved.subset r (mem_keptOf.mp hr).1)
      exact hresume.trans (hfinished.filterMap _)
    · rw [hsaved.skipped_eq, List.mem_filter, decide_eq_true_eq] at hr
      have hrecord := hfinished.mem_iff.mp hr.1
      obtain ⟨obj, heval, hobj⟩ :=
        (hsaved.isExported_iff hdistinct hrecord).mpr (hmem r hrecord hr.2)
      exact ⟨obj, hobj, isRecordOf_evalRecord heval⟩

/-! ## Two answers to one query -/

/-- A store with one chunk, which every query finds. -/
def oneHit : RetrievalClients Unit where
  embed _ := some ()
  searchSimilar _ _ := some [["chunk"]]
  rerank := none
  rerankThreshold := 1

def answered (answer : String) : QaRecord :=
  { query := "q", answer := answer, chunkId := some "c", sourceDocId := none,
    chunkContent := "text" }

def exportedWithout (answer : String) (records : List QaRecord) : List CheckpointLine :=
  saveDeepEvalData []
    (generateEvalDataBatch oneHit (fun r => r.answer = answer) records records []).evalRecords

theorem exported_exportedWithout (answer : String) (records : List QaRecord) :
    Exported oneHit records (exportedWithout answer records) :=
  .run _ .noFile (List.Perm.refl _)

def otherQuery : QaRecord := { answered "b" with query := "p" }

/-- The record of the other query is missing in the file, and the resumed export adds it. -/
theorem generateEvalDataBatch_resumes_other :
    (exportedWithout "b" [answered "a", otherQuery]).length = 1 ∧
    ResumesExport oneHit [answered "a", otherQuery] (exportedWithout "b" [answered "a", otherQuery])
      (generateEvalDataBatch oneHit (fun _ => false) [answered "a", otherQuery]
        [otherQuery, answered "a"] (exportedWithout "b" [answered "a", otherQuery])) := by
  have hdistinct : ([answered "a", otherQuery].map identityOf).Nodup := by decide
  refine ⟨by decide, (generateEvalDataBatch_resumes_iff hdistinct
    (exported_exportedWithout "b" _) (List.Perm.swap _ _ _)).mpr ?_⟩
  intro r hr _ e he hexported hkey
  have hsame : e = r := by
    rcases List.mem_pair.mp hr with rfl | rfl <;> rcases List.mem_pair.mp he with rfl | rfl
    · rfl
    · exact absurd hkey (by decide)
    · exact absurd hkey (by decide)
    · rfl
  exact hsame ▸ hexported

/-- The answer that failed in the earlier run is lost, as its query and chunk are in the file with the
other answer. -/
theorem generateEvalDataBatch_loses :
    ([answered "a", answered "b"].map identityOf).Nodup ∧
    Exported oneHit [answered "a", answered "b"]
      (exportedWithout "b" [answered "a", answered "b"]) ∧
    ¬ ResumesExport oneHit [answered "a", answered "b"]
      (exportedWithout "b" [answered "a", answered "b"])
      (generateEvalDataBatch oneHit (fun _ => false) [answered "a", answered "b"]
        [answered "a", answered "b"] (exportedWithout "b" [answered "a", answered "b"])) := by
  refine ⟨by decide, exported_exportedWithout _ _, fun h => ?_⟩
  exact absurd h.evalRecords.length_eq (by decide)

end Generation
