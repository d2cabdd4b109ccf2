import TrainFactory.Generation.PosNeg

/-!
# Resuming the generation of samples

Generation that is resumed from a checkpoint returns one sample for each record that has one and makes
none again, if and only if the records have the keys of their samples and the last line of the
checkpoint, where it is not one of the formatted samples, does no harm.
-/

namespace Generation

open Lib

variable {py : KeyStdlib} {makeChunks : MakeChunks} {records completed : List QaRecord}

/-! ## Keys -/

def fingerprint (py : KeyStdlib) (query answer chunkId : String) : String :=
  py.md5 (join "\x1f" [strip (py.lower query), strip (py.lower answer), chunkId])

theorem textOr_textOrNull (text : Option String) : textOr (textOrNull text) = some (text.getD "") := by
  cases text with
  | none => rfl
  | some text => rfl

theorem truthy_textOrNull (text : Option String) :
    (textOrNull text).truthy = true ↔ text.getD "" ≠ "" := by
  cases text with
  | none => simp [textOrNull, Json.truthy]
  | some text => simp [textOrNull, Json.truthy]

theorem dedupHash_eq (py : KeyStdlib) (record : QaRecord) :
    record.dedupHash py =
      some (fingerprint py record.query record.answer (record.chunkId.getD "")) := by
  have hchunk : record.toJson.getD "chunk_id" .null = textOrNull record.chunkId := rfl
  rw [QaRecord.dedupHash, hchunk, qaDedupHash, textOr_textOrNull]
  rfl

theorem sampleOf_eq_some {record : QaRecord} {sample : GeneratedSample}
    (h : sampleOf makeChunks record = some sample) :
    sample.query = .str record.query ∧ sample.answer = .str record.answer ∧
      sample.sourceDocId = textOrNull record.chunkId := by
  obtain ⟨chunks, -, rfl⟩ := Option.map_eq_some_iff.mp h
  exact ⟨rfl, rfl, rfl⟩

theorem isSome_sampleOf (record : QaRecord) :
    (sampleOf makeChunks record).isSome = (makeChunks record).isSome := by
  rw [sampleOf, Option.isSome_map]

/-- The sample as the loader reads it: without a chunk id it has an empty one. -/
def GeneratedSample.restored (sample : GeneratedSample) : GeneratedSample :=
  { sample with
    sourceDocId := if sample.sourceDocId.truthy then sample.sourceDocId else .str "" }

theorem restored_restored (sample : GeneratedSample) :
    sample.restored.restored = sample.restored := by
  unfold GeneratedSample.restored
  by_cases h : sample.sourceDocId.truthy = true
  · simp only [if_pos h]
  · have hempty : ¬ (Json.str "").truthy = true := Bool.false_ne_true
    simp only [if_neg h, if_neg hempty]

theorem checkpointKey_formatSample {record : QaRecord} {sample : GeneratedSample}
    (h : sampleOf makeChunks record = some sample) :
    qaCheckpointKey py (formatSample sample) = record.dedupHash py := by
  obtain ⟨hquery, hanswer, hsource⟩ := sampleOf_eq_some h
  have hkey : qaCheckpointKey py (formatSample sample) =
      qaDedupHash py sample.query sample.answer
        (if sample.sourceDocId.truthy then sample.sourceDocId else .str "") := rfl
  have hid : textOr (if sample.sourceDocId.truthy then sample.sourceDocId else .str "") =
      some (record.chunkId.getD "") := by
    rw [hsource]
    by_cases hne : (textOrNull record.chunkId).truthy = true
    · rw [if_pos hne, textOr_textOrNull]
    · rw [if_neg hne]
      rw [truthy_textOrNull, ne_eq, not_not] at hne
      rw [hne]
      rfl
  rw [hkey, dedupHash_eq, hquery, hanswer, qaDedupHash, hid]
  rfl

theorem resumedSample_formatSample {record : QaRecord} {sample : GeneratedSample} {key : String}
    (h : sampleOf makeChunks record = some sample) (hkey : record.dedupHash py = some key) :
    resumedSample py (formatSample sample) = some (key, sample.restored) := by
  have hcheckpoint : qaCheckpointKey py (formatSample sample) = some key :=
    (checkpointKey_formatSample h).trans hkey
  unfold formatSample at hcheckpoint ⊢
  unfold resumedSample
  dsimp only
  rw [hcheckpoint]
  rfl

/-! ## The checkpoint -/

def checkpointLines (makeChunks : MakeChunks) (completed : List QaRecord) : List CheckpointLine :=
  completed.filterMap fun record =>
    (sampleOf makeChunks record).map fun sample => .value (formatSample sample)

def restoredSampleOf (makeChunks : MakeChunks) (record : QaRecord) : Option GeneratedSample :=
  (sampleOf makeChunks record).map GeneratedSample.restored

theorem isSome_restoredSampleOf (record : QaRecord) :
    (restoredSampleOf makeChunks record).isSome = (makeChunks record).isSome := by
  rw [restoredSampleOf, Option.isSome_map, isSome_sampleOf]

def completedKeys (py : KeyStdlib) (completed : List QaRecord) : List String :=
  completed.filterMap fun record => record.dedupHash py

theorem loadLines_completed (hsamples : ∀ r ∈ completed, (makeChunks r).isSome = true)
    (completedQaKeys : List String) (samples : List GeneratedSample) (tail : List CheckpointLine) :
    loadLines py completedQaKeys samples (checkpointLines makeChunks completed ++ tail) =
      loadLines py (completedQaKeys ++ completedKeys py completed)
        (samples ++ completed.filterMap (restoredSampleOf makeChunks)) tail := by
  induction completed generalizing completedQaKeys samples with
  | nil => simp [checkpointLines, completedKeys]
  | cons record completed ih =>
    have hsome : (sampleOf makeChunks record).isSome = true := by
      rw [isSome_sampleOf]
      exact hsamples record (List.mem_cons_self ..)
    obtain ⟨sample, hsample⟩ := Option.isSome_iff_exists.mp hsome
    have hkey := dedupHash_eq py record
    have hlines : checkpointLines makeChunks (record :: completed) =
        .value (formatSample sample) :: checkpointLines makeChunks completed := by
      rw [checkpointLines, List.filterMap_cons_some (by rw [hsample]; rfl), checkpointLines]
    have hrestored : restoredSampleOf makeChunks record = some sample.restored := by
      rw [restoredSampleOf, hsample]
      rfl
    rw [hlines, List.cons_append, loadLines, resumedSample_formatSample hsample hkey]
    dsimp only
    rw [ih fun r hr => hsamples r (List.mem_cons_of_mem _ hr)]
    have hkeys : completedKeys py (record :: completed) =
        fingerprint py record.query record.answer (record.chunkId.getD "") ::
          completedKeys py completed := by
      rw [completedKeys, List.filterMap_cons_some hkey, completedKeys]
    rw [hkeys, List.filterMap_cons_some hrestored, List.append_assoc, List.append_assoc]
    rfl

theorem map_completedKeys (py : KeyStdlib) (completed : List QaRecord) :
    (completedKeys py completed).map some = completed.map (QaRecord.dedupHash py) := by
  induction completed with
  | nil => rfl
  | cons record completed ih =>
    have hkey := dedupHash_eq py record
    rw [completedKeys, List.filterMap_cons_some hkey, List.map_cons, List.map_cons, hkey]
    rw [completedKeys] at ih
    rw [ih]

theorem completedKeys_eq_nil_iff : completedKeys py completed = [] ↔ completed = [] := by
  rw [← List.map_eq_nil_iff (f := some), map_completedKeys, List.map_eq_nil_iff]

/-! ## The two callers -/

def resumedFrom (py : KeyStdlib) (makeChunks : MakeChunks) (records : List QaRecord)
    (completedQaKeys : List String) (samples : List GeneratedSample) : PosNegResult where
  samples := samples ++
    (leftOver (QaRecord.checkpointKey py) (completedQaKeys.map some) records).filterMap
      (sampleOf makeChunks)
  generated := leftOver (QaRecord.checkpointKey py) (completedQaKeys.map some) records

theorem leftOver_nil (key : QaRecord → Option String) (records : List QaRecord) :
    leftOver key [] records = records := by
  simp [leftOver]

theorem leftOver_append (key : QaRecord → Option String) (keys : List (Option String))
    (records records' : List QaRecord) :
    leftOver key keys (records ++ records') = leftOver key keys records ++ leftOver key keys records' :=
  List.filter_append ..

theorem consumeBatches_eq (executeBatch : List QaRecord → Option (List QaRecord))
    (completedQaKeys : List String) (result : PosNegResult) (batches : List (List QaRecord)) :
    let left := leftOver (QaRecord.checkpointKey py) (completedQaKeys.map some)
      (batches.flatMap fun batch => (executeBatch batch).getD [])
    consumeBatches py makeChunks executeBatch completedQaKeys result batches =
      { samples := result.samples ++ left.filterMap (sampleOf makeChunks)
        generated := result.generated ++ left } := by
  induction batches generalizing result with
  | nil => simp [consumeBatches, leftOver]
  | cons batch batches ih =>
    dsimp only at ih ⊢
    rw [consumeBatches, List.flatMap_cons, leftOver_append]
    cases hfiltered : executeBatch batch with
    | none =>
      dsimp only
      rw [ih, Option.getD_none]
      rfl
    | some filtered =>
      dsimp only
      rw [Option.getD_some]
      by_cases hnew : leftOver (QaRecord.checkpointKey py) (completedQaKeys.map some) filtered = []
      · rw [if_pos hnew, ih, hnew, List.nil_append]
      · have hgenerated : generatePosNegBatch py makeChunks
            (leftOver (QaRecord.checkpointKey py) (completedQaKeys.map some) filtered) [] true =
            { samples := (leftOver (QaRecord.checkpointKey py) (completedQaKeys.map some)
                filtered).filterMap (sampleOf makeChunks)
              generated := leftOver (QaRecord.checkpointKey py) (completedQaKeys.map some)
                filtered } := by
          simp [generatePosNegBatch, leftOver_nil]
        rw [if_neg hnew, ih, hgenerated, List.filterMap_append, List.append_assoc,
          List.append_assoc]

/-! ## The last line -/

/-- What the loader makes of a line behind the samples: nothing, or a key with a sample; `none` where
it raises. -/
def furtherSample (py : KeyStdlib) :
    Option CheckpointLine → Option (Option (String × GeneratedSample))
  | none => some none
  | some .blank => some none
  | some .malformed => some none
  | some .unreadable => none
  | some (.value obj) => (resumedSample py obj).map some

theorem loadLines_further (completedQaKeys : List String) (samples : List GeneratedSample)
    (lastLine : Option CheckpointLine) :
    loadLines py completedQaKeys samples lastLine.toList =
      match furtherSample py lastLine with
      | none => ⟨completedQaKeys, samples, true⟩
      | some none => ⟨completedQaKeys, samples, false⟩
      | some (some (key, sample)) => ⟨completedQaKeys ++ [key], samples ++ [sample], false⟩ := by
  cases lastLine with
  | none => rfl
  | some line =>
    cases line with
    | blank => rfl
    | malformed => rfl
    | unreadable => rfl
    | value obj =>
      rw [Option.toList_some, loadLines, furtherSample]
      cases resumedSample py obj with
      | none => rfl
      | some further => rfl

theorem restored_of_resumedSample {obj : Json} {key : String} {sample : GeneratedSample}
    (h : resumedSample py obj = some (key, sample)) : sample.restored = sample := by
  unfold resumedSample at h
  split at h
  · dsimp only at h
    split at h
    · split at h
      · cases h
      · cases h
        exact restored_restored ⟨_, _, _, _, _⟩
    · cases h
  · cases h

theorem restored_of_furtherSample {lastLine : Option CheckpointLine} {key : String}
    {sample : GeneratedSample} (h : furtherSample py lastLine = some (some (key, sample))) :
    sample.restored = sample := by
  cases lastLine with
  | none => cases h
  | some line =>
    cases line with
    | blank => cases h
    | malformed => cases h
    | unreadable => cases h
    | value obj =>
      obtain ⟨further, hread, heq⟩ := Option.map_eq_some_iff.mp h
      rw [Option.some.inj heq] at hread
      exact restored_of_resumedSample hread

/-! ## Resuming -/

/-- The result of a resumed generation: the samples have the keys of their records, there is one for
each record that has one, and no completed record is generated again. -/
structure Resumes (py : KeyStdlib) (makeChunks : MakeChunks) (records completed : List QaRecord)
    (result : PosNegResult) : Prop where
  keys : ∀ r ∈ records, ∀ sample, sampleOf makeChunks r = some sample →
    qaCheckpointKey py (formatSample sample) = r.checkpointKey py
  samples : (result.samples.map GeneratedSample.restored).Perm
    ((records.filterMap (sampleOf makeChunks)).map GeneratedSample.restored)
  generated : ∀ r ∈ result.generated, r ∉ completed

/-- The records that have a sample do not take their id from their metadata. -/
def OwnKeys (py : KeyStdlib) (makeChunks : MakeChunks) (records : List QaRecord) : Prop :=
  ∀ r ∈ records, (makeChunks r).isSome = true → r.checkpointKey py = r.dedupHash py

/-- A last line does no harm: it is no JSON text, or the sample of a record that is not completed, or
the loader raises and has nothing to lose. -/
def IsHarmless (py : KeyStdlib) (makeChunks : MakeChunks) (records completed : List QaRecord)
    (lastLine : Option CheckpointLine) : Prop :=
  match furtherSample py lastLine with
  | none => completed = []
  | some none => True
  | some (some (key, sample)) => ∃ r ∈ records, r ∉ completed ∧ r.checkpointKey py = some key ∧
      restoredSampleOf makeChunks r = some sample

structure Interrupted (py : KeyStdlib) (makeChunks : MakeChunks)
    (records completed : List QaRecord) : Prop where
  distinct : (records.map (QaRecord.dedupHash py)).Nodup
  nodup : completed.Nodup
  subset : ∀ r ∈ completed, r ∈ records
  isSome : ∀ r ∈ completed, (makeChunks r).isSome = true

theorem ownKeys_iff : OwnKeys py makeChunks records ↔
    ∀ r ∈ records, ∀ sample, sampleOf makeChunks r = some sample →
      qaCheckpointKey py (formatSample sample) = r.checkpointKey py := by
  constructor
  · intro h r hr sample hsample
    have hsome : (makeChunks r).isSome = true := by
      rw [← isSome_sampleOf, hsample]
      rfl
    rw [checkpointKey_formatSample hsample, h r hr hsome]
  · intro h r hr hsome
    rw [← isSome_sampleOf] at hsome
    obtain ⟨sample, hsample⟩ := Option.isSome_iff_exists.mp hsome
    rw [← h r hr sample hsample, checkpointKey_formatSample hsample]

namespace Interrupted

theorem eq_of_dedupHash (hI : Interrupted py makeChunks records completed) {r r' : QaRecord}
    (hr : r ∈ records) (hr' : r' ∈ records) (h : r.dedupHash py = r'.dedupHash py) : r = r' :=
  List.inj_on_of_nodup_map hI.distinct hr hr' h

theorem tellsApart (hI : Interrupted py makeChunks records completed)
    (hown : OwnKeys py makeChunks records) :
    TellsApart (restoredSampleOf makeChunks) (QaRecord.checkpointKey py) records completed
      ((completedKeys py completed).map some) := by
  intro r hr hsome
  rw [isSome_restoredSampleOf] at hsome
  rw [map_completedKeys, hown r hr hsome]
  constructor
  · intro hmem
    obtain ⟨r', hr', heq⟩ := List.mem_map.mp hmem
    rwa [hI.eq_of_dedupHash (hI.subset r' hr') hr heq] at hr'
  · exact fun hmem => List.mem_map.mpr ⟨r, hmem, rfl⟩

end Interrupted

theorem map_restored_filterMap (rs : List QaRecord) :
    (rs.filterMap (sampleOf makeChunks)).map GeneratedSample.restored =
      rs.filterMap (restoredSampleOf makeChunks) := by
  rw [List.map_filterMap]
  rfl

theorem map_restored_restoredSampleOf (rs : List QaRecord) :
    (rs.filterMap (restoredSampleOf makeChunks)).map GeneratedSample.restored =
      rs.filterMap (restoredSampleOf makeChunks) := by
  rw [List.map_filterMap]
  refine List.filterMap_congr fun r _ => ?_
  rw [restoredSampleOf, Option.map_map]
  congr 1
  funext sample
  exact restored_restored sample

namespace Interrupted

theorem not_completed_of_generated (hI : Interrupted py makeChunks records completed)
    (hown : OwnKeys py makeChunks records) {keys : List (Option String)}
    (hkeys : ∀ r ∈ completed, r.dedupHash py ∈ keys) {r : QaRecord}
    (hr : r ∈ leftOver (QaRecord.checkpointKey py) keys records) : r ∉ completed := by
  intro hmem
  obtain ⟨hrecord, hnew⟩ := mem_leftOver.mp hr
  rw [hown r hrecord (hI.isSome r hmem)] at hnew
  exact hnew (hkeys r hmem)

theorem nodup_records (hI : Interrupted py makeChunks records completed) : records.Nodup :=
  hI.distinct.of_map

theorem resumes_completed (hI : Interrupted py makeChunks records completed)
    (hown : OwnKeys py makeChunks records) :
    Resumes py makeChunks records completed
      (resumedFrom py makeChunks records (completedKeys py completed)
        (completed.filterMap (restoredSampleOf makeChunks))) where
  keys := ownKeys_iff.mp hown
  samples := by
    rw [resumedFrom, List.map_append, map_restored_restoredSampleOf, map_restored_filterMap,
      map_restored_filterMap]
    exact resume_perm (hI.tellsApart hown) hI.nodup_records hI.nodup hI.subset
  generated r hr := by
    refine hI.not_completed_of_generated hown (fun r' hr' => ?_) hr
    rw [map_completedKeys]
    exact List.mem_map.mpr ⟨r', hr', rfl⟩

theorem resumes_raised_iff (hI : Interrupted py makeChunks records completed)
    (hown : OwnKeys py makeChunks records) {samples : List GeneratedSample}
    (hsamples : completed = [] → samples = []) :
    Resumes py makeChunks records completed (resumedFrom py makeChunks records [] samples) ↔
      completed = [] := by
  constructor
  · intro h
    rw [List.eq_nil_iff_forall_not_mem]
    intro r hr
    refine h.generated r ?_ hr
    rw [resumedFrom, List.map_nil, leftOver_nil]
    exact hI.subset r hr
  · intro hnil
    subst hnil
    rw [hsamples rfl]
    exact hI.resumes_completed hown

theorem resumes_further_iff (hI : Interrupted py makeChunks records completed)
    (hown : OwnKeys py makeChunks records) {key : String} {sample : GeneratedSample}
    (hsample : sample.restored = sample) :
    Resumes py makeChunks records completed
        (resumedFrom py makeChunks records (completedKeys py completed ++ [key])
          (completed.filterMap (restoredSampleOf makeChunks) ++ [sample])) ↔
      ∃ r ∈ records, r ∉ completed ∧ r.checkpointKey py = some key ∧
        restoredSampleOf makeChunks r = some sample := by
  have hdistinct : ∀ r ∈ records, ∀ r' ∈ records,
      (restoredSampleOf makeChunks r).isSome = true →
      (restoredSampleOf makeChunks r').isSome = true →
      r.checkpointKey py = r'.checkpointKey py → r = r' := by
    intro r hr r' hr' hsome hsome' heq
    rw [isSome_restoredSampleOf] at hsome hsome'
    rw [hown r hr hsome, hown r' hr' hsome'] at heq
    exact hI.eq_of_dedupHash hr hr' heq
  rw [← resume_further_iff (hI.tellsApart hown) hI.nodup_records hI.nodup hI.subset hdistinct sample
    (some key)]
  have hkeys : (completedKeys py completed ++ [key]).map some =
      (completedKeys py completed).map some ++ [some key] := by
    rw [List.map_append]
    rfl
  have hresult : (resumedFrom py makeChunks records (completedKeys py completed ++ [key])
      (completed.filterMap (restoredSampleOf makeChunks) ++ [sample])).samples.map
        GeneratedSample.restored =
      completed.filterMap (restoredSampleOf makeChunks) ++ sample ::
        (leftOver (QaRecord.checkpointKey py) ((completedKeys py completed).map some ++ [some key])
          records).filterMap (restoredSampleOf makeChunks) := by
    rw [resumedFrom, hkeys, List.map_append, List.map_append, map_restored_restoredSampleOf,
      map_restored_filterMap, List.map_singleton, hsample, List.append_assoc]
    rfl
  constructor
  · intro h
    have hperm := h.samples
    rwa [hresult, map_restored_filterMap] at hperm
  · intro h
    refine ⟨ownKeys_iff.mp hown, by rwa [hresult, map_restored_filterMap], fun r hr => ?_⟩
    refine hI.not_completed_of_generated hown (fun r' hr' => ?_) hr
    rw [hkeys, map_completedKeys]
    exact List.mem_append_left _ (List.mem_map.mpr ⟨r', hr', rfl⟩)

end Interrupted

/-- What both callers do with the checkpoint: they differ in the samples that they keep when the
loader raises. -/
theorem resumes_loaded_iff (hI : Interrupted py makeChunks records completed)
    (lastLine : Option CheckpointLine) {result : PosNegResult} {kept : List GeneratedSample}
    (hkept : completed = [] → kept = [])
    (hresult : result = match furtherSample py lastLine with
      | none => resumedFrom py makeChunks records [] kept
      | some none => resumedFrom py makeChunks records (completedKeys py completed)
          (completed.filterMap (restoredSampleOf makeChunks))
      | some (some (key, sample)) =>
        resumedFrom py makeChunks records (completedKeys py completed ++ [key])
          (completed.filterMap (restoredSampleOf makeChunks) ++ [sample])) :
    Resumes py makeChunks records completed result ↔
      OwnKeys py makeChunks records ∧ IsHarmless py makeChunks records completed lastLine := by
  rw [hresult, IsHarmless]
  constructor
  · intro h
    have hown : OwnKeys py makeChunks records := ownKeys_iff.mpr h.keys
    refine ⟨hown, ?_⟩
    cases hfurther : furtherSample py lastLine with
    | none =>
      rw [hfurther] at h
      exact (hI.resumes_raised_iff hown hkept).mp h
    | some further =>
      rw [hfurther] at h
      cases further with
      | none => trivial
      | some further =>
        exact (hI.resumes_further_iff hown (restored_of_furtherSample hfurther)).mp h
  · rintro ⟨hown, h⟩
    cases hfurther : furtherSample py lastLine with
    | none =>
      rw [hfurther] at h
      exact (hI.resumes_raised_iff hown hkept).mpr h
    | some further =>
      rw [hfurther] at h
      cases further with
      | none => exact hI.resumes_completed hown
      | some further =>
        exact (hI.resumes_further_iff hown (restored_of_furtherSample hfurther)).mpr h

theorem generatePosNegBatch_eq (hI : Interrupted py makeChunks records completed)
    (lastLine : Option CheckpointLine) :
    generatePosNegBatch py makeChunks records
        (checkpointLines makeChunks completed ++ lastLine.toList) false =
      match furtherSample py lastLine with
      | none => resumedFrom py makeChunks records [] []
      | some none => resumedFrom py makeChunks records (completedKeys py completed)
          (completed.filterMap (restoredSampleOf makeChunks))
      | some (some (key, sample)) =>
        resumedFrom py makeChunks records (completedKeys py completed ++ [key])
          (completed.filterMap (restoredSampleOf makeChunks) ++ [sample]) := by
  have hloaded := @loadLines_completed py _ _ hI.isSome [] [] lastLine.toList
  rw [List.nil_append, List.nil_append, loadLines_further] at hloaded
  simp only [generatePosNegBatch, Bool.false_eq_true, if_false, hloaded]
  cases furtherSample py lastLine with
  | none => rfl
  | some further =>
    cases further with
    | none =>
      dsimp only
      by_cases hempty : completedKeys py completed = []
      · have hnone : completed = [] := completedKeys_eq_nil_iff.mp hempty
        subst hnone
        rfl
      · simp only [Bool.false_eq_true, if_false, if_neg hempty]
        rfl
    | some further =>
      dsimp only
      have hne : completedKeys py completed ++ [further.1] ≠ [] := by simp
      simp only [Bool.false_eq_true, if_false, if_neg hne]
      rfl

theorem filterAndPosNegConsumer_eq (hI : Interrupted py makeChunks records completed)
    (lastLine : Option CheckpointLine) (executeBatch : List QaRecord → Option (List QaRecord))
    {batches : List (List QaRecord)}
    (hbatches : (batches.flatMap fun batch => (executeBatch batch).getD []) = records) :
    filterAndPosNegConsumer py makeChunks executeBatch
        (checkpointLines makeChunks completed ++ lastLine.toList) batches =
      match furtherSample py lastLine with
      | none => resumedFrom py makeChunks records []
          (completed.filterMap (restoredSampleOf makeChunks))
      | some none => resumedFrom py makeChunks records (completedKeys py completed)
          (completed.filterMap (restoredSampleOf makeChunks))
      | some (some (key, sample)) =>
        resumedFrom py makeChunks records (completedKeys py completed ++ [key])
          (completed.filterMap (restoredSampleOf makeChunks) ++ [sample]) := by
  have hloaded := @loadLines_completed py _ _ hI.isSome [] [] lastLine.toList
  rw [List.nil_append, List.nil_append, loadLines_further] at hloaded
  rw [filterAndPosNegConsumer, hloaded, consumeBatches_eq, hbatches]
  cases furtherSample py lastLine with
  | none => rfl
  | some further =>
    cases further with
    | none => rfl
    | some further => rfl

/-- Both callers resume an interrupted generation if and only if the records have the keys of their
samples and the last line of the checkpoint is harmless. -/
theorem posNeg_resumes_iff (hI : Interrupted py makeChunks records completed)
    (lastLine : Option CheckpointLine) (executeBatch : List QaRecord → Option (List QaRecord))
    {batches : List (List QaRecord)}
    (hbatches : (batches.flatMap fun batch => (executeBatch batch).getD []) = records) :
    (Resumes py makeChunks records completed
        (generatePosNegBatch py makeChunks records
          (checkpointLines makeChunks completed ++ lastLine.toList) false) ↔
      OwnKeys py makeChunks records ∧ IsHarmless py makeChunks records completed lastLine) ∧
    (Resumes py makeChunks records completed
        (filterAndPosNegConsumer py makeChunks executeBatch
          (checkpointLines makeChunks completed ++ lastLine.toList) batches) ↔
      OwnKeys py makeChunks records ∧ IsHarmless py makeChunks records completed lastLine) := by
  refine ⟨resumes_loaded_iff hI lastLine (fun _ => rfl) (generatePosNegBatch_eq hI lastLine),
    resumes_loaded_iff hI lastLine (fun hnil => ?_)
      (filterAndPosNegConsumer_eq hI lastLine executeBatch hbatches)⟩
  rw [hnil]
  rfl

/-! ## Two records -/

def twoDigests : KeyStdlib where
  lower text := text
  md5 text :=
    if text = "q\x1fa\x1fc1" then "b7f6da44d68122812902cac9c48d3289"
    else if text = "q\x1fa\x1fd1" then "2a220148d34eb2ab6c06f7ccea62087d"
    else "6fcb76595f216104b441ff473c3683da"

def chunkRecord : QaRecord :=
  { query := "q", answer := "a", chunkId := some "c1", sourceDocId := none, chunkContent := "text" }

def metadataRecord : QaRecord :=
  { query := "q", answer := "a", chunkId := none, sourceDocId := some "d1", chunkContent := "text" }

def oneChunk : MakeChunks := fun record => some ([record.chunkContent], [])

theorem interrupted_one (record : QaRecord) :
    Interrupted twoDigests oneChunk [record] [record] where
  distinct := List.nodup_singleton _
  nodup := List.nodup_singleton _
  subset _ h := h
  isSome _ _ := rfl

theorem posNeg_resumes_chunkRecord :
    Resumes twoDigests oneChunk [chunkRecord] [chunkRecord]
      (generatePosNegBatch twoDigests oneChunk [chunkRecord]
        (checkpointLines oneChunk [chunkRecord] ++ [.malformed]) false) := by
  refine (@posNeg_resumes_iff twoDigests oneChunk [chunkRecord] [chunkRecord]
    (interrupted_one chunkRecord) (some .malformed) some [[chunkRecord]] rfl).1.mpr ⟨?_, trivial⟩
  intro r hr _
  rw [List.mem_singleton.mp hr]
  decide

/-- A number behind the samples makes the consumer return the sample of a completed record twice, and a
record with the id of its metadata has not the key of its sample. -/
theorem posNeg_not_resumed :
    Interrupted twoDigests oneChunk [chunkRecord] [chunkRecord] ∧
    ¬ Resumes twoDigests oneChunk [chunkRecord] [chunkRecord]
      (filterAndPosNegConsumer twoDigests oneChunk some
        (checkpointLines oneChunk [chunkRecord] ++ [.value (.int 1)]) [[chunkRecord]]) ∧
    Interrupted twoDigests oneChunk [metadataRecord] [metadataRecord] ∧
    ¬ Resumes twoDigests oneChunk [metadataRecord] [metadataRecord]
      (generatePosNegBatch twoDigests oneChunk [metadataRecord]
        (checkpointLines oneChunk [metadataRecord]) false) := by
  refine ⟨interrupted_one _, fun h => ?_, interrupted_one _, fun h => ?_⟩
  · have htwice : (filterAndPosNegConsumer twoDigests oneChunk some
        (checkpointLines oneChunk [chunkRecord] ++ [.value (.int 1)])
        [[chunkRecord]]).samples.length = 2 := by decide
    have hlength := h.samples.length_eq
    rw [List.length_map, htwice] at hlength
    exact absurd hlength (by decide)
  · have hkeys := h.keys metadataRecord (List.mem_singleton_self _) _ rfl
    exact absurd hkeys (by decide)

end Generation
