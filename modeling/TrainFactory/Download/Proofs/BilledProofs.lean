import TrainFactory.Download.Workers

/-!
# Downloaded bytes stay billed

An admission or a resize keeps what is stored and reserved within the limits. What a worker still
has to record of its directory is an invariant of its phase (`ModelOk`, `DatasetOk`), which the
steps keep that meet `Safe`; without a reservation nothing is left to record.
-/

namespace Download

open Lib

variable {settings : Settings}

/-! ## The limits -/

theorem enforceLimits_isOk {projectedGlobal projectedUser : Nat}
    (h : (enforceLimits settings projectedGlobal projectedUser).isOk = true) :
    projectedUser ≤ settings.downloadStorageMaxBytesPerUser ∧
      projectedGlobal ≤ settings.downloadStorageMaxBytesGlobal := by
  unfold enforceLimits at h
  split_ifs at h with hglobal huser
  · exact absurd h (by simp [Except.isOk, Except.toBool])
  · exact absurd h (by simp [Except.isOk, Except.toBool])
  · omega

theorem resize_isOk {s : State} {userId : Option UserId} {reservation : Option Nat}
    {actualBytes : Nat} (h : (resize settings s userId reservation actualBytes).isOk = true) :
    ∃ currentBytes, reservation = some currentBytes ∧
      s.heldUser userId - currentBytes + actualBytes ≤ settings.downloadStorageMaxBytesPerUser ∧
      s.heldGlobal - currentBytes + actualBytes ≤ settings.downloadStorageMaxBytesGlobal := by
  unfold resize at h
  cases reservation with
  | none => exact absurd h (by simp [Except.isOk, Except.toBool])
  | some currentBytes => exact ⟨currentBytes, rfl, enforceLimits_isOk h⟩

theorem verifyMeasured_isOk {s : State} {userId : Option UserId} {reservation : Option Nat}
    {actualBytes maxBytes : Nat}
    (h : (verifyMeasured settings s userId reservation actualBytes maxBytes).isOk = true) :
    (resize settings s userId reservation actualBytes).isOk = true := by
  unfold verifyMeasured at h
  split_ifs at h with hmax
  · exact absurd h (by simp [Except.isOk, Except.toBool])
  · exact h

theorem sumBy_insertNew {R : Type} [Keyed R String] {rows : Table R} {r : R}
    (h : (rows.lookup (Keyed.key r)).isNone) (g : R → Nat) :
    (insertNew rows r).sumBy g = rows.sumBy g + g r := by
  obtain ⟨rows', hrows⟩ := Table.exists_insert (Table.lookup_eq_none.mp (by simpa using h))
  rw [insertNew, hrows]
  exact Table.sumBy_insert hrows g

theorem le_sumBy_nat {R : Type} [Keyed R String] {rows : Table R} {r : R} (h : r ∈ rows)
    (g : R → Nat) : g r ≤ rows.sumBy g :=
  List.single_le_sum (fun _ _ => Nat.zero_le _) _ (List.mem_map_of_mem h)

/-! ### Reservations that are replaced -/

section Replaced

variable {s : State} {currentBytes actualBytes : Nat}

theorem held_updateModel {d : ModelDownload} (hd : d ∈ s.models) {f : ModelDownload → ModelDownload}
    (hf : ∀ d, Keyed.key (f d) = Keyed.key d) (huser : (f d).userId = d.userId)
    (hheld : (f d).held + currentBytes = d.held + actualBytes) :
    { s with models := s.models.update d.modelId f hf }.heldGlobal + currentBytes =
        s.heldGlobal + actualBytes ∧
      { s with models := s.models.update d.modelId f hf }.heldUser d.userId + currentBytes =
        s.heldUser d.userId + actualBytes := by
  have hglobal := Table.sumBy_update_add hd f hf ModelDownload.held
  have hown := Table.sumBy_update_add hd f hf fun d' => if d'.userId = d.userId then d'.held else 0
  rw [huser, if_pos rfl, if_pos rfl] at hown
  rw [key_modelDownload] at hglobal hown
  unfold State.heldGlobal State.heldUser
  dsimp only
  omega

theorem held_updateDataset {d : DatasetDownload} (hd : d ∈ s.datasets)
    {f : DatasetDownload → DatasetDownload} (hf : ∀ d, Keyed.key (f d) = Keyed.key d)
    (huser : (f d).userId = d.userId)
    (hheld : (f d).held + currentBytes = d.held + actualBytes) :
    { s with datasets := s.datasets.update d.datasetId f hf }.heldGlobal + currentBytes =
        s.heldGlobal + actualBytes ∧
      { s with datasets := s.datasets.update d.datasetId f hf }.heldUser d.userId + currentBytes =
        s.heldUser d.userId + actualBytes := by
  have hglobal := Table.sumBy_update_add hd f hf DatasetDownload.held
  have hown := Table.sumBy_update_add hd f hf fun d' => if d'.userId = d.userId then d'.held else 0
  rw [huser, if_pos rfl, if_pos rfl] at hown
  rw [key_datasetDownload] at hglobal hown
  unfold State.heldGlobal State.heldUser
  dsimp only
  omega

theorem le_held_model {d : ModelDownload} (hd : d ∈ s.models)
    (hreservation : d.reservation = some currentBytes) :
    currentBytes ≤ s.heldGlobal ∧ currentBytes ≤ s.heldUser d.userId := by
  have hown : currentBytes ≤ d.held := by simp [ModelDownload.held, hreservation]
  have hglobal := le_sumBy_nat hd ModelDownload.held
  have huser := le_sumBy_nat hd fun d' => if d'.userId = d.userId then d'.held else 0
  rw [if_pos rfl] at huser
  unfold State.heldGlobal State.heldUser
  omega

theorem le_held_dataset {d : DatasetDownload} (hd : d ∈ s.datasets)
    (hreservation : d.reservation = some currentBytes) :
    currentBytes ≤ s.heldGlobal ∧ currentBytes ≤ s.heldUser d.userId := by
  have hown : currentBytes ≤ d.held := by simp [DatasetDownload.held, hreservation]
  have hglobal := le_sumBy_nat hd DatasetDownload.held
  have huser := le_sumBy_nat hd fun d' => if d'.userId = d.userId then d'.held else 0
  rw [if_pos rfl] at huser
  unfold State.heldGlobal State.heldUser
  omega

theorem within_resizeModel {d : ModelDownload} (hd : d ∈ s.models)
    (hok : (resize settings s d.userId d.reservation actualBytes).isOk = true)
    {f : ModelDownload → ModelDownload} {hf : ∀ d, Keyed.key (f d) = Keyed.key d}
    (hrow : (f d).row = d.row) (huser : (f d).userId = d.userId)
    (hreserved : (f d).reservation = some actualBytes) :
    Within settings { s with models := s.models.update d.modelId f hf } d.userId := by
  obtain ⟨currentBytes, hreservation, hlimits⟩ := resize_isOk hok
  have hstored : (f d).stored = d.stored := by rw [ModelDownload.stored, hrow, ← ModelDownload.stored]
  have hheld : (f d).held + currentBytes = d.held + actualBytes := by
    simp only [ModelDownload.held, hstored, hreserved, hreservation, Option.getD_some]
    omega
  have hupdate := held_updateModel hd hf huser hheld
  have hle := le_held_model hd hreservation
  unfold Within
  omega

theorem within_resizeDataset {d : DatasetDownload} (hd : d ∈ s.datasets)
    (hok : (resize settings s d.userId d.reservation actualBytes).isOk = true)
    {f : DatasetDownload → DatasetDownload} {hf : ∀ d, Keyed.key (f d) = Keyed.key d}
    (hrow : (f d).row = d.row) (huser : (f d).userId = d.userId)
    (hreserved : (f d).reservation = some actualBytes) :
    Within settings { s with datasets := s.datasets.update d.datasetId f hf } d.userId := by
  obtain ⟨currentBytes, hreservation, hlimits⟩ := resize_isOk hok
  have hstored : (f d).stored = d.stored := by rw [DatasetDownload.stored, hrow, ← DatasetDownload.stored]
  have hheld : (f d).held + currentBytes = d.held + actualBytes := by
    simp only [DatasetDownload.held, hstored, hreserved, hreservation, Option.getD_some]
    omega
  have hupdate := held_updateDataset hd hf huser hheld
  have hle := le_held_dataset hd hreservation
  unfold Within
  omega

end Replaced

@[simp] theorem held_newModel (modelId : String) (userId : Option UserId) (expectedBytes : Nat) :
    (newModel modelId userId expectedBytes).held = expectedBytes := Nat.zero_add _

@[simp] theorem userId_newModel (modelId : String) (userId : Option UserId) (expectedBytes : Nat) :
    (newModel modelId userId expectedBytes).userId = userId := rfl

@[simp] theorem held_newDataset (datasetId : String) (userId : Option UserId)
    (expectedBytes : Nat) : (newDataset datasetId userId expectedBytes).held = expectedBytes :=
  Nat.zero_add _

@[simp] theorem userId_newDataset (datasetId : String) (userId : Option UserId)
    (expectedBytes : Nat) : (newDataset datasetId userId expectedBytes).userId = userId := rfl

theorem within_of_admits {s : State} {a : Action} {userId : Option UserId}
    (h : admits settings s a = some userId) : Within settings (step settings s a) userId := by
  cases a with
  | startModel modelId userId' expectedBytes =>
    have hadmit := h
    simp only [admits] at h
    split_ifs at h with hok
    cases Option.some.inj h
    have hlimits := enforceLimits_isOk hok.2
    have hfree : (s.models.lookup (Keyed.key (newModel modelId userId expectedBytes))).isNone :=
      hok.1
    simp only [step, hadmit, Option.isSome_some, if_true]
    unfold Within State.heldGlobal State.heldUser at *
    dsimp only
    rw [sumBy_insertNew hfree, sumBy_insertNew hfree]
    rw [held_newModel, userId_newModel, if_pos rfl]
    omega
  | startDataset datasetId userId' expectedBytes =>
    have hadmit := h
    simp only [admits] at h
    split_ifs at h with hok
    cases Option.some.inj h
    have hlimits := enforceLimits_isOk hok.2
    have hfree :
        (s.datasets.lookup (Keyed.key (newDataset datasetId userId expectedBytes))).isNone :=
      hok.1
    simp only [step, hadmit, Option.isSome_some, if_true]
    unfold Within State.heldGlobal State.heldUser at *
    dsimp only
    rw [sumBy_insertNew hfree, sumBy_insertNew hfree]
    rw [held_newDataset, userId_newDataset, if_pos rfl]
    omega
  | measureModel modelId =>
    have hadmit := h
    obtain ⟨d, hlookup, huser⟩ := Option.bind_eq_some_iff.mp h
    obtain ⟨hd, rfl⟩ := Table.lookup_eq_some.mp hlookup
    split_ifs at huser with hok
    cases Option.some.inj huser
    simp only [step, hadmit, Option.isSome_some, if_true]
    exact within_resizeModel hd (verifyMeasured_isOk hok.2) rfl rfl rfl
  | measureDataset datasetId =>
    have hadmit := h
    obtain ⟨d, hlookup, huser⟩ := Option.bind_eq_some_iff.mp h
    obtain ⟨hd, rfl⟩ := Table.lookup_eq_some.mp hlookup
    split_ifs at huser with hok
    cases Option.some.inj huser
    simp only [step, hadmit, Option.isSome_some, if_true]
    exact within_resizeDataset hd (verifyMeasured_isOk hok.2) rfl rfl rfl
  | resizeDataset datasetId actualBytes =>
    have hadmit := h
    obtain ⟨d, hlookup, huser⟩ := Option.bind_eq_some_iff.mp h
    obtain ⟨hd, rfl⟩ := Table.lookup_eq_some.mp hlookup
    split_ifs at huser with hok
    cases Option.some.inj huser
    simp only [step, hadmit, Option.isSome_some, if_true]
    exact within_resizeDataset hd hok.2 rfl rfl rfl
  | model modelId op => exact absurd h (by simp [admits])
  | dataset datasetId op => exact absurd h (by simp [admits])
  | restart models datasets => exact absurd h (by simp [admits])

/-! ## What a failed removal leaves -/

def Removal.Covers (removal : Removal) (bytes fallbackBytes : Nat) : Prop :=
  match removal with
  | .removed => True
  | .left remaining measurable => measurable = true ∨ min remaining bytes ≤ fallbackBytes

theorem reclaim_le {removal : Removal} {bytes fallbackBytes : Nat}
    (h : removal.Covers bytes fallbackBytes) :
    (reclaimDownloadDirectory removal bytes fallbackBytes).1 ≤
      (reclaimDownloadDirectory removal bytes fallbackBytes).2.getD 0 := by
  cases removal with
  | removed => exact Nat.le_refl 0
  | left remaining measurable =>
    cases measurable with
    | true => exact Nat.le_refl _
    | false => exact h.resolve_left (by simp)

theorem reclaim_le_bytes {removal : Removal} {bytes fallbackBytes : Nat} :
    (reclaimDownloadDirectory removal bytes fallbackBytes).1 ≤ bytes := by
  cases removal with
  | removed => exact Nat.zero_le _
  | left remaining measurable => exact Nat.min_le_right _ _

/-! ## Models -/

namespace ModelDownload

def Billed (d : ModelDownload) : Prop := ∀ row ∈ d.row, d.bytes ≤ row.fileSize.getD 0

def Active (d : ModelDownload) : Prop :=
  ∀ row ∈ d.row, row.isActive = true ∧ row.status ≠ .deleting

/-- A row that a deletion holds stores what is in the directory. -/
def DeletingBilled (d : ModelDownload) : Prop :=
  ∀ row ∈ d.row, row.status = .deleting → d.bytes ≤ row.fileSize.getD 0

/-- What holds in a phase: what is in the directory is stored, or the worker has still to record
it and no deletion has taken the row. -/
def PhaseOk (d : ModelDownload) : Option Phase → Prop
  | none | some .finished => d.Billed
  | some .starting => d.row = none
  | some .created | some .downloading => d.Active
  | some (.startFailed residualBytes) => d.Active ∧ d.bytes ≤ residualBytes.getD 0
  | some (.measured fileSize) => d.Active ∧ d.bytes ≤ fileSize
  | some (.available fileSize) => d.DeletingBilled ∧ d.bytes ≤ fileSize
  | some (.reclaimed residualBytes) | some (.failed residualBytes) =>
    d.DeletingBilled ∧ d.bytes ≤ residualBytes.getD 0

/-- The invariant of a download: a worker holds a reservation, and its phase is in order. -/
structure Ok (d : ModelDownload) : Prop where
  reserved : d.phase.isSome → d.reservation.isSome
  phase : d.PhaseOk d.phase

/-- The worker has still to record a size, in a row that a deletion may take, or that the cleanup
after a restart leaves alone. -/
def isRecording : Phase → Bool
  | .available _ | .reclaimed _ | .failed _ => true
  | _ => false

/-- Nothing is lost if the worker does not get to record its size in a row that is not active. -/
def Recorded (d : ModelDownload) : Prop :=
  ∀ row ∈ d.row, row.isActive = false → d.phase.any isRecording = true →
    d.bytes ≤ row.fileSize.getD 0

variable {d : ModelDownload} {row row' : ModelRow}

theorem Billed.deletingBilled (h : d.Billed) : d.DeletingBilled := fun row hrow _ => h row hrow

theorem Active.deletingBilled (h : d.Active) : d.DeletingBilled :=
  fun row hrow hdeleting => absurd hdeleting (h row hrow).2

/-! ### Updates of the row -/

theorem updateModelRecord_ok {status : Option ModelStatus} {downloadStatus : Option DownloadStatus}
    {fileSize : Option Nat} (h : updateModelRecord row status downloadStatus fileSize = .ok row') :
    row.status ≠ .deleting ∧ row'.status = status.getD row.status ∧
      row'.downloadStatus = downloadStatus.getD
        (if status = some .available then .completed else row.downloadStatus) ∧
      row'.fileSize = if fileSize.isSome then fileSize else row.fileSize := by
  unfold updateModelRecord at h
  by_cases hdeleting : row.status = .deleting
  · rw [if_pos hdeleting] at h
    exact absurd h (by simp)
  rw [if_neg hdeleting] at h
  by_cases hstatus : status.any (fun s => s ∉ validTransitions row.status && s ≠ row.status) = true
  · rw [if_pos hstatus] at h
    exact absurd h (by simp)
  rw [if_neg hstatus] at h
  cases Except.ok.inj h
  exact ⟨hdeleting, rfl, rfl, rfl⟩

theorem updateModelRecord_deleting {status : Option ModelStatus}
    {downloadStatus : Option DownloadStatus} {fileSize : Option Nat} {message : String}
    (h : updateModelRecord row status downloadStatus fileSize =
      .error (.modelDeletionInProgress message)) : row.status = .deleting := by
  unfold updateModelRecord at h
  by_contra hdeleting
  rw [if_neg hdeleting] at h
  split at h <;> simp at h

theorem updateModelRecord_error {fileSize : Option Nat} {e : DownloadError}
    (h : updateModelRecord row none (some .failed) fileSize = .error e) :
    row.status = .deleting := by
  unfold updateModelRecord at h
  by_contra hdeleting
  rw [if_neg hdeleting, if_neg (by simp)] at h
  exact absurd h (by simp)

theorem le_fileSize {fileSize : Option Nat} {bytes : Nat}
    (hsize : row'.fileSize = if fileSize.isSome then fileSize else row.fileSize)
    (h : bytes ≤ fileSize.getD 0) : bytes ≤ row'.fileSize.getD 0 := by
  rw [hsize]
  cases fileSize with
  | none =>
    have hzero : bytes = 0 := Nat.le_zero.mp h
    rw [hzero]
    exact Nat.zero_le _
  | some n => exact h

section Updates

variable (d) (status : Option ModelStatus) (downloadStatus : Option DownloadStatus)
  (fileSize : Option Nat) (next : Phase)

theorem afterUpdate_cases :
    (d.row = none ∧ d.afterUpdate status downloadStatus fileSize next =
        { d with phase := some next }) ∨
      (∃ row row', d.row = some row ∧
        updateModelRecord row status downloadStatus fileSize = .ok row' ∧
        d.afterUpdate status downloadStatus fileSize next =
          { d with row := some row', phase := some next }) ∨
      (∃ row, d.row = some row ∧ row.status = .deleting ∧
        d.afterUpdate status downloadStatus fileSize next =
          { d with phase := some .finished }) ∨
      d.afterUpdate status downloadStatus fileSize next = d := by
  unfold ModelDownload.afterUpdate
  cases hrow : d.row with
  | none => exact .inl ⟨rfl, rfl⟩
  | some row =>
    cases hupdate : updateModelRecord row status downloadStatus fileSize with
    | ok row' => exact .inr (.inl ⟨row, row', rfl, hupdate, by simp only [hupdate]⟩)
    | error e =>
      cases e with
      | modelDeletionInProgress message =>
        exact .inr (.inr (.inl ⟨row, rfl, updateModelRecord_deleting hupdate,
          by simp only [hupdate]⟩))
      | _ => exact .inr (.inr (.inr (by simp only [hupdate])))

theorem afterFailedUpdate_cases :
    (d.row = none ∧ d.afterFailedUpdate fileSize next = { d with phase := some next }) ∨
      (∃ row row', d.row = some row ∧
        updateModelRecord row none (some .failed) fileSize = .ok row' ∧
        d.afterFailedUpdate fileSize next = { d with row := some row', phase := some next }) ∨
      ∃ row, d.row = some row ∧ row.status = .deleting ∧
        d.afterFailedUpdate fileSize next = { d with phase := some .finished } := by
  unfold ModelDownload.afterFailedUpdate
  cases hrow : d.row with
  | none => exact .inl ⟨rfl, rfl⟩
  | some row =>
    cases hupdate : updateModelRecord row none (some .failed) fileSize with
    | ok row' => exact .inr (.inl ⟨row, row', rfl, hupdate, by simp only [hupdate]⟩)
    | error e =>
      exact .inr (.inr ⟨row, rfl, updateModelRecord_error hupdate, by simp only [hupdate]⟩)

end Updates

/-! ### Starts -/

theorem Ok.phaseOk (h : d.Ok) {phase : Option Phase} (hphase : d.phase = phase) :
    d.PhaseOk phase := hphase ▸ h.phase

theorem Ok.createRow (h : d.Ok) : d.createRow.Ok := by
  unfold ModelDownload.createRow
  split_ifs with hphase
  · refine ⟨fun _ => h.reserved (by simp [hphase]), ?_⟩
    intro row hrow
    cases Option.some.inj hrow
    exact ⟨rfl, by simp⟩
  · exact h

theorem Ok.startThread (h : d.Ok) : d.startThread.Ok := by
  unfold ModelDownload.startThread
  split_ifs with hphase
  · exact ⟨fun _ => h.reserved (by simp [hphase]), h.phaseOk hphase⟩
  · exact h

theorem Ok.failStart (h : d.Ok) {removal : Removal}
    (hcovers : removal.Covers d.bytes settings.modelDownloadMaxBytes) :
    (d.failStart settings removal).Ok := by
  unfold ModelDownload.failStart
  split_ifs with hphase
  · have hactive : d.Active := by
      cases hphase with
      | inl hphase =>
        intro row hrow
        rw [h.phaseOk hphase] at hrow
        exact absurd hrow (by simp)
      | inr hphase => exact h.phaseOk hphase
    refine ⟨fun _ => h.reserved ?_, hactive, reclaim_le hcovers⟩
    rcases hphase with hphase | hphase <;> simp [hphase]
  · exact h

theorem le_rollBackRow {residualBytes : Option Nat} {bytes : Nat}
    (hrow : row.isActive = true ∧ row.status ≠ .deleting) (hbytes : bytes ≤ residualBytes.getD 0)
    (h : rollBackRow residualBytes row = some row') : bytes ≤ row'.fileSize.getD 0 := by
  unfold rollBackRow at h
  split_ifs at h with hresidual
  · rw [hresidual] at hbytes
    have hzero : bytes = 0 := Nat.le_zero.mp hbytes
    rw [hzero]
    exact Nat.zero_le _
  · cases hupdate : updateModelRecord row none (some .failed) residualBytes with
    | ok row'' =>
      rw [hupdate] at h
      cases Option.some.inj h
      exact le_fileSize (updateModelRecord_ok hupdate).2.2.2 hbytes
    | error e => exact absurd (updateModelRecord_error hupdate) hrow.2

theorem Ok.rollBackStart (h : d.Ok) : d.rollBackStart.Ok := by
  unfold ModelDownload.rollBackStart
  split
  · rename_i residualBytes hphase
    obtain ⟨hactive, hbytes⟩ := h.phaseOk hphase
    refine ⟨fun _ => h.reserved (by simp [hphase]), fun row hrow => ?_⟩
    obtain ⟨row₀, hrow₀, hback⟩ := Option.bind_eq_some_iff.mp hrow
    exact le_rollBackRow (hactive row₀ hrow₀) hbytes hback
  · exact h

/-! ### Workers -/

theorem Ok.setDownloading (h : d.Ok) : d.setDownloading.Ok := by
  unfold ModelDownload.setDownloading
  split_ifs with hphase
  · have hreserved := h.reserved (by simp [hphase])
    have hactive : d.Active := h.phaseOk hphase
    rcases d.afterUpdate_cases none (some .downloading) none .downloading with
      ⟨hrow, heq⟩ | ⟨row, row', hrow, hupdate, heq⟩ | ⟨row, hrow, hdeleting, heq⟩ | heq
    · rw [heq]
      exact ⟨fun _ => hreserved, hactive⟩
    · rw [heq]
      refine ⟨fun _ => hreserved, fun row'' hrow'' => ?_⟩
      cases Option.some.inj hrow''
      obtain ⟨hne, hstatus, hdownload, -⟩ := updateModelRecord_ok hupdate
      rw [ModelRow.isActive, hdownload, hstatus]
      exact ⟨rfl, hne⟩
    · exact absurd hdeleting (hactive row hrow).2
    · rw [heq]
      exact h
  · exact h

theorem Ok.write (h : d.Ok) (bytes : Nat) : (d.write bytes).Ok := by
  unfold ModelDownload.write
  split_ifs with hphase
  · refine ⟨h.reserved, ?_⟩
    have hactive : d.Active := h.phaseOk hphase
    rw [hphase]
    exact hactive
  · exact h

theorem Ok.setMeasured (h : d.Ok) (hphase : d.phase = some .downloading) : d.setMeasured.Ok :=
  ⟨fun _ => rfl, h.phaseOk hphase, Nat.le_refl _⟩

theorem Ok.setAvailable (h : d.Ok) : d.setAvailable.Ok := by
  unfold ModelDownload.setAvailable
  split
  · rename_i fileSize hphase
    have hreserved := h.reserved (by simp [hphase])
    obtain ⟨hactive, hbytes⟩ := h.phaseOk hphase
    rcases d.afterUpdate_cases (some .available) (some .completed) none (.available fileSize) with
      ⟨hrow, heq⟩ | ⟨row, row', hrow, hupdate, heq⟩ | ⟨row, hrow, hdeleting, heq⟩ | heq
    · rw [heq]
      exact ⟨fun _ => hreserved, hactive.deletingBilled, hbytes⟩
    · rw [heq]
      refine ⟨fun _ => hreserved, fun row'' hrow'' hdeleting => ?_, hbytes⟩
      cases Option.some.inj hrow''
      rw [(updateModelRecord_ok hupdate).2.1] at hdeleting
      exact absurd hdeleting (by simp)
    · exact absurd hdeleting (hactive row hrow).2
    · rw [heq]
      exact h
  · exact h

theorem Ok.recordSize (h : d.Ok) : d.recordSize.Ok := by
  unfold ModelDownload.recordSize
  split
  · rename_i fileSize hphase
    have hreserved := h.reserved (by simp [hphase])
    obtain ⟨hdeletingBilled, hbytes⟩ := h.phaseOk hphase
    rcases d.afterUpdate_cases (some .available) none (some fileSize) .finished with
      ⟨hrow, heq⟩ | ⟨row, row', hrow, hupdate, heq⟩ | ⟨row, hrow, hdeleting, heq⟩ | heq
    · rw [heq]
      refine ⟨fun _ => hreserved, fun row hrow' => ?_⟩
      exact absurd (hrow.symm.trans hrow') (by simp)
    · rw [heq]
      refine ⟨fun _ => hreserved, fun row'' hrow'' => ?_⟩
      cases Option.some.inj hrow''
      exact le_fileSize (updateModelRecord_ok hupdate).2.2.2 hbytes
    · rw [heq]
      refine ⟨fun _ => hreserved, fun row'' hrow'' => ?_⟩
      cases Option.some.inj (hrow.symm.trans hrow'')
      exact hdeletingBilled row hrow hdeleting
    · rw [heq]
      exact h
  · exact h

theorem Ok.reclaimed (h : d.Ok) (hphase : d.phase.isSome) (hdeleting : d.DeletingBilled)
    {removal : Removal} (hcovers : removal.Covers d.bytes settings.modelDownloadMaxBytes) :
    Ok { d with
      bytes := (reclaimDownloadDirectory removal d.bytes settings.modelDownloadMaxBytes).1
      phase := some (.reclaimed
        (reclaimDownloadDirectory removal d.bytes settings.modelDownloadMaxBytes).2) } :=
  ⟨fun _ => h.reserved hphase,
    fun row hrow hstatus => Nat.le_trans reclaim_le_bytes (hdeleting row hrow hstatus),
    reclaim_le hcovers⟩

theorem Ok.fail (h : d.Ok) {removal : Removal}
    (hcovers : removal.Covers d.bytes settings.modelDownloadMaxBytes) :
    (d.fail settings removal).Ok := by
  unfold ModelDownload.fail
  split
  · rename_i hphase
    exact h.reclaimed (by simp [hphase]) (Active.deletingBilled (h.phaseOk hphase)) hcovers
  · rename_i fileSize hphase
    exact h.reclaimed (by simp [hphase]) (h.phaseOk hphase).1.deletingBilled hcovers
  · rename_i fileSize hphase
    exact h.reclaimed (by simp [hphase]) (h.phaseOk hphase).1 hcovers
  · exact h

theorem Ok.setFailed (h : d.Ok) : d.setFailed.Ok := by
  unfold ModelDownload.setFailed
  split
  · rename_i residualBytes hphase
    have hreserved := h.reserved (by simp [hphase])
    obtain ⟨hdeletingBilled, hbytes⟩ := h.phaseOk hphase
    rcases d.afterFailedUpdate_cases none (.failed residualBytes) with
      ⟨hrow, heq⟩ | ⟨row, row', hrow, hupdate, heq⟩ | ⟨row, hrow, hdeleting, heq⟩
    · rw [heq]
      exact ⟨fun _ => hreserved, hdeletingBilled, hbytes⟩
    · rw [heq]
      refine ⟨fun _ => hreserved, fun row'' hrow'' hdeleting => ?_, hbytes⟩
      cases Option.some.inj hrow''
      obtain ⟨hne, hstatus, -, -⟩ := updateModelRecord_ok hupdate
      exact absurd (hstatus.symm.trans hdeleting) hne
    · rw [heq]
      refine ⟨fun _ => hreserved, fun row'' hrow'' => ?_⟩
      cases Option.some.inj (hrow.symm.trans hrow'')
      exact hdeletingBilled row hrow hdeleting
  · exact h

theorem Ok.recordFailed (h : d.Ok) : d.recordFailed.Ok := by
  unfold ModelDownload.recordFailed
  split
  · rename_i residualBytes hphase
    have hreserved := h.reserved (by simp [hphase])
    obtain ⟨hdeletingBilled, hbytes⟩ := h.phaseOk hphase
    rcases d.afterFailedUpdate_cases residualBytes .finished with
      ⟨hrow, heq⟩ | ⟨row, row', hrow, hupdate, heq⟩ | ⟨row, hrow, hdeleting, heq⟩
    · rw [heq]
      refine ⟨fun _ => hreserved, fun row hrow' => ?_⟩
      exact absurd (hrow.symm.trans hrow') (by simp)
    · rw [heq]
      refine ⟨fun _ => hreserved, fun row'' hrow'' => ?_⟩
      cases Option.some.inj hrow''
      exact le_fileSize (updateModelRecord_ok hupdate).2.2.2 hbytes
    · rw [heq]
      refine ⟨fun _ => hreserved, fun row'' hrow'' => ?_⟩
      cases Option.some.inj (hrow.symm.trans hrow'')
      exact hdeletingBilled row hrow hdeleting
  · exact h

theorem Ok.release (h : d.Ok) : d.release.Ok := by
  unfold ModelDownload.release
  split_ifs with hphase
  · exact ⟨fun hnone => absurd hnone (by simp), h.phaseOk hphase⟩
  · exact h

/-! ### Deletions -/

theorem Ok.shrink (h : d.Ok) {bytes : Nat} (hbytes : bytes ≤ d.bytes) :
    Ok { d with bytes := bytes } := by
  refine ⟨h.reserved, ?_⟩
  have hbilled : d.Billed → Billed { d with bytes := bytes } :=
    fun hb row hrow => Nat.le_trans hbytes (hb row hrow)
  have hdeleting : d.DeletingBilled → DeletingBilled { d with bytes := bytes } :=
    fun hb row hrow hstatus => Nat.le_trans hbytes (hb row hrow hstatus)
  cases hphase : d.phase with
  | none => exact hbilled (h.phaseOk hphase)
  | some phase =>
    have hok := h.phaseOk hphase
    cases phase with
    | starting | created | downloading => exact hok
    | startFailed residualBytes => exact ⟨hok.1, Nat.le_trans hbytes hok.2⟩
    | measured fileSize => exact ⟨hok.1, Nat.le_trans hbytes hok.2⟩
    | available fileSize => exact ⟨hdeleting hok.1, Nat.le_trans hbytes hok.2⟩
    | reclaimed residualBytes => exact ⟨hdeleting hok.1, Nat.le_trans hbytes hok.2⟩
    | failed residualBytes => exact ⟨hdeleting hok.1, Nat.le_trans hbytes hok.2⟩
    | finished => exact hbilled hok

theorem Ok.mapRow (h : d.Ok) {f : ModelRow → ModelRow}
    (hsize : ∀ row, (f row).fileSize = row.fileSize)
    (hactive : ∀ row, row.isActive = true → row.status ≠ .deleting → f row = row)
    (htaken : ∀ row ∈ d.row, (f row).status = .deleting → d.phase.any isRecording = true →
      row.status = .deleting ∨ d.bytes ≤ row.fileSize.getD 0) : (d.mapRow f).Ok := by
  refine ⟨h.reserved, ?_⟩
  have hrows : ∀ row' ∈ (d.mapRow f).row, ∃ row ∈ d.row, f row = row' :=
    fun row' hrow' => Option.map_eq_some_iff.mp hrow'
  have hbilled : d.Billed → (d.mapRow f).Billed := by
    intro hb row' hrow'
    obtain ⟨row, hrow, rfl⟩ := hrows row' hrow'
    rw [hsize]
    exact hb row hrow
  have hkeep : d.Active → (d.mapRow f).Active := by
    intro ha row' hrow'
    obtain ⟨row, hrow, rfl⟩ := hrows row' hrow'
    rw [hactive row (ha row hrow).1 (ha row hrow).2]
    exact ha row hrow
  have hdeleting : d.phase.any isRecording = true → d.DeletingBilled →
      (d.mapRow f).DeletingBilled := by
    intro hrecording hb row' hrow' hstatus
    obtain ⟨row, hrow, rfl⟩ := hrows row' hrow'
    rw [hsize]
    exact (htaken row hrow hstatus hrecording).elim (hb row hrow) id
  change (d.mapRow f).PhaseOk d.phase
  cases hphase : d.phase with
  | none => exact hbilled (h.phaseOk hphase)
  | some phase =>
    have hok := h.phaseOk hphase
    cases phase with
    | starting => exact congrArg (Option.map f) hok
    | created | downloading => exact hkeep hok
    | startFailed residualBytes | measured fileSize => exact ⟨hkeep hok.1, hok.2⟩
    | available fileSize => exact ⟨hdeleting (by rw [hphase]; rfl) hok.1, hok.2⟩
    | reclaimed residualBytes => exact ⟨hdeleting (by rw [hphase]; rfl) hok.1, hok.2⟩
    | failed residualBytes => exact ⟨hdeleting (by rw [hphase]; rfl) hok.1, hok.2⟩
    | finished => exact hbilled hok

theorem Ok.publishDeleteIntent (h : d.Ok) (hrecorded : d.Recorded) : d.publishDeleteIntent.Ok := by
  refine h.mapRow (fun row => ?_) (fun row hactive _ => if_pos hactive) ?_
  · split_ifs <;> rfl
  · intro row hrow hstatus hrecording
    split_ifs at hstatus with hactive hdeleting
    · exact .inl hstatus
    · exact .inl hstatus
    · exact .inr (hrecorded row hrow (by simpa using hactive) hrecording)

theorem Ok.restoreDeleteIntent (h : d.Ok) : d.restoreDeleteIntent.Ok := by
  refine h.mapRow (fun row => ?_) (fun row _ hstatus => if_neg hstatus) ?_
  · split_ifs <;> rfl
  · intro row hrow hstatus _
    split_ifs at hstatus with hdeleting
    · exact .inl hdeleting
    · exact .inl hstatus

theorem Ok.removeDirectory (h : d.Ok) (bytes : Nat) : (d.removeDirectory bytes).Ok := by
  unfold ModelDownload.removeDirectory
  split_ifs
  · exact h.shrink (Nat.min_le_right _ _)
  · exact h

theorem Ok.deleteRow (h : d.Ok) : d.deleteRow.Ok := by
  unfold ModelDownload.deleteRow
  split_ifs
  · refine ⟨h.reserved, ?_⟩
    have hnone : ∀ row ∈ (none : Option ModelRow), False := fun row hrow => by simp at hrow
    cases hphase : d.phase with
    | none => exact fun row hrow => (hnone row hrow).elim
    | some phase =>
      have hok := h.phaseOk hphase
      cases phase with
      | starting => rfl
      | created | downloading | finished => exact fun row hrow => (hnone row hrow).elim
      | startFailed residualBytes | measured fileSize | available fileSize | reclaimed residualBytes
      | failed residualBytes => exact ⟨fun row hrow => (hnone row hrow).elim, hok.2⟩
  · exact h

/-! ### Restarts -/

/-- The cleanup after a restart finds the row of the download. -/
def isInterrupted (d : ModelDownload) : Bool :=
  d.row.any fun row => row.status ≠ .deleting && row.isActive

theorem Ok.restart (h : d.Ok) (hrecorded : d.Recorded) {removal : Removal}
    (hcovers : d.isInterrupted = true →
      removal.Covers d.bytes settings.modelDownloadMaxBytes) :
    (d.restart settings removal).Ok := by
  unfold ModelDownload.restart ModelDownload.cleanUp
  dsimp only
  cases hrow : d.row with
  | none =>
    exact ⟨fun hsome => absurd hsome (by simp), fun row hrow' => absurd hrow' (by simp)⟩
  | some row =>
    dsimp only
    split_ifs with hinterrupted
    · refine ⟨fun hsome => absurd hsome (by simp), fun row' hrow' => ?_⟩
      cases Option.some.inj hrow'
      exact reclaim_le (hcovers (by simp [isInterrupted, hrow, hinterrupted]))
    · refine ⟨fun hsome => absurd hsome (by simp), fun row' hrow' => ?_⟩
      cases Option.some.inj hrow'
      change d.bytes ≤ row.fileSize.getD 0
      have hnotActive : d.Active → False := fun hactive =>
        hinterrupted ⟨(hactive row hrow).2, (hactive row hrow).1⟩
      have hlost : d.phase.any isRecording = true → d.DeletingBilled →
          d.bytes ≤ row.fileSize.getD 0 := by
        intro hrecording hdeleting
        by_cases hstatus : row.status = .deleting
        · exact hdeleting row hrow hstatus
        · have hactive : row.isActive = false := by
            by_contra hactive
            exact hinterrupted ⟨hstatus, by simpa using hactive⟩
          exact hrecorded row hrow hactive hrecording
      cases hphase : d.phase with
      | none => exact h.phaseOk hphase row hrow
      | some phase =>
        have hok := h.phaseOk hphase
        cases phase with
        | starting => exact absurd (hrow.symm.trans hok) (by simp)
        | created | downloading => exact (hnotActive hok).elim
        | startFailed residualBytes | measured fileSize => exact (hnotActive hok.1).elim
        | available fileSize => exact hlost (by rw [hphase]; rfl) hok.1
        | reclaimed residualBytes => exact hlost (by rw [hphase]; rfl) hok.1
        | failed residualBytes => exact hlost (by rw [hphase]; rfl) hok.1
        | finished => exact hok row hrow

end ModelDownload

/-! ## Datasets -/

namespace DatasetDownload

def Billed (d : DatasetDownload) : Prop := ∀ row ∈ d.row, d.bytes ≤ row.fileSize.getD 0

def Active (d : DatasetDownload) : Prop := ∀ row ∈ d.row, row.status = .downloading

/-- What holds in a phase: what is in the directory is stored, or the worker has still to record
it and the row is that of an active download. -/
def PhaseOk (d : DatasetDownload) : Option Phase → Prop
  | none | some .finished => d.Billed
  | some .starting => d.row = none
  | some .created | some .downloading => d.Active
  | some (.measured fileSize) => d.Active ∧ d.bytes ≤ fileSize
  | some (.startFailed residualBytes) | some (.reclaimed residualBytes) =>
    d.Active ∧ d.bytes ≤ residualBytes.getD 0
  | some (.available _) | some (.failed _) => False

def Recorded (d : DatasetDownload) : Prop := d.phase = none ∨ d.phase = some .finished

/-- The invariant of a download: a worker holds a reservation, its phase is in order, and a request
to delete the dataset has read a status without background writes only after the worker was done. -/
structure Ok (d : DatasetDownload) : Prop where
  reserved : d.phase.isSome → d.reservation.isSome
  phase : d.PhaseOk d.phase
  read : ∀ status ∈ d.originalStatus, isWriting status = false → d.Recorded

variable {d : DatasetDownload} {row row' : DatasetRow}

theorem Ok.phaseOk (h : d.Ok) {phase : Option Phase} (hphase : d.phase = phase) :
    d.PhaseOk phase := hphase ▸ h.phase

theorem Ok.billed (h : d.Ok) (hrecorded : d.Recorded) : d.Billed := by
  cases hrecorded with
  | inl hphase => exact h.phaseOk hphase
  | inr hphase => exact h.phaseOk hphase

theorem Ok.read_of_writing (h : d.Ok) {phase : Phase} (hphase : d.phase = some phase)
    (hne : phase ≠ .finished) {P : Prop} : ∀ status ∈ d.originalStatus, isWriting status = false → P
    := by
  intro status hstatus hwriting
  rcases h.read status hstatus hwriting with hnone | hfinished
  · exact absurd (hphase.symm.trans hnone) (by simp)
  · exact absurd (Option.some.inj (hphase.symm.trans hfinished)) hne

/-! ### Starts -/

theorem Ok.createRow (h : d.Ok) : d.createRow.Ok := by
  unfold DatasetDownload.createRow
  split_ifs with hphase
  · refine ⟨fun _ => h.reserved (by simp [hphase]), ?_, h.read_of_writing hphase (by simp)⟩
    intro row hrow
    cases Option.some.inj hrow
    rfl
  · exact h

theorem Ok.startThread (h : d.Ok) : d.startThread.Ok := by
  unfold DatasetDownload.startThread
  split_ifs with hphase
  · exact ⟨fun _ => h.reserved (by simp [hphase]), h.phaseOk hphase,
      h.read_of_writing hphase (by simp)⟩
  · exact h

theorem Ok.failStart (h : d.Ok) {removal : Removal}
    (hcovers : removal.Covers d.bytes settings.datasetDownloadMaxBytes) :
    (d.failStart settings removal).Ok := by
  unfold DatasetDownload.failStart
  split_ifs with hphase
  · cases hphase with
    | inl hphase =>
      refine ⟨fun _ => h.reserved (by simp [hphase]), ⟨fun row hrow => ?_, reclaim_le hcovers⟩,
        h.read_of_writing hphase (by simp)⟩
      rw [h.phaseOk hphase] at hrow
      exact absurd hrow (by simp)
    | inr hphase =>
      exact ⟨fun _ => h.reserved (by simp [hphase]), ⟨h.phaseOk hphase, reclaim_le hcovers⟩,
        h.read_of_writing hphase (by simp)⟩
  · exact h

/-! ### Workers -/

theorem updateDatasetRecord_active (hrow : row.status = .downloading)
    {status : Dataset.DatasetStatus} (hstatus : status = .ready ∨ status = .error)
    {fileSize : Option Nat} {bytes : Nat} (hbytes : bytes ≤ fileSize.getD 0) :
    ∃ row', updateDatasetRecord row status fileSize = .ok row' ∧
      bytes ≤ row'.fileSize.getD 0 := by
  have hallowed : status ∈ Dataset.validTransitions row.status := by
    rw [hrow]
    rcases hstatus with rfl | rfl <;> decide
  refine ⟨_, if_neg fun hnot => hnot.1 hallowed, ?_⟩
  cases fileSize with
  | none =>
    have hzero : bytes = 0 := Nat.le_zero.mp hbytes
    rw [hzero]
    exact Nat.zero_le _
  | some n => exact hbytes

theorem le_failRow (hrow : row.status = .downloading) {residualBytes : Option Nat} {bytes : Nat}
    (hbytes : bytes ≤ residualBytes.getD 0) :
    bytes ≤ (failRow residualBytes row).fileSize.getD 0 := by
  obtain ⟨row', hupdate, hle⟩ := updateDatasetRecord_active hrow (.inr rfl) hbytes
  rw [failRow, hupdate]
  exact hle

theorem Ok.rollBackStart (h : d.Ok) : d.rollBackStart.Ok := by
  unfold DatasetDownload.rollBackStart
  split
  · rename_i residualBytes hphase
    obtain ⟨hactive, hbytes⟩ := h.phaseOk hphase
    refine ⟨fun _ => h.reserved (by simp [hphase]), fun row hrow => ?_,
      h.read_of_writing hphase (by simp)⟩
    obtain ⟨row₀, hrow₀, hback⟩ := Option.bind_eq_some_iff.mp hrow
    unfold rollBackRow at hback
    rw [if_pos (hactive row₀ hrow₀)] at hback
    split_ifs at hback
    cases Option.some.inj hback
    exact le_failRow (hactive row₀ hrow₀) hbytes
  · exact h

theorem Ok.write (h : d.Ok) (bytes : Nat) : (d.write bytes).Ok := by
  unfold DatasetDownload.write
  split_ifs with hphase
  · have hactive : d.Active := h.phaseOk hphase
    refine ⟨h.reserved, ?_, h.read⟩
    rw [hphase]
    exact hactive
  · exact h

theorem Ok.setReserved (h : d.Ok) (bytes : Nat) : (d.setReserved bytes).Ok :=
  ⟨fun _ => rfl, h.phase, h.read⟩

theorem Ok.setMeasured (h : d.Ok) (hphase : d.phase = some .downloading) : d.setMeasured.Ok :=
  ⟨fun _ => rfl, ⟨h.phaseOk hphase, Nat.le_refl _⟩, h.read_of_writing hphase (by simp)⟩

theorem Ok.recordSize (h : d.Ok) : d.recordSize.Ok := by
  unfold DatasetDownload.recordSize
  split
  · rename_i fileSize hphase
    have hreserved := h.reserved (by simp [hphase])
    obtain ⟨hactive, hbytes⟩ := h.phaseOk hphase
    have hsome : d.bytes ≤ (some fileSize).getD 0 := hbytes
    cases hrow : d.row with
    | none =>
      exact ⟨fun _ => hreserved, fun row hrow' => absurd hrow' (by simp),
        h.read_of_writing hphase (by simp)⟩
    | some row =>
      obtain ⟨row', hupdate, hle⟩ := updateDatasetRecord_active (hactive row hrow) (.inl rfl) hsome
      simp only [hupdate]
      refine ⟨fun _ => hreserved, fun row'' hrow'' => ?_, h.read_of_writing hphase (by simp)⟩
      cases Option.some.inj hrow''
      exact hle
  · exact h

theorem Ok.fail (h : d.Ok) {removal : Removal}
    (hcovers : removal.Covers d.bytes settings.datasetDownloadMaxBytes) :
    (d.fail settings removal).Ok := by
  unfold DatasetDownload.fail
  split
  · rename_i hphase
    exact ⟨fun _ => h.reserved (by simp [hphase]), ⟨h.phaseOk hphase, reclaim_le hcovers⟩,
      h.read_of_writing hphase (by simp)⟩
  · rename_i fileSize hphase
    exact ⟨fun _ => h.reserved (by simp [hphase]), ⟨(h.phaseOk hphase).1, reclaim_le hcovers⟩,
      h.read_of_writing hphase (by simp)⟩
  · exact h

theorem Ok.recordFailed (h : d.Ok) : d.recordFailed.Ok := by
  unfold DatasetDownload.recordFailed
  split
  · rename_i residualBytes hphase
    obtain ⟨hactive, hbytes⟩ := h.phaseOk hphase
    refine ⟨fun _ => h.reserved (by simp [hphase]), fun row hrow => ?_,
      h.read_of_writing hphase (by simp)⟩
    obtain ⟨row₀, hrow₀, rfl⟩ := Option.map_eq_some_iff.mp hrow
    exact le_failRow (hactive row₀ hrow₀) hbytes
  · exact h

theorem Ok.release (h : d.Ok) : d.release.Ok := by
  unfold DatasetDownload.release
  split_ifs with hphase
  · exact ⟨fun hnone => absurd hnone (by simp), h.phaseOk hphase, fun _ _ _ => .inl rfl⟩
  · exact h

/-! ### Deletions -/

theorem Ok.recorded_of_row (h : d.Ok) (hrow : row ∈ d.row) (hstatus : row.status ≠ .downloading) :
    d.Recorded := by
  cases hphase : d.phase with
  | none => exact .inl hphase
  | some phase =>
    have hok := h.phaseOk hphase
    cases phase with
    | starting => exact absurd (hok.symm.trans hrow) (by simp)
    | created | downloading => exact absurd (hok row hrow) hstatus
    | startFailed residualBytes | measured fileSize | reclaimed residualBytes =>
      exact absurd (hok.1 row hrow) hstatus
    | available fileSize | failed residualBytes => exact hok.elim
    | finished => exact .inr hphase

theorem Ok.setRow (h : d.Ok) (hrecorded : d.Recorded) {row : Option DatasetRow} {bytes : Nat}
    (hbilled : ∀ row' ∈ row, bytes ≤ row'.fileSize.getD 0) :
    Ok { d with row := row, bytes := bytes } := by
  refine ⟨h.reserved, ?_, fun _ _ _ => hrecorded⟩
  cases hrecorded with
  | inl hphase =>
    rw [hphase]
    exact hbilled
  | inr hphase =>
    rw [hphase]
    exact hbilled

theorem Ok.readForDeletion (h : d.Ok) : d.readForDeletion.Ok := by
  refine ⟨h.reserved, h.phase, fun status hstatus hwriting => ?_⟩
  obtain ⟨row, hrow, rfl⟩ := Option.map_eq_some_iff.mp hstatus
  refine h.recorded_of_row hrow fun hdownloading => ?_
  rw [hdownloading] at hwriting
  exact absurd hwriting (by decide)

theorem Ok.markDeleting (h : d.Ok) : d.markDeleting.Ok := by
  unfold DatasetDownload.markDeleting
  split_ifs with hread
  · obtain ⟨status, hstatus, hwriting⟩ := (Option.any_eq_true ..).mp hread
    have hrecorded := h.read status hstatus (by simpa using hwriting)
    refine h.setRow hrecorded fun row' hrow' => ?_
    obtain ⟨row, hrow, rfl⟩ := Option.map_eq_some_iff.mp hrow'
    have hbilled := h.billed hrecorded row hrow
    split_ifs <;> exact hbilled
  · exact h

theorem Ok.restoreFromDeleting (h : d.Ok) : d.restoreFromDeleting.Ok := by
  unfold DatasetDownload.restoreFromDeleting
  split
  · rename_i status hstatus
    split_ifs with hrestores
    · have hrecorded := h.read status hstatus (by simpa using hrestores.2)
      refine h.setRow hrecorded fun row' hrow' => ?_
      obtain ⟨row, hrow, rfl⟩ := Option.map_eq_some_iff.mp hrow'
      have hbilled := h.billed hrecorded row hrow
      split_ifs <;> exact hbilled
    · exact h
  · exact h

theorem Ok.recorded_of_deleting (h : d.Ok) (hdeleting : d.isDeleting = true) : d.Recorded := by
  obtain ⟨row, hrow, hstatus⟩ := (Option.any_eq_true ..).mp hdeleting
  refine h.recorded_of_row hrow fun hdownloading => ?_
  rw [hdownloading] at hstatus
  exact absurd hstatus (by simp)

theorem Ok.deleteStorage (h : d.Ok) (bytes : Nat) : (d.deleteStorage bytes).Ok := by
  unfold DatasetDownload.deleteStorage
  split_ifs with hdeleting
  · have hrecorded := h.recorded_of_deleting hdeleting
    exact h.setRow hrecorded fun row hrow =>
      Nat.le_trans (Nat.min_le_right _ _) (h.billed hrecorded row hrow)
  · exact h

theorem Ok.deleteRow (h : d.Ok) : d.deleteRow.Ok := by
  unfold DatasetDownload.deleteRow
  split_ifs with hdeleting
  · exact h.setRow (h.recorded_of_deleting hdeleting) fun row hrow => absurd hrow (by simp)
  · exact h

/-! ### Previews and restarts -/

theorem Ok.cachePreview (h : d.Ok) {expectedStatus : Dataset.DatasetStatus} {fileSize : Option Nat}
    (hsize : d.previewApplies expectedStatus = true → ∀ n ∈ fileSize, d.bytes ≤ n) :
    (d.cachePreview expectedStatus fileSize).Ok := by
  unfold DatasetDownload.cachePreview
  by_cases happlies : d.previewApplies expectedStatus = true
  · rw [if_pos happlies]
    have hexpected := happlies
    unfold previewApplies at hexpected
    rw [Bool.and_eq_true] at hexpected
    obtain ⟨row₁, hrow₁, hstatus₁⟩ := (Option.any_eq_true ..).mp hexpected.2
    have hrecorded : d.Recorded := by
      refine h.recorded_of_row hrow₁ fun hdownloading => ?_
      rw [← of_decide_eq_true hstatus₁, hdownloading] at hexpected
      exact absurd hexpected.1 (by decide)
    refine h.setRow hrecorded fun row' hrow' => ?_
    obtain ⟨row, hrow, rfl⟩ := Option.map_eq_some_iff.mp hrow'
    cases hfile : fileSize with
    | none =>
      have hbilled := h.billed hrecorded row hrow
      exact hbilled
    | some n => exact hsize happlies n hfile
  · rw [if_neg happlies]
    exact h

def isInterrupted (d : DatasetDownload) : Bool := d.row.any fun row => row.status = .downloading

theorem Ok.restart (h : d.Ok) {removal : Removal}
    (hcovers : d.isInterrupted = true →
      removal.Covers d.bytes settings.datasetDownloadMaxBytes) :
    (d.restart settings removal).Ok := by
  unfold DatasetDownload.restart DatasetDownload.cleanUp
  dsimp only
  cases hrow : d.row with
  | none =>
    exact ⟨fun hsome => absurd hsome (by simp), fun row hrow' => absurd hrow' (by simp),
      fun _ _ _ => .inl rfl⟩
  | some row =>
    dsimp only
    split_ifs with hdownloading
    · refine ⟨fun hsome => absurd hsome (by simp), fun row' hrow' => ?_, fun _ _ _ => .inl rfl⟩
      cases Option.some.inj hrow'
      exact reclaim_le (hcovers (by simp [isInterrupted, hrow, hdownloading]))
    · refine ⟨fun hsome => absurd hsome (by simp), fun row' hrow' => ?_, fun _ _ _ => .inl rfl⟩
      cases Option.some.inj hrow'
      exact h.billed (h.recorded_of_row hrow hdownloading) row hrow

end DatasetDownload

/-! ## Runs -/

section Safe

variable (settings)

/-- A step of a model on which no byte drops out of the quota: a failed removal is measured or covered
by the fallback, and a deletion does not take a row of which the worker has still to record a size. -/
def ModelOp.Safe (op : ModelOp) (d : ModelDownload) : Prop :=
  match op with
  | .failStart removal | .fail removal => removal.Covers d.bytes settings.modelDownloadMaxBytes
  | .publishDeleteIntent => d.Recorded
  | _ => True

/-- A step of a dataset on which no byte drops out of the quota: a failed removal is measured or
covered by the fallback, and a preview that is cached counts all of the directory. -/
def DatasetOp.Safe (op : DatasetOp) (d : DatasetDownload) : Prop :=
  match op with
  | .failStart removal | .fail removal => removal.Covers d.bytes settings.datasetDownloadMaxBytes
  | .cachePreview expectedStatus fileSize =>
    d.previewApplies expectedStatus = true → ∀ n ∈ fileSize, d.bytes ≤ n
  | _ => True

/-- A step on which no byte drops out of the quota. A restart finds no row that is not active and of
which a worker has still to record a size. -/
def Safe (s : State) (a : Action) : Prop :=
  match a with
  | .model modelId op => ∀ d ∈ s.models.lookup modelId, op.Safe settings d
  | .dataset datasetId op => ∀ d ∈ s.datasets.lookup datasetId, op.Safe settings d
  | .restart models datasets =>
    (∀ d ∈ s.models, d.Recorded ∧ (d.isInterrupted = true →
      (models d.modelId).Covers d.bytes settings.modelDownloadMaxBytes)) ∧
    ∀ d ∈ s.datasets, d.isInterrupted = true →
      (datasets d.datasetId).Covers d.bytes settings.datasetDownloadMaxBytes
  | _ => True

end Safe

/-- The invariant of all downloads. -/
def Inv (s : State) : Prop := (∀ d ∈ s.models, d.Ok) ∧ ∀ d ∈ s.datasets, d.Ok

/-- Each downloaded row without an active reservation stores at least what its directory holds. -/
def AllBilled (s : State) : Prop :=
  (∀ d ∈ s.models, ∀ row ∈ d.row, d.reservation = none → d.bytes ≤ row.fileSize.getD 0) ∧
    ∀ d ∈ s.datasets, ∀ row ∈ d.row, d.reservation = none → d.bytes ≤ row.fileSize.getD 0

theorem ModelDownload.Ok.apply {d : ModelDownload} (h : d.Ok) {op : ModelOp}
    (hsafe : op.Safe settings d) : (d.apply settings op).Ok := by
  cases op with
  | createRow => exact h.createRow
  | startThread => exact h.startThread
  | failStart removal => exact h.failStart hsafe
  | rollBackStart => exact h.rollBackStart
  | setDownloading => exact h.setDownloading
  | write bytes => exact h.write bytes
  | setAvailable => exact h.setAvailable
  | recordSize => exact h.recordSize
  | fail removal => exact h.fail hsafe
  | setFailed => exact h.setFailed
  | recordFailed => exact h.recordFailed
  | release => exact h.release
  | publishDeleteIntent => exact h.publishDeleteIntent hsafe
  | restoreDeleteIntent => exact h.restoreDeleteIntent
  | removeDirectory bytes => exact h.removeDirectory bytes
  | deleteRow => exact h.deleteRow

theorem DatasetDownload.Ok.apply {d : DatasetDownload} (h : d.Ok) {op : DatasetOp}
    (hsafe : op.Safe settings d) : (d.apply settings op).Ok := by
  cases op with
  | createRow => exact h.createRow
  | startThread => exact h.startThread
  | failStart removal => exact h.failStart hsafe
  | rollBackStart => exact h.rollBackStart
  | write bytes => exact h.write bytes
  | recordSize => exact h.recordSize
  | fail removal => exact h.fail hsafe
  | recordFailed => exact h.recordFailed
  | release => exact h.release
  | readForDeletion => exact h.readForDeletion
  | markDeleting => exact h.markDeleting
  | restoreFromDeleting => exact h.restoreFromDeleting
  | deleteStorage bytes => exact h.deleteStorage bytes
  | deleteRow => exact h.deleteRow
  | cachePreview expectedStatus fileSize => exact h.cachePreview hsafe

theorem ok_newModel (modelId : String) (userId : Option UserId) (expectedBytes : Nat) :
    (newModel modelId userId expectedBytes).Ok := ⟨fun _ => rfl, rfl⟩

theorem ok_newDataset (datasetId : String) (userId : Option UserId) (expectedBytes : Nat) :
    (newDataset datasetId userId expectedBytes).Ok :=
  ⟨fun _ => rfl, rfl, fun _ hstatus => absurd hstatus (by simp [newDataset])⟩

theorem forall_insertNew {R : Type} [Keyed R String] {rows : Table R} {r : R} {P : R → Prop}
    (h : ∀ r ∈ rows, P r) (hr : P r) : ∀ r' ∈ insertNew rows r, P r' := by
  unfold insertNew
  cases hinsert : rows.insert r with
  | none => exact h
  | some rows' =>
    intro r' hr'
    rcases (Table.mem_insert hinsert).mp hr' with hmem | rfl
    · exact h r' hmem
    · exact hr

theorem forall_update {R : Type} [Keyed R String] {rows : Table R} {k : String} (f : R → R)
    (hf : ∀ r, Keyed.key (f r) = Keyed.key r) {P : R → Prop} (h : ∀ r ∈ rows, P r)
    (hstep : ∀ r ∈ rows.lookup k, P r → P (f r)) : ∀ r ∈ rows.update k f hf, P r := by
  intro r hr
  obtain ⟨r₀, hr₀, rfl⟩ := Table.mem_update.mp hr
  split_ifs with hk
  · exact hstep r₀ (hk ▸ Table.lookup_of_mem hr₀) (h r₀ hr₀)
  · exact h r₀ hr₀

theorem forall_updateWhere {R : Type} [Keyed R String] {rows : Table R} {f : R → R}
    (hf : ∀ r, Keyed.key (f r) = Keyed.key r) {P : R → Prop} (hstep : ∀ r ∈ rows, P (f r)) :
    ∀ r ∈ rows.updateWhere (fun _ => true) f hf, P r := by
  intro r hr
  obtain ⟨r₀, hr₀, rfl⟩ := Table.mem_updateWhere.mp hr
  exact hstep r₀ hr₀

theorem downloading_of_measureModel {s : State} {modelId : String}
    (h : (admits settings s (.measureModel modelId)).isSome) :
    ∀ d ∈ s.models.lookup modelId, d.phase = some .downloading := by
  intro d hd
  obtain ⟨userId, hadmits⟩ := Option.isSome_iff_exists.mp h
  obtain ⟨d', hd', huser⟩ := Option.bind_eq_some_iff.mp hadmits
  cases Option.some.inj (hd'.symm.trans hd)
  split_ifs at huser with hok
  exact hok.1

theorem downloading_of_measureDataset {s : State} {datasetId : String}
    (h : (admits settings s (.measureDataset datasetId)).isSome) :
    ∀ d ∈ s.datasets.lookup datasetId, d.phase = some .downloading := by
  intro d hd
  obtain ⟨userId, hadmits⟩ := Option.isSome_iff_exists.mp h
  obtain ⟨d', hd', huser⟩ := Option.bind_eq_some_iff.mp hadmits
  cases Option.some.inj (hd'.symm.trans hd)
  split_ifs at huser with hok
  exact hok.1

theorem inv_step (s : State) (a : Action) (h : Inv s) (hsafe : Safe settings s a) :
    Inv (step settings s a) := by
  obtain ⟨hmodels, hdatasets⟩ := h
  cases a with
  | startModel modelId userId expectedBytes =>
    simp only [step]
    split_ifs
    · exact ⟨forall_insertNew hmodels (ok_newModel ..), hdatasets⟩
    · exact ⟨hmodels, hdatasets⟩
  | model modelId op =>
    refine ⟨?_, hdatasets⟩
    exact forall_update (ModelDownload.apply settings op) (fun d => d.modelId_apply settings op)
      hmodels fun d hd hok => hok.apply (hsafe d hd)
  | measureModel modelId =>
    simp only [step]
    split_ifs with hadmits
    · refine ⟨forall_update ModelDownload.setMeasured (fun _ => rfl) hmodels
        fun d hd hok => ?_, hdatasets⟩
      exact hok.setMeasured (downloading_of_measureModel hadmits d hd)
    · exact ⟨hmodels, hdatasets⟩
  | startDataset datasetId userId expectedBytes =>
    simp only [step]
    split_ifs
    · exact ⟨hmodels, forall_insertNew hdatasets (ok_newDataset ..)⟩
    · exact ⟨hmodels, hdatasets⟩
  | dataset datasetId op =>
    refine ⟨hmodels, ?_⟩
    exact forall_update (DatasetDownload.apply settings op) (fun d => d.datasetId_apply settings op)
      hdatasets fun d hd hok => hok.apply (hsafe d hd)
  | resizeDataset datasetId actualBytes =>
    simp only [step]
    split_ifs
    · exact ⟨hmodels, forall_update (DatasetDownload.setReserved actualBytes) (fun _ => rfl) hdatasets
        fun d _ hok => hok.setReserved actualBytes⟩
    · exact ⟨hmodels, hdatasets⟩
  | measureDataset datasetId =>
    simp only [step]
    split_ifs with hadmits
    · refine ⟨hmodels, forall_update DatasetDownload.setMeasured (fun _ => rfl) hdatasets
        fun d hd hok => ?_⟩
      exact hok.setMeasured (downloading_of_measureDataset hadmits d hd)
    · exact ⟨hmodels, hdatasets⟩
  | restart models datasets =>
    refine ⟨forall_updateWhere (fun d => d.modelId_restart settings _) fun d hd => ?_,
      forall_updateWhere (fun d => d.datasetId_restart settings _) fun d hd => ?_⟩
    · exact (hmodels d hd).restart (hsafe.1 d hd).1 (hsafe.1 d hd).2
    · exact (hdatasets d hd).restart (hsafe.2 d hd)

theorem Inv.allBilled {s : State} (h : Inv s) : AllBilled s := by
  constructor
  · intro d hd row hrow hnone
    have hphase : d.phase = none := by
      by_contra hsome
      have hreserved := (h.1 d hd).reserved (Option.isSome_iff_ne_none.mpr hsome)
      rw [hnone] at hreserved
      exact absurd hreserved (by simp)
    exact (h.1 d hd).phaseOk hphase row hrow
  · intro d hd row hrow hnone
    have hphase : d.phase = none := by
      by_contra hsome
      have hreserved := (h.2 d hd).reserved (Option.isSome_iff_ne_none.mpr hsome)
      rw [hnone] at hreserved
      exact absurd hreserved (by simp)
    exact (h.2 d hd).phaseOk hphase row hrow

theorem inv_empty : Inv .empty :=
  ⟨fun d hd => absurd hd (Table.not_mem_empty d), fun d hd => absurd hd (Table.not_mem_empty d)⟩

/-- No admission or resize lets a user or all users exceed the limits, and in every run of safe steps
each downloaded row without an active reservation stores at least what its directory holds. -/
theorem bytes_billed_of_safe (settings : Settings) :
    (∀ (s : State) (a : Action) (userId : Option UserId), admits settings s a = some userId →
      Within settings (step settings s a) userId) ∧
    ∀ as : List Action, Admits (step settings) (Safe settings) .empty as →
      AllBilled (exec (step settings) .empty as) := by
  constructor
  · intro s a userId hadmits
    exact within_of_admits hadmits
  · intro as hsafe
    exact (exec_invariant inv_step inv_empty hsafe).allBilled

def hundredBytes : Settings := ⟨100, 100, 100, 100⟩

def previewedDownload : List Action :=
  [.startDataset "ds" none 60, .dataset "ds" .createRow, .dataset "ds" .startThread,
    .dataset "ds" (.write 60), .measureDataset "ds", .dataset "ds" .recordSize,
    .dataset "ds" .release, .dataset "ds" (.cachePreview .ready (some 20))]

/-- The preview lowers the stored size below what the directory holds. -/
theorem preview_unbills_bytes :
    ¬ AllBilled (exec (step hundredBytes) .empty previewedDownload) := by
  intro hbilled
  have hlookup : (exec (step hundredBytes) .empty previewedDownload).datasets.lookup "ds" = some {
      datasetId := "ds", userId := none, row := some { status := .ready, fileSize := some 20 }
      bytes := 60, reservation := none, phase := none, originalStatus := none } := by rfl
  obtain ⟨hmem, -⟩ := Table.lookup_eq_some.mp hlookup
  exact absurd (hbilled.2 _ hmem _ rfl rfl) (by decide)

/-- A model is downloaded; then a deletion takes it and is taken back. -/
def restoredDownload : List Action :=
  [.startModel "m" none 60, .model "m" .createRow, .model "m" .startThread,
    .model "m" .setDownloading, .model "m" (.write 60), .measureModel "m", .model "m" .setAvailable,
    .model "m" .recordSize, .model "m" .release, .model "m" .publishDeleteIntent,
    .model "m" .restoreDeleteIntent]

theorem restoredDownload_billed :
    AllBilled (exec (step hundredBytes) .empty restoredDownload) := by
  refine (bytes_billed_of_safe hundredBytes).2 _ ⟨trivial, fun _ _ => trivial, fun _ _ => trivial,
    fun _ _ => trivial, fun _ _ => trivial, trivial, fun _ _ => trivial, fun _ _ => trivial,
    fun _ _ => trivial, fun d hd row hrow _ hrecording => ?_, fun _ _ => trivial, trivial⟩
  cases Option.some.inj hd
  exact absurd hrecording (by decide)

end Download
