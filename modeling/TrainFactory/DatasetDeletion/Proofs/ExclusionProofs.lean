import TrainFactory.DatasetDeletion.Proofs.ConsumersProofs
import TrainFactory.Dataset.Proofs.FenceProofs

/-!
# No storage is deleted under a consumer

While the row of the dataset is fenced, a consumer that names it exactly is refused. So a kind of
consumers that was listed and not found stays away until the row is gone, and a refused request puts
back the status that it found.
-/

namespace DatasetDeletion

open Lib
open Dataset (Datasets DatasetRow DatasetStatus)

variable {host : Dataset.Host}

/-! ## The law -/

def Phase.deleting? : Phase → Option Deletion
  | .clear d | .storageDeleted d | .assetsDeleted d | .retained d => some d
  | _ => none

/-- From the decision to delete the storage on, nothing consumes the dataset. -/
def Exclusive (host : Dataset.Host) (s : State) : Prop :=
  ∀ d ∈ s.phase.deleting?, ∀ kind, Clear host s.tables kind d

/-- A request that is refused for a conflict puts back the status that `mark_deleting` found, and
leaves no owner. -/
def UndoneExactly (host : Dataset.Host) (s : State) : Prop :=
  ∀ d, s.phase = .conflict d → d.before.status ≠ .deleting →
    ∃ row, (s.session host false).tables.datasets.lookup d.dataset.datasetId = some row ∧
      row.status = d.before.status ∧ row.deletionOwner = none

/-! ## The condition -/

/-- A text without white space around it, as an id is. -/
def Plain (datasetId : String) : Prop := strip datasetId = datasetId ∧ datasetId ≠ ""

def Phase.cleared? (kind : Kind) : Phase → Option Deletion
  | .generationListed d | .trainingListed d | .evaluationListed d =>
    if d.foundNone kind then some d else none
  | .clear d | .storageDeleted d | .assetsDeleted d | .retained d => some d
  | _ => none

/-- The lock of a consumer names the row exactly, or it misses a required dataset, or it names another
row that cannot be consumed. -/
def Named (host : Dataset.Host) (rows : Datasets) (datasetId : String)
    (request : Dataset.LockRequest) : Prop :=
  (∀ row ∈ rows.lookup datasetId, host.isNamed request row = true) ∨
    host.isMissing rows request ∨
    ∃ row ∈ rows, row.datasetId ≠ datasetId ∧ (row.status = .deleting ∨ row.status = .staging) ∧
      host.isNamed request row = true

/-- Active generation tasks read the storage by their paths only beside one that names the dataset. -/
def NamesSource (host : Dataset.Host) (t : Tables) (d : Deletion) : Prop :=
  (∃ g ∈ t.activeGeneration, d.dataset.datasetId ∈ g.datasetIds) ∨
    ∀ g ∈ t.activeGeneration, ¬ ReadsStorage host [g.inputPath] d.datasetPaths

/-- What a session relies on: the row has not changed its status since it was read, and a generation
task that reads the storage names the dataset. -/
def SafeSession (host : Dataset.Host) (t : Tables) : Phase → Prop
  | .read dataset => ∀ row ∈ t.datasets.lookup dataset.datasetId,
      row.status = dataset.status ∨ row.status = .deleting
  | .assetsListed d => NamesSource host t d
  | _ => True

/-- A step that does not meet the gaps of the fence. -/
def Safe (host : Dataset.Host) (s : State) : Action → Prop
  | .startDeletion datasetId _ => Plain datasetId
  | .session _ => SafeSession host s.tables s.phase
  | .transaction a => ∀ admission ∈ a.admission s.tables, ∀ d ∈ s.phase.cleared? admission.kind,
      admission.references.Consumes host d.dataset.datasetId d.datasetPaths →
        Named host s.tables.datasets d.dataset.datasetId admission.request

/-! ## The fence -/

/-- The row is fenced by the request. -/
structure Fenced (t : Tables) (d : Deletion) : Prop where
  plain : Plain d.dataset.datasetId
  before : d.before.status = d.dataset.status ∨ d.before.status = .deleting
  row : ∃ row, t.datasets.lookup d.dataset.datasetId = some row ∧ row.status = .deleting ∧
    (∃ owner, Dataset.requireDatasetDeletionOwner (deletionOwner d.dataset.datasetId) = .ok owner ∧
      row.deletionOwner = some owner) ∧
    ¬ (truthy d.dataset.userId = true ∧ row.userId ≠ d.dataset.userId)

/-- What `mark_deleting` does if it finds the row: it is of the user, and it is fenced by the owner,
by now or before. -/
theorem markDeleting_fences {rows rows' : Datasets} {datasetId : String}
    {owner? userId : Option String}
    (h : Dataset.markDeleting rows datasetId owner? userId = .ok (true, rows')) :
    ∃ owner row row', Dataset.requireDatasetDeletionOwner owner? = .ok owner ∧
      rows.lookup datasetId = some row ∧ rows'.lookup datasetId = some row' ∧
      row'.status = .deleting ∧ row'.deletionOwner = some owner ∧
      ¬ (truthy userId = true ∧ row'.userId ≠ userId) := by
  unfold Dataset.markDeleting at h
  cases howner : Dataset.requireDatasetDeletionOwner owner? with
  | error e => simp [howner, bind, Except.bind] at h
  | ok owner =>
    simp only [howner, bind, Except.bind] at h
    cases hrow : rows.lookup datasetId with
    | none => simp [hrow, pure, Except.pure] at h
    | some row =>
      simp only [hrow] at h
      by_cases huser : truthy userId = true ∧ row.userId ≠ userId
      · simp [huser, throw, throwThe, MonadExceptOf.throw] at h
      rw [if_neg huser] at h
      by_cases hstatus : row.status = .deleting
      · rw [if_pos hstatus] at h
        by_cases hassert : row.deletionOwner = some owner
        · simp only [Dataset.assertDatasetDeletionOwner, hassert, ne_eq, not_true_eq_false, if_false,
            pure, Except.pure, Except.ok.injEq, Prod.mk.injEq, true_and] at h
          subst h
          exact ⟨owner, row, row, rfl, rfl, hrow, hstatus, hassert, huser⟩
        · simp [Dataset.assertDatasetDeletionOwner, hassert] at h
      rw [if_neg hstatus] at h
      by_cases hfence : row.deletionOwner ≠ none
      · rw [if_pos hfence] at h
        cases hassert : Dataset.assertDatasetDeletionOwner row owner <;>
          simp [hassert, throw, throwThe, MonadExceptOf.throw] at h
      rw [if_neg hfence] at h
      cases hupdate : row.updateStatus .deleting with
      | error e => simp [hupdate] at h
      | ok row' =>
        simp only [hupdate, pure, Except.pure, Except.ok.injEq, Prod.mk.injEq, true_and] at h
        subst h
        refine ⟨owner, row, Dataset.fenced owner row, rfl, rfl, ?_, rfl, rfl, huser⟩
        rw [Table.lookup_update, if_pos rfl, hrow]
        rfl

theorem updateStatus_deleting {rows rows' : Datasets} {datasetId : String} {status : DatasetStatus}
    {errorMessage : Option String} {ok : Bool}
    (h : Dataset.updateStatus rows datasetId status errorMessage = .ok (ok, rows')) {k : String}
    {row : DatasetRow} (hrow : rows.lookup k = some row) (hdeleting : row.status = .deleting) :
    ∃ row', rows'.lookup k = some row' ∧ row'.status = .deleting ∧
      row'.deletionOwner = row.deletionOwner ∧ row'.userId = row.userId := by
  unfold Dataset.updateStatus at h
  cases hlookup : rows.lookup datasetId with
  | none =>
    simp only [hlookup, Except.ok.injEq, Prod.mk.injEq] at h
    exact ⟨row, h.2 ▸ hrow, hdeleting, rfl, rfl⟩
  | some d =>
    simp only [hlookup] at h
    cases hupdate : d.updateStatus status with
    | error e => simp [hupdate] at h
    | ok d' =>
      simp only [hupdate, Except.ok.injEq, Prod.mk.injEq] at h
      obtain ⟨-, rfl⟩ := h
      rw [Table.lookup_update]
      by_cases hk : k = datasetId
      · subst hk
        cases Option.some.inj (hlookup.symm.trans hrow)
        rw [if_pos rfl, hrow]
        refine ⟨_, rfl, ?_, rfl, rfl⟩
        -- only to `deleting` itself is there a transition
        unfold Dataset.DatasetRow.updateStatus at hupdate
        by_contra hne
        have hne : status ≠ row.status := fun h => hne (h.trans hdeleting)
        rw [if_pos ⟨by simp [hdeleting, Dataset.validTransitions], hne⟩] at hupdate
        exact absurd hupdate (by simp)
      · rw [if_neg hk]
        exact ⟨row, hrow, hdeleting, rfl, rfl⟩

theorem updateDataset_deleting {rows rows' : Datasets} {args : Dataset.UpdateDataset}
    (h : Dataset.updateDataset rows args = .ok rows') {k : String} {row : DatasetRow}
    (hrow : rows.lookup k = some row) (hdeleting : row.status = .deleting) :
    rows'.lookup k = some row := by
  unfold Dataset.updateDataset at h
  split_ifs at h
  · cases h
    rw [Table.lookup_updateWhere, hrow]
    have hconditions : args.conditions row = false := by
      simp [Dataset.UpdateDataset.conditions, hdeleting, Dataset.blockedStatuses]
    simp [hconditions]

theorem Fenced.apply {t : Tables} {d : Deletion} (h : Fenced t d) (a : Transaction) :
    Fenced (t.apply host a) d := by
  refine ⟨h.plain, h.before, ?_⟩
  obtain ⟨row, hrow, hdeleting, ⟨owner, howner, hrowner⟩, huser⟩ := h.row
  have hsame : ∀ t' : Tables, t'.datasets = t.datasets →
      ∃ row, t'.datasets.lookup d.dataset.datasetId = some row ∧ row.status = .deleting ∧
        (∃ owner, Dataset.requireDatasetDeletionOwner (deletionOwner d.dataset.datasetId) =
          .ok owner ∧ row.deletionOwner = some owner) ∧
        ¬ (truthy d.dataset.userId = true ∧ row.userId ≠ d.dataset.userId) := by
    intro t' ht'
    exact ⟨row, ht' ▸ hrow, hdeleting, ⟨owner, howner, hrowner⟩, huser⟩
  cases a with
  | updateDataset args =>
    simp only [Tables.apply]
    split
    · next rows hrows =>
      exact ⟨row, updateDataset_deleting hrows hrow hdeleting, hdeleting, ⟨owner, howner, hrowner⟩,
        huser⟩
    · exact hsame t rfl
  | updateStatus datasetId status errorMessage =>
    simp only [Tables.apply]
    split
    · next ok rows hrows =>
      obtain ⟨row', hrow', hdeleting', howner', huser'⟩ :=
        updateStatus_deleting hrows hrow hdeleting
      exact ⟨row', hrow', hdeleting', ⟨owner, howner, howner'.trans hrowner⟩, huser' ▸ huser⟩
    · exact hsame t rfl
  | linkDataset => simp only [Tables.apply]; split <;> exact hsame _ rfl
  | createGeneration => simp only [Tables.apply]; split <;> exact hsame _ rfl
  | claimGeneration => simp only [Tables.apply]; split <;> exact hsame _ rfl
  | failGeneration => simp only [Tables.apply]; split <;> exact hsame _ rfl
  | createTraining => simp only [Tables.apply]; split <;> exact hsame _ rfl
  | claimTraining => exact hsame _ rfl
  | resetTraining => exact hsame _ rfl
  | stopTraining => exact hsame _ rfl
  | createEvaluation => simp only [Tables.apply]; split <;> exact hsame _ rfl
  | claimEvaluation => exact hsame _ rfl
  | resetEvaluation => exact hsame _ rfl
  | cancelEvaluation => exact hsame _ rfl
  | workerStarts => simp only [Tables.apply]; split <;> exact hsame _ rfl
  | workerExits => exact hsame _ rfl

theorem not_locks_of_named {t : Tables} {d : Deletion} (h : Fenced t d)
    {request : Dataset.LockRequest}
    (hnamed : Named host t.datasets d.dataset.datasetId request) :
    locks host t.datasets request ≠ true := by
  obtain ⟨row, hrow, hdeleting, -, -⟩ := h.row
  have herror : ∃ e, host.lockDatasetsForConsumption t.datasets request = .error e := by
    refine Dataset.lock_error_iff.mpr ?_
    rcases hnamed with hexact | hmissing | ⟨other, hother, -, hstatus, hexact⟩
    · exact Or.inr ⟨row, (Table.lookup_eq_some.mp hrow).1, Or.inl hdeleting, hexact row hrow⟩
    · exact Or.inl hmissing
    · exact Or.inr ⟨other, hother, hstatus, hexact⟩
  obtain ⟨e, he⟩ := herror
  simp [locks, he]

theorem clear_apply {t : Tables} {d : Deletion} (h : Fenced t d) {kind : Kind} {a : Transaction}
    (hclear : Clear host t kind d)
    (hsafe : ∀ admission ∈ a.admission t, admission.kind = kind →
      admission.references.Consumes host d.dataset.datasetId d.datasetPaths →
        Named host t.datasets d.dataset.datasetId admission.request) :
    Clear host (t.apply host a) kind d := by
  intro c hc hconsumes
  rcases accounted a hc with hold | ⟨admission, hadmission, hkind, rfl, hlocks⟩
  · exact hclear c hold hconsumes
  · exact not_locks_of_named h (hsafe admission hadmission hkind hconsumes) hlocks

/-! ## The invariant -/

/-- Every kind that was listed without a find has no consumer. -/
def Listed (host : Dataset.Host) (t : Tables) (d : Deletion) : Prop :=
  ∀ kind, d.foundNone kind = true → Clear host t kind d

/-- What holds between two sessions of the request. -/
def Inv (host : Dataset.Host) (s : State) : Prop :=
  match s.phase with
  | .idle => True
  | .read dataset => Plain dataset.datasetId
  | .marked d => Fenced s.tables d ∧ ∀ kind, d.foundNone kind = false
  | .assetsListed d => Fenced s.tables d ∧ ∀ kind, d.foundNone kind = false
  | .generationListed d => Fenced s.tables d ∧ Listed host s.tables d
  | .trainingListed d => Fenced s.tables d ∧ Listed host s.tables d
  | .evaluationListed d => Fenced s.tables d ∧ Listed host s.tables d
  | .conflict d => Fenced s.tables d
  | .clear d => Fenced s.tables d ∧ ∀ kind, Clear host s.tables kind d
  | .storageDeleted d => Fenced s.tables d ∧ ∀ kind, Clear host s.tables kind d
  | .assetsDeleted d => Fenced s.tables d ∧ ∀ kind, Clear host s.tables kind d
  | .retained d => Fenced s.tables d ∧ ∀ kind, Clear host s.tables kind d
  | .finished => True

theorem inv_transaction {s : State} (h : Inv host s) {a : Transaction}
    (hsafe : Safe host s (.transaction a)) :
    Inv host { s with tables := s.tables.apply host a } := by
  obtain ⟨t, phase⟩ := s
  have hfence : ∀ d, Fenced t d → Fenced (t.apply host a) d := fun d hfenced => hfenced.apply a
  have hclear : ∀ d kind, phase.cleared? kind = some d → Fenced t d → Clear host t kind d →
      Clear host (t.apply host a) kind d := by
    intro d kind hphase hfenced hclear
    refine clear_apply hfenced hclear fun admission hadmission hkind hconsumes => ?_
    exact hsafe admission hadmission d (hkind ▸ hphase) hconsumes
  change Inv host ⟨t.apply host a, phase⟩
  generalize t.apply host a = t' at hfence hclear ⊢
  have hlisted : ∀ d, (∀ kind, d.foundNone kind = true → phase.cleared? kind = some d) →
      Fenced t d ∧ Listed host t d → Fenced t' d ∧ Listed host t' d := by
    rintro d hphase ⟨hfenced, hlisted⟩
    exact ⟨hfence d hfenced, fun kind hnone =>
      hclear d kind (hphase kind hnone) hfenced (hlisted kind hnone)⟩
  have hall : ∀ d, (∀ kind, phase.cleared? kind = some d) →
      Fenced t d ∧ (∀ kind, Clear host t kind d) → Fenced t' d ∧ ∀ kind, Clear host t' kind d := by
    rintro d hphase ⟨hfenced, hnone⟩
    exact ⟨hfence d hfenced, fun kind => hclear d kind (hphase kind) hfenced (hnone kind)⟩
  cases phase with
  | idle => trivial
  | read dataset => exact h
  | marked d => exact ⟨hfence d h.1, h.2⟩
  | assetsListed d => exact ⟨hfence d h.1, h.2⟩
  | generationListed d => exact hlisted d (fun kind hnone => if_pos hnone) h
  | trainingListed d => exact hlisted d (fun kind hnone => if_pos hnone) h
  | evaluationListed d => exact hlisted d (fun kind hnone => if_pos hnone) h
  | conflict d => exact hfence d h
  | clear d => exact hall d (fun _ => rfl) h
  | storageDeleted d => exact hall d (fun _ => rfl) h
  | assetsDeleted d => exact hall d (fun _ => rfl) h
  | retained d => exact hall d (fun _ => rfl) h
  | finished => trivial

/-! ## The sessions of the request -/

theorem datasets_read {dataset : DatasetRow} {t : Tables}
    (hplain : Plain dataset.datasetId)
    (hsafe : ∀ row ∈ t.datasets.lookup dataset.datasetId,
      row.status = dataset.status ∨ row.status = .deleting) {rows : Datasets}
    (h : Dataset.markDeleting t.datasets dataset.datasetId (deletionOwner dataset.datasetId)
      dataset.userId = .ok (true, rows)) :
    Fenced { t with datasets := rows }
      { dataset, before := (t.datasets.lookup dataset.datasetId).getD dataset } := by
  obtain ⟨owner, row, row', howner, hrow, hrow', hstatus, hrowner, huser⟩ := markDeleting_fences h
  refine ⟨hplain, ?_, row', hrow', hstatus, ⟨owner, howner, hrowner⟩, huser⟩
  rw [hrow, Option.getD_some]
  exact hsafe row hrow

theorem Fenced.congr {t t' : Tables} {d d' : Deletion} (h : Fenced t d)
    (hdatasets : t'.datasets = t.datasets) (hdataset : d'.dataset = d.dataset)
    (hbefore : d'.before = d.before) : Fenced t' d' := by
  refine ⟨hdataset ▸ h.plain, ?_, ?_⟩
  · rw [hbefore, hdataset]
    exact h.before
  · rw [hdatasets, hdataset]
    exact h.row

theorem foundNone_of_isUnused {d : Deletion} (h : d.isUnused = true) (kind : Kind) :
    d.foundNone kind = true := by
  simp only [Deletion.isUnused, Bool.and_eq_true] at h
  obtain ⟨⟨⟨hgeneration, htraining⟩, hevaluation⟩, hlink⟩ := h
  cases kind with
  | link => exact hlink
  | task kind =>
    cases kind with
    | generation => exact hgeneration
    | training => exact htraining
    | evaluation => exact hevaluation

theorem inv_session {s : State} (h : Inv host s) {fails : Bool}
    (hsafe : Safe host s (.session fails)) : Inv host (s.session host fails) := by
  obtain ⟨t, phase⟩ := s
  cases phase with
  | idle => exact h
  | read dataset =>
    simp only [State.session]
    split
    · next rows hmark => exact ⟨datasets_read h hsafe hmark, fun kind => by
        cases kind with
        | link => rfl
        | task kind => cases kind <;> rfl⟩
    · trivial
  | marked d =>
    simp only [State.session]
    split_ifs
    · trivial
    · exact ⟨h.1.congr rfl rfl rfl, h.2⟩
  | assetsListed d =>
    simp only [State.session]
    split_ifs
    · trivial
    · refine ⟨h.1.congr rfl rfl rfl, fun kind hnone => ?_⟩
      cases kind with
      | link => exact absurd ((h.2 .link).symm.trans hnone) (by simp)
      | task kind =>
        cases kind with
        | training => exact absurd ((h.2 (.task .training)).symm.trans hnone) (by simp)
        | evaluation => exact absurd ((h.2 (.task .evaluation)).symm.trans hnone) (by simp)
        | generation =>
          have hlist : t.listGeneration [d.dataset.datasetId] = [] :=
            Option.some.inj (of_decide_eq_true hnone)
          refine clear_generation (d := { d with activeGenerationConsumers := _ }) hlist ?_
          rcases (hsafe : NamesSource host t d) with ⟨g, hg, hid⟩ | hreads
          · exact absurd hid (listGeneration_eq_nil.mp hlist g hg)
          · exact hreads
  | generationListed d =>
    simp only [State.session]
    split
    · next consumers hlist =>
      refine ⟨h.1.congr rfl rfl rfl, fun kind hnone => ?_⟩
      cases kind with
      | link => exact h.2 .link hnone
      | task kind =>
        cases kind with
        | generation => exact h.2 (.task .generation) hnone
        | evaluation => exact h.2 (.task .evaluation) hnone
        | training =>
          have hnil : consumers = [] := Option.some.inj (of_decide_eq_true hnone)
          subst hnil
          exact clear_training hlist
    · trivial
  | trainingListed d =>
    simp only [State.session]
    split
    · next consumers hlist =>
      refine ⟨h.1.congr rfl rfl rfl, fun kind hnone => ?_⟩
      cases kind with
      | link => exact h.2 .link hnone
      | task kind =>
        cases kind with
        | generation => exact h.2 (.task .generation) hnone
        | training => exact h.2 (.task .training) hnone
        | evaluation =>
          have hnil : consumers = [] := Option.some.inj (of_decide_eq_true hnone)
          subst hnil
          exact clear_evaluation h.1.plain.1 h.1.plain.2 hlist
    · trivial
  | evaluationListed d =>
    simp only [State.session]
    split_ifs with hfails hunused
    · trivial
    · refine ⟨h.1.congr rfl rfl rfl, fun kind => ?_⟩
      have hnone := foundNone_of_isUnused hunused kind
      cases kind with
      | link =>
        exact clear_link h.1.plain.1 h.1.plain.2 (Option.some.inj (of_decide_eq_true hnone))
      | task kind =>
        cases kind with
        | generation => exact h.2 (.task .generation) hnone
        | training => exact h.2 (.task .training) hnone
        | evaluation => exact h.2 (.task .evaluation) hnone
    · exact h.1.congr rfl rfl rfl
  | conflict d =>
    simp only [State.session]
    split_ifs
    · trivial
    · split <;> trivial
  | clear d =>
    cases fails <;> exact h
  | storageDeleted d =>
    simp only [State.session]
    split_ifs
    · exact h
    · refine ⟨h.1.congr rfl rfl rfl, fun kind => ?_⟩
      have hclear := h.2 kind
      cases kind with
      | link => exact hclear
      | task kind => cases kind <;> exact hclear
  | assetsDeleted d =>
    simp only [State.session]
    split
    · trivial
    · exact h
  | retained d => exact h
  | finished => trivial

theorem inv_step (s : State) (a : Action) (h : Inv host s) (hsafe : Safe host s a) :
    Inv host (step host s a) := by
  cases a with
  | startDeletion datasetId owned =>
    obtain ⟨t, phase⟩ := s
    cases phase with
    | idle =>
      simp only [step, startDeletion]
      split
      · trivial
      · next dataset hdataset =>
        split_ifs
        · trivial
        · obtain ⟨-, hid⟩ := Table.lookup_eq_some.mp hdataset
          have hid : dataset.datasetId = datasetId := hid
          subst hid
          exact hsafe
    | _ => exact h
  | session fails =>
    rw [step]
    exact inv_session h hsafe
  | transaction a =>
    rw [step]
    exact inv_transaction h hsafe

theorem Inv.exclusive {s : State} (h : Inv host s) : Exclusive host s := by
  obtain ⟨t, phase⟩ := s
  intro d hd
  cases phase with
  | clear d' => cases Option.some.inj hd; exact h.2
  | storageDeleted d' => cases Option.some.inj hd; exact h.2
  | assetsDeleted d' => cases Option.some.inj hd; exact h.2
  | retained d' => cases Option.some.inj hd; exact h.2
  | _ => exact absurd hd (by simp [Phase.deleting?])

theorem restoreFromDeleting_fenced {t : Tables} {d : Deletion} (h : Fenced t d)
    {status : DatasetStatus} (hstatus : status ≠ .deleting) :
    ∃ row rows, t.datasets.lookup d.dataset.datasetId = some row ∧
      Dataset.restoreFromDeleting t.datasets d.dataset.datasetId
        (deletionOwner d.dataset.datasetId) status d.dataset.userId = .ok (true, rows) ∧
      rows.lookup d.dataset.datasetId = some (Dataset.restored status row) := by
  obtain ⟨row, hrow, hdeleting, ⟨owner, howner, hrowner⟩, huser⟩ := h.row
  refine ⟨row, t.datasets.update d.dataset.datasetId (Dataset.restored status)
    (Dataset.key_restored status), hrow, ?_, ?_⟩
  · simp only [Dataset.restoreFromDeleting, howner, if_neg hstatus, hrow, hdeleting, ne_eq,
      not_true_eq_false, if_false, if_neg huser, Dataset.assertDatasetDeletionOwner, hrowner]
  · rw [Table.lookup_update, if_pos rfl, hrow]
    rfl

theorem Inv.undoneExactly {s : State} (h : Inv host s) : UndoneExactly host s := by
  obtain ⟨t, phase⟩ := s
  rintro d rfl hbefore
  have hfenced : Fenced t d := h
  have hstatus : d.dataset.status = d.before.status :=
    (hfenced.before.resolve_right hbefore).symm
  have hdeleting : d.dataset.status ≠ .deleting := fun heq => hbefore (hstatus ▸ heq)
  obtain ⟨row, rows, -, hrestore, hlookup⟩ := restoreFromDeleting_fenced hfenced hdeleting
  refine ⟨Dataset.restored d.dataset.status row, ?_, hstatus, rfl⟩
  simp only [State.session, if_neg hdeleting, hrestore]
  exact hlookup

/-- In every run that does not meet the gaps of the fence, the storage of a dataset is deleted under no
consumer, and a refused request is undone exactly. -/
theorem deletion_excludes_consumers (host : Dataset.Host) (tables : Tables) (as : List Action)
    (hsafe : Admits (step host) (Safe host) ⟨tables, .idle⟩ as) :
    Exclusive host (exec (step host) ⟨tables, .idle⟩ as) ∧
      UndoneExactly host (exec (step host) ⟨tables, .idle⟩ as) := by
  have hinv : Inv host (exec (step host) ⟨tables, .idle⟩ as) :=
    exec_invariant inv_step trivial hsafe
  exact ⟨hinv.exclusive, hinv.undoneExactly⟩

def readyDataset : DatasetRow where
  datasetId := "ds"
  storageBackend := "local"
  storagePath := some "/data/ds"
  storagePathHash := some "cb12884b871e2e676242c21c2979a3dfc23d85233b5762faa648f5dc04f97dc3"
  storageUri := none
  status := .ready
  deletionOwner := none
  errorMessage := none
  userId := none
  sourceTaskType := none
  sourceTaskId := none
  generationRunToken := none

def withDataset (generation : Table GenerationRow) (links : Table Milvus.LinkRow) : Tables where
  datasets := ⟨[readyDataset], by simp⟩
  assets := []
  generation := generation
  training := .empty
  evaluation := .empty
  milvus := ⟨.empty, links⟩
  executing := []

def linked : Tables := withDataset .empty ⟨[⟨"documents", "ds", none, 0, none⟩], by simp⟩

/-- A generation task that reads a file of the dataset, and does not name the dataset. -/
def readByPath : Tables :=
  withDataset
    ⟨[{ taskId := "task", runToken := none, inputPath := "/data/ds/documents.jsonl" }], by simp⟩
    .empty

def upToDecision : List Action := List.replicate 6 (.session false)

/-- The dataset is archived between the first read and the fence. -/
def archivedMeanwhile : List Action :=
  .startDeletion "ds" true ::
    .transaction (.updateDataset ⟨"ds", none, .ready, none, some .archived⟩) :: upToDecision

/-- The refused request makes the archived dataset ready again, and the storage is deleted under the
generation task. -/
theorem deletion_meets_gaps :
    ¬ UndoneExactly Dataset.digestHost
        (exec (step Dataset.digestHost) ⟨linked, .idle⟩ archivedMeanwhile) ∧
      ¬ Exclusive Dataset.digestHost (exec (step Dataset.digestHost) ⟨readByPath, .idle⟩
        (.startDeletion "ds" true :: upToDecision)) := by
  constructor
  · intro hundone
    obtain ⟨row, hrow, hstatus, -⟩ := hundone _ rfl (by decide)
    cases hrow
    exact absurd hstatus (by decide)
  · intro hexclusive
    refine hexclusive _ rfl (.task .generation) _ (List.mem_singleton.mpr rfl) (Or.inr ?_)
    exact ⟨"/data/ds/documents.jsonl", List.mem_singleton.mpr rfl, "/data/ds",
      List.mem_singleton.mpr rfl, by decide +kernel⟩

def deletedMeanwhile : List Action :=
  .startDeletion "ds" true :: upToDecision ++
    [.transaction (.createTraining {
        taskId := "task", userId := none, status := .pending, progress := 0, errorMessage := none
        baseModelPath := none, trainDatasetPath := some "/data/ds", sftCheckpointPath := none
        outputDir := none, device := none, trainingParams := .null, finalModelPath := none
        finalMetrics := .null, runToken := none, processPid := none, processStatus := none
        processCreateTime := none, startedAt := none, completedAt := none, updatedAt := 0 } false
        true),
      .session false, .session false, .session false]

theorem deletedMeanwhile_excludes :
    Exclusive Dataset.digestHost (exec (step Dataset.digestHost) ⟨withDataset .empty .empty, .idle⟩
      deletedMeanwhile) := by
  have hsafe : Admits (step Dataset.digestHost) (Safe Dataset.digestHost)
      ⟨withDataset .empty .empty, .idle⟩ deletedMeanwhile := by
    refine ⟨⟨by decide +kernel, by decide⟩, ?_, trivial, ?_, trivial, trivial, trivial, ?_, trivial,
      trivial, trivial, trivial⟩
    · intro row hrow
      cases hrow
      exact Or.inl rfl
    · exact Or.inr fun g hg => absurd hg List.not_mem_nil
    · intro admission hadmission d hd _
      cases hadmission
      cases hd
      refine Or.inl fun row hrow => ?_
      cases hrow
      decide +kernel
  exact (deletion_excludes_consumers _ _ _ hsafe).1

end DatasetDeletion
