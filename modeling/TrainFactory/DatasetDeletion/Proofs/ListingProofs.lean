import TrainFactory.DatasetDeletion.Request

/-!
# What the listings say

A listing that finds nothing says that no active consumer of its kind refers to the dataset. Only the
listing of the generation tasks does not look at the paths that they read.
-/

namespace DatasetDeletion

open Lib
open Dataset (DatasetError)

variable {host : Dataset.Host}

def ReadsStorage (host : Dataset.Host) (storageRefs paths : List String) : Prop :=
  ∃ ref ∈ storageRefs, ∃ path ∈ paths, host.storageReferencesOverlap ref path = .ok true

def References.Consumes (host : Dataset.Host) (c : References) (datasetId : String)
    (paths : List String) : Prop :=
  datasetId ∈ c.datasetIds ∨ ReadsStorage host c.storageRefs paths

def Clear (host : Dataset.Host) (t : Tables) (kind : Kind) (d : Deletion) : Prop :=
  ∀ c ∈ t.consumers kind, ¬ c.Consumes host d.dataset.datasetId d.datasetPaths

/-! ## Overlaps -/

theorem exists_of_mapM {f : String → Except DatasetError (Option Dataset.Identity)}
    {refs : List String} {identities : List (Option Dataset.Identity)}
    (h : refs.mapM f = .ok identities) {ref : String} (href : ref ∈ refs) :
    ∃ identity ∈ identities, f ref = .ok identity := by
  induction refs generalizing identities with
  | nil => simp at href
  | cons first rest ih =>
    rw [List.mapM_cons] at h
    cases hfirst : f first with
    | error e => simp [hfirst, bind, Except.bind] at h
    | ok identity =>
      cases hrest : rest.mapM f with
      | error e => simp [hfirst, hrest, bind, Except.bind] at h
      | ok others =>
        simp only [hfirst, hrest, bind, Except.bind, pure, Except.pure, Except.ok.injEq] at h
        subst h
        rcases List.mem_cons.mp href with rfl | href
        · exact ⟨identity, List.mem_cons_self .., hfirst⟩
        · obtain ⟨other, hother, hf⟩ := ih hrest href
          exact ⟨other, List.mem_cons_of_mem _ hother, hf⟩

theorem not_overlap_of_blank {ref path : String} (hblank : strip path = "") :
    host.storageReferencesOverlap ref path ≠ .ok true := by
  have hpath : host.storageReferenceIdentity path = .ok none := by
    simp [Dataset.Host.storageReferenceIdentity, hblank]
  unfold Dataset.Host.storageReferencesOverlap
  rw [hpath]
  cases host.storageReferenceIdentity ref with
  | error e => simp [bind, Except.bind]
  | ok identity =>
    cases identity with
    | none => simp [bind, Except.bind, pure, Except.pure, Dataset.identitiesOverlap]
    | some identity =>
      cases identity <;> simp [bind, Except.bind, pure, Except.pure, Dataset.identitiesOverlap]

theorem not_readsStorage_of_setsOverlap {refs paths : List String}
    (h : setsOverlap host refs (Dataset.normalized paths) = .ok false) :
    ¬ ReadsStorage host refs paths := by
  rintro ⟨ref, href, path, hpath, hoverlap⟩
  have hnonblank : strip path ≠ "" := fun hblank => not_overlap_of_blank hblank hoverlap
  have hmem : strip path ∈ Dataset.normalized paths := by
    simp only [Dataset.normalized, List.mem_dedup, List.mem_filter, List.mem_map]
    exact ⟨⟨path, hpath, rfl⟩, by simpa using hnonblank⟩
  unfold setsOverlap at h
  cases hleft : refs.mapM host.storageReferenceIdentity with
  | error e => simp [hleft] at h
  | ok left =>
    cases hright : (Dataset.normalized paths).mapM host.storageReferenceIdentity with
    | error e => simp [hleft, hright] at h
    | ok right =>
      simp only [hleft, hright, Except.ok.injEq, List.any_eq_false] at h
      obtain ⟨l, hl, hlref⟩ := exists_of_mapM hleft href
      obtain ⟨r, hr, hrpath⟩ := exists_of_mapM hright hmem
      rw [Dataset.identity_strip] at hrpath
      have hfalse := List.any_eq_false.mp (by simpa using h l hl) r hr
      unfold Dataset.Host.storageReferencesOverlap at hoverlap
      simp only [hlref, hrpath, bind, Except.bind, pure, Except.pure, Except.ok.injEq] at hoverlap
      exact hfalse hoverlap

theorem not_readsStorage_of_normalized {refs paths : List String}
    (h : Dataset.normalized paths = []) : ¬ ReadsStorage host refs paths := by
  rintro ⟨ref, -, path, hpath, hoverlap⟩
  have hblank : strip path = "" := by
    by_contra hne
    have hmem : strip path ∈ Dataset.normalized paths := by
      simp only [Dataset.normalized, List.mem_dedup, List.mem_filter, List.mem_map]
      exact ⟨⟨path, hpath, rfl⟩, by simpa using hne⟩
    rw [h] at hmem
    simp at hmem
  exact not_overlap_of_blank hblank hoverlap

/-! ## Listings -/

theorem filterTasks_eq_nil {R : Type} {check : R → Except DatasetError Bool} {taskId : R → String}
    {tasks : List R} (h : filterTasks check taskId tasks = .ok []) :
    ∀ task ∈ tasks, check task = .ok false := by
  induction tasks with
  | nil => simp
  | cons first rest ih =>
    unfold filterTasks at h
    cases hfirst : check first with
    | error e => simp [hfirst] at h
    | ok consumes =>
      cases hrest : filterTasks check taskId rest with
      | error e => simp [hfirst, hrest] at h
      | ok ids =>
        simp only [hfirst, hrest, Except.ok.injEq] at h
        cases consumes with
        | true => simp at h
        | false =>
          have hids : ids = [] := by simpa using h
          intro task htask
          rcases List.mem_cons.mp htask with rfl | htask
          · exact hfirst
          · exact ih (hids ▸ hrest) task htask

theorem listGeneration_eq_nil {t : Tables} {datasetId : String} :
    t.listGeneration [datasetId] = [] ↔ ∀ g ∈ t.activeGeneration, datasetId ∉ g.datasetIds := by
  simp [Tables.listGeneration, List.filter_eq_nil_iff]

theorem clear_generation {t : Tables} {d : Deletion}
    (hlist : t.listGeneration [d.dataset.datasetId] = [])
    (hreads : ∀ g ∈ t.activeGeneration, ¬ ReadsStorage host [g.inputPath] d.datasetPaths) :
    Clear host t (.task .generation) d := by
  rintro c hc (hid | hpath)
  · obtain ⟨g, hg, rfl⟩ := List.mem_map.mp hc
    exact listGeneration_eq_nil.mp hlist g hg hid
  · obtain ⟨g, hg, rfl⟩ := List.mem_map.mp hc
    exact hreads g hg hpath

theorem clear_training {t : Tables} {d : Deletion} (h : t.listTraining host d.datasetPaths = .ok []) :
    Clear host t (.task .training) d := by
  rintro c hc (hid | hpath)
  · obtain ⟨task, -, rfl⟩ := List.mem_map.mp hc
    simp [trainingReferences] at hid
  · obtain ⟨task, htask, rfl⟩ := List.mem_map.mp hc
    unfold Tables.listTraining at h
    by_cases hempty : Dataset.normalized d.datasetPaths = []
    · exact not_readsStorage_of_normalized hempty hpath
    · rw [if_neg hempty] at h
      exact not_readsStorage_of_setsOverlap (filterTasks_eq_nil h task htask) hpath

theorem mem_normalized_singleton {datasetId : String} (hstrip : strip datasetId = datasetId)
    (hne : datasetId ≠ "") : datasetId ∈ Dataset.normalized [datasetId] := by
  simp [Dataset.normalized, hstrip, hne]

theorem clear_evaluation {t : Tables} {d : Deletion}
    (hstrip : strip d.dataset.datasetId = d.dataset.datasetId) (hne : d.dataset.datasetId ≠ "")
    (h : t.listEvaluation host [d.dataset.datasetId] d.datasetPaths = .ok []) :
    Clear host t (.task .evaluation) d := by
  intro c hc hconsumes
  obtain ⟨e, he, rfl⟩ := List.mem_map.mp hc
  have hmem := mem_normalized_singleton hstrip hne
  unfold Tables.listEvaluation at h
  rw [if_neg fun hempty => List.ne_nil_of_mem hmem hempty.1] at h
  have hcheck := filterTasks_eq_nil h e he
  split_ifs at hcheck with hids
  · exact absurd hcheck (by simp)
  rcases hconsumes with hid | hpath
  · exact hids (List.any_eq_true.mpr ⟨_, hid, by simpa using hmem⟩)
  · exact not_readsStorage_of_setsOverlap hcheck hpath

theorem clear_link {t : Tables} {d : Deletion}
    (hstrip : strip d.dataset.datasetId = d.dataset.datasetId) (hne : d.dataset.datasetId ≠ "")
    (h : t.listLinks [d.dataset.datasetId] = []) : Clear host t .link d := by
  rintro c hc (hid | ⟨ref, href, -⟩)
  · obtain ⟨l, hl, rfl⟩ := List.mem_map.mp hc
    have hlinked : d.dataset.datasetId = l.datasetId := List.mem_singleton.mp hid
    have hunlisted := Table.select_eq_nil.mp h l hl
    rw [← hlinked] at hunlisted
    exact absurd (mem_normalized_singleton hstrip hne) (by simpa using hunlisted)
  · obtain ⟨l, -, rfl⟩ := List.mem_map.mp hc
    simp [linkReferences] at href

end DatasetDeletion
