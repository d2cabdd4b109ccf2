import TrainFactory.Data.MixedSources

/-!
# Which mixed sources are kept

A mapping has an entry for each source where the names that are derived from the paths are distinct;
two sources with one name leave one entry.
-/

namespace DataLoading

open Lib

variable {D : Type}

def hubSourcesBefore (host : Host D) (paths : List String) (i : Nat) : Nat :=
  (paths.take i).countP (isHubSource host)

def Loads (host : Host D) (hfSubsets : List (Option String)) (paths : List String)
    (datasets : List D) : Prop :=
  datasets.length = paths.length ∧ ∀ (i : Nat) (path : String) (dataset : D),
    paths[i]? = some path → datasets[i]? = some dataset →
    loadSource host hfSubsets (hubSourcesBefore host paths i) "train" path = .ok (some dataset)

def OneEntryEach (d : Dict String D) (datasets : List D) : Prop :=
  ∃ names : List String, names.Nodup ∧ names.length = datasets.length ∧
    (∀ name, name ∈ d ↔ name ∈ names) ∧
    ∀ (i : Nat) (name : String) (dataset : D), names[i]? = some name →
      datasets[i]? = some dataset → d.lookup name = some dataset

def KeepsEverySource (host : Host D) (hfSubsets : List (Option String)) (mixedPaths : String)
    (datasets : List D) : Prop :=
  ∃ d, loadFromMixedSources host hfSubsets mixedPaths "train" = .ok (some d) ∧
    OneEntryEach d datasets

def sourceNames (host : Host D) (paths : List String) : List String :=
  paths.map (extractDatasetName host)

theorem OneEntryEach.keys_length {d : Dict String D} {datasets : List D}
    (h : OneEntryEach d datasets) : d.keys.length = datasets.length := by
  obtain ⟨names, hnodup, hlength, hmem, -⟩ := h
  have hperm : d.keys.Perm names :=
    (List.perm_ext_iff_of_nodup d.nodupKeys hnodup).mpr fun name => hmem name
  rw [hperm.length_eq, hlength]

/-! ## The loop -/

theorem hubSourcesBefore_cons (host : Host D) (path : String) (paths : List String) (i : Nat) :
    hubSourcesBefore host (path :: paths) (i + 1) =
      (if isHubSource host path then 1 else 0) + hubSourcesBefore host paths i := by
  rw [hubSourcesBefore, List.take_succ_cons, List.countP_cons, Nat.add_comm, hubSourcesBefore]

/-- Where each source loads, the loop writes the datasets under the derived names. The loop begins
with the datasets and the counter of `s`. -/
theorem foldl_step {host : Host D} {hfSubsets : List (Option String)} {paths : List String}
    {datasets : List D} {s : MixedState D} (hlength : datasets.length = paths.length)
    (hload : ∀ (i : Nat) (path : String) (dataset : D), paths[i]? = some path →
      datasets[i]? = some dataset →
      loadSource host hfSubsets (s.hfCounter + hubSourcesBefore host paths i) "train" path =
        .ok (some dataset)) :
    (paths.foldl (MixedState.step host hfSubsets "train") s).datasets =
      s.datasets.writeAll ((sourceNames host paths).zip datasets) := by
  induction paths generalizing datasets s with
  | nil => rfl
  | cons path paths ih =>
    cases datasets with
    | nil => cases hlength
    | cons dataset datasets =>
      have hfirst := hload 0 path dataset rfl rfl
      have hstep : MixedState.step host hfSubsets "train" s path =
          ⟨s.datasets.insert (extractDatasetName host path) dataset,
            if isHubSource host path then s.hfCounter + 1 else s.hfCounter⟩ := by
        rw [hubSourcesBefore, List.take_zero, List.countP_nil, Nat.add_zero] at hfirst
        rw [MixedState.step, hfirst]
      rw [List.foldl_cons, hstep, ih (Nat.succ.inj hlength)]
      · rfl
      · intro i path' dataset' hpath hdataset
        have hrest := hload (i + 1) path' dataset' hpath hdataset
        rw [hubSourcesBefore_cons, ← Nat.add_assoc] at hrest
        cases hhub : isHubSource host path with
        | true =>
          rw [hhub] at hrest
          exact hrest
        | false =>
          rw [hhub] at hrest
          exact hrest

theorem sourcePaths_ne_nil (mixedPaths : String) : sourcePaths mixedPaths ≠ [] := by
  rw [sourcePaths, split, Ne, List.map_eq_nil_iff, List.map_eq_nil_iff]
  exact List.splitOn_ne_nil ',' mixedPaths.toList

def mixedDatasets (host : Host D) (paths : List String) (datasets : List D) : Dict String D :=
  Dict.writeAll ∅ ((sourceNames host paths).zip datasets)

theorem map_fst_entries (host : Host D) {paths : List String} {datasets : List D}
    (hlength : datasets.length = paths.length) :
    ((sourceNames host paths).zip datasets).map Prod.fst = sourceNames host paths := by
  rw [List.map_fst_zip]
  rw [sourceNames, List.length_map, hlength]

theorem mem_mixedDatasets {host : Host D} {paths : List String} {datasets : List D}
    (hlength : datasets.length = paths.length) (name : String) :
    name ∈ mixedDatasets host paths datasets ↔ name ∈ sourceNames host paths := by
  rw [mixedDatasets, Dict.mem_writeAll, map_fst_entries host hlength]
  exact or_iff_right (AList.notMem_empty name)

theorem loadFromMixedSources_eq {host : Host D} {hfSubsets : List (Option String)}
    {mixedPaths : String} {datasets : List D}
    (hload : Loads host hfSubsets (sourcePaths mixedPaths) datasets) :
    loadFromMixedSources host hfSubsets mixedPaths "train" =
      .ok (some (mixedDatasets host (sourcePaths mixedPaths) datasets)) := by
  have hloop : ((sourcePaths mixedPaths).foldl (MixedState.step host hfSubsets "train")
      ⟨∅, 0⟩).datasets = mixedDatasets host (sourcePaths mixedPaths) datasets :=
    foldl_step hload.1 (by simpa using hload.2)
  have hne : ¬ (mixedDatasets host (sourcePaths mixedPaths) datasets).keys.isEmpty = true := by
    obtain ⟨path, paths, hpaths⟩ := List.exists_cons_of_ne_nil (sourcePaths_ne_nil mixedPaths)
    have hmem :
        extractDatasetName host path ∈ mixedDatasets host (sourcePaths mixedPaths) datasets := by
      rw [mem_mixedDatasets hload.1, hpaths]
      exact List.mem_cons_self
    rw [List.isEmpty_iff]
    exact List.ne_nil_of_mem hmem
  rw [loadFromMixedSources, hloop, if_neg hne]

/-! ## The sources that are kept -/

theorem nodup_of_keys_length {d : Dict String D} {names : List String}
    (hmem : ∀ name, name ∈ d ↔ name ∈ names) (hlength : d.keys.length = names.length) :
    names.Nodup := by
  have hperm : d.keys.Perm names.dedup :=
    (List.perm_ext_iff_of_nodup d.nodupKeys names.nodup_dedup).mpr fun name =>
      (hmem name).trans List.mem_dedup.symm
  have hdedup : names.dedup = names :=
    (List.dedup_sublist names).eq_of_length (hperm.length_eq.symm.trans hlength)
  exact hdedup ▸ names.nodup_dedup

/-- Mixed sources are all kept exactly if the names derived from their paths are distinct. -/
theorem loadFromMixedSources_keeps_iff {host : Host D} {hfSubsets : List (Option String)}
    {mixedPaths : String} {datasets : List D}
    (hload : Loads host hfSubsets (sourcePaths mixedPaths) datasets) :
    KeepsEverySource host hfSubsets mixedPaths datasets ↔
      (sourceNames host (sourcePaths mixedPaths)).Nodup := by
  have hmem : ∀ name, name ∈ mixedDatasets host (sourcePaths mixedPaths) datasets ↔
      name ∈ sourceNames host (sourcePaths mixedPaths) := mem_mixedDatasets hload.1
  have hnames : (sourceNames host (sourcePaths mixedPaths)).length = datasets.length := by
    rw [sourceNames, List.length_map, hload.1]
  rw [KeepsEverySource, loadFromMixedSources_eq hload]
  constructor
  · rintro ⟨d, hd, hentries⟩
    obtain rfl := Option.some.inj (Except.ok.inj hd)
    exact nodup_of_keys_length hmem (hentries.keys_length.trans hnames.symm)
  · intro hnodup
    refine ⟨_, rfl, sourceNames host (sourcePaths mixedPaths), hnodup, hnames, hmem, ?_⟩
    intro i name dataset hname hdataset
    have hentry : (name, dataset) ∈ (sourceNames host (sourcePaths mixedPaths)).zip datasets :=
      List.mem_of_getElem? (List.getElem?_zip_eq_some.mpr ⟨hname, hdataset⟩)
    refine Dict.lookup_writeAll_of_nodup ?_ hentry
    rwa [map_fst_entries host hload.1]

/-! ## Two files of one name -/

def fileHost : Host String where
  pathExists _ := true
  isdir _ := false
  isfile _ := true
  resolveS3ToLocal path := .ok path
  loadFromHub _ path _ := .ok (some path)
  loadFromDirectory path _ := .ok (some path)
  loadFile path _ := .ok (some path)

theorem loads_two_files {mixedPaths path path' : String}
    (hpaths : sourcePaths mixedPaths = [path, path'])
    (hkind : (startsWith path "s3://" || isHuggingfaceDataset fileHost path) = false)
    (hkind' : (startsWith path' "s3://" || isHuggingfaceDataset fileHost path') = false) :
    Loads fileHost [] (sourcePaths mixedPaths) [path, path'] := by
  have hfile : ∀ {path : String} (k : Nat),
      (startsWith path "s3://" || isHuggingfaceDataset fileHost path) = false →
      loadSource fileHost [] k "train" path = .ok (some path) := by
    intro path k hkind
    rw [Bool.or_eq_false_iff] at hkind
    rw [loadSource, localPath, hkind.1, if_neg Bool.false_ne_true]
    dsimp only
    rw [hkind.2, if_neg Bool.false_ne_true]
    rfl
  rw [hpaths]
  refine ⟨rfl, fun i source dataset hsource hdataset => ?_⟩
  have hsame : source = dataset := Option.some.inj (hsource.symm.trans hdataset)
  subst hsame
  rcases List.mem_pair.mp (List.mem_of_getElem? hsource) with rfl | rfl
  · exact hfile _ hkind
  · exact hfile _ hkind'

/-- Files of different names are kept. -/
theorem loadFromMixedSources_two_files :
    KeepsEverySource fileHost [] "a/x.json,a/y.json" ["a/x.json", "a/y.json"] := by
  have hload : Loads fileHost [] (sourcePaths "a/x.json,a/y.json") ["a/x.json", "a/y.json"] :=
    loads_two_files (by decide +kernel) (by decide +kernel) (by decide +kernel)
  exact (loadFromMixedSources_keeps_iff hload).mpr (by decide +kernel)

/-- Of two files of one name in different directories, one is lost. -/
theorem loadFromMixedSources_same_name :
    (sourcePaths "a/x.json,b/x.json").Nodup ∧
    Loads fileHost [] (sourcePaths "a/x.json,b/x.json") ["a/x.json", "b/x.json"] ∧
    ¬ KeepsEverySource fileHost [] "a/x.json,b/x.json" ["a/x.json", "b/x.json"] := by
  have hload : Loads fileHost [] (sourcePaths "a/x.json,b/x.json") ["a/x.json", "b/x.json"] :=
    loads_two_files (by decide +kernel) (by decide +kernel) (by decide +kernel)
  refine ⟨by decide +kernel, hload, ?_⟩
  rintro ⟨d, hd, hentries⟩
  rw [loadFromMixedSources_eq hload] at hd
  obtain rfl := Option.some.inj (Except.ok.inj hd)
  have hkeys : (mixedDatasets fileHost (sourcePaths "a/x.json,b/x.json")
      ["a/x.json", "b/x.json"]).keys = ["x"] := by decide +kernel
  have hlength := hentries.keys_length
  rw [hkeys] at hlength
  cases hlength

end DataLoading
