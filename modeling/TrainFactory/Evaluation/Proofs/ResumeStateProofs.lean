import Mathlib.Data.List.Dedup
import TrainFactory.Evaluation.ResumeState

/-!
# Proofs: the resume state of an evaluation

Each stored key moves under the key of the only config that goes by it, and no two entries move under
one key. What comes out is a snapshot of the current schema, and comes out of itself again.
-/

namespace Evaluation

open Lib

variable {py : IdentityStdlib}

/-! ## Texts -/

theorem visibleText_eq_some {value : Option Json} {text : String}
    (h : visibleText value = some text) :
    ∃ raw, value = some (.str raw) ∧ strip raw = text ∧ text ≠ "" := by
  unfold visibleText at h
  split at h
  next raw =>
    split_ifs at h with hblank
    obtain rfl := Option.some.inj h
    exact ⟨raw, rfl, rfl, hblank⟩
  next => cases h

theorem visibleText_of_stripped {text : String} (hstrip : strip text = text) (hne : text ≠ "") :
    visibleText (some (.str text)) = some text := by
  rw [visibleText, hstrip, if_neg hne]

theorem strip_of_visibleText {value : Option Json} {text : String}
    (h : visibleText value = some text) : strip text = text := by
  obtain ⟨raw, -, rfl, -⟩ := visibleText_eq_some h
  exact strip_strip raw

@[simp] theorem stripField_stripField (value : Option Json) :
    stripField (stripField value) = stripField value := by
  cases value with
  | none => rfl
  | some value => cases value <;> simp [stripField, strip_strip]

@[simp] theorem stripOrNull_stripOrNull (value : Option Json) :
    stripOrNull (stripOrNull value) = stripOrNull value := by
  cases value with
  | none => rfl
  | some value =>
    cases value with
    | str text =>
      by_cases hblank : strip text = ""
      · simp [stripOrNull, hblank]
      · simp [stripOrNull, hblank, strip_strip]
    | _ => rfl

@[simp] theorem stripType_stripType (value : Option Json) :
    stripType py (stripType py value) = stripType py value := by
  cases value with
  | none => rfl
  | some value =>
    cases value with
    | str text => simp [stripType, py.strip_lower _ (strip_strip text), py.lower_lower]
    | _ => rfl

theorem isHashable_stripField (value : Option Json) (default : Json) :
    ((stripField value).getD default).isHashable = (value.getD default).isHashable := by
  cases value with
  | none => rfl
  | some value => cases value <;> rfl

/-! ## Canonical configs -/

theorem canonicalName_spec {config : ModelConfig} {name : String}
    (h : canonicalEvaluationModelName config = .ok name) : strip name = name ∧ name ≠ "" := by
  unfold canonicalEvaluationModelName at h
  cases hname : visibleText config.name with
  | some text =>
    rw [hname] at h
    obtain rfl := Except.ok.inj h
    obtain ⟨-, -, -, hne⟩ := visibleText_eq_some hname
    exact ⟨strip_of_visibleText hname, hne⟩
  | none =>
    rw [hname] at h
    cases hmodel : visibleText config.modelName with
    | some text =>
      rw [hmodel] at h
      obtain rfl := Except.ok.inj h
      obtain ⟨-, -, -, hne⟩ := visibleText_eq_some hmodel
      exact ⟨strip_of_visibleText hmodel, hne⟩
    | none =>
      rw [hmodel] at h
      cases h

theorem canonicalName_of_name {config : ModelConfig} {name : String} (hstrip : strip name = name)
    (hne : name ≠ "") (hname : config.name = some (.str name)) :
    canonicalEvaluationModelName config = .ok name := by
  rw [canonicalEvaluationModelName, hname, visibleText_of_stripped hstrip hne]

abbrev IsModelEntry : ModelConfig → String × ModelConfig → Prop :=
  IsEntry (fun raw => canonicalEvaluationModelName (stripModelConfig raw))
    fun name raw => .ok (labelModelConfig name raw)

abbrev IsDatasetEntry (py : IdentityStdlib) : DatasetConfig → String × DatasetConfig → Prop :=
  IsEntry (fun raw => canonicalEvaluationDatasetKey py (stripDatasetConfig py raw))
    fun key raw => .ok (labelDatasetConfig py key raw)

section Entries

variable {raw : ModelConfig} {model : String × ModelConfig}

theorem IsModelEntry.eq_label (h : IsModelEntry raw model) :
    model.2 = labelModelConfig model.1 raw := (Except.ok.inj h.2).symm

theorem IsModelEntry.name (h : IsModelEntry raw model) : model.2.name = some (.str model.1) := by
  rw [h.eq_label, labelModelConfig]

theorem IsModelEntry.identity (h : IsModelEntry raw model) :
    model.2.identity = some (evaluationIdentity model.1) := by
  rw [h.eq_label, labelModelConfig]

theorem IsModelEntry.key (h : IsModelEntry raw model) :
    canonicalEvaluationModelName model.2 = .ok model.1 := by
  obtain ⟨hstrip, hne⟩ := canonicalName_spec h.1
  exact canonicalName_of_name hstrip hne h.name

theorem IsModelEntry.again (h : IsModelEntry raw model) : IsModelEntry model.2 model := by
  obtain ⟨hstrip, hne⟩ := canonicalName_spec h.1
  constructor
  · exact canonicalName_of_name hstrip hne h.name
  · rw [h.eq_label]
    simp [labelModelConfig, stripModelConfig]

variable {rawDataset : DatasetConfig} {dataset : String × DatasetConfig}

theorem IsDatasetEntry.eq_label (h : IsDatasetEntry py rawDataset dataset) :
    dataset.2 = labelDatasetConfig py dataset.1 rawDataset := (Except.ok.inj h.2).symm

theorem IsDatasetEntry.identity (h : IsDatasetEntry py rawDataset dataset) :
    dataset.2.identity = some (evaluationIdentity dataset.1) := by
  rw [h.eq_label, labelDatasetConfig]

theorem IsDatasetEntry.key (h : IsDatasetEntry py rawDataset dataset) :
    canonicalEvaluationDatasetKey py dataset.2 = .ok dataset.1 := by
  rw [h.eq_label]
  exact h.1

theorem IsDatasetEntry.strip_eq (h : IsDatasetEntry py rawDataset dataset) :
    stripDatasetConfig py dataset.2 = dataset.2 := by
  rw [h.eq_label]
  simp [labelDatasetConfig, stripDatasetConfig]

theorem IsDatasetEntry.again (h : IsDatasetEntry py rawDataset dataset) :
    IsDatasetEntry py dataset.2 dataset := by
  have hkey : canonicalEvaluationDatasetKey py (stripDatasetConfig py dataset.2) =
      .ok dataset.1 := by
    rw [h.strip_eq]
    exact h.key
  have hlabel : labelDatasetConfig py dataset.1 dataset.2 = dataset.2 := by
    rw [labelDatasetConfig, h.strip_eq, h.eq_label]
    rfl
  exact ⟨hkey, congrArg Except.ok hlabel⟩

theorem visibleName_of_mtebKey {config : DatasetConfig} {key : String}
    (h : mtebKey config = .ok key) : ∃ name, visibleText config.name = some name := by
  cases hname : visibleText config.name with
  | some name => exact ⟨name, rfl⟩
  | none =>
    rw [mtebKey, hname] at h
    split_ifs at h

theorem isHashable_of_isMteb (h : IsDatasetEntry py rawDataset dataset)
    (hmteb : dataset.2.isMteb = true) : (dataset.2.name.getD .null).isHashable = true := by
  have hkey := h.key
  have htype : dataset.2.type = some (.str "mteb") := by
    unfold DatasetConfig.isMteb at hmteb
    split at hmteb
    next type htype => rw [htype, of_decide_eq_true hmteb]
    next => cases hmteb
  have hstrip : strip "mteb" = "mteb" := by decide
  have hlower : py.lower "mteb" = "mteb" := by
    have hfixed := congrArg DatasetConfig.type h.strip_eq
    rw [stripDatasetConfig, htype, stripType, hstrip] at hfixed
    exact Json.str.inj (Option.some.inj hfixed)
  rw [canonicalEvaluationDatasetKey, datasetKey, htype,
    visibleText_of_stripped hstrip (by decide)] at hkey
  dsimp only at hkey
  rw [if_pos hlower] at hkey
  obtain ⟨name, hname⟩ := visibleName_of_mtebKey hkey
  obtain ⟨text, htext, -, -⟩ := visibleText_eq_some hname
  rw [htext]
  rfl

end Entries

/-! ## The keys that a config goes by -/

/-- A config with its canonical form goes by a stored key: by its marker, if the snapshot is versioned,
and by its aliases otherwise. -/
def GoesBy {C : Type} (identity : C → Option Json)
    (aliases : C → String × C → Except EvalError (List StoredKey)) :
    Option Nat → C × String × C → StoredKey → Prop
  | none, p, stored => ∃ names, aliases p.1 p.2 = .ok names ∧ stored ∈ names
  | some _, p, stored => ∃ key, markedKey (identity p.1) = some key ∧ stored = .text key

def OnlyConfig {C : Type} (goesBy : C × String × C → StoredKey → Prop) (raws : List C)
    (configs : List (String × C)) (stored : StoredKey) (key : String) : Prop :=
  ∃ p ∈ raws.zip configs, p.2.1 = key ∧ goesBy p stored ∧
    ∀ p' ∈ raws.zip configs, goesBy p' stored → p' = p

section Resolve

variable {C : Type} {identity : C → Option Json}
  {aliases : C → String × C → Except EvalError (List StoredKey)} {kind : String} {raws : List C}
  {configs : List (String × C)} {names : List (List StoredKey × String)}
  {resolve : StoredKey → Except EvalError String} {version : Option Nat} {stored : StoredKey}
  {key : String}

theorem OnlyConfig.mem {goesBy : C × String × C → StoredKey → Prop}
    (h : OnlyConfig goesBy raws configs stored key) : ∃ config ∈ configs, config.1 = key := by
  obtain ⟨p, hp, hkey, -⟩ := h
  exact ⟨p.2, (List.of_mem_zip hp).2, hkey⟩

theorem eq_of_key_eq (hnodup : (configs.map Prod.fst).Nodup) {p p' : C × String × C}
    (hp : p ∈ raws.zip configs) (hp' : p' ∈ raws.zip configs) (heq : p'.2.1 = p.2.1) : p' = p := by
  have hsub : ((raws.zip configs).map fun p => p.2.1).Sublist (configs.map Prod.fst) := by
    clear hnodup hp hp'
    induction configs generalizing raws with
    | nil => simp
    | cons config configs ih =>
      cases raws with
      | nil => simp
      | cons raw raws => exact ih.cons_cons _
  exact List.inj_on_of_nodup_map (hsub.nodup hnodup) hp' hp heq

theorem resolveAlias_eq_ok (h : resolveAlias py kind names stored = .ok key) :
    (∃ entry ∈ names, stored ∈ entry.1 ∧ entry.2 = key) ∧
      ∀ entry ∈ names, stored ∈ entry.1 → entry.2 = key := by
  have hcandidates :
      ((names.filter fun entry => stored ∈ entry.1).map Prod.snd).dedup = [key] := by
    unfold resolveAlias at h
    split at h
    next => cases h
    next key' heq =>
      rw [← Except.ok.inj h]
      exact heq
    next => cases h
  have hmem (k : String) : k ∈ ((names.filter fun entry => stored ∈ entry.1).map Prod.snd) ↔
      k = key := by
    rw [← List.mem_dedup, hcandidates, List.mem_singleton]
  constructor
  · obtain ⟨entry, hentry, heq⟩ := List.mem_map.mp ((hmem key).mpr rfl)
    obtain ⟨hnames, hstored⟩ := List.mem_filter.mp hentry
    exact ⟨entry, hnames, of_decide_eq_true hstored, heq⟩
  · intro entry hnames hstored
    exact (hmem entry.2).mp (List.mem_map.mpr
      ⟨entry, List.mem_filter.mpr ⟨hnames, decide_eq_true hstored⟩, rfl⟩)

theorem onlyConfig_of_resolveAlias (hnodup : (configs.map Prod.fst).Nodup)
    (hnames : evaluationIdentityAliases aliases raws configs = .ok names)
    (h : resolveAlias py kind names stored = .ok key) :
    OnlyConfig (GoesBy identity aliases none) raws configs stored key := by
  obtain ⟨⟨entry, hentry, hstored, rfl⟩, honly⟩ := resolveAlias_eq_ok h
  obtain ⟨p, hp, hmap⟩ := exists_of_mem_mapM hnames hentry
  obtain ⟨own, hown, rfl⟩ := map_eq_ok.mp hmap
  refine ⟨p, hp, rfl, ⟨own, hown, hstored⟩, fun p' hp' hgoes => ?_⟩
  obtain ⟨own', hown', hstored'⟩ := hgoes
  obtain ⟨entry', hentry', hmap'⟩ := exists_of_mapM_eq_ok hnames hp'
  rw [hown'] at hmap'
  obtain rfl := Except.ok.inj hmap'
  exact eq_of_key_eq hnodup hp hp' (honly _ hentry' hstored')

theorem sourceKey_eq_ok {marker : Option Json} : sourceKey marker = .ok key ↔
    markedKey marker = some key := by
  unfold sourceKey
  cases markedKey marker <;> simp

theorem resolveMarked_eq_ok {keyMap : List (String × String)}
    (h : resolveMarked py kind keyMap stored = .ok key) :
    ∃ entry ∈ keyMap, stored = .text entry.1 ∧ entry.2 = key := by
  unfold resolveMarked at h
  cases hfind : keyMap.find? fun entry => stored = .text entry.1 with
  | none =>
    rw [hfind] at h
    cases h
  | some entry =>
    rw [hfind] at h
    have hfound := List.find?_some hfind
    exact ⟨entry, List.mem_of_find?_eq_some hfind, of_decide_eq_true hfound, Except.ok.inj h⟩

theorem onlyConfig_of_resolveMarked (hnodup : (configs.map Prod.fst).Nodup) {n : Nat}
    {keyMap : List (String × String)}
    (hmap : authoritativeIdentityKeyMap kind
      ((raws.zip configs).map fun p => (identity p.1, p.2.1)) = .ok keyMap)
    (h : resolveMarked py kind keyMap stored = .ok key) :
    OnlyConfig (GoesBy identity aliases (some n)) raws configs stored key := by
  obtain ⟨hall, hsources, -⟩ := freshEntries_eq_ok.mp hmap
  obtain ⟨entry, hentry, rfl, rfl⟩ := resolveMarked_eq_ok h
  obtain ⟨q, hq, hsource, htarget⟩ := exists_left_of_forall₂ hall hentry
  obtain ⟨p, hp, rfl⟩ := List.mem_map.mp hq
  refine ⟨p, hp, Except.ok.inj htarget, ⟨entry.1, sourceKey_eq_ok.mp hsource, rfl⟩, ?_⟩
  rintro p' hp' ⟨key', hmarked, hsame⟩
  obtain ⟨entry', hentry', hsource', htarget'⟩ :=
    exists_right_of_forall₂ hall (List.mem_map.mpr ⟨p', hp', rfl⟩)
  have hkey : key' = entry'.1 :=
    Option.some.inj (hmarked.symm.trans (sourceKey_eq_ok.mp hsource'))
  have hentries : entry' = entry :=
    List.inj_on_of_nodup_map hsources hentry' hentry (hkey ▸ (StoredKey.text.inj hsame).symm)
  have hkeys : p'.2.1 = entry'.2 := Except.ok.inj htarget'
  rw [hentries, ← Except.ok.inj htarget] at hkeys
  exact eq_of_key_eq hnodup hp hp' hkeys

theorem onlyConfig_of_resolve (hnodup : (configs.map Prod.fst).Nodup)
    (hnames : evaluationIdentityAliases aliases raws configs = .ok names)
    (hresolve : resolverOf py kind identity version names raws configs = .ok resolve)
    (h : resolve stored = .ok key) :
    OnlyConfig (GoesBy identity aliases version) raws configs stored key := by
  cases version with
  | none =>
    obtain rfl := Except.ok.inj hresolve
    exact onlyConfig_of_resolveAlias hnodup hnames h
  | some n =>
    obtain ⟨keyMap, hmap, rfl⟩ := map_eq_ok.mp hresolve
    exact onlyConfig_of_resolveMarked hnodup hmap h

/-! ### Canonical keys -/

theorem zip_snd_self (configs : List (String × C)) :
    (configs.map Prod.snd).zip configs = configs.map fun config => (config.2, config) := by
  have hzip := List.zip_map' (f := Prod.snd) (g := id) (l := configs)
  rwa [List.map_id] at hzip

/-- In a snapshot of the current schema, canonical keys stand for themselves. -/
theorem resolve_canonical (py : IdentityStdlib) (kind : String)
    (names : List (List StoredKey × String)) (hnodup : (configs.map Prod.fst).Nodup)
    (hidentity : ∀ config ∈ configs, identity config.2 = some (evaluationIdentity config.1))
    (hversion : version = none → configs = []) :
    ∃ resolve, resolverOf py kind identity version names (configs.map Prod.snd) configs =
      .ok resolve ∧ ∀ config ∈ configs, resolve (.text config.1) = .ok config.1 := by
  cases version with
  | none =>
    refine ⟨_, rfl, fun config hconfig => ?_⟩
    rw [hversion rfl] at hconfig
    cases hconfig
  | some n =>
    have hmap : authoritativeIdentityKeyMap kind
        (((configs.map Prod.snd).zip configs).map fun p => (identity p.1, p.2.1)) =
        .ok (configs.map fun config => (config.1, config.1)) := by
      refine freshEntries_of_forall₂ ?_ ?_
      · rw [zip_snd_self, List.map_map, List.forall₂_map_left_iff, List.forall₂_map_right_iff,
          List.forall₂_same]
        intro config hconfig
        refine ⟨sourceKey_eq_ok.mpr ?_, rfl⟩
        dsimp only [Function.comp_apply]
        rw [hidentity config hconfig]
        rfl
      · rw [List.map_map]
        exact hnodup
    refine ⟨resolveMarked py kind (configs.map fun config => (config.1, config.1)), ?_, ?_⟩
    · rw [resolverOf, hmap]
      rfl
    · intro config hconfig
      unfold resolveMarked
      cases hfind : (configs.map fun config => (config.1, config.1)).find? fun entry =>
          StoredKey.text config.1 = .text entry.1 with
      | none =>
        have hno := List.find?_eq_none.mp hfind _ (List.mem_map.mpr ⟨config, hconfig, rfl⟩)
        simp at hno
      | some entry =>
        have hfound := List.find?_some hfind
        have hsame := StoredKey.text.inj (of_decide_eq_true hfound)
        obtain ⟨config', -, rfl⟩ := List.mem_map.mp (List.mem_of_find?_eq_some hfind)
        dsimp only at hsame ⊢
        rw [hsame]

end Resolve

/-! ## Markers -/

/-- Canonical configs are a snapshot of a single version, unless there are none. -/
theorem persisted_canonical {models : List (String × ModelConfig)}
    {datasets : List (String × DatasetConfig)} (hmodels : ∀ m ∈ models, IsModelEntry m.2 m)
    (hdatasets : ∀ d ∈ datasets, IsDatasetEntry py d.2 d) :
    ∃ version, persistedIdentitySchemaVersion py (models.map Prod.snd) (datasets.map Prod.snd) =
      .ok version ∧ (version = none → models = [] ∧ datasets = []) := by
  let identities := (models.map Prod.snd).map ModelConfig.identity ++
    (datasets.map Prod.snd).map DatasetConfig.identity
  have hidentities : ∀ identity ∈ identities, ∃ key, identity = some (evaluationIdentity key) := by
    intro identity hmem
    rcases List.mem_append.mp hmem with hmem | hmem
    · rw [List.map_map] at hmem
      obtain ⟨m, hm, rfl⟩ := List.mem_map.mp hmem
      exact ⟨m.1, (hmodels m hm).identity⟩
    · rw [List.map_map] at hmem
      obtain ⟨d, hd, rfl⟩ := List.mem_map.mp hmem
      exact ⟨d.1, (hdatasets d hd).identity⟩
  have hsome : identities.all Option.isSome = true := by
    rw [List.all_eq_true]
    intro identity hmem
    obtain ⟨key, rfl⟩ := hidentities identity hmem
    rfl
  unfold persistedIdentitySchemaVersion
  cases hempty : identities with
  | nil =>
    obtain ⟨hno, hno'⟩ := List.append_eq_nil_iff.mp hempty
    rw [List.map_map, List.map_eq_nil_iff] at hno hno'
    refine ⟨none, ?_, fun _ => ⟨hno, hno'⟩⟩
    rw [hno, hno']
    rfl
  | cons first rest =>
    have hnone : ¬ identities.all Option.isNone = true := by
      rw [List.all_eq_true]
      intro hall
      have hfirst : first ∈ identities := hempty ▸ List.mem_cons_self ..
      obtain ⟨key, rfl⟩ := hidentities first hfirst
      exact absurd (hall _ hfirst) (by simp)
    have hversions : identities.mapM markedVersion = .ok (identities.map fun _ => 2) := by
      rw [mapM_eq_ok, List.forall₂_map_right_iff, List.forall₂_same]
      intro identity hmem
      obtain ⟨key, rfl⟩ := hidentities identity hmem
      rfl
    have hdedup : (identities.map fun _ => 2).dedup = [2] := by
      rw [List.map_const']
      refine List.replicate_dedup ?_
      rw [hempty]
      exact Nat.succ_ne_zero _
    refine ⟨some 2, ?_, fun h => by cases h⟩
    dsimp only
    rw [if_neg hnone, if_pos hsome]
    refine bind_eq_ok.mpr ⟨_, hversions, ?_⟩
    rw [hdedup]
    refine bind_eq_ok.mpr ⟨(), forM_eq_ok.mpr ?_, bind_eq_ok.mpr ⟨(), forM_eq_ok.mpr ?_, rfl⟩⟩
    · intro config hconfig
      obtain ⟨m, hm, rfl⟩ := List.mem_map.mp hconfig
      rw [(hmodels m hm).key, (hmodels m hm).identity]
      exact if_pos rfl
    · intro config hconfig
      obtain ⟨d, hd, rfl⟩ := List.mem_map.mp hconfig
      rw [if_neg (by decide), (hdatasets d hd).key, (hdatasets d hd).identity]
      exact if_pos rfl

/-! ## Matrices -/

def StoredMatrix.rows : StoredMatrix → List (StoredKey × StoredRow)
  | .entries models => models
  | .null => []
  | .other => []

def storedMatrix (matrix : KeyMatrix) : StoredMatrix :=
  .entries (matrix.map fun m => (.text m.1, .entries (m.2.map fun d => (.text d.1, d.2))))

section Migrate

variable {fieldName : String} {resolveModel resolveDataset : StoredKey → Except EvalError String}

theorem migrate_eq_ok {stored : StoredMatrix} {migrated : KeyMatrix}
    (h : migrateEvaluationKeyMatrix fieldName resolveModel resolveDataset stored =
      .ok migrated) :
    List.Forall₂ (IsEntry (fun stored => resolveModel stored.1)
        fun modelKey stored => migrateRow fieldName resolveDataset modelKey stored.2)
      stored.rows migrated ∧ (migrated.map Prod.fst).Nodup := by
  cases stored with
  | null =>
    obtain rfl := Except.ok.inj h
    exact ⟨List.Forall₂.nil, List.nodup_nil⟩
  | other => cases h
  | entries models =>
    obtain ⟨hall, hnodup, -⟩ := freshEntries_eq_ok.mp h
    exact ⟨hall, hnodup⟩

theorem migrateRow_eq_ok {modelKey : String} {row : StoredRow} {entries : List (String × Json)}
    (h : migrateRow fieldName resolveDataset modelKey row = .ok entries) :
    ∃ datasets, row = .entries datasets ∧
      List.Forall₂ (fun stored entry =>
        resolveDatasetKey fieldName resolveDataset stored.1 = .ok entry.1 ∧ entry.2 = stored.2)
        datasets entries ∧ (entries.map Prod.fst).Nodup := by
  cases row with
  | other => cases h
  | entries datasets =>
    obtain ⟨hall, hnodup, -⟩ := freshEntries_eq_ok.mp h
    refine ⟨datasets, rfl, hall.imp ?_, hnodup⟩
    rintro stored entry ⟨hkey, hvalue⟩
    exact ⟨hkey, (Except.ok.inj hvalue).symm⟩

theorem migrate_storedMatrix {matrix : KeyMatrix} (hnodup : (matrix.map Prod.fst).Nodup)
    (hmodels : ∀ m ∈ matrix, resolveModel (.text m.1) = .ok m.1)
    (hrows : ∀ m ∈ matrix, (m.2.map Prod.fst).Nodup)
    (hdatasets : ∀ m ∈ matrix, ∀ d ∈ m.2,
      resolveDatasetKey fieldName resolveDataset (.text d.1) = .ok d.1) :
    migrateEvaluationKeyMatrix fieldName resolveModel resolveDataset (storedMatrix matrix) =
      .ok matrix := by
  refine freshEntries_of_forall₂ ?_ hnodup
  rw [List.forall₂_map_left_iff, List.forall₂_same]
  intro m hm
  refine ⟨hmodels m hm, freshEntries_of_forall₂ ?_ (hrows m hm)⟩
  rw [List.forall₂_map_left_iff, List.forall₂_same]
  exact fun d hd => ⟨hdatasets m hm d hd, rfl⟩

end Migrate

/-! ## Resume states -/

section State

variable {models : List ModelConfig} {datasets : List DatasetConfig}
  {results modelProgress : StoredMatrix} {canonicalModels : Option (List ModelConfig)}
  {canonicalDatasets : Option (List DatasetConfig)} {state : ResumeState}

abbrev ModelGoesBy : Option Nat → ModelConfig × String × ModelConfig → StoredKey → Prop :=
  GoesBy ModelConfig.identity modelAliases

abbrev DatasetGoesBy : Option Nat → DatasetConfig × String × DatasetConfig → StoredKey → Prop :=
  GoesBy DatasetConfig.identity datasetAliases

/-- A result of a dataset has moved, unchanged, under the key of its dataset; the error of the model
stays where it is. -/
structure DatasetMoved (datasets : List DatasetConfig) (state : ResumeState)
    (stored : StoredKey × Json) (entry : String × Json) : Prop where
  value : entry.2 = stored.2
  key : stored.1 ≠ .text "_error" → OnlyConfig
    (DatasetGoesBy state.sourceIdentitySchemaVersion) datasets state.datasetConfigs stored.1 entry.1
  error : stored.1 = .text "_error" → entry.1 = "_error"

structure ModelMoved (models : List ModelConfig) (datasets : List DatasetConfig)
    (state : ResumeState) (stored : StoredKey × StoredRow) (entry : String × List (String × Json)) :
    Prop where
  key : OnlyConfig (ModelGoesBy state.sourceIdentitySchemaVersion) models state.modelConfigs stored.1
    entry.1
  rows : ∃ row, stored.2 = .entries row ∧
    List.Forall₂ (DatasetMoved datasets state) row entry.2
  nodup : (entry.2.map Prod.fst).Nodup

/-- Each stored result has moved under the pair that it belongs to, no two under one, and just the
pairs with a successful result are completed. -/
structure Migrated (models : List ModelConfig) (datasets : List DatasetConfig)
    (results : StoredMatrix) (state : ResumeState) : Prop where
  modelKeys : (state.modelConfigs.map Prod.fst).Nodup
  datasetKeys : (state.datasetConfigs.map Prod.fst).Nodup
  results : List.Forall₂ (ModelMoved models datasets state) results.rows state.results
  nodup : (state.results.map Prod.fst).Nodup
  completed : ∀ m ∈ state.modelConfigs, ∀ d ∈ state.datasetConfigs,
    ∃ progress, KeyMatrix.entry state.modelProgress m.1 d.1 = some progress ∧
      (progress.get? "status" = some (.str "completed") ↔
        isSuccessfulResult (KeyMatrix.entry state.results m.1 d.1) = true)

structure Returned (py : IdentityStdlib) (models : List ModelConfig)
    (datasets : List DatasetConfig) (results : StoredMatrix)
    (canonicalModels : Option (List ModelConfig))
    (canonicalDatasets : Option (List DatasetConfig)) (state : ResumeState) : Prop where
  modelEntries : List.Forall₂ IsModelEntry (canonicalModels.getD models) state.modelConfigs
  modelKeys : (state.modelConfigs.map Prod.fst).Nodup
  datasetEntries : List.Forall₂ (IsDatasetEntry py) (canonicalDatasets.getD datasets)
    state.datasetConfigs
  datasetKeys : (state.datasetConfigs.map Prod.fst).Nodup
  aliases : ∃ names, evaluationIdentityAliases datasetAliases datasets state.datasetConfigs =
    .ok names
  results : List.Forall₂ (ModelMoved models datasets state) results.rows state.results
  nodup : (state.results.map Prod.fst).Nodup
  progress : state.modelProgress =
    reconciledProgress state.modelConfigs state.datasetConfigs state.results

theorem resolveDatasetKey_results {resolve : StoredKey → Except EvalError String}
    {stored : StoredKey} {key : String}
    (h : resolveDatasetKey "results" resolve stored = .ok key) :
    stored = .text "_error" ∧ key = "_error" ∨ stored ≠ .text "_error" ∧ resolve stored = .ok key := by
  unfold resolveDatasetKey at h
  split_ifs at h with herror
  · exact Or.inl ⟨herror.2, (Except.ok.inj h).symm⟩
  · exact Or.inr ⟨fun hstored => herror ⟨rfl, hstored⟩, h⟩

theorem returned_of_ok
    (h : canonicalizeEvaluationResumeState py models datasets results modelProgress canonicalModels
      canonicalDatasets = .ok state) :
    Returned py models datasets results canonicalModels canonicalDatasets state := by
  unfold canonicalizeEvaluationResumeState at h
  obtain ⟨version, -, h⟩ := bind_eq_ok.mp h
  obtain ⟨modelConfigs, hmodels, h⟩ := bind_eq_ok.mp h
  obtain ⟨datasetConfigs, hdatasets, h⟩ := bind_eq_ok.mp h
  obtain ⟨modelNames, hmodelNames, h⟩ := bind_eq_ok.mp h
  obtain ⟨datasetNames, hdatasetNames, h⟩ := bind_eq_ok.mp h
  obtain ⟨resolveModel, hresolveModel, h⟩ := bind_eq_ok.mp h
  obtain ⟨resolveDataset, hresolveDataset, h⟩ := bind_eq_ok.mp h
  obtain ⟨migrated, hmigrated, h⟩ := bind_eq_ok.mp h
  obtain ⟨_, -, h⟩ := bind_eq_ok.mp h
  obtain rfl := pure_eq_ok.mp h
  obtain ⟨hmodelEntries, hmodelKeys, -⟩ := freshEntries_eq_ok.mp hmodels
  obtain ⟨hdatasetEntries, hdatasetKeys, -⟩ := freshEntries_eq_ok.mp hdatasets
  obtain ⟨hrows, hnodup⟩ := migrate_eq_ok hmigrated
  refine ⟨hmodelEntries, hmodelKeys, hdatasetEntries, hdatasetKeys, ⟨_, hdatasetNames⟩,
    hrows.imp ?_, hnodup, rfl⟩
  rintro stored entry ⟨hkey, hrow⟩
  obtain ⟨row, hstored, hentries, hentryKeys⟩ := migrateRow_eq_ok hrow
  refine ⟨onlyConfig_of_resolve hmodelKeys hmodelNames hresolveModel hkey,
    ⟨row, hstored, hentries.imp ?_⟩, hentryKeys⟩
  rintro storedDataset dataset ⟨hdataset, hvalue⟩
  rcases resolveDatasetKey_results hdataset with ⟨herror, heq⟩ | ⟨hother, hresolve⟩
  · exact ⟨hvalue, fun hne => absurd herror hne, fun _ => heq⟩
  · exact ⟨hvalue,
      fun _ => onlyConfig_of_resolve hdatasetKeys hdatasetNames hresolveDataset hresolve,
      fun herror => absurd herror hother⟩

theorem entry_reconciledProgress {modelConfigs : List (String × ModelConfig)}
    {datasetConfigs : List (String × DatasetConfig)} (matrix : KeyMatrix)
    (hmodels : (modelConfigs.map Prod.fst).Nodup) (hdatasets : (datasetConfigs.map Prod.fst).Nodup)
    {m : String × ModelConfig} (hm : m ∈ modelConfigs) {d : String × DatasetConfig}
    (hd : d ∈ datasetConfigs) :
    KeyMatrix.entry (reconciledProgress modelConfigs datasetConfigs matrix) m.1 d.1 =
      some (pairProgressEntry (KeyMatrix.entry matrix m.1 d.1)) := by
  have hrow : (reconciledProgress modelConfigs datasetConfigs matrix).lookup m.1 =
      some (datasetConfigs.map fun dataset =>
        (dataset.1, pairProgressEntry (KeyMatrix.entry matrix m.1 dataset.1))) := by
    refine lookup_eq_some_of_mem ?_ (List.mem_map.mpr ⟨m, hm, rfl⟩)
    rw [reconciledProgress, List.map_map]
    exact hmodels
  rw [KeyMatrix.entry, hrow, Option.bind_some]
  refine lookup_eq_some_of_mem ?_ (List.mem_map.mpr ⟨d, hd, rfl⟩)
  rw [List.map_map]
  exact hdatasets

theorem status_pairProgressEntry (result : Option Json) :
    (pairProgressEntry result).get? "status" = some (.str "completed") ↔
      isSuccessfulResult result = true := by
  unfold pairProgressEntry
  cases isSuccessfulResult result with
  | true => exact ⟨fun _ => rfl, fun _ => rfl⟩
  | false =>
    constructor
    · intro h
      have htext := Json.str.inj (Option.some.inj h)
      exact absurd htext (by decide)
    · intro h
      cases h

namespace Returned

variable (h : Returned py models datasets results canonicalModels canonicalDatasets state)

include h

theorem migrated : Migrated models datasets results state where
  modelKeys := h.modelKeys
  datasetKeys := h.datasetKeys
  results := h.results
  nodup := h.nodup
  completed m hm d hd := by
    rw [h.progress]
    exact ⟨_, entry_reconciledProgress state.results h.modelKeys h.datasetKeys hm hd,
      status_pairProgressEntry _⟩

theorem model_again {m : String × ModelConfig} (hm : m ∈ state.modelConfigs) :
    IsModelEntry m.2 m := by
  obtain ⟨raw, -, hentry⟩ := exists_left_of_forall₂ h.modelEntries hm
  exact hentry.again

theorem dataset_again {d : String × DatasetConfig} (hd : d ∈ state.datasetConfigs) :
    IsDatasetEntry py d.2 d := by
  obtain ⟨raw, -, hentry⟩ := exists_left_of_forall₂ h.datasetEntries hd
  exact hentry.again

theorem exists_modelNames : ∃ names, evaluationIdentityAliases modelAliases
    (state.modelConfigs.map Prod.snd) state.modelConfigs = .ok names := by
  refine exists_mapM_eq_ok fun p hp => ?_
  rw [zip_snd_self] at hp
  obtain ⟨m, hm, rfl⟩ := List.mem_map.mp hp
  have hname : m.2.legacyName = .str m.1 := by
    rw [ModelConfig.legacyName, (h.model_again hm).name]
  dsimp only
  rw [modelAliases, hname]
  exact ⟨_, rfl⟩

end Returned

theorem isHashable_legacyName_label (key : String) (raw : DatasetConfig) :
    (labelDatasetConfig py key raw).legacyName.isHashable = raw.legacyName.isHashable := by
  unfold DatasetConfig.legacyName
  cases hname : raw.name with
  | none =>
    simp only [labelDatasetConfig, stripDatasetConfig, hname]
    exact isHashable_stripField raw.path _
  | some name =>
    simp only [labelDatasetConfig, stripDatasetConfig, hname]
    rw [isHashable_stripField]
    cases name <;> rfl

theorem aliasesOf_eq_ok {key : String} {values : List Json} {names : List StoredKey}
    (h : aliasesOf key values = .ok names) : ∀ value ∈ values, value.isHashable = true := by
  unfold aliasesOf at h
  split_ifs at h with hall
  exact List.all_eq_true.mp hall

def NamesHashable (canonicalDatasets : Option (List DatasetConfig)) : Prop :=
  ∀ configs, canonicalDatasets = some configs → ∀ config ∈ configs,
    config.legacyName.isHashable = true

namespace Returned

variable (h : Returned py models datasets results canonicalModels canonicalDatasets state)
  (hnames : NamesHashable canonicalDatasets)

include h hnames

theorem isHashable_legacyName {d : String × DatasetConfig} (hd : d ∈ state.datasetConfigs)
    (hmteb : d.2.isMteb = false) : d.2.legacyName.isHashable = true := by
  obtain ⟨raw, hzip, hentry⟩ := exists_mem_zip_of_forall₂ h.datasetEntries hd
  rw [IsDatasetEntry.eq_label hentry, isHashable_legacyName_label]
  cases hcanonical : canonicalDatasets with
  | some configs =>
    rw [hcanonical] at hzip
    exact hnames configs hcanonical raw (List.of_mem_zip hzip).1
  | none =>
    rw [hcanonical] at hzip
    obtain ⟨names, hall⟩ := h.aliases
    obtain ⟨_, -, hmap⟩ := exists_of_mapM_eq_ok hall hzip
    obtain ⟨own, hown, -⟩ := map_eq_ok.mp hmap
    rw [datasetAliases, hmteb] at hown
    cases hpath : visibleText raw.path with
    | none =>
      rw [hpath] at hown
      exact aliasesOf_eq_ok hown _ (List.mem_cons_self ..)
    | some path =>
      rw [hpath] at hown
      exact aliasesOf_eq_ok hown _ (List.mem_cons_self ..)

theorem exists_datasetNames : ∃ names, evaluationIdentityAliases datasetAliases
    (state.datasetConfigs.map Prod.snd) state.datasetConfigs = .ok names := by
  refine exists_mapM_eq_ok fun p hp => ?_
  rw [zip_snd_self] at hp
  obtain ⟨d, hd, rfl⟩ := List.mem_map.mp hp
  dsimp only
  cases hmteb : d.2.isMteb with
  | true =>
    have hhashable := isHashable_of_isMteb (h.dataset_again hd) hmteb
    rw [datasetAliases, hmteb, if_pos rfl, aliasesOf, List.all_cons, hhashable]
    exact ⟨_, rfl⟩
  | false =>
    have hhashable := h.isHashable_legacyName hnames hd hmteb
    rw [datasetAliases, hmteb]
    cases visibleText d.2.path with
    | none =>
      dsimp only
      rw [if_neg (by decide), aliasesOf, List.all_cons, hhashable]
      exact ⟨_, rfl⟩
    | some path =>
      dsimp only
      rw [if_neg (by decide), aliasesOf, List.all_cons, hhashable]
      exact ⟨_, rfl⟩

theorem again : ∃ version,
    canonicalizeEvaluationResumeState py (state.modelConfigs.map Prod.snd)
      (state.datasetConfigs.map Prod.snd) (storedMatrix state.results)
      (storedMatrix state.modelProgress) none none =
    .ok { state with sourceIdentitySchemaVersion := version } := by
  obtain ⟨version, hversion, hempty⟩ := persisted_canonical
    (fun _ hm => h.model_again hm) fun _ hd => h.dataset_again hd
  obtain ⟨modelNames, hmodelNames⟩ := h.exists_modelNames
  obtain ⟨datasetNames, hdatasetNames⟩ := h.exists_datasetNames hnames
  obtain ⟨resolveModel, hresolveModel, hmodel⟩ := resolve_canonical py "model" modelNames
    h.modelKeys (fun _ hm => (h.model_again hm).identity) fun hnone => (hempty hnone).1
  obtain ⟨resolveDataset, hresolveDataset, hdataset⟩ := resolve_canonical py "dataset" datasetNames
    h.datasetKeys (fun _ hd => (h.dataset_again hd).identity) fun hnone => (hempty hnone).2
  have hmodels : canonicalizeEvaluationModelConfigs (state.modelConfigs.map Prod.snd) =
      .ok state.modelConfigs := by
    refine freshEntries_of_forall₂ ?_ h.modelKeys
    rw [List.forall₂_map_left_iff, List.forall₂_same]
    exact fun m hm => h.model_again hm
  have hdatasets : canonicalizeEvaluationDatasetConfigs py (state.datasetConfigs.map Prod.snd) =
      .ok state.datasetConfigs := by
    refine freshEntries_of_forall₂ ?_ h.datasetKeys
    rw [List.forall₂_map_left_iff, List.forall₂_same]
    exact fun d hd => h.dataset_again hd
  have hresults : migrateEvaluationKeyMatrix "results" resolveModel resolveDataset
      (storedMatrix state.results) = .ok state.results := by
    refine migrate_storedMatrix h.nodup (fun m hm => ?_) (fun m hm => ?_) fun m hm d hd => ?_
    · obtain ⟨stored, -, hmoved⟩ := exists_left_of_forall₂ h.results hm
      obtain ⟨config, hconfig, hkey⟩ := hmoved.key.mem
      rw [← hkey]
      exact hmodel config hconfig
    · obtain ⟨stored, -, hmoved⟩ := exists_left_of_forall₂ h.results hm
      exact hmoved.nodup
    · obtain ⟨stored, -, hmoved⟩ := exists_left_of_forall₂ h.results hm
      obtain ⟨row, -, hrow⟩ := hmoved.rows
      obtain ⟨storedDataset, -, hdatasetMoved⟩ := exists_left_of_forall₂ hrow hd
      unfold resolveDatasetKey
      by_cases herror : d.1 = "_error"
      · rw [if_pos ⟨rfl, congrArg StoredKey.text herror⟩, herror]
      · rw [if_neg fun hboth => herror (StoredKey.text.inj hboth.2)]
        have hother : storedDataset.1 ≠ .text "_error" := fun hstored =>
          herror (hdatasetMoved.error hstored)
        obtain ⟨config, hconfig, hkey⟩ := (hdatasetMoved.key hother).mem
        rw [← hkey]
        exact hdataset config hconfig
  have hprogress : migrateEvaluationKeyMatrix "model progress" resolveModel resolveDataset
      (storedMatrix state.modelProgress) = .ok state.modelProgress := by
    rw [h.progress]
    refine migrate_storedMatrix ?_ (fun m hm => ?_) (fun m hm => ?_) fun m hm d hd => ?_
    · rw [reconciledProgress, List.map_map]
      exact h.modelKeys
    · obtain ⟨config, hconfig, rfl⟩ := List.mem_map.mp hm
      exact hmodel config hconfig
    · obtain ⟨config, hconfig, rfl⟩ := List.mem_map.mp hm
      rw [List.map_map]
      exact h.datasetKeys
    · obtain ⟨config, hconfig, rfl⟩ := List.mem_map.mp hm
      obtain ⟨datasetConfig, hdatasetConfig, rfl⟩ := List.mem_map.mp hd
      unfold resolveDatasetKey
      rw [if_neg fun hboth => absurd hboth.1 (by decide)]
      exact hdataset datasetConfig hdatasetConfig
  refine ⟨version, ?_⟩
  unfold canonicalizeEvaluationResumeState
  refine bind_eq_ok.mpr ⟨_, hversion, bind_eq_ok.mpr ⟨_, hmodels, ?_⟩⟩
  refine bind_eq_ok.mpr ⟨_, hdatasets, bind_eq_ok.mpr ⟨_, hmodelNames, ?_⟩⟩
  refine bind_eq_ok.mpr ⟨_, hdatasetNames, bind_eq_ok.mpr ⟨_, hresolveModel, ?_⟩⟩
  refine bind_eq_ok.mpr ⟨_, hresolveDataset, bind_eq_ok.mpr ⟨_, hresults, ?_⟩⟩
  refine bind_eq_ok.mpr ⟨_, hprogress, ?_⟩
  rw [h.progress]
  rfl

end Returned

/-- What is migrated moves under the pairs that it belongs to, and is migrated to itself again. -/
theorem canonicalizeEvaluationResumeState_migrates
    (h : canonicalizeEvaluationResumeState py models datasets results modelProgress canonicalModels
      canonicalDatasets = .ok state) (hnames : NamesHashable canonicalDatasets) :
    Migrated models datasets results state ∧
      ∃ version, canonicalizeEvaluationResumeState py (state.modelConfigs.map Prod.snd)
        (state.datasetConfigs.map Prod.snd) (storedMatrix state.results)
        (storedMatrix state.modelProgress) none none =
      .ok { state with sourceIdentitySchemaVersion := version } :=
  ⟨(returned_of_ok h).migrated, (returned_of_ok h).again hnames⟩

end State

/-! ## A legacy snapshot -/

/-- The standard library on texts in lower case. -/
def lowercaseStdlib : IdentityStdlib where
  lower text := text
  sha256 _ := ""
  repr key := key.getD "None"
  lower_lower _ := rfl
  strip_lower _ h := h

def legacyModel : ModelConfig where
  name := some (.str "model-one")
  modelName := some (.str "served-one")
  identity := none
  others := []

def servedModel : ModelConfig :=
  { legacyModel with name := none, modelName := some (.str "served-two") }

/-- A dataset from MTEB without a marker. -/
def legacyDataset (name : String) : DatasetConfig where
  type := some (.str "mteb")
  name := some (.str name)
  datasetId := none
  path := none
  resultKey := none
  identity := none
  others := []

def legacyScore : Json := .obj [("NDCG@10", .float (3 / 4))]

def legacyMatrix (value : Json) : StoredMatrix :=
  .entries [(.text "model-one", .entries [(.text "T2Reranking", value),
      (.text "MMarcoReranking", value)]),
    (.text "served-two", .entries [(.text "T2Reranking", value)])]

def migratedState : ResumeState where
  modelConfigs := [("model-one", labelModelConfig "model-one" legacyModel),
    ("served-two", labelModelConfig "served-two" servedModel)]
  datasetConfigs :=
    [("mteb:T2Reranking",
        labelDatasetConfig lowercaseStdlib "mteb:T2Reranking" (legacyDataset "T2Reranking")),
      ("mteb:MMarcoReranking",
        labelDatasetConfig lowercaseStdlib "mteb:MMarcoReranking" (legacyDataset "MMarcoReranking"))]
  results := [("model-one", [("mteb:T2Reranking", legacyScore),
      ("mteb:MMarcoReranking", legacyScore)]),
    ("served-two", [("mteb:T2Reranking", legacyScore)])]
  modelProgress := [("model-one", [("mteb:T2Reranking", pairProgressEntry (some legacyScore)),
      ("mteb:MMarcoReranking", pairProgressEntry (some legacyScore))]),
    ("served-two", [("mteb:T2Reranking", pairProgressEntry (some legacyScore)),
      ("mteb:MMarcoReranking", pairProgressEntry none)])]
  sourceIdentitySchemaVersion := none

theorem legacy_snapshot_migrates :
    Migrated [legacyModel, servedModel] [legacyDataset "T2Reranking", legacyDataset "MMarcoReranking"]
      (legacyMatrix legacyScore) migratedState ∧
      ∃ version, canonicalizeEvaluationResumeState lowercaseStdlib
        (migratedState.modelConfigs.map Prod.snd) (migratedState.datasetConfigs.map Prod.snd)
        (storedMatrix migratedState.results) (storedMatrix migratedState.modelProgress) none none =
      .ok { migratedState with sourceIdentitySchemaVersion := version } := by
  have hstate : canonicalizeEvaluationResumeState lowercaseStdlib [legacyModel, servedModel]
      [legacyDataset "T2Reranking", legacyDataset "MMarcoReranking"] (legacyMatrix legacyScore) .null
      none none = .ok migratedState := rfl
  exact canonicalizeEvaluationResumeState_migrates hstate fun _ h => by cases h

end Evaluation
