import TrainFactory.Lib.Result
import TrainFactory.Lib.Run
import TrainFactory.Registry.Service

/-!
# The latest member of a model family

The rows whose name and owner the collation takes for equal are a family. Registrations and new
versions keep exactly one latest member, the one designated last; a deletion does so unless it takes
the latest member out of a family that has others.
-/

namespace Registry

open Lib

variable {host : Host} {db db' : Tables} {history : List String}

/-- The ids of the members of a family. -/
def familyIds (host : Host) (db : Tables) (modelName : String) (userId : Option String) :
    List String :=
  (db.models.select (host.isFamily modelName userId)).map ModelRow.modelId

/-- Each family that has members has exactly one latest member: the one that was registered or set as
latest last, of those still present. -/
def HasLatest (host : Host) (history : List String) (db : Tables) : Prop :=
  ∀ modelName userId, familyIds host db modelName userId ≠ [] →
    ∃ m ∈ db.models, host.isFamily modelName userId m = true ∧ m.isLatest = true ∧
      (∀ m' ∈ db.models, host.isFamily modelName userId m' = true → m'.isLatest = true → m' = m) ∧
      (history.filter (· ∈ familyIds host db modelName userId)).getLast? = some m.modelId

theorem isFamily_iff {modelName : String} {userId : Option String} {m : ModelRow} :
    host.isFamily modelName userId m = true ↔
      host.collation.weight m.modelName = host.collation.weight modelName ∧
        m.userId.map host.collation.weight = userId.map host.collation.weight := by
  simp [Host.isFamily, Collation.same, Collation.sameOrNull]

theorem isFamily_self (m : ModelRow) : host.isFamily m.modelName m.userId m = true :=
  isFamily_iff.mpr ⟨rfl, rfl⟩

/-- A member spells the family as well as the name and the owner asked for. -/
theorem isFamily_of_member {modelName : String} {userId : Option String} {m : ModelRow}
    (h : host.isFamily modelName userId m = true) (m' : ModelRow) :
    host.isFamily m.modelName m.userId m' = host.isFamily modelName userId m' := by
  obtain ⟨hn, hu⟩ := isFamily_iff.mp h
  rw [Bool.eq_iff_iff, isFamily_iff, isFamily_iff, hn, hu]

theorem mem_familyIds {modelName : String} {userId : Option String} {id : String} :
    id ∈ familyIds host db modelName userId ↔
      ∃ m ∈ db.models, host.isFamily modelName userId m = true ∧ m.modelId = id := by
  rw [familyIds, List.mem_map]
  constructor
  · rintro ⟨m, hm, rfl⟩
    exact ⟨m, (Table.mem_select.mp hm).1, (Table.mem_select.mp hm).2, rfl⟩
  · rintro ⟨m, hm, hf, rfl⟩
    exact ⟨m, Table.mem_select.mpr ⟨hm, hf⟩, rfl⟩

theorem familyIds_ne_nil {modelName : String} {userId : Option String} :
    familyIds host db modelName userId ≠ [] ↔
      ∃ m ∈ db.models, host.isFamily modelName userId m = true := by
  constructor
  · intro hne
    obtain ⟨id, hid⟩ := List.exists_mem_of_ne_nil _ hne
    obtain ⟨m, hm, hf, -⟩ := mem_familyIds.mp hid
    exact ⟨m, hm, hf⟩
  · rintro ⟨m, hm, hf⟩
    exact List.ne_nil_of_mem (mem_familyIds.mpr ⟨m, hm, hf, rfl⟩)

theorem getLast?_filter_of_imp {l : List String} {p q : String → Bool} {a : String}
    (himp : ∀ x, q x = true → p x = true) (hlast : (l.filter p).getLast? = some a)
    (ha : q a = true) : (l.filter q).getLast? = some a := by
  have hfilter : l.filter q = (l.filter p).filter q := by
    rw [List.filter_filter]
    refine List.filter_congr fun x _ => ?_
    cases hq : q x with
    | false => simp
    | true => simp [himp x hq]
  obtain ⟨front, hfront⟩ := List.getLast?_eq_some_iff.mp hlast
  rw [hfilter, hfront, List.filter_append]
  simp [ha]

/-! ## A designation -/

/-- The models after one of them is registered or set as latest: the row `m`, in a family whose other
members are no longer latest. -/
structure Designated (host : Host) (models models' : Table ModelRow) (m : ModelRow) : Prop where
  latest : m.isLatest = true
  family : ∀ m₀ ∈ models, m₀.modelId = m.modelId → host.isFamily m.modelName m.userId m₀ = true
  mem_iff : ∀ m', m' ∈ models' ↔ m' = m ∨ ∃ m₀ ∈ models, m₀.modelId ≠ m.modelId ∧
    m' = if host.isFamily m.modelName m.userId m₀ && m₀.isLatest then notLatest m₀ else m₀

theorem Designated.mem_other {m m' : ModelRow} (h : Designated host db.models db'.models m)
    {modelName : String} {userId : Option String} (hne : host.isFamily modelName userId m = false)
    (hf : host.isFamily modelName userId m' = true) : m' ∈ db'.models ↔ m' ∈ db.models := by
  have hother : ∀ m₀ : ModelRow, host.isFamily modelName userId m₀ = true →
      host.isFamily m.modelName m.userId m₀ = false := by
    intro m₀ hm₀
    by_contra hsame
    have hm₀m : host.isFamily m.modelName m.userId m₀ = true := by simpa using hsame
    rw [← isFamily_of_member hm₀ m, isFamily_of_member hm₀m, isFamily_self] at hne
    exact absurd hne (by simp)
  rw [h.mem_iff]
  constructor
  · rintro (rfl | ⟨m₀, hm₀, -, rfl⟩)
    · rw [hf] at hne
      exact absurd hne (by simp)
    · split_ifs at hf ⊢ with hdemoted
      · have hm₀f : host.isFamily modelName userId m₀ = true := hf
        rw [hother m₀ hm₀f] at hdemoted
        exact absurd hdemoted (by simp)
      · exact hm₀
  · intro hm'
    refine Or.inr ⟨m', hm', fun hid => ?_, ?_⟩
    · have hsame := h.family m' hm' hid
      rw [hother m' hf] at hsame
      exact absurd hsame (by simp)
    · rw [hother m' hf]
      rfl

theorem HasLatest.designate (h : HasLatest host history db) {m : ModelRow}
    (hd : Designated host db.models db'.models m) : HasLatest host (history ++ [m.modelId]) db' := by
  intro modelName userId hne
  cases hf : host.isFamily modelName userId m with
  | true =>
    have hm : m ∈ db'.models := (hd.mem_iff m).mpr (Or.inl rfl)
    refine ⟨m, hm, hf, hd.latest, ?_, ?_⟩
    · intro m' hm' hf' hlatest
      rcases (hd.mem_iff m').mp hm' with rfl | ⟨m₀, -, -, rfl⟩
      · rfl
      · split_ifs at hf' hlatest with hdemoted
        · exact absurd hlatest (by simp [notLatest])
        · rw [isFamily_of_member hf, hf', hlatest] at hdemoted
          exact absurd rfl hdemoted
    · have hid : m.modelId ∈ familyIds host db' modelName userId :=
        mem_familyIds.mpr ⟨m, hm, hf, rfl⟩
      rw [List.filter_append]
      simp [hid]
  | false =>
    have hids : ∀ id, id ∈ familyIds host db' modelName userId ↔
        id ∈ familyIds host db modelName userId := by
      intro id
      rw [mem_familyIds, mem_familyIds]
      refine exists_congr fun m' => ?_
      constructor
      · rintro ⟨hm', hf', hid⟩
        exact ⟨(hd.mem_other hf hf').mp hm', hf', hid⟩
      · rintro ⟨hm', hf', hid⟩
        exact ⟨(hd.mem_other hf hf').mpr hm', hf', hid⟩
    have hne₀ : familyIds host db modelName userId ≠ [] := by
      obtain ⟨id, hid⟩ := List.exists_mem_of_ne_nil _ hne
      exact List.ne_nil_of_mem ((hids id).mp hid)
    obtain ⟨m₀, hm₀, hf₀, hlatest, hunique, hlast⟩ := h modelName userId hne₀
    refine ⟨m₀, (hd.mem_other hf hf₀).mpr hm₀, hf₀, hlatest, ?_, ?_⟩
    · intro m' hm' hf' hl'
      exact hunique m' ((hd.mem_other hf hf').mp hm') hf' hl'
    · have hnot : m.modelId ∉ familyIds host db' modelName userId := by
        intro hid
        obtain ⟨m', hm', hf', hid'⟩ := mem_familyIds.mp ((hids _).mp hid)
        rw [← isFamily_of_member hf' m, isFamily_of_member (hd.family m' hm' hid'),
          isFamily_self] at hf
        exact absurd hf (by simp)
      have hfilter : (history ++ [m.modelId]).filter (· ∈ familyIds host db' modelName userId) =
          history.filter (· ∈ familyIds host db modelName userId) := by
        rw [List.filter_append]
        simp only [hnot, decide_false, Bool.false_eq_true, not_false_eq_true, List.filter_cons_of_neg,
          List.filter_nil, List.append_nil]
        exact List.filter_congr fun id _ => decide_eq_decide.mpr (hids id)
      rw [hfilter]
      exact hlast

/-! ## The operations -/

theorem mem_of_lockScope {models : Table ModelRow} {modelName : String} {userId : Option String}
    {paths : List String} {required : Option String} {locked : List ModelRow}
    (h : host.lockRegistryMembershipWriteScope models modelName userId paths required = .ok locked)
    {m : ModelRow} (hm : m ∈ locked) : m ∈ models := by
  obtain ⟨canonical, -, h⟩ := bind_eq_ok.mp h
  split at h
  · obtain rfl := pure_eq_ok.mp h
    exact absurd hm (by simp)
  · obtain ⟨rows, hrows, h⟩ := bind_eq_ok.mp h
    split at h
    · exact absurd h (by simp)
    · obtain rfl := pure_eq_ok.mp h
      exact mem_of_filterM hrows hm

theorem registerModel_ok {args : RegisterModel} (h : host.registerModel args db = .ok db') :
    (host.demoteFamily args.modelName args.userId db.models).insert (host.newModel args) =
      some db'.models := by
  obtain ⟨-, h⟩ := ite_error_eq_ok.mp h
  obtain ⟨locked, -, h⟩ := bind_eq_ok.mp h
  obtain ⟨models, hmodels, h⟩ := bind_eq_ok.mp h
  obtain ⟨versions, -, h⟩ := bind_eq_ok.mp h
  obtain rfl := pure_eq_ok.mp h
  obtain ⟨-, hins⟩ := ite_error_eq_ok.mp hmodels
  split at hins
  · rename_i models' hins'
    obtain rfl := Except.ok.inj hins
    exact hins'
  · exact absurd hins (by simp)

/-- A new version either is the latest, and then so is its model in its family, or no model
changes. -/
theorem addVersion_ok {args : AddVersion} (h : host.addVersion args db = .ok (some db')) :
    (args.setAsLatest = false ∧ db'.models = db.models) ∨
      args.setAsLatest = true ∧ ∃ m, db.models.lookup args.modelId = some m ∧
        db'.models = (host.demoteFamily m.modelName m.userId db.models).update args.modelId
          (host.withVersion args) (key_withVersion host args) := by
  unfold Host.addVersion at h
  cases hm : db.models.lookup args.modelId with
  | none => simp [hm] at h
  | some candidate =>
    simp only [hm] at h
    obtain ⟨family, hscope, hfound⟩ := bind_eq_ok.mp h
    split at hfound
    · exact absurd (pure_eq_ok.mp hfound) (by simp)
    · rename_i model hfind
      obtain ⟨versions, -, hset⟩ := bind_eq_ok.mp hfound
      have hmodel : model = candidate := by
        obtain ⟨hc, hid⟩ := Table.lookup_eq_some.mp hm
        have hid' : model.modelId = args.modelId := by simpa using List.find?_some hfind
        exact Table.eq_of_key (mem_of_lockScope hscope (List.mem_of_find?_eq_some hfind)) hc
          (hid'.trans hid.symm)
      subst hmodel
      split at hset
      · rename_i hlatest
        obtain ⟨-, hres⟩ := ite_error_eq_ok.mp hset
        obtain rfl := Option.some.inj (pure_eq_ok.mp hres)
        exact Or.inr ⟨hlatest, model, rfl, rfl⟩
      · rename_i hlatest
        obtain rfl := Option.some.inj (pure_eq_ok.mp hset)
        exact Or.inl ⟨by simpa using hlatest, rfl⟩

theorem mem_demoteFamily {modelName : String} {userId : Option String} {models : Table ModelRow}
    {m : ModelRow} : m ∈ host.demoteFamily modelName userId models ↔ ∃ m₀ ∈ models,
      m = if host.isFamily modelName userId m₀ && m₀.isLatest then notLatest m₀ else m₀ :=
  Table.mem_updateWhere

theorem registerModel_designated {args : RegisterModel}
    (h : host.registerModel args db = .ok db') :
    Designated host db.models db'.models (host.newModel args) := by
  have hins := registerModel_ok h
  have hfresh : ∀ m₀ ∈ db.models, m₀.modelId ≠ (host.newModel args).modelId := by
    intro m₀ hm₀ hid
    refine (Table.insert_eq_some.mp hins).1 _ (mem_demoteFamily.mpr ⟨m₀, hm₀, rfl⟩) ?_
    rw [key_model (host.newModel args), ← hid]
    split_ifs <;> rfl
  refine ⟨rfl, fun m₀ hm₀ hid => absurd hid (hfresh m₀ hm₀), fun m' => ?_⟩
  rw [Table.mem_insert hins, mem_demoteFamily]
  constructor
  · rintro (⟨m₀, hm₀, rfl⟩ | rfl)
    · exact Or.inr ⟨m₀, hm₀, hfresh m₀ hm₀, rfl⟩
    · exact Or.inl rfl
  · rintro (rfl | ⟨m₀, hm₀, -, rfl⟩)
    · exact Or.inr rfl
    · exact Or.inl ⟨m₀, hm₀, rfl⟩

theorem addVersion_designated {args : AddVersion} {m : ModelRow}
    (hm : db.models.lookup args.modelId = some m) {models' : Table ModelRow}
    (h : models' = (host.demoteFamily m.modelName m.userId db.models).update args.modelId
      (host.withVersion args) (key_withVersion host args)) :
    Designated host db.models models' (host.withVersion args m) := by
  obtain ⟨hmem, hid⟩ := Table.lookup_eq_some.mp hm
  have hself : ∀ m₀ ∈ db.models, m₀.modelId = (host.withVersion args m).modelId → m₀ = m :=
    fun m₀ hm₀ hid₀ => Table.eq_of_key hm₀ hmem hid₀
  have hfamily : ∀ m₀ ∈ db.models, m₀.modelId = (host.withVersion args m).modelId →
      host.isFamily m.modelName m.userId m₀ = true := by
    intro m₀ hm₀ hid₀
    rw [hself m₀ hm₀ hid₀]
    exact isFamily_self m
  refine ⟨rfl, hfamily, fun m' => ?_⟩
  have hkey : ∀ m₀ : ModelRow, Keyed.key (if host.isFamily m.modelName m.userId m₀ && m₀.isLatest then
      notLatest m₀ else m₀) = m₀.modelId := by
    intro m₀
    split_ifs <;> rfl
  rw [h, Table.mem_update]
  constructor
  · rintro ⟨m₁, hm₁, rfl⟩
    obtain ⟨m₀, hm₀, rfl⟩ := mem_demoteFamily.mp hm₁
    rw [hkey]
    by_cases hid₀ : m₀.modelId = args.modelId
    · rw [if_pos hid₀]
      obtain rfl : m₀ = m := hself m₀ hm₀ (hid₀.trans hid.symm)
      left
      split_ifs <;> rfl
    · rw [if_neg hid₀]
      exact Or.inr ⟨m₀, hm₀, fun hsame => hid₀ (hsame.trans hid), rfl⟩
  · rintro (rfl | ⟨m₀, hm₀, hne, rfl⟩)
    · refine ⟨_, mem_demoteFamily.mpr ⟨m, hmem, rfl⟩, ?_⟩
      have hmid : m.modelId = args.modelId := hid
      rw [hkey, if_pos hmid]
      split_ifs <;> rfl
    · refine ⟨_, mem_demoteFamily.mpr ⟨m₀, hm₀, rfl⟩, ?_⟩
      have hne' : m₀.modelId ≠ args.modelId := fun hsame => hne (hsame.trans hid.symm)
      rw [hkey, if_neg hne']
      rfl

/-- The operation does not delete the latest member of a family that has others. -/
def KeepsLatest (host : Host) (db : Tables) : Op → Prop
  | .deleteModel modelId => ∀ m ∈ db.models, m.modelId = modelId → m.isLatest = true →
      ∀ m' ∈ db.models, host.isFamily m.modelName m.userId m' = true → m' = m
  | _ => True

theorem mem_removeModel {modelId : String} {m : ModelRow} :
    m ∈ (removeModel modelId db).models ↔ m ∈ db.models ∧ m.modelId ≠ modelId := by
  simp [removeModel, Table.mem_deleteWhere]

theorem HasLatest.remove (h : HasLatest host history db) {modelId : String}
    (hkeeps : KeepsLatest host db (.deleteModel modelId)) :
    HasLatest host history (removeModel modelId db) := by
  intro modelName userId hne
  obtain ⟨m₁, hm₁, hf₁⟩ := familyIds_ne_nil.mp hne
  obtain ⟨hm₁, hid₁⟩ := mem_removeModel.mp hm₁
  obtain ⟨m, hm, hf, hlatest, hunique, hlast⟩ :=
    h modelName userId (familyIds_ne_nil.mpr ⟨m₁, hm₁, hf₁⟩)
  have hid : m.modelId ≠ modelId := by
    -- the latest member stays: were it deleted, the family would have no other
    intro hid
    obtain rfl := hkeeps m hm hid hlatest m₁ hm₁ ((isFamily_of_member hf m₁).trans hf₁)
    exact hid₁ hid
  have hm' : m ∈ (removeModel modelId db).models := mem_removeModel.mpr ⟨hm, hid⟩
  refine ⟨m, hm', hf, hlatest, ?_, ?_⟩
  · intro m' hm' hf' hl'
    exact hunique m' (mem_removeModel.mp hm').1 hf' hl'
  · refine getLast?_filter_of_imp ?_ hlast ?_
    · intro id hmem
      obtain ⟨m', hm', hf', hid'⟩ := mem_familyIds.mp (of_decide_eq_true hmem)
      exact decide_eq_true (mem_familyIds.mpr ⟨m', (mem_removeModel.mp hm').1, hf', hid'⟩)
    · exact decide_eq_true (mem_familyIds.mpr ⟨m, hm', hf, rfl⟩)

theorem not_hasLatest_remove (h : HasLatest host history db) {modelId : String}
    (hkeeps : ¬ KeepsLatest host db (.deleteModel modelId)) (history' : List String) :
    ¬ HasLatest host history' (removeModel modelId db) := by
  simp only [KeepsLatest, not_forall] at hkeeps
  obtain ⟨m, hm, hid, hlatest, m', hm', hf', hne⟩ := hkeeps
  intro h'
  have hid' : m'.modelId ≠ modelId :=
    fun hsame => hne (Table.eq_of_key hm' hm (hsame.trans hid.symm))
  obtain ⟨m₂, hm₂, hf₂, hlatest₂, -⟩ := h' m.modelName m.userId
    (familyIds_ne_nil.mpr ⟨m', mem_removeModel.mpr ⟨hm', hid'⟩, hf'⟩)
  obtain ⟨hm₂, hid₂⟩ := mem_removeModel.mp hm₂
  obtain ⟨m₃, -, -, -, hunique, -⟩ := h m.modelName m.userId
    (familyIds_ne_nil.mpr ⟨m, hm, isFamily_self m⟩)
  have hsame : m₂ = m :=
    (hunique m₂ hm₂ hf₂ hlatest₂).trans (hunique m hm (isFamily_self m) hlatest).symm
  exact hid₂ (hsame ▸ hid)

theorem hasLatest_empty : HasLatest host [] Tables.empty := by
  intro modelName userId hne
  obtain ⟨m, hm, -⟩ := familyIds_ne_nil.mp hne
  exact absurd hm (Table.not_mem_empty m)

theorem HasLatest.step (h : HasLatest host history db) (op : Op) (hop : KeepsLatest host db op) :
    HasLatest host (history ++ host.designates db op) (host.step db op) := by
  cases op with
  | registerModel args =>
    simp only [Host.designates, Host.step]
    cases hres : host.registerModel args db with
    | error e => simpa using h
    | ok db' => exact h.designate (registerModel_designated hres)
  | addVersion args =>
    simp only [Host.designates, Host.step]
    cases hres : host.addVersion args db with
    | error e => simpa using h
    | ok result =>
      cases result with
      | none => simpa using h
      | some db' =>
        rcases addVersion_ok hres with ⟨hset, hmodels⟩ | ⟨hset, m, hm, hmodels⟩
        · have hsame : HasLatest host history db' := by
            unfold HasLatest familyIds
            rw [hmodels]
            exact h
          simpa [hset] using hsame
        · have hid : (host.withVersion args m).modelId = args.modelId :=
            (Table.lookup_eq_some.mp hm).2
          have hdesignated := h.designate (addVersion_designated hm hmodels)
          rw [hid] at hdesignated
          simpa [hset] using hdesignated
  | deleteModel modelId =>
    simp only [Host.designates, Host.step, List.append_nil]
    exact h.remove hop

/-- Along every run in which no deletion takes the latest member out of a family that has others,
each family has exactly one latest member, the one designated last; and such a deletion leaves a
family without one. -/
theorem family_has_latest (host : Host) (ops : List Op)
    (hops : Admits host.step (KeepsLatest host) Tables.empty ops) :
    HasLatest host (events host.step host.designates Tables.empty ops)
        (exec host.step Tables.empty ops) ∧
      ∀ modelId, ¬ KeepsLatest host (exec host.step Tables.empty ops) (.deleteModel modelId) →
        ∀ history, ¬ HasLatest host history
          (host.step (exec host.step Tables.empty ops) (.deleteModel modelId)) := by
  have hstep : ∀ history db op, HasLatest host history db → KeepsLatest host db op →
      HasLatest host (history ++ host.designates db op) (host.step db op) :=
    fun _ _ op h hop => h.step op hop
  have hrun := events_invariant hstep ops [] Tables.empty hasLatest_empty hops
  rw [List.nil_append] at hrun
  exact ⟨hrun, fun modelId hkeeps history => not_hasLatest_remove hrun hkeeps history⟩

/-- A host on which paths overlap only if they are equal, and whose collation takes one name in two
spellings for the same. -/
def plainHost : Host where
  collation := ⟨fun text => if text = "Model" then "model" else text⟩
  normalizeArtifactPath := fun path => .ok (some path)
  artifactPathsOverlap := fun left right => .ok (left = right)
  hashPath := fun path _ => path
  pathExists := fun _ => false
  pathSize := fun _ => none
  splitMetrics := fun metrics => (metrics, none)
  str := fun _ => ""

/-- A version of a model at a path of its own. -/
def versionOfModel (modelName modelId version modelPath : String) : RegisterModel where
  modelName := modelName
  modelPath := modelPath
  modelType := "embedding"
  version := version
  sourceTaskId := none
  baseModelPath := none
  description := none
  tags := none
  category := none
  extraMetadata := none
  metrics := none
  userId := none
  status := none
  sourceType := none
  pathUniqueKey := none
  isAdapter := false
  modelId := modelId
  versionId := modelId

/-- Two versions of one model, the second in another spelling. -/
def twoVersions : List Op :=
  [.registerModel (versionOfModel "model" "first" "v1" "/models/1"),
    .registerModel (versionOfModel "Model" "second" "v2" "/models/2")]

/-- A third version, and the deletion of the second. -/
def threeVersions : List Op :=
  twoVersions ++
    [.registerModel (versionOfModel "model" "third" "v3" "/models/3"), .deleteModel "second"]

theorem family_has_latest_threeVersions :
    HasLatest plainHost
        (events plainHost.step plainHost.designates Tables.empty threeVersions)
        (exec plainHost.step Tables.empty threeVersions) ∧
      familyIds plainHost (exec plainHost.step Tables.empty threeVersions) "Model" none =
        ["first", "third"] := by
  have hrows : (exec plainHost.step Tables.empty (threeVersions.take 3)).models.rows =
      [notLatest (plainHost.newModel (versionOfModel "model" "first" "v1" "/models/1")),
        notLatest (plainHost.newModel (versionOfModel "Model" "second" "v2" "/models/2")),
        plainHost.newModel (versionOfModel "model" "third" "v3" "/models/3")] := rfl
  have hkeeps : KeepsLatest plainHost
      (exec plainHost.step Tables.empty (threeVersions.take 3)) (.deleteModel "second") := by
    intro m hm hid hlatest
    rw [Table.mem_def, hrows] at hm
    simp only [List.mem_cons, List.not_mem_nil, or_false] at hm
    rcases hm with rfl | rfl | rfl
    · exact absurd hlatest (by simp [notLatest])
    · exact absurd hlatest (by simp [notLatest])
    · exact absurd hid (by decide)
  exact ⟨(family_has_latest plainHost threeVersions
    ⟨trivial, trivial, trivial, hkeeps, trivial⟩).1, rfl⟩

/-- The second of two versions is deleted: the first is left, and is not the latest. -/
theorem deleted_latest_not_replaced :
    ¬ HasLatest plainHost (events plainHost.step plainHost.designates Tables.empty
        (twoVersions ++ [.deleteModel "second"]))
      (exec plainHost.step Tables.empty (twoVersions ++ [.deleteModel "second"])) := by
  have hrows : (exec plainHost.step Tables.empty
      (twoVersions ++ [.deleteModel "second"])).models.rows =
      [notLatest (plainHost.newModel (versionOfModel "model" "first" "v1" "/models/1"))] := rfl
  intro h
  obtain ⟨m, hm, -, hlatest, -⟩ := h "model" none (by simp [familyIds, Table.select, hrows]; decide)
  rw [Table.mem_def, hrows, List.mem_singleton] at hm
  subst hm
  exact absurd hlatest (by simp [notLatest])

end Registry
