import TrainFactory.Lib.Run
import TrainFactory.ModelConfig.Service

/-!
# One default config per user and kind

Every operation writes one row, and some take other defaults back. From this description of a step,
`Written`, follow the exact conditions under which a step keeps the defaults unique, and under which
it leaves the defaults of other users alone.
-/

namespace ModelConfig

open Lib

variable {configs configs' : Table ConfigRow}

def UniqueDefaults (configs : Table ConfigRow) : Prop :=
  ∀ c ∈ configs, ∀ c' ∈ configs, c.isDefault = true → c'.isDefault = true →
    c.userId = c'.userId → c.modelType = c'.modelType → c = c'

/-- The user for which an operation is carried out, and the kinds from and to which it moves the row
that it is about. -/
structure Scope where
  userId : Option String
  source : String
  target : String

def ConfigRow.scope (c : ConfigRow) : Scope := ⟨c.userId, c.modelType, c.modelType⟩

def UpdateConfig.kind (args : UpdateConfig) (c : ConfigRow) : String :=
  (args.restrict c).modelType.getD c.modelType

def Op.scope (configs : Table ConfigRow) : Op → Option Scope
  | .createConfig _ args | .createConfigAsync _ args =>
    some ⟨args.userId, normalizeModelType args.modelType, normalizeModelType args.modelType⟩
  | .updateConfig _ args =>
    (configs.lookup args.configId).map fun c => ⟨c.userId, c.modelType, args.kind c⟩
  | .setDefault _ configId | .updateCheckStatus _ configId _ _ | .deleteConfig _ configId =>
    (configs.lookup configId).map ConfigRow.scope

/-- Every row whose default flag an operation changes belongs to its user, and to the kind from or to
which it moves its row. -/
def Isolated (configs : Table ConfigRow) (op : Op) : Prop :=
  ∀ c ∈ configs, ∀ c' ∈ step configs op, c'.configId = c.configId → c'.isDefault ≠ c.isDefault →
    ∃ scope, op.scope configs = some scope ∧ c.userId = scope.userId ∧
      (c.modelType = scope.source ∨ c.modelType = scope.target)

/-- An operation leaves the defaults unique, and those of others alone. -/
structure Sound (configs : Table ConfigRow) (op : Op) : Prop where
  unique : UniqueDefaults (step configs op)
  isolated : Isolated configs op

/-! ## The condition -/

def NoOtherDefault (configs : Table ConfigRow) (configId : String) (userId : Option String)
    (modelType : String) : Prop :=
  ∀ c ∈ configs, c.configId ≠ configId → c.isDefault = true → c.modelType = modelType →
    c.userId ≠ userId

def OwnsDefaults (configs : Table ConfigRow) (configId : String) (userId : Option String)
    (modelType : String) : Prop :=
  truthy userId = true ∨ ∀ c ∈ configs, c.configId ≠ configId → c.isDefault = true →
    c.modelType = modelType → c.userId = userId

def CreatesSafely (configs : Table ConfigRow) (host : Host) (validate : Probe → Validation)
    (args : CreateConfig) : Prop :=
  ∀ row validation, host.prepare validate args = .ok (row, validation) →
    violatesName configs row = false → configs.lookup row.configId = none →
    row.isDefault = true → OwnsDefaults configs row.configId row.userId row.modelType

/-- An update that is accepted does not move a default to a kind that has another, and sets a default
only for an owner that `OwnsDefaults`. -/
def UpdatesSafely (configs : Table ConfigRow) (host : Host) (args : UpdateConfig) : Prop :=
  ∀ c endpoint, configs.lookup args.configId = some c →
    host.normalizedEndpoint (args.restrict c) c = .ok endpoint →
    violatesName configs ((args.restrict c).columns endpoint host.now c) = false →
    (args.isDefault = none → c.isDefault = true → args.kind c ≠ c.modelType →
      NoOtherDefault configs c.configId c.userId (args.kind c)) ∧
    (args.isDefault = some true → OwnsDefaults configs c.configId c.userId (args.kind c))

def Safe (configs : Table ConfigRow) : Op → Prop
  | .createConfig host args => CreatesSafely configs host host.validateConfig args
  | .createConfigAsync host args => CreatesSafely configs host host.validateConfigAsync args
  | .updateConfig host args => UpdatesSafely configs host args
  | .setDefault _ configId => ∀ c, configs.lookup configId = some c →
      OwnsDefaults configs c.configId c.userId c.modelType
  | .updateCheckStatus .. | .deleteConfig .. => True

/-! ## One row is written -/

def others (m : ConfigRow) (clears : Bool) (c : ConfigRow) : ConfigRow :=
  if clears && isUnset m.modelType m.userId c then notDefault c else c

structure Written (configs configs' : Table ConfigRow) (m : ConfigRow) (clears : Bool) : Prop where
  mem_iff : ∀ c', c' ∈ configs' ↔
    c' = m ∨ ∃ c ∈ configs, c.configId ≠ m.configId ∧ c' = others m clears c
  isDefault : clears = true → m.isDefault = true

theorem others_configId {m : ConfigRow} {clears : Bool} (c : ConfigRow) :
    (others m clears c).configId = c.configId := by
  unfold others
  split_ifs <;> rfl

theorem others_userId {m : ConfigRow} {clears : Bool} (c : ConfigRow) :
    (others m clears c).userId = c.userId := by
  unfold others
  split_ifs <;> rfl

theorem others_modelType {m : ConfigRow} {clears : Bool} (c : ConfigRow) :
    (others m clears c).modelType = c.modelType := by
  unfold others
  split_ifs <;> rfl

theorem others_isDefault {m : ConfigRow} {clears : Bool} (c : ConfigRow) :
    (others m clears c).isDefault = true ↔
      c.isDefault = true ∧ ¬ (clears = true ∧ isUnset m.modelType m.userId c = true) := by
  unfold others
  rw [← Bool.and_eq_true]
  split_ifs with h
  · simp [notDefault, h]
  · simp [h]

theorem isUnset_iff {modelType : String} {userId : Option String} {c : ConfigRow} :
    isUnset modelType userId c = true ↔
      c.modelType = modelType ∧ c.isDefault = true ∧ (truthy userId = true → c.userId = userId) := by
  unfold isUnset
  cases truthy userId <;> simp [and_assoc]

section Written

variable {m : ConfigRow} {clears : Bool}

theorem Written.mem (h : Written configs configs' m clears) : m ∈ configs' :=
  (h.mem_iff m).mpr (Or.inl rfl)

theorem Written.mem_others (h : Written configs configs' m clears) {c : ConfigRow}
    (hc : c ∈ configs) (hne : c.configId ≠ m.configId) : others m clears c ∈ configs' :=
  (h.mem_iff _).mpr (Or.inr ⟨c, hc, hne, rfl⟩)

/-- A write keeps the defaults unique exactly if it takes the others back where `m` is a default and
there are others. -/
theorem Written.unique_iff (h : Written configs configs' m clears) (hu : UniqueDefaults configs) :
    UniqueDefaults configs' ↔
      (clears = false → m.isDefault = true →
        NoOtherDefault configs m.configId m.userId m.modelType) := by
  constructor
  · intro hu' hclears hm c hc hne hd hkind hown
    have hsame : others m clears c = c := by simp [others, hclears]
    have hc' : c ∈ configs' := hsame ▸ h.mem_others hc hne
    have heq : c = m := hu' c hc' m h.mem hd hm hown hkind
    exact hne (congrArg ConfigRow.configId heq)
  · intro hno
    -- a default besides `m` is not one that is taken back
    have hother : ∀ c ∈ configs, c.configId ≠ m.configId → (others m clears c).isDefault = true →
        m.isDefault = true → c.userId = m.userId → c.modelType = m.modelType → False := by
      intro c hc hne hd hm hown hkind
      obtain ⟨hcd, hkept⟩ := (others_isDefault c).mp hd
      cases hcl : clears with
      | false => exact hno hcl hm c hc hne hcd hkind hown
      | true => exact hkept ⟨hcl, isUnset_iff.mpr ⟨hkind, hcd, fun _ => hown⟩⟩
    intro c₁ hc₁ c₂ hc₂ hd₁ hd₂ hown hkind
    rcases (h.mem_iff c₁).mp hc₁ with rfl | ⟨b₁, hb₁, hne₁, rfl⟩
    · rcases (h.mem_iff c₂).mp hc₂ with rfl | ⟨b₂, hb₂, hne₂, rfl⟩
      · rfl
      · rw [others_userId] at hown
        rw [others_modelType] at hkind
        exact (hother b₂ hb₂ hne₂ hd₂ hd₁ hown.symm hkind.symm).elim
    · rcases (h.mem_iff c₂).mp hc₂ with rfl | ⟨b₂, hb₂, hne₂, rfl⟩
      · rw [others_userId] at hown
        rw [others_modelType] at hkind
        exact (hother b₁ hb₁ hne₁ hd₁ hd₂ hown hkind).elim
      · have hb := hu b₁ hb₁ b₂ hb₂ ((others_isDefault b₁).mp hd₁).1 ((others_isDefault b₂).mp hd₂).1
          (by simpa only [others_userId] using hown)
          (by simpa only [others_modelType] using hkind)
        rw [hb]

/-- A write changes the flags of its own row, and of those it takes back: of other users exactly if
the owner of `m` does not own them all. -/
theorem Written.isolated_iff {op : Op} {scope : Scope} (h : Written configs (step configs op) m clears)
    (hscope : op.scope configs = some scope) (htarget : scope.target = m.modelType)
    (huser : scope.userId = m.userId)
    (hself : ∀ c ∈ configs, c.configId = m.configId →
      c.userId = scope.userId ∧ c.modelType = scope.source) :
    Isolated configs op ↔
      (clears = true → OwnsDefaults configs m.configId m.userId m.modelType) := by
  constructor
  · intro hiso hclears
    by_cases htruthy : truthy m.userId = true
    · exact Or.inl htruthy
    · refine Or.inr fun c hc hne hd hkind => ?_
      have hunset : isUnset m.modelType m.userId c = true :=
        isUnset_iff.mpr ⟨hkind, hd, fun ht => absurd ht htruthy⟩
      have hflag : (others m clears c).isDefault ≠ c.isDefault := by
        rw [hd]
        intro hstill
        exact ((others_isDefault c).mp hstill).2 ⟨hclears, hunset⟩
      obtain ⟨scope', hscope', hown, -⟩ :=
        hiso c hc _ (h.mem_others hc hne) (others_configId c) hflag
      rw [hscope] at hscope'
      obtain rfl := Option.some.inj hscope'
      rw [hown, huser]
  · intro hown c hc c' hc' hid hflag
    refine ⟨scope, hscope, ?_⟩
    rcases (h.mem_iff c').mp hc' with rfl | ⟨b, hb, hne, rfl⟩
    · obtain ⟨hu, hk⟩ := hself c hc hid.symm
      exact ⟨hu, Or.inl hk⟩
    · rw [others_configId] at hid
      obtain rfl : b = c := Table.eq_of_key hb hc hid
      -- the flag of another row changes only if it is taken back
      have htaken : clears = true ∧ isUnset m.modelType m.userId b = true := by
        by_contra hnot
        apply hflag
        unfold others
        rw [if_neg]
        rwa [Bool.and_eq_true]
      obtain ⟨hkind, hd, howner⟩ := isUnset_iff.mp htaken.2
      refine ⟨?_, Or.inr (hkind.trans htarget.symm)⟩
      rw [huser]
      rcases hown htaken.1 with htruthy | hall
      · exact howner htruthy
      · exact hall b hb hne hd hkind

end Written

/-! ## What the operations write -/

theorem mem_unsetDefaults {modelType : String} {userId : Option String} {c' : ConfigRow} :
    c' ∈ unsetDefaults modelType userId configs ↔
      ∃ c ∈ configs, c' = if isUnset modelType userId c then notDefault c else c :=
  Table.mem_updateWhere

theorem mem_update_iff {c : ConfigRow} (hc : c ∈ configs) {f : ConfigRow → ConfigRow}
    (hf : ∀ c, Keyed.key (f c) = Keyed.key c) {c' : ConfigRow} :
    c' ∈ configs.update c.configId f hf ↔
      c' = f c ∨ ∃ b ∈ configs, b.configId ≠ c.configId ∧ c' = b := by
  rw [Table.mem_update]
  constructor
  · rintro ⟨b, hb, rfl⟩
    by_cases hid : b.configId = c.configId
    · have hbc : b = c := Table.eq_of_key hb hc hid
      rw [hbc]
      exact Or.inl (if_pos rfl)
    · exact Or.inr ⟨b, hb, hid, if_neg hid⟩
  · rintro (rfl | ⟨b, hb, hid, rfl⟩)
    · exact ⟨c, hc, (if_pos rfl).symm⟩
    · exact ⟨c', hb, (if_neg hid).symm⟩

/-- An update whose columns do not depend on the flag, after the defaults are taken back. -/
theorem written_of_cleared {c : ConfigRow} (hc : c ∈ configs) {f : ConfigRow → ConfigRow}
    (hf : ∀ c, Keyed.key (f c) = Keyed.key c) (hflag : (f c).isDefault = true)
    (hsame : f (notDefault c) = f c) (hkind : (f c).modelType = c.modelType)
    (howner : (f c).userId = c.userId) :
    Written configs ((unsetDefaults c.modelType c.userId configs).update c.configId f hf) (f c)
      true := by
  have hid : (f c).configId = c.configId := hf c
  obtain ⟨c₁, hc₁, hc₁id, hfc⟩ : ∃ c₁ ∈ unsetDefaults c.modelType c.userId configs,
      c₁.configId = c.configId ∧ f c₁ = f c := by
    refine ⟨_, mem_unsetDefaults.mpr ⟨c, hc, rfl⟩, ?_⟩
    split_ifs
    · exact ⟨rfl, hsame⟩
    · exact ⟨rfl, rfl⟩
  refine ⟨fun c' => ?_, fun _ => hflag⟩
  rw [← hc₁id, mem_update_iff hc₁ hf, hfc]
  apply or_congr Iff.rfl
  constructor
  · rintro ⟨b, hb, hne, rfl⟩
    obtain ⟨b₀, hb₀, rfl⟩ := mem_unsetDefaults.mp hb
    refine ⟨b₀, hb₀, ?_, ?_⟩
    · rw [hid, ← hc₁id]
      intro hb₀id
      apply hne
      rw [← hb₀id]
      split_ifs <;> rfl
    · simp only [others, Bool.true_and, hkind, howner]
  · rintro ⟨b₀, hb₀, hne, rfl⟩
    refine ⟨_, ?_, ?_, rfl⟩
    · simp only [others, Bool.true_and, hkind, howner]
      exact mem_unsetDefaults.mpr ⟨b₀, hb₀, rfl⟩
    · rw [others_configId, hc₁id, ← hid]
      exact hne

theorem written_of_update {c : ConfigRow} (hc : c ∈ configs) {f : ConfigRow → ConfigRow}
    (hf : ∀ c, Keyed.key (f c) = Keyed.key c) :
    Written configs (configs.update c.configId f hf) (f c) false := by
  have hid : (f c).configId = c.configId := hf c
  refine ⟨fun c' => ?_, fun h => absurd h (by simp)⟩
  rw [mem_update_iff hc hf, hid]
  simp only [others, Bool.false_and, Bool.false_eq_true, if_false]

theorem Written.of_update {c m : ConfigRow} {clears : Bool} (hc : c ∈ configs)
    {f : ConfigRow → ConfigRow} (hf : ∀ c, Keyed.key (f c) = Keyed.key c)
    (h : Written (configs.update c.configId f hf) configs' m clears)
    (hid : m.configId = c.configId) : Written configs configs' m clears := by
  refine ⟨fun c' => ?_, h.isDefault⟩
  rw [h.mem_iff]
  apply or_congr Iff.rfl
  constructor
  · rintro ⟨b, hb, hne, rfl⟩
    rcases (mem_update_iff hc hf).mp hb with rfl | ⟨b, hb, -, rfl⟩
    · have hfc : (f c).configId = c.configId := hf c
      exact absurd (hfc.trans hid.symm) hne
    · exact ⟨b, hb, hne, rfl⟩
  · rintro ⟨b, hb, hne, rfl⟩
    exact ⟨b, (mem_update_iff hc hf).mpr (Or.inr ⟨b, hb, hid ▸ hne, rfl⟩), hne, rfl⟩

theorem setDefault_spec (host : Host) {configId : String} {c : ConfigRow}
    (hl : configs.lookup configId = some c) :
    ∃ configs', host.setDefault configId configs = some configs' ∧
      Written configs configs' (asDefault host.now c) true := by
  obtain ⟨hc, rfl⟩ := Table.lookup_eq_some.mp hl
  refine ⟨_, by rw [Host.setDefault, hl], ?_⟩
  exact written_of_cleared hc (key_asDefault host.now) rfl rfl rfl rfl

theorem updateCheckStatus_spec (host : Host) {configId : String} {c : ConfigRow}
    (hl : configs.lookup configId = some c) (status : String) (error : Option String) :
    ∃ configs', host.updateCheckStatus configId status error configs = some configs' ∧
      Written configs configs' (checkedStatus status error host.now c) false := by
  obtain ⟨hc, rfl⟩ := Table.lookup_eq_some.mp hl
  refine ⟨_, by rw [Host.updateCheckStatus, hl], ?_⟩
  exact written_of_update hc (key_checkedStatus status error host.now)

theorem setColumns_spec {args : UpdateConfig} {endpoint : Option String} {now : Nat}
    {c : ConfigRow} (hc : c ∈ configs) (hid : c.configId = args.configId)
    (hname : violatesName configs (args.columns endpoint now c) = false) :
    ∃ configs', setColumns args endpoint now c configs = .ok configs' ∧
      Written configs configs' (flagged args.isDefault (args.columns endpoint now c))
        (args.isDefault = some true) := by
  refine ⟨_, by rw [setColumns, hname, if_neg Bool.false_ne_true], ?_⟩
  rw [← hid]
  refine Written.of_update (m := flagged args.isDefault (args.columns endpoint now c)) hc
    (key_columns args endpoint now) ?_ rfl
  have hm : args.columns endpoint now c ∈
      configs.update c.configId (args.columns endpoint now) (key_columns args endpoint now) :=
    (mem_update_iff hc _).mpr (Or.inl rfl)
  cases hdefault : args.isDefault with
  | none => exact written_of_update hm (key_flagged none)
  | some isDefault =>
    cases isDefault with
    | false => exact written_of_update hm (key_flagged (some false))
    | true => exact written_of_cleared hm (key_flagged (some true)) rfl rfl rfl rfl

theorem violatesName_unsetDefaults (modelType : String) (userId : Option String)
    (row : ConfigRow) :
    violatesName (unsetDefaults modelType userId configs) row = violatesName configs row := by
  unfold violatesName unsetDefaults Table.updateWhere
  rw [List.any_map]
  congr 1
  funext c
  simp only [Function.comp_apply]
  split_ifs <;> rfl

theorem violatesName_clearFor (row : ConfigRow) :
    violatesName (clearFor row configs) row = violatesName configs row := by
  unfold clearFor
  split_ifs
  · exact violatesName_unsetDefaults row.modelType row.userId row
  · rfl

theorem lookup_clearFor_eq_none {row : ConfigRow} {configId : String} :
    (clearFor row configs).lookup configId = none ↔ configs.lookup configId = none := by
  unfold clearFor
  split_ifs
  · rw [unsetDefaults, Table.lookup_updateWhere, Option.map_eq_none_iff]
  · rfl

theorem mem_clearFor {row c' : ConfigRow} :
    c' ∈ clearFor row configs ↔ ∃ c ∈ configs, c' = others row row.isDefault c := by
  unfold clearFor others
  cases row.isDefault with
  | false => simp
  | true => simpa using mem_unsetDefaults

theorem insertConfig_spec {row : ConfigRow} (hname : violatesName configs row = false)
    (hid : configs.lookup row.configId = none) :
    ∃ configs', insertConfig row configs = .ok configs' ∧
      Written configs configs' row row.isDefault := by
  have hnew := Table.lookup_eq_none.mp hid
  have hfresh : (clearFor row configs).lookup row.configId = none :=
    lookup_clearFor_eq_none.mpr hid
  obtain ⟨configs', hinsert⟩ := Table.exists_insert (Table.lookup_eq_none.mp hfresh)
  refine ⟨configs', ?_, fun c' => ?_, id⟩
  · rw [insertConfig, violatesName_clearFor, hname, if_neg Bool.false_ne_true, hinsert]
  · rw [Table.mem_insert hinsert, or_comm, mem_clearFor]
    apply or_congr Iff.rfl
    constructor
    · rintro ⟨c, hc, rfl⟩
      exact ⟨c, hc, hnew c hc, rfl⟩
    · rintro ⟨c, hc, -, rfl⟩
      exact ⟨c, hc, rfl⟩

theorem insertConfig_refused {row : ConfigRow}
    (h : ¬ (violatesName configs row = false ∧ configs.lookup row.configId = none)) :
    ∃ e, insertConfig row configs = .error e := by
  rw [insertConfig, violatesName_clearFor]
  cases hname : violatesName configs row with
  | true => exact ⟨_, if_pos rfl⟩
  | false =>
    rw [if_neg Bool.false_ne_true]
    cases hinsert : (clearFor row configs).insert row with
    | none => exact ⟨_, rfl⟩
    | some configs' =>
      have hfree := Table.lookup_eq_none.mpr (Table.insert_eq_some.mp hinsert).1
      exact absurd ⟨hname, lookup_clearFor_eq_none.mp hfree⟩ h

theorem prepare_ok {host : Host} {validate : Probe → Validation} {args : CreateConfig}
    {row : ConfigRow} {validation : Option Validation}
    (h : host.prepare validate args = .ok (row, validation)) :
    row.userId = args.userId ∧ row.modelType = normalizeModelType args.modelType := by
  obtain ⟨bound, -, h⟩ := bind_eq_ok.mp h
  obtain ⟨bound₁, -, h⟩ := bind_eq_ok.mp h
  obtain ⟨validation₁, -, h⟩ := bind_eq_ok.mp h
  obtain ⟨-, -, h⟩ := bind_eq_ok.mp h
  obtain ⟨bound₂, -, h⟩ := bind_eq_ok.mp h
  obtain ⟨rfl, -⟩ := Prod.mk.inj (pure_eq_ok.mp h)
  exact ⟨rfl, rfl⟩

/-! ## One step -/

theorem sound_of_eq {op : Op} (hu : UniqueDefaults configs) (h : step configs op = configs) :
    Sound configs op := by
  refine ⟨h.symm ▸ hu, fun c hc c' hc' hid hflag => ?_⟩
  rw [h] at hc'
  obtain rfl : c' = c := Table.eq_of_key hc' hc hid
  exact absurd rfl hflag

/-- A step that writes one row is sound exactly if it takes others back where it should, and only
those of the owner. -/
theorem sound_of_written {op : Op} {m : ConfigRow} {clears : Bool} {scope : Scope}
    (hu : UniqueDefaults configs) (h : Written configs (step configs op) m clears)
    (hscope : op.scope configs = some scope) (htarget : scope.target = m.modelType)
    (huser : scope.userId = m.userId)
    (hself : ∀ c ∈ configs, c.configId = m.configId →
      c.userId = scope.userId ∧ c.modelType = scope.source) :
    Sound configs op ↔
      (clears = false → m.isDefault = true →
        NoOtherDefault configs m.configId m.userId m.modelType) ∧
      (clears = true → OwnsDefaults configs m.configId m.userId m.modelType) := by
  rw [← h.unique_iff hu, ← h.isolated_iff hscope htarget huser hself]
  exact ⟨fun hs => ⟨hs.unique, hs.isolated⟩, fun hs => ⟨hs.1, hs.2⟩⟩

theorem UniqueDefaults.noOtherDefault (hu : UniqueDefaults configs) {c : ConfigRow}
    (hc : c ∈ configs) (hd : c.isDefault = true) :
    NoOtherDefault configs c.configId c.userId c.modelType := by
  intro b hb hne hbd hkind hown
  exact hne (congrArg ConfigRow.configId (hu b hb c hc hbd hd hown hkind))

theorem mem_scope {c : ConfigRow} (hc : c ∈ configs) :
    ∀ b ∈ configs, b.configId = c.configId → b.userId = c.userId ∧ b.modelType = c.modelType := by
  intro b hb hid
  rw [Table.eq_of_key hb hc hid]
  exact ⟨rfl, rfl⟩

theorem createConfigWith_eq {host : Host} {validate : Probe → Validation} {args : CreateConfig}
    {row : ConfigRow} {validation : Option Validation}
    (h : host.prepare validate args = .ok (row, validation)) :
    host.createConfigWith validate args configs =
      (insertConfig row configs).map fun configs' => (configs', row, validation) := by
  rw [Host.createConfigWith, h]
  cases hinsert : insertConfig row configs with
  | error e => simp [bind, Except.bind, Except.map, hinsert]
  | ok configs' => simp [bind, Except.bind, Except.map, hinsert, pure, Except.pure]

theorem createConfigWith_sound_iff (hu : UniqueDefaults configs) {op : Op} {host : Host}
    {validate : Probe → Validation} {args : CreateConfig}
    (hstep : step configs op = afterCreate configs (host.createConfigWith validate args configs))
    (hscope : op.scope configs =
      some ⟨args.userId, normalizeModelType args.modelType, normalizeModelType args.modelType⟩) :
    Sound configs op ↔ CreatesSafely configs host validate args := by
  cases hprepare : host.prepare validate args with
  | error e =>
    have hsame : step configs op = configs := by
      rw [hstep, Host.createConfigWith, hprepare]
      rfl
    refine iff_of_true (sound_of_eq hu hsame) fun row validation h => ?_
    rw [hprepare] at h
    cases h
  | ok prepared =>
    obtain ⟨row, validation⟩ := prepared
    obtain ⟨howner, hkind⟩ := prepare_ok hprepare
    have hresult : host.createConfigWith validate args configs =
        (insertConfig row configs).map fun configs' => (configs', row, validation) :=
      createConfigWith_eq hprepare
    by_cases haccepted : violatesName configs row = false ∧ configs.lookup row.configId = none
    · obtain ⟨configs', hinsert, hwritten⟩ := insertConfig_spec haccepted.1 haccepted.2
      have hafter : step configs op = configs' := by
        rw [hstep, hresult, hinsert]
        rfl
      have hnew := Table.lookup_eq_none.mp haccepted.2
      rw [← hafter] at hwritten
      rw [sound_of_written hu hwritten hscope hkind.symm howner.symm
        fun c hc hid => absurd hid (hnew c hc)]
      constructor
      · rintro ⟨-, howns⟩ row' validation' h - - hd
        rw [hprepare] at h
        obtain ⟨rfl, -⟩ := Prod.mk.inj (Except.ok.inj h)
        exact howns hd
      · intro hsafe
        refine ⟨fun hno hd => absurd (hno.symm.trans hd) (by simp), fun hd => ?_⟩
        exact hsafe row validation hprepare haccepted.1 haccepted.2 hd
    · obtain ⟨e, hrefused⟩ := insertConfig_refused haccepted
      have hsame : step configs op = configs := by
        rw [hstep, hresult, hrefused]
        rfl
      refine iff_of_true (sound_of_eq hu hsame) fun row' validation' h hname hid => ?_
      rw [hprepare] at h
      obtain ⟨rfl, -⟩ := Prod.mk.inj (Except.ok.inj h)
      exact absurd ⟨hname, hid⟩ haccepted

theorem restrict_eq (args : UpdateConfig) (c : ConfigRow) :
    (args.restrict c).configId = args.configId ∧
      (args.restrict c).isDefault = args.isDefault := by
  unfold UpdateConfig.restrict
  split_ifs <;> exact ⟨rfl, rfl⟩

theorem updateConfig_eq {host : Host} {args : UpdateConfig} {c : ConfigRow}
    {endpoint : Option String} (hl : configs.lookup args.configId = some c)
    (h : host.normalizedEndpoint (args.restrict c) c = .ok endpoint) :
    host.updateConfig args configs =
      (setColumns (args.restrict c) endpoint host.now c configs).map some := by
  rw [Host.updateConfig, hl]
  cases hset : setColumns (args.restrict c) endpoint host.now c configs with
  | error e => simp [bind, Except.bind, Except.map, h, hset]
  | ok configs' => simp [bind, Except.bind, Except.map, h, hset, pure, Except.pure]

/-- An update that is not refused is sound exactly if it does not leave two defaults, and takes back
those of its owner only. -/
theorem updateConfig_sound_iff_of_ok (hu : UniqueDefaults configs) {host : Host}
    {args : UpdateConfig} {c : ConfigRow} {endpoint : Option String}
    (hl : configs.lookup args.configId = some c)
    (hendpoint : host.normalizedEndpoint (args.restrict c) c = .ok endpoint)
    (hname : violatesName configs ((args.restrict c).columns endpoint host.now c) = false) :
    Sound configs (.updateConfig host args) ↔
      (args.isDefault = none → c.isDefault = true → args.kind c ≠ c.modelType →
        NoOtherDefault configs c.configId c.userId (args.kind c)) ∧
      (args.isDefault = some true → OwnsDefaults configs c.configId c.userId (args.kind c)) := by
  obtain ⟨hc, hid⟩ := Table.lookup_eq_some.mp hl
  obtain ⟨hsameId, hsameDefault⟩ := restrict_eq args c
  obtain ⟨configs', hset, hwritten⟩ := setColumns_spec hc (hid.trans hsameId.symm) hname
  have hafter : step configs (.updateConfig host args) = configs' := by
    rw [step, updateConfig_eq hl hendpoint, hset]
    rfl
  have hscope : (Op.updateConfig host args).scope configs =
      some ⟨c.userId, c.modelType, args.kind c⟩ := by
    rw [Op.scope, hl]
    rfl
  rw [← hafter, hsameDefault] at hwritten
  rw [sound_of_written hu hwritten hscope rfl rfl (mem_scope hc)]
  cases hdefault : args.isDefault with
  | none =>
    constructor
    · rintro ⟨hno, -⟩
      exact ⟨fun _ hd _ => hno (by simp) hd, fun h => absurd h (by simp)⟩
    · rintro ⟨hmove, -⟩
      refine ⟨fun _ hd => ?_, fun h => absurd h (by simp)⟩
      by_cases hkind : args.kind c = c.modelType
      · have hno := hu.noOtherDefault hc hd
        rw [← hkind] at hno
        exact hno
      · exact hmove rfl hd hkind
  | some isDefault =>
    cases isDefault with
    | false =>
      constructor
      · rintro -
        exact ⟨fun h => absurd h (by simp), fun h => absurd h (by simp)⟩
      · rintro -
        exact ⟨fun _ hd => absurd hd Bool.false_ne_true, fun h => absurd h (by simp)⟩
    | true =>
      constructor
      · rintro ⟨-, hown⟩
        exact ⟨fun h => absurd h (by simp), fun _ => hown (by simp)⟩
      · rintro ⟨-, hown⟩
        exact ⟨fun h => absurd h (by simp), fun _ => hown rfl⟩

theorem updateConfig_sound_iff (hu : UniqueDefaults configs) (host : Host) (args : UpdateConfig) :
    Sound configs (.updateConfig host args) ↔ UpdatesSafely configs host args := by
  cases hl : configs.lookup args.configId with
  | none =>
    have hsame : step configs (.updateConfig host args) = configs := by
      rw [step, Host.updateConfig, hl]
      rfl
    refine iff_of_true (sound_of_eq hu hsame) fun c endpoint h => ?_
    rw [hl] at h
    cases h
  | some c =>
    obtain ⟨hc, hid⟩ := Table.lookup_eq_some.mp hl
    cases hendpoint : host.normalizedEndpoint (args.restrict c) c with
    | error e =>
      have hsame : step configs (.updateConfig host args) = configs := by
        rw [step, Host.updateConfig, hl]
        simp only [hendpoint]
        rfl
      refine iff_of_true (sound_of_eq hu hsame) fun c' endpoint hl' h => ?_
      obtain rfl := Option.some.inj (hl.symm.trans hl')
      rw [hendpoint] at h
      cases h
    | ok endpoint =>
      cases hname : violatesName configs ((args.restrict c).columns endpoint host.now c) with
      | true =>
        have hsame : step configs (.updateConfig host args) = configs := by
          rw [step, updateConfig_eq hl hendpoint, setColumns, hname, if_pos rfl]
          rfl
        refine iff_of_true (sound_of_eq hu hsame) fun c' endpoint' hl' h hfree => ?_
        obtain rfl := Option.some.inj (hl.symm.trans hl')
        obtain rfl := Except.ok.inj (hendpoint.symm.trans h)
        exact absurd (hname.symm.trans hfree) (by simp)
      | false =>
        rw [updateConfig_sound_iff_of_ok hu hl hendpoint hname]
        constructor
        · intro h c' endpoint' hl' h' _
          obtain rfl := Option.some.inj (hl.symm.trans hl')
          exact h
        · intro h
          exact h c endpoint hl hendpoint hname

theorem setDefault_sound_iff (hu : UniqueDefaults configs) (host : Host) (configId : String) :
    Sound configs (.setDefault host configId) ↔ Safe configs (.setDefault host configId) := by
  cases hl : configs.lookup configId with
  | none =>
    have hsame : step configs (.setDefault host configId) = configs := by
      rw [step, Host.setDefault, hl]
      rfl
    refine iff_of_true (sound_of_eq hu hsame) fun c h => ?_
    cases hl.symm.trans h
  | some c =>
    obtain ⟨configs', hset, hwritten⟩ := setDefault_spec host hl
    have hafter : step configs (.setDefault host configId) = configs' := by
      rw [step, hset]
      rfl
    have hscope : (Op.setDefault host configId).scope configs = some c.scope := by
      rw [Op.scope, hl]
      rfl
    obtain ⟨hc, rfl⟩ := Table.lookup_eq_some.mp hl
    have hself := mem_scope hc
    rw [← hafter] at hwritten
    rw [sound_of_written hu hwritten hscope rfl rfl hself]
    constructor
    · rintro ⟨-, hown⟩ c' hl'
      obtain rfl := Option.some.inj (hl.symm.trans hl')
      exact hown rfl
    · intro hsafe
      exact ⟨fun h => absurd h (by simp), fun _ => hsafe c hl⟩

theorem updateCheckStatus_sound (hu : UniqueDefaults configs) (host : Host)
    (configId status : String) (error : Option String) :
    Sound configs (.updateCheckStatus host configId status error) := by
  cases hl : configs.lookup configId with
  | none =>
    apply sound_of_eq hu
    rw [step, Host.updateCheckStatus, hl]
    rfl
  | some c =>
    obtain ⟨configs', hset, hwritten⟩ := updateCheckStatus_spec host hl status error
    have hafter : step configs (.updateCheckStatus host configId status error) = configs' := by
      rw [step, hset]
      rfl
    have hscope :
        (Op.updateCheckStatus host configId status error).scope configs = some c.scope := by
      rw [Op.scope, hl]
      rfl
    obtain ⟨hc, rfl⟩ := Table.lookup_eq_some.mp hl
    have hself := mem_scope hc
    rw [← hafter] at hwritten
    rw [sound_of_written hu hwritten hscope rfl rfl hself]
    refine ⟨fun _ hd => ?_, fun h => absurd h (by simp)⟩
    have hno : NoOtherDefault configs c.configId c.userId c.modelType := hu.noOtherDefault hc hd
    exact hno

theorem deleteConfig_sound (hu : UniqueDefaults configs) (host : Host) (configId : String) :
    Sound configs (.deleteConfig host configId) := by
  cases hl : configs.lookup configId with
  | none =>
    apply sound_of_eq hu
    rw [step, Host.deleteConfig, hl]
    rfl
  | some c =>
    cases hdependencies : host.dependencies configId with
    | error e =>
      apply sound_of_eq hu
      rw [step, Host.deleteConfig, hl]
      simp only [hdependencies]
      rfl
    | ok _ =>
      have hafter : step configs (.deleteConfig host configId) =
          configs.deleteWhere fun c => c.configId = configId := by
        rw [step, Host.deleteConfig, hl]
        simp only [hdependencies]
        rfl
      have hsub : ∀ c' ∈ step configs (.deleteConfig host configId), c' ∈ configs := by
        intro c' hc'
        rw [hafter] at hc'
        exact (Table.mem_deleteWhere.mp hc').1
      refine ⟨fun b hb b' hb' => hu b (hsub b hb) b' (hsub b' hb'), ?_⟩
      intro b hb b' hb' hid hflag
      obtain rfl : b' = b := Table.eq_of_key (hsub b' hb') hb hid
      exact absurd rfl hflag

theorem sound_iff_safe (hu : UniqueDefaults configs) (op : Op) :
    Sound configs op ↔ Safe configs op := by
  cases op with
  | createConfig host args => exact createConfigWith_sound_iff hu rfl rfl
  | createConfigAsync host args => exact createConfigWith_sound_iff hu rfl rfl
  | updateConfig host args => exact updateConfig_sound_iff hu host args
  | setDefault host configId => exact setDefault_sound_iff hu host configId
  | updateCheckStatus host configId status error =>
    exact iff_of_true (updateCheckStatus_sound hu host configId status error) trivial
  | deleteConfig host configId => exact iff_of_true (deleteConfig_sound hu host configId) trivial

/-! ## Runs -/

theorem uniqueDefaults_empty : UniqueDefaults Table.empty :=
  fun c hc => absurd hc (Table.not_mem_empty c)

/-- Along a run from an empty table, every state has at most one default per user and kind and every
operation leaves the defaults of others alone, exactly if every operation meets the condition in the
state before it. -/
theorem defaults_sound_iff_safe (ops : List Op) :
    Admits step Sound Table.empty ops ↔ Admits step Safe Table.empty ops := by
  have hiff : ∀ configs op, UniqueDefaults configs → (Sound configs op ↔ Safe configs op) :=
    fun _ op hu => sound_iff_safe hu op
  have hstep : ∀ configs op, UniqueDefaults configs → Sound configs op →
      UniqueDefaults (step configs op) :=
    fun _ _ _ hs => hs.unique
  exact Admits.congr hiff hstep uniqueDefaults_empty ops

/-! ## Two runs that are not sound -/

/-- A host on which every endpoint, check and lock succeeds. -/
def openHost : Host where
  normalizeApiEndpoint endpoint _ _ := .ok endpoint
  validateConfig _ := ⟨true, none⟩
  validateConfigAsync _ := ⟨true, none⟩
  lockModelReference _ := .ok ()
  deployments := ⟨[], []⟩
  lockedDeployments := ⟨[], []⟩
  dependencies _ := .ok ()
  now := 0

def defaultConfig (configId modelType : String) (userId : Option String) : CreateConfig where
  configName := configId
  modelType := modelType
  provider := "openai"
  apiEndpoint := "https://api.openai.com/v1"
  modelName := "m"
  apiKey := none
  providerConfig := none
  defaultParams := none
  description := none
  tags := none
  isDefault := true
  userId := userId
  validate := false
  saveOnValidationFailure := true
  sourceType := "external_api"
  registryId := none
  deploymentId := none
  deploymentReplicaId := none
  containerName := none
  inferenceFramework := none
  configId := configId

def moveTo (configId modelType : String) : UpdateConfig where
  configId := configId
  configName := none
  modelType := some modelType
  provider := none
  apiEndpoint := none
  apiKey := none
  modelName := none
  providerConfig := none
  defaultParams := none
  description := none
  tags := none
  status := none
  isDefault := none

def moveOps : List Op :=
  [.createConfig openHost (defaultConfig "a" "llm" (some "alice")),
    .createConfig openHost (defaultConfig "b" "embedding" (some "alice")),
    .updateConfig openHost (moveTo "b" "llm")]

def publicOps : List Op :=
  [.createConfig openHost (defaultConfig "a" "llm" (some "alice")),
    .createConfig openHost (defaultConfig "b" "llm" none)]

def defaultIds (configs : Table ConfigRow) (userId : Option String) (modelType : String) :
    List String :=
  (configs.select fun c => c.isDefault && c.userId = userId && c.modelType = modelType).map
    ConfigRow.configId

theorem mem_defaultIds {userId : Option String} {modelType configId : String} :
    configId ∈ defaultIds configs userId modelType ↔ ∃ c ∈ configs, c.isDefault = true ∧
      c.userId = userId ∧ c.modelType = modelType ∧ c.configId = configId := by
  simp [defaultIds, and_assoc]

theorem UniqueDefaults.eq_of_mem (hu : UniqueDefaults configs) {userId : Option String}
    {modelType a b : String} (ha : a ∈ defaultIds configs userId modelType)
    (hb : b ∈ defaultIds configs userId modelType) : a = b := by
  obtain ⟨c, hc, hd, hown, hkind, rfl⟩ := mem_defaultIds.mp ha
  obtain ⟨c', hc', hd', hown', hkind', rfl⟩ := mem_defaultIds.mp hb
  rw [hu c hc c' hc' hd hd' (hown.trans hown'.symm) (hkind.trans hkind'.symm)]

theorem defaultIds_moved :
    defaultIds (exec step Table.empty moveOps) (some "alice") "llm" = ["a", "b"] := rfl

/-- Moving a default leaves two of them, and creating a public default takes that of a user back. -/
theorem moved_and_public_defaults_not_sound :
    ¬ Admits step Sound Table.empty moveOps ∧ ¬ Admits step Sound Table.empty publicOps := by
  constructor
  · rintro ⟨-, -, hmove, -⟩
    have ha : "a" ∈ defaultIds (exec step Table.empty moveOps) (some "alice") "llm" := by
      simp [defaultIds_moved]
    have hb : "b" ∈ defaultIds (exec step Table.empty moveOps) (some "alice") "llm" := by
      simp [defaultIds_moved]
    have hab : "a" = "b" := UniqueDefaults.eq_of_mem hmove.unique ha hb
    exact absurd hab (by decide)
  · rintro ⟨-, hpublic, -⟩
    -- the row of the user, before and after
    have hbefore : defaultIds (exec step Table.empty (publicOps.take 1)) (some "alice") "llm" =
        ["a"] := rfl
    have hafter : ((exec step Table.empty publicOps).rows.map fun c => (c.configId, c.isDefault)) =
        [("a", false), ("b", true)] := rfl
    obtain ⟨c, hc, hd, hown, -, hid⟩ := mem_defaultIds.mp (hbefore ▸ List.mem_singleton_self "a")
    obtain ⟨c', hc', hflags⟩ := List.mem_map.mp (hafter ▸ List.mem_cons_self ..)
    obtain ⟨hid', hd'⟩ := Prod.mk.inj hflags
    have hflag : c'.isDefault ≠ c.isDefault := by simp [hd, hd']
    obtain ⟨scope, hscope, huser, -⟩ := hpublic.isolated c hc c' hc' (hid'.trans hid.symm) hflag
    obtain rfl := Option.some.inj hscope
    cases hown.symm.trans huser

end ModelConfig
