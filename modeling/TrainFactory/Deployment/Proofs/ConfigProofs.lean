import TrainFactory.Deployment.Config
import TrainFactory.Lib.Result
import TrainFactory.Lib.Run

/-!
# Updates of the config

No session but an update and the completion of a start writes more of the config than the keys that
the lifecycle owns. So the config agrees with its last update throughout a run exactly if each start
that completes has copied a config that still agrees with it.
-/

namespace Deployment

open Lib

variable {Launch : Type} {launch : LaunchConfigs Launch} {g g' : Group} {s : ConfigState}

/-! ## Keys of the lifecycle -/

def lifecycleKeys : List String :=
  ["docker_cmd", "dtype", "enforce_eager", "attention_backend", deferredAutoStartKey,
    replicaSchemaVersionKey, registryArtifactSignatureKey]

def SameOutside (config config' : Option Json) : Prop :=
  ∀ key ∉ lifecycleKeys, configGet config' key = configGet config key

theorem SameOutside.refl (config : Option Json) : SameOutside config config := fun _ _ => rfl

theorem SameOutside.trans {config config' config'' : Option Json}
    (h : SameOutside config config') (h' : SameOutside config' config'') :
    SameOutside config config'' :=
  fun key hkey => (h' key hkey).trans (h key hkey)

theorem lookup_mergeEntries {config added : Entries} {key : String}
    (hkey : ∀ kv ∈ added, kv.1 ≠ key) : (mergeEntries config added).lookup key = config.lookup key := by
  induction added generalizing config with
  | nil => rfl
  | cons kv added ih =>
    have hne : key ≠ kv.1 := (hkey kv (List.mem_cons_self ..)).symm
    have hrest : (mergeEntries (Json.setEntry config kv.1 kv.2) added).lookup key =
        (Json.setEntry config kv.1 kv.2).lookup key :=
      ih fun kv' hkv' => hkey kv' (List.mem_cons_of_mem _ hkv')
    exact hrest.trans (Json.lookup_setEntry_of_ne config kv.2 hne)

theorem Launched.key_mem_lifecycleKeys (launched : Launched) (config : Entries) :
    ∀ kv ∈ launched.entries config, kv.1 ∈ lifecycleKeys := by
  intro kv hkv
  cases launched with
  | shared => simp_all [Launched.entries, lifecycleKeys]
  | xinference dockerCmd =>
    simp only [Launched.entries, List.mem_cons, List.not_mem_nil, or_false] at hkv
    rcases hkv with rfl | rfl <;> simp [lifecycleKeys]
  | vllm dockerCmd dtype enforceEager =>
    simp only [Launched.entries, List.mem_cons, List.not_mem_nil, or_false] at hkv
    rcases hkv with rfl | rfl | rfl <;> simp [lifecycleKeys]
  | sglang dockerCmd dtype attentionBackend =>
    simp only [Launched.entries] at hkv
    split_ifs at hkv <;>
      simp only [List.cons_append, List.nil_append, List.append_nil, List.mem_cons,
        List.not_mem_nil, or_false] at hkv
    · rcases hkv with rfl | rfl | rfl <;> simp [lifecycleKeys]
    · rcases hkv with rfl | rfl <;> simp [lifecycleKeys]

theorem Launched.sameOutside (launched : Launched) (config : Option Json) :
    SameOutside config (launched.config config) := by
  intro key hkey
  rw [← lookup_entriesOf config key]
  refine lookup_mergeEntries fun kv hkv hne => hkey ?_
  rw [← hne]
  exact launched.key_mem_lifecycleKeys _ kv hkv

/-! ## Sessions that keep the config -/

theorem config_committed {α : Type} {x : Except DeploymentError (α × Group)}
    (hok : ∀ a g', x = .ok (a, g') → g'.deployment.config = g.deployment.config) :
    (committed g x).deployment.config = g.deployment.config := by
  cases x with
  | error e => rfl
  | ok result => exact hok result.1 result.2 rfl

theorem plain_ok {x : Except DeploymentError Group} {u : Unit} (h : plain x = .ok (u, g')) :
    x = .ok g' := by
  obtain ⟨g₁, hx, hg₁⟩ := map_eq_ok.mp h
  rw [hx, (Prod.mk.inj hg₁).2]

theorem config_takeStaleClaim {stale : StaleClaim} {observation : Observation}
    {recoveryToken : String} {observedAt now : Nat} {claim : Option Claim}
    (h : takeStaleClaim stale observation recoveryToken observedAt now g = .ok (claim, g')) :
    g'.deployment.config = g.deployment.config := by
  unfold takeStaleClaim at h
  by_cases hstale : StillStale stale observedAt g.deployment
  · rw [if_neg (not_not.mpr hstale)] at h
    dsimp only at h
    split at h
    · obtain ⟨-, rfl⟩ := Prod.mk.inj (Except.ok.inj h)
      rfl
    · split_ifs at h
      · obtain ⟨-, rfl⟩ := Prod.mk.inj (Except.ok.inj h)
        rfl
      · split at h
        · obtain ⟨-, rfl⟩ := Prod.mk.inj (Except.ok.inj h)
          rfl
        · obtain ⟨d, hd, h⟩ := bind_eq_ok.mp h
          obtain ⟨-, rfl⟩ := Prod.mk.inj (Except.ok.inj h)
          show d.config = _
          unfold observedDeployment at hd
          split at hd
          · obtain rfl := Except.ok.inj hd
            rfl
          · obtain ⟨-, hd⟩ := ite_error_eq_ok.mp hd
            obtain rfl := Except.ok.inj hd
            rfl
  · rw [if_pos hstale] at h
    obtain ⟨-, rfl⟩ := Prod.mk.inj (Except.ok.inj h)
    rfl

theorem config_stepClaims (g : Group) (t : TimedOp) :
    (stepClaims g t).deployment.config = g.deployment.config := by
  obtain ⟨op, now⟩ := t
  cases op with
  | tryClaim args =>
    refine config_committed fun claim g' h => ?_
    obtain ⟨_, -, h⟩ := bind_eq_ok.mp h
    obtain ⟨_, -, h⟩ := bind_eq_ok.mp h
    obtain ⟨_, -, h⟩ := bind_eq_ok.mp h
    obtain ⟨gpuId, -, h⟩ := bind_eq_ok.mp h
    split_ifs at h <;> obtain ⟨-, rfl⟩ := Prod.mk.inj (pure_eq_ok.mp h) <;> rfl
  | heartbeat claim =>
    simp only [stepClaims, heartbeatReplicaOperation]
    split_ifs <;> rfl
  | requireOwnership claim =>
    refine config_committed fun _ g' h => ?_
    have h := plain_ok h
    unfold requireReplicaOperationOwnership at h
    split_ifs at h
    obtain rfl := Except.ok.inj h
    rfl
  | release claim =>
    simp only [stepClaims, releaseReplicaOperation]
    split_ifs <;> rfl
  | takeStale stale observation recoveryToken observedAt =>
    exact config_committed fun claim g' h => config_takeStaleClaim h
  | markUnloaded claim replicaId =>
    refine config_committed fun _ g' h => ?_
    obtain ⟨-, h⟩ := ite_error_eq_ok.mp (plain_ok h)
    split_ifs at h
    obtain rfl := Except.ok.inj h
    rfl
  | writeState claim replicaId state =>
    refine config_committed fun _ g' h => ?_
    have h := plain_ok h
    unfold writeReplicaState at h
    split_ifs at h
    obtain rfl := Except.ok.inj h
    rfl
  | refreshGroup claim =>
    refine config_committed fun _ g' h => ?_
    obtain ⟨status, -, h⟩ := bind_eq_ok.mp (plain_ok h)
    split_ifs at h
    obtain rfl := Except.ok.inj h
    rfl
  | syncReplica replicaId generation state =>
    simp only [stepClaims, writeReplicaSyncState]
    split_ifs <;> rfl
  | syncGroup generation =>
    refine config_committed fun persisted g' h => ?_
    obtain ⟨status, -, h⟩ := bind_eq_ok.mp h
    split_ifs at h <;> obtain ⟨-, rfl⟩ := Prod.mk.inj (pure_eq_ok.mp h) <;> rfl
  | syncLegacy snapshot status errorMessage =>
    refine config_committed fun persisted g' h => ?_
    obtain ⟨d, hd, h⟩ := bind_eq_ok.mp h
    obtain ⟨-, hd⟩ := ite_error_eq_ok.mp hd
    obtain rfl := Except.ok.inj hd
    split_ifs at h <;> obtain ⟨-, rfl⟩ := Prod.mk.inj (pure_eq_ok.mp h) <;> rfl

theorem claimedLegacyDeployment_ok {claim : Claim} {userId : Option String} {d : DeploymentRow}
    (h : claimedLegacyDeployment claim userId g = .ok d) : d = g.deployment := by
  unfold claimedLegacyDeployment at h
  obtain ⟨-, h⟩ := ite_error_eq_ok.mp h
  obtain ⟨-, h⟩ := ite_error_eq_ok.mp h
  obtain ⟨_, -, h⟩ := bind_eq_ok.mp h
  obtain ⟨-, h⟩ := ite_error_eq_ok.mp h
  exact (Except.ok.inj h).symm

theorem config_updateStatus {d d' : DeploymentRow} {status : DeploymentStatus}
    {errorMessage : Option String} {now : Nat}
    (h : d.updateStatus status errorMessage now = .ok d') : d'.config = d.config := by
  obtain ⟨-, h⟩ := ite_error_eq_ok.mp h
  obtain rfl := Except.ok.inj h
  rfl

theorem config_writeLegacyStatus {claim : Claim} {userId : Option String}
    {status : DeploymentStatus} {errorMessage : Option String} {now : Nat}
    (h : writeLegacyStatus claim userId status errorMessage now g = .ok g') :
    g'.deployment.config = g.deployment.config := by
  obtain ⟨d, hd, h⟩ := bind_eq_ok.mp h
  obtain rfl := claimedLegacyDeployment_ok hd
  obtain ⟨d', hd', h⟩ := bind_eq_ok.mp h
  obtain rfl := pure_eq_ok.mp h
  exact config_updateStatus hd'

theorem sameOutside_setDeferredStartIntent {claim : Claim} {enabled : Bool} {now : Nat}
    (h : setDeferredStartIntent claim enabled now g = .ok g') :
    SameOutside g.deployment.config g'.deployment.config := by
  unfold setDeferredStartIntent at h
  by_cases hholds : Holds g claim
  · rw [if_pos hholds] at h
    obtain rfl := Except.ok.inj h
    intro key hkey
    have hne : key ≠ deferredAutoStartKey := fun hc => hkey (hc ▸ by simp [lifecycleKeys])
    rw [← lookup_entriesOf g.deployment.config key]
    cases enabled with
    | true => exact Json.lookup_setEntry_of_ne _ _ hne
    | false => exact Json.lookup_popEntry_of_ne _ hne
  · rw [if_neg hholds] at h
    exact absurd h (by simp)

theorem beginLegacyStart_ok {args : LegacyStart} {now : Nat} {copy : DeploymentRow}
    (h : beginLegacyStart args now g = .ok (some copy, g')) :
    copy.config = g.deployment.config ∧ g'.deployment.config = g.deployment.config := by
  obtain ⟨d, hd, h⟩ := bind_eq_ok.mp h
  obtain rfl := claimedLegacyDeployment_ok hd
  obtain ⟨-, h⟩ := ite_error_eq_ok.mp h
  split_ifs at h
  · exact absurd (Prod.mk.inj (pure_eq_ok.mp h)).1 (by simp)
  · obtain ⟨_, -, h⟩ := bind_eq_ok.mp h
    obtain ⟨d', hd', h⟩ := bind_eq_ok.mp h
    obtain ⟨hcopy, rfl⟩ := Prod.mk.inj (pure_eq_ok.mp h)
    obtain rfl := Option.some.inj hcopy
    have hconfig := config_updateStatus hd'
    exact ⟨hconfig, hconfig⟩
  · obtain ⟨d', hd', h⟩ := bind_eq_ok.mp h
    obtain ⟨hcopy, rfl⟩ := Prod.mk.inj (pure_eq_ok.mp h)
    obtain rfl := Option.some.inj hcopy
    have hconfig := config_updateStatus hd'
    exact ⟨hconfig, hconfig⟩

/-- The completion of a start gets through: the start still owns the deployment, whose status may
become `running`. -/
def CanComplete (g : Group) (started : StartInFlight) : Prop :=
  claimedLegacyDeployment started.claim started.userId g = .ok g.deployment ∧
    (DeploymentStatus.running ∈ validTransitions g.deployment.status ∨
      DeploymentStatus.running = g.deployment.status)

theorem completeLegacyStart_ok {started : StartInFlight} {now : Nat}
    (h : completeLegacyStart started.claim started.userId started.runtime now g = .ok g') :
    CanComplete g started ∧ g'.deployment.config = started.runtime.config := by
  obtain ⟨d, hd, h⟩ := bind_eq_ok.mp h
  obtain rfl := claimedLegacyDeployment_ok hd
  obtain ⟨d', hd', h⟩ := bind_eq_ok.mp h
  obtain rfl := pure_eq_ok.mp h
  have hconfig := config_updateStatus hd'
  refine ⟨⟨hd, ?_⟩, hconfig⟩
  obtain ⟨hstatus, -⟩ := ite_error_eq_ok.mp hd'
  by_contra hnot
  obtain ⟨hmem, hne⟩ := not_or.mp hnot
  exact hstatus ⟨hmem, hne⟩

theorem exists_completeLegacyStart {started : StartInFlight} (now : Nat)
    (h : CanComplete g started) :
    ∃ g', completeLegacyStart started.claim started.userId started.runtime now g = .ok g' := by
  obtain ⟨hclaimed, hstatus⟩ := h
  have hguard : ¬ (DeploymentStatus.running ∉ validTransitions g.deployment.status ∧
      DeploymentStatus.running ≠ g.deployment.status) := by tauto
  let d : DeploymentRow :=
    { g.deployment with modelUid := started.runtime.modelUid, config := started.runtime.config }
  have hstatus' : d.updateStatus .running none now = .ok (d.withStatus .running none now) :=
    if_neg hguard
  exact ⟨_, bind_eq_ok.mpr ⟨_, hclaimed, bind_eq_ok.mpr ⟨_, hstatus', rfl⟩⟩⟩

/-! ## Sessions -/

/-- What a session does to the stored config, and the config that it persists as an update. -/
inductive ConfigStep (s : ConfigState) (config' : Option Json) :
    ConfigOp → List (Option Entries) → Prop where
  | updated {args : ConfigUpdate} {observed : ObservedDeployment} {persisted : Option Entries}
      (hconfig : config' = persisted.map Json.obj) :
      ConfigStep s config' (.updateConfig args observed) [persisted]
  | completed {start : Nat} {started : StartInFlight} (hstart : s.starts[start]? = some started)
      (hcan : CanComplete s.group started) (hconfig : config' = started.runtime.config) :
      ConfigStep s config' (.completeStart start) []
  | kept {op : ConfigOp} (hsame : SameOutside s.group.deployment.config config')
      (hcannot : ∀ start started, op = .completeStart start → s.starts[start]? = some started →
        ¬ CanComplete s.group started) : ConfigStep s config' op []

theorem step_config (launch : LaunchConfigs Launch) (s : ConfigState) (t : TimedConfigOp) :
    ConfigStep s (launch.stepConfig s t).group.deployment.config t.op (launch.persistedBy s t) := by
  obtain ⟨op, now⟩ := t
  cases op with
  | updateConfig args observed =>
    simp only [LaunchConfigs.stepConfig, LaunchConfigs.persistedBy]
    cases hok : launch.updateDeploymentConfig args observed now s.group with
    | error e => exact .kept (.refl _) (by simp)
    | ok result =>
      refine .updated ?_
      obtain ⟨_, -, hok⟩ := bind_eq_ok.mp hok
      obtain ⟨_, -, hok⟩ := bind_eq_ok.mp hok
      obtain ⟨-, hok⟩ := ite_error_eq_ok.mp hok
      obtain ⟨persisted, -, hok⟩ := bind_eq_ok.mp hok
      obtain rfl := Except.ok.inj hok
      rfl
  | setIntent claim enabled =>
    refine .kept ?_ (by simp)
    simp only [LaunchConfigs.stepConfig]
    cases hok : setDeferredStartIntent claim enabled now s.group with
    | error e => exact .refl _
    | ok g' => exact sameOutside_setDeferredStartIntent hok
  | beginStart args =>
    refine .kept ?_ (by simp)
    simp only [LaunchConfigs.stepConfig]
    split
    · rename_i copy g' hok
      intro key _
      rw [(beginLegacyStart_ok hok).2]
    · exact .refl _
  | launched start result => exact .kept (.refl _) (by simp)
  | completeStart start =>
    simp only [LaunchConfigs.stepConfig]
    cases hstart : s.starts[start]? with
    | none =>
      refine .kept (.refl _) fun start' started hop hstarted => ?_
      obtain rfl := ConfigOp.completeStart.inj hop
      rw [hstart] at hstarted
      exact absurd hstarted (by simp)
    | some started =>
      simp only
      cases hok : completeLegacyStart started.claim started.userId started.runtime now s.group with
      | error e =>
        refine .kept (.refl _) fun start' started' hop hstarted hcan => ?_
        obtain rfl := ConfigOp.completeStart.inj hop
        obtain rfl := Option.some.inj (hstart.symm.trans hstarted)
        obtain ⟨g', hg'⟩ := exists_completeLegacyStart now hcan
        exact absurd (hok.symm.trans hg') (by simp)
      | ok g' =>
        obtain ⟨hcan, hconfig⟩ := completeLegacyStart_ok hok
        exact .completed hstart hcan hconfig
  | writeStatus claim userId status errorMessage =>
    refine .kept ?_ (by simp)
    simp only [LaunchConfigs.stepConfig]
    cases hok : writeLegacyStatus claim userId status errorMessage now s.group with
    | error e => exact .refl _
    | ok g' =>
      intro key _
      rw [committedGroup, config_writeLegacyStatus hok]
  | claims op =>
    refine .kept (fun key _ => ?_) (by simp)
    show configGet (stepClaims s.group ⟨op, now⟩).deployment.config key = _
    rw [config_stepClaims]

/-! ## The last update -/

def AgreesWith (persisted : Option Entries) (config : Option Json) : Prop :=
  ∀ key ∉ lifecycleKeys, ∀ value, (persisted.getD []).lookup key = some value →
    configGet config key = some value

theorem AgreesWith.congr {persisted : Option Entries} {config config' : Option Json}
    (hsame : SameOutside config config') :
    AgreesWith persisted config' ↔ AgreesWith persisted config := by
  constructor
  · intro h key hkey value hvalue
    rw [← hsame key hkey]
    exact h key hkey value hvalue
  · intro h key hkey value hvalue
    rw [hsame key hkey]
    exact h key hkey value hvalue

theorem agreesWith_persisted (persisted : Option Entries) :
    AgreesWith persisted (persisted.map Json.obj) := by
  intro key _ value hvalue
  cases persisted with
  | none => exact absurd hvalue (by simp)
  | some kvs => exact hvalue

/-- The copies of the starts in flight differ from what was copied in keys of the lifecycle only. -/
def CopiesKept (s : ConfigState) : Prop :=
  ∀ started ∈ s.starts, SameOutside started.copied started.runtime.config

theorem copiesKept_step (launch : LaunchConfigs Launch) (t : TimedConfigOp) (h : CopiesKept s) :
    CopiesKept (launch.stepConfig s t) := by
  obtain ⟨op, now⟩ := t
  cases op with
  | updateConfig args observed => exact h
  | setIntent claim enabled => exact h
  | beginStart args =>
    simp only [LaunchConfigs.stepConfig]
    split
    · rename_i copy g' hok
      intro started hstarted
      rcases List.mem_append.mp hstarted with hold | hnew
      · exact h started hold
      · obtain rfl := List.mem_singleton.mp hnew
        exact .refl _
    · exact h
  | launched start result =>
    intro started hstarted
    obtain ⟨i, hi⟩ := List.mem_iff_getElem?.mp hstarted
    simp only [LaunchConfigs.stepConfig, recordLaunch, List.getElem?_modify] at hi
    obtain ⟨started₀, hstarted₀, rfl⟩ := Option.map_eq_some_iff.mp hi
    have hkept := h started₀ (List.mem_of_getElem? hstarted₀)
    split_ifs
    · exact hkept.trans (result.sameOutside started₀.runtime.config)
    · exact hkept
  | completeStart start =>
    simp only [LaunchConfigs.stepConfig]
    split <;> exact h
  | writeStatus claim userId status errorMessage => exact h
  | claims op => exact h

theorem copiesKept_run (launch : LaunchConfigs Launch) (ops : List TimedConfigOp)
    (h : CopiesKept s) : CopiesKept (exec launch.stepConfig s ops) := by
  induction ops generalizing s with
  | nil => exact h
  | cons t ops ih => exact ih (copiesKept_step launch t h)

def LaunchConfigs.lastUpdate (launch : LaunchConfigs Launch) (s : ConfigState)
    (ops : List TimedConfigOp) : Option (Option Entries) :=
  (events launch.stepConfig launch.persistedBy s ops).getLast?

def UpdateKept (launch : LaunchConfigs Launch) (s : ConfigState) (ops : List TimedConfigOp) :
    Prop :=
  ∀ persisted, launch.lastUpdate s ops = some persisted →
    AgreesWith persisted (exec launch.stepConfig s ops).group.deployment.config

/-- Every start that completes in the run has copied a config that agrees with the last update
before its completion. -/
def CopiesCurrent (launch : LaunchConfigs Launch) (s : ConfigState) (ops : List TimedConfigOp) :
    Prop :=
  ∀ done start now rest, ops = done ++ ⟨.completeStart start, now⟩ :: rest →
    ∀ started, (exec launch.stepConfig s done).starts[start]? = some started →
      CanComplete (exec launch.stepConfig s done).group started →
      ∀ persisted, launch.lastUpdate s done = some persisted → AgreesWith persisted started.copied

theorem lastUpdate_concat (s : ConfigState) (done : List TimedConfigOp) (t : TimedConfigOp) :
    launch.lastUpdate s (done ++ [t]) =
      ((launch.persistedBy (exec launch.stepConfig s done) t).getLast?).or
        (launch.lastUpdate s done) := by
  unfold LaunchConfigs.lastUpdate
  rw [events_append, events_cons, events_nil, List.append_nil, List.getLast?_append]

theorem updateKept_concat {done : List TimedConfigOp} {t : TimedConfigOp} (hstart : CopiesKept s)
    (h : UpdateKept launch s done)
    (hcurrent : ∀ start started, t.op = .completeStart start →
      (exec launch.stepConfig s done).starts[start]? = some started →
      CanComplete (exec launch.stepConfig s done).group started →
      ∀ persisted, launch.lastUpdate s done = some persisted →
        AgreesWith persisted started.copied) :
    UpdateKept launch s (done ++ [t]) := by
  intro persisted hpersisted
  have hcopies := copiesKept_run launch done hstart
  have hstep := step_config launch (exec launch.stepConfig s done) t
  rw [lastUpdate_concat] at hpersisted
  rw [exec_append, exec_cons, exec_nil]
  obtain ⟨op, now⟩ := t
  generalize launch.persistedBy (exec launch.stepConfig s done) ⟨op, now⟩ = emitted at *
  cases hstep with
  | updated hconfig =>
    rw [hconfig]
    obtain rfl := Option.some.inj hpersisted
    exact agreesWith_persisted _
  | @completed start started hget hcan hconfig =>
    have hlast : launch.lastUpdate s done = some persisted := by simpa using hpersisted
    rw [hconfig]
    refine (AgreesWith.congr (hcopies started (List.mem_of_getElem? hget))).mpr ?_
    exact hcurrent start started rfl hget hcan persisted hlast
  | kept hsame hcannot =>
    have hlast : launch.lastUpdate s done = some persisted := by simpa using hpersisted
    exact (AgreesWith.congr hsame).mpr (h persisted hlast)

/-- Updates of the config are kept throughout a run exactly if every start without replicas that
completes has copied a config that still agrees with the last update. -/
theorem config_updates_kept_iff (launch : LaunchConfigs Launch) (g : Group)
    (ops : List TimedConfigOp) :
    (∀ done rest, ops = done ++ rest → UpdateKept launch ⟨g, []⟩ done) ↔
      CopiesCurrent launch ⟨g, []⟩ ops := by
  have hstart : CopiesKept ⟨g, []⟩ := fun started hstarted => absurd hstarted (by simp)
  constructor
  · intro h done start now rest hsplit started hget hcan persisted hlast
    have hsplit' : ops = (done ++ [⟨.completeStart start, now⟩]) ++ rest := by simp [hsplit]
    have hafter := h _ rest hsplit' persisted (by simp [lastUpdate_concat, hlast,
      LaunchConfigs.persistedBy])
    obtain ⟨g', hok⟩ := exists_completeLegacyStart now hcan
    have hconfig := (completeLegacyStart_ok hok).2
    have hcopies := copiesKept_run launch done hstart started (List.mem_of_getElem? hget)
    rw [exec_append, exec_cons, exec_nil] at hafter
    simp only [LaunchConfigs.stepConfig, hget, hok, committedGroup, hconfig] at hafter
    exact (AgreesWith.congr hcopies).mp hafter
  · intro h done
    induction done using List.reverseRecOn with
    | nil =>
      intro rest _ persisted hlast
      exact absurd hlast (by simp [LaunchConfigs.lastUpdate])
    | append_singleton done t ih =>
      intro rest hsplit
      have hsplit' : ops = done ++ t :: rest := by simp [hsplit]
      refine updateKept_concat hstart (ih (t :: rest) hsplit') ?_
      intro start started hop hget hcan persisted hlast
      obtain ⟨op, now⟩ := t
      obtain rfl : op = .completeStart start := hop
      exact h done start now rest hsplit' started hget hcan persisted hlast

/-! ## An update that is lost -/

/-- Launch configs of a deployment that has none. -/
def noLaunchConfigs : LaunchConfigs Unit where
  str := fun _ => ""
  parse := fun _ => none
  framework := fun _ => "vllm"
  modelDump := fun _ => .null
  isDerivable := fun _ => false
  planGpuAssignments := fun _ _ _ => none
  sameTopology := fun _ _ => true

def sharedDeployment : Group where
  deployment := {
    modelId := "m", modelUid := none, xinferenceEndpoint := "http://xinference:9997"
    deployMode := "shared", containerName := none, gpuId := none
    inferenceFramework := "xinference", externalApiConfigId := none
    config := some (.obj [("engine", .str "vllm")]), healthStatus := .unknown, status := .stopped
    errorMessage := none, userId := none, updatedAt := 0, startedAt := none, stoppedAt := none
    replicaOperationToken := none, replicaOperationKind := none, replicaOperationReplicaId := none
    replicaOperationGeneration := 0, replicaOperationStartedAt := none
    replicaOperationHeartbeatAt := none }
  replicas := Table.empty
  adapters := Table.empty

def updateDuringLaunch : List TimedConfigOp :=
  let claim : Claim := ⟨"t", 1, .start, none⟩
  [⟨.claims (.tryClaim ⟨.start, none, none, 1, "t", .ok (), .ok none⟩), 1⟩,
    ⟨.beginStart ⟨claim, none, false, .ok (), "xinference", "m-1"⟩, 2⟩,
    ⟨.updateConfig ⟨some [("engine", .str "transformers")], none, .ok (), false⟩
      ⟨"m", none, none⟩, 3⟩,
    ⟨.launched 0 .shared, 4⟩, ⟨.completeStart 0, 5⟩]

/-- The completion of the start writes the old value over the update. -/
theorem update_during_launch_lost :
    noLaunchConfigs.lastUpdate ⟨sharedDeployment, []⟩ updateDuringLaunch =
        some (some [("engine", .str "transformers")]) ∧
      configGet (exec noLaunchConfigs.stepConfig ⟨sharedDeployment, []⟩
        updateDuringLaunch).group.deployment.config "engine" = some (.str "vllm") ∧
      ¬ UpdateKept noLaunchConfigs ⟨sharedDeployment, []⟩ updateDuringLaunch := by
  have hlast : noLaunchConfigs.lastUpdate ⟨sharedDeployment, []⟩ updateDuringLaunch =
      some (some [("engine", .str "transformers")]) := by rfl
  have hstored : configGet (exec noLaunchConfigs.stepConfig ⟨sharedDeployment, []⟩
      updateDuringLaunch).group.deployment.config "engine" = some (.str "vllm") := by rfl
  refine ⟨hlast, hstored, fun hkept => ?_⟩
  have hagrees := hkept _ hlast "engine" (by decide) (.str "transformers") rfl
  rw [hstored] at hagrees
  exact absurd hagrees (by simp)

end Deployment
