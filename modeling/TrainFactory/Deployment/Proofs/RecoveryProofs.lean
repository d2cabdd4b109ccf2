import TrainFactory.Deployment.Recovery
import TrainFactory.Lib.FreshKeys
import TrainFactory.Lib.Result
import TrainFactory.Lib.RowHistory

/-!
# A recovery follows the runtime

Whatever has happened since the stale claim was read: the recovery changes the status of an adapter
only to what its runtime tells, and refuses to recover where the runtime tells neither.
-/

namespace Deployment

open Lib

/-- `_recover_stale_replica_operation` from its first session to the commit of the takeover, which
finds `g`. -/
def recoverStale (view : RuntimeView) (stale : StaleClaim) (recoveryToken : String)
    (observedAt now : Nat) (g : Group) : Except DeploymentError (Option Claim × Group) :=
  match observeStaleClaim view stale with
  | none => .ok (none, g)
  | some observation => takeStaleClaim stale observation recoveryToken observedAt now g

def StaleClaim.Hosts (stale : StaleClaim) (a : AdapterRow) : Option ReplicaRow → Prop
  | none => stale.usesReplicaLifecycle = false
  | some r => r ∈ stale.replicas ∧ a.deploymentReplicaId = some r.replicaId

variable {view : RuntimeView} {stale : StaleClaim} {a a' : AdapterRow}

inductive IsStopped (view : RuntimeView) : Option ReplicaRow → Prop where
  | replica {r : ReplicaRow} {seen : ContainerView} (hseen : view.container r = some seen)
      (hstopped : (observedReplicaState seen).status = .stopped) : IsStopped view (some r)
  | legacy {status : Option DeploymentStatus} (hseen : view.legacyStatus = some status)
      (hstopped : status.getD .stopped = .stopped) : IsStopped view none

inductive BearsOut (view : RuntimeView) (stale : StaleClaim) (a : AdapterRow) :
    AdapterStatus → Prop where
  | stopped {runtime : Option ReplicaRow} (hhosts : stale.Hosts a runtime)
      (hstopped : IsStopped view runtime) : BearsOut view stale a .unloaded
  | absent {runtime : Option ReplicaRow} {listed : List (String × Option String)}
      {status : AdapterStatus} (hhosts : stale.Hosts a runtime)
      (hlisted : view.adapters runtime = some listed) (habsent : matchingPaths a listed = [])
      (hstatus : status = .unloaded ∨ status = .failed) : BearsOut view stale a status
  | loaded {listed : List (String × Option String)} (hhosts : stale.Hosts a none)
      (hlisted : view.adapters none = some listed)
      (hpresent : some (expectedAdapterPath a) ∈ matchingPaths a listed) :
      BearsOut view stale a .loaded

structure FollowsRuntime (view : RuntimeView) (stale : StaleClaim) (a a' : AdapterRow) : Prop where
  name : a'.adapterName = a.adapterName
  path : a'.adapterPath = a.adapterPath
  binding : a'.deploymentReplicaId = a.deploymentReplicaId
  status : a'.status = a.status ∨ BearsOut view stale a a'.status

instance : Std.Refl (FollowsRuntime view stale) := ⟨fun _ => ⟨rfl, rfl, rfl, Or.inl rfl⟩⟩

theorem BearsOut.of_eq {status : AdapterStatus} (h : BearsOut view stale a' status)
    (hname : a'.adapterName = a.adapterName) (hpath : a'.adapterPath = a.adapterPath)
    (hbinding : a'.deploymentReplicaId = a.deploymentReplicaId) :
    BearsOut view stale a status := by
  have hhosts : ∀ runtime, stale.Hosts a' runtime → stale.Hosts a runtime := by
    rintro (- | r) h
    · exact h
    · exact ⟨h.1, hbinding.symm.trans h.2⟩
  obtain ⟨⟩ := a
  obtain ⟨⟩ := a'
  dsimp only at hname hpath
  subst hname hpath
  cases h with
  | stopped hh hstopped => exact .stopped (hhosts _ hh) hstopped
  | absent hh hlisted habsent hstatus => exact .absent (hhosts _ hh) hlisted habsent hstatus
  | loaded hh hlisted hpresent => exact .loaded (hhosts _ hh) hlisted hpresent

instance : IsTrans AdapterRow (FollowsRuntime view stale) where
  trans := by
    intro a b c h h'
    refine ⟨h'.name.trans h.name, h'.path.trans h.path, h'.binding.trans h.binding, ?_⟩
    rcases h'.status with hsame | hbears
    · rw [hsame]
      exact h.status
    · exact Or.inr (hbears.of_eq h.name h.path h.binding)

/-! ## What is observed -/

theorem absent_of_mem {adapters : List AdapterRow} {listed : List (String × Option String)}
    {ids : List String} (h : absentFromObservation adapters listed = some ids) {id : String}
    (hid : id ∈ ids) : ∃ a ∈ adapters, a.adapterId = id ∧ matchingPaths a listed = [] := by
  unfold absentFromObservation at h
  induction adapters generalizing ids with
  | nil =>
    obtain rfl := Option.some.inj h
    exact absurd hid List.not_mem_nil
  | cons a adapters ih =>
    rw [List.foldrM_cons] at h
    obtain ⟨absent, habsent, h⟩ := Option.bind_eq_some_iff.mp h
    dsimp only at h
    split_ifs at h with hnone hpresent
    · obtain rfl := Option.some.inj h
      rcases List.mem_cons.mp hid with rfl | hid
      · exact ⟨a, List.mem_cons_self, rfl, hnone⟩
      · obtain ⟨a', ha', hrest⟩ := ih habsent hid
        exact ⟨a', List.mem_cons_of_mem a ha', hrest⟩
    · obtain rfl := Option.some.inj h
      obtain ⟨a', ha', hrest⟩ := ih habsent hid
      exact ⟨a', List.mem_cons_of_mem a ha', hrest⟩

theorem reset_of_mem {runtime : Option ReplicaRow} {persisted observed : DeploymentStatus}
    {bound : List AdapterRow} {ids : List String}
    (h : resetAdapterIdsOf view stale runtime persisted observed bound = some ids)
    (hstopped : observed = .stopped → IsStopped view runtime)
    (hhosts : ∀ a ∈ bound, stale.Hosts a runtime) {id : String} (hid : id ∈ ids) :
    ∃ a ∈ bound, a.adapterId = id ∧ BearsOut view stale a .unloaded := by
  unfold resetAdapterIdsOf at h
  split_ifs at h with _ hobserved
  · obtain rfl := Option.some.inj h
    obtain ⟨a, ha, rfl⟩ := List.mem_map.mp hid
    exact ⟨a, ha, rfl, .stopped (hhosts a ha) (hstopped hobserved)⟩
  · obtain rfl := Option.some.inj h
    exact absurd hid List.not_mem_nil
  · obtain ⟨listed, hlisted, h⟩ := Option.bind_eq_some_iff.mp h
    obtain ⟨a, ha, rfl, habsent⟩ := absent_of_mem h hid
    exact ⟨a, ha, rfl, .absent (hhosts a ha) hlisted habsent (Or.inl rfl)⟩
  · obtain rfl := Option.some.inj h
    exact absurd hid List.not_mem_nil

theorem reset_of_observeReplicas {observation : Observation}
    (h : observeReplicas view stale = some observation) :
    observation.staleAdapterUpdates = [] ∧ ∀ id ∈ observation.resetAdapterIds,
      ∃ a ∈ stale.runtimeResetAdapters, a.adapterId = id ∧ BearsOut view stale a .unloaded := by
  unfold observeReplicas at h
  obtain ⟨states, hstates, h⟩ := Option.bind_eq_some_iff.mp h
  dsimp only at h
  split_ifs at h
  · obtain rfl := Option.some.inj h
    exact ⟨rfl, fun id hid => absurd hid List.not_mem_nil⟩
  obtain ⟨resets, hresets, h⟩ := Option.bind_eq_some_iff.mp h
  obtain rfl := Option.some.inj h
  refine ⟨rfl, fun id hid => ?_⟩
  obtain ⟨ids, hids, hid⟩ := List.mem_flatten.mp hid
  obtain ⟨⟨r, state⟩, hmem, hr⟩ := (mem_of_mapM_eq_some hresets).mp hids
  obtain ⟨r', hr', hstate⟩ := (mem_of_mapM_eq_some hstates).mp (List.mem_filter.mp hmem).1
  obtain ⟨-, -, hstate⟩ := Option.bind_eq_some_iff.mp hstate
  obtain ⟨seen, hseen, hstate⟩ := Option.bind_eq_some_iff.mp hstate
  obtain ⟨rfl, rfl⟩ := Prod.mk.inj (Option.some.inj hstate)
  obtain ⟨a, ha, hrest⟩ := reset_of_mem hr (fun hstopped => .replica hseen hstopped)
    (fun a ha => ⟨hr', of_decide_eq_true (List.mem_filter.mp ha).2⟩) hid
  exact ⟨a, (List.mem_filter.mp ha).1, hrest⟩

theorem update_of_mem {operation : Option OperationKind} {listed : List (String × Option String)}
    {updates : List (String × AdapterStatus)} (hlegacy : stale.usesReplicaLifecycle = false)
    (hlisted : view.adapters none = some listed)
    (h : reconcileStaleLegacyAdapters stale.staleAdapters operation listed = some updates)
    {id : String} {status : AdapterStatus} (hmem : (id, status) ∈ updates) :
    ∃ s ∈ stale.staleAdapters, s.adapterId = id ∧ ∀ a, a.adapterName = s.adapterName →
      a.adapterPath = s.adapterPath → BearsOut view stale a status := by
  obtain ⟨s, hs, hupdate⟩ := (mem_of_mapM_eq_some h).mp hmem
  have hid : s.adapterId = id := by
    dsimp only at hupdate
    split_ifs at hupdate <;> exact congrArg Prod.fst (Option.some.inj hupdate)
  refine ⟨s, hs, hid, fun a hname hpath => ?_⟩
  have hhosts : stale.Hosts a none := hlegacy
  have hmatching : matchingPaths a listed = matchingPaths s listed := by
    simp only [matchingPaths, hname]
  rw [← hmatching] at hupdate
  dsimp only at hupdate
  split_ifs at hupdate with hnone hload hpresent
  all_goals obtain ⟨-, rfl⟩ := Prod.mk.inj (Option.some.inj hupdate)
  · exact .absent hhosts hlisted hnone (Or.inr rfl)
  · exact .absent hhosts hlisted hnone (Or.inl rfl)
  · refine .loaded hhosts hlisted ?_
    simp only [expectedAdapterPath, hpath]
    exact hpresent

structure Observation.Sound (view : RuntimeView) (stale : StaleClaim) (o : Observation) : Prop where
  reset : ∀ id ∈ o.resetAdapterIds,
    ∃ a ∈ stale.runtimeResetAdapters, a.adapterId = id ∧ BearsOut view stale a .unloaded
  update : ∀ id status, (id, status) ∈ o.staleAdapterUpdates →
    ∃ s ∈ stale.staleAdapters, s.adapterId = id ∧ ∀ a, a.adapterName = s.adapterName →
      a.adapterPath = s.adapterPath → BearsOut view stale a status

theorem sound_observeLegacy {observation : Observation}
    (hlegacy : stale.usesReplicaLifecycle = false)
    (h : observeLegacy view stale = some observation) : observation.Sound view stale := by
  have hreset : ∀ {status resets}, view.legacyStatus = some status →
      resetAdapterIdsOf view stale none stale.runtimeDeployment.status (status.getD .stopped)
        stale.runtimeResetAdapters = some resets → ∀ id ∈ resets,
      ∃ a ∈ stale.runtimeResetAdapters, a.adapterId = id ∧ BearsOut view stale a .unloaded := by
    intro status resets hstatus hresets id hid
    exact reset_of_mem hresets (fun hstopped => .legacy hstatus hstopped) (fun _ _ => hlegacy) hid
  unfold observeLegacy at h
  obtain ⟨status, hstatus, h⟩ := Option.bind_eq_some_iff.mp h
  dsimp only at h
  split_ifs at h
  · obtain ⟨_, ⟨⟩, h⟩ := Option.bind_eq_some_iff.mp h
    obtain ⟨_, ⟨⟩, h⟩ := Option.bind_eq_some_iff.mp h
    obtain rfl := Option.some.inj h
    exact ⟨fun _ hid => absurd hid List.not_mem_nil, fun _ _ hu => absurd hu List.not_mem_nil⟩
  · obtain ⟨_, ⟨⟩, h⟩ := Option.bind_eq_some_iff.mp h
    obtain ⟨resets, hresets, h⟩ := Option.bind_eq_some_iff.mp h
    obtain rfl := Option.some.inj h
    exact ⟨hreset hstatus hresets, fun _ _ hu => absurd hu List.not_mem_nil⟩
  · obtain ⟨listed, hlisted, h⟩ := Option.bind_eq_some_iff.mp h
    obtain ⟨updates, hupdates, h⟩ := Option.bind_eq_some_iff.mp h
    obtain ⟨_, ⟨⟩, h⟩ := Option.bind_eq_some_iff.mp h
    obtain rfl := Option.some.inj h
    exact ⟨fun _ hid => absurd hid List.not_mem_nil,
      fun _ _ hu => update_of_mem hlegacy hlisted hupdates hu⟩
  · obtain ⟨listed, hlisted, h⟩ := Option.bind_eq_some_iff.mp h
    obtain ⟨updates, hupdates, h⟩ := Option.bind_eq_some_iff.mp h
    obtain ⟨resets, hresets, h⟩ := Option.bind_eq_some_iff.mp h
    obtain rfl := Option.some.inj h
    exact ⟨hreset hstatus hresets, fun _ _ hu => update_of_mem hlegacy hlisted hupdates hu⟩

theorem sound_observeStaleClaim {observation : Observation}
    (h : observeStaleClaim view stale = some observation) : observation.Sound view stale := by
  unfold observeStaleClaim at h
  split_ifs at h with _ hreplicas
  · obtain ⟨hupdates, hresets⟩ := reset_of_observeReplicas h
    exact ⟨hresets, fun _ _ hmem => absurd (hupdates ▸ hmem) List.not_mem_nil⟩
  · exact sound_observeLegacy (Bool.eq_false_iff.mpr hreplicas) h

/-! ## What is written -/

abbrev Follows (view : RuntimeView) (stale : StaleClaim) :
    Table AdapterRow → Table AdapterRow → Prop :=
  Table.Evolves (fun _ => False) (FollowsRuntime view stale)

theorem follows_resetAdapters {observation : Observation} (hsound : observation.Sound view stale)
    {observedAt : Nat} {g : Group} {adapters : Table AdapterRow}
    (h : resetAdapters stale observation observedAt g = some adapters) :
    Follows view stale g.adapters adapters := by
  unfold resetAdapters at h
  dsimp only at h
  split_ifs at h with _ hlocked
  · obtain rfl := Option.some.inj h
    exact .refl g.adapters
  obtain rfl := Option.some.inj h
  -- the rows that were read are rows of the group, with the same columns
  have hmem : ∀ b ∈ stale.runtimeResetAdapters, b.adapterId ∈ observation.resetAdapterIds →
      b ∈ g.adapters := by
    intro b hb hid
    have hb' : b ∈ stale.runtimeResetAdapters.filter
        fun a => a.adapterId ∈ observation.resetAdapterIds :=
      List.mem_filter.mpr ⟨hb, decide_eq_true hid⟩
    rw [← not_not.mp hlocked] at hb'
    have hsorted := (List.mem_insertionSort _).mp (List.mem_filter.mp hb').1
    exact (Table.mem_select.mp hsorted).1
  refine .updateWhere fun a ha hp => ⟨rfl, rfl, rfl, Or.inr ?_⟩
  obtain ⟨b, hb, hba⟩ := List.mem_map.mp (of_decide_eq_true (Bool.and_eq_true_iff.mp hp).1)
  have hid := of_decide_eq_true (List.mem_filter.mp hb).2
  obtain ⟨c, hc, hcb, hbears⟩ := hsound.reset b.adapterId hid
  obtain rfl : c = a := Table.eq_of_key (hmem c hc (hcb ▸ hid)) ha (hcb.trans hba)
  exact hbears

theorem follows_reconcileAdapters {observation : Observation}
    (hsound : observation.Sound view stale) {now : Nat} {adapters adapters' : Table AdapterRow}
    (h : reconcileAdapters stale observation now adapters = some adapters') :
    Follows view stale adapters adapters' := by
  unfold reconcileAdapters at h
  dsimp only at h
  split_ifs at h with _ hlocked
  · obtain rfl := Option.some.inj h
    exact .refl adapters
  obtain rfl := Option.some.inj h
  refine .updateWhere fun a ha hp => ?_
  cases hlookup : observation.staleAdapterUpdates.lookup a.adapterId with
  | none =>
    simp only [reconciled, hlookup]
    exact Std.Refl.refl a
  | some status =>
    simp only [reconciled, hlookup]
    refine ⟨rfl, rfl, rfl, Or.inr ?_⟩
    obtain ⟨s, hs, hid, hbears⟩ :=
      hsound.update a.adapterId status (mem_of_lookup_eq_some hlookup)
    have hsign : legacyAdapterRecoverySignature s ∈
        stale.staleAdapters.map legacyAdapterRecoverySignature := List.mem_map_of_mem hs
    rw [← not_not.mp hlocked] at hsign
    obtain ⟨b, hb, hbs⟩ := List.mem_map.mp hsign
    have hbmem := (Table.mem_select.mp ((List.mem_insertionSort _).mp hb)).1
    simp only [legacyAdapterRecoverySignature, Prod.mk.injEq] at hbs
    obtain rfl : b = a := Table.eq_of_key hbmem ha (hbs.1.trans hid)
    exact hbears b hbs.2.1 hbs.2.2.1

theorem follows_takeStaleClaim {observation : Observation} (hsound : observation.Sound view stale)
    {recoveryToken : String} {observedAt now : Nat} {g : Group} {result : Option Claim × Group}
    (h : takeStaleClaim stale observation recoveryToken observedAt now g = .ok result) :
    Follows view stale g.adapters result.2.adapters := by
  unfold takeStaleClaim at h
  dsimp only at h
  by_cases hstale : StillStale stale observedAt g.deployment
  swap
  · rw [if_pos hstale] at h
    obtain rfl := Except.ok.inj h
    exact .refl g.adapters
  rw [if_neg (not_not.mpr hstale)] at h
  split at h
  · obtain rfl := Except.ok.inj h
    exact .refl g.adapters
  rename_i adapters hreset
  have hfirst := follows_resetAdapters hsound hreset
  split at h
  · obtain rfl := Except.ok.inj h
    exact hfirst
  split at h
  · obtain rfl := Except.ok.inj h
    exact .refl g.adapters
  · rename_i adapters' hreconcile
    obtain ⟨d, -, h⟩ := bind_eq_ok.mp h
    obtain rfl := Except.ok.inj h
    exact hfirst.trans (follows_reconcileAdapters hsound hreconcile)

end Deployment
