import TrainFactory.Gpu.Proofs.LeaseProofs

/-!
# A grant never doubles a reservation

What the rows of the database reserve is said row by row, and compared with the dictionary that an
admission builds of them: no entry of the dictionary is overwritten, so every reservation of another
owner is seen, and one with unknown devices stops every grant.
-/

namespace Gpu

open Lib Training

variable {host : Host}

/-! ## What the rows reserve -/

def OccupiesAlone (host : Host) (rows : RuntimeRows) (d : Deployment) : Prop :=
  d ∈ rows.deployments ∧ deploymentUsesLocalGpus host d = true ∧
    (∀ r ∈ rows.replicas, r.deploymentId ≠ d.deploymentId) ∧
    (isStarting d = true ∨ d.status ∉ [.stopped, .pending])

def ReplicaOccupies (host : Host) (rows : RuntimeRows) (d : Deployment) (r : DeploymentReplica) :
    Prop :=
  d ∈ rows.deployments ∧ deploymentUsesLocalGpus host d = true ∧ r ∈ rows.replicas ∧
    r.deploymentId = d.deploymentId ∧ occupies d r = true

def trainingDevices (task : TrainingTask) : Except GpuError (Option (List Int)) :=
  strictDeviceIds (task.trainingParams.getD "device" .null)

inductive Reserves (host : Host) (rows : RuntimeRows) : String → Int → Prop where
  | training (task : TrainingTask) (gpuIds : List Int) (gpuId : Int) (hmem : task ∈ rows.tasks)
      (hactive : isActiveTraining task = true) (hdevices : trainingDevices task = .ok (some gpuIds))
      (hgpu : gpuId ∈ gpuIds) : Reserves host rows (trainingOwner task) gpuId
  | deployment (d : Deployment) (gpuId : Int) (hocc : OccupiesAlone host rows d)
      (hgpu : d.gpuId = some gpuId) (hnonneg : 0 ≤ gpuId) :
      Reserves host rows (deploymentOwner d.deploymentId) gpuId
  | replica (d : Deployment) (r : DeploymentReplica) (gpuIds : List Int) (gpuId : Int)
      (hocc : ReplicaOccupies host rows d r) (hids : replicaGpuIds r = some gpuIds)
      (hgpu : gpuId ∈ gpuIds) : Reserves host rows (deploymentOwner d.deploymentId) gpuId

inductive ReservesUnknown (host : Host) (rows : RuntimeRows) : String → Prop where
  | training (task : TrainingTask) (hmem : task ∈ rows.tasks)
      (hactive : isActiveTraining task = true) (hdevices : trainingDevices task = .ok none) :
      ReservesUnknown host rows (trainingOwner task)
  | deployment (d : Deployment) (hocc : OccupiesAlone host rows d)
      (hgpu : ∀ gpuId, d.gpuId = some gpuId → gpuId < 0) :
      ReservesUnknown host rows (deploymentOwner d.deploymentId)
  | replica (d : Deployment) (r : DeploymentReplica) (hocc : ReplicaOccupies host rows d r)
      (hids : replicaGpuIds r = none) : ReservesUnknown host rows (deploymentOwner d.deploymentId)

/-- No other in-memory lease and no other durable reservation holds the GPU. -/
structure Unreserved (host : Host) (rows : RuntimeRows) (m : Manager) (owner : String)
    (gpuId : Int) : Prop where
  lease : ∀ holder, m.gpuAllocations.lookup gpuId = some holder → holder = owner
  durable : ∀ holder, Reserves host rows holder gpuId → holder = owner

def OthersKnown (host : Host) (rows : RuntimeRows) (owner : String) : Prop :=
  ∀ holder, ReservesUnknown host rows holder → holder = owner

/-! ## Owners -/

theorem deploymentOwner_injective {a b : String} (h : deploymentOwner a = deploymentOwner b) :
    a = b := by
  have hlist := congrArg String.toList h
  simp only [deploymentOwner, String.toList_append] at hlist
  exact String.toList_inj.mp (List.append_cancel_left hlist)

theorem append_colon_inj {a b c d : List Char} (ha : ':' ∉ a) (hb : ':' ∉ b)
    (h : a ++ ':' :: c = b ++ ':' :: d) : a = b ∧ c = d := by
  induction a generalizing b with
  | nil =>
    cases b with
    | nil => exact ⟨rfl, List.cons.inj h |>.2⟩
    | cons x b =>
      have hx : ':' = x := (List.cons.inj h).1
      exact absurd (by simp [← hx]) hb
  | cons x a ih =>
    cases b with
    | nil =>
      have hx : x = ':' := (List.cons.inj h).1
      exact absurd (by simp [hx]) ha
    | cons y b =>
      obtain ⟨hxy, hrest⟩ := List.cons.inj h
      obtain ⟨hab, hcd⟩ := ih (fun hm => ha (List.mem_cons_of_mem _ hm))
        (fun hm => hb (List.mem_cons_of_mem _ hm)) hrest
      exact ⟨by rw [hxy, hab], hcd⟩

theorem trainingOwner_cases (task : TrainingTask) :
    trainingOwner task = task.taskId ∨
      ∃ runToken, task.runToken = some runToken ∧
        (trainingOwner task).toList =
          "training".toList ++ ':' :: (task.taskId.toList ++ ':' :: runToken.toList) := by
  unfold trainingOwner
  cases h : task.runToken with
  | none => exact Or.inl rfl
  | some runToken =>
    by_cases hempty : runToken = ""
    · exact Or.inl (by simp [hempty])
    · refine Or.inr ⟨runToken, rfl, ?_⟩
      simp [hempty, String.toList_append]

theorem trainingOwner_ne_deploymentOwner {rows : RuntimeRows} {task : TrainingTask}
    (hmem : task ∈ rows.tasks) (deploymentId : String) :
    trainingOwner task ≠ deploymentOwner deploymentId := by
  intro h
  have hlist : (deploymentOwner deploymentId).toList =
      "deployment".toList ++ ':' :: deploymentId.toList := by
    simp [deploymentOwner, String.toList_append]
  rcases trainingOwner_cases task with hid | ⟨runToken, -, hkey⟩
  · have hcolon : ':' ∈ task.taskId.toList := by
      rw [← hid, h, hlist]
      simp
    exact (rows.noColon task hmem).1 hcolon
  · rw [h, hlist] at hkey
    have hcut := append_colon_inj (by decide) (by decide) hkey
    exact absurd hcut.1 (by decide)

theorem trainingOwner_injective {rows : RuntimeRows} {task task' : TrainingTask}
    (hmem : task ∈ rows.tasks) (hmem' : task' ∈ rows.tasks)
    (h : trainingOwner task = trainingOwner task') : task = task' := by
  have hno := (rows.noColon task hmem).1
  have hno' := (rows.noColon task' hmem').1
  have hid : task.taskId = task'.taskId := by
    rcases trainingOwner_cases task with hk | ⟨runToken, -, hk⟩
    · rcases trainingOwner_cases task' with hk' | ⟨runToken', -, hk'⟩
      · rw [← hk, ← hk', h]
      · have hcolon : ':' ∈ task.taskId.toList := by
          rw [← hk, h, hk']
          simp
        exact absurd hcolon hno
    · rcases trainingOwner_cases task' with hk' | ⟨runToken', -, hk'⟩
      · have hcolon : ':' ∈ task'.taskId.toList := by
          rw [← hk', ← h, hk]
          simp
        exact absurd hcolon hno'
      · rw [h, hk'] at hk
        have hcut := append_colon_inj (by decide) (by decide) hk
        exact (String.toList_inj.mp (append_colon_inj hno' hno hcut.2).1).symm
  exact Table.eq_of_key hmem hmem' hid

/-! ## The dictionary of reservations -/

theorem lookup_reserveTrainings_of_ne {tasks : List TrainingTask}
    {reservations result : Reservations}
    (h : reserveTrainings tasks reservations = .ok result) {owner : String}
    (hne : ∀ task ∈ tasks, trainingOwner task ≠ owner) :
    result.lookup owner = reservations.lookup owner := by
  induction tasks generalizing reservations with
  | nil =>
    have heq : reservations = result := Except.ok.inj h
    rw [heq]
  | cons task tasks ih =>
    have hrest : ∀ task' ∈ tasks, trainingOwner task' ≠ owner :=
      fun task' hm => hne task' (List.mem_cons_of_mem _ hm)
    unfold reserveTrainings at h
    split_ifs at h with hactive
    · cases hdev : strictDeviceIds (task.trainingParams.getD "device" .null) with
      | error e => simp [hdev] at h
      | ok gpuIds =>
        simp only [hdev] at h
        have hk : owner ≠ trainingOwner task := fun he => hne task (List.mem_cons_self ..) he.symm
        rw [ih h hrest, Dict.lookup_insert_eq, if_neg hk]
    · exact ih h hrest

theorem lookup_reserveTrainings {tasks : List TrainingTask} {reservations result : Reservations}
    (h : reserveTrainings tasks reservations = .ok result)
    (hinj : tasks.Pairwise fun a b => trainingOwner a ≠ trainingOwner b) {task : TrainingTask}
    (hmem : task ∈ tasks) (hactive : isActiveTraining task = true) :
    ∃ gpuIds, trainingDevices task = .ok gpuIds ∧
      result.lookup (trainingOwner task) = some gpuIds := by
  induction tasks generalizing reservations with
  | nil => exact absurd hmem List.not_mem_nil
  | cons first tasks ih =>
    obtain ⟨hfirst, hpair⟩ := List.pairwise_cons.mp hinj
    unfold reserveTrainings at h
    rcases List.mem_cons.mp hmem with rfl | hmem
    · rw [if_pos hactive] at h
      cases hdev : strictDeviceIds (task.trainingParams.getD "device" .null) with
      | error e => simp [hdev] at h
      | ok gpuIds =>
        simp only [hdev] at h
        refine ⟨gpuIds, hdev, ?_⟩
        have hne : ∀ task' ∈ tasks, trainingOwner task' ≠ trainingOwner task :=
          fun task' hm he => hfirst task' hm he.symm
        rw [lookup_reserveTrainings_of_ne h hne, Dict.lookup_insert_eq, if_pos rfl]
    · split_ifs at h with hactive'
      · cases hdev : strictDeviceIds (first.trainingParams.getD "device" .null) with
        | error e => simp [hdev] at h
        | ok gpuIds =>
          simp only [hdev] at h
          exact ih h hpair hmem
      · exact ih h hpair hmem

theorem lookup_reserveDeployments_of_ne {replicas : List DeploymentReplica}
    {deployments : List Deployment} {reservations : Reservations} {owner : String}
    (hne : ∀ d ∈ deployments, deploymentOwner d.deploymentId ≠ owner) :
    (reserveDeployments host replicas deployments reservations).lookup owner =
      reservations.lookup owner := by
  induction deployments generalizing reservations with
  | nil => rfl
  | cons d deployments ih =>
    have hrest : ∀ d' ∈ deployments, deploymentOwner d'.deploymentId ≠ owner :=
      fun d' hm => hne d' (List.mem_cons_of_mem _ hm)
    unfold reserveDeployments
    cases hres : deploymentReservation host replicas d with
    | none => exact ih hrest
    | some gpuIds =>
      have hk : owner ≠ deploymentOwner d.deploymentId :=
        fun he => hne d (List.mem_cons_self ..) he.symm
      show (reserveDeployments host replicas deployments _).lookup owner = _
      rw [ih hrest, Dict.lookup_insert_eq, if_neg hk]

theorem lookup_reserveDeployments {replicas : List DeploymentReplica}
    {deployments : List Deployment} {reservations : Reservations}
    (hnodup : (deployments.map Deployment.deploymentId).Nodup) {d : Deployment}
    (hmem : d ∈ deployments) {gpuIds : Option (List Int)}
    (hres : deploymentReservation host replicas d = some gpuIds) :
    (reserveDeployments host replicas deployments reservations).lookup
      (deploymentOwner d.deploymentId) = some gpuIds := by
  induction deployments generalizing reservations with
  | nil => exact absurd hmem List.not_mem_nil
  | cons first deployments ih =>
    rw [List.map_cons, List.nodup_cons] at hnodup
    obtain ⟨hfirst, hrest⟩ := hnodup
    unfold reserveDeployments
    rcases List.mem_cons.mp hmem with rfl | hmem
    · rw [hres]
      show (reserveDeployments host replicas deployments _).lookup _ = _
      have hne : ∀ d' ∈ deployments,
          deploymentOwner d'.deploymentId ≠ deploymentOwner d.deploymentId := by
        intro d' hm he
        exact hfirst (deploymentOwner_injective he ▸ List.mem_map_of_mem hm)
      rw [lookup_reserveDeployments_of_ne hne, Dict.lookup_insert_eq, if_pos rfl]
    · cases deploymentReservation host replicas first with
      | none => exact ih hrest hmem
      | some _ => exact ih hrest hmem

/-! ## Replicas -/

theorem mem_occupiedGpuIds {d : Deployment} {replicas : List DeploymentReplica} {all : List Int}
    (h : occupiedGpuIds d replicas = some all) {r : DeploymentReplica} (hmem : r ∈ replicas)
    (hocc : occupies d r = true) :
    ∃ gpuIds, replicaGpuIds r = some gpuIds ∧ ∀ gpuId ∈ gpuIds, gpuId ∈ all := by
  induction replicas generalizing all with
  | nil => exact absurd hmem List.not_mem_nil
  | cons first replicas ih =>
    unfold occupiedGpuIds at h
    rcases List.mem_cons.mp hmem with rfl | hmem
    · rw [if_pos hocc] at h
      cases hids : replicaGpuIds r with
      | none => simp [hids] at h
      | some gpuIds =>
        simp only [hids, Option.map_eq_some_iff] at h
        obtain ⟨rest, -, rfl⟩ := h
        exact ⟨gpuIds, rfl, fun gpuId hg => List.mem_append_left _ hg⟩
    · split_ifs at h with hfirst
      · cases hids : replicaGpuIds first with
        | none => simp [hids] at h
        | some firstIds =>
          simp only [hids, Option.map_eq_some_iff] at h
          obtain ⟨rest, hrest, rfl⟩ := h
          obtain ⟨gpuIds, hr, hsub⟩ := ih hrest hmem
          exact ⟨gpuIds, hr, fun gpuId hg => List.mem_append_right _ (hsub gpuId hg)⟩
      · exact ih h hmem

theorem deploymentReservation_replica {rows : RuntimeRows} {d : Deployment} {r : DeploymentReplica}
    (hocc : ReplicaOccupies host rows d r) :
    deploymentReservation host rows.replicas.rows d = some none ∨
      ∃ gpuIds all, replicaGpuIds r = some gpuIds ∧ (∀ gpuId ∈ gpuIds, gpuId ∈ all) ∧
        deploymentReservation host rows.replicas.rows d = some (some all) := by
  obtain ⟨-, hlocal, hmem, hid, hocc⟩ := hocc
  have hfilter : r ∈ rows.replicas.rows.filter fun r => r.deploymentId = d.deploymentId := by
    simpa using ⟨hmem, hid⟩
  unfold deploymentReservation
  rw [if_neg (by simp [hlocal])]
  cases hrs : rows.replicas.rows.filter fun r => r.deploymentId = d.deploymentId with
  | nil =>
    rw [hrs] at hfilter
    exact absurd hfilter List.not_mem_nil
  | cons first rest =>
    rw [hrs] at hfilter
    cases hall : occupiedGpuIds d (first :: rest) with
    | none => exact Or.inl (by simp only [hall])
    | some all =>
      obtain ⟨gpuIds, hids, hsub⟩ := mem_occupiedGpuIds hall hfilter hocc
      -- the devices of the replica are not empty, so those of the deployment are not
      have hne : gpuIds ≠ [] := by
        rintro rfl
        unfold replicaGpuIds at hids
        split_ifs at hids with hnil
        obtain ⟨x, xs, hx⟩ := List.exists_cons_of_ne_nil hnil
        rw [hx, List.mapM_cons] at hids
        cases hgx : gpuIdOf x with
        | none => simp [hgx] at hids
        | some g =>
          cases hgs : xs.mapM gpuIdOf with
          | none => simp [hgx, hgs] at hids
          | some gs => simp [hgx, hgs] at hids
      obtain ⟨g, gs, hg⟩ := List.exists_cons_of_ne_nil hne
      have hga : g ∈ all := hsub g (by simp [hg])
      obtain ⟨a, as, ha⟩ := List.exists_cons_of_ne_nil (List.ne_nil_of_mem hga)
      refine Or.inr ⟨gpuIds, all, hids, hsub, ?_⟩
      simp only [hall, ha]

theorem deploymentReservation_alone {rows : RuntimeRows} {d : Deployment}
    (hocc : OccupiesAlone host rows d) :
    ((∀ gpuId, d.gpuId = some gpuId → gpuId < 0) ∧
      deploymentReservation host rows.replicas.rows d = some none) ∨
    (∃ gpuId, d.gpuId = some gpuId ∧ 0 ≤ gpuId ∧
      deploymentReservation host rows.replicas.rows d = some (some [gpuId])) := by
  obtain ⟨-, hlocal, hnone, hocc⟩ := hocc
  have hfilter : (rows.replicas.rows.filter fun r => r.deploymentId = d.deploymentId) = [] := by
    rw [List.filter_eq_nil_iff]
    intro r hr
    simpa using hnone r hr
  unfold deploymentReservation
  rw [if_neg (by simp [hlocal]), hfilter]
  simp only [hocc, if_true]
  cases hgpu : d.gpuId with
  | none => exact Or.inl ⟨by simp, rfl⟩
  | some gpuId =>
    by_cases h0 : 0 ≤ gpuId
    · exact Or.inr ⟨gpuId, rfl, h0, by simp [h0]⟩
    · refine Or.inl ⟨?_, by simp [h0]⟩
      intro g hg
      have heq : gpuId = g := Option.some.inj hg
      omega

/-! ## The dictionary covers the rows -/

theorem pairwise_trainingOwner (rows : RuntimeRows) :
    rows.tasks.rows.Pairwise fun a b => trainingOwner a ≠ trainingOwner b := by
  have hnodup : rows.tasks.rows.Nodup := List.Nodup.of_map _ rows.tasks.nodup
  refine hnodup.imp_of_mem ?_
  intro a b ha hb hne he
  exact hne (trainingOwner_injective ha hb he)

def Covers (entry : Option (Option (List Int))) (gpuId : Int) : Prop :=
  entry = some none ∨ ∃ gpuIds, entry = some (some gpuIds) ∧ gpuId ∈ gpuIds

section Dictionary

variable {rows : RuntimeRows} {reservations : Reservations}

theorem lookup_of_training (h : persistedGpuReservations host rows = .ok reservations)
    {task : TrainingTask} (hmem : task ∈ rows.tasks) (hactive : isActiveTraining task = true) :
    ∃ gpuIds, trainingDevices task = .ok gpuIds ∧
      reservations.lookup (trainingOwner task) = some gpuIds := by
  unfold persistedGpuReservations at h
  cases htasks : reserveTrainings rows.tasks.rows ∅ with
  | error e => simp [htasks] at h
  | ok trainings =>
    simp only [htasks, Except.ok.injEq] at h
    obtain ⟨gpuIds, hdev, hlookup⟩ :=
      lookup_reserveTrainings htasks (pairwise_trainingOwner rows) hmem hactive
    refine ⟨gpuIds, hdev, ?_⟩
    rw [← h, lookup_reserveDeployments_of_ne, hlookup]
    intro d _ he
    exact trainingOwner_ne_deploymentOwner hmem d.deploymentId he.symm

theorem lookup_of_deployment (h : persistedGpuReservations host rows = .ok reservations)
    {d : Deployment} (hmem : d ∈ rows.deployments) {gpuIds : Option (List Int)}
    (hres : deploymentReservation host rows.replicas.rows d = some gpuIds) :
    reservations.lookup (deploymentOwner d.deploymentId) = some gpuIds := by
  unfold persistedGpuReservations at h
  cases htasks : reserveTrainings rows.tasks.rows ∅ with
  | error e => simp [htasks] at h
  | ok trainings =>
    simp only [htasks, Except.ok.injEq] at h
    rw [← h]
    exact lookup_reserveDeployments rows.deployments.nodup hmem hres

theorem covers_of_reserves (h : persistedGpuReservations host rows = .ok reservations)
    {owner : String} {gpuId : Int} (hres : Reserves host rows owner gpuId) :
    Covers (reservations.lookup owner) gpuId := by
  cases hres with
  | training task gpuIds gpuId hmem hactive hdevices hgpu =>
    obtain ⟨gpuIds', hdev, hlookup⟩ := lookup_of_training h hmem hactive
    have heq : some gpuIds = gpuIds' := Except.ok.inj (hdevices.symm.trans hdev)
    exact Or.inr ⟨gpuIds, by rw [hlookup, ← heq], hgpu⟩
  | deployment d gpuId hocc hgpu hnonneg =>
    rcases deploymentReservation_alone hocc with ⟨hneg, -⟩ | ⟨g, hg, -, hr⟩
    · have := hneg gpuId hgpu
      omega
    · have heq : gpuId = g := Option.some.inj (hgpu.symm.trans hg)
      exact Or.inr ⟨[g], lookup_of_deployment h hocc.1 hr, by simp [heq]⟩
  | replica d r gpuIds gpuId hocc hids hgpu =>
    rcases deploymentReservation_replica hocc with hr | ⟨gpuIds', all, hids', hsub, hr⟩
    · exact Or.inl (lookup_of_deployment h hocc.1 hr)
    · have heq : gpuIds = gpuIds' := Option.some.inj (hids.symm.trans hids')
      exact Or.inr ⟨all, lookup_of_deployment h hocc.1 hr, hsub gpuId (heq ▸ hgpu)⟩

theorem lookup_of_reservesUnknown (h : persistedGpuReservations host rows = .ok reservations)
    {owner : String} (hres : ReservesUnknown host rows owner) :
    reservations.lookup owner = some none := by
  cases hres with
  | training task hmem hactive hdevices =>
    obtain ⟨gpuIds, hdev, hlookup⟩ := lookup_of_training h hmem hactive
    have heq : none = gpuIds := Except.ok.inj (hdevices.symm.trans hdev)
    rw [hlookup, heq]
  | deployment d hocc hgpu =>
    rcases deploymentReservation_alone hocc with ⟨-, hr⟩ | ⟨g, hg, h0, -⟩
    · exact lookup_of_deployment h hocc.1 hr
    · have := hgpu g hg
      omega
  | replica d r hocc hids =>
    rcases deploymentReservation_replica hocc with hr | ⟨gpuIds, all, hids', -, -⟩
    · exact lookup_of_deployment h hocc.1 hr
    · rw [hids] at hids'
      exact absurd hids' (by simp)

end Dictionary

/-! ## What an admission sees -/

theorem blockedByReservations_spec {owner : String}
    {entries : List (Sigma fun _ : String => Option (List Int))} {blocked : List Int}
    (h : blockedByReservations owner entries = .ok blocked) {holder : String}
    {entry : Option (List Int)} (hmem : ⟨holder, entry⟩ ∈ entries) (hne : holder ≠ owner) :
    ∃ gpuIds, entry = some gpuIds ∧ ∀ gpuId ∈ gpuIds, gpuId ∈ blocked := by
  induction entries generalizing blocked with
  | nil => exact absurd hmem List.not_mem_nil
  | cons first entries ih =>
    obtain ⟨holder', entry'⟩ := first
    unfold blockedByReservations at h
    by_cases hk : holder' = owner
    · rw [if_pos hk] at h
      rcases List.mem_cons.mp hmem with heq | hmem
      · injection heq with hh
        exact absurd (hh.trans hk) hne
      · exact ih h hmem
    · rw [if_neg hk] at h
      cases entry' with
      | none => simp at h
      | some first =>
        cases hrest : blockedByReservations owner entries with
        | error e => simp [hrest] at h
        | ok rest =>
          simp only [hrest, Except.ok.injEq] at h
          subst h
          rcases List.mem_cons.mp hmem with heq | hmem
          · injection heq with _ he
            exact ⟨first, he, fun gpuId hg => List.mem_append_left _ hg⟩
          · obtain ⟨gpuIds, he, hsub⟩ := ih hrest hmem
            exact ⟨gpuIds, he, fun gpuId hg => List.mem_append_right _ (hsub gpuId hg)⟩

theorem reservedGpuIds_spec {m : Manager} {session : Except GpuError RuntimeRows} {owner : String}
    {blocked : List Int} (h : m.reservedGpuIds host session owner = .ok blocked) :
    ∃ rows, session = .ok rows ∧ OthersKnown host rows owner ∧
      ∀ gpuId, gpuId ∉ blocked → Unreserved host rows m owner gpuId := by
  unfold Manager.reservedGpuIds at h
  cases session with
  | error e => simp at h
  | ok rows =>
    cases hres : persistedGpuReservations host rows with
    | error e => simp [hres] at h
    | ok reservations =>
      cases hblocked : blockedByReservations owner reservations.entries with
      | error e => simp [hres, hblocked] at h
      | ok others =>
        simp only [hres, hblocked, Except.ok.injEq] at h
        subst h
        have hspec : ∀ holder entry, reservations.lookup holder = some entry → holder ≠ owner →
            ∃ gpuIds, entry = some gpuIds ∧ ∀ gpuId ∈ gpuIds, gpuId ∈ others := by
          intro holder entry hlookup hne
          exact blockedByReservations_spec hblocked (AList.mem_lookup_iff.mp hlookup) hne
        refine ⟨rows, rfl, ?_, fun gpuId hfree => ⟨?_, ?_⟩⟩
        · intro holder hunknown
          by_contra hne
          obtain ⟨gpuIds, he, -⟩ := hspec holder none (lookup_of_reservesUnknown hres hunknown) hne
          exact absurd he (by simp)
        · intro holder hlookup
          by_contra hne
          refine hfree (List.mem_append_left _ ?_)
          rw [List.mem_filter]
          have hkey : gpuId ∈ m.gpuAllocations.keys := by
            rw [← AList.mem_keys, ← AList.lookup_isSome, hlookup]
            rfl
          exact ⟨hkey, by simpa [hlookup] using hne⟩
        · intro holder hreserves
          by_contra hne
          refine hfree (List.mem_append_right _ ?_)
          rcases covers_of_reserves hres hreserves with hnone | ⟨gpuIds, hsome, hmem⟩
          · obtain ⟨_, he, -⟩ := hspec holder none hnone hne
            exact absurd he (by simp)
          · obtain ⟨gpuIds', he, hsub⟩ := hspec holder (some gpuIds) hsome hne
            have heq : gpuIds = gpuIds' := Option.some.inj he
            exact hsub gpuId (heq ▸ hmem)

/-! ## Sets of requested ids -/

def Names (gpuIds : List Json) (gpuId : Int) : Prop :=
  ∃ value ∈ gpuIds, numericValue value = some (gpuId : Rat)

theorem hashableEq_self {value : Json} (h : isHashable value = true) :
    hashableEq value value = true := by
  cases value <;> simp_all [hashableEq, numericValue, isHashable]

theorem setOf_loop (values ids : List Json) (h : ∀ value ∈ values, isHashable value = true) :
    let result := values.foldl
      (fun ids value => if ids.any (hashableEq value) then ids else ids ++ [value]) ids
    (∀ id ∈ ids, id ∈ result) ∧ ∀ value ∈ values, ∃ id ∈ result, hashableEq value id = true := by
  induction values generalizing ids with
  | nil => exact ⟨fun id hid => hid, fun value hv => absurd hv List.not_mem_nil⟩
  | cons value values ih =>
    have hrest : ∀ value' ∈ values, isHashable value' = true :=
      fun value' hv => h value' (List.mem_cons_of_mem _ hv)
    by_cases hany : ids.any (hashableEq value) = true
    · obtain ⟨hkeep, hall⟩ := ih ids hrest
      simp only [List.foldl_cons, hany, if_true]
      refine ⟨hkeep, fun value' hv => ?_⟩
      rcases List.mem_cons.mp hv with rfl | hv
      · obtain ⟨id, hid, heq⟩ := List.any_eq_true.mp hany
        exact ⟨id, hkeep id hid, heq⟩
      · exact hall value' hv
    · obtain ⟨hkeep, hall⟩ := ih (ids ++ [value]) hrest
      simp only [List.foldl_cons, hany, if_false, Bool.false_eq_true]
      refine ⟨fun id hid => hkeep id (List.mem_append_left _ hid), fun value' hv => ?_⟩
      rcases List.mem_cons.mp hv with rfl | hv
      · have hself := hashableEq_self (h value' (List.mem_cons_self ..))
        exact ⟨value', hkeep value' (List.mem_append_right _ (List.mem_singleton.mpr rfl)), hself⟩
      · exact hall value' hv

theorem gpuIdOf_of_hashableEq {value id : Json} {gpuId gpuId' : Int}
    (hid : gpuIdOf id = some gpuId') (hvalue : numericValue value = some (gpuId : Rat))
    (heq : hashableEq value id = true) : gpuId = gpuId' := by
  cases id with
  | int n =>
    have hn : n = gpuId' := by
      simp only [gpuIdOf] at hid
      split_ifs at hid
      exact Option.some.inj hid
    have hint : numericValue (.int n) = some (n : Rat) := rfl
    have hrat : (gpuId : Rat) = (n : Rat) := by
      simpa only [hashableEq, hvalue, hint, decide_eq_true_eq] using heq
    rw [← hn]
    exact_mod_cast hrat
  | _ => simp [gpuIdOf] at hid

theorem mem_of_mapM_gpuIdOf {ids : List Json} {gpuIds : List Int}
    (h : ids.mapM gpuIdOf = some gpuIds) {id : Json} (hmem : id ∈ ids) :
    ∃ gpuId ∈ gpuIds, gpuIdOf id = some gpuId := by
  induction ids generalizing gpuIds with
  | nil => exact absurd hmem List.not_mem_nil
  | cons first ids ih =>
    rw [List.mapM_cons] at h
    cases hfirst : gpuIdOf first with
    | none => simp [hfirst] at h
    | some g =>
      cases hrest : ids.mapM gpuIdOf with
      | none => simp [hfirst, hrest] at h
      | some gs =>
        have heq : g :: gs = gpuIds := by simpa [hfirst, hrest] using h
        subst heq
        rcases List.mem_cons.mp hmem with rfl | hmem
        · exact ⟨g, List.mem_cons_self .., hfirst⟩
        · obtain ⟨gpuId, hg, hid⟩ := ih hrest hmem
          exact ⟨gpuId, List.mem_cons_of_mem _ hg, hid⟩

/-! ## The entry points -/

section EntryPoints

variable {m : Manager} {session : Except GpuError RuntimeRows}

/-- The GPUs of a grant to an owner: the session could be read, no other owner has unknown devices,
and no other lease and no other reservation holds one of them. -/
def Admitted (host : Host) (m : Manager) (session : Except GpuError RuntimeRows) (owner : String)
    (granted : Int → Prop) : Prop :=
  ∃ rows, session = .ok rows ∧ OthersKnown host rows owner ∧
    ∀ gpuId, granted gpuId → Unreserved host rows m owner gpuId

theorem admitted_of_reserved {owner : String} {blocked : List Int}
    (h : m.reservedGpuIds host session owner = .ok blocked) {granted : Int → Prop}
    (hfree : ∀ gpuId, granted gpuId → gpuId ∉ blocked) :
    Admitted host m session owner granted := by
  obtain ⟨rows, hrows, hknown, hunreserved⟩ := reservedGpuIds_spec h
  exact ⟨rows, hrows, hknown, fun gpuId hg => hunreserved gpuId (hfree gpuId hg)⟩

theorem admitted_of_allocate {taskId device : String} {deviceRequest : Option String} {now : Nat}
    {m' : Manager}
    (h : m.allocateGpusForTask host taskId deviceRequest session now = (some device, m')) :
    (device = "cpu" ∧ m' = m) ∨
      ∃ gpuIds, gpuIds ≠ [] ∧ device = deviceString gpuIds ∧
        m' = (m.doAllocateGpus taskId gpuIds now).2 ∧
        Admitted host m session taskId (· ∈ gpuIds) := by
  rcases allocateGpusForTask_cases host m taskId deviceRequest session now with
    ⟨-, ⟨-, hs⟩ | hs⟩ | ⟨-, gpuIds, blocked, hgrant, hs⟩
  · rw [hs] at h
    obtain ⟨hd, hm⟩ := Prod.mk.inj h
    exact Or.inl ⟨(Option.some.inj hd).symm, hm.symm⟩
  · rw [hs] at h
    exact absurd (Prod.mk.inj h).1 (by simp)
  · rw [hs] at h
    obtain ⟨hd, hm⟩ := Prod.mk.inj h
    refine Or.inr ⟨gpuIds, hgrant.nonempty, (Option.some.inj hd).symm, hm.symm, ?_⟩
    exact admitted_of_reserved hgrant.reserved fun gpuId hg => (hgrant.free gpuId hg).2

theorem admitted_of_select {deploymentId : String} {gpuId : Int}
    (h : m.selectDeploymentGpu host session deploymentId = .ok gpuId) :
    Admitted host m session (deploymentOwner deploymentId) (· = gpuId) := by
  unfold Manager.selectDeploymentGpu at h
  cases hres : m.reservedGpuIds host session (deploymentOwner deploymentId) with
  | error e => simp [hres] at h
  | ok blocked =>
    cases hfind : m.gpus.find? fun gpuId => gpuId ∉ blocked with
    | none =>
      simp only [hres, hfind] at h
      exact absurd h (by simp)
    | some found =>
      simp only [hres, hfind, Except.ok.injEq] at h
      refine admitted_of_reserved hres fun g hg => ?_
      have hfree := List.find?_some hfind
      simpa [hg, ← h] using hfree

theorem admitted_of_available {deploymentId : String} {pool gpuIds : List Int}
    (h : m.availableDeploymentGpus host session deploymentId pool = .ok gpuIds) :
    Admitted host m session (deploymentOwner deploymentId) (· ∈ gpuIds) := by
  unfold Manager.availableDeploymentGpus at h
  cases hres : m.reservedGpuIds host session (deploymentOwner deploymentId) with
  | error e => simp [hres] at h
  | ok blocked =>
    simp only [hres, Except.ok.injEq] at h
    refine admitted_of_reserved hres fun g hg => ?_
    rw [← h] at hg
    simpa using (List.mem_filter.mp hg).2

theorem admitted_of_assert {deploymentId : String} {gpuIds : List Json}
    (h : m.assertDeploymentGpusAvailable host session deploymentId gpuIds = .ok ()) :
    Admitted host m session (deploymentOwner deploymentId) (Names gpuIds) := by
  unfold Manager.assertDeploymentGpusAvailable at h
  by_cases hhash : gpuIds.all isHashable = true
  · rw [if_neg (by simpa using hhash)] at h
    obtain ⟨-, hset⟩ := setOf_loop gpuIds [] (List.all_eq_true.mp hhash)
    cases hids : setOf gpuIds with
    | nil => simp [hids] at h
    | cons first rest =>
      cases hmap : (first :: rest).mapM gpuIdOf with
      | none => simp [hids, hmap] at h
      | some ids =>
        cases hres : m.reservedGpuIds host session (deploymentOwner deploymentId) with
        | error e => simp [hids, hmap, hres] at h
        | ok blocked =>
          simp only [hids, hmap, hres] at h
          split_ifs at h with hany
          refine admitted_of_reserved hres ?_
          rintro gpuId ⟨value, hvalue, hnum⟩ hblocked
          obtain ⟨id, hid, heq⟩ := hset value hvalue
          have hid' : id ∈ first :: rest := hids ▸ hid
          obtain ⟨gpuId', hmem, hof⟩ := mem_of_mapM_gpuIdOf hmap hid'
          have hsame : gpuId = gpuId' := gpuIdOf_of_hashableEq hof hnum heq
          refine hany (List.any_eq_true.mpr ⟨gpuId', hmem, ?_⟩)
          simpa [← hsame] using hblocked
  · rw [if_pos hhash] at h
    simp at h

end EntryPoints

/-- Whatever the rows and the tables are, what an entry point grants is held by no other lease and no
other durable reservation, and it grants nothing while another reservation has unknown devices. -/
theorem gpu_grants_unreserved (host : Host) (m : Manager) (session : Except GpuError RuntimeRows) :
    (∀ taskId deviceRequest now device m',
      m.allocateGpusForTask host taskId deviceRequest session now = (some device, m') →
      (device = "cpu" ∧ m' = m) ∨ ∃ gpuIds, gpuIds ≠ [] ∧ device = deviceString gpuIds ∧
        m' = (m.doAllocateGpus taskId gpuIds now).2 ∧
        Admitted host m session taskId (· ∈ gpuIds)) ∧
    (∀ deploymentId gpuId, m.selectDeploymentGpu host session deploymentId = .ok gpuId →
      Admitted host m session (deploymentOwner deploymentId) (· = gpuId)) ∧
    (∀ deploymentId pool gpuIds,
      m.availableDeploymentGpus host session deploymentId pool = .ok gpuIds →
      Admitted host m session (deploymentOwner deploymentId) (· ∈ gpuIds)) ∧
    (∀ deploymentId gpuIds,
      m.assertDeploymentGpusAvailable host session deploymentId gpuIds = .ok () →
      Admitted host m session (deploymentOwner deploymentId) (Names gpuIds)) :=
  ⟨fun _ _ _ _ _ h => admitted_of_allocate h, fun _ _ h => admitted_of_select h,
    fun _ _ _ h => admitted_of_available h, fun _ _ h => admitted_of_assert h⟩

end Gpu
