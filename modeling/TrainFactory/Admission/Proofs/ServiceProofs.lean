import TrainFactory.Admission.Service
import TrainFactory.Lib.Run

/-!
# Admission is exclusive and bounded

Every handle that is not fully released owns the entry of its key in its registry, and no two of
them share a key; the registries are disjoint. The count of active keys rises by at most one through
an admission, which is refused at the limit. An operation of `run_async` starts with an unreleased
lease if the lease is handed over: released by nobody else, and submitted once.
-/

namespace Admission

open Lib

/-! ## Handles -/

/-- The handles that are not fully released own their keys, each its own. -/
structure Registered (handles : List Handle) (registry : String → Prop) : Prop where
  mem : ∀ (i : Nat) (h : Handle), handles[i]? = some h → h.phase ≠ .released →
    registry h.taskKey
  unique : ∀ (i j : Nat) (h h' : Handle), handles[i]? = some h → handles[j]? = some h' →
    h.phase ≠ .released → h'.phase ≠ .released → h.taskKey = h'.taskKey → i = j

theorem registered_nil (registry : String → Prop) : Registered [] registry := by
  constructor
  · intro i h hi
    exact absurd hi (by simp)
  · intro i j h h' hi
    exact absurd hi (by simp)

theorem getElem?_setReleased {handles : List Handle} {i j : Nat} {h' : Handle}
    (hj : (setReleased handles i)[j]? = some h') :
    handles[j]? = some h' ∨
      (j = i ∧ h'.phase = .releasing ∧ handles[j]? = some ⟨h'.taskKey, .held⟩) := by
  unfold setReleased at hj
  cases hi : handles[i]? with
  | none =>
    simp only [hi] at hj
    exact Or.inl hj
  | some h =>
    simp only [hi] at hj
    split_ifs at hj with hphase
    · rw [List.getElem?_set] at hj
      split_ifs at hj with hij hlen
      · have heq : h' = { h with phase := .releasing } := (Option.some.inj hj).symm
        refine Or.inr ⟨hij.symm, by rw [heq], ?_⟩
        rw [← hij, hi, heq, ← hphase]
      · exact Or.inl hj
    · exact Or.inl hj

theorem getElem?_setReleased_of_ne {handles : List Handle} {i j : Nat} (h : j ≠ i) :
    (setReleased handles i)[j]? = handles[j]? := by
  unfold setReleased
  cases handles[i]? with
  | none => rfl
  | some hd =>
    show (if hd.phase = .held then _ else _)[j]? = _
    split_ifs
    · exact List.getElem?_set_ne h.symm
    · rfl

theorem finishRelease_spec {handles handles' : List Handle} {i : Nat} {key : String}
    (h : finishRelease handles i = some (key, handles')) :
    handles[i]? = some ⟨key, .releasing⟩ ∧ handles' = handles.set i ⟨key, .released⟩ := by
  unfold finishRelease at h
  cases hi : handles[i]? with
  | none => simp [hi] at h
  | some hd =>
    simp only [hi] at h
    split_ifs at h with hphase
    obtain ⟨hkey, hset⟩ := Prod.mk.inj (Option.some.inj h)
    obtain ⟨taskKey, phase⟩ := hd
    simp only at hphase hkey hset
    subst hkey hphase
    exact ⟨rfl, hset.symm⟩

namespace Registered

variable {handles handles' : List Handle} {registry registry' : String → Prop}

theorem mono (h : Registered handles registry) (himp : ∀ key, registry key → registry' key) :
    Registered handles registry' :=
  ⟨fun i hd hi hp => himp _ (h.mem i hd hi hp), h.unique⟩

theorem setReleased (h : Registered handles registry) (i : Nat) :
    Registered (setReleased handles i) registry := by
  -- a handle that is not released had the same key before and was not released
  have hback : ∀ (j : Nat) (hd : Handle), (Admission.setReleased handles i)[j]? = some hd →
      hd.phase ≠ .released →
      ∃ hd₀, handles[j]? = some hd₀ ∧ hd₀.phase ≠ .released ∧ hd₀.taskKey = hd.taskKey := by
    intro j hd hj hp
    rcases getElem?_setReleased hj with hj | ⟨-, -, hj⟩
    · exact ⟨hd, hj, hp, rfl⟩
    · exact ⟨_, hj, by simp, rfl⟩
  constructor
  · intro j hd hj hp
    obtain ⟨hd₀, hj₀, hp₀, hkey⟩ := hback j hd hj hp
    exact hkey ▸ h.mem j hd₀ hj₀ hp₀
  · intro j k hd hd' hj hk hp hp' he
    obtain ⟨hd₀, hj₀, hp₀, hkey⟩ := hback j hd hj hp
    obtain ⟨hd₀', hk₀, hp₀', hkey'⟩ := hback k hd' hk hp'
    exact h.unique j k hd₀ hd₀' hj₀ hk₀ hp₀ hp₀' (by rw [hkey, hkey', he])

theorem finish (h : Registered handles registry) {i : Nat} {key : String}
    (hf : finishRelease handles i = some (key, handles')) :
    Registered handles' fun k => k ≠ key ∧ registry k := by
  obtain ⟨hi, rfl⟩ := finishRelease_spec hf
  have hback : ∀ (j : Nat) (hd : Handle), (handles.set i ⟨key, .released⟩)[j]? = some hd →
      hd.phase ≠ .released →
      j ≠ i ∧ handles[j]? = some hd := by
    intro j hd hj hp
    rw [List.getElem?_set] at hj
    split_ifs at hj with hij hlen
    · have heq : ⟨key, .released⟩ = hd := Option.some.inj hj
      exact absurd (by rw [← heq]) hp
    · exact ⟨fun he => hij he.symm, hj⟩
  constructor
  · intro j hd hj hp
    obtain ⟨hne, hj₀⟩ := hback j hd hj hp
    refine ⟨fun hkey => hne ?_, h.mem j hd hj₀ hp⟩
    exact h.unique j i hd ⟨key, .releasing⟩ hj₀ hi hp (by simp) hkey
  · intro j k hd hd' hj hk hp hp' he
    exact h.unique j k hd hd' (hback j hd hj hp).2 (hback k hd' hk hp').2 hp hp' he

theorem push (h : Registered handles registry) {key : String} (hnew : ¬ registry key) :
    Registered (handles ++ [⟨key, .held⟩]) fun k => k = key ∨ registry k := by
  have hback : ∀ (j : Nat) (hd : Handle), (handles ++ [⟨key, .held⟩])[j]? = some hd →
      handles[j]? = some hd ∨ (j = handles.length ∧ hd = ⟨key, .held⟩) := by
    intro j hd hj
    rw [List.getElem?_append] at hj
    split_ifs at hj with hlt
    · exact Or.inl hj
    · have hlen : j - handles.length = 0 := by
        by_contra hne
        have hnone : ([⟨key, .held⟩] : List Handle)[j - handles.length]? = none := by
          rw [List.getElem?_eq_none_iff, List.length_singleton]
          omega
        rw [hnone] at hj
        exact absurd hj (by simp)
      rw [hlen] at hj
      exact Or.inr ⟨by omega, (Option.some.inj hj).symm⟩
  constructor
  · intro j hd hj hp
    rcases hback j hd hj with hj | ⟨-, rfl⟩
    · exact Or.inr (h.mem j hd hj hp)
    · exact Or.inl rfl
  · intro j k hd hd' hj hk hp hp' he
    rcases hback j hd hj with hj | ⟨hjl, rfl⟩ <;> rcases hback k hd' hk with hk | ⟨hkl, rfl⟩
    · exact h.unique j k hd hd' hj hk hp hp' he
    · have hreg := h.mem j hd hj hp
      rw [he] at hreg
      exact absurd hreg hnew
    · have hreg := h.mem k hd' hk hp'
      rw [← he] at hreg
      exact absurd hreg hnew
    · rw [hjl, hkl]

end Registered

/-! ## Exclusion -/

/-- The registries are disjoint, and every handle that is not fully released owns its entry. -/
structure Service.Exclusive (s : Service) : Prop where
  disjoint : ∀ key, key ∈ s.executing → key ∉ s.deleting
  leases : Registered s.leases (· ∈ s.executing)
  guards : Registered s.guards (· ∈ s.deleting)

theorem exclusive_new (globalLimit perUserLimit : Nat) (rows : TaskRows) :
    (Service.new globalLimit perUserLimit rows).Exclusive :=
  ⟨fun key hkey => absurd hkey (AList.notMem_empty key), registered_nil _, registered_nil _⟩

/-- What the release of a lease, and every step of a worker, leaves as it is: the registries and the
guards. The leases change by setting flags. -/
structure SameRegistries (s s' : Service) : Prop where
  executing : s'.executing = s.executing
  deleting : s'.deleting = s.deleting
  guards : s'.guards = s.guards
  leases : s'.leases = s.leases ∨ ∃ i, s'.leases = setReleased s.leases i

theorem Service.Exclusive.of_same {s s' : Service} (h : s.Exclusive) (hs : SameRegistries s s') :
    s'.Exclusive := by
  refine ⟨?_, ?_, ?_⟩
  · rw [hs.executing, hs.deleting]
    exact h.disjoint
  · rw [hs.executing]
    rcases hs.leases with hl | ⟨i, hl⟩
    · rw [hl]
      exact h.leases
    · rw [hl]
      exact h.leases.setReleased i
  · rw [hs.guards, hs.deleting]
    exact h.guards

theorem sameRegistries_of_run {s s' : Service} {runs : List AsyncRun} (lease : Nat)
    (h : s' = s ∨ s' = { s with runs := runs } ∨
      s' = Service.release { s with runs := runs } lease) : SameRegistries s s' := by
  rcases h with rfl | rfl | rfl
  · exact ⟨rfl, rfl, rfl, Or.inl rfl⟩
  · exact ⟨rfl, rfl, rfl, Or.inl rfl⟩
  · exact ⟨rfl, rfl, rfl, Or.inr ⟨lease, rfl⟩⟩

/-- What a step of a worker or a waiter does to the runs and to the lease of its run. -/
structure RunMove (s s' : Service) (run : Nat) (r r' : AsyncRun) : Prop where
  before : s.runs[run]? = some r
  after : s'.runs = s.runs.set run r'
  lease : r'.lease = r.lease
  leases : s'.leases = s.leases ∨ s'.leases = setReleased s.leases r.lease
  /-- A run that may still start could start before, and its lease is not released. -/
  starts : r'.future ∈ [.pending, .running] → r'.started = false → r'.abandoned = false →
    r.future ∈ [.pending, .running] ∧ r.started = false ∧ r.abandoned = false ∧
      s'.leases = s.leases
  same : SameRegistries s s'

/-- A step of a worker or a waiter changes nothing, or moves its run. -/
theorem runMove_cases (s : Service) (run : Nat) (call : Call)
    (hcall : call = .cancel run ∨ call = .take run ∨ call = .enter run ∨ call = .exit run ∨
      call = .leave run) :
    s.step call = s ∨ ∃ r r', RunMove s (s.step call) run r r' := by
  cases hr : s.runs[run]? with
  | none =>
    left
    rcases hcall with rfl | rfl | rfl | rfl | rfl
    · simp only [Service.step, Service.cancel, hr]
    · simp only [Service.step, Service.take, hr]
    · simp only [Service.step, Service.enter, hr]
    · simp only [Service.step, Service.exit, hr]
    · simp only [Service.step, Service.leave, hr]
  | some r =>
    rcases hcall with rfl | rfl | rfl | rfl | rfl
    · by_cases hp : r.future = .pending
      · refine Or.inr ⟨r, { r with future := .cancelled }, ?_⟩
        have hs : s.step (.cancel run) = Service.release
            { s with runs := s.runs.set run { r with future := .cancelled } } r.lease := by
          simp only [Service.step, Service.cancel, hr, hp, if_true]
        refine ⟨hr, by rw [hs]; rfl, rfl, Or.inr (by rw [hs]; rfl), ?_, ?_⟩
        · intro hf
          exact absurd hf (by simp)
        · exact sameRegistries_of_run _ (Or.inr (Or.inr hs))
      · exact Or.inl (by simp only [Service.step, Service.cancel, hr, hp, if_false])
    · by_cases hp : r.future = .pending
      · refine Or.inr ⟨r, { r with future := .running }, ?_⟩
        have hs : s.step (.take run) =
            { s with runs := s.runs.set run { r with future := .running } } := by
          simp only [Service.step, Service.take, hr, hp, if_true]
        refine ⟨hr, by rw [hs], rfl, Or.inl (by rw [hs]), ?_, ?_⟩
        · exact fun _ hst hab => ⟨by simp [hp], hst, hab, by rw [hs]⟩
        · exact sameRegistries_of_run 0 (Or.inr (Or.inl hs))
      · exact Or.inl (by simp only [Service.step, Service.take, hr, hp, if_false])
    · by_cases hp : r.future = .running ∧ r.started = false
      · by_cases ha : r.abandoned = true
        · refine Or.inr ⟨r, { r with future := .done }, ?_⟩
          have hs : s.step (.enter run) =
              { s with runs := s.runs.set run { r with future := .done } } := by
            simp only [Service.step, Service.enter, hr, hp, ha, if_true, and_self]
          refine ⟨hr, by rw [hs], rfl, Or.inl (by rw [hs]), ?_, ?_⟩
          · intro hf
            exact absurd hf (by simp)
          · exact sameRegistries_of_run 0 (Or.inr (Or.inl hs))
        · refine Or.inr ⟨r, { r with started := true }, ?_⟩
          have hs : s.step (.enter run) =
              { s with runs := s.runs.set run { r with started := true } } := by
            simp only [Service.step, Service.enter, hr, hp, ha, if_true, and_self,
              Bool.false_eq_true, if_false]
          refine ⟨hr, by rw [hs], rfl, Or.inl (by rw [hs]), ?_, ?_⟩
          · intro _ hst
            exact absurd hst (by simp)
          · exact sameRegistries_of_run 0 (Or.inr (Or.inl hs))
      · exact Or.inl (by simp only [Service.step, Service.enter, hr, hp, if_false])
    · by_cases hp : r.future = .running ∧ r.started = true
      · refine Or.inr ⟨r, { r with future := .done }, ?_⟩
        have hs : s.step (.exit run) = Service.release
            { s with runs := s.runs.set run { r with future := .done } } r.lease := by
          simp only [Service.step, Service.exit, hr, hp, if_true, and_self]
        refine ⟨hr, by rw [hs]; rfl, rfl, Or.inr (by rw [hs]; rfl), ?_, ?_⟩
        · intro hf
          exact absurd hf (by simp)
        · exact sameRegistries_of_run _ (Or.inr (Or.inr hs))
      · exact Or.inl (by simp only [Service.step, Service.exit, hr, hp, if_false])
    · by_cases hp : r.started = false
      · refine Or.inr ⟨r, { r with abandoned := true }, ?_⟩
        have hs : s.step (.leave run) = Service.release
            { s with runs := s.runs.set run { r with abandoned := true } } r.lease := by
          simp only [Service.step, Service.leave, hr, hp, if_true]
        refine ⟨hr, by rw [hs]; rfl, rfl, Or.inr (by rw [hs]; rfl), ?_, ?_⟩
        · intro _ _ hab
          exact absurd hab (by simp)
        · exact sameRegistries_of_run _ (Or.inr (Or.inr hs))
      · exact Or.inl (by simp [Service.step, Service.leave, hr, hp])

/-! ## Admissions -/

/-- What a call of `admit_execution` does: nothing, what its operation writes, or that and a new
lease for a key that is neither executing nor deleting. -/
inductive AdmitMove (s : Service) (requestedTaskId admissionUserId : Option String)
    (op : Operation) : Service → Prop where
  | refused : AdmitMove s requestedTaskId admissionUserId op s
  | wrote (kind : TaskKind) (hcap : s.assertCapacity admissionUserId = .ok ()) :
      AdmitMove s requestedTaskId admissionUserId op
        { s with rows := op.rowsAfter s.rows kind }
  | admitted (kind : TaskKind) (taskId : String)
      (hcap : s.assertCapacity admissionUserId = .ok ())
      (hid : resolvedTaskId requestedTaskId op.result = some taskId)
      (hfree : s.isBlocked (taskKey kind taskId) = false) :
      AdmitMove s requestedTaskId admissionUserId op { s with
        rows := op.rowsAfter s.rows kind
        executing := s.executing.insert (taskKey kind taskId) admissionUserId
        leases := s.leases ++ [⟨taskKey kind taskId, .held⟩] }

theorem admitExecution_move (s : Service) (taskKind : String)
    (requestedTaskId admissionUserId : Option String) (op : Operation) :
    AdmitMove s requestedTaskId admissionUserId op
      (s.admitExecution taskKind requestedTaskId admissionUserId op).2 := by
  unfold Service.admitExecution
  cases TaskKind.parse taskKind with
  | none => exact .refused
  | some kind =>
    by_cases hblocked : ((nonEmpty requestedTaskId).map (taskKey kind)).any s.isBlocked = true
    · simp only [hblocked, if_true]
      exact .refused
    · simp only [hblocked, Bool.false_eq_true, if_false]
      cases hcap : s.assertCapacity admissionUserId with
      | error e => exact .refused
      | ok _ =>
        have hunresolved : AdmitMove s requestedTaskId admissionUserId op
            { s with rows := op.rowsAfter s.rows kind } := .wrote kind hcap
        have hresolved : ∀ result taskId, op.result = result →
            resolvedTaskId requestedTaskId result = some taskId →
            AdmitMove s requestedTaskId admissionUserId op
              (if s.isBlocked (taskKey kind taskId) then { s with rows := op.rowsAfter s.rows kind }
              else { s with
                rows := op.rowsAfter s.rows kind
                executing := s.executing.insert (taskKey kind taskId) admissionUserId
                leases := s.leases ++ [⟨taskKey kind taskId, .held⟩] }) := by
          intro result taskId hres hid
          by_cases hfree : s.isBlocked (taskKey kind taskId) = true
          · rw [if_pos hfree]
            exact hunresolved
          · rw [if_neg hfree]
            exact .admitted kind taskId hcap (hres ▸ hid) (by simpa using hfree)
        have hwritten : ∀ taskId, ({ s with rows := op.rowsAfter s.rows kind } : Service).isBlocked
            (taskKey kind taskId) = s.isBlocked (taskKey kind taskId) := fun _ => rfl
        cases hres : op.result with
        | raised => exact hunresolved
        | refused => exact hunresolved
        | dict taskId =>
          cases hid : resolvedTaskId requestedTaskId (.dict taskId) with
          | none => simpa only [hid] using hunresolved
          | some id =>
            have hmove := hresolved _ id hres hid
            simp only [hid, hwritten]
            split_ifs at hmove ⊢ <;> exact hmove
        | other =>
          cases hid : resolvedTaskId requestedTaskId .other with
          | none => simpa only [hid] using hunresolved
          | some id =>
            have hmove := hresolved _ id hres hid
            simp only [hid, hwritten]
            split_ifs at hmove ⊢ <;> exact hmove

theorem isBlocked_eq_false {s : Service} {key : String} :
    s.isBlocked key = false ↔ key ∉ s.executing ∧ key ∉ s.deleting := by
  simp [Service.isBlocked]

theorem Service.Exclusive.admit {s s' : Service} (h : s.Exclusive)
    {requestedTaskId admissionUserId : Option String} {op : Operation}
    (hmove : AdmitMove s requestedTaskId admissionUserId op s') : s'.Exclusive := by
  cases hmove with
  | refused => exact h
  | wrote kind hcap => exact h.of_same ⟨rfl, rfl, rfl, Or.inl rfl⟩
  | admitted kind taskId hcap hid hfree =>
    obtain ⟨hexec, hdel⟩ := isBlocked_eq_false.mp hfree
    refine ⟨?_, ?_, h.guards⟩
    · intro key hkey
      rcases (AList.mem_insert _).mp hkey with rfl | hkey
      · exact hdel
      · exact h.disjoint key hkey
    · refine (h.leases.push hexec).mono fun key hkey => ?_
      exact (AList.mem_insert _).mpr hkey

theorem Service.Exclusive.beginDeletion {s : Service} (h : s.Exclusive)
    (taskKind taskId : String) : (s.beginDeletion taskKind taskId).2.Exclusive := by
  unfold Service.beginDeletion
  cases TaskKind.parse taskKind with
  | none => exact h
  | some kind =>
    by_cases hb : s.isBlocked (taskKey kind taskId) = true
    · simp only [hb, if_true]
      exact h
    · simp only [hb, Bool.false_eq_true, if_false]
      obtain ⟨hexec, hdel⟩ := isBlocked_eq_false.mp (Bool.eq_false_iff.mpr hb)
      refine ⟨?_, h.leases, ?_⟩
      · intro key hkey hmem
        rcases Finset.mem_insert.mp hmem with rfl | hmem
        · exact hexec hkey
        · exact h.disjoint key hkey hmem
      · refine (h.guards.push hdel).mono fun key hkey => ?_
        exact Finset.mem_insert.mpr hkey

theorem Service.Exclusive.finishExecution {s : Service} (h : s.Exclusive) (lease : Nat) :
    (s.finishExecution lease).Exclusive := by
  unfold Service.finishExecution
  cases hf : finishRelease s.leases lease with
  | none => exact h
  | some found =>
    obtain ⟨key, leases⟩ := found
    refine ⟨?_, ?_, h.guards⟩
    · intro k hk
      exact h.disjoint k (AList.mem_erase.mp hk).2
    · exact (h.leases.finish hf).mono fun k hk => AList.mem_erase.mpr hk

theorem Service.Exclusive.finishDeletion {s : Service} (h : s.Exclusive) (guard : Nat) :
    (s.finishDeletion guard).Exclusive := by
  unfold Service.finishDeletion
  cases hf : finishRelease s.guards guard with
  | none => exact h
  | some found =>
    obtain ⟨key, guards⟩ := found
    refine ⟨?_, h.leases, ?_⟩
    · intro k hk hmem
      exact h.disjoint k hk (Finset.mem_of_mem_erase hmem)
    · refine (h.guards.finish hf).mono fun k hk => ?_
      exact Finset.mem_erase.mpr hk

theorem exclusive_step {s : Service} (h : s.Exclusive) (call : Call) : (s.step call).Exclusive := by
  have hrun : ∀ run, (call = .cancel run ∨ call = .take run ∨ call = .enter run ∨
      call = .exit run ∨ call = .leave run) → (s.step call).Exclusive := by
    intro run hcall
    rcases runMove_cases s run call hcall with hs | ⟨r, r', hmove⟩
    · rw [hs]
      exact h
    · exact h.of_same hmove.same
  cases call with
  | admitExecution taskKind requestedTaskId admissionUserId op =>
    exact h.admit (admitExecution_move s taskKind requestedTaskId admissionUserId op)
  | beginDeletion taskKind taskId => exact h.beginDeletion taskKind taskId
  | release lease => exact h.of_same ⟨rfl, rfl, rfl, Or.inr ⟨lease, rfl⟩⟩
  | finishExecution lease => exact h.finishExecution lease
  | releaseGuard guard => exact ⟨h.disjoint, h.leases, h.guards.setReleased guard⟩
  | finishDeletion guard => exact h.finishDeletion guard
  | runAsync lease => exact h.of_same ⟨rfl, rfl, rfl, Or.inl rfl⟩
  | cancel run => exact hrun run (by simp)
  | take run => exact hrun run (by simp)
  | enter run => exact hrun run (by simp)
  | exit run => exact hrun run (by simp)
  | leave run => exact hrun run (by simp)
  | setWorkersStopped stopped => exact h.of_same ⟨rfl, rfl, rfl, Or.inl rfl⟩
  | deactivate kind taskId => exact h.of_same ⟨rfl, rfl, rfl, Or.inl rfl⟩

/-! ## Handing over -/

def Service.isHeld (s : Service) (lease : Nat) : Prop :=
  ∃ key, s.leases[lease]? = some ⟨key, .held⟩

/-- The condition of a step: a lease handed to `run_async` is unreleased, has not been handed over
before, and is released by no one else afterwards. -/
def handedOver (s : Service) : Call → Prop
  | .release lease => ∀ r ∈ s.runs, r.lease ≠ lease
  | .runAsync lease => s.isHeld lease ∧ ∀ r ∈ s.runs, r.lease ≠ lease
  | _ => True

/-- Each run has a lease of its own, which is held as long as the run may still start. -/
structure Service.Waiting (s : Service) : Prop where
  held : ∀ r ∈ s.runs, r.future ∈ [.pending, .running] → r.started = false →
    r.abandoned = false → s.isHeld r.lease
  nodup : (s.runs.map AsyncRun.lease).Nodup

theorem waiting_new (globalLimit perUserLimit : Nat) (rows : TaskRows) :
    (Service.new globalLimit perUserLimit rows).Waiting :=
  ⟨fun _ hr => absurd hr List.not_mem_nil, List.nodup_nil⟩

theorem Service.Waiting.of_held {s s' : Service} (h : s.Waiting) (hruns : s'.runs = s.runs)
    (hheld : ∀ r ∈ s.runs, s.isHeld r.lease → s'.isHeld r.lease) : s'.Waiting := by
  refine ⟨fun r hr hf hst hab => ?_, ?_⟩
  · rw [hruns] at hr
    exact hheld r hr (h.held r hr hf hst hab)
  · rw [hruns]
    exact h.nodup

theorem isHeld_setReleased_of_ne {s s' : Service} {i lease : Nat}
    (hl : s'.leases = setReleased s.leases i) (hne : lease ≠ i) (h : s.isHeld lease) :
    s'.isHeld lease := by
  obtain ⟨key, hkey⟩ := h
  exact ⟨key, by rw [hl, getElem?_setReleased_of_ne hne, hkey]⟩

theorem isHeld_of_push {s s' : Service} {new : Handle} (hl : s'.leases = s.leases ++ [new])
    {lease : Nat} (h : s.isHeld lease) : s'.isHeld lease := by
  obtain ⟨key, hkey⟩ := h
  have hlt : lease < s.leases.length := (List.getElem?_eq_some_iff.mp hkey).1
  exact ⟨key, by rw [hl, List.getElem?_append_left hlt, hkey]⟩

theorem isHeld_finishExecution {s : Service} {i lease : Nat} (h : s.isHeld lease) :
    (s.finishExecution i).isHeld lease := by
  obtain ⟨key, hkey⟩ := h
  unfold Service.finishExecution
  cases hf : finishRelease s.leases i with
  | none => exact ⟨key, hkey⟩
  | some found =>
    obtain ⟨key', leases⟩ := found
    obtain ⟨hi, hset⟩ := finishRelease_spec hf
    have hne : i ≠ lease := by
      rintro rfl
      rw [hi] at hkey
      exact absurd hkey (by simp)
    refine ⟨key, ?_⟩
    show leases[lease]? = _
    rw [hset, List.getElem?_set_ne hne, hkey]

theorem Service.Waiting.runMove {s s' : Service} (h : s.Waiting) {run : Nat} {r r' : AsyncRun}
    (hmove : RunMove s s' run r r') : s'.Waiting := by
  have hlen : run < s.runs.length := (List.getElem?_eq_some_iff.mp hmove.before).1
  have hget : s.runs[run] = r := (List.getElem?_eq_some_iff.mp hmove.before).2
  have hleases : s'.runs.map AsyncRun.lease = s.runs.map AsyncRun.lease := by
    rw [hmove.after, List.map_set, hmove.lease, ← hget]
    apply List.ext_getElem?
    intro j
    rw [List.getElem?_set]
    split_ifs with hj hjl
    · rw [← hj, List.getElem?_map, List.getElem?_eq_getElem hlen]
      rfl
    · rw [List.length_map] at hjl
      exact absurd (hj ▸ hlen) (by omega)
    · rfl
  refine ⟨fun x hx hf hst hab => ?_, hleases ▸ h.nodup⟩
  rw [hmove.after] at hx
  obtain ⟨j, hj⟩ := List.mem_iff_getElem?.mp hx
  rw [List.getElem?_set] at hj
  split_ifs at hj with hjr
  · have hxr : r' = x := Option.some.inj hj
    rw [← hxr] at hf hst hab ⊢
    obtain ⟨hf₀, hst₀, hab₀, hl⟩ := hmove.starts hf hst hab
    obtain ⟨key, hkey⟩ := h.held r (List.mem_of_getElem? hmove.before) hf₀ hst₀ hab₀
    exact ⟨key, by rw [hmove.lease, hl, hkey]⟩
  · have hmem : x ∈ s.runs := List.mem_of_getElem? hj
    have hheld := h.held x hmem hf hst hab
    -- the lease of another run is another lease
    have hne : x.lease ≠ r.lease := by
      intro he
      have hj' : (s.runs.map AsyncRun.lease)[j]? = some x.lease := by
        rw [List.getElem?_map, hj]
        rfl
      have hr' : (s.runs.map AsyncRun.lease)[run]? = some x.lease := by
        rw [List.getElem?_map, hmove.before, he]
        rfl
      have hjlt := (List.getElem?_eq_some_iff.mp hj').1
      exact hjr ((List.getElem?_inj hjlt h.nodup).mp (hj'.trans hr'.symm)).symm
    rcases hmove.leases with hl | hl
    · obtain ⟨key, hkey⟩ := hheld
      exact ⟨key, by rw [hl, hkey]⟩
    · exact isHeld_setReleased_of_ne hl hne hheld

theorem waiting_step {s : Service} (h : s.Waiting) {call : Call} (hok : handedOver s call) :
    (s.step call).Waiting := by
  have hrun : ∀ run, (call = .cancel run ∨ call = .take run ∨ call = .enter run ∨
      call = .exit run ∨ call = .leave run) → (s.step call).Waiting := by
    intro run hcall
    rcases runMove_cases s run call hcall with hs | ⟨r, r', hmove⟩
    · rw [hs]
      exact h
    · exact h.runMove hmove
  cases call with
  | admitExecution taskKind requestedTaskId admissionUserId op =>
    show (s.admitExecution taskKind requestedTaskId admissionUserId op).2.Waiting
    have hmove := admitExecution_move s taskKind requestedTaskId admissionUserId op
    generalize (s.admitExecution taskKind requestedTaskId admissionUserId op).2 = s' at hmove ⊢
    cases hmove with
    | refused => exact h
    | wrote kind hcap => exact h.of_held rfl fun _ _ hh => hh
    | admitted kind taskId hcap hid hfree => exact h.of_held rfl fun _ _ hh => isHeld_of_push rfl hh
  | beginDeletion taskKind taskId =>
    show (s.beginDeletion taskKind taskId).2.Waiting
    unfold Service.beginDeletion
    cases TaskKind.parse taskKind with
    | none => exact h
    | some kind =>
      by_cases hb : s.isBlocked (taskKey kind taskId) = true
      · simp only [hb, if_true]
        exact h
      · simp only [hb, Bool.false_eq_true, if_false]
        exact h.of_held rfl fun _ _ hh => hh
  | release lease =>
    exact h.of_held rfl fun r hr hh => isHeld_setReleased_of_ne rfl (hok r hr) hh
  | finishExecution lease =>
    refine h.of_held ?_ fun _ _ hh => isHeld_finishExecution hh
    show (s.finishExecution lease).runs = s.runs
    unfold Service.finishExecution
    cases finishRelease s.leases lease with
    | none => rfl
    | some found => rfl
  | releaseGuard guard => exact h.of_held rfl fun _ _ hh => hh
  | finishDeletion guard =>
    show (s.finishDeletion guard).Waiting
    unfold Service.finishDeletion
    cases finishRelease s.guards guard with
    | none => exact h
    | some found => exact h.of_held rfl fun _ _ hh => hh
  | runAsync lease =>
    obtain ⟨hheld, hnew⟩ := hok
    refine ⟨fun r hr _ _ _ => ?_, ?_⟩
    · rcases List.mem_append.mp hr with hr | hr
      · exact h.held r hr ‹_› ‹_› ‹_›
      · rw [List.mem_singleton.mp hr]
        exact hheld
    · show ((s.runs ++ [_]).map AsyncRun.lease).Nodup
      rw [List.map_append, List.nodup_append]
      refine ⟨h.nodup, by simp, ?_⟩
      intro a ha b hb hab
      obtain ⟨r, hr, rfl⟩ := List.mem_map.mp ha
      have hbl : b = lease := by simpa using hb
      exact hnew r hr (hab.trans hbl)
  | cancel run => exact hrun run (by simp)
  | take run => exact hrun run (by simp)
  | enter run => exact hrun run (by simp)
  | exit run => exact hrun run (by simp)
  | leave run => exact hrun run (by simp)
  | setWorkersStopped stopped => exact h.of_held rfl fun _ _ hh => hh
  | deactivate kind taskId => exact h.of_held rfl fun _ _ hh => hh

/-! ## Capacity -/

theorem lookup_ownersLoop_congr (entries entries' : List (String × Option String))
    (d d' : Dict String (Option String)) (k : String) (hd : d.lookup k = d'.lookup k)
    (h : (entries.filter fun entry => entry.1 = k) = entries'.filter fun entry => entry.1 = k) :
    AList.lookup k (entries.foldl (fun owners entry => owners.insert entry.1 entry.2) d) =
      AList.lookup k (entries'.foldl (fun owners entry => owners.insert entry.1 entry.2) d') := by
  have hfilter : ∀ (entries : List (String × Option String)) (d : Dict String (Option String)),
      AList.lookup k (entries.foldl (fun owners entry => owners.insert entry.1 entry.2) d) =
        (entries.filter fun entry => entry.1 = k).foldl (fun _ entry => some entry.2)
          (d.lookup k) := by
    intro entries
    induction entries with
    | nil => exact fun _ => rfl
    | cons entry entries ih =>
      intro d
      rw [List.foldl_cons, ih, Dict.lookup_insert_eq]
      by_cases hk : entry.1 = k
      · simp [hk]
      · have hk' : ¬ k = entry.1 := fun he => hk he.symm
        simp [hk, hk']
  rw [hfilter, hfilter, hd, h]

theorem filter_activeEntries_writeRow (rows : TaskRows) (kind kind' : TaskKind) (row : TaskRow)
    {k : String} (hk : k ≠ taskKey kind row.taskId) :
    ((activeEntries (writeRow rows kind row) kind').filter fun entry => entry.1 = k) =
      (activeEntries rows kind').filter fun entry => entry.1 = k := by
  by_cases hkind : kind' = kind
  swap
  · have hsame : writeRow rows kind row kind' = rows kind' := by
      simp [writeRow, Function.update_of_ne hkind]
    rw [activeEntries, activeEntries, hsame]
  subst hkind
  unfold activeEntries
  cases hins : (rows kind').insert row with
  | some table =>
    have hrow : writeRow rows kind' row kind' = table := by simp [writeRow, hins]
    have hrows : table.rows = (rows kind').rows ++ [row] := (Table.insert_eq_some.mp hins).2
    rw [hrow, hrows, List.filter_append, List.map_append, List.filter_append]
    have hnil : ((([row].filter fun r => r.status ∈ activeStatuses kind').map fun r =>
        (taskKey kind' r.taskId, r.userId)).filter fun entry => entry.1 = k) = [] := by
      rw [List.filter_eq_nil_iff]
      intro entry hentry
      obtain ⟨r, hr, rfl⟩ := List.mem_map.mp hentry
      have hrr : r = row := List.mem_singleton.mp (List.mem_filter.mp hr).1
      rw [hrr]
      simpa using fun he => hk he.symm
    rw [hnil, List.append_nil]
  | none =>
    have hrow : writeRow rows kind' row kind' =
        (rows kind').update row.taskId row.under (key_under row) := by simp [writeRow, hins]
    have hrows : ((rows kind').update row.taskId row.under (key_under row)).rows =
        (rows kind').rows.map fun r => if r.taskId = row.taskId then row.under r else r := by
      simp [Table.update, Table.updateWhere]
    rw [hrow, hrows]
    induction (rows kind').rows with
    | nil => rfl
    | cons r rs ih =>
      by_cases hr : r.taskId = row.taskId
      · have hne : ¬ taskKey kind' r.taskId = k := fun he => hk (by rw [← he, hr])
        simp only [List.map_cons, hr, if_true, List.filter_cons] at ih ⊢
        have hunder : (row.under r).taskId = r.taskId := rfl
        have hne' : ¬ taskKey kind' row.taskId = k := fun he => hk he.symm
        split_ifs <;> simp [hunder, hr, hne', ih]
      · simp only [List.map_cons, hr, if_false, List.filter_cons] at ih ⊢
        split_ifs <;> simp [List.filter_cons, ih]

theorem lookup_activeTaskOwners_writeRow (rows : TaskRows) (kind : TaskKind) (row : TaskRow)
    {k : String} (hk : k ≠ taskKey kind row.taskId) :
    (activeTaskOwners (writeRow rows kind row)).lookup k = (activeTaskOwners rows).lookup k := by
  refine lookup_ownersLoop_congr _ _ _ _ k rfl ?_
  simp only [List.filter_append, filter_activeEntries_writeRow rows kind _ row hk]

theorem lookup_activeTaskOwners_rowsAfter (op : Operation) (rows : TaskRows) (kind : TaskKind)
    {key k : String} (hwrite : ∀ row, op.write = some row → taskKey kind row.taskId = key)
    (hk : k ≠ key) :
    (activeTaskOwners (op.rowsAfter rows kind)).lookup k = (activeTaskOwners rows).lookup k := by
  unfold Operation.rowsAfter
  cases hop : op.write with
  | none => rfl
  | some row =>
    refine lookup_activeTaskOwners_writeRow rows kind row ?_
    rw [hwrite row hop]
    exact hk

theorem lookup_union_congr {e e' d d' : Dict String (Option String)} {k : String}
    (he : e'.lookup k = e.lookup k) (hd : d'.lookup k = d.lookup k) :
    (e' ∪ d').lookup k = (e ∪ d).lookup k := by
  have hmem : k ∈ e' ↔ k ∈ e := by
    rw [← AList.lookup_isSome, ← AList.lookup_isSome, he]
  by_cases hk : k ∈ e
  · rw [AList.lookup_union_left hk, AList.lookup_union_left (hmem.mpr hk), he]
  · rw [AList.lookup_union_right hk, AList.lookup_union_right (fun h => hk (hmem.mp h)), hd]

/-- The operation writes at most the row of the task it names: the one that is requested, or whose
id it returns. -/
def Operation.namesItsTask (op : Operation) (requestedTaskId : Option String) : Prop :=
  ∀ row taskId, op.write = some row → resolvedTaskId requestedTaskId op.result = some taskId →
    row.taskId = taskId

theorem owners_admit {s s' : Service} {requestedTaskId admissionUserId : Option String}
    {op : Operation} (hnames : op.namesItsTask requestedTaskId)
    (hmove : AdmitMove s requestedTaskId admissionUserId op s') :
    s' = s ∨ (s.assertCapacity admissionUserId = .ok () ∧ s'.globalLimit = s.globalLimit ∧
      s'.perUserLimit = s.perUserLimit ∧
      ∃ key, ∀ k, k ≠ key → s'.owners.lookup k = s.owners.lookup k) := by
  cases hmove with
  | refused => exact Or.inl rfl
  | wrote kind hcap =>
    refine Or.inr ⟨hcap, rfl, rfl, ?_⟩
    cases hop : op.write with
    | none =>
      refine ⟨"", fun k _ => lookup_union_congr rfl ?_⟩
      simp [Operation.rowsAfter, hop]
    | some row =>
      refine ⟨taskKey kind row.taskId, fun k hk => lookup_union_congr rfl ?_⟩
      refine lookup_activeTaskOwners_rowsAfter op s.rows kind ?_ hk
      intro row' hrow'
      have heq : row = row' := Option.some.inj (hop.symm.trans hrow')
      rw [heq]
  | admitted kind taskId hcap hid hfree =>
    refine Or.inr ⟨hcap, rfl, rfl, taskKey kind taskId, fun k hk => lookup_union_congr ?_ ?_⟩
    · rw [Dict.lookup_insert_eq, if_neg hk]
    · refine lookup_activeTaskOwners_rowsAfter op s.rows kind ?_ hk
      intro row hrow
      rw [hnames row taskId hrow hid]

theorem capacity_admit {s s' : Service} {requestedTaskId admissionUserId : Option String}
    {op : Operation} (hnames : op.namesItsTask requestedTaskId)
    (hmove : AdmitMove s requestedTaskId admissionUserId op s') :
    s'.owners.keys.length ≤ max s.owners.keys.length s.globalLimit ∧
      s'.owners.countValue admissionUserId ≤
        max (s.owners.countValue admissionUserId) s.perUserLimit := by
  rcases owners_admit hnames hmove with rfl | ⟨hcap, -, -, key, hagree⟩
  · exact ⟨le_max_left _ _, le_max_left _ _⟩
  · have hkeys := Dict.length_keys_le_succ hagree
    have huser := Dict.countValue_le_succ admissionUserId hagree
    unfold Service.assertCapacity at hcap
    simp only at hcap
    split_ifs at hcap with hglobal hper
    omega

/-! ## Runs -/

theorem exclusive_exec {s : Service} (h : s.Exclusive) (calls : List Call) :
    (exec Service.step s calls).Exclusive :=
  exec_invariant (fun s call (hs : s.Exclusive) _ => exclusive_step hs call) h
    (Admits.of_forall (p := fun _ => True) fun _ _ => trivial)

theorem waiting_exec {s : Service} (h : s.Waiting) {calls : List Call}
    (hok : Admits Service.step handedOver s calls) : (exec Service.step s calls).Waiting :=
  exec_invariant (fun s _ (hs : s.Waiting) hc => waiting_step hs hc) h hok

/-- After any steps: no key is both executing and deleting; two unreleased leases have different
keys; the entry of an unreleased lease is in its registry, whatever was released; an admission
raises neither count above its limit; and, if leases are handed over, the operation of a run
starts only while its lease is unreleased. -/
theorem admission_exclusive_bounded (globalLimit perUserLimit : Nat) (rows : TaskRows)
    (calls : List Call) :
    let s := exec Service.step (Service.new globalLimit perUserLimit rows) calls
    (∀ key, ¬ (key ∈ s.executing ∧ key ∈ s.deleting)) ∧
    (∀ (i j : Nat) (key : String), s.leases[i]? = some ⟨key, .held⟩ →
      s.leases[j]? = some ⟨key, .held⟩ → i = j) ∧
    (∀ (i : Nat) (key : String), s.leases[i]? = some ⟨key, .held⟩ → key ∈ s.executing) ∧
    (∀ taskKind requestedTaskId admissionUserId op, op.namesItsTask requestedTaskId →
      let s' := s.step (.admitExecution taskKind requestedTaskId admissionUserId op)
      s'.owners.keys.length ≤ max s.owners.keys.length s.globalLimit ∧
        s'.owners.countValue admissionUserId ≤
          max (s.owners.countValue admissionUserId) s.perUserLimit) ∧
    (Admits Service.step handedOver (Service.new globalLimit perUserLimit rows) calls →
      ∀ r ∈ s.runs, r.starts = true → s.isHeld r.lease) := by
  intro s
  have hex : s.Exclusive := exclusive_exec (exclusive_new globalLimit perUserLimit rows) calls
  refine ⟨?_, ?_, ?_, ?_, ?_⟩
  · rintro key ⟨hexec, hdel⟩
    exact hex.disjoint key hexec hdel
  · intro i j key hi hj
    exact hex.leases.unique i j _ _ hi hj (by simp) (by simp) rfl
  · intro i key hi
    exact hex.leases.mem i _ hi (by simp)
  · intro taskKind requestedTaskId admissionUserId op hnames
    exact capacity_admit hnames (admitExecution_move s taskKind requestedTaskId admissionUserId op)
  · intro hok r hr hstarts
    have hwait : s.Waiting := waiting_exec (waiting_new globalLimit perUserLimit rows) hok
    simp only [AsyncRun.starts, Bool.and_eq_true, decide_eq_true_eq, Bool.not_eq_true'] at hstarts
    obtain ⟨⟨hf, hst⟩, hab⟩ := hstarts
    exact hwait.held r hr (by simp [hf]) hst hab

/-- A lease that is released by its submitter while its run waits for a worker: the operation starts
without a lease. And an operation that activates the task of another user and is then refused: the
count of that user passes the limit. -/
theorem released_run_starts :
    (let op : Operation := ⟨some ⟨"a", some "u", .pending⟩, .dict (some "a")⟩
      let s := exec Service.step (Service.new 2 1 fun _ => Table.empty)
        [.admitExecution "training" none (some "u") op, .runAsync 0, .take 0, .release 0,
          .finishExecution 0]
      s.runs.map AsyncRun.starts = [true] ∧ s.leases = [⟨"training:a", .released⟩]) ∧
    (let op : Operation := ⟨some ⟨"b", some "v", .pending⟩, .dict (some "b")⟩
      let op' : Operation := ⟨some ⟨"c", some "v", .pending⟩, .refused⟩
      let s := exec Service.step (Service.new 3 1 fun _ => Table.empty)
        [.admitExecution "training" none (some "v") op]
      let s' := s.step (.admitExecution "training" (some "c") (some "u") op')
      op'.namesItsTask (some "c") ∧ s.owners.countValue (some "v") = s.perUserLimit ∧
        s'.owners.countValue (some "v") = s.perUserLimit + 1) := by
  refine ⟨by decide, ?_, by decide, by decide⟩
  intro row taskId hrow hid
  have hr : (⟨"c", some "v", .pending⟩ : TaskRow) = row := Option.some.inj hrow
  have ht : "c" = taskId := Option.some.inj hid
  rw [← hr, ← ht]

end Admission
