import TrainFactory.Deployment.Recovery
import TrainFactory.Lib.Run
import TrainFactory.Lib.Result

/-!
# The claim is a fence

A session of the claim protocol leaves the fence of the deployment as it is, renews its heartbeat,
releases it, or grants it anew under the next generation. From this: generations rise, what a former
owner or an outdated observation writes has no effect, and a claim is taken over only if its
heartbeat has stayed older than the lease.
-/

namespace Deployment

open Lib

variable {g g' : Group} {t : TimedOp}

/-! ## What a session does to the fence -/

/-- `heartbeat_at or started_at`. -/
def DeploymentRow.lastSign (d : DeploymentRow) : Option Nat :=
  d.replicaOperationHeartbeatAt <|> d.replicaOperationStartedAt

/-- What a session does to the claim columns, and the claims that it grants. -/
inductive FenceStep (now : Nat) (d d' : DeploymentRow) : List Claim → Prop where
  | same (htoken : d'.replicaOperationToken = d.replicaOperationToken)
      (hgeneration : d'.replicaOperationGeneration = d.replicaOperationGeneration)
      (hsign : d'.lastSign = d.lastSign) : FenceStep now d d' []
  | beat (htoken : d'.replicaOperationToken = d.replicaOperationToken)
      (hgeneration : d'.replicaOperationGeneration = d.replicaOperationGeneration)
      (hsign : d'.lastSign = some now) : FenceStep now d d' []
  | release (htoken : d'.replicaOperationToken = none)
      (hgeneration : d'.replicaOperationGeneration = d.replicaOperationGeneration) :
      FenceStep now d d' []
  | grant (claim : Claim) (htoken : d'.replicaOperationToken = some claim.token)
      (hgeneration : d'.replicaOperationGeneration = d.replicaOperationGeneration + 1)
      (hclaim : claim.generation = d.replicaOperationGeneration + 1) : FenceStep now d d' [claim]

theorem FenceStep.refl (now : Nat) (d : DeploymentRow) : FenceStep now d d [] := .same rfl rfl rfl

theorem tryClaim_ok {args : ClaimRequest} {result : Option Claim × Group}
    (h : tryClaim args g = .ok result) :
    result = (none, g) ∨ ∃ gpuId, result =
      (some ⟨args.token, g.deployment.replicaOperationGeneration + 1, args.operation,
        args.replicaId⟩,
      g.withDeployment fun d =>
        claimed args.token args.operation args.replicaId args.claimedAt { d with gpuId }) := by
  obtain ⟨_, -, h⟩ := bind_eq_ok.mp h
  obtain ⟨_, -, h⟩ := bind_eq_ok.mp h
  obtain ⟨_, -, h⟩ := bind_eq_ok.mp h
  obtain ⟨gpuId, -, h⟩ := bind_eq_ok.mp h
  split_ifs at h
  · exact Or.inl (pure_eq_ok.mp h).symm
  · exact Or.inr ⟨gpuId, (pure_eq_ok.mp h).symm⟩

theorem observedDeployment_ok {observation : Observation} {now : Nat} {d d' : DeploymentRow}
    (h : observedDeployment observation now d = .ok d') :
    d'.replicaOperationToken = d.replicaOperationToken ∧
      d'.replicaOperationGeneration = d.replicaOperationGeneration := by
  unfold observedDeployment at h
  split at h
  · obtain rfl := Except.ok.inj h
    exact ⟨rfl, rfl⟩
  · obtain ⟨-, h⟩ := ite_error_eq_ok.mp h
    obtain rfl := Except.ok.inj h
    exact ⟨rfl, rfl⟩

theorem takeStaleClaim_ok {stale : StaleClaim} {observation : Observation} {recoveryToken : String}
    {observedAt now : Nat} {result : Option Claim × Group}
    (h : takeStaleClaim stale observation recoveryToken observedAt now g = .ok result) :
    result = (none, g) ∨ StillStale stale observedAt g.deployment ∧
      result.1 = some ⟨recoveryToken, g.deployment.replicaOperationGeneration + 1, .recover, none⟩ ∧
      result.2.deployment.replicaOperationToken = some recoveryToken ∧
      result.2.deployment.replicaOperationGeneration =
        g.deployment.replicaOperationGeneration + 1 := by
  unfold takeStaleClaim at h
  by_cases hstale : StillStale stale observedAt g.deployment
  · rw [if_neg (not_not.mpr hstale)] at h
    dsimp only at h
    split at h
    · exact Or.inl (Except.ok.inj h).symm
    · split_ifs at h
      · obtain rfl := Except.ok.inj h
        exact Or.inr ⟨hstale, by rw [hstale.2.1], rfl, rfl⟩
      · split at h
        · exact Or.inl (Except.ok.inj h).symm
        · obtain ⟨d, hd, h⟩ := bind_eq_ok.mp h
          obtain rfl := Except.ok.inj h
          have hsame := observedDeployment_ok hd
          exact Or.inr ⟨hstale, by rw [hstale.2.1], hsame.1, hsame.2⟩
  · rw [if_pos hstale] at h
    exact Or.inl (Except.ok.inj h).symm

theorem legacyStatusSyncValues_ok {snapshot d d' : DeploymentRow} {status : Option DeploymentStatus}
    {errorMessage : ProbeMessage} {now : Nat}
    (h : legacyStatusSyncValues snapshot status errorMessage now d = .ok d') :
    d'.replicaOperationToken = d.replicaOperationToken ∧
      d'.replicaOperationGeneration = d.replicaOperationGeneration ∧ d'.lastSign = d.lastSign := by
  obtain ⟨-, h⟩ := ite_error_eq_ok.mp h
  obtain rfl := Except.ok.inj h
  exact ⟨rfl, rfl, rfl⟩

theorem committed_plain (g : Group) (result : Except DeploymentError Group) :
    committed g (plain result) = g ∨ ∃ g', result = .ok g' ∧ committed g (plain result) = g' := by
  cases result with
  | error e => exact Or.inl rfl
  | ok g' => exact Or.inr ⟨g', rfl, rfl⟩

theorem step_fence (g : Group) (t : TimedOp) :
    FenceStep t.now g.deployment (stepClaims g t).deployment (grants g t) := by
  obtain ⟨op, now⟩ := t
  cases op with
  | tryClaim args =>
    simp only [stepClaims, grants]
    cases hok : tryClaim args g with
    | error e => exact .refl _ _
    | ok result =>
      rcases tryClaim_ok hok with rfl | ⟨gpuId, rfl⟩
      · exact .refl _ _
      · exact .grant _ rfl rfl rfl
  | heartbeat claim =>
    simp only [stepClaims, grants, heartbeatReplicaOperation]
    split_ifs
    · exact .beat rfl rfl rfl
    · exact .refl _ _
  | requireOwnership claim =>
    simp only [stepClaims, grants, requireReplicaOperationOwnership]
    split_ifs
    · exact .beat rfl rfl rfl
    · exact .refl _ _
  | release claim =>
    simp only [stepClaims, grants, releaseReplicaOperation]
    split_ifs
    · exact .release rfl rfl
    · exact .refl _ _
  | takeStale stale observation recoveryToken observedAt =>
    simp only [stepClaims, grants]
    cases hok : takeStaleClaim stale observation recoveryToken observedAt now g with
    | error e => exact .refl _ _
    | ok result =>
      rcases takeStaleClaim_ok hok with rfl | ⟨-, hclaim, htoken, hgeneration⟩
      · exact .refl _ _
      · obtain ⟨granted, g'⟩ := result
        obtain rfl := hclaim
        exact .grant _ htoken hgeneration rfl
  | markUnloaded claim replicaId =>
    simp only [stepClaims, grants, markAdaptersUnloadedAfterRuntimeReset]
    split_ifs
    · exact .refl _ _
    · exact .beat rfl rfl rfl
    · exact .refl _ _
  | writeState claim replicaId state =>
    simp only [stepClaims, grants, writeReplicaState]
    split_ifs <;> exact .refl _ _
  | refreshGroup claim =>
    simp only [stepClaims, grants]
    rcases committed_plain g (refreshGroupStatus claim now g) with hsame | ⟨g', hok, hsame⟩
    · rw [hsame]
      exact .refl _ _
    · rw [hsame]
      obtain ⟨status, -, hok⟩ := bind_eq_ok.mp hok
      split_ifs at hok
      obtain rfl := Except.ok.inj hok
      exact .same rfl rfl rfl
  | syncReplica replicaId generation state =>
    simp only [stepClaims, grants, writeReplicaSyncState]
    split_ifs <;> exact .refl _ _
  | syncGroup generation =>
    simp only [stepClaims, grants]
    cases hok : syncGroupStatus generation now g with
    | error e => exact .refl _ _
    | ok result =>
      obtain ⟨status, -, hok⟩ := bind_eq_ok.mp hok
      split_ifs at hok
      · obtain rfl := pure_eq_ok.mp hok
        exact .same rfl rfl rfl
      · obtain rfl := pure_eq_ok.mp hok
        exact .refl _ _
  | syncLegacy snapshot status errorMessage =>
    simp only [stepClaims, grants]
    cases hok : writeLegacyStatusSyncState snapshot status errorMessage now g with
    | error e => exact .refl _ _
    | ok result =>
      obtain ⟨d, hd, hok⟩ := bind_eq_ok.mp hok
      split_ifs at hok
      · obtain rfl := pure_eq_ok.mp hok
        obtain ⟨htoken, hgeneration, hsign⟩ := legacyStatusSyncValues_ok hd
        exact .same htoken hgeneration hsign
      · obtain rfl := pure_eq_ok.mp hok
        exact .refl _ _

/-! ## Generations -/

section FenceStep

variable {now : Nat} {d d' : DeploymentRow} {granted : List Claim}

theorem FenceStep.generation_le (h : FenceStep now d d' granted) :
    d.replicaOperationGeneration ≤ d'.replicaOperationGeneration := by
  cases h <;> omega

theorem FenceStep.generation_of_granted (h : FenceStep now d d' granted) :
    ∀ claim ∈ granted, d.replicaOperationGeneration < claim.generation ∧
      claim.generation ≤ d'.replicaOperationGeneration := by
  cases h with
  | same htoken hgeneration hsign => simp
  | beat htoken hgeneration hsign => simp
  | release htoken hgeneration => simp
  | grant claim htoken hgeneration hclaim =>
    intro claim' hclaim'
    obtain rfl := List.mem_singleton.mp hclaim'
    omega

theorem FenceStep.rising (h : FenceStep now d d' granted) :
    (granted.map Claim.generation).Pairwise (· < ·) := by
  cases h <;> simp

theorem FenceStep.token_kept (h : FenceStep now d d' granted)
    (hgeneration : d'.replicaOperationGeneration = d.replicaOperationGeneration)
    (htoken : d'.replicaOperationToken ≠ none) :
    d'.replicaOperationToken = d.replicaOperationToken ∧
      (d'.lastSign = d.lastSign ∨ d'.lastSign = some now) := by
  cases h with
  | same htoken' hgeneration' hsign => exact ⟨htoken', Or.inl hsign⟩
  | beat htoken' hgeneration' hsign => exact ⟨htoken', Or.inr hsign⟩
  | release htoken' hgeneration' => exact absurd htoken' htoken
  | grant claim htoken' hgeneration' hclaim => omega

end FenceStep

/-- The counter of the fence. -/
def Group.generation (g : Group) : Nat := g.deployment.replicaOperationGeneration

theorem generation_step (g : Group) (t : TimedOp) : g.generation ≤ (stepClaims g t).generation :=
  (step_fence g t).generation_le

theorem generation_of_granted (g : Group) (t : TimedOp) :
    ∀ claim ∈ grants g t,
      g.generation < claim.generation ∧ claim.generation ≤ (stepClaims g t).generation :=
  (step_fence g t).generation_of_granted

theorem lost_step {claim : Claim} (hle : claim.generation ≤ g.generation) (hlost : ¬ Holds g claim) :
    ¬ Holds (stepClaims g t) claim := by
  rintro ⟨htoken, hgeneration⟩
  have hrise := generation_step g t
  unfold Group.generation at hle hrise
  have hsame : (stepClaims g t).deployment.replicaOperationGeneration =
      g.deployment.replicaOperationGeneration := by omega
  have hkept := (step_fence g t).token_kept hsame (by simp [htoken])
  exact hlost ⟨hkept.1.symm.trans htoken, hsame.symm.trans hgeneration⟩

theorem lost_run {claim : Claim} (hle : claim.generation ≤ g.generation) (hlost : ¬ Holds g claim)
    (ops : List TimedOp) : ¬ Holds (exec stepClaims g ops) claim := by
  induction ops generalizing g with
  | nil => exact hlost
  | cons t ops ih => exact ih (Nat.le_trans hle (generation_step g t)) (lost_step hle hlost)

/-! ## Writes without effect -/

def ClaimOp.claim? : ClaimOp → Option Claim
  | .heartbeat claim => some claim
  | .requireOwnership claim => some claim
  | .release claim => some claim
  | .markUnloaded claim _ => some claim
  | .writeState claim _ _ => some claim
  | .refreshGroup claim => some claim
  | _ => none

def ClaimOp.observedGeneration? : ClaimOp → Option Nat
  | .syncReplica _ generation _ => some generation
  | .syncGroup generation => some generation
  | .syncLegacy snapshot _ _ => some snapshot.replicaOperationGeneration
  | _ => none

theorem step_of_not_holds {claim : Claim} (hclaim : t.op.claim? = some claim)
    (hlost : ¬ Holds g claim) : stepClaims g t = g := by
  have hexact : ¬ HoldsExactly g claim := fun h => hlost h.1
  obtain ⟨op, now⟩ := t
  cases op <;> simp only [ClaimOp.claim?, Option.some.injEq, reduceCtorEq] at hclaim <;>
    subst hclaim
  case heartbeat => simp [stepClaims, heartbeatReplicaOperation, hexact]
  case requireOwnership =>
    simp [stepClaims, requireReplicaOperationOwnership, hexact, plain, committed, Except.map]
  case release => simp [stepClaims, releaseReplicaOperation, hexact]
  case markUnloaded =>
    simp [stepClaims, markAdaptersUnloadedAfterRuntimeReset, hexact, plain, committed, Except.map]
  case writeState =>
    simp [stepClaims, writeReplicaState, hlost, plain, committed, Except.map]
  case refreshGroup claim =>
    simp only [stepClaims]
    rcases committed_plain g (refreshGroupStatus claim now g) with hsame | ⟨g', hok, -⟩
    · exact hsame
    · obtain ⟨status, -, hok⟩ := bind_eq_ok.mp hok
      rw [if_neg hlost] at hok
      exact absurd hok (by simp)

theorem step_of_not_unclaimed {generation : Nat}
    (hgeneration : t.op.observedGeneration? = some generation) (hclaimed : ¬ Unclaimed g generation) :
    stepClaims g t = g := by
  obtain ⟨op, now⟩ := t
  cases op <;> simp only [ClaimOp.observedGeneration?, Option.some.injEq, reduceCtorEq] at hgeneration <;>
    subst hgeneration
  case syncReplica => simp [stepClaims, writeReplicaSyncState, hclaimed]
  case syncGroup =>
    simp only [stepClaims]
    cases hok : syncGroupStatus _ now g with
    | error e => rfl
    | ok result =>
      obtain ⟨status, -, hok⟩ := bind_eq_ok.mp hok
      rw [if_neg hclaimed] at hok
      obtain rfl := pure_eq_ok.mp hok
      rfl
  case syncLegacy snapshot status errorMessage =>
    simp only [stepClaims]
    cases hok : writeLegacyStatusSyncState snapshot status errorMessage now g with
    | error e => rfl
    | ok result =>
      obtain ⟨d, -, hok⟩ := bind_eq_ok.mp hok
      have hnot : ¬ (Unclaimed g snapshot.replicaOperationGeneration ∧
          SameProbe snapshot g.deployment) := fun h => hclaimed h.1
      rw [if_neg hnot] at hok
      obtain rfl := pure_eq_ok.mp hok
      rfl

/-! ## The heartbeat of a claim that is taken over -/

def OlderThanLease (g : Group) (observedAt : Nat) : Prop :=
  ∃ sign, g.deployment.lastSign = some sign ∧ sign + replicaOperationLease < observedAt

/-- The claim columns that a takeover requires to be unchanged. -/
def SameClaim (g g' : Group) : Prop :=
  g'.deployment.replicaOperationToken = g.deployment.replicaOperationToken ∧
    g'.generation = g.generation

theorem sameClaim_cons {ops : List TimedOp} (htoken : g.deployment.replicaOperationToken ≠ none)
    (h : SameClaim g (exec stepClaims g (t :: ops))) :
    SameClaim g (stepClaims g t) ∧ SameClaim (stepClaims g t) (exec stepClaims g (t :: ops)) ∧
      ((stepClaims g t).deployment.lastSign = g.deployment.lastSign ∨
        (stepClaims g t).deployment.lastSign = some t.now) := by
  obtain ⟨htoken', hgeneration'⟩ := h
  have hrest : (stepClaims g t).generation ≤ (exec stepClaims g (t :: ops)).generation :=
    rank_le_exec generation_step (stepClaims g t) ops
  have hfirst := generation_step g t
  have hgeneration : (stepClaims g t).generation = g.generation := by omega
  have hsome : (stepClaims g t).deployment.replicaOperationToken ≠ none := by
    -- without a token, none comes back under the same generation
    intro hnone
    obtain ⟨token, htokenSome⟩ := Option.ne_none_iff_exists'.mp htoken
    have hlost : ¬ Holds (stepClaims g t) ⟨token, g.generation, .recover, none⟩ := by
      rintro ⟨hheld, -⟩
      rw [hnone] at hheld
      exact absurd hheld (by simp)
    exact lost_run (Nat.le_of_eq hgeneration.symm) hlost ops
      ⟨htoken'.trans htokenSome, hgeneration'⟩
  obtain ⟨hkept, hsign⟩ := (step_fence g t).token_kept hgeneration hsome
  exact ⟨⟨hkept, hgeneration⟩, ⟨htoken'.trans hkept.symm, hgeneration'.trans hgeneration.symm⟩,
    hsign⟩

theorem sign_run {ops : List TimedOp} {sign : Nat}
    (htoken : g.deployment.replicaOperationToken ≠ none)
    (hsame : SameClaim g (exec stepClaims g ops)) (hsign : g.deployment.lastSign = some sign)
    (hclock : ∀ t ∈ ops, sign ≤ t.now) (hrising : (ops.map TimedOp.now).Pairwise (· ≤ ·)) :
    ∃ sign', (exec stepClaims g ops).deployment.lastSign = some sign' ∧ sign ≤ sign' := by
  induction ops generalizing g sign with
  | nil => exact ⟨sign, hsign, Nat.le_refl _⟩
  | cons t ops ih =>
    obtain ⟨hfirst, hrest, hsign'⟩ := sameClaim_cons htoken hsame
    have htoken' : (stepClaims g t).deployment.replicaOperationToken ≠ none :=
      hfirst.1.symm ▸ htoken
    obtain ⟨hlater, hrising'⟩ := List.pairwise_cons.mp hrising
    have hnow := hclock t (List.mem_cons_self ..)
    rcases hsign' with hkept | hbeat
    · exact ih htoken' hrest (hkept.trans hsign)
        (fun t' ht' => hclock t' (List.mem_cons_of_mem _ ht')) hrising'
    · obtain ⟨sign', hend, hle⟩ := ih htoken' hrest hbeat
        (fun t' ht' => hlater t'.now (List.mem_map_of_mem ht')) hrising'
      exact ⟨sign', hend, by omega⟩

/-- A claim whose last sign is older than the lease before a run and after it, was it throughout the
run, under a clock that does not run back. -/
theorem older_run {ops : List TimedOp} {observedAt : Nat}
    (htoken : g.deployment.replicaOperationToken ≠ none)
    (hsame : SameClaim g (exec stepClaims g ops)) (holder : OlderThanLease g observedAt)
    (hend : OlderThanLease (exec stepClaims g ops) observedAt)
    (hrising : (ops.map TimedOp.now).Pairwise (· ≤ ·)) {done rest : List TimedOp}
    (hsplit : ops = done ++ rest) : OlderThanLease (exec stepClaims g done) observedAt := by
  induction done generalizing g ops with
  | nil => exact holder
  | cons t done ih =>
    subst hsplit
    obtain ⟨hfirst, hrest, hsign⟩ := sameClaim_cons htoken hsame
    have htoken' : (stepClaims g t).deployment.replicaOperationToken ≠ none :=
      hfirst.1.symm ▸ htoken
    obtain ⟨hlater, hrising'⟩ := List.pairwise_cons.mp hrising
    refine ih htoken' hrest ?_ hend hrising' rfl
    rcases hsign with hkept | hbeat
    · obtain ⟨sign, hsign, hlt⟩ := holder
      exact ⟨sign, hkept.trans hsign, hlt⟩
    · obtain ⟨sign', hfinal, hle⟩ := sign_run htoken' hrest hbeat
        (fun t' ht' => hlater t'.now (List.mem_map_of_mem ht')) hrising'
      obtain ⟨sign, hsign, hlt⟩ := hend
      obtain rfl := Option.some.inj (hsign.symm.trans hfinal)
      exact ⟨t.now, hbeat, by omega⟩

theorem readStaleClaim_ok {userId : Option String} {observedAt : Nat} {stale : StaleClaim}
    (h : readStaleClaim userId observedAt g = .ok (some stale)) :
    stale.oldToken = g.deployment.replicaOperationToken ∧ stale.oldGeneration = g.generation ∧
      g.deployment.replicaOperationToken ≠ none ∧ OlderThanLease g observedAt := by
  obtain ⟨_, -, h⟩ := bind_eq_ok.mp h
  by_cases hstale : claimIsStale g.deployment observedAt = true
  · rw [if_neg (not_not.mpr hstale)] at h
    obtain rfl := Option.some.inj (pure_eq_ok.mp h)
    simp only [claimIsStale, Bool.and_eq_true] at hstale
    obtain ⟨htoken, hsign⟩ := hstale
    obtain ⟨token, hsome, -⟩ := truthy_eq_true.mp htoken
    obtain ⟨sign, hlast, hlt⟩ := (Option.any_eq_true _ _).mp hsign
    exact ⟨rfl, rfl, by simp [hsome], sign, hlast, by simpa using hlt⟩
  · rw [if_pos hstale] at h
    exact absurd (pure_eq_ok.mp h) (by simp)

theorem olderThanLease_of_staleClock {stale : StaleClaim} {observedAt : Nat}
    (h : staleClock stale observedAt g.deployment = true) : OlderThanLease g observedAt := by
  unfold staleClock at h
  split_ifs at h
  · simp only [Bool.and_eq_true, Option.isNone_iff_eq_none] at h
    obtain ⟨hnone, hstarted⟩ := h
    obtain ⟨sign, hsign, hlt⟩ := (Option.any_eq_true _ _).mp hstarted
    refine ⟨sign, ?_, by simpa using hlt⟩
    simp [DeploymentRow.lastSign, hnone, hsign]
  · obtain ⟨sign, hsign, hlt⟩ := (Option.any_eq_true _ _).mp h
    refine ⟨sign, ?_, by simpa using hlt⟩
    simp [DeploymentRow.lastSign, hsign]

theorem stillStale_of_grants {stale : StaleClaim} {observation : Observation}
    {recoveryToken : String} {observedAt : Nat}
    (hop : t.op = .takeStale stale observation recoveryToken observedAt) (hgrants : grants g t ≠ []) :
    StillStale stale observedAt g.deployment := by
  simp only [grants, hop] at hgrants
  cases hok : takeStaleClaim stale observation recoveryToken observedAt t.now g with
  | error e => exact absurd rfl (hok ▸ hgrants)
  | ok result =>
    rw [hok] at hgrants
    rcases takeStaleClaim_ok hok with rfl | ⟨hstale, -⟩
    · exact absurd rfl hgrants
    · exact hstale

/-! ## The fence over whole runs -/

def Exclusive (g : Group) : Prop :=
  ∀ claim claim', Holds g claim → Holds g claim' →
    claim.token = claim'.token ∧ claim.generation = claim'.generation

/-- The claims that a run grants are numbered in strictly rising order, above the generation
before it. -/
def GenerationsRise (g : Group) (ops : List TimedOp) : Prop :=
  ((events stepClaims grants g ops).map Claim.generation).Pairwise (· < ·) ∧
    ∀ claim ∈ events stepClaims grants g ops, g.generation < claim.generation ∧
      claim.generation ≤ (exec stepClaims g ops).generation

/-- Once a claim that `before` has granted is not held any more, nothing written under it has an
effect, whatever happens in `after`. -/
def FormerOwnersFenced (g : Group) (before after : List TimedOp) : Prop :=
  ∀ claim ∈ events stepClaims grants g before, ¬ Holds (exec stepClaims g before) claim →
    ∀ t : TimedOp, t.op.claim? = some claim →
      stepClaims (exec stepClaims g (before ++ after)) t = exec stepClaims g (before ++ after)

/-- A claim that is read as stale after `before` and taken over after `after` is the same one, its
heartbeat is older than the lease at both moments, and between them if the clock does not run
back. -/
def TakenOverWhileStale (g : Group) (before after : List TimedOp) : Prop :=
  let g₁ := exec stepClaims g before
  let g₂ := exec stepClaims g (before ++ after)
  ∀ userId observedAt stale observation recoveryToken now,
    readStaleClaim userId observedAt g₁ = .ok (some stale) →
    grants g₂ ⟨.takeStale stale observation recoveryToken observedAt, now⟩ ≠ [] →
    SameClaim g₁ g₂ ∧ OlderThanLease g₁ observedAt ∧ OlderThanLease g₂ observedAt ∧
      ((after.map TimedOp.now).Pairwise (· ≤ ·) → ∀ done rest, after = done ++ rest →
        OlderThanLease (exec stepClaims g (before ++ done)) observedAt)

def ObservationsFenced (g : Group) (before after : List TimedOp) : Prop :=
  let g₁ := exec stepClaims g before
  let g₂ := exec stepClaims g (before ++ after)
  ∀ generation, (syncSnapshot g₁ = some generation ∨
      ∃ snapshot, legacySyncSnapshot g₁ = some snapshot ∧
        snapshot.replicaOperationGeneration = generation) →
    events stepClaims grants g₁ after ≠ [] →
    ∀ t : TimedOp, t.op.observedGeneration? = some generation → stepClaims g₂ t = g₂

theorem exclusive (g : Group) : Exclusive g := by
  rintro claim claim' ⟨htoken, hgeneration⟩ ⟨htoken', hgeneration'⟩
  exact ⟨Option.some.inj (htoken.symm.trans htoken'), hgeneration.symm.trans hgeneration'⟩

theorem generationsRise (g : Group) (ops : List TimedOp) : GenerationsRise g ops :=
  ⟨events_rising generation_step generation_of_granted (fun g t => (step_fence g t).rising) g ops,
    fun _ hclaim => number_of_mem_events generation_step generation_of_granted hclaim⟩

theorem formerOwnersFenced (g : Group) (before after : List TimedOp) :
    FormerOwnersFenced g before after := by
  intro claim hclaim hlost t hop
  rw [exec_append]
  exact step_of_not_holds hop (lost_run ((generationsRise g before).2 claim hclaim).2 hlost after)

theorem takenOverWhileStale (g : Group) (before after : List TimedOp) :
    TakenOverWhileStale g before after := by
  intro userId observedAt stale observation recoveryToken now hread hgrants
  have hrun : exec stepClaims g (before ++ after) =
      exec stepClaims (exec stepClaims g before) after := exec_append g before after
  rw [hrun] at hgrants ⊢
  obtain ⟨hold, hgeneration, htoken, holder⟩ := readStaleClaim_ok hread
  have hstale := stillStale_of_grants rfl hgrants
  have hsame : SameClaim (exec stepClaims g before)
      (exec stepClaims (exec stepClaims g before) after) :=
    ⟨hstale.1.trans hold, hstale.2.1.trans hgeneration⟩
  have hend := olderThanLease_of_staleClock hstale.2.2
  refine ⟨hsame, holder, hend, fun hclock done rest hsplit => ?_⟩
  rw [exec_append]
  exact older_run htoken hsame holder hend hclock hsplit

theorem observationsFenced (g : Group) (before after : List TimedOp) :
    ObservationsFenced g before after := by
  intro generation hsnapshot hgranted t hop
  have hgeneration : (exec stepClaims g before).generation = generation := by
    rcases hsnapshot with hsnapshot | ⟨snapshot, hsnapshot, rfl⟩
    · unfold syncSnapshot at hsnapshot
      split_ifs at hsnapshot
      exact Option.some.inj hsnapshot
    · unfold legacySyncSnapshot at hsnapshot
      split_ifs at hsnapshot
      obtain rfl := Option.some.inj hsnapshot
      rfl
  obtain ⟨claim, hclaim⟩ := List.exists_mem_of_ne_nil _ hgranted
  obtain ⟨hlt, hle⟩ := (generationsRise (exec stepClaims g before) after).2 claim hclaim
  refine step_of_not_unclaimed hop fun hunclaimed => ?_
  have hsame : (exec stepClaims g (before ++ after)).generation = generation := hunclaimed.2
  rw [exec_append] at hsame
  omega

/-- The claim of a deployment operation is exclusive and fences former owners and outdated
observations, whatever the sessions of a run are. -/
theorem replica_operations_fenced (g : Group) (before after : List TimedOp) :
    Exclusive (exec stepClaims g before) ∧ GenerationsRise g before ∧
      FormerOwnersFenced g before after ∧ TakenOverWhileStale g before after ∧
      ObservationsFenced g before after :=
  ⟨exclusive _, generationsRise g before, formerOwnersFenced g before after,
    takenOverWhileStale g before after, observationsFenced g before after⟩

end Deployment
