import TrainFactory.Deployment.Adapters

/-!
# Adapters on a replica: what a load serves

The invariant of a replica: every adapter that the runtime serves has a row, and no name has two
loaded rows. A load can go wrong in the shortcut for names that are loaded already, which compares no
path and takes names for equal that the runtime tells apart, at an adapter of the runtime without an
active row, and in the count of the loaded rows, which leaves out the rows that are loading.
-/

namespace Deployment

open Lib

variable {host : AdapterHost} {s : ReplicaAdapters} {request : LoadRequest} {env : LoadEnv}
  {name path : String} {runtime : Runtime}

/-! ## Calls to the runtime -/

/-- The recovery of a load, or an unload, takes it that the adapter is gone. -/
def VerifiesAbsence (runtime : Runtime) (name : String) (unload : CallOutcome) (listed : Bool) :
    Prop :=
  unload = .succeeds ∨ listed = true ∧ (unload = .failsAfter ∨ name ∉ runtime)

theorem verifyRuntimeAdapterAbsence_iff (unload : CallOutcome) (listed : Bool) :
    (verifyRuntimeAdapterAbsence runtime name unload listed).2 = true ↔
      VerifiesAbsence runtime name unload listed := by
  cases unload with
  | succeeds => simp [verifyRuntimeAdapterAbsence, unloadLoraAdapter, VerifiesAbsence]
  | failsAfter => simp [verifyRuntimeAdapterAbsence, unloadLoraAdapter, VerifiesAbsence]
  | failsBefore =>
    simp only [verifyRuntimeAdapterAbsence, unloadLoraAdapter, VerifiesAbsence]
    cases listed <;> simp
    exact decide_eq_true_iff

theorem erase_of_notMem (h : name ∉ runtime) : runtime.erase name = runtime := by
  apply AList.ext
  rw [AList.mem_keys] at h
  exact List.kerase_of_notMem_keys h

theorem runtime_of_verifiesAbsence {unload : CallOutcome} {listed : Bool}
    (h : VerifiesAbsence runtime name unload listed) :
    (verifyRuntimeAdapterAbsence runtime name unload listed).1 = runtime.erase name := by
  cases unload with
  | succeeds => rfl
  | failsAfter => rfl
  | failsBefore =>
    have hmem : name ∉ runtime := by simpa [VerifiesAbsence] using (h.resolve_left nofun).2
    exact (erase_of_notMem hmem).symm

theorem verifyRuntimeAdapterAbsence_runtime (unload : CallOutcome) (listed : Bool) :
    (verifyRuntimeAdapterAbsence runtime name unload listed).1 = runtime ∨
      (verifyRuntimeAdapterAbsence runtime name unload listed).1 = runtime.erase name := by
  cases unload with
  | succeeds => exact Or.inr rfl
  | failsAfter => exact Or.inr rfl
  | failsBefore => exact Or.inl rfl

theorem loadRuntimeWithReconciliation_runtime (load : CallOutcome) (listed : Bool) :
    (loadRuntimeWithReconciliation host runtime name path load listed).1 =
      (loadLoraAdapter runtime name path load).1 := by
  unfold loadRuntimeWithReconciliation
  dsimp only
  split_ifs <;> rfl

theorem loadRuntimeWithReconciliation_of_effect (hmem : name ∉ runtime) (hname : name ≠ "")
    {load : CallOutcome} (hload : load ≠ .failsBefore) (listed : Bool) :
    (loadRuntimeWithReconciliation host runtime name path load listed).1 =
      runtime.insert name path := by
  rw [loadRuntimeWithReconciliation_runtime]
  cases load with
  | succeeds => simp [loadLoraAdapter, Runtime.add, hname, hmem]
  | failsBefore => exact absurd rfl hload
  | failsAfter => simp [loadLoraAdapter, Runtime.add, hname, hmem]

theorem loadRuntimeWithReconciliation_of_no_effect (hmem : name ∉ runtime) {load : CallOutcome}
    (h : name = "" ∨ load = .failsBefore) (listed : Bool) :
    (loadRuntimeWithReconciliation host runtime name path load listed).1 = runtime ∧
      (loadRuntimeWithReconciliation host runtime name path load listed).2 ≠ .loaded := by
  have hcall : loadLoraAdapter runtime name path load = (runtime, false) := by
    rcases h with rfl | rfl
    · rfl
    · unfold loadLoraAdapter
      split <;> rfl
  simp only [loadRuntimeWithReconciliation, hcall]
  cases listed <;> simp [hmem]

/-- An adapter that the runtime has already stays, and the load returns if its call does, or if the
list has the path. -/
theorem loadRuntimeWithReconciliation_of_mem (hmem : name ∈ runtime) (hname : name ≠ "")
    (load : CallOutcome) (listed : Bool) :
    (loadRuntimeWithReconciliation host runtime name path load listed).1 = runtime ∧
      ((loadRuntimeWithReconciliation host runtime name path load listed).2 = .loaded ↔
        load = .succeeds ∨ listed = true ∧ listsAt host runtime name path = true) := by
  have hadd : runtime.add name path = runtime := if_pos hmem
  cases load <;> cases listed <;>
    cases h : listsAt host runtime name path <;>
      simp [loadRuntimeWithReconciliation, loadLoraAdapter, hname, hadd, hmem, h]

/-! ## The invariant -/

/-- The invariant of a replica. -/
structure Consistent (s : ReplicaAdapters) : Prop where
  /-- An adapter that the runtime serves has a row. -/
  known : ∀ name ∈ s.runtime, ∃ a ∈ s.adapters, a.adapterName = name
  named : "" ∉ s.runtime
  /-- A name has one loaded row at most. -/
  single : ∀ a ∈ s.adapters, ∀ b ∈ s.adapters, a.status = .loaded → b.status = .loaded →
    a.adapterName = b.adapterName → a = b

theorem consistent_initial : Consistent .initial where
  known name h := absurd h (AList.notMem_empty name)
  named := AList.notMem_empty ""
  single a ha := absurd ha (Table.not_mem_empty a)

theorem mem_loadedRows {a : AdapterRow} : a ∈ s.loadedRows host name ↔
    a ∈ s.adapters ∧ host.collation.same a.adapterName name = true ∧ a.status = .loaded := by
  simp [ReplicaAdapters.loadedRows, AdapterRow.isNamed]

theorem mem_rowsOf {a : AdapterRow} :
    a ∈ s.rowsOf name ↔ a ∈ s.adapters ∧ a.adapterName = name ∧ a.status = .loaded := by
  simp [ReplicaAdapters.rowsOf]

theorem loadedRows_eq_nil : s.loadedRows host name = [] ↔
    ∀ a ∈ s.adapters, host.collation.same a.adapterName name = true → a.status ≠ .loaded := by
  simp [List.eq_nil_iff_forall_not_mem, mem_loadedRows]

/-- No row of the name is failed or loading. -/
def HasNoStale (host : AdapterHost) (s : ReplicaAdapters) (name : String) : Prop :=
  (s.adapters.select fun a => a.isStale host name) = []

theorem hasNoStale_iff : HasNoStale host s name ↔
    ∀ a ∈ s.adapters, host.collation.same a.adapterName name = true →
      a.status ≠ .failed ∧ a.status ≠ .loading := by
  simp [HasNoStale, Table.select_eq_nil, AdapterRow.isStale, AdapterRow.isNamed]
  grind

theorem Consistent.rowsOf_eq (hs : Consistent s) {a : AdapterRow} (ha : a ∈ s.rowsOf name) :
    s.rowsOf name = [a] := by
  obtain ⟨hmem, hname, hstatus⟩ := mem_rowsOf.mp ha
  refine Table.select_eq_singleton hmem (by simp [hname, hstatus]) ?_
  intro b hb hp
  obtain ⟨hb', hname', hstatus'⟩ := mem_rowsOf.mp (Table.mem_select.mpr ⟨hb, hp⟩)
  exact hs.single b hb' a hmem hstatus' hstatus (hname'.trans hname.symm)

/-- The invariant follows a change of rows that keeps the names and makes no row loaded. -/
theorem Consistent.of_rows (hs : Consistent s) {s' : ReplicaAdapters}
    (hruntime : ∀ name ∈ s'.runtime, name ∈ s.runtime)
    (hkeep : ∀ a ∈ s.adapters, ∃ a' ∈ s'.adapters, a'.adapterName = a.adapterName)
    (hloaded : ∀ a' ∈ s'.adapters, a'.status = .loaded →
      ∃ a ∈ s.adapters, a.adapterId = a'.adapterId ∧ a.adapterName = a'.adapterName ∧
        a.status = .loaded) : Consistent s' where
  known name hmem := by
    obtain ⟨a, ha, rfl⟩ := hs.known name (hruntime name hmem)
    exact hkeep a ha
  named hmem := hs.named (hruntime "" hmem)
  single a' ha' b' hb' hla hlb hname := by
    obtain ⟨a, ha, hida, hnamea, hla'⟩ := hloaded a' ha' hla
    obtain ⟨b, hb, hidb, hnameb, hlb'⟩ := hloaded b' hb' hlb
    have hab : a = b :=
      hs.single a ha b hb hla' hlb' (hnamea.trans (hname.trans hnameb.symm))
    subst hab
    exact Table.eq_of_key ha' hb' (hida.symm.trans hidb)

/-! ## Loads -/

/-- A load has an effect in a runtime that does not have the adapter. -/
def TakesEffect (request : LoadRequest) (env : LoadEnv) : Prop :=
  request.adapterName ≠ "" ∧ env.load ≠ .failsBefore

/-- The runtime serves the adapter from the path, and it is the path of its only loaded row. -/
def ReplicaAdapters.Serves (s : ReplicaAdapters) (name path : String) : Prop :=
  s.runtime.lookup name = some path ∧ ∃ a, s.rowsOf name = [a] ∧ a.adapterPath = path

/-- How many adapters the runtime has. -/
def ReplicaAdapters.size (s : ReplicaAdapters) : Nat := s.runtime.keys.length

theorem Consistent.serves_iff (hs : Consistent s) : s.Serves name path ↔
    (∃ a ∈ s.rowsOf name, a.adapterPath = path) ∧ s.runtime.lookup name = some path := by
  constructor
  · rintro ⟨hlookup, a, ha, hpath⟩
    exact ⟨⟨a, by simp [ha], hpath⟩, hlookup⟩
  · rintro ⟨⟨a, ha, hpath⟩, hlookup⟩
    exact ⟨hlookup, a, hs.rowsOf_eq ha, hpath⟩

/-- A load inserts a row and calls the runtime. -/
def IsFresh (host : AdapterHost) (s : ReplicaAdapters) (request : LoadRequest) (env : LoadEnv) :
    Prop :=
  env.locks = none ∧ s.loadedRows host request.adapterName = [] ∧ s.loadedCount < host.maxLoras ∧
    ∀ a ∈ s.adapters, a.adapterId ≠ request.adapterId

/-- A load of an adapter that the runtime has already returns. -/
def AcceptsServed (host : AdapterHost) (s : ReplicaAdapters) (request : LoadRequest)
    (env : LoadEnv) : Prop :=
  env.load = .succeeds ∨
    env.loadListed = true ∧ listsAt host s.runtime request.adapterName request.adapterPath = true

theorem mem_of_existingRow (hstale : HasNoStale host s name) {a : AdapterRow}
    (h : existingRow host s name = some a) : a ∈ s.loadedRows host name := by
  obtain ⟨ha, hp⟩ := Table.mem_select.mp (host.mem_of_first h)
  have hnamed : host.collation.same a.adapterName name = true := by
    by_contra hne
    simp [AdapterRow.isNamed, hne] at hp
  have hnot := (hasNoStale_iff.mp hstale a ha hnamed).2
  exact mem_loadedRows.mpr ⟨ha, hnamed, by simpa [AdapterRow.isNamed, hnamed, hnot] using hp⟩

theorem existingRow_eq_none (hstale : HasNoStale host s name) :
    existingRow host s name = none ↔ s.loadedRows host name = [] := by
  constructor
  · intro h
    refine loadedRows_eq_nil.mpr fun a ha hnamed hstatus => ?_
    have hselect := Table.select_eq_nil.mp (host.first_eq_none h) a ha
    simp [AdapterRow.isNamed, hnamed, hstatus] at hselect
  · intro h
    rw [Option.eq_none_iff_forall_not_mem]
    intro a ha
    have hmem := mem_of_existingRow hstale ha
    simp [h] at hmem

/-- The call to the runtime of a load that is fresh. -/
def freshCall (host : AdapterHost) (s : ReplicaAdapters) (request : LoadRequest) (env : LoadEnv) :
    Runtime × RuntimeState :=
  loadRuntimeWithReconciliation host s.runtime request.adapterName request.adapterPath env.load
    env.loadListed

/-- The row of a load that is fresh, after its call. -/
def freshRow (request : LoadRequest) (env : LoadEnv) (state : RuntimeState) : AdapterRow :=
  (newAdapterRow request env.now).finalize env.loadError state

/-- The state after a load that is fresh. -/
def freshState (host : AdapterHost) (s : ReplicaAdapters) (adapters : Table AdapterRow)
    (request : LoadRequest) (env : LoadEnv) : ReplicaAdapters :=
  ⟨adapters.update request.adapterId
    (fun a => a.finalize env.loadError (freshCall host s request env).2)
    (AdapterRow.key_finalize env.loadError (freshCall host s request env).2),
    (freshCall host s request env).1⟩

/-- A load without stale rows either changes nothing, or is fresh. -/
theorem loadPrepared_cases (hstale : HasNoStale host s request.adapterName) :
    (∃ error, (¬ IsFresh host s request env) ∧
        (env.locks = none → s.loadedRows host request.adapterName = []) ∧
        loadPrepared host s request env = (s, .error error)) ∨
      (∃ a, s.loadedRows host request.adapterName ≠ [] ∧ env.locks = none ∧
        loadPrepared host s request env = (s, .ok a)) ∨
      ∃ adapters, IsFresh host s request env ∧
        s.adapters.insert (newAdapterRow request env.now) = some adapters ∧
        (loadPrepared host s request env).1 = freshState host s adapters request env ∧
        ((∃ row, (loadPrepared host s request env).2 = .ok row) ↔
          (freshCall host s request env).2 = .loaded) := by
  cases hlocks : env.locks with
  | some error =>
    exact Or.inl ⟨error, fun h => by simp [IsFresh, hlocks] at h, nofun,
      by simp [loadPrepared, hlocks]⟩
  | none =>
    cases hexisting : existingRow host s request.adapterName with
    | some a =>
      have ha := mem_of_existingRow hstale hexisting
      refine Or.inr (Or.inl ⟨a, List.ne_nil_of_mem ha, rfl, ?_⟩)
      simp [loadPrepared, hlocks, hexisting, (mem_loadedRows.mp ha).2.2]
    | none =>
      have hrows := (existingRow_eq_none hstale).mp hexisting
      by_cases hfull : host.maxLoras ≤ s.loadedCount
      · refine Or.inl ⟨_, fun h => ?_, fun _ => hrows,
          by simp only [loadPrepared, hlocks, hexisting, if_pos hfull]; rfl⟩
        exact absurd h.2.2.1 (Nat.not_lt.mpr hfull)
      · cases hinsert : s.adapters.insert (newAdapterRow request env.now) with
        | none =>
          refine Or.inl ⟨_, fun h => ?_, fun _ => hrows,
            by simp only [loadPrepared, hlocks, hexisting, if_neg hfull, hinsert]; rfl⟩
          obtain ⟨t', ht'⟩ := Table.exists_insert (r := newAdapterRow request env.now) h.2.2.2
          rw [hinsert] at ht'
          cases ht'
        | some adapters =>
          have hlookup : adapters.lookup request.adapterId =
              some (newAdapterRow request env.now) :=
            Table.lookup_eq_some.mpr ⟨(Table.mem_insert hinsert).mpr (Or.inr rfl), rfl⟩
          have hstatus : (newAdapterRow request env.now).status = .loading := rfl
          have hfresh : IsFresh host s request env :=
            ⟨hlocks, hrows, Nat.lt_of_not_le hfull, (Table.insert_eq_some.mp hinsert).1⟩
          refine Or.inr (Or.inr ⟨adapters, hfresh, rfl, ?_, ?_⟩)
          · simp only [loadPrepared, hlocks, hexisting, if_neg hfull, hinsert,
              finalizeAdapterLoading, hlookup, hstatus, if_true, freshState, freshCall]
          · simp only [loadPrepared, hlocks, hexisting, if_neg hfull, hinsert,
              finalizeAdapterLoading, hlookup, hstatus, if_true, freshCall]
            cases (loadRuntimeWithReconciliation host s.runtime request.adapterName
              request.adapterPath env.load env.loadListed).2 <;> simp

section Fresh

variable {adapters : Table AdapterRow}

theorem mem_freshState (hinsert : s.adapters.insert (newAdapterRow request env.now) = some adapters)
    {a : AdapterRow} : a ∈ (freshState host s adapters request env).adapters ↔ a ∈ s.adapters ∨
      a = freshRow request env (freshCall host s request env).2 := by
  dsimp only [freshState]
  exact Table.mem_update_insert hinsert

theorem finalize_fresh (request : LoadRequest) (env : LoadEnv) (state : RuntimeState) :
    (freshRow request env state).adapterName = request.adapterName ∧
      (freshRow request env state).adapterPath = request.adapterPath := by
  cases state <;> simp [freshRow, AdapterRow.finalize, newAdapterRow]

theorem freshCall_of_effect (hmem : request.adapterName ∉ s.runtime)
    (heffect : TakesEffect request env) :
    (freshCall host s request env).1 = s.runtime.insert request.adapterName request.adapterPath :=
  loadRuntimeWithReconciliation_of_effect hmem heffect.1 heffect.2 env.loadListed

theorem freshCall_of_no_effect (hmem : request.adapterName ∉ s.runtime)
    (heffect : ¬ TakesEffect request env) :
    (freshCall host s request env).1 = s.runtime ∧ (freshCall host s request env).2 ≠ .loaded := by
  have h : request.adapterName = "" ∨ env.load = .failsBefore := by
    simpa [TakesEffect, or_iff_not_imp_left] using heffect
  exact loadRuntimeWithReconciliation_of_no_effect hmem h env.loadListed

theorem freshCall_of_mem (hs : Consistent s) (hmem : request.adapterName ∈ s.runtime) :
    (freshCall host s request env).1 = s.runtime ∧
      ((freshCall host s request env).2 = .loaded ↔ AcceptsServed host s request env) :=
  loadRuntimeWithReconciliation_of_mem hmem (fun hname => hs.named (hname ▸ hmem)) env.load
    env.loadListed

theorem mem_freshState_runtime (hs : Consistent s)
    (h : name ∈ (freshState host s adapters request env).runtime) :
    name ∈ s.runtime ∨ name = request.adapterName ∧ TakesEffect request env := by
  by_cases hmem : request.adapterName ∈ s.runtime
  · rw [freshState, (freshCall_of_mem hs hmem).1] at h
    exact Or.inl h
  by_cases heffect : TakesEffect request env
  · rw [freshState, freshCall_of_effect hmem heffect, AList.mem_insert] at h
    exact h.symm.imp_right fun hname => ⟨hname, heffect⟩
  · rw [freshState, (freshCall_of_no_effect hmem heffect).1] at h
    exact Or.inl h

theorem freshState_size (hs : Consistent s)
    [Decidable (request.adapterName ∉ s.runtime ∧ TakesEffect request env)] :
    (freshState host s adapters request env).size =
      if request.adapterName ∉ s.runtime ∧ TakesEffect request env then s.size + 1 else s.size := by
  rw [ReplicaAdapters.size, ReplicaAdapters.size, freshState]
  split
  · next h =>
    rw [freshCall_of_effect h.1 h.2, AList.keys_insert,
      List.erase_of_not_mem (AList.mem_keys.not.mp h.1), List.length_cons]
  · next h =>
    by_cases hmem : request.adapterName ∈ s.runtime
    · rw [(freshCall_of_mem hs hmem).1]
    · rw [(freshCall_of_no_effect hmem fun heffect => h ⟨hmem, heffect⟩).1]

theorem freshState_consistent (hs : Consistent s)
    (hrows : s.loadedRows host request.adapterName = [])
    (hinsert : s.adapters.insert (newAdapterRow request env.now) = some adapters) :
    Consistent (freshState host s adapters request env) where
  known name h := by
    rcases mem_freshState_runtime hs h with h | ⟨rfl, -⟩
    · obtain ⟨a, ha, hname⟩ := hs.known name h
      exact ⟨a, (mem_freshState hinsert).mpr (Or.inl ha), hname⟩
    · exact ⟨_, (mem_freshState hinsert).mpr (Or.inr rfl), (finalize_fresh ..).1⟩
  named h := by
    rcases mem_freshState_runtime hs h with h | ⟨hname, heffect⟩
    · exact hs.named h
    · exact heffect.1 hname.symm
  single a ha b hb hla hlb hab := by
    have hname := (finalize_fresh request env (freshCall host s request env).2).1
    have hnone : ∀ a ∈ s.adapters, a.adapterName = request.adapterName → a.status ≠ .loaded :=
      fun a ha hname => loadedRows_eq_nil.mp hrows a ha (by simp [hname])
    rcases (mem_freshState hinsert).mp ha with ha | rfl
    · rcases (mem_freshState hinsert).mp hb with hb | rfl
      · exact hs.single a ha b hb hla hlb hab
      · exact absurd hla (hnone a ha (hab.trans hname))
    · rcases (mem_freshState hinsert).mp hb with hb | rfl
      · exact absurd hlb (hnone b hb (hab.symm.trans hname))
      · rfl

/-- A fresh load that returns serves what was asked for, unless the runtime had the adapter. -/
theorem freshState_serves_iff (hs : Consistent s)
    (hrows : s.loadedRows host request.adapterName = [])
    (hinsert : s.adapters.insert (newAdapterRow request env.now) = some adapters)
    (h : (freshCall host s request env).2 = .loaded) :
    (freshState host s adapters request env).Serves request.adapterName request.adapterPath ↔
      (request.adapterName ∈ s.runtime →
        s.runtime.lookup request.adapterName = some request.adapterPath) := by
  have hconsistent : Consistent (freshState host s adapters request env) :=
    freshState_consistent hs hrows hinsert
  have hrow : (freshState host s adapters request env).rowsOf request.adapterName =
      [freshRow request env .loaded] :=
    hconsistent.rowsOf_eq (mem_rowsOf.mpr
      ⟨(mem_freshState hinsert).mpr (Or.inr (by rw [h])), rfl, rfl⟩)
  have hserves : (freshState host s adapters request env).Serves request.adapterName
      request.adapterPath ↔
      (freshCall host s request env).1.lookup request.adapterName = some request.adapterPath :=
    and_iff_left ⟨_, hrow, rfl⟩
  rw [hserves]
  by_cases hmem : request.adapterName ∈ s.runtime
  · rw [(freshCall_of_mem hs hmem).1]
    exact ⟨fun heq _ => heq, fun himp => himp hmem⟩
  · have heffect : TakesEffect request env := by
      by_contra heffect
      exact (freshCall_of_no_effect hmem heffect).2 h
    rw [freshCall_of_effect hmem heffect, AList.lookup_insert]
    exact iff_of_true rfl fun h => absurd h hmem

end Fresh

section Prepared

variable (hs : Consistent s) (hstale : HasNoStale host s request.adapterName)

include hs hstale in
theorem loadPrepared_consistent : Consistent (loadPrepared host s request env).1 := by
  rcases @loadPrepared_cases host s request env hstale with
    ⟨error, -, -, heq⟩ | ⟨a, -, -, heq⟩ | ⟨adapters, hfresh, hinsert, heq, -⟩
  · rw [heq]
    exact hs
  · rw [heq]
    exact hs
  · rw [heq]
    exact freshState_consistent hs hfresh.2.1 hinsert

include hs hstale in
/-- A load without stale rows goes wrong only in the shortcut, at an adapter that the runtime has
without a loaded row, or if its adapter is one too many. -/
theorem loadPrepared_serves_iff {n : Nat} (hn : s.size ≤ n) :
    ((∀ row, (loadPrepared host s request env).2 = .ok row →
        (loadPrepared host s request env).1.Serves request.adapterName request.adapterPath) ∧
      ((loadPrepared host s request env).1.size ≤ host.maxLoras ∨
        (loadPrepared host s request env).1.size ≤ n)) ↔
    (env.locks = none →
      (s.loadedRows host request.adapterName ≠ [] →
        s.Serves request.adapterName request.adapterPath) ∧
      (IsFresh host s request env →
        (request.adapterName ∈ s.runtime → AcceptsServed host s request env →
          s.runtime.lookup request.adapterName = some request.adapterPath) ∧
        (TakesEffect request env → request.adapterName ∉ s.runtime → s.size = n →
          s.size < host.maxLoras))) := by
  classical
  rcases @loadPrepared_cases host s request env hstale with
    ⟨error, hnot, hrows, heq⟩ | ⟨a, hne, hlocks, heq⟩ | ⟨adapters, hfresh, hinsert, heq, hreturn⟩
  · refine iff_of_true ⟨fun row hrow => ?_, Or.inr ?_⟩ fun hlocks => ⟨?_, fun h => absurd h hnot⟩
    · rw [heq] at hrow
      cases hrow
    · rw [heq]
      exact hn
    · exact fun hne => absurd (hrows hlocks) hne
  · rw [heq]
    constructor
    · rintro ⟨hserves, -⟩ -
      exact ⟨fun _ => hserves a rfl, fun h => absurd h.2.1 hne⟩
    · intro h
      exact ⟨fun _ _ => (h hlocks).1 hne, Or.inr hn⟩
  · have hserves : (∀ row, (loadPrepared host s request env).2 = .ok row →
        (loadPrepared host s request env).1.Serves request.adapterName request.adapterPath) ↔
        (request.adapterName ∈ s.runtime → AcceptsServed host s request env →
          s.runtime.lookup request.adapterName = some request.adapterPath) := by
      rw [← exists_imp, hreturn, heq]
      constructor
      · intro h hmem haccepts
        have hcall := (freshCall_of_mem hs hmem).2.mpr haccepts
        exact (freshState_serves_iff hs hfresh.2.1 hinsert hcall).mp (h hcall) hmem
      · intro h hcall
        refine (freshState_serves_iff hs hfresh.2.1 hinsert hcall).mpr fun hmem => ?_
        exact h hmem ((freshCall_of_mem hs hmem).2.mp hcall)
    have hsize : (loadPrepared host s request env).1.size =
        if request.adapterName ∉ s.runtime ∧ TakesEffect request env then s.size + 1
        else s.size := by
      rw [heq]
      exact freshState_size hs
    rw [hserves, hsize]
    constructor
    · rintro ⟨haccepts, hbound⟩ -
      refine ⟨fun hne => absurd hfresh.2.1 hne, fun _ => ⟨haccepts, fun heffect hmem heq => ?_⟩⟩
      rw [if_pos ⟨hmem, heffect⟩] at hbound
      omega
    · intro h
      obtain ⟨haccepts, hroom⟩ := (h hfresh.1).2 hfresh
      refine ⟨haccepts, ?_⟩
      split
      · next heffect =>
        have hbound := hroom heffect.2 heffect.1
        omega
      · exact Or.inr hn

end Prepared

/-! ## Stale rows -/

/-- The state in which the stale rows of the name have been cleaned up. -/
def cleaned (host : AdapterHost) (s : ReplicaAdapters) (name : String) (now : Nat) :
    ReplicaAdapters :=
  ⟨finalizeStaleAdapterCleanup host s.adapters name now, s.runtime.erase name⟩

section Cleaned

variable {now : Nat}

theorem mem_cleaned {a' : AdapterRow} : a' ∈ (cleaned host s name now).adapters ↔ ∃ a ∈ s.adapters,
    a' = if a.isStale host name then a.forceStatus .unloaded (some "Cleaned up before retry") now
      else a := by
  dsimp only [cleaned, finalizeStaleAdapterCleanup]
  exact Table.mem_updateWhere

theorem cleaned_hasNoStale : HasNoStale host (cleaned host s name now) name := by
  rw [HasNoStale, Table.select_eq_nil]
  intro a' ha'
  obtain ⟨a, -, rfl⟩ := mem_cleaned.mp ha'
  split
  · simp [AdapterRow.isStale, AdapterRow.isNamed, AdapterRow.forceStatus]
  · next h => simpa using h

theorem isNamed_loaded_of_isStale {a : AdapterRow} (other : String) (h : a.isStale host name = true) :
    a.isNamed host other .loaded = false := by
  have hstatus : a.status = .failed ∨ a.status = .loading := by
    simp [AdapterRow.isStale, AdapterRow.isNamed] at h
    grind
  rcases hstatus with hstatus | hstatus <;> simp [AdapterRow.isNamed, hstatus]

theorem cleaned_loadedRows (other : String) :
    (cleaned host s name now).loadedRows host other = s.loadedRows host other := by
  dsimp only [cleaned, finalizeStaleAdapterCleanup, ReplicaAdapters.loadedRows]
  exact Table.select_updateWhere_of_disjoint (fun _ h => isNamed_loaded_of_isStale other h)
    fun _ _ => by simp [AdapterRow.isNamed, AdapterRow.forceStatus]

theorem cleaned_loadedCount : (cleaned host s name now).loadedCount = s.loadedCount := by
  dsimp only [cleaned, finalizeStaleAdapterCleanup, ReplicaAdapters.loadedCount]
  refine congrArg List.length (Table.select_updateWhere_of_disjoint (fun a h => ?_) fun a _ => ?_)
  · have hnot := isNamed_loaded_of_isStale a.adapterName h
    simpa [AdapterRow.isNamed] using hnot
  · simp [AdapterRow.forceStatus]

theorem cleaned_ids {adapterId : String} :
    (∀ a ∈ (cleaned host s name now).adapters, a.adapterId ≠ adapterId) ↔
      ∀ a ∈ s.adapters, a.adapterId ≠ adapterId := by
  constructor
  · intro h a ha hid
    refine h _ (mem_cleaned.mpr ⟨a, ha, rfl⟩) ?_
    split
    · exact hid
    · exact hid
  · intro h a' ha' hid
    obtain ⟨a, ha, rfl⟩ := mem_cleaned.mp ha'
    refine h a ha ?_
    split at hid
    · exact hid
    · exact hid

theorem isFresh_cleaned : IsFresh host (cleaned host s request.adapterName now) request env ↔
    IsFresh host s request env := by
  rw [IsFresh, IsFresh, cleaned_loadedRows, cleaned_loadedCount, cleaned_ids]

theorem cleaned_consistent (hs : Consistent s) : Consistent (cleaned host s name now) := by
  refine hs.of_rows (fun other h => (AList.mem_erase.mp h).2) (fun a ha => ?_)
    fun a' ha' hloaded => ?_
  · refine ⟨_, mem_cleaned.mpr ⟨a, ha, rfl⟩, ?_⟩
    split <;> rfl
  · obtain ⟨a, ha, rfl⟩ := mem_cleaned.mp ha'
    split at hloaded
    · cases hloaded
    · next h => exact ⟨a, ha, by simp [h], by simp [h], hloaded⟩

theorem size_le_of_runtime {adapters : Table AdapterRow}
    (h : runtime = s.runtime ∨ runtime = s.runtime.erase name) :
    ReplicaAdapters.size ⟨adapters, runtime⟩ ≤ s.size := by
  rcases h with rfl | rfl
  · exact le_rfl
  · rw [ReplicaAdapters.size, ReplicaAdapters.size, AList.keys_erase]
    exact List.length_erase_le

theorem cleaned_size_le : (cleaned host s name now).size ≤ s.size :=
  size_le_of_runtime (Or.inr rfl)

theorem cleaned_size_eq_iff : (cleaned host s name now).size = s.size ↔ name ∉ s.runtime := by
  rw [ReplicaAdapters.size, ReplicaAdapters.size, cleaned, AList.keys_erase]
  constructor
  · intro heq hmem
    rw [AList.mem_keys] at hmem
    have hlength := List.length_erase_add_one hmem
    omega
  · intro hmem
    rw [AList.mem_keys] at hmem
    rw [List.erase_of_not_mem hmem]

end Cleaned

/-! ## The operations keep the invariant -/

/-- What a load has to recover from is gone. -/
def Prepares (host : AdapterHost) (s : ReplicaAdapters) (request : LoadRequest) (env : LoadEnv) :
    Prop :=
  env.admission = none ∧ (HasNoStale host s request.adapterName ∨
    VerifiesAbsence s.runtime request.adapterName env.unload env.unloadListed)

/-- A load is refused, or has no stale rows, or cleans them up, or does not get so far. -/
theorem loadAdapter_cases (host : AdapterHost) (s : ReplicaAdapters) (request : LoadRequest)
    (env : LoadEnv) :
    (∃ error, ¬ Prepares host s request env ∧ loadAdapter host s request env = (s, .error error)) ∨
      (Prepares host s request env ∧ HasNoStale host s request.adapterName ∧
        loadAdapter host s request env = loadPrepared host s request env) ∨
      (Prepares host s request env ∧ ¬ HasNoStale host s request.adapterName ∧
        loadAdapter host s request env =
          loadPrepared host (cleaned host s request.adapterName env.now) request env) ∨
      ∃ runtime error, (runtime = s.runtime ∨ runtime = s.runtime.erase request.adapterName) ∧
        ¬ Prepares host s request env ∧
        loadAdapter host s request env = (⟨s.adapters, runtime⟩, .error error) := by
  cases hadmission : env.admission with
  | some error =>
    exact Or.inl ⟨error, fun h => by simp [Prepares, hadmission] at h, by
      simp [loadAdapter, hadmission]⟩
  | none =>
    by_cases hstale : HasNoStale host s request.adapterName
    · refine Or.inr (Or.inl ⟨⟨hadmission, Or.inl hstale⟩, hstale, ?_⟩)
      simp only [loadAdapter, hadmission]
      exact if_pos hstale
    have hrows : (s.adapters.select fun a => a.isStale host request.adapterName) ≠ [] := hstale
    by_cases hverified :
      VerifiesAbsence s.runtime request.adapterName env.unload env.unloadListed
    · refine Or.inr (Or.inr (Or.inl ⟨⟨hadmission, Or.inr hverified⟩, hstale, ?_⟩))
      simp only [loadAdapter, hadmission]
      rw [if_neg hrows, if_pos ((verifyRuntimeAdapterAbsence_iff ..).mpr hverified),
        runtime_of_verifiesAbsence hverified]
      rfl
    · refine Or.inr (Or.inr (Or.inr ⟨_, .runtimeError
          "Failed to verify adapter runtime absence during unload recovery",
        verifyRuntimeAdapterAbsence_runtime env.unload env.unloadListed, ?_, ?_⟩))
      · rintro ⟨-, h | h⟩
        · exact hstale h
        · exact hverified h
      · simp only [loadAdapter, hadmission]
        rw [if_neg hrows, if_neg ((verifyRuntimeAdapterAbsence_iff ..).not.mpr hverified)]

theorem Consistent.of_runtime (hs : Consistent s) {runtime : Runtime}
    (h : runtime = s.runtime ∨ runtime = s.runtime.erase name) :
    Consistent ⟨s.adapters, runtime⟩ := by
  refine hs.of_rows (fun other hmem => ?_) (fun a ha => ⟨a, ha, rfl⟩)
    fun a ha hstatus => ⟨a, ha, rfl, rfl, hstatus⟩
  rcases h with rfl | rfl
  · exact hmem
  · exact (AList.mem_erase.mp hmem).2

theorem loadAdapter_consistent (hs : Consistent s) :
    Consistent (loadAdapter host s request env).1 := by
  rcases loadAdapter_cases host s request env with
    ⟨error, -, heq⟩ | ⟨-, hstale, heq⟩ | ⟨-, -, heq⟩ | ⟨runtime, error, hruntime, -, heq⟩
  · rw [heq]
    exact hs
  · rw [heq]
    exact loadPrepared_consistent hs hstale
  · rw [heq]
    exact loadPrepared_consistent (cleaned_consistent hs) cleaned_hasNoStale
  · rw [heq]
    exact hs.of_runtime hruntime

theorem markedRow_mem {a : AdapterRow} (h : markedRow host s name = some a) :
    a ∈ s.loadedRows host name := by
  unfold markedRow at h
  split at h
  · exact host.mem_of_first h
  · exact (List.mem_insertionSort _).mp (List.mem_of_mem_head? h)

theorem mem_markUnloading {a' : AdapterRow} : a' ∈ markUnloading host s name ↔
    ∃ a ∈ s.adapters, a' = if markedRow host s name = some a then
      { a with status := .unloading } else a := by
  unfold markUnloading
  cases hmarked : markedRow host s name with
  | none => simp
  | some marked =>
    have hmem := (mem_loadedRows.mp (markedRow_mem hmarked)).1
    have hiff : ∀ a ∈ s.adapters, Keyed.key a = marked.adapterId ↔ marked = a :=
      fun a ha => ⟨fun hid => Table.eq_of_key hmem ha hid.symm, fun heq => heq ▸ rfl⟩
    rw [Table.mem_update]
    refine exists_congr fun a => and_congr_right fun ha => ?_
    simp only [hiff a ha, Option.some.injEq]

theorem mem_revertUnloading {errorMessage : String} {now : Nat} {a' : AdapterRow} :
    a' ∈ revertUnloading host s (markUnloading host s name) name errorMessage now ↔
      ∃ a ∈ s.adapters, a' = if markedRow host s name = some a then
        { a with status := .loaded, errorMessage := some errorMessage }
      else a := by
  unfold revertUnloading markUnloading
  cases hmarked : markedRow host s name with
  | none => simp
  | some marked =>
    have hmem := (mem_loadedRows.mp (markedRow_mem hmarked)).1
    have hiff : ∀ a ∈ s.adapters, a.adapterId = marked.adapterId ↔ marked = a :=
      fun a ha => ⟨fun hid => Table.eq_of_key hmem ha hid.symm, fun heq => heq ▸ rfl⟩
    have hrow : ∀ a ∈ s.adapters, (if (if a.adapterId = marked.adapterId then
          { a with status := .unloading } else a).adapterId = marked.adapterId then
        (if a.adapterId = marked.adapterId then { a with status := .unloading }
          else a).forceStatus .loaded (some errorMessage) now
        else if a.adapterId = marked.adapterId then { a with status := .unloading } else a) =
        if some marked = some a then
          { a with status := .loaded, errorMessage := some errorMessage } else a := by
      intro a ha
      by_cases hid : a.adapterId = marked.adapterId
      · simp [hid, (hiff a ha).mp hid, AdapterRow.forceStatus]
      · simp [hid, (hiff a ha).not.mp hid]
    constructor
    · intro h
      obtain ⟨b, hb, rfl⟩ := Table.mem_update.mp h
      obtain ⟨a, ha, rfl⟩ := Table.mem_update.mp hb
      exact ⟨a, ha, hrow a ha⟩
    · rintro ⟨a, ha, rfl⟩
      exact Table.mem_update.mpr ⟨_, Table.mem_update.mpr ⟨a, ha, rfl⟩, (hrow a ha).symm⟩

theorem markUnloading_consistent (hs : Consistent s) {runtime : Runtime}
    (h : runtime = s.runtime ∨ runtime = s.runtime.erase name) :
    Consistent ⟨markUnloading host s name, runtime⟩ := by
  refine (hs.of_runtime h).of_rows (fun _ h => h) (fun a ha => ?_) fun a' ha' hloaded => ?_
  · refine ⟨_, mem_markUnloading.mpr ⟨a, ha, rfl⟩, ?_⟩
    split <;> rfl
  · obtain ⟨a, ha, rfl⟩ := mem_markUnloading.mp ha'
    split at hloaded
    · cases hloaded
    · next hne => exact ⟨a, ha, by simp [hne], by simp [hne], hloaded⟩

theorem unloadAdapter_consistent (hs : Consistent s) (unload : UnloadEnv) :
    Consistent (unloadAdapter host s name unload).1 := by
  have hruntime := @verifyRuntimeAdapterAbsence_runtime name s.runtime unload.unload
    unload.unloadListed
  have hmarked := @markUnloading_consistent host s name hs _ hruntime
  unfold unloadAdapter
  cases unload.admission with
  | some error => exact hs
  | none =>
    dsimp only
    split_ifs
    · exact hmarked
    · refine hmarked.of_rows (fun _ h => h) (fun a ha => ?_) fun a' ha' hloaded => ?_
      · dsimp only
        refine ⟨_, Table.mem_updateWhere.mpr ⟨a, ha, rfl⟩, ?_⟩
        split <;> rfl
      · dsimp only at ha'
        obtain ⟨a, ha, rfl⟩ := Table.mem_updateWhere.mp ha'
        split at hloaded
        · cases hloaded
        · next hnot => exact ⟨a, ha, by simp [hnot], by simp [hnot], hloaded⟩
    · refine (hs.of_runtime hruntime).of_rows (fun _ h => h) (fun a ha => ?_)
        fun a' ha' hloaded => ?_
      · refine ⟨_, mem_revertUnloading.mpr ⟨a, ha, rfl⟩, ?_⟩
        split <;> rfl
      · obtain ⟨a, ha, rfl⟩ := mem_revertUnloading.mp ha'
        split
        · next hrow =>
          exact ⟨a, ha, rfl, rfl, (mem_loadedRows.mp (markedRow_mem hrow)).2.2⟩
        · next hrow =>
          rw [if_neg hrow] at hloaded
          exact ⟨a, ha, rfl, rfl, hloaded⟩

theorem mem_actualNames : name ∈ actualNames s ↔ name ∈ s.runtime ∧ name ≠ "" := by
  simp [actualNames, AList.mem_keys]

theorem previousRow_eq_some {adapters : Table AdapterRow} {a : AdapterRow}
    (h : previousRow adapters name = some a) : a ∈ adapters ∧ a.adapterName = name := by
  refine ⟨?_, by simpa using List.find?_some h⟩
  exact (List.mem_insertionSort _).mp (List.mem_of_find?_eq_some h)

theorem previousRow_ne_none {adapters : Table AdapterRow} {a : AdapterRow} (ha : a ∈ adapters) :
    previousRow adapters a.adapterName ≠ none := by
  intro h
  have hnot := List.find?_eq_none.mp h a ((List.mem_insertionSort _).mpr ha)
  simp at hnot

theorem mem_adaptersToRestore {a : AdapterRow} (h : a ∈ adaptersToRestore s) :
    a ∈ s.adapters ∧ previousRow s.adapters a.adapterName = some a ∧
      s.rowsOf a.adapterName = [] := by
  obtain ⟨name, hname, hfilter⟩ := List.mem_filterMap.mp h
  obtain ⟨hprevious, -⟩ := Option.filter_eq_some_iff.mp hfilter
  obtain ⟨hmem, rfl⟩ := previousRow_eq_some hprevious
  exact ⟨hmem, hprevious, by simpa using (List.mem_filter.mp hname).2⟩

theorem adapterNamesToCreate_eq_nil (hs : Consistent s) : adapterNamesToCreate s = [] := by
  rw [adapterNamesToCreate, List.filter_eq_nil_iff]
  intro name hname
  obtain ⟨hmem, -⟩ := mem_actualNames.mp (List.mem_of_mem_filter hname)
  obtain ⟨a, ha, rfl⟩ := hs.known name hmem
  simpa using previousRow_ne_none ha

theorem mem_unloadMissing {now : Nat} {a' : AdapterRow} (h : a' ∈ unloadMissing s now) :
    ∃ a ∈ s.adapters, a.adapterId = a'.adapterId ∧ a.adapterName = a'.adapterName ∧
      (a'.status = .loaded → a.status = .loaded) := by
  obtain ⟨a, ha, rfl⟩ := Table.mem_updateWhere.mp h
  split
  · exact ⟨a, ha, rfl, rfl, nofun⟩
  · exact ⟨a, ha, rfl, rfl, id⟩

theorem loaded_of_restored {now : Nat} {a' : AdapterRow}
    (h : a' ∈ restoreAdapters (adaptersToRestore s) (unloadMissing s now))
    (hloaded : a'.status = .loaded) : ∃ a ∈ s.adapters, a.adapterId = a'.adapterId ∧
      a.adapterName = a'.adapterName ∧ (a.status = .loaded ∨ a ∈ adaptersToRestore s) := by
  obtain ⟨b, hb, rfl⟩ := Table.mem_updateWhere.mp h
  obtain ⟨a, ha, hid, hname, hstatus⟩ := mem_unloadMissing hb
  by_cases hrestored : b.adapterId ∈ (adaptersToRestore s).map AdapterRow.adapterId
  · obtain ⟨r, hr, hrid⟩ := List.mem_map.mp hrestored
    have hkey : r = a := Table.eq_of_key (mem_adaptersToRestore hr).1 ha (hrid.trans hid.symm)
    subst hkey
    exact ⟨r, ha, by simp [hrestored, hid], by simp [hrestored, hname], Or.inr hr⟩
  · refine ⟨a, ha, by simp [hrestored, hid], by simp [hrestored, hname], Or.inl (hstatus ?_)⟩
    simpa [hrestored] using hloaded

theorem kept_by_sync {now : Nat} {a : AdapterRow} (ha : a ∈ s.adapters) :
    ∃ a' ∈ restoreAdapters (adaptersToRestore s) (unloadMissing s now),
      a'.adapterName = a.adapterName := by
  refine ⟨_, Table.mem_updateWhere.mpr ⟨_, Table.mem_updateWhere.mpr ⟨a, ha, rfl⟩, rfl⟩, ?_⟩
  split_ifs <;> rfl

theorem not_loaded_of_rowsOf (h : s.rowsOf name = []) {a : AdapterRow} (ha : a ∈ s.adapters)
    (hname : a.adapterName = name) : a.status ≠ .loaded := by
  intro hstatus
  have hmem := mem_rowsOf.mpr ⟨ha, hname, hstatus⟩
  simp [h] at hmem

theorem syncLoadedAdapters_consistent (hs : Consistent s) (sync : SyncEnv) :
    Consistent (syncLoadedAdapters s sync).1 := by
  unfold syncLoadedAdapters
  cases sync.admission with
  | some error => exact hs
  | none =>
    dsimp only
    split
    · cases sync.locks with
      | some error => exact hs
      | none =>
        simp only [adapterNamesToCreate_eq_nil hs, createUnknown]
        refine ⟨fun name h => ?_, hs.named, fun a ha b hb hla hlb hab => ?_⟩
        · obtain ⟨a, ha, rfl⟩ := hs.known name h
          exact kept_by_sync ha
        · obtain ⟨a₀, ha₀, hida, hnamea, hwasa⟩ := loaded_of_restored ha hla
          obtain ⟨b₀, hb₀, hidb, hnameb, hwasb⟩ := loaded_of_restored hb hlb
          have hname : a₀.adapterName = b₀.adapterName := hnamea.trans (hab.trans hnameb.symm)
          have hsame : a₀ = b₀ := by
            rcases hwasa with hla₀ | hra <;> rcases hwasb with hlb₀ | hrb
            · exact hs.single a₀ ha₀ b₀ hb₀ hla₀ hlb₀ hname
            · exact absurd hla₀ (not_loaded_of_rowsOf (mem_adaptersToRestore hrb).2.2 ha₀ hname)
            · exact absurd hlb₀
                (not_loaded_of_rowsOf (mem_adaptersToRestore hra).2.2 hb₀ hname.symm)
            · have hpa := (mem_adaptersToRestore hra).2.1
              rw [hname, (mem_adaptersToRestore hrb).2.1] at hpa
              exact (Option.some.inj hpa).symm
          subst hsame
          exact Table.eq_of_key ha hb (hida.symm.trans hidb)
    · exact hs

theorem adapterStep_consistent (hs : Consistent s) (op : AdapterOp) :
    Consistent (adapterStep host s op) := by
  cases op with
  | load request env => exact loadAdapter_consistent hs
  | unload name env => exact unloadAdapter_consistent hs env
  | sync env => exact syncLoadedAdapters_consistent hs env

/-! ## Histories -/

/-- A load that returns serves what it was asked for, and after a load the runtime has `max_loras`
adapters at most. -/
def LoadServes (host : AdapterHost) (s : ReplicaAdapters) : AdapterOp → Prop
  | .load request env =>
    (∀ row, (loadAdapter host s request env).2 = .ok row →
      (loadAdapter host s request env).1.Serves request.adapterName request.adapterPath) ∧
    (loadAdapter host s request env).1.size ≤ host.maxLoras
  | _ => True

/-- A load that gets to its checks finds loaded rows, by the collation, only if the runtime serves the
very name from the path and a loaded row of the very name has it, without rows to clean up. If it
inserts a row, then the runtime does not serve the name from another path, or the load fails, and it
has room for an adapter more. -/
def IsSafe (host : AdapterHost) (s : ReplicaAdapters) : AdapterOp → Prop
  | .load request env => Prepares host s request env → env.locks = none →
    (s.loadedRows host request.adapterName ≠ [] → HasNoStale host s request.adapterName ∧
      (∃ a ∈ s.rowsOf request.adapterName, a.adapterPath = request.adapterPath) ∧
      s.runtime.lookup request.adapterName = some request.adapterPath) ∧
    (IsFresh host s request env →
      (HasNoStale host s request.adapterName → request.adapterName ∈ s.runtime →
        AcceptsServed host s request env →
        s.runtime.lookup request.adapterName = some request.adapterPath) ∧
      (TakesEffect request env → request.adapterName ∉ s.runtime → s.size < host.maxLoras))
  | _ => True

theorem loadServes_iff_isSafe (hs : Consistent s) (hsize : s.size ≤ host.maxLoras)
    (op : AdapterOp) : LoadServes host s op ↔ IsSafe host s op := by
  cases op with
  | unload name env => exact Iff.rfl
  | sync env => exact Iff.rfl
  | load request env =>
    have hbound : (loadAdapter host s request env).1.size ≤ host.maxLoras ↔
        (loadAdapter host s request env).1.size ≤ host.maxLoras ∨
          (loadAdapter host s request env).1.size ≤ s.size :=
      ⟨Or.inl, fun h => h.elim id fun h => h.trans hsize⟩
    simp only [LoadServes, IsSafe]
    rw [hbound]
    clear hbound
    rcases loadAdapter_cases host s request env with
      ⟨error, hnot, heq⟩ | ⟨hprepares, hstale, heq⟩ | ⟨hprepares, hstale, heq⟩ |
        ⟨runtime, error, hruntime, hnot, heq⟩
    · rw [heq]
      exact iff_of_true ⟨fun _ h => (by cases h), Or.inr le_rfl⟩ fun h => absurd h hnot
    · rw [heq, loadPrepared_serves_iff hs hstale le_rfl, hs.serves_iff]
      constructor
      · intro h _ hlocks
        obtain ⟨hrows, hfresh⟩ := h hlocks
        exact ⟨fun hne => ⟨hstale, hrows hne⟩, fun hf => ⟨fun _ => (hfresh hf).1,
          fun heffect hmem => (hfresh hf).2 heffect hmem rfl⟩⟩
      · intro h hlocks
        obtain ⟨hrows, hfresh⟩ := h hprepares hlocks
        exact ⟨fun hne => (hrows hne).2, fun hf => ⟨(hfresh hf).1 hstale,
          fun heffect hmem _ => (hfresh hf).2 heffect hmem⟩⟩
    · -- the stale rows are cleaned up, and the runtime has let go of the name
      have hlookup : (cleaned host s request.adapterName env.now).runtime.lookup
          request.adapterName = none := AList.lookup_erase ..
      have hnone : request.adapterName ∉
          (cleaned host s request.adapterName env.now).runtime := AList.lookup_eq_none.mp hlookup
      rw [heq, loadPrepared_serves_iff (cleaned_consistent hs) cleaned_hasNoStale cleaned_size_le,
        cleaned_loadedRows, isFresh_cleaned, cleaned_size_eq_iff]
      constructor
      · intro h _ hlocks
        obtain ⟨hrows, hfresh⟩ := h hlocks
        refine ⟨fun hne => ?_, fun hf => ⟨fun h => absurd h hstale, fun heffect hmem => ?_⟩⟩
        · have hserved := (hrows hne).1
          rw [hlookup] at hserved
          cases hserved
        · rw [← cleaned_size_eq_iff.mpr hmem]
          exact (hfresh hf).2 heffect hnone hmem
      · intro h hlocks
        obtain ⟨hrows, hfresh⟩ := h hprepares hlocks
        refine ⟨fun hne => absurd (hrows hne).1 hstale, fun hf =>
          ⟨fun h => absurd h hnone, fun heffect _ hmem => ?_⟩⟩
        rw [cleaned_size_eq_iff.mpr hmem]
        exact (hfresh hf).2 heffect hmem
    · rw [heq]
      exact iff_of_true ⟨fun _ h => (by cases h), Or.inr (size_le_of_runtime hruntime)⟩
        fun h => absurd h hnot

/-- Other operations leave the runtime as large as it was at most. -/
theorem adapterStep_size (hs : s.size ≤ host.maxLoras) {op : AdapterOp} (h : LoadServes host s op) :
    (adapterStep host s op).size ≤ host.maxLoras := by
  cases op with
  | load request env => exact h.2
  | unload name unload =>
    refine le_trans ?_ hs
    simp only [adapterStep, unloadAdapter]
    cases unload.admission with
    | some error => exact le_rfl
    | none =>
      have hruntime := @verifyRuntimeAdapterAbsence_runtime name s.runtime unload.unload
        unload.unloadListed
      dsimp only
      split_ifs <;> exact size_le_of_runtime hruntime
  | sync sync =>
    refine le_trans (le_of_eq ?_) hs
    simp only [adapterStep, syncLoadedAdapters]
    cases sync.admission with
    | some error => rfl
    | none =>
      dsimp only
      split
      · cases sync.locks with
        | some error => rfl
        | none =>
          dsimp only
          split
          · rfl
          · rfl
      · rfl

/-- In a history of a replica every load serves what it was asked for, within the capacity, if and
only if every load is safe. -/
theorem loads_serve_iff (host : AdapterHost) (ops : List AdapterOp) :
    Admits (adapterStep host) (LoadServes host) .initial ops ↔
      Admits (adapterStep host) (IsSafe host) .initial ops := by
  let Within : ReplicaAdapters → Prop := fun s => Consistent s ∧ s.size ≤ host.maxLoras
  have hiff : ∀ s op, Within s → (LoadServes host s op ↔ IsSafe host s op) :=
    fun s op hs => loadServes_iff_isSafe hs.1 hs.2 op
  have hstep : ∀ s op, Within s → LoadServes host s op → Within (adapterStep host s op) :=
    fun s op hs h => ⟨adapterStep_consistent hs.1 op, adapterStep_size hs.2 h⟩
  exact Admits.congr hiff hstep ⟨consistent_initial, Nat.zero_le _⟩ ops

/-- A load of an adapter, with nothing in its way. -/
def plainLoad (adapterId adapterName adapterPath : String) (load : CallOutcome) : AdapterOp :=
  .load ⟨adapterId, adapterName, adapterPath, none, none, none, none⟩
    ⟨none, .succeeds, true, none, load, "timeout", false, 0⟩

/-- A host whose collation takes one name in two spellings for the same, and whose queries read the
rows in the order of the table. -/
def foldingHost (maxLoras : Nat) : AdapterHost where
  collation := ⟨fun text => if text = "Style" then "style" else text⟩
  first := List.head?
  first_eq_none := List.head?_eq_none_iff.mp
  mem_of_first := List.mem_of_mem_head?
  maxLoras := maxLoras
  legacy := false
  listsPaths := true

/-- A name that is loaded already keeps its path; another spelling of it is not loaded; and an adapter
whose load stayed unknown is not counted. -/
theorem loads_serve_other_than_asked :
    (¬ Admits (adapterStep (foldingHost 4)) (LoadServes (foldingHost 4)) .initial
      [plainLoad "1" "a" "/first" .succeeds, plainLoad "2" "a" "/second" .succeeds]) ∧
    (¬ Admits (adapterStep (foldingHost 4)) (LoadServes (foldingHost 4)) .initial
      [plainLoad "1" "style" "/p" .succeeds, plainLoad "2" "Style" "/p" .succeeds]) ∧
    ¬ Admits (adapterStep (foldingHost 1)) (LoadServes (foldingHost 1)) .initial
      [plainLoad "1" "a" "/first" .failsAfter, plainLoad "2" "b" "/second" .succeeds] := by
  refine ⟨?_, ?_, ?_⟩
  · rintro ⟨-, ⟨hserves, -⟩, -⟩
    have hlookup := (hserves _ rfl).1
    revert hlookup
    decide +kernel
  · rintro ⟨-, ⟨hserves, -⟩, -⟩
    have hlookup := (hserves _ rfl).1
    revert hlookup
    decide +kernel
  · rintro ⟨-, ⟨-, hsize⟩, -⟩
    revert hsize
    decide +kernel

end Deployment
