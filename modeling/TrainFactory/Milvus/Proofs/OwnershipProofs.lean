import TrainFactory.Dataset.Proofs.FenceProofs
import TrainFactory.Milvus.Proofs.FencesProofs

/-!
# Fences over whole runs

What holds of the registry whatever calls have led to it: a fence leaves the registry through its
owner only, keeps every consumer out, and is taken back without a trace. The links of datasets name
registered collections as long as a restoration is given what the last acquisition of its fences has
returned.
-/

namespace Milvus

open Lib

variable {host : Dataset.Host} {db db' : Tables} {s s' : Registry} {call : Call}

/-! ## Steps -/

/-- What a call does to the registry. -/
inductive Moves (s : Registry) : Call → Registry → Prop where
  | acquire {args : AcquireFences} {owner : String} {a : Acquisition} {db' : Tables}
      (h : Acquires args s.db owner a db') :
      Moves s (.acquire args) ⟨db', s.acquisitions ++ [a]⟩
  | restore {k : Nat} {deletionOwner : String} {a : Acquisition} {db' : Tables}
      (hk : s.acquisitions[k]? = some a) (hlinks : db'.links = s.db.links)
      (h : RestoresNames (strip deletionOwner) (normalizedNames a.createdPlaceholders)
        (normalizedNames a.previousCreating) (normalizedNames a.newlyFenced) s.db.collections
        db'.collections) :
      Moves s (.restore k deletionOwner) { s with db := db' }
  | delete {names : List String} {deletionOwner : String} {db' : Tables}
      (h : Deletes (normalizedNames names) (strip deletionOwner) s.db db') :
      Moves s (.delete names deletionOwner) { s with db := db' }
  | row {call : Call} {db' : Tables} (h : RowStep s.db db') : Moves s call { s with db := db' }

theorem Moves.stay (call : Call) : Moves s call s := .row .stay

theorem moves_committed {x : Except MilvusError Tables}
    (h : ∀ db', x = .ok db' → Moves s call { s with db := db' }) :
    Moves s call { s with db := committed s.db x } := by
  cases x with
  | error e => exact .stay call
  | ok db' => exact h db' rfl

theorem step_moves (host : Dataset.Host) (s : Registry) (call : Call) :
    Moves s call (s.step host call) := by
  cases call with
  | register args syncTaskId =>
    refine moves_committed fun db' h => .row ?_
    obtain ⟨⟨entry, db₁⟩, hok, rfl⟩ := map_eq_ok.mp h
    exact (registerCollection_ok hok).1
  | reserve args hybridEnabled =>
    refine moves_committed fun db' h => .row ?_
    obtain ⟨⟨entry, created, db₁⟩, hok, rfl⟩ := map_eq_ok.mp h
    exact (reserveManualCollection_ok hok).1
  | activate collectionName collectionId userId =>
    exact moves_committed fun db' h => .row (activateManualCollection_ok h).1
  | cancel collectionName collectionId userId =>
    exact moves_committed fun db' h => .row (cancelManualCollectionCreation_ok h).1
  | link args =>
    refine moves_committed fun db' h => .row ?_
    have hlink : linkDataset host args s.db = .ok db' := h
    exact (linkDataset_ok hlink).1
  | acquire args =>
    simp only [Registry.step]
    cases hok : acquireDeletionFences args s.db with
    | error e => exact .stay _
    | ok result =>
      obtain ⟨owner, h⟩ := acquireDeletionFences_ok hok
      exact .acquire h
  | restore k deletionOwner =>
    simp only [Registry.step]
    cases hk : s.acquisitions[k]? with
    | none => exact .stay _
    | some a =>
      refine moves_committed fun db' h => ?_
      obtain ⟨hlinks, hrows⟩ := restoreDeletionFences_ok h
      exact .restore hk hlinks hrows
  | delete names deletionOwner =>
    refine moves_committed fun db' h => ?_
    obtain ⟨⟨deleted, db₁⟩, hok, rfl⟩ := map_eq_ok.mp h
    rcases deleteCollections_ok hok with rfl | hdeletes
    · exact .stay _
    · exact .delete hdeletes

/-! ## Rows that a creation or a link touches -/

theorem lookup_activate (collections : Table CollectionRow) (name n : String) :
    (collections.update name activated key_activated).lookup n =
      if n = name then (collections.lookup name).map activated else collections.lookup n :=
  Table.lookup_update ..

theorem RowStep.lookup_new (h : RowStep db db') {name : String} {c : CollectionRow}
    (hrow : db'.collections.lookup name = some c) :
    db.collections.lookup name = some c ∨ c.status ≠ .deleting ∧
      (c.deletionOwner = none ∨
        ∃ c₀, db.collections.lookup name = some c₀ ∧ c₀.status = .creating ∧
          c.deletionOwner = c₀.deletionOwner) := by
  cases h with
  | stay => exact Or.inl hrow
  | @insert entry collections hins hstatus howner =>
    obtain ⟨-, hlookup⟩ := lookup_insertCollection hins
    rw [hlookup] at hrow
    split_ifs at hrow
    · obtain rfl := Option.some.inj hrow
      exact Or.inr ⟨hstatus, Or.inl howner⟩
    · exact Or.inl hrow
  | activate name' hrow' hstatus =>
    rw [lookup_activate] at hrow
    split_ifs at hrow with hname
    · rw [hrow', Option.map_some] at hrow
      obtain rfl := Option.some.inj hrow
      exact Or.inr ⟨by simp [activated], Or.inr ⟨_, hname ▸ hrow', hstatus, rfl⟩⟩
    · exact Or.inl hrow
  | cancel name' hrow' hstatus =>
    rw [lookup_deleteName] at hrow
    split_ifs at hrow
    exact Or.inl hrow
  | link hlinks hrow' hstatus => exact Or.inl hrow

theorem RowStep.lookup_kept (h : RowStep db db') {name : String} {c : CollectionRow}
    (hrow : db.collections.lookup name = some c) (hcreating : c.status ≠ .creating) :
    db'.collections.lookup name = some c := by
  cases h with
  | stay => exact hrow
  | insert hins hstatus howner =>
    obtain ⟨hnone, hlookup⟩ := lookup_insertCollection hins
    rw [hlookup, if_neg, hrow]
    intro hname
    rw [hname, hrow] at hnone
    exact absurd hnone (by simp)
  | activate name' hrow' hstatus =>
    rw [lookup_activate, if_neg, hrow]
    intro hname
    rw [hname, hrow'] at hrow
    obtain rfl := Option.some.inj hrow
    exact hcreating hstatus
  | cancel name' hrow' hstatus =>
    rw [lookup_deleteName, if_neg, hrow]
    intro hname
    rw [hname, hrow'] at hrow
    obtain rfl := Option.some.inj hrow
    exact hcreating hstatus
  | link hlinks hrow' hstatus => exact hrow

theorem RowStep.mem_links (h : RowStep db db') {l : LinkRow} (hl : l ∈ db'.links) :
    l ∈ db.links ∨
      ∃ c, db.collections.lookup l.collectionName = some c ∧ c.status = .active := by
  cases h with
  | stay => exact Or.inl hl
  | insert hins hstatus howner => exact Or.inl hl
  | activate name' hrow' hstatus => exact Or.inl hl
  | cancel name' hrow' hstatus => exact Or.inl hl
  | link hlinks hrow hstatus =>
    rcases hlinks l hl with hold | hname
    · exact Or.inl hold
    · exact Or.inr ⟨_, hname ▸ hrow, hstatus⟩

/-! ## Reachable registries -/

/-- What is in the lists of an acquisition. -/
def Acquisition.IsNormal (a : Acquisition) : Prop :=
  ∀ name, name ∈ a.newlyFenced ∨ name ∈ a.createdPlaceholders ∨ name ∈ a.previousCreating →
    Milvus.IsNormal name

/-- No row has an owner without a fence, and every acquisition names its collections as they are
registered. -/
structure Clean (s : Registry) : Prop where
  unfenced : ∀ name c, s.db.collections.lookup name = some c → c.status ≠ .deleting →
    c.deletionOwner = none
  normal : ∀ a ∈ s.acquisitions, a.IsNormal

theorem Acquires.isNormal {args : AcquireFences} {owner : String} {a : Acquisition}
    (h : Acquires args db owner a db') : a.IsNormal := by
  intro name hname
  have hmem : name ∈ a.collectionNames := by
    rw [h.newlyFenced, h.createdPlaceholders, h.previousCreating] at hname
    rcases hname with hname | hname | hname <;> exact (List.mem_filter.mp hname).1
  rw [h.names] at hmem
  exact isNormal_of_mem hmem

theorem status_fencedRow (args : AcquireFences) (owner name : String)
    (entry : Option CollectionRow) : IsFencedBy owner (args.fencedRow owner name entry) := by
  cases entry with
  | none => exact ⟨rfl, rfl⟩
  | some c => exact isFencedBy_fenced owner c

theorem Acquisition.IsNormal.restores {a : Acquisition} (ha : a.IsNormal) {owner : String}
    {rows rows' : Table CollectionRow}
    (h : RestoresNames owner (normalizedNames a.createdPlaceholders)
      (normalizedNames a.previousCreating) (normalizedNames a.newlyFenced) rows rows') :
    RestoresNames owner a.createdPlaceholders a.previousCreating a.newlyFenced rows rows' := by
  have hnew : ∀ {name}, name ∈ normalizedNames a.newlyFenced ↔ name ∈ a.newlyFenced :=
    mem_normalizedNames_of_normal fun name hname => ha name (Or.inl hname)
  have hplaceholders : ∀ {name},
      name ∈ normalizedNames a.createdPlaceholders ↔ name ∈ a.createdPlaceholders :=
    mem_normalizedNames_of_normal fun name hname => ha name (Or.inr (Or.inl hname))
  have hcreating : ∀ {name},
      name ∈ normalizedNames a.previousCreating ↔ name ∈ a.previousCreating :=
    mem_normalizedNames_of_normal fun name hname => ha name (Or.inr (Or.inr hname))
  refine ⟨fun name => ?_, fun name hname => h.fenced name (hnew.mpr hname)⟩
  have hrow := h.restored name
  simp only [hnew] at hrow
  rw [hrow]
  cases rows.lookup name with
  | none => rfl
  | some c => simp only [restoredRow, hplaceholders, hcreating]

theorem restoredRow_eq_some {placeholders creatingNames : List String} {name : String}
    {entry : Option CollectionRow} {c : CollectionRow}
    (h : restoredRow placeholders creatingNames name entry = some c) :
    name ∉ placeholders ∧ ∃ c₀, entry = some c₀ ∧
      c = unfenced (if name ∈ creatingNames then .creating else .active) c₀ := by
  cases entry with
  | none => exact absurd h (by simp [restoredRow])
  | some c₀ =>
    simp only [restoredRow] at h
    split_ifs at h with hplaceholder <;>
    · obtain rfl := Option.some.inj h
      exact ⟨hplaceholder, c₀, rfl, by simp [*]⟩

theorem unfenced_status {name : String} {creatingNames : List String} {c : CollectionRow} :
    (unfenced (if name ∈ creatingNames then .creating else .active) c).status ≠ .deleting := by
  unfold unfenced
  split_ifs <;> simp

theorem Clean.moves (h : Clean s) (hmoves : Moves s call s') : Clean s' := by
  cases hmoves with
  | @acquire args owner a db' hacquires =>
    refine ⟨fun name c hrow hstatus => ?_, fun a' ha' => ?_⟩
    · rw [hacquires.rows] at hrow
      split_ifs at hrow with hname
      · obtain rfl := Option.some.inj hrow
        exact absurd (status_fencedRow args owner name _).1 hstatus
      · exact h.unfenced name c hrow hstatus
    · rcases List.mem_append.mp ha' with ha' | ha'
      · exact h.normal a' ha'
      · obtain rfl := List.mem_singleton.mp ha'
        exact hacquires.isNormal
  | restore hk hlinks hrestores =>
    refine ⟨fun name c hrow hstatus => ?_, h.normal⟩
    rw [hrestores.restored] at hrow
    split_ifs at hrow with hname
    · obtain ⟨-, c₀, -, rfl⟩ := restoredRow_eq_some hrow
      rfl
    · exact h.unfenced name c hrow hstatus
  | delete hdeletes =>
    refine ⟨fun name c hrow hstatus => ?_, h.normal⟩
    rw [hdeletes.rows] at hrow
    split_ifs at hrow
    exact h.unfenced name c hrow hstatus
  | row hstep =>
    refine ⟨fun name c hrow hstatus => ?_, h.normal⟩
    rcases hstep.lookup_new hrow with hold | ⟨-, hnone | ⟨c₀, hrow₀, hcreating, howner⟩⟩
    · exact h.unfenced name c hold hstatus
    · exact hnone
    · rw [howner]
      exact h.unfenced name c₀ hrow₀ (by simp [hcreating])

theorem clean_empty : Clean Registry.empty where
  unfenced name c hrow := absurd hrow (by simp [Registry.empty])
  normal a ha := absurd ha (by simp [Registry.empty])

theorem clean_run (host : Dataset.Host) (calls : List Call) :
    Clean (exec (Registry.step host) Registry.empty calls) :=
  exec_invariant (fun s call (h : Clean s) _ => h.moves (step_moves host s call)) clean_empty
    (Admits.of_forall (p := fun _ => True) fun _ _ => trivial)

/-! ## The life of a fence -/

/-- The call is one of the two that may end a fence of this owner. -/
def Call.Releases (s : Registry) (owner name : String) : Call → Prop
  | .restore k deletionOwner => strip deletionOwner = owner ∧
      ∃ a, s.acquisitions[k]? = some a ∧ name ∈ a.newlyFenced
  | .delete names deletionOwner => strip deletionOwner = owner ∧ name ∈ normalizedNames names
  | _ => False

theorem kept_moves (hclean : Clean s) (hmoves : Moves s call s') {owner name : String}
    {c : CollectionRow} (hrow : s.db.collections.lookup name = some c)
    (hfenced : IsFencedBy owner c) :
    s'.db.collections.lookup name = some c ∨ call.Releases s owner name := by
  cases hmoves with
  | @acquire args owner' a db' hacquires =>
    refine Or.inl ?_
    rw [hacquires.rows]
    split_ifs with hname
    · rw [hrow]
      rcases hacquires.fenceable name hname c hrow with hsame | hactive | ⟨hcreating, -⟩
      · exact congrArg some (fenced_of_isFencedBy hsame)
      · exact absurd (hfenced.1.symm.trans hactive) (by simp)
      · exact absurd (hfenced.1.symm.trans hcreating) (by simp)
    · exact hrow
  | @restore k deletionOwner a db' hk hlinks hrestores =>
    have hrestores := (hclean.normal a (List.mem_of_getElem? hk)).restores hrestores
    by_cases hname : name ∈ a.newlyFenced
    · have howner := (hrestores.fenced name hname c hrow).2.symm.trans hfenced.2
      exact Or.inr ⟨Option.some.inj howner, a, hk, hname⟩
    · rw [hrestores.restored, if_neg hname]
      exact Or.inl hrow
  | @delete names deletionOwner db' hdeletes =>
    by_cases hname : name ∈ normalizedNames names
    · have howner := (hdeletes.fenced name hname c hrow).2.symm.trans hfenced.2
      exact Or.inr ⟨Option.some.inj howner, hname⟩
    · rw [hdeletes.rows, if_neg hname]
      exact Or.inl hrow
  | row hstep => exact Or.inl (hstep.lookup_kept hrow (by simp [hfenced.1]))

def Call.Consumes (name : String) : Call → Prop
  | .register args _ => args.collectionName = name
  | .reserve args _ => args.collectionName = name
  | .activate collectionName _ _ => collectionName = name
  | .link args => args.collectionName = name
  | _ => False

theorem blocked_apply {name : String} {c : CollectionRow}
    (hrow : db.collections.lookup name = some c) (hdeleting : c.status = .deleting)
    (hconsumes : call.Consumes name) : ∀ db', call.apply host db ≠ .ok db' := by
  intro db' h
  cases call with
  | register args syncTaskId =>
    obtain rfl : args.collectionName = name := hconsumes
    obtain ⟨⟨entry, db₁⟩, hok, -⟩ := map_eq_ok.mp h
    exact absurd (hdeleting.symm.trans ((registerCollection_ok hok).2 c hrow)) (by simp)
  | reserve args hybridEnabled =>
    obtain rfl : args.collectionName = name := hconsumes
    obtain ⟨⟨entry, created, db₁⟩, hok, -⟩ := map_eq_ok.mp h
    exact absurd (hdeleting.symm.trans ((reserveManualCollection_ok hok).2 c hrow)) (by simp)
  | activate collectionName collectionId userId =>
    obtain rfl : collectionName = name := hconsumes
    obtain ⟨-, c', hrow', hcreating⟩ := activateManualCollection_ok h
    obtain rfl := Option.some.inj (hrow.symm.trans hrow')
    exact absurd (hdeleting.symm.trans hcreating) (by simp)
  | link args =>
    obtain rfl : args.collectionName = name := hconsumes
    have hlink : linkDataset host args db = .ok db' := h
    obtain ⟨-, c', hrow', hactive⟩ := linkDataset_ok hlink
    obtain rfl := Option.some.inj (hrow.symm.trans hrow')
    exact absurd (hdeleting.symm.trans hactive) (by simp)
  | cancel collectionName collectionId userId => exact hconsumes
  | acquire args => exact hconsumes
  | restore k deletionOwner => exact hconsumes
  | delete names deletionOwner => exact hconsumes

/-! ## Acquisition, taken back -/

/-- Fences that are held by the owner, or whose rows are gone, can be taken back. -/
theorem exists_foldlM_restoreName {owner : String} {placeholders creatingNames names : List String}
    (hnodup : names.Nodup) {rows : Table CollectionRow}
    (hfenced : ∀ name ∈ names, ∀ c, rows.lookup name = some c → IsFencedBy owner c) :
    ∃ rows', names.foldlM (restoreName owner placeholders creatingNames) rows = .ok rows' := by
  induction names generalizing rows with
  | nil => exact ⟨rows, rfl⟩
  | cons name names ih =>
    obtain ⟨hname, hnodup⟩ := List.nodup_cons.mp hnodup
    have hhead := hfenced name (List.mem_cons_self ..)
    obtain ⟨rows₁, hfirst⟩ :
        ∃ rows₁, restoreName owner placeholders creatingNames rows name = .ok rows₁ := by
      unfold restoreName
      cases hentry : rows.lookup name with
      | none => exact ⟨rows, rfl⟩
      | some c =>
        have hguard : ¬ (c.status ≠ .deleting ∨ c.deletionOwner ≠ some owner) := by
          obtain ⟨hstatus, howner⟩ := hhead c hentry
          simp [hstatus, howner]
        simp only [if_neg hguard]
        split_ifs <;> exact ⟨_, rfl⟩
    have hother : ∀ n ∈ names, rows₁.lookup n = rows.lookup n := by
      intro n hn
      have hne : n ∉ [name] := fun hc => hname (List.mem_singleton.mp hc ▸ hn)
      rw [(restoreName_ok hfirst).restored, if_neg hne]
    have hrestFenced : ∀ n ∈ names, ∀ c, rows₁.lookup n = some c → IsFencedBy owner c :=
      fun n hn c hc =>
        hfenced n (List.mem_cons_of_mem _ hn) c ((hother n hn).symm.trans hc)
    obtain ⟨rows', hrest⟩ := ih hnodup hrestFenced
    refine ⟨rows', ?_⟩
    rw [List.foldlM_cons]
    exact bind_eq_ok.mpr ⟨rows₁, hfirst, hrest⟩

/-- What an acquisition has fenced newly can be restored, to the rows that were there. -/
theorem Acquires.restored {args : AcquireFences} {owner : String} {a : Acquisition}
    (h : Acquires args db owner a db') (hclean : ∀ name c,
      db.collections.lookup name = some c → c.status ≠ .deleting → c.deletionOwner = none) :
    ∃ db'', restoreAcquisition args.deletionOwner a db' = .ok db'' ∧ db''.links = db.links ∧
      ∀ name, db''.collections.lookup name = db.collections.lookup name := by
  have howner := normalizeDeletionOwner_ok h.normalized
  have hmem : ∀ {name}, name ∈ a.newlyFenced ↔ name ∈ a.collectionNames ∧
      ∀ c, db.collections.lookup name = some c → ¬ IsFencedBy owner c := by
    intro name
    rw [h.newlyFenced, mem_newlyFencedOf]
  have hnew : ∀ {name}, name ∈ normalizedNames a.newlyFenced ↔ name ∈ a.newlyFenced :=
    mem_normalizedNames_of_normal fun name hname => h.isNormal name (Or.inl hname)
  have hfenced : ∀ name ∈ normalizedNames a.newlyFenced, ∀ c,
      db'.collections.lookup name = some c → IsFencedBy owner c := by
    intro name hname c hc
    rw [h.rows, if_pos (hmem.mp (hnew.mp hname)).1] at hc
    obtain rfl := Option.some.inj hc
    exact status_fencedRow args owner name _
  obtain ⟨rows', hrows'⟩ : ∃ rows', (normalizedNames a.newlyFenced).foldlM
      (restoreName owner (normalizedNames a.createdPlaceholders)
        (normalizedNames a.previousCreating)) db'.collections = .ok rows' :=
    exists_foldlM_restoreName (nodup_normalizedNames a.newlyFenced) hfenced
  have hok : restoreAcquisition args.deletionOwner a db' =
      .ok { db' with collections := rows' } :=
    bind_eq_ok.mpr ⟨owner, h.normalized, bind_eq_ok.mpr ⟨rows', hrows', rfl⟩⟩
  have hrestores := h.isNormal.restores
    (foldlM_restoreName_ok (nodup_normalizedNames a.newlyFenced) hrows')
  refine ⟨_, hok, h.links, fun name => ?_⟩
  show rows'.lookup name = db.collections.lookup name
  rw [hrestores.restored, h.rows]
  by_cases hname : name ∈ a.newlyFenced
  · obtain ⟨hnames, hnotFenced⟩ := hmem.mp hname
    rw [if_pos hname, if_pos hnames]
    have hplaceholder : name ∈ a.createdPlaceholders ↔ db.collections.lookup name = none := by
      rw [h.createdPlaceholders, mem_placeholdersOf, and_iff_right hnames]
    have hcreating : name ∈ a.previousCreating ↔
        ∃ c, db.collections.lookup name = some c ∧ c.status = .creating := by
      rw [h.previousCreating, mem_creatingOf, and_iff_right hnames]
    cases hrow : db.collections.lookup name with
    | none => simp [restoredRow, hplaceholder.mpr hrow]
    | some c =>
      have hnot : name ∉ a.createdPlaceholders := by
        rw [hplaceholder, hrow]
        simp
      simp only [restoredRow, AcquireFences.fencedRow, if_neg hnot, Option.some.injEq]
      rcases h.fenceable name hnames c hrow with hsame | hactive | ⟨hstatus, hnone⟩
      · exact absurd hsame (hnotFenced c hrow)
      · have hnone := hclean name c hrow (by simp [hactive])
        have hnotCreating : name ∉ a.previousCreating := by
          rw [hcreating, hrow]
          simp [hactive]
        simp [if_neg hnotCreating, unfenced, fenced, ← hactive, ← hnone]
      · simp [if_pos (hcreating.mpr ⟨c, hrow, hstatus⟩), unfenced, fenced, ← hstatus, ← hnone]
  · rw [if_neg hname]
    split_ifs with hnames
    · have hheld : ∃ c, db.collections.lookup name = some c ∧ IsFencedBy owner c := by
        by_contra hnot
        exact hname (hmem.mpr ⟨hnames, fun c hrow hsame => hnot ⟨c, hrow, hsame⟩⟩)
      obtain ⟨c, hrow, hsame⟩ := hheld
      rw [hrow]
      exact congrArg some (fenced_of_isFencedBy hsame)
    · rfl

/-! ## Links -/

/-- What the last acquisition that has fenced a name newly has returned. -/
def lastFencing (acquisitions : List Acquisition) (name : String) : Option Acquisition :=
  acquisitions.reverse.find? fun a => name ∈ a.newlyFenced

theorem lastFencing_append (acquisitions : List Acquisition) (a : Acquisition) (name : String) :
    lastFencing (acquisitions ++ [a]) name =
      if name ∈ a.newlyFenced then some a else lastFencing acquisitions name := by
  unfold lastFencing
  rw [List.reverse_append, List.reverse_singleton, List.singleton_append, List.find?_cons]
  split_ifs with hname <;> simp [hname]

/-- A restoration takes back fences that nobody has acquired anew. -/
def OwnFences (s : Registry) : Call → Prop
  | .restore k deletionOwner => ∀ a, s.acquisitions[k]? = some a → ∀ name ∈ a.newlyFenced,
      ∀ c, s.db.collections.lookup name = some c → IsFencedBy (strip deletionOwner) c →
        lastFencing s.acquisitions name = some a
  | _ => True

/-- Links name collections that are not under creation, and a collection that is fenced has no links
if its fence is taken back by a deletion or by a return to creation. -/
structure LinksHeld (s : Registry) : Prop where
  named : ∀ l ∈ s.db.links, ∃ c, s.db.collections.lookup l.collectionName = some c ∧
    c.status ≠ .creating
  fenced : ∀ name c, s.db.collections.lookup name = some c → c.status = .deleting →
    ∃ a, lastFencing s.acquisitions name = some a ∧
      (name ∈ a.createdPlaceholders ∨ name ∈ a.previousCreating →
        ∀ l ∈ s.db.links, l.collectionName ≠ name)

theorem LinksHeld.acquires (h : LinksHeld s) {args : AcquireFences} {owner : String}
    {a : Acquisition} (hacquires : Acquires args s.db owner a db') :
    LinksHeld ⟨db', s.acquisitions ++ [a]⟩ := by
  refine ⟨fun l hl => ?_, fun name c hrow hdeleting => ?_⟩
  · rw [hacquires.links] at hl
    obtain ⟨c, hrow, hstatus⟩ := h.named l hl
    show ∃ c, db'.collections.lookup l.collectionName = some c ∧ c.status ≠ .creating
    rw [hacquires.rows]
    split_ifs with hname
    · have hfenced := status_fencedRow args owner l.collectionName
        (s.db.collections.lookup l.collectionName)
      exact ⟨_, rfl, by simp [hfenced.1]⟩
    · exact ⟨c, hrow, hstatus⟩
  · show ∃ a', lastFencing (s.acquisitions ++ [a]) name = some a' ∧ _
    have hmem : name ∈ a.newlyFenced ↔ name ∈ a.collectionNames ∧
        ∀ c, s.db.collections.lookup name = some c → ¬ IsFencedBy owner c := by
      rw [hacquires.newlyFenced, mem_newlyFencedOf]
    rw [lastFencing_append]
    split_ifs with hname
    · refine ⟨a, rfl, fun hmade l hl hcollection => ?_⟩
      have hl : l ∈ s.db.links := hacquires.links ▸ hl
      obtain ⟨c₀, hrow₀, hstatus₀⟩ := h.named l hl
      rw [hcollection] at hrow₀
      rw [hacquires.createdPlaceholders, hacquires.previousCreating, mem_placeholdersOf,
        mem_creatingOf] at hmade
      rcases hmade with ⟨-, hnone⟩ | ⟨-, c₁, hrow₁, hcreating⟩
      · rw [hrow₀] at hnone
        exact absurd hnone (by simp)
      · obtain rfl := Option.some.inj (hrow₀.symm.trans hrow₁)
        exact hstatus₀ hcreating
    · -- the fence is older: the row is the one before the acquisition
      have hold : s.db.collections.lookup name = some c := by
        have hrow' := hacquires.rows name
        split_ifs at hrow' with hnames
        · have hheld : ∃ c₀, s.db.collections.lookup name = some c₀ ∧ IsFencedBy owner c₀ := by
            by_contra hnot
            exact hname (hmem.mpr ⟨hnames, fun c₀ hrow₀ hsame => hnot ⟨c₀, hrow₀, hsame⟩⟩)
          obtain ⟨c₀, hrow₀, hsame⟩ := hheld
          have hrow'' : db'.collections.lookup name = some c₀ := by
            rw [hrow', hrow₀]
            exact congrArg some (fenced_of_isFencedBy hsame)
          rw [hrow₀]
          exact hrow''.symm.trans hrow
        · exact hrow'.symm.trans hrow
      obtain ⟨a₀, hlast, hmade⟩ := h.fenced name c hold hdeleting
      refine ⟨a₀, hlast, fun hin l hl => hmade hin l ?_⟩
      exact hacquires.links ▸ hl

theorem LinksHeld.restores (h : LinksHeld s) {k : Nat} {deletionOwner : String} {a : Acquisition}
    (hown : OwnFences s (.restore k deletionOwner)) (hk : s.acquisitions[k]? = some a)
    (hlinks : db'.links = s.db.links)
    (hrestores : RestoresNames (strip deletionOwner) a.createdPlaceholders a.previousCreating
      a.newlyFenced s.db.collections db'.collections) : LinksHeld { s with db := db' } := by
  refine ⟨fun l hl => ?_, fun name c hrow hdeleting => ?_⟩
  · have hl : l ∈ s.db.links := hlinks ▸ hl
    obtain ⟨c, hrow, hstatus⟩ := h.named l hl
    show ∃ c, db'.collections.lookup l.collectionName = some c ∧ c.status ≠ .creating
    rw [hrestores.restored]
    split_ifs with hname
    · -- the fence is the one of this acquisition, which has found the collection active
      have hfenced := hrestores.fenced l.collectionName hname c hrow
      have hlast := hown a hk l.collectionName hname c hrow hfenced
      obtain ⟨a₀, hlast₀, hmade⟩ := h.fenced l.collectionName c hrow hfenced.1
      obtain rfl := Option.some.inj (hlast.symm.trans hlast₀)
      have hnot : ¬ (l.collectionName ∈ a.createdPlaceholders ∨
          l.collectionName ∈ a.previousCreating) := fun hin => hmade hin l hl rfl
      obtain ⟨hplaceholder, hcreating⟩ := not_or.mp hnot
      rw [hrow, restoredRow, if_neg hplaceholder, if_neg hcreating]
      exact ⟨_, rfl, by simp [unfenced]⟩
    · exact ⟨c, hrow, hstatus⟩
  · have hrow : db'.collections.lookup name = some c := hrow
    rw [hrestores.restored] at hrow
    split_ifs at hrow with hname
    · obtain ⟨-, c₀, -, rfl⟩ := restoredRow_eq_some hrow
      exact absurd hdeleting unfenced_status
    · obtain ⟨a₀, hlast, hmade⟩ := h.fenced name c hrow hdeleting
      exact ⟨a₀, hlast, fun hin l hl => hmade hin l (hlinks ▸ hl)⟩

theorem LinksHeld.deletes (h : LinksHeld s) {names : List String} {owner : String}
    (hdeletes : Deletes names owner s.db db') : LinksHeld { s with db := db' } := by
  refine ⟨fun l hl => ?_, fun name c hrow hdeleting => ?_⟩
  · obtain ⟨hl, hname⟩ := (hdeletes.links l).mp hl
    obtain ⟨c, hrow, hstatus⟩ := h.named l hl
    refine ⟨c, ?_, hstatus⟩
    show db'.collections.lookup l.collectionName = some c
    rw [hdeletes.rows, if_neg hname]
    exact hrow
  · have hrow : db'.collections.lookup name = some c := hrow
    rw [hdeletes.rows] at hrow
    split_ifs at hrow
    obtain ⟨a₀, hlast, hmade⟩ := h.fenced name c hrow hdeleting
    exact ⟨a₀, hlast, fun hin l hl => hmade hin l ((hdeletes.links l).mp hl).1⟩

theorem LinksHeld.rowStep (h : LinksHeld s) (hstep : RowStep s.db db') :
    LinksHeld { s with db := db' } := by
  refine ⟨fun l hl => ?_, fun name c hrow hdeleting => ?_⟩
  · rcases hstep.mem_links hl with hold | ⟨c, hrow, hactive⟩
    · obtain ⟨c, hrow, hstatus⟩ := h.named l hold
      exact ⟨c, hstep.lookup_kept hrow hstatus, hstatus⟩
    · have hstatus : c.status ≠ .creating := by simp [hactive]
      exact ⟨c, hstep.lookup_kept hrow hstatus, hstatus⟩
  · rcases hstep.lookup_new hrow with hold | ⟨hstatus, -⟩
    · obtain ⟨a₀, hlast, hmade⟩ := h.fenced name c hold hdeleting
      refine ⟨a₀, hlast, fun hin l hl hcollection => ?_⟩
      rcases hstep.mem_links hl with hl | ⟨c₀, hrow₀, hactive⟩
      · exact hmade hin l hl hcollection
      · rw [hcollection, hold] at hrow₀
        obtain rfl := Option.some.inj hrow₀
        exact absurd (hdeleting.symm.trans hactive) (by simp)
    · exact absurd hdeleting hstatus

theorem LinksHeld.moves (hclean : Clean s) (h : LinksHeld s) (hown : OwnFences s call)
    (hmoves : Moves s call s') : LinksHeld s' := by
  cases hmoves with
  | acquire hacquires => exact h.acquires hacquires
  | restore hk hlinks hrestores =>
    exact h.restores hown hk hlinks
      ((hclean.normal _ (List.mem_of_getElem? hk)).restores hrestores)
  | delete hdeletes => exact h.deletes hdeletes
  | row hstep => exact h.rowStep hstep

theorem linksHeld_empty : LinksHeld Registry.empty where
  named l hl := absurd hl (by simp [Registry.empty])
  fenced name c hrow := absurd hrow (by simp [Registry.empty])

theorem linksHeld_run {calls : List Call}
    (hown : Admits (Registry.step host) OwnFences Registry.empty calls) :
    LinksHeld (exec (Registry.step host) Registry.empty calls) := by
  have hrun : Clean (exec (Registry.step host) Registry.empty calls) ∧
      LinksHeld (exec (Registry.step host) Registry.empty calls) :=
    exec_invariant
      (fun s call (h : Clean s ∧ LinksHeld s) hcall =>
        have hmoves := step_moves host s call
        ⟨h.1.moves hmoves, h.2.moves h.1 hcall hmoves⟩)
      ⟨clean_empty, linksHeld_empty⟩ hown
  exact hrun.2

/-! ## Ownership of the fences -/

/-- All names of an acquisition are fenced for its owner, or the call raises and changes nothing. -/
def AllOrNone (host : Dataset.Host) (s : Registry) : Prop :=
  ∀ args : AcquireFences,
    (∃ a db', acquireDeletionFences args s.db = .ok (a, db') ∧
      (s.step host (.acquire args)).db = db' ∧
      ∀ name ∈ normalizedNames args.collectionNames, ∃ c,
        db'.collections.lookup name = some c ∧ IsFencedBy (strip args.deletionOwner) c) ∨
    (∃ e, acquireDeletionFences args s.db = .error e) ∧ s.step host (.acquire args) = s

/-- A fence ends only through a restoration or a deletion by its owner. -/
def Kept (host : Dataset.Host) (s : Registry) : Prop :=
  ∀ name owner c, s.db.collections.lookup name = some c → IsFencedBy owner c → ∀ call,
    (∃ c', (s.step host call).db.collections.lookup name = some c' ∧ IsFencedBy owner c') ∨
      call.Releases s owner name

/-- While a name is fenced, its lock and its consumers raise. -/
def Blocked (host : Dataset.Host) (s : Registry) : Prop :=
  ∀ name c, s.db.collections.lookup name = some c → c.status = .deleting →
    (∀ userId, ∃ e, lockCollectionForConsumption s.db.collections name userId = .error e) ∧
    ∀ call : Call, call.Consumes name → ∃ e, call.apply host s.db = .error e

/-- An acquisition that is restored at once leaves every row and the links as they were. -/
def Undone (host : Dataset.Host) (s : Registry) : Prop :=
  ∀ args : AcquireFences,
    let s' := (s.step host (.acquire args)).step host
      (.restore s.acquisitions.length args.deletionOwner)
    s'.db.links = s.db.links ∧
      ∀ name, s'.db.collections.lookup name = s.db.collections.lookup name

/-- Every link names a registered collection. -/
def LinksNamed (s : Registry) : Prop :=
  ∀ l ∈ s.db.links, ∃ c, s.db.collections.lookup l.collectionName = some c

theorem allOrNone (host : Dataset.Host) (s : Registry) : AllOrNone host s := by
  intro args
  simp only [Registry.step]
  cases hok : acquireDeletionFences args s.db with
  | error e => exact Or.inr ⟨⟨e, rfl⟩, rfl⟩
  | ok result =>
    obtain ⟨owner, h⟩ := acquireDeletionFences_ok hok
    refine Or.inl ⟨result.1, result.2, rfl, rfl, fun name hname => ?_⟩
    rw [h.rows, h.names, if_pos hname, ← normalizeDeletionOwner_ok h.normalized]
    exact ⟨_, rfl, status_fencedRow args owner name _⟩

theorem kept (hclean : Clean s) : Kept host s := by
  intro name owner c hrow hfenced call
  rcases kept_moves hclean (step_moves host s call) hrow hfenced with hsame | hreleases
  · exact Or.inl ⟨c, hsame, hfenced⟩
  · exact Or.inr hreleases

theorem error_of_ne_ok {ε α : Type} {x : Except ε α} (h : ∀ a, x ≠ .ok a) :
    ∃ e, x = .error e := by
  cases x with
  | error e => exact ⟨e, rfl⟩
  | ok a => exact absurd rfl (h a)

theorem blocked (host : Dataset.Host) (s : Registry) : Blocked host s := by
  intro name c hrow hdeleting
  refine ⟨fun userId => error_of_ne_ok fun c' hlock => ?_,
    fun call hconsumes => error_of_ne_ok (blocked_apply hrow hdeleting hconsumes)⟩
  obtain ⟨hrow', hactive⟩ := lockCollectionForConsumption_ok hlock
  obtain rfl := Option.some.inj (hrow.symm.trans hrow')
  exact absurd (hdeleting.symm.trans hactive) (by simp)

theorem undone (hclean : Clean s) : Undone host s := by
  intro args
  simp only [Registry.step]
  cases hok : acquireDeletionFences args s.db with
  | error e => simp
  | ok result =>
    obtain ⟨owner, h⟩ := acquireDeletionFences_ok hok
    obtain ⟨db'', hrestored, hlinks, hrows⟩ := h.restored hclean.unfenced
    simpa [hrestored, committed] using ⟨hlinks, hrows⟩

/-- The fences of every run are owned and reversible; links name registered collections as long as
a restoration is given what the last acquisition of its fences has returned. -/
theorem fences_owned (host : Dataset.Host) (calls : List Call) :
    let s := exec (Registry.step host) Registry.empty calls
    (AllOrNone host s ∧ Kept host s ∧ Blocked host s ∧ Undone host s) ∧
      (Admits (Registry.step host) OwnFences Registry.empty calls → LinksNamed s) := by
  intro s
  have hclean := clean_run host calls
  refine ⟨⟨allOrNone host s, kept hclean, blocked host s, undone hclean⟩, fun hown l hl => ?_⟩
  obtain ⟨c, hrow, -⟩ := (linksHeld_run hown).named l hl
  exact ⟨c, hrow⟩

/-! ## A restoration that comes late -/

/-- The dataset of the links below. -/
def linkedDataset : Dataset.Datasets where
  rows := [{
    datasetId := "ds", storageBackend := "local", storagePath := some "/data/ds"
    storagePathHash := none, storageUri := none, status := .ready, deletionOwner := none
    errorMessage := none, userId := none, sourceTaskType := none, sourceTaskId := none
    generationRunToken := none }]
  nodup := by simp

/-- A registration of `docs`. -/
def docs (collectionId : String) : NewCollection where
  collectionName := "docs"
  embeddingConfigId := none
  embeddingModel := none
  embeddingEndpoint := none
  dim := 1024
  metricType := "COSINE"
  displayName := none
  description := none
  userId := none
  embeddingAvailable := true
  syncTasks := []
  collectionId := collectionId

/-- A deletion of `docs` by the owner `op`. -/
def fenceDocs (placeholderId : String) : AcquireFences where
  collectionNames := ["docs"]
  deletionOwner := "op"
  userId := none
  expectedCollectionIds := none
  allowManualCreating := false
  placeholderIds := fun _ => placeholderId

/-- The dataset is linked to `docs`. -/
def linkDocs : LinkDataset := ⟨"docs", "ds", none, 3, none, linkedDataset⟩

theorem fences_owned_restored :
    let calls : List Call := [.register (docs "c1") none, .link linkDocs, .acquire (fenceDocs "c2"),
      .restore 0 "op"]
    let s := exec (Registry.step Dataset.digestHost) Registry.empty calls
    s.db.links.rows = [linkDocs.row] ∧ LinksNamed s := by
  intro calls s
  refine ⟨by decide +kernel, (fences_owned Dataset.digestHost calls).2 ?_⟩
  refine ⟨trivial, trivial, trivial, fun a ha name hname c hrow hfenced => ?_, trivial⟩
  have hone : (exec (Registry.step Dataset.digestHost) Registry.empty (calls.take 3)).acquisitions =
      [⟨["docs"], ["docs"], [], []⟩] := by decide +kernel
  simp only [calls, List.take_succ_cons, List.take_zero, exec_cons, exec_nil] at hone
  rw [hone] at ha ⊢
  obtain rfl := Option.some.inj ha
  simp [lastFencing, hname]

/-- The same owner fences `docs` when it is not registered, deletes it, and fences it again after it
has been registered and linked; the first acquisition is restored. -/
def lateRestoration : List Call :=
  [.acquire (fenceDocs "c1"), .delete ["docs"] "op", .register (docs "c2") none, .link linkDocs,
    .acquire (fenceDocs "c3"), .restore 0 "op"]

/-- The restoration removes the registered collection and leaves its link. -/
theorem link_of_removed_collection :
    let s := exec (Registry.step Dataset.digestHost) Registry.empty lateRestoration
    s.db.links.rows = [linkDocs.row] ∧ s.db.collections.lookup "docs" = none ∧
      ¬ LinksNamed s := by
  intro s
  have hlinks : s.db.links.rows = [linkDocs.row] := by decide +kernel
  have hnone : s.db.collections.lookup "docs" = none := by decide +kernel
  refine ⟨hlinks, hnone, fun hnamed => ?_⟩
  have hmem : linkDocs.row ∈ s.db.links := by
    rw [Table.mem_def, hlinks]
    exact List.mem_singleton.mpr rfl
  obtain ⟨c, hrow⟩ := hnamed linkDocs.row hmem
  exact absurd (hnone.symm.trans hrow) (by simp)

end Milvus
