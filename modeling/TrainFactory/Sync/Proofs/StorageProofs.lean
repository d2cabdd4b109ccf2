import TrainFactory.Sync.Storage

/-!
# Proofs: the sync storage quota

A scan adds up the files outside the reserved paths. What it finds plus what is reserved is the
charge: every byte below the sync root is charged, because the file at a reserved path is not larger
than its reservation, and no step of a writer raises the charge but its admission, which checks it
against the limit.
-/

namespace Sync

open Lib

/-! ## Scanning -/

section Scan

variable {excluded : List Path}

/-- The bytes below the directories still to be scanned. -/
def pendingBytes (excluded : List Path) (pending : List (Path × List (String × Entry))) : Nat :=
  (pending.map fun d => bytesWithout excluded (filesBelow d.1 d.2)).sum

/-- The number of directories still to be scanned, those found on the way included. -/
def pendingDirectories (pending : List (Path × List (String × Entry))) : Nat :=
  (pending.map fun d => 1 + directoriesBelow d.2).sum

@[simp] theorem pendingBytes_nil : pendingBytes excluded [] = 0 := rfl

@[simp] theorem pendingBytes_cons (directory : Path) (entries : List (String × Entry))
    (pending : List (Path × List (String × Entry))) :
    pendingBytes excluded ((directory, entries) :: pending) =
      bytesWithout excluded (filesBelow directory entries) + pendingBytes excluded pending := by
  simp [pendingBytes]

@[simp] theorem pendingDirectories_nil : pendingDirectories [] = 0 := rfl

@[simp] theorem pendingDirectories_cons (directory : Path) (entries : List (String × Entry))
    (pending : List (Path × List (String × Entry))) :
    pendingDirectories ((directory, entries) :: pending) =
      1 + directoriesBelow entries + pendingDirectories pending := by
  simp [pendingDirectories]

/-- Scanning one directory moves its bytes to the total and to the pending directories, and each
directory it finds is pending afterwards. -/
theorem scanDirectory_ok {directory : Path} :
    ∀ {entries : List (String × Entry)} {pending pending' : List (Path × List (String × Entry))}
      {total total' : Nat},
      scanDirectory excluded directory entries pending total = .ok (pending', total') →
      total' + pendingBytes excluded pending' =
          total + bytesWithout excluded (filesBelow directory entries) +
            pendingBytes excluded pending ∧
        pendingDirectories pending' = directoriesBelow entries + pendingDirectories pending := by
  intro entries
  induction entries with
  | nil =>
    intro pending pending' total total' h
    obtain ⟨rfl, rfl⟩ : pending = pending' ∧ total = total' := by
      simpa [scanDirectory] using h
    simp [filesBelow, directoriesBelow]
  | cons named entries ih =>
    intro pending pending' total total' h
    obtain ⟨name, entry⟩ := named
    rw [filesBelow, directoriesBelow, bytesWithout_append]
    cases entry with
    | unreadable => simp [scanDirectory] at h
    | symlink =>
      obtain ⟨hbytes, hdirs⟩ := ih h
      simp only [Entry.files, Entry.directories, bytesWithout_nil]
      exact ⟨by omega, by omega⟩
    | other =>
      obtain ⟨hbytes, hdirs⟩ := ih h
      simp only [Entry.files, Entry.directories, bytesWithout_nil]
      exact ⟨by omega, by omega⟩
    | directory below =>
      obtain ⟨hbytes, hdirs⟩ := ih h
      rw [pendingBytes_cons] at hbytes
      rw [pendingDirectories_cons] at hdirs
      simp only [Entry.files, Entry.directories]
      exact ⟨by omega, by omega⟩
    | file size =>
      have hsize : bytesWithout excluded (Entry.files (directory ++ [name]) (.file size)) =
          if directory ++ [name] ∈ excluded then 0 else size := by
        simp [Entry.files, bytesWithout]
      rw [hsize]
      simp only [Entry.directories]
      by_cases hexcluded : directory ++ [name] ∈ excluded
      · have h' : scanDirectory excluded directory entries pending total =
            .ok (pending', total') := by
          simpa [scanDirectory, hexcluded] using h
        obtain ⟨hbytes, hdirs⟩ := ih h'
        rw [if_pos hexcluded]
        exact ⟨by omega, by omega⟩
      · have h' : scanDirectory excluded directory entries pending (total + size) =
            .ok (pending', total') := by
          simpa [scanDirectory, hexcluded] using h
        obtain ⟨hbytes, hdirs⟩ := ih h'
        rw [if_neg hexcluded]
        exact ⟨by omega, by omega⟩

theorem scanDirectories_ok :
    ∀ {n : Nat} {pending : List (Path × List (String × Entry))} {total size : Nat},
      scanDirectories excluded n pending total = .ok size →
      size = total + pendingBytes excluded pending := by
  intro n
  induction n with
  | zero =>
    intro pending total size h
    cases pending with
    | nil =>
      have hsize : total = size := by simpa [scanDirectories] using h
      rw [pendingBytes_nil]
      omega
    | cons d pending => simp [scanDirectories] at h
  | succ n ih =>
    intro pending total size h
    match pending, h with
    | [], h =>
      have hsize : total = size := by simpa [scanDirectories] using h
      rw [pendingBytes_nil]
      omega
    | (directory, entries) :: pending, h =>
      rw [scanDirectories] at h
      cases hscan : scanDirectory excluded directory entries pending total with
      | error e => simp [hscan] at h
      | ok scanned =>
        obtain ⟨pending', total'⟩ := scanned
        rw [hscan] at h
        obtain ⟨hbytes, -⟩ := scanDirectory_ok hscan
        have hrest := ih h
        rw [pendingBytes_cons]
        omega

theorem syncDirectorySize_ok {path : Path} {root : Entry} {size : Nat}
    (h : syncDirectorySize path root excluded = .ok size) :
    size = bytesWithout excluded (root.files path) := by
  cases root with
  | directory entries =>
    have hsize := scanDirectories_ok h
    rw [pendingBytes_cons, pendingBytes_nil] at hsize
    rw [Entry.files]
    omega
  | file size => simp [syncDirectorySize] at h
  | symlink => simp [syncDirectorySize] at h
  | other => simp [syncDirectorySize] at h
  | unreadable => simp [syncDirectorySize] at h

end Scan

/-! ## Admission -/

theorem reserveSyncStorage_ok {settings : Settings} {entries : List (String × Entry)}
    {args : ReserveArgs} {reservations reserved : Table Reservation}
    (h : reserveSyncStorage settings entries args reservations = .ok reserved) :
    0 ≤ args.byteCount ∧
      (∃ userId, reservations.insert ⟨args.targetPath, userId, args.byteCount.toNat⟩ =
        some reserved) ∧
      bytesWithout (reservations.rows.map Reservation.path) (filesBelow [] entries) +
        reservations.sumBy Reservation.size + args.byteCount.toNat ≤
          settings.syncStorageMaxBytesGlobal := by
  unfold reserveSyncStorage at h
  split at h
  · cases h
  · next userId huser =>
    split at h
    · cases h
    · next hcount =>
      dsimp only at h
      split at h
      · cases h
      · next roots hroots =>
        split at h
        · cases h
        · cases h
        · cases h
        · next reserved' globalUsage userUsage hinsert hglobal _ =>
          have husage := syncDirectorySize_ok hglobal
          rw [Entry.files] at husage
          split at h
          · cases h
          · next hlimit =>
            have hreserved : reserved' = reserved := by
              split_ifs at h <;> simpa using h
            refine ⟨by omega, ⟨userId, hreserved ▸ hinsert⟩, ?_⟩
            omega

/-! ## Files -/

theorem mem_setFile {files : Table RegularFile} {path : Path} {size : Nat} {f : RegularFile}
    (h : f ∈ setFile files path size) : f ∈ files ∨ f = ⟨path, size⟩ := by
  unfold setFile at h
  split at h
  · next files' hinsert => exact (Table.mem_insert hinsert).mp h
  · obtain ⟨f₀, hf₀, rfl⟩ := Table.mem_update.mp h
    by_cases hpath : f₀.path = path
    · right
      simp [hpath]
    · left
      simpa [hpath] using hf₀

theorem bytesWithout_setFile {excluded : List Path} {path : Path} (h : path ∈ excluded)
    (files : Table RegularFile) (size : Nat) :
    bytesWithout excluded (setFile files path size).rows = bytesWithout excluded files.rows := by
  unfold setFile
  split
  · next files' hinsert =>
    have hrows := (Table.insert_eq_some.mp hinsert).2
    rw [hrows, bytesWithout_append]
    simp [bytesWithout, h]
  · show (files.update path _).sumBy (fun f => if f.path ∈ excluded then 0 else f.size) =
      files.sumBy fun f => if f.path ∈ excluded then 0 else f.size
    rw [Table.update, Table.sumBy_updateWhere]
    refine Table.sumBy_congr fun f _ => ?_
    by_cases hpath : f.path = path
    · simp [hpath, h]
    · simp [hpath]

theorem bytesWithout_le_add {excluded excluded' : List Path} {files : Table RegularFile}
    {n : Nat} (path : Path) (hkeep : ∀ p ∈ excluded, p ≠ path → p ∈ excluded')
    (hfile : ∀ f ∈ files, f.path = path → f.size ≤ n) :
    bytesWithout excluded' files.rows ≤ bytesWithout excluded files.rows + n := by
  have hpath : (files.sumBy fun f => if Keyed.key f = path then f.size else 0) ≤ n :=
    Table.sumBy_key_le_of_le hfile
  have hsplit : bytesWithout excluded' files.rows ≤ bytesWithout excluded files.rows +
      files.sumBy fun f => if Keyed.key f = path then f.size else 0 := by
    unfold bytesWithout Table.sumBy
    rw [← List.sum_map_add]
    refine List.sum_le_sum fun f _ => ?_
    by_cases hexcluded' : f.path ∈ excluded'
    · simp [hexcluded']
    · by_cases hf : f.path = path
      · simp [hf]
        split <;> split <;> omega
      · have hexcluded : f.path ∉ excluded := fun hmem => hexcluded' (hkeep _ hmem hf)
        simp [hexcluded, hexcluded', hf]
  omega

/-! ## The charge -/

def Storage.reservedPaths (s : Storage) : List Path := s.reservations.rows.map Reservation.path

/-- The bytes charged against the global quota. -/
def Storage.charge (s : Storage) : Nat :=
  bytesWithout s.reservedPaths s.files.rows + s.reservations.sumBy Reservation.size

/-- What holds of the storage between two steps. -/
structure Storage.Charged (limit : Nat) (s : Storage) : Prop where
  /-- The charge is within the limit. -/
  within : s.charge ≤ limit
  /-- The file at a reserved path is covered by the reservation. -/
  covered : ∀ f ∈ s.files, ∀ r ∈ s.reservations, f.path = r.path → f.size ≤ r.size
  /-- A writer holds a reservation of its path and size. -/
  held : ∀ w ∈ s.writers, ∃ r ∈ s.reservations, r.path = w.path ∧ r.size = w.byteCount
  /-- No path has two writers. -/
  exclusive : ∀ w ∈ s.writers, ∀ w' ∈ s.writers, w.path = w'.path → w = w'

variable {settings : Settings} {limit : Nat} {s : Storage}

theorem Storage.Charged.totalSize_le (h : s.Charged limit) : s.totalSize ≤ limit := by
  have hreserved : (s.files.sumBy fun f =>
      if Keyed.key f ∈ s.reservations.rows.map Keyed.key then f.size else 0) ≤
        s.reservations.sumBy Reservation.size := by
    refine le_trans (le_of_eq ?_) (Table.sumBy_keys_le h.covered)
    exact Table.sumBy_congr fun f _ => by congr
  have hsplit : s.totalSize = bytesWithout s.reservedPaths s.files.rows + s.files.sumBy fun f =>
      if Keyed.key f ∈ s.reservations.rows.map Keyed.key then f.size else 0 := by
    unfold Storage.totalSize bytesWithout Table.sumBy
    rw [← List.sum_map_add]
    refine congrArg List.sum (List.map_congr_left fun f _ => ?_)
    show f.size = (if f.path ∈ s.reservedPaths then 0 else f.size) +
      if f.path ∈ s.reservedPaths then f.size else 0
    split <;> omega
  have hcharge : bytesWithout s.reservedPaths s.files.rows +
      s.reservations.sumBy Reservation.size ≤ limit := h.within
  omega

/-! ## Steps -/

/-- What a step may rely on. A writer enters while the sync directory holds the files of the
storage, and a file that is already at its target is not larger than what it reserves: the callers
make up a new name, and open the file for exclusive creation. A writer writes at most what it has
reserved. -/
def Storage.Promised (s : Storage) : StorageStep → Prop
  | .enter _ entries args => (filesBelow [] entries).Perm s.files.rows ∧
      ∀ f ∈ s.files.rows, f.path = args.targetPath → f.size ≤ args.byteCount.toNat
  | .write writerId size => ∀ w ∈ s.writers.lookup writerId, size ≤ w.byteCount
  | .leave _ => True
  | .delete _ => True

instance (s : Storage) (a : StorageStep) : Decidable (s.Promised a) :=
  match a with
  | .enter _ _ _ => instDecidableAnd
  | .write writerId size =>
    inferInstanceAs (Decidable (∀ w ∈ s.writers.lookup writerId, size ≤ w.byteCount))
  | .leave _ => isTrue trivial
  | .delete _ => isTrue trivial

theorem Storage.Charged.enter {writerId : Nat} {entries : List (String × Entry)}
    {args : ReserveArgs} (h : s.Charged settings.syncStorageMaxBytesGlobal)
    (hp : s.Promised (.enter writerId entries args)) :
    (s.step settings (.enter writerId entries args)).Charged
      settings.syncStorageMaxBytesGlobal := by
  obtain ⟨hentries, htarget⟩ := hp
  unfold Storage.step
  dsimp only
  split
  · next reservations writers hreserve hwriter =>
    obtain ⟨-, ⟨userId, hinsert⟩, hlimit⟩ := reserveSyncStorage_ok hreserve
    have hfresh := (Table.insert_eq_some.mp hinsert).1
    rw [bytesWithout_perm hentries] at hlimit
    refine ⟨?_, ?_, ?_, ?_⟩
    · have hless : bytesWithout (reservations.rows.map Reservation.path) s.files.rows ≤
          bytesWithout (s.reservations.rows.map Reservation.path) s.files.rows := by
        refine bytesWithout_anti (fun path hpath => ?_) _
        obtain ⟨r, hr, rfl⟩ := List.mem_map.mp hpath
        exact List.mem_map.mpr ⟨r, (Table.mem_insert hinsert).mpr (Or.inl hr), rfl⟩
      have hsum : reservations.sumBy Reservation.size =
          s.reservations.sumBy Reservation.size + args.byteCount.toNat :=
        Table.sumBy_insert hinsert Reservation.size
      show bytesWithout (reservations.rows.map Reservation.path) s.files.rows +
        reservations.sumBy Reservation.size ≤ _
      omega
    · intro f hf r hr hpath
      rcases (Table.mem_insert hinsert).mp hr with hr | rfl
      · exact h.covered f hf r hr hpath
      · exact htarget f hf hpath
    · intro w hw
      rcases (Table.mem_insert hwriter).mp hw with hw | rfl
      · obtain ⟨r, hr, hrw⟩ := h.held w hw
        exact ⟨r, (Table.mem_insert hinsert).mpr (Or.inl hr), hrw⟩
      · exact ⟨_, (Table.mem_insert hinsert).mpr (Or.inr rfl), rfl, rfl⟩
    · -- the target was not reserved, so no earlier writer has it
      have hother : ∀ w ∈ s.writers, w.path ≠ args.targetPath := by
        intro w hw hpath
        obtain ⟨r, hr, hrw, -⟩ := h.held w hw
        exact hfresh r hr (hrw.trans hpath)
      intro w hw w' hw' hpath
      rcases (Table.mem_insert hwriter).mp hw with hw | rfl
      · rcases (Table.mem_insert hwriter).mp hw' with hw' | rfl
        · exact h.exclusive w hw w' hw' hpath
        · exact absurd hpath (hother w hw)
      · rcases (Table.mem_insert hwriter).mp hw' with hw' | rfl
        · exact absurd hpath.symm (hother w' hw')
        · rfl
  · exact h

theorem Storage.Charged.write {writerId size : Nat} (h : s.Charged limit)
    (hp : s.Promised (.write writerId size)) :
    (s.step settings (.write writerId size)).Charged limit := by
  unfold Storage.step
  dsimp only
  cases hl : s.writers.lookup writerId with
  | none => exact h
  | some w =>
    have hsize : size ≤ w.byteCount := hp w hl
    obtain ⟨hw, -⟩ := Table.lookup_eq_some.mp hl
    obtain ⟨r, hr, hpath, hcount⟩ := h.held w hw
    have hreserved : w.path ∈ s.reservedPaths := List.mem_map.mpr ⟨r, hr, hpath⟩
    refine ⟨?_, ?_, h.held, h.exclusive⟩
    · have hbytes := bytesWithout_setFile hreserved s.files size
      have hwithin := h.within
      unfold Storage.charge at hwithin ⊢
      show bytesWithout s.reservedPaths (setFile s.files w.path size).rows +
        s.reservations.sumBy Reservation.size ≤ limit
      omega
    · intro f hf r' hr' hfr
      rcases mem_setFile hf with hf | rfl
      · exact h.covered f hf r' hr' hfr
      · have hsame : r' = r := Table.eq_of_key hr' hr (hfr.symm.trans hpath.symm)
        rw [hsame]
        show size ≤ r.size
        omega

theorem Storage.Charged.leave {writerId : Nat} (h : s.Charged limit) :
    (s.step settings (.leave writerId)).Charged limit := by
  unfold Storage.step
  dsimp only
  cases hl : s.writers.lookup writerId with
  | none => exact h
  | some w =>
    obtain ⟨hw, hid⟩ := Table.lookup_eq_some.mp hl
    obtain ⟨r, hr, hpath, -⟩ := h.held w hw
    have hremaining : ∀ r' ∈ s.reservations, r'.path ≠ w.path →
        r' ∈ s.reservations.deleteWhere fun r => r.path = w.path := by
      intro r' hr' hne
      exact Table.mem_deleteWhere.mpr ⟨hr', by simp [hne]⟩
    refine ⟨?_, ?_, ?_, ?_⟩
    · -- the file moves from the reserved to the measured bytes
      have hbytes : bytesWithout ((s.reservations.deleteWhere fun r => r.path = w.path).rows.map
          Reservation.path) s.files.rows ≤ bytesWithout s.reservedPaths s.files.rows + r.size := by
        refine bytesWithout_le_add w.path (fun p hp hne => ?_) fun f hf hfw => ?_
        · obtain ⟨r', hr', rfl⟩ := List.mem_map.mp hp
          exact List.mem_map.mpr ⟨r', hremaining r' hr' hne, rfl⟩
        · exact h.covered f hf r hr (hfw.trans hpath.symm)
      have hsum : s.reservations.sumBy Reservation.size =
          (s.reservations.deleteWhere
            fun r => r.path = w.path).sumBy Reservation.size + r.size := by
        rw [Table.sumBy_deleteWhere, ← Table.sumBy_single hr Reservation.size]
        unfold Table.sumBy
        rw [← List.sum_map_add]
        refine congrArg List.sum (List.map_congr_left fun r' _ => ?_)
        by_cases hr' : r'.path = w.path
        · simp [hr', hpath]
        · simp [hr', hpath]
      have hwithin := h.within
      unfold Storage.charge at hwithin ⊢
      show bytesWithout ((s.reservations.deleteWhere fun r => r.path = w.path).rows.map
        Reservation.path) s.files.rows +
          (s.reservations.deleteWhere fun r => r.path = w.path).sumBy Reservation.size ≤ limit
      omega
    · intro f hf r' hr' hfr
      exact h.covered f hf r' (Table.mem_deleteWhere.mp hr').1 hfr
    · intro w' hw'
      obtain ⟨hw', hne⟩ := Table.mem_deleteWhere.mp hw'
      obtain ⟨r', hr', hpath', hcount'⟩ := h.held w' hw'
      have hother : r'.path ≠ w.path := by
        intro hsame
        have hww : w' = w := h.exclusive w' hw' w hw (hpath'.symm.trans hsame)
        have hid' : w.writerId = writerId := hid
        simp [hww, hid'] at hne
      exact ⟨r', hremaining r' hr' hother, hpath', hcount'⟩
    · intro w₁ hw₁ w₂ hw₂ hsame
      exact h.exclusive w₁ (Table.mem_deleteWhere.mp hw₁).1 w₂ (Table.mem_deleteWhere.mp hw₂).1
        hsame

theorem Storage.Charged.delete {path : Path} (h : s.Charged limit) :
    (s.step settings (.delete path)).Charged limit := by
  refine ⟨?_, ?_, h.held, h.exclusive⟩
  · have hless : bytesWithout s.reservedPaths (s.files.deleteWhere fun f => f.path = path).rows ≤
        bytesWithout s.reservedPaths s.files.rows := bytesWithout_sublist List.filter_sublist _
    have hwithin := h.within
    unfold Storage.charge at hwithin ⊢
    show bytesWithout s.reservedPaths (s.files.deleteWhere fun f => f.path = path).rows +
      s.reservations.sumBy Reservation.size ≤ limit
    omega
  · intro f hf r hr hfr
    exact h.covered f (Table.mem_deleteWhere.mp hf).1 r hr hfr

theorem Storage.Charged.step {a : StorageStep} (h : s.Charged settings.syncStorageMaxBytesGlobal)
    (hp : s.Promised a) : (s.step settings a).Charged settings.syncStorageMaxBytesGlobal := by
  cases a with
  | enter writerId entries args => exact h.enter hp
  | write writerId size => exact h.write hp
  | leave writerId => exact h.leave
  | delete path => exact h.delete

theorem Storage.Charged.start (hreservations : s.reservations.rows = [])
    (hwriters : s.writers.rows = []) (htotal : s.totalSize ≤ limit) : s.Charged limit := by
  have hreserved : ∀ r, r ∉ s.reservations := by simp [Table.mem_def, hreservations]
  have hwriter : ∀ w, w ∉ s.writers := by simp [Table.mem_def, hwriters]
  refine ⟨?_, fun f _ r hr => absurd hr (hreserved r), fun w hw => absurd hw (hwriter w),
    fun w hw => absurd hw (hwriter w)⟩
  have hsum : s.reservations.sumBy Reservation.size = 0 :=
    Table.sumBy_eq_zero fun r hr => absurd hr (hreserved r)
  have hbytes : bytesWithout s.reservedPaths s.files.rows = s.totalSize := by
    simp [Storage.reservedPaths, hreservations, bytesWithout, Storage.totalSize, Table.sumBy]
  unfold Storage.charge
  omega

/-- The global quota holds under concurrency: whatever the order in which writers enter, write and
leave and files are deleted, the files below the sync root stay within the global limit, every
writer inside holds a reservation of what it may write, and no two of them hold one path. -/
theorem storage_quota_held {settings : Settings} {s : Storage} {steps : List StorageStep}
    (hreservations : s.reservations.rows = []) (hwriters : s.writers.rows = [])
    (htotal : s.totalSize ≤ settings.syncStorageMaxBytesGlobal)
    (hsteps : Admits (Storage.step settings) Storage.Promised s steps) :
    (exec (Storage.step settings) s steps).totalSize ≤ settings.syncStorageMaxBytesGlobal ∧
      (∀ w ∈ (exec (Storage.step settings) s steps).writers,
        ∃ r ∈ (exec (Storage.step settings) s steps).reservations,
          r.path = w.path ∧ r.size = w.byteCount) ∧
      ∀ w ∈ (exec (Storage.step settings) s steps).writers,
        ∀ w' ∈ (exec (Storage.step settings) s steps).writers, w.path = w'.path → w = w' := by
  have hcharged := exec_invariant (fun s a => Storage.Charged.step)
    (Storage.Charged.start hreservations hwriters htotal) hsteps
  exact ⟨hcharged.totalSize_le, hcharged.held, hcharged.exclusive⟩

def emptyStorage : Storage := ⟨Table.empty, Table.empty, Table.empty⟩

/-- Alice saves a batch of 40 of the 50 bytes she reserves. While her file is half way from reserved
to measured, Bob reserves and writes his; then her batch is deleted. -/
def twoWriters : List StorageStep :=
  [.enter 1 [] ⟨"alice", ["alice", "task", "batch_1.jsonl"], 50⟩, .write 1 40,
    .enter 2 [("alice", .directory [("task", .directory [("batch_1.jsonl", .file 40)])])]
      ⟨"bob", ["bob", "task", "batch_2.jsonl"], 30⟩,
    .leave 1, .write 2 30, .delete ["alice", "task", "batch_1.jsonl"]]

theorem storage_quota_held_twoWriters :
    (exec (Storage.step {}) emptyStorage twoWriters).totalSize ≤ 20 * 1024 ^ 3 ∧
      (∀ w ∈ (exec (Storage.step {}) emptyStorage twoWriters).writers,
        ∃ r ∈ (exec (Storage.step {}) emptyStorage twoWriters).reservations,
          r.path = w.path ∧ r.size = w.byteCount) ∧
      ∀ w ∈ (exec (Storage.step {}) emptyStorage twoWriters).writers,
        ∀ w' ∈ (exec (Storage.step {}) emptyStorage twoWriters).writers,
          w.path = w'.path → w = w' := by
  have hsteps : Admits (Storage.step {}) Storage.Promised emptyStorage twoWriters := by
    refine ⟨?_, ?_, ?_, trivial, ?_, trivial, trivial⟩ <;> decide +kernel
  exact storage_quota_held rfl rfl (by decide) hsteps

-- both writers were admitted, and Bob's 30 bytes are what is left
example : (exec (Storage.step {}) emptyStorage twoWriters).files.rows =
    [⟨["bob", "task", "batch_2.jsonl"], 30⟩] := by decide +kernel

end Sync
