import TrainFactory.Lib.DirectoryTree
import TrainFactory.Lib.Run
import TrainFactory.Lib.Text
import TrainFactory.Sync.Entities

/-!
# The sync storage quota

`_reserve_sync_storage` of `sync_worker.py`: a writer reserves the bytes it is about to write before
it creates its file, under a lock, against what a scan of the sync directory finds outside reserved
paths plus what is reserved. Paths are normalized and relative to the sync root.
-/

namespace Sync

open Lib

/-! ## Names -/

def windowsReservedPathNames : List String :=
  ["CON", "PRN", "AUX", "NUL", "COM1", "COM2", "COM3", "COM4", "COM5", "COM6", "COM7", "COM8",
    "COM9", "LPT1", "LPT2", "LPT3", "LPT4", "LPT5", "LPT6", "LPT7", "LPT8", "LPT9"]

def isSafePathComponent (component : String) : Bool :=
  component ≠ "" && component.toList.all fun c => c.isAlphanum || c ∈ ['.', '_', '-']

def requirePathComponent (value label : String) : Except SyncError String :=
  let component := strip value
  let stem := String.ofList (component.toList.takeWhile (· ≠ '.'))
  if component = "" ∨ component ≠ value ∨ component ∈ [".", ".."] ∨
      ¬ isSafePathComponent component ∨ component.toList.getLast? = some '.' ∨
      stem.toUpper ∈ windowsReservedPathNames then
    .error (.valueError (label ++ " path component is invalid"))
  else .ok component

def syncStorageUserComponent (settings : Settings) (userId : String) : Except SyncError String :=
  if userId = "" ∧ ¬ settings.authEnabled then .ok "anonymous"
  else requirePathComponent userId "User ID"

/-! ## Scanning -/

def quotaUnverified : SyncError :=
  .resourceLimit "Unable to verify external sync storage quota"

/-- The inner loop of `_sync_directory_size`, over the entries of one directory: the directories
still to be scanned, and the total. -/
def scanDirectory (excluded : List Path) (directory : Path) :
    List (String × Entry) → List (Path × List (String × Entry)) → Nat →
    Except SyncError (List (Path × List (String × Entry)) × Nat)
  | [], pending, total => .ok (pending, total)
  | (name, entry) :: entries, pending, total =>
    match entry with
    | .unreadable => .error quotaUnverified
    | .symlink => scanDirectory excluded directory entries pending total
    | .directory below =>
      scanDirectory excluded directory entries ((directory ++ [name], below) :: pending) total
    | .other => scanDirectory excluded directory entries pending total
    | .file size =>
      if directory ++ [name] ∈ excluded then
        scanDirectory excluded directory entries pending total
      else scanDirectory excluded directory entries pending (total + size)

/-- The outer loop of `_sync_directory_size`: `n` bounds the number of directories. -/
def scanDirectories (excluded : List Path) :
    Nat → List (Path × List (String × Entry)) → Nat → Except SyncError Nat
  | _, [], total => .ok total
  | 0, _ :: _, _ => .error quotaUnverified
  | n + 1, (directory, entries) :: pending, total =>
    match scanDirectory excluded directory entries pending total with
    | .error e => .error e
    | .ok (pending, total) => scanDirectories excluded n pending total

def syncDirectorySize (path : Path) (root : Entry) (excluded : List Path) : Except SyncError Nat :=
  match root with
  | .directory entries => scanDirectories excluded root.directories [(path, entries)] 0
  | _ => .error quotaUnverified

/-! ## Reserving -/

structure Reservation where
  path : Path
  userId : String
  size : Nat

instance : Keyed Reservation Path := ⟨Reservation.path⟩
instance : Keyed RegularFile Path := ⟨RegularFile.path⟩

@[simp] theorem key_reservation (r : Reservation) : Keyed.key r = r.path := rfl
@[simp] theorem key_regularFile (f : RegularFile) : Keyed.key f = f.path := rfl

structure ReserveArgs where
  userId : String
  targetPath : Path
  byteCount : Int

def createManagedDirectory (entries : List (String × Entry)) (name : String) :
    Except SyncError Entry :=
  match entries.lookup name with
  | none => .ok (.directory [])
  | some (.directory below) => .ok (.directory below)
  | some .symlink => .error (.valueError "Managed sync directories must not be symbolic links")
  | some _ => .error (.osError "File exists")

def managedDirectory (name : String) (entry : Entry) : Except SyncError (Path × Entry) :=
  match entry with
  | .directory below => .ok ([name], .directory below)
  | .symlink => .error (.valueError "Managed sync directories must not be symbolic links")
  | _ => .error (.valueError "Managed sync path must be a directory")

/-- `user_roots`: the directory of the user, and the one under its shortened name if there is one. -/
def userRoots (entries : List (String × Entry)) (userId : String) :
    Except SyncError (List (Path × Entry)) :=
  match createManagedDirectory entries userId with
  | .error e => .error e
  | .ok userRoot =>
    let legacyUserComponent := String.ofList (userId.toList.take 16)
    match entries.lookup legacyUserComponent with
    | none => .ok [([userId], userRoot)]
    | some legacy =>
      if legacyUserComponent = userId then .ok [([userId], userRoot)]
      else
        match managedDirectory legacyUserComponent legacy with
        | .error e => .error e
        | .ok legacyRoot => .ok [([userId], userRoot), legacyRoot]

def directoriesSize (excluded : List Path) : List (Path × Entry) → Except SyncError Nat
  | [] => .ok 0
  | (path, root) :: roots =>
    match syncDirectorySize path root excluded with
    | .error e => .error e
    | .ok size =>
      match directoriesSize excluded roots with
      | .error e => .error e
      | .ok rest => .ok (size + rest)

def reservedByUser (reservations : Table Reservation) (userId : String)
    (roots : List (Path × Entry)) : Nat :=
  reservations.sumBy fun r =>
    if r.userId = userId ∨ roots.any (fun root => root.1.isPrefixOf r.path) then r.size else 0

def reserveSyncStorage (settings : Settings) (entries : List (String × Entry))
    (args : ReserveArgs) (reservations : Table Reservation) :
    Except SyncError (Table Reservation) :=
  match syncStorageUserComponent settings args.userId with
  | .error e => .error e
  | .ok userId =>
    if args.byteCount < 0 then
      .error (.resourceLimit "External sync storage request is invalid")
    else
      let requested := args.byteCount.toNat
      match userRoots entries userId with
      | .error e => .error e
      | .ok roots =>
        let excluded := reservations.rows.map Reservation.path
        match reservations.insert ⟨args.targetPath, userId, requested⟩,
            syncDirectorySize [] (.directory entries) excluded, directoriesSize excluded roots with
        | none, _, _ =>
          .error (.resourceLimit "External sync storage target is already reserved")
        | _, .error e, _ => .error e
        | _, _, .error e => .error e
        | some reserved, .ok globalUsage, .ok userUsage =>
          let reservedGlobal := reservations.sumBy Reservation.size
          let anonymous := userId = "anonymous" ∧ ¬ settings.authEnabled
          let userUsage := if anonymous then globalUsage else userUsage
          let reservedUser :=
            if anonymous then reservedGlobal else reservedByUser reservations userId roots
          if globalUsage + reservedGlobal + requested > settings.syncStorageMaxBytesGlobal then
            .error (.resourceLimit "Global sync storage quota exceeded")
          else if userUsage + reservedUser + requested > settings.syncStorageMaxBytesPerUser then
            .error (.resourceLimit "Per-user sync storage quota exceeded")
          else .ok reserved

/-! ## Writers -/

/-- A writer inside its `with _reserve_sync_storage(...)` block. -/
structure Writer where
  writerId : Nat
  path : Path
  byteCount : Nat

instance : Keyed Writer Nat := ⟨Writer.writerId⟩

@[simp] theorem key_writer (w : Writer) : Keyed.key w = w.writerId := rfl

/-- The regular files below the sync root, the reservations, and the writers that hold one. -/
structure Storage where
  files : Table RegularFile
  reservations : Table Reservation
  writers : Table Writer

/-- What happens to the storage. A writer enters while the sync directory looks like `entries`. -/
inductive StorageStep where
  | enter (writerId : Nat) (entries : List (String × Entry)) (args : ReserveArgs)
  | write (writerId : Nat) (size : Nat)
  | leave (writerId : Nat)
  | delete (path : Path)

def setFile (files : Table RegularFile) (path : Path) (size : Nat) : Table RegularFile :=
  match files.insert ⟨path, size⟩ with
  | some files => files
  | none => files.update path fun f => { f with size := size }

/-- One step: a writer enters if it is admitted, has written up to `size` bytes of its file, or
leaves; or a file is deleted. -/
def Storage.step (settings : Settings) (s : Storage) : StorageStep → Storage
  | .enter writerId entries args =>
    match reserveSyncStorage settings entries args s.reservations,
        s.writers.insert ⟨writerId, args.targetPath, args.byteCount.toNat⟩ with
    | .ok reservations, some writers =>
      { s with reservations := reservations, writers := writers }
    | _, _ => s
  | .write writerId size =>
    match s.writers.lookup writerId with
    | none => s
    | some writer => { s with files := setFile s.files writer.path size }
  | .leave writerId =>
    match s.writers.lookup writerId with
    | none => s
    | some writer => { s with
        reservations := s.reservations.deleteWhere fun r => r.path = writer.path
        writers := s.writers.deleteWhere fun w => w.writerId = writerId }
  | .delete path => { s with files := s.files.deleteWhere fun f => f.path = path }

def Storage.totalSize (s : Storage) : Nat := s.files.sumBy RegularFile.size

end Sync
