import TrainFactory.Lib.LongestPrefix
import TrainFactory.Lib.Result
import TrainFactory.Sync.BatchFiles
import TrainFactory.Sync.Cycle
import TrainFactory.Sync.Proofs.ItemsProofs

/-!
# Proofs: the limits of batch files

What a page is checked against when it is fetched, and what a batch is checked against when a
generation selects and merges it, are the same numbers: the lines of a batch file are its records,
measured with their line breaks.
-/

namespace Sync

open Lib

/-! ## Lines -/

section Lines

variable {maxRecordBytes : Nat}

/-- A record that stands in a line of its own, within the limit. -/
structure IsRecord (maxRecordBytes : Nat) (record : Bytes) : Prop where
  oneLine : newline ∉ record
  stripped : stripBytes (record ++ [newline]) = record
  nonempty : record ≠ []
  fits : record.length + 1 ≤ maxRecordBytes

def fileOf (records : List Bytes) : Bytes := records.flatMap fun record => record ++ [newline]

@[simp] theorem length_fileOf (records : List Bytes) :
    (fileOf records).length = lineBytes records := by
  simp [fileOf, lineBytes, List.length_flatMap]

theorem lineBytes_append (records records' : List Bytes) :
    lineBytes (records ++ records') = lineBytes records + lineBytes records' := by
  simp [lineBytes]

theorem iterNormalizedJsonl_fileOf {records : List Bytes}
    (h : ∀ record ∈ records, IsRecord maxRecordBytes record) :
    iterNormalizedJsonl maxRecordBytes (fileOf records) = .ok records := by
  induction records with
  | nil =>
    rw [iterNormalizedJsonl]
    rfl
  | cons record records ih =>
    have hrecord := h record (List.mem_cons_self ..)
    have hrest := ih fun r hr => h r (List.mem_cons_of_mem _ hr)
    have hsize : record.length < maxRecordBytes + 1 := by
      have := hrecord.fits
      omega
    have hread : readLine (maxRecordBytes + 1) (fileOf (record :: records)) =
        (record ++ [newline], fileOf records) := by
      have hfile : fileOf (record :: records) = record ++ newline :: fileOf records := by
        simp [fileOf]
      rw [hfile, readLine_line hrecord.oneLine hsize]
    have hlength : ¬ maxRecordBytes < (record ++ [newline]).length := by
      have := hrecord.fits
      rw [List.length_append, List.length_singleton]
      omega
    rw [iterNormalizedJsonl, hread]
    simp only [List.append_eq_nil_iff, List.cons_ne_self, and_false, if_false, hlength, hrest,
      hrecord.stripped, hrecord.nonempty]

variable (py : JsonStdlib)

def recordOf (item : Json) : Bytes := utf8 (py.dumps (batchDocument py.toStdlib item))

theorem recordLine_eq (item : Json) :
    recordLine py.toStdlib item = recordOf py item ++ [newline] := by
  have hbreak : utf8 "\n" = [newline] := by decide
  rw [recordLine, serializeBatchItem, Stdlib.line, utf8_append, hbreak]
  rfl

theorem flatMap_recordLine (items : List Json) :
    items.flatMap (recordLine py.toStdlib) = fileOf (items.map (recordOf py)) := by
  have hline : recordLine py.toStdlib = fun item => recordOf py item ++ [newline] :=
    funext (recordLine_eq py)
  simp [fileOf, hline, List.flatMap_map]

theorem sum_length_recordLine (items : List Json) :
    (items.map fun item => (recordLine py.toStdlib item).length).sum =
      lineBytes (items.map (recordOf py)) := by
  simp [lineBytes, recordLine_eq, Function.comp_def]

theorem isRecord_recordOf {item : Json}
    (hfits : (recordLine py.toStdlib item).length ≤ maxRecordBytes) :
    IsRecord maxRecordBytes (recordOf py item) := by
  have hopen : utf8 "\x7b" = [123] := by decide
  have hclose : utf8 "\x7d" = [125] := by decide
  obtain ⟨middle, hmiddle⟩ : ∃ middle, recordOf py item = 123 :: middle ++ [125] := by
    rw [recordOf, py.dumps_eq, batchDocument, Json.dumps_obj, utf8_append, utf8_append, hopen,
      hclose]
    exact ⟨_, rfl⟩
  refine ⟨?_, ?_, ?_, ?_⟩
  · refine newline_notMem_utf8 ?_
    rw [py.dumps_eq]
    exact Json.newline_notMem_dumps py.repr_float _
  · rw [hmiddle]
    exact stripBytes_line (by decide) (by decide)
  · simp [hmiddle]
  · simpa [recordLine_eq] using hfits

end Lines

/-! ## The page -/

section Page

variable {py : Stdlib} {settings : Settings}

theorem validateItem_bytes {maxFuture : DateTime} {item : Json} {n : Nat}
    (h : validateItem py settings maxFuture item = .ok n) :
    n = (recordLine py item).length ∧ n ≤ settings.syncMaxRecordBytes := by
  unfold validateItem at h
  split at h
  · cases h
  split at h
  · split at h
    · cases h
    split at h
    · cases h
    split at h
    · cases h
    dsimp only at h
    split at h
    · cases h
    · rename_i hle
      obtain rfl := Except.ok.inj h
      exact ⟨by rw [recordLine, length_utf8], not_lt.mp hle⟩
  · cases h

structure WithinPageLimits (py : Stdlib) (settings : Settings) (items : List Json) : Prop where
  records : items.length ≤ settings.syncPendingMaxRecordsPerTask
  bytes : (items.map fun item => (recordLine py item).length).sum ≤
    settings.syncGenerationMaxInputBytes
  recordBytes : ∀ item ∈ items, (recordLine py item).length ≤ settings.syncMaxRecordBytes

theorem validateItems_within {maxFuture : DateTime} {items uniqueItems result : List Json}
    {seenKeys : List String} {totalBytes : Nat} (hunique : WithinPageLimits py settings uniqueItems)
    (htotal : totalBytes = (uniqueItems.map fun item => (recordLine py item).length).sum)
    (h : validateItems py settings maxFuture items uniqueItems seenKeys totalBytes = .ok result) :
    WithinPageLimits py settings result := by
  induction items generalizing uniqueItems seenKeys totalBytes with
  | nil =>
    obtain rfl := Except.ok.inj h
    exact hunique
  | cons item items ih =>
    unfold validateItems at h
    split at h
    · cases h
    rename_i n hvalid
    obtain ⟨rfl, hitem⟩ := validateItem_bytes hvalid
    dsimp only at h
    split at h
    · exact ih hunique htotal h
    split at h
    · cases h
    rename_i hrecords
    split at h
    · cases h
    rename_i hbytes
    refine ih ⟨?_, ?_, ?_⟩ ?_ h
    · rw [List.length_append, List.length_singleton]
      exact not_lt.mp hrecords
    · rw [List.map_append, List.sum_append, ← htotal]
      simpa using not_lt.mp hbytes
    · intro i hi
      rcases List.mem_append.mp hi with hi | hi
      · exact hunique.recordBytes i hi
      · obtain rfl := List.mem_singleton.mp hi
        exact hitem
    · rw [List.map_append, List.sum_append, ← htotal]
      simp

theorem validateAndDeduplicateItems_within {now : DateTime} {page : Json} {accepted : List Json}
    (h : validateAndDeduplicateItems py settings now page = .ok accepted) :
    WithinPageLimits py settings accepted := by
  unfold validateAndDeduplicateItems at h
  split at h
  · exact validateItems_within ⟨Nat.zero_le _, Nat.zero_le _, by simp⟩ rfl h
  · cases h

theorem WithinPageLimits.sublist {items accepted : List Json}
    (h : WithinPageLimits py settings accepted) (hsub : items.Sublist accepted) :
    WithinPageLimits py settings items := by
  refine ⟨hsub.length_le.trans h.records, ?_, fun i hi => h.recordBytes i (hsub.subset hi)⟩
  exact ((hsub.map _).sum_le_sum fun _ _ => Nat.zero_le _).trans h.bytes

end Page

/-! ## Paths -/

section Paths

def IsPlainName (name : String) : Prop :=
  name ≠ "" ∧ name ≠ "." ∧ name ≠ ".." ∧ '/' ∉ name.toList

theorem isPlainName_of_safe {name : String} (hsafe : isSafePathComponent name = true)
    (hdot : name ≠ ".") (hdots : name ≠ "..") : IsPlainName name := by
  obtain ⟨hne, hchars⟩ : name ≠ "" ∧ ∀ c ∈ name.toList,
      (c.isAlphanum || decide (c ∈ ['.', '_', '-'])) = true := by
    simpa [isSafePathComponent] using hsafe
  exact ⟨hne, hdot, hdots, fun h => absurd (hchars _ h) (by decide)⟩

theorem normComponents_plain {names kept : List String} (h : ∀ name ∈ names, IsPlainName name) :
    normComponents true kept names = kept.reverse ++ names := by
  induction names generalizing kept with
  | nil => simp [normComponents]
  | cons name names ih =>
    obtain ⟨hne, hdot, hdots, -⟩ := h name (List.mem_cons_self ..)
    rw [normComponents, if_neg (by simp [hne, hdot]), if_pos (Or.inl hdots),
      ih fun n hn => h n (List.mem_cons_of_mem _ hn)]
    simp

theorem split_text {names : List String} (h : ∀ name ∈ names, IsPlainName name)
    (hne : names ≠ []) : split ("/" ++ join "/" names) '/' = "" :: names := by
  have hjoin : "/" ++ join "/" names = join "/" ("" :: names) := by
    rw [join, join, String.intercalate_cons_of_ne_nil hne, String.empty_append]
  rw [hjoin, split, join, String.toList_intercalate]
  have hslash : "/".toList = ['/'] := rfl
  rw [hslash, List.splitOn_intercalate]
  · simp [Function.comp_def]
  · intro cs hcs
    obtain ⟨name, hname, rfl⟩ := List.mem_map.mp hcs
    rcases List.mem_cons.mp hname with rfl | hname
    · simp
    · exact (h name hname).2.2.2
  · simp

variable (root : SyncRoot)

theorem SyncRoot.parse_text {path : Path} (h : ∀ name ∈ path, IsPlainName name)
    (hne : path ≠ []) : root.parse (root.text path) = some path := by
  have hplain : ∀ name ∈ root.names ++ path, IsPlainName name := by
    intro name hname
    rcases List.mem_append.mp hname with hname | hname
    · exact root.names_plain name hname
    · exact h name hname
  have habs : isAbs (root.text path) = true := by
    simp [isAbs, startsWith, SyncRoot.text]
  have hsplit : split (root.text path) '/' = "" :: (root.names ++ path) :=
    split_text hplain (by simp [hne])
  have hnames : normComponents true [] ("" :: (root.names ++ path)) = root.names ++ path := by
    rw [normComponents, if_pos (Or.inl rfl), normComponents_plain hplain]
    rfl
  rw [SyncRoot.parse, if_pos habs, hsplit, hnames]
  simp

theorem SyncRoot.strip_text (path : Path) : strip (root.text path) ≠ "" := by
  have hslash : isSpace '/' = false := by decide
  have htext : (root.text path).toList = '/' :: (join "/" (root.names ++ path)).toList := by
    simp [SyncRoot.text]
  intro h
  have hlist : (strip (root.text path)).toList = [] := by
    rw [h]
    rfl
  rw [strip, htext, String.toList_ofList] at hlist
  rw [List.dropWhile_cons_of_neg (by simp [hslash])] at hlist
  simp only [List.reverse_eq_nil_iff, List.dropWhile_eq_nil_iff, List.mem_reverse] at hlist
  exact absurd (hlist '/' (List.mem_cons_self ..)) (by simp [hslash])

theorem requirePathComponent_eq_ok {value label component : String}
    (h : requirePathComponent value label = .ok component) :
    component = value ∧ IsPlainName value ∧ isSafePathComponent value = true := by
  unfold requirePathComponent at h
  dsimp only at h
  split at h
  · cases h
  · rename_i hchecks
    simp only [not_or, not_not] at hchecks
    obtain ⟨hne, hstrip, hdots, hsafe, -⟩ := hchecks
    obtain rfl := Except.ok.inj h
    rw [hstrip] at hdots hsafe
    simp only [List.mem_cons, List.not_mem_nil, or_false, not_or] at hdots
    exact ⟨hstrip, isPlainName_of_safe hsafe hdots.1 hdots.2, hsafe⟩

theorem syncStorageUserComponent_plain {settings : Settings} {userId component : String}
    (h : syncStorageUserComponent settings userId = .ok component) : IsPlainName component := by
  unfold syncStorageUserComponent at h
  split at h
  · obtain rfl := Except.ok.inj h
    exact isPlainName_of_safe (by decide) (by decide) (by decide)
  · obtain ⟨rfl, hplain, -⟩ := requirePathComponent_eq_ok h
    exact hplain

variable (hex : UuidHex)

theorem batchFileName_toList :
    (batchFileName hex).toList = "batch_".toList ++ hex.val.toList ++ ".jsonl".toList := by
  simp [batchFileName]

theorem batchFileName_plain : IsPlainName (batchFileName hex) := by
  have hchars : ∀ c ∈ "0123456789abcdef".toList, c ≠ '/' := by simp
  have hlength : 12 ≤ (batchFileName hex).toList.length := by
    rw [batchFileName_toList, List.length_append, List.length_append]
    have h1 : "batch_".toList.length = 6 := by decide
    have h2 : ".jsonl".toList.length = 6 := by decide
    omega
  have hshort (name : String) (h : name.toList.length < 12) : batchFileName hex ≠ name := by
    rintro rfl
    omega
  refine ⟨hshort _ (by decide), hshort _ (by decide), hshort _ (by decide), ?_⟩
  rw [batchFileName_toList]
  intro h
  rcases List.mem_append.mp h with h | h
  · rcases List.mem_append.mp h with h | h
    · exact absurd h (by decide)
    · exact hchars _ (hex.property.2 _ h) rfl
  · exact absurd h (by decide)

theorem startsWith_batchFileName : startsWith (batchFileName hex) "batch_" = true := by
  rw [startsWith, batchFileName_toList, List.append_assoc, List.isPrefixOf_iff_prefix]
  exact List.prefix_append _ _

theorem lowerSuffix_batchFileName : lowerSuffix (batchFileName hex) = ".jsonl" := by
  have hreverse : (batchFileName hex).toList.reverse =
      ['l', 'n', 'o', 's', 'j', '.'] ++ ("batch_".toList ++ hex.val.toList).reverse := by
    rw [batchFileName_toList, List.reverse_append]
    rfl
  unfold lowerSuffix
  rw [hreverse]
  simp [List.takeWhile, List.dropWhile]

end Paths

/-! ## Directories -/

section Directories

variable {fs fs' fs'' : FileSystem}

/-- What was there is still there. -/
def Grows (fs fs' : FileSystem) : Prop := ∀ path node, fs path = some node → fs' path = some node

theorem Grows.refl (fs : FileSystem) : Grows fs fs := fun _ _ h => h

theorem Grows.trans (h : Grows fs fs') (h' : Grows fs' fs'') : Grows fs fs'' :=
  fun path node hnode => h' path node (h path node hnode)

theorem Grows.update {path : Path} {node : Node} (h : fs path = none) :
    Grows fs (Function.update fs path (some node)) := by
  intro path' node' hnode
  have hne : path' ≠ path := by
    rintro rfl
    rw [h] at hnode
    cases hnode
  rwa [Function.update_of_ne hne]

theorem makeDirectories_grows {directory : Path} {names : List String}
    (h : makeDirectories fs directory names = .ok fs') : Grows fs fs' := by
  induction names generalizing fs directory with
  | nil =>
    obtain rfl := Except.ok.inj h
    exact Grows.refl _
  | cons name names ih =>
    unfold makeDirectories at h
    split at h
    · rename_i hnone
      exact (Grows.update hnone).trans (ih h)
    · exact ih h
    · cases h
    · cases h

theorem findDirectories_grows {directory : Path} {names : List String}
    (h : findDirectories fs directory names = .ok ()) (hgrows : Grows fs fs') :
    findDirectories fs' directory names = .ok () := by
  induction names generalizing directory with
  | nil => rfl
  | cons name names ih =>
    unfold findDirectories at h ⊢
    split at h
    · cases h
    · rename_i hnode
      rw [hgrows _ _ hnode]
      exact ih h
    · cases h
    · cases h

theorem findDirectories_of_make {directory : Path} {names : List String}
    (h : makeDirectories fs directory names = .ok fs') :
    findDirectories fs' directory names = .ok () := by
  induction names generalizing fs directory with
  | nil => rfl
  | cons name names ih =>
    unfold makeDirectories at h
    unfold findDirectories
    split at h
    · have hnode := makeDirectories_grows h (directory ++ [name]) .directory
        (Function.update_self ..)
      rw [hnode]
      exact ih h
    · rename_i hdirectory
      have hnode := makeDirectories_grows h (directory ++ [name]) .directory hdirectory
      rw [hnode]
      exact ih h
    · cases h
    · cases h

theorem findDirectories_congr {directory : Path} {names : List String}
    (h : ∀ p, p ≠ [] → p <+: names → fs' (directory ++ p) = fs (directory ++ p)) :
    findDirectories fs' directory names = findDirectories fs directory names := by
  induction names generalizing directory with
  | nil => rfl
  | cons name names ih =>
    have hname := h [name] (by simp) ⟨names, rfl⟩
    have hrest : findDirectories fs' (directory ++ [name]) names =
        findDirectories fs (directory ++ [name]) names := by
      refine ih fun p hp hpre => ?_
      rw [List.append_assoc]
      exact h ([name] ++ p) (by simp) (by simpa using hpre)
    unfold findDirectories
    rw [hname, hrest]

end Directories

/-! ## Saved batches -/

section Saved

theorem createFile_eq_ok {fs fs' : FileSystem} {path : Path} {content : Bytes}
    (h : createFile fs path content = .ok fs') :
    fs path = none ∧ fs' = Function.update fs path (some (.file content)) := by
  unfold createFile at h
  split at h
  · rename_i hnone
    exact ⟨hnone, (Except.ok.inj h).symm⟩
  · cases h

theorem saveBatchFile_eq_ok {py : Stdlib} {settings : Settings} {reserve : Reserve}
    {fs fs' : FileSystem} {taskId userId : String} {hex : UuidHex} {items : List Json} {path : Path}
    (h : saveBatchFile py settings reserve fs taskId userId hex items = .ok (path, fs')) :
    ∃ userComponent, IsPlainName taskId ∧
      requirePathComponent taskId "Task ID" = .ok taskId ∧
      syncStorageUserComponent settings userId = .ok userComponent ∧
      path = [userComponent, taskId, batchFileName hex] ∧
      findDirectories fs' [] [userComponent, taskId] = .ok () ∧
      fs' path = some (.file (items.flatMap (recordLine py))) := by
  obtain ⟨taskComponent, htask, h⟩ := bind_eq_ok.mp h
  obtain ⟨heq, hplain, -⟩ := requirePathComponent_eq_ok htask
  rw [heq] at htask h
  obtain ⟨userComponent, huser, h⟩ := bind_eq_ok.mp h
  obtain ⟨fs₁, hmake, h⟩ := bind_eq_ok.mp h
  obtain ⟨-, -, h⟩ := bind_eq_ok.mp h
  obtain ⟨-, -, h⟩ := bind_eq_ok.mp h
  obtain ⟨-, -, h⟩ := bind_eq_ok.mp h
  obtain ⟨fs₂, hcreate, h⟩ := bind_eq_ok.mp h
  obtain ⟨rfl, rfl⟩ := Prod.mk.inj (pure_eq_ok.mp h)
  obtain ⟨hnone, rfl⟩ := createFile_eq_ok hcreate
  refine ⟨userComponent, hplain, htask, huser, rfl, ?_, Function.update_self ..⟩
  exact findDirectories_grows (findDirectories_of_make hmake) (Grows.update hnone)

variable (py : JsonStdlib) (root : SyncRoot) (settings : Settings) (taskId userId : String)

/-- A batch of a task: records of an accepted page that `_save_batch` has written, and the row that
`create_batch` has added for them, as it is read later. -/
structure SavedBatch where
  page : Json
  now : DateTime
  accepted : List Json
  haccepted : validateAndDeduplicateItems py.toStdlib settings now page = .ok accepted
  items : List Json
  hitems : items.Sublist accepted
  hnonempty : items ≠ []
  reserve : Reserve
  before : FileSystem
  hex : UuidHex
  path : Path
  after : FileSystem
  hsaved : saveBatchFile py.toStdlib settings reserve before taskId userId hex items =
    .ok (path, after)
  fileSha256 : String → Option String
  args : CreateBatch
  hargs : args.taskId = taskId ∧ args.userId = userId ∧ args.recordCount = items.length ∧
    args.storagePath = root.text path
  db : Database
  created : ExternalSyncBatch
  dbAfter : Database
  hcreated : createBatch settings fileSha256 args db = .ok ((created, true), dbAfter)
  status : BatchStatus
  generationTaskId : Option String

variable {py root settings taskId userId}

namespace SavedBatch

variable (b : SavedBatch py root settings taskId userId)

/-- The row, as it is read later. -/
def row : ExternalSyncBatch :=
  { b.created with status := b.status, generationTaskId := b.generationTaskId }

def records : List Bytes := b.items.map (recordOf py)

def IntactIn (fs : FileSystem) : Prop := ∀ p, p ≠ [] → p <+: b.path → fs p = b.after p

theorem row_eq : b.row.taskId = taskId ∧ b.row.userId = userId ∧
    b.row.recordCount = b.items.length ∧ b.row.storagePath = root.text b.path := by
  obtain ⟨htask, huser, hcount, hpath⟩ := b.hargs
  have hcreated : b.created = b.args.row := by
    have h := b.hcreated
    unfold createBatch at h
    split at h
    · cases h
    split at h
    · cases h
    split at h
    · cases h
    split at h
    · cases h
    split at h
    · cases h
    split at h
    · cases h
    split at h
    · cases h
    · exact (Prod.mk.inj (Prod.mk.inj (Except.ok.inj h)).1).1.symm
  simp only [row, hcreated, CreateBatch.row]
  exact ⟨htask, huser, hcount, hpath⟩

theorem within : WithinPageLimits py.toStdlib settings b.items :=
  (validateAndDeduplicateItems_within b.haccepted).sublist b.hitems

theorem isRecord : ∀ record ∈ b.records, IsRecord settings.syncMaxRecordBytes record := by
  intro record hrecord
  obtain ⟨item, hitem, rfl⟩ := List.mem_map.mp hrecord
  exact isRecord_recordOf py (b.within.recordBytes item hitem)

theorem length_records : b.records.length = b.items.length := List.length_map _

theorem resolve {fs : FileSystem} (hfs : b.IntactIn fs) :
    resolveManagedBatchPath root settings fs taskId userId b.row = .ok b.path := by
  obtain ⟨userComponent, htaskPlain, htask, huser, hpath, hdirectories, hfile⟩ :=
    saveBatchFile_eq_ok b.hsaved
  obtain ⟨hrowTask, hrowUser, -, hrowPath⟩ := b.row_eq
  have huserPlain := syncStorageUserComponent_plain huser
  have hplain : ∀ name ∈ b.path, IsPlainName name := by
    rw [hpath]
    intro name hname
    simp only [List.mem_cons, List.not_mem_nil, or_false] at hname
    rcases hname with rfl | rfl | rfl
    · exact huserPlain
    · exact htaskPlain
    · exact batchFileName_plain _
  have hparse : root.parse b.row.storagePath = some b.path := by
    rw [hrowPath]
    exact root.parse_text hplain (by simp [hpath])
  have hfound : findDirectories fs [] [userComponent, taskId] = .ok () := by
    rw [← hdirectories]
    refine findDirectories_congr fun p hp hpre => hfs p hp ?_
    rw [hpath]
    exact hpre.trans ⟨[batchFileName b.hex], rfl⟩
  have hnode : fs b.path = some (.file (b.items.flatMap (recordLine py.toStdlib))) := by
    rw [hfs b.path (by simp [hpath]) List.prefix_rfl, hfile]
  have hcomponents : (managedComponents userComponent userId taskId).find? (fun components =>
      b.path ≠ [] && b.path.dropLast = components) = some [userComponent, taskId] := by
    simp [managedComponents, hpath, huserPlain.1, htaskPlain.1]
  have hname : b.path.getLastD "" = batchFileName b.hex := by simp [hpath]
  simp only [resolveManagedBatchPath, hrowTask, hrowUser, ne_eq, not_true, or_self, raiseIf,
    if_false, htask, huser, hrowPath, root.strip_text, bind, Except.bind]
  rw [← hrowPath]
  simp only [hparse, hcomponents, hfound, hnode, hname, startsWith_batchFileName,
    lowerSuffix_batchFileName, decide_true, Bool.and_self, if_true]
  rfl

theorem read {fs : FileSystem} (hfs : b.IntactIn fs) :
    readNormalized settings fs b.path = .ok b.records := by
  obtain ⟨userComponent, -, -, -, hpath, -, hfile⟩ := saveBatchFile_eq_ok b.hsaved
  have hnode : fs b.path = some (.file (fileOf b.records)) := by
    rw [hfs b.path (by simp [hpath]) List.prefix_rfl, hfile, flatMap_recordLine]
    rfl
  rw [readNormalized, hnode]
  exact iterNormalizedJsonl_fileOf b.isRecord

theorem stats {fs : FileSystem} (hfs : b.IntactIn fs) :
    normalizedJsonlStats settings fs b.path = .ok (b.items.length, lineBytes b.records) := by
  rw [normalizedJsonlStats, b.read hfs, ← b.length_records]
  rfl

theorem batchStats_eq {fs : FileSystem} (hfs : b.IntactIn fs) :
    batchStats root settings fs taskId userId b.row =
      .ok (b.items.length, lineBytes b.records) := by
  rw [batchStats, b.resolve hfs]
  exact b.stats hfs

theorem countedRecords_eq : countedRecords b.row b.items.length = b.items.length := by
  obtain ⟨-, -, hcount, -⟩ := b.row_eq
  rw [countedRecords, hcount]
  simp

theorem lineBytes_le : lineBytes b.records ≤ settings.syncGenerationMaxInputBytes := by
  rw [records, ← sum_length_recordLine]
  exact b.within.bytes

end SavedBatch

/-! ## Selecting -/

variable {batches taken : List (SavedBatch py root settings taskId userId)}
variable {b : SavedBatch py root settings taskId userId}

def totalRecords (batches : List (SavedBatch py root settings taskId userId)) : ℕ :=
  (batches.map fun b => b.items.length).sum

def totalBytes (batches : List (SavedBatch py root settings taskId userId)) : ℕ :=
  (batches.map fun b => lineBytes b.records).sum

structure FitsGeneration (batches : List (SavedBatch py root settings taskId userId)) : Prop where
  count : batches.length ≤ settings.syncPendingMaxBatchesPerTask
  records : totalRecords batches ≤ settings.syncPendingMaxRecordsPerTask
  bytes : totalBytes batches ≤ settings.syncGenerationMaxInputBytes

@[simp] theorem totalRecords_snoc : totalRecords (taken ++ [b]) =
    totalRecords taken + b.items.length := by
  simp [totalRecords]

@[simp] theorem totalBytes_snoc : totalBytes (taken ++ [b]) =
    totalBytes taken + lineBytes b.records := by
  simp [totalBytes]

theorem totalRecords_mono (h : taken <+: batches) : totalRecords taken ≤ totalRecords batches :=
  ((h.sublist.map _).sum_le_sum fun _ _ => Nat.zero_le _)

theorem totalBytes_mono (h : taken <+: batches) : totalBytes taken ≤ totalBytes batches :=
  ((h.sublist.map _).sum_le_sum fun _ _ => Nat.zero_le _)

theorem fitsGeneration_prefixClosed :
    PrefixClosed fun p : List (SavedBatch py root settings taskId userId) => FitsGeneration p := by
  intro p q hpre hq
  exact ⟨hpre.length_le.trans hq.count, (totalRecords_mono hpre).trans hq.records,
    (totalBytes_mono hpre).trans hq.bytes⟩

theorem SavedBatch.fitsGeneration (hsettings : 1 ≤ settings.syncPendingMaxBatchesPerTask)
    (b : SavedBatch py root settings taskId userId) : FitsGeneration [b] := by
  refine ⟨hsettings, ?_, ?_⟩
  · simpa [totalRecords] using b.within.records
  · simpa [totalBytes] using b.lineBytes_le

theorem selectLoop_eq {fs : FileSystem} (hsettings : 1 ≤ settings.syncPendingMaxBatchesPerTask)
    (taken rest : List (SavedBatch py root settings taskId userId))
    (hrest : ∀ b ∈ rest, b.IntactIn fs) (htaken : FitsGeneration taken) :
    ∃ p, IsLongestPrefix FitsGeneration (taken ++ rest) p ∧
      selectLoop root settings fs taskId userId (rest.map SavedBatch.row)
        (taken.map SavedBatch.row) (totalRecords taken) (totalBytes taken) =
          .ok (p.map SavedBatch.row) := by
  induction rest generalizing taken with
  | nil =>
    refine ⟨taken, ?_, rfl⟩
    rw [List.append_nil]
    exact IsLongestPrefix.all htaken
  | cons b rest ih =>
    have hb := b.batchStats_eq (hrest b (List.mem_cons_self ..))
    have hfits : FitsGeneration (taken ++ [b]) ↔
        ¬ (settings.syncPendingMaxBatchesPerTask < (taken.map SavedBatch.row).length + 1 ∨
          (totalRecords taken : ℤ) + b.items.length > settings.syncPendingMaxRecordsPerTask ∨
          settings.syncGenerationMaxInputBytes < totalBytes taken + lineBytes b.records) := by
      constructor
      · rintro ⟨h1, h2, h3⟩
        rw [List.length_append, List.length_singleton] at h1
        rw [totalRecords_snoc] at h2
        rw [totalBytes_snoc] at h3
        rw [List.length_map]
        omega
      · intro h
        rw [List.length_map] at h
        refine ⟨?_, ?_, ?_⟩
        · rw [List.length_append, List.length_singleton]
          omega
        · rw [totalRecords_snoc]
          omega
        · rw [totalBytes_snoc]
          omega
    rw [List.map_cons, selectLoop, hb]
    simp only [b.countedRecords_eq]
    by_cases hsnoc : FitsGeneration (taken ++ [b])
    · rw [if_neg (hfits.mp hsnoc)]
      obtain ⟨p, hp, hloop⟩ := ih _ (fun c hc => hrest c (List.mem_cons_of_mem _ hc)) hsnoc
      refine ⟨p, by simpa using hp, ?_⟩
      rw [totalRecords_snoc, totalBytes_snoc, List.map_append] at hloop
      simpa using hloop
    · rw [if_pos (not_not.mp fun h => hsnoc (hfits.mpr h))]
      have hne : taken.map SavedBatch.row ≠ [] := by
        intro h
        rw [List.map_eq_nil_iff] at h
        rw [h] at hsnoc
        exact hsnoc (b.fitsGeneration hsettings)
      rw [if_neg hne]
      exact ⟨taken, IsLongestPrefix.stop fitsGeneration_prefixClosed htaken hsnoc, rfl⟩

/-! ## Pending batches -/

theorem totalRecords_prefixClosed (n : ℕ) : PrefixClosed
    fun p : List (SavedBatch py root settings taskId userId) => totalRecords p ≤ n :=
  fun _ _ hpre hq => (totalRecords_mono hpre).trans hq

theorem pendingLoop_eq (taken rest : List (SavedBatch py root settings taskId userId))
    (htaken : totalRecords taken ≤ settings.syncPendingMaxRecordsPerTask) :
    ∃ p, IsLongestPrefix (fun p => totalRecords p ≤ settings.syncPendingMaxRecordsPerTask)
        (taken ++ rest) p ∧
      pendingLoop settings.syncPendingMaxRecordsPerTask (rest.map SavedBatch.row)
        (taken.map SavedBatch.row) (totalRecords taken) = .ok (p.map SavedBatch.row) := by
  induction rest generalizing taken with
  | nil =>
    refine ⟨taken, ?_, rfl⟩
    rw [List.append_nil]
    exact IsLongestPrefix.all htaken
  | cons b rest ih =>
    obtain ⟨-, -, hcount, -⟩ := b.row_eq
    have hmax : max b.row.recordCount 0 = b.items.length := by
      rw [hcount]
      simp
    rw [List.map_cons, pendingLoop]
    simp only [hmax]
    by_cases hsnoc : totalRecords (taken ++ [b]) ≤ settings.syncPendingMaxRecordsPerTask
    · obtain ⟨p, hp, hloop⟩ := ih _ hsnoc
      rw [totalRecords_snoc] at hsnoc hloop
      rw [if_neg (by omega)]
      refine ⟨p, by simpa using hp, ?_⟩
      rw [List.map_append] at hloop
      simpa using hloop
    · have hstop := hsnoc
      rw [totalRecords_snoc] at hstop
      have hne : taken.map SavedBatch.row ≠ [] := by
        intro h
        rw [List.map_eq_nil_iff] at h
        rw [h] at hsnoc
        exact hsnoc (by simpa [totalRecords] using b.within.records)
      rw [if_pos (by omega), if_neg hne]
      exact ⟨taken, IsLongestPrefix.stop (totalRecords_prefixClosed _) htaken hsnoc, rfl⟩

theorem getPendingBatches_eq {db : Database}
    (batches : List (SavedBatch py root settings taskId userId))
    (hdb : fetchedBatches db taskId = batches.map SavedBatch.row) :
    ∃ p, IsLongestPrefix (fun p => p.length ≤ settings.syncPendingMaxBatchesPerTask ∧
        totalRecords p ≤ settings.syncPendingMaxRecordsPerTask) batches p ∧
      getPendingBatches settings db taskId = .ok (p.map SavedBatch.row) := by
  obtain ⟨p, hp, hloop⟩ :=
    pendingLoop_eq [] (batches.take settings.syncPendingMaxBatchesPerTask) (Nat.zero_le _)
  refine ⟨p, hp.of_take, ?_⟩
  rw [getPendingBatches, hdb, ← List.map_take]
  exact hloop

/-! ## Merging -/

def mergedLines (batches : List (SavedBatch py root settings taskId userId)) : Bytes :=
  (batches.flatMap SavedBatch.items).flatMap (recordLine py.toStdlib)

theorem mergedLines_eq (batches : List (SavedBatch py root settings taskId userId)) :
    mergedLines batches = fileOf (batches.flatMap SavedBatch.records) := by
  rw [mergedLines, flatMap_recordLine, List.map_flatMap]
  rfl

theorem length_mergedLines (batches : List (SavedBatch py root settings taskId userId)) :
    (mergedLines batches).length = totalBytes batches := by
  rw [mergedLines_eq, length_fileOf]
  induction batches with
  | nil => rfl
  | cons b batches ih =>
    rw [List.flatMap_cons, lineBytes_append, ih]
    simp [totalBytes]

theorem measureLoop_eq {fs : FileSystem} (hbatches : ∀ b ∈ batches, b.IntactIn fs)
    {actualRecords outputBytes : ℕ}
    (hrecords : actualRecords + totalRecords batches ≤ settings.syncPendingMaxRecordsPerTask)
    (hbytes : outputBytes + totalBytes batches ≤ settings.syncGenerationMaxInputBytes) :
    measureLoop settings fs (batches.map SavedBatch.path) actualRecords outputBytes =
      .ok (outputBytes + totalBytes batches) := by
  induction batches generalizing actualRecords outputBytes with
  | nil => rfl
  | cons b batches ih =>
    have hb := b.stats (hbatches b (List.mem_cons_self ..))
    simp only [totalRecords, totalBytes, List.map_cons, List.sum_cons] at hrecords hbytes ih ⊢
    simp only [measureLoop, hb]
    rw [if_neg (by omega), if_neg (by omega),
      ih (fun c hc => hbatches c (List.mem_cons_of_mem _ hc)) (by omega) (by omega), Nat.add_assoc]

theorem mergedContent_eq {fs : FileSystem} (hbatches : ∀ b ∈ batches, b.IntactIn fs) :
    mergedContent settings fs (batches.map SavedBatch.path) = .ok (mergedLines batches) := by
  rw [mergedLines_eq]
  induction batches with
  | nil => rfl
  | cons b batches ih =>
    have hb := b.read (hbatches b (List.mem_cons_self ..))
    have hrest := ih fun c hc => hbatches c (List.mem_cons_of_mem _ hc)
    simp [mergedContent, hb, hrest, fileOf]

theorem findDirectories_cons_eq_ok {fs : FileSystem} {directory : Path} {name : String}
    {names : List String} (h : findDirectories fs directory (name :: names) = .ok ()) :
    fs (directory ++ [name]) = some .directory ∧
      findDirectories fs (directory ++ [name]) names = .ok () := by
  unfold findDirectories at h
  split at h
  · cases h
  · rename_i hnode
    exact ⟨hnode, h⟩
  · cases h
  · cases h

theorem SavedBatch.exists_after (b : SavedBatch py root settings taskId userId) {p : Path}
    (hp : p ≠ []) (hpre : p <+: b.path) : ∃ node, b.after p = some node := by
  obtain ⟨userComponent, -, -, -, hpath, hdirectories, hfile⟩ := saveBatchFile_eq_ok b.hsaved
  obtain ⟨huser, hdirectories⟩ := findDirectories_cons_eq_ok hdirectories
  obtain ⟨htask, -⟩ := findDirectories_cons_eq_ok hdirectories
  rw [hpath] at hpre hfile
  have hcases : p = [userComponent] ∨ p = [userComponent, taskId] ∨
      p = [userComponent, taskId, batchFileName b.hex] := by
    rw [← List.mem_inits] at hpre
    simp only [List.inits, List.map_cons, List.map_nil, List.mem_cons, List.not_mem_nil,
      or_false] at hpre
    exact hpre.resolve_left hp
  rcases hcases with rfl | rfl | rfl
  · exact ⟨_, huser⟩
  · exact ⟨_, htask⟩
  · exact ⟨_, hfile⟩

theorem SavedBatch.IntactIn.grows {fs fs' : FileSystem} (hfs : b.IntactIn fs)
    (hgrows : Grows fs fs') : b.IntactIn fs' := by
  intro p hp hpre
  obtain ⟨node, hnode⟩ := b.exists_after hp hpre
  rw [hnode]
  exact hgrows p node ((hfs p hp hpre).trans hnode)

theorem mapM_resolve {fs : FileSystem} (hbatches : ∀ b ∈ batches, b.IntactIn fs) :
    (batches.map SavedBatch.row).mapM (resolveManagedBatchPath root settings fs taskId userId) =
      .ok (batches.map SavedBatch.path) := by
  induction batches with
  | nil => rfl
  | cons b batches ih =>
    have hb := b.resolve (hbatches b (List.mem_cons_self ..))
    have hrest := ih fun c hc => hbatches c (List.mem_cons_of_mem _ hc)
    rw [List.map_cons, List.mapM_cons, hb, hrest]
    rfl

def writeMerged (settings : Settings) (fs : FileSystem) (taskId userId : String)
    (reserve : Reserve) (attemptId : String) (content : Bytes) :
    Except SyncError (Path × FileSystem) := do
  let userComponent ← syncStorageUserComponent settings userId
  let attempt ← requirePathComponent attemptId "Generation attempt ID"
  let fs ← makeDirectories fs [] [userComponent, taskId, "merged"]
  let mergedFile := [userComponent, taskId, "merged", "merged_" ++ attempt ++ ".jsonl"]
  reserve mergedFile content.length
  let fs ← createFile fs mergedFile content
  return (mergedFile, fs)

theorem sum_recordCount (batches : List (SavedBatch py root settings taskId userId)) :
    ((batches.map SavedBatch.row).map fun b => max b.recordCount 0).sum =
      (totalRecords batches : ℤ) := by
  induction batches with
  | nil => rfl
  | cons b batches ih =>
    obtain ⟨-, -, hcount, -⟩ := b.row_eq
    simp only [List.map_cons, List.sum_cons, ih, totalRecords, hcount]
    simp

theorem mergeBatches_eq {fs : FileSystem} (hbatches : ∀ b ∈ batches, b.IntactIn fs)
    (hne : batches ≠ []) (hfits : FitsGeneration batches) (reserve : Reserve) (attemptId : String) :
    mergeBatches root settings fs taskId userId reserve attemptId (batches.map SavedBatch.row) =
      writeMerged settings fs taskId userId reserve attemptId (mergedLines batches) := by
  obtain ⟨b, hb⟩ := List.exists_mem_of_ne_nil batches hne
  obtain ⟨userComponent, -, htask, huser, -⟩ := saveBatchFile_eq_ok b.hsaved
  have hcount : ¬ settings.syncPendingMaxBatchesPerTask < (batches.map SavedBatch.row).length := by
    rw [List.length_map]
    exact not_lt.mpr hfits.count
  have hrecords : ¬ ((batches.map SavedBatch.row).map fun b => max b.recordCount 0).sum >
      (settings.syncPendingMaxRecordsPerTask : ℤ) := by
    rw [sum_recordCount]
    have := hfits.records
    omega
  have hmeasure : measureLoop settings fs (batches.map SavedBatch.path) 0 0 =
      .ok (mergedLines batches).length := by
    rw [measureLoop_eq hbatches (by simpa using hfits.records) (by simpa using hfits.bytes),
      length_mergedLines, Nat.zero_add]
  have hcontent : ∀ fs', Grows fs fs' →
      mergedContent settings fs' (batches.map SavedBatch.path) = .ok (mergedLines batches) :=
    fun fs' hgrows => mergedContent_eq fun c hc => (hbatches c hc).grows hgrows
  rw [mergeBatches, writeMerged, htask, huser]
  simp only [bind, Except.bind, raiseIf, if_neg hcount, if_neg hrecords, mapM_resolve hbatches,
    hmeasure]
  cases requirePathComponent attemptId "Generation attempt ID" with
  | error e => rfl
  | ok attempt =>
    dsimp only
    cases hmake : makeDirectories fs [] [userComponent, taskId, "merged"] with
    | error e => rfl
    | ok fs' =>
      dsimp only
      rw [hcontent fs' (makeDirectories_grows hmake)]

/-! ## The limits agree -/

/-- What `_save_batch` writes of an accepted page is never refused later: not by
`get_pending_batches`, which returns the longest list of the oldest batches within its limits, not
by `_select_generation_batches`, which does so within the limits of a generation, and not by
`_merge_batches`, which writes the lines of the selected batches in order. -/
theorem ingested_batches_fit (py : JsonStdlib) (root : SyncRoot) (settings : Settings)
    (taskId userId : String) (hsettings : 1 ≤ settings.syncPendingMaxBatchesPerTask) :
    (∀ b : SavedBatch py root settings taskId userId,
      (∀ db : Database, fetchedBatches db taskId = [b.row] →
        getPendingBatches settings db taskId = .ok [b.row]) ∧
      ∀ fs : FileSystem, b.IntactIn fs →
        selectGenerationBatches root settings fs taskId userId [b.row] = .ok [b.row]) ∧
    ∀ batches : List (SavedBatch py root settings taskId userId), batches ≠ [] →
      (∀ db : Database, fetchedBatches db taskId = batches.map SavedBatch.row →
        ∃ pending, getPendingBatches settings db taskId = .ok (pending.map SavedBatch.row) ∧
          IsLongestPrefix (fun p => p.length ≤ settings.syncPendingMaxBatchesPerTask ∧
            totalRecords p ≤ settings.syncPendingMaxRecordsPerTask) batches pending) ∧
      ∀ fs : FileSystem, (∀ b ∈ batches, b.IntactIn fs) →
        ∃ selected, selected ≠ [] ∧
          selectGenerationBatches root settings fs taskId userId (batches.map SavedBatch.row) =
            .ok (selected.map SavedBatch.row) ∧
          IsLongestPrefix FitsGeneration batches selected ∧
          ∀ (reserve : Reserve) (attemptId : String),
            mergeBatches root settings fs taskId userId reserve attemptId
                (selected.map SavedBatch.row) =
              writeMerged settings fs taskId userId reserve attemptId (mergedLines selected) := by
  have hselect : ∀ (batches : List (SavedBatch py root settings taskId userId)) (fs : FileSystem),
      batches ≠ [] → (∀ b ∈ batches, b.IntactIn fs) → ∃ selected, selected ≠ [] ∧
        selectGenerationBatches root settings fs taskId userId (batches.map SavedBatch.row) =
          .ok (selected.map SavedBatch.row) ∧ IsLongestPrefix FitsGeneration batches selected := by
    intro batches fs hne hfs
    obtain ⟨b, rest, rfl⟩ := List.exists_cons_of_ne_nil hne
    obtain ⟨userComponent, -, htask, huser, -⟩ := saveBatchFile_eq_ok b.hsaved
    obtain ⟨p, hp, hloop⟩ := selectLoop_eq hsettings [] (b :: rest) hfs
      ⟨Nat.zero_le _, Nat.zero_le _, Nat.zero_le _⟩
    have hone := hp.longest [b] ⟨rest, rfl⟩ (b.fitsGeneration hsettings)
    refine ⟨p, List.length_pos_iff.mp hone, ?_, hp⟩
    rw [selectGenerationBatches, htask, huser]
    exact hloop
  refine ⟨fun b => ⟨fun db hdb => ?_, fun fs hfs => ?_⟩, fun batches hne => ⟨fun db hdb => ?_,
    fun fs hfs => ?_⟩⟩
  · obtain ⟨p, hp, hpending⟩ := getPendingBatches_eq [b] hdb
    have hone := hp.longest [b] List.prefix_rfl
      ⟨hsettings, by simpa [totalRecords] using b.within.records⟩
    rw [hpending, hp.isPrefix.eq_of_length_le hone]
    rfl
  · obtain ⟨p, hne, hselected, hp⟩ := hselect [b] fs (by simp) (by simpa using hfs)
    have hone := hp.longest [b] List.prefix_rfl (b.fitsGeneration hsettings)
    rw [hp.isPrefix.eq_of_length_le hone] at hselected
    exact hselected
  · obtain ⟨p, hp, hpending⟩ := getPendingBatches_eq batches hdb
    exact ⟨p, hpending, hp⟩
  · obtain ⟨selected, hselected, heq, hp⟩ := hselect batches fs hne hfs
    refine ⟨selected, hselected, heq, hp, fun reserve attemptId => ?_⟩
    exact mergeBatches_eq (fun c hc => hfs c (hp.isPrefix.subset hc)) hselected hp.fits reserve
      attemptId

end Saved

/-! ## One batch -/

theorem validateAndDeduplicateItems_single {py : Stdlib} {settings : Settings} {now : DateTime}
    {item : Json} {n : Nat}
    (hvalid : validateItem py settings (now + seconds settings.syncMaxFutureSkewSeconds) item =
      .ok n) (hrecords : 0 < settings.syncPendingMaxRecordsPerTask)
    (hbytes : n ≤ settings.syncGenerationMaxInputBytes) :
    validateAndDeduplicateItems py settings now (.arr [item]) = .ok [item] := by
  have hcount : ¬ settings.syncPendingMaxRecordsPerTask < ([] : List Json).length + 1 :=
    Nat.not_lt.mpr hrecords
  have htotal : ¬ settings.syncGenerationMaxInputBytes < 0 + n := by simpa using hbytes
  simp only [validateAndDeduplicateItems, validateItems, hvalid, if_neg List.not_mem_nil,
    if_neg hcount, if_neg htotal, List.nil_append]

theorem exists_saveBatchFile_single {py : Stdlib} {settings : Settings}
    {taskId userId taskComponent userComponent : String} (hex : UuidHex) {item : Json}
    (htask : requirePathComponent taskId "Task ID" = .ok taskComponent)
    (huser : syncStorageUserComponent settings userId = .ok userComponent)
    (hrecords : 0 < settings.syncPendingMaxRecordsPerTask)
    (hbytes : (serializeBatchItem py item).utf8ByteSize ≤ settings.syncMaxRecordBytes) :
    ∃ r, saveBatchFile py settings (fun _ _ => .ok ()) (fun _ => none) taskId userId hex [item] =
      .ok r := by
  have hline : ¬ ([item].any fun item =>
      settings.syncMaxRecordBytes < (recordLine py item).length) = true := by
    simpa [recordLine] using hbytes
  have hcount : ¬ settings.syncPendingMaxRecordsPerTask < [item].length := Nat.not_lt.mpr hrecords
  simp only [saveBatchFile, htask, huser, makeDirectories, raiseIf, if_neg hcount, if_neg hline,
    createFile, bind, Except.bind]
  simp [pure, Except.pure]

def oneRecordText : JsonStdlib where
  toStdlib := { oneRecord with dumps := fun v => v.dumps fun _ => "" }
  dumps_eq _ := rfl
  repr_float _ := List.not_mem_nil

def dataSync : SyncRoot where
  names := ["app", "data", "sync"]
  cwd := "/app"
  names_plain := by decide

def helloHex : UuidHex := ⟨"0123456789abcdef0123456789abcdef", by simp⟩

def helloArgs (path : Path) : CreateBatch where
  uuid := "batch"
  now := 63839664001000000
  taskId := "task"
  userId := "user"
  recordCount := 1
  storagePath := dataSync.text path
  sinceTime := none

theorem utf8ByteSize_line (py : JsonStdlib) (document : Json) :
    (py.toStdlib.line document).utf8ByteSize =
      ((document.chars fun q => py.repr (.float q)).map Char.utf8Size).sum + 1 := by
  have hend : "\n".utf8ByteSize = 1 := rfl
  rw [Stdlib.line, py.dumps_eq, Json.dumps, String.utf8ByteSize_append, hend, ← length_utf8_ofList,
    utf8, String.toList_ofList, List.length_flatMap]
  simp only [String.length_utf8EncodeChar]

theorem helloLine_short :
    (serializeBatchItem oneRecordText.toStdlib helloRecord).utf8ByteSize ≤ 1000 := by
  have hchars : (((batchDocument oneRecordText.toStdlib helloRecord).chars fun q =>
      oneRecordText.repr (.float q)).map Char.utf8Size).sum ≤ 999 := by decide +kernel
  have hline : (serializeBatchItem oneRecordText.toStdlib helloRecord).utf8ByteSize =
      (((batchDocument oneRecordText.toStdlib helloRecord).chars fun q =>
        oneRecordText.repr (.float q)).map Char.utf8Size).sum + 1 := by
    unfold serializeBatchItem
    exact utf8ByteSize_line oneRecordText _
  generalize (serializeBatchItem oneRecordText.toStdlib helloRecord).utf8ByteSize = n at hline ⊢
  generalize (((batchDocument oneRecordText.toStdlib helloRecord).chars fun q =>
    oneRecordText.repr (.float q)).map Char.utf8Size).sum = m at hchars hline
  omega

theorem validateItem_hello :
    validateItem oneRecordText.toStdlib {}
        (63839664001000000 + seconds ({} : Settings).syncMaxFutureSkewSeconds) helloRecord =
      .ok (serializeBatchItem oneRecordText.toStdlib helloRecord).utf8ByteSize := by
  have hobj : ¬ ¬ helloRecord.isObj = true := by decide
  have htext : helloRecord.get? "text" = some (.str "hello") := by rfl
  have hstrip : ¬ strip "hello" = "" := by decide
  have htime : createdAt oneRecordText.toStdlib helloRecord = some 63839664000000000 := by
    decide +kernel
  have hfuture : ¬ 63839664001000000 + seconds ({} : Settings).syncMaxFutureSkewSeconds <
      (63839664000000000 : DateTime) := by decide
  have hbytes : ¬ ({} : Settings).syncMaxRecordBytes <
      (serializeBatchItem oneRecordText.toStdlib helloRecord).utf8ByteSize :=
    Nat.not_lt.mpr (helloLine_short.trans (by decide))
  simp only [validateItem, if_neg hobj, htext, if_neg hstrip, htime, if_neg hfuture, if_neg hbytes]

/-- The batch of one record is selected and merged. -/
theorem hello_batch_fits :
    ∃ b : SavedBatch oneRecordText dataSync {} "task" "user", b.items = [helloRecord] ∧
      selectGenerationBatches dataSync {} b.after "task" "user" [b.row] = .ok [b.row] := by
  have haccepted := validateAndDeduplicateItems_single validateItem_hello (by decide)
    (helloLine_short.trans (by decide))
  have htask : requirePathComponent "task" "Task ID" = .ok "task" := by decide +kernel
  have huser : syncStorageUserComponent {} "user" = .ok "user" := by decide +kernel
  obtain ⟨⟨path, after⟩, hsaved⟩ := exists_saveBatchFile_single helloHex htask huser (by decide)
    (helloLine_short.trans (by decide))
  let b : SavedBatch oneRecordText dataSync {} "task" "user" :=
    { page := .arr [helloRecord]
      now := 63839664001000000
      accepted := [helloRecord]
      haccepted := haccepted
      items := [helloRecord]
      hitems := List.Sublist.refl _
      hnonempty := List.cons_ne_nil _ _
      reserve := fun _ _ => .ok ()
      before := fun _ => none
      hex := helloHex
      path := path
      after := after
      hsaved := hsaved
      fileSha256 := fun _ => none
      args := helloArgs path
      hargs := ⟨rfl, rfl, rfl, rfl⟩
      db := Database.ofTask newTask
      created := (helloArgs path).row
      dbAfter := _
      hcreated := rfl
      status := .fetched
      generationTaskId := none }
  refine ⟨b, rfl, ?_⟩
  exact ((ingested_batches_fit oneRecordText dataSync {} "task" "user" (by decide)).1 b).2 after
    fun _ _ _ => rfl

end Sync
