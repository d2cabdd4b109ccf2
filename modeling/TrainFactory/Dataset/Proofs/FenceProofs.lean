import TrainFactory.Dataset.Service

/-!
# The fence and the references it does not cover

A consumer locks the rows that its references name: by id, stored path, stored URI or stored digest.
Of plainly spelled references these are the rows that store the same normal form. The deletion
reaches every reference that overlaps one of the row. `consumption_fenced_iff` says when the two
agree.
-/

namespace Dataset

open Lib

variable {host : Host} {rows : Datasets} {request : LockRequest}

/-! ## What the lock answers -/

theorem insertionSort_ne_nil {ids : List String} :
    ids.insertionSort (· ≤ ·) ≠ [] ↔ ∃ id, id ∈ ids := by
  constructor
  · intro hne
    obtain ⟨id, hid⟩ := List.exists_mem_of_ne_nil _ hne
    exact ⟨id, (List.perm_insertionSort (· ≤ ·) ids).mem_iff.mp hid⟩
  · rintro ⟨id, hid⟩
    exact List.ne_nil_of_mem ((List.perm_insertionSort (· ≤ ·) ids).mem_iff.mpr hid)

theorem idsWithStatus_ne_nil {status : DatasetStatus} :
    idsWithStatus (rows.select (host.isNamed request)) status ≠ [] ↔
      ∃ d ∈ rows, d.status = status ∧ host.isNamed request d = true := by
  rw [idsWithStatus, insertionSort_ne_nil]
  constructor
  · rintro ⟨id, hid⟩
    obtain ⟨d, hd, -⟩ := List.mem_map.mp hid
    obtain ⟨hd, hs⟩ := List.mem_filter.mp hd
    obtain ⟨hd, hn⟩ := Table.mem_select.mp hd
    exact ⟨d, hd, of_decide_eq_true hs, hn⟩
  · rintro ⟨d, hd, hs, hn⟩
    have hmem : d ∈ (rows.select (host.isNamed request)).filter fun d => d.status = status :=
      List.mem_filter.mpr ⟨Table.mem_select.mpr ⟨hd, hn⟩, decide_eq_true hs⟩
    exact ⟨d.datasetId, List.mem_map_of_mem hmem⟩

/-- A required id is the id of no row that the request names, or a required reference is the one of
no such row. -/
def Host.isMissing (host : Host) (rows : Datasets) (request : LockRequest) : Prop :=
  (request.requireAllDatasetIds = true ∧ ∃ id ∈ normalized request.datasetIds,
      ∀ d ∈ rows, host.isNamed request d = true → d.datasetId ≠ id) ∨
    (request.requireAllStorageRefs = true ∧ ∃ ref ∈ normalized request.storageRefs,
      ∀ d ∈ rows, host.isNamed request d = true → host.matchesRef d ref = false)

theorem missingIds_ne_nil :
    missingIds request (rows.select (host.isNamed request)) ≠ [] ↔
      ∃ id ∈ normalized request.datasetIds,
        ∀ d ∈ rows, host.isNamed request d = true → d.datasetId ≠ id := by
  rw [missingIds, insertionSort_ne_nil]
  refine exists_congr fun id => ?_
  rw [List.mem_filter]
  refine and_congr_right fun _ => ?_
  simp only [List.mem_map, Table.mem_select, not_exists, not_and, decide_eq_true_eq, and_imp, ne_eq]

theorem missingRefs_ne_nil :
    host.missingRefs request (rows.select (host.isNamed request)) ≠ [] ↔
      ∃ ref ∈ normalized request.storageRefs,
        ∀ d ∈ rows, host.isNamed request d = true → host.matchesRef d ref = false := by
  rw [Host.missingRefs, insertionSort_ne_nil]
  refine exists_congr fun ref => ?_
  rw [List.mem_filter]
  refine and_congr_right fun _ => ?_
  simp only [Bool.not_eq_true', List.any_eq_false, Table.mem_select, and_imp, Bool.not_eq_true]

theorem isNamed_of_empty (hids : normalized request.datasetIds = [])
    (hrefs : normalized request.storageRefs = []) (d : DatasetRow) :
    host.isNamed request d = false := by
  have hnone : ∀ column : Option String, column.any (host.isIn []) = false := by
    intro column
    cases column <;> rfl
  simp [Host.isNamed, hids, hrefs, hnone]
  rfl

/-- What the lock answers, in the order of its checks. -/
inductive LockAnswer (host : Host) (rows : Datasets) (request : LockRequest) :
    Except DatasetError (List DatasetRow) → Prop where
  | missing (message : String) (hmissing : host.isMissing rows request) :
      LockAnswer host rows request (.error (.referenceUnavailable message))
  | deleting (message : String) (hmissing : ¬ host.isMissing rows request) {d : DatasetRow}
      (hd : d ∈ rows) (hstatus : d.status = .deleting) (hnamed : host.isNamed request d = true) :
      LockAnswer host rows request (.error (.deletionInProgress message))
  | staging (message : String) (hmissing : ¬ host.isMissing rows request)
      (hnone : ∀ d ∈ rows, host.isNamed request d = true → d.status ≠ .deleting) {d : DatasetRow}
      (hd : d ∈ rows) (hstatus : d.status = .staging) (hnamed : host.isNamed request d = true) :
      LockAnswer host rows request (.error (.consumptionUnavailable message))
  | locked (datasets : List DatasetRow) (hmissing : ¬ host.isMissing rows request)
      (hnone : ∀ d ∈ rows, host.isNamed request d = true →
        d.status ≠ .deleting ∧ d.status ≠ .staging) :
      LockAnswer host rows request (.ok datasets)

theorem lockAnswer (host : Host) (rows : Datasets) (request : LockRequest) :
    LockAnswer host rows request (host.lockDatasetsForConsumption rows request) := by
  have hstatus : ∀ status, idsWithStatus (rows.select (host.isNamed request)) status = [] →
      ∀ d ∈ rows, host.isNamed request d = true → d.status ≠ status := by
    intro status hnil d hd hn hs
    exact idsWithStatus_ne_nil.mpr ⟨d, hd, hs, hn⟩ hnil
  unfold Host.lockDatasetsForConsumption
  by_cases hempty : normalized request.datasetIds = [] ∧ normalized request.storageRefs = []
  · rw [if_pos hempty]
    refine .locked _ ?_ fun d _ hn => ?_
    · rintro (⟨-, id, hid, -⟩ | ⟨-, ref, href, -⟩)
      · simp [hempty.1] at hid
      · simp [hempty.2] at href
    · rw [isNamed_of_empty hempty.1 hempty.2] at hn
      exact absurd hn (by simp)
  rw [if_neg hempty]
  dsimp only
  by_cases hids : request.requireAllDatasetIds = true ∧
      missingIds request (rows.select (host.isNamed request)) ≠ []
  · rw [if_pos hids]
    exact .missing _ (Or.inl ⟨hids.1, missingIds_ne_nil.mp hids.2⟩)
  rw [if_neg hids]
  by_cases hrefs : request.requireAllStorageRefs = true ∧
      host.missingRefs request (rows.select (host.isNamed request)) ≠ []
  · rw [if_pos hrefs]
    exact .missing _ (Or.inr ⟨hrefs.1, missingRefs_ne_nil.mp hrefs.2⟩)
  rw [if_neg hrefs]
  have hmissing : ¬ host.isMissing rows request := by
    rintro (⟨hreq, h⟩ | ⟨hreq, h⟩)
    · exact hids ⟨hreq, missingIds_ne_nil.mpr h⟩
    · exact hrefs ⟨hreq, missingRefs_ne_nil.mpr h⟩
  by_cases hdeleting : idsWithStatus (rows.select (host.isNamed request)) .deleting = []
  · rw [if_neg (not_not.mpr hdeleting)]
    by_cases hstaging : idsWithStatus (rows.select (host.isNamed request)) .staging = []
    · rw [if_neg (not_not.mpr hstaging)]
      exact .locked _ hmissing fun d hd hn =>
        ⟨hstatus _ hdeleting d hd hn, hstatus _ hstaging d hd hn⟩
    · rw [if_pos hstaging]
      obtain ⟨d, hd, hs, hn⟩ := idsWithStatus_ne_nil.mp hstaging
      exact .staging _ hmissing (hstatus _ hdeleting) hd hs hn
  · rw [if_pos hdeleting]
    obtain ⟨d, hd, hs, hn⟩ := idsWithStatus_ne_nil.mp hdeleting
    exact .deleting _ hmissing hd hs hn

theorem lock_deletionInProgress_iff :
    (∃ message, host.lockDatasetsForConsumption rows request =
        .error (.deletionInProgress message)) ↔
      ¬ host.isMissing rows request ∧
        ∃ d ∈ rows, d.status = .deleting ∧ host.isNamed request d = true := by
  generalize hres : host.lockDatasetsForConsumption rows request = result
  have hanswer := hres ▸ lockAnswer host rows request
  cases hanswer with
  | missing message hmissing => simp [hmissing]
  | deleting message hmissing hd hs hn =>
    exact ⟨fun _ => ⟨hmissing, _, hd, hs, hn⟩, fun _ => ⟨_, rfl⟩⟩
  | staging message hmissing hnone =>
    simp only [Except.error.injEq, reduceCtorEq, exists_false, false_iff]
    rintro ⟨-, d, hd, hs, hn⟩
    exact hnone d hd hn hs
  | locked datasets hmissing hnone =>
    simp only [reduceCtorEq, exists_false, false_iff]
    rintro ⟨-, d, hd, hs, hn⟩
    exact (hnone d hd hn).1 hs

theorem lock_error_iff :
    (∃ e, host.lockDatasetsForConsumption rows request = .error e) ↔
      host.isMissing rows request ∨
        ∃ d ∈ rows, (d.status = .deleting ∨ d.status = .staging) ∧
          host.isNamed request d = true := by
  generalize hres : host.lockDatasetsForConsumption rows request = result
  have hanswer := hres ▸ lockAnswer host rows request
  cases hanswer with
  | missing message hmissing => exact ⟨fun _ => Or.inl hmissing, fun _ => ⟨_, rfl⟩⟩
  | deleting message hmissing hd hs hn =>
    exact ⟨fun _ => Or.inr ⟨_, hd, Or.inl hs, hn⟩, fun _ => ⟨_, rfl⟩⟩
  | staging message hmissing hnone hd hs hn =>
    exact ⟨fun _ => Or.inr ⟨_, hd, Or.inr hs, hn⟩, fun _ => ⟨_, rfl⟩⟩
  | locked datasets hmissing hnone =>
    simp only [reduceCtorEq, exists_false, hmissing, false_or, false_iff]
    rintro ⟨d, hd, hs, hn⟩
    exact hs.elim (hnone d hd hn).1 (hnone d hd hn).2

/-! ## The fence -/

/-- The references of the row overlap a requested one. -/
def Host.overlapsRequest (host : Host) (request : LockRequest) (d : DatasetRow) : Prop :=
  ∃ ref ∈ d.references, ∃ r ∈ request.storageRefs, host.storageReferencesOverlap r ref = .ok true

/-- A deleting row that overlaps a requested reference makes the lock raise, and a lock that raises
for deletion has a deleting row that was requested or overlaps a requested reference. -/
def Host.Fenced (host : Host) (rows : Datasets) (request : LockRequest) : Prop :=
  (∀ d ∈ rows, d.status = .deleting → host.overlapsRequest request d →
      ∃ e, host.lockDatasetsForConsumption rows request = .error e) ∧
    ∀ message,
      host.lockDatasetsForConsumption rows request = .error (.deletionInProgress message) →
      ∃ d ∈ rows, d.status = .deleting ∧
        (d.datasetId ∈ normalized request.datasetIds ∨ host.overlapsRequest request d)

/-! ## Plain spelling -/

/-- The reference is spelled so that the digest and the identity normalize it alike: a local path
without a home directory, below a root of one slash, or a URI without a query or a fragment. Its form
is what it names. -/
inductive Host.Plain (host : Host) (ref : String) : Identity → Prop
  | localPath (htrimmed : strip ref = ref) (hlocal : startsWith ref "s3://" = false)
      (hid : host.storageReferenceIdentity ref = .ok (some (.localPath (host.dirs.resolve ref))))
      (hhome : host.dirs.expandUser ref = ref)
      (hroot : initialSlashes (if isAbs ref then ref else joinPath host.dirs.cwd ref) = "/") :
      host.Plain ref (.localPath (host.dirs.resolve ref))
  | s3 {bucket key : String} (htrimmed : strip ref = ref)
      (hparse : parseS3Uri ref = some (bucket, key))
      (hid : host.storageReferenceIdentity ref = .ok (some (.s3 (bucket ++ "/" ++ key)))) :
      host.Plain ref (.s3 (bucket ++ "/" ++ key))

/-- The text whose digest is stored for a form. -/
def Identity.text : Identity → String
  | .s3 object => "s3://" ++ object
  | .localPath path => path

/-- What a row stores: one plain reference with its digest, or none. -/
inductive Host.HasForm (host : Host) (d : DatasetRow) : Option Identity → Prop
  | stored {ref : String} {form : Identity} (hreference : d.references = [ref])
      (hplain : host.Plain ref form) (hhash : d.storagePathHash = some (host.sha256 form.text)) :
      host.HasForm d (some form)
  | unstored (hreference : d.references = []) (hhash : d.storagePathHash = none) :
      host.HasForm d none

/-- The reference names what the row stores. -/
def Host.SameForm (host : Host) (d : DatasetRow) (ref : String) : Prop :=
  ∃ form, host.HasForm d (some form) ∧ host.Plain ref form

/-- References are spelled plainly, the collation tells different texts apart, and the digests tell
different forms apart. -/
structure Host.PlainlySpelled (host : Host) (rows : Datasets) (request : LockRequest) : Prop where
  stored : ∀ d ∈ rows, ∃ form, host.HasForm d form
  requested : ∀ ref ∈ normalized request.storageRefs, ∃ form, host.Plain ref form
  ids : ∀ d ∈ rows, ∀ id ∈ normalized request.datasetIds,
    host.collation.same d.datasetId id = true → d.datasetId = id
  texts : ∀ d ∈ rows, ∀ text ∈ d.references, ∀ ref ∈ normalized request.storageRefs,
    ∀ uri ∈ refUris ref, host.collation.same text uri = true → text = uri
  hashes : ∀ d ∈ rows, ∀ hash ∈ d.storagePathHash, ∀ ref ∈ normalized request.storageRefs,
    ∀ hash' ∈ host.refHashes ref, host.collation.same hash hash' = true → hash = hash'
  digests : ∀ d ∈ rows, ∀ form form', host.HasForm d (some form) →
    ∀ ref ∈ normalized request.storageRefs, host.Plain ref form' →
      host.sha256 form.text ∈ host.refHashes ref → form = form'

/-! ### Forms -/

section Forms

variable {ref : String} {form form' : Identity} {d : DatasetRow}

theorem Host.Plain.identity (h : host.Plain ref form) :
    host.storageReferenceIdentity ref = .ok (some form) := by
  cases h with
  | localPath _ _ hid => exact hid
  | s3 _ _ hid => exact hid

theorem Host.Plain.unique (h : host.Plain ref form) (h' : host.Plain ref form') : form = form' :=
  Option.some.inj (Except.ok.inj (h.identity.symm.trans h'.identity))

/-- Below a root of one slash the two normalizations of a local path agree. -/
theorem resolve_eq_text (dirs : Directories)
    (hroot : initialSlashes (if isAbs ref then ref else joinPath dirs.cwd ref) = "/") :
    ∃ p : NormalPath, p.doubled = false ∧ dirs.resolve ref = p.text ∧ dirs.absPath ref = p.text := by
  generalize hfull : (if isAbs ref then ref else joinPath dirs.cwd ref) = full at hroot
  have habs : isAbs full = true := by
    by_contra habs
    simp only [Bool.not_eq_true] at habs
    have hdouble : startsWith full "//" = false := by
      rw [Bool.eq_false_iff]
      intro hprefix
      obtain ⟨rest, hrest⟩ := List.isPrefixOf_iff_prefix.mp hprefix
      have hone : isAbs full = true :=
        List.isPrefixOf_iff_prefix.mpr ⟨'/' :: rest, by rw [← hrest]; rfl⟩
      rw [hone] at habs
      cases habs
    simp [initialSlashes, habs, hdouble] at hroot
  have hdoubled : (NormalPath.ofText full).doubled = false := by
    rw [NormalPath.ofText, hroot]
    rfl
  have habsPath : dirs.absPath ref = (NormalPath.ofText full).text := by
    rw [Directories.absPath, hfull, NormalPath.normPath_eq habs]
  refine ⟨NormalPath.ofText full, hdoubled, ?_, habsPath⟩
  unfold Directories.resolve
  dsimp only
  rw [hfull]
  split
  · exact habsPath
  · rw [NormalPath.text, NormalPath.slashes, hdoubled, ← NormalPath.normComponents_filter]
    rfl

theorem normalizePath_eq_resolve (hhome : host.dirs.expandUser ref = ref)
    (hroot : initialSlashes (if isAbs ref then ref else joinPath host.dirs.cwd ref) = "/") :
    host.normalizePath ref = host.dirs.resolve ref := by
  obtain ⟨p, -, hresolve, habs⟩ := resolve_eq_text host.dirs hroot
  rw [Host.normalizePath, hhome, habs, NormalPath.normPath_text, hresolve]

/-- A form overlaps itself. -/
theorem Host.Plain.overlap_self (h : host.Plain ref form) :
    identitiesOverlap (some form) (some form) = true := by
  cases h with
  | s3 => exact decide_eq_true rfl
  | localPath _ _ _ _ hroot =>
    obtain ⟨p, hdoubled, hresolve, -⟩ := resolve_eq_text host.dirs hroot
    have hprefix : ∀ names : List String, commonPrefix names names = names := by
      intro names
      induction names with
      | nil => rfl
      | cons name names ih => rw [commonPrefix, if_pos rfl, ih]
    have hcommon : commonPath p.text p.text = some p.text := by
      rw [commonPath, if_pos rfl, NormalPath.pathComponents_text, hprefix, p.isAbs_text, if_pos rfl,
        NormalPath.text, NormalPath.slashes, hdoubled]
      rfl
    simp [identitiesOverlap, hresolve, hcommon]

theorem head?_dropWhile_ne (cs : List Char) : (cs.dropWhile (· = '/')).head? ≠ some '/' := by
  intro hhead
  have hnot := List.head?_dropWhile_not (· = '/') cs
  rw [hhead] at hnot
  cases hnot

theorem parseS3Uri_eq_some {uri bucket key : String} (h : parseS3Uri uri = some (bucket, key)) :
    startsWith uri "s3://" = true ∧ ('/' ∉ bucket.toList ∧ bucket ≠ "" ∧
      key.toList.head? ≠ some '/' ∧ key ≠ "") ∧ key.toList <:+ uri.toList := by
  unfold parseS3Uri at h
  split at h
  · next hscheme =>
    dsimp only at h
    split at h
    · cases h
    · next hne =>
      obtain ⟨rfl, rfl⟩ := Prod.mk.inj (Option.some.inj h)
      rw [not_or] at hne
      refine ⟨hscheme, ⟨?_, ?_, ?_, ?_⟩, ?_⟩
      · rw [String.toList_ofList]
        intro hmem
        simpa using List.mem_takeWhile_imp hmem
      · intro hempty
        exact hne.1 (by simpa using congrArg String.toList hempty)
      · rw [String.toList_ofList]
        exact head?_dropWhile_ne _
      · intro hempty
        exact hne.2 (by simpa using congrArg String.toList hempty)
      · rw [String.toList_ofList]
        refine ((List.dropWhile_suffix _).trans (List.dropWhile_suffix _)).trans ?_
        rw [dropChars, String.toList_ofList]
        exact List.drop_suffix 5 uri.toList
  · cases h

/-- A stripped text does not end with a blank. -/
theorem not_isSpace_getLast {text : String} (h : strip text = text) (hne : text.toList ≠ []) :
    ¬ isSpace (text.toList.getLast hne) = true := by
  have hchars : text.toList = (text.toList.dropWhile isSpace).rdropWhile isSpace := by
    conv_lhs => rw [← h]
    rw [strip, String.toList_ofList, List.rdropWhile]
  have hlast : ∀ cs : List Char, cs = (text.toList.dropWhile isSpace).rdropWhile isSpace →
      ∀ hcs : cs ≠ [], ¬ isSpace (cs.getLast hcs) = true := by
    rintro cs rfl hcs
    exact List.rdropWhile_last_not isSpace _ hcs
  exact hlast _ hchars hne

/-- The canonical URI of a stripped one is stripped. -/
theorem strip_canonical {uri bucket key : String} (htrimmed : strip uri = uri)
    (h : parseS3Uri uri = some (bucket, key)) :
    strip ("s3://" ++ bucket ++ "/" ++ key) = "s3://" ++ bucket ++ "/" ++ key := by
  obtain ⟨-, ⟨-, -, -, hkey⟩, hsuffix⟩ := parseS3Uri_eq_some h
  have hkeyNe : key.toList ≠ [] := by simpa [String.toList_eq_nil_iff] using hkey
  have huriNe : uri.toList ≠ [] := fun hnil => hkeyNe (by rw [hnil] at hsuffix; simpa using hsuffix)
  have hlast : ¬ isSpace (key.toList.getLast hkeyNe) = true := by
    obtain ⟨front, hfront⟩ := hsuffix
    have heq : uri.toList.getLast huriNe = key.toList.getLast hkeyNe := by
      simp only [← hfront, List.getLast_append_of_ne_nil _ hkeyNe]
    rw [← heq]
    exact not_isSpace_getLast htrimmed huriNe
  have hchars : ("s3://" ++ bucket ++ "/" ++ key).toList =
      's' :: ("3://".toList ++ (bucket.toList ++ '/' :: key.toList)) := by simp
  refine String.toList_injective ?_
  rw [strip, String.toList_ofList, hchars, List.dropWhile_cons_of_neg (by decide)]
  have hne : ('s' :: ("3://".toList ++ (bucket.toList ++ '/' :: key.toList))) ≠ [] :=
    List.cons_ne_nil _ _
  refine List.rdropWhile_eq_self_iff.mpr fun _ => ?_
  have hend : ('s' :: ("3://".toList ++ (bucket.toList ++ '/' :: key.toList))).getLast hne =
      key.toList.getLast hkeyNe := by
    simp [List.getLast_append_of_ne_nil, hkeyNe]
  rw [hend]
  exact hlast

/-- The canonical URI of an object. -/
theorem parseS3Uri_canonical {bucket key : String} (hbucket : '/' ∉ bucket.toList)
    (hbucketNe : bucket ≠ "") (hkey : key.toList.head? ≠ some '/') (hkeyNe : key ≠ "") :
    parseS3Uri ("s3://" ++ bucket ++ "/" ++ key) = some (bucket, key) := by
  have hchars : ("s3://" ++ bucket ++ "/" ++ key).toList =
      "s3://".toList ++ (bucket.toList ++ '/' :: key.toList) := by simp
  have hscheme : startsWith ("s3://" ++ bucket ++ "/" ++ key) "s3://" = true :=
    List.isPrefixOf_iff_prefix.mpr ⟨_, hchars.symm⟩
  have hbody : (dropChars ("s3://" ++ bucket ++ "/" ++ key) 5).toList =
      bucket.toList ++ '/' :: key.toList := by
    rw [dropChars, String.toList_ofList, hchars]
    rfl
  have hnoSlash : ∀ c ∈ bucket.toList, (decide (c ≠ '/')) = true :=
    fun c hc => decide_eq_true fun heq => hbucket (heq ▸ hc)
  have htail : (key.toList.dropWhile fun c => c = '/') = key.toList := by
    cases hcs : key.toList with
    | nil => rfl
    | cons c cs =>
      rw [hcs, List.head?_cons] at hkey
      rw [List.dropWhile_cons_of_neg (by simpa using fun h => hkey (congrArg some h))]
  have htake : (bucket.toList ++ '/' :: key.toList).takeWhile (· ≠ '/') = bucket.toList := by
    rw [List.takeWhile_append_of_pos hnoSlash, List.takeWhile_cons_of_neg (by simp),
      List.append_nil]
  have hdrop : (bucket.toList ++ '/' :: key.toList).dropWhile (· ≠ '/') = '/' :: key.toList := by
    rw [List.dropWhile_append_of_pos hnoSlash, List.dropWhile_cons_of_neg (by simp)]
  unfold parseS3Uri
  rw [if_pos hscheme]
  dsimp only
  rw [hbody, htake, hdrop, List.dropWhile_cons_of_pos (by simp), htail,
    if_neg (by simp [String.toList_eq_nil_iff, hbucketNe, hkeyNe]), String.ofList_toList,
    String.ofList_toList]

theorem normalizeS3Uri_of_parse {uri bucket key : String} (htrimmed : strip uri = uri)
    (h : parseS3Uri uri = some (bucket, key)) :
    normalizeS3Uri (some uri) = some ("s3://" ++ bucket ++ "/" ++ key) := by
  have hne : uri ≠ "" := by
    rintro rfl
    exact absurd (parseS3Uri_eq_some h).1 (by decide)
  simp [normalizeS3Uri, hne, htrimmed, h]

/-- The digest of its form is among those of a plain reference. -/
theorem Host.Plain.digest_mem (h : host.Plain ref form) :
    host.sha256 form.text ∈ host.refHashes ref := by
  cases h with
  | localPath htrimmed hlocal hid hhome hroot =>
    have hne : ref ≠ "" := by
      rintro rfl
      simp [Host.storageReferenceIdentity, htrimmed] at hid
    simp [Host.refHashes, hlocal, Host.hashStorageRef, htrimmed, hne, Host.hashPath,
      normalizePath_eq_resolve hhome hroot, Identity.text]
  | @s3 bucket key htrimmed hparse hid =>
    obtain ⟨hscheme, ⟨hbucket, hbucketNe, hkey, hkeyNe⟩, -⟩ := parseS3Uri_eq_some hparse
    have hcanonical : normalizeS3Uri (some ("s3://" ++ bucket ++ "/" ++ key)) =
        some ("s3://" ++ bucket ++ "/" ++ key) :=
      normalizeS3Uri_of_parse (strip_canonical htrimmed hparse)
        (parseS3Uri_canonical hbucket hbucketNe hkey hkeyNe)
    have htext : Identity.text (.s3 (bucket ++ "/" ++ key)) = "s3://" ++ bucket ++ "/" ++ key := by
      simp only [Identity.text, String.append_assoc]
    rw [Host.refHashes, if_pos hscheme, normalizeS3Uri_of_parse htrimmed hparse, htext]
    simp [Host.hashStorageRef, hcanonical]

/-- What the lock finds by its texts has the form of the reference. -/
theorem Host.Plain.of_refUris {uri : String} (h : host.Plain ref form) (huri : uri ∈ refUris ref)
    (h' : host.Plain uri form') : form' = form := by
  rw [refUris] at huri
  rcases List.mem_cons.mp huri with rfl | huri
  · exact h'.unique h
  split at huri
  · next hscheme =>
    cases h with
    | localPath _ hlocal => rw [hlocal] at hscheme; cases hscheme
    | s3 htrimmed hparse =>
      obtain ⟨-, ⟨hbucket, hbucketNe, hkey, hkeyNe⟩, -⟩ := parseS3Uri_eq_some hparse
      have hcanonical := parseS3Uri_canonical hbucket hbucketNe hkey hkeyNe
      rw [normalizeS3Uri_of_parse htrimmed hparse, Option.mem_toList] at huri
      obtain rfl := Option.some.inj huri
      cases h' with
      | localPath _ hlocal => rw [(parseS3Uri_eq_some hcanonical).1] at hlocal; cases hlocal
      | s3 _ hparse' =>
        obtain ⟨rfl, rfl⟩ := Prod.mk.inj (Option.some.inj (hparse'.symm.trans hcanonical))
        rfl
  · cases huri

end Forms

/-! ### What the lock finds -/

section Spelled

variable (h : host.PlainlySpelled rows request) {d : DatasetRow} (hd : d ∈ rows)

include h hd in
/-- A row has the reference as a text or as a digest exactly if it stores what the reference
names. -/
theorem matchesRef_iff {ref : String} (href : ref ∈ normalized request.storageRefs) :
    host.matchesRef d ref = true ↔ host.SameForm d ref := by
  obtain ⟨form, hplain⟩ := h.requested ref href
  have htext : ∀ text ∈ d.references, text ∈ refUris ref → host.SameForm d ref := by
    intro text htext huri
    obtain ⟨form', hform⟩ := h.stored d hd
    cases hform with
    | stored hreference hstored hhash =>
      rw [hreference, List.mem_singleton] at htext
      subst htext
      obtain rfl := hplain.of_refUris huri hstored
      exact ⟨_, .stored hreference hstored hhash, hplain⟩
    | unstored hreference =>
      rw [hreference] at htext
      cases htext
  simp only [Host.matchesRef, Bool.or_eq_true, decide_eq_true_eq, Option.any_eq_true]
  constructor
  · rintro ((hpath | ⟨uri, huri, hmem⟩) | ⟨hash, hhash, hmem⟩)
    · exact htext ref (by simp [DatasetRow.references, hpath]) (List.mem_cons_self ..)
    · exact htext uri (by simp [DatasetRow.references, huri]) hmem
    · obtain ⟨form', hform⟩ := h.stored d hd
      cases hform with
      | stored hreference hstored hhash' =>
        obtain rfl := Option.some.inj (hhash.symm.trans hhash')
        have hform := Host.HasForm.stored hreference hstored hhash'
        obtain rfl := h.digests d hd _ _ hform ref href hplain hmem
        exact ⟨_, hform, hplain⟩
      | unstored _ hhash' =>
        rw [hhash'] at hhash
        cases hhash
  · rintro ⟨form', hform, hplain'⟩
    cases hform with
    | stored _ _ hhash => exact Or.inr ⟨_, hhash, hplain'.digest_mem⟩

theorem isIn_iff {values : List String} {column : String}
    (hcollation : ∀ value ∈ values, host.collation.same column value = true → column = value) :
    host.isIn values column = true ↔ column ∈ values := by
  rw [Host.isIn, List.any_eq_true]
  constructor
  · rintro ⟨value, hvalue, hsame⟩
    exact hcollation value hvalue hsame ▸ hvalue
  · exact fun hmem => ⟨column, hmem, Collation.same_self ..⟩

include h hd in
/-- The lock names a row exactly if its id is requested, or a reference that names what the row
stores. -/
theorem isNamed_iff : host.isNamed request d = true ↔
    d.datasetId ∈ normalized request.datasetIds ∨
      ∃ ref ∈ normalized request.storageRefs, host.SameForm d ref := by
  have htexts : ∀ text ∈ d.references, ∀ value ∈ (normalized request.storageRefs).flatMap refUris,
      host.collation.same text value = true → text = value := by
    intro text htext value hvalue
    obtain ⟨ref, href, huri⟩ := List.mem_flatMap.mp hvalue
    exact h.texts d hd text htext ref href value huri
  have hhashes : ∀ hash ∈ d.storagePathHash,
      ∀ value ∈ (normalized request.storageRefs).flatMap host.refHashes,
      host.collation.same hash value = true → hash = value := by
    intro hash hhash value hvalue
    obtain ⟨ref, href, hhash'⟩ := List.mem_flatMap.mp hvalue
    exact h.hashes d hd hash hhash ref href value hhash'
  have hrefs : ∀ ref ∈ normalized request.storageRefs,
      ref ∈ (normalized request.storageRefs).flatMap refUris :=
    fun ref href => List.mem_flatMap.mpr ⟨ref, href, List.mem_cons_self ..⟩
  have hmatches : (∃ ref ∈ normalized request.storageRefs, host.SameForm d ref) ↔
      ∃ ref ∈ normalized request.storageRefs, host.matchesRef d ref = true :=
    exists_congr fun ref => and_congr_right fun href => (matchesRef_iff h hd href).symm
  rw [hmatches]
  simp only [Host.isNamed, Host.matchesRef, Bool.or_eq_true, Option.any_eq_true,
    isIn_iff (h.ids d hd), decide_eq_true_eq]
  constructor
  · rintro (((hid | ⟨path, hpath, hin⟩) | ⟨uri, huri, hin⟩) | ⟨hash, hhash, hin⟩)
    · exact Or.inl hid
    · have hmem : path ∈ d.references := by simp [DatasetRow.references, hpath]
      rw [isIn_iff fun value hvalue => htexts path hmem value (hrefs value hvalue)] at hin
      exact Or.inr ⟨path, hin, Or.inl (Or.inl hpath)⟩
    · have hmem : uri ∈ d.references := by simp [DatasetRow.references, huri]
      rw [isIn_iff (htexts uri hmem)] at hin
      obtain ⟨ref, href, hin⟩ := List.mem_flatMap.mp hin
      exact Or.inr ⟨ref, href, Or.inl (Or.inr ⟨uri, huri, hin⟩)⟩
    · rw [isIn_iff (hhashes hash hhash)] at hin
      obtain ⟨ref, href, hin⟩ := List.mem_flatMap.mp hin
      exact Or.inr ⟨ref, href, Or.inr ⟨hash, hhash, hin⟩⟩
  · rintro (hid | ⟨ref, href, (hpath | ⟨uri, huri, hin⟩) | ⟨hash, hhash, hin⟩⟩)
    · exact Or.inl (Or.inl (Or.inl hid))
    · refine Or.inl (Or.inl (Or.inr ⟨ref, hpath, ?_⟩))
      have hmem : ref ∈ d.references := by simp [DatasetRow.references, hpath]
      exact (isIn_iff fun value hvalue => htexts ref hmem value (hrefs value hvalue)).mpr href
    · refine Or.inl (Or.inr ⟨uri, huri, ?_⟩)
      have hmem : uri ∈ d.references := by simp [DatasetRow.references, huri]
      exact (isIn_iff (htexts uri hmem)).mpr (List.mem_flatMap.mpr ⟨ref, href, hin⟩)
    · refine Or.inr ⟨hash, hhash, ?_⟩
      exact (isIn_iff (hhashes hash hhash)).mpr (List.mem_flatMap.mpr ⟨ref, href, hin⟩)

end Spelled

/-! ## The fence covers equal forms -/

/-- A required id, or a required reference, is that of no row; or a deleting or staging row has a
requested id or stores what a requested reference names. -/
def Host.IsRefused (host : Host) (rows : Datasets) (request : LockRequest) : Prop :=
  (request.requireAllDatasetIds = true ∧
    ∃ id ∈ normalized request.datasetIds, ∀ d ∈ rows, d.datasetId ≠ id) ∨
  (request.requireAllStorageRefs = true ∧
    ∃ ref ∈ normalized request.storageRefs, ∀ d ∈ rows, ¬ host.SameForm d ref) ∨
  ∃ d ∈ rows, (d.status = .deleting ∨ d.status = .staging) ∧
    (d.datasetId ∈ normalized request.datasetIds ∨
      ∃ ref ∈ normalized request.storageRefs, host.SameForm d ref)

theorem isMissing_iff (h : host.PlainlySpelled rows request) : host.isMissing rows request ↔
    (request.requireAllDatasetIds = true ∧
      ∃ id ∈ normalized request.datasetIds, ∀ d ∈ rows, d.datasetId ≠ id) ∨
    (request.requireAllStorageRefs = true ∧
      ∃ ref ∈ normalized request.storageRefs, ∀ d ∈ rows, ¬ host.SameForm d ref) := by
  refine or_congr (and_congr_right fun _ => ?_) (and_congr_right fun _ => ?_)
  · refine exists_congr fun id => and_congr_right fun hid => ?_
    refine ⟨fun hnone d hd heq => ?_, fun hnone d hd _ => hnone d hd⟩
    exact hnone d hd ((isNamed_iff h hd).mpr (Or.inl (heq ▸ hid))) heq
  · refine exists_congr fun ref => and_congr_right fun href => ?_
    constructor
    · intro hnone d hd hsame
      have hmatches := (matchesRef_iff h hd href).mpr hsame
      rw [hnone d hd ((isNamed_iff h hd).mpr (Or.inr ⟨ref, href, hsame⟩))] at hmatches
      cases hmatches
    · intro hnone d hd _
      rw [Bool.eq_false_iff, Ne, matchesRef_iff h hd href]
      exact hnone d hd

theorem lock_error_iff_isRefused (h : host.PlainlySpelled rows request) :
    (∃ e, host.lockDatasetsForConsumption rows request = .error e) ↔
      host.IsRefused rows request := by
  rw [lock_error_iff, isMissing_iff h, Host.IsRefused, or_assoc]
  refine or_congr_right (or_congr_right ?_)
  exact exists_congr fun d => and_congr_right fun hd => and_congr_right fun _ => isNamed_iff h hd

/-- A row that stores what a requested reference names overlaps the request. -/
theorem overlapsRequest_of_sameForm {d : DatasetRow} {ref : String}
    (href : ref ∈ normalized request.storageRefs) (hsame : host.SameForm d ref) :
    host.overlapsRequest request d := by
  obtain ⟨form, hform, hplain⟩ := hsame
  obtain ⟨text, htext, rfl⟩ := List.mem_map.mp (List.mem_filter.mp (List.mem_dedup.mp href)).1
  cases hform with
  | stored hreference hstored =>
    refine ⟨_, by rw [hreference]; exact List.mem_singleton_self _, text, htext, ?_⟩
    have hidentity := hplain.identity
    rw [identity_strip] at hidentity
    simp [Host.storageReferencesOverlap, hidentity, hstored.identity, bind, Except.bind, pure,
      Except.pure, hplain.overlap_self]

/-- Of plainly spelled references the fence covers exactly the equal forms: a deleting row that
overlaps a requested reference has to be refused for another reason where no form is equal. -/
theorem consumption_fenced_iff (h : host.PlainlySpelled rows request) :
    host.Fenced rows request ↔ ∀ d ∈ rows, d.status = .deleting →
      host.overlapsRequest request d → host.IsRefused rows request := by
  unfold Host.Fenced
  refine Iff.trans (and_iff_left ?_) ?_
  · intro message hlock
    obtain ⟨-, d, hd, hs, hn⟩ := lock_deletionInProgress_iff.mp ⟨message, hlock⟩
    refine ⟨d, hd, hs, ?_⟩
    rcases (isNamed_iff h hd).mp hn with hid | ⟨ref, href, hsame⟩
    · exact Or.inl hid
    · exact Or.inr (overlapsRequest_of_sameForm href hsame)
  · exact forall₄_congr fun d _ _ _ => lock_error_iff_isRefused h

/-- A host with the digests of the two paths of `deletingDirectory` and `fileOfDirectory`. -/
def digestHost : Host where
  collation := ⟨fun text => String.ofList (text.toList.map Char.toLower)⟩
  dirs := ⟨"/app", fun _ => none⟩
  sha256 := fun text =>
    if text = "/data/ds" then "cb12884b871e2e676242c21c2979a3dfc23d85233b5762faa648f5dc04f97dc3"
    else "1148325ddc39f97e836de05f95b80e13ab757cd1ea98418830f2085c7cfe516a"
  rejectsNetloc := fun _ => false

theorem plain_of_digestHost {ref path : String} (htrimmed : strip ref = ref)
    (hlocal : startsWith ref "s3://" = false)
    (hid : digestHost.storageReferenceIdentity ref = .ok (some (.localPath path)))
    (hresolve : digestHost.dirs.resolve ref = path) (hhome : digestHost.dirs.expandUser ref = ref)
    (hroot : initialSlashes (if isAbs ref then ref else joinPath digestHost.dirs.cwd ref) = "/") :
    digestHost.Plain ref (.localPath path) := by
  subst hresolve
  exact .localPath htrimmed hlocal hid hhome hroot

/-- A directory under deletion. -/
def deletingDirectory : Datasets where
  rows := [{
    datasetId := "ds", storageBackend := "local", storagePath := some "/data/ds"
    storagePathHash := some "cb12884b871e2e676242c21c2979a3dfc23d85233b5762faa648f5dc04f97dc3"
    storageUri := none, status := .deleting, deletionOwner := some "owner", errorMessage := none
    userId := none, sourceTaskType := none, sourceTaskId := none, generationRunToken := none }]
  nodup := by simp

theorem deletingDirectory_plain (path : String)
    (hpath : path ∈ ["/data/ds", "/data/./ds/", "/data/ds/train.jsonl"]) :
    digestHost.Plain path
      (.localPath (if path = "/data/ds/train.jsonl" then path else "/data/ds")) := by
  simp only [List.mem_cons, List.not_mem_nil, or_false] at hpath
  rcases hpath with rfl | rfl | rfl
  all_goals
    refine plain_of_digestHost ?_ ?_ ?_ ?_ ?_ ?_ <;> decide +kernel

/-- A consumer of the directory, in another spelling, and of a file in it. -/
def directoryAndFile : LockRequest := ⟨[], ["/data/./ds/", "/data/ds/train.jsonl"], false, false⟩

theorem mem_directoryAndFile {ref : String} (h : ref ∈ normalized directoryAndFile.storageRefs) :
    ref = "/data/./ds/" ∨ ref = "/data/ds/train.jsonl" := by
  have hrefs : normalized directoryAndFile.storageRefs =
      ["/data/./ds/", "/data/ds/train.jsonl"] := by decide +kernel
  simpa [hrefs] using h

theorem directoryAndFile_spelled :
    digestHost.PlainlySpelled deletingDirectory directoryAndFile where
  stored d hd := by
    obtain rfl := List.mem_singleton.mp hd
    exact ⟨_, .stored rfl (deletingDirectory_plain "/data/ds" (by decide)) (by decide +kernel)⟩
  requested ref href := by
    rcases mem_directoryAndFile href with rfl | rfl <;>
      exact ⟨_, deletingDirectory_plain _ (by decide)⟩
  ids d hd id hid := by
    have hnone : normalized directoryAndFile.datasetIds = [] := rfl
    rw [hnone] at hid
    cases hid
  texts d hd text htext ref href uri huri hsame := by
    obtain rfl := List.mem_singleton.mp hd
    obtain rfl := List.mem_singleton.mp htext
    rcases mem_directoryAndFile href with rfl | rfl <;> obtain rfl := List.mem_singleton.mp huri <;>
      exact absurd hsame (by decide +kernel)
  hashes d hd hash hhash ref href hash' hhash' hsame := by
    obtain rfl := List.mem_singleton.mp hd
    obtain rfl := Option.some.inj hhash
    have hequal : ∀ ref ∈ ["/data/./ds/", "/data/ds/train.jsonl"],
        ∀ hash' ∈ digestHost.refHashes ref, digestHost.collation.same
          "cb12884b871e2e676242c21c2979a3dfc23d85233b5762faa648f5dc04f97dc3" hash' = true →
        "cb12884b871e2e676242c21c2979a3dfc23d85233b5762faa648f5dc04f97dc3" = hash' := by
      decide +kernel
    exact hequal ref (by simpa using mem_directoryAndFile href) hash' hhash' hsame
  digests d hd form form' hform ref href hplain hmem := by
    obtain rfl := List.mem_singleton.mp hd
    cases hform with
    | stored hreference hstored =>
      obtain rfl := (List.singleton_inj.mp hreference).symm
      obtain rfl := hstored.unique (deletingDirectory_plain "/data/ds" (by decide))
      rcases mem_directoryAndFile href with rfl | rfl
      · exact (deletingDirectory_plain "/data/./ds/" (by decide)).unique hplain
      · -- the digest of the directory is not that of the file
        exact absurd hmem (by decide +kernel)

/-- The fence covers the directory in another spelling. -/
theorem directory_of_deleting_directory_fenced :
    digestHost.Fenced deletingDirectory directoryAndFile := by
  refine (consumption_fenced_iff directoryAndFile_spelled).mpr fun d hd hstatus _ => ?_
  obtain rfl := List.mem_singleton.mp hd
  refine Or.inr (Or.inr ⟨_, hd, Or.inl hstatus, Or.inr ⟨"/data/./ds/", by decide +kernel, ?_⟩⟩)
  exact ⟨_, .stored rfl (deletingDirectory_plain "/data/ds" (by decide)) (by decide +kernel),
    deletingDirectory_plain "/data/./ds/" (by decide)⟩

/-- A consumer of a file in that directory. -/
def fileOfDirectory : LockRequest := ⟨[], ["/data/ds/train.jsonl"], false, false⟩

/-- The consumer of the file is admitted while its directory is being deleted. -/
theorem file_of_deleting_directory_admitted :
    digestHost.lockDatasetsForConsumption deletingDirectory fileOfDirectory = .ok [] ∧
      digestHost.storageReferencesOverlap "/data/ds/train.jsonl" "/data/ds" = .ok true ∧
      ¬ digestHost.Fenced deletingDirectory fileOfDirectory := by
  have hlock : digestHost.lockDatasetsForConsumption deletingDirectory fileOfDirectory = .ok [] :=
    by decide +kernel
  have hoverlap : digestHost.storageReferencesOverlap "/data/ds/train.jsonl" "/data/ds" =
      .ok true := by decide +kernel
  refine ⟨hlock, hoverlap, fun hfenced => ?_⟩
  obtain ⟨e, he⟩ := hfenced.1 _ (List.mem_singleton.mpr rfl) rfl
    ⟨"/data/ds", by decide, "/data/ds/train.jsonl", by decide, hoverlap⟩
  rw [hlock] at he
  exact absurd he (by simp)

end Dataset
