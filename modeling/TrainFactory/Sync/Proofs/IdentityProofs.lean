import TrainFactory.Sync.Documents
import TrainFactory.Sync.Proofs.BatchFilesProofs
import TrainFactory.Sync.Proofs.ItemsProofs

/-!
# Proofs: the identity of a record

Deduplication compares the business keys of two records, the vector store their stripped business
keys. Without a collision of digests, two records have one key where they have one chunk, but for
records that differ in the white space around their keys only.
-/

namespace Sync

open Lib

/-- The three parts of the identity of a record. -/
structure BusinessKey where
  id : String
  sessionId : String
  docId : String
deriving DecidableEq

/-- The parts without the white space around them. -/
def BusinessKey.strip (key : BusinessKey) : BusinessKey :=
  ⟨Lib.strip key.id, Lib.strip key.sessionId, Lib.strip key.docId⟩

def BusinessKey.isEmpty (key : BusinessKey) : Bool := key.id = "" && key.docId = ""

def businessKey (py : Stdlib) (item : Json) : BusinessKey where
  id := py.strOr (item.get? "id")
  sessionId := py.strOr (item.get? "session_id")
  docId := py.strOr (item.get? "doc_id")

def BusinessKey.dedupIdentity (key : BusinessKey) : Json :=
  .obj [("business_keys", .arr [.str key.id, .str key.sessionId, .str key.docId])]

def BusinessKey.chunkIdentity (key : BusinessKey) : Json :=
  .obj [("external_id", .str key.id), ("session_id", .str key.sessionId),
    ("doc_id", .str key.docId)]

def itemIdentity (py : Stdlib) (item : Json) : Json :=
  if (businessKey py item).isEmpty then .obj [("record", item)]
  else (businessKey py item).dedupIdentity

def identityTexts (py : Stdlib) (item : Json) : List String :=
  [py.dumpsCanonical (itemIdentity py item),
    py.dumpsCanonical (businessKey py item).strip.chunkIdentity]

/-- No two of the texts that identify the records have the same digest. -/
def NoCollision (py : Stdlib) (x y : Json) : Prop :=
  ∀ s ∈ identityTexts py x ++ identityTexts py y, ∀ t ∈ identityTexts py x ++ identityTexts py y,
    py.sha256 s = py.sha256 t → s = t

theorem NoCollision.symm {py : Stdlib} {x y : Json} (h : NoCollision py x y) :
    NoCollision py y x := by
  intro s hs t ht
  refine h s ?_ t ?_
  · exact List.mem_append.mpr (List.mem_append.mp hs).symm
  · exact List.mem_append.mpr (List.mem_append.mp ht).symm

/-- The records have business keys that differ in the white space around their parts only. -/
def PaddedTwins (py : Stdlib) (x y : Json) : Prop :=
  (businessKey py x).strip = (businessKey py y).strip ∧
    (businessKey py x).strip.isEmpty = false ∧ businessKey py x ≠ businessKey py y

/-! ## Digests -/

section Digests

variable {py : Stdlib}

theorem itemDedupKey_eq (item : Json) :
    itemDedupKey py item = py.sha256 (py.dumpsCanonical (itemIdentity py item)) := by
  unfold itemDedupKey itemIdentity BusinessKey.isEmpty
  simp only [Bool.and_eq_true, decide_eq_true_eq]
  rfl

theorem buildStableChunkId_eq (item : Json) :
    buildStableChunkId py (.obj (itemMetadata item)) =
      if (businessKey py item).strip.isEmpty then ""
      else "v2:" ++ py.sha256 (py.dumpsCanonical (businessKey py item).strip.chunkIdentity) := by
  have hsession : py.strOr ((Json.obj (itemMetadata item)).get? "session_id") =
      py.strOr (item.get? "session_id") := by
    rw [strOr_getD item]
    rfl
  unfold buildStableChunkId BusinessKey.isEmpty
  simp only [strOr_eq_empty_of_itemMetadata.1, strOr_eq_empty_of_itemMetadata.2, hsession,
    Bool.and_eq_true, decide_eq_true_eq]
  rfl

theorem versioned_ne_empty (digest : String) : "v2:" ++ digest ≠ "" := by
  intro h
  have hlength := congrArg (fun s => s.toList.length) h
  simp at hlength

theorem versioned_injective {digest digest' : String} (h : "v2:" ++ digest = "v2:" ++ digest') :
    digest = digest' :=
  (String.append_right_inj "v2:").mp h

theorem itemChunkId_eq (item : Json) :
    itemChunkId py item =
      if (businessKey py item).strip.isEmpty then "v2:" ++ itemDedupKey py item
      else "v2:" ++ py.sha256 (py.dumpsCanonical (businessKey py item).strip.chunkIdentity) := by
  unfold itemChunkId
  rw [buildStableChunkId_eq]
  split
  · simp
  · simp

theorem itemChunkId_ne_empty (item : Json) : itemChunkId py item ≠ "" := by
  rw [itemChunkId_eq]
  split <;> exact versioned_ne_empty _

theorem strip_empty : strip "" = "" := by decide

theorem BusinessKey.isEmpty_strip {key : BusinessKey} (h : key.isEmpty = true) :
    key.strip.isEmpty = true := by
  unfold BusinessKey.isEmpty at h ⊢
  simp only [Bool.and_eq_true, decide_eq_true_eq] at h ⊢
  obtain ⟨hid, hdoc⟩ := h
  exact ⟨by rw [BusinessKey.strip, hid, strip_empty], by rw [BusinessKey.strip, hdoc, strip_empty]⟩

end Digests

/-! ## Canonical texts -/

section Texts

variable {py : CanonicalReader}

theorem canonical_inj {v w : Json} (h : py.dumpsCanonical v = py.dumpsCanonical w) :
    v.canonicalChars (fun q => py.repr (.float q)) =
      w.canonicalChars fun q => py.repr (.float q) := by
  rw [py.dumpsCanonical_eq, py.dumpsCanonical_eq] at h
  exact String.ofList_injective h

theorem canonicalChars_one (floatRepr : Rat → String) (k : String) (v : Json) :
    (Json.obj [(k, v)]).canonicalChars floatRepr =
      '{' :: (Json.stringChars k ++ ':' :: v.canonicalChars floatRepr ++ ['}']) := by
  simp [Json.canonicalChars, Json.canonicalEntries, Json.commaChars, Json.entryText]

theorem canonicalChars_dedupIdentity (floatRepr : Rat → String) (key : BusinessKey) :
    key.dedupIdentity.canonicalChars floatRepr =
      '{' :: (Json.stringChars "business_keys" ++ ':' :: '[' :: (Json.stringChars key.id ++
        ',' :: (Json.stringChars key.sessionId ++ ',' :: (Json.stringChars key.docId ++
          [']', '}'])))) := by
  rw [BusinessKey.dedupIdentity, canonicalChars_one]
  simp [Json.canonicalChars, Json.canonicalElements, Json.commaChars]

theorem canonicalChars_chunkIdentity (floatRepr : Rat → String) (key : BusinessKey) :
    key.chunkIdentity.canonicalChars floatRepr =
      '{' :: (Json.stringChars "doc_id" ++ ':' :: (Json.stringChars key.docId ++
        ',' :: (Json.stringChars "external_id" ++ ':' :: (Json.stringChars key.id ++
          ',' :: (Json.stringChars "session_id" ++ ':' :: (Json.stringChars key.sessionId ++
            ['}'])))))) := by
  have hsorted : ∀ a b c : List Char,
      [("external_id", a), ("session_id", b), ("doc_id", c)].insertionSort (fun x y => x.1 ≤ y.1) =
        [("doc_id", c), ("external_id", a), ("session_id", b)] := by
    intro a b c
    have h1 : ("session_id" : String) ≤ "doc_id" ↔ False := by decide
    have h2 : ("external_id" : String) ≤ "doc_id" ↔ False := by decide
    have h3 : ("external_id" : String) ≤ "session_id" ↔ True := by decide
    simp [List.insertionSort, List.orderedInsert, h1, h2, h3]
  simp only [BusinessKey.chunkIdentity, Json.canonicalChars, Json.canonicalEntries, hsorted]
  simp [Json.commaChars, Json.entryText]

theorem dedupIdentity_injective {key key' : BusinessKey}
    (h : py.dumpsCanonical key.dedupIdentity = py.dumpsCanonical key'.dedupIdentity) :
    key = key' := by
  have hchars := canonical_inj h
  rw [canonicalChars_dedupIdentity, canonicalChars_dedupIdentity] at hchars
  obtain ⟨-, hkeys⟩ := Json.stringChars_append_inj (List.cons.inj hchars).2
  simp only [List.cons.injEq, true_and] at hkeys
  obtain ⟨hid, hrest⟩ := Json.stringChars_append_inj hkeys
  obtain ⟨hsession, hrest⟩ := Json.stringChars_append_inj (List.cons.inj hrest).2
  obtain ⟨hdoc, -⟩ := Json.stringChars_append_inj (List.cons.inj hrest).2
  cases key
  cases key'
  simp only [BusinessKey.mk.injEq]
  exact ⟨hid, hsession, hdoc⟩

theorem chunkIdentity_injective {key key' : BusinessKey}
    (h : py.dumpsCanonical key.chunkIdentity = py.dumpsCanonical key'.chunkIdentity) :
    key = key' := by
  have hchars := canonical_inj h
  rw [canonicalChars_chunkIdentity, canonicalChars_chunkIdentity] at hchars
  obtain ⟨-, hkeys⟩ := Json.stringChars_append_inj (List.cons.inj hchars).2
  obtain ⟨hdoc, hrest⟩ := Json.stringChars_append_inj (List.cons.inj hkeys).2
  obtain ⟨-, hrest⟩ := Json.stringChars_append_inj (List.cons.inj hrest).2
  obtain ⟨hid, hrest⟩ := Json.stringChars_append_inj (List.cons.inj hrest).2
  obtain ⟨-, hrest⟩ := Json.stringChars_append_inj (List.cons.inj hrest).2
  obtain ⟨hsession, -⟩ := Json.stringChars_append_inj (List.cons.inj hrest).2
  cases key
  cases key'
  simp only [BusinessKey.mk.injEq]
  exact ⟨hid, hsession, hdoc⟩

theorem dumpsCanonical_ne {v w : Json} {k k' : String} {cs ds : List Char} (hk : k ≠ k')
    (hv : v.canonicalChars (fun q => py.repr (.float q)) = '{' :: (Json.stringChars k ++ cs))
    (hw : w.canonicalChars (fun q => py.repr (.float q)) = '{' :: (Json.stringChars k' ++ ds)) :
    py.dumpsCanonical v ≠ py.dumpsCanonical w := by
  intro h
  have hchars := canonical_inj h
  rw [hv, hw] at hchars
  exact hk (Json.stringChars_append_inj (List.cons.inj hchars).2).1

theorem dumpsCanonical_record_ne_dedup (item : Json) (key : BusinessKey) :
    py.dumpsCanonical (.obj [("record", item)]) ≠ py.dumpsCanonical key.dedupIdentity :=
  dumpsCanonical_ne (k := "record") (by decide) ((canonicalChars_one _ _ _).trans (by rw [List.append_assoc]))
    (canonicalChars_dedupIdentity _ key)

theorem dumpsCanonical_record_ne_chunk (item : Json) (key : BusinessKey) :
    py.dumpsCanonical (.obj [("record", item)]) ≠ py.dumpsCanonical key.chunkIdentity :=
  dumpsCanonical_ne (k := "record") (by decide) ((canonicalChars_one _ _ _).trans (by rw [List.append_assoc]))
    (canonicalChars_chunkIdentity _ key)

theorem dumpsCanonical_dedup_ne_chunk (key key' : BusinessKey) :
    py.dumpsCanonical key.dedupIdentity ≠ py.dumpsCanonical key'.chunkIdentity :=
  dumpsCanonical_ne (by decide) (canonicalChars_dedupIdentity _ key)
    (canonicalChars_chunkIdentity _ key')

theorem dumpsCanonical_item_ne_chunk (item : Json) (key : BusinessKey) :
    py.dumpsCanonical (itemIdentity py.toStdlib item) ≠ py.dumpsCanonical key.chunkIdentity := by
  unfold itemIdentity
  split
  · exact dumpsCanonical_record_ne_chunk item key
  · exact dumpsCanonical_dedup_ne_chunk _ key

end Texts

/-! ## Keys and chunks -/

section Agreement

variable {py : CanonicalReader} {x y : Json}

theorem mem_identityTexts_item (item : Json) :
    py.dumpsCanonical (itemIdentity py.toStdlib item) ∈ identityTexts py.toStdlib item :=
  List.mem_cons_self ..

theorem mem_identityTexts_chunk (item : Json) :
    py.dumpsCanonical (businessKey py.toStdlib item).strip.chunkIdentity ∈
      identityTexts py.toStdlib item :=
  List.mem_cons_of_mem _ (List.mem_cons_self ..)

theorem itemDedupKey_eq_iff (hsha : NoCollision py.toStdlib x y)
    (hx : (businessKey py.toStdlib x).isEmpty = false) :
    itemDedupKey py.toStdlib x = itemDedupKey py.toStdlib y ↔
      businessKey py.toStdlib x = businessKey py.toStdlib y := by
  rw [itemDedupKey_eq, itemDedupKey_eq]
  constructor
  · intro h
    have htexts := hsha _ (List.mem_append_left _ (mem_identityTexts_item x)) _
      (List.mem_append_right _ (mem_identityTexts_item y)) h
    unfold itemIdentity at htexts
    rw [hx, if_neg Bool.false_ne_true] at htexts
    split at htexts
    · exact absurd htexts.symm (dumpsCanonical_record_ne_dedup y _)
    · exact dedupIdentity_injective htexts
  · intro h
    unfold itemIdentity
    rw [← h, hx]
    simp

theorem itemChunkId_eq_iff (hsha : NoCollision py.toStdlib x y)
    (hx : (businessKey py.toStdlib x).strip.isEmpty = false)
    (hy : (businessKey py.toStdlib y).strip.isEmpty = false) :
    itemChunkId py.toStdlib x = itemChunkId py.toStdlib y ↔
      (businessKey py.toStdlib x).strip = (businessKey py.toStdlib y).strip := by
  rw [itemChunkId_eq, itemChunkId_eq, hx, hy, if_neg Bool.false_ne_true,
    if_neg Bool.false_ne_true]
  constructor
  · intro h
    exact chunkIdentity_injective (hsha _ (List.mem_append_left _ (mem_identityTexts_chunk x)) _
      (List.mem_append_right _ (mem_identityTexts_chunk y)) (versioned_injective h))
  · intro h
    rw [h]

/-- A record without a stripped key shares neither its chunk nor its dedup key with a record that
has one. -/
theorem identities_differ (hsha : NoCollision py.toStdlib x y)
    (hx : (businessKey py.toStdlib x).strip.isEmpty = true)
    (hy : (businessKey py.toStdlib y).strip.isEmpty = false) :
    itemChunkId py.toStdlib x ≠ itemChunkId py.toStdlib y ∧
      itemDedupKey py.toStdlib x ≠ itemDedupKey py.toStdlib y := by
  have hy' : (businessKey py.toStdlib y).isEmpty = false := by
    by_contra h
    rw [BusinessKey.isEmpty_strip (Bool.eq_true_of_not_eq_false h)] at hy
    cases hy
  constructor
  · rw [itemChunkId_eq, itemChunkId_eq, hx, hy, if_pos rfl, if_neg Bool.false_ne_true,
      itemDedupKey_eq]
    intro h
    exact dumpsCanonical_item_ne_chunk x _ (hsha _
      (List.mem_append_left _ (mem_identityTexts_item x)) _
      (List.mem_append_right _ (mem_identityTexts_chunk y)) (versioned_injective h))
  · intro h
    have hkeys := (itemDedupKey_eq_iff hsha.symm hy').mp h.symm
    rw [hkeys, hx] at hy
    cases hy

theorem identities_agree_iff (hsha : NoCollision py.toStdlib x y) :
    (itemChunkId py.toStdlib x = itemChunkId py.toStdlib y ↔
      itemDedupKey py.toStdlib x = itemDedupKey py.toStdlib y) ↔
    ¬ PaddedTwins py.toStdlib x y := by
  unfold PaddedTwins
  cases hx : (businessKey py.toStdlib x).strip.isEmpty with
  | true =>
    have hagree : itemChunkId py.toStdlib x = itemChunkId py.toStdlib y ↔
        itemDedupKey py.toStdlib x = itemDedupKey py.toStdlib y := by
      cases hy : (businessKey py.toStdlib y).strip.isEmpty with
      | true =>
        rw [itemChunkId_eq, itemChunkId_eq, hx, hy, if_pos rfl, if_pos rfl]
        exact ⟨versioned_injective, fun h => by rw [h]⟩
      | false =>
        obtain ⟨hchunk, hdedup⟩ := identities_differ hsha hx hy
        exact ⟨fun h => absurd h hchunk, fun h => absurd h hdedup⟩
    simp [hagree]
  | false =>
    have hx' : (businessKey py.toStdlib x).isEmpty = false := by
      by_contra h
      rw [BusinessKey.isEmpty_strip (Bool.eq_true_of_not_eq_false h)] at hx
      cases hx
    cases hy : (businessKey py.toStdlib y).strip.isEmpty with
    | true =>
      obtain ⟨hchunk, hdedup⟩ := identities_differ hsha.symm hy hx
      refine ⟨fun _ htwins => ?_, fun _ => ⟨fun h => absurd h.symm hchunk,
        fun h => absurd h.symm hdedup⟩⟩
      rw [htwins.1, hy] at hx
      cases hx
    | false =>
      rw [itemChunkId_eq_iff hsha hx hy, itemDedupKey_eq_iff hsha hx']
      constructor
      · rintro h ⟨hstrip, -, hne⟩
        exact hne (h.mp hstrip)
      · intro h
        refine ⟨fun hstrip => ?_, fun heq => by rw [heq]⟩
        by_contra hne
        exact h ⟨hstrip, rfl, hne⟩

end Agreement

/-! ## Reading a record back -/

section Reading

/-- The document is the one that was written for the record. -/
structure IsDocumentOf (py : Stdlib) (item : Json) (document : Document) : Prop where
  content : document.content = item.getD "text" (.str "")
  chunkId : document.metadata.get? "chunk_id" = some (.str (itemChunkId py item))
  docId : document.docId = .str (itemChunkId py item)

/-- Both readers read the line of the record as its document. -/
def ReadsBack (py : JsonReader) (item : Json) : Prop :=
  ∃ document, readDocument py (recordLine py.toStdlib item) = .ok (some document) ∧
    windowRecord py (recordLine py.toStdlib item) = .ok document ∧
    IsDocumentOf py.toStdlib item document

variable {py : JsonReader} {item : Json}

def documentMetadata (py : Stdlib) (item : Json) : Json :=
  .obj (itemMetadata item ++ [("chunk_id", .str (itemChunkId py item))])

theorem documentId_documentMetadata (text : String) :
    documentId py (documentMetadata py.toStdlib item) text =
      .str (itemChunkId py.toStdlib item) := by
  have hstable : buildStableChunkId py.toStdlib (documentMetadata py.toStdlib item) =
      buildStableChunkId py.toStdlib (.obj (itemMetadata item)) := rfl
  have hchunk : truthyEntry (documentMetadata py.toStdlib item) "chunk_id" =
      some (.str (itemChunkId py.toStdlib item)) := by
    have hget : (documentMetadata py.toStdlib item).get? "chunk_id" =
        some (.str (itemChunkId py.toStdlib item)) := rfl
    rw [truthyEntry, hget]
    simp [Json.truthy, itemChunkId_ne_empty]
  unfold documentId
  rw [hstable, hchunk]
  dsimp only
  split
  · rename_i hne
    rw [itemChunkId, if_neg hne]
  · rfl

theorem strip_visible {first last : Char} {middle : List Char} (hfirst : isSpace first = false)
    (hlast : isSpace last = false) :
    strip (String.ofList (first :: middle ++ [last] ++ ['\n'])) =
      String.ofList (first :: middle ++ [last]) := by
  have hbreak : isSpace '\n' = true := by decide
  simp [strip, hfirst, hlast, hbreak]

theorem strip_line : strip (py.line (batchDocument py.toStdlib item)) =
    py.dumps (batchDocument py.toStdlib item) := by
  obtain ⟨middle, hmiddle⟩ : ∃ middle : List Char, py.dumps (batchDocument py.toStdlib item) =
      String.ofList ('{' :: middle ++ ['}']) := by
    rw [py.dumps_eq, batchDocument, Json.dumps_obj]
    exact ⟨_, by simp [String.ofList_append, String.ofList_cons]; rfl⟩
  have hline : py.line (batchDocument py.toStdlib item) =
      String.ofList ('{' :: middle ++ ['}'] ++ ['\n']) := by
    rw [Stdlib.line, hmiddle]
    refine String.toList_injective ?_
    simp
  rw [hline, hmiddle, strip_visible (by decide) (by decide)]

theorem dumps_batchDocument_ne_empty : py.dumps (batchDocument py.toStdlib item) ≠ "" := by
  rw [py.dumps_eq, batchDocument, Json.dumps_obj]
  intro h
  have hlength := congrArg (fun s => s.toList.length) h
  simp at hlength

theorem text_of_validateItem {settings : Settings} {maxFuture : DateTime} {n : Nat}
    (hvalid : validateItem py.toStdlib settings maxFuture item = .ok n) :
    ∃ text, item.getD "text" (.str "") = .str text ∧ strip text ≠ "" := by
  unfold validateItem at hvalid
  split at hvalid
  · cases hvalid
  split at hvalid
  · rename_i text htext
    refine ⟨text, by rw [Json.getD, htext]; rfl, ?_⟩
    intro hblank
    rw [if_pos hblank] at hvalid
    cases hvalid
  · cases hvalid

/-- Both readers read a validated record back. -/
theorem readsBack_of_loads {settings : Settings} {maxFuture : DateTime} {n : Nat}
    (hvalid : validateItem py.toStdlib settings maxFuture item = .ok n)
    (hloads : py.loads (py.dumps (batchDocument py.toStdlib item)) =
      some (batchDocument py.toStdlib item)) : ReadsBack py item := by
  obtain ⟨text, htext, hvisible⟩ := text_of_validateItem hvalid
  have hdecode : decodeUtf8 (recordLine py.toStdlib item) =
      some (py.line (batchDocument py.toStdlib item)) := decodeUtf8_utf8 _
  have hcontent : (batchDocument py.toStdlib item).getD "content" (.str "") = .str text := htext
  have hmetadata : (batchDocument py.toStdlib item).getD "metadata" (.obj []) =
      documentMetadata py.toStdlib item := rfl
  have htruthy : (Json.str text).truthy = true := by
    have hne : text ≠ "" := by
      rintro rfl
      exact hvisible strip_empty
    simp [Json.truthy, hne]
  have hobj : (documentMetadata py.toStdlib item).isObj = true := rfl
  obtain ⟨kvs, hkvs⟩ : ∃ kvs, batchDocument py.toStdlib item = .obj kvs := ⟨_, rfl⟩
  rw [hkvs] at hcontent hmetadata
  refine ⟨{ content := .str text, metadata := documentMetadata py.toStdlib item
            docId := .str (itemChunkId py.toStdlib item) }, ?_, ?_, htext.symm, rfl, rfl⟩
  · unfold readDocument
    rw [hdecode]
    dsimp only
    rw [strip_line, if_neg dumps_batchDocument_ne_empty, hloads, hkvs]
    dsimp only
    rw [hcontent, htruthy, hmetadata, hobj, documentId_documentMetadata]
    rfl
  · unfold windowRecord
    rw [hdecode]
    dsimp only
    rw [strip_line, if_neg dumps_batchDocument_ne_empty, hloads, hkvs]
    dsimp only
    rw [hcontent]
    dsimp only
    rw [if_neg hvisible, hmetadata, hobj, documentId_documentMetadata]
    rfl

end Reading

/-! ## Two records -/

/-- Two validated records have one chunk just where they have one dedup key, and are read back with
the chunk that was written, if and only if they are not padded twins. -/
theorem identity_carried_iff (py : CanonicalReader) (settings : Settings) (maxFuture : DateTime)
    {x y : Json} {m n : Nat} (hx : validateItem py.toStdlib settings maxFuture x = .ok m)
    (hy : validateItem py.toStdlib settings maxFuture y = .ok n)
    (hloadsx : py.loads (py.dumps (batchDocument py.toStdlib x)) =
      some (batchDocument py.toStdlib x))
    (hloadsy : py.loads (py.dumps (batchDocument py.toStdlib y)) =
      some (batchDocument py.toStdlib y))
    (hsha : NoCollision py.toStdlib x y) :
    ((itemChunkId py.toStdlib x = itemChunkId py.toStdlib y ↔
        itemDedupKey py.toStdlib x = itemDedupKey py.toStdlib y) ∧
      ReadsBack py.toJsonReader x ∧ ReadsBack py.toJsonReader y) ↔
    ¬ PaddedTwins py.toStdlib x y := by
  rw [identities_agree_iff hsha]
  exact and_iff_left ⟨readsBack_of_loads hx hloadsx, readsBack_of_loads hy hloadsy⟩

def paddedRecord : Json :=
  .obj [("id", .str " a1"), ("text", .str "hello"), ("created_at", .str "2024-01-01T00:00:00Z")]

def twinRecords : Stdlib where
  repr _ := ""
  dumps v := v.dumps fun _ => ""
  dumpsAscii := quoted
  dumpsCanonical v := v.canonical fun _ => ""
  sha256 text :=
    if text = "\x7b\"business_keys\":[\" a1\",\"\",\"\"]\x7d" then
      "40f447c6be141f811731444cae26abec63ab66b59409efe6d823fec8959fa545"
    else oneRecord.sha256 text
  sha256_isHashedKey text := by
    split
    · decide +kernel
    · exact oneRecord.sha256_isHashedKey text
  fromIsoFormat text :=
    if text = "2024-01-01T00:00:00+00:00" then some 63839664000000000 else none

def loadsTwins (text : String) : Option Json :=
  if text = twinRecords.dumps (batchDocument twinRecords helloRecord) then
    some (batchDocument twinRecords helloRecord)
  else some (batchDocument twinRecords paddedRecord)

theorem dumps_twinRecords (v : Json) :
    twinRecords.dumps v = v.dumps fun q => twinRecords.repr (.float q) := rfl

theorem repr_twinRecords (q : Rat) : '\n' ∉ (twinRecords.repr (.float q)).toList := by
  have hempty : (twinRecords.repr (.float q)).toList = [] := rfl
  rw [hempty]
  exact List.not_mem_nil

theorem dumpsCanonical_twinRecords (v : Json) :
    twinRecords.dumpsCanonical v = v.canonical fun q => twinRecords.repr (.float q) := rfl

/-- The library functions on the record and its padded twin. -/
def twinReader : CanonicalReader where
  toStdlib := twinRecords
  dumps_eq := dumps_twinRecords
  repr_float := repr_twinRecords
  loads := loadsTwins
  dumpsCanonical_eq := dumpsCanonical_twinRecords

def twinLimits : Settings where
  syncMaxRecordBytes := max (serializeBatchItem twinRecords helloRecord).utf8ByteSize
    (serializeBatchItem twinRecords paddedRecord).utf8ByteSize

theorem validateItem_ok {py : Stdlib} {settings : Settings} {maxFuture t : DateTime} {item : Json}
    {text : String} (hobj : item.isObj = true) (htext : item.get? "text" = some (.str text))
    (hvisible : strip text ≠ "") (htime : createdAt py item = some t) (hfuture : t ≤ maxFuture)
    (hbytes : (serializeBatchItem py item).utf8ByteSize ≤ settings.syncMaxRecordBytes) :
    validateItem py settings maxFuture item =
      .ok (serializeBatchItem py item).utf8ByteSize := by
  unfold validateItem
  rw [if_neg (not_not.mpr hobj), htext]
  dsimp only
  rw [if_neg hvisible, htime]
  dsimp only
  rw [if_neg (Nat.not_lt.mpr hfuture), if_neg (Nat.not_lt.mpr hbytes)]

theorem validateItem_helloRecord :
    validateItem twinRecords twinLimits 63839664001000000 helloRecord =
      .ok (serializeBatchItem twinRecords helloRecord).utf8ByteSize :=
  validateItem_ok (t := 63839664000000000) rfl rfl (by decide) (by decide)
    (by decide) (le_max_left _ _)

theorem validateItem_paddedRecord :
    validateItem twinRecords twinLimits 63839664001000000 paddedRecord =
      .ok (serializeBatchItem twinRecords paddedRecord).utf8ByteSize :=
  validateItem_ok (t := 63839664000000000) rfl rfl (by decide) (by decide)
    (by decide) (le_max_right _ _)

theorem noCollision_twins : NoCollision twinRecords helloRecord paddedRecord := by
  have h : ∀ s ∈ identityTexts twinRecords helloRecord ++ identityTexts twinRecords paddedRecord,
      ∀ t ∈ identityTexts twinRecords helloRecord ++ identityTexts twinRecords paddedRecord,
        twinRecords.sha256 s = twinRecords.sha256 t → s = t := by
    decide +kernel
  exact h

theorem dumps_twins_ne : twinRecords.dumps (batchDocument twinRecords paddedRecord) ≠
    twinRecords.dumps (batchDocument twinRecords helloRecord) := by
  intro h
  have htext : ∀ item ∈ [helloRecord, paddedRecord],
      item.getD "text" (.str "") = .str "hello" := by
    simp [helloRecord, paddedRecord, Json.getD, Json.get?, List.lookup_cons]
  have hchars := String.ofList_injective h
  simp only [batchDocument, itemMetadata, List.cons_append, List.nil_append, Json.chars,
    Json.entryChars, List.append_assoc, List.cons.injEq, true_and, List.append_cancel_left_eq,
    htext helloRecord (by simp), htext paddedRecord (by simp)] at hchars
  have hids : Json.stringChars " a1" ++ _ = Json.stringChars "a1" ++ _ := hchars
  exact absurd (Json.stringChars_append_inj hids).1 (by decide)

theorem loads_helloRecord :
    loadsTwins (twinRecords.dumps (batchDocument twinRecords helloRecord)) =
      some (batchDocument twinRecords helloRecord) := by
  rw [loadsTwins, if_pos rfl]

theorem loads_paddedRecord :
    loadsTwins (twinRecords.dumps (batchDocument twinRecords paddedRecord)) =
      some (batchDocument twinRecords paddedRecord) := by
  rw [loadsTwins, if_neg dumps_twins_ne]

theorem toStdlib_twinReader : twinReader.toStdlib = twinRecords := rfl

theorem loads_twinReader : twinReader.loads = loadsTwins := by
  simp only [twinReader]

theorem identity_carried_twins :
    ((itemChunkId twinReader.toStdlib helloRecord = itemChunkId twinReader.toStdlib paddedRecord ↔
        itemDedupKey twinReader.toStdlib helloRecord =
          itemDedupKey twinReader.toStdlib paddedRecord) ∧
      ReadsBack twinReader.toJsonReader helloRecord ∧
      ReadsBack twinReader.toJsonReader paddedRecord) ↔
    ¬ PaddedTwins twinReader.toStdlib helloRecord paddedRecord := by
  have hx := validateItem_helloRecord
  have hy := validateItem_paddedRecord
  rw [← toStdlib_twinReader] at hx hy
  refine identity_carried_iff twinReader twinLimits 63839664001000000 hx hy ?_ ?_ ?_
  · rw [toStdlib_twinReader, loads_twinReader]
    exact loads_helloRecord
  · rw [toStdlib_twinReader, loads_twinReader]
    exact loads_paddedRecord
  · rw [toStdlib_twinReader]
    exact noCollision_twins

/-- The record and its padded twin have different keys and one chunk. -/
theorem collapse_twins :
    (∃ m, validateItem twinRecords twinLimits 63839664001000000 helloRecord = .ok m) ∧
    (∃ n, validateItem twinRecords twinLimits 63839664001000000 paddedRecord = .ok n) ∧
    NoCollision twinRecords helloRecord paddedRecord ∧
    itemChunkId twinRecords helloRecord = itemChunkId twinRecords paddedRecord ∧
    itemDedupKey twinRecords helloRecord ≠ itemDedupKey twinRecords paddedRecord := by
  refine ⟨⟨_, validateItem_helloRecord⟩, ⟨_, validateItem_paddedRecord⟩, noCollision_twins, ?_⟩
  have hstrip : (businessKey twinRecords helloRecord).strip =
      (businessKey twinRecords paddedRecord).strip := by decide
  have hvisible : (businessKey twinRecords paddedRecord).strip.isEmpty = false := by decide
  have hkeys : businessKey twinRecords helloRecord ≠ businessKey twinRecords paddedRecord := by
    decide
  have hsha : NoCollision twinReader.toStdlib helloRecord paddedRecord := noCollision_twins
  refine ⟨(itemChunkId_eq_iff hsha (hstrip ▸ hvisible) hvisible).mpr hstrip, fun h => ?_⟩
  exact hkeys ((itemDedupKey_eq_iff hsha (by decide)).mp h)

end Sync
