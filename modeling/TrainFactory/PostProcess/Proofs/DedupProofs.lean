import TrainFactory.PostProcess.Dedup

/-!
# Deduplication removes duplicates, unless separators occur in the texts

The fingerprint of a sample joins its contents with separators that may occur in them. Duplicates
have one fingerprint; samples with one fingerprint are duplicates if their contents can be told from
it.
-/

namespace PostProcess

open Lib Generation

variable {py : KeyStdlib}

/-! ## Chunks -/

theorem sortedChunks_perm (chunks : List String) : (sortedChunks chunks).Perm chunks :=
  List.perm_insertionSort _ chunks

theorem sortedChunks_eq_of_perm {chunks chunks' : List String} (h : chunks.Perm chunks') :
    sortedChunks chunks = sortedChunks chunks' :=
  List.Perm.eq_of_sortedLE List.sortedLE_insertionSort List.sortedLE_insertionSort
    ((sortedChunks_perm chunks).trans (h.trans (sortedChunks_perm chunks').symm))

theorem join_injOn {text : String} {sep : Char} (htext : text.toList = [sep])
    {parts parts' : List String} (hne : parts ≠ []) (hne' : parts' ≠ [])
    (hsep : ∀ part ∈ parts, sep ∉ part.toList) (hsep' : ∀ part ∈ parts', sep ∉ part.toList)
    (h : join text parts = join text parts') : parts = parts' := by
  have hpieces : ∀ {parts : List String}, parts ≠ [] → (∀ part ∈ parts, sep ∉ part.toList) →
      (join text parts).toList.splitOn sep = parts.map String.toList := by
    intro parts hne hsep
    rw [join, String.toList_intercalate, htext]
    refine List.splitOn_intercalate sep (fun piece hpiece => ?_) (by simpa using hne)
    obtain ⟨part, hpart, rfl⟩ := List.mem_map.mp hpiece
    exact hsep part hpart
  have hmap : parts.map String.toList = parts'.map String.toList := by
    rw [← hpieces hne hsep, ← hpieces hne' hsep', h]
  exact List.map_injective_iff.mpr (fun _ _ => String.toList_injective) hmap

theorem chunks_perm_of_join_eq {chunks chunks' : List String}
    (hplain : ∀ chunk ∈ chunks, chunk ≠ "" ∧ '|' ∉ chunk.toList)
    (hplain' : ∀ chunk ∈ chunks', chunk ≠ "" ∧ '|' ∉ chunk.toList)
    (h : join "|" (sortedChunks chunks) = join "|" (sortedChunks chunks')) :
    chunks.Perm chunks' := by
  -- no chunks give the joined text of one empty chunk
  have hempty : ∀ {chunks : List String}, (∀ chunk ∈ chunks, chunk ≠ "" ∧ '|' ∉ chunk.toList) →
      join "|" (sortedChunks chunks) = "" → chunks = [] := by
    intro chunks hplain hjoin
    by_contra hne
    have hsorted : sortedChunks chunks ≠ [] := fun hnil =>
      hne (List.Perm.eq_nil (hnil ▸ (sortedChunks_perm chunks).symm))
    have hone : sortedChunks chunks = [""] := by
      refine @join_injOn "|" '|' rfl _ _ hsorted (List.cons_ne_nil _ _) (fun chunk hmem => ?_)
        (by simp) hjoin
      exact (hplain chunk ((sortedChunks_perm chunks).mem_iff.mp hmem)).2
    have hmem : "" ∈ chunks := (sortedChunks_perm chunks).mem_iff.mp (by simp [hone])
    exact (hplain "" hmem).1 rfl
  by_cases hnil : sortedChunks chunks = []
  · have hchunks : chunks = [] := List.Perm.eq_nil (hnil ▸ (sortedChunks_perm chunks).symm)
    have hchunks' : chunks' = [] := hempty hplain' (by rw [← h, hnil]; rfl)
    rw [hchunks, hchunks']
  · by_cases hnil' : sortedChunks chunks' = []
    · have hchunks : chunks = [] := hempty hplain (by rw [h, hnil']; rfl)
      rw [hchunks] at hnil
      exact absurd rfl hnil
    · have hsorted : sortedChunks chunks = sortedChunks chunks' := by
        refine @join_injOn "|" '|' rfl _ _ hnil hnil' (fun chunk hmem => ?_)
          (fun chunk hmem => ?_) h
        · exact (hplain chunk ((sortedChunks_perm chunks).mem_iff.mp hmem)).2
        · exact (hplain' chunk ((sortedChunks_perm chunks').mem_iff.mp hmem)).2
      exact (sortedChunks_perm chunks).symm.trans (hsorted ▸ sortedChunks_perm chunks')

/-! ## Fingerprints -/

theorem isDuplicate_iff {earlier sample : Sample} : isDuplicate py earlier sample = true ↔
    normalized py earlier.query = normalized py sample.query ∧
      normalized py earlier.answer = normalized py sample.answer ∧
      earlier.positiveChunks.Perm sample.positiveChunks ∧
      earlier.negativeChunks.Perm sample.negativeChunks ∧
      earlier.sourceDocId.getD "" = sample.sourceDocId.getD "" := by
  simp [isDuplicate, List.isPerm_iff, and_assoc]

theorem fingerprint_eq_of_isDuplicate {earlier sample : Sample}
    (h : isDuplicate py earlier sample = true) :
    fingerprint py earlier = fingerprint py sample := by
  obtain ⟨hquery, hanswer, hpositive, hnegative, hsource⟩ := isDuplicate_iff.mp h
  rw [fingerprint, fingerprint, hquery, hanswer, hsource, sortedChunks_eq_of_perm hpositive,
    sortedChunks_eq_of_perm hnegative]

theorem notMem_join {c : Char} (hc : c ≠ '|') {chunks : List String}
    (h : ∀ chunk ∈ chunks, c ∉ chunk.toList) : c ∉ (join "|" chunks).toList := by
  rw [join, String.toList_intercalate]
  intro hmem
  induction chunks with
  | nil => simp at hmem
  | cons chunk chunks ih =>
    cases chunks with
    | nil => exact h chunk (List.mem_cons_self ..) (by simpa using hmem)
    | cons next chunks =>
      rw [List.map_cons, List.map_cons, List.intercalate_cons_cons, List.append_assoc,
        List.mem_append, List.mem_append] at hmem
      rcases hmem with hmem | hmem | hmem
      · exact h chunk (List.mem_cons_self ..) hmem
      · exact hc (by simpa using hmem)
      · exact ih (fun chunk hchunk => h chunk (List.mem_cons_of_mem _ hchunk)) hmem

theorem IsSeparable.parts {sample : Sample} (h : IsSeparable py sample) :
    ∀ part ∈ [normalized py sample.query, normalized py sample.answer,
      join "|" (sortedChunks sample.positiveChunks), join "|" (sortedChunks sample.negativeChunks),
      sample.sourceDocId.getD ""], '\x1f' ∉ part.toList := by
  have hchunks : ∀ chunks : List String,
      (∀ chunk ∈ chunks, chunk ∈ sample.positiveChunks ++ sample.negativeChunks) →
      '\x1f' ∉ (join "|" (sortedChunks chunks)).toList := by
    intro chunks hmem
    refine notMem_join (by decide) fun chunk hchunk => ?_
    exact (h.chunks chunk (hmem chunk ((sortedChunks_perm chunks).mem_iff.mp hchunk))).2.1
  intro part hpart
  simp only [List.mem_cons, List.not_mem_nil, or_false] at hpart
  rcases hpart with rfl | rfl | rfl | rfl | rfl
  · exact h.query
  · exact h.answer
  · exact hchunks _ fun chunk hchunk => List.mem_append_left _ hchunk
  · exact hchunks _ fun chunk hchunk => List.mem_append_right _ hchunk
  · exact h.source

theorem isDuplicate_of_fingerprint_eq {earlier sample : Sample} (hearlier : IsSeparable py earlier)
    (hsample : IsSeparable py sample) (h : fingerprint py earlier = fingerprint py sample) :
    isDuplicate py earlier sample = true := by
  have hparts := @join_injOn "\x1f" '\x1f' rfl _ _ (List.cons_ne_nil _ _) (List.cons_ne_nil _ _)
    hearlier.parts hsample.parts h
  simp only [List.cons.injEq, and_true] at hparts
  obtain ⟨hquery, hanswer, hpositive, hnegative, hsource⟩ := hparts
  refine isDuplicate_iff.mpr ⟨hquery, hanswer, ?_, ?_, hsource⟩
  · exact chunks_perm_of_join_eq
      (fun chunk hmem => (hearlier.chunks chunk (List.mem_append_left _ hmem)).imp_right And.right)
      (fun chunk hmem => (hsample.chunks chunk (List.mem_append_left _ hmem)).imp_right And.right)
      hpositive
  · exact chunks_perm_of_join_eq
      (fun chunk hmem => (hearlier.chunks chunk (List.mem_append_right _ hmem)).imp_right And.right)
      (fun chunk hmem => (hsample.chunks chunk (List.mem_append_right _ hmem)).imp_right And.right)
      hnegative

theorem hasNoCollision_of_isSeparable {samples : List Sample}
    (h : ∀ sample ∈ samples, IsSeparable py sample) : HasNoCollision py samples := by
  rintro before sample after rfl earlier hearlier heq
  refine ⟨earlier, hearlier, isDuplicate_of_fingerprint_eq ?_ ?_ heq⟩
  · exact h earlier (List.mem_append_left _ hearlier)
  · exact h sample (List.mem_append_right _ (List.mem_cons_self ..))

/-! ## The processor -/

theorem process_samples (samples : List Sample) :
    (process py samples).samples = dedupByHash py samples := by
  cases samples <;> rfl

theorem dedupByHash_eq (hmd5 : Function.Injective py.md5) (samples : List Sample) :
    dedupByHash py samples =
      withoutCopies (fun y x => fingerprint py y = fingerprint py x) samples := by
  rw [dedupByHash, firstCopies_eq_withoutCopies]
  simp only [hmd5.eq_iff]

/-- The processor leaves out the duplicates and nothing else if and only if no fingerprint of
samples that are no duplicates occurs twice; and it is idempotent and can be applied to the parts of
a list first. -/
theorem dedup_removes_duplicates_iff (py : KeyStdlib) (hmd5 : Function.Injective py.md5)
    (samples : List Sample) :
    ((process py samples).samples = withoutCopies (isDuplicate py) samples ↔
      HasNoCollision py samples) ∧
    ((∀ sample ∈ samples, IsSeparable py sample) → HasNoCollision py samples) ∧
    (process py samples).samples.Sublist samples ∧
    (process py (process py samples).samples).samples = (process py samples).samples ∧
    ∀ more, (process py ((process py samples).samples ++ (process py more).samples)).samples =
      (process py (samples ++ more)).samples := by
  simp only [process_samples]
  refine ⟨?_, hasNoCollision_of_isSeparable, firstCopiesFrom_sublist [] samples,
    firstCopies_idem samples, firstCopies_append samples⟩
  rw [dedupByHash_eq hmd5, withoutCopies_eq_iff fun y x h => ?_]
  · simp only [decide_eq_true_eq, HasNoCollision]
  · exact decide_eq_true (fingerprint_eq_of_isDuplicate h)

def digestOf (text digest : String) : KeyStdlib where
  lower text := text
  md5 other := if other = text then digest else "x" ++ other

theorem digestOf_injective {text digest : String} (h : ∀ other, digest ≠ "x" ++ other) :
    Function.Injective (digestOf text digest).md5 := by
  intro first second heq
  simp only [digestOf] at heq
  split at heq
  · next hfirst =>
    split at heq
    · next hsecond => rw [hfirst, hsecond]
    · exact absurd heq (h second)
  · split at heq
    · exact absurd heq.symm (h first)
    · exact String.toList_injective (List.append_cancel_left
        (by simpa only [String.toList_append] using congrArg String.toList heq))

/-- A sample without separators, and the hash of its contents. -/
def plainSample : Sample := ⟨"q", "a", ["p"], ["n"], .null, none, .null⟩

def plainHash : KeyStdlib :=
  digestOf "q\x1fa\x1fp\x1fn\x1f" "0bb69e6b817a44b084b7e06f193aa212"

theorem plainHash_injective : Function.Injective plainHash.md5 := by
  refine digestOf_injective fun other heq => ?_
  have hhead := congrArg (fun text => text.toList.head?) heq
  rw [String.toList_append, List.head?_append] at hhead
  cases hhead

theorem dedup_removes_duplicates_plain :
    (process plainHash [plainSample, plainSample]).samples =
      withoutCopies (isDuplicate plainHash) [plainSample, plainSample] := by
  refine (dedup_removes_duplicates_iff plainHash plainHash_injective _).1.mpr
    (hasNoCollision_of_isSeparable fun sample hmem => ?_)
  obtain rfl : sample = plainSample := by simpa using hmem
  exact ⟨by decide, by decide, by decide, by decide⟩

def joinedSample : Sample := ⟨"", "", ["a|b"], [], .null, none, .null⟩

def apartSample : Sample := ⟨"", "", ["a", "b"], [], .null, none, .null⟩

/-- The second sample is no duplicate of the first, and it is missing. -/
theorem dedup_removes_other_sample : Function.Injective plainHash.md5 ∧
    isDuplicate plainHash joinedSample apartSample = false ∧
    (process plainHash [joinedSample, apartSample]).samples = [joinedSample] := by
  have hfingerprint : fingerprint plainHash joinedSample = fingerprint plainHash apartSample := by
    decide
  refine ⟨plainHash_injective, by decide, ?_⟩
  rw [process_samples, dedupByHash, firstCopies, firstCopiesFrom, if_neg List.not_mem_nil,
    firstCopiesFrom, hfingerprint, if_pos (by simp), firstCopiesFrom]

end PostProcess
