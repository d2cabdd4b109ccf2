import TrainFactory.Generation.Rerank
import TrainFactory.Lib.Result
import TrainFactory.Lib.StableSort
import Mathlib.Data.List.Forall2

/-!
# Proofs: batched reranking

The best documents of each batch are among the best of the whole list, so merging and cutting off
gives the same documents as one request would. Of a server that answers anything, `score` makes no
number up but zero, as long as its items name documents of the request.
-/

namespace Generation.Reranking

open Lib

/-! ## The batches -/

theorem flatMap_batchesFrom {batchSize : Nat} (hbatch : 0 < batchSize) (fuel offset : Nat)
    (documents : List String) (hfuel : documents.length ≤ fuel) :
    (batchesFrom batchSize fuel offset documents).flatMap (fun batch => batch.2.zipIdx batch.1) =
      documents.zipIdx offset := by
  induction fuel generalizing offset documents with
  | zero =>
    rw [List.eq_nil_of_length_eq_zero (Nat.le_zero.mp hfuel)]
    rfl
  | succ fuel ih =>
    cases documents with
    | nil => rfl
    | cons d ds =>
      rw [batchesFrom, List.flatMap_cons, ih]
      · conv_rhs => rw [← List.take_append_drop batchSize (d :: ds), List.zipIdx_append]
        congr 1
        rcases Nat.lt_or_ge (d :: ds).length batchSize with hshort | hlong
        · rw [List.drop_of_length_le hshort.le]
          rfl
        · rw [List.length_take, Nat.min_eq_left hlong]
      · rw [List.length_drop]
        simp only [List.length_cons] at hfuel ⊢
        omega

theorem flatMap_batches {batchSize : Nat} (hbatch : 0 < batchSize) (documents : List String) :
    (batches batchSize documents).flatMap (fun batch => batch.2.zipIdx batch.1) =
      documents.zipIdx :=
  flatMap_batchesFrom hbatch _ _ _ le_rfl

theorem sublist_of_batch {batchSize : Nat} (hbatch : 0 < batchSize) {documents : List String}
    {part : Nat × List String} (hpart : part ∈ batches batchSize documents) :
    part.2.Sublist documents := by
  have h : part.2.zipIdx part.1 ∈
      (batches batchSize documents).map fun part => part.2.zipIdx part.1 :=
    List.mem_map_of_mem hpart
  have hsub := (List.sublist_flatten_of_mem h).map Prod.fst
  rwa [← List.flatMap_def, flatMap_batches hbatch, List.zipIdx_map_fst, List.zipIdx_map_fst] at hsub

/-! ## A server that scores documents -/

/-- The score of a document and its position. -/
def rankOf (value : String → Rat) (p : String × Nat) : Rat := value p.1

/-- The item of a document: its index, and a number as its score. -/
def IsItem (value : String → Rat) (cohere : Bool) (item : Json) (p : String × Nat) : Prop :=
  item.isObj = true ∧ item.get? "index" = some (.int p.2) ∧
    number (scoreOf cohere item) = some (value p.1)

/-- An answer has the `top_n` best documents of the request, in any order. -/
def Answers (value : String → Rat) (payload : Payload) (data : Json) : Prop :=
  ∃ cohere items best ordered, itemsOf data = some (cohere, items) ∧
    IsTop (rankOf value) payload.topN payload.documents.zipIdx best ∧ ordered.Perm best ∧
    List.Forall₂ (IsItem value cohere) items ordered

def Distinct (value : String → Rat) (documents : List String) : Prop :=
  documents.Pairwise fun d d' => value d ≠ value d'

/-- The server scores each document by itself, and answers every request. -/
def Scores (host : Host) (value : String → Rat) : Prop :=
  ∀ offset payload attempt url, Distinct value payload.documents →
    ∃ data, host.post offset payload attempt url = .answer (some data) ∧ Answers value payload data

def IsResult (value : String → Rat) (r : RerankResult) (p : String × Nat) : Prop :=
  r.index = .int p.2 ∧ number r.score = some (value p.1) ∧ r.text = .str p.1

def place (r : RerankResult) : String × Nat :=
  (match r.text with
    | .str text => text
    | _ => "",
   match r.index with
    | .int n => n.toNat
    | _ => 0)

theorem IsResult.place_eq {value : String → Rat} {r : RerankResult} {p : String × Nat}
    (h : IsResult value r p) : place r = p := by
  obtain ⟨hindex, -, htext⟩ := h
  simp [place, hindex, htext]

theorem map_place {value : String → Rat} {results : List RerankResult} {ps : List (String × Nat)}
    (h : List.Forall₂ (IsResult value) results ps) : results.map place = ps := by
  induction h with
  | nil => rfl
  | cons hfirst _ ih => rw [List.map_cons, hfirst.place_eq, ih]

theorem forall₂_place {value : String → Rat} {results : List RerankResult}
    (h : ∀ r ∈ results, ∃ p, IsResult value r p) :
    List.Forall₂ (IsResult value) results (results.map place) := by
  induction results with
  | nil => exact List.Forall₂.nil
  | cons r results ih =>
    obtain ⟨p, hp⟩ := h r (List.mem_cons_self ..)
    refine List.Forall₂.cons ?_ (ih fun r' hr' => h r' (List.mem_cons_of_mem _ hr'))
    rw [hp.place_eq]
    exact hp

section Server

variable {host : Host} {config : RerankConfig} {value : String → Rat}

theorem readItem_eq {documents : List String} {cohere : Bool} {item : Json} {p : String × Nat}
    (h : IsItem value cohere item p) (hp : p ∈ documents.zipIdx) :
    ∃ r, readItem documents cohere item = some r ∧ IsResult value r p := by
  obtain ⟨hobj, hindex, hscore⟩ := h
  obtain ⟨hlt, htext⟩ := List.mem_zipIdx' hp
  refine ⟨_, by rw [readItem, if_pos hobj], ?_, hscore, ?_⟩
  · simp [Json.getD, hindex]
  · simp only [resolveRerankText, hindex, asInt]
    have hrange : (0 : Int) ≤ (p.2 : Int) ∧ (p.2 : Int) < documents.length := by omega
    rw [if_pos hrange, Int.toNat_natCast, List.getD_eq_getElem?_getD, List.getElem?_eq_getElem hlt,
      Option.getD_some, ← htext]

theorem readAnswer_eq {documents : List String} {data : Json} {cohere : Bool} {items : List Json}
    {ordered : List (String × Nat)} (hitems : itemsOf data = some (cohere, items))
    (h : List.Forall₂ (IsItem value cohere) items ordered)
    (hin : ∀ p ∈ ordered, p ∈ documents.zipIdx) :
    ∃ results, readAnswer documents data = some results ∧
      List.Forall₂ (IsResult value) results ordered := by
  have hmap : ∃ results, items.mapM (readItem documents cohere) = some results ∧
      List.Forall₂ (IsResult value) results ordered := by
    clear hitems
    induction h with
    | nil => exact ⟨[], rfl, List.Forall₂.nil⟩
    | cons hfirst _ ih =>
      obtain ⟨r, hr, hplace⟩ := readItem_eq hfirst (hin _ (List.mem_cons_self ..))
      obtain ⟨rs, hrs, hplaces⟩ := ih fun p hp => hin p (List.mem_cons_of_mem _ hp)
      exact ⟨r :: rs, by simp [List.mapM_cons, hr, hrs], List.Forall₂.cons hplace hplaces⟩
  obtain ⟨results, hresults, hplaces⟩ := hmap
  exact ⟨results, by simp [readAnswer, hitems, hresults], hplaces⟩

theorem exists_isResult {results : List RerankResult} {ps : List (String × Nat)}
    (h : List.Forall₂ (IsResult value) results ps) : ∀ r ∈ results, ∃ p, IsResult value r p := by
  induction h with
  | nil => intro r hr; cases hr
  | cons hfirst _ ih =>
    intro r hr
    rcases List.mem_cons.mp hr with rfl | hr
    · exact ⟨_, hfirst⟩
    · exact ih r hr

theorem IsResult.number_eq {r : RerankResult} {p : String × Nat} (h : IsResult value r p) :
    (number r.score).getD 0 = rankOf value (place r) := by
  rw [h.2.1, h.place_eq]
  rfl

theorem sort_results (host : Host) {results : List RerankResult} {ps : List (String × Nat)}
    (h : List.Forall₂ (IsResult value) results ps)
    (hdistinct : ps.Pairwise fun p q => rankOf value p ≠ rankOf value q) :
    ∃ sorted, host.sortByScore results = some sorted ∧ (sorted.map place).Perm ps ∧
      List.Forall₂ (IsResult value) sorted (sorted.map place) ∧
      (sorted.map place).Pairwise fun p q => rankOf value q < rankOf value p := by
  have hresult := exists_isResult h
  have hnumber : ∀ r ∈ results, (number r.score).isSome := by
    intro r hr
    obtain ⟨p, hp⟩ := hresult r hr
    rw [hp.2.1]
    rfl
  obtain ⟨sorted, hsorted, hdesc⟩ := host.sort_numbers results hnumber
  have hperm := host.perm_sort results sorted hsorted
  have hresult' : ∀ r ∈ sorted, ∃ p, IsResult value r p :=
    fun r hr => hresult r (hperm.mem_iff.mp hr)
  have hplaces : (sorted.map place).Perm ps := by
    rw [← map_place h]
    exact hperm.map place
  refine ⟨sorted, hsorted, hplaces, forall₂_place hresult', ?_⟩
  refine descends_of_distinct ?_ ?_
  · rw [List.pairwise_map]
    refine hdesc.imp_of_mem fun {a b} ha hb hle => ?_
    obtain ⟨p, hp⟩ := hresult' a ha
    obtain ⟨q, hq⟩ := hresult' b hb
    rwa [hp.number_eq, hq.number_eq] at hle
  · exact (hplaces.pairwise_iff fun hab => Ne.symm hab).mpr hdistinct

/-- What one request ends with: the best documents of its batch, in descending order. -/
theorem rerankSingle_eq (hserver : Scores host value) (hauth : host.authorized = true)
    (hretries : 0 < config.maxRetries) (offset : Nat) (query : String) (documents : List String)
    (topK : Nat) (hdistinct : Distinct value documents) :
    ∃ results best, rerankSingle host config offset query documents topK = some results ∧
      IsTop (rankOf value) topK documents.zipIdx best ∧
      List.Forall₂ (IsResult value) results best := by
  obtain ⟨retries, hretries⟩ : ∃ n, config.maxRetries = n + 1 :=
    ⟨_, (Nat.succ_pred hretries.ne').symm⟩
  obtain ⟨url, urls, hurls⟩ : ∃ url urls, config.urls = url :: urls := by
    unfold RerankConfig.urls
    dsimp only
    split
    · exact ⟨_, _, rfl⟩
    · split <;> exact ⟨_, _, rfl⟩
  obtain ⟨data, hpost, cohere, items, best, ordered, hitems, htop, hperm, hall⟩ :=
    hserver offset ⟨query, documents, min topK documents.length⟩ 0 url hdistinct
  have hanswer : answerOf host config offset query documents topK = some data := by
    simp [answerOf, hauth, hretries, attempts, hurls, attemptUrls, hpost]
  have hin : ∀ p ∈ ordered, p ∈ documents.zipIdx := fun p hp => htop.subset (hperm.mem_iff.mp hp)
  obtain ⟨results, hresults, hplaces⟩ := readAnswer_eq hitems hall hin
  have hordered : ordered.Pairwise fun p q => rankOf value p ≠ rankOf value q :=
    (hperm.pairwise_iff fun hab => Ne.symm hab).mpr (htop.sorted.imp fun h => h.ne')
  obtain ⟨sorted, hsorted, hps, hforall, hdesc⟩ :=
    sort_results host hplaces hordered
  have hbest : sorted.map place = best :=
    eq_of_perm_of_descends hdesc htop.sorted (hps.trans hperm)
  have hlength : sorted.length ≤ topK := by
    have h1 := congrArg List.length hbest
    have h2 := htop.length
    simp only [List.length_map, List.length_zipIdx] at h1 h2
    omega
  refine ⟨sorted, best, ?_, ?_, hbest ▸ hforall⟩
  · simp [rerankSingle, hanswer, hresults, hsorted, List.take_of_length_le hlength]
  · refine IsTop.of_min ?_
    rw [List.length_zipIdx]
    exact htop

/-- A place in the whole list. -/
def moved (offset : Nat) (p : String × Nat) : String × Nat := (p.1, p.2 + offset)

theorem map_moved_zipIdx (offset : Nat) (documents : List String) :
    documents.zipIdx.map (moved offset) = documents.zipIdx offset := by
  have h := @List.map_snd_add_zipIdx_eq_zipIdx _ documents offset 0
  rwa [Nat.add_zero] at h

theorem shift_eq (offset : Nat) {r : RerankResult} {p : String × Nat} (h : IsResult value r p) :
    ∃ r', shift offset r = some r' ∧ IsResult value r' (moved offset p) := by
  obtain ⟨hindex, hscore, htext⟩ := h
  refine ⟨{ r with index := .int (p.2 + offset) }, by simp [shift, hindex, addIndex], ?_, hscore,
    htext⟩
  simp [moved]

theorem rerankBatch_eq (hserver : Scores host value) (hauth : host.authorized = true)
    (hretries : 0 < config.maxRetries) (query : String) (topK : Nat) (batch : Nat × List String)
    (hdistinct : Distinct value batch.2) :
    ∃ results best, rerankBatch host config query topK batch = some results ∧
      IsTop (rankOf value) topK (batch.2.zipIdx batch.1) best ∧
      List.Forall₂ (IsResult value) results best := by
  obtain ⟨results, best, hsingle, htop, hall⟩ :=
    rerankSingle_eq hserver hauth hretries batch.1 query batch.2 (min topK batch.2.length) hdistinct
  have hshift : ∃ shifted, results.mapM (shift batch.1) = some shifted ∧
      List.Forall₂ (IsResult value) shifted (best.map (moved batch.1)) := by
    clear hsingle htop
    induction hall with
    | nil => exact ⟨[], rfl, List.Forall₂.nil⟩
    | cons hfirst _ ih =>
      obtain ⟨r, hr, hplace⟩ := shift_eq batch.1 hfirst
      obtain ⟨rs, hrs, hplaces⟩ := ih
      exact ⟨r :: rs, by simp [List.mapM_cons, hr, hrs], List.Forall₂.cons hplace hplaces⟩
  obtain ⟨shifted, hshifted, hplaces⟩ := hshift
  refine ⟨shifted, _, by simp [rerankBatch, hsingle, hshifted], ?_, hplaces⟩
  rw [← map_moved_zipIdx]
  refine IsTop.map (fun p => rfl) (IsTop.of_min ?_)
  rw [List.length_zipIdx]
  exact htop

theorem rerankBatches_eq (hserver : Scores host value) (hauth : host.authorized = true)
    (hretries : 0 < config.maxRetries) (query : String) (topK : Nat)
    {parts : List (Nat × List String)} (hdistinct : ∀ part ∈ parts, Distinct value part.2) :
    ∃ results tops, parts.mapM (rerankBatch host config query topK) = some results ∧
      List.Forall₂ (IsTop (rankOf value) topK) (parts.map fun part => part.2.zipIdx part.1) tops ∧
      List.Forall₂ (IsResult value) results.flatten tops.flatten := by
  induction parts with
  | nil => exact ⟨[], [], rfl, List.Forall₂.nil, List.Forall₂.nil⟩
  | cons part parts ih =>
    obtain ⟨results, best, hbatch, htop, hall⟩ := rerankBatch_eq hserver hauth hretries query topK
      part (hdistinct part (List.mem_cons_self ..))
    obtain ⟨rest, tops, hrest, htops, halls⟩ :=
      ih fun part hpart => hdistinct part (List.mem_cons_of_mem _ hpart)
    exact ⟨results :: rest, best :: tops, by simp [List.mapM_cons, hbatch, hrest],
      List.Forall₂.cons htop htops, List.rel_append hall halls⟩

/-- The documents at their positions, by descending score. -/
def ranking (value : String → Rat) (documents : List String) : List (String × Nat) :=
  documents.zipIdx.mergeSort fun p q => rankOf value q ≤ rankOf value p

theorem pairwise_ranking {documents : List String}
    (hdistinct : documents.zipIdx.Pairwise fun p q => rankOf value p ≠ rankOf value q) :
    (ranking value documents).Pairwise fun p q => rankOf value q < rankOf value p := by
  have hperm : (ranking value documents).Perm documents.zipIdx := List.mergeSort_perm _ _
  refine descends_of_distinct ?_ ?_
  · have hsorted : (ranking value documents).Pairwise fun p q =>
        decide (rankOf value q ≤ rankOf value p) = true := by
      refine List.pairwise_mergeSort (fun p q r hpq hqr => ?_) (fun p q => ?_) _
      · exact decide_eq_true ((of_decide_eq_true hqr).trans (of_decide_eq_true hpq))
      · rcases le_total (rankOf value q) (rankOf value p) with h | h <;> simp [h]
    exact hsorted.imp fun h => of_decide_eq_true h
  · exact (hperm.pairwise_iff fun hab => Ne.symm hab).mpr hdistinct

theorem rerank_eq_ranking (hserver : Scores host value) (hauth : host.authorized = true)
    (hretries : 0 < config.maxRetries) (hbatch : 0 < config.batchSize) (query : String)
    {documents : List String} {topK : Nat} (htopK : 0 < topK)
    (hdistinct : Distinct value documents) :
    ∃ results, rerank host config query documents topK = some results ∧
      List.Forall₂ (IsResult value) results ((ranking value documents).take topK) := by
  have hplaces : documents.zipIdx.Pairwise fun p q => rankOf value p ≠ rankOf value q := by
    rwa [Distinct, ← List.zipIdx_map_fst 0 documents, List.pairwise_map] at hdistinct
  have hranked : IsTop (rankOf value) topK documents.zipIdx ((ranking value documents).take topK) :=
    isTop_take (pairwise_ranking hplaces) (List.mergeSort_perm _ _)
  unfold rerank
  rw [if_neg htopK.ne']
  dsimp only
  split
  · obtain ⟨results, best, hsingle, htop, hall⟩ :=
      rerankSingle_eq hserver hauth hretries 0 query documents topK hdistinct
    exact ⟨results, hsingle, htop.unique hranked ▸ hall⟩
  · have hbatches : ∀ part ∈ batches config.batchSize documents, Distinct value part.2 :=
      fun part hpart => hdistinct.sublist (sublist_of_batch hbatch hpart)
    obtain ⟨results, tops, hresults, htops, hall⟩ :=
      rerankBatches_eq hserver hauth hretries query topK hbatches
    have hparts : ((batches config.batchSize documents).map fun part =>
        part.2.zipIdx part.1).flatten = documents.zipIdx := by
      rw [← List.flatMap_def]
      exact flatMap_batches hbatch documents
    have hsub : tops.flatten.Subperm documents.zipIdx := hparts ▸ subperm_flatten htops
    have hne : tops.flatten.Pairwise fun p q => rankOf value p ≠ rankOf value q := by
      obtain ⟨l, hperm, hsublist⟩ := hsub
      exact (hperm.pairwise_iff fun hab => Ne.symm hab).mp (hplaces.sublist hsublist)
    obtain ⟨sorted, hsorted, hps, hforall, hdesc⟩ := sort_results host hall hne
    have htop : IsTop (rankOf value) topK documents.zipIdx ((sorted.map place).take topK) := by
      rw [← hparts]
      exact IsTop.flatten htops (isTop_take hdesc hps)
    refine ⟨sorted.take topK, by simp [hresults, hsorted], ?_⟩
    rw [← htop.unique hranked, ← List.map_take]
    exact forall₂_place fun r hr => exists_isResult hforall r (List.mem_of_mem_take hr)

end Server

/-! ## Any server -/

def requests (config : RerankConfig) (documents : List String) : List (Nat × List String) :=
  if documents.length ≤ config.batchSize then [(0, documents)]
  else batches config.batchSize documents

section Any

variable {host : Host} {config : RerankConfig} {query : String} {documents : List String}

/-- Each item of the answer to a request names a document of the request. -/
def WellIndexed (host : Host) (config : RerankConfig) (query : String) (part : Nat × List String) :
    Prop :=
  ∀ data cohere items,
    answerOf host config part.1 query part.2 part.2.length = some data →
      itemsOf data = some (cohere, items) →
        ∀ item ∈ items, ∃ j : Nat, j < part.2.length ∧ item.get? "index" = some (.int j)

/-- What a position gets from the answer to its request: the score of an item that names it, or zero
where no item does, or the answer has more items than the request has documents. -/
def IsScore (host : Host) (config : RerankConfig) (query : String) (part : Nat × List String)
    (j : Nat) (score : Json) : Prop :=
  ∃ data cohere items, answerOf host config part.1 query part.2 part.2.length = some data ∧
    itemsOf data = some (cohere, items) ∧
    ((∃ item ∈ items, item.get? "index" = some (.int j) ∧ score = scoreOf cohere item) ∨
      score = .float 0 ∧ ((∀ item ∈ items, item.get? "index" ≠ some (.int j)) ∨
        part.2.length < items.length))

theorem foldlM_setScore {n : Nat} {results : List RerankResult} {scores scores' : List Json}
    (hlength : scores.length = n)
    (hindex : ∀ r ∈ results, ∃ p : Nat, p < n ∧ r.index = .int p)
    (h : results.foldlM setScore scores = some scores') :
    scores'.length = n ∧ ∀ p < n, (∃ r ∈ results, r.index = .int p ∧ scores'[p]? = some r.score) ∨
      (∀ r ∈ results, r.index ≠ .int p) ∧ scores'[p]? = scores[p]? := by
  induction results generalizing scores with
  | nil =>
    obtain rfl := Option.some.inj h
    exact ⟨hlength, fun p _ => Or.inr ⟨by simp, rfl⟩⟩
  | cons r results ih =>
    obtain ⟨q, hq, hr⟩ := hindex r (List.mem_cons_self ..)
    have hset : setScore scores r = some (scores.set q r.score) := by
      simp only [setScore, hr, asInt]
      rw [if_pos ⟨by omega, by omega⟩, Int.toNat_natCast]
    rw [List.foldlM_cons, hset] at h
    obtain ⟨hlength', hrest⟩ := ih (by rw [List.length_set, hlength])
      (fun r' hr' => hindex r' (List.mem_cons_of_mem _ hr')) h
    refine ⟨hlength', fun p hp => ?_⟩
    rcases hrest p hp with ⟨r', hr', hindex', hscore⟩ | ⟨hnone, hsame⟩
    · exact Or.inl ⟨r', List.mem_cons_of_mem _ hr', hindex', hscore⟩
    · by_cases hpq : q = p
      · subst hpq
        refine Or.inl ⟨r, List.mem_cons_self .., hr, ?_⟩
        rw [hsame, List.getElem?_set_self (by omega)]
      · refine Or.inr ⟨?_, by rw [hsame, List.getElem?_set_ne hpq]⟩
        intro r' hr'
        rcases List.mem_cons.mp hr' with rfl | hr'
        · rw [hr]
          intro heq
          simp only [Json.int.injEq] at heq
          omega
        · exact hnone r' hr'

/-- The results of a request with the indices of the whole list: up to as many as there are
documents, each from an item of the answer, and from every item if there are no more. -/
structure Kept (host : Host) (config : RerankConfig) (query : String) (part : Nat × List String)
    (results : List RerankResult) : Prop where
  length : results.length ≤ part.2.length
  answer : ∃ data cohere items, answerOf host config part.1 query part.2 part.2.length = some data ∧
    itemsOf data = some (cohere, items) ∧
    (∀ r ∈ results, ∃ item ∈ items, ∃ j : Nat, j < part.2.length ∧
      item.get? "index" = some (.int j) ∧ r.index = .int (j + part.1) ∧
      r.score = scoreOf cohere item) ∧
    (items.length ≤ part.2.length → ∀ item ∈ items, ∀ j : Nat,
      item.get? "index" = some (.int j) → ∃ r ∈ results, r.index = .int (j + part.1))

theorem readItem_eq_some {docs : List String} {cohere : Bool} {item : Json} {r : RerankResult}
    (h : readItem docs cohere item = some r) :
    r.index = item.getD "index" (.int 0) ∧ r.score = scoreOf cohere item := by
  unfold readItem at h
  split at h
  · obtain rfl := Option.some.inj h
    exact ⟨rfl, rfl⟩
  · cases h

/-- One request, when each item of its answer names one of its documents. -/
theorem kept_rerankSingle {part : Nat × List String} {results : List RerankResult}
    (hwell : WellIndexed host config query part)
    (h : rerankSingle host config part.1 query part.2 part.2.length = some results) :
    ∃ data cohere items, answerOf host config part.1 query part.2 part.2.length = some data ∧
      itemsOf data = some (cohere, items) ∧ results.length ≤ part.2.length ∧
      (∀ r ∈ results, ∃ item ∈ items, ∃ j : Nat, j < part.2.length ∧
        item.get? "index" = some (.int j) ∧ r.index = .int j ∧ r.score = scoreOf cohere item) ∧
      (items.length ≤ part.2.length → ∀ item ∈ items, ∀ j : Nat,
        item.get? "index" = some (.int j) → ∃ r ∈ results, r.index = .int j) := by
  simp only [rerankSingle, Option.bind_eq_bind, Option.bind_eq_some_iff, Option.pure_def,
    Option.some.injEq] at h
  obtain ⟨data, hdata, parsed, hparsed, sorted, hsorted, rfl⟩ := h
  simp only [readAnswer, Option.bind_eq_bind, Option.bind_eq_some_iff] at hparsed
  obtain ⟨⟨cohere, items⟩, hitems, hmap⟩ := hparsed
  have hperm := host.perm_sort parsed sorted hsorted
  have hlength : sorted.length = items.length := by
    rw [hperm.length_eq]
    exact (mapM_eq_some.mp hmap).length_eq.symm
  refine ⟨data, cohere, items, hdata, hitems, ?_, fun r hr => ?_, fun hle item hitem j hj => ?_⟩
  · rw [List.length_take]
    exact Nat.min_le_left _ _
  · have hr' := hperm.mem_iff.mp (List.mem_of_mem_take hr)
    obtain ⟨item, hitem, hread⟩ := (mem_of_mapM_eq_some hmap).mp hr'
    obtain ⟨hindex, hscore⟩ := readItem_eq_some hread
    obtain ⟨j, hj, hname⟩ := hwell data cohere items hdata hitems item hitem
    refine ⟨item, hitem, j, hj, hname, ?_, hscore⟩
    rw [hindex, Json.getD, hname, Option.getD_some]
  · rw [List.take_of_length_le (by omega)]
    obtain ⟨r, hread⟩ := exists_mapM_eq_some.mp ⟨parsed, hmap⟩ item hitem
    refine ⟨r, hperm.mem_iff.mpr ((mem_of_mapM_eq_some hmap).mpr ⟨item, hitem, hread⟩), ?_⟩
    rw [(readItem_eq_some hread).1, Json.getD, hj, Option.getD_some]

theorem kept_rerankBatch {part : Nat × List String} {results : List RerankResult} {topK : Nat}
    (hwell : WellIndexed host config query part) (htopK : part.2.length ≤ topK)
    (h : rerankBatch host config query topK part = some results) :
    Kept host config query part results := by
  simp only [rerankBatch, Option.bind_eq_bind, Option.bind_eq_some_iff, Nat.min_eq_right htopK] at h
  obtain ⟨single, hsingle, hmap⟩ := h
  obtain ⟨data, cohere, items, hdata, hitems, hlength, hfrom, hall⟩ :=
    kept_rerankSingle hwell hsingle
  have hshift : ∀ r ∈ single, ∀ j : Nat, r.index = .int j → ∀ r', shift part.1 r = some r' →
      r'.index = .int (j + part.1) ∧ r'.score = r.score := by
    intro r _ j hindex r' hr'
    simp only [shift, hindex, addIndex, Option.map_some, Option.some.injEq] at hr'
    subst hr'
    exact ⟨rfl, rfl⟩
  refine ⟨?_, data, cohere, items, hdata, hitems, fun r' hr' => ?_, fun hle item hitem j hj => ?_⟩
  · rw [← (mapM_eq_some.mp hmap).length_eq]
    exact hlength
  · obtain ⟨r, hr, hshifted⟩ := (mem_of_mapM_eq_some hmap).mp hr'
    obtain ⟨item, hitem, j, hj, hname, hindex, hscore⟩ := hfrom r hr
    obtain ⟨hindex', hscore'⟩ := hshift r hr j hindex r' hshifted
    exact ⟨item, hitem, j, hj, hname, hindex', hscore'.trans hscore⟩
  · obtain ⟨r, hr, hindex⟩ := hall hle item hitem j hj
    obtain ⟨r', hr'⟩ := exists_mapM_eq_some.mp ⟨results, hmap⟩ r hr
    exact ⟨r', (mem_of_mapM_eq_some hmap).mpr ⟨r, hr, hr'⟩, (hshift r hr j hindex r' hr').1⟩

theorem flatMap_requests (hbatch : 0 < config.batchSize) (documents : List String) :
    (requests config documents).flatMap (fun part => part.2.zipIdx part.1) = documents.zipIdx := by
  unfold requests
  split
  · simp
  · exact flatMap_batches hbatch documents

theorem length_part_le (hbatch : 0 < config.batchSize) {part : Nat × List String}
    (hpart : part ∈ requests config documents) : part.2.length ≤ documents.length := by
  unfold requests at hpart
  split at hpart
  · rw [List.mem_singleton.mp hpart]
  · exact (sublist_of_batch hbatch hpart).length_le

theorem kept_batches {parts : List (Nat × List String)} {rs : List (List RerankResult)} {topK : Nat}
    (hall : ∀ part ∈ parts, WellIndexed host config query part ∧ part.2.length ≤ topK)
    (h : List.Forall₂ (fun part results => rerankBatch host config query topK part = some results)
      parts rs) : List.Forall₂ (Kept host config query) parts rs := by
  induction h with
  | nil => exact List.Forall₂.nil
  | cons hfirst _ ih =>
    obtain ⟨hwell, hle⟩ := hall _ (List.mem_cons_self ..)
    exact List.Forall₂.cons (kept_rerankBatch hwell hle hfirst)
      (ih fun part hpart => hall part (List.mem_cons_of_mem _ hpart))

theorem length_kept {parts : List (Nat × List String)} {rs : List (List RerankResult)}
    (h : List.Forall₂ (Kept host config query) parts rs) :
    rs.flatten.length ≤ (parts.flatMap fun part => part.2.zipIdx part.1).length := by
  induction h with
  | nil => exact le_rfl
  | cons hfirst _ ih =>
    have := hfirst.length
    simp only [List.flatten_cons, List.flatMap_cons, List.length_append, List.length_zipIdx]
    omega

theorem kept_rerank (hbatch : 0 < config.batchSize) (hne : documents ≠ [])
    (hwell : ∀ part ∈ requests config documents, WellIndexed host config query part)
    {results : List RerankResult}
    (h : rerank host config query documents documents.length = some results) :
    ∃ rs, List.Forall₂ (Kept host config query) (requests config documents) rs ∧
      results.Perm rs.flatten := by
  have hlength : documents.length ≠ 0 := fun h0 => hne (List.eq_nil_of_length_eq_zero h0)
  unfold rerank at h
  rw [if_neg hlength] at h
  dsimp only at h
  split at h
  · next hsmall =>
    have hreq : requests config documents = [(0, documents)] := if_pos hsmall
    have hwell' := hwell (0, documents) (by rw [hreq]; exact List.mem_singleton.mpr rfl)
    obtain ⟨data, cohere, items, hdata, hitems, hlen, hfrom, hall⟩ := kept_rerankSingle hwell' h
    rw [hreq]
    refine ⟨[results], List.Forall₂.cons ⟨hlen, data, cohere, items, hdata, hitems, ?_, ?_⟩
      List.Forall₂.nil, by simp⟩
    · simpa using hfrom
    · simpa using hall
  · next hlarge =>
    have hreq : requests config documents = batches config.batchSize documents := if_neg hlarge
    simp only [Option.bind_eq_bind, Option.bind_eq_some_iff, Option.pure_def,
      Option.some.injEq] at h
    obtain ⟨rs, hrs, sorted, hsorted, rfl⟩ := h
    have hperm := host.perm_sort _ _ hsorted
    have hkept : List.Forall₂ (Kept host config query) (requests config documents) rs := by
      refine kept_batches (fun part hpart => ⟨hwell part hpart, length_part_le hbatch hpart⟩) ?_
      rw [hreq]
      exact mapM_eq_some.mp hrs
    refine ⟨rs, hkept, ?_⟩
    have htotal := length_kept hkept
    rw [flatMap_requests hbatch, List.length_zipIdx] at htotal
    rw [List.take_of_length_le (by rw [hperm.length_eq]; exact htotal)]
    exact hperm

theorem foldlM_setScore_length {results : List RerankResult} {scores scores' : List Json}
    (h : results.foldlM setScore scores = some scores') : scores'.length = scores.length := by
  induction results generalizing scores with
  | nil =>
    obtain rfl := Option.some.inj h
    rfl
  | cons r results ih =>
    rw [List.foldlM_cons, Option.bind_eq_bind, Option.bind_eq_some_iff] at h
    obtain ⟨first, hfirst, h⟩ := h
    rw [ih h]
    unfold setScore at hfirst
    split at hfirst
    · split at hfirst
      · obtain rfl := Option.some.inj hfirst
        exact List.length_set
      · split at hfirst
        · obtain rfl := Option.some.inj hfirst
          exact List.length_set
        · cases hfirst
    · cases hfirst

theorem lt_of_part (hbatch : 0 < config.batchSize) {part : Nat × List String} {j : Nat}
    (hpart : part ∈ requests config documents) (hj : j < part.2.length) :
    j + part.1 < documents.length ∧ part.2[j]? = documents[j + part.1]? := by
  have hmem : (part.2[j], j + part.1) ∈ documents.zipIdx := by
    rw [← flatMap_requests hbatch, List.mem_flatMap]
    refine ⟨part, hpart, List.mem_iff_getElem?.mpr ⟨j, ?_⟩⟩
    rw [List.getElem?_zipIdx, List.getElem?_eq_getElem hj, Nat.add_comm]
    rfl
  obtain ⟨hlt, htext⟩ := List.mem_zipIdx' hmem
  exact ⟨hlt, by rw [List.getElem?_eq_getElem hj, List.getElem?_eq_getElem hlt, htext]⟩

/-- Each position gets a score that the server gave, or zero where it gave none. -/
theorem score_given (hbatch : 0 < config.batchSize)
    (hwell : ∀ part ∈ requests config documents, WellIndexed host config query part)
    {scores : List Json} (h : score host config query documents = some scores) :
    scores.length = documents.length ∧ ∀ p < documents.length, ∃ part ∈ requests config documents,
      ∃ j v, p = j + part.1 ∧ part.2[j]? = documents[p]? ∧ scores[p]? = some v ∧
        IsScore host config query part j v := by
  simp only [score, Option.bind_eq_bind, Option.bind_eq_some_iff] at h
  obtain ⟨results, hresults, hfold⟩ := h
  have hlength := foldlM_setScore_length hfold
  rw [List.length_replicate] at hlength
  refine ⟨hlength, fun p hp => ?_⟩
  have hne : documents ≠ [] := fun hnil => by rw [hnil] at hp; exact absurd hp (Nat.not_lt_zero _)
  obtain ⟨rs, hkept, hperm⟩ := kept_rerank hbatch hne hwell hresults
  have hfrom : ∀ r ∈ results, ∃ part ∈ requests config documents, ∃ rs',
      Kept host config query part rs' ∧ r ∈ rs' := by
    intro r hr
    obtain ⟨rs', hrs', hmem⟩ := List.mem_flatten.mp (hperm.mem_iff.mp hr)
    obtain ⟨part, hpart, hk⟩ := exists_mem_left hkept rs' hrs'
    exact ⟨part, hpart, rs', hk, hmem⟩
  have hindex : ∀ r ∈ results, ∃ q : Nat, q < documents.length ∧ r.index = .int q := by
    intro r hr
    obtain ⟨part, hpart, rs', hk, hmem⟩ := hfrom r hr
    obtain ⟨data, cohere, items, -, -, hitem, -⟩ := hk.answer
    obtain ⟨item, -, j, hj, -, hindex, -⟩ := hitem r hmem
    exact ⟨j + part.1, (lt_of_part hbatch hpart hj).1, by rw [hindex]; push_cast; rfl⟩
  obtain ⟨-, hset⟩ := foldlM_setScore List.length_replicate hindex hfold
  rcases hset p hp with ⟨r, hr, hrp, hscore⟩ | ⟨hnone, hzero⟩
  · -- the position gets the score of a result
    obtain ⟨part, hpart, rs', hk, hmem⟩ := hfrom r hr
    obtain ⟨data, cohere, items, hdata, hitems, hitem, -⟩ := hk.answer
    obtain ⟨item, hin, j, hj, hname, hindex, hvalue⟩ := hitem r hmem
    have hpj : p = j + part.1 := by
      rw [hindex] at hrp
      simp only [Json.int.injEq] at hrp
      omega
    refine ⟨part, hpart, j, r.score, hpj, ?_, hscore, data, cohere, items, hdata, hitems,
      Or.inl ⟨item, hin, hname, hvalue⟩⟩
    rw [hpj]
    exact (lt_of_part hbatch hpart hj).2
  · -- no result names the position
    have hmem : (documents[p], p) ∈ documents.zipIdx :=
      List.mem_iff_getElem?.mpr ⟨p, by simp [hp]⟩
    rw [← flatMap_requests hbatch, List.mem_flatMap] at hmem
    obtain ⟨part, hpart, hmem⟩ := hmem
    obtain ⟨j, hj, hpj⟩ : ∃ j, j < part.2.length ∧ p = j + part.1 := by
      obtain ⟨hle, hlt, -⟩ := List.mem_zipIdx hmem
      exact ⟨p - part.1, by omega, by omega⟩
    obtain ⟨rs', hrs', hk⟩ := exists_mem_right hkept part hpart
    obtain ⟨data, cohere, items, hdata, hitems, -, hall⟩ := hk.answer
    refine ⟨part, hpart, j, .float 0, hpj, hpj ▸ (lt_of_part hbatch hpart hj).2, ?_, data, cohere,
      items, hdata, hitems, Or.inr ⟨rfl, ?_⟩⟩
    · rw [hzero, List.getElem?_replicate, if_pos hp]
    · rcases Nat.lt_or_ge part.2.length items.length with hlong | hshort
      · exact Or.inr hlong
      · refine Or.inl fun item hitem hname => ?_
        obtain ⟨r, hr, hindex⟩ := hall hshort item hitem j hname
        refine hnone r (hperm.mem_iff.mpr (List.mem_flatten.mpr ⟨rs', hrs', hr⟩)) ?_
        rw [hindex, hpj]
        push_cast
        rfl

end Any

/-! ## The claim -/

/-- `rerank` returns the best documents of the whole list if the server scores each document by
itself, whatever the size of the batches; and what `score` returns are scores that the server gave,
or zero, if every item of an answer names a document of its request. -/
theorem rerank_and_score (host : Host) (config : RerankConfig) (query : String)
    (documents : List String) (hbatch : 0 < config.batchSize) :
    (∀ (value : String → Rat) (topK : Nat), Scores host value → host.authorized = true →
      0 < config.maxRetries → 0 < topK → Distinct value documents →
        ∃ results, rerank host config query documents topK = some results ∧
          List.Forall₂ (IsResult value) results ((ranking value documents).take topK)) ∧
    ∀ scores, (∀ part ∈ requests config documents, WellIndexed host config query part) →
      score host config query documents = some scores →
        scores.length = documents.length ∧ ∀ p < documents.length,
          ∃ part ∈ requests config documents, ∃ j v, p = j + part.1 ∧
            part.2[j]? = documents[p]? ∧ scores[p]? = some v ∧
            IsScore host config query part j v :=
  ⟨fun _ _ hserver hauth hretries htopK hdistinct =>
      rerank_eq_ranking hserver hauth hretries hbatch query htopK hdistinct,
    fun _ hwell h => score_given hbatch hwell h⟩

def itemOf (value : String → Rat) (p : String × Nat) : Json :=
  .obj [("index", .int p.2), ("relevance_score", .float (value p.1))]

theorem isItem_itemOf (value : String → Rat) (p : String × Nat) :
    IsItem value true (itemOf value p) p :=
  ⟨rfl, rfl, rfl⟩

/-- A host whose server answers with the best documents, and that sorts by numbers. -/
def honestHost (value : String → Rat) : Host where
  authorized := true
  post _ payload _ _ := .answer (some (.obj [("results",
    .arr (((ranking value payload.documents).take payload.topN).map (itemOf value)))]))
  sortByScore results :=
    some (results.mergeSort fun a b => (number b.score).getD 0 ≤ (number a.score).getD 0)
  perm_sort results sorted h := by
    rw [← Option.some.inj h]
    exact List.mergeSort_perm _ _
  sort_numbers results _ := by
    refine ⟨_, rfl, ?_⟩
    have hsorted := @List.pairwise_mergeSort _
      (fun a b : RerankResult => decide ((number b.score).getD 0 ≤ (number a.score).getD 0))
      (fun a b c hab hbc => decide_eq_true ((of_decide_eq_true hbc).trans (of_decide_eq_true hab)))
      (fun a b => by
        rcases le_total ((number b.score).getD 0) ((number a.score).getD 0) with h | h <;> simp [h])
      results
    exact hsorted.imp fun h => of_decide_eq_true h

theorem scores_honestHost (value : String → Rat) : Scores (honestHost value) value := by
  intro offset payload attempt url hdistinct
  have hplaces : payload.documents.zipIdx.Pairwise fun p q => rankOf value p ≠ rankOf value q := by
    rwa [Distinct, ← List.zipIdx_map_fst 0 payload.documents, List.pairwise_map] at hdistinct
  refine ⟨_, rfl, true, _, (ranking value payload.documents).take payload.topN, _, rfl,
    isTop_take (pairwise_ranking hplaces) (List.mergeSort_perm _ _), List.Perm.refl _, ?_⟩
  rw [List.forall₂_map_left_iff]
  exact List.forall₂_same.mpr fun p _ => isItem_itemOf value p

def smallConfig : RerankConfig := ⟨"http://rerank", 10, 2, 3⟩

/-- Three documents in two batches, ranked by their length. -/
theorem rerank_three :
    ∃ results, rerank (honestHost fun d => d.length) smallConfig "q" ["a", "bbb", "cc"] 2 =
        some results ∧
      List.Forall₂ (IsResult fun d => d.length) results
        ((ranking (fun d => d.length) ["a", "bbb", "cc"]).take 2) :=
  (rerank_and_score (honestHost fun d => d.length) smallConfig "q" ["a", "bbb", "cc"]
    (by decide)).1 (fun d => d.length) 2 (scores_honestHost _) rfl (by decide) (by decide)
    (by unfold Distinct; decide)

/-- A host whose server ranks no document. -/
def silentHost : Host :=
  { honestHost fun _ => 0 with
    post := fun _ _ _ _ => .answer (some (.obj [("results", .arr [])])) }

/-- A document gets a score that the server did not give. -/
theorem score_made_up :
    answerOf silentHost smallConfig 0 "q" ["a"] 1 = some (.obj [("results", .arr [])]) ∧
      score silentHost smallConfig "q" ["a"] = some [.float 0] := by
  have hanswer : answerOf silentHost smallConfig 0 "q" ["a"] 1 =
      some (.obj [("results", .arr [])]) := rfl
  have hread : readAnswer ["a"] (.obj [("results", .arr [])]) = some [] := rfl
  have hsort : silentHost.sortByScore [] = some [] := by simp [silentHost, honestHost]
  have hsingle : rerankSingle silentHost smallConfig 0 "q" ["a"] 1 = some [] := by
    simp [rerankSingle, hanswer, hread, hsort]
  refine ⟨hanswer, ?_⟩
  unfold score rerank
  change (rerankSingle silentHost smallConfig 0 "q" ["a"] 1).bind _ = _
  rw [hsingle]
  rfl

end Generation.Reranking
