import TrainFactory.DeepEvaluation.RankingMetrics
import TrainFactory.Lib.RankedHits
import TrainFactory.Lib.StableSort

/-!
# The order of ranked documents

Documents of one score are ranked as they are laid out. The labels of the ranking depend on the
layout only where a positive and a negative have one score; and a positive that takes over the score
of a negative directly above it comes to the front.
-/

namespace DeepEvaluation

open Lib

variable {S : Type*} [LinearOrder S]

/-! ## Layout -/

instance : Std.Total (ByScore (S := S)) where
  total left right := le_total right.1 left.1

instance : IsTrans (S × Nat) ByScore where
  trans _ middle _ hleft hright := le_trans (b := middle.1) hright hleft

def ByScoreAndLabel (left right : S × Nat) : Prop :=
  right.1 < left.1 ∨ right.1 = left.1 ∧ right.2 ≤ left.2

instance : DecidableRel (ByScoreAndLabel (S := S)) := fun left right =>
  inferInstanceAs (Decidable (right.1 < left.1 ∨ right.1 = left.1 ∧ right.2 ≤ left.2))

instance : Std.Total (ByScoreAndLabel (S := S)) where
  total left right := by
    rcases lt_trichotomy right.1 left.1 with h | h | h
    · exact .inl (.inl h)
    · rcases le_total right.2 left.2 with hlabel | hlabel
      · exact .inl (.inr ⟨h, hlabel⟩)
      · exact .inr (.inr ⟨h.symm, hlabel⟩)
    · exact .inr (.inl h)

instance : IsTrans (S × Nat) ByScoreAndLabel where
  trans left middle right hleft hright := by
    rcases hleft with hleft | ⟨hleft, hlabel⟩
    · rcases hright with hright | ⟨hright, -⟩
      · exact .inl (lt_trans hright hleft)
      · exact .inl (hright ▸ hleft)
    · rcases hright with hright | ⟨hright, hlabel'⟩
      · exact .inl (hleft ▸ hright)
      · exact .inr ⟨hright.trans hleft, le_trans hlabel' hlabel⟩

theorem insertionSort_byScoreAndLabel {documents : List (S × Nat)}
    (h : documents.Pairwise fun left right => right.2 ≤ left.2) :
    documents.insertionSort ByScore = documents.insertionSort ByScoreAndLabel := by
  refine insertionSort_congr (h.imp fun {left right} hlabel => ⟨fun hscore => ?_, fun horder => ?_⟩)
  · rcases lt_or_eq_of_le hscore with hlt | heq
    · exact .inl hlt
    · exact .inr ⟨heq, hlabel⟩
  · rcases horder with hlt | ⟨heq, -⟩
    · exact le_of_lt hlt
    · exact le_of_eq heq

theorem insertionSort_eq_of_positives_first {documents documents' : List (S × Nat)}
    (hperm : documents.Perm documents')
    (h : documents.Pairwise fun left right => right.2 ≤ left.2)
    (h' : documents'.Pairwise fun left right => right.2 ≤ left.2) :
    documents.insertionSort ByScore = documents'.insertionSort ByScore := by
  rw [insertionSort_byScoreAndLabel h, insertionSort_byScoreAndLabel h']
  refine insertionSort_eq_of_perm hperm fun left _ right _ horder horder' => ?_
  rcases horder with hlt | ⟨heq, hlabel⟩
  · rcases horder' with hlt' | ⟨heq', -⟩
    · exact absurd hlt (lt_asymm hlt')
    · exact absurd heq' hlt.ne'
  · rcases horder' with hlt' | ⟨-, hlabel'⟩
    · exact absurd heq hlt'.ne'
    · exact Prod.ext heq.symm (le_antisymm hlabel' hlabel)

/-- No positive and no negative have one score. -/
def NoTies (documents : List (S × Nat)) : Prop :=
  ∀ left ∈ documents, ∀ right ∈ documents, left.1 = right.1 → left.2 = right.2

theorem insertionSort_eq_of_noTies {documents documents' : List (S × Nat)}
    (hperm : documents.Perm documents') (h : NoTies documents) :
    documents.insertionSort ByScore = documents'.insertionSort ByScore := by
  refine insertionSort_eq_of_perm hperm fun left hleft right hright hscore hscore' => ?_
  have hsame : left.1 = right.1 := le_antisymm hscore' hscore
  exact Prod.ext hsame (h left hleft right hright hsame)

/-! ## Positions -/

def ByScoreAt (left right : (S × Nat) × Nat) : Prop := ByScore left.1 right.1

instance : DecidableRel (ByScoreAt (S := S)) := fun left right =>
  inferInstanceAs (Decidable (ByScore left.1 right.1))

/-- By the score, and by the position where scores are equal. -/
def ByPosition (left right : (S × Nat) × Nat) : Prop :=
  right.1.1 < left.1.1 ∨ right.1.1 = left.1.1 ∧ left.2 ≤ right.2

instance : DecidableRel (ByPosition (S := S)) := fun left right =>
  inferInstanceAs (Decidable (right.1.1 < left.1.1 ∨ right.1.1 = left.1.1 ∧ left.2 ≤ right.2))

instance : Std.Total (ByPosition (S := S)) where
  total left right := by
    rcases lt_trichotomy right.1.1 left.1.1 with h | h | h
    · exact .inl (.inl h)
    · rcases le_total left.2 right.2 with hpos | hpos
      · exact .inl (.inr ⟨h, hpos⟩)
      · exact .inr (.inr ⟨h.symm, hpos⟩)
    · exact .inr (.inl h)

instance : IsTrans ((S × Nat) × Nat) ByPosition where
  trans left middle right hleft hright := by
    rcases hleft with hleft | ⟨hleft, hpos⟩
    · rcases hright with hright | ⟨hright, -⟩
      · exact .inl (lt_trans hright hleft)
      · exact .inl (hright ▸ hleft)
    · rcases hright with hright | ⟨hright, hpos'⟩
      · exact .inl (hleft ▸ hright)
      · exact .inr ⟨hright.trans hleft, le_trans hpos hpos'⟩

def ranking (documents : List (S × Nat)) : List ((S × Nat) × Nat) :=
  documents.zipIdx.insertionSort ByScoreAt

theorem map_ranking (documents : List (S × Nat)) :
    (ranking documents).map Prod.fst = documents.insertionSort ByScore := by
  rw [ranking, List.map_insertionSort ByScoreAt ByScore Prod.fst _ fun _ _ _ _ => Iff.rfl,
    List.zipIdx_map_fst]

theorem ranking_eq_byPosition (documents : List (S × Nat)) :
    ranking documents = documents.zipIdx.insertionSort ByPosition := by
  have hpositions : documents.zipIdx.Pairwise fun left right => left.2 < right.2 := by
    rw [← List.pairwise_map, List.zipIdx_map_snd]
    exact List.pairwise_lt_range'
  refine insertionSort_congr (hpositions.imp fun {left right} hpos =>
    ⟨fun hscore => ?_, fun horder => ?_⟩)
  · rcases lt_or_eq_of_le hscore with hlt | heq
    · exact .inl hlt
    · exact .inr ⟨heq, hpos.le⟩
  · rcases horder with hlt | ⟨heq, -⟩
    · exact le_of_lt hlt
    · exact le_of_eq heq

theorem pairwise_ranking (documents : List (S × Nat)) :
    (ranking documents).Pairwise ByPosition := by
  rw [ranking_eq_byPosition]
  exact List.pairwise_insertionSort ByPosition _

theorem perm_ranking (documents : List (S × Nat)) : (ranking documents).Perm documents.zipIdx :=
  List.perm_insertionSort ByScoreAt _

theorem nodup_ranking_positions (documents : List (S × Nat)) :
    ((ranking documents).map Prod.snd).Nodup := by
  rw [((perm_ranking documents).map Prod.snd).nodup_iff, List.zipIdx_map_snd]
  exact List.nodup_range'

/-- A list that is ordered by the positions, of the documents with their positions, is the
ranking. -/
theorem ranking_eq_of_perm {documents : List (S × Nat)} {entries : List ((S × Nat) × Nat)}
    (hperm : documents.zipIdx.Perm entries) (hsorted : entries.Pairwise ByPosition) :
    ranking documents = entries := by
  have hinj : ∀ left ∈ documents.zipIdx, ∀ right ∈ documents.zipIdx, left.2 = right.2 →
      left = right := by
    rintro ⟨left, i⟩ hleft ⟨right, j⟩ hright hij
    obtain rfl : i = j := hij
    have hi := List.mk_mem_zipIdx_iff_getElem?.mp hleft
    have hj := List.mk_mem_zipIdx_iff_getElem?.mp hright
    rw [Option.some.inj (hi.symm.trans hj)]
  rw [ranking_eq_byPosition]
  refine List.Perm.eq_of_pairwise (fun left right hleft hright horder horder' => ?_)
    (List.pairwise_insertionSort ByPosition _) hsorted
    ((List.perm_insertionSort ByPosition _).trans hperm)
  rw [List.mem_insertionSort] at hleft
  refine hinj left hleft right (hperm.mem_iff.mpr hright) ?_
  rcases horder with hlt | ⟨heq, hpos⟩
  · rcases horder' with hlt' | ⟨heq', -⟩
    · exact absurd hlt (lt_asymm hlt')
    · exact absurd heq' hlt.ne'
  · rcases horder' with hlt' | ⟨-, hpos'⟩
    · exact absurd heq hlt'.ne'
    · exact le_antisymm hpos hpos'

/-! ## Exchanged scores -/

def exchangeScores (scores : List S) (p q : Nat) : List S :=
  scores.mapIdx fun i score =>
    if i = p then scores[q]?.getD score else if i = q then scores[p]?.getD score else score

def RankedDirectlyBelow (scores : List S) (labels : List Nat) (p q : Nat) : Prop :=
  ∃ above below : List Nat,
    (ranking (scores.zip labels)).map Prod.snd = above ++ p :: q :: below

def rescore (a b : S) (p q : Nat) (entry : (S × Nat) × Nat) : (S × Nat) × Nat :=
  ((if entry.2 = p then a else if entry.2 = q then b else entry.1.1, entry.1.2), entry.2)

omit [LinearOrder S] in
theorem exchangeScores_of_eq {scores : List S} {p q : Nat} {a : S} (hp : scores[p]? = some a)
    (hq : scores[q]? = some a) : exchangeScores scores p q = scores := by
  refine List.ext_getElem? fun i => ?_
  simp only [exchangeScores, List.getElem?_mapIdx, hp, hq, Option.getD_some]
  by_cases hip : i = p
  · simp [hip, hp]
  · by_cases hiq : i = q
    · simp [hiq, hq]
    · simp [hip, hiq]

omit [LinearOrder S] in
theorem zipIdx_exchangeScores {scores : List S} {labels : List Nat} {p q : Nat} {a b : S}
    (hp : scores[p]? = some a) (hq : scores[q]? = some b) :
    ((exchangeScores scores p q).zip labels).zipIdx =
      (scores.zip labels).zipIdx.map (rescore b a p q) := by
  refine List.ext_getElem? fun i => ?_
  simp only [exchangeScores, List.getElem?_map, List.getElem?_zipIdx, List.zip,
    List.getElem?_zipWith, List.getElem?_mapIdx, hp, hq, Option.getD_some]
  cases scores[i]? with
  | none => rfl
  | some score =>
    cases labels[i]? with
    | none => rfl
    | some label => simp [rescore]

theorem rankedLabels_eq (scores : List S) (labels : List Nat) :
    rankedLabels scores labels = (ranking (scores.zip labels)).map fun entry => entry.1.2 := by
  rw [rankedLabels, ← map_ranking, List.map_map]
  rfl

theorem entry_of_position {scores : List S} {labels : List Nat} {entry : (S × Nat) × Nat}
    (h : entry ∈ ranking (scores.zip labels)) :
    scores[entry.2]? = some entry.1.1 ∧ labels[entry.2]? = some entry.1.2 := by
  rw [(perm_ranking _).mem_iff] at h
  exact List.getElem?_zip_eq_some.mp (List.mk_mem_zipIdx_iff_getElem?.mp h)

theorem exists_parts {scores : List S} {labels : List Nat} {p q : Nat}
    (hp : labels[p]? = some 0) (hq : labels[q]? = some 1)
    (h : RankedDirectlyBelow scores labels p q) :
    ∃ (a b : S) (above below : List ((S × Nat) × Nat)),
      ranking (scores.zip labels) = above ++ ((a, 0), p) :: ((b, 1), q) :: below ∧
      scores[p]? = some a ∧ scores[q]? = some b := by
  obtain ⟨above, below, h⟩ := h
  obtain ⟨above, rest, hranking, -, hrest⟩ := List.map_eq_append_iff.mp h
  obtain ⟨⟨⟨a, label⟩, i⟩, rest, rfl, hi, hrest⟩ := List.map_eq_cons_iff.mp hrest
  obtain ⟨⟨⟨b, label'⟩, j⟩, below, rfl, hj, -⟩ := List.map_eq_cons_iff.mp hrest
  obtain rfl : i = p := hi
  obtain rfl : j = q := hj
  have hentries : ((a, label), i) ∈ ranking (scores.zip labels) ∧
      ((b, label'), j) ∈ ranking (scores.zip labels) := by
    rw [hranking]
    simp
  obtain ⟨ha, hlabel⟩ := entry_of_position hentries.1
  obtain ⟨hb, hlabel'⟩ := entry_of_position hentries.2
  obtain rfl := Option.some.inj (hp.symm.trans hlabel)
  obtain rfl := Option.some.inj (hq.symm.trans hlabel')
  exact ⟨a, b, above, below, hranking, ha, hb⟩

omit [LinearOrder S] in
theorem map_rescore_eq_self {a b : S} {p q : Nat} {entries : List ((S × Nat) × Nat)}
    (hp : p ∉ entries.map Prod.snd) (hq : q ∉ entries.map Prod.snd) :
    entries.map (rescore a b p q) = entries := by
  have hsame : ∀ entry ∈ entries, rescore a b p q entry = id entry := by
    intro entry hentry
    have hpos := List.mem_map_of_mem (f := Prod.snd) hentry
    have hnep : entry.2 ≠ p := fun heq => hp (heq ▸ hpos)
    have hneq : entry.2 ≠ q := fun heq => hq (heq ▸ hpos)
    rw [rescore, if_neg hnep, if_neg hneq]
    rfl
  rw [List.map_congr_left hsame, List.map_id]

section Exchange

variable {scores : List S} {labels : List Nat} {p q : Nat} {a b : S}
  {above below : List ((S × Nat) × Nat)}

theorem perm_exchanged
    (hranking : ranking (scores.zip labels) = above ++ ((a, 0), p) :: ((b, 1), q) :: below)
    (ha : scores[p]? = some a) (hb : scores[q]? = some b) :
    ((exchangeScores scores p q).zip labels).zipIdx.Perm
      (((b, 0), p) :: ((a, 1), q) :: (above ++ below)) := by
  have hnodup := nodup_ranking_positions (scores.zip labels)
  rw [hranking] at hnodup
  simp only [List.map_append, List.map_cons, List.nodup_append, List.nodup_cons,
    List.mem_cons, not_or] at hnodup
  obtain ⟨-, ⟨⟨hpq, hpbelow⟩, hqbelow, -⟩, hdisjoint⟩ := hnodup
  have hpabove : p ∉ above.map Prod.snd := fun hmem =>
    hdisjoint p hmem p (.inl rfl) rfl
  have hqabove : q ∉ above.map Prod.snd := fun hmem =>
    hdisjoint q hmem q (.inr (.inl rfl)) rfl
  have hmapped : ((scores.zip labels).zipIdx.map (rescore b a p q)).Perm
      (above ++ ((b, 0), p) :: ((a, 1), q) :: below) := by
    have hperm := (perm_ranking (scores.zip labels)).symm.map (rescore b a p q)
    rw [hranking, List.map_append, List.map_cons, List.map_cons,
      map_rescore_eq_self hpabove hqabove, map_rescore_eq_self hpbelow hqbelow] at hperm
    have hp' : rescore b a p q ((a, 0), p) = ((b, 0), p) := by simp [rescore]
    have hq' : rescore b a p q ((b, 1), q) = ((a, 1), q) := by
      simp [rescore, Ne.symm hpq]
    rwa [hp', hq'] at hperm
  rw [zipIdx_exchangeScores ha hb]
  refine hmapped.trans (List.perm_middle.trans (List.Perm.cons _ List.perm_middle))

theorem ranking_exchanged
    (hranking : ranking (scores.zip labels) = above ++ ((a, 0), p) :: ((b, 1), q) :: below)
    (ha : scores[p]? = some a) (hb : scores[q]? = some b) (hlt : b < a) :
    ∃ u u' v v', above = u ++ u' ∧ below = v ++ v' ∧
      ranking ((exchangeScores scores p q).zip labels) =
        u ++ ((a, 1), q) :: (u' ++ (v ++ ((b, 0), p) :: v')) := by
  have hsorted := pairwise_ranking (scores.zip labels)
  rw [hranking] at hsorted
  obtain ⟨habove, hrest, hcross⟩ := List.pairwise_append.mp hsorted
  obtain ⟨-, hrest⟩ := List.pairwise_cons.mp hrest
  obtain ⟨hbehind, hbelow⟩ := List.pairwise_cons.mp hrest
  have hrest : (above ++ below).Pairwise ByPosition := List.pairwise_append.mpr
    ⟨habove, hbelow, fun left hleft right hright =>
      hcross left hleft right (List.mem_cons_of_mem _ (List.mem_cons_of_mem _ hright))⟩
  -- what is below has a score of at most `b`, what is above one of at least `a`
  have hbefore : ∀ entry ∈ below, ByPosition ((a, 1), q) entry := by
    intro entry hentry
    rcases hbehind entry hentry with hscore | ⟨hscore, -⟩
    · exact .inl (lt_trans hscore hlt)
    · exact .inl (lt_of_eq_of_lt hscore hlt)
  have hgreater : ∀ entry ∈ above, b < entry.1.1 := by
    intro entry hentry
    rcases hcross entry hentry ((a, 0), p) List.mem_cons_self with hscore | ⟨hscore, -⟩
    · exact lt_trans hlt hscore
    · exact lt_of_lt_of_eq hlt hscore
  obtain ⟨u, u', hu, hinsert⟩ := orderedInsert_append_left above hbefore
  have hnot : ∀ entry ∈ u ++ ((a, 1), q) :: u', ¬ ByPosition ((b, 0), p) entry := by
    intro entry hentry
    have hscore : b < entry.1.1 := by
      rcases List.mem_append.mp hentry with hmem | hmem
      · exact hgreater entry (hu ▸ List.mem_append_left u' hmem)
      · rcases List.mem_cons.mp hmem with rfl | hmem
        · exact hlt
        · exact hgreater entry (hu ▸ List.mem_append_right u hmem)
    rintro (hlt' | ⟨heq, -⟩)
    · exact lt_asymm hscore hlt'
    · exact hscore.ne' heq
  obtain ⟨v, v', hv, hinsert'⟩ := orderedInsert_append_right below hnot
  refine ⟨u, u', v, v', hu, hv, ?_⟩
  have hentries : (((above ++ below).orderedInsert ByPosition ((a, 1), q)).orderedInsert ByPosition
      ((b, 0), p)) = u ++ ((a, 1), q) :: (u' ++ (v ++ ((b, 0), p) :: v')) := by
    have hassoc : u ++ ((a, 1), q) :: (u' ++ below) = (u ++ ((a, 1), q) :: u') ++ below := by simp
    rw [hinsert, hassoc, hinsert']
    simp
  rw [← hentries]
  refine ranking_eq_of_perm ?_ ?_
  · refine (perm_exchanged hranking ha hb).trans ?_
    refine ((List.perm_orderedInsert ByPosition _ _).trans (List.Perm.cons _ ?_)).symm
    exact List.perm_orderedInsert ByPosition _ _
  · exact (hrest.orderedInsert _ _).orderedInsert _ _

end Exchange

/-- A positive that takes over the score of the negative directly above it comes to the front of the
positives and negatives in between. -/
theorem ahead_exchangeScores {scores : List S} {labels : List Nat} {p q : Nat}
    (hp : labels[p]? = some 0) (hq : labels[q]? = some 1)
    (h : RankedDirectlyBelow scores labels p q) :
    Ahead (hitsOf (rankedLabels scores labels))
      (hitsOf (rankedLabels (exchangeScores scores p q) labels)) := by
  obtain ⟨a, b, above, below, hranking, ha, hb⟩ := exists_parts hp hq h
  have hle : b ≤ a := by
    have hsorted := pairwise_ranking (scores.zip labels)
    rw [hranking] at hsorted
    have hpair := (List.pairwise_cons.mp (List.pairwise_append.mp hsorted).2.1).1 _
      List.mem_cons_self
    rcases hpair with hlt | ⟨heq, -⟩
    · exact hlt.le
    · exact heq.le
  rcases lt_or_eq_of_le hle with hlt | rfl
  · obtain ⟨u, u', v, v', hu, hv, hranking'⟩ := ranking_exchanged hranking ha hb hlt
    rw [rankedLabels_eq, rankedLabels_eq, hranking, hranking', hu, hv]
    simp only [hitsOf, List.map_append, List.map_cons]
    exact ahead_exchange _ _ _ _
  · rw [exchangeScores_of_eq ha hb]

end DeepEvaluation
