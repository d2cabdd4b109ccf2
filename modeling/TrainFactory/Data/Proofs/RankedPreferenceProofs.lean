import Mathlib.Data.List.ReduceOption
import TrainFactory.Data.RankedPreference
import TrainFactory.Lib.Result

/-!
# The direction of ranked preferences

The pair of the best and the worst response is ordered by the direction of the usable scores. It
keeps the direction of the sample where the complete list of rankings has the same one.
-/

namespace Preprocessing

open Lib

variable {F : Type} [LinearOrder F] {py : ScoreReader F}

/-! ## Best and worst -/

instance (higherIsBetter : Bool) : Std.Total (RankedBefore (F := F) higherIsBetter) where
  total left right := by
    cases higherIsBetter with
    | true => exact le_total right.2.place left.2.place
    | false => exact le_total left.2.place right.2.place

instance (higherIsBetter : Bool) : IsTrans (String × Score F) (RankedBefore higherIsBetter) where
  trans left middle right hleft hright := by
    cases higherIsBetter with
    | true => exact le_trans (b := middle.2.place) hright hleft
    | false => exact le_trans (b := middle.2.place) hleft hright

theorem Score.lt_iff {left right : Score F} :
    left < right ↔ left ≠ .nan ∧ right ≠ .nan ∧ left.place < right.place := by
  cases left with
  | nan => exact iff_of_false id fun h => h.1 rfl
  | number x =>
    cases right with
    | nan => exact iff_of_false id fun h => h.2.1 rfl
    | number y =>
      refine Iff.trans (WithBot.coe_lt_coe (a := x) (b := y)).symm ?_
      simp [Score.place]

theorem not_isPreferred_of_rankedBefore {higherIsBetter : Bool} {left right : String × Score F}
    (h : RankedBefore higherIsBetter left right) :
    ¬ IsPreferred higherIsBetter right.2 left.2 := by
  cases higherIsBetter with
  | true => exact fun hlt => not_lt.mpr h (Score.lt_iff.mp hlt).2.2
  | false => exact fun hlt => not_lt.mpr h (Score.lt_iff.mp hlt).2.2

theorem IsPreferred.ne {higherIsBetter : Bool} {left right : Score F}
    (h : IsPreferred higherIsBetter left right) : left ≠ right := by
  rintro rfl
  cases higherIsBetter with
  | true => exact lt_irrefl _ (Score.lt_iff.mp h).2.2
  | false => exact lt_irrefl _ (Score.lt_iff.mp h).2.2

theorem IsPreferred.direction_unique {higherIsBetter higherIsBetter' : Bool}
    {left right : Score F} (h : IsPreferred higherIsBetter left right)
    (h' : IsPreferred higherIsBetter' left right) : higherIsBetter = higherIsBetter' := by
  cases higherIsBetter with
  | true =>
    cases higherIsBetter' with
    | true => rfl
    | false => exact absurd (Score.lt_iff.mp h').2.2 (lt_asymm (Score.lt_iff.mp h).2.2)
  | false =>
    cases higherIsBetter' with
    | true => exact absurd (Score.lt_iff.mp h').2.2 (lt_asymm (Score.lt_iff.mp h).2.2)
    | false => rfl

theorem isPreferred_best_worst {higherIsBetter : Bool} {pairs : List (String × Score F)}
    {best worst a b : String × Score F} (hnan : ∀ e ∈ pairs, e.2 ≠ .nan)
    (hbest_mem : best ∈ pairs) (hworst_mem : worst ∈ pairs)
    (hbest : ∀ e ∈ pairs, RankedBefore higherIsBetter best e)
    (hworst : ∀ e ∈ pairs, RankedBefore higherIsBetter e worst) (ha : a ∈ pairs) (hb : b ∈ pairs)
    (hab : a.2.place < b.2.place) : IsPreferred higherIsBetter best.2 worst.2 := by
  have hbestNumber := hnan best hbest_mem
  have hworstNumber := hnan worst hworst_mem
  cases higherIsBetter with
  | true =>
    exact Score.lt_iff.mpr ⟨hworstNumber, hbestNumber,
      lt_of_le_of_lt (hworst a ha) (lt_of_lt_of_le hab (hbest b hb))⟩
  | false =>
    exact Score.lt_iff.mpr ⟨hbestNumber, hworstNumber,
      lt_of_le_of_lt (hbest a ha) (lt_of_lt_of_le hab (hworst b hb))⟩

/-! ## Samples -/

def responsesOf (sample : Value) : List Value :=
  match sample.getD "responses" (.arr []) with
  | .arr responses => responses
  | _ => []

/-- The complete list of rankings of a sample. -/
def rankingsOf (sample : Value) : List Value :=
  match sample.getD "rankings" (.arr []) with
  | .arr rankings => rankings
  | _ => []

/-- The responses of a sample with their rankings. -/
def entriesOf (sample : Value) : List (Value × Value) := (responsesOf sample).zip (rankingsOf sample)

/-- The usable responses of a sample, with their scores. -/
def usableOf (py : ScoreReader F) (sample : Value) : List (String × Score F) :=
  (validPairs py (responsesOf sample) (rankingsOf sample)).getD []

/-- What is known of a sample that has been accepted. -/
structure Accepted (py : ScoreReader F) (sample : Value) (prompt : Value) : Prop where
  prompt_eq : sample.get? "prompt" = some prompt
  responses_eq : sample.get? "responses" = some (.arr (responsesOf sample))
  rankings_eq : sample.get? "rankings" = some (.arr (rankingsOf sample))
  valid : validPairs py (responsesOf sample) (rankingsOf sample) = some (usableOf py sample)
  two : 2 ≤ (usableOf py sample).length
  differ : ∃ a ∈ usableOf py sample, ∃ b ∈ usableOf py sample, a.2 < b.2
  /-- No usable score is NaN. -/
  numbers : ∀ e ∈ usableOf py sample, e.2 ≠ .nan

omit [LinearOrder F] in
theorem mem_of_foldl {r : Score F → Score F → Prop} [DecidableRel r] (scores : List (Score F))
    (score : Score F) :
    scores.foldl (fun best x => if r x best then x else best) score ∈ score :: scores := by
  induction scores generalizing score with
  | nil => simp
  | cons x scores ih =>
    rw [List.foldl_cons]
    have hmem := ih (if r x score then x else score)
    split at hmem <;> simp only [List.mem_cons] at hmem ⊢ <;> grind

/-- Scores differ only if one of them is less than another. -/
theorem exists_lt_of_scoresDiffer {scores : List (Score F)} (h : scoresDiffer scores = true) :
    ∃ a ∈ scores, ∃ b ∈ scores, a < b := by
  cases scores with
  | nil => cases h
  | cons score scores =>
    exact ⟨_, mem_of_foldl (r := fun x least => x < least) scores score, _,
      mem_of_foldl (r := fun x greatest => greatest < x) scores score, of_decide_eq_true h⟩

theorem get?_of_getD_arr {sample : Value} {key : String} {xs : List Value}
    (h : sample.getD key (.arr []) = .arr xs) (hne : 2 ≤ xs.length) :
    sample.get? key = some (.arr xs) := by
  rw [Value.getD] at h
  cases hget : sample.get? key with
  | none =>
    rw [hget] at h
    obtain rfl := Value.arr.inj h
    exact absurd hne (by decide)
  | some value =>
    rw [hget] at h
    exact congrArg some h

theorem accepted_of_validateRanked {sample : Value} (h : validateRanked py sample = true)
    (hnumbers : ∀ e ∈ usableOf py sample, e.2 ≠ .nan) :
    ∃ prompt, Accepted py sample prompt := by
  rw [validateRanked] at h
  split at h
  · cases h
  rename_i hprompt
  split at h
  · rename_i responses rankings hresponses hrankings
    split at h
    · cases h
    rename_i hlengths
    rw [not_or, not_lt, not_not] at hlengths
    split at h
    · cases h
    rename_i validPairs hvalid
    split at h
    · cases h
    rename_i htwo
    have hresponsesOf : responsesOf sample = responses := by rw [responsesOf, hresponses]
    have hrankingsOf : rankingsOf sample = rankings := by rw [rankingsOf, hrankings]
    have husable : usableOf py sample = validPairs := by
      rw [usableOf, hresponsesOf, hrankingsOf, hvalid, Option.getD_some]
    obtain ⟨prompt, hget⟩ : ∃ prompt, sample.get? "prompt" = some prompt := by
      rw [← Option.ne_none_iff_exists']
      intro hnone
      rw [Value.getD, hnone, Option.getD_none] at hprompt
      exact hprompt rfl
    refine ⟨prompt, hget, ?_, ?_, ?_, ?_, ?_, hnumbers⟩
    · rw [hresponsesOf]
      exact get?_of_getD_arr hresponses hlengths.1
    · rw [hrankingsOf]
      exact get?_of_getD_arr hrankings (hlengths.2 ▸ hlengths.1)
    · rw [hresponsesOf, hrankingsOf, husable, hvalid]
    · rw [husable]
      exact not_lt.mp htwo
    · rw [husable]
      obtain ⟨_, ha, _, hb, hab⟩ := exists_lt_of_scoresDiffer h
      obtain ⟨a, hmema, rfl⟩ := List.mem_map.mp ha
      obtain ⟨b, hmemb, rfl⟩ := List.mem_map.mp hb
      exact ⟨a, hmema, b, hmemb, hab⟩
  · cases h

/-! ## The produced pair -/

def usableDirection (py : ScoreReader F) (sample : Value) : Bool :=
  inferHigherIsBetter py ((usableOf py sample).map Prod.snd)

theorem preprocessRanked_eq {sample prompt : Value} (h : Accepted py sample prompt) :
    ∃ best worst,
      firstOfLeast (RankedBefore (usableDirection py sample)) (usableOf py sample) = some best ∧
      lastOfGreatest (RankedBefore (usableDirection py sample)) (usableOf py sample) = some worst ∧
      preprocessRanked py .auto sample =
        some ⟨normalizeText py.str prompt, best.1, worst.1, best.2, worst.2⟩ := by
  have hne : (usableOf py sample).insertionSort (RankedBefore (usableDirection py sample)) ≠ [] := by
    intro hnil
    have htwo := h.two
    rw [eq_nil_of_insertionSort hnil] at htwo
    cases htwo
  obtain ⟨best, hbest⟩ := Option.ne_none_iff_exists'.mp (mt List.head?_eq_none_iff.mp hne)
  obtain ⟨worst, hworst⟩ := Option.ne_none_iff_exists'.mp (mt List.getLast?_eq_none_iff.mp hne)
  refine ⟨best, worst, ?_, ?_, ?_⟩
  · rw [← head?_insertionSort, hbest]
  · rw [← getLast?_insertionSort, hworst]
  · rw [preprocessRanked, h.prompt_eq, h.responses_eq, h.rankings_eq]
    dsimp only
    rw [h.valid]
    dsimp only
    rw [if_neg (not_lt.mpr h.two), sortRankedPreferencePairs, resolveHigherIsBetter,
      py.sorted_eq _ _ h.numbers, ← usableDirection, hbest, hworst]

/-! ## All pairs -/

/-- All responses of a sample are usable. -/
def AllUsable (py : ScoreReader F) (sample : Value) : Prop :=
  ∀ entry ∈ entriesOf sample, ∃ e, usablePair py entry = some (some e)

/-- A pair of `parse_all_pairs`, as it is read. -/
def PreferenceSample.read (py : ScoreReader F) (raw : PreferenceSample) : Option (Preference F) :=
  match extractScore py raw.chosenScore, extractScore py raw.rejectedScore with
  | some (some chosenScore), some (some rejectedScore) =>
    some ⟨normalizeText py.str raw.prompt, normalizeText py.str raw.chosen,
      normalizeText py.str raw.rejected, chosenScore, rejectedScore⟩
  | _, _ => none

theorem parseAllPairs_eq {sample prompt : Value} {higherIsBetter : Bool}
    (h : Accepted py sample prompt)
    (hinfer : inferRankingsHigherIsBetter py (rankingsOf sample) = some higherIsBetter) :
    parseAllPairs py .auto sample =
      ((entriesOf sample).zipIdx.mapM fun entry =>
        pairsWith prompt higherIsBetter (entriesOf sample) entry.2 entry.1).map List.flatten := by
  rw [parseAllPairs, h.prompt_eq, h.responses_eq, h.rankings_eq]
  dsimp only
  rw [resolveRankingsHigherIsBetter, hinfer]
  rfl

theorem pairOf_eq_some {prompt : Value} {higherIsBetter : Bool} {left right : Value × Value}
    {raw : PreferenceSample} :
    pairOf prompt higherIsBetter left right = some (some raw) ↔
      isPreferredRanking higherIsBetter left.2 right.2 = some true ∧
        raw = ⟨prompt, left.1, right.1, left.2, right.2⟩ := by
  rw [pairOf]
  cases isPreferredRanking higherIsBetter left.2 right.2 with
  | none => simp
  | some preferred => cases preferred <;> simp [eq_comm]

theorem mem_pairsWith {prompt : Value} {higherIsBetter : Bool} {entries : List (Value × Value)}
    {i : Nat} {left : Value × Value} {pairs : List PreferenceSample}
    (h : pairsWith prompt higherIsBetter entries i left = some pairs) {raw : PreferenceSample} :
    raw ∈ pairs ↔ ∃ (j : Nat) (right : Value × Value), entries[j]? = some right ∧ i ≠ j ∧
      isPreferredRanking higherIsBetter left.2 right.2 = some true ∧
      raw = ⟨prompt, left.1, right.1, left.2, right.2⟩ := by
  rw [pairsWith, Option.map_eq_some_iff] at h
  obtain ⟨found, hfound, rfl⟩ := h
  rw [List.reduceOption_mem_iff, mem_of_mapM_eq_some hfound]
  constructor
  · rintro ⟨⟨right, j⟩, hmem, hpair⟩
    by_cases hij : i = j
    · rw [if_neg (not_not.mpr hij)] at hpair
      cases hpair
    · rw [if_pos hij] at hpair
      exact ⟨j, right, List.mk_mem_zipIdx_iff_getElem?.mp hmem, hij, pairOf_eq_some.mp hpair⟩
  · rintro ⟨j, right, hright, hij, hpair⟩
    refine ⟨(right, j), List.mk_mem_zipIdx_iff_getElem?.mpr hright, ?_⟩
    rw [if_pos hij]
    exact pairOf_eq_some.mpr hpair

/-- No comparison of two rankings raises. -/
def ComparesAll (higherIsBetter : Bool) (entries : List (Value × Value)) : Prop :=
  ∀ (i j : Nat) (left right : Value × Value), entries[i]? = some left → entries[j]? = some right →
    i ≠ j → ∃ preferred, isPreferredRanking higherIsBetter left.2 right.2 = some preferred

theorem exists_pairsWith_iff {prompt : Value} {higherIsBetter : Bool}
    {entries : List (Value × Value)} {i : Nat} {left : Value × Value} :
    (∃ pairs, pairsWith prompt higherIsBetter entries i left = some pairs) ↔
      ∀ (j : Nat) (right : Value × Value), entries[j]? = some right → i ≠ j →
        ∃ preferred, isPreferredRanking higherIsBetter left.2 right.2 = some preferred := by
  have hfound : (∃ pairs, pairsWith prompt higherIsBetter entries i left = some pairs) ↔
      ∃ found, (entries.zipIdx.mapM fun entry =>
        if i ≠ entry.2 then pairOf prompt higherIsBetter left entry.1 else some none) =
          some found := by
    simp only [pairsWith, Option.map_eq_some_iff]
    exact ⟨fun ⟨_, found, hfound, _⟩ => ⟨found, hfound⟩,
      fun ⟨found, hfound⟩ => ⟨_, found, hfound, rfl⟩⟩
  rw [hfound, exists_mapM_eq_some]
  constructor
  · intro h j right hright hij
    obtain ⟨pair, hpair⟩ := h (right, j) (List.mk_mem_zipIdx_iff_getElem?.mpr hright)
    rw [if_pos hij, pairOf, Option.map_eq_some_iff] at hpair
    obtain ⟨preferred, hpreferred, -⟩ := hpair
    exact ⟨preferred, hpreferred⟩
  · rintro h ⟨right, j⟩ hmem
    by_cases hij : i = j
    · exact ⟨none, if_neg (not_not.mpr hij)⟩
    · obtain ⟨preferred, hpreferred⟩ := h j right (List.mk_mem_zipIdx_iff_getElem?.mp hmem) hij
      exact ⟨_, by rw [if_pos hij, pairOf, hpreferred, Option.map_some]⟩

/-- What `parse_all_pairs` returns, where no comparison raises. -/
theorem mem_parseAllPairs {sample prompt : Value} {higherIsBetter : Bool} {raw : PreferenceSample}
    (h : Accepted py sample prompt)
    (hinfer : inferRankingsHigherIsBetter py (rankingsOf sample) = some higherIsBetter) :
    (∃ pairs, parseAllPairs py .auto sample = some pairs ∧ raw ∈ pairs) ↔
      ComparesAll higherIsBetter (entriesOf sample) ∧
        ∃ (i j : Nat) (left right : Value × Value), (entriesOf sample)[i]? = some left ∧
          (entriesOf sample)[j]? = some right ∧ i ≠ j ∧
          isPreferredRanking higherIsBetter left.2 right.2 = some true ∧
          raw = ⟨prompt, left.1, right.1, left.2, right.2⟩ := by
  rw [parseAllPairs_eq h hinfer]
  constructor
  · rintro ⟨pairs, hpairs, hraw⟩
    rw [Option.map_eq_some_iff] at hpairs
    obtain ⟨found, hfound, rfl⟩ := hpairs
    constructor
    · intro i j left right hleft hright hij
      have hrow := exists_mapM_eq_some.mp ⟨found, hfound⟩ (left, i)
        (List.mk_mem_zipIdx_iff_getElem?.mpr hleft)
      exact exists_pairsWith_iff.mp hrow j right hright hij
    · obtain ⟨row, hrow, hmem⟩ := List.mem_flatten.mp hraw
      obtain ⟨⟨left, i⟩, hleft, hrow⟩ := (mem_of_mapM_eq_some hfound).mp hrow
      obtain ⟨j, right, hright, hij, hpreferred, hraw⟩ := (mem_pairsWith hrow).mp hmem
      exact ⟨i, j, left, right, List.mk_mem_zipIdx_iff_getElem?.mp hleft, hright, hij, hpreferred,
        hraw⟩
  · rintro ⟨hall, i, j, left, right, hleft, hright, hij, hpreferred, hraw⟩
    obtain ⟨found, hfound⟩ : ∃ found, ((entriesOf sample).zipIdx.mapM fun entry =>
        pairsWith prompt higherIsBetter (entriesOf sample) entry.2 entry.1) = some found := by
      refine exists_mapM_eq_some.mpr fun entry hentry => ?_
      have hentry' := List.mk_mem_zipIdx_iff_getElem?.mp hentry
      exact exists_pairsWith_iff.mpr fun j right hright hij =>
        hall entry.2 j entry.1 right hentry' hright hij
    obtain ⟨row, hrow, hpairs⟩ : ∃ row ∈ found,
        pairsWith prompt higherIsBetter (entriesOf sample) i left = some row := by
      obtain ⟨row, hrow⟩ := exists_mapM_eq_some.mp ⟨found, hfound⟩ (left, i)
        (List.mk_mem_zipIdx_iff_getElem?.mpr hleft)
      exact ⟨row, (mem_of_mapM_eq_some hfound).mpr
        ⟨(left, i), List.mk_mem_zipIdx_iff_getElem?.mpr hleft, hrow⟩, hrow⟩
    refine ⟨found.flatten, by rw [hfound, Option.map_some], List.mem_flatten.mpr ⟨row, hrow, ?_⟩⟩
    exact (mem_pairsWith hpairs).mpr ⟨j, right, hright, hij, hpreferred, hraw⟩

/-! ## The direction -/

/-- A pair is best against worst of the usable responses, under a direction. -/
structure IsBestAgainstWorst (higherIsBetter : Bool) (usable : List (String × Score F))
    (pair : Preference F) : Prop where
  preferred : IsPreferred higherIsBetter pair.chosenScore pair.rejectedScore
  chosen_mem : (pair.chosen, pair.chosenScore) ∈ usable
  rejected_mem : (pair.rejected, pair.rejectedScore) ∈ usable
  best : ∀ e ∈ usable, ¬ IsPreferred higherIsBetter e.2 pair.chosenScore
  worst : ∀ e ∈ usable, ¬ IsPreferred higherIsBetter pair.rejectedScore e.2

/-- The pair that a sample is turned into keeps the direction of its complete list of rankings.
Where all responses are usable, it is one of all pairs. -/
def KeepsDirection (py : ScoreReader F) (sample : Value) : Prop :=
  ∃ (pair : Preference F) (higherIsBetter : Bool),
    preprocessRanked py .auto sample = some pair ∧
    inferRankingsHigherIsBetter py (rankingsOf sample) = some higherIsBetter ∧
    IsBestAgainstWorst higherIsBetter (usableOf py sample) pair ∧
    (AllUsable py sample → ∃ pairs, parseAllPairs py .auto sample = some pairs ∧
      ∃ raw ∈ pairs, raw.read py = some pair)

/-- The rankings, compared as they are given, order a best response before a worst one. -/
def RanksAlike (py : ScoreReader F) (sample : Value) : Prop :=
  ComparesAll (usableDirection py sample) (entriesOf sample) ∧
  ∃ best worst,
    firstOfLeast (RankedBefore (usableDirection py sample)) (usableOf py sample) = some best ∧
    lastOfGreatest (RankedBefore (usableDirection py sample)) (usableOf py sample) = some worst ∧
    ∃ left ∈ entriesOf sample, ∃ right ∈ entriesOf sample,
      usablePair py left = some (some best) ∧ usablePair py right = some (some worst) ∧
      isPreferredRanking (usableDirection py sample) left.2 right.2 = some true

theorem usablePair_eq_some {entry : Value × Value} {e : String × Score F} :
    usablePair py entry = some (some e) ↔
      extractScore py entry.2 = some (some e.2) ∧ normalizeText py.str entry.1 = e.1 ∧
        e.1 ≠ "" := by
  rw [usablePair]
  cases extractScore py entry.2 with
  | none => simp
  | some score =>
    rw [Option.map_some, Option.some.injEq]
    by_cases htext : normalizeText py.str entry.1 = ""
    · rw [if_neg (not_not.mpr htext)]
      refine iff_of_false (Option.some_ne_none e).symm ?_
      rintro ⟨-, heq, hne⟩
      exact hne (heq.symm.trans htext)
    · rw [if_pos htext]
      cases score with
      | none => simp
      | some score =>
        obtain ⟨text, score'⟩ := e
        rw [Option.map_some, Option.some.injEq, Prod.mk.injEq]
        constructor
        · rintro ⟨rfl, rfl⟩
          exact ⟨rfl, rfl, htext⟩
        · rintro ⟨hscore, htext', -⟩
          exact ⟨htext', Option.some.inj (Option.some.inj hscore)⟩

theorem read_eq_some {raw : PreferenceSample} {pair : Preference F} :
    raw.read py = some pair ↔
      extractScore py raw.chosenScore = some (some pair.chosenScore) ∧
      extractScore py raw.rejectedScore = some (some pair.rejectedScore) ∧
      normalizeText py.str raw.prompt = pair.prompt ∧
      normalizeText py.str raw.chosen = pair.chosen ∧
      normalizeText py.str raw.rejected = pair.rejected := by
  obtain ⟨prompt, chosen, rejected, chosenScore, rejectedScore⟩ := pair
  rw [PreferenceSample.read]
  constructor
  · intro h
    split at h
    · rename_i score score' hscore hscore'
      simp only [Option.some.injEq, Preference.mk.injEq] at h
      obtain ⟨hprompt, hchosen, hrejected, rfl, rfl⟩ := h
      exact ⟨hscore, hscore', hprompt, hchosen, hrejected⟩
    · cases h
  · rintro ⟨hscore, hscore', rfl, rfl, rfl⟩
    dsimp only at hscore hscore'
    rw [hscore, hscore']

theorem exists_entry_of_mem_usable {sample prompt : Value} (h : Accepted py sample prompt)
    {e : String × Score F} (he : e ∈ usableOf py sample) :
    ∃ entry ∈ entriesOf sample, usablePair py entry = some (some e) := by
  have hvalid := h.valid
  rw [validPairs, Option.map_eq_some_iff] at hvalid
  obtain ⟨found, hfound, hreduced⟩ := hvalid
  rw [← hreduced, List.reduceOption_mem_iff, mem_of_mapM_eq_some hfound] at he
  exact he

/-- The pair of an accepted sample is best against worst, under the direction of the usable
scores. -/
theorem isBestAgainstWorst_usableDirection {sample prompt : Value} (h : Accepted py sample prompt)
    {best worst : String × Score F}
    (hbest : firstOfLeast (RankedBefore (usableDirection py sample)) (usableOf py sample) = some best)
    (hworst : lastOfGreatest (RankedBefore (usableDirection py sample)) (usableOf py sample) =
      some worst) (text : String) :
    IsBestAgainstWorst (usableDirection py sample) (usableOf py sample)
      ⟨text, best.1, worst.1, best.2, worst.2⟩ := by
  obtain ⟨hbest_mem, hbest⟩ := firstOfLeast_spec hbest
  obtain ⟨hworst_mem, hworst⟩ := lastOfGreatest_spec hworst
  obtain ⟨a, ha, b, hb, hab⟩ := h.differ
  exact
    { preferred := isPreferred_best_worst h.numbers hbest_mem hworst_mem hbest hworst ha hb
        (Score.lt_iff.mp hab).2.2
      chosen_mem := hbest_mem
      rejected_mem := hworst_mem
      best := fun e he => not_isPreferred_of_rankedBefore (hbest e he)
      worst := fun e he => not_isPreferred_of_rankedBefore (hworst e he) }

/-- The pair is one of all pairs exactly if the rankings order the responses alike. -/
theorem exists_read_iff_ranksAlike {sample prompt : Value} (h : Accepted py sample prompt)
    (hinfer : inferRankingsHigherIsBetter py (rankingsOf sample) =
      some (usableDirection py sample)) {pair : Preference F}
    (hpair : preprocessRanked py .auto sample = some pair) :
    (∃ pairs, parseAllPairs py .auto sample = some pairs ∧ ∃ raw ∈ pairs, raw.read py = some pair) ↔
      RanksAlike py sample := by
  obtain ⟨best, worst, hbest, hworst, hpair'⟩ := preprocessRanked_eq h
  obtain rfl : _ = pair := Option.some.inj (hpair'.symm.trans hpair)
  constructor
  · rintro ⟨pairs, hpairs, raw, hraw, hread⟩
    obtain ⟨hcompares, i, j, left, right, hleft, hright, -, hpreferred, rfl⟩ :=
      (mem_parseAllPairs h hinfer).mp ⟨pairs, hpairs, hraw⟩
    obtain ⟨hchosenScore, hrejectedScore, -, hchosen, hrejected⟩ := read_eq_some.mp hread
    have husable : ∀ e ∈ usableOf py sample, e.1 ≠ "" := by
      intro e he
      obtain ⟨entry, -, hentry⟩ := exists_entry_of_mem_usable h he
      exact (usablePair_eq_some.mp hentry).2.2
    refine ⟨hcompares, best, worst, hbest, hworst, left, List.mem_of_getElem? hleft, right,
      List.mem_of_getElem? hright, ?_, ?_, hpreferred⟩
    · exact usablePair_eq_some.mpr
        ⟨hchosenScore, hchosen, husable best (firstOfLeast_spec hbest).1⟩
    · exact usablePair_eq_some.mpr
        ⟨hrejectedScore, hrejected, husable worst (lastOfGreatest_spec hworst).1⟩
  · rintro ⟨hcompares, best', worst', hbest', hworst', left, hleft, right, hright, hleftBest,
      hrightWorst, hpreferred⟩
    obtain rfl : best' = best := Option.some.inj (hbest'.symm.trans hbest)
    obtain rfl : worst' = worst := Option.some.inj (hworst'.symm.trans hworst)
    obtain ⟨i, hi⟩ := List.mem_iff_getElem?.mp hleft
    obtain ⟨j, hj⟩ := List.mem_iff_getElem?.mp hright
    have hij : i ≠ j := by
      rintro rfl
      obtain rfl : left = right := Option.some.inj (hi.symm.trans hj)
      have hsame : best' = worst' :=
        Option.some.inj (Option.some.inj (hleftBest.symm.trans hrightWorst))
      have hstrict := (isBestAgainstWorst_usableDirection h hbest hworst "").preferred
      exact hstrict.ne (congrArg Prod.snd hsame)
    obtain ⟨pairs, hpairs, hraw⟩ := (mem_parseAllPairs h hinfer).mpr
      ⟨hcompares, i, j, left, right, hi, hj, hij, hpreferred, rfl⟩
    refine ⟨pairs, hpairs, _, hraw, read_eq_some.mpr ?_⟩
    obtain ⟨hchosenScore, hchosen, -⟩ := usablePair_eq_some.mp hleftBest
    obtain ⟨hrejectedScore, hrejected, -⟩ := usablePair_eq_some.mp hrightWorst
    exact ⟨hchosenScore, hrejectedScore, rfl, hchosen, hrejected⟩

/-- Where no usable score is NaN, the pair of an accepted sample keeps the direction of the sample
exactly if the usable scores have the direction of the complete list of rankings, and the rankings,
where all are usable, order the responses alike. -/
theorem preprocessRanked_keepsDirection_iff {sample : Value} (h : validateRanked py sample = true)
    (hnumbers : ∀ e ∈ usableOf py sample, e.2 ≠ .nan) :
    KeepsDirection py sample ↔
      inferRankingsHigherIsBetter py (rankingsOf sample) =
        some (inferHigherIsBetter py ((usableOf py sample).map Prod.snd)) ∧
      (AllUsable py sample → RanksAlike py sample) := by
  obtain ⟨prompt, haccepted⟩ := accepted_of_validateRanked h hnumbers
  obtain ⟨best, worst, hbest, hworst, hpair⟩ := preprocessRanked_eq haccepted
  have hdirected := isBestAgainstWorst_usableDirection haccepted hbest hworst
    (normalizeText py.str prompt)
  constructor
  · rintro ⟨pair, higherIsBetter, hpair', hinfer, hdirected', hall⟩
    obtain rfl : _ = pair := Option.some.inj (hpair.symm.trans hpair')
    obtain rfl := hdirected'.preferred.direction_unique hdirected.preferred
    exact ⟨hinfer, fun husable =>
      (exists_read_iff_ranksAlike haccepted hinfer hpair).mp (hall husable)⟩
  · rintro ⟨hinfer, hall⟩
    exact ⟨_, _, hpair, hinfer, hdirected, fun husable =>
      (exists_read_iff_ranksAlike haccepted hinfer hpair).mpr (hall husable)⟩

/-! ## Rankings that are numbers -/

/-- Numbers that `float` tells apart are ordered as it orders them. -/
def KeepsNumbers (py : ScoreReader F) : Prop :=
  ∀ value value' number number' score score', numberOf value = some number →
    numberOf value' = some number' → py.float value = .value score →
    py.float value' = .value score' → score < score' → number < number'

theorem isPreferredRanking_of_numbers {higherIsBetter : Bool} {left right : Value}
    {number number' : Score FloatNumber} (hleft : numberOf left = some number)
    (hright : numberOf right = some number') :
    isPreferredRanking higherIsBetter left right =
      some (decide (IsPreferred higherIsBetter number number')) := by
  cases left with
  | str text => cases hleft
  | null | bool | int | float | arr | obj =>
    rw [isPreferredRanking, hleft, hright]
    simp

theorem extractScore_of_number {value : Value} {number : Score FloatNumber}
    (h : numberOf value = some number) {score : Score F}
    (hscore : extractScore py value = some (some score)) : py.float value = .value score := by
  have hextract : extractScore py value = extractScore.score py value := by
    cases value with
    | null => cases h
    | str text => cases h
    | bool | int | float | arr | obj => rfl
  rw [hextract, extractScore.score] at hscore
  cases hfloat : py.float value with
  | value score' =>
    rw [hfloat] at hscore
    exact congrArg FloatResult.value (Option.some.inj (Option.some.inj hscore))
  | invalid =>
    rw [hfloat] at hscore
    cases hscore
  | overflow =>
    rw [hfloat] at hscore
    cases hscore

theorem KeepsNumbers.isPreferred {higherIsBetter : Bool} {left right : Value}
    {number number' : Score FloatNumber} {score score' : Score F} (hpy : KeepsNumbers py)
    (hleft : numberOf left = some number) (hright : numberOf right = some number')
    (hscore : py.float left = .value score) (hscore' : py.float right = .value score')
    (h : IsPreferred higherIsBetter score score') : IsPreferred higherIsBetter number number' := by
  cases higherIsBetter with
  | true => exact hpy right left number' number score' score hright hleft hscore' hscore h
  | false => exact hpy left right number number' score score' hleft hright hscore hscore' h

theorem ranksAlike_of_numbers {sample : Value} (h : validateRanked py sample = true)
    (hnan : ∀ e ∈ usableOf py sample, e.2 ≠ .nan) (hpy : KeepsNumbers py)
    (hnumbers : ∀ ranking ∈ rankingsOf sample, ∃ q, numberOf ranking = some q) :
    RanksAlike py sample := by
  obtain ⟨prompt, haccepted⟩ := accepted_of_validateRanked h hnan
  obtain ⟨best, worst, hbest, hworst, -⟩ := preprocessRanked_eq haccepted
  have hnumber : ∀ entry ∈ entriesOf sample, ∃ q, numberOf entry.2 = some q :=
    fun entry hentry => hnumbers entry.2 (List.of_mem_zip hentry).2
  constructor
  · intro i j left right hleft hright _
    obtain ⟨q, hq⟩ := hnumber left (List.mem_of_getElem? hleft)
    obtain ⟨q', hq'⟩ := hnumber right (List.mem_of_getElem? hright)
    exact ⟨_, isPreferredRanking_of_numbers hq hq'⟩
  · obtain ⟨left, hleft, hleftBest⟩ :=
      exists_entry_of_mem_usable haccepted (firstOfLeast_spec hbest).1
    obtain ⟨right, hright, hrightWorst⟩ :=
      exists_entry_of_mem_usable haccepted (lastOfGreatest_spec hworst).1
    obtain ⟨q, hq⟩ := hnumber left hleft
    obtain ⟨q', hq'⟩ := hnumber right hright
    refine ⟨best, worst, hbest, hworst, left, hleft, right, hright, hleftBest, hrightWorst, ?_⟩
    rw [isPreferredRanking_of_numbers hq hq', Option.some.injEq, decide_eq_true_iff]
    exact hpy.isPreferred hq hq'
      (extractScore_of_number hq (usablePair_eq_some.mp hleftBest).1)
      (extractScore_of_number hq' (usablePair_eq_some.mp hrightWorst).1)
      (isBestAgainstWorst_usableDirection haccepted hbest hworst "").preferred

/-! ## A dropped rank -/

/-- A reader of numbers, in exact arithmetic. Texts are no scores, except for NaN. -/
def exactReader : ScoreReader FloatNumber where
  float
    | .str text => if text = "nan" then .value .nan else .invalid
    | value =>
      match numberOf value with
      | some number => .value number
      | none => .invalid
  toInteger
    | some (some q) => if q.den = 1 then some q.num else none
    | _ => none
  str _ := "number"
  sorted higherIsBetter pairs := pairs.insertionSort (RankedBefore higherIsBetter)
  sorted_eq _ _ _ := rfl

theorem exactReader_float {value : Value} {number : Score FloatNumber}
    (h : numberOf value = some number) : exactReader.float value = .value number := by
  cases value with
  | str text => cases h
  | null | bool | int | float | arr | obj =>
    simp only [exactReader, h]

theorem exactReader_keepsNumbers : KeepsNumbers exactReader := by
  intro value value' number number' score score' h h' hscore hscore' hlt
  rw [exactReader_float h] at hscore
  rw [exactReader_float h'] at hscore'
  obtain rfl := FloatResult.value.inj hscore
  obtain rfl := FloatResult.value.inj hscore'
  exact hlt

/-- A sample with responses and their ranks. -/
def rankedSample (responses : List String) (rankings : List Int) : Value :=
  .obj [("prompt", .str "question"), ("responses", .arr (responses.map .str)),
    ("rankings", .arr (rankings.map .int))]

/-- Three ranked responses are compared by their ranks. -/
theorem preprocessRanked_three_ranks :
    KeepsDirection exactReader (rankedSample ["good", "fair", "bad"] [1, 2, 3]) := by
  have hvalid : validateRanked exactReader (rankedSample ["good", "fair", "bad"] [1, 2, 3]) = true :=
    by decide +kernel
  have hnumbers : ∀ e ∈ usableOf exactReader (rankedSample ["good", "fair", "bad"] [1, 2, 3]),
      e.2 ≠ .nan := by decide +kernel
  refine (preprocessRanked_keepsDirection_iff hvalid hnumbers).mpr ⟨by decide +kernel, fun _ => ?_⟩
  refine ranksAlike_of_numbers hvalid hnumbers exactReader_keepsNumbers fun ranking hranking => ?_
  obtain ⟨rank, -, rfl⟩ := List.mem_map.mp hranking
  exact ⟨.ofRat rank, rfl⟩

/-- Without the blank response of rank one, the ranks two and three are taken for scores: the worst
response is chosen. -/
theorem preprocessRanked_blank_first :
    validateRanked exactReader (rankedSample ["", "fair", "bad"] [1, 2, 3]) = true ∧
    preprocessRanked exactReader .auto (rankedSample ["", "fair", "bad"] [1, 2, 3]) =
      some ⟨"question", "bad", "fair", .ofRat 3, .ofRat 2⟩ ∧
    ¬ KeepsDirection exactReader (rankedSample ["", "fair", "bad"] [1, 2, 3]) := by
  have hpair : preprocessRanked exactReader .auto (rankedSample ["", "fair", "bad"] [1, 2, 3]) =
      some ⟨"question", "bad", "fair", .ofRat 3, .ofRat 2⟩ := by decide +kernel
  have hinfer : inferRankingsHigherIsBetter exactReader
      (rankingsOf (rankedSample ["", "fair", "bad"] [1, 2, 3])) = some false := by decide +kernel
  refine ⟨by decide +kernel, hpair, ?_⟩
  rintro ⟨pair, higherIsBetter, hpair', hinfer', hdirected, -⟩
  obtain rfl := Option.some.inj (hpair.symm.trans hpair')
  obtain rfl := Option.some.inj (hinfer.symm.trans hinfer')
  exact absurd hdirected.preferred (by decide +kernel)

end Preprocessing
