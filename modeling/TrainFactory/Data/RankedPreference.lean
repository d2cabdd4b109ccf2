import Mathlib.Algebra.Order.Ring.Rat
import Mathlib.Order.WithBot
import TrainFactory.Lib.StableSort
import TrainFactory.Lib.Text

/-!
# Ranked preferences

Preference samples with several ranked responses: `DPOPreprocessor` of `dpo_preprocessor.py`, which
makes a pair of the best and the worst response, and `PreferenceRankedFormat` of `formats/dpo.py`,
which makes all pairs.
-/

namespace Preprocessing

open Lib

/-! ## Scores -/

/-- A value of the type `float`: a number or an infinity, of a type `F`, or NaN. -/
inductive Score (F : Type) where
  | nan
  | number (x : F)
deriving DecidableEq

/-- `left < right`: a comparison with NaN is false. -/
def Score.Less {F : Type} [LT F] : Score F → Score F → Prop
  | .number x, .number y => x < y
  | _, _ => False

instance {F : Type} [LT F] : LT (Score F) := ⟨Score.Less⟩

instance {F : Type} [LT F] [DecidableLT F] : DecidableLT (Score F)
  | .number x, .number y => inferInstanceAs (Decidable (x < y))
  | .nan, _ => .isFalse id
  | .number _, .nan => .isFalse id

/-- The place of a score among others. That of NaN does not matter. -/
def Score.place {F : Type} : Score F → WithBot F
  | .nan => ⊥
  | .number x => x

/-- The order in which pairs of responses and scores are sorted, from best to worst. -/
def RankedBefore {F : Type} [LinearOrder F] (higherIsBetter : Bool)
    (left right : String × Score F) : Prop :=
  if higherIsBetter then right.2.place ≤ left.2.place else left.2.place ≤ right.2.place

instance {F : Type} [LinearOrder F] (higherIsBetter : Bool) :
    DecidableRel (RankedBefore (F := F) higherIsBetter) := by
  intro left right
  unfold RankedBefore
  infer_instance

/-- The numbers and the infinities of a `float`. -/
abbrev FloatNumber : Type := WithBot (WithTop Rat)

/-- A rational number, exactly. -/
def Score.ofRat (q : Rat) : Score FloatNumber := .number ((q : WithTop Rat) : FloatNumber)

/-- A value of a sample. -/
inductive Value where
  | null
  | bool (b : Bool)
  | int (n : Int)
  | float (x : Score FloatNumber)
  | str (s : String)
  | arr (xs : List Value)
  | obj (kvs : List (String × Value))

def Value.get? : Value → String → Option Value
  | .obj kvs, key => kvs.lookup key
  | _, _ => none

def Value.getD (value : Value) (key : String) (default : Value) : Value :=
  (value.get? key).getD default

def Value.truthy : Value → Bool
  | .null => false
  | .bool b => b
  | .int n => n != 0
  | .float x => x != .ofRat 0
  | .str s => s != ""
  | .arr xs => !xs.isEmpty
  | .obj kvs => !kvs.isEmpty

/-- What `float(value)` does. -/
inductive FloatResult (F : Type) where
  | value (score : Score F)
  /-- It raises `TypeError` or `ValueError`. -/
  | invalid
  /-- It raises `OverflowError`. -/
  | overflow

/-- The functions of the standard library that read a score or a text, or sort by a score. -/
structure ScoreReader (F : Type) [LinearOrder F] where
  /-- `float(value)`. -/
  float : Value → FloatResult F
  /-- `int(score)`, if `score.is_integer()`. -/
  toInteger : F → Option Int
  /-- `str(value)`. -/
  str : Value → String
  /-- `sorted(pairs, key=score, reverse=higher_is_better)`. -/
  sorted : Bool → List (String × Score F) → List (String × Score F)
  /-- Scores that are numbers are sorted, and ties keep their order. -/
  sorted_eq : ∀ higherIsBetter pairs, (∀ e ∈ pairs, e.2 ≠ .nan) →
    sorted higherIsBetter pairs = pairs.insertionSort (RankedBefore higherIsBetter)

/-! ## The direction of rankings -/

/-- `list(range(start, start + n))`. -/
def intRange (start : Int) (n : Nat) : List Int := (List.range n).map fun i => start + i

section Direction

variable {F : Type} [LinearOrder F]

/-- `int(score)`, if `score.is_integer()`. -/
def integerOf (py : ScoreReader F) : Score F → Option Int
  | .nan => none
  | .number x => py.toInteger x

/-- `infer_rankings_higher_is_better`, of scores. -/
def inferHigherIsBetter (py : ScoreReader F) (normalized : List (Score F)) : Bool :=
  match normalized.mapM (integerOf py) with
  | none => true
  | some integers =>
    let uniqueValues := integers.dedup.insertionSort (· ≤ ·)
    if 2 ≤ uniqueValues.length ∧ uniqueValues.head? = some 1 ∧
        uniqueValues = intRange 1 uniqueValues.length then false
    else if uniqueValues.length = integers.length ∧ 2 ≤ uniqueValues.length ∧
        uniqueValues.head? = some 0 ∧ uniqueValues = intRange 0 uniqueValues.length then false
    else true

/-- `float(value)`; `none` where it raises. -/
def floatOrRaise (py : ScoreReader F) (value : Value) : Option (Score F) :=
  match py.float value with
  | .value score => some score
  | _ => none

/-- `infer_rankings_higher_is_better`; `none` where it raises. -/
def inferRankingsHigherIsBetter (py : ScoreReader F) (rankings : List Value) : Option Bool :=
  (rankings.mapM (floatOrRaise py)).map (inferHigherIsBetter py)

inductive RankingsDirection where
  | auto
  | higherIsBetter
  | lowerIsBetter
deriving DecidableEq

/-- `resolve_rankings_higher_is_better`, of scores. -/
def resolveHigherIsBetter (py : ScoreReader F) (scores : List (Score F)) : RankingsDirection → Bool
  | .higherIsBetter => true
  | .lowerIsBetter => false
  | .auto => inferHigherIsBetter py scores

/-- `resolve_rankings_higher_is_better`; `none` where it raises. -/
def resolveRankingsHigherIsBetter (py : ScoreReader F) (rankings : List Value) :
    RankingsDirection → Option Bool
  | .higherIsBetter => some true
  | .lowerIsBetter => some false
  | .auto => inferRankingsHigherIsBetter py rankings

end Direction

/-- `is_preferred_ranking`, of numbers. -/
def IsPreferred {F : Type} [LT F] (higherIsBetter : Bool) (left right : F) : Prop :=
  if higherIsBetter then right < left else left < right

instance {F : Type} [LT F] [DecidableLT F] (higherIsBetter : Bool) (left right : F) :
    Decidable (IsPreferred higherIsBetter left right) := by
  unfold IsPreferred
  infer_instance

def numberOf : Value → Option (Score FloatNumber)
  | .bool b => some (.ofRat (if b then 1 else 0))
  | .int n => some (.ofRat n)
  | .float x => some x
  | _ => none

/-- `is_preferred_ranking` of values as they are given; `none` where it raises. Texts are compared
as texts, and a number with its exact value. Lists do not get here:
`infer_rankings_higher_is_better` raises on them. -/
def isPreferredRanking (higherIsBetter : Bool) : Value → Value → Option Bool
  | .str left, .str right => some (decide (IsPreferred higherIsBetter left right))
  | left, right =>
    match numberOf left, numberOf right with
    | some left, some right => some (decide (IsPreferred higherIsBetter left right))
    | _, _ => none

/-! ## Usable responses -/

def textKeys : List String := ["content", "response", "text", "value", "output", "answer"]

mutual

def normalizeText (str : Value → String) : Value → String
  | .null => ""
  | .str text => strip text
  | .arr xs => ((normalizeElements str xs).find? (· ≠ "")).getD ""
  | .obj kvs =>
    (textKeys.findSome? fun key =>
      ((normalizeEntries str kvs).lookup key).bind fun entry =>
        if entry.1 then some entry.2 else none).getD ""
  | .bool b => strip (str (.bool b))
  | .int n => strip (str (.int n))
  | .float q => strip (str (.float q))

/-- `_normalize_text` of each element. -/
def normalizeElements (str : Value → String) : List Value → List String
  | [] => []
  | x :: xs => normalizeText str x :: normalizeElements str xs

/-- The truth of each value, and `_normalize_text` of it. -/
def normalizeEntries (str : Value → String) :
    List (String × Value) → List (String × (Bool × String))
  | [] => []
  | (key, value) :: kvs => (key, value.truthy, normalizeText str value) :: normalizeEntries str kvs

end

section Pairs

variable {F : Type} [LinearOrder F] (py : ScoreReader F)

/-- `_extract_score`; `none` where it raises. -/
def extractScore : Value → Option (Option (Score F))
  | .null => some none
  | .str text => if text = "" then some none else score (.str text)
  | value => score value
where
  /-- The score of a value that is not left out. -/
  score (value : Value) : Option (Option (Score F)) :=
    match py.float value with
    | .value score => some (some score)
    | .invalid => some none
    | .overflow => none

/-- The text and the score of a response, if it has both; `none` where it raises. -/
def usablePair (entry : Value × Value) : Option (Option (String × Score F)) :=
  (extractScore py entry.2).map fun score =>
    if normalizeText py.str entry.1 ≠ "" then
      score.map fun score => (normalizeText py.str entry.1, score)
    else none

/-- `valid_pairs`: the responses that have a text and a score; `none` where it raises. -/
def validPairs (responses rankings : List Value) : Option (List (String × Score F)) :=
  ((responses.zip rankings).mapM (usablePair py)).map List.reduceOption

def isRankedFormat (sample : Value) : Bool :=
  (sample.get? "prompt").isSome && (sample.get? "responses").isSome &&
    (sample.get? "rankings").isSome

/-- `min(scores)`: the first score to which no later one is less. -/
def minScore : List (Score F) → Option (Score F)
  | [] => none
  | score :: scores => some (scores.foldl (fun least x => if x < least then x else least) score)

def maxScore : List (Score F) → Option (Score F)
  | [] => none
  | score :: scores =>
    some (scores.foldl (fun greatest x => if greatest < x then x else greatest) score)

/-- `min(scores) < max(scores)`. -/
def scoresDiffer (scores : List (Score F)) : Bool :=
  match minScore scores, maxScore scores with
  | some least, some greatest => least < greatest
  | _, _ => false

/-- `validate_sample`, of a sample in ranked format. -/
def validateRanked (sample : Value) : Bool :=
  if normalizeText py.str (sample.getD "prompt" .null) = "" then false
  else
    match sample.getD "responses" (.arr []), sample.getD "rankings" (.arr []) with
    | .arr responses, .arr rankings =>
      if responses.length < 2 ∨ rankings.length ≠ responses.length then false
      else
        match validPairs py responses rankings with
        | none => false
        | some validPairs =>
          if validPairs.length < 2 then false else scoresDiffer (validPairs.map Prod.snd)
    | _, _ => false

/-- `sort_ranked_preference_pairs`, without `higher_is_better`. -/
def sortRankedPreferencePairs (pairs : List (String × Score F))
    (rankingsDirection : RankingsDirection) : List (String × Score F) :=
  py.sorted (resolveHigherIsBetter py (pairs.map Prod.snd) rankingsDirection) pairs

structure Preference (F : Type) where
  prompt : String
  chosen : String
  rejected : String
  chosenScore : Score F
  rejectedScore : Score F
deriving DecidableEq

/-- `_preprocess_ranked`; `none` where it raises. -/
def preprocessRanked (rankingsDirection : RankingsDirection) (sample : Value) :
    Option (Preference F) :=
  match sample.get? "prompt", sample.get? "responses", sample.get? "rankings" with
  | some prompt, some (.arr responses), some (.arr rankings) =>
    match validPairs py responses rankings with
    | none => none
    | some validPairs =>
      if validPairs.length < 2 then none
      else
        let sorted := sortRankedPreferencePairs py validPairs rankingsDirection
        match sorted.head?, sorted.getLast? with
        | some best, some worst =>
          some ⟨normalizeText py.str prompt, best.1, worst.1, best.2, worst.2⟩
        | _, _ => none
  | _, _, _ => none

end Pairs

/-! ## All pairs -/

/-- A `PreferenceSample` of values as they are given. -/
structure PreferenceSample where
  prompt : Value
  chosen : Value
  rejected : Value
  chosenScore : Value
  rejectedScore : Value

/-- The pair of two entries, if the first is preferred; `none` where the comparison raises. -/
def pairOf (prompt : Value) (higherIsBetter : Bool) (left right : Value × Value) :
    Option (Option PreferenceSample) :=
  (isPreferredRanking higherIsBetter left.2 right.2).map fun preferred =>
    if preferred then some ⟨prompt, left.1, right.1, left.2, right.2⟩ else none

/-- The inner loop of `parse_all_pairs`: the pairs of the entry at `i` with the others. -/
def pairsWith (prompt : Value) (higherIsBetter : Bool) (entries : List (Value × Value)) (i : Nat)
    (left : Value × Value) : Option (List PreferenceSample) :=
  (entries.zipIdx.mapM fun entry =>
    if i ≠ entry.2 then pairOf prompt higherIsBetter left entry.1 else some none).map
      List.reduceOption

/-- `parse_all_pairs`; `none` where it raises. -/
def parseAllPairs {F : Type} [LinearOrder F] (py : ScoreReader F)
    (rankingsDirection : RankingsDirection) (sample : Value) : Option (List PreferenceSample) :=
  match sample.get? "prompt", sample.get? "responses", sample.get? "rankings" with
  | some prompt, some (.arr responses), some (.arr rankings) =>
    match resolveRankingsHigherIsBetter py rankings rankingsDirection with
    | none => none
    | some higherIsBetter =>
      ((responses.zip rankings).zipIdx.mapM fun entry =>
        pairsWith prompt higherIsBetter (responses.zip rankings) entry.2 entry.1).map List.flatten
  | _, _, _ => none

end Preprocessing
