import Mathlib.Data.List.Sort
import Mathlib.Data.String.Basic
import TrainFactory.Generation.PosNeg
import TrainFactory.Lib.FirstCopies

/-!
# Deduplication of training samples

`DedupProcessor` of `generation/post_process`: a sample is removed if the hash of its contents has
been seen before.
-/

namespace PostProcess

open Lib Generation

/-- A `GeneratedSample`. -/
structure Sample where
  query : String
  answer : String
  positiveChunks : List String
  negativeChunks : List String
  /-- `role_config` as a dictionary. -/
  roleConfig : Json
  sourceDocId : Option String
  metadata : Json

structure DedupDetails where
  originalCount : Nat
  dedupedCount : Nat

structure PostProcessResult where
  success : Bool
  samples : List Sample
  removedCount : Nat
  details : Option DedupDetails

/-- `text.lower().strip()`. -/
def normalized (py : KeyStdlib) (text : String) : String := strip (py.lower text)

/-- `sorted(chunks)`. -/
def sortedChunks (chunks : List String) : List String := chunks.insertionSort fun x y => x ≤ y

def fingerprint (py : KeyStdlib) (sample : Sample) : String :=
  join "\x1f" [normalized py sample.query, normalized py sample.answer,
    join "|" (sortedChunks sample.positiveChunks), join "|" (sortedChunks sample.negativeChunks),
    sample.sourceDocId.getD ""]

def dedupByHash (py : KeyStdlib) (samples : List Sample) : List Sample :=
  firstCopies (fun sample => py.md5 (fingerprint py sample)) samples

def process (py : KeyStdlib) (samples : List Sample) : PostProcessResult :=
  if samples.isEmpty then ⟨true, [], 0, none⟩
  else
    let dedupedSamples := dedupByHash py samples
    ⟨true, dedupedSamples, samples.length - dedupedSamples.length,
      some ⟨samples.length, dedupedSamples.length⟩⟩

/-! ## True duplicates -/

/-- The samples have the same contents: the normalized query and answer, the chunks of either kind
as often, and the source. -/
def isDuplicate (py : KeyStdlib) (earlier sample : Sample) : Bool :=
  normalized py earlier.query = normalized py sample.query &&
    normalized py earlier.answer = normalized py sample.answer &&
    earlier.positiveChunks.isPerm sample.positiveChunks &&
    earlier.negativeChunks.isPerm sample.negativeChunks &&
    earlier.sourceDocId.getD "" = sample.sourceDocId.getD ""

/-- A sample with the fingerprint of an earlier one is a duplicate of an earlier one. -/
def HasNoCollision (py : KeyStdlib) (samples : List Sample) : Prop :=
  ∀ before sample after, samples = before ++ sample :: after → ∀ earlier ∈ before,
    fingerprint py earlier = fingerprint py sample →
      ∃ earlier ∈ before, isDuplicate py earlier sample = true

/-- The contents of a sample can be told from its fingerprint: no part has the separator of the
parts, and no chunk is empty or has the separator of the chunks. -/
structure IsSeparable (py : KeyStdlib) (sample : Sample) : Prop where
  query : '\x1f' ∉ (normalized py sample.query).toList
  answer : '\x1f' ∉ (normalized py sample.answer).toList
  chunks : ∀ chunk ∈ sample.positiveChunks ++ sample.negativeChunks,
    chunk ≠ "" ∧ '\x1f' ∉ chunk.toList ∧ '|' ∉ chunk.toList
  source : '\x1f' ∉ (sample.sourceDocId.getD "").toList

end PostProcess
