import Mathlib.Tactic.ByCases
import TrainFactory.Data.Instruction

/-!
# Labels of instruction samples

The labels line up with the tokens where the tokens of the prompt stand at the positions that are
masked, and all of them have survived the truncation.
-/

namespace Preprocessing

open Lib

/-- How many tokens come before the response. -/
def promptEnd (tokenizer : Tokenizer) (prompt : String) : Nat :=
  tokenizer.bos.toList.length + (tokenizer.encode prompt).length

/-- The labels are those of the response and the end token; the begin token and the prompt have
none. -/
structure Aligned (tokenizer : Tokenizer) (prompt : String) (maxLength : Nat)
    (features : Features) : Prop where
  mask_length : features.attentionMask.length = features.inputIds.length
  labels_length : features.labels.length = features.inputIds.length
  length_le : features.inputIds.length ≤ maxLength
  masked : ∀ i < features.inputIds.length, i < promptEnd tokenizer prompt →
    features.labels[i]? = some (-100)
  kept : ∀ i < features.inputIds.length, promptEnd tokenizer prompt ≤ i →
    features.labels[i]? = features.inputIds[i]?.map Int.ofNat

def fullTokens (tokenizer : Tokenizer) (templates : Templates) (sample : Json) : List Nat :=
  tokenizer.bos.toList ++ tokenizer.encode (promptOf templates sample) ++
    (tokenizer.encode (responseOf templates sample) ++ tokenizer.eos.toList)

section Features

variable (tokenizer : Tokenizer) (templates : Templates) (maxLength : Nat) (sample : Json)

theorem inputIds_eq :
    (preprocessInstruction tokenizer templates maxLength sample).inputIds =
      (fullTokens tokenizer templates sample).take maxLength := by
  simp [preprocessInstruction, Tokenizer.tokenize, fullTokens, tokenizer.encode_append]

theorem attentionMask_length :
    (preprocessInstruction tokenizer templates maxLength sample).attentionMask.length =
      (preprocessInstruction tokenizer templates maxLength sample).inputIds.length :=
  List.length_replicate

theorem labels_eq :
    (preprocessInstruction tokenizer templates maxLength sample).labels =
      List.replicate (tokenizer.encode (promptOf templates sample)).length (-100) ++
        ((preprocessInstruction tokenizer templates maxLength sample).inputIds.map
          Int.ofNat).drop (tokenizer.encode (promptOf templates sample)).length := rfl

theorem labels_getElem?_of_le {i : Nat}
    (h : (tokenizer.encode (promptOf templates sample)).length ≤ i) :
    (preprocessInstruction tokenizer templates maxLength sample).labels[i]? =
      (preprocessInstruction tokenizer templates maxLength sample).inputIds[i]?.map
        Int.ofNat := by
  rw [labels_eq, List.getElem?_append_right (by rwa [List.length_replicate]),
    List.length_replicate, List.getElem?_drop, Nat.add_sub_cancel' h, List.getElem?_map]

theorem labels_getElem?_of_lt {i : Nat}
    (h : i < (tokenizer.encode (promptOf templates sample)).length) :
    (preprocessInstruction tokenizer templates maxLength sample).labels[i]? = some (-100) := by
  rw [labels_eq, List.getElem?_append_left (by rwa [List.length_replicate]),
    List.getElem?_replicate_of_lt h]

theorem labels_length_eq_iff :
    (preprocessInstruction tokenizer templates maxLength sample).labels.length =
        (preprocessInstruction tokenizer templates maxLength sample).inputIds.length ↔
      (tokenizer.encode (promptOf templates sample)).length ≤ maxLength := by
  rw [labels_eq, inputIds_eq]
  simp only [List.length_append, List.length_replicate, List.length_drop, List.length_map,
    List.length_take, fullTokens]
  omega

end Features

/-- Without a begin token the whole prompt survives the truncation; with one, the prompt is exactly
as long as a sample may be, so that nothing of the response is left. -/
def PromptFits (tokenizer : Tokenizer) (maxLength : Nat) (prompt : String) : Prop :=
  match tokenizer.bos with
  | none => (tokenizer.encode prompt).length ≤ maxLength
  | some _ => (tokenizer.encode prompt).length = maxLength

theorem ofNat_ne_mask (id : Nat) : (Int.ofNat id) ≠ -100 := by
  have := Int.natCast_nonneg id
  show (id : Int) ≠ -100
  omega

/-- The labels of a sample line up with its tokens exactly if the prompt fits. -/
theorem preprocessInstruction_aligned_iff (tokenizer : Tokenizer) (templates : Templates)
    (maxLength : Nat) (sample : Json) :
    Aligned tokenizer (promptOf templates sample) maxLength
        (preprocessInstruction tokenizer templates maxLength sample) ↔
      PromptFits tokenizer maxLength (promptOf templates sample) := by
  have hlength : (preprocessInstruction tokenizer templates maxLength sample).inputIds.length =
      min maxLength (fullTokens tokenizer templates sample).length := by
    rw [inputIds_eq, List.length_take]
  have hfull : (fullTokens tokenizer templates sample).length =
      tokenizer.bos.toList.length + (tokenizer.encode (promptOf templates sample)).length +
        ((tokenizer.encode (responseOf templates sample)).length +
          tokenizer.eos.toList.length) := by
    simp only [fullTokens, List.length_append]
  constructor
  · intro h
    have hle := (labels_length_eq_iff tokenizer templates maxLength sample).mp h.labels_length
    rw [PromptFits]
    cases hbos : tokenizer.bos with
    | none => exact hle
    | some bos =>
      -- otherwise the last token of the prompt stands behind the mask
      refine le_antisymm hle (not_lt.mp fun hlt => ?_)
      rw [hbos] at hfull
      have hin : (tokenizer.encode (promptOf templates sample)).length <
          (preprocessInstruction tokenizer templates maxLength sample).inputIds.length := by
        rw [hlength, hfull]
        simp only [Option.toList_some, List.length_singleton]
        omega
      have hmasked := h.masked _ hin (by
        rw [promptEnd, hbos]
        simp)
      rw [labels_getElem?_of_le tokenizer templates maxLength sample (le_refl _),
        Option.map_eq_some_iff] at hmasked
      obtain ⟨id, -, hid⟩ := hmasked
      exact ofNat_ne_mask id hid
  · intro h
    have hle : (tokenizer.encode (promptOf templates sample)).length ≤ maxLength := by
      rw [PromptFits] at h
      cases hbos : tokenizer.bos with
      | none =>
        rw [hbos] at h
        exact h
      | some bos =>
        rw [hbos] at h
        exact h.le
    refine
      { mask_length := attentionMask_length tokenizer templates maxLength sample
        labels_length := (labels_length_eq_iff tokenizer templates maxLength sample).mpr hle
        length_le := by
          rw [hlength]
          exact min_le_left _ _
        masked := fun i hi hprompt => ?_
        kept := fun i hi hprompt => ?_ }
    · refine labels_getElem?_of_lt tokenizer templates maxLength sample ?_
      rw [PromptFits] at h
      rw [promptEnd] at hprompt
      cases hbos : tokenizer.bos with
      | none =>
        rw [hbos] at hprompt
        simpa using hprompt
      | some bos =>
        rw [hbos] at h
        rw [hlength] at hi
        have hlt := lt_of_lt_of_le hi (min_le_left _ _)
        exact lt_of_lt_of_eq hlt h.symm
    · refine labels_getElem?_of_le tokenizer templates maxLength sample ?_
      exact le_trans (Nat.le_add_left _ _) hprompt

/-! ## A begin token -/

def charTokenizer : Tokenizer where
  encode text := text.toList.map Char.toNat
  encode_append s t := by rw [String.toList_append, List.map_append]
  bos := some 1
  eos := some 2

def plainTemplates : Templates where
  instruction instruction _ :=
    match instruction with
    | .str text => text
    | _ => ""
  response output :=
    match output with
    | .str text => text
    | _ => ""

/-- With a begin token, the last token of the prompt is trained on. -/
theorem preprocessInstruction_begin_token :
    validateInstruction (.obj [("instruction", .str "ab"), ("output", .str "c")]) = true ∧
    preprocessInstruction charTokenizer plainTemplates 512
        (.obj [("instruction", .str "ab"), ("output", .str "c")]) =
      ⟨[1, 97, 98, 99, 2], [1, 1, 1, 1, 1], [-100, -100, 98, 99, 2]⟩ ∧
    ¬ Aligned charTokenizer "ab" 512 (preprocessInstruction charTokenizer plainTemplates 512
        (.obj [("instruction", .str "ab"), ("output", .str "c")])) := by
  have hfeatures : preprocessInstruction charTokenizer plainTemplates 512
      (.obj [("instruction", .str "ab"), ("output", .str "c")]) =
        ⟨[1, 97, 98, 99, 2], [1, 1, 1, 1, 1], [-100, -100, 98, 99, 2]⟩ := by decide +kernel
  refine ⟨by decide +kernel, hfeatures, fun h => ?_⟩
  rw [hfeatures] at h
  have hmasked := h.masked 2 (by decide) (by decide +kernel)
  revert hmasked
  decide

end Preprocessing
