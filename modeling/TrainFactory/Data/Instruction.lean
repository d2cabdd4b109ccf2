import TrainFactory.Lib.Json

/-!
# Instruction samples

`SFTPreprocessor._preprocess_instruction` of `sft_preprocessor.py`: prompt and response are tokenized
together, and the labels of the prompt are masked.
-/

namespace Preprocessing

open Lib

/-- A tokenizer that tokenizes a text piece by piece. It may add a begin and an end token, and
truncates on the right. -/
structure Tokenizer where
  /-- The tokens of a text, without special tokens. -/
  encode : String → List Nat
  encode_append : ∀ s t, encode (s ++ t) = encode s ++ encode t
  /-- The begin token. -/
  bos : Option Nat
  /-- The end token. -/
  eos : Option Nat

structure Tokenized where
  inputIds : List Nat
  attentionMask : List Nat

/-- `tokenize(text, add_special_tokens, truncation)`, of a preprocessor with `max_length`. -/
def Tokenizer.tokenize (tokenizer : Tokenizer) (maxLength : Nat) (text : String)
    (addSpecialTokens truncation : Bool) : Tokenized :=
  let ids := tokenizer.encode text
  let ids := if addSpecialTokens then tokenizer.bos.toList ++ ids ++ tokenizer.eos.toList else ids
  let ids := if truncation then ids.take maxLength else ids
  { inputIds := ids, attentionMask := List.replicate ids.length 1 }

/-- The templates of a preprocessor, as the texts they format to. -/
structure Templates where
  /-- `instruction_template.format(instruction=instruction, input=input_text)`. -/
  instruction : Json → Json → String
  /-- `response_template.format(output=output)`. -/
  response : Json → String

/-- The templates of a preprocessor that has none configured. `format` is that of a value. -/
def defaultTemplates (format : Json → String) : Templates where
  instruction instruction input :=
    "### Instruction:\n" ++ format instruction ++ "\n\n### Input:\n" ++ format input ++
      "\n\n### Response:\n"
  response output := format output

structure Features where
  inputIds : List Nat
  attentionMask : List Nat
  labels : List Int
deriving DecidableEq

/-- `xs[:n] = ys`. -/
def assignPrefix {α : Type} (xs : List α) (n : Nat) (ys : List α) : List α := ys ++ xs.drop n

def promptOf (templates : Templates) (sample : Json) : String :=
  templates.instruction (sample.getD "instruction" (.str "")) (sample.getD "input" (.str ""))

def responseOf (templates : Templates) (sample : Json) : String :=
  templates.response (sample.getD "output" (.str ""))

def preprocessInstruction (tokenizer : Tokenizer) (templates : Templates) (maxLength : Nat)
    (sample : Json) : Features :=
  let prompt := promptOf templates sample
  let fullText := prompt ++ responseOf templates sample
  let tokenized := tokenizer.tokenize maxLength fullText true true
  let promptTokens := tokenizer.tokenize maxLength prompt false false
  let promptLength := promptTokens.inputIds.length
  let labels := tokenized.inputIds.map Int.ofNat
  { inputIds := tokenized.inputIds
    attentionMask := tokenized.attentionMask
    labels := assignPrefix labels promptLength (List.replicate promptLength (-100)) }

def validateInstruction (sample : Json) : Bool :=
  (sample.get? "instruction").isSome && (sample.getD "instruction" .null).truthy &&
    (sample.getD "output" .null).truthy

end Preprocessing
