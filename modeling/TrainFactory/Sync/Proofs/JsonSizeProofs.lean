import Mathlib.Tactic.IntervalCases
import TrainFactory.Lib.CanonicalJson
import TrainFactory.Lib.DecimalText
import TrainFactory.Sync.ExternalClient

/-!
# Proofs: the size of a page is that of its compact text

The measurer consumes of its budget, part by part, the bytes that the encoder writes.
-/

namespace Sync

open Lib

/-! ## What a value consumes -/

theorem consume_bind {m n : Nat} {remaining : Int} {f : Int → Except SizeFault Int}
    (hf : ∀ rest : Int, 0 ≤ rest → f rest = consume n rest) :
    (consume m remaining >>= f) = consume (m + n) remaining := by
  by_cases hm : remaining < m
  · have hboth : remaining < ((m + n : Nat) : Int) := by omega
    rw [consume, if_pos hm, consume, if_pos hboth]
    rfl
  · have hrest : (consume m remaining >>= f) = f (remaining - m) := by
      rw [consume, if_neg hm]
      rfl
    rw [hrest, hf _ (by omega)]
    unfold consume
    by_cases hn : remaining - m < n
    · rw [if_pos hn, if_pos (by omega)]
    · rw [if_neg hn, if_neg (by omega)]
      congr 1
      omega

theorem consume_zero {remaining : Int} (h : 0 ≤ remaining) :
    consume 0 remaining = .ok remaining := by
  rw [consume, if_neg (by omega)]
  simp

theorem utf8Size_hexDigit (n : Nat) : (Json.hexDigit n).utf8Size = 1 := by
  by_cases hn : n < 16
  · interval_cases n <;> decide
  · have hlen : "0123456789abcdef".toList.length ≤ n := not_lt.mp hn
    rw [Json.hexDigit, List.getD_eq_getElem?_getD, List.getElem?_eq_none hlen]
    rfl

theorem characterBytes_eq (c : Char) : characterBytes c = charBytes (Json.escapeChar c) := by
  by_cases hescape : c ∈ ['"', '\\', '\n', '\r', '\t', '\x0c', '\x08']
  · simp only [List.mem_cons, List.not_mem_nil, or_false] at hescape
    obtain rfl | rfl | rfl | rfl | rfl | rfl | rfl := hescape <;> decide
  · have hcodes : ¬ (c = '"' ∨ c = '\\' ∨ c.toNat ∈ [8, 9, 10, 12, 13]) := by
      rintro (h | h | h)
      · exact hescape (by simp [h])
      · exact hescape (by simp [h])
      · have hc : c = Char.ofNat c.toNat := (Char.ofNat_toNat c).symm
        refine hescape ?_
        rw [hc]
        generalize c.toNat = n at h
        revert n
        decide
    simp only [List.mem_cons, List.not_mem_nil, or_false, not_or] at hescape
    obtain ⟨h1, h2, h3, h4, h5, h6, h7⟩ := hescape
    rw [characterBytes, if_neg hcodes, Json.escapeChar, if_neg h1, if_neg h2, if_neg h3, if_neg h4,
      if_neg h5, if_neg h6, if_neg h7]
    by_cases hcontrol : c.toNat < 0x20
    · have hsize : ∀ d ∈ ['\\', 'u', '0', '0', Json.hexDigit (c.toNat / 16),
          Json.hexDigit (c.toNat % 16)], d.utf8Size = 1 := by
        intro d hd
        simp only [List.mem_cons, List.not_mem_nil, or_false] at hd
        rcases hd with rfl | rfl | rfl | rfl | rfl | rfl <;>
          first | rfl | exact utf8Size_hexDigit _
      rw [if_pos hcontrol, if_pos hcontrol, charBytes_of_ascii hsize]
      rfl
    · rw [if_neg hcontrol, if_neg hcontrol, charBytes_cons, charBytes_nil, Char.utf8Size]
      have hval : ∀ n : UInt32, c.val ≤ n ↔ c.toNat ≤ n.toNat := fun n => Iff.rfl
      simp only [hval]
      rfl

theorem consumeCharacters_eq (cs : List Char) {remaining : Int} (h : 0 ≤ remaining) :
    consumeCharacters cs remaining =
      consume (cs.map fun c => charBytes (Json.escapeChar c)).sum remaining := by
  induction cs generalizing remaining with
  | nil => exact (consume_zero h).symm
  | cons c cs ih =>
    have hbind : consumeCharacters (c :: cs) remaining =
        (consume (characterBytes c) remaining >>= consumeCharacters cs) := by
      rw [consumeCharacters]
      cases consume (characterBytes c) remaining <;> rfl
    rw [hbind, consume_bind fun rest hrest => ih hrest, characterBytes_eq, List.map_cons,
      List.sum_cons]

theorem consumeString_eq (text : String) (remaining : Int) :
    consumeString text remaining = consume (charBytes (Json.stringChars text)) remaining := by
  have hend : ∀ rest : Int, 0 ≤ rest →
      (consumeCharacters text.toList rest >>= fun rest => consume 1 rest) =
        consume ((text.toList.map fun c => charBytes (Json.escapeChar c)).sum + 1) rest := by
    intro rest hrest
    rw [consumeCharacters_eq _ hrest]
    exact consume_bind fun _ _ => rfl
  rw [consumeString, consume_bind hend, charBytes_stringChars, Nat.add_assoc]

theorem utf8Size_of_isDigit {c : Char} (h : c.isDigit = true) : c.utf8Size = 1 := by
  have hle : c.toNat ≤ 57 := by
    simp only [Char.isDigit, Bool.and_eq_true, decide_eq_true_eq] at h
    exact h.2
  have hval : c.toNat ≤ 127 := by omega
  exact Char.utf8Size_eq_one_iff.mpr hval

theorem charBytes_intChars (n : Int) : charBytes (Json.intChars n) = (Json.intChars n).length := by
  have hdigits : ∀ k : Nat, ∀ c ∈ Nat.toDigits 10 k, c.utf8Size = 1 := fun k c hc =>
    utf8Size_of_isDigit (Nat.isDigit_of_mem_toDigits (by decide) (by decide) hc)
  refine charBytes_of_ascii fun c hc => ?_
  cases n with
  | ofNat k => exact hdigits k c hc
  | negSucc k =>
    rcases List.mem_cons.mp hc with rfl | hc
    · rfl
    · exact hdigits (k + 1) c hc

/-- A value without numbers other than integers, nested at most so deep. An integer has a text if it
has not too many digits. -/
inductive Measurable : Nat → Json → Prop where
  | null {n : Nat} : Measurable n .null
  | bool {n : Nat} (b : Bool) : Measurable n (.bool b)
  | int {n : Nat} {k : Int} (h : (Nat.toDigits 10 k.natAbs).length ≤ maxStrDigits) :
    Measurable n (.int k)
  | str {n : Nat} (s : String) : Measurable n (.str s)
  | arr {n : Nat} {xs : List Json} (h : ∀ x ∈ xs, Measurable n x) : Measurable (n + 1) (.arr xs)
  | obj {n : Nat} {kvs : List (String × Json)} (h : ∀ kv ∈ kvs, Measurable n kv.2) :
    Measurable (n + 1) (.obj kvs)

section Values

variable {floatRepr : Rat → String}

def Consumes (floatRepr : Rat → String) (depth : Nat) (v : Json) : Prop :=
  ∀ remaining : Int, consumeValue floatRepr depth v remaining =
    consume (charBytes (v.compactChars floatRepr)) remaining

theorem consumeElements_false {depth : Nat} {xs : List Json}
    (h : ∀ x ∈ xs, Consumes floatRepr (depth + 1) x) {remaining : Int} (hr : 0 ≤ remaining) :
    consumeElements floatRepr depth false xs remaining =
      consume ((xs.map (Json.compactChars floatRepr)).map fun t => 1 + charBytes t).sum
        remaining := by
  induction xs generalizing remaining with
  | nil => exact (consume_zero hr).symm
  | cons x xs ih =>
    have hrest : ∀ rest : Int, 0 ≤ rest →
        (consumeValue floatRepr (depth + 1) x rest >>= fun rest =>
          consumeElements floatRepr depth false xs rest) =
        consume (charBytes (x.compactChars floatRepr) +
          ((xs.map (Json.compactChars floatRepr)).map fun t => 1 + charBytes t).sum) rest := by
      intro rest _
      rw [h x List.mem_cons_self rest]
      exact consume_bind fun rest hrest => ih (fun y hy => h y (List.mem_cons_of_mem x hy)) hrest
    rw [consumeElements]
    simp only [Bool.false_eq_true, if_false]
    rw [consume_bind hrest, List.map_cons, List.map_cons, List.sum_cons]
    congr 1
    omega

theorem consumeElements_true {depth : Nat} {xs : List Json}
    (h : ∀ x ∈ xs, Consumes floatRepr (depth + 1) x) {remaining : Int} (hr : 0 ≤ remaining) :
    consumeElements floatRepr depth true xs remaining =
      consume (charBytes (Json.commaChars (Json.compactElements floatRepr xs))) remaining := by
  cases xs with
  | nil => exact (consume_zero hr).symm
  | cons x xs =>
    rw [consumeElements, Json.compactElements, charBytes_commaChars_cons,
      Json.compactElements_eq_map]
    simp only [if_true]
    show (consumeValue floatRepr (depth + 1) x remaining >>= fun rest =>
      consumeElements floatRepr depth false xs rest) = _
    rw [h x List.mem_cons_self remaining]
    exact consume_bind fun rest hrest =>
      consumeElements_false (fun y hy => h y (List.mem_cons_of_mem x hy)) hrest

theorem consumeEntry {depth : Nat} {k : String} {v : Json} {n : Nat} {remaining : Int}
    (h : Consumes floatRepr (depth + 1) v) {f : Int → Except SizeFault Int}
    (hf : ∀ rest : Int, 0 ≤ rest → f rest = consume n rest) :
    (do
      let remaining ← consumeString k remaining
      let remaining ← consume 1 remaining
      let remaining ← consumeValue floatRepr (depth + 1) v remaining
      f remaining) =
    consume (charBytes (Json.entryText (k, v.compactChars floatRepr)) + n) remaining := by
  have hvalue : ∀ rest : Int, 0 ≤ rest →
      (consumeValue floatRepr (depth + 1) v rest >>= f) =
        consume (charBytes (v.compactChars floatRepr) + n) rest := by
    intro rest _
    rw [h rest]
    exact consume_bind hf
  have hcolon : ∀ rest : Int, 0 ≤ rest →
      (consume 1 rest >>= fun rest => consumeValue floatRepr (depth + 1) v rest >>= f) =
        consume (1 + (charBytes (v.compactChars floatRepr) + n)) rest :=
    fun rest _ => consume_bind hvalue
  have hsize : ':'.utf8Size = 1 := rfl
  have htext : charBytes (Json.entryText (k, v.compactChars floatRepr)) =
      charBytes (Json.stringChars k) + (1 + charBytes (v.compactChars floatRepr)) := by
    rw [Json.entryText, charBytes_append, charBytes_cons, hsize]
  rw [consumeString_eq, consume_bind hcolon, htext]
  congr 1
  omega

theorem consumeEntries_false {depth : Nat} {kvs : List (String × Json)}
    (h : ∀ kv ∈ kvs, Consumes floatRepr (depth + 1) kv.2) {remaining : Int} (hr : 0 ≤ remaining) :
    consumeEntries floatRepr depth false kvs remaining =
      consume ((Json.compactEntries floatRepr kvs).map fun t => 1 + charBytes t).sum remaining := by
  induction kvs generalizing remaining with
  | nil => exact (consume_zero hr).symm
  | cons kv kvs ih =>
    obtain ⟨k, v⟩ := kv
    have hrest : ∀ rest : Int, 0 ≤ rest → consumeEntries floatRepr depth false kvs rest =
        consume ((Json.compactEntries floatRepr kvs).map fun t => 1 + charBytes t).sum rest :=
      fun rest hrest => ih (fun kv hkv => h kv (List.mem_cons_of_mem _ hkv)) hrest
    have hentry := fun rest : Int => fun _ : 0 ≤ rest =>
      @consumeEntry floatRepr depth k v _ rest (h (k, v) List.mem_cons_self) _ hrest
    rw [consumeEntries, Json.compactEntries, List.map_cons, List.sum_cons, Nat.add_assoc]
    simp only [Bool.false_eq_true, if_false]
    exact consume_bind hentry

theorem consumeEntries_true {depth : Nat} {kvs : List (String × Json)}
    (h : ∀ kv ∈ kvs, Consumes floatRepr (depth + 1) kv.2) {remaining : Int} (hr : 0 ≤ remaining) :
    consumeEntries floatRepr depth true kvs remaining =
      consume (charBytes (Json.commaChars (Json.compactEntries floatRepr kvs))) remaining := by
  cases kvs with
  | nil => exact (consume_zero hr).symm
  | cons kv kvs =>
    obtain ⟨k, v⟩ := kv
    rw [consumeEntries, Json.compactEntries, charBytes_commaChars_cons]
    simp only [if_true]
    exact consumeEntry (h (k, v) List.mem_cons_self) fun rest hrest =>
      consumeEntries_false (fun kv hkv => h kv (List.mem_cons_of_mem _ hkv)) hrest

theorem consumeBrackets {size : Nat} {remaining : Int} {f : Int → Except SizeFault Int}
    (hf : ∀ rest : Int, 0 ≤ rest → f rest = consume size rest) :
    (do
      let remaining ← consume 1 remaining
      let remaining ← f remaining
      consume 1 remaining) = consume (1 + size + 1) remaining := by
  have hend : ∀ rest : Int, 0 ≤ rest →
      (f rest >>= fun rest => consume 1 rest) = consume (size + 1) rest := by
    intro rest hrest
    rw [hf rest hrest]
    exact consume_bind fun _ _ => rfl
  rw [consume_bind hend, Nat.add_assoc]

theorem Measurable.consumes {n depth : Nat} {v : Json} (h : Measurable n v)
    (hdepth : depth + n ≤ maxExternalSyncJsonDepth) : Consumes floatRepr depth v := by
  induction h generalizing depth with
  | null =>
    intro remaining
    rw [consumeValue, if_neg (by omega)]
    rfl
  | bool b =>
    intro remaining
    cases b with
    | false =>
      rw [consumeValue, if_neg (by omega)]
      rfl
    | true =>
      rw [consumeValue, if_neg (by omega)]
      rfl
  | @int n k hdigits =>
    intro remaining
    rw [consumeValue, if_neg (by omega)]
    show consumeInt k remaining = _
    rw [consumeInt, if_neg (by omega), Json.compactChars, charBytes_intChars]
  | str s =>
    intro remaining
    rw [consumeValue, if_neg (by omega)]
    exact consumeString_eq s remaining
  | @arr n xs h ih =>
    intro remaining
    have hall : ∀ x ∈ xs, Consumes floatRepr (depth + 1) x := fun x hx => ih x hx (by omega)
    have hopen : '['.utf8Size = 1 := rfl
    have hclose : ']'.utf8Size = 1 := rfl
    rw [consumeValue, if_neg (by omega), Json.compactChars, charBytes_append, charBytes_cons,
      charBytes_cons, charBytes_nil, hopen, hclose]
    exact consumeBrackets fun rest hrest => consumeElements_true hall hrest
  | @obj n kvs h ih =>
    intro remaining
    have hall : ∀ kv ∈ kvs, Consumes floatRepr (depth + 1) kv.2 :=
      fun kv hkv => ih kv hkv (by omega)
    have hopen : '{'.utf8Size = 1 := rfl
    have hclose : '}'.utf8Size = 1 := rfl
    rw [consumeValue, if_neg (by omega), Json.compactChars, charBytes_append, charBytes_cons,
      charBytes_cons, charBytes_nil, hopen, hclose]
    exact consumeBrackets fun rest hrest => consumeEntries_true hall hrest

end Values

/-- The size of a value is that of its compact text, up to the budget. -/
theorem boundedJsonSize_compact (floatRepr : Rat → String) (v : Json) (maxBytes : Int)
    (h : Measurable maxExternalSyncJsonDepth v) :
    boundedJsonSize floatRepr v maxBytes =
      .ok (if ((utf8 (v.compact floatRepr)).length : Int) ≤ maxBytes then
        some (utf8 (v.compact floatRepr)).length else none) := by
  have hconsumes : consumeValue floatRepr 0 v maxBytes =
      consume (utf8 (v.compact floatRepr)).length maxBytes := by
    rw [Json.compact, length_utf8_eq_charBytes]
    exact h.consumes (Nat.le_of_eq (Nat.zero_add _)) maxBytes
  rw [boundedJsonSize, hconsumes, consume]
  by_cases hfits : ((utf8 (v.compact floatRepr)).length : Int) ≤ maxBytes
  · rw [if_neg (not_lt.mpr hfits), if_pos hfits]
    dsimp only
    congr 2
    omega
  · rw [if_pos (not_le.mp hfits), if_neg hfits]

/-- A list at its exact size, and one byte below. -/
theorem boundedJsonSize_compact_pair :
    boundedJsonSize (fun _ => "") (.arr [.null, .str "é\n"]) 13 = .ok (some 13) ∧
      boundedJsonSize (fun _ => "") (.arr [.null, .str "é\n"]) 12 = .ok none := by
  have hmeasurable : Measurable maxExternalSyncJsonDepth (.arr [.null, .str "é\n"]) := by
    refine .arr fun x hx => ?_
    rcases List.mem_cons.mp hx with rfl | hx
    · exact .null
    · rw [List.mem_singleton.mp hx]
      exact .str _
  have hlength : (utf8 ((Json.arr [.null, .str "é\n"]).compact fun _ => "")).length = 13 := by
    decide
  have hexact := boundedJsonSize_compact (fun _ => "") _ 13 hmeasurable
  have hbelow := boundedJsonSize_compact (fun _ => "") _ 12 hmeasurable
  rw [hlength] at hexact hbelow
  exact ⟨hexact, hbelow⟩

theorem boundedJsonSize_too_long (floatRepr : Rat → String) {k : Nat} (h : 10 ^ maxStrDigits ≤ k)
    (maxBytes : Int) :
    boundedJsonSize floatRepr (.int k) maxBytes =
      .error (schemaInvalid "integer is too large") := by
  have hlong : maxStrDigits < (Nat.toDigits 10 (k : Int).natAbs).length := by
    rw [Int.natAbs_natCast]
    by_contra hshort
    have hlt := (Nat.length_toDigits_le_iff (by decide) (by decide)).mp (not_lt.mp hshort)
    exact absurd h (not_le.mpr hlt)
  have hrefused : consumeValue floatRepr 0 (.int k) maxBytes =
      .error (.invalid (schemaInvalid "integer is too large")) := by
    rw [consumeValue, if_neg (by decide)]
    exact if_pos hlong
  rw [boundedJsonSize, hrefused]

/-- The first integer with 4301 digits has neither a size nor none. -/
theorem boundedJsonSize_long_integer :
    boundedJsonSize (fun _ => "") (.int ((10 ^ maxStrDigits : Nat) : Int)) 10000 ≠ .ok none ∧
      ∀ size, boundedJsonSize (fun _ => "") (.int ((10 ^ maxStrDigits : Nat) : Int)) 10000 ≠
        .ok (some size) := by
  rw [boundedJsonSize_too_long _ (Nat.le_refl _)]
  constructor
  · intro h
    cases h
  · intro size h
    cases h

end Sync
