import Mathlib.Tactic.IntervalCases
import TrainFactory.Lib.Json

/-!
# The text of a JSON value

`json.dumps(value, ensure_ascii=False)`. A text has no line break: strings escape control
characters, and there is no indentation.
-/

namespace Lib

namespace Json

def hexDigit (n : Nat) : Char := "0123456789abcdef".toList.getD n '0'

def escapeChar (c : Char) : List Char :=
  if c = '"' then ['\\', '"']
  else if c = '\\' then ['\\', '\\']
  else if c = '\n' then ['\\', 'n']
  else if c = '\r' then ['\\', 'r']
  else if c = '\t' then ['\\', 't']
  else if c = '\x0c' then ['\\', 'f']
  else if c = '\x08' then ['\\', 'b']
  else if c.toNat < 0x20 then
    ['\\', 'u', '0', '0', hexDigit (c.toNat / 16), hexDigit (c.toNat % 16)]
  else [c]

def stringChars (s : String) : List Char := '"' :: s.toList.flatMap escapeChar ++ ['"']

def intChars : Int → List Char
  | .ofNat n => Nat.toDigits 10 n
  | .negSucc n => '-' :: Nat.toDigits 10 (n + 1)

variable (floatRepr : Rat → String)

mutual

def chars : Json → List Char
  | .null => "null".toList
  | .bool b => if b then "true".toList else "false".toList
  | .int n => intChars n
  | .float q => (floatRepr q).toList
  | .str s => stringChars s
  | .arr xs => '[' :: elementChars xs ++ [']']
  | .obj kvs => '{' :: entryChars kvs ++ ['}']

def elementChars : List Json → List Char
  | [] => []
  | [x] => chars x
  | x :: y :: xs => chars x ++ [',', ' '] ++ elementChars (y :: xs)

def entryChars : List (String × Json) → List Char
  | [] => []
  | [(k, v)] => stringChars k ++ [':', ' '] ++ chars v
  | (k, v) :: kv :: kvs =>
    stringChars k ++ [':', ' '] ++ chars v ++ [',', ' '] ++ entryChars (kv :: kvs)

end

/-- `json.dumps(value, ensure_ascii=False)`. -/
def dumps (v : Json) : String := String.ofList (v.chars floatRepr)

/-! ## Control characters -/

theorem visible_hexDigit (n : Nat) : 0x20 ≤ (hexDigit n).toNat := by
  by_cases hn : n < 16
  · interval_cases n <;> decide
  · have hnone : "0123456789abcdef".toList[n]? = none :=
      List.getElem?_eq_none (not_lt.mp hn)
    rw [hexDigit, List.getD_eq_getElem?_getD, hnone]
    decide

theorem visible_of_mem_escapeChar {c d : Char} (h : d ∈ escapeChar c) : 0x20 ≤ d.toNat := by
  have hhigh := visible_hexDigit (c.toNat / 16)
  have hlow := visible_hexDigit (c.toNat % 16)
  unfold escapeChar at h
  split_ifs at h with h1 h2 h3 h4 h5 h6 h7 h8
  all_goals simp only [List.mem_cons, List.not_mem_nil, or_false] at h
  · rcases h with rfl | rfl <;> decide
  · rcases h with rfl | rfl <;> decide
  · rcases h with rfl | rfl <;> decide
  · rcases h with rfl | rfl <;> decide
  · rcases h with rfl | rfl <;> decide
  · rcases h with rfl | rfl <;> decide
  · rcases h with rfl | rfl <;> decide
  · rcases h with rfl | rfl | rfl | rfl | rfl | rfl
    · decide
    · decide
    · decide
    · decide
    · exact hhigh
    · exact hlow
  · rw [h]
    exact Nat.le_of_not_lt h8

theorem control_notMem_stringChars {c : Char} (hc : c.toNat < 0x20) (s : String) :
    c ∉ stringChars s := by
  intro h
  simp only [stringChars, List.cons_append, List.mem_cons, List.mem_append, List.mem_flatMap,
    List.not_mem_nil, or_false] at h
  rcases h with rfl | ⟨d, -, hd⟩ | rfl
  · exact absurd hc (by decide)
  · exact absurd (visible_of_mem_escapeChar hd) (Nat.not_le.mpr hc)
  · exact absurd hc (by decide)

theorem notMem_intChars {c : Char} (hdigit : c.isDigit = false) (hsign : c ≠ '-') (n : Int) :
    c ∉ intChars n := by
  have hdigits (k : Nat) : c ∉ Nat.toDigits 10 k := fun h =>
    absurd (Nat.isDigit_of_mem_toDigits (by decide) (by decide) h) (by simp [hdigit])
  cases n with
  | ofNat n => exact hdigits n
  | negSucc n =>
    intro h
    rcases List.mem_cons.mp h with h | h
    · exact hsign h
    · exact hdigits _ h

theorem control_notMem_intChars {c : Char} (hc : c.toNat < 0x20) (n : Int) : c ∉ intChars n := by
  refine notMem_intChars ?_ ?_ n
  · refine Bool.eq_false_iff.mpr fun hdigit => ?_
    have hlow : 48 ≤ c.toNat := (Char.isDigit_iff_toNat.mp hdigit).1
    omega
  · rintro rfl
    exact absurd hc (by decide)

/-- The text of an integer tells the integer. -/
theorem intChars_injective : Function.Injective intChars := by
  have hsign (n : Nat) : '-' ∉ Nat.toDigits 10 n := fun h =>
    absurd (Nat.isDigit_of_mem_toDigits (by decide) (by decide) h) (by decide)
  have hdigits (m n : Nat) (h : Nat.toDigits 10 m = Nat.toDigits 10 n) : m = n := by
    rw [← Nat.ofDigitChars_ten_toDigits (n := m), h, Nat.ofDigitChars_ten_toDigits]
  intro m n h
  cases m with
  | ofNat m =>
    cases n with
    | ofNat n => exact congrArg Int.ofNat (hdigits m n h)
    | negSucc n =>
      refine absurd ?_ (hsign m)
      rw [show Nat.toDigits 10 m = '-' :: Nat.toDigits 10 (n + 1) from h]
      exact List.mem_cons_self ..
  | negSucc m =>
    cases n with
    | ofNat n =>
      refine absurd ?_ (hsign n)
      rw [show Nat.toDigits 10 n = '-' :: Nat.toDigits 10 (m + 1) from h.symm]
      exact List.mem_cons_self ..
    | negSucc n =>
      have hsucc := hdigits _ _ (List.cons.inj h).2
      exact congrArg Int.negSucc (Nat.succ.inj hsucc)

theorem control_notMem_of_visible {c : Char} (hc : c.toNat < 0x20) {cs : List Char}
    (hcs : cs.all (fun d => 0x20 ≤ d.toNat) = true) : c ∉ cs := fun h =>
  Nat.not_le.mpr hc (of_decide_eq_true (List.all_eq_true.mp hcs c h))

section Control

variable {floatRepr}

mutual

/-- A text has no control character if the texts of floats have none. -/
theorem control_notMem_chars {c : Char} (hc : c.toNat < 0x20)
    (hfloat : ∀ q, c ∉ (floatRepr q).toList) : ∀ v : Json, c ∉ v.chars floatRepr
  | .null =>
    have hnull : c ∉ "null".toList := control_notMem_of_visible hc (by decide)
    hnull
  | .bool true =>
    have htrue : c ∉ "true".toList := control_notMem_of_visible hc (by decide)
    htrue
  | .bool false =>
    have hfalse : c ∉ "false".toList := control_notMem_of_visible hc (by decide)
    hfalse
  | .int n => control_notMem_intChars hc n
  | .float q => hfloat q
  | .str s => control_notMem_stringChars hc s
  | .arr xs => by
    have hopen : c ∉ ['['] := control_notMem_of_visible hc (by decide)
    have hclose : c ∉ [']'] := control_notMem_of_visible hc (by decide)
    have hxs := control_notMem_elementChars hc hfloat xs
    simp_all [chars]
  | .obj kvs => by
    have hopen : c ∉ ['\x7b'] := control_notMem_of_visible hc (by decide)
    have hclose : c ∉ ['\x7d'] := control_notMem_of_visible hc (by decide)
    have hkvs := control_notMem_entryChars hc hfloat kvs
    simp_all [chars]

theorem control_notMem_elementChars {c : Char} (hc : c.toNat < 0x20)
    (hfloat : ∀ q, c ∉ (floatRepr q).toList) : ∀ xs : List Json, c ∉ elementChars floatRepr xs
  | [] => List.not_mem_nil
  | [x] => control_notMem_chars hc hfloat x
  | x :: y :: xs => by
    have hcomma : c ∉ [',', ' '] := control_notMem_of_visible hc (by decide)
    have hx := control_notMem_chars hc hfloat x
    have hxs := control_notMem_elementChars hc hfloat (y :: xs)
    simp only [elementChars, List.mem_append, not_or]
    exact ⟨⟨hx, hcomma⟩, hxs⟩

theorem control_notMem_entryChars {c : Char} (hc : c.toNat < 0x20)
    (hfloat : ∀ q, c ∉ (floatRepr q).toList) :
    ∀ kvs : List (String × Json), c ∉ entryChars floatRepr kvs
  | [] => List.not_mem_nil
  | [(k, v)] => by
    have hcolon : c ∉ [':', ' '] := control_notMem_of_visible hc (by decide)
    have hk := control_notMem_stringChars hc k
    have hv := control_notMem_chars hc hfloat v
    simp only [entryChars, List.mem_append, not_or]
    exact ⟨⟨hk, hcolon⟩, hv⟩
  | (k, v) :: kv :: kvs => by
    have hcolon : c ∉ [':', ' '] := control_notMem_of_visible hc (by decide)
    have hcomma : c ∉ [',', ' '] := control_notMem_of_visible hc (by decide)
    have hk := control_notMem_stringChars hc k
    have hv := control_notMem_chars hc hfloat v
    have hkvs := control_notMem_entryChars hc hfloat (kv :: kvs)
    simp only [entryChars, List.mem_append, not_or]
    exact ⟨⟨⟨⟨hk, hcolon⟩, hv⟩, hcomma⟩, hkvs⟩

end

theorem newline_notMem_dumps (hfloat : ∀ q, '\n' ∉ (floatRepr q).toList) (v : Json) :
    '\n' ∉ (v.dumps floatRepr).toList := by
  simpa [dumps] using control_notMem_chars (by decide) hfloat v

end Control

/-- The text of an object stands between braces. -/
theorem dumps_obj (kvs : List (String × Json)) :
    dumps floatRepr (.obj kvs) = "\x7b" ++ String.ofList (entryChars floatRepr kvs) ++ "\x7d" := by
  rw [← String.toList_inj]
  simp [dumps, chars]

end Json

end Lib
