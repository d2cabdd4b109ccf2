import Mathlib.Data.List.DropRight
import Mathlib.Data.List.Basic

/-!
# Text

The string operations of the Python standard library that the program uses.
-/

namespace Lib

/-- `str.isspace` of one character: Unicode white space and the separators `\x1c`..`\x1f`. -/
def isSpace (c : Char) : Bool :=
  let n := c.toNat
  (9 ≤ n && n ≤ 13) || (28 ≤ n && n ≤ 32) || n = 0x85 || n = 0xa0 || n = 0x1680 ||
    (0x2000 ≤ n && n ≤ 0x200a) || n = 0x2028 || n = 0x2029 || n = 0x202f || n = 0x205f ||
    n = 0x3000

def strip (s : String) : String :=
  String.ofList (((s.toList.dropWhile isSpace).reverse.dropWhile isSpace).reverse)

theorem strip_strip (s : String) : strip (strip s) = strip s := by
  have hstrip : ∀ s : String,
      (strip s).toList = (s.toList.dropWhile isSpace).rdropWhile isSpace := by
    intro s
    rw [strip, String.toList_ofList, List.rdropWhile]
  have hfront : ((s.toList.dropWhile isSpace).rdropWhile isSpace).dropWhile isSpace =
      (s.toList.dropWhile isSpace).rdropWhile isSpace := by
    rw [List.dropWhile_eq_self_iff]
    intro hlt
    have hinitial := List.rdropWhile_prefix isSpace (s.toList.dropWhile isSpace)
    have hlt' := Nat.lt_of_lt_of_le hlt hinitial.length_le
    rw [hinitial.getElem hlt]
    exact List.dropWhile_get_zero_not isSpace _ hlt'
  refine String.toList_injective ?_
  rw [hstrip, hstrip, hfront, List.rdropWhile_idempotent]

/-- A text without white space has none around it. -/
theorem strip_of_isSpace {text : String} (h : ∀ c ∈ text.toList, isSpace c = false) :
    strip text = text := by
  have hself (cs : List Char) (hcs : ∀ c ∈ cs, isSpace c = false) : cs.dropWhile isSpace = cs := by
    cases cs with
    | nil => rfl
    | cons c cs =>
      rw [List.dropWhile_cons_of_neg]
      rw [hcs c (List.mem_cons_self ..)]
      exact Bool.false_ne_true
  rw [strip, hself _ h, hself _ fun c hc => h c (List.mem_reverse.mp hc), List.reverse_reverse,
    String.ofList_toList]

def replaceChar (s : String) (c : Char) (new : String) : String :=
  String.ofList (s.toList.flatMap fun d => if d = c then new.toList else [d])

/-- `text.endswith(suffix)`. -/
def endsWith (text suffix : String) : Bool := suffix.toList.isSuffixOf text.toList

/-- `text[:-n]`. -/
def dropEnd (text : String) (n : Nat) : String :=
  String.ofList (text.toList.take (text.toList.length - n))

/-- `text.rstrip(c)`, of a single character. -/
def rstripChar (text : String) (c : Char) : String :=
  String.ofList (text.toList.rdropWhile (· = c))

/-- `text.lstrip(c)`, of a single character. -/
def lstripChar (text : String) (c : Char) : String :=
  String.ofList (text.toList.dropWhile (· = c))

def containsText (part text : String) : Bool :=
  text.toList.tails.any fun tail => part.toList.isPrefixOf tail

/-- What is left of a text when its occurrences of `old` become `new`; the first `skip` characters
belong to an occurrence. -/
def replaceFrom (old new : List Char) : Nat → List Char → List Char
  | _, [] => []
  | skip + 1, _ :: cs => replaceFrom old new skip cs
  | 0, c :: cs =>
    if old.isPrefixOf (c :: cs) then new ++ replaceFrom old new (old.length - 1) cs
    else c :: replaceFrom old new 0 cs

/-- `text.replace(old, new)`, of a text that is not empty. -/
def replaceText (text old new : String) : String :=
  String.ofList (replaceFrom old.toList new.toList 0 text.toList)

example : replaceText "http://localhost:80/localhost" "localhost" "h" = "http://h:80/h" := by decide

end Lib

/-!
## Decimal numerals

`int(text)` of the Python standard library: surrounding white space, a sign, decimal digits of any
script with single underscores between them, and at most 4300 digits. Also `str.split`,
`str.startswith` and `str.join`, which take such texts apart.
-/

namespace Lib

/-- The code points of the digit zero of each decimal script. -/
def decimalZeros : List Nat :=
  [0x30, 0x660, 0x6f0, 0x7c0, 0x966, 0x9e6, 0xa66, 0xae6, 0xb66, 0xbe6, 0xc66, 0xce6, 0xd66, 0xde6,
    0xe50, 0xed0, 0xf20, 0x1040, 0x1090, 0x17e0, 0x1810, 0x1946, 0x19d0, 0x1a80, 0x1a90, 0x1b50,
    0x1bb0, 0x1c40, 0x1c50, 0xa620, 0xa8d0, 0xa900, 0xa9d0, 0xa9f0, 0xaa50, 0xabf0, 0xff10, 0x104a0,
    0x10d30, 0x11066, 0x110f0, 0x11136, 0x111d0, 0x112f0, 0x11450, 0x114d0, 0x11650, 0x116c0,
    0x11730, 0x118e0, 0x11950, 0x11c50, 0x11d50, 0x11da0, 0x11f50, 0x16a60, 0x16ac0, 0x16b50,
    0x1d7ce, 0x1d7d8, 0x1d7e2, 0x1d7ec, 0x1d7f6, 0x1e140, 0x1e2f0, 0x1e4f0, 0x1e950, 0x1fbf0]

def decimalDigit (c : Char) : Option Nat :=
  (decimalZeros.find? fun start => start ≤ c.toNat && c.toNat < start + 10).map (c.toNat - ·)

/-- The digits of a numeral, with single underscores between them. -/
def decimalDigits : List Char → Option (List Nat)
  | [] => none
  | [c] => (decimalDigit c).map fun d => [d]
  | c :: '_' :: cs => do
    let d ← decimalDigit c
    let ds ← decimalDigits cs
    pure (d :: ds)
  | c :: c' :: cs => do
    let d ← decimalDigit c
    let ds ← decimalDigits (c' :: cs)
    pure (d :: ds)

def maxStrDigits : Nat := 4300

/-- The number with the given digits. -/
def ofDigits (ds : List Nat) : Nat := ds.foldl (fun n d => 10 * n + d) 0

/-- A numeral without sign, of a length that is converted. -/
def decimalNat (cs : List Char) : Option Nat :=
  match decimalDigits cs with
  | none => none
  | some ds => if ds.length ≤ maxStrDigits then some (ofDigits ds) else none

/-- `int(text)`; `none` where it raises `ValueError`. -/
def parseInt (text : String) : Option Int :=
  match (strip text).toList with
  | '-' :: cs => (decimalNat cs).map fun n => -(n : Int)
  | '+' :: cs => (decimalNat cs).map fun n => (n : Int)
  | cs => (decimalNat cs).map fun n => (n : Int)

/-- `text.split(sep)`, of a single character. -/
def split (text : String) (sep : Char) : List String := (text.toList.splitOn sep).map String.ofList

/-- `text.startswith(start)`. -/
def startsWith (text start : String) : Bool := start.toList.isPrefixOf text.toList

/-- `text[n:]`. -/
def dropChars (text : String) (n : Nat) : String := String.ofList (text.toList.drop n)

/-- `sep.join(parts)`. -/
def join (sep : String) (parts : List String) : String := sep.intercalate parts

example : parseInt " -1_000\n" = some (-1000) := by decide
example : parseInt "1__0" = none := by decide
example : split "auto:2:x" ':' = ["auto", "2", "x"] := by decide

end Lib
