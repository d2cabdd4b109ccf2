import TrainFactory.Lib.JsonText
import TrainFactory.Lib.Bytes
import Mathlib.Data.List.Sort

/-!
# The canonical text of a JSON value

`json.dumps(value, ensure_ascii=False, sort_keys=True, separators=(",", ":"))`. The text of a string
can be read back from the start of a longer text.
-/

namespace Lib

namespace Json

def commaChars (texts : List (List Char)) : List Char := [','].intercalate texts

def entryText (entry : String × List Char) : List Char := stringChars entry.1 ++ ':' :: entry.2

variable (floatRepr : Rat → String)

mutual

def canonicalChars : Json → List Char
  | .null => "null".toList
  | .bool b => if b then "true".toList else "false".toList
  | .int n => intChars n
  | .float q => (floatRepr q).toList
  | .str s => stringChars s
  | .arr xs => '[' :: commaChars (canonicalElements xs) ++ [']']
  | .obj kvs =>
    '{' :: commaChars (((canonicalEntries kvs).insertionSort fun x y => x.1 ≤ y.1).map entryText) ++
      ['}']

def canonicalElements : List Json → List (List Char)
  | [] => []
  | x :: xs => canonicalChars x :: canonicalElements xs

/-- The keys and the texts of the values of an object. -/
def canonicalEntries : List (String × Json) → List (String × List Char)
  | [] => []
  | (k, v) :: kvs => (k, canonicalChars v) :: canonicalEntries kvs

end

/-- The canonical text of a value. -/
def canonical (v : Json) : String := String.ofList (v.canonicalChars floatRepr)

/-! ## Reading strings back -/

/-- The value of a hexadecimal digit. -/
def hexValue (c : Char) : Nat := "0123456789abcdef".toList.idxOf c

/-- The first character of an escaped text, and the rest. -/
def unescapeChar : List Char → Option (Char × List Char)
  | '\\' :: 'n' :: cs => some ('\n', cs)
  | '\\' :: 'r' :: cs => some ('\r', cs)
  | '\\' :: 't' :: cs => some ('\t', cs)
  | '\\' :: 'f' :: cs => some ('\x0c', cs)
  | '\\' :: 'b' :: cs => some ('\x08', cs)
  | '\\' :: 'u' :: '0' :: '0' :: c :: d :: cs =>
    some (Char.ofNat (16 * hexValue c + hexValue d), cs)
  | '\\' :: c :: cs => some (c, cs)
  | c :: cs => some (c, cs)
  | [] => none

theorem unescapeChar_escapeChar (c : Char) (cs : List Char) :
    unescapeChar (escapeChar c ++ cs) = some (c, cs) := by
  unfold escapeChar
  split_ifs with h1 h2 h3 h4 h5 h6 h7 h8
  · rw [h1]
    rfl
  · rw [h2]
    rfl
  · rw [h3]
    rfl
  · rw [h4]
    rfl
  · rw [h5]
    rfl
  · rw [h6]
    rfl
  · rw [h7]
    rfl
  · have hchar : Char.ofNat (16 * hexValue (hexDigit (c.toNat / 16)) +
        hexValue (hexDigit (c.toNat % 16))) = c := by
      have hn : ∀ n < 0x20, 16 * hexValue (hexDigit (n / 16)) + hexValue (hexDigit (n % 16)) = n := by
        decide
      rw [hn _ h8, Char.ofNat_toNat]
    simp only [List.cons_append, List.nil_append, unescapeChar, hchar]
  · rw [List.cons_append, List.nil_append]
    unfold unescapeChar
    split <;> simp_all

theorem escapeChar_ne_quote (c : Char) (cs ds : List Char) : escapeChar c ++ cs ≠ '"' :: ds := by
  unfold escapeChar
  split_ifs with h1 <;> simp_all

/-- The text of a string ends where it ends. -/
theorem stringChars_append_inj {s t : String} {cs ds : List Char}
    (h : stringChars s ++ cs = stringChars t ++ ds) : s = t ∧ cs = ds := by
  have hbody : ∀ xs ys : List Char,
      xs.flatMap escapeChar ++ '"' :: cs = ys.flatMap escapeChar ++ '"' :: ds →
        xs = ys ∧ cs = ds := by
    intro xs
    induction xs with
    | nil =>
      intro ys hys
      cases ys with
      | nil => exact ⟨rfl, (List.cons.inj hys).2⟩
      | cons y ys =>
        rw [List.flatMap_cons, List.append_assoc] at hys
        exact absurd hys.symm (escapeChar_ne_quote y _ _)
    | cons x xs ih =>
      intro ys hys
      cases ys with
      | nil =>
        rw [List.flatMap_cons, List.append_assoc] at hys
        exact absurd hys (escapeChar_ne_quote x _ _)
      | cons y ys =>
        rw [List.flatMap_cons, List.flatMap_cons, List.append_assoc, List.append_assoc] at hys
        have hread := congrArg unescapeChar hys
        rw [unescapeChar_escapeChar, unescapeChar_escapeChar] at hread
        obtain ⟨hxy, hrest⟩ := Prod.mk.inj (Option.some.inj hread)
        obtain ⟨hxs, hcs⟩ := ih ys hrest
        exact ⟨by rw [hxy, hxs], hcs⟩
  obtain ⟨hst, hcs⟩ := hbody s.toList t.toList (by simpa [stringChars] using h)
  exact ⟨String.toList_injective hst, hcs⟩

end Json

end Lib

/-!
## The compact text of a JSON value

`json.dumps(value, ensure_ascii=False, separators=(",", ":"))`, and how many bytes it has.
-/

namespace Lib

namespace Json

variable (floatRepr : Rat → String)

mutual

def compactChars : Json → List Char
  | .null => "null".toList
  | .bool b => if b then "true".toList else "false".toList
  | .int n => intChars n
  | .float q => (floatRepr q).toList
  | .str s => stringChars s
  | .arr xs => '[' :: commaChars (compactElements xs) ++ [']']
  | .obj kvs => '{' :: commaChars (compactEntries kvs) ++ ['}']

def compactElements : List Json → List (List Char)
  | [] => []
  | x :: xs => compactChars x :: compactElements xs

def compactEntries : List (String × Json) → List (List Char)
  | [] => []
  | (k, v) :: kvs => entryText (k, compactChars v) :: compactEntries kvs

end

/-- The compact text of a value. -/
def compact (v : Json) : String := String.ofList (v.compactChars floatRepr)

theorem compactElements_eq_map (xs : List Json) :
    compactElements floatRepr xs = xs.map (compactChars floatRepr) := by
  induction xs with
  | nil => rfl
  | cons x xs ih => rw [compactElements, ih, List.map_cons]

end Json

/-! ## Bytes -/

def charBytes (cs : List Char) : Nat := (cs.map Char.utf8Size).sum

@[simp] theorem charBytes_nil : charBytes [] = 0 := rfl

@[simp] theorem charBytes_cons (c : Char) (cs : List Char) :
    charBytes (c :: cs) = c.utf8Size + charBytes cs := by
  rw [charBytes, List.map_cons, List.sum_cons, charBytes]

@[simp] theorem charBytes_append (cs ds : List Char) :
    charBytes (cs ++ ds) = charBytes cs + charBytes ds := by
  rw [charBytes, List.map_append, List.sum_append, charBytes, charBytes]

theorem length_utf8_eq_charBytes (cs : List Char) :
    (utf8 (String.ofList cs)).length = charBytes cs := by
  rw [utf8, String.toList_ofList, List.length_flatMap, charBytes]
  simp only [String.length_utf8EncodeChar]

/-- Characters of one byte each. -/
theorem charBytes_of_ascii {cs : List Char} (h : ∀ c ∈ cs, c.utf8Size = 1) :
    charBytes cs = cs.length := by
  induction cs with
  | nil => rfl
  | cons c cs ih =>
    rw [charBytes_cons, h c List.mem_cons_self, ih fun d hd => h d (List.mem_cons_of_mem c hd),
      List.length_cons, Nat.add_comm]

/-- A comma stands before every text but the first. -/
theorem charBytes_commaChars_cons (text : List Char) (texts : List (List Char)) :
    charBytes (Json.commaChars (text :: texts)) =
      charBytes text + (texts.map fun t => 1 + charBytes t).sum := by
  induction texts generalizing text with
  | nil => simp [Json.commaChars]
  | cons next texts ih =>
    have hcons : Json.commaChars (text :: next :: texts) =
        text ++ [','] ++ Json.commaChars (next :: texts) := List.intercalate_cons_cons
    have hcomma : ','.utf8Size = 1 := rfl
    rw [hcons, charBytes_append, charBytes_append, ih next, charBytes_cons, charBytes_nil, hcomma,
      List.map_cons, List.sum_cons]
    omega

theorem charBytes_stringChars (s : String) :
    charBytes (Json.stringChars s) =
      1 + (s.toList.map fun c => charBytes (Json.escapeChar c)).sum + 1 := by
  have hquote : '"'.utf8Size = 1 := rfl
  have hflat : ∀ cs : List Char, charBytes (cs.flatMap Json.escapeChar) =
      (cs.map fun c => charBytes (Json.escapeChar c)).sum := by
    intro cs
    induction cs with
    | nil => rfl
    | cons c cs ih => rw [List.flatMap_cons, charBytes_append, ih, List.map_cons, List.sum_cons]
  rw [Json.stringChars, charBytes_append, charBytes_cons, charBytes_cons, charBytes_nil, hflat,
    hquote]

end Lib
