import Mathlib.Algebra.BigOperators.Group.List.Basic
import Mathlib.Data.List.Basic

/-!
# Bytes and lines

The bytes of a text in UTF-8, and reading a file of bytes line by line: `readline(size)`, which
returns at most `size` bytes, and `strip()` of bytes.
-/

namespace Lib

abbrev Bytes := List UInt8

/-- `b"\n"`. -/
def newline : UInt8 := 10

/-! ## UTF-8 -/

/-- `text.encode("utf-8")`. -/
def utf8 (text : String) : Bytes := text.toList.flatMap String.utf8EncodeChar

@[simp] theorem utf8_append (s t : String) : utf8 (s ++ t) = utf8 s ++ utf8 t := by
  simp [utf8]

theorem length_utf8_ofList (cs : List Char) :
    (utf8 (String.ofList cs)).length = (String.ofList cs).utf8ByteSize := by
  induction cs with
  | nil => simp [utf8]
  | cons c cs ih =>
    have hcons : String.ofList (c :: cs) = String.singleton c ++ String.ofList cs := by
      simp
    rw [hcons, utf8_append, List.length_append, ih, String.utf8ByteSize_append]
    simp [utf8]

/-- `len(text.encode("utf-8"))`. -/
@[simp] theorem length_utf8 (text : String) : (utf8 text).length = text.utf8ByteSize := by
  simpa using length_utf8_ofList text.toList

/-- A byte below `0x80` stands for itself only. -/
theorem mem_utf8EncodeChar_of_lt {c : Char} {b : UInt8} (hb : b.toNat < 128)
    (h : b ∈ String.utf8EncodeChar c) : b.toNat = c.toNat := by
  have hmod (n k : Nat) (hk : 128 ≤ k) (hlt : n + k < 256) : (UInt8.ofNat (n + k)).toNat ≥ 128 := by
    rw [UInt8.toNat_ofNat', Nat.mod_eq_of_lt hlt]
    omega
  have hbig (n k : Nat) (hk : 128 ≤ k) (hlt : n + k < 256) : b ≠ UInt8.ofNat (n + k) := by
    rintro rfl
    have := hmod n k hk hlt
    omega
  unfold String.utf8EncodeChar at h
  have hv : c.val.toNat = c.toNat := rfl
  dsimp only at h
  split_ifs at h with h1 h2 h3
  · obtain rfl := List.mem_singleton.mp h
    rw [UInt8.toNat_ofNat', hv, Nat.mod_eq_of_lt (by omega)]
  all_goals simp only [List.mem_cons, List.not_mem_nil, or_false] at h
  · rcases h with h | h <;> exact absurd h (hbig _ _ (by omega) (by omega))
  · rcases h with h | h | h <;> exact absurd h (hbig _ _ (by omega) (by omega))
  · rcases h with h | h | h | h <;> exact absurd h (hbig _ _ (by omega) (by omega))

/-- A text without line breaks has no line breaks in UTF-8. -/
theorem newline_notMem_utf8 {text : String} (h : '\n' ∉ text.toList) : newline ∉ utf8 text := by
  intro hmem
  obtain ⟨c, hc, hb⟩ := List.mem_flatMap.mp hmem
  have hval := mem_utf8EncodeChar_of_lt (by decide) hb
  have hnewline : c = '\n' := Char.toNat_inj.mp (by rw [← hval]; rfl)
  exact h (hnewline ▸ hc)

/-! ## Reading lines -/

/-- `readline(size)`: the bytes up to and with the next line break, at most `size`, and the rest. -/
def readLine : Nat → Bytes → Bytes × Bytes
  | 0, bytes => ([], bytes)
  | _ + 1, [] => ([], [])
  | size + 1, b :: bytes =>
    if b = newline then ([b], bytes) else ((b :: (readLine size bytes).1), (readLine size bytes).2)

theorem readLine_append (size : Nat) (bytes : Bytes) :
    (readLine size bytes).1 ++ (readLine size bytes).2 = bytes := by
  induction size generalizing bytes with
  | zero => simp [readLine]
  | succ size ih =>
    cases bytes with
    | nil => simp [readLine]
    | cons b bytes =>
      by_cases hb : b = newline
      · simp [readLine, hb]
      · simp [readLine, hb, ih]

/-- A read of at least one byte makes progress. -/
theorem length_readLine_lt {size : Nat} {bytes : Bytes} (h : (readLine (size + 1) bytes).1 ≠ []) :
    (readLine (size + 1) bytes).2.length < bytes.length := by
  have happend := congrArg List.length (readLine_append (size + 1) bytes)
  rw [List.length_append] at happend
  have hpos := List.length_pos_iff.mpr h
  omega

/-- A line that fits is read as a whole. -/
theorem readLine_line {size : Nat} {l bytes : Bytes} (hl : newline ∉ l) (hsize : l.length < size) :
    readLine size (l ++ newline :: bytes) = (l ++ [newline], bytes) := by
  induction l generalizing size with
  | nil =>
    obtain ⟨n, rfl⟩ := Nat.exists_eq_succ_of_ne_zero (Nat.ne_of_gt hsize)
    simp [readLine]
  | cons b l ih =>
    obtain ⟨n, rfl⟩ := Nat.exists_eq_succ_of_ne_zero (Nat.ne_of_gt (Nat.zero_lt_of_lt hsize))
    obtain ⟨hb, hl⟩ := not_or.mp (fun h => hl (List.mem_cons.mpr h))
    rw [List.length_cons] at hsize
    have hrest := ih hl (Nat.lt_of_succ_lt_succ hsize)
    simp [readLine, Ne.symm hb, hrest]

/-! ## Stripping -/

def isSpaceByte (b : UInt8) : Bool := (9 ≤ b && b ≤ 13) || b = 32

/-- `line.strip()`, of bytes. -/
def stripBytes (bytes : Bytes) : Bytes :=
  ((bytes.dropWhile isSpaceByte).reverse.dropWhile isSpaceByte).reverse

/-- A line between visible bytes loses its line break only. -/
theorem stripBytes_line {first last : UInt8} {middle : Bytes} (hfirst : isSpaceByte first = false)
    (hlast : isSpaceByte last = false) :
    stripBytes (first :: middle ++ [last] ++ [newline]) = first :: middle ++ [last] := by
  have hnewline : isSpaceByte newline = true := rfl
  simp [stripBytes, hfirst, hlast, hnewline]

end Lib
