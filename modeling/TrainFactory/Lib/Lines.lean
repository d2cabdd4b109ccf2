import TrainFactory.Lib.Bytes
import TrainFactory.Lib.Text
import TrainFactory.Lib.JsonText

/-!
# The lines of a file

A file as the list of its lines, each with its line break. Reading with a size limit returns the
next line, or as much of it as the limit allows.
-/

namespace Lib

/-- `bytes.decode("utf-8")`; `none` where it raises. -/
def decodeUtf8 (bytes : Bytes) : Option String := String.fromUTF8? bytes.toByteArray

theorem decodeUtf8_utf8 (text : String) : decodeUtf8 (utf8 text) = some text := by
  have hbytes : (utf8 text).toByteArray = text.toByteArray := by
    rw [← String.utf8Encode_toList]
    rfl
  unfold decodeUtf8 String.fromUTF8?
  rw [hbytes, dif_pos text.isValidUTF8]
  rfl

/-- `file.readlines()`. -/
def fileLines : Bytes → List Bytes
  | [] => []
  | b :: bytes =>
    if b = newline then [b] :: fileLines bytes
    else
      match fileLines bytes with
      | [] => [[b]]
      | line :: lines => (b :: line) :: lines

@[simp] theorem fileLines_nil : fileLines [] = [] := rfl

theorem fileLines_eq_nil {bytes : Bytes} : fileLines bytes = [] ↔ bytes = [] := by
  cases bytes with
  | nil => simp
  | cons b bytes =>
    unfold fileLines
    split
    · simp
    · split <;> simp

@[simp] theorem flatten_fileLines (bytes : Bytes) : (fileLines bytes).flatten = bytes := by
  induction bytes with
  | nil => rfl
  | cons b bytes ih =>
    unfold fileLines
    split
    · simp [ih]
    · split
      · rename_i h
        simp [fileLines_eq_nil.mp h]
      · rename_i h
        rw [h] at ih
        simpa using ih

theorem fileLines_ne_nil {bytes line : Bytes} (h : line ∈ fileLines bytes) : line ≠ [] := by
  induction bytes generalizing line with
  | nil => simp at h
  | cons b bytes ih =>
    unfold fileLines at h
    split at h
    · rcases List.mem_cons.mp h with rfl | h
      · simp
      · exact ih h
    · split at h
      · rw [List.mem_singleton.mp h]
        simp
      · rename_i heq
        rcases List.mem_cons.mp h with rfl | h
        · simp
        · exact ih (heq ▸ List.mem_cons_of_mem _ h)

theorem length_fileLines_le (bytes : Bytes) : (fileLines bytes).length ≤ bytes.length := by
  induction bytes with
  | nil => simp
  | cons b bytes ih =>
    unfold fileLines
    split
    · simpa using ih
    · split
      · simp
      · rename_i h
        rw [h] at ih
        simp only [List.length_cons] at ih ⊢
        omega

theorem fileLines_tail {bytes line : Bytes} {lines : List Bytes}
    (h : fileLines bytes = line :: lines) : fileLines lines.flatten = lines := by
  induction bytes generalizing line with
  | nil => simp at h
  | cons b bytes ih =>
    unfold fileLines at h
    split at h
    · obtain ⟨-, rfl⟩ := List.cons.inj h
      rw [flatten_fileLines]
    · split at h
      · obtain ⟨-, rfl⟩ := List.cons.inj h
        rfl
      · rename_i heq
        obtain ⟨-, rfl⟩ := List.cons.inj h
        exact ih heq

/-- A read returns the next line up to the limit, and leaves the rest of the file. -/
theorem readLine_fileLines {bytes line : Bytes} {lines : List Bytes} {size : Nat}
    (h : fileLines bytes = line :: lines) :
    readLine size bytes = (line.take size, line.drop size ++ lines.flatten) := by
  induction bytes generalizing size line with
  | nil => simp at h
  | cons b bytes ih =>
    have hbytes : line ++ lines.flatten = b :: bytes := by
      rw [← flatten_fileLines (b :: bytes), h, List.flatten_cons]
    cases size with
    | zero => simp [readLine, hbytes]
    | succ size =>
      unfold fileLines at h
      by_cases hb : b = newline
      · rw [if_pos hb] at h
        obtain ⟨rfl, rfl⟩ := List.cons.inj h
        simp [readLine, hb]
      · rw [if_neg hb] at h
        split at h
        · rename_i heq
          obtain ⟨rfl, rfl⟩ := List.cons.inj h
          obtain rfl := fileLines_eq_nil.mp heq
          cases size <;> simp [readLine, hb]
        · rename_i first rest heq
          obtain ⟨rfl, rfl⟩ := List.cons.inj h
          simp [readLine, hb, ih heq]

/-- A line that fits is read as a whole. -/
theorem readLine_fits {bytes line : Bytes} {lines : List Bytes} {size : Nat}
    (h : fileLines bytes = line :: lines) (hsize : line.length ≤ size) :
    readLine size bytes = (line, lines.flatten) := by
  rw [readLine_fileLines h, List.take_of_length_le hsize, List.drop_of_length_le hsize]
  rfl

theorem readLine_eof (size : Nat) : readLine size [] = ([], []) := by
  cases size <;> rfl

end Lib

/-!
## The lines of a text file

A file that is read in text mode: as UTF-8, with every kind of line break read as one. Lines of
visible text that are written one after the other are read back.
-/

namespace Lib

def universalNewlines : List Char → List Char
  | [] => []
  | '\r' :: '\n' :: cs => '\n' :: universalNewlines cs
  | c :: cs => (if c = '\r' then '\n' else c) :: universalNewlines cs

/-- The lines of a file without the white space around them, other than blank ones; `none` where
reading the file raises `UnicodeDecodeError`. -/
def strippedLines (bytes : Bytes) : Option (List String) :=
  (decodeUtf8 bytes).map fun text =>
    ((split (String.ofList (universalNewlines text.toList)) '\n').map strip).filter (· ≠ "")

def linesText (lines : List String) : String :=
  String.ofList (lines.flatMap fun line => line.toList ++ ['\n'])

/-- A line that is read as it is written. -/
structure IsVisibleLine (line : String) : Prop where
  newline : '\n' ∉ line.toList
  carriageReturn : '\r' ∉ line.toList
  strip_eq : strip line = line
  ne_empty : line ≠ ""

@[simp] theorem linesText_nil : linesText [] = "" := rfl

@[simp] theorem linesText_append (lines lines' : List String) :
    linesText (lines ++ lines') = linesText lines ++ linesText lines' := by
  simp [linesText]

theorem universalNewlines_eq_self {cs : List Char} (h : '\r' ∉ cs) : universalNewlines cs = cs := by
  induction cs with
  | nil => rfl
  | cons c cs ih =>
    obtain ⟨hc, hcs⟩ := not_or.mp fun hmem => h (List.mem_cons.mpr hmem)
    unfold universalNewlines
    split
    · rename_i heq
      cases heq
    · rename_i heq
      exact absurd (List.cons.inj heq).1.symm hc
    · rename_i heq
      obtain ⟨rfl, rfl⟩ := List.cons.inj heq
      rw [if_neg (Ne.symm hc), ih hcs]

theorem splitOn_linesText {lines : List String} (h : ∀ line ∈ lines, '\n' ∉ line.toList) :
    (lines.flatMap fun line => line.toList ++ ['\n']).splitOn '\n' =
      lines.map String.toList ++ [[]] := by
  induction lines with
  | nil => rfl
  | cons line lines ih =>
    have hline := h line (List.mem_cons_self ..)
    have hrest := ih fun line' hline' => h line' (List.mem_cons_of_mem _ hline')
    rw [List.flatMap_cons, List.append_assoc, List.singleton_append, List.splitOn_append_cons_self,
      List.splitOn_eq_singleton hline, hrest]
    rfl

/-- The lines that are written are the lines that are read. -/
theorem strippedLines_linesText {lines : List String} (h : ∀ line ∈ lines, IsVisibleLine line) :
    strippedLines (utf8 (linesText lines)) = some lines := by
  have hreturn : '\r' ∉ (linesText lines).toList := by
    rw [linesText, String.toList_ofList, List.mem_flatMap]
    rintro ⟨line, hline, hmem⟩
    rcases List.mem_append.mp hmem with hmem | hmem
    · exact (h line hline).carriageReturn hmem
    · exact absurd (List.mem_singleton.mp hmem) (by decide)
  have hstrip : lines.map strip = lines := by
    conv_rhs => rw [← List.map_id lines]
    exact List.map_congr_left fun line hline => (h line hline).strip_eq
  have hblank : lines.filter (· ≠ "") = lines := by
    rw [List.filter_eq_self]
    intro line hline
    simpa using (h line hline).ne_empty
  have hempty : ([strip (String.ofList [])].filter (· ≠ "")) = [] := rfl
  rw [strippedLines, decodeUtf8_utf8, Option.map_some, universalNewlines_eq_self hreturn, split,
    linesText, String.toList_ofList, String.toList_ofList,
    splitOn_linesText fun line hline => (h line hline).newline, List.map_append, List.map_append,
    List.filter_append, List.map_map, List.map_singleton, List.map_singleton, hempty,
    List.append_nil]
  have hstripped : (lines.map String.toList).map (strip ∘ String.ofList) = lines.map strip := by
    rw [List.map_map]
    exact List.map_congr_left fun line _ => congrArg strip String.ofList_toList
  rw [hstripped, hstrip, hblank]

theorem isVisibleLine_of_ends {first last : Char} {middle : List Char}
    (hfirst : isSpace first = false) (hlast : isSpace last = false)
    (hnewline : '\n' ∉ first :: middle ++ [last]) (hreturn : '\r' ∉ first :: middle ++ [last]) :
    IsVisibleLine (String.ofList (first :: middle ++ [last])) where
  newline := by simpa using hnewline
  carriageReturn := by simpa using hreturn
  strip_eq := by simp [strip, hfirst, hlast]
  ne_empty := by
    intro h
    have := congrArg String.toList h
    simp at this

/-- The text of an object stands in one line. -/
theorem isVisibleLine_dumps {floatRepr : Rat → String}
    (hfloat : ∀ c : Char, c.toNat < 0x20 → ∀ q, c ∉ (floatRepr q).toList)
    (kvs : List (String × Json)) : IsVisibleLine ((Json.obj kvs).dumps floatRepr) := by
  have hcontrol (c : Char) (hc : c.toNat < 0x20) : c ∉ (Json.obj kvs).chars floatRepr :=
    Json.control_notMem_chars hc (hfloat c hc) (.obj kvs)
  rw [Json.dumps, Json.chars]
  exact isVisibleLine_of_ends (by decide) (by decide) (hcontrol '\n' (by decide))
    (hcontrol '\r' (by decide))

end Lib

/-!
## Lines of a text

`str.splitlines()`: the lines of a text without their line breaks, of which Unicode has more than
the line feed.
-/

namespace Lib

def isLineBreak (c : Char) : Bool :=
  c = '\n' || c = '\r' || c = '\x0b' || c = '\x0c' || c = '\x1c' || c = '\x1d' || c = '\x1e' ||
    c = '\x85' || c = '\u2028' || c = '\u2029'

theorem isSpace_of_isLineBreak {c : Char} (h : isLineBreak c = true) : isSpace c = true := by
  simp only [isLineBreak, Bool.or_eq_true, decide_eq_true_eq] at h
  obtain (((((((((rfl | rfl) | rfl) | rfl) | rfl) | rfl) | rfl) | rfl) | rfl) | rfl) := h <;> rfl

def splitLinesFrom (line : List Char) : List Char → List (List Char)
  | [] => if line = [] then [] else [line]
  | '\r' :: '\n' :: cs => line :: splitLinesFrom [] cs
  | c :: cs => if isLineBreak c then line :: splitLinesFrom [] cs else splitLinesFrom (line ++ [c]) cs

def splitLines (text : String) : List String :=
  (splitLinesFrom [] text.toList).map String.ofList

def lineFeedText (lines : List String) : String := join "\n" lines ++ "\n"

theorem splitLinesFrom_nil (line : List Char) :
    splitLinesFrom line [] = if line = [] then [] else [line] := rfl

theorem splitLinesFrom_carriageReturn (line cs : List Char) :
    splitLinesFrom line ('\r' :: '\n' :: cs) = line :: splitLinesFrom [] cs := rfl

theorem splitLinesFrom_cons {line cs : List Char} {c : Char}
    (hno : ∀ rest, c = '\r' → cs = '\n' :: rest → False) :
    splitLinesFrom line (c :: cs) =
      if isLineBreak c then line :: splitLinesFrom [] cs else splitLinesFrom (line ++ [c]) cs := by
  rw [splitLinesFrom.eq_def]
  split
  · next h => cases h
  · next h => exact absurd (List.cons.inj h).2 (hno _ (List.cons.inj h).1)
  · next h =>
    obtain ⟨rfl, rfl⟩ := List.cons.inj h
    rfl

theorem splitLinesFrom_of_break {line cs : List Char} {c : Char} (hc : isLineBreak c = true)
    (hr : c ≠ '\r') : splitLinesFrom line (c :: cs) = line :: splitLinesFrom [] cs := by
  rw [splitLinesFrom_cons fun _ h _ => hr h, if_pos hc]

theorem splitLinesFrom_of_char {line cs : List Char} {c : Char} (hc : isLineBreak c = false) :
    splitLinesFrom line (c :: cs) = splitLinesFrom (line ++ [c]) cs := by
  have hr : c ≠ '\r' := by
    rintro rfl
    cases hc
  rw [splitLinesFrom_cons fun _ h _ => hr h, if_neg (by simp [hc])]

theorem splitLinesFrom_line (begun : List Char) {line rest : List Char}
    (h : ∀ c ∈ line, isLineBreak c = false) :
    splitLinesFrom begun (line ++ '\n' :: rest) = (begun ++ line) :: splitLinesFrom [] rest := by
  induction line generalizing begun with
  | nil => rw [List.nil_append, List.append_nil, splitLinesFrom_of_break (by decide) (by decide)]
  | cons c line ih =>
    rw [List.cons_append, splitLinesFrom_of_char (h c (List.mem_cons_self ..)),
      ih (begun ++ [c]) fun c' hc' => h c' (List.mem_cons_of_mem _ hc'), List.append_assoc]
    rfl

theorem toList_lineFeedText_cons (line : String) (lines : List String) (h : lines ≠ []) :
    (lineFeedText (line :: lines)).toList = line.toList ++ '\n' :: (lineFeedText lines).toList := by
  cases lines with
  | nil => exact absurd rfl h
  | cons next lines =>
    have hjoin : join "\n" (line :: next :: lines) = line ++ "\n" ++ join "\n" (next :: lines) :=
      String.intercalate_cons_cons
    rw [lineFeedText, hjoin, lineFeedText]
    simp

theorem splitLines_lineFeedText {lines : List String} (hne : lines ≠ [])
    (h : ∀ line ∈ lines, ∀ c ∈ line.toList, isLineBreak c = false) :
    splitLines (lineFeedText lines) = lines := by
  induction lines with
  | nil => exact absurd rfl hne
  | cons line lines ih =>
    have hline := h line (List.mem_cons_self ..)
    cases lines with
    | nil =>
      have htext : (lineFeedText [line]).toList = line.toList ++ ['\n'] := by
        simp [lineFeedText, join]
      rw [splitLines, htext, splitLinesFrom_line [] hline]
      simp [splitLinesFrom_nil]
    | cons next lines =>
      have hrest := ih (List.cons_ne_nil _ _) fun line' hline' =>
        h line' (List.mem_cons_of_mem _ hline')
      rw [splitLines] at hrest
      rw [splitLines, toList_lineFeedText_cons _ _ (List.cons_ne_nil _ _),
        splitLinesFrom_line [] hline, List.map_cons, hrest, List.nil_append, String.ofList_toList]

theorem notBreak_of_mem_splitLinesFrom {begun cs line : List Char}
    (hbegun : ∀ c ∈ begun, isLineBreak c = false) (h : line ∈ splitLinesFrom begun cs) :
    ∀ c ∈ line, isLineBreak c = false := by
  induction begun, cs using splitLinesFrom.induct with
  | case1 => simp [splitLinesFrom_nil] at h
  | case2 begun hne =>
    rw [splitLinesFrom_nil, if_neg hne, List.mem_singleton] at h
    rwa [h]
  | case3 begun cs ih =>
    rw [splitLinesFrom_carriageReturn] at h
    rcases List.mem_cons.mp h with rfl | h
    · exact hbegun
    · exact ih (fun c hc => nomatch hc) h
  | case4 begun c cs hno hbreak ih =>
    rw [splitLinesFrom_cons hno, if_pos hbreak] at h
    rcases List.mem_cons.mp h with rfl | h
    · exact hbegun
    · exact ih (fun c hc => nomatch hc) h
  | case5 begun c cs hno hbreak ih =>
    rw [splitLinesFrom_cons hno, if_neg hbreak] at h
    refine ih (fun c' hc' => ?_) h
    rcases List.mem_append.mp hc' with hc' | hc'
    · exact hbegun c' hc'
    · rw [List.mem_singleton.mp hc']
      simpa using hbreak

theorem notBreak_of_mem_splitLines {text line : String} (h : line ∈ splitLines text) :
    ∀ c ∈ line.toList, isLineBreak c = false := by
  obtain ⟨cs, hcs, rfl⟩ := List.mem_map.mp h
  rw [String.toList_ofList]
  have hnone : ∀ c ∈ ([] : List Char), isLineBreak c = false := fun c hc => nomatch hc
  exact notBreak_of_mem_splitLinesFrom hnone hcs

example : splitLines "a\x0bb\r\n\nc" = ["a", "b", "", "c"] := by decide

end Lib
