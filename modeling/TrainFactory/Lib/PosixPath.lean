import TrainFactory.Lib.Text
import TrainFactory.Lib.JsonText

/-!
# POSIX paths

The functions of `os.path` that compute on the text of a path, and what `urllib.parse.urlsplit`
tells of a URL. Resolving a path is normalization here: there are no symbolic links.
-/

namespace Lib

def isAbs (path : String) : Bool := startsWith path "/"

/-- `os.path.join(path, name)`. -/
def joinPath (path name : String) : String :=
  if isAbs name then name
  else if path = "" ∨ path.toList.getLast? = some '/' then path ++ name
  else path ++ "/" ++ name

def normComponents (rooted : Bool) : List String → List String → List String
  | kept, [] => kept.reverse
  | kept, comp :: comps =>
    if comp = "" ∨ comp = "." then normComponents rooted kept comps
    else if comp ≠ ".." ∨ (rooted = false ∧ kept = []) ∨ kept.head? = some ".." then
      normComponents rooted (comp :: kept) comps
    else normComponents rooted kept.tail comps

/-- The slashes that `os.path.normpath` keeps at the start of a path: two stay two. -/
def initialSlashes (path : String) : String :=
  if startsWith path "//" && !startsWith path "///" then "//" else if isAbs path then "/" else ""

def normPath (path : String) : String :=
  let slashes := initialSlashes path
  let text := slashes ++ join "/" (normComponents (slashes ≠ "") [] (split path '/'))
  if text = "" then "." else text

structure Directories where
  /-- `os.getcwd()`. -/
  cwd : String
  /-- The home directory of a user, by name; the one of the process under the empty name. -/
  home : String → Option String

variable (dirs : Directories)

def Directories.absPath (path : String) : String :=
  normPath (if isAbs path then path else joinPath dirs.cwd path)

def Directories.expandUser (path : String) : String :=
  match path.toList with
  | '~' :: cs =>
    let name := cs.takeWhile (· ≠ '/')
    let rest := cs.dropWhile (· ≠ '/')
    match dirs.home (String.ofList name) with
    | none => path
    | some home =>
      let text := (home.toList.reverse.dropWhile (· = '/')).reverse ++ rest
      if text = [] then "/" else String.ofList text
  | _ => path

/-- `str(Path(path).resolve())`, where no component is a symbolic link. A path with a null character
cannot be looked up: then `os.path.abspath` of it. -/
def Directories.resolve (path : String) : String :=
  let full := if isAbs path then path else joinPath dirs.cwd path
  if '\x00' ∈ path.toList then dirs.absPath path
  else "/" ++ join "/" (normComponents true [] (split full '/'))

def pathComponents (path : String) : List String :=
  (split path '/').filter fun comp => comp ≠ "" && comp ≠ "."

def commonPrefix {α : Type} [DecidableEq α] : List α → List α → List α
  | x :: xs, y :: ys => if x = y then x :: commonPrefix xs ys else []
  | _, _ => []

/-- `os.path.commonpath` of two paths; `none` where it raises `ValueError`. -/
def commonPath (left right : String) : Option String :=
  if isAbs left = isAbs right then
    some ((if isAbs left then "/" else "") ++
      join "/" (commonPrefix (pathComponents left) (pathComponents right)))
  else none

/-! ## URLs -/

/-- What `urlsplit` tells of a URL: its scheme, its network location and its path. -/
structure SplitUrl where
  scheme : List Char
  netloc : List Char
  path : List Char
deriving DecidableEq

def isSchemeChar (c : Char) : Bool := c.isAlphanum || c = '+' || c = '-' || c = '.'

/-- The scheme before the first colon, in lower case, and what follows it. -/
def splitScheme (url : List Char) : List Char × List Char :=
  let scheme := url.takeWhile (· ≠ ':')
  if ':' ∈ url ∧ scheme.all isSchemeChar ∧ (scheme.head?.map Char.isAlpha).getD false then
    (scheme.map Char.toLower, url.drop (scheme.length + 1))
  else ([], url)

/-- The network location after two slashes, and what follows it. -/
def splitNetloc : List Char → List Char × List Char
  | '/' :: '/' :: url =>
    (url.takeWhile fun c => c ≠ '/' && c ≠ '?' && c ≠ '#',
      url.dropWhile fun c => c ≠ '/' && c ≠ '?' && c ≠ '#')
  | url => ([], url)

/-- `urlsplit(url)`; `none` where it raises `ValueError`: one square bracket without the other, or a
network location that `rejects` tells to hold no address between brackets, or characters that
compatibility normalization turns into delimiters. -/
def urlsplit (rejects : List Char → Bool) (url : String) : Option SplitUrl :=
  let stripped := (url.toList.dropWhile fun c => c.toNat ≤ 32).filter fun c =>
    c ≠ '\t' && c ≠ '\r' && c ≠ '\n'
  let (scheme, rest) := splitScheme stripped
  let (netloc, rest) := splitNetloc rest
  if ('[' ∈ netloc) ≠ (']' ∈ netloc) ∨ rejects netloc then none
  else some ⟨scheme, netloc, (rest.takeWhile (· ≠ '#')).takeWhile (· ≠ '?')⟩

example : normPath "/a//b/../c/./d/" = "/a/c/d" := by decide
example : commonPath "/a/b/c" "/a/b" = some "/a/b" := by decide
example : urlsplit (fun _ => false) "S3://bucket/key?x#y" =
    some ⟨"s3".toList, "bucket".toList, "/key".toList⟩ := by decide

end Lib

/-!
## Pure paths

`PurePosixPath` keeps the names of a path between its slashes, without the empty ones and the dots.
Joining adds names at the end, so paths that are joined from one root differ where the names do.
-/

namespace Lib

/-- `str(PurePosixPath(path))`. -/
def purePath (path : String) : String :=
  let text := initialSlashes path ++ join "/" (pathComponents path)
  if text = "" then "." else text

/-- `str(n)` of an integer. -/
def intText (n : Int) : String := String.ofList (Json.intChars n)

/-- The text is one component of a path. -/
def isPlainName (name : String) : Bool := '/' ∉ name.toList && name ≠ "" && name ≠ "."

theorem isPlainName_iff {name : String} :
    isPlainName name = true ↔ '/' ∉ name.toList ∧ name ≠ "" ∧ name ≠ "." := by
  simp [isPlainName, and_assoc]

/-- A text that is one component of a path, such as an identifier. -/
structure PlainName where
  name : String
  plain : isPlainName name = true

theorem PlainName.ext {x y : PlainName} (h : x.name = y.name) : x = y := by
  cases x
  cases y
  cases h
  rfl

/-! ## Components -/

theorem notMem_of_mem_splitOn {α : Type} [DecidableEq α] {sep : α} {cs piece : List α}
    (h : piece ∈ cs.splitOn sep) : sep ∉ piece := by
  induction cs generalizing piece with
  | nil =>
    rw [List.splitOn_nil, List.mem_singleton] at h
    rw [h]
    exact List.not_mem_nil
  | cons c cs ih =>
    rw [List.splitOn_cons_eq_if_modifyHead] at h
    split at h
    · rcases List.mem_cons.mp h with rfl | h
      · exact List.not_mem_nil
      · exact ih h
    · rename_i hc
      obtain ⟨first, rest, hsplit⟩ := List.exists_cons_of_ne_nil (List.splitOn_ne_nil sep cs)
      rw [hsplit, List.modifyHead_cons] at h
      rw [hsplit] at ih
      rcases List.mem_cons.mp h with rfl | h
      · have hfirst : sep ∉ first := ih (List.mem_cons_self ..)
        intro hmem
        rcases List.mem_cons.mp hmem with rfl | hmem
        · exact hc (by simp)
        · exact hfirst hmem
      · exact ih (List.mem_cons_of_mem _ h)

theorem isPlainName_of_mem {path name : String} (h : name ∈ pathComponents path) :
    isPlainName name = true := by
  obtain ⟨hmem, hname⟩ := List.mem_filter.mp h
  obtain ⟨cs, hcs, rfl⟩ := List.mem_map.mp hmem
  rw [isPlainName_iff, String.toList_ofList]
  refine ⟨notMem_of_mem_splitOn hcs, ?_⟩
  simpa using hname

theorem pathComponents_append_slash (p q : String) :
    pathComponents (p ++ "/" ++ q) = pathComponents p ++ pathComponents q := by
  have hchars : (p ++ "/" ++ q).toList = p.toList ++ '/' :: q.toList := by simp
  rw [pathComponents, split, hchars, List.splitOn_append_cons_self, List.map_append,
    List.filter_append]
  rfl

theorem pathComponents_plain {name : String} (h : isPlainName name = true) :
    pathComponents name = [name] := by
  obtain ⟨hslash, hempty, hdot⟩ := isPlainName_iff.mp h
  rw [pathComponents, split, List.splitOn_eq_singleton hslash]
  simp [hempty, hdot]

theorem pathComponents_empty : pathComponents "" = [] := by simp [pathComponents, split]

theorem pathComponents_slash (path : String) :
    pathComponents ("/" ++ path) = pathComponents path := by
  have h := pathComponents_append_slash "" path
  rwa [String.empty_append, pathComponents_empty, List.nil_append] at h

theorem pathComponents_join {names : List String} (h : ∀ name ∈ names, isPlainName name = true) :
    pathComponents (join "/" names) = names := by
  induction names with
  | nil => exact pathComponents_empty
  | cons name names ih =>
    have hname := pathComponents_plain (h name (List.mem_cons_self ..))
    cases names with
    | nil => exact hname
    | cons next names =>
      have hcons : join "/" (name :: next :: names) = name ++ "/" ++ join "/" (next :: names) :=
        String.intercalate_cons_cons
      rw [hcons, pathComponents_append_slash, hname,
        ih fun other hother => h other (List.mem_cons_of_mem _ hother)]
      rfl

theorem isAbs_plain {name : String} (h : isPlainName name = true) : isAbs name = false := by
  obtain ⟨hslash, -, -⟩ := isPlainName_iff.mp h
  rw [isAbs, startsWith, Bool.eq_false_iff]
  intro hbelow
  obtain ⟨rest, hrest⟩ := List.isPrefixOf_iff_prefix.mp hbelow
  apply hslash
  rw [← hrest]
  exact List.mem_append_left _ (by simp)

theorem pathComponents_joinPath (path : String) {name : String} (h : isPlainName name = true) :
    pathComponents (joinPath path name) = pathComponents path ++ [name] := by
  unfold joinPath
  rw [isAbs_plain h, if_neg Bool.false_ne_true]
  split
  · rename_i hend
    rcases hend with rfl | hend
    · rw [String.empty_append, pathComponents_plain h, pathComponents_empty]
      rfl
    · obtain ⟨dir, hdir⟩ : ∃ dir, path = dir ++ "/" ++ "" := by
        obtain ⟨cs, hcs⟩ := List.getLast?_eq_some_iff.mp hend
        refine ⟨String.ofList cs, String.toList_injective ?_⟩
        rw [hcs]
        simp
      have hname : path ++ name = dir ++ "/" ++ name := by rw [hdir, String.append_empty]
      rw [hname, hdir, pathComponents_append_slash, pathComponents_append_slash,
        pathComponents_plain h, pathComponents_empty, List.append_nil]
  · rw [pathComponents_append_slash, pathComponents_plain h]

theorem pathComponents_purePath (path : String) :
    pathComponents (purePath path) = pathComponents path := by
  have hjoin : pathComponents (join "/" (pathComponents path)) = pathComponents path :=
    pathComponents_join fun name h => isPlainName_of_mem h
  have htext : pathComponents (initialSlashes path ++ join "/" (pathComponents path)) =
      pathComponents path := by
    unfold initialSlashes
    split
    · have htwo : "//" ++ join "/" (pathComponents path) =
          "/" ++ ("/" ++ join "/" (pathComponents path)) := by
        rw [← String.append_assoc]
        rfl
      rw [htwo, pathComponents_slash, pathComponents_slash, hjoin]
    · split
      · rw [pathComponents_slash, hjoin]
      · rw [String.empty_append, hjoin]
  unfold purePath
  dsimp only
  split
  · rename_i hempty
    rw [hempty, pathComponents_empty] at htext
    rw [← htext, pathComponents, split, List.splitOn_eq_singleton (by decide)]
    simp
  · exact htext

/-! ## Numbers -/

theorem intText_injective : Function.Injective intText := fun _ _ h =>
  Json.intChars_injective (String.ofList_injective h)

theorem slash_notMem_intText (n : Int) : '/' ∉ (intText n).toList := by
  rw [intText, String.toList_ofList]
  exact Json.notMem_intChars (by decide) (by decide) n

example : purePath "/data//./train/" = "/data/train" := by decide

end Lib

/-!
## Normal paths

What `os.path.normpath` makes of an absolute path: its names behind one slash or two. Two slashes
are a root of their own. One normal path is above another if the names of the other begin with its
names; a test of texts finds this, but for the roots, whose texts end with a slash.
-/

namespace Lib

def isNormalName (name : String) : Bool := isPlainName name && name ≠ ".."

theorem isNormalName_iff {name : String} :
    isNormalName name = true ↔ isPlainName name = true ∧ name ≠ ".." := by
  simp [isNormalName]

/-- An absolute path in normal form. -/
@[ext]
structure NormalPath where
  doubled : Bool
  names : List String
  normal : ∀ name ∈ names, isNormalName name = true

namespace NormalPath

variable (p q r : NormalPath)

def slashes : String := if p.doubled then "//" else "/"

def text : String := p.slashes ++ join "/" p.names

theorem plain : ∀ name ∈ p.names, isPlainName name = true := fun name h =>
  (isNormalName_iff.mp (p.normal name h)).1

@[simp] theorem pathComponents_text : pathComponents p.text = p.names := by
  have hjoin := pathComponents_join p.plain
  unfold text slashes
  split
  · have htwo : "//" ++ join "/" p.names = "/" ++ ("/" ++ join "/" p.names) := by
      rw [← String.append_assoc]
      rfl
    rw [htwo, pathComponents_slash, pathComponents_slash, hjoin]
  · rw [pathComponents_slash, hjoin]

theorem head?_join {names : List String} (h : ∀ name ∈ names, isPlainName name = true) :
    (join "/" names).toList.head? ≠ some '/' := by
  cases names with
  | nil => simp [join]
  | cons name names =>
    obtain ⟨hslash, hempty, -⟩ := isPlainName_iff.mp (h name (List.mem_cons_self ..))
    have hname : ∃ c cs, name.toList = c :: cs := by
      cases hcs : name.toList with
      | nil => exact absurd (String.toList_eq_nil_iff.mp hcs) hempty
      | cons c cs => exact ⟨c, cs, rfl⟩
    obtain ⟨c, cs, hcs⟩ := hname
    have hjoin : (join "/" (name :: names)).toList.head? = some c := by
      cases names with
      | nil => simp [join, hcs]
      | cons next names =>
        rw [join, String.intercalate_cons_cons, String.toList_append, String.toList_append, hcs]
        rfl
    rw [hjoin]
    intro heq
    rw [Option.some.inj heq] at hcs
    exact hslash (hcs ▸ List.mem_cons_self ..)

/-- The second character tells the number of slashes. -/
theorem second_text : p.text.toList[1]? = some '/' ↔ p.doubled = true := by
  have hhead := head?_join p.plain
  unfold text slashes
  cases p.doubled with
  | true => simp
  | false => simpa [List.head?_eq_getElem?] using hhead

theorem text_injective : Function.Injective text := by
  intro p q h
  refine NormalPath.ext (Bool.eq_iff_iff.mpr ?_) ?_
  · rw [← second_text, ← second_text, h]
  · rw [← pathComponents_text p, ← pathComponents_text q, h]

theorem isAbs_text : isAbs p.text = true := by
  unfold text slashes isAbs startsWith
  split <;> simp

/-! ## Normalization -/

theorem initialSlashes_text : initialSlashes p.text = p.slashes := by
  have hhead := head?_join p.plain
  have hslash : "/".toList = ['/'] := rfl
  have htwo : "//".toList = ['/', '/'] := rfl
  have hthree : "///".toList = ['/', '/', '/'] := rfl
  unfold initialSlashes isAbs startsWith text slashes
  cases hjoin : (join "/" p.names).toList with
  | nil => cases p.doubled <;> simp [hslash, htwo, hthree, hjoin]
  | cons c cs =>
    rw [hjoin, List.head?_cons] at hhead
    have hc : c ≠ '/' := fun heq => hhead (congrArg some heq)
    cases p.doubled <;> simp [hslash, htwo, hthree, hjoin, Ne.symm hc]

theorem normComponents_normal {names kept : List String}
    (h : ∀ name ∈ names, isNormalName name = true) :
    normComponents true kept names = kept.reverse ++ names := by
  induction names generalizing kept with
  | nil => simp [normComponents]
  | cons name names ih =>
    obtain ⟨hplain, hdots⟩ := isNormalName_iff.mp (h name (List.mem_cons_self ..))
    obtain ⟨-, hempty, hdot⟩ := isPlainName_iff.mp hplain
    rw [normComponents, if_neg (by simp [hempty, hdot]), if_pos (Or.inl hdots),
      ih fun n hn => h n (List.mem_cons_of_mem _ hn)]
    simp

/-- Empty names and dots do not matter. -/
theorem normComponents_filter (rooted : Bool) (kept comps : List String) :
    normComponents rooted kept (comps.filter fun comp => comp ≠ "" && comp ≠ ".") =
      normComponents rooted kept comps := by
  induction comps generalizing kept with
  | nil => rfl
  | cons comp comps ih =>
    by_cases hcomp : comp = "" ∨ comp = "."
    · rw [List.filter_cons_of_neg (by rcases hcomp with rfl | rfl <;> simp), ih, normComponents,
        if_pos hcomp]
    · rw [List.filter_cons_of_pos (by simpa [not_or] using hcomp)]
      simp only [normComponents, if_neg hcomp, ih]

theorem normal_of_mem_normComponents {comps kept : List String}
    (hkept : ∀ name ∈ kept, isNormalName name = true)
    (hcomps : ∀ comp ∈ comps, isPlainName comp = true) :
    ∀ name ∈ normComponents true kept comps, isNormalName name = true := by
  induction comps generalizing kept with
  | nil =>
    intro name h
    exact hkept name (List.mem_reverse.mp h)
  | cons comp comps ih =>
    have hrest := fun c hc => hcomps c (List.mem_cons_of_mem comp hc)
    have hcomp := hcomps comp (List.mem_cons_self ..)
    obtain ⟨-, hempty, hdot⟩ := isPlainName_iff.mp hcomp
    rw [normComponents, if_neg (by simp [hempty, hdot])]
    split
    · next hkeep =>
      refine ih (fun name h => ?_) hrest
      rcases List.mem_cons.mp h with rfl | h
      · refine isNormalName_iff.mpr ⟨hcomp, fun hdots => ?_⟩
        rcases hkeep with hne | ⟨hroot, -⟩ | hhead
        · exact hne hdots
        · cases hroot
        · have hmem := hkept ".." (List.mem_of_mem_head? hhead)
          exact absurd hmem (by decide)
      · exact hkept name h
    · exact ih (fun name h => hkept name (List.mem_of_mem_tail h)) hrest

def ofText (path : String) : NormalPath where
  doubled := initialSlashes path = "//"
  names := normComponents true [] (pathComponents path)
  normal := normal_of_mem_normComponents (fun _ h => absurd h List.not_mem_nil)
    fun _ h => isPlainName_of_mem h

theorem normPath_eq {path : String} (h : isAbs path = true) :
    normPath path = (ofText path).text := by
  have hslashes : initialSlashes path = (ofText path).slashes := by
    unfold initialSlashes ofText slashes
    rw [h]
    simp only [initialSlashes, h]
    split <;> rfl
  have hne : (ofText path).slashes ≠ "" := by
    unfold slashes
    split <;> simp
  have hempty : (ofText path).text ≠ "" := by
    intro hempty
    have habs := isAbs_text (ofText path)
    rw [hempty] at habs
    cases habs
  unfold normPath
  dsimp only
  rw [hslashes, decide_eq_true hne, ← normComponents_filter]
  exact if_neg hempty

@[simp] theorem ofText_text : ofText p.text = p := by
  refine NormalPath.ext ?_ ?_
  · rw [ofText, initialSlashes_text]
    unfold slashes
    cases p.doubled <;> rfl
  · have hnames : normComponents true [] (pathComponents p.text) = p.names := by
      rw [pathComponents_text, normComponents_normal p.normal]
      rfl
    exact hnames

theorem normPath_text : normPath p.text = p.text := by
  rw [normPath_eq p.isAbs_text, ofText_text]

/-! ## Paths above others -/

def IsAbove : Prop := p.doubled = q.doubled ∧ p.names <+: q.names

instance : Decidable (p.IsAbove q) := inferInstanceAs (Decidable (_ ∧ _))

/-- `q`, which is at or below `p`, at the same place below `r`. -/
def move : NormalPath where
  doubled := r.doubled
  names := r.names ++ q.names.drop p.names.length
  normal name h := (List.mem_append.mp h).elim (r.normal name) fun h =>
    q.normal name (List.mem_of_mem_drop h)

variable {p q r}

theorem names_move {names : List String} (h : q.names = p.names ++ names) :
    (p.move q r).names = r.names ++ names := by
  have hmove : (p.move q r).names = r.names ++ q.names.drop p.names.length := rfl
  rw [hmove, h, List.drop_left]

theorem join_cons {name : String} {names : List String} (h : names ≠ []) :
    join "/" (name :: names) = name ++ "/" ++ join "/" names :=
  String.intercalate_cons_of_ne_nil h

theorem getLast?_join {names : List String} (hne : names ≠ [])
    (h : ∀ name ∈ names, isPlainName name = true) :
    (join "/" names).toList.getLast? ≠ some '/' := by
  induction names with
  | nil => exact absurd rfl hne
  | cons name names ih =>
    by_cases hnil : names = []
    · obtain ⟨hslash, -, -⟩ := isPlainName_iff.mp (h name (List.mem_cons_self ..))
      rw [hnil]
      exact fun hlast => hslash (List.mem_of_getLast? hlast)
    · have hrest := ih hnil fun n hn => h n (List.mem_cons_of_mem _ hn)
      have hjoin : (join "/" names).toList ≠ [] := by
        intro hempty
        have hcomps := pathComponents_join fun n hn => h n (List.mem_cons_of_mem name hn)
        rw [String.toList_eq_nil_iff.mp hempty, pathComponents_empty] at hcomps
        exact hnil hcomps.symm
      rw [join_cons hnil, String.toList_append, List.getLast?_append_of_ne_nil _ hjoin]
      exact hrest

theorem isAbs_join {names : List String} (h : ∀ name ∈ names, isPlainName name = true) :
    isAbs (join "/" names) = false := by
  have hhead := head?_join h
  rw [isAbs, startsWith, Bool.eq_false_iff]
  intro hbelow
  obtain ⟨rest, hrest⟩ := List.isPrefixOf_iff_prefix.mp hbelow
  rw [← hrest] at hhead
  exact hhead rfl

/-- Only the text of a root ends with a slash. -/
theorem getLast?_text : p.text.toList.getLast? = some '/' ↔ p.names = [] := by
  constructor
  · intro hlast
    by_contra hne
    have hjoin : (join "/" p.names).toList ≠ [] := by
      intro hempty
      have hcomps := pathComponents_join p.plain
      rw [String.toList_eq_nil_iff.mp hempty, pathComponents_empty] at hcomps
      exact hne hcomps.symm
    rw [text, String.toList_append, List.getLast?_append_of_ne_nil _ hjoin] at hlast
    exact getLast?_join hne p.plain hlast
  · intro hnil
    have hjoin : join "/" [] = "" := rfl
    rw [text, hnil, hjoin, String.append_empty, slashes]
    split <;> rfl

theorem join_append {names names' : List String} (h : names ≠ []) (h' : names' ≠ []) :
    join "/" (names ++ names') = join "/" names ++ "/" ++ join "/" names' := by
  induction names with
  | nil => exact absurd rfl h
  | cons name names ih =>
    cases names with
    | nil => exact join_cons h'
    | cons next names =>
      rw [List.cons_append, join_cons (by simp), ih (List.cons_ne_nil _ _),
        join_cons (List.cons_ne_nil _ _)]
      simp only [String.append_assoc]

/-- Names are added to a text behind a slash, unless it ends with one. -/
theorem text_of_names_append {names : List String} (hdoubled : q.doubled = p.doubled)
    (hnames : q.names = p.names ++ names) (hne : names ≠ []) :
    q.text = p.text ++ (if p.names = [] then "" else "/") ++ join "/" names := by
  have hslashes : q.slashes = p.slashes := by
    unfold slashes
    rw [hdoubled]
  rw [text, text, hslashes, hnames]
  split
  · next hnil =>
    have hjoin : join "/" [] = "" := rfl
    rw [hnil, List.nil_append, hjoin, String.append_empty, String.append_empty]
  · next hnil =>
    rw [join_append hnil hne]
    simp only [String.append_assoc]

theorem IsAbove.exists_append (h : p.IsAbove q) :
    ∃ names, q.names = p.names ++ names ∧ q.names.drop p.names.length = names := by
  obtain ⟨names, hnames⟩ := h.2
  exact ⟨names, hnames.symm, by rw [← hnames, List.drop_left]⟩

/-- What is below has the longer text. -/
theorem IsAbove.length_lt (h : p.IsAbove q) (hne : p ≠ q) : p.text.length < q.text.length := by
  obtain ⟨names, hnames, -⟩ := h.exists_append
  cases names with
  | nil =>
    rw [List.append_nil] at hnames
    exact absurd (NormalPath.ext h.1 hnames.symm) hne
  | cons name names =>
    have hjoin : 0 < (join "/" (name :: names)).length := by
      rw [Nat.pos_iff_ne_zero, Ne, String.length_eq_zero_iff]
      intro hempty
      have hcomps := pathComponents_join fun n hn =>
        q.plain n (hnames ▸ List.mem_append_right p.names hn)
      rw [hempty, pathComponents_empty] at hcomps
      cases hcomps
    rw [text_of_names_append h.1.symm hnames (List.cons_ne_nil _ _), String.length_append,
      String.length_append]
    omega

/-- The test of texts finds what is below, but not below a root; and it takes the two slashes for
one slash and a name. -/
theorem startsWith_slash_iff : startsWith q.text (p.text ++ "/") = true ↔
    (p.IsAbove q ∧ p ≠ q ∧ p.names ≠ []) ∨
      (p.names = [] ∧ p.doubled = false ∧ q.doubled = true) := by
  rw [startsWith, List.isPrefixOf_iff_prefix]
  constructor
  · rintro ⟨rest, hrest⟩
    have htext : q.text = p.text ++ "/" ++ String.ofList rest := by
      refine String.toList_injective ?_
      rw [String.toList_append, String.toList_ofList]
      exact hrest.symm
    have hnames : q.names = p.names ++ pathComponents (String.ofList rest) := by
      rw [← pathComponents_text q, htext, pathComponents_append_slash, pathComponents_text]
    have hslash : "/".toList = ['/'] := rfl
    have htwo : "//".toList = ['/', '/'] := rfl
    by_cases hnil : p.names = []
    · refine Or.inr ⟨hnil, ?_⟩
      have hchars : q.text.toList = p.slashes.toList ++ '/' :: rest := by
        rw [← hrest, text, hnil]
        simp [join]
      have hq : q.doubled = true := by
        rw [← second_text, hchars]
        unfold slashes
        cases p.doubled <;> simp
      refine ⟨?_, hq⟩
      by_contra hp
      have hhead := head?_join q.plain
      rw [Bool.not_eq_false] at hp
      rw [text] at hchars
      unfold slashes at hchars
      rw [hp, hq, if_pos rfl, String.toList_append, List.append_cancel_left_eq] at hchars
      rw [hchars] at hhead
      exact hhead rfl
    · refine Or.inl ⟨⟨?_, ⟨_, hnames.symm⟩⟩, ?_, hnil⟩
      · obtain ⟨c, cs, hcs⟩ : ∃ c cs, (join "/" p.names).toList = c :: cs := by
          cases hjoin : (join "/" p.names).toList with
          | nil =>
            have hcomps := pathComponents_join p.plain
            rw [String.toList_eq_nil_iff.mp hjoin, pathComponents_empty] at hcomps
            exact absurd hcomps.symm hnil
          | cons c cs => exact ⟨c, cs, rfl⟩
        have hsecond : q.text.toList[1]? = p.text.toList[1]? := by
          rw [htext, text]
          unfold slashes
          cases p.doubled <;> simp [hcs]
        exact Bool.eq_iff_iff.mpr (by rw [← second_text, ← second_text, hsecond])
      · rintro rfl
        have hlength := congrArg String.length htext
        rw [String.length_append, String.length_append] at hlength
        have hone : "/".length = 1 := rfl
        omega
  · rintro (⟨habove, hne, hnil⟩ | ⟨hnil, hp, hq⟩)
    · obtain ⟨names, hnames, -⟩ := habove.exists_append
      have hnames' : names ≠ [] := by
        rintro rfl
        rw [List.append_nil] at hnames
        exact hne (NormalPath.ext habove.1 hnames.symm)
      refine ⟨(join "/" names).toList, ?_⟩
      rw [← String.toList_append, text_of_names_append habove.1.symm hnames hnames', if_neg hnil]
    · refine ⟨(join "/" q.names).toList, ?_⟩
      rw [← String.toList_append, text, text, slashes, slashes, hp, hq, hnil]
      rfl

end NormalPath

end Lib
