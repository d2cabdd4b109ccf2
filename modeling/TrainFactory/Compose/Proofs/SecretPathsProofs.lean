import Mathlib.Data.List.Zip
import TrainFactory.Compose.SecretPaths
import TrainFactory.Lib.FreshKeys
import TrainFactory.Lib.Result

/-!
# The paths of secrets: what survives the environment file

What the reader accepts is what the writer writes of the decoded path. The other way round, the
writer leaves backslashes before a quote as they are, so that an odd run of them loses its parity;
and it rejects two of the line breaks only.
-/

namespace Compose

open Lib

theorem forall_eq_false {p : Char → Bool} {cs : List Char} (h : cs.any p = false) :
    ∀ c ∈ cs, p c = false := fun c hc => Bool.eq_false_iff.mpr (List.any_eq_false.mp h c hc)

/-! ## The codec -/

def hasOddRun : Nat → List Char → Bool
  | _, [] => false
  | slashes, c :: cs =>
    if c = '\\' then hasOddRun (slashes + 1) cs
    else if c = '\'' then slashes % 2 = 1 || hasOddRun 0 cs
    else hasOddRun 0 cs

theorem escapeQuotes_cons (c : Char) (cs : List Char) :
    escapeQuotes (c :: cs) = (if c = '\'' then ['\\', '\''] else [c]) ++ escapeQuotes cs := rfl

theorem escapeQuotes_append (cs ds : List Char) :
    escapeQuotes (cs ++ ds) = escapeQuotes cs ++ escapeQuotes ds := List.flatMap_append ..

theorem escapeQuotes_replicate (n : Nat) :
    escapeQuotes (List.replicate n '\\') = List.replicate n '\\' := by
  induction n with
  | zero => rfl
  | succ n ih =>
    rw [List.replicate_succ, escapeQuotes_cons, ih]
    rfl

theorem mem_escapeQuotes_of_mem {c : Char} {cs : List Char} (h : c ∈ cs) : c ∈ escapeQuotes cs := by
  refine List.mem_flatMap.mpr ⟨c, h, ?_⟩
  split
  · next hc => simp [hc]
  · exact List.mem_singleton_self c

theorem escapeQuotes_of_decodeBody {slashes : Nat} {cs result : List Char}
    (h : decodeBody slashes cs = some result) :
    escapeQuotes result = List.replicate slashes '\\' ++ cs := by
  induction cs generalizing slashes result with
  | nil =>
    unfold decodeBody at h
    split at h
    · cases h
    · obtain rfl := Option.some.inj h
      rw [escapeQuotes_replicate, List.append_nil]
  | cons c cs ih =>
    unfold decodeBody at h
    split at h
    · next hc =>
      rw [ih h, hc, List.replicate_succ', List.append_assoc]
      rfl
    · split at h
      · next hc =>
        split at h
        · cases h
        · next hodd =>
          obtain ⟨rest, hrest, rfl⟩ := Option.map_eq_some_iff.mp h
          have hslashes : slashes - 1 + 1 = slashes := by omega
          have hrun : List.replicate (slashes - 1) '\\' ++ ['\\'] = List.replicate slashes '\\' := by
            rw [← List.replicate_succ', hslashes]
          rw [escapeQuotes_append, escapeQuotes_replicate, escapeQuotes_cons, ih hrest, if_pos rfl,
            ← hrun, hc]
          simp
      · next hquote =>
        obtain ⟨rest, hrest, rfl⟩ := Option.map_eq_some_iff.mp h
        rw [escapeQuotes_append, escapeQuotes_replicate, escapeQuotes_cons, ih hrest,
          if_neg hquote]
        rfl

/-- A path that ends in a character without a meaning is decoded from its literal, unless it has an
odd run. -/
theorem decodeBody_escapeQuotes {last : Char} (hslash : last ≠ '\\') (hquote : last ≠ '\'')
    (slashes : Nat) (cs : List Char) : decodeBody slashes (escapeQuotes (cs ++ [last])) =
      if hasOddRun slashes (cs ++ [last]) then none
      else some (List.replicate slashes '\\' ++ (cs ++ [last])) := by
  induction cs generalizing slashes with
  | nil => simp [escapeQuotes, decodeBody, hasOddRun, hslash, hquote]
  | cons c cs ih =>
    rw [List.cons_append, escapeQuotes_cons]
    by_cases hc : c = '\\'
    · have hne : ¬ c = '\'' := by
        rw [hc]
        decide
      rw [if_neg hne, List.singleton_append, decodeBody, if_pos hc, ih, hasOddRun, if_pos hc,
        List.replicate_succ', List.append_assoc, hc]
      rfl
    · by_cases hc' : c = '\''
      · -- the backslash of the quote is one more
        have hbody : decodeBody slashes ((if c = '\'' then ['\\', '\''] else [c]) ++
            escapeQuotes (cs ++ [last])) =
              decodeBody (slashes + 1) ('\'' :: escapeQuotes (cs ++ [last])) := by
          rw [if_pos hc']
          rfl
        have hquoted : decodeBody (slashes + 1) ('\'' :: escapeQuotes (cs ++ [last])) =
            if (slashes + 1) % 2 = 0 then none
            else (decodeBody 0 (escapeQuotes (cs ++ [last]))).map fun rest =>
              List.replicate slashes '\\' ++ '\'' :: rest := rfl
        rw [hbody, hquoted, ih, hasOddRun, if_neg hc, if_pos hc']
        by_cases hodd : slashes % 2 = 1
        · rw [if_pos (by omega)]
          simp [hodd]
        · rw [if_neg (by omega)]
          cases hasOddRun 0 (cs ++ [last]) <;> simp [hodd, hc']
      · rw [if_neg hc', List.singleton_append, decodeBody, if_neg hc, if_neg hc', ih, hasOddRun,
          if_neg hc, if_neg hc']
        cases hasOddRun 0 (cs ++ [last]) <;> simp

theorem quotedBody_literal (cs : List Char) : quotedBody ('\'' :: cs ++ ['\'']) = some cs := by
  have hlast : ('\'' :: cs ++ ['\'']).getLast? = some '\'' := List.getLast?_concat
  rw [quotedBody, if_pos ⟨by simp, rfl, hlast⟩]
  simp

theorem quotedBody_eq_some {value cs : List Char} (h : quotedBody value = some cs) :
    value = '\'' :: cs ++ ['\''] := by
  unfold quotedBody at h
  split at h
  · next hand =>
    obtain ⟨hlength, hhead, hlast⟩ := hand
    obtain rfl := Option.some.inj h
    cases value with
    | nil => cases hhead
    | cons c cs =>
      obtain rfl := Option.some.inj hhead
      have hne : cs ≠ [] := by
        rintro rfl
        simp at hlength
      rw [List.getLast?_cons, List.getLast?_eq_some_getLast hne] at hlast
      have hend : cs.dropLast ++ [cs.getLast hne] = cs := List.dropLast_append_getLast hne
      have hquote : cs.getLast hne = '\'' := by simpa using hlast
      rw [hquote] at hend
      rw [List.tail_cons, List.cons_append, hend]
  · cases h

theorem decodeSingleQuotedPath_eq_ok {literal path : String}
    (h : decodeSingleQuotedPath literal = .ok path) : path.toList.any isForbidden = false ∧
      literal.toList = '\'' :: escapeQuotes path.toList ++ ['\''] := by
  unfold decodeSingleQuotedPath at h
  split at h
  · cases h
  · next result hresult =>
    split at h
    · cases h
    · next hnot =>
      obtain rfl := Except.ok.inj h
      obtain ⟨cs, hcs, hdecode⟩ := Option.bind_eq_some_iff.mp hresult
      have hescape := escapeQuotes_of_decodeBody hdecode
      rw [List.replicate_zero, List.nil_append] at hescape
      rw [String.toList_ofList, hescape]
      exact ⟨Bool.eq_false_iff.mpr fun hany => hnot (Or.inr hany), quotedBody_eq_some hcs⟩

theorem dotenvLiteral_of_decode {literal path : String}
    (h : decodeSingleQuotedPath literal = .ok path) : dotenvLiteral path = .ok literal := by
  obtain ⟨hallowed, hliteral⟩ := decodeSingleQuotedPath_eq_ok h
  rw [dotenvLiteral, if_neg (by simp [hallowed]), ← hliteral, String.ofList_toList]

/-! ## Paths of secrets -/

def isOrdinary (c : Char) : Bool := !isLineBreak c && c ≠ '\\' && c ≠ '\'' && c ≠ '\x00'

structure IsSecretTail (tail : String) : Prop where
  nonempty : tail.toList ≠ []
  ordinary : ∀ c ∈ tail.toList, isOrdinary c = true

theorem IsSecretTail.append {tail : String} (h : IsSecretTail tail) {more : String}
    (hmore : ∀ c ∈ more.toList, isOrdinary c = true) : IsSecretTail (tail ++ more) where
  nonempty hnil := by
    rw [String.toList_append, List.append_eq_nil_iff] at hnil
    exact h.nonempty hnil.1
  ordinary c hc := by
    rw [String.toList_append, List.mem_append] at hc
    exact hc.elim (h.ordinary c) (hmore c)

theorem isOrdinary_of_hex {c : Char} (h : ('0' ≤ c && c ≤ '9') || ('a' ≤ c && c ≤ 'f')) :
    isOrdinary c = true := by
  by_contra hnot
  have hcases : isLineBreak c = true ∨ c = '\\' ∨ c = '\'' ∨ c = '\x00' := by
    simp only [isOrdinary] at hnot
    grind
  rcases hcases with hbreak | rfl | rfl | rfl
  · simp only [isLineBreak, Bool.or_eq_true, decide_eq_true_eq] at hbreak
    rcases hbreak with ((((((((rfl | rfl) | rfl) | rfl) | rfl) | rfl) | rfl) | rfl) | rfl) | rfl
    all_goals exact absurd h (by decide)
  all_goals exact absurd h (by decide)

theorem joinPath_relative {path name : String} (h : isAbs name = false) :
    ∃ sep, (∀ c ∈ sep.toList, isOrdinary c = true) ∧ joinPath path name = path ++ sep ++ name := by
  unfold joinPath
  rw [h, if_neg Bool.false_ne_true]
  split
  · exact ⟨"", List.all_eq_true.mp (by decide), by rw [String.append_empty]⟩
  · exact ⟨"/", List.all_eq_true.mp (by decide), rfl⟩

theorem exists_secretTail {scope runId filename : String} (workspace : String)
    (hscope : scope ∈ scopes) (hrun : isRunId runId = true)
    (hfile : isAbs filename = false ∧ ∀ c ∈ filename.toList, isOrdinary c = true) :
    ∃ tail, secretPath workspace scope runId filename = workspace ++ tail ∧ IsSecretTail tail := by
  have hname : isAbs (scope ++ "-" ++ runId) = false ∧
      ∀ c ∈ (scope ++ "-" ++ runId).toList, isOrdinary c = true := by
    have hscope' : isAbs scope = false ∧ scope.toList ≠ [] ∧
        ∀ c ∈ scope.toList, isOrdinary c = true := by
      rcases List.mem_pair.mp hscope with rfl | rfl
      · exact ⟨by decide, by decide, List.all_eq_true.mp (by decide)⟩
      · exact ⟨by decide, by decide, List.all_eq_true.mp (by decide)⟩
    refine ⟨?_, fun c hc => ?_⟩
    · obtain ⟨c, cs, hcs⟩ := List.exists_cons_of_ne_nil hscope'.2.1
      have habs := hscope'.1
      rw [isAbs, startsWith, hcs] at habs
      rw [isAbs, startsWith, String.toList_append, String.toList_append, hcs]
      simpa [List.isPrefixOf] using habs
    · rw [String.toList_append, String.toList_append, List.mem_append, List.mem_append] at hc
      rcases hc with (hc | hc) | hc
      · exact hscope'.2.2 c hc
      · have hdash : ∀ c ∈ "-".toList, isOrdinary c = true :=
          List.all_eq_true.mp (by decide)
        exact hdash c hc
      · have hall := (Bool.and_eq_true _ _ ▸ hrun : _ ∧ _).2
        exact isOrdinary_of_hex (List.all_eq_true.mp hall c hc)
  obtain ⟨sep, hsep, hruntime⟩ := @joinPath_relative workspace ".runtime" (by decide)
  obtain ⟨sep', hsep', hbundle⟩ := @joinPath_relative (joinPath workspace ".runtime") _ hname.1
  obtain ⟨sep'', hsep'', hsecret⟩ :=
    @joinPath_relative (finalDirectory workspace scope runId) _ hfile.1
  refine ⟨sep ++ ".runtime" ++ sep' ++ (scope ++ "-" ++ runId) ++ sep'' ++ filename, ?_, ?_⟩
  · rw [secretPath, hsecret, finalDirectory, hbundle, hruntime]
    simp only [String.append_assoc]
  · have hruntime' : IsSecretTail (sep ++ ".runtime") := by
      refine ⟨by simp, fun c hc => ?_⟩
      rw [String.toList_append, List.mem_append] at hc
      rcases hc with hc | hc
      · exact hsep c hc
      · have hall : ∀ c ∈ ".runtime".toList, isOrdinary c = true :=
          List.all_eq_true.mp (by decide)
        exact hall c hc
    exact (((hruntime'.append hsep').append hname.2).append hsep'').append hfile.2

theorem hasOddRun_ordinary {tail : List Char} (h : ∀ c ∈ tail, isOrdinary c = true)
    (slashes : Nat) : hasOddRun slashes tail = false := by
  induction tail generalizing slashes with
  | nil => rfl
  | cons c tail ih =>
    have hc := h c (List.mem_cons_self ..)
    have hne : c ≠ '\\' ∧ c ≠ '\'' := by
      simp only [isOrdinary] at hc
      grind
    rw [hasOddRun, if_neg hne.1, if_neg hne.2]
    exact ih (fun c' hc' => h c' (List.mem_cons_of_mem _ hc')) 0

theorem hasOddRun_append {tail : List Char} (h : ∀ c ∈ tail, isOrdinary c = true) (slashes : Nat)
    (cs : List Char) : hasOddRun slashes (cs ++ tail) = hasOddRun slashes cs := by
  induction cs generalizing slashes with
  | nil => exact hasOddRun_ordinary h slashes
  | cons c cs ih => simp only [List.cons_append, hasOddRun, ih]

theorem decode_literal_iff {workspace tail literal : String} (htail : IsSecretTail tail)
    (h : dotenvLiteral (workspace ++ tail) = .ok literal) :
    decodeSingleQuotedPath literal = .ok (workspace ++ tail) ↔
      hasOddRun 0 workspace.toList = false := by
  unfold dotenvLiteral at h
  split at h
  · cases h
  · next hallowed =>
    obtain rfl := Except.ok.inj h
    have hlast := List.dropLast_append_getLast htail.nonempty
    have hordinary := htail.ordinary _ (List.getLast_mem htail.nonempty)
    have hne : tail.toList.getLast htail.nonempty ≠ '\\' ∧
        tail.toList.getLast htail.nonempty ≠ '\'' := by
      simp only [isOrdinary] at hordinary
      grind
    have hpath : (workspace ++ tail).toList = (workspace.toList ++ tail.toList.dropLast) ++
        [tail.toList.getLast htail.nonempty] := by
      rw [String.toList_append, List.append_assoc, hlast]
    have hdecode := decodeBody_escapeQuotes hne.1 hne.2 0
      (workspace.toList ++ tail.toList.dropLast)
    rw [← hpath, String.toList_append, hasOddRun_append htail.ordinary, ← String.toList_append,
      List.replicate_zero, List.nil_append] at hdecode
    unfold decodeSingleQuotedPath
    rw [String.toList_ofList, quotedBody_literal, Option.bind_some, hdecode]
    cases hasOddRun 0 workspace.toList with
    | true => simp
    | false =>
      have hnonempty : (workspace ++ tail).toList ≠ [] := by
        rw [hpath]
        simp
      have hfits : ¬ ((workspace ++ tail).toList = [] ∨
          (workspace ++ tail).toList.any isForbidden = true) := not_or.mpr ⟨hnonempty, hallowed⟩
      simp only [Bool.false_eq_true, if_false]
      rw [if_neg hfits, String.ofList_toList]
      exact iff_of_true rfl trivial

/-! ## The file -/

def entryLine (entry : String × String) : String := entry.1 ++ "=" ++ entry.2

theorem equals_notMem_of_isEnvironmentKey {key : String} (h : isEnvironmentKey key = true) :
    '=' ∉ key.toList ∧ ∃ c cs, key.toList = c :: cs ∧ c ≠ '#' := by
  unfold isEnvironmentKey at h
  split at h
  · cases h
  · next c cs hcs =>
    obtain ⟨hc, hrest⟩ := Bool.and_eq_true_iff.mp h
    refine ⟨?_, c, cs, hcs, ?_⟩
    · rw [hcs]
      intro hmem
      rcases List.mem_cons.mp hmem with rfl | hmem
      · exact absurd hc (by decide)
      · exact absurd (List.all_eq_true.mp hrest _ hmem) (by decide)
    · rintro rfl
      exact absurd hc (by decide)

theorem splitEntry_entryLine {entry : String × String} (h : '=' ∉ entry.1.toList) :
    splitEntry (entryLine entry) = entry := by
  have hchars : (entryLine entry).toList = entry.1.toList ++ '=' :: entry.2.toList := by
    rw [entryLine, String.toList_append, String.toList_append, List.append_assoc]
    rfl
  have hall : ∀ c ∈ entry.1.toList, decide (c ≠ '=') = true := by
    intro c hc
    exact decide_eq_true fun heq => h (heq ▸ hc)
  rw [splitEntry, hchars, List.takeWhile_append_of_pos hall, List.dropWhile_append_of_pos hall]
  simp

theorem parseEntries_entryLines {entries result : List (String × String)}
    (hkeys : ∀ entry ∈ entries, isEnvironmentKey entry.1 = true)
    (hnodup : ((result ++ entries).map Prod.fst).Nodup) :
    parseEntries result (entries.map entryLine) = .ok (result ++ entries) := by
  induction entries generalizing result with
  | nil => rw [List.map_nil, parseEntries, List.append_nil]
  | cons entry entries ih =>
    have hkey := hkeys entry (List.mem_cons_self ..)
    obtain ⟨hequals, c, cs, hcs, hhash⟩ := equals_notMem_of_isEnvironmentKey hkey
    have hchars : (entryLine entry).toList = (c :: cs) ++ ('=' :: entry.2.toList) := by
      rw [entryLine, String.toList_append, String.toList_append, hcs, List.append_assoc]
      rfl
    have hline : ¬ (entryLine entry = "" ∨ startsWith (entryLine entry) "#" = true ∨
        '=' ∉ (entryLine entry).toList) := by
      rintro (hempty | hstart | hno)
      · rw [hempty] at hchars
        cases hchars
      · rw [startsWith, hchars] at hstart
        simp [List.isPrefixOf] at hstart
        exact hhash hstart.symm
      · rw [hchars] at hno
        simp at hno
    have hfresh : entry.1 ∉ result.map Prod.fst := by
      rw [List.map_append, List.nodup_append] at hnodup
      exact fun hmem => hnodup.2.2 _ hmem _ (List.mem_cons_self ..) rfl
    rw [List.map_cons, parseEntries, splitEntry_entryLine hequals, if_neg hline,
      if_neg (not_or.mpr ⟨by simp [hkey], hfresh⟩), ih (fun e he => hkeys e
        (List.mem_cons_of_mem _ he)) (by rwa [List.append_assoc]), List.append_assoc]
    rfl

theorem mem_of_parseEntries {lines : List String} {result entries : List (String × String)}
    (h : parseEntries result lines = .ok entries) :
    ∀ entry ∈ entries, entry ∈ result ∨ ∃ line ∈ lines, entry = splitEntry line := by
  induction lines generalizing result with
  | nil =>
    obtain rfl := Except.ok.inj h
    exact fun entry hentry => Or.inl hentry
  | cons line lines ih =>
    unfold parseEntries at h
    dsimp only at h
    split at h
    · cases h
    · split at h
      · cases h
      · intro entry hentry
        rcases ih h entry hentry with hmem | ⟨line', hline', heq⟩
        · rcases List.mem_append.mp hmem with hmem | hmem
          · exact Or.inl hmem
          · exact Or.inr ⟨line, List.mem_cons_self .., List.mem_singleton.mp hmem⟩
        · exact Or.inr ⟨line', List.mem_cons_of_mem _ hline', heq⟩

theorem notBreak_of_parse {payload : Bytes} {entries : List (String × String)}
    (h : parseClosedEnvironment payload = .ok entries) :
    ∀ entry ∈ entries, ∀ c ∈ entry.2.toList, isLineBreak c = false := by
  unfold parseClosedEnvironment at h
  split at h
  · cases h
  · intro entry hentry c hc
    rcases mem_of_parseEntries h entry hentry with hmem | ⟨line, hline, rfl⟩
    · cases hmem
    · refine notBreak_of_mem_splitLines hline c ?_
      rw [splitEntry, String.toList_ofList] at hc
      exact (List.dropWhile_sublist _).subset (List.mem_of_mem_drop hc)

/-- The file is accepted, and the values of its variables are decoded to the paths of the
secrets. -/
def ReadsBack (workspace scope runId : String) (payload : Bytes) : Prop :=
  ∃ entries, parseClosedEnvironment payload = .ok entries ∧
    ∀ secret ∈ pathVariables, ∃ literal, entries.lookup secret.1 = some literal ∧
      decodeSingleQuotedPath literal = .ok (secretPath workspace scope runId secret.2)

/-- The path of the workspace has no line breaks, and no odd run of backslashes before a quote. -/
def Survives (workspace : String) : Prop :=
  (∀ c ∈ workspace.toList, isLineBreak c = false) ∧ hasOddRun 0 workspace.toList = false

def settings : List (String × String) :=
  [("MYSQL_APP_USER", "trainfactory_app"), ("DEFAULT_ADMIN_USERNAME", "admin"),
    ("API_PORT", "18000"), ("WEB_PORT", "3000")]

theorem settingLines_eq : settingLines = settings.map entryLine := by decide

section Bundle

variable {workspace scope runId : String} {payload : Bytes}

theorem environmentFile_eq_ok (h : environmentFile workspace scope runId = .ok payload) :
    (scope ∈ scopes ∧ isRunId runId = true) ∧ ∃ literals,
      List.Forall₂ (fun secret literal => dotenvLiteral (secretPath workspace scope runId
        secret.2) = .ok literal) pathVariables literals ∧
      payload = utf8 (lineFeedText
        (((pathVariables.map Prod.fst).zip literals ++ settings).map entryLine)) := by
  unfold environmentFile at h
  split at h
  · next hrequest =>
    obtain ⟨lines, hlines, rfl⟩ := map_eq_ok.mp h
    refine ⟨hrequest, ?_⟩
    have hall := mapM_eq_ok.mp hlines
    have hliterals : ∀ (secrets : List (String × String)) (lines : List String),
        List.Forall₂ (fun secret line => pathLine workspace scope runId secret = .ok line)
          secrets lines → ∃ literals, List.Forall₂ (fun secret literal =>
            dotenvLiteral (secretPath workspace scope runId secret.2) = .ok literal)
              secrets literals ∧ lines = ((secrets.map Prod.fst).zip literals).map entryLine := by
      intro secrets lines hlines
      induction hlines with
      | nil => exact ⟨[], List.Forall₂.nil, rfl⟩
      | cons hline _ ih =>
        obtain ⟨literal, hliteral, rfl⟩ := map_eq_ok.mp hline
        obtain ⟨literals, hliterals, rfl⟩ := ih
        exact ⟨literal :: literals, List.Forall₂.cons hliteral hliterals, rfl⟩
    obtain ⟨literals, hliterals, rfl⟩ := hliterals _ _ hall
    exact ⟨literals, hliterals, by rw [settingLines_eq, List.map_append]⟩
  · cases h

theorem pathVariables_plain : ∀ secret ∈ pathVariables,
    isAbs secret.2 = false ∧ ∀ c ∈ secret.2.toList, isOrdinary c = true := by
  have hall : ∀ secret ∈ pathVariables,
      isAbs secret.2 = false ∧ secret.2.toList.all isOrdinary = true := by decide
  exact fun secret hsecret => ⟨(hall secret hsecret).1, List.all_eq_true.mp (hall secret hsecret).2⟩

theorem notBreak_literal {path literal : String} (h : dotenvLiteral path = .ok literal)
    (hpath : ∀ c ∈ path.toList, isLineBreak c = false) :
    ∀ c ∈ literal.toList, isLineBreak c = false := by
  unfold dotenvLiteral at h
  split at h
  · cases h
  · obtain rfl := Except.ok.inj h
    intro c hc
    rw [String.toList_ofList, List.mem_append, List.mem_cons, List.mem_singleton] at hc
    rcases hc with (rfl | hc) | rfl
    · decide
    · obtain ⟨d, hd, hc⟩ := List.mem_flatMap.mp hc
      split at hc
      · rcases List.mem_pair.mp hc with rfl | rfl
        · decide
        · decide
      · rw [List.mem_singleton.mp hc]
        exact hpath d hd
    · decide

/-- The values of the variables are decoded to the paths if and only if the path of the workspace
survives. -/
theorem readsBack_iff (h : environmentFile workspace scope runId = .ok payload) :
    ReadsBack workspace scope runId payload ↔ Survives workspace := by
  obtain ⟨⟨hscope, hrun⟩, literals, hliterals, rfl⟩ := environmentFile_eq_ok h
  constructor
  · rintro ⟨entries, hparse, hall⟩
    obtain ⟨literal, hlookup, hdecode⟩ := hall _ (List.mem_cons_self ..)
    obtain ⟨tail, htail, hsecret⟩ := exists_secretTail workspace hscope hrun
      (pathVariables_plain _ (List.mem_cons_self ..))
    rw [htail] at hdecode
    refine ⟨fun c hc => ?_, (decode_literal_iff hsecret (dotenvLiteral_of_decode hdecode)).mp hdecode⟩
    refine notBreak_of_parse hparse _ (mem_of_lookup_eq_some hlookup) c ?_
    have hmem : c ∈ escapeQuotes (workspace ++ tail).toList :=
      mem_escapeQuotes_of_mem (by
        rw [String.toList_append]
        exact List.mem_append_left _ hc)
    rw [(decodeSingleQuotedPath_eq_ok hdecode).2]
    exact List.mem_append_left _ (List.mem_cons_of_mem _ hmem)
  · rintro ⟨hbreak, hodd⟩
    have hpath : ∀ secret ∈ pathVariables, ∃ tail,
        secretPath workspace scope runId secret.2 = workspace ++ tail ∧ IsSecretTail tail :=
      fun secret hmem => exists_secretTail workspace hscope hrun
        (pathVariables_plain secret hmem)
    have hkeys : ((pathVariables.map Prod.fst).zip literals ++ settings).map Prod.fst =
        pathVariables.map Prod.fst ++ settings.map Prod.fst := by
      rw [List.map_append, List.map_fst_zip (by
        rw [List.length_map]
        exact hliterals.length_eq.le)]
    have hvalid : ∀ key ∈ pathVariables.map Prod.fst ++ settings.map Prod.fst,
        isEnvironmentKey key = true ∧ key.toList.any isLineBreak = false := by decide
    have hsettings : ∀ entry ∈ settings, entry.2.toList.any isLineBreak = false := by decide
    have hvalues : ∀ entry ∈ (pathVariables.map Prod.fst).zip literals ++ settings,
        ∀ c ∈ entry.2.toList, isLineBreak c = false := by
      intro entry hentry
      rcases List.mem_append.mp hentry with hentry | hentry
      · obtain ⟨secret, hmem, hliteral⟩ :=
          exists_left_of_forall₂ hliterals (List.of_mem_zip hentry).2
        obtain ⟨tail, htail, hsecret⟩ := hpath secret hmem
        refine notBreak_literal hliteral ?_
        rw [htail, String.toList_append]
        intro c hc
        rcases List.mem_append.mp hc with hc | hc
        · exact hbreak c hc
        · have hordinary := hsecret.ordinary c hc
          simp only [isOrdinary] at hordinary
          grind
      · exact forall_eq_false (hsettings entry hentry)
    have hkey : ∀ entry ∈ (pathVariables.map Prod.fst).zip literals ++ settings,
        isEnvironmentKey entry.1 = true ∧ ∀ c ∈ entry.1.toList, isLineBreak c = false :=
      fun entry hentry => ⟨(hvalid entry.1 (hkeys ▸ List.mem_map_of_mem hentry)).1,
        forall_eq_false (hvalid entry.1 (hkeys ▸ List.mem_map_of_mem hentry)).2⟩
    have hlines : ∀ line ∈ ((pathVariables.map Prod.fst).zip literals ++ settings).map entryLine,
        ∀ c ∈ line.toList, isLineBreak c = false := by
      intro line hline
      obtain ⟨entry, hentry, rfl⟩ := List.mem_map.mp hline
      intro c hc
      rw [entryLine, String.toList_append, String.toList_append, List.mem_append,
        List.mem_append] at hc
      rcases hc with (hc | hc) | hc
      · exact (hkey entry hentry).2 c hc
      · have hequals : ∀ c ∈ "=".toList, isLineBreak c = false :=
          forall_eq_false (by decide)
        exact hequals c hc
      · exact hvalues entry hentry c hc
    have hnodup : (((pathVariables.map Prod.fst).zip literals ++ settings).map Prod.fst).Nodup := by
      rw [hkeys]
      decide
    refine ⟨(pathVariables.map Prod.fst).zip literals ++ settings, ?_, fun secret hmem => ?_⟩
    · rw [parseClosedEnvironment, decodeUtf8_utf8]
      dsimp only
      rw [splitLines_lineFeedText (by simp [settings]) hlines,
        parseEntries_entryLines (fun entry hentry => (hkey entry hentry).1)
          (by rwa [List.nil_append]), List.nil_append]
    · obtain ⟨literal, hzip, hliteral⟩ := exists_mem_zip_of_forall₂ hliterals.flip hmem
      rw [← List.zip_swap] at hzip
      obtain ⟨tail, htail, hsecret⟩ := hpath secret hmem
      refine ⟨literal, lookup_eq_some_of_mem hnodup (List.mem_append_left _ ?_), ?_⟩
      · rw [List.zip_map_left]
        obtain ⟨pair, hpair, hswap⟩ := List.mem_map.mp hzip
        obtain rfl : pair = (secret, literal) := by rw [← Prod.swap_swap pair, hswap]; rfl
        exact List.mem_map.mpr ⟨(secret, literal), hpair, rfl⟩
      · rw [htail] at hliteral ⊢
        exact (decode_literal_iff hsecret hliteral).mpr hodd

end Bundle

/-- The environment file of a bundle is read back just where the path of its workspace survives; and
a literal that is accepted is the one that is written of its path. -/
theorem secret_paths_survive_iff (workspace scope runId literal path : String) (payload : Bytes) :
    (environmentFile workspace scope runId = .ok payload →
      (ReadsBack workspace scope runId payload ↔ Survives workspace)) ∧
    (decodeSingleQuotedPath literal = .ok path → dotenvLiteral path = .ok literal) :=
  ⟨readsBack_iff, dotenvLiteral_of_decode⟩

theorem exists_environmentFile {workspace scope runId : String} (hscope : scope ∈ scopes)
    (hrun : isRunId runId = true) (h : ∀ c ∈ workspace.toList, isForbidden c = false) :
    ∃ payload, environmentFile workspace scope runId = .ok payload := by
  have hline : ∀ secret ∈ pathVariables,
      ∃ line, pathLine workspace scope runId secret = .ok line := by
    intro secret hmem
    obtain ⟨tail, htail, hsecret⟩ := exists_secretTail workspace hscope hrun
      (pathVariables_plain secret hmem)
    have hallowed : ¬ (workspace ++ tail).toList.any isForbidden = true := by
      rw [List.any_eq_true]
      rintro ⟨c, hc, hforbidden⟩
      rw [String.toList_append, List.mem_append] at hc
      rcases hc with hc | hc
      · rw [h c hc] at hforbidden
        cases hforbidden
      · have hordinary := hsecret.ordinary c hc
        simp only [isOrdinary, isLineBreak, isForbidden] at hordinary hforbidden
        grind
    rw [pathLine, htail, dotenvLiteral, if_neg hallowed]
    exact ⟨_, rfl⟩
  obtain ⟨lines, hlines⟩ := exists_mapM_eq_ok hline
  rw [environmentFile, if_pos ⟨hscope, hrun⟩, hlines]
  exact ⟨_, rfl⟩

theorem secret_paths_survive_plain :
    ∃ payload, environmentFile "/srv/app" "ci" "0123456789abcdef0123456789abcdef" = .ok payload ∧
      ReadsBack "/srv/app" "ci" "0123456789abcdef0123456789abcdef" payload ∧
        dotenvLiteral "/it's" = .ok "'/it\\'s'" := by
  obtain ⟨payload, hpayload⟩ := @exists_environmentFile "/srv/app" "ci"
    "0123456789abcdef0123456789abcdef" (by decide) (by decide) (forall_eq_false (by decide))
  have hboth := secret_paths_survive_iff "/srv/app" "ci" "0123456789abcdef0123456789abcdef"
    "'/it\\'s'" "/it's" payload
  exact ⟨payload, hpayload, (hboth.1 hpayload).mpr ⟨forall_eq_false (by decide), by decide⟩,
    hboth.2 (by decide)⟩

theorem exists_lost {workspace : String} (hallowed : workspace.toList.any isForbidden = false)
    (hlost : workspace.toList.any isLineBreak = true ∨ hasOddRun 0 workspace.toList = true) :
    ∃ payload, environmentFile workspace "ci" "0123456789abcdef0123456789abcdef" = .ok payload ∧
      ¬ ReadsBack workspace "ci" "0123456789abcdef0123456789abcdef" payload := by
  obtain ⟨payload, hpayload⟩ := @exists_environmentFile workspace "ci"
    "0123456789abcdef0123456789abcdef" (by decide) (by decide) (forall_eq_false hallowed)
  refine ⟨payload, hpayload, fun hreads => ?_⟩
  obtain ⟨hbreak, hodd⟩ := (readsBack_iff hpayload).mp hreads
  rcases hlost with hlost | hlost
  · obtain ⟨c, hc, hlost⟩ := List.any_eq_true.mp hlost
    rw [hbreak c hc] at hlost
    cases hlost
  · rw [hodd] at hlost
    cases hlost

/-- A backslash before a quote, or a vertical tab, in the path of the workspace. -/
theorem secret_paths_lost :
    (∃ payload,
      environmentFile "/srv/it\\'s" "ci" "0123456789abcdef0123456789abcdef" = .ok payload ∧
        ¬ ReadsBack "/srv/it\\'s" "ci" "0123456789abcdef0123456789abcdef" payload) ∧
    ∃ payload,
      environmentFile "/srv/a\x0bb" "ci" "0123456789abcdef0123456789abcdef" = .ok payload ∧
        ¬ ReadsBack "/srv/a\x0bb" "ci" "0123456789abcdef0123456789abcdef" payload :=
  ⟨exists_lost (by decide) (Or.inr (by decide)), exists_lost (by decide) (Or.inl (by decide))⟩

end Compose
