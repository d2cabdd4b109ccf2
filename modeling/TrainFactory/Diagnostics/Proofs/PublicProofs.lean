import TrainFactory.Diagnostics.Public

/-!
# Public diagnostics reveal no hidden texts and no paths

Two payloads that differ in hidden texts have one public form: by induction on the payload, over the
mode that the walk is in. Its texts are no paths, and its dictionaries lose no entries.
-/

namespace Diagnostics

open Lib

variable {py : PublicStdlib}

/-! ## Hidden texts -/

theorem DiffersHidden.cases {hidden : Bool} {v w : Json} (h : DiffersHidden py hidden v w) :
    w = v ∨
    (∃ s t, v = .str s ∧ w = .str t ∧ hidden = true ∧ strip s ≠ "" ∧ strip t ≠ "") ∨
    (∃ xs ys, v = .arr xs ∧ w = .arr ys) ∨ ∃ kvs kvs', v = .obj kvs ∧ w = .obj kvs' := by
  cases v with
  | null => exact Or.inl (by simpa [DiffersHidden] using h)
  | bool b => exact Or.inl (by simpa [DiffersHidden] using h)
  | int n => exact Or.inl (by simpa [DiffersHidden] using h)
  | float q => exact Or.inl (by simpa [DiffersHidden] using h)
  | str s =>
    rw [DiffersHidden] at h
    rcases h with h | ⟨hhidden, t, rfl, hblank⟩
    · exact Or.inl h
    · exact Or.inr (Or.inl ⟨s, t, rfl, rfl, hhidden, hblank⟩)
  | arr xs =>
    rw [DiffersHidden] at h
    obtain ⟨ys, rfl, -⟩ := h
    exact Or.inr (Or.inr (Or.inl ⟨xs, ys, rfl, rfl⟩))
  | obj kvs =>
    rw [DiffersHidden] at h
    obtain ⟨kvs', rfl, -⟩ := h
    exact Or.inr (Or.inr (Or.inr ⟨kvs, kvs', rfl, rfl⟩))

theorem DiffersHidden.isContainer_eq {hidden : Bool} {v w : Json}
    (h : DiffersHidden py hidden v w) : isContainer v = isContainer w := by
  obtain rfl | ⟨s, t, rfl, rfl, -⟩ | ⟨xs, ys, rfl, rfl⟩ | ⟨kvs, kvs', rfl, rfl⟩ := h.cases <;> rfl

theorem DiffersHidden.publicTaskErrorMessage_eq {hidden : Bool} {v w : Json}
    (h : DiffersHidden py hidden v w) : publicTaskErrorMessage v = publicTaskErrorMessage w := by
  obtain rfl | ⟨s, t, rfl, rfl, -, hs, ht⟩ | ⟨xs, ys, rfl, rfl⟩ | ⟨kvs, kvs', rfl, rfl⟩ := h.cases
  · rfl
  · rw [publicTaskErrorMessage, publicTaskErrorMessage, if_neg hs, if_neg ht]
  · rfl
  · rfl

theorem DiffersHidden.isTrue_eq {hidden : Bool} {v w : Json} (h : DiffersHidden py hidden v w) :
    isTrue (some v) = isTrue (some w) := by
  obtain rfl | ⟨s, t, rfl, rfl, -⟩ | ⟨xs, ys, rfl, rfl⟩ | ⟨kvs, kvs', rfl, rfl⟩ := h.cases <;> rfl

theorem DiffersHidden.statusText_eq {v w : Json} (h : DiffersHidden py false v w) :
    statusText py (some v) = statusText py (some w) := by
  obtain rfl | ⟨s, t, rfl, rfl, hhidden, -⟩ | ⟨xs, ys, rfl, rfl⟩ | ⟨kvs, kvs', rfl, rfl⟩ := h.cases
  · rfl
  · cases hhidden
  · rfl
  · rfl

theorem normalizedKey_status : normalizedKey py "status" = "status" := by
  have hstrip : strip "status" = "status" := by decide
  have hascii : "status".toList.all (fun c => decide (c.toNat < 128)) = true := by decide
  rw [normalizedKey, hstrip, py.lower_ascii _ fun c hc =>
    of_decide_eq_true (List.all_eq_true.mp hascii c hc)]
  decide

theorem hiddenBelow_status (hidden : Bool) : hiddenBelow py hidden "status" = false := by
  have hpath : isPathKey py "status" = false := by
    rw [isPathKey, normalizedKey_status]
    decide
  rw [hiddenBelow, hpath, normalizedKey_status]
  rfl

theorem lookup_differs {hidden : Bool} {kvs kvs' : List (String × Json)}
    (h : EntriesDifferHidden py hidden kvs kvs') (key : String) :
    (kvs.lookup key = none ∧ kvs'.lookup key = none) ∨
      ∃ v w, kvs.lookup key = some v ∧ kvs'.lookup key = some w ∧
        DiffersHidden py (hiddenBelow py hidden key) v w := by
  induction kvs generalizing kvs' with
  | nil =>
    rw [EntriesDifferHidden] at h
    rw [h]
    exact Or.inl ⟨rfl, rfl⟩
  | cons kv kvs ih =>
    obtain ⟨first, item⟩ := kv
    rw [EntriesDifferHidden] at h
    obtain ⟨item', rest, rfl, hitem, hrest⟩ := h
    by_cases hkey : key = first
    · rw [hkey]
      exact Or.inr ⟨item, item', List.lookup_cons_self, List.lookup_cons_self, hitem⟩
    · rw [List.lookup_cons, List.lookup_cons, beq_false_of_ne hkey]
      exact ih hrest

theorem failedContainer_eq {hidden : Bool} {kvs kvs' : List (String × Json)}
    (h : EntriesDifferHidden py hidden kvs kvs') :
    failedContainer py kvs = failedContainer py kvs' := by
  have hstatus : statusText py (kvs.lookup "status") = statusText py (kvs'.lookup "status") := by
    rcases lookup_differs h "status" with ⟨hnone, hnone'⟩ | ⟨v, w, hv, hw, hdiffers⟩
    · rw [hnone, hnone']
    · rw [hiddenBelow_status] at hdiffers
      rw [hv, hw, hdiffers.statusText_eq]
  have hskipped : isTrue (kvs.lookup "skipped") = isTrue (kvs'.lookup "skipped") := by
    rcases lookup_differs h "skipped" with ⟨hnone, hnone'⟩ | ⟨v, w, hv, hw, hdiffers⟩
    · rw [hnone, hnone']
    · rw [hv, hw, hdiffers.isTrue_eq]
  have hkeys : ∀ {kvs kvs' : List (String × Json)}, EntriesDifferHidden py hidden kvs kvs' →
      (kvs.any fun kv => isErrorKey py kv.1) = kvs'.any fun kv => isErrorKey py kv.1 := by
    intro kvs
    induction kvs with
    | nil =>
      intro kvs' h
      rw [EntriesDifferHidden] at h
      rw [h]
    | cons kv kvs ih =>
      intro kvs' h
      rw [EntriesDifferHidden] at h
      obtain ⟨item', rest, rfl, -, hrest⟩ := h
      rw [List.any_cons, List.any_cons, ih hrest]
  rw [failedContainer, failedContainer, hstatus, hskipped, hkeys h]

theorem childDiagnostic_of_hiddenBelow {hidden diagnostic : Bool} (failed : Bool) {key : String}
    (hle : hidden = true → diagnostic = true) (hpath : isPathKey py key = false)
    (h : hiddenBelow py hidden key = true) : childDiagnostic py diagnostic failed key = true := by
  simp only [hiddenBelow, hpath, Bool.false_or, Bool.and_eq_true, Bool.or_eq_true] at h
  obtain ⟨hstatus, hhidden | herror⟩ := h
  · simp only [childDiagnostic, hle hhidden, hstatus, Bool.and_self, Bool.or_true]
  · simp only [childDiagnostic, isErrorEntry, herror, Bool.true_or]

mutual

theorem sanitize_eq : ∀ (v : Json) {hidden diagnostic : Bool} {w : Json},
    (hidden = true → diagnostic = true) → DiffersHidden py hidden v w →
    sanitizePublicDiagnostics py diagnostic v = sanitizePublicDiagnostics py diagnostic w
  | .null, _, _, _, _, h => by
    obtain rfl : _ = _ := by simpa [DiffersHidden] using h
    rfl
  | .bool b, _, _, _, _, h => by
    obtain rfl : _ = _ := by simpa [DiffersHidden] using h
    rfl
  | .int n, _, _, _, _, h => by
    obtain rfl : _ = _ := by simpa [DiffersHidden] using h
    rfl
  | .float q, _, _, _, _, h => by
    obtain rfl : _ = _ := by simpa [DiffersHidden] using h
    rfl
  | .str s, hidden, diagnostic, w, hle, h => by
    rw [DiffersHidden] at h
    obtain rfl | ⟨hhidden, t, rfl, hs, ht⟩ := h
    · rfl
    · have hne : ∀ text : String, strip text ≠ "" → text ≠ "" := fun text h heq =>
        h (by rw [heq]; rfl)
      rw [sanitizePublicDiagnostics, sanitizePublicDiagnostics, hle hhidden]
      simp [hne s hs, hne t ht]
  | .arr xs, hidden, diagnostic, w, hle, h => by
    rw [DiffersHidden] at h
    obtain ⟨ys, rfl, hitems⟩ := h
    rw [sanitizePublicDiagnostics, sanitizePublicDiagnostics, sanitizeItems_eq xs hle hitems]
  | .obj kvs, hidden, diagnostic, w, hle, h => by
    rw [DiffersHidden] at h
    obtain ⟨kvs', rfl, hentries⟩ := h
    rw [sanitizePublicDiagnostics, sanitizePublicDiagnostics, failedContainer_eq hentries,
      sanitizeEntries_eq kvs hle hentries]

theorem sanitizeItems_eq : ∀ (xs : List Json) {hidden diagnostic : Bool} {ys : List Json},
    (hidden = true → diagnostic = true) → ItemsDifferHidden py hidden xs ys →
    sanitizeItems py diagnostic xs = sanitizeItems py diagnostic ys
  | [], _, _, _, _, h => by
    rw [ItemsDifferHidden] at h
    rw [h]
  | x :: xs, hidden, diagnostic, ys, hle, h => by
    rw [ItemsDifferHidden] at h
    obtain ⟨y, ys', rfl, hx, hxs⟩ := h
    rw [sanitizeItems, sanitizeItems, sanitize_eq x hle hx, sanitizeItems_eq xs hle hxs]

theorem sanitizeEntries_eq : ∀ (kvs : List (String × Json)) {hidden diagnostic failed : Bool}
    {sanitized : List String} {kvs' : List (String × Json)},
    (hidden = true → diagnostic = true) → EntriesDifferHidden py hidden kvs kvs' →
    sanitizeEntries py diagnostic failed sanitized kvs =
      sanitizeEntries py diagnostic failed sanitized kvs'
  | [], _, _, _, _, _, _, h => by
    rw [EntriesDifferHidden] at h
    rw [h]
  | (key, item) :: kvs, hidden, diagnostic, failed, sanitized, kvs', hle, h => by
    rw [EntriesDifferHidden] at h
    obtain ⟨item', rest, rfl, hitem, hrest⟩ := h
    rw [sanitizeEntries, sanitizeEntries, sanitizeEntries_eq kvs hle hrest, hitem.isContainer_eq,
      hitem.publicTaskErrorMessage_eq]
    cases hpath : isPathKey py key with
    | true => rfl
    | false =>
      rw [sanitize_eq item (childDiagnostic_of_hiddenBelow failed hle hpath) hitem]

end

/-! ## Paths -/

theorem strip_of_notBlank {c c' : Char} (cs : List Char) (hc : isSpace c = false)
    (hc' : isSpace c' = false) :
    ∃ cs', (strip (String.ofList (c :: c' :: cs))).toList = c :: c' :: cs' := by
  have hfront : (c :: c' :: cs).dropWhile isSpace = c :: c' :: cs := by
    rw [List.dropWhile_cons, hc]
    rfl
  have hback : ∃ cs', (c :: c' :: cs).rdropWhile isSpace = [c, c'] ++ cs' := by
    have hsplit : c :: c' :: cs = [c, c'] ++ cs := rfl
    rw [hsplit, List.rdropWhile, List.reverse_append, List.dropWhile_append]
    split
    · refine ⟨[], ?_⟩
      simp [hc']
    · refine ⟨(cs.reverse.dropWhile isSpace).reverse, ?_⟩
      rw [List.reverse_append, List.reverse_reverse]
  obtain ⟨cs', hcs'⟩ := hback
  refine ⟨cs', ?_⟩
  rw [strip, String.toList_ofList, String.toList_ofList, hfront]
  exact hcs'

theorem startsWith_of_ne {text start : String} {c d : Char} {cs ds : List Char}
    (htext : text.toList = c :: cs) (hstart : start.toList = d :: ds) (hne : d ≠ c) :
    startsWith text start = false := by
  rw [startsWith, htext, hstart, Bool.eq_false_iff]
  intro hbelow
  exact hne (List.cons_prefix_cons.mp (List.isPrefixOf_iff_prefix.mp hbelow)).1

theorem looksLikeLocalPath_of_letter {c c' : Char} (cs : List Char)
    (hc : isSpace c = false ∧ c.toNat < 128 ∧ c ≠ '\\' ∧ c ≠ '/' ∧ c.toLower ≠ 'f')
    (hc' : isSpace c' = false ∧ c' ≠ ':') :
    looksLikeLocalPath py (String.ofList (c :: c' :: cs)) = false := by
  obtain ⟨hspace, hascii, hback, hslash, hf⟩ := hc
  obtain ⟨cs', hstrip⟩ := strip_of_notBlank cs hspace hc'.1
  have htext : strip (String.ofList (c :: c' :: cs)) = String.ofList (c :: c' :: cs') :=
    String.toList_injective (by rw [hstrip, String.toList_ofList])
  obtain ⟨lowered, hlower⟩ := py.lower_head c (c' :: cs') hascii
  have hwindows : isWindowsAbsolutePath (c :: c' :: cs') = false := by
    unfold isWindowsAbsolutePath
    split
    · next heq => exact absurd (List.cons.inj heq).1 hback
    · next heq => exact absurd (List.cons.inj (List.cons.inj heq).2).1 hc'.2
    · rfl
  have hroot : startsWith (String.ofList (c :: c' :: cs')) "/" = false :=
    startsWith_of_ne (String.toList_ofList) rfl (Ne.symm hslash)
  have hfile : startsWith (py.lower (String.ofList (c :: c' :: cs'))) "file://" = false :=
    startsWith_of_ne hlower rfl (Ne.symm hf)
  unfold looksLikeLocalPath
  dsimp only
  rw [htext, String.toList_ofList, hwindows, hroot, hfile]
  split <;> rfl

theorem publicTaskFailureMessage_noPath : looksLikeLocalPath py publicTaskFailureMessage = false :=
  looksLikeLocalPath_of_letter _ (by decide) (by decide)

theorem looksLikeLocalPath_append {text : String} {c c' : Char} {cs : List Char}
    (htext : text.toList = c :: c' :: cs) (more : String)
    (hc : isSpace c = false ∧ c.toNat < 128 ∧ c ≠ '\\' ∧ c ≠ '/' ∧ c.toLower ≠ 'f')
    (hc' : isSpace c' = false ∧ c' ≠ ':') :
    looksLikeLocalPath py (text ++ more) = false := by
  have hchars : text ++ more = String.ofList (c :: c' :: (cs ++ more.toList)) :=
    String.toList_injective (by rw [String.toList_append, htext, String.toList_ofList]; rfl)
  rw [hchars]
  exact looksLikeLocalPath_of_letter _ hc hc'

theorem looksLikeLocalPath_redacted (more : String) :
    looksLikeLocalPath py ("redacted-key:sha256:" ++ more) = false :=
  @looksLikeLocalPath_append py "redacted-key:sha256:" 'r' 'e' "dacted-key:sha256:".toList (by decide)
    more (by decide) (by decide)

theorem looksLikeLocalPath_local (more : String) :
    looksLikeLocalPath py ("local:sha256:" ++ more) = false :=
  @looksLikeLocalPath_append py "local:sha256:" 'l' 'o' "cal:sha256:".toList (by decide) more
    (by decide) (by decide)

theorem redactedKey_zero (key : String) :
    redactedKey py key 0 = "redacted-key:sha256:" ++ py.sha256 (py.repr key) := rfl

theorem redactedKey_succ (key : String) (suffix : Nat) : redactedKey py key (suffix + 1) =
    "redacted-key:sha256:" ++ py.sha256 (py.repr key) ++ ":" ++ intText (suffix + 1 : Nat) := rfl

theorem publicKey_noPath (sanitized : List String) (key : String) :
    looksLikeLocalPath py (publicKey py sanitized key) = false := by
  unfold publicKey
  split
  · obtain ⟨i, hi⟩ := @exists_firstFree_eq _ _ (redactedKey py key) sanitized sanitized.length 0
    rw [hi]
    cases i with
    | zero =>
      rw [redactedKey_zero]
      exact looksLikeLocalPath_redacted _
    | succ i =>
      rw [redactedKey_succ, String.append_assoc, String.append_assoc]
      exact looksLikeLocalPath_redacted _
  · unfold publicSafeIdentifier
    split
    · exact looksLikeLocalPath_local _
    · next h => rwa [Bool.not_eq_true] at h

theorem publicTaskErrorMessage_noPath (item : Json) : HasNoPath py (publicTaskErrorMessage item) := by
  unfold publicTaskErrorMessage
  split
  · simp [HasNoPath]
  · split
    · simp [HasNoPath]
    · exact publicTaskFailureMessage_noPath
  · exact publicTaskFailureMessage_noPath

mutual

theorem sanitize_noPath : ∀ (v : Json) (diagnostic : Bool),
    HasNoPath py (sanitizePublicDiagnostics py diagnostic v)
  | .null, _ => by simp [sanitizePublicDiagnostics, HasNoPath]
  | .bool b, _ => by simp [sanitizePublicDiagnostics, HasNoPath]
  | .int n, _ => by simp [sanitizePublicDiagnostics, HasNoPath]
  | .float q, _ => by simp [sanitizePublicDiagnostics, HasNoPath]
  | .str s, diagnostic => by
    rw [sanitizePublicDiagnostics]
    split
    · exact publicTaskFailureMessage_noPath
    · split
      · simp [HasNoPath]
      · next h => rwa [HasNoPath, ← Bool.not_eq_true]
  | .arr xs, diagnostic => by
    rw [sanitizePublicDiagnostics, HasNoPath]
    exact sanitizeItems_noPath xs diagnostic
  | .obj kvs, diagnostic => by
    rw [sanitizePublicDiagnostics, HasNoPath]
    exact sanitizeEntries_noPath kvs diagnostic _ _

theorem sanitizeItems_noPath : ∀ (xs : List Json) (diagnostic : Bool),
    ItemsHaveNoPath py (sanitizeItems py diagnostic xs)
  | [], _ => by simp [sanitizeItems, ItemsHaveNoPath]
  | x :: xs, diagnostic => by
    rw [sanitizeItems, ItemsHaveNoPath]
    exact ⟨sanitize_noPath x diagnostic, sanitizeItems_noPath xs diagnostic⟩

theorem sanitizeEntries_noPath : ∀ (kvs : List (String × Json)) (diagnostic failed : Bool)
    (sanitized : List String),
    EntriesHaveNoPath py (sanitizeEntries py diagnostic failed sanitized kvs)
  | [], _, _, _ => by simp [sanitizeEntries, EntriesHaveNoPath]
  | (key, item) :: kvs, diagnostic, failed, sanitized => by
    rw [sanitizeEntries, EntriesHaveNoPath]
    refine ⟨publicKey_noPath sanitized key, ?_, sanitizeEntries_noPath kvs diagnostic failed _⟩
    split
    · simp [HasNoPath]
    · split
      · exact publicTaskErrorMessage_noPath item
      · exact sanitize_noPath item _

end

/-! ## Entries -/

theorem redactedKey_injective (key : String) : Function.Injective (redactedKey py key) := by
  have hlonger : ∀ suffix : Nat, redactedKey py key 0 ≠ redactedKey py key (suffix + 1) := by
    intro suffix heq
    have hlength := congrArg String.length heq
    rw [redactedKey_zero, redactedKey_succ, String.length_append _ (intText _),
      String.length_append _ ":"] at hlength
    have hone : ":".length = 1 := rfl
    omega
  intro i j h
  cases i with
  | zero =>
    cases j with
    | zero => rfl
    | succ j => exact absurd h (hlonger j)
  | succ i =>
    cases j with
    | zero => exact absurd h.symm (hlonger i)
    | succ j =>
      rw [redactedKey_succ, redactedKey_succ] at h
      generalize "redacted-key:sha256:" ++ py.sha256 (py.repr key) ++ ":" = start at h
      have hchars := congrArg String.toList h
      rw [String.toList_append, String.toList_append, List.append_cancel_left_eq] at hchars
      have hint := intText_injective (String.toList_injective hchars)
      omega

theorem publicKey_notMem (sanitized : List String) (key : String) :
    publicKey py sanitized key ∉ sanitized := by
  unfold publicKey
  split
  · exact firstFree_notMem (redactedKey_injective key)
  · assumption

theorem sanitizeEntries_nodup (diagnostic failed : Bool) (sanitized : List String)
    (kvs : List (String × Json)) :
    ((sanitizeEntries py diagnostic failed sanitized kvs).map Prod.fst).Nodup ∧
      ∀ kv ∈ sanitizeEntries py diagnostic failed sanitized kvs, kv.1 ∉ sanitized := by
  induction kvs generalizing sanitized with
  | nil =>
    rw [sanitizeEntries]
    exact ⟨List.nodup_nil, fun kv h => absurd h List.not_mem_nil⟩
  | cons kv kvs ih =>
    obtain ⟨key, item⟩ := kv
    obtain ⟨hnodup, hnew⟩ := ih (sanitized ++ [publicKey py sanitized key])
    rw [sanitizeEntries, List.map_cons, List.nodup_cons]
    refine ⟨⟨fun hmem => ?_, hnodup⟩, fun kv hkv => ?_⟩
    · obtain ⟨kv, hkv, heq⟩ := List.mem_map.mp hmem
      exact hnew kv hkv (List.mem_append_right _ (List.mem_singleton.mpr heq))
    · rcases List.mem_cons.mp hkv with rfl | hkv
      · exact publicKey_notMem sanitized key
      · exact fun hmem => hnew kv hkv (List.mem_append_left _ hmem)

theorem length_sanitizeEntries (diagnostic failed : Bool) (sanitized : List String)
    (kvs : List (String × Json)) :
    (sanitizeEntries py diagnostic failed sanitized kvs).length = kvs.length := by
  induction kvs generalizing sanitized with
  | nil => rw [sanitizeEntries]
  | cons kv kvs ih => rw [sanitizeEntries, List.length_cons, ih, List.length_cons]

mutual

theorem sanitize_keepsEntries : ∀ (v : Json) (diagnostic : Bool),
    KeepsEntries py v (sanitizePublicDiagnostics py diagnostic v)
  | .null, _ => by simp [KeepsEntries]
  | .bool b, _ => by simp [KeepsEntries]
  | .int n, _ => by simp [KeepsEntries]
  | .float q, _ => by simp [KeepsEntries]
  | .str s, _ => by simp [KeepsEntries]
  | .arr xs, diagnostic => by
    rw [KeepsEntries, sanitizePublicDiagnostics]
    exact ⟨_, rfl, sanitizeItems_keepEntries xs diagnostic⟩
  | .obj kvs, diagnostic => by
    rw [KeepsEntries, sanitizePublicDiagnostics]
    exact ⟨_, rfl, length_sanitizeEntries .., (sanitizeEntries_nodup _ _ _ kvs).1,
      sanitizeEntries_keepEntries kvs diagnostic _ _⟩

theorem sanitizeItems_keepEntries : ∀ (xs : List Json) (diagnostic : Bool),
    ItemsKeepEntries py xs (sanitizeItems py diagnostic xs)
  | [], _ => by rw [ItemsKeepEntries, sanitizeItems]
  | x :: xs, diagnostic => by
    rw [ItemsKeepEntries, sanitizeItems]
    exact ⟨_, _, rfl, sanitize_keepsEntries x diagnostic, sanitizeItems_keepEntries xs diagnostic⟩

theorem sanitizeEntries_keepEntries : ∀ (kvs : List (String × Json)) (diagnostic failed : Bool)
    (sanitized : List String),
    EntriesKeepEntries py kvs (sanitizeEntries py diagnostic failed sanitized kvs)
  | [], _, _, _ => by rw [EntriesKeepEntries, sanitizeEntries]
  | (key, item) :: kvs, diagnostic, failed, sanitized => by
    rw [EntriesKeepEntries, sanitizeEntries]
    refine ⟨_, _, rfl, ?_, sanitizeEntries_keepEntries kvs diagnostic failed _⟩
    dsimp only
    split
    · next hpath => exact Or.inl ⟨hpath, rfl⟩
    · split
      · next herror =>
        -- the value of an error key is no container
        refine Or.inr ?_
        cases item with
        | arr xs => simp [isContainer] at herror
        | obj kvs => simp [isContainer] at herror
        | _ => simp [KeepsEntries]
      · exact Or.inr (sanitize_keepsEntries item _)

end

/-- The public form of a payload does not depend on its hidden texts; none of its texts looks like a
local path, and its dictionaries have as many entries as those of the payload. -/
theorem sanitize_public_diagnostics (py : PublicStdlib) :
    (∀ v w, DiffersHidden py false v w →
      sanitizePublicDiagnostics py false v = sanitizePublicDiagnostics py false w) ∧
    ∀ v, HasNoPath py (sanitizePublicDiagnostics py false v) ∧
      KeepsEntries py v (sanitizePublicDiagnostics py false v) :=
  ⟨fun v _ h => sanitize_eq v (fun hidden => absurd hidden Bool.false_ne_true) h, fun v =>
    ⟨sanitize_noPath v false, sanitize_keepsEntries v false⟩⟩

/-- Texts of ASCII characters; no key is hashed. -/
def asciiStdlib : PublicStdlib where
  lower text := String.ofList (text.toList.map Char.toLower)
  sha256 text := text
  repr text := "'" ++ text ++ "'"
  lower_ascii _ _ := rfl
  lower_head c cs _ := ⟨cs.map Char.toLower, by simp⟩

def taskWithError (error : String) : Json :=
  .obj [("name", .str "train"), ("runs", .arr [.int 1, .obj [("error", .str error)]])]

theorem sanitize_public_diagnostics_error :
    sanitizePublicDiagnostics asciiStdlib false (taskWithError "no /etc/key") =
      sanitizePublicDiagnostics asciiStdlib false (taskWithError "timeout") := by
  refine (sanitize_public_diagnostics asciiStdlib).1 _ _ ?_
  have hhidden : hiddenBelow asciiStdlib (hiddenBelow asciiStdlib false "runs") "error" = true := by
    decide
  unfold taskWithError
  simp only [DiffersHidden, EntriesDifferHidden, ItemsDifferHidden]
  refine ⟨_, rfl, _, _, rfl, Or.inl rfl, _, _, rfl, ⟨_, rfl, _, _, rfl, rfl, _, _, rfl, ?_, rfl⟩, rfl⟩
  exact ⟨_, rfl, _, _, rfl, Or.inr ⟨hhidden, _, rfl, by decide, by decide⟩, rfl⟩

end Diagnostics
