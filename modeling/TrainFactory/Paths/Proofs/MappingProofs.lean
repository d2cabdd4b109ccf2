import Mathlib.Data.Set.List
import TrainFactory.Paths.Mapping

/-!
# Mapped paths are mapped back

All texts of a table are normal paths. A path is mapped and mapped back unless a root is one of the
prefixes, or the container prefix of an earlier mapping is above the mapped path.
-/

namespace Paths

open Lib NormalPath

variable {dirs : Directories}

/-! ## Texts of normal paths -/

theorem isAbs_joinPath {path name : String} (h : isAbs path = true) :
    isAbs (joinPath path name) = true := by
  obtain ⟨rest, hrest⟩ := List.isPrefixOf_iff_prefix.mp h
  have happend : ∀ more : String, isAbs (path ++ more) = true := by
    intro more
    refine List.isPrefixOf_iff_prefix.mpr ⟨rest ++ more.toList, ?_⟩
    rw [← List.append_assoc, hrest, String.toList_append]
  unfold joinPath
  split
  · assumption
  · split
    · exact happend name
    · rw [String.append_assoc]
      exact happend _

theorem absPath_eq (hcwd : isAbs dirs.cwd = true) (path : String) :
    ∃ p : NormalPath, dirs.absPath path = p.text := by
  unfold Directories.absPath
  split
  · next habs => exact ⟨_, normPath_eq habs⟩
  · exact ⟨_, normPath_eq (isAbs_joinPath hcwd)⟩

theorem absPath_text (p : NormalPath) : dirs.absPath p.text = p.text := by
  rw [Directories.absPath, if_pos p.isAbs_text, normPath_text]

theorem normalizePath_eq (hcwd : isAbs dirs.cwd = true) (path : String) :
    ∃ p : NormalPath, normalizePath dirs path = p.text := by
  obtain ⟨p, hp⟩ := absPath_eq hcwd (dirs.expandUser path)
  exact ⟨p, by rw [normalizePath, hp, normPath_text]⟩

theorem normalizePath_text (p : NormalPath) : normalizePath dirs p.text = p.text := by
  have hexpand : dirs.expandUser p.text = p.text := by
    have habs := p.isAbs_text
    unfold isAbs startsWith at habs
    unfold Directories.expandUser
    split
    · next cs hcs =>
      rw [hcs] at habs
      cases habs
    · rfl
  rw [normalizePath, hexpand, absPath_text, normPath_text]

theorem text_ne_empty (p : NormalPath) : p.text ≠ "" := by
  intro hempty
  have habs := p.isAbs_text
  rw [hempty] at habs
  cases habs

/-! ## Prefixes -/

theorem isUnder_iff {p q : NormalPath} : isUnder p.text q.text = true ↔
    (p.IsAbove q ∧ (p.names ≠ [] ∨ q = p)) ∨
      (p.names = [] ∧ p.doubled = false ∧ q.doubled = true) := by
  rw [isUnder, Bool.or_eq_true, decide_eq_true_eq, startsWith_slash_iff, text_injective.eq_iff]
  constructor
  · rintro (rfl | ⟨habove, -, hne⟩ | hroot)
    · exact Or.inl ⟨⟨rfl, List.prefix_rfl⟩, Or.inr rfl⟩
    · exact Or.inl ⟨habove, Or.inl hne⟩
    · exact Or.inr hroot
  · rintro (⟨habove, hne⟩ | hroot)
    · by_cases heq : q = p
      · exact Or.inl heq
      · exact Or.inr (Or.inl ⟨habove, Ne.symm heq, hne.resolve_right heq⟩)
    · exact Or.inr (Or.inr hroot)

theorem prefix_of_isUnder {p q : NormalPath} (h : isUnder p.text q.text = true) :
    p.names <+: q.names := by
  rcases isUnder_iff.mp h with ⟨habove, -⟩ | ⟨hnil, -⟩
  · exact habove.2
  · rw [hnil]
    exact List.nil_prefix

theorem commonPrefix_append {α : Type} [DecidableEq α] (xs ys : List α) :
    commonPrefix xs (xs ++ ys) = xs := by
  induction xs with
  | nil => cases ys <;> rfl
  | cons x xs ih => rw [List.cons_append, commonPrefix, if_pos rfl, ih]

theorem filter_split_append (path path' : String) :
    ((split (path ++ "/" ++ path') '/').filter fun name => name ≠ "") =
      ((split path '/').filter fun name => name ≠ "") ++
        (split path' '/').filter fun name => name ≠ "" := by
  have hchars : (path ++ "/" ++ path').toList = path.toList ++ '/' :: path'.toList := by simp
  rw [split, hchars, List.splitOn_append_cons_self, List.map_append, List.filter_append]
  rfl

theorem filter_split_join {names : List String} (h : ∀ name ∈ names, isPlainName name = true) :
    ((split (join "/" names) '/').filter fun name => name ≠ "") = names := by
  have hone : ∀ name, isPlainName name = true →
      ((split name '/').filter fun name => name ≠ "") = [name] := by
    intro name hname
    obtain ⟨hslash, hempty, -⟩ := isPlainName_iff.mp hname
    rw [split, List.splitOn_eq_singleton hslash]
    simp [hempty]
  induction names with
  | nil => simp [join, split]
  | cons name names ih =>
    have hname := hone name (h name (List.mem_cons_self ..))
    by_cases hnil : names = []
    · rw [hnil]
      exact hname
    · rw [join_cons hnil, filter_split_append, hname,
        ih fun n hn => h n (List.mem_cons_of_mem _ hn)]
      rfl

theorem filter_split_text (p : NormalPath) :
    ((split p.text '/').filter fun name => name ≠ "") = p.names := by
  have hempty : ((split "" '/').filter fun name => name ≠ "") = [] := by simp [split]
  have hslash : ∀ text, ((split ("/" ++ text) '/').filter fun name => name ≠ "") =
      (split text '/').filter fun name => name ≠ "" := by
    intro text
    have happend := filter_split_append "" text
    rwa [String.empty_append, hempty, List.nil_append] at happend
  unfold NormalPath.text slashes
  split
  · have htwo : "//" ++ join "/" p.names = "/" ++ ("/" ++ join "/" p.names) := by
      rw [← String.append_assoc]
      rfl
    rw [htwo, hslash, hslash, filter_split_join p.plain]
  · rw [hslash, filter_split_join p.plain]

theorem joinPath_plain {path name : String} (hname : isPlainName name = true) (hempty : path ≠ "")
    (hlast : path.toList.getLast? ≠ some '/') : joinPath path name = path ++ "/" ++ name := by
  rw [joinPath, isAbs_plain hname, if_neg Bool.false_ne_true, if_neg (not_or.mpr ⟨hempty, hlast⟩)]

theorem foldl_joinPath {path : String} {names : List String} (hempty : path ≠ "")
    (hlast : path.toList.getLast? ≠ some '/') (hnames : ∀ n ∈ names, isPlainName n = true) :
    names.foldl joinPath path = join "/" (path :: names) := by
  induction names generalizing path with
  | nil => rfl
  | cons name names ih =>
    have hname := hnames name (List.mem_cons_self ..)
    have hnext : (path ++ "/" ++ name).toList.getLast? ≠ some '/' := by
      have hname' := @getLast?_join [name] (List.cons_ne_nil _ _) fun n hn =>
        List.mem_singleton.mp hn ▸ hname
      obtain ⟨-, hne, -⟩ := isPlainName_iff.mp hname
      rw [String.toList_append, List.getLast?_append_of_ne_nil _
        (String.toList_eq_nil_iff.not.mpr hne)]
      exact hname'
    rw [List.foldl_cons, joinPath_plain hname hempty hlast,
      ih (by simp) hnext fun n hn => hnames n (List.mem_cons_of_mem _ hn),
      join_cons (List.cons_ne_nil _ _)]
    cases names with
    | nil => rfl
    | cons next names =>
      rw [join_cons (List.cons_ne_nil _ _), join_cons (List.cons_ne_nil _ _)]
      simp only [String.append_assoc]

theorem relPath_text {p q : NormalPath} {names : List String} (h : q.names = p.names ++ names) :
    relPath dirs q.text p.text = if names = [] then "." else join "/" names := by
  have hplain : ∀ name ∈ names, isPlainName name = true := fun name hname =>
    q.plain name (h ▸ List.mem_append_right p.names hname)
  have hrel : List.replicate (p.names.length - (commonPrefix p.names q.names).length) ".." ++
      q.names.drop (commonPrefix p.names q.names).length = names := by
    rw [h, commonPrefix_append, Nat.sub_self, List.replicate_zero, List.nil_append, List.drop_left]
  unfold relPath
  simp only [absPath_text, filter_split_text, hrel]
  cases names with
  | nil => rfl
  | cons name names =>
    have hname := hplain name (List.mem_cons_self ..)
    obtain ⟨-, hempty, -⟩ := isPlainName_iff.mp hname
    refine foldl_joinPath hempty ?_ fun n hn => hplain n (List.mem_cons_of_mem _ hn)
    exact @getLast?_join [name] (List.cons_ne_nil _ _) fun n hn =>
      List.mem_singleton.mp hn ▸ hname

theorem replacePrefix_text {p q r : NormalPath} (h : p.names <+: q.names) :
    replacePrefix dirs p.text r.text q.text = (p.move q r).text := by
  obtain ⟨names, hnames⟩ := h
  have hmove : (p.move q r).names = r.names ++ names := names_move hnames.symm
  have hplain : ∀ name ∈ names, isPlainName name = true := fun name hname =>
    q.plain name (hnames ▸ List.mem_append_right p.names hname)
  unfold replacePrefix
  rw [relPath_text hnames.symm]
  by_cases hnil : names = []
  · rw [if_pos hnil, if_pos (Or.inl rfl)]
    rw [hnil, List.append_nil] at hmove
    exact congrArg text (NormalPath.ext rfl hmove.symm)
  · have hcomps := pathComponents_join hplain
    have hdot : join "/" names ≠ "." := fun heq => hnil (by rw [← hcomps, heq]; rfl)
    have hempty : join "/" names ≠ "" := fun heq => hnil (by rw [← hcomps, heq]; rfl)
    have hrel : isAbs (join "/" names) = false := isAbs_join hplain
    have hjoin : joinPath r.text (join "/" names) = (p.move q r).text := by
      rw [@text_of_names_append r (p.move q r) names rfl hmove hnil, joinPath, hrel, if_neg Bool.false_ne_true]
      by_cases hroot : r.names = []
      · rw [if_pos (Or.inr (getLast?_text.mpr hroot)), if_pos hroot, String.append_empty]
      · rw [if_neg (not_or.mpr ⟨text_ne_empty r, getLast?_text.not.mpr hroot⟩), if_neg hroot]
    rw [if_neg hnil, if_neg (not_or.mpr ⟨hdot, hempty⟩), hjoin, normPath_text]

/-! ## The table -/

def texts (m : NormalPath × NormalPath) : String × String := (m.1.text, m.2.text)

theorem getPathMappings_eq (hcwd : isAbs dirs.cwd = true) (setting : String) :
    ∃ table : List (NormalPath × NormalPath), getPathMappings dirs setting = table.map texts := by
  have hmem : ∀ m ∈ getPathMappings dirs setting, m ∈ Set.range texts := by
    intro m hm
    unfold getPathMappings at hm
    dsimp only at hm
    split at hm
    · cases hm
    · rw [List.mem_insertionSort, List.mem_filterMap] at hm
      obtain ⟨item, -, hitem⟩ := hm
      unfold parseMappingItem at hitem
      split at hitem
      · cases hitem
      · next parts _ =>
        dsimp only at hitem
        split at hitem
        · cases hitem
        · obtain ⟨h, hh⟩ := normalizePath_eq hcwd (strip (String.ofList parts.1))
          obtain ⟨c, hc⟩ := normalizePath_eq hcwd (strip (String.ofList parts.2))
          rw [hh, hc] at hitem
          exact ⟨(h, c), Option.some.inj hitem⟩
  have hrange : getPathMappings dirs setting ∈ Set.range (List.map texts) := by
    rw [Set.range_list_map]
    exact hmem
  obtain ⟨table, htable⟩ := hrange
  exact ⟨table, htable.symm⟩

theorem length_le_of_before {setting : String} {before after : List (String × String)}
    {mapping : String × String}
    (h : getPathMappings dirs setting = before ++ mapping :: after) :
    ∀ earlier ∈ before, mapping.1.length ≤ earlier.1.length := by
  have hsorted : (getPathMappings dirs setting).Pairwise fun x y => y.1.length ≤ x.1.length := by
    unfold getPathMappings
    dsimp only
    split
    · exact List.Pairwise.nil
    · have htotal : Std.Total fun x y : String × String => y.1.length ≤ x.1.length :=
        ⟨fun x y => Nat.le_total y.1.length x.1.length⟩
      have htrans : IsTrans (String × String) fun x y => y.1.length ≤ x.1.length :=
        ⟨fun _ _ _ h h' => Nat.le_trans h' h⟩
      exact List.pairwise_insertionSort _ _
  rw [h, List.pairwise_append] at hsorted
  exact fun earlier hearlier => hsorted.2.2 earlier hearlier mapping (List.mem_cons_self ..)

/-! ## Longest prefixes -/

section Longest

variable {host container path : NormalPath} {table : List (NormalPath × NormalPath)}

theorem eq_or_lt_of_back (habove : host.IsAbove path)
    (hlongest : ∀ other ∈ table, other.1.IsAbove path → other.1.text.length ≤ host.text.length)
    (hunique : ∀ other ∈ table, other.1 = host → other = (host, container))
    {other : NormalPath × NormalPath} (hother : other ∈ table)
    (hbelow : other.2.names <+: (host.move path container).names)
    (hback : other.2.move (host.move path container) other.1 = path) :
    other = (host, container) ∨
      (other.1.text.length < host.text.length ∧ container.names ≠ []) := by
  obtain ⟨rest, hrest⟩ := habove.2
  obtain ⟨back, hbacknames⟩ := hbelow
  have hmapped : (host.move path container).names = container.names ++ rest :=
    names_move hrest.symm
  have hpath : path.names = other.1.names ++ back := by
    rw [← hback]
    exact names_move hbacknames.symm
  have hdoubled : other.1.doubled = host.doubled := by
    rw [habove.1, ← hback]
    rfl
  rw [hmapped] at hbacknames
  rcases List.append_eq_append_iff.mp hbacknames with ⟨more, hcontainer, hmore⟩ | ⟨more, hmore, hrest'⟩
  · have hhost : host.names = other.1.names ++ more := by
      rw [← hrest, hmore, ← List.append_assoc] at hpath
      exact List.append_cancel_right hpath
    cases more with
    | nil =>
      rw [List.append_nil] at hhost
      exact Or.inl (hunique other hother (NormalPath.ext hdoubled hhost.symm))
    | cons name names =>
      have hup : other.1.IsAbove host := ⟨hdoubled, _, hhost.symm⟩
      refine Or.inr ⟨hup.length_lt fun heq => ?_, fun hnil => ?_⟩
      · rw [heq] at hhost
        simp at hhost
      · rw [hnil] at hcontainer
        simp at hcontainer
  · have hother' : other.1.names = host.names ++ more := by
      rw [← hrest, hrest', ← List.append_assoc] at hpath
      exact (List.append_cancel_right hpath).symm
    cases more with
    | nil =>
      rw [List.append_nil] at hother'
      exact Or.inl (hunique other hother (NormalPath.ext hdoubled hother'))
    | cons name names =>
      have hdown : host.IsAbove other.1 := ⟨hdoubled.symm, _, hother'.symm⟩
      have hlt := hdown.length_lt fun heq => by
        rw [heq] at hother'
        simp at hother'
      have hle := hlongest other hother ⟨hdoubled.trans habove.1, back, hpath.symm⟩
      exact absurd hlt (Nat.not_lt.mpr hle)

theorem not_isUnder_of_before (habove : host.IsAbove path) {other : NormalPath × NormalPath}
    (hlength : host.text.length ≤ other.1.text.length) (hne : other.1 ≠ host)
    (hlongest : other.1.IsAbove path → other.1.text.length ≤ host.text.length) :
    isUnder other.1.text path.text = false := by
  rw [Bool.eq_false_iff]
  intro hunder
  rcases isUnder_iff.mp hunder with ⟨hother, -⟩ | ⟨hnil, hsingle, hdouble⟩
  · -- both are above the path, so one of them is above the other
    have hle := hlongest hother
    rcases List.prefix_or_prefix_of_prefix hother.2 habove.2 with hbelow | hbelow
    · have hup : other.1.IsAbove host := ⟨hother.1.trans habove.1.symm, hbelow⟩
      exact absurd (hup.length_lt hne) (by omega)
    · have hdown : host.IsAbove other.1 := ⟨habove.1.trans hother.1.symm, hbelow⟩
      exact absurd (hdown.length_lt (Ne.symm hne)) (by omega)
  · have hother : other.1.text = "/" := by
      rw [NormalPath.text, slashes, hsingle, hnil]
      rfl
    have hhost : host.text.length = 2 + (join "/" host.names).length := by
      rw [NormalPath.text, slashes, habove.1, hdouble, if_pos rfl, String.length_append]
      rfl
    have hone : "/".length = 1 := rfl
    rw [hother, hhost, hone] at hlength
    omega

theorem move_move (habove : host.IsAbove path) :
    container.move (host.move path container) host = path := by
  obtain ⟨rest, hrest⟩ := habove.2
  have hnames : (host.move path container).names = container.names ++ rest := names_move hrest.symm
  exact NormalPath.ext habove.1 ((names_move hnames).trans hrest)

theorem eq_of_move_eq (habove : host.IsAbove path) (h : host.move path container = container) :
    path = host := by
  have hback := @move_move host container path habove
  rw [h] at hback
  rw [← hback]
  exact NormalPath.ext rfl (by rw [names_move (List.append_nil _).symm, List.append_nil])

/-- The mappings that the code finds take the path to its place and back: so it is where the
prefixes are no roots, or the path is the host prefix, and no earlier mapping takes the mapped
path. -/
theorem find?_round_trips_iff {before after : List (NormalPath × NormalPath)}
    (htable : table = before ++ (host, container) :: after)
    (hhosts : (table.map Prod.fst).Nodup) (hcontainers : (table.map Prod.snd).Nodup)
    (habove : host.IsAbove path)
    (hlongest : ∀ other ∈ table, other.1.IsAbove path → other.1.text.length ≤ host.text.length)
    (hsorted : ∀ other ∈ before, host.text.length ≤ other.1.text.length) :
    ((∃ found, table.find? (fun m => isUnder m.1.text path.text) = some found ∧
        found.1.move path found.2 = host.move path container) ∧
      ((∃ back,
        (table.find? fun m => isUnder m.2.text (host.move path container).text) = some back ∧
          back.2.move (host.move path container) back.1 = path) ∨
        (table.find? fun m => isUnder m.2.text (host.move path container).text) = none ∧
          host.move path container = path)) ↔
    (path = host ∨ host.names ≠ [] ∧ container.names ≠ []) ∧
      ∀ other ∈ before, isUnder other.2.text (host.move path container).text = false := by
  have hmem : (host, container) ∈ table := by simp [htable]
  have hunique : ∀ other ∈ table, other.1 = host → other = (host, container) :=
    fun other hother heq => List.inj_on_of_nodup_map hhosts hother hmem heq
  have hother : ∀ other ∈ before, other.1 ≠ host := by
    intro other hbefore heq
    rw [htable, List.map_append, List.nodup_append] at hhosts
    exact hhosts.2.2 other.1 (List.mem_map_of_mem hbefore) host (List.mem_cons_self ..) heq
  constructor
  · rintro ⟨⟨found, hfound, hmove⟩, hback⟩
    refine ⟨?_, fun other hbefore => ?_⟩
    · by_contra hroots
      obtain ⟨hne, hroots⟩ := not_or.mp hroots
      by_cases hroot : host.names = []
      · -- nothing but the root is above the path, and the test does not find it
        have hfoundmem := List.mem_of_find?_eq_some hfound
        have hunder := List.find?_some hfound
        rcases isUnder_iff.mp hunder with ⟨hup, hnames⟩ | ⟨hnil, hsingle, hdouble⟩
        · have hdown : host.IsAbove found.1 :=
            ⟨habove.1.trans hup.1.symm, by rw [hroot]; exact List.nil_prefix⟩
          have hlt := hdown.length_lt fun heq => by
            rw [← heq, hroot] at hnames
            exact hnames.elim (fun h => h rfl) hne
          exact absurd (hlongest found hfoundmem hup) (Nat.not_le.mpr hlt)
        · have hcontainer : found.2 = container := by
            have hdoubled := congrArg NormalPath.doubled hmove
            refine NormalPath.ext hdoubled ?_
            have hnames := congrArg NormalPath.names hmove
            rw [names_move (by rw [hnil]; rfl), names_move (by rw [hroot]; rfl)] at hnames
            exact List.append_cancel_right hnames
          have heq := List.inj_on_of_nodup_map hcontainers hfoundmem hmem hcontainer
          rw [heq, habove.1, hdouble] at hsingle
          cases hsingle
      · have hcontainer : container.names = [] := not_not.mp fun h => hroots ⟨hroot, h⟩
        rcases hback with ⟨back, hback, hpath⟩ | ⟨-, hsame⟩
        · have hunder := List.find?_some hback
          rcases eq_or_lt_of_back habove hlongest hunique (List.mem_of_find?_eq_some hback)
            (prefix_of_isUnder hunder) hpath with rfl | ⟨-, hnot⟩
          · rcases isUnder_iff.mp hunder with ⟨-, hnames | heq⟩ | ⟨-, hsingle, hdouble⟩
            · exact hnames hcontainer
            · exact hne (eq_of_move_eq habove heq)
            · exact absurd (hsingle.symm.trans hdouble) Bool.false_ne_true
          · exact hnot hcontainer
        · obtain ⟨rest, hrest⟩ := habove.2
          have hnames := congrArg NormalPath.names hsame
          rw [names_move hrest.symm, hcontainer, ← hrest] at hnames
          exact hroot (List.append_cancel_right hnames).symm
    · rw [Bool.eq_false_iff]
      intro hunder
      obtain ⟨first, hfirst⟩ : ∃ first,
          (before.find? fun m => isUnder m.2.text (host.move path container).text) = some first :=
        Option.isSome_iff_exists.mp (List.find?_isSome.mpr ⟨other, hbefore, hunder⟩)
      have htablefind : (table.find? fun m =>
          isUnder m.2.text (host.move path container).text) = some first := by
        rw [htable, List.find?_append, hfirst]
        rfl
      rcases hback with ⟨back, hback, hpath⟩ | ⟨hnone, -⟩
      · obtain rfl : back = first := Option.some.inj (hback.symm.trans htablefind)
        have hbackbefore := List.mem_of_find?_eq_some hfirst
        have hbackunder := List.find?_some hback
        rcases eq_or_lt_of_back habove hlongest hunique (List.mem_of_find?_eq_some hback)
          (prefix_of_isUnder hbackunder) hpath with heq | ⟨hlt, -⟩
        · exact hother back hbackbefore (congrArg Prod.fst heq)
        · exact absurd (hsorted back hbackbefore) (Nat.not_le.mpr hlt)
      · rw [hnone] at htablefind
        cases htablefind
  · rintro ⟨hroots, hfirst⟩
    have hhostunder : isUnder host.text path.text = true :=
      isUnder_iff.mpr (Or.inl ⟨habove, hroots.elim Or.inr fun h => Or.inl h.1⟩)
    have hcontainerunder : isUnder container.text (host.move path container).text = true := by
      refine isUnder_iff.mpr (Or.inl ⟨⟨rfl, List.prefix_append _ _⟩, ?_⟩)
      rcases hroots with rfl | ⟨-, hne⟩
      · exact Or.inr (NormalPath.ext rfl (by
          rw [names_move (List.append_nil _).symm, List.append_nil]))
      · exact Or.inl hne
    have hnone : ∀ test : NormalPath × NormalPath → Bool, (∀ other ∈ before, test other = false) →
        test (host, container) = true → table.find? test = some (host, container) := by
      intro test hbefore htest
      rw [htable, List.find?_append, List.find?_eq_none.mpr fun other hmem => by
        rw [hbefore other hmem]; exact Bool.false_ne_true, List.find?_cons_of_pos htest]
      rfl
    refine ⟨⟨(host, container), hnone _ (fun other hbefore => ?_) hhostunder, rfl⟩,
      Or.inl ⟨(host, container), hnone _ hfirst hcontainerunder, move_move habove⟩⟩
    exact not_isUnder_of_before habove (hsorted other hbefore) (hother other hbefore)
      (hlongest other (htable ▸ List.mem_append_left _ hbefore))

end Longest

/-! ## Settings -/

theorem mapStoragePath_eq {setting path : String} {p : NormalPath}
    {table : List (NormalPath × NormalPath)} (hne : path ≠ "")
    (hpath : normalizePath dirs path = p.text)
    (htable : getPathMappings dirs setting = table.map texts) :
    mapStoragePath dirs setting path =
      match table.find? fun m => isUnder m.1.text p.text with
      | some found => ((found.1.move p found.2).text, some p.text)
      | none => (p.text, none) := by
  rw [mapStoragePath, if_neg hne]
  dsimp only
  rw [hpath, htable, List.find?_map]
  cases hfind : table.find? fun m => isUnder m.1.text p.text with
  | none =>
    have hfind' : (table.find? ((fun m : String × String => isUnder m.1 p.text) ∘ texts)) = none :=
      hfind
    rw [hfind']
    rfl
  | some found =>
    have hfind' : (table.find? ((fun m : String × String => isUnder m.1 p.text) ∘ texts)) =
        some found := hfind
    have hunder := List.find?_some hfind
    rw [hfind']
    exact congrArg (fun text => (text, some p.text))
      (replacePrefix_text (prefix_of_isUnder hunder))

theorem unmapStoragePath_eq {setting : String} {q : NormalPath}
    {table : List (NormalPath × NormalPath)}
    (htable : getPathMappings dirs setting = table.map texts) :
    unmapStoragePath dirs setting q.text =
      match table.find? fun m => isUnder m.2.text q.text with
      | some back => (back.2.move q back.1).text
      | none => q.text := by
  rw [unmapStoragePath, if_neg (text_ne_empty q)]
  dsimp only
  rw [normalizePath_text, htable, List.find?_map]
  cases hfind : table.find? fun m => isUnder m.2.text q.text with
  | none =>
    have hfind' : (table.find? ((fun m : String × String => isUnder m.2 q.text) ∘ texts)) = none :=
      hfind
    rw [hfind']
    rfl
  | some back =>
    have hfind' : (table.find? ((fun m : String × String => isUnder m.2 q.text) ∘ texts)) =
        some back := hfind
    have hunder := List.find?_some hfind
    rw [hfind']
    exact replacePrefix_text (prefix_of_isUnder hunder)

/-- A path is mapped under its longest host prefix and mapped back if and only if the prefixes are
no roots, or the path is the host prefix, and no mapping before it in the table has a container
prefix that the mapped path is under. -/
theorem storage_path_round_trips_iff (dirs : Directories) (hcwd : isAbs dirs.cwd = true)
    (setting path : String) (before after : List (String × String)) (mapping : String × String)
    (htable : getPathMappings dirs setting = before ++ mapping :: after)
    (hhosts : ((getPathMappings dirs setting).map Prod.fst).Nodup)
    (hcontainers : ((getPathMappings dirs setting).map Prod.snd).Nodup)
    (hlongest : IsLongest (getPathMappings dirs setting) mapping (normalizePath dirs path)) :
    RoundTrips dirs setting path mapping ↔ IsApart dirs before mapping path := by
  have hsorted := length_le_of_before htable
  obtain ⟨table, hnormal⟩ := getPathMappings_eq hcwd setting
  obtain ⟨p, hp⟩ := normalizePath_eq hcwd path
  rw [hnormal] at htable hhosts hcontainers hlongest
  obtain ⟨first, last, hsplit, rfl, hlast⟩ := List.map_eq_append_iff.mp htable
  obtain ⟨⟨host, container⟩, rest, rfl, rfl, rfl⟩ := List.map_eq_cons_iff.mp hlast
  obtain ⟨habove, hlong⟩ := hlongest
  rw [hp, texts] at habove hlong
  rw [ofText_text, ofText_text] at habove
  have hmapped : mappedPath (texts (host, container)) p.text = (host.move p container).text := by
    rw [mappedPath, texts, ofText_text, ofText_text, ofText_text]
  have hhosts' : (table.map Prod.fst).Nodup := by
    rw [List.map_map] at hhosts
    refine List.Nodup.of_map text ?_
    rw [List.map_map]
    exact hhosts
  have hcontainers' : (table.map Prod.snd).Nodup := by
    rw [List.map_map] at hcontainers
    refine List.Nodup.of_map text ?_
    rw [List.map_map]
    exact hcontainers
  have hlong' : ∀ other ∈ table, other.1.IsAbove p → other.1.text.length ≤ host.text.length := by
    intro other hother hup
    refine hlong (texts other) (List.mem_map_of_mem hother) ?_
    rw [texts, ofText_text, ofText_text]
    exact hup
  have hiff := find?_round_trips_iff hsplit hhosts' hcontainers' habove hlong' fun other hother =>
    hsorted (texts other) (List.mem_map_of_mem hother)
  have hfirst : (∀ other ∈ first, isUnder other.2.text (host.move p container).text = false) ↔
      ∀ earlier ∈ first.map texts, isUnder earlier.2 (host.move p container).text = false := by
    rw [List.forall_mem_map]
    rfl
  have hunmap := unmapStoragePath_eq (q := host.move p container) hnormal
  constructor
  · rintro ⟨hmap, hback⟩
    rw [hp, hmapped] at hmap hback
    have hne : path ≠ "" := by
      rintro rfl
      rw [mapStoragePath, if_pos rfl] at hmap
      cases congrArg Prod.snd hmap
    rw [mapStoragePath_eq hne hp hnormal] at hmap
    rw [hunmap] at hback
    have hboth := hiff.mp ⟨?_, ?_⟩
    · refine ⟨hne, ?_, ?_⟩
      · rw [hp, texts, ofText_text, ofText_text, text_injective.eq_iff]
        exact hboth.1
      · rw [hp, hmapped]
        exact hfirst.mp hboth.2
    · cases hfind : table.find? fun m => isUnder m.1.text p.text with
      | none =>
        rw [hfind] at hmap
        cases congrArg Prod.snd hmap
      | some found =>
        rw [hfind] at hmap
        exact ⟨found, rfl, text_injective (congrArg Prod.fst hmap)⟩
    · cases hfind : table.find? fun m => isUnder m.2.text (host.move p container).text with
      | none =>
        rw [hfind] at hback
        exact Or.inr ⟨rfl, text_injective hback⟩
      | some back =>
        rw [hfind] at hback
        exact Or.inl ⟨back, rfl, text_injective hback⟩
  · rintro ⟨hne, hroots, hbefore⟩
    rw [hp, texts, ofText_text, ofText_text, text_injective.eq_iff] at hroots
    rw [hp, hmapped] at hbefore
    obtain ⟨⟨found, hfound, hmove⟩, hback⟩ := hiff.mpr ⟨hroots, hfirst.mpr hbefore⟩
    refine ⟨?_, ?_⟩
    · rw [hp, hmapped, mapStoragePath_eq hne hp hnormal, hfound]
      exact congrArg (fun q : NormalPath => (q.text, some p.text)) hmove
    · rw [hp, hmapped, hunmap]
      rcases hback with ⟨back, hfind, hpath⟩ | ⟨hfind, hpath⟩
      · rw [hfind]
        exact congrArg text hpath
      · rw [hfind]
        exact congrArg text hpath

def rootDirs : Directories := ⟨"/", fun _ => none⟩

theorem storage_path_round_trips_data :
    RoundTrips rootDirs "/data->/mnt/data" "/data/x" ("/data", "/mnt/data") := by
  have htable : getPathMappings rootDirs "/data->/mnt/data" = [("/data", "/mnt/data")] := by decide
  have hpath : normalizePath rootDirs "/data/x" = "/data/x" := by decide
  refine (storage_path_round_trips_iff rootDirs (by decide) "/data->/mnt/data" "/data/x" [] []
    ("/data", "/mnt/data") htable (by rw [htable]; decide) (by rw [htable]; decide) ?_).mpr ?_
  · rw [htable, hpath]
    refine ⟨by decide, fun other hother _ => ?_⟩
    rw [List.mem_singleton.mp hother]
  · exact ⟨by decide, Or.inr (by decide), fun earlier hearlier => nomatch hearlier⟩

/-- The container prefix of the mapping that comes first is above the one of the other. -/
theorem storage_path_not_mapped_back :
    mapStoragePath rootDirs "/s/m->/d,/h->/d/h" "/h/x" = ("/d/h/x", some "/h/x") ∧
      unmapStoragePath rootDirs "/s/m->/d,/h->/d/h" "/d/h/x" = "/s/m/h/x" := by
  have htable : getPathMappings rootDirs "/s/m->/d,/h->/d/h" = [("/s/m", "/d"), ("/h", "/d/h")] := by
    decide
  have hpath : normalizePath rootDirs "/h/x" = "/h/x" := by decide
  have hmapped : normalizePath rootDirs "/d/h/x" = "/d/h/x" := by decide
  constructor
  · rw [mapStoragePath, if_neg (by decide), htable, hpath]
    decide
  · rw [unmapStoragePath, if_neg (by decide), htable, hmapped]
    decide

end Paths
