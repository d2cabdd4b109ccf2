import TrainFactory.Lib.FirstCopies

/-!
# Depth-first walks of bounded depth

A walk marks the neighbours of a node when it sees them for the first time, and goes on from each of
them with one step less. A node that is met late, on a long way, is then not walked from again, even
if there is a shorter way to it. Which nodes are met late can be told without the marks, from the
ways that have no shortcut.
-/

namespace Lib

variable {α : Type*} [DecidableEq α]

/-- The marks of walks from several nodes, one after the other. -/
def marksOfAll (walk : α → List α → List (α × Nat)) : List α → List α → List (α × Nat)
  | [], _ => []
  | u :: us, seen => walk u seen ++ marksOfAll walk us (seen ++ (walk u seen).map Prod.fst)

def marksFrom (next : α → List α) : Nat → α → List α → List (α × Nat)
  | 0 => fun _ _ => []
  | depth + 1 => fun v seen =>
    let fresh := firstCopiesFrom id seen (next v)
    fresh.map (fun u => (u, depth)) ++ marksOfAll (marksFrom next depth) fresh (seen ++ fresh)

/-- The ends of the ways from a node that avoid `barred` and the earlier neighbours: those of one
step before those that go on, each with the depth that is left. -/
def wayEnds (next : α → List α) : Nat → α → List α → List (α × Nat)
  | 0 => fun _ _ => []
  | depth + 1 => fun v barred =>
    let ends := (next v).filter fun u => u ∉ barred
    ends.map (fun u => (u, depth)) ++ ends.flatMap fun u => wayEnds next depth u (barred ++ next v)

/-- There is a way of so many steps. -/
inductive StepsTo (next : α → List α) (start : α) : Nat → α → Prop
  | refl : StepsTo next start 0 start
  | step {k u v} : StepsTo next start k u → v ∈ next u → StepsTo next start (k + 1) v

/-- The node is less than `depth` steps away. -/
def IsNear (next : α → List α) (start : α) (depth : Nat) (v : α) : Prop :=
  ∃ k < depth, StepsTo next start k v

variable {next : α → List α}

theorem marksFrom_succ (depth : Nat) (v : α) (seen : List α) :
    marksFrom next (depth + 1) v seen =
      (firstCopiesFrom id seen (next v)).map (fun u => (u, depth)) ++
        marksOfAll (marksFrom next depth) (firstCopiesFrom id seen (next v))
          (seen ++ firstCopiesFrom id seen (next v)) := rfl

theorem wayEnds_succ (depth : Nat) (v : α) (barred : List α) :
    wayEnds next (depth + 1) v barred =
      ((next v).filter fun u => u ∉ barred).map (fun u => (u, depth)) ++
        ((next v).filter fun u => u ∉ barred).flatMap fun u =>
          wayEnds next depth u (barred ++ next v) := rfl

omit [DecidableEq α] in
theorem map_fst_mark (us : List α) (depth : Nat) :
    (us.map fun u => (u, depth)).map Prod.fst = us := by
  rw [List.map_map]
  exact List.map_id us

/-! ## The marks -/

omit [DecidableEq α] in
theorem marksOfAll_nodup {walk : α → List α → List (α × Nat)}
    (hwalk : ∀ u seen, ((walk u seen).map Prod.fst).Nodup ∧ ∀ e ∈ walk u seen, e.1 ∉ seen)
    (us seen : List α) :
    ((marksOfAll walk us seen).map Prod.fst).Nodup ∧ ∀ e ∈ marksOfAll walk us seen, e.1 ∉ seen := by
  induction us generalizing seen with
  | nil => exact ⟨List.nodup_nil, fun e he => absurd he List.not_mem_nil⟩
  | cons u us ih =>
    obtain ⟨hnodup, hfresh⟩ := ih (seen ++ (walk u seen).map Prod.fst)
    unfold marksOfAll
    refine ⟨?_, fun e he => ?_⟩
    · rw [List.map_append, List.nodup_append]
      refine ⟨(hwalk u seen).1, hnodup, fun x hx y hy hxy => ?_⟩
      obtain ⟨e, he, rfl⟩ := List.mem_map.mp hy
      exact hfresh e he (List.mem_append_right _ (hxy ▸ hx))
    · rcases List.mem_append.mp he with he | he
      · exact (hwalk u seen).2 e he
      · exact fun hmem => hfresh e he (List.mem_append_left _ hmem)

/-- Every node is marked once, and none that was seen before. -/
theorem marksFrom_nodup (depth : Nat) (v : α) (seen : List α) :
    ((marksFrom next depth v seen).map Prod.fst).Nodup ∧
      ∀ e ∈ marksFrom next depth v seen, e.1 ∉ seen := by
  induction depth generalizing v seen with
  | zero => exact ⟨List.nodup_nil, fun e he => absurd he List.not_mem_nil⟩
  | succ depth ih =>
    set fresh := firstCopiesFrom id seen (next v) with hfresh
    obtain ⟨hnodup, hrest⟩ := marksOfAll_nodup ih fresh (seen ++ fresh)
    have hown : fresh.Nodup := by
      have h := @firstCopiesFrom_nodup α α _ id seen (next v)
      rwa [List.map_id] at h
    rw [marksFrom_succ]
    refine ⟨?_, fun e he => ?_⟩
    · rw [List.map_append, map_fst_mark, List.nodup_append]
      refine ⟨hown, hnodup, fun x hx y hy hxy => ?_⟩
      obtain ⟨e, he, rfl⟩ := List.mem_map.mp hy
      exact hrest e he (List.mem_append_right _ (hxy ▸ hx))
    · rcases List.mem_append.mp he with he | he
      · obtain ⟨u, hu, rfl⟩ := List.mem_map.mp he
        exact @firstCopiesFrom_key α α _ id _ _ _ hu
      · exact fun hmem => hrest e he (List.mem_append_left _ hmem)

omit [DecidableEq α] in
/-- Where the mark of a node comes from. -/
theorem mem_marksOfAll {walk : α → List α → List (α × Nat)} {us seen : List α} {e : α × Nat}
    (h : e ∈ marksOfAll walk us seen) : ∃ u ∈ us, ∃ seen', e ∈ walk u seen' := by
  induction us generalizing seen with
  | nil => cases h
  | cons u us ih =>
    rcases List.mem_append.mp h with h | h
    · exact ⟨u, List.mem_cons_self .., seen, h⟩
    · obtain ⟨u', hu', hseen'⟩ := ih h
      exact ⟨u', List.mem_cons_of_mem _ hu', hseen'⟩

theorem stepsTo_of_mem_marksFrom {start : α} {depth k : Nat} {v : α} {seen : List α} {e : α × Nat}
    (hv : StepsTo next start k v) (h : e ∈ marksFrom next depth v seen) :
    ∃ j, k < j ∧ j + e.2 = k + depth ∧ StepsTo next start j e.1 := by
  induction depth generalizing k v seen with
  | zero => cases h
  | succ depth ih =>
    have hmem : ∀ u ∈ firstCopiesFrom id seen (next v), StepsTo next start (k + 1) u := fun u hu =>
      .step hv ((firstCopiesFrom_sublist seen (next v)).subset hu)
    rw [marksFrom_succ] at h
    rcases List.mem_append.mp h with h | h
    · obtain ⟨u, hu, rfl⟩ := List.mem_map.mp h
      exact ⟨k + 1, Nat.lt_succ_self k, by omega, hmem u hu⟩
    · obtain ⟨u, hu, seen', he⟩ := mem_marksOfAll h
      obtain ⟨j, hj, hsum, hsteps⟩ := ih (hmem u hu) he
      exact ⟨j, by omega, by omega, hsteps⟩

/-- The node and the nodes that are marked with a depth left: those that are walked from. -/
def walkedFrom (next : α → List α) (depth : Nat) (v : α) (seen : List α) : List (α × Nat) :=
  ((v, depth) :: marksFrom next depth v seen).filter fun e => 0 < e.2

theorem closed_of_mem_walkedFrom {depth : Nat} {v : α} {seen : List α} {e : α × Nat}
    (h : e ∈ walkedFrom next depth v seen) :
    ∀ x ∈ next e.1, x ∈ seen ++ (marksFrom next depth v seen).map Prod.fst := by
  induction depth generalizing v seen e with
  | zero => simp [walkedFrom, marksFrom] at h
  | succ depth ih =>
    set fresh := firstCopiesFrom id seen (next v) with hfresh
    -- the walks from the neighbours, one after the other
    have hall : ∀ (us seen' : List α) (e : α × Nat), 0 < e.2 →
        (e.1 ∈ us ∧ e.2 = depth ∨ e ∈ marksOfAll (marksFrom next depth) us seen') →
        ∀ x ∈ next e.1, x ∈ seen' ++ (marksOfAll (marksFrom next depth) us seen').map Prod.fst := by
      intro us
      induction us with
      | nil => rintro seen' e - (⟨hmem, -⟩ | hmem) <;> cases hmem
      | cons u us ihs =>
        intro seen' e hpos he x hx
        rw [marksOfAll, List.map_append, ← List.append_assoc]
        have hfirst : e ∈ (u, depth) :: marksFrom next depth u seen' →
            x ∈ seen' ++ (marksFrom next depth u seen').map Prod.fst := fun he' =>
          ih (List.mem_filter.mpr ⟨he', decide_eq_true hpos⟩) x hx
        rcases he with ⟨hmem, hdepth⟩ | hmem
        · rcases List.mem_cons.mp hmem with hmem | hmem
          · exact List.mem_append_left _ (hfirst (List.mem_cons.mpr (Or.inl (Prod.ext hmem hdepth))))
          · exact ihs _ e hpos (Or.inl ⟨hmem, hdepth⟩) x hx
        · rcases List.mem_append.mp hmem with hmem | hmem
          · exact List.mem_append_left _ (hfirst (List.mem_cons_of_mem _ hmem))
          · exact ihs _ e hpos (Or.inr hmem) x hx
    obtain ⟨he, hpos⟩ := List.mem_filter.mp h
    intro x hx
    rw [marksFrom_succ, List.map_append, map_fst_mark, ← hfresh, ← List.append_assoc]
    rw [marksFrom_succ, ← hfresh] at he
    rcases List.mem_cons.mp he with rfl | he
    · refine List.mem_append_left _ (List.mem_append.mpr ?_)
      have hkey := @key_mem_firstCopiesFrom α α _ id seen _ _ hx
      rwa [List.map_id] at hkey
    · refine hall fresh (seen ++ fresh) e (of_decide_eq_true hpos) ?_ x hx
      refine (List.mem_append.mp he).imp_left fun hown => ?_
      obtain ⟨u, hu, rfl⟩ := List.mem_map.mp hown
      exact ⟨hu, rfl⟩

/-! ## Marks without late ones -/

section Late

-- the nodes that are to be walked from, if they are near enough
variable (live : α → Prop) (start : α) (depth : Nat)

/-- A node that is near, and is met when no step is left. -/
def IsLate (next : α → List α) (e : α × Nat) : Prop :=
  e.2 = 0 ∧ IsNear next start depth e.1 ∧ live e.1

def ClosedBut (next : α → List α) (barred seen : List α) : Prop :=
  ∀ u ∈ seen, u ∉ barred → IsNear next start depth u → ∀ x ∈ next u, x ∈ seen

variable {live start depth}

theorem mem_of_mem_wayEnds {barred barred' seen : List α} (hsub : ∀ x ∈ barred, x ∈ barred')
    (hclosed : ClosedBut start depth next barred seen) {left k : Nat} {u : α} (hu : u ∈ seen)
    (hbar : u ∉ barred) (hsteps : StepsTo next start k u) (hle : k + left ≤ depth) :
    ∀ e ∈ wayEnds next left u barred', e.1 ∈ seen := by
  induction left generalizing k u barred' with
  | zero => exact fun e he => nomatch he
  | succ left ih =>
    have hnext : ∀ x ∈ next u, x ∈ seen := hclosed u hu hbar ⟨k, by omega, hsteps⟩
    intro e he
    rw [wayEnds_succ] at he
    rcases List.mem_append.mp he with he | he
    · obtain ⟨x, hx, rfl⟩ := List.mem_map.mp he
      exact hnext x (List.mem_filter.mp hx).1
    · obtain ⟨x, hx, he⟩ := List.mem_flatMap.mp he
      obtain ⟨hx, hnew⟩ := List.mem_filter.mp hx
      have hx' : x ∉ barred := fun hmem => of_decide_eq_true hnew (hsub x hmem)
      exact ih (fun y hy => List.mem_append_left _ (hsub y hy)) (hnext x hx) hx' (.step hsteps hx)
        (by omega) e he

/-- What a walk without late marks does: its marks are the first copies of the ends of the ways, and
all it has seen is closed. -/
structure IsTimely (start : α) (depth : Nat) (next : α → List α) (ends : List (α × Nat))
    (marks : List (α × Nat)) (barred seen : List α) : Prop where
  marks_eq : marks = firstCopiesFrom Prod.fst seen ends
  closed : ClosedBut start depth next barred (seen ++ marks.map Prod.fst)

theorem marksOfAll_timely {left k : Nat} {barred : List α}
    (hwalk : ∀ u seen, StepsTo next start k u → u ∈ seen → (∀ x ∈ barred, x ∈ seen) →
      ClosedBut start depth next barred seen →
      ((∀ e ∈ marksFrom next left u seen, ¬ IsLate live start depth next e) ∨
        ∀ e ∈ firstCopiesFrom Prod.fst seen (wayEnds next left u barred),
          ¬ IsLate live start depth next e) →
      IsTimely start depth next (wayEnds next left u barred) (marksFrom next left u seen) barred
        seen) :
    ∀ (us met seen : List α), (∀ u ∈ us, StepsTo next start k u ∧ u ∈ seen) →
      (∀ x ∈ barred, x ∈ seen) → ClosedBut start depth next barred seen →
      (∀ u ∈ us, u ∈ met → ∀ e ∈ wayEnds next left u barred, e.1 ∈ seen) →
      ((∀ e ∈ marksOfAll (marksFrom next left) (firstCopiesFrom id met us) seen,
          ¬ IsLate live start depth next e) ∨
        ∀ e ∈ firstCopiesFrom Prod.fst seen (us.flatMap fun u => wayEnds next left u barred),
          ¬ IsLate live start depth next e) →
      IsTimely start depth next (us.flatMap fun u => wayEnds next left u barred)
        (marksOfAll (marksFrom next left) (firstCopiesFrom id met us) seen) barred seen := by
  intro us
  induction us with
  | nil =>
    intro met seen _ _ hclosed _ _
    refine ⟨rfl, ?_⟩
    rwa [firstCopiesFrom, marksOfAll, List.map_nil, List.append_nil]
  | cons u us ih =>
    intro met seen hus hbar hclosed hmet hlate
    obtain ⟨hsteps, hu⟩ := hus u (List.mem_cons_self ..)
    have hus' := fun x hx => hus x (List.mem_cons_of_mem u hx)
    have hmet' := fun x hx => hmet x (List.mem_cons_of_mem u hx)
    rw [firstCopiesFrom, List.flatMap_cons] at hlate ⊢
    by_cases hold : id u ∈ met
    · -- the ends of the ways from it have been seen
      have hnone := firstCopiesFrom_eq_nil (hmet u (List.mem_cons_self ..) hold)
      rw [if_pos hold] at hlate ⊢
      rw [firstCopiesFrom_append, hnone, List.map_nil, List.append_nil, List.nil_append] at hlate
      obtain ⟨heq, hclosed'⟩ := ih met seen hus' hbar hclosed hmet' hlate
      refine ⟨?_, hclosed'⟩
      rw [firstCopiesFrom_append, hnone, List.map_nil, List.append_nil, List.nil_append]
      exact heq
    · rw [if_neg hold, marksOfAll] at hlate ⊢
      rw [firstCopiesFrom_append] at hlate
      obtain ⟨heq, hclosed'⟩ := hwalk u seen hsteps hu hbar hclosed
        (hlate.imp (fun h e he => h e (List.mem_append_left _ he))
          fun h e he => h e (List.mem_append_left _ he))
      set marks := marksFrom next left u seen with hmarks
      have hrest := ih (met ++ [id u]) (seen ++ marks.map Prod.fst)
        (fun x hx => ⟨(hus' x hx).1, List.mem_append_left _ (hus' x hx).2⟩)
        (fun x hx => List.mem_append_left _ (hbar x hx)) hclosed' ?_ ?_
      · refine ⟨?_, ?_⟩
        · rw [firstCopiesFrom_append, ← heq, ← hrest.marks_eq]
        · rw [List.map_append, ← List.append_assoc]
          exact hrest.closed
      · intro x hx hxmet e he
        rcases List.mem_append.mp hxmet with hxmet | hxmet
        · exact List.mem_append_left _ (hmet' x hx hxmet e he)
        · obtain rfl : x = u := List.mem_singleton.mp hxmet
          rw [heq]
          exact List.mem_append.mpr (key_mem_firstCopiesFrom seen he)
      · rw [← heq] at hlate
        exact hlate.imp (fun h e he => h e (List.mem_append_right _ he))
          fun h e he => h e (List.mem_append_right _ he)

/-- A walk is timely if none of its marks is late, or none of the ends of the ways. -/
theorem marksFrom_timely (hlive : ∀ v, ¬ live v → next v = []) {left k : Nat} {v : α}
    {barred seen : List α} (hsteps : StepsTo next start k v) (hle : k + left ≤ depth)
    (hbar : ∀ x ∈ barred, x ∈ seen) (hclosed : ClosedBut start depth next barred seen)
    (hlate : (∀ e ∈ marksFrom next left v seen, ¬ IsLate live start depth next e) ∨
      ∀ e ∈ firstCopiesFrom Prod.fst seen (wayEnds next left v barred),
        ¬ IsLate live start depth next e) :
    IsTimely start depth next (wayEnds next left v barred) (marksFrom next left v seen) barred
      seen := by
  induction left generalizing k v barred seen with
  | zero =>
    refine ⟨rfl, ?_⟩
    rwa [marksFrom, List.map_nil, List.append_nil]
  | succ left ih =>
    set ends := (next v).filter fun u => u ∉ barred with hends
    have hfresh : firstCopiesFrom id seen (next v) = firstCopiesFrom id seen ends := by
      refine (firstCopiesFrom_filter fun x _ hx => hbar x ?_).symm
      simpa using hx
    set fresh := firstCopiesFrom id seen ends with hfreshdef
    have hown : firstCopiesFrom Prod.fst seen (ends.map fun u => (u, left)) =
        fresh.map fun u => (u, left) := firstCopiesFrom_map _ seen ends
    have hseen : ∀ x ∈ next v, x ∈ seen ++ fresh := by
      intro x hx
      have hkey := @key_mem_firstCopiesFrom α α _ id seen _ _ hx
      rw [hfresh, List.map_id] at hkey
      exact List.mem_append.mpr hkey
    have hnew : ∀ x ∈ fresh, x ∈ next v := fun x hx =>
      (List.mem_filter.mp ((firstCopiesFrom_sublist seen ends).subset hx)).1
    have hsplit : ∀ x, x ∉ barred → x ∉ next v → x ∉ barred ++ next v := fun x h h' hmem =>
      (List.mem_append.mp hmem).elim h h'
    -- the walks from the neighbours
    have hrest := @marksOfAll_timely α _ next live start depth left (k + 1) (barred ++ next v)
      (fun u seen' hu _ hbar' hclosed' hlate' => ih hu (by omega) hbar' hclosed' hlate')
      ends seen (seen ++ fresh) ?_ ?_ ?_ ?_ ?_
    · obtain ⟨heq, hclosed'⟩ := hrest
      rw [← hfreshdef] at heq hclosed'
      have hmarks : marksFrom next (left + 1) v seen =
          firstCopiesFrom Prod.fst seen (wayEnds next (left + 1) v barred) := by
        rw [marksFrom_succ, wayEnds_succ, ← hends, firstCopiesFrom_append, hown, map_fst_mark,
          hfresh, heq]
      have htimely : ∀ e ∈ marksFrom next (left + 1) v seen, ¬ IsLate live start depth next e := by
        rwa [← hmarks, or_self] at hlate
      refine ⟨hmarks, fun u hu hubar hnear x hx => ?_⟩
      by_cases hold : u ∈ seen
      · exact List.mem_append_left _ (hclosed u hold hubar hnear x hx)
      · by_cases hnext : u ∈ next v
        · have hmem : (u, left) ∈ marksFrom next (left + 1) v seen := by
            rw [marksFrom_succ, hfresh]
            refine List.mem_append_left _ (List.mem_map.mpr ⟨u, ?_, rfl⟩)
            exact (List.mem_append.mp (hseen u hnext)).resolve_left hold
          cases left with
          | zero =>
            have hdead : ¬ live u := fun hl => htimely _ hmem ⟨rfl, hnear, hl⟩
            rw [hlive u hdead] at hx
            cases hx
          | succ left =>
            exact closed_of_mem_walkedFrom (e := (u, left + 1))
              (List.mem_filter.mpr ⟨List.mem_cons_of_mem _ hmem, by simp⟩) x hx
        · rw [marksFrom_succ, hfresh, List.map_append, map_fst_mark, ← List.append_assoc] at hu ⊢
          exact hclosed' u hu (hsplit u hubar hnext) hnear x hx
    · intro u hu
      have hmem : u ∈ next v := (List.mem_filter.mp hu).1
      exact ⟨.step hsteps hmem, hseen u hmem⟩
    · intro x hx
      rcases List.mem_append.mp hx with hx | hx
      · exact List.mem_append_left _ (hbar x hx)
      · exact hseen x hx
    · intro u hu hubar hnear x hx
      have hold : u ∈ seen := (List.mem_append.mp hu).resolve_right fun h =>
        hubar (List.mem_append_right _ (hnew u h))
      exact List.mem_append_left _ (hclosed u hold
        (fun h => hubar (List.mem_append_left _ h)) hnear x hx)
    · intro u hu hold e he
      obtain ⟨hmem, hnot⟩ := List.mem_filter.mp hu
      exact List.mem_append_left _ (mem_of_mem_wayEnds (fun x hx => List.mem_append_left _ hx)
        hclosed hold (of_decide_eq_true hnot) (.step hsteps hmem) (by omega) e he)
    · rw [marksFrom_succ, wayEnds_succ, ← hends, firstCopiesFrom_append, hown, map_fst_mark,
        hfresh] at hlate
      exact hlate.imp (fun h e he => h e (List.mem_append_right _ he))
        fun h e he => h e (List.mem_append_right _ he)

theorem noLate_iff (hlive : ∀ v, ¬ live v → next v = []) {barred seen : List α}
    (h : ∀ v, v ∈ barred ↔ v ∈ seen) :
    (∀ e ∈ marksFrom next depth start seen, ¬ IsLate live start depth next e) ↔
      ∀ e ∈ firstCopiesFrom Prod.fst barred (wayEnds next depth start barred),
        ¬ IsLate live start depth next e := by
  have htimely := @marksFrom_timely α _ next live start depth hlive depth 0 start barred seen
    .refl (by omega) (fun v hv => (h v).mp hv) fun u hu hnot => absurd ((h u).mpr hu) hnot
  rw [firstCopiesFrom_congr h]
  constructor
  · intro hmarks
    rw [← (htimely (Or.inl hmarks)).marks_eq]
    exact hmarks
  · intro hends
    rw [(htimely (Or.inr hends)).marks_eq]
    exact hends

theorem walked_of_marked {seen : List α} {v : α}
    (hmarks : ∀ e ∈ marksFrom next depth start seen, ¬ IsLate live start depth next e)
    (hnear : IsNear next start depth v) (hl : live v)
    (hv : v = start ∨ v ∈ (marksFrom next depth start seen).map Prod.fst) :
    v ∈ (walkedFrom next depth start seen).map Prod.fst := by
  rcases hv with rfl | hv
  · obtain ⟨k, hk, -⟩ := hnear
    exact List.mem_map.mpr ⟨(v, depth), List.mem_filter.mpr
      ⟨List.mem_cons_self .., decide_eq_true (by omega)⟩, rfl⟩
  · obtain ⟨e, he, rfl⟩ := List.mem_map.mp hv
    refine List.mem_map.mpr ⟨e, List.mem_filter.mpr ⟨List.mem_cons_of_mem _ he, ?_⟩, rfl⟩
    exact decide_eq_true (Nat.pos_of_ne_zero fun hzero => hmarks e he ⟨hzero, hnear, hl⟩)

theorem marked_of_noLate (hlive : ∀ v, ¬ live v → next v = [])
    (hmarks : ∀ e ∈ marksFrom next depth start [start], ¬ IsLate live start depth next e) {k : Nat}
    {v : α} (hsteps : StepsTo next start k v) (hk : k ≤ depth) :
    v = start ∨ v ∈ (marksFrom next depth start [start]).map Prod.fst := by
  induction hsteps with
  | refl => exact Or.inl rfl
  | @step k u v hsteps hv ih =>
    have hl : live u := by
      by_contra hdead
      rw [hlive u hdead] at hv
      cases hv
    have hwalked := walked_of_marked hmarks ⟨k, by omega, hsteps⟩ hl (ih (by omega))
    obtain ⟨e, he, rfl⟩ := List.mem_map.mp hwalked
    exact (List.mem_append.mp (closed_of_mem_walkedFrom he v hv)).imp_left List.mem_singleton.mp

/-- Every near node that is to be walked from is walked from, if and only if none is late among the
first ends of the ways. -/
theorem walkedFrom_iff (hlive : ∀ v, ¬ live v → next v = []) :
    (∀ v, IsNear next start depth v → live v →
      v ∈ (walkedFrom next depth start [start]).map Prod.fst) ↔
      ∀ e ∈ firstCopiesFrom Prod.fst [start] (wayEnds next depth start [start]),
        ¬ IsLate live start depth next e := by
  rw [← noLate_iff hlive fun v => Iff.rfl]
  constructor
  · rintro hall e he ⟨hzero, hnear, hl⟩
    obtain ⟨e', he', hfst⟩ := List.mem_map.mp (hall e.1 hnear hl)
    obtain ⟨hnodup, hfresh⟩ := @marksFrom_nodup α _ next depth start [start]
    obtain ⟨hmem, hpos⟩ := List.mem_filter.mp he'
    rcases List.mem_cons.mp hmem with rfl | hmem
    · exact hfresh e he (List.mem_singleton.mpr hfst.symm)
    · have heq : e' = e := List.inj_on_of_nodup_map hnodup hmem he hfst
      rw [heq, hzero] at hpos
      exact absurd hpos (by decide)
  · rintro hmarks v ⟨k, hk, hsteps⟩ hl
    exact walked_of_marked hmarks ⟨k, hk, hsteps⟩ hl
      (marked_of_noLate hlive hmarks hsteps (Nat.le_of_lt hk))

end Late

end Lib
