import Mathlib.Data.List.Nodup
import Mathlib.Data.List.Basic

/-!
# Runs of a step function

A system is a step function `step : σ → α → σ`; a run is a list of actions. `exec` is the state it
ends in, `events` the history it emits on the way, and `Admits` says that every action of the run
meets a side condition in the state in which it is issued. The rules below reduce a property of
whole runs to a property of one step.
-/

namespace Lib

variable {σ α ε κ : Type*}

/-- The state after the actions `as`. -/
def exec (step : σ → α → σ) (s : σ) (as : List α) : σ := as.foldl step s

/-- The history the actions `as` emit. -/
def events (step : σ → α → σ) (emit : σ → α → List ε) : σ → List α → List ε
  | _, [] => []
  | s, a :: as => emit s a ++ events step emit (step s a) as

/-- Every action of `as` meets `ok` in the state in which it is issued. -/
def Admits (step : σ → α → σ) (ok : σ → α → Prop) : σ → List α → Prop
  | _, [] => True
  | s, a :: as => ok s a ∧ Admits step ok (step s a) as

variable {step : σ → α → σ} {emit : σ → α → List ε} {ok : σ → α → Prop}

@[simp] theorem exec_nil (s : σ) : exec step s [] = s := rfl

@[simp] theorem exec_cons (s : σ) (a : α) (as : List α) :
    exec step s (a :: as) = exec step (step s a) as := rfl

theorem exec_append (s : σ) (as bs : List α) :
    exec step s (as ++ bs) = exec step (exec step s as) bs := by
  simp [exec]

@[simp] theorem events_nil (s : σ) : events step emit s [] = [] := rfl

@[simp] theorem events_cons (s : σ) (a : α) (as : List α) :
    events step emit s (a :: as) = emit s a ++ events step emit (step s a) as := rfl

theorem events_append (s : σ) (as bs : List α) :
    events step emit s (as ++ bs) =
      events step emit s as ++ events step emit (exec step s as) bs := by
  induction as generalizing s with
  | nil => rfl
  | cons a as ih => simp [ih]

/-- A condition that looks at the action only holds along a run if it holds of every action. -/
theorem Admits.of_forall {p : α → Prop} {s : σ} {as : List α} (h : ∀ a ∈ as, p a) :
    Admits step (fun _ a => p a) s as := by
  induction as generalizing s with
  | nil => trivial
  | cons a as ih =>
    exact ⟨h a (List.mem_cons_self ..), ih fun b hb => h b (List.mem_cons_of_mem _ hb)⟩

theorem Admits.append {s : σ} {as bs : List α} (h : Admits step ok s (as ++ bs)) :
    Admits step ok s as ∧ Admits step ok (exec step s as) bs := by
  induction as generalizing s with
  | nil => exact ⟨trivial, h⟩
  | cons a as ih =>
    obtain ⟨ha, hrest⟩ := h
    obtain ⟨h1, h2⟩ := ih hrest
    exact ⟨⟨ha, h1⟩, h2⟩

/-- Two side conditions that agree where an invariant holds, which each admitted step keeps, admit
the same runs. -/
theorem Admits.congr {Inv : σ → Prop} {ok' : σ → α → Prop}
    (hiff : ∀ s a, Inv s → (ok s a ↔ ok' s a))
    (hstep : ∀ s a, Inv s → ok s a → Inv (step s a)) {s : σ} (hs : Inv s) (as : List α) :
    Admits step ok s as ↔ Admits step ok' s as := by
  induction as generalizing s with
  | nil => exact Iff.rfl
  | cons a as ih =>
    constructor
    · rintro ⟨ha, hrest⟩
      exact ⟨(hiff s a hs).mp ha, (ih (hstep s a hs ha)).mp hrest⟩
    · rintro ⟨ha, hrest⟩
      have ha' := (hiff s a hs).mpr ha
      exact ⟨ha', (ih (hstep s a hs ha')).mpr hrest⟩

/-- The induction rule for runs with a history: what holds of the empty history and is kept by every
admitted step holds of the history and the last state of every run. -/
theorem events_invariant {Inv : List ε → σ → Prop}
    (hstep : ∀ h s a, Inv h s → ok s a → Inv (h ++ emit s a) (step s a)) :
    ∀ (as : List α) (h : List ε) (s : σ), Inv h s → Admits step ok s as →
      Inv (h ++ events step emit s as) (exec step s as) := by
  intro as
  induction as with
  | nil => intro h s hs _; simpa using hs
  | cons a as ih =>
    intro h s hs hok
    obtain ⟨ha, hrest⟩ := hok
    have := ih _ _ (hstep h s a hs ha) hrest
    simpa using this

/-- The induction rule for runs: what every admitted step keeps holds after every run. -/
theorem exec_invariant {Inv : σ → Prop} (hstep : ∀ s a, Inv s → ok s a → Inv (step s a))
    {as : List α} {s : σ} (hs : Inv s) (hok : Admits step ok s as) : Inv (exec step s as) :=
  @events_invariant σ α Unit step (fun _ _ => []) ok (fun _ s => Inv s)
    (fun _ s a h ha => hstep s a h ha) as [] s hs hok

/-- A property that an invariant gives, and that a step keeps just where it is admitted, holds in
every state of a run if and only if the run is admitted. -/
theorem prefixes_iff_admits {Inv P : σ → Prop} (hP : ∀ s, Inv s → P s)
    (hstep : ∀ s a, Inv s → ok s a → Inv (step s a))
    (hbreak : ∀ s a, Inv s → ¬ ok s a → ¬ P (step s a)) {s : σ} (hs : Inv s) (as : List α) :
    (∀ before, before <+: as → P (exec step s before)) ↔ Admits step ok s as := by
  induction as generalizing s with
  | nil =>
    refine ⟨fun _ => trivial, fun _ before hb => ?_⟩
    rw [List.prefix_nil.mp hb]
    exact hP s hs
  | cons a as ih =>
    constructor
    · intro hall
      have hfirst : P (step s a) := hall [a] ⟨as, rfl⟩
      have hok : ok s a := by
        by_contra hnot
        exact hbreak s a hs hnot hfirst
      refine ⟨hok, (ih (hstep s a hs hok)).mp fun before hb => ?_⟩
      exact hall (a :: before) (List.cons_prefix_cons.mpr ⟨rfl, hb⟩)
    · rintro ⟨hok, hrest⟩ before hb
      cases before with
      | nil => exact hP s hs
      | cons b before =>
        obtain ⟨rfl, hb'⟩ := List.cons_prefix_cons.mp hb
        exact (ih (hstep s b hs hok)).mpr hrest before hb'

/-- At most once: if an event is emitted only for a key that is not settled, settles its key, and
settled keys stay settled, then no key occurs twice in the history of a run. -/
theorem events_nodup {Inv : σ → Prop} {key : ε → κ} {Settled : κ → σ → Prop}
    (hinv : ∀ s a, Inv s → ok s a → Inv (step s a))
    (hemit : ∀ s a, Inv s → ok s a → ((emit s a).map key).Nodup ∧
      ∀ e ∈ emit s a, ¬ Settled (key e) s ∧ Settled (key e) (step s a))
    (hstay : ∀ s a k, Inv s → ok s a → Settled k s → Settled k (step s a))
    {as : List α} {s : σ} (hs : Inv s) (hok : Admits step ok s as) :
    ((events step emit s as).map key).Nodup := by
  let Once : List ε → σ → Prop :=
    fun h s => Inv s ∧ (h.map key).Nodup ∧ ∀ e ∈ h, Settled (key e) s
  have hstep : ∀ h s a, Once h s → ok s a → Once (h ++ emit s a) (step s a) := by
    rintro h s a ⟨hI, hnd, hset⟩ ha
    obtain ⟨hnd', hev⟩ := hemit s a hI ha
    refine ⟨hinv s a hI ha, ?_, ?_⟩
    · rw [List.map_append, List.nodup_append]
      refine ⟨hnd, hnd', ?_⟩
      intro x hx y hy hxy
      obtain ⟨e, he, rfl⟩ := List.mem_map.mp hx
      obtain ⟨e', he', rfl⟩ := List.mem_map.mp hy
      exact (hev e' he').1 (hxy ▸ hset e he)
    · intro e he
      rcases List.mem_append.mp he with he | he
      · exact hstay s a _ hI ha (hset e he)
      · exact (hev e he).2
  have h0 : Once [] s := ⟨hs, by simp, by simp⟩
  have hrun : Once ([] ++ events step emit s as) (exec step s as) :=
    events_invariant hstep as [] s h0 hok
  simpa using hrun.2.1

end Lib

/-!
## Runs that count generations

A system with a counter that no step lowers, and whose events carry the values that it takes: the
events of a run are numbered in strictly rising order, above the counter that the run began with.
-/

namespace Lib

variable {σ α ε : Type*} {step : σ → α → σ} {emit : σ → α → List ε} {rank : σ → Nat}
  {number : ε → Nat}

theorem rank_le_exec (hstep : ∀ s a, rank s ≤ rank (step s a)) (s : σ) (as : List α) :
    rank s ≤ rank (exec step s as) := by
  induction as generalizing s with
  | nil => exact Nat.le_refl _
  | cons a as ih => exact Nat.le_trans (hstep s a) (ih (step s a))

/-- The events of a run are numbered above the counter before it, up to the counter after it. -/
theorem number_of_mem_events (hstep : ∀ s a, rank s ≤ rank (step s a))
    (hemit : ∀ s a, ∀ e ∈ emit s a, rank s < number e ∧ number e ≤ rank (step s a)) {s : σ}
    {as : List α} {e : ε} (he : e ∈ events step emit s as) :
    rank s < number e ∧ number e ≤ rank (exec step s as) := by
  induction as generalizing s with
  | nil => exact absurd he (by simp)
  | cons a as ih =>
    rw [events_cons] at he
    rcases List.mem_append.mp he with he | he
    · obtain ⟨hlt, hle⟩ := hemit s a e he
      exact ⟨hlt, Nat.le_trans hle (rank_le_exec hstep (step s a) as)⟩
    · obtain ⟨hlt, hle⟩ := ih he
      exact ⟨Nat.lt_of_le_of_lt (hstep s a) hlt, hle⟩

theorem events_rising (hstep : ∀ s a, rank s ≤ rank (step s a))
    (hemit : ∀ s a, ∀ e ∈ emit s a, rank s < number e ∧ number e ≤ rank (step s a))
    (hone : ∀ s a, ((emit s a).map number).Pairwise (· < ·)) (s : σ) (as : List α) :
    ((events step emit s as).map number).Pairwise (· < ·) := by
  induction as generalizing s with
  | nil => exact List.Pairwise.nil
  | cons a as ih =>
    rw [events_cons, List.map_append, List.pairwise_append]
    refine ⟨hone s a, ih (step s a), fun m hm n hn => ?_⟩
    obtain ⟨e, he, rfl⟩ := List.mem_map.mp hm
    obtain ⟨e', he', rfl⟩ := List.mem_map.mp hn
    exact Nat.lt_of_le_of_lt (hemit s a e he).2 (number_of_mem_events hstep hemit he').1

end Lib
