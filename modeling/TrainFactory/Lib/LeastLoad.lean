import Mathlib.Algebra.Order.Monoid.Unbundled.Basic
import Mathlib.Data.List.Basic
import Mathlib.Order.Monotone.Basic
import Mathlib.Data.Nat.Init

/-!
# Least-load assignment

Jobs are given one by one to servers; each job goes to the first server of least load. `load w c` is
the load of a server `w` with `c` jobs. Where the load grows with the jobs, no server is ever ahead
of another by more than its own last job.
-/

namespace Lib

variable {ω β α : Type*} [LinearOrder β]

/-! ## The first least element -/

def scanLeast : Option (Nat × β) → Nat → List β → Nat
  | best, _, [] => (best.map Prod.fst).getD 0
  | best, i, score :: scores =>
    scanLeast (if best.all fun b => score < b.2 then some (i, score) else best) (i + 1) scores

/-- The index of the first least score, or 0 if there is none. -/
def firstLeast (scores : List β) : Nat := scanLeast none 0 scores

def LeastAt (scores : List β) (i : Nat) : Prop := ∃ b, scores[i]? = some b ∧ ∀ s ∈ scores, b ≤ s

/-- What the scan knows of the scores before it. -/
def BestOf (scanned : List β) : Option (Nat × β) → Prop
  | none => scanned = []
  | some (k, b) => scanned[k]? = some b ∧ ∀ s ∈ scanned, b ≤ s

theorem BestOf.step {scanned : List β} {best : Option (Nat × β)} (h : BestOf scanned best)
    (score : β) :
    BestOf (scanned ++ [score])
      (if best.all fun b => score < b.2 then some (scanned.length, score) else best) := by
  cases best with
  | none =>
    have hnil : scanned = [] := h
    subst hnil
    exact ⟨rfl, fun s hs => le_of_eq (List.mem_singleton.mp hs).symm⟩
  | some best =>
    obtain ⟨k, b⟩ := best
    obtain ⟨hk, hleast⟩ := h
    have hlt : k < scanned.length := (List.getElem?_eq_some_iff.mp hk).1
    by_cases hscore : score < b
    · rw [if_pos (by simpa using hscore)]
      refine ⟨by simp, fun s hs => ?_⟩
      rcases List.mem_append.mp hs with hs | hs
      · exact le_of_lt (lt_of_lt_of_le hscore (hleast s hs))
      · exact le_of_eq (List.mem_singleton.mp hs).symm
    · rw [if_neg (by simpa using hscore)]
      refine ⟨by rw [List.getElem?_append_left hlt, hk], fun s hs => ?_⟩
      rcases List.mem_append.mp hs with hs | hs
      · exact hleast s hs
      · rw [List.mem_singleton.mp hs]
        exact not_lt.mp hscore

theorem scanLeast_leastAt {scanned : List β} {best : Option (Nat × β)} (h : BestOf scanned best)
    (scores : List β) (hne : scanned ++ scores ≠ []) :
    LeastAt (scanned ++ scores) (scanLeast best scanned.length scores) := by
  induction scores generalizing scanned best with
  | nil =>
    rw [List.append_nil] at hne ⊢
    cases best with
    | none => exact absurd h hne
    | some best => exact ⟨best.2, h.1, h.2⟩
  | cons score scores ih =>
    have hnext := ih (h.step score) (by simp)
    rwa [List.append_assoc, List.length_append] at hnext

theorem firstLeast_leastAt {scores : List β} (hne : scores ≠ []) :
    LeastAt scores (firstLeast scores) :=
  @scanLeast_leastAt _ _ [] none rfl scores hne

/-! ## Assignment -/

variable (load : ω → Nat → β) (servers : List ω)

/-- The server that the next job goes to. -/
def leastLoaded (counts : List Nat) : Nat := firstLeast (List.zipWith load servers counts)

/-- The jobs of each server after the next job. -/
def assignNext (counts : List Nat) : List Nat :=
  counts.modify (leastLoaded load servers counts) (· + 1)

/-- The jobs of each server after `n` more jobs. -/
def assignMany : List Nat → Nat → List Nat
  | counts, 0 => counts
  | counts, n + 1 => assignMany (assignNext load servers counts) n

def choices : List Nat → Nat → List Nat
  | _, 0 => []
  | counts, n + 1 => leastLoaded load servers counts :: choices (assignNext load servers counts) n

/-- Without its last job, no server has more load than another. -/
def Fair (counts : List Nat) : Prop :=
  ∀ (i j : Nat) (w v : ω) (c d : Nat), servers[i]? = some w → counts[i]? = some c →
    servers[j]? = some v → counts[j]? = some d → 1 ≤ c → load w (c - 1) ≤ load v d

variable {load servers}

@[simp] theorem length_assignNext (counts : List Nat) :
    (assignNext load servers counts).length = counts.length := by
  simp [assignNext]

@[simp] theorem length_assignMany (counts : List Nat) (n : Nat) :
    (assignMany load servers counts n).length = counts.length := by
  induction n generalizing counts with
  | zero => rfl
  | succ n ih => rw [assignMany, ih, length_assignNext]

@[simp] theorem length_choices (counts : List Nat) (n : Nat) :
    (choices load servers counts n).length = n := by
  induction n generalizing counts with
  | zero => rfl
  | succ n ih => rw [choices, List.length_cons, ih]

theorem assignMany_add (counts : List Nat) (m n : Nat) :
    assignMany load servers counts (m + n) =
      assignMany load servers (assignMany load servers counts m) n := by
  induction m generalizing counts with
  | zero => rw [Nat.zero_add, assignMany]
  | succ m ih => rw [Nat.succ_add, assignMany, assignMany, ih]

theorem choices_add (counts : List Nat) (m n : Nat) :
    choices load servers counts (m + n) =
      choices load servers counts m ++ choices load servers (assignMany load servers counts m) n := by
  induction m generalizing counts with
  | zero => rw [Nat.zero_add]; rfl
  | succ m ih => rw [Nat.succ_add, choices, choices, assignMany, ih, List.cons_append]

theorem take_choices (counts : List Nat) (n k : Nat) :
    (choices load servers counts n).take k = choices load servers counts (min k n) := by
  induction n generalizing counts k with
  | zero => simp [choices]
  | succ n ih =>
    cases k with
    | zero => simp [choices]
    | succ k => rw [choices, List.take_succ_cons, ih, Nat.succ_min_succ, choices]

variable (load) in
theorem leastLoaded_spec {counts : List Nat} (hne : servers ≠ [])
    (hlen : counts.length = servers.length) :
    ∃ w c, servers[leastLoaded load servers counts]? = some w ∧
      counts[leastLoaded load servers counts]? = some c ∧
      ∀ (j : Nat) (v : ω) (d : Nat), servers[j]? = some v → counts[j]? = some d →
        load w c ≤ load v d := by
  have hscores : List.zipWith load servers counts ≠ [] := by
    intro hnil
    have : (List.zipWith load servers counts).length = 0 := by rw [hnil, List.length_nil]
    rw [List.length_zipWith, hlen, Nat.min_self] at this
    exact hne (List.eq_nil_of_length_eq_zero this)
  obtain ⟨b, hb, hleast⟩ := firstLeast_leastAt hscores
  obtain ⟨w, c, hw, hc, rfl⟩ := List.getElem?_zipWith_eq_some.mp hb
  refine ⟨w, c, hw, hc, fun j v d hv hd => hleast _ ?_⟩
  exact List.mem_of_getElem? (List.getElem?_zipWith_eq_some.mpr ⟨v, d, hv, hd, rfl⟩)

theorem leastLoaded_lt {counts : List Nat} (hne : servers ≠ [])
    (hlen : counts.length = servers.length) :
    leastLoaded load servers counts < servers.length := by
  obtain ⟨w, c, hw, -⟩ := leastLoaded_spec load hne hlen
  exact (List.getElem?_eq_some_iff.mp hw).1

theorem choices_lt {counts : List Nat} (hne : servers ≠ [])
    (hlen : counts.length = servers.length) (n : Nat) :
    ∀ i ∈ choices load servers counts n, i < servers.length := by
  induction n generalizing counts with
  | zero => simp [choices]
  | succ n ih =>
    intro i hi
    rcases List.mem_cons.mp hi with rfl | hi
    · exact leastLoaded_lt hne hlen
    · exact ih (by rw [length_assignNext, hlen]) i hi

theorem getElem?_assignNext (counts : List Nat) (i : Nat) :
    (assignNext load servers counts)[i]? =
      (counts[i]?).map fun c => if leastLoaded load servers counts = i then c + 1 else c := by
  rw [assignNext, List.getElem?_modify]
  by_cases h : leastLoaded load servers counts = i
  · simp [h]
  · simp [h]

/-- A server has the jobs that it was chosen for. -/
theorem getElem?_assignMany (counts : List Nat) (n i : Nat) :
    (assignMany load servers counts n)[i]? =
      (counts[i]?).map fun c => c + (choices load servers counts n).count i := by
  induction n generalizing counts with
  | zero => simp [assignMany, choices]
  | succ n ih =>
    rw [assignMany, ih, getElem?_assignNext, choices, Option.map_map]
    congr 1
    funext c
    by_cases h : leastLoaded load servers counts = i
    · simp only [Function.comp, if_pos h, List.count_cons, beq_iff_eq]
      omega
    · simp [Function.comp, h]

theorem Fair.zeros (n : Nat) : Fair load servers (List.replicate n 0) := by
  intro i j w v c d _ hc _ _ hpos
  have hzero : c = 0 := (List.eq_of_mem_replicate (List.mem_of_getElem? hc))
  omega

theorem Fair.assignNext {counts : List Nat} (h : Fair load servers counts) (hne : servers ≠ [])
    (hlen : counts.length = servers.length) (hmono : ∀ w ∈ servers, Monotone (load w)) :
    Fair load servers (assignNext load servers counts) := by
  intro i j w v c d hw hc hv hd hpos
  obtain ⟨w', c', hw', hc', hleast⟩ := leastLoaded_spec load hne hlen
  rw [getElem?_assignNext] at hc hd
  obtain ⟨c₀, hc₀, rfl⟩ := Option.map_eq_some_iff.mp hc
  obtain ⟨d₀, hd₀, rfl⟩ := Option.map_eq_some_iff.mp hd
  have hd_le : load v d₀ ≤
      load v (if leastLoaded load servers counts = j then d₀ + 1 else d₀) := by
    apply hmono v (List.mem_of_getElem? hv)
    split <;> omega
  by_cases hi : leastLoaded load servers counts = i
  · -- The server that got the job had least load before it.
    subst hi
    rw [if_pos rfl, Nat.add_sub_cancel]
    obtain rfl : w = w' := Option.some.inj (hw.symm.trans hw')
    obtain rfl : c₀ = c' := Option.some.inj (hc₀.symm.trans hc')
    exact le_trans (hleast j v d₀ hv hd₀) hd_le
  · rw [if_neg hi] at hpos ⊢
    exact le_trans (h i j w v c₀ d₀ hw hc₀ hv hd₀ hpos) hd_le

theorem Fair.assignMany {counts : List Nat} (h : Fair load servers counts) (hne : servers ≠ [])
    (hlen : counts.length = servers.length) (hmono : ∀ w ∈ servers, Monotone (load w)) (n : Nat) :
    Fair load servers (assignMany load servers counts n) := by
  induction n generalizing counts with
  | zero => exact h
  | succ n ih =>
    exact ih (h.assignNext hne hlen hmono) (by rw [length_assignNext, hlen])

/-- From no jobs on, the assignment is fair after every job. -/
theorem choices_fair (hne : servers ≠ []) (hmono : ∀ w ∈ servers, Monotone (load w)) (n k : Nat)
    {i j : Nat} {w v : ω} (hw : servers[i]? = some w) (hv : servers[j]? = some v)
    (hpos : 1 ≤ ((choices load servers (List.replicate servers.length 0) n).take k).count i) :
    load w (((choices load servers (List.replicate servers.length 0) n).take k).count i - 1) ≤
      load v (((choices load servers (List.replicate servers.length 0) n).take k).count j) := by
  rw [take_choices] at hpos ⊢
  have hzeros : Fair load servers (List.replicate servers.length 0) := Fair.zeros _
  have hfair := hzeros.assignMany hne List.length_replicate hmono (min k n)
  have hcount : ∀ m < servers.length,
      (assignMany load servers (List.replicate servers.length 0) (min k n))[m]? =
        some ((choices load servers (List.replicate servers.length 0) (min k n)).count m) := by
    intro m hm
    rw [getElem?_assignMany, List.getElem?_replicate, if_pos hm, Option.map_some, Nat.zero_add]
  exact hfair i j w v _ _ hw (hcount i (List.getElem?_eq_some_iff.mp hw).1) hv
    (hcount j (List.getElem?_eq_some_iff.mp hv).1) hpos

/-! ## The jobs of a server -/

def picked (choices : List Nat) (jobs : List α) (i : Nat) : List α :=
  ((choices.zip jobs).filter fun p => p.1 = i).map Prod.snd

@[simp] theorem picked_nil (jobs : List α) (i : Nat) : picked [] jobs i = [] := rfl

theorem picked_cons (choice : Nat) (choices : List Nat) (job : α) (jobs : List α) (i : Nat) :
    picked (choice :: choices) (job :: jobs) i =
      (if choice = i then [job] else []) ++ picked choices jobs i := by
  by_cases h : choice = i <;> simp [picked, h]

theorem picked_append {choices : List Nat} {jobs : List α} (h : choices.length = jobs.length)
    (choices' : List Nat) (jobs' : List α) (i : Nat) :
    picked (choices ++ choices') (jobs ++ jobs') i =
      picked choices jobs i ++ picked choices' jobs' i := by
  rw [picked, List.zip_append h, List.filter_append, List.map_append]
  rfl

end Lib
