import Mathlib.Data.List.Perm.Basic
import TrainFactory.Lib.FirstCopies

/-!
# Logs of tagged items

The items of some groups are logged group by group, each with the number of its group. A log keeps
all items of a group or, where it keeps one item of each key only, those whose key it has not. A log
that covers every group has the items of all groups.
-/

namespace Lib

variable {α κ : Type*} (key : α → κ) (group : Nat → List α)

def tagged (log : List (α × Nat)) (tag : Nat) : List α :=
  (log.filter fun e => e.2 = tag).map Prod.fst

def logKeys (log : List (α × Nat)) : List κ := log.map fun e => key e.1

/-- The log has the items of a group, or one item of each of its keys. -/
def Covered (unique : Bool) (log : List (α × Nat)) (tag : Nat) : Prop :=
  if unique then ∀ x ∈ group tag, key x ∈ logKeys key log else tagged log tag = group tag

structure IsLog (unique : Bool) (n : Nat) (log : List (α × Nat)) : Prop where
  lt : ∀ e ∈ log, e.2 < n
  mem : ∀ e ∈ log, e.1 ∈ group e.2
  covered : ∀ e ∈ log, Covered key group unique log e.2
  nodup : unique = true → (logKeys key log).Nodup

def logged [DecidableEq κ] (unique : Bool) (seen : List κ) (xs : List α) : List α :=
  if unique then firstCopiesFrom key seen xs else xs

def tagWith (tag : Nat) (xs : List α) : List (α × Nat) := xs.map fun x => (x, tag)

/-- `kept` has the items of `xs`, or one item of each of their keys. -/
def KeepsAll (unique : Bool) (xs kept : List α) : Prop :=
  if unique then
    (kept.map key).Nodup ∧ (∀ x ∈ kept, x ∈ xs) ∧ ∀ x ∈ xs, key x ∈ kept.map key
  else kept.Perm xs

variable {key group} {unique : Bool} {n : Nat} {log : List (α × Nat)}

theorem mem_tagWith {tag : Nat} {xs : List α} {e : α × Nat} :
    e ∈ tagWith tag xs ↔ e.1 ∈ xs ∧ e.2 = tag := by
  obtain ⟨x, t⟩ := e
  simp only [tagWith, List.mem_map, Prod.mk.injEq]
  constructor
  · rintro ⟨y, hy, rfl, rfl⟩
    exact ⟨hy, rfl⟩
  · rintro ⟨hx, rfl⟩
    exact ⟨x, hx, rfl, rfl⟩

theorem map_key_fst (log : List (α × Nat)) : (log.map Prod.fst).map key = logKeys key log := by
  rw [List.map_map]
  rfl

@[simp] theorem logKeys_append (log log' : List (α × Nat)) :
    logKeys key (log ++ log') = logKeys key log ++ logKeys key log' := by
  simp [logKeys]

@[simp] theorem logKeys_tagWith (tag : Nat) (xs : List α) :
    logKeys key (tagWith tag xs) = xs.map key := by
  simp [logKeys, tagWith]

theorem tagged_append_self (tag : Nat) (xs : List α) (hnew : ∀ e ∈ log, e.2 ≠ tag) :
    tagged (log ++ tagWith tag xs) tag = xs := by
  have hlog : log.filter (fun e => decide (e.2 = tag)) = [] := by
    rw [List.filter_eq_nil_iff]
    intro e he
    simpa using hnew e he
  have hxs : (tagWith tag xs).filter (fun e => decide (e.2 = tag)) = tagWith tag xs := by
    rw [List.filter_eq_self]
    intro e he
    simpa using (mem_tagWith.mp he).2
  rw [tagged, List.filter_append, hlog, hxs, List.nil_append, tagWith, List.map_map]
  exact List.map_id _

theorem tagged_append_of_ne {tag tag' : Nat} (xs : List α) (hne : tag' ≠ tag) :
    tagged (log ++ tagWith tag xs) tag' = tagged log tag' := by
  have hxs : (tagWith tag xs).filter (fun e => decide (e.2 = tag')) = [] := by
    rw [List.filter_eq_nil_iff]
    intro e he
    simpa [(mem_tagWith.mp he).2] using hne.symm
  rw [tagged, List.filter_append, hxs, List.append_nil, tagged]

/-- The first `n` tags have all items of a log. -/
theorem perm_flatMap_tagged (hlt : ∀ e ∈ log, e.2 < n) :
    (log.map Prod.fst).Perm ((List.range n).flatMap (tagged log)) := by
  induction n generalizing log with
  | zero =>
    cases log with
    | nil => exact List.Perm.nil
    | cons e log => exact absurd (hlt e (List.mem_cons_self ..)) (Nat.not_lt_zero _)
  | succ n ih =>
    have hfirst : ((log.filter fun e => ¬ decide (e.2 = n)).map Prod.fst).Perm
        ((List.range n).flatMap (tagged log)) := by
      have hbelow := @ih (log.filter fun e => ¬ decide (e.2 = n)) fun e he => by
        obtain ⟨he, hne⟩ := List.mem_filter.mp he
        have hle := hlt e he
        have : e.2 ≠ n := by simpa using hne
        omega
      have hsame : (List.range n).flatMap (tagged (log.filter fun e => ¬ decide (e.2 = n))) =
          (List.range n).flatMap (tagged log) := by
        refine List.flatMap_congr fun tag htag => ?_
        have hne : tag ≠ n := Nat.ne_of_lt (List.mem_range.mp htag)
        rw [tagged, tagged, List.filter_filter]
        congr 1
        refine List.filter_congr fun e _ => ?_
        by_cases he : e.2 = tag
        · simp [he, hne]
        · simp [he]
      rw [← hsame]
      exact hbelow
    rw [List.range_succ, List.flatMap_append, List.flatMap_singleton]
    have hsplit := List.filter_append_perm (fun e : α × Nat => ¬ decide (e.2 = n)) log
    have hsplit' := (hsplit.symm.map Prod.fst)
    rw [List.map_append] at hsplit'
    refine hsplit'.trans (hfirst.append ?_)
    have heq : (log.filter fun e => !decide (¬ decide (e.2 = n) = true)) =
        log.filter fun e => decide (e.2 = n) := by
      refine List.filter_congr fun e _ => ?_
      simp
    rw [heq, tagged]

/-! ## Coverage -/

theorem Covered.append {tag tag' : Nat} (h : Covered key group unique log tag') (hne : tag' ≠ tag)
    (xs : List α) : Covered key group unique (log ++ tagWith tag xs) tag' := by
  cases unique with
  | true =>
    intro x hx
    rw [logKeys_append]
    exact List.mem_append_left _ (h x hx)
  | false =>
    have h' : tagged log tag' = group tag' := h
    have hsame : tagged (log ++ tagWith tag xs) tag' = group tag' := by
      rw [tagged_append_of_ne xs hne, h']
    exact hsame

theorem covered_append_self [DecidableEq κ] {tag : Nat} {seen : List κ}
    (hseen : unique = true → ∀ k, k ∈ seen ↔ k ∈ logKeys key log) (hnew : ∀ e ∈ log, e.2 ≠ tag) :
    Covered key group unique (log ++ tagWith tag (logged key unique seen (group tag))) tag := by
  cases unique with
  | true =>
    intro x hx
    rw [logKeys_append, logKeys_tagWith, List.mem_append]
    exact (key_mem_firstCopiesFrom seen hx).imp_left (hseen rfl _).mp
  | false => exact tagged_append_self tag (group tag) hnew

theorem IsLog.append [DecidableEq κ] (h : IsLog key group unique n log) {tag : Nat}
    {seen : List κ} (htag : tag < n)
    (hseen : unique = true → ∀ k, k ∈ seen ↔ k ∈ logKeys key log) (hnew : ∀ e ∈ log, e.2 ≠ tag) :
    IsLog key group unique n (log ++ tagWith tag (logged key unique seen (group tag))) where
  lt e he := by
    rcases List.mem_append.mp he with he | he
    · exact h.lt e he
    · rw [(mem_tagWith.mp he).2]
      exact htag
  mem e he := by
    rcases List.mem_append.mp he with he | he
    · exact h.mem e he
    · obtain ⟨he, htag⟩ := mem_tagWith.mp he
      rw [htag]
      cases unique with
      | true => exact (firstCopiesFrom_sublist seen _).subset he
      | false => exact he
  covered e he := by
    rcases List.mem_append.mp he with he | he
    · exact (h.covered e he).append (hnew e he) _
    · rw [(mem_tagWith.mp he).2]
      exact covered_append_self hseen hnew
  nodup hunique := by
    subst hunique
    rw [logKeys_append, logKeys_tagWith, List.nodup_append]
    refine ⟨h.nodup rfl, firstCopiesFrom_nodup seen _, ?_⟩
    intro k hk k' hk' hkk
    obtain ⟨x, hx, rfl⟩ := List.mem_map.mp hk'
    exact firstCopiesFrom_key hx ((hseen rfl _).mpr (hkk ▸ hk))

theorem IsLog.keepsAll (h : IsLog key group unique n log)
    (hall : ∀ tag < n, Covered key group unique log tag) :
    KeepsAll key unique ((List.range n).flatMap group) (log.map Prod.fst) := by
  cases unique with
  | true =>
    refine ⟨by simpa only [map_key_fst] using h.nodup rfl, ?_, ?_⟩
    · intro x hx
      obtain ⟨e, he, rfl⟩ := List.mem_map.mp hx
      exact List.mem_flatMap.mpr ⟨e.2, List.mem_range.mpr (h.lt e he), h.mem e he⟩
    · intro x hx
      obtain ⟨tag, htag, hx⟩ := List.mem_flatMap.mp hx
      have hkey : key x ∈ logKeys key log := hall tag (List.mem_range.mp htag) x hx
      rwa [map_key_fst]
  | false =>
    have hgroups : (List.range n).flatMap (tagged log) = (List.range n).flatMap group :=
      List.flatMap_congr fun tag htag => hall tag (List.mem_range.mp htag)
    have hperm := perm_flatMap_tagged h.lt
    rw [hgroups] at hperm
    exact hperm

/-- Nothing is logged at first. -/
theorem isLog_nil : IsLog key group unique n [] where
  lt _ he := nomatch he
  mem _ he := nomatch he
  covered _ he := nomatch he
  nodup _ := List.nodup_nil

end Lib
