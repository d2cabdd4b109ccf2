import Mathlib.Algebra.Ring.Nat
import Mathlib.Data.List.Basic
import Mathlib.Tactic.Ring

/-!
# Rotation through a shrinking queue

A queue is served in pages: each turn serves the page at a stored offset, stores the offset of the
page behind it, and starts over at the end. Served entries may leave the queue, so that the entries
behind them move up and a stored offset skips some of them. No entry is skipped for ever: a turn that
removes entries makes the queue shorter, and one that does not brings every entry nearer.
-/

namespace Lib

variable {α : Type*} (limit : Nat)

/-- Where the page of a turn begins: at the offset, or at the front if that is behind the end. -/
def pageStart (queue : List α) (offset : Nat) : Nat := if queue.length ≤ offset then 0 else offset

/-- The entries that a turn serves. -/
def rotationPage (queue : List α) (offset : Nat) : List α :=
  (queue.drop (pageStart queue offset)).take limit

/-- The offset behind the page, or the front at the end of the queue. -/
def nextOffset (queue : List α) (offset : Nat) : Nat :=
  if queue.length ≤ pageStart queue offset + (rotationPage limit queue offset).length then 0
  else pageStart queue offset + (rotationPage limit queue offset).length

/-- A turn: only entries of the page leave the queue, and the queue is shorter if any does. -/
structure Turn (s s' : List α × Nat) : Prop where
  offset : s'.2 = nextOffset limit s.1 s.2
  keeps : ∀ x ∈ s.1, x ∉ rotationPage limit s.1 s.2 → x ∈ s'.1
  shrinks : s'.1 = s.1 ∨ s'.1.length < s.1.length

/-- How far the entry at `position` is behind the next page, around the end of the queue. -/
def behind (queue : List α) (offset position : Nat) : Nat :=
  if pageStart queue offset ≤ position then position - pageStart queue offset
  else queue.length - pageStart queue offset + position

/-- The turns that an entry may wait. -/
def patience (queue : List α) (offset position : Nat) : Nat :=
  queue.length * (queue.length + 1) + behind queue offset position

variable {limit}

theorem behind_lt {queue : List α} {position : Nat} (hp : position < queue.length) (offset : Nat) :
    behind queue offset position < queue.length := by
  unfold behind pageStart
  split_ifs <;> omega

theorem length_rotationPage (queue : List α) (offset : Nat) :
    (rotationPage limit queue offset).length =
      min limit (queue.length - pageStart queue offset) := by
  rw [rotationPage, List.length_take, List.length_drop]

theorem mem_rotationPage_of_getElem? {queue : List α} {offset position : Nat} {x : α}
    (hx : queue[position]? = some x) (hstart : pageStart queue offset ≤ position)
    (hend : position < pageStart queue offset + limit) : x ∈ rotationPage limit queue offset := by
  have hget : (rotationPage limit queue offset)[position - pageStart queue offset]? = some x := by
    rw [rotationPage, List.getElem?_take, if_pos (by omega), List.getElem?_drop,
      Nat.add_sub_cancel' hstart, hx]
  exact List.mem_of_getElem? hget

/-- A turn that removes nothing brings an entry nearer that it does not serve. -/
theorem behind_nextOffset_lt {queue : List α} {offset position : Nat} {x : α} (hlimit : 0 < limit)
    (hx : queue[position]? = some x) (hpage : x ∉ rotationPage limit queue offset) :
    behind queue (nextOffset limit queue offset) position < behind queue offset position := by
  have hp : position < queue.length := (List.getElem?_eq_some_iff.mp hx).1
  have hstart : pageStart queue offset < queue.length := by
    unfold pageStart
    split_ifs <;> omega
  have hmiss : position < pageStart queue offset ∨ pageStart queue offset + limit ≤ position := by
    by_contra hcon
    push Not at hcon
    exact hpage (mem_rotationPage_of_getElem? hx hcon.1 hcon.2)
  unfold behind nextOffset
  rw [length_rotationPage]
  generalize pageStart queue offset = start at hstart hmiss ⊢
  unfold pageStart
  split_ifs <;> omega

/-- A turn takes patience from an entry that it does not serve. -/
theorem patience_turn {s s' : List α × Nat} {position : Nat} {x : α} (hlimit : 0 < limit)
    (h : Turn limit s s') (hx : s.1[position]? = some x) (hpage : x ∉ rotationPage limit s.1 s.2) :
    ∃ position', s'.1[position']? = some x ∧
      patience s'.1 s'.2 position' < patience s.1 s.2 position := by
  rcases h.shrinks with hsame | hless
  · refine ⟨position, by rw [hsame, hx], ?_⟩
    rw [patience, patience, h.offset, hsame]
    exact Nat.add_lt_add_left (behind_nextOffset_lt hlimit hx hpage) _
  · have hmem := h.keeps x (List.mem_of_getElem? hx) hpage
    obtain ⟨position', hx'⟩ := List.mem_iff_getElem?.mp hmem
    refine ⟨position', hx', ?_⟩
    have hbehind := behind_lt (List.getElem?_eq_some_iff.mp hx').1 s'.2
    calc patience s'.1 s'.2 position'
        < s'.1.length * (s'.1.length + 1) + s'.1.length := Nat.add_lt_add_left hbehind _
      _ ≤ s'.1.length * (s.1.length + 1) + s.1.length + 1 := by
          have := Nat.mul_le_mul_left s'.1.length (Nat.add_le_add_right (le_of_lt hless) 1)
          omega
      _ ≤ s.1.length * (s.1.length + 1) := by
          have := Nat.mul_le_mul_right (s.1.length + 1) hless
          rw [Nat.succ_mul] at this
          omega
      _ ≤ patience s.1 s.2 position := Nat.le_add_right _ _

theorem served_within_patience (hlimit : 0 < limit) {s : Nat → List α × Nat}
    (hturn : ∀ t, Turn limit (s t) (s (t + 1))) {position : Nat} {x : α}
    (hx : (s 0).1[position]? = some x) :
    ∃ t ≤ patience (s 0).1 (s 0).2 position, x ∈ rotationPage limit (s t).1 (s t).2 := by
  generalize hbound : patience (s 0).1 (s 0).2 position = bound
  induction bound using Nat.strong_induction_on generalizing s position with
  | _ bound ih =>
    by_cases hpage : x ∈ rotationPage limit (s 0).1 (s 0).2
    · exact ⟨0, Nat.zero_le _, hpage⟩
    · obtain ⟨position', hx', hless⟩ := patience_turn hlimit (hturn 0) hx hpage
      rw [hbound] at hless
      obtain ⟨t, ht, hserved⟩ := ih _ hless (s := fun t => s (t + 1)) (fun t => hturn (t + 1))
        hx' rfl
      exact ⟨t + 1, Nat.le_trans (Nat.succ_le_succ ht) hless, hserved⟩

/-- Every entry of a queue of length `n` is served within `(n + 1)²` turns. -/
theorem served (hlimit : 0 < limit) {s : Nat → List α × Nat}
    (hturn : ∀ t, Turn limit (s t) (s (t + 1))) {x : α} (hx : x ∈ (s 0).1) :
    ∃ t < ((s 0).1.length + 1) * ((s 0).1.length + 1),
      x ∈ rotationPage limit (s t).1 (s t).2 := by
  obtain ⟨position, hposition⟩ := List.mem_iff_getElem?.mp hx
  obtain ⟨t, ht, hserved⟩ := served_within_patience hlimit hturn hposition
  refine ⟨t, Nat.lt_of_le_of_lt ht ?_, hserved⟩
  have hbehind := behind_lt (List.getElem?_eq_some_iff.mp hposition).1 (s 0).2
  calc patience (s 0).1 (s 0).2 position
      < (s 0).1.length * ((s 0).1.length + 1) + (s 0).1.length := Nat.add_lt_add_left hbehind _
    _ < ((s 0).1.length + 1) * ((s 0).1.length + 1) := by
        rw [Nat.succ_mul]
        omega

end Lib
