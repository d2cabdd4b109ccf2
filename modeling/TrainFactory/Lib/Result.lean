import Mathlib.Data.List.Forall2
import Mathlib.Tactic.SplitIfs

/-!
# Results that may be errors

The rules that take a computation in `Except` apart: what is known of its parts when it succeeds.
-/

namespace Lib

variable {ε α β : Type}

/-- A sequence succeeds exactly if its first part does, and the rest with its result. -/
theorem bind_eq_ok {x : Except ε α} {f : α → Except ε β} {b : β} :
    (x >>= f) = .ok b ↔ ∃ a, x = .ok a ∧ f a = .ok b := by
  cases x with
  | error e => simp [bind, Except.bind]
  | ok a => simp [bind, Except.bind]

theorem pure_eq_ok {a b : α} : (pure a : Except ε α) = .ok b ↔ a = b := by
  simp [pure, Except.pure]

theorem map_eq_ok {x : Except ε α} {f : α → β} {b : β} :
    x.map f = .ok b ↔ ∃ a, x = .ok a ∧ f a = b := by
  cases x with
  | error e => simp [Except.map]
  | ok a => simp [Except.map]

/-- A guarded computation that succeeds has passed its guard. -/
theorem ite_error_eq_ok {p : Prop} [Decidable p] {e : ε} {x : Except ε α} {a : α} :
    (if p then .error e else x) = .ok a ↔ ¬ p ∧ x = .ok a := by
  split_ifs with h <;> simp [h]

/-- A computation that may find nothing does so where its guard fails. -/
theorem ite_none_eq_ok {p : Prop} [Decidable p] {x : Except ε (Option α)} {a : α} :
    (if p then x else .ok none) = .ok (some a) ↔ p ∧ x = .ok (some a) := by
  split_ifs with h <;> simp [h]

/-- A list is worked off exactly if each of its entries is. -/
theorem mapM_eq_ok {f : α → Except ε β} {l : List α} {ys : List β} :
    l.mapM f = .ok ys ↔ List.Forall₂ (fun x y => f x = .ok y) l ys := by
  induction l generalizing ys with
  | nil =>
    rw [List.mapM_nil, pure_eq_ok]
    constructor
    · rintro rfl
      exact List.Forall₂.nil
    · intro h
      cases h
      rfl
  | cons x l ih =>
    rw [List.mapM_cons, bind_eq_ok]
    constructor
    · rintro ⟨y, hy, h⟩
      obtain ⟨ys', hys', h⟩ := bind_eq_ok.mp h
      obtain rfl := pure_eq_ok.mp h
      exact List.Forall₂.cons hy (ih.mp hys')
    · intro h
      cases h with
      | cons hy hys => exact ⟨_, hy, bind_eq_ok.mpr ⟨_, ih.mpr hys, rfl⟩⟩

/-- A list is checked exactly if each of its entries is. -/
theorem forM_eq_ok {f : α → Except ε Unit} {l : List α} :
    l.forM f = .ok () ↔ ∀ x ∈ l, f x = .ok () := by
  induction l with
  | nil => simp [pure_eq_ok]
  | cons x l ih =>
    rw [List.forM, bind_eq_ok, List.forall_mem_cons, ← ih]
    constructor
    · rintro ⟨_, hx, hl⟩
      exact ⟨hx, hl⟩
    · rintro ⟨hx, hl⟩
      exact ⟨(), hx, hl⟩

/-- A list whose entries can be worked off can be. -/
theorem exists_mapM_eq_ok {f : α → Except ε β} {l : List α} (h : ∀ x ∈ l, ∃ y, f x = .ok y) :
    ∃ ys, l.mapM f = .ok ys := by
  induction l with
  | nil => exact ⟨[], rfl⟩
  | cons x l ih =>
    obtain ⟨y, hy⟩ := h x (List.mem_cons_self ..)
    obtain ⟨ys, hys⟩ := ih fun x' hx' => h x' (List.mem_cons_of_mem _ hx')
    exact ⟨y :: ys, mapM_eq_ok.mpr (List.Forall₂.cons hy (mapM_eq_ok.mp hys))⟩

/-- What is paired off on the right has its partner on the left. -/
theorem exists_mem_zip_of_forall₂ {R : α → β → Prop} {l : List α} {ys : List β}
    (h : List.Forall₂ R l ys) {y : β} (hy : y ∈ ys) : ∃ x, (x, y) ∈ l.zip ys ∧ R x y := by
  induction h with
  | nil => cases hy
  | cons hx hrest ih =>
    rcases List.mem_cons.mp hy with rfl | hy
    · exact ⟨_, List.mem_cons_self .., hx⟩
    · obtain ⟨x, hmem, hx⟩ := ih hy
      exact ⟨x, List.mem_cons_of_mem _ hmem, hx⟩

theorem exists_left_of_forall₂ {R : α → β → Prop} {l : List α} {ys : List β}
    (h : List.Forall₂ R l ys) {y : β} (hy : y ∈ ys) : ∃ x ∈ l, R x y := by
  obtain ⟨x, hmem, hx⟩ := exists_mem_zip_of_forall₂ h hy
  exact ⟨x, (List.of_mem_zip hmem).1, hx⟩

/-- What is paired off on the left has a partner on the right. -/
theorem exists_right_of_forall₂ {R : α → β → Prop} {l : List α} {ys : List β}
    (h : List.Forall₂ R l ys) {x : α} (hx : x ∈ l) : ∃ y ∈ ys, R x y :=
  exists_left_of_forall₂ h.flip hx

/-- What has been worked off has come from an entry. -/
theorem exists_of_mem_mapM {f : α → Except ε β} {l : List α} {ys : List β}
    (h : l.mapM f = .ok ys) {y : β} (hy : y ∈ ys) : ∃ x ∈ l, f x = .ok y :=
  exists_left_of_forall₂ (mapM_eq_ok.mp h) hy

/-- Every entry of a list that has been worked off has given something. -/
theorem exists_of_mapM_eq_ok {f : α → Except ε β} {l : List α} {ys : List β}
    (h : l.mapM f = .ok ys) {x : α} (hx : x ∈ l) : ∃ y ∈ ys, f x = .ok y :=
  exists_right_of_forall₂ (mapM_eq_ok.mp h) hx

theorem mem_of_filterAuxM {f : α → Except ε Bool} :
    ∀ {l acc l' : List α}, l.filterAuxM f acc = .ok l' → ∀ x ∈ l', x ∈ acc ∨ x ∈ l := by
  intro l
  induction l with
  | nil =>
    intro acc l' h x hx
    cases h
    exact Or.inl hx
  | cons y ys ih =>
    intro acc l' h x hx
    obtain ⟨keep, -, h⟩ := bind_eq_ok.mp h
    rcases ih h x hx with hacc | hys
    · cases keep with
      | false => exact Or.inl hacc
      | true =>
        rcases List.mem_cons.mp hacc with rfl | hacc
        · exact Or.inr (List.mem_cons_self ..)
        · exact Or.inl hacc
    · exact Or.inr (List.mem_cons_of_mem _ hys)

theorem mem_of_filterM {f : α → Except ε Bool} {l l' : List α} (h : l.filterM f = .ok l') {x : α}
    (hx : x ∈ l') : x ∈ l := by
  obtain ⟨kept, hkept, h⟩ := bind_eq_ok.mp h
  obtain rfl := pure_eq_ok.mp h
  simpa using mem_of_filterAuxM hkept x (List.mem_reverse.mp hx)

/-! ## Results that may be missing -/

/-- A list is worked off exactly if each of its entries is. -/
theorem mapM_eq_some {α β : Type*} {f : α → Option β} {l : List α} {ys : List β} :
    l.mapM f = some ys ↔ List.Forall₂ (fun x y => f x = some y) l ys := by
  induction l generalizing ys with
  | nil =>
    rw [List.mapM_nil]
    constructor
    · intro h
      obtain rfl := Option.some.inj h
      exact List.Forall₂.nil
    · intro h
      cases h
      rfl
  | cons x l ih =>
    rw [List.mapM_cons, Option.bind_eq_bind, Option.bind_eq_some_iff]
    constructor
    · rintro ⟨y, hy, h⟩
      obtain ⟨ys', hys', h⟩ := Option.bind_eq_some_iff.mp h
      obtain rfl := Option.some.inj h
      exact List.Forall₂.cons hy (ih.mp hys')
    · intro h
      cases h with
      | cons hy hys => exact ⟨_, hy, Option.bind_eq_some_iff.mpr ⟨_, ih.mpr hys, rfl⟩⟩

/-- What has been worked off is what its entries have given. -/
theorem mem_of_mapM_eq_some {α β : Type*} {f : α → Option β} {l : List α} {ys : List β}
    (h : l.mapM f = some ys) {y : β} : y ∈ ys ↔ ∃ x ∈ l, f x = some y := by
  have hall := mapM_eq_some.mp h
  clear h
  induction hall with
  | nil => simp
  | @cons x y' l ys hx hrest ih =>
    rw [List.mem_cons]
    constructor
    · rintro (rfl | hmem)
      · exact ⟨x, List.mem_cons_self, hx⟩
      · obtain ⟨x', hmem, hx'⟩ := ih.mp hmem
        exact ⟨x', List.mem_cons_of_mem x hmem, hx'⟩
    · rintro ⟨x', hmem, hx'⟩
      rcases List.mem_cons.mp hmem with rfl | hmem
      · exact .inl (Option.some.inj (hx'.symm.trans hx))
      · exact .inr (ih.mpr ⟨x', hmem, hx'⟩)

/-- A list can be worked off exactly if each of its entries can be. -/
theorem exists_mapM_eq_some {α β : Type*} {f : α → Option β} {l : List α} :
    (∃ ys, l.mapM f = some ys) ↔ ∀ x ∈ l, ∃ y, f x = some y := by
  constructor
  · rintro ⟨ys, h⟩ x hx
    have hall := mapM_eq_some.mp h
    clear h
    induction hall with
    | nil => cases hx
    | cons hy hrest ih =>
      rcases List.mem_cons.mp hx with rfl | hx
      · exact ⟨_, hy⟩
      · exact ih hx
  · intro h
    induction l with
    | nil => exact ⟨[], rfl⟩
    | cons x l ih =>
      obtain ⟨y, hy⟩ := h x List.mem_cons_self
      obtain ⟨ys, hys⟩ := ih fun x' hx' => h x' (List.mem_cons_of_mem _ hx')
      exact ⟨y :: ys, mapM_eq_some.mpr (List.Forall₂.cons hy (mapM_eq_some.mp hys))⟩

/-- Every element of the second of two related lists is related to one of the first. -/
theorem exists_mem_left {α β : Type*} {R : α → β → Prop} {l : List α} {l' : List β}
    (h : List.Forall₂ R l l') : ∀ y ∈ l', ∃ x ∈ l, R x y := by
  induction h with
  | nil => intro y hy; cases hy
  | cons hfirst _ ih =>
    intro y hy
    rcases List.mem_cons.mp hy with rfl | hy
    · exact ⟨_, List.mem_cons_self .., hfirst⟩
    · obtain ⟨x, hx, hxy⟩ := ih y hy
      exact ⟨x, List.mem_cons_of_mem _ hx, hxy⟩

theorem exists_mem_right {α β : Type*} {R : α → β → Prop} {l : List α} {l' : List β}
    (h : List.Forall₂ R l l') : ∀ x ∈ l, ∃ y ∈ l', R x y :=
  exists_mem_left h.flip

end Lib
