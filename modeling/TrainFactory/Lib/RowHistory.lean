import TrainFactory.Lib.Run
import TrainFactory.Lib.Table
import Mathlib.Order.Defs.Unbundled

/-!
# Histories of the rows of a table

What becomes of the rows of a table over a run. `life` relates a row to the rows that it may become,
and `born` holds of the rows that may be inserted: in a table that evolves no row is lost, each goes
on under its key as `life` allows, and none appears that was not born.
-/

namespace Lib

open Keyed

namespace Table

variable {R K : Type*} [Keyed R K]

/-- Every row of `t` lives on in `t'` under its key, and every row of `t'` comes of a row of `t`, or
of one that was born in between. -/
structure Evolves (born : R → Prop) (life : R → R → Prop) (t t' : Table R) : Prop where
  lives : ∀ r ∈ t, ∃ r' ∈ t', key r' = key r ∧ life r r'
  comes : ∀ r' ∈ t', ∃ r, (r ∈ t ∨ born r) ∧ key r = key r' ∧ life r r'

section Evolves

variable {born : R → Prop} {life : R → R → Prop} {t t' : Table R}

theorem Evolves.refl [Std.Refl life] (t : Table R) : Evolves born life t t where
  lives := fun r hr => ⟨r, hr, rfl, Std.Refl.refl r⟩
  comes := fun r hr => ⟨r, Or.inl hr, rfl, Std.Refl.refl r⟩

/-- Two changes in succession, by what their relations compose to. -/
theorem Evolves.comp {life₁ life₂ : R → R → Prop} {t'' : Table R} (h : Evolves born life₁ t t')
    (h' : Evolves born life₂ t' t'') (hborn : ∀ r r', born r → life₂ r r' → life r r')
    (hcomp : ∀ r r' r'', life₁ r r' → life₂ r' r'' → life r r'') : Evolves born life t t'' where
  lives := by
    intro r hr
    obtain ⟨r', hr', hk, hlife⟩ := h.lives r hr
    obtain ⟨r'', hr'', hk', hlife'⟩ := h'.lives r' hr'
    exact ⟨r'', hr'', hk'.trans hk, hcomp r r' r'' hlife hlife'⟩
  comes := by
    intro r'' hr''
    obtain ⟨r', hr' | hnew, hk', hlife'⟩ := h'.comes r'' hr''
    · obtain ⟨r, hr, hk, hlife⟩ := h.comes r' hr'
      exact ⟨r, hr, hk.trans hk', hcomp r r' r'' hlife hlife'⟩
    · exact ⟨r', Or.inr hnew, hk', hborn r' r'' hnew hlife'⟩

theorem Evolves.trans [IsTrans R life] {t'' : Table R} (h : Evolves born life t t')
    (h' : Evolves born life t' t'') : Evolves born life t t'' :=
  h.comp h' (fun _ _ _ hlife => hlife) IsTrans.trans

theorem Evolves.imp {born' : R → Prop} {life' : R → R → Prop} (h : Evolves born life t t')
    (hborn : ∀ r, born r → born' r) (hlife : ∀ r r', life r r' → life' r r') :
    Evolves born' life' t t' where
  lives := by
    intro r hr
    obtain ⟨r', hr', hk, hstep⟩ := h.lives r hr
    exact ⟨r', hr', hk, hlife r r' hstep⟩
  comes := by
    intro r' hr'
    obtain ⟨r, hr, hk, hstep⟩ := h.comes r' hr'
    exact ⟨r, hr.imp_right (hborn r), hk, hlife r r' hstep⟩

theorem Evolves.updateWhere [Std.Refl life] {p : R → Bool} {f : R → R}
    {hf : ∀ r, key (f r) = key r} (h : ∀ r ∈ t, p r = true → life r (f r)) :
    Evolves born life t (t.updateWhere p f hf) := by
  have hrow : ∀ r ∈ t, key (if p r then f r else r) = key r ∧ life r (if p r then f r else r) := by
    intro r hr
    by_cases hp : p r = true
    · rw [if_pos hp]
      exact ⟨hf r, h r hr hp⟩
    · rw [if_neg hp]
      exact ⟨rfl, Std.Refl.refl r⟩
  constructor
  · intro r hr
    exact ⟨_, mem_updateWhere.mpr ⟨r, hr, rfl⟩, hrow r hr⟩
  · intro r' hr'
    obtain ⟨r, hr, rfl⟩ := mem_updateWhere.mp hr'
    exact ⟨r, Or.inl hr, (hrow r hr).1.symm, (hrow r hr).2⟩

variable [DecidableEq K]

theorem Evolves.update [Std.Refl life] {r : R} {f : R → R} {hf : ∀ r, key (f r) = key r}
    (hr : r ∈ t) (h : life r (f r)) : Evolves born life t (t.update (key r) f hf) := by
  refine updateWhere fun r' hr' hk => ?_
  have heq : r' = r := eq_of_key hr' hr (by simpa using hk)
  rw [heq]
  exact h

/-- What an update makes of its row is what the row lives on as. -/
theorem Evolves.of_update {r : R} {k : K} {f : R → R} {hf : ∀ r, key (f r) = key r}
    (h : Evolves born life t (t.update k f hf)) (hr : r ∈ t) (hk : key r = k) : life r (f r) := by
  subst hk
  obtain ⟨r', hr', hkey, hlife⟩ := h.lives r hr
  obtain ⟨r₀, hr₀, rfl⟩ := mem_update.mp hr'
  have hsame : key r₀ = key r := by
    by_cases hk : key r₀ = key r
    · exact hk
    · rwa [if_neg hk] at hkey
  obtain rfl : r₀ = r := eq_of_key hr₀ hr hsame
  rwa [if_pos rfl] at hlife

theorem Evolves.insert [Std.Refl life] {r : R} (h : t.insert r = some t') (hborn : born r) :
    Evolves born life t t' := by
  constructor
  · intro r' hr'
    exact ⟨r', (mem_insert h).mpr (Or.inl hr'), rfl, Std.Refl.refl r'⟩
  · intro r' hr'
    rcases (mem_insert h).mp hr' with hold | rfl
    · exact ⟨r', Or.inl hold, rfl, Std.Refl.refl r'⟩
    · exact ⟨r', Or.inr hborn, rfl, Std.Refl.refl r'⟩

end Evolves

/-- What every step of a system does to a table, every run does. -/
theorem Evolves.exec {born : R → Prop} {life : R → R → Prop} [Std.Refl life] [IsTrans R life]
    {σ α : Type*} {step : σ → α → σ} {table : σ → Table R}
    (hstep : ∀ s a, Evolves born life (table s) (table (step s a))) (s : σ) (as : List α) :
    Evolves born life (table s) (table (exec step s as)) := by
  have hinv : ∀ s' a, Evolves born life (table s) (table s') → True →
      Evolves born life (table s) (table (step s' a)) := fun s' a h _ => h.trans (hstep s' a)
  exact exec_invariant hinv (Evolves.refl (table s)) (Admits.of_forall fun _ _ => trivial)

end Table

end Lib
