import Mathlib.Data.Rat.Defs
import Mathlib.Data.List.Basic

/-!
# JSON values

Values as a JSON parser returns them: numbers are integers or (finite) floats, objects are
association lists in which the first entry of a key counts.
-/

namespace Lib

inductive Json where
  | null
  | bool (b : Bool)
  | int (n : Int)
  | float (q : Rat)
  | str (s : String)
  | arr (xs : List Json)
  | obj (kvs : List (String × Json))

namespace Json

/-- `value.get(key)` of an object; any other value has no entries. -/
def get? : Json → String → Option Json
  | .obj kvs, k => kvs.lookup k
  | _, _ => none

/-- `value.get(key, default)` of an object. -/
def getD (v : Json) (k : String) (default : Json) : Json := (v.get? k).getD default

/-- `value[key] = entry`, of the entries of an object. -/
def setEntry (kvs : List (String × Json)) (k : String) (entry : Json) : List (String × Json) :=
  if kvs.any fun kv => kv.1 = k then kvs.map fun kv => if kv.1 = k then (k, entry) else kv
  else kvs ++ [(k, entry)]

/-- `value.pop(key, None)`, of the entries of an object. -/
def popEntry (kvs : List (String × Json)) (k : String) : List (String × Json) :=
  kvs.filter fun kv => kv.1 ≠ k

def truthy : Json → Bool
  | .null => false
  | .bool b => b
  | .int n => n != 0
  | .float q => q != 0
  | .str s => s != ""
  | .arr xs => !xs.isEmpty
  | .obj kvs => !kvs.isEmpty

/-- A value that a set can hold. -/
def isHashable : Json → Bool
  | .arr _ => false
  | .obj _ => false
  | _ => true

/-- `isinstance(value, dict)`. -/
def isObj : Json → Bool
  | .obj _ => true
  | _ => false

/-- `value if isinstance(value, dict) else {}`, as entries. -/
def entries : Json → List (String × Json)
  | .obj kvs => kvs
  | _ => []

@[simp] theorem lookup_setEntry_self (kvs : List (String × Json)) (k : String) (entry : Json) :
    (setEntry kvs k entry).lookup k = some entry := by
  unfold setEntry
  split_ifs with h
  · induction kvs with
    | nil => simp at h
    | cons kv kvs ih =>
      obtain ⟨a, b⟩ := kv
      by_cases hk : a = k
      · simp [hk]
      · have hrest : (kvs.any fun kv => kv.1 = k) = true := by simpa [hk] using h
        simpa [hk, List.lookup_cons, beq_false_of_ne (Ne.symm hk)] using ih hrest
  · induction kvs with
    | nil => simp
    | cons kv kvs ih =>
      obtain ⟨a, b⟩ := kv
      obtain ⟨hk, hrest⟩ : ¬ a = k ∧ ¬ (kvs.any fun kv => kv.1 = k) = true := by simpa using h
      simpa [List.lookup_cons, beq_false_of_ne (Ne.symm hk)] using ih hrest

theorem lookup_setEntry_of_ne (kvs : List (String × Json)) {k k' : String} (entry : Json)
    (hne : k' ≠ k) : (setEntry kvs k entry).lookup k' = kvs.lookup k' := by
  unfold setEntry
  split_ifs with h
  · clear h
    induction kvs with
    | nil => rfl
    | cons kv kvs ih =>
      obtain ⟨a, b⟩ := kv
      by_cases hk : a = k
      · subst hk
        simpa [List.lookup_cons, beq_false_of_ne hne] using ih
      · simp [hk, List.lookup_cons, ih]
  · clear h
    induction kvs with
    | nil => simp [List.lookup_cons, beq_false_of_ne hne]
    | cons kv kvs ih =>
      obtain ⟨a, b⟩ := kv
      simp [List.lookup_cons, ih]

theorem lookup_popEntry_of_ne (kvs : List (String × Json)) {k k' : String} (hne : k' ≠ k) :
    (popEntry kvs k).lookup k' = kvs.lookup k' := by
  induction kvs with
  | nil => rfl
  | cons kv kvs ih =>
    obtain ⟨a, b⟩ := kv
    have hcons : popEntry ((a, b) :: kvs) k =
        if a ≠ k then (a, b) :: popEntry kvs k else popEntry kvs k := by
      by_cases ha : a = k <;> simp [popEntry, ha]
    rw [hcons]
    by_cases ha : a = k
    · subst ha
      rw [if_neg (by simp), ih]
      simp [List.lookup_cons, beq_false_of_ne hne]
    · rw [if_pos ha]
      simp [List.lookup_cons, ih]

mutual

/-- `left == right`, of values with their entries in the same order. -/
def beq : Json → Json → Bool
  | .null, .null => true
  | .bool b, .bool c => b = c
  | .int m, .int n => m = n
  | .float q, .float r => q = r
  | .str s, .str t => s = t
  | .arr xs, .arr ys => beqElements xs ys
  | .obj kvs, .obj kvs' => beqEntries kvs kvs'
  | _, _ => false

def beqElements : List Json → List Json → Bool
  | [], [] => true
  | x :: xs, y :: ys => beq x y && beqElements xs ys
  | _, _ => false

def beqEntries : List (String × Json) → List (String × Json) → Bool
  | [], [] => true
  | (k, v) :: kvs, (k', v') :: kvs' => k = k' && beq v v' && beqEntries kvs kvs'
  | _, _ => false

end

end Json

/-- Truth value of an optional string: `None` and `""` are false. -/
def truthy : Option String → Bool
  | none => false
  | some s => s != ""

theorem truthy_eq_true {s : Option String} : truthy s = true ↔ ∃ v, s = some v ∧ v ≠ "" := by
  cases s <;> simp [truthy]

end Lib
