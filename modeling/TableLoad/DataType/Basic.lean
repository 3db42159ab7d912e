/-!
# Column types

A column type is atomic, an array, a map or a row of named types, and either
admits nulls or does not.
-/

set_option autoImplicit false

namespace TableLoad

/-- Types without parts.  `null` stands for a type of which nothing but nulls has
been seen; no finished schema contains it. -/
inductive Atom
  | null
  | boolean
  | int
  | bigInt
  | float
  | double
  | decimal (precision scale : UInt8)
  | string
  | bytes
  | date
  | time
  | timestamp
  | interval
deriving DecidableEq, Repr

/-- A column type; the flag says whether nulls are admitted. -/
inductive DataType
  | atom (kind : Atom) (nullable : Bool)
  | array (element : DataType) (nullable : Bool)
  | map (key value : DataType) (nullable : Bool)
  | row (fields : List (String × DataType)) (nullable : Bool)

abbrev Field := String × DataType

namespace DataType

def nullable : DataType → Bool
  | .atom _ nullable => nullable
  | .array _ nullable => nullable
  | .map _ _ nullable => nullable
  | .row _ nullable => nullable

def withNullable : DataType → Bool → DataType
  | .atom kind _, nullable => .atom kind nullable
  | .array element _, nullable => .array element nullable
  | .map key value _, nullable => .map key value nullable
  | .row fields _, nullable => .row fields nullable

def isRow : DataType → Bool
  | .row _ _ => true
  | _ => false

mutual

/-- No `null` atom remains anywhere in the type. -/
def isResolved : DataType → Bool
  | .atom kind _ => kind != .null
  | .array element _ => isResolved element
  | .map key value _ => isResolved key && isResolved value
  | .row fields _ => fieldsResolved fields

def fieldsResolved : List (String × DataType) → Bool
  | [] => true
  | (_, type) :: rest => isResolved type && fieldsResolved rest

end

/-! ## Equality -/

mutual

def same : DataType → DataType → Bool
  | .atom a m, .atom b n => a = b && m = n
  | .array a m, .array b n => same a b && m = n
  | .map ka va m, .map kb vb n => same ka kb && same va vb && m = n
  | .row fs m, .row gs n => sameFields fs gs && m = n
  | _, _ => false

def sameFields : List (String × DataType) → List (String × DataType) → Bool
  | [], [] => true
  | (a, s) :: fs, (b, t) :: gs => a = b && same s t && sameFields fs gs
  | _, _ => false

end

mutual

theorem same_refl : (t : DataType) → same t t = true
  | .atom _ _ => by simp [same]
  | .array e _ => by simp [same, same_refl e]
  | .map k v _ => by simp [same, same_refl k, same_refl v]
  | .row fs _ => by simp [same, sameFields_refl fs]

theorem sameFields_refl : (fs : List (String × DataType)) → sameFields fs fs = true
  | [] => by simp [sameFields]
  | (_, t) :: rest => by simp [sameFields, same_refl t, sameFields_refl rest]

end

mutual

theorem eq_of_same : (s t : DataType) → same s t = true → s = t
  | .atom _ _, .atom _ _, h => by simpa [same] using h
  | .array a _, .array b _, h => by
    simp only [same, Bool.and_eq_true, decide_eq_true_eq] at h
    rw [eq_of_same a b h.1, h.2]
  | .map ka va _, .map kb vb _, h => by
    simp only [same, Bool.and_eq_true, decide_eq_true_eq] at h
    rw [eq_of_same ka kb h.1.1, eq_of_same va vb h.1.2, h.2]
  | .row fs _, .row gs _, h => by
    simp only [same, Bool.and_eq_true, decide_eq_true_eq] at h
    rw [eq_of_sameFields fs gs h.1, h.2]
  | .atom _ _, .array _ _, h | .atom _ _, .map _ _ _, h | .atom _ _, .row _ _, h
  | .array _ _, .atom _ _, h | .array _ _, .map _ _ _, h | .array _ _, .row _ _, h
  | .map _ _ _, .atom _ _, h | .map _ _ _, .array _ _, h | .map _ _ _, .row _ _, h
  | .row _ _, .atom _ _, h | .row _ _, .array _ _, h | .row _ _, .map _ _ _, h => by
    simp [same] at h

theorem eq_of_sameFields :
    (fs gs : List (String × DataType)) → sameFields fs gs = true → fs = gs
  | [], [], _ => rfl
  | (a, s) :: fs, (b, t) :: gs, h => by
    simp only [sameFields, Bool.and_eq_true, decide_eq_true_eq] at h
    rw [h.1.1, eq_of_same s t h.1.2, eq_of_sameFields fs gs h.2]
  | [], _ :: _, h | _ :: _, [], h => by simp [sameFields] at h

end

theorem same_iff (s t : DataType) : same s t = true ↔ s = t :=
  ⟨eq_of_same s t, fun equal => equal ▸ same_refl s⟩

instance : DecidableEq DataType := fun s t =>
  decidable_of_iff (same s t = true) (same_iff s t)

end DataType

end TableLoad
