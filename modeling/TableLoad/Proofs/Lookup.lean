import Mathlib.Data.List.Perm.Basic

/-!
# Look-ups in lists of entries

What is found under a key after an entry is added or dropped.  Where the keys are
distinct, the order of the entries does not matter.
-/

set_option autoImplicit false

namespace TableLoad

section Lookups

variable {α β : Type} [DecidableEq α]

theorem lookup_cons_if (own : α) (item : β) (rest : List (α × β)) (other : α) :
    ((own, item) :: rest).lookup other = if other = own then some item else rest.lookup other := by
  rw [List.lookup_cons]
  by_cases same : other = own
  · rw [if_pos same, same, beq_self_eq_true]
  · rw [if_neg same, beq_false_of_ne same]

theorem lookup_filter_ne (key : α) (items : List (α × β)) (other : α) :
    (items.filter fun entry => entry.1 ≠ key).lookup other =
      if other = key then none else items.lookup other := by
  induction items with
  | nil => simp
  | cons entry rest ih =>
    obtain ⟨own, item⟩ := entry
    rw [lookup_cons_if]
    by_cases dropped : own = key
    · rw [List.filter_cons_of_neg (by simp [dropped]), ih]
      by_cases same : other = key
      · rw [if_pos same, if_pos same]
      · have different : other ≠ own := dropped ▸ same
        rw [if_neg same, if_neg same, if_neg different]
    · rw [List.filter_cons_of_pos (by simp [dropped]), lookup_cons_if, ih]
      by_cases same : other = own
      · have kept : other ≠ key := same ▸ dropped
        rw [if_pos same, if_pos same, if_neg kept]
      · rw [if_neg same, if_neg same]

theorem lookup_isSome_iff_mem (items : List (α × β)) (key : α) :
    (items.lookup key).isSome = true ↔ key ∈ items.map Prod.fst := by
  induction items with
  | nil => simp
  | cons entry rest ih =>
    obtain ⟨own, item⟩ := entry
    rw [lookup_cons_if, List.map_cons, List.mem_cons, ← ih]
    by_cases same : key = own
    · simp [same]
    · simp [same]

theorem lookup_eq_some_iff_mem {items : List (α × β)} (distinct : (items.map Prod.fst).Nodup)
    (key : α) (item : β) : items.lookup key = some item ↔ (key, item) ∈ items := by
  induction items with
  | nil => simp
  | cons entry rest ih =>
    obtain ⟨own, held⟩ := entry
    rw [List.map_cons, List.nodup_cons] at distinct
    obtain ⟨fresh, later⟩ := distinct
    rw [lookup_cons_if, List.mem_cons, Prod.mk.injEq]
    by_cases same : key = own
    · subst own
      have absent : (key, item) ∉ rest := fun member =>
        fresh (List.mem_map.mpr ⟨(key, item), member, rfl⟩)
      simp [absent, eq_comm]
    · rw [if_neg same, ih later]
      simp [same]

theorem lookup_of_perm {items others : List (α × β)} (distinct : (items.map Prod.fst).Nodup)
    (reordered : others.Perm items) (key : α) : others.lookup key = items.lookup key := by
  have alike : (others.map Prod.fst).Nodup := (reordered.map Prod.fst).nodup_iff.mpr distinct
  ext item
  rw [lookup_eq_some_iff_mem alike, lookup_eq_some_iff_mem distinct, reordered.mem_iff]

end Lookups

end TableLoad
