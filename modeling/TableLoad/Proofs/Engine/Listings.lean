import Mathlib.Data.List.Nodup
import Mathlib.Data.String.Basic
import TableLoad.Proofs.Engine.Consistency

/-!
# Lists of names

What an engine lists of its current database is what it finds there: the names of the
list are those under which a look-up has a table, each of them once and in order.
-/

set_option autoImplicit false

namespace TableLoad

/-! ## Sorted names -/

theorem mem_sortNames (name : String) (names : List String) :
    name ∈ sortNames names ↔ name ∈ names :=
  List.mem_mergeSort

theorem sortNames_sorted (names : List String) : (sortNames names).Pairwise (· ≤ ·) := by
  have sorted := @List.pairwise_mergeSort String (fun a b => decide (a ≤ b))
    (by
      intro a b c first second
      rw [decide_eq_true_eq] at first second ⊢
      exact le_trans first second)
    (by
      intro a b
      rw [Bool.or_eq_true, decide_eq_true_eq, decide_eq_true_eq]
      exact le_total a b)
    names
  exact sorted.imp of_decide_eq_true

theorem sortNames_increases (names : List String) (distinct : names.Nodup) :
    (sortNames names).Pairwise (· < ·) := by
  have apart : (sortNames names).Nodup := (List.mergeSort_perm names _).nodup_iff.mpr distinct
  exact (sortNames_sorted names).imp₂ (fun a b below different => lt_of_le_of_ne below different)
    apart

namespace Engine

theorem mem_dropRepeats (name : String) (names : List String) :
    name ∈ dropRepeats names ↔ name ∈ names := by
  induction names using dropRepeats.induct with
  | case1 a rest ih =>
    rw [dropRepeats, if_pos rfl, ih]
    simp
  | case2 a b rest different ih =>
    rw [dropRepeats, if_neg different, List.mem_cons, ih]
    exact List.mem_cons.symm
  | case3 names short => rw [dropRepeats.eq_2 names short]

theorem dropRepeats_increases (names : List String) :
    names.Pairwise (· ≤ ·) → (dropRepeats names).Pairwise (· < ·) := by
  induction names using dropRepeats.induct with
  | case1 a rest ih =>
    intro sorted
    rw [dropRepeats, if_pos rfl]
    exact ih sorted.tail
  | case2 a b rest different ih =>
    intro sorted
    rw [dropRepeats, if_neg different]
    obtain ⟨least, later⟩ := List.pairwise_cons.mp sorted
    refine List.pairwise_cons.mpr ⟨?_, ih later⟩
    intro name member
    have next : a < b := lt_of_le_of_ne (least b List.mem_cons_self) different
    rcases List.mem_cons.mp ((mem_dropRepeats name _).mp member) with rfl | inside
    · exact next
    · exact lt_of_lt_of_le next ((List.pairwise_cons.mp later).1 name inside)
  | case3 names short =>
    intro _
    rw [dropRepeats.eq_2 names short]
    cases names with
    | nil => exact .nil
    | cons a rest =>
      cases rest with
      | nil => exact List.pairwise_singleton _ a
      | cons b rest => exact absurd rfl (short a b rest)

/-! ## The current database -/

section Current

variable {made : List (String × String)} {engine : Engine}

def here (engine : Engine) (name : String) : ObjectPath :=
  { catalog := engine.currentCatalog, database := engine.currentDatabase, object := name }

theorem currentViews_eq (engine : Engine) :
    engine.currentViews =
      ((engine.views.map Prod.fst).filter fun path =>
        path.catalog = engine.currentCatalog && path.database = engine.currentDatabase).map
          ObjectPath.object := by
  rw [currentViews, List.filter_map, List.map_map]
  rfl

theorem mem_currentViews_iff (engine : Engine) (name : String) :
    name ∈ engine.currentViews ↔ (engine.views.lookup (engine.here name)).isSome = true := by
  rw [lookup_isSome_iff_mem, currentViews_eq, List.mem_map]
  constructor
  · intro listed
    obtain ⟨path, member, rfl⟩ := listed
    obtain ⟨viewed, there⟩ := List.mem_filter.mp member
    have same : engine.here path.object = path := by
      rw [Bool.and_eq_true, decide_eq_true_eq, decide_eq_true_eq] at there
      rw [here, ← there.1, ← there.2]
    rwa [same]
  · intro viewed
    exact ⟨engine.here name, List.mem_filter.mpr ⟨viewed, by simp [here]⟩, rfl⟩

theorem currentViews_nodup (keyed : engine.Keyed) : engine.currentViews.Nodup := by
  rw [currentViews_eq]
  refine List.Nodup.map_on ?_ (keyed.views.filter _)
  intro path member other member' same
  have first := (List.mem_filter.mp member).2
  have second := (List.mem_filter.mp member').2
  rw [Bool.and_eq_true, decide_eq_true_eq, decide_eq_true_eq] at first second
  cases path
  cases other
  rw [ObjectPath.mk.injEq]
  exact ⟨first.1.trans second.1.symm, first.2.trans second.2.symm, same⟩

theorem mem_viewNames_iff (engine : Engine) (name : String) :
    name ∈ engine.viewNames ↔ (engine.views.lookup (engine.here name)).isSome = true := by
  rw [viewNames, mem_sortNames, mem_currentViews_iff]

theorem mem_tableNames_iff (engine : Engine) (name : String) :
    name ∈ engine.tableNames ↔ (engine.find? (engine.here name)).isSome = true := by
  have objects : name ∈
      ((engine.database? engine.currentCatalog engine.currentDatabase).getD []).map Prod.fst ↔
        (engine.object? (engine.here name)).isSome = true := by
    rw [← lookup_isSome_iff_mem, object?, here]
    cases engine.database? engine.currentCatalog engine.currentDatabase <;> rfl
  rw [tableNames, mem_dropRepeats, mem_sortNames, List.mem_append, objects, mem_currentViews_iff,
    find?_eq, Option.isSome_or, Bool.or_eq_true]
  exact Or.comm

theorem tableNames_increases (engine : Engine) : engine.tableNames.Pairwise (· < ·) :=
  dropRepeats_increases _ (sortNames_sorted _)

theorem viewNames_increases (keyed : engine.Keyed) : engine.viewNames.Pairwise (· < ·) :=
  sortNames_increases _ (currentViews_nodup keyed)

/-! ## Look-ups -/

theorem table?_of_found (consistent : engine.Consistent made) {path : ObjectPath} {id : TableId}
    (found : engine.find? path = some id) : ∃ table, engine.table? id = some table := by
  have stored : engine.Stored id := by
    rw [find?_eq] at found
    rcases Option.or_eq_some_iff.mp found with view | ⟨_, object⟩
    · exact (consistent.views path id view).1
    · exact consistent.objects path id object
  obtain ⟨held, same⟩ := Option.isSome_iff_exists.mp stored
  exact ⟨_, by rw [table?, same]; rfl⟩

theorem found_iff_table (consistent : engine.Consistent made) (path : ObjectPath) :
    (engine.find? path).isSome = true ↔
      ∃ table, (engine.find? path).bind engine.table? = some table := by
  constructor
  · intro present
    obtain ⟨id, found⟩ := Option.isSome_iff_exists.mp present
    obtain ⟨table, told⟩ := table?_of_found consistent found
    exact ⟨table, by rw [found, Option.bind_some, told]⟩
  · intro present
    obtain ⟨table, told⟩ := present
    obtain ⟨id, found, _⟩ := Option.bind_eq_some_iff.mp told
    exact Option.isSome_iff_exists.mpr ⟨id, found⟩

end Current

end Engine

end TableLoad
