import TableLoad.Proofs.Engine.Effects

/-!
# Tables of an engine

Nothing that happens to an engine takes a table from it or changes one: tables
are only added, each under an identifier that was never given out before.
-/

set_option autoImplicit false

namespace TableLoad.Engine

inductive Extends (engine next : Engine) : Prop
  | same (tables : next.tables = engine.tables) (stored : next.stored = engine.stored)
  | more (held : StoredTable) (tables : next.tables = (engine.nextId, held) :: engine.tables)
    (stored : next.stored = engine.stored + 1)

theorem extends_of_effect {engine next : Engine} {event : Event}
    (effect : Effect engine event next) : Extends engine next := by
  cases effect with
  | readBatch file schema bytes rows present read => exact .more ⟨schema, rows⟩ rfl rfl
  | register path schema rows placed free => exact .more ⟨schema, rows⟩ rfl rfl
  | _ => exact .same rfl rfl

theorem extends_apply (engine : Engine) (event : Event) : Extends engine (engine.apply event) :=
  extends_of_effect (effect_apply engine event)

theorem lookup_of_extends {engine next : Engine} (step : Extends engine next) (earlier : Nat)
    (old : earlier < engine.stored) :
    next.tables.lookup (.issued earlier) = engine.tables.lookup (.issued earlier) ∧
      earlier < next.stored := by
  cases step with
  | same tables stored => exact ⟨by rw [tables], by omega⟩
  | more held tables stored =>
    have other : (TableId.issued earlier == engine.nextId) = false := by
      simp only [nextId, beq_eq_false_iff_ne, ne_eq, TableId.issued.injEq]
      omega
    exact ⟨by rw [tables, List.lookup_cons, other], by omega⟩

theorem lookup_after (engine : Engine) (events : List Event) (earlier : Nat)
    (old : earlier < engine.stored) :
    (engine.after events).tables.lookup (.issued earlier) =
      engine.tables.lookup (.issued earlier) := by
  induction events generalizing engine with
  | nil => rfl
  | cons event rest ih =>
    obtain ⟨kept, still⟩ := lookup_of_extends (extends_apply engine event) earlier old
    have later := ih (engine.apply event) still
    rw [after, List.foldl_cons]
    exact later.trans kept

theorem rows_after_store (engine : Engine) (schema : Schema) (rows : List Row)
    (events : List Event) :
    (((engine.store schema rows).2.after events).call
      (.collectTable (engine.store schema rows).1.id)).1 = .ok (.rows rows) := by
  have found := lookup_after (engine.store schema rows).2 events engine.stored
    (Nat.lt_succ_self engine.stored)
  have held : (engine.store schema rows).2.tables.lookup (.issued engine.stored) =
      some ⟨schema, rows⟩ := by simp [store, nextId]
  have id : (engine.store schema rows).1.id = .issued engine.stored := rfl
  simp only [call, id, found, held]

/-! ## Identifiers -/

def Numbered (engine : Engine) : Prop :=
  ∀ id, engine.Stored id → ∃ earlier, id = .issued earlier ∧ earlier < engine.stored

theorem stored_of_extends {engine next : Engine} (step : Extends engine next) (id : TableId)
    (stored : engine.Stored id) : next.Stored id := by
  cases step with
  | same tables count => rwa [Stored, tables]
  | more held tables count =>
    rw [Stored, tables, lookup_cons_if]
    split
    · rfl
    · exact stored

theorem numbered_of_extends {engine next : Engine} (step : Extends engine next)
    (numbered : engine.Numbered) : next.Numbered := by
  intro id stored
  cases step with
  | same tables count =>
    rw [Stored, tables] at stored
    rw [count]
    exact numbered id stored
  | more held tables count =>
    rw [Stored, tables, lookup_cons_if] at stored
    rw [count]
    split at stored
    · rename_i latest
      exact ⟨engine.stored, latest, Nat.lt_succ_self _⟩
    · obtain ⟨earlier, same, old⟩ := numbered id stored
      exact ⟨earlier, same, Nat.lt_succ_of_lt old⟩

theorem table?_after (engine : Engine) (numbered : engine.Numbered) (id : TableId)
    (stored : engine.Stored id) (events : List Event) :
    (engine.after events).table? id = engine.table? id := by
  obtain ⟨earlier, rfl, old⟩ := numbered id stored
  rw [table?, lookup_after engine events earlier old, table?]

end TableLoad.Engine
