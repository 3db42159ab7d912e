import TableLoad.Proofs.Engine.Effects
import TableLoad.Session.Catalog

/-!
# Clients that share an engine

Two clients talk to one engine, which serves one request at a time, in any
order.  A client that resolves a path asks for the catalog and for the database
in turn, so the other client may be served between the two questions.
-/

set_option autoImplicit false

namespace TableLoad

/-! ## Turns -/

namespace Dialogue

variable {α : Type}

def request? : Dialogue α → Option Request
  | .done _ => none
  | .ask request _ => some request

/-- One request of a dialogue is served; nothing happens once it is done. -/
def turn (engine : Engine) : Dialogue α → Dialogue α × Engine
  | .done result => (.done result, engine)
  | .ask request next => (next (engine.call request).1, (engine.call request).2)

end Dialogue

inductive Turn
  | caller
  | other
deriving DecidableEq, Repr

/-- An engine and what its two clients have yet to do. -/
structure Shared (α β : Type) where
  engine : Engine
  caller : Dialogue α
  other : Dialogue β

namespace Shared

variable {α β : Type}

def request? (shared : Shared α β) : Turn → Option Request
  | .caller => shared.caller.request?
  | .other => shared.other.request?

def step (shared : Shared α β) : Turn → Shared α β
  | .caller =>
    let (caller, engine) := shared.caller.turn shared.engine
    { shared with engine, caller }
  | .other =>
    let (other, engine) := shared.other.turn shared.engine
    { shared with engine, other }

def after (shared : Shared α β) (turns : List Turn) : Shared α β :=
  turns.foldl step shared

def served (shared : Shared α β) : List Turn → List Request
  | [] => []
  | turn :: rest => (shared.request? turn).toList ++ (shared.step turn).served rest

theorem after_append (shared : Shared α β) (first last : List Turn) :
    shared.after (first ++ last) = (shared.after first).after last :=
  List.foldl_append

/-! ## What turns leave alone -/

theorem caller_of_waiting (shared : Shared α β) (turns : List Turn) (waiting : .caller ∉ turns) :
    (shared.after turns).caller = shared.caller := by
  induction turns generalizing shared with
  | nil => rfl
  | cons turn rest ih =>
    rw [List.mem_cons, not_or] at waiting
    cases turn with
    | caller => exact absurd rfl waiting.1
    | other => exact ih (shared.step .other) waiting.2

end Shared

/-- Only a request to use a catalog changes the current one, and it names it. -/
theorem Engine.currentCatalog_call (engine : Engine) (request : Request) :
    (engine.call request).2.currentCatalog = engine.currentCatalog ∨
      request = .useCatalog (engine.call request).2.currentCatalog := by
  have effect := engine.effect_call request
  generalize (engine.call request).2 = next at effect ⊢
  cases effect with
  | useCatalog name catalog found => exact .inr rfl
  | _ => exact .inl rfl

namespace Shared

variable {α β : Type}

theorem currentCatalog_step (shared : Shared α β) (turn : Turn) :
    (shared.step turn).engine.currentCatalog = shared.engine.currentCatalog ∨
      shared.request? turn = some (.useCatalog (shared.step turn).engine.currentCatalog) := by
  cases turn with
  | caller =>
    cases asks : shared.caller with
    | done result => simp [step, asks, Dialogue.turn]
    | ask request next =>
      have kept := shared.engine.currentCatalog_call request
      simpa [step, asks, Dialogue.turn, Shared.request?, Dialogue.request?] using kept
  | other =>
    cases asks : shared.other with
    | done result => simp [step, asks, Dialogue.turn]
    | ask request next =>
      have kept := shared.engine.currentCatalog_call request
      simpa [step, asks, Dialogue.turn, Shared.request?, Dialogue.request?] using kept

/-- The catalog stays current over any turns unless a request to use the catalog
that is current in the end was served. -/
theorem currentCatalog_after (shared : Shared α β) (turns : List Turn) :
    (shared.after turns).engine.currentCatalog = shared.engine.currentCatalog ∨
      .useCatalog (shared.after turns).engine.currentCatalog ∈ shared.served turns := by
  induction turns generalizing shared with
  | nil => exact .inl rfl
  | cons turn rest ih =>
    have unfolded : shared.after (turn :: rest) = (shared.step turn).after rest := rfl
    rw [unfolded, served, List.mem_append]
    rcases ih (shared.step turn) with kept | switched
    · rcases shared.currentCatalog_step turn with same | asked
      · exact .inl (kept.trans same)
      · exact .inr (.inl (by rw [kept, asked]; exact List.mem_singleton_self _))
    · exact .inr (.inr switched)

end Shared

/-! ## Schedules -/

theorem split_at_caller (schedule : List Turn) (due : 1 ≤ schedule.count .caller) :
    ∃ first rest, schedule = first ++ .caller :: rest ∧ .caller ∉ first ∧
      schedule.count .caller = rest.count .caller + 1 := by
  induction schedule with
  | nil => simp at due
  | cons turn rest ih =>
    cases turn with
    | caller => exact ⟨[], rest, rfl, by simp, List.count_cons_self⟩
    | other =>
      rw [List.count_cons_of_ne (by decide)] at due ⊢
      obtain ⟨first, last, same, waiting, count⟩ := ih due
      exact ⟨.other :: first, last, by rw [same, List.cons_append], by simp [waiting], count⟩

/-! ## Resolving paths -/

/-- The calls that resolve a path before anything else. -/
inductive PathCall
  | resolvePath
  | fromPath
  | createTemporaryView (table : TableId)
  | dropTemporaryView

namespace PathCall

abbrev Outcome : PathCall → Type
  | .resolvePath => ObjectPath
  | .fromPath => Table
  | .createTemporaryView _ => ObjectPath
  | .dropTemporaryView => Bool

def session (path : String) : (call : PathCall) → Session Failure call.Outcome
  | .resolvePath => Session.resolvePath path
  | .fromPath => Session.fromPath path
  | .createTemporaryView table => Session.createTemporaryView path table
  | .dropTemporaryView => Session.dropTemporaryView path

def actOn : (call : PathCall) → ObjectPath → Session Failure call.Outcome
  | .resolvePath, path => pure path
  | .fromPath, path => Session.requestTable (.lookupTable path)
  | .createTemporaryView table, path => do
    Session.requestDone (.createTemporaryView path table)
    return path
  | .dropTemporaryView, path =>
    Session.request (.dropTemporaryView path) fun response =>
      match response with
      | .dropped dropped => some dropped
      | _ => none

theorem session_eq (path : String) (call : PathCall) :
    call.session path = Session.resolvePath path >>= call.actOn := by
  cases call with
  | resolvePath => exact (bind_pure _).symm
  | _ => rfl

def resolved (call : PathCall) (path catalog database : String) : Session Failure call.Outcome :=
  Session.ofExcept .path (ObjectPath.ofText path catalog database) >>= call.actOn

def toldCatalog (call : PathCall) (path catalog : String) : Session Failure call.Outcome := do
  call.resolved path catalog (← Session.currentDatabase)

theorem turn_session (call : PathCall) (path : String) (disk : Disk) (engine : Engine) :
    ((call.session path).run.run disk).turn engine =
      ((call.toldCatalog path engine.currentCatalog).run.run disk, engine) := by
  rw [session_eq, Session.resolvePath, bind_assoc]
  simp only [bind_assoc]
  rfl

theorem turn_toldCatalog (call : PathCall) (path catalog : String) (disk : Disk)
    (engine : Engine) :
    ((call.toldCatalog path catalog).run.run disk).turn engine =
      ((call.resolved path catalog engine.currentDatabase).run.run disk, engine) :=
  rfl

end PathCall

/-- However its requests are interleaved with those of the other client, a call
resolves its path against the catalog that was current when its first request was
served and the database that was current when its second one was.  Both are of
that second moment unless a request of the other client to use a catalog was
served in between. -/
theorem shared_resolution {β : Type} (call : PathCall) (path : String) (disk : Disk)
    (engine : Engine) (other : Dialogue β) (schedule : List Turn)
    (twice : 2 ≤ schedule.count .caller) :
    let start : Shared (Except Failure call.Outcome × Disk) β :=
      { engine, caller := (call.session path).run.run disk, other }
    ∃ first middle last,
      schedule = first ++ .caller :: (middle ++ .caller :: last) ∧
        .caller ∉ first ∧ .caller ∉ middle ∧
        let asked := start.after first
        let told := asked.step .caller
        let answered := told.after middle
        start.after schedule = (answered.step .caller).after last ∧
          (answered.step .caller).caller =
            (call.resolved path asked.engine.currentCatalog
              answered.engine.currentDatabase).run.run disk ∧
          ((answered.step .caller).caller =
              (call.resolved path answered.engine.currentCatalog
                answered.engine.currentDatabase).run.run disk ∨
            .useCatalog answered.engine.currentCatalog ∈ told.served middle) := by
  intro start
  obtain ⟨first, rest, cut, waitsFirst, count⟩ := split_at_caller schedule (by omega)
  obtain ⟨middle, last, cutRest, waitsMiddle, _⟩ := split_at_caller rest (by omega)
  refine ⟨first, middle, last, by rw [cut, cutRest], waitsFirst, waitsMiddle, ?_⟩
  intro asked told answered
  have whole : start.after schedule = (answered.step .caller).after last := by
    rw [cut, cutRest, Shared.after_append]
    exact Shared.after_append told middle (.caller :: last)
  have waited : asked.caller = (call.session path).run.run disk :=
    start.caller_of_waiting first waitsFirst
  have heard : told = { asked with
      caller := (call.toldCatalog path asked.engine.currentCatalog).run.run disk } := by
    simp only [told, Shared.step, waited, call.turn_session]
  have resolved : (answered.step .caller).caller =
      (call.resolved path asked.engine.currentCatalog
        answered.engine.currentDatabase).run.run disk := by
    have same : answered.caller = told.caller := told.caller_of_waiting middle waitsMiddle
    simp only [Shared.step, same, heard, call.turn_toldCatalog]
  have asking : told.engine.currentCatalog = asked.engine.currentCatalog := by rw [heard]
  refine ⟨whole, resolved, ?_⟩
  -- The database is of the second moment anyway, so only the catalog can be old.
  rcases told.currentCatalog_after middle with kept | switched
  · left
    rw [resolved, ← asking, ← kept]
  · exact .inr switched

/-! ## Switching meanwhile -/

theorem ofText_t (catalog database : String) :
    ObjectPath.ofText "t" catalog database = .ok ⟨catalog, database, "t"⟩ := by
  have parsed : WrittenPath.parse "t" = .ok ⟨none, none, "t"⟩ := rfl
  rw [ObjectPath.ofText, parsed]
  rfl

def switching : Shared (Except Failure ObjectPath × Disk) (Except Failure Unit × Disk) :=
  { engine := Engine.fresh.withDatabase "warehouse" "sales"
    caller := (PathCall.resolvePath.session "t").run.run ⟨.empty, .empty⟩
    other := (Session.useCatalog "warehouse").run.run ⟨.empty, .empty⟩ }

theorem resolution_after_switch :
    2 ≤ [Turn.other, .caller, .caller].count .caller ∧
      (switching.after [.other, .caller, .caller]).caller =
        .done (.ok ⟨"warehouse", "sales", "t"⟩, ⟨.empty, .empty⟩) := by
  have twice : 2 ≤ [Turn.other, .caller, .caller].count .caller := by decide
  obtain ⟨first, middle, last, cut, waitsFirst, waitsMiddle, whole, resolved, _⟩ :=
    shared_resolution .resolvePath "t" ⟨.empty, .empty⟩ switching.engine switching.other
      [.other, .caller, .caller] twice
  obtain ⟨rfl, rfl, rfl⟩ : first = [.other] ∧ middle = [] ∧ last = [] := by
    rcases first with _ | ⟨a, _ | ⟨b, first⟩⟩
    · simp at cut
    · rcases middle with _ | ⟨c, middle⟩ <;> simp_all
    · simp_all
  refine ⟨twice, ?_⟩
  rw [PathCall.resolved, ofText_t] at resolved
  exact (congrArg Shared.caller whole).trans resolved

theorem switching_moments (served : Nat) :
    (switching.after ([.caller, .other, .caller].take served)).engine.currentDatabase =
        "default_database" ∨
      (switching.after ([.caller, .other, .caller].take served)).engine.currentCatalog =
        "warehouse" := by
  by_cases whole : 3 ≤ served
  · rw [List.take_of_length_le (by simpa using whole)]
    exact .inr rfl
  · obtain rfl | rfl | rfl : served = 0 ∨ served = 1 ∨ served = 2 := by omega
    · exact .inl rfl
    · exact .inl rfl
    · exact .inr rfl

/-- Served between the two questions, the switch leaves the path with the catalog
of before and the database of after. -/
theorem resolution_across_switch :
    (switching.after [.caller, .other, .caller]).caller =
        .done (.ok ⟨"default_catalog", "sales", "t"⟩, ⟨.empty, .empty⟩) ∧
      ∀ served,
        let moment := (switching.after ([.caller, .other, .caller].take served)).engine
        ObjectPath.ofText "t" moment.currentCatalog moment.currentDatabase ≠
          .ok ⟨"default_catalog", "sales", "t"⟩ := by
  constructor
  · have told : (switching.after [.caller, .other, .caller]).caller =
      (PathCall.resolvePath.resolved "t" "default_catalog" "sales").run.run ⟨.empty, .empty⟩ := rfl
    rw [told, PathCall.resolved, ofText_t]
    rfl
  · intro served moment torn
    rw [ofText_t] at torn
    have catalog : moment.currentCatalog = "default_catalog" :=
      congrArg ObjectPath.catalog (Except.ok.inj torn)
    have database : moment.currentDatabase = "sales" :=
      congrArg ObjectPath.database (Except.ok.inj torn)
    rcases switching_moments served with early | late
    · exact absurd (database.symm.trans early) (by decide)
    · exact absurd (catalog.symm.trans late) (by decide)

end TableLoad
