import TableLoad.Engine.State
import TableLoad.Session.Elements

/-!
# Running sessions

What a session asks and does on a disk, step by step: the dialogue of each step, and
so what holding it with someone who answers gives.
-/

set_option autoImplicit false

namespace TableLoad

theorem Dialogue.run_bind {σ α β : Type} (answer : σ → Request → Answer × σ)
    (dialogue : Dialogue α) (next : α → Dialogue β) :
    ∀ state, (dialogue.bind next).run answer state =
      (next (dialogue.run answer state).1).run answer (dialogue.run answer state).2 := by
  induction dialogue with
  | done result =>
    intro state
    rfl
  | ask request continued ih =>
    intro state
    exact ih (answer state request).1 (answer state request).2

namespace Session

section Steps

variable {σ ε α β : Type}

/-- What a session asks and does on a disk, whoever answers. -/
def dialogue (session : Session ε α) (disk : Disk) : Dialogue (Except ε α × Disk) :=
  session.run.run disk

/-- The requests that a session sends to someone who answers and keeps a state. -/
def sent (answer : σ → Request → Answer × σ) (session : Session ε α) (disk : Disk)
    (state : σ) : List Request :=
  (session.dialogue disk).requests answer state

theorem runWith_eq (answer : σ → Request → Answer × σ) (session : Session ε α) (disk : Disk)
    (state : σ) : runWith answer session disk state = (session.dialogue disk).run answer state :=
  rfl

theorem dialogue_bind (first : Session ε α) (next : α → Session ε β) (disk : Disk) :
    (first >>= next).dialogue disk =
      (first.dialogue disk).bind fun outcome =>
        match outcome with
        | (.ok result, disk) => (next result).dialogue disk
        | (.error error, disk) => .done (.error error, disk) := by
  have either : ∀ outcome : Except ε α × Disk,
      ((ExceptT.bindCont next outcome.1).run outcome.2 : Dialogue (Except ε β × Disk)) =
        match outcome with
        | (.ok result, disk) => (next result).dialogue disk
        | (.error error, disk) => .done (.error error, disk) := by
    intro outcome
    obtain ⟨result, disk⟩ := outcome
    cases result <;> rfl
  exact congrArg (first.dialogue disk).bind (funext either)

theorem dialogue_ofExcept {δ : Type} (wrap : δ → ε) (outcome : Except δ α) (disk : Disk) :
    (ofExcept wrap outcome).dialogue disk = .done (outcome.mapError wrap, disk) := by
  cases outcome <;> rfl

theorem dialogue_given (outcome : Except ε α) (disk : Disk) :
    (ofExcept id outcome).dialogue disk = .done (outcome, disk) := by
  cases outcome <;> rfl

theorem dialogue_onScratch (act : Scratch → α × Scratch) (disk : Disk) :
    (onScratch act : Session ε α).dialogue disk =
      .done (.ok (act disk.scratch).1, { disk with scratch := (act disk.scratch).2 }) :=
  rfl

theorem dialogue_cleaningUp (session : Session ε α) (cleanUp : Scratch → Scratch) (disk : Disk) :
    (cleaningUp session cleanUp).dialogue disk =
      (session.dialogue disk).bind fun outcome =>
        .done (outcome.1, { outcome.2 with scratch := cleanUp outcome.2.scratch }) :=
  rfl

theorem dialogue_call (request : Request) (disk : Disk) :
    (call request).dialogue disk = .ask request fun answer => .done (answer, disk) := by
  unfold call
  rw [dialogue_bind]
  exact congrArg (Dialogue.ask request) (funext fun answer => dialogue_given answer disk)

def understood (request : Request) (expected : Response → Option α) (response : Response) :
    Except Failure α :=
  match expected response with
  | some result => .ok result
  | none => .error (.unexpectedResponse request.operation response.kindText)

theorem dialogue_request (request : Request) (expected : Response → Option α) (disk : Disk) :
    (Session.request request expected).dialogue disk =
      .ask request fun answer => .done (answer >>= understood request expected, disk) := by
  unfold Session.request
  rw [dialogue_bind, dialogue_call]
  apply congrArg (Dialogue.ask request)
  funext answer
  cases answer with
  | error failure => rfl
  | ok response =>
    simp only [Dialogue.bind, understood, bind, Except.bind]
    cases expected response <;> rfl

theorem runWith_bind (answer : σ → Request → Answer × σ) (first : Session ε α)
    (next : α → Session ε β) (disk : Disk) (state : σ) :
    runWith answer (first >>= next) disk state =
      match runWith answer first disk state with
      | ((.ok result, disk), state) => runWith answer (next result) disk state
      | ((.error error, disk), state) => ((.error error, disk), state) := by
  rw [runWith_eq, dialogue_bind, Dialogue.run_bind, runWith_eq]
  cases (first.dialogue disk).run answer state with
  | mk outcome state =>
    obtain ⟨result, disk⟩ := outcome
    cases result <;> rfl

theorem runWith_ofExcept {δ : Type} (answer : σ → Request → Answer × σ) (wrap : δ → ε)
    (outcome : Except δ α) (next : α → Session ε β) (disk : Disk) (state : σ) :
    runWith answer (ofExcept wrap outcome >>= next) disk state =
      match outcome with
      | .error error => ((.error (wrap error), disk), state)
      | .ok result => runWith answer (next result) disk state := by
  rw [runWith_bind, runWith_eq, dialogue_ofExcept]
  cases outcome <;> rfl

theorem runWith_get (answer : σ → Request → Answer × σ) (disk : Disk) (state : σ) :
    runWith answer (get : Session ε Disk) disk state = ((.ok disk, disk), state) :=
  rfl

theorem runWith_mapError {δ : Type} (answer : σ → Request → Answer × σ) (wrap : δ → ε)
    (session : Session δ α) (disk : Disk) (state : σ) :
    runWith answer (mapError wrap session) disk state =
      (((runWith answer session disk state).1.1.mapError wrap,
        (runWith answer session disk state).1.2), (runWith answer session disk state).2) := by
  have whole : (mapError wrap session).dialogue disk =
      (session.dialogue disk).bind fun outcome => .done (outcome.1.mapError wrap, outcome.2) := rfl
  rw [runWith_eq, whole, Dialogue.run_bind]
  rfl

theorem runWith_request (answer : σ → Request → Answer × σ) (request : Request)
    (expected : Response → Option α) (disk : Disk) (state : σ) :
    runWith answer (Session.request request expected) disk state =
      (((answer state request).1 >>= understood request expected, disk),
        (answer state request).2) := by
  rw [runWith_eq, dialogue_request]
  rfl

end Steps

end Session

end TableLoad
