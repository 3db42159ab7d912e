import TableLoad.Session.Dialogue
import TableLoad.Storage.Folder
import TableLoad.Storage.Scratch

/-!
# Sessions

A session talks to an engine and uses the disk.  It keeps nothing else: what is
current is known to the engine alone.
-/

set_option autoImplicit false

namespace TableLoad

structure Disk where
  folder : Folder
  scratch : Scratch

/-- An activity that talks to an engine, uses the disk and may fail.  What it did
to the disk before it failed stays done. -/
abbrev Session (ε : Type) := ExceptT ε (StateT Disk Dialogue)

namespace Session

variable {ε α : Type}

/-- Holds the session with someone who answers and keeps a state: the outcome,
the disk and the state at the end. -/
def runWith {σ : Type} (answer : σ → Request → Answer × σ) (session : Session ε α)
    (disk : Disk) (state : σ) : (Except ε α × Disk) × σ :=
  Dialogue.run answer (session.run.run disk) state

def ofExcept {δ : Type} (wrap : δ → ε) : Except δ α → Session ε α
  | .ok result => pure result
  | .error error => throw (wrap error)

def mapError {δ : Type} (wrap : δ → ε) (session : Session δ α) : Session ε α :=
  ExceptT.adapt wrap session

def onScratch (act : Scratch → α × Scratch) : Session ε α :=
  modifyGet fun disk =>
    let (result, scratch) := act disk.scratch
    (result, { disk with scratch })

def cleaningUp (session : Session ε α) (cleanUp : Scratch → Scratch) : Session ε α :=
  ExceptT.mk do
    let outcome ← session.run
    modify fun disk => { disk with scratch := cleanUp disk.scratch }
    return outcome

def call (request : Request) : Session Failure Response := do
  let answer ← (Dialogue.send request : Session Failure Answer)
  ofExcept id answer

/-- Sends a request; an answer that `expected` does not know is a failure. -/
def request (request : Request) (expected : Response → Option α) : Session Failure α := do
  let response ← call request
  match expected response with
  | some result => return result
  | none => throw (.unexpectedResponse request.operation response.kindText)

def requestName (request : Request) : Session Failure String :=
  Session.request request fun response =>
    match response with
    | .name name => some name
    | _ => none

def requestNames (request : Request) : Session Failure (List String) :=
  Session.request request fun response =>
    match response with
    | .names names => some names
    | _ => none

def requestTable (request : Request) : Session Failure Table :=
  Session.request request fun response =>
    match response with
    | .table table => some table
    | _ => none

def requestDone (request : Request) : Session Failure Unit :=
  Session.request request fun response =>
    match response with
    | .done => some ()
    | _ => none

end Session

end TableLoad
