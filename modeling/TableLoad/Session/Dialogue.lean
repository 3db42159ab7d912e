import TableLoad.Engine.Failure

/-!
# Dialogues with an engine

What a client does is a tree: either it is done, or it asks the engine something
and goes on as the answer says.  Whoever answers may keep a state, and other
clients may be served between two requests.
-/

set_option autoImplicit false

namespace TableLoad

abbrev Answer := Except Failure Response

inductive Dialogue (α : Type) where
  | done (result : α)
  | ask (request : Request) (next : Answer → Dialogue α)

namespace Dialogue

def bind {α β : Type} : Dialogue α → (α → Dialogue β) → Dialogue β
  | .done result, andThen => andThen result
  | .ask request next, andThen => .ask request fun answer => (next answer).bind andThen

instance : Monad Dialogue where
  pure := .done
  bind := bind

def send (request : Request) : Dialogue Answer :=
  .ask request .done

/-- Holds a dialogue with someone who answers and keeps a state. -/
def run {σ α : Type} (answer : σ → Request → Answer × σ) : Dialogue α → σ → α × σ
  | .done result, state => (result, state)
  | .ask request next, state =>
    let (reply, state) := answer state request
    (next reply).run answer state

def requests {σ α : Type} (answer : σ → Request → Answer × σ) : Dialogue α → σ → List Request
  | .done _, _ => []
  | .ask request next, state =>
    let (reply, state) := answer state request
    request :: (next reply).requests answer state

theorem bind_pure {α : Type} (dialogue : Dialogue α) :
    dialogue.bind .done = dialogue := by
  induction dialogue with
  | done result => rfl
  | ask request next continued =>
    simp only [bind]
    congr
    funext answer
    exact continued answer

theorem bind_assoc {α β γ : Type} (dialogue : Dialogue α) (f : α → Dialogue β)
    (g : β → Dialogue γ) :
    (dialogue.bind f).bind g = dialogue.bind fun result => (f result).bind g := by
  induction dialogue with
  | done result => rfl
  | ask request next continued =>
    simp only [bind]
    congr
    funext answer
    exact continued answer

instance : LawfulMonad Dialogue :=
  LawfulMonad.mk' Dialogue
    (fun dialogue => bind_pure dialogue)
    (fun _ _ => rfl)
    (fun dialogue f g => bind_assoc dialogue f g)

end Dialogue

end TableLoad
