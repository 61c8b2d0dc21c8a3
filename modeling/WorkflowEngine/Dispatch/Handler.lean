import WorkflowEngine.Bus.Worker
import WorkflowEngine.Dispatch.Dispatcher

/-!
# Handling messages

The consumer's side of queued transitions: find the entity again, take the transition if it is still
enabled, and store the entity. A message whose transition is no longer enabled is handled by doing
nothing.

* `HandlingError`, with its message;
* `Dispatcher.handleMessage`: one message;
* `Dispatcher.messageHandler`: the handler for workers.
-/

namespace WorkflowEngine

/-- **Why a message could not be handled.** -/
inductive HandlingError where
  | blank (kind : BlankName)
  | notFound (cause : StoreError)
  | gone (entityType entityId : String)
  | failed (cause : DispatchError)
  | notStored (entityType entityId : String) (cause : StoreError)
  deriving DecidableEq

/-- The message of a handling error. -/
def HandlingError.message : HandlingError → String
  | .blank kind => kind.message
  | .notFound cause => cause.message
  | .gone entityType entityId => entityType ++ " '" ++ entityId ++ "' no longer exists"
  | .failed cause => cause.message
  | .notStored entityType entityId _ => "persisting " ++ entityType ++ " '" ++ entityId ++ "'"

namespace Dispatcher

variable {σ : Type}

/-- Take the transition of a message on the entity that was found, and store the entity. -/
def handleFound (x : Dispatcher) (services : Services σ) (m : TransitionMessage) (s : Subject)
    (w : σ) : Except HandlingError Unit × σ :=
  match x.applyIfEnabled services m.workflow m.transition s w with
  | (.error e, _, w) => (.error (.failed e), w)
  | (.ok none, _, w) => (.ok (), w)
  | (.ok (some _), s, w) =>
    match services.persist s w with
    | (.error e, w) => (.error (.notStored m.entityType m.entityId e), w)
    | (.ok (), w) => (.ok (), w)

/-- **Handle a message.** -/
def handleMessage (x : Dispatcher) (services : Services σ) (m : TransitionMessage) (w : σ) :
    Except HandlingError Unit × σ :=
  match workflowName m.workflow, transitionName m.transition with
  | .error kind, _ => (.error (.blank kind), w)
  | .ok _, .error kind => (.error (.blank kind), w)
  | .ok _, .ok _ =>
    match services.find m.entityType m.entityId w with
    | (.error e, w) => (.error (.notFound e), w)
    | (.ok none, w) => (.error (.gone m.entityType m.entityId), w)
    | (.ok (some s), w) => x.handleFound services m s w

/-- **The handler that a worker calls.** -/
def messageHandler (x : Dispatcher) (services : Services σ) : Handler σ where
  name := "transition_message_handler"
  handle e w :=
    let (outcome, w) := x.handleMessage services e.message w
    (outcome.mapError HandlingError.message, w)

end Dispatcher

end WorkflowEngine
