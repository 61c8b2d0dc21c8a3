import WorkflowEngine.Message.Basic
import WorkflowEngine.Routing.RouteMap

/-!
# Locators

A locator answers, while things run, whether a transition goes to a queue, and to which one. A switch
makes every transition run at once, and a forced transport takes the place of every planned address.

* `Locator`, `Locator.forcing`;
* `Locator.isAsync`, `Locator.queue?`: whether and where a transition is queued;
* `Locator.stamps`: the stamps of a message about to be sent.
-/

namespace WorkflowEngine

/-- **Where transitions are queued.** -/
structure Locator where
  routes : RouteMap := .empty
  sync : Bool := false
  forced : Option String := none
  deriving DecidableEq

namespace Locator

/-- The locator that sends everything queued to one transport; a blank name forces nothing. -/
def forcing (l : Locator) (transport : String) : Locator :=
  { l with forced := Text.nonBlank? transport }

/-- **True of transitions that go to a queue.** -/
def isAsync (l : Locator) (workflow : WorkflowName) (transition : TransitionName) : Bool :=
  !l.sync && (l.routes.lookup? workflow transition).isSome

/-- **The queue of a transition**, when it goes to one. -/
def queue? (l : Locator) (workflow : WorkflowName) (transition : TransitionName) : Option String :=
  if l.sync then none
  else (l.routes.lookup? workflow transition).map fun address => l.forced.getD address

/-- **The stamps of a message about to be sent**: its queue, then the partitions of its entity, put on
one at a time where they are new. -/
def stamps (l : Locator) (m : TransitionMessage) (payload : Option ContextPayload) : List Stamp :=
  addNew ((l.queue? m.workflow m.transition).toList.map .route)
    (((payload.map ContextPayload.stamps).getD []).map .context)

end Locator

end WorkflowEngine
