import WorkflowEngine.Bus.Queue
import WorkflowEngine.Routing.Locator
import WorkflowEngine.Routing.Plan

/-!
# Sending

A message passes the stages of a bus, which may stamp it, and then goes to the queue that its route
names. A message without route goes to the fallback queue, if there is one.

* `Stage`, `routingStage`: what may be done to an envelope on its way;
* `Fallback`, `Bus`: the queues of a bus;
* `Bus.queue?`, `Bus.anyQueue?`, `Bus.update`: queues by name;
* `Bus.send`, `Bus.dispatch`.
-/

namespace WorkflowEngine

/-- **A stage**: what is done to an envelope on its way. -/
abbrev Stage := Envelope → Envelope

/-- **The stage that gives queued transitions their route.** A message that was under way before, or
that has a route, stays as it is. -/
def routingStage (l : Locator) : Stage := fun e =>
  if e.hasLifecycleMarker || e.hasRoute then e
  else match l.queue? e.message.workflow e.message.transition with
    | some address => e.stamp (.route address)
    | none => e

/-- **Where messages without route go**: nowhere, to a queue of the bus, or to a queue that no route
can name. -/
inductive Fallback where
  | none
  | shared (name : String)
  | own (queue : Queue)

/-- The fallback of a name: the queue of that name, or else a new one of its own. -/
def Fallback.ofName (names : List String) : Option String → Fallback
  | Option.none => .none
  | some name => if names.contains name then .shared name else .own { name }

/-- **The queues of a bus**, by name. -/
structure Bus where
  queues : SortedMap Queue := .empty
  fallback : Fallback := .none

namespace Bus

/-- A bus with empty queues of the given names. -/
def ofNames (names : List String) (fallback : Fallback) : Bus :=
  { queues := .ofList (names.map fun name => (name, { name })), fallback }

/-- The names of the queues of a plan. -/
def plannedNames (p : RoutePlan) : List String := p.transports.map (·.queueName)

/-- The queue that a route can name. -/
def queue? (b : Bus) (name : String) : Option Queue := b.queues.get? name

/-- A queue by its name, the fallback queue included. -/
def anyQueue? (b : Bus) (name : String) : Option Queue :=
  match b.queue? name, b.fallback with
  | some q, _ => some q
  | none, .own q => if q.name = name then some q else none
  | none, _ => none

/-- Every queue, the fallback queue last. -/
def allQueues (b : Bus) : List Queue :=
  b.queues.values ++ match b.fallback with
    | .own q => [q]
    | _ => []

/-- Put a queue in place of the one of its name. -/
def update (b : Bus) (q : Queue) : Bus :=
  match b.queue? q.name, b.fallback with
  | none, .own own => if own.name = q.name then { b with fallback := .own q } else b
  | none, _ => b
  | some _, _ => { b with queues := b.queues.insert q.name q }

/-- **Send an envelope to its queue.** The bus afterwards is returned, sent or not. -/
def send (b : Bus) (e : Envelope) : Except BusError Unit × Bus :=
  match e.route? with
  | some address =>
    match b.queue? address with
    | some q => (.ok (), b.update (q.send e))
    | none => (.error (.unknownTransport address), b)
  | none =>
    match b.fallback with
    | .none => (.error (.noRoute e.message.workflow e.message.transition), b)
    | .shared name =>
      match b.queue? name with
      | some q => (.ok (), b.update (q.send e))
      | none => (.error (.noRoute e.message.workflow e.message.transition), b)
    | .own q => (.ok (), { b with fallback := .own (q.send e) })

/-- **Dispatch an envelope**: through the stages in order, then to its queue. The envelope is returned
as it left the stages. -/
def dispatch (stages : List Stage) (b : Bus) (e : Envelope) : Except BusError Envelope × Bus :=
  let e := stages.foldl (fun e stage => stage e) e
  let (outcome, b) := b.send e
  (outcome.map fun _ => e, b)

end Bus

end WorkflowEngine
