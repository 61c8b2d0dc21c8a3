import WorkflowEngine.Routing.Address
import WorkflowEngine.Routing.RouteMap
import WorkflowEngine.Workflow.Registry

/-!
# Route plans

Which queues there have to be, and which transitions go there. Every transition that asks for a queue
gets a route: to the transport it names, or to the address made of its slugs. Two different names
must not meet in one address, and one pair of slugs has one address.

* `RouterConfig`: the queue prefix and the data source;
* `TransportDescriptor`: a queue to provide;
* `PlanError`: why there is no plan, with its message;
* `planRoutes`, `RoutePlan`, `planQueues`: the plan of a set of definitions.
-/

namespace WorkflowEngine

/-- The data source that is used when none is given. -/
def defaultDsn : String := "doctrine://default"

/-- **What addresses are made with**: the queue prefix and the data source of the queues. -/
structure RouterConfig where
  queuePrefix : String := ""
  dsn : String := defaultDsn
  deriving DecidableEq, Repr

/-- The prefix that addresses get. -/
def RouterConfig.effectivePrefix (c : RouterConfig) : String :=
  Routing.effectivePrefix c.queuePrefix c.dsn

/-- **A queue to provide.** -/
structure TransportDescriptor where
  name : String
  dsn : String
  tableName : String
  queueName : String
  autoSetup : Bool := true
  useNotify : Bool := true
  deriving DecidableEq, Repr

/-- The queue of an address. -/
def TransportDescriptor.ofAddress (dsn address : String) : TransportDescriptor where
  name := address
  dsn := dsn
  tableName :=
    if Routing.isSharedStore dsn then Routing.sharedStoreTable else Routing.tableName address
  queueName := address

/-- **Why there is no plan.** -/
inductive PlanError where
  | collision (address first second : String)
  | emptySlug (workflow : WorkflowName) (transition : TransitionName)
  deriving DecidableEq, Repr

/-- The message of a plan error. -/
def PlanError.message : PlanError → String
  | .collision address first second =>
    "Queue address '" ++ address ++ "' computed for both " ++ first ++ " and " ++ second
  | .emptySlug workflow transition =>
    "Workflow '" ++ workflow ++ "' transition '" ++ transition ++
      "' normalizes to an empty queue slug"

/-- **A transition that asks for a queue**: its names, and the transport it wants. -/
structure QueueRequest where
  workflow : WorkflowName
  transition : TransitionName
  transport : Option String
  deriving DecidableEq, Repr

/-- The requests of a definition, in declared order. -/
def Definition.queueRequests (d : Definition) : List QueueRequest :=
  (d.transitions.filter (·.isAsync)).map fun t => ⟨d.name, t.name, t.metadata.transport⟩

/-- **A plan in the making**: the routes so far, and the names that own each address made of slugs. -/
structure Routes where
  map : RouteMap := .empty
  owners : SortedMap (WorkflowName × TransitionName) := .empty

namespace Routes

/-- The address of a request without transport, owned by its transition name. -/
def claim (r : Routes) (address : String) (q : QueueRequest) : Except PlanError Routes :=
  match r.owners.get? address with
  | some (workflow, transition) =>
    if transition = q.transition then .ok r
    else .error (.collision address (workflow ++ "." ++ transition)
      (q.workflow ++ "." ++ q.transition))
  | none => .ok { r with owners := r.owners.insert address (q.workflow, q.transition) }

/-- Route a pair of slugs to an address. -/
def put (r : Routes) (workflow transition address : String) : Except PlanError Routes :=
  match r.map.get? workflow transition with
  | some previous =>
    if previous = address then .ok r
    else .error (.collision (workflow ++ "." ++ transition) previous address)
  | none => .ok { r with map := r.map.insert workflow transition address }

/-- **Add the route of a request.** -/
def add (queuePrefix : String) (r : Routes) (q : QueueRequest) : Except PlanError Routes :=
  let workflow := Routing.slug q.workflow
  let transition := Routing.slug q.transition
  if workflow = "" ∨ transition = "" then .error (.emptySlug q.workflow q.transition)
  else match q.transport with
    | some transport => r.put workflow transition transport
    | none => do
      let address := Routing.queueAddress queuePrefix workflow transition
      (← r.claim address q).put workflow transition address

end Routes

/-- **A route plan**: the routes, and one queue for every address. -/
structure RoutePlan where
  routes : RouteMap := .empty
  transports : List TransportDescriptor := []
  deriving DecidableEq

/-- Definitions with external ones put in, each in place of the first of its name. -/
def withExternal (definitions external : List Definition) : List Definition :=
  external.foldl (fun ds d => putDefinition d ds) definitions

/-- The routes of a list of requests. -/
def planRoutes (queuePrefix : String) (requests : List QueueRequest) : Except PlanError Routes :=
  requests.foldlM (Routes.add queuePrefix) {}

/-- **The plan of a set of definitions.** -/
def planQueues (config : RouterConfig) (definitions external : List Definition) :
    Except PlanError RoutePlan := do
  let requests := (withExternal definitions external).flatMap Definition.queueRequests
  let routes := (← planRoutes config.effectivePrefix requests).map
  return { routes, transports := routes.addresses.map (.ofAddress config.dsn) }

namespace RoutePlan

/-- The written form of a queue. -/
def transportJson (t : TransportDescriptor) : Json := .ofPairs [
  ("name", .string t.name), ("dsn", .string t.dsn), ("table_name", .string t.tableName),
  ("queue_name", .string t.queueName), ("auto_setup", .bool t.autoSetup),
  ("use_notify", .bool t.useNotify)]

/-- The written form of a plan. -/
def toJson (p : RoutePlan) : Json := .ofPairs [
  ("routes", p.routes.toJson), ("transports", .array (p.transports.map transportJson))]

end RoutePlan

end WorkflowEngine
