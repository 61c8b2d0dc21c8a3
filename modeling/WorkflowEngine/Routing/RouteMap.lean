import WorkflowEngine.Document.Record
import WorkflowEngine.Routing.Slug

/-!
# Route maps

The queue address of every pair of a workflow slug and a transition slug that has one. Routes are
listed in the order of their slugs.

* `RouteMap`, with `insert`, `put`, `get?`, `lookup?`;
* `entries`, `addresses`, `size`, `isEmpty`;
* `toJson`, `ofDocument?`: the written form, an object of objects.
-/

namespace WorkflowEngine

/-- **The queue addresses of pairs of slugs.** -/
structure RouteMap where
  routes : SortedMap (SortedMap String)
  deriving DecidableEq, Inhabited

/-- **One route**: a pair of slugs and the address it leads to. -/
structure Route where
  workflow : String
  transition : String
  address : String
  deriving DecidableEq, Repr

namespace RouteMap

/-- The map without routes. -/
def empty : RouteMap := ⟨.empty⟩

/-- The routes of a workflow slug. -/
def ofWorkflow (m : RouteMap) (workflow : String) : SortedMap String :=
  (m.routes.get? workflow).getD .empty

/-- The address of a pair of slugs. -/
def get? (m : RouteMap) (workflow transition : String) : Option String :=
  (m.ofWorkflow workflow).get? transition

/-- **The address of a pair of names**, found under their slugs. -/
def lookup? (m : RouteMap) (workflow transition : String) : Option String :=
  m.get? (Routing.slug workflow) (Routing.slug transition)

/-- **The map with an address put under a pair of slugs.** -/
def insert (m : RouteMap) (workflow transition address : String) : RouteMap :=
  ⟨m.routes.insert workflow ((m.ofWorkflow workflow).insert transition address)⟩

/-- **Put an address under a pair of slugs**: the address that stood there, and the map with the new
one. -/
def put (m : RouteMap) (workflow transition address : String) : Option String × RouteMap :=
  let transitions := m.ofWorkflow workflow
  (transitions.get? transition, ⟨m.routes.insert workflow (transitions.insert transition address)⟩)

/-- What is given back is what was found there. -/
theorem put_fst (m : RouteMap) (workflow transition address : String) :
    (m.put workflow transition address).1 = m.get? workflow transition := rfl

theorem put_snd (m : RouteMap) (workflow transition address : String) :
    (m.put workflow transition address).2 = m.insert workflow transition address := rfl

/-- The map of a list of routes; of routes of one pair the last one stays. -/
def ofList (routes : List Route) : RouteMap :=
  routes.foldl (fun m r => m.insert r.workflow r.transition r.address) empty

/-- **All routes**, in the order of their slugs. -/
def entries (m : RouteMap) : List Route :=
  m.routes.entries.flatMap fun (workflow, transitions) =>
    transitions.entries.map fun (transition, address) => ⟨workflow, transition, address⟩

/-- The addresses in use, each once, in increasing order. -/
def addresses (m : RouteMap) : List String :=
  (SortedMap.ofList (m.entries.map fun r => (r.address, ()))).keys

/-- The number of routes. -/
def size (m : RouteMap) : Nat :=
  m.routes.values.foldr (fun transitions n => transitions.size + n) 0

/-- True when there is no route. -/
def isEmpty (m : RouteMap) : Bool := m.size = 0

/-- The written form: the transitions of each workflow with their addresses. -/
def toJson (m : RouteMap) : Json :=
  .ofMap (m.routes.mapValues fun transitions => .ofMap (transitions.mapValues .string))

/-- The texts under the keys of a mapping. -/
def textMap? (d : Document) : Option (SortedMap String) := do
  let pairs ← (← d.entries?).mapM fun (key, value) => do return (← key.text?, ← value.text?)
  return .ofList pairs

/-- A route map from its written form. -/
def ofDocument? (d : Document) : Option RouteMap := do
  let pairs ← (← d.entries?).mapM fun (key, value) => do return (← key.text?, ← textMap? value)
  return ⟨.ofList pairs⟩

end RouteMap

end WorkflowEngine
