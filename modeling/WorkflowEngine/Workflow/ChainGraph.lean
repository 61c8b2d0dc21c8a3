import WorkflowEngine.Workflow.Definition

/-!
# The graph of automatic chaining

When a transition completes, candidates follow from its own `next` and from the `next` of the places
it enters. A queue-backed transition ends the chain. A cycle of this graph may keep a chain going.

* `Definition.successors`: the candidates after a transition;
* `ChainGraph`, `Definition.chainGraph`: the successors of every transition, by name;
* `ChainGraph.cycles`: the cycles that a depth-first search comes across.
-/

namespace WorkflowEngine

/-- **The graph of automatic chaining**: the successors of every transition. -/
abbrev ChainGraph := SortedMap (List TransitionName)

namespace Definition

/-- The names that follow a transition: the `next` of the places it enters, then its own. -/
def followers (d : Definition) (t : Transition) : List TransitionName :=
  (t.targets.filterMap d.place?).flatMap (·.metadata.next) ++ t.metadata.next

/-- **The candidates after a transition**; a queue-backed one has none. -/
def successors (d : Definition) (t : Transition) : List TransitionName :=
  if t.isAsync then []
  else distinct ((d.followers t).filter fun name => (d.transition? name).isSome)

/-- The graph of a definition; of transitions with the same name the last one counts. -/
def chainGraph (d : Definition) : ChainGraph :=
  .ofList (d.transitions.map fun t => (t.name, d.successors t))

end Definition

namespace ChainGraph

/-- What a search has finished and found. -/
structure Search where
  finished : List TransitionName := []
  cycles : List (List TransitionName) := []

/-- The successors of a transition in a graph. -/
def successors (g : ChainGraph) (name : TransitionName) : List TransitionName :=
  (g.get? name).getD []

/-- **Search onward from a transition** behind the given path. Meeting the path again is a cycle. -/
def explore (g : ChainGraph) : Nat → List TransitionName → Search → TransitionName → Search
  | 0, _, search, _ => search
  | fuel + 1, path, search, name =>
    if name ∈ search.finished then search
    else if name ∈ path then
      { search with cycles := search.cycles ++ [path.dropWhile (· ≠ name)] }
    else
      let search := (successors g name).foldl (explore g fuel (path ++ [name])) search
      { search with finished := name :: search.finished }

/-- **The cycles found from every transition in name order.** A path repeats no transition, so the
size of the graph bounds its length. -/
def cycles (g : ChainGraph) : List (List TransitionName) :=
  (g.keys.foldl (explore g (g.size + 2) []) {}).cycles

end ChainGraph

end WorkflowEngine
