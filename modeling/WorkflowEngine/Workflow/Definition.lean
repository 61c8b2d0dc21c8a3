import WorkflowEngine.Collection.Distinct
import WorkflowEngine.Workflow.Metadata

/-!
# Definitions

A workflow definition: places, transitions between sets of places, and where a fresh subject starts.

* `Kind`: how many places a subject may occupy at once;
* `Place`, `Transition`, `Definition`;
* `Transition.isAsync`: transitions that ask for a queue;
* `Definition.place?`, `Definition.transition?`: the first place or transition of a name;
* `Definition.asyncTransitions`, `Definition.supportsType`.
-/

namespace WorkflowEngine

/-- **How many places a subject may occupy at once**: any number, or exactly one. -/
inductive Kind where
  | workflow
  | stateMachine
  deriving DecidableEq, Repr, Inhabited

/-- The written name of a kind. -/
def Kind.text : Kind → String
  | .workflow => "workflow"
  | .stateMachine => "state_machine"

/-- **A place** of a workflow. -/
structure Place where
  name : PlaceName
  metadata : PlaceMetadata := {}
  deriving DecidableEq, Inhabited

/-- **A transition** from its source places to its target places. -/
structure Transition where
  name : TransitionName
  sources : List PlaceName
  targets : List PlaceName
  guard : Option String := none
  metadata : TransitionMetadata := {}
  deriving DecidableEq, Inhabited

namespace Transition

/-- A transition between places, each named once. -/
def between (name : TransitionName) (sources targets : List PlaceName) : Transition :=
  { name, sources := distinct sources, targets := distinct targets }

/-- **Transitions that ask for a queue**; naming a transport is asking for one. -/
def isAsync (t : Transition) : Bool := t.metadata.async || t.metadata.transport.isSome

end Transition

/-- **A workflow definition.** -/
structure Definition where
  name : WorkflowName
  kind : Kind := .stateMachine
  places : List Place := []
  transitions : List Transition := []
  initialPlaces : List PlaceName := []
  supports : List String := []
  metadata : SortedMap Json := .empty
  deriving DecidableEq, Inhabited

namespace Definition

/-- The first place of a name. -/
def place? (d : Definition) (name : PlaceName) : Option Place := d.places.find? (·.name = name)

/-- True when a place of the name is declared. -/
def hasPlace (d : Definition) (name : PlaceName) : Bool := (d.place? name).isSome

/-- The first transition of a name. -/
def transition? (d : Definition) (name : TransitionName) : Option Transition :=
  d.transitions.find? (·.name = name)

/-- The declared place names. -/
def placeNames (d : Definition) : List PlaceName := d.places.map (·.name)

/-- True when the workflow applies to a type of entities. -/
def supportsType (d : Definition) (type : String) : Bool := d.supports.contains type

/-- The names of the transitions that ask for a queue. -/
def asyncTransitions (d : Definition) : List TransitionName :=
  (d.transitions.filter (·.isAsync)).map (·.name)

end Definition

end WorkflowEngine
