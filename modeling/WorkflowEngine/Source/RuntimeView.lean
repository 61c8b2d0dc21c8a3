import WorkflowEngine.Workflow.Registry

/-!
# The runtime view

What an outside workflow runtime is told of the definitions: every workflow under its name, its places
in declared order, and where a subject starts. The fields of its objects have an order of their own.

* `Definition.runtimeView`: the view of one definition;
* `Registry.runtimeView`: the view of all of them.
-/

namespace WorkflowEngine

/-- The metadata field of a view, when there is metadata. -/
def metadataView (isEmpty : Bool) (fields : List (String × Json)) : List (String × Json) :=
  if isEmpty then [] else [("metadata", .object fields)]

/-- The view of a place. -/
def Place.runtimeView (p : Place) : Json :=
  .object (metadataView p.metadata.isEmpty p.metadata.fields)

/-- The view of a transition. -/
def Transition.runtimeView (t : Transition) : Json :=
  .object ([("name", .string t.name), ("from", .ofStrings t.sources), ("to", .ofStrings t.targets)] ++
    textField "guard" t.guard ++ metadataView t.metadata.isEmpty t.metadata.fields)

/-- Where a subject starts: one place for a state machine, a list for a workflow. -/
def Definition.initialView (d : Definition) : Json :=
  match d.kind with
  | .stateMachine => Json.ofOption .string d.initialPlaces.head?
  | .workflow => .ofStrings d.initialPlaces

/-- **The view of one definition.** -/
def Definition.runtimeView (d : Definition) : Json :=
  .object [("type", .string d.kind.text), ("supports", .ofStrings d.supports),
    ("places", .object (d.places.map fun p => (p.name, p.runtimeView))),
    ("transitions", .array (d.transitions.map Transition.runtimeView)),
    ("initial_marking", d.initialView)]

/-- **The view of all definitions**, by name. -/
def Registry.runtimeView (r : Registry) : Json :=
  .ofPairs (r.definitions.map fun d => (d.name, d.runtimeView))

end WorkflowEngine
