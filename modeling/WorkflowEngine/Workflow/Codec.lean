import WorkflowEngine.Workflow.Definition

/-!
# The written form of definitions

Absent, empty and false parts are left out when a definition is written, and have their defaults when
it is read. Reading checks no structure; it refuses only values of the wrong shape and blank names
under `next`. Records may be written as lists of their fields.

* `Place.toJson`, `Transition.toJson`, `Definition.toJson`;
* `Place.ofDocument?`, `Transition.ofDocument?`, `Kind.ofDocument?`, `Definition.ofDocument?`.
-/

namespace WorkflowEngine

/-- The kind of a written name. -/
def Kind.ofText? : String → Option Kind
  | "workflow" => some .workflow
  | "state_machine" => some .stateMachine
  | _ => none

/-- A kind from its written form: its name, or a mapping of its name to null. -/
def Kind.ofDocument? : Document → Option Kind
  | .mapping [(key, value)] => do
    if value.isNull then Kind.ofText? (← key.text?) else none
  | d => do Kind.ofText? (← d.text?)

namespace Place

/-- The written form of a place. -/
def toJson (p : Place) : Json :=
  .ofPairs (("name", .string p.name) ::
    if p.metadata.isEmpty then [] else [("metadata", p.metadata.toJson)])

/-- A place from its written form. -/
def ofDocument? (d : Document) : Option Place := do
  let r ← Record.read? true ["name", "metadata"] 1 d
  return {
    name := ← r.required? "name" Document.text?
    metadata := ← r.withDefault? "metadata" {} PlaceMetadata.ofDocument? }

end Place

namespace Transition

/-- The written form of a transition. -/
def toJson (t : Transition) : Json :=
  .ofPairs ([("name", .string t.name), ("from", .ofStrings t.sources),
      ("to", .ofStrings t.targets)] ++ textField "guard" t.guard ++
    if t.metadata.isEmpty then [] else [("metadata", t.metadata.toJson)])

/-- A transition from its written form. -/
def ofDocument? (d : Document) : Option Transition := do
  let r ← Record.read? true ["name", "from", "to", "guard", "metadata"] 3 d
  return {
    name := ← r.required? "name" Document.text?
    sources := ← r.required? "from" Document.texts?
    targets := ← r.required? "to" Document.texts?
    guard := ← r.optional? "guard" Document.text?
    metadata := ← r.withDefault? "metadata" {} TransitionMetadata.ofDocument? }

end Transition

namespace Definition

/-- The declared fields of a written definition. -/
def fieldNames : List String :=
  ["name", "type", "places", "transitions", "initial_marking", "supports", "metadata"]

/-- **The written form of a definition.** -/
def toJson (d : Definition) : Json :=
  .ofPairs ([("name", .string d.name), ("type", .string d.kind.text),
      ("places", .array (d.places.map Place.toJson)),
      ("transitions", .array (d.transitions.map Transition.toJson)),
      ("initial_marking", .ofStrings d.initialPlaces), ("supports", .ofStrings d.supports)] ++
    if d.metadata.isEmpty then [] else [("metadata", .ofMap d.metadata)])

/-- **A definition from its written form.** -/
def ofDocument? (doc : Document) : Option Definition := do
  let r ← Record.read? true fieldNames 6 doc
  return {
    name := ← r.required? "name" Document.text?
    kind := ← r.withDefault? "type" .stateMachine Kind.ofDocument?
    places := ← r.required? "places" fun d => do (← d.items?).mapM Place.ofDocument?
    transitions := ← r.required? "transitions" fun d => do
      (← d.items?).mapM Transition.ofDocument?
    initialPlaces := ← r.required? "initial_marking" Document.texts?
    supports := ← r.required? "supports" Document.texts?
    metadata := ← r.withDefault? "metadata" .empty Document.valueMap? }

end Definition

end WorkflowEngine
