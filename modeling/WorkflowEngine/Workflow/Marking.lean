import WorkflowEngine.Workflow.Definition

/-!
# Markings

The places that a subject occupies in one workflow, in the order they were entered, none twice.

* `Marking`: the places with the proof that none repeats; `ofPlaces`, `empty`;
* `permits`: whether a marking lets a transition fire;
* `advance`: the marking after a transition fired; `mem_advance_workflow`,
  `mem_advance_stateMachine`: the places it holds;
* `Definition.initial`: the marking of a fresh subject.
-/

namespace WorkflowEngine

/-- **A marking**: places without repetition. -/
structure Marking where
  places : List PlaceName
  nodup : places.Nodup

namespace Marking

instance : DecidableEq Marking := fun a b =>
  if h : a.places = b.places then
    isTrue (by cases a; cases b; cases h; rfl)
  else
    isFalse fun e => h (congrArg Marking.places e)

/-- The marking without places. -/
def empty : Marking := ⟨[], .nil⟩

instance : Inhabited Marking := ⟨empty⟩

/-- The marking of some places, each taken once. -/
def ofPlaces (places : List PlaceName) : Marking := ⟨distinct places, nodup_distinct places⟩

/-- True when a place is marked. -/
def contains (m : Marking) (place : PlaceName) : Bool := m.places.contains place

/-- True when no place is marked. -/
def isEmpty (m : Marking) : Bool := m.places.isEmpty

/-- **A marking lets a transition fire.** A state machine needs its place among the sources, a
workflow needs every source marked; nothing fires without sources. -/
def permits (m : Marking) (kind : Kind) (t : Transition) : Bool :=
  !t.sources.isEmpty &&
    match kind with
    | .stateMachine => t.sources.any m.contains
    | .workflow => t.sources.all m.contains

/-- **The marking after a transition fired.** A state machine moves to the targets; a workflow
leaves the sources and enters the targets. -/
def advance (m : Marking) (kind : Kind) (t : Transition) : Marking :=
  match kind with
  | .stateMachine => ofPlaces t.targets
  | .workflow => ofPlaces (m.places.filter (fun p => !t.sources.contains p) ++ t.targets)

/-- The display of a marking. -/
def display (m : Marking) : String := "[" ++ ", ".intercalate m.places ++ "]"

@[simp] theorem mem_ofPlaces {p : PlaceName} {places : List PlaceName} :
    p ∈ (ofPlaces places).places ↔ p ∈ places := mem_distinct

/-- A state machine stands in the targets of what it fired. -/
theorem mem_advance_stateMachine {m : Marking} {t : Transition} {p : PlaceName} :
    p ∈ (m.advance .stateMachine t).places ↔ p ∈ t.targets := mem_distinct

/-- A workflow keeps what the transition does not consume and gains its targets. -/
theorem mem_advance_workflow {m : Marking} {t : Transition} {p : PlaceName} :
    p ∈ (m.advance .workflow t).places ↔ (p ∈ m.places ∧ p ∉ t.sources) ∨ p ∈ t.targets := by
  simp [advance]

end Marking

/-- The marking of a fresh subject. -/
def Definition.initial (d : Definition) : Marking := .ofPlaces d.initialPlaces

end WorkflowEngine
