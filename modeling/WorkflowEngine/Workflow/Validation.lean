import WorkflowEngine.Text.Quoted
import WorkflowEngine.Workflow.Definition

/-!
# Validation

The structural rules of a definition, and every breach of them in the order of the definition.

* `Defect`: one breach, with its message;
* `Definition.defects`: all of them;
* `DefinitionError`: why a definition cannot be had;
* `Definition.validate`: the definition is refused when it has a defect.
-/

namespace WorkflowEngine

/-- **One breach of the structural rules.** -/
inductive Defect where
  | blankName
  | repeatedPlace (place : PlaceName)
  | repeatedTransition (transition : TransitionName)
  | noSource (transition : TransitionName)
  | noTarget (transition : TransitionName)
  | unknownSource (transition : TransitionName) (place : PlaceName)
  | unknownTarget (transition : TransitionName) (place : PlaceName)
  | severalTargets (transition : TransitionName) (count : Nat)
  | unknownInitial (place : PlaceName) (declared : List PlaceName)
  | noInitial
  | severalInitial (count : Nat)
  deriving DecidableEq, Repr

/-- The message of a defect. -/
def Defect.message : Defect → String
  | .blankName => "Workflow name cannot be empty"
  | .repeatedPlace p => "Duplicate place name: '" ++ p ++ "'"
  | .repeatedTransition t => "Duplicate transition name: '" ++ t ++ "'"
  | .noSource t => "Transition '" ++ t ++ "' has no source place"
  | .noTarget t => "Transition '" ++ t ++ "' has no target place"
  | .unknownSource t p =>
    "Transition '" ++ t ++ "' references non-existent source place: '" ++ p ++ "'"
  | .unknownTarget t p =>
    "Transition '" ++ t ++ "' references non-existent target place: '" ++ p ++ "'"
  | .severalTargets t n =>
    "Transition '" ++ t ++ "' of state machine targets " ++ toString n ++
      " places, expected exactly one"
  | .unknownInitial p declared =>
    "Initial place '" ++ p ++ "' not found in workflow places. Available places: " ++
      Text.quotedList declared
  | .noInitial => "State machine must declare an initial place"
  | .severalInitial n => "State machine may start in one place only, found " ++ toString n

/-- The entries of a list that have occurred before, given those seen earlier. -/
def repeatedFrom (seen : List String) : List String → List String
  | [] => []
  | x :: xs => (if x ∈ seen then [x] else []) ++ repeatedFrom (x :: seen) xs

namespace Definition

/-- The defects of one transition, apart from its name. -/
def endsDefects (d : Definition) (t : Transition) : List Defect :=
  (if t.sources.isEmpty then [.noSource t.name] else []) ++
  (if t.targets.isEmpty then [.noTarget t.name] else []) ++
  (t.sources.filter (!d.hasPlace ·)).map (.unknownSource t.name) ++
  (t.targets.filter (!d.hasPlace ·)).map (.unknownTarget t.name) ++
  (if d.kind = .stateMachine ∧ 1 < t.targets.length then
    [.severalTargets t.name t.targets.length] else [])

/-- The defects of a list of transitions, given the names seen earlier. -/
def transitionDefectsFrom (d : Definition) (seen : List TransitionName) :
    List Transition → List Defect
  | [] => []
  | t :: ts =>
    (if t.name ∈ seen then [.repeatedTransition t.name] else []) ++ d.endsDefects t ++
      d.transitionDefectsFrom (t.name :: seen) ts

/-- The defects of the places where a subject starts. -/
def initialDefects (d : Definition) : List Defect :=
  (d.initialPlaces.filter (!d.hasPlace ·)).map (.unknownInitial · d.placeNames) ++
    match d.kind, d.initialPlaces.length with
    | .stateMachine, 0 => [.noInitial]
    | .stateMachine, 1 => []
    | .stateMachine, n => [.severalInitial n]
    | .workflow, _ => []

/-- **Every breach of the structural rules**, in the order of the definition. -/
def defects (d : Definition) : List Defect :=
  (if Text.isBlankText d.name then [.blankName] else []) ++
  (repeatedFrom [] d.placeNames).map .repeatedPlace ++
  d.transitionDefectsFrom [] d.transitions ++
  d.initialDefects

end Definition

/-- **Why a definition cannot be had.** -/
inductive DefinitionError where
  | blank (kind : BlankName)
  | metadata (cause : MetadataError)
  | invalid (name : WorkflowName) (defects : List Defect)
  deriving DecidableEq

/-- The message of a definition error. -/
def DefinitionError.message : DefinitionError → String
  | .blank kind => kind.message
  | .metadata cause => cause.message
  | .invalid name defects =>
    "Invalid workflow '" ++ name ++ "': " ++ "; ".intercalate (defects.map Defect.message)

/-- **A definition is refused when it has a defect.** -/
def Definition.validate (d : Definition) : Except DefinitionError Unit :=
  if d.defects = [] then .ok () else .error (.invalid d.name d.defects)

/-- True when a definition has no defect. -/
def Definition.isValid (d : Definition) : Bool := d.defects = []

end WorkflowEngine
