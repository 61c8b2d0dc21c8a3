import WorkflowEngine.Text.Blank

/-!
# Names

Names of places, transitions and workflows are texts. A name given by a person must not be blank;
each kind of name has its own complaint.

* `PlaceName`, `TransitionName`, `WorkflowName`;
* `BlankName`: the three complaints, with `BlankName.message`;
* `placeName`, `transitionName`, `workflowName`: checked names;
* `isSystem`: transitions that are never offered.
-/

namespace WorkflowEngine

/-- The name of a place. -/
abbrev PlaceName := String

/-- The name of a transition. -/
abbrev TransitionName := String

/-- The name of a workflow. -/
abbrev WorkflowName := String

/-- **A name that is blank**, by the kind of thing it should name. -/
inductive BlankName where
  | place
  | transition
  | workflow
  deriving DecidableEq, Repr

/-- What is said about a blank name. -/
def BlankName.message : BlankName → String
  | .place => "Place name cannot be empty or whitespace only"
  | .transition => "Transition name cannot be empty or whitespace only"
  | .workflow => "Workflow name cannot be empty or whitespace only"

/-- The name, unless it is blank. -/
def checkName (kind : BlankName) (name : String) : Except BlankName String :=
  if Text.isBlankText name then .error kind else .ok name

/-- A checked place name. -/
def placeName (name : String) : Except BlankName PlaceName := checkName .place name

/-- A checked transition name. -/
def transitionName (name : String) : Except BlankName TransitionName := checkName .transition name

/-- A checked workflow name. -/
def workflowName (name : String) : Except BlankName WorkflowName := checkName .workflow name

/-- **System transitions** start with an underscore and are never offered. -/
def isSystem (name : TransitionName) : Bool := name.toList.head? = some '_'

end WorkflowEngine
