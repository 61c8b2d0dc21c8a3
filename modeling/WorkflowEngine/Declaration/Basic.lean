import WorkflowEngine.Workflow.Definition

/-!
# Declarations

A workflow as a person declares it, before anything is checked. Names may be given one at a time or
as lists, a place may be a bare name, and keys that are not known stand loose beside the known ones.

* `NameList`: one name, or a list of names;
* `Declaration.Header`, `DeclaredPlace`, `DetailedPlace`, `DeclaredTransition`;
* `Declaration`: a header with places and transitions.
-/

namespace WorkflowEngine

/-- **Names as they were declared**: one alone, or a list. -/
inductive NameList where
  | one (name : String)
  | many (names : List String)
  deriving DecidableEq, Inhabited

namespace NameList

/-- The names. -/
def toList : NameList → List String
  | .one name => [name]
  | .many names => names

/-- The list without names. -/
def empty : NameList := .many []

/-- The written form: as it was declared. -/
def toJson : NameList → Json
  | .one name => .string name
  | .many names => .ofStrings names

end NameList

/-- **A place declared with its keys.** `metadata` holds the keys that were put under `metadata`, and
`loose` the unknown keys beside the known ones. -/
structure DetailedPlace where
  name : String
  initial : Bool := false
  info : Option String := none
  description : Option String := none
  backgroundColor : Option String := none
  next : Option NameList := none
  metadata : SortedMap Json := .empty
  loose : SortedMap Json := .empty
  deriving DecidableEq, Inhabited

/-- **A declared place**: a bare name, or a place with its keys. -/
inductive DeclaredPlace where
  | bare (name : String)
  | detailed (place : DetailedPlace)
  deriving DecidableEq, Inhabited

namespace DeclaredPlace

/-- The place with its keys; a bare name has none. -/
def details : DeclaredPlace → DetailedPlace
  | .bare name => { name }
  | .detailed place => place

/-- The name of a declared place. -/
def name (p : DeclaredPlace) : String := p.details.name

end DeclaredPlace

/-- **A declared transition.** -/
structure DeclaredTransition where
  name : String
  sources : NameList := .empty
  targets : NameList := .empty
  guard : Option String := none
  async : Bool := false
  info : Option String := none
  description : Option String := none
  transport : Option String := none
  next : Option NameList := none
  metadata : SortedMap Json := .empty
  loose : SortedMap Json := .empty
  deriving DecidableEq, Inhabited

/-- **The header of a declaration.** -/
structure Declaration.Header where
  name : Option String := none
  kind : Option String := none
  supports : Option NameList := none
  initial : Option NameList := none
  metadata : SortedMap Json := .empty
  deriving DecidableEq, Inhabited

/-- **A declared workflow.** -/
structure Declaration where
  header : Declaration.Header
  places : List DeclaredPlace := []
  transitions : List DeclaredTransition := []
  deriving DecidableEq, Inhabited

/-- The declared name, when there is one. -/
def Declaration.name? (d : Declaration) : Option String := d.header.name

end WorkflowEngine
