import WorkflowEngine.Declaration.Basic
import WorkflowEngine.Workflow.Validation

/-!
# Compiling declarations

A declaration is normalised to a definition: loose keys join the metadata, a guard under the metadata
is lifted out, missing parts get their defaults, and the result has to be valid. The first fault in
declared order is reported.

* `CompileError`: why a source gives no definition, with its message;
* `declaredKind`: the kind a declaration asks for;
* `DetailedPlace.compile`, `DeclaredTransition.compile`, `initialPlaces`;
* `Declaration.compile`: the definition of a declaration.
-/

namespace WorkflowEngine

/-- **Why a source gives no definition.** -/
inductive CompileError where
  | unreadable
  | unsupported
  | malformed
  | undeclared
  | unnamed
  | unknownKind (kind : String)
  | invalid (cause : DefinitionError)
  deriving DecidableEq

/-- The message of a compile error, for a source of the given origin. -/
def CompileError.message (origin : String) : CompileError → String
  | .unreadable => "Failed to read workflow source " ++ origin
  | .unsupported => "Unsupported workflow source format: " ++ origin
  | .malformed => "Malformed workflow source " ++ origin
  | .undeclared => "Workflow source " ++ origin ++ " has no 'workflow' declaration"
  | .unnamed => "Workflow source " ++ origin ++ " has no name"
  | .unknownKind kind =>
    "Unknown workflow type '" ++ kind ++ "' in " ++ origin ++
      ", expected 'workflow' or 'state_machine'"
  | .invalid cause => "Invalid workflow in " ++ origin ++ ": " ++ cause.message

/-- **The kind a declaration asks for.** Case and outer blanks do not matter, and a state machine is
what one gets without asking. -/
def declaredKind (text : Option String) : Except CompileError Kind :=
  match Text.lowerAscii (Text.trim (text.getD "")) with
  | "" | "state_machine" | "state-machine" => .ok .stateMachine
  | "workflow" => .ok .workflow
  | other => .error (.unknownKind other)

/-- Metadata with loose keys where they say something new, and known keys on top. -/
def mergedMetadata (metadata loose : SortedMap Json) (known : List (String × Json)) :
    SortedMap Json :=
  (loose.overlay metadata).overlay (.ofList known)

/-- The checked names of a declared list of places. -/
def placeNames (names : List String) : Except DefinitionError (List PlaceName) :=
  names.mapM fun name => (placeName name).mapError .blank

/-- The value of a declared `next`. -/
def nextField (next : Option NameList) : List (String × Json) :=
  next.toList.map fun names => ("next", names.toJson)

/-- **The place that a declaration describes.** -/
def DetailedPlace.compile (p : DetailedPlace) : Except DefinitionError Place := do
  let merged := mergedMetadata p.metadata p.loose
    (textField "info" p.info ++ textField "description" p.description ++
      textField "backgroundColor" p.backgroundColor ++ nextField p.next)
  let name ← (placeName p.name).mapError .blank
  let metadata ← (PlaceMetadata.ofMap merged).mapError .metadata
  return { name, metadata }

/-- The guard under the metadata of a transition. -/
def liftedGuard (metadata : SortedMap Json) : Except MetadataError (Option String) :=
  match metadata.get? "guard" with
  | none | some .null => .ok none
  | some (.string guard) => .ok (some guard)
  | some other => .error (.notExpression "guard" other)

/-- **The transition that a declaration describes.** A guard of its own wins over one under the
metadata, and a blank guard is none. -/
def DeclaredTransition.compile (t : DeclaredTransition) : Except DefinitionError Transition := do
  let merged := mergedMetadata t.metadata t.loose []
  let lifted ← (liftedGuard merged).mapError .metadata
  let known := textField "info" t.info ++ textField "description" t.description ++
    textField "transport" t.transport ++ nextField t.next
  let metadata ← (TransitionMetadata.ofMap ((merged.erase "guard").overlay (.ofList known))).mapError
    .metadata
  let name ← (transitionName t.name).mapError .blank
  let sources ← placeNames t.sources.toList
  let targets ← placeNames t.targets.toList
  return { Transition.between name sources targets with
    guard := (t.guard.bind Text.nonBlank?).or (lifted.bind Text.nonBlank?)
    metadata := { metadata with async := metadata.async || t.async } }

/-- **Where a fresh subject starts**: in the places named for it, else in those flagged as initial,
else a state machine starts in its first place. A state machine takes only the first flagged place. -/
def initialPlaces (kind : Kind) (named flagged declared : List PlaceName) : List PlaceName :=
  if !named.isEmpty then named
  else match kind with
    | .workflow => flagged
    | .stateMachine => (flagged ++ declared).take 1

/-- **The definition of a declaration.** -/
def Declaration.compile (d : Declaration) : Except CompileError Definition := do
  let some name := d.header.name.bind Text.nonBlank? | .error .unnamed
  let kind ← declaredKind d.header.kind
  let supports := (d.header.supports.map NameList.toList).getD []
  Except.mapError .invalid do
    let details := d.places.map DeclaredPlace.details
    let places ← details.mapM DetailedPlace.compile
    let transitions ← d.transitions.mapM DeclaredTransition.compile
    let named ← placeNames ((d.header.initial.map NameList.toList).getD [])
    let flagged := (details.filter (·.initial)).map (·.name)
    let definition : Definition := {
      name, kind, places, transitions
      initialPlaces := initialPlaces kind named flagged (places.map (·.name))
      supports := if supports.isEmpty then [name] else supports
      metadata := d.header.metadata }
    definition.validate
    return definition

end WorkflowEngine
