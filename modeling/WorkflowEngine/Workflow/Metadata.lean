import WorkflowEngine.Document.Record
import WorkflowEngine.Workflow.Name

/-!
# Metadata

Places and transitions carry metadata: a few known keys, and extensions that are kept untouched.
There are two ways in. `ofMap` reads a loose map from a declaration, where a number may serve as
text and a blank transport counts as none; `ofDocument?` reads the written form of a definition.

* `PlaceMetadata`, `TransitionMetadata`;
* `MetadataError`: what can be wrong with a known key, with its message;
* `nextNames`: the transitions named under `next`;
* `PlaceMetadata.ofMap`, `TransitionMetadata.ofMap`: from a loose map;
* `PlaceMetadata.ofDocument?`, `TransitionMetadata.ofDocument?`, `fields`, `toJson`: the written form.
-/

namespace WorkflowEngine

/-- **Metadata of a place.** -/
structure PlaceMetadata where
  info : Option String := none
  description : Option String := none
  backgroundColor : Option String := none
  next : List TransitionName := []
  extensions : SortedMap Json := .empty
  deriving DecidableEq, Inhabited

/-- **Metadata of a transition.** `async` and `transport` ask for a queue; `transport` names it. -/
structure TransitionMetadata where
  info : Option String := none
  description : Option String := none
  async : Bool := false
  transport : Option String := none
  next : List TransitionName := []
  extensions : SortedMap Json := .empty
  deriving DecidableEq, Inhabited

/-! ## Errors -/

/-- **What is wrong with the value under a known key.** -/
inductive MetadataError where
  | notText (key : String) (value : Json)
  | notFlag (key : String) (value : Json)
  | notExpression (key : String) (value : Json)
  | notName (value : Json)
  | notNames (value : Json)
  | blankName
  deriving DecidableEq

namespace MetadataError

/-- The key that has the wrong value. -/
def key : MetadataError → String
  | .notText key _ | .notFlag key _ | .notExpression key _ => key
  | .notName _ | .notNames _ | .blankName => "next"

/-- What was expected, and what there is. -/
def reason : MetadataError → String
  | .notText _ value => "expected a string, got " ++ value.text
  | .notFlag _ value => "expected a boolean, got " ++ value.text
  | .notExpression _ value => "expected an expression string, got " ++ value.text
  | .notName value => "expected a transition name, got " ++ value.text
  | .notNames value => "expected a name or a list of names, got " ++ value.text
  | .blankName => BlankName.transition.message

/-- The message of a metadata error. -/
def message (e : MetadataError) : String :=
  "Invalid metadata key '" ++ e.key ++ "': " ++ e.reason

end MetadataError

/-! ## Reading loose maps -/

/-- The text under a key: null counts as none, and a number as its written form. -/
def textAt (m : SortedMap Json) (key : String) : Except MetadataError (Option String) :=
  match m.get? key with
  | none | some .null => .ok none
  | some (.string s) => .ok (some s)
  | some (.number n) => .ok (some n.text)
  | some other => .error (.notText key other)

/-- The flag under a key: null counts as unset. -/
def flagAt (m : SortedMap Json) (key : String) : Except MetadataError Bool :=
  match m.get? key with
  | none | some .null => .ok false
  | some (.bool b) => .ok b
  | some other => .error (.notFlag key other)

/-- One name of a list of transition names. -/
def nextItem : Json → Except MetadataError String
  | .string name => .ok name
  | other => .error (.notName other)

/-- **The transitions named by a `next` value**: none, one, or a list of them, no name blank. -/
def nextNames (value : Json) : Except MetadataError (List TransitionName) := do
  let names ← match value with
    | .null => .ok []
    | .string name => .ok [name]
    | .array items => items.mapM nextItem
    | other => .error (.notNames other)
  names.mapM fun name => (transitionName name).mapError fun _ => .blankName

/-- The map without the given keys. -/
def withoutKeys (m : SortedMap Json) (keys : List String) : SortedMap Json :=
  keys.foldl .erase m

namespace PlaceMetadata

/-- The known keys of a place's metadata. -/
def knownKeys : List String := ["info", "description", "backgroundColor", "next"]

/-- **The metadata of a place, from a loose map.** -/
def ofMap (m : SortedMap Json) : Except MetadataError PlaceMetadata := do
  let info ← textAt m "info"
  let description ← textAt m "description"
  let backgroundColor ← textAt m "backgroundColor"
  let next ← nextNames ((m.get? "next").getD .null)
  return { info, description, backgroundColor, next, extensions := withoutKeys m knownKeys }

/-- True when no key is set. -/
def isEmpty (p : PlaceMetadata) : Bool :=
  p.info.isNone && p.description.isNone && p.backgroundColor.isNone && p.next.isEmpty &&
    p.extensions.isEmpty

end PlaceMetadata

namespace TransitionMetadata

/-- The known keys of a transition's metadata. -/
def knownKeys : List String := ["info", "description", "async", "transport", "next"]

/-- **The metadata of a transition, from a loose map.** A blank transport counts as none. -/
def ofMap (m : SortedMap Json) : Except MetadataError TransitionMetadata := do
  let info ← textAt m "info"
  let description ← textAt m "description"
  let async ← flagAt m "async"
  let transport ← textAt m "transport"
  let next ← nextNames ((m.get? "next").getD .null)
  return { info, description, async, transport := transport.bind Text.nonBlank?, next,
           extensions := withoutKeys m knownKeys }

/-- True when no key is set. -/
def isEmpty (t : TransitionMetadata) : Bool :=
  t.info.isNone && t.description.isNone && !t.async && t.transport.isNone && t.next.isEmpty &&
    t.extensions.isEmpty

end TransitionMetadata

/-! ## The written form -/

/-- A text field, when there is one. -/
def textField (key : String) (value : Option String) : List (String × Json) :=
  value.toList.map fun s => (key, .string s)

/-- A list of names, when there is any. -/
def namesField (key : String) (names : List String) : List (String × Json) :=
  if names.isEmpty then [] else [(key, .ofStrings names)]

/-- The names of a `next` field in the written form. -/
def nextOfDocument? (d : Document) : Option (List TransitionName) := do
  (nextNames (← d.value?)).toOption

namespace PlaceMetadata

/-- The fields of the written form: the known keys that are set, then the extensions. -/
def fields (p : PlaceMetadata) : List (String × Json) :=
  textField "info" p.info ++ textField "description" p.description ++
    textField "backgroundColor" p.backgroundColor ++ namesField "next" p.next ++
    p.extensions.entries

/-- The written form of a place's metadata. -/
def toJson (p : PlaceMetadata) : Json := .ofPairs p.fields

/-- **The metadata of a place, from its written form.** -/
def ofDocument? (d : Document) : Option PlaceMetadata := do
  let r ← Record.ofMapping? knownKeys d
  return {
    info := ← r.optional? "info" Document.text?
    description := ← r.optional? "description" Document.text?
    backgroundColor := ← r.optional? "backgroundColor" Document.text?
    next := ← r.withDefault? "next" [] nextOfDocument?
    extensions := ← r.others? }

end PlaceMetadata

namespace TransitionMetadata

/-- The fields of the written form: the known keys that are set, then the extensions. -/
def fields (t : TransitionMetadata) : List (String × Json) :=
  textField "info" t.info ++ textField "description" t.description ++
    (if t.async then [("async", .bool true)] else []) ++ textField "transport" t.transport ++
    namesField "next" t.next ++ t.extensions.entries

/-- The written form of a transition's metadata. -/
def toJson (t : TransitionMetadata) : Json := .ofPairs t.fields

/-- **The metadata of a transition, from its written form.** -/
def ofDocument? (d : Document) : Option TransitionMetadata := do
  let r ← Record.ofMapping? knownKeys d
  return {
    info := ← r.optional? "info" Document.text?
    description := ← r.optional? "description" Document.text?
    async := ← r.withDefault? "async" false Document.bool?
    transport := ← r.optional? "transport" Document.text?
    next := ← r.withDefault? "next" [] nextOfDocument?
    extensions := ← r.others? }

end TransitionMetadata

end WorkflowEngine
