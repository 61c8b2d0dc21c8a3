import WorkflowEngine.Declaration.Basic

/-!
# The written form of declarations

A header is written with all its keys, a bare place as its name, and everything else with the keys
that are set; loose keys stand beside the known ones. Headers and whole declarations may be read from
lists of their fields where the format allows it, places and transitions only from mappings.

* `Header.toJson`, `DeclaredPlace.toJson`, `DeclaredTransition.toJson`, `Declaration.toJson`;
* `NameList.ofDocument?`, `DeclaredPlace.ofDocument?`, `DeclaredTransition.ofDocument?`,
  `Header.ofDocument?`, `Declaration.ofDocument?`;
* `Declaration.partsOfDocument?`: a declaration whose header may be missing.
-/

namespace WorkflowEngine

namespace NameList

/-- **Names from their written form**: a text or a list of texts, nothing else serving as text. -/
def ofDocument? (d : Document) : Option NameList := do
  let d ← d.typed?
  match d.text? with
  | some name => return .one name
  | none => return .many (← d.texts?)

/-- A field of names, when there is one. -/
def field (key : String) (names : Option NameList) : List (String × Json) :=
  names.toList.map fun names => (key, names.toJson)

end NameList

namespace DetailedPlace

/-- The known keys of a declared place. -/
def knownKeys : List String :=
  ["name", "initial", "info", "description", "backgroundColor", "next", "metadata"]

/-- The written form of a place with its keys. -/
def toJson (p : DetailedPlace) : Json :=
  .ofPairs (p.loose.entries ++ [("name", .string p.name), ("initial", .bool p.initial)] ++
    textField "info" p.info ++ textField "description" p.description ++
    textField "backgroundColor" p.backgroundColor ++ NameList.field "next" p.next ++
    [("metadata", .ofMap p.metadata)])

/-- A place with its keys, from a document whose scalars have their types. -/
def ofDocument? (d : Document) : Option DetailedPlace := do
  let r ← Record.ofMapping? knownKeys d
  return {
    name := ← r.required? "name" Document.text?
    initial := ← r.withDefault? "initial" false Document.bool?
    info := ← r.optional? "info" Document.text?
    description := ← r.optional? "description" Document.text?
    backgroundColor := ← r.optional? "backgroundColor" Document.text?
    next := ← r.optional? "next" NameList.ofDocument?
    metadata := ← r.withDefault? "metadata" .empty Document.valueMap?
    loose := ← r.others? }

end DetailedPlace

namespace DeclaredPlace

/-- The written form of a declared place. -/
def toJson : DeclaredPlace → Json
  | .bare name => .string name
  | .detailed place => place.toJson

/-- **A declared place from its written form.** Its scalars get their types before they are asked
for, so only a text serves as a name. -/
def ofDocument? (d : Document) : Option DeclaredPlace := do
  let d ← d.typed?
  match d.text? with
  | some name => return .bare name
  | none => return .detailed (← DetailedPlace.ofDocument? d)

end DeclaredPlace

namespace DeclaredTransition

/-- The known keys of a declared transition. -/
def knownKeys : List String :=
  ["name", "from", "to", "guard", "async", "info", "description", "transport", "next", "metadata"]

/-- The written form of a declared transition. -/
def toJson (t : DeclaredTransition) : Json :=
  .ofPairs (t.loose.entries ++ [("name", .string t.name), ("from", t.sources.toJson),
      ("to", t.targets.toJson)] ++ textField "guard" t.guard ++ [("async", .bool t.async)] ++
    textField "info" t.info ++ textField "description" t.description ++
    textField "transport" t.transport ++ NameList.field "next" t.next ++
    [("metadata", .ofMap t.metadata)])

/-- **A declared transition from its written form.** -/
def ofDocument? (d : Document) : Option DeclaredTransition := do
  let r ← Record.ofMapping? knownKeys d
  return {
    name := ← r.required? "name" Document.text?
    sources := ← r.withDefault? "from" .empty NameList.ofDocument?
    targets := ← r.withDefault? "to" .empty NameList.ofDocument?
    guard := ← r.optional? "guard" Document.text?
    async := ← r.withDefault? "async" false Document.bool?
    info := ← r.optional? "info" Document.text?
    description := ← r.optional? "description" Document.text?
    transport := ← r.optional? "transport" Document.text?
    next := ← r.optional? "next" NameList.ofDocument?
    metadata := ← r.withDefault? "metadata" .empty Document.valueMap?
    loose := ← r.others? }

end DeclaredTransition

namespace Declaration

/-- The keys of a header. -/
def Header.knownKeys : List String := ["name", "type", "supports", "initial", "metadata"]

/-- The written form of a header. -/
def Header.toJson (h : Header) : Json :=
  .ofPairs [("name", Json.ofOption .string h.name), ("type", Json.ofOption .string h.kind),
    ("supports", Json.ofOption NameList.toJson h.supports),
    ("initial", Json.ofOption NameList.toJson h.initial), ("metadata", .ofMap h.metadata)]

/-- A header from its written form. -/
def Header.ofDocument? (lists : Bool) (d : Document) : Option Header := do
  let r ← Record.read? lists knownKeys 0 d
  return {
    name := ← r.optional? "name" Document.text?
    kind := ← r.optional? "type" Document.text?
    supports := ← r.optional? "supports" NameList.ofDocument?
    initial := ← r.optional? "initial" NameList.ofDocument?
    metadata := ← r.withDefault? "metadata" .empty Document.valueMap? }

/-- The keys of a declaration. -/
def knownKeys : List String := ["workflow", "places", "transitions"]

/-- **The written form of a declaration.** -/
def toJson (d : Declaration) : Json :=
  .ofPairs [("workflow", d.header.toJson), ("places", .array (d.places.map DeclaredPlace.toJson)),
    ("transitions", .array (d.transitions.map DeclaredTransition.toJson))]

/-- **The parts of a written declaration.** The header may be missing. -/
def partsOfDocument? (lists : Bool) (d : Document) :
    Option (Option Header × List DeclaredPlace × List DeclaredTransition) := do
  let r ← Record.read? lists knownKeys 1 d
  return (← r.optional? "workflow" (Header.ofDocument? lists),
    ← r.withDefault? "places" [] fun d => do (← d.items?).mapM DeclaredPlace.ofDocument?,
    ← r.withDefault? "transitions" [] fun d => do
      (← d.items?).mapM DeclaredTransition.ofDocument?)

/-- **A declaration from its written form**, with its header. -/
def ofDocument? (lists : Bool) (d : Document) : Option Declaration := do
  let (header, places, transitions) ← partsOfDocument? lists d
  return { header := ← header, places, transitions }

end Declaration

end WorkflowEngine
