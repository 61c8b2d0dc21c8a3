import WorkflowEngine.Json.Basic

/-!
# Documents

What a JSON or YAML reader hands over: a tree that keeps everything a declared structure may ask
for. A scalar has the text it was written as, when that text may serve where text is wanted, and the
value it stands for, when there is one. Mappings keep every entry, repeated keys included. A part
that nothing asks for is never looked at, so a value that cannot be represented only matters where
it is kept.

* `Document`: the tree; `ofJson`: the tree of a value;
* `text?`, `bool?`, `isNull`, `items?`, `entries?`: what a part can be read as;
* `value?`: a part kept as a value;
* `typed?`: a part whose scalars have been given their types before anything asks for them;
* `limitDepth`: containers below a depth made unreadable.
-/

namespace WorkflowEngine

/-- **A document.** -/
inductive Document where
  | scalar (written : Option String) (value : Option Json)
  | list (items : List Document)
  | mapping (entries : List (Document × Document))
  | tagged (body : Document)
  deriving Inhabited

namespace Document

/-- A part that no reading accepts. -/
def unreadable : Document := .scalar none none

mutual

/-- **The document of a value.** -/
def ofJson : Json → Document
  | .string s => .scalar (some s) (some (.string s))
  | .array items => .list (ofItems items)
  | .object fields => .mapping (ofFields fields)
  | other => .scalar none (some other)

/-- The documents of a list of values. -/
def ofItems : List Json → List Document
  | [] => []
  | item :: rest => ofJson item :: ofItems rest

/-- The entries of an object's fields. -/
def ofFields : List (String × Json) → List (Document × Document)
  | [] => []
  | (key, value) :: rest => (.scalar (some key) (some (.string key)), ofJson value) :: ofFields rest

end

/-! ## Reading a part -/

/-- The text of a scalar, as it was written. -/
def text? : Document → Option String
  | .scalar written _ => written
  | .tagged body => body.text?
  | _ => none

/-- The truth value of a scalar. -/
def bool? : Document → Option Bool
  | .scalar _ (some (.bool b)) => some b
  | .tagged body => body.bool?
  | _ => none

/-- True of a scalar that stands for null. -/
def isNull : Document → Bool
  | .scalar _ (some .null) => true
  | _ => false

/-- The items of a list. An empty scalar serves as a list without items. -/
def items? : Document → Option (List Document)
  | .list items => some items
  | .tagged body => body.items?
  | .scalar (some "") (some .null) => some []
  | _ => none

/-- The entries of a mapping. An empty scalar serves as a mapping without entries. -/
def entries? : Document → Option (List (Document × Document))
  | .mapping entries => some entries
  | .tagged body => body.entries?
  | .scalar (some "") (some .null) => some []
  | _ => none

/-- What is kept of a scalar's value: infinity and NaN are kept as null. -/
def keptScalar : Json → Json
  | .number (.float x) => if x.isFinite then .number (.float x) else .null
  | value => value

mutual

/-- **A part kept as a value.** Of entries with the same key the last one stays. -/
def value? : Document → Option Json
  | .scalar _ value => value.map keptScalar
  | .list items => return .array (← itemValues? items)
  | .mapping entries => return .ofPairs (← entryValues? entries)
  | .tagged _ => none

/-- The values of a list of parts. -/
def itemValues? : List Document → Option (List Json)
  | [] => some []
  | item :: rest => return (← value? item) :: (← itemValues? rest)

/-- The keys and values of entries, the keys as they were written. -/
def entryValues? : List (Document × Document) → Option (List (String × Json))
  | [] => some []
  | (key, value) :: rest => return (← key.text?, ← value? value) :: (← entryValues? rest)

end

/-- A part kept as a map of values. -/
def valueMap? (d : Document) : Option (SortedMap Json) := do
  return .ofList (← entryValues? (← d.entries?))

mutual

/-- **A part with its scalars typed first**: of a scalar only a text value may serve as text. -/
def typed? : Document → Option Document
  | .scalar _ none => none
  | .scalar _ (some (.string s)) => some (.scalar (some s) (some (.string s)))
  | .scalar _ (some value) => some (.scalar none (some value))
  | .list items => return .list (← typedItems? items)
  | .mapping entries => return .mapping (← typedEntries? entries)
  | .tagged _ => none

/-- The parts of a list with their scalars typed first. -/
def typedItems? : List Document → Option (List Document)
  | [] => some []
  | item :: rest => return (← typed? item) :: (← typedItems? rest)

/-- The entries of a mapping with their scalars typed first. -/
def typedEntries? : List (Document × Document) → Option (List (Document × Document))
  | [] => some []
  | (key, value) :: rest => return (← typed? key, ← typed? value) :: (← typedEntries? rest)

end

mutual

/-- **The document with the containers below a depth made unreadable.** -/
def limitDepth : Nat → Document → Document
  | _, .scalar written value => .scalar written value
  | 0, _ => unreadable
  | depth + 1, .list items => .list (limitItems depth items)
  | depth + 1, .mapping entries => .mapping (limitEntries depth entries)
  | depth + 1, .tagged body => .tagged (limitDepth (depth + 1) body)

/-- The parts of a list with a limit on their depth. -/
def limitItems : Nat → List Document → List Document
  | _, [] => []
  | depth, item :: rest => limitDepth depth item :: limitItems depth rest

/-- The entries of a mapping with a limit on their depth. -/
def limitEntries : Nat → List (Document × Document) → List (Document × Document)
  | _, [] => []
  | depth, (key, value) :: rest =>
    (limitDepth depth key, limitDepth depth value) :: limitEntries depth rest

end

end Document

end WorkflowEngine
