import WorkflowEngine.Document.Basic

/-!
# Records

A record is a document part with declared fields: a mapping in which no declared field occurs twice.
Where the format allows it, a record may also be written as a list of its fields in declared order.
Undeclared entries are ignored, or kept aside for records that take any key.

* `Record`: the declared fields found and the other entries;
* `ofEntries?`, `ofMapping?`: a record written as a mapping;
* `ofItems?`, `read?`: a record written as a list;
* `required?`, `optional?`, `withDefault?`: a field read by its own reader;
* `others?`: the other entries as a map of values.
-/

namespace WorkflowEngine

/-- **The parts of a record**: declared fields, and the entries that were not declared. -/
structure Record where
  fields : List (String × Document)
  others : List (String × Document)

namespace Record

/-- Sort entries into declared fields and others; a repeated declared field is refused. -/
def ofEntries? (names : List String) : List (Document × Document) → Option Record
  | [] => some ⟨[], []⟩
  | (key, value) :: rest => do
    let name ← key.text?
    let record ← ofEntries? names rest
    if names.contains name then
      if record.fields.any (·.1 = name) then none
      else some { record with fields := (name, value) :: record.fields }
    else some { record with others := (name, value) :: record.others }

/-- A record written as a mapping. -/
def ofMapping? (names : List String) (d : Document) : Option Record := do
  ofEntries? names (← d.entries?)

/-- A record written as the list of its first fields. The first `least` fields must be there. -/
def ofItems? (names : List String) (least : Nat) (items : List Document) : Option Record :=
  if least ≤ items.length ∧ items.length ≤ names.length then some ⟨names.zip items, []⟩ else none

/-- **A record of a format** that may write it as a list of its fields. -/
def read? (lists : Bool) (names : List String) (least : Nat) (d : Document) : Option Record :=
  match lists, d with
  | true, .list items => ofItems? names least items
  | _, d => ofMapping? names d

/-- The document of a field. -/
def field? (r : Record) (name : String) : Option Document :=
  (r.fields.find? (·.1 = name)).map (·.2)

variable {α : Type}

/-- A field that has to be there. -/
def required? (r : Record) (name : String) (read : Document → Option α) : Option α := do
  read (← r.field? name)

/-- A field that may be absent; then it has its default value. -/
def withDefault? (r : Record) (name : String) (default : α) (read : Document → Option α) :
    Option α :=
  match r.field? name with
  | none => some default
  | some d => read d

/-- A field that may be absent or null. -/
def optional? (r : Record) (name : String) (read : Document → Option α) : Option (Option α) :=
  match r.field? name with
  | none => some none
  | some d => if d.isNull then some none else (read d).map some

/-- **The other entries as a map of values**, their scalars typed first. -/
def others? (r : Record) : Option (SortedMap Json) := do
  let pairs ← r.others.mapM fun (name, d) => do
    return (name, ← (← d.typed?).value?)
  return .ofList pairs

end Record

namespace Document

/-- The texts of a list of texts. -/
def texts? (d : Document) : Option (List String) := do
  (← d.items?).mapM text?

end Document

end WorkflowEngine
