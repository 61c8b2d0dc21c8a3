import WorkflowEngine.Json.Basic

/-!
# Identifiers

The text by which an entity is found again, as a single value or a primary key gives it.

* `scalarIdentifier?`: the identifier of a single value;
* `PrimaryKey`, `PrimaryKey.identifier?`: the columns of a key, and their identifier.
-/

namespace WorkflowEngine

/-- The identifier that a single value gives: null and the empty text give none. -/
def scalarIdentifier? : Json → Option String
  | .null => none
  | .string s => if s = "" then none else some s
  | value => some value.text

/-- **The columns of a primary key** with their values. -/
structure PrimaryKey where
  columns : List (String × Json)
  deriving DecidableEq

/-- **The identifier of a primary key**: the value of a single column, else the object of all columns,
none of them null. -/
def PrimaryKey.identifier? (k : PrimaryKey) : Option String :=
  match k.columns with
  | [] => none
  | [(_, value)] => scalarIdentifier? value
  | columns => if columns.any (·.2 = .null) then none else some (Json.ofPairs columns).text

end WorkflowEngine
