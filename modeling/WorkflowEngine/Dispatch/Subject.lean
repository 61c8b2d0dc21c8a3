import WorkflowEngine.Dispatch.Identity
import WorkflowEngine.Message.Basic
import WorkflowEngine.Workflow.Marking

/-!
# Subjects

An entity that goes through workflows: its type, a marking for every workflow it has entered, and a
record of what is known of it. Guards, identities and partitions are taken from a reading of the subject,
which is its record if nothing else is said.

* `Subject`, `Subject.marking`, `Subject.mark`;
* `marking_mark_self`, `marking_mark_of_ne`: what marking a subject does to its markings;
* `Reading`: what is read of subjects;
* `IdentityStrategy`, `defaultStrategies`: ways to the identity of an entity;
* `Reading.identity?`, `Subject.identity?`: the identity that the first of several ways gives.
-/

namespace WorkflowEngine

/-- **An entity that goes through workflows.** -/
structure Subject where
  entityType : String
  markings : SortedMap Marking := .empty
  attributes : Json := .null
  primaryKey : Option PrimaryKey := none
  context : Option ContextPayload := none
  deriving DecidableEq

namespace Subject

/-- The marking in a workflow; a subject that has not entered it stands nowhere. -/
def marking (s : Subject) (workflow : WorkflowName) : Marking :=
  (s.markings.get? workflow).getD .empty

/-- The subject with a marking in a workflow. -/
def mark (s : Subject) (workflow : WorkflowName) (m : Marking) : Subject :=
  { s with markings := s.markings.insert workflow m }

/-- A subject stands where it was put. -/
@[simp] theorem marking_mark_self (s : Subject) (workflow : WorkflowName) (m : Marking) :
    (s.mark workflow m).marking workflow = m := by
  simp [marking, mark, SortedMap.get?_insert_self]

/-- Other workflows are left alone. -/
theorem marking_mark_of_ne (s : Subject) {workflow other : WorkflowName} (h : other ≠ workflow)
    (m : Marking) : (s.mark workflow m).marking other = s.marking other := by
  simp [marking, mark, SortedMap.get?_insert_of_ne _ h]

end Subject

/-! ## Readings -/

/-- **What is read of subjects**: the attributes that guards and identities see, the primary key, and
the partitions. It may depend on all of a subject, on where it stands as well. -/
structure Reading where
  attributes : Subject → Json := Subject.attributes
  primaryKey : Subject → Option PrimaryKey := Subject.primaryKey
  context : Subject → Option ContextPayload := Subject.context

/-- **One way to the identity of an entity**, which may use all that is read of a subject. -/
structure IdentityStrategy where
  name : String
  resolve? : Reading → Subject → Option String

namespace IdentityStrategy

/-- The identifier of the primary key. -/
def primaryKey : IdentityStrategy where
  name := "primary_key"
  resolve? r s := (r.primaryKey s).bind PrimaryKey.identifier?

/-- The identifier that an attribute gives. -/
def field (name : String) : IdentityStrategy where
  name
  resolve? r s := ((r.attributes s).field? name).bind scalarIdentifier?

end IdentityStrategy

/-- The strategies that are used when none are chosen: the primary key, then the attribute `id`. -/
def defaultStrategies : List IdentityStrategy := [.primaryKey, .field "id"]

/-- **The identity that the first strategy gives** that gives one. -/
def Reading.identity? (r : Reading) (strategies : List IdentityStrategy) (s : Subject) :
    Option String :=
  strategies.findSome? (·.resolve? r s)

/-- The identity that the record of a subject gives. -/
def Subject.identity? (strategies : List IdentityStrategy) (s : Subject) : Option String :=
  Reading.identity? {} strategies s

end WorkflowEngine
