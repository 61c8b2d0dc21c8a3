import WorkflowEngine.Message.Basic
import WorkflowEngine.Settings.Environment

/-!
# Context filters

Consumers share a queue by taking only some partitions of it. A filter without entries takes every
message; else the partition value that was put on last has to be among the entries.

* `ContextFilter`, with `ofNames`, `ofList`, `ofEnvironment`;
* `ContextFilter.accepts`: whether a message is taken.
-/

namespace WorkflowEngine

/-- **The partitions that a consumer takes**; none means all of them. -/
structure ContextFilter where
  allowed : List String := []
  deriving DecidableEq, Repr

namespace ContextFilter

/-- The filter that takes every message. -/
def acceptAll : ContextFilter := {}

/-- The filter of some names, trimmed, the blank ones left out. -/
def ofNames (names : List String) : ContextFilter :=
  ⟨(names.map Text.trim).filter (· ≠ "")⟩

/-- The filter of a comma-separated list. -/
def ofList (list : String) : ContextFilter := ⟨Text.listEntries list⟩

/-- The variable that names another variable to read the filter from. -/
def redirectVariable : String := "STATE_FILTER_ENV"

/-- The variable that holds the filter when nothing else is said. -/
def defaultVariable : String := "CONTEXT_STAMP"

/-- **The filter in a variable**, or in the one that the environment names in its place. -/
def ofEnvironment (env : Environment) (variableName : String) : ContextFilter :=
  ofList (env.text (env.text redirectVariable variableName) "")

/-- **A filter takes a message.** -/
def accepts (f : ContextFilter) (e : Envelope) : Bool :=
  f.allowed.isEmpty || e.lastContext?.any fun stamp => f.allowed.contains stamp.value.display

end ContextFilter

end WorkflowEngine
