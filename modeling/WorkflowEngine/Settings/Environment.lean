import WorkflowEngine.Collection.SortedMap
import WorkflowEngine.Number.Reading
import WorkflowEngine.Text.Blank

/-!
# Environments

The variables a program is started with, and what they can be read as. A value that cannot be read as
what is wanted counts as not set.

* `Environment`;
* `text`, `parsed?`, `list?`: a variable as a text, as a value of a type, as a list;
* `naturalValue?`, `signedValue?`, `flagValue?`: the readings of trimmed values;
* `underPrefix`: the name of a variable under a common prefix.
-/

namespace WorkflowEngine

/-- **The variables a program is started with.** -/
abbrev Environment := SortedMap String

namespace Environment

/-- The text of a variable, or a default. -/
def text (env : Environment) (name default : String) : String := (env.get? name).getD default

/-- **A variable read as a value**, its outer blanks removed. -/
def parsed? (env : Environment) (name : String) (read : String → Option α) : Option α :=
  (env.get? name).bind fun value => read (Text.trim value)

/-- The entries of a variable that holds a list. -/
def list? (env : Environment) (name : String) : Option (List String) :=
  (env.get? name).map Text.listEntries

/-- A number from nought up to sixty-four bits. -/
def naturalValue? (s : String) : Option Nat := natOfText? (Nat.pow 2 64) s

/-- A number of sixty-four bits with sign. -/
def signedValue? (s : String) : Option Int := intOfText? (Nat.pow 2 63) s

/-- A truth value, in small letters. -/
def flagValue? (s : String) : Option Bool :=
  if s = "true" then some true else if s = "false" then some false else none

/-- The name of a variable under a common prefix. -/
def underPrefix (common name : String) : String := common ++ "_" ++ name

end Environment

end WorkflowEngine
