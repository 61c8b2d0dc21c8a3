import WorkflowEngine.Text.Blank

/-!
# Paths

The last name of a path, and its parts. Empty parts and single dots do not count, two dots are no
name, and a dot at the start of a name starts no extension.

* `components`: the parts of a path;
* `fileName?`, `stem?`, `extension?`;
* `join`: a path below another;
* `comesBefore`: the order in which a folder is walked.
-/

namespace WorkflowEngine.Path

/-- The parts of a path, without empty parts and single dots. -/
def components (path : String) : List String :=
  ((Text.splitOn '/' path.toList).map String.ofList).filter fun part => part ≠ "" ∧ part ≠ "."

/-- The last name of a path, unless it leads upwards. -/
def fileName? (path : String) : Option String :=
  (components path).getLast?.filter (· ≠ "..")

/-- The text before the last dot of a name and the text behind it, if a dot stands behind the start
of the name. -/
def splitName (name : String) : String × Option String :=
  let reversed := name.toList.reverse
  let behind := reversed.takeWhile (· ≠ '.')
  match reversed.drop behind.length with
  | [] | ['.'] => (name, none)
  | _ :: before => (String.ofList before.reverse, some (String.ofList behind.reverse))

/-- **The last name of a path without its extension.** -/
def stem? (path : String) : Option String := (fileName? path).map fun name => (splitName name).1

/-- **The extension of the last name of a path.** -/
def extension? (path : String) : Option String :=
  (fileName? path).bind fun name => (splitName name).2

/-- A path below another. -/
def join (folder path : String) : String := folder ++ "/" ++ path

/-- The order of names, part by part. -/
def namesBefore : List String → List String → Bool
  | [], _ => true
  | _ :: _, [] => false
  | a :: as, b :: bs => if a = b then namesBefore as bs else a < b

/-- **The order in which the files of a folder are met**: name by name, a folder where its own name
stands. -/
def comesBefore (a b : String) : Bool := namesBefore (components a) (components b)

end WorkflowEngine.Path
