import WorkflowEngine.Declaration.Codec
import WorkflowEngine.Declaration.Compile
import WorkflowEngine.Json.Reader
import WorkflowEngine.Source.Path
import WorkflowEngine.Yaml.Reader

/-!
# Source units

A unit is one text that declares a workflow, in YAML or JSON. It counts as a declaration when it has
a `workflow` part; a unit without a name is named after its file.

* `SourceFormat`, `SourceFormat.ofPath?`;
* `SourceUnit`, `SourceFile`, `SourceUnit.ofFile`;
* `SourceUnit.defaultName?`, `SourceUnit.declaration`, `SourceUnit.definition`.
-/

namespace WorkflowEngine

/-- **The format of a unit.** -/
inductive SourceFormat where
  | yaml
  | json
  deriving DecidableEq, Repr

/-- The format that the extension of a path names. -/
def SourceFormat.ofPath? (path : String) : Option SourceFormat :=
  match (Path.extension? path).map Text.lowerAscii with
  | some "yaml" | some "yml" => some .yaml
  | some "json" => some .json
  | _ => none

/-- The document of a text in a format. -/
def SourceFormat.document? : SourceFormat → String → Option Document
  | .yaml, content => Yaml.document? content
  | .json, content => Json.document? content

/-- Whether a format may write a record as a list of its fields. -/
def SourceFormat.hasRecordLists : SourceFormat → Bool
  | .yaml => false
  | .json => true

/-- **A text that declares a workflow**, where it came from, and the file it was read from. -/
structure SourceUnit where
  origin : String
  path : Option String := none
  format : SourceFormat
  content : String

/-- **A file**: its path and its octets. -/
structure SourceFile where
  path : String
  content : ByteArray

namespace SourceUnit

/-- **The unit of a file.** The format comes from the path, and the content has to be text. -/
def ofFile (file : SourceFile) : Except CompileError SourceUnit :=
  match SourceFormat.ofPath? file.path with
  | none => .error .unsupported
  | some format =>
    match String.fromUTF8? file.content with
    | none => .error .unreadable
    | some content => .ok { origin := file.path, path := some file.path, format, content }

/-- The name of a workflow that does not name itself: that of the file, or of the origin. -/
def defaultName? (u : SourceUnit) : Option String :=
  ((u.path.bind Path.stem?).or (Path.stem? u.origin)).bind Text.nonBlank?

/-- **The declaration of a unit.** -/
def declaration (u : SourceUnit) : Except CompileError Declaration := do
  let lists := u.format.hasRecordLists
  match (u.format.document? u.content).bind (Declaration.partsOfDocument? lists) with
  | none => .error .malformed
  | some (none, _) => .error .undeclared
  | some (some header, places, transitions) =>
    let name := (header.name.bind Text.nonBlank?).or u.defaultName?
    return { header := { header with name }, places, transitions }

/-- **The definition of a unit.** -/
def definition (u : SourceUnit) : Except CompileError Definition := do
  (← u.declaration).compile

end SourceUnit

end WorkflowEngine
