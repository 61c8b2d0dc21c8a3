import WorkflowEngine.Source.Unit
import WorkflowEngine.Workflow.Registry

/-!
# Compilations

Sources are compiled in the order in which they were added. A source that fails is left out with a
reason and disturbs no other; a later definition of a name takes the place of the earlier one.

* `Source`: a unit, a declaration, or the files of a folder;
* `Compilation`: definitions, contributing files, and what was left out;
* `compileSources`: a compile run;
* `Compilation.asyncTransitions`, `Compilation.isAsync`: the transitions that ask for a queue.
-/

namespace WorkflowEngine

/-- **A source of definitions.** -/
inductive Source where
  | unit (unit : SourceUnit)
  | declared (declaration : Declaration)
  | folder (files : List SourceFile)

/-- **A source that was left out**, and why. -/
structure Skipped where
  origin : String
  cause : CompileError
  deriving DecidableEq

/-- The reason given for leaving a source out. -/
def Skipped.reason (s : Skipped) : String := s.cause.message s.origin

/-- **What a compile run gives.** -/
structure Compilation where
  definitions : Registry := .empty
  files : List String := []
  skipped : List Skipped := []

/-- The origin of a declaration made in code. -/
def Declaration.origin (d : Declaration) : String := "registered:" ++ d.name?.getD "<unnamed>"

namespace Compilation

/-- Leave a source out. -/
def skip (c : Compilation) (origin : String) (cause : CompileError) : Compilation :=
  { c with skipped := c.skipped ++ [⟨origin, cause⟩] }

/-- Take a definition in, with the file it came from. -/
def accept (c : Compilation) (file : Option String) (d : Definition) : Compilation :=
  { c with definitions := c.definitions.insert d, files := c.files ++ file.toList }

/-- Take the outcome of one source in. -/
def add (c : Compilation) (origin : String) (file : Option String) :
    Except CompileError Definition → Compilation
  | .ok d => c.accept file d
  | .error cause => c.skip origin cause

/-- Compile a unit. -/
def addUnit (c : Compilation) (u : SourceUnit) : Compilation :=
  c.add u.origin u.path u.definition

/-- The files of a folder that may hold units, in the order of a walk. -/
def candidates (files : List SourceFile) : List SourceFile :=
  (files.filter fun f => (SourceFormat.ofPath? f.path).isSome).mergeSort fun a b =>
    Path.comesBefore a.path b.path

/-- Compile the files of a folder. All of them are read before the first is compiled. -/
def addFolder (c : Compilation) (files : List SourceFile) : Compilation :=
  let files := candidates files
  let c := files.foldl (fun c file => match SourceUnit.ofFile file with
    | .ok _ => c
    | .error cause => c.skip file.path cause) c
  (files.filterMap fun file => (SourceUnit.ofFile file).toOption).foldl addUnit c

/-- Compile one source. -/
def addSource (c : Compilation) : Source → Compilation
  | .unit u => c.addUnit u
  | .declared d => c.add d.origin none d.compile
  | .folder files => c.addFolder files

/-- **The transitions that ask for a queue**, by workflow, for workflows that have any. -/
def asyncTransitions (c : Compilation) : SortedMap (List TransitionName) :=
  .ofList <| (c.definitions.definitions.filter (!·.asyncTransitions.isEmpty)).map fun d =>
    (d.name, (SortedMap.ofList (d.asyncTransitions.map fun t => (t, ()))).keys)

/-- True of transitions in the compiled set that ask for a queue. -/
def isAsync (c : Compilation) (workflow : WorkflowName) (transition : TransitionName) : Bool :=
  ((c.asyncTransitions.get? workflow).getD []).contains transition

end Compilation

/-- **A compile run** over sources in order. -/
def compileSources (sources : List Source) : Compilation := sources.foldl .addSource {}

end WorkflowEngine
