import WorkflowEngine.Dispatch.Handler
import WorkflowEngine.Settings.Config
import WorkflowEngine.Source.Compilation

/-!
# The engine

Everything put together: the sources are compiled, definitions from elsewhere take the place of
compiled ones, queues are planned, and dispatchers and workers can be had.

* `BootError`: why an engine does not start;
* `Engine`, `Engine.boot`;
* `Engine.dispatcher`, `Engine.stages`: what an engine hands out.
-/

namespace WorkflowEngine

/-- **Why an engine does not start.** -/
inductive BootError where
  | config (cause : ConfigError)
  | plan (cause : PlanError)
  deriving DecidableEq

/-- **An engine**: its settings, what was compiled, the queues, the definitions in force, and where
transitions are queued. -/
structure Engine where
  config : Config
  compiled : Compilation
  plan : RoutePlan
  registry : Registry
  locator : Locator

namespace Engine

/-- The plan of an engine: no queues without dynamic routing. -/
def planFor (config : Config) (compiled : Compilation) (external : List Definition) :
    Except PlanError RoutePlan :=
  if config.dynamicRouting then
    planQueues config.routerConfig compiled.definitions.definitions external
  else .ok {}

/-- **Start an engine.** The folders of the settings are compiled behind the given sources, and
definitions from elsewhere that are not valid are left out. -/
def boot (config : Config) (sources : List Source) (external : List Definition)
    (folder : String → List SourceFile) : Except BootError Engine := do
  config.validate.mapError .config
  let compiled := compileSources (sources ++ config.workflowPaths.map (.folder ∘ folder))
  let external := external.filter (·.isValid)
  let plan ← (planFor config compiled external).mapError .plan
  let locator : Locator := { routes := plan.routes, sync := config.sync }
  return {
    config, compiled, plan
    registry := external.foldl .insert compiled.definitions
    locator := config.forcedTransport.elim locator locator.forcing }

/-- The dispatcher of an engine. -/
def dispatcher (e : Engine) : Dispatcher :=
  { registry := e.registry, locator := e.locator, maxChainDepth := e.config.maxChainDepth }

/-- The stages of the bus of an engine. -/
def stages (e : Engine) : List Stage := [routingStage e.locator]

end Engine

end WorkflowEngine
