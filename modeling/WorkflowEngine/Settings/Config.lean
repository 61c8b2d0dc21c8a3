import WorkflowEngine.Bus.Filter
import WorkflowEngine.Dispatch.Chain
import WorkflowEngine.Document.Record
import WorkflowEngine.Routing.Plan
import WorkflowEngine.Yaml.Reader

/-!
# Settings

The settings of an engine come in layers: defaults, then the environment, then a settings file. Each
setting is taken from the last layer that sets it, whatever the other settings are.

* `Config`: the settings and their defaults;
* `Config.withEnvironment`, `SettingsFile`, `Config.withFile`: the layers;
* `ConfigError`, `Config.validate`: settings that cannot work;
* `Config.load`, `Config.gather`: all layers, strictly or leniently;
* `Config.searchPaths`: where a settings file is looked for.
-/

namespace WorkflowEngine

/-- **The settings of an engine.** -/
structure Config where
  queuePrefix : String := ""
  dsn : String := defaultDsn
  workflowPaths : List String := ["workflows"]
  dynamicRouting : Bool := true
  sync : Bool := false
  forcedTransport : Option String := none
  maxChainDepth : Nat := defaultChainDepth
  filterVariable : String := ContextFilter.defaultVariable
  deriving DecidableEq, Repr

/-! ## Errors -/

/-- **Why there are no settings.** -/
inductive ConfigError where
  | unreadable
  | malformed
  | invalid (field value hint : String)
  deriving DecidableEq, Repr

/-- The message of a settings error. -/
def ConfigError.message : ConfigError → String
  | .unreadable => "Failed to read configuration file"
  | .malformed => "Invalid YAML syntax"
  | .invalid field value hint =>
    "Invalid configuration value for '" ++ field ++ "': " ++ value ++ "\n" ++ hint

namespace Config

/-- **Settings that cannot work are refused**: a chain without hops, no data source, no variable for
the filter. -/
def validate (c : Config) : Except ConfigError Unit :=
  if c.maxChainDepth = 0 then
    .error (.invalid "max_chain_depth" "0" "max_chain_depth must allow at least one synchronous hop")
  else if Text.isBlankText c.dsn then
    .error (.invalid "async_transport_dsn" c.dsn ("use a DSN such as '" ++ defaultDsn ++ "'"))
  else if Text.isBlankText c.filterVariable then
    .error (.invalid "context_filter_env" c.filterVariable
      ("name an environment variable, e.g. '" ++ ContextFilter.defaultVariable ++ "'"))
  else .ok ()

/-! ## The environment -/

/-- The variable of a setting. -/
def variableOf (name : String) : String := Environment.underPrefix "STATEBUS" name

/-- The older variable of the queue prefix. -/
def legacyPrefixVariable : String := "STATEQUEUE_PREFIX"

/-- **The settings with those that the environment sets.** -/
def withEnvironment (c : Config) (env : Environment) : Config where
  queuePrefix := env.text (variableOf "QUEUE_PREFIX")
    ((env.parsed? legacyPrefixVariable some).getD c.queuePrefix)
  dsn := env.text (variableOf "ASYNC_TRANSPORT_DSN") c.dsn
  workflowPaths := (env.list? (variableOf "WORKFLOW_PATHS")).getD c.workflowPaths
  dynamicRouting :=
    (env.parsed? (variableOf "ENABLE_DYNAMIC_ROUTING") Environment.flagValue?).getD c.dynamicRouting
  sync := (env.parsed? (variableOf "SYNC") Environment.flagValue?).getD c.sync
  forcedTransport :=
    match env.parsed? (variableOf "FORCED_TRANSPORT") some with
    | some transport => Text.nonBlank? transport
    | none => c.forcedTransport
  maxChainDepth :=
    (env.parsed? (variableOf "MAX_CHAIN_DEPTH") Environment.naturalValue?).getD c.maxChainDepth
  filterVariable := env.text (variableOf "CONTEXT_FILTER_ENV") c.filterVariable

end Config

/-! ## The settings file -/

/-- **What a settings file sets.** -/
structure SettingsFile where
  queuePrefix : Option String := none
  dsn : Option String := none
  workflowPaths : Option (List String) := none
  dynamicRouting : Option Bool := none
  sync : Option Bool := none
  forcedTransport : Option String := none
  maxChainDepth : Option Nat := none
  filterVariable : Option String := none
  deriving DecidableEq, Repr

namespace SettingsFile

/-- The keys of a settings file. -/
def knownKeys : List String :=
  ["queue_prefix", "async_transport_dsn", "workflow_paths", "enable_dynamic_routing", "sync",
    "forced_transport", "max_chain_depth", "context_filter_env"]

/-- A number from nought, written without a minus sign. -/
def natural? : Document → Option Nat
  | .scalar written (some (.number (.integer n))) =>
    if written.any (·.toList.head? = some '-') then none else some n.toNat
  | .tagged body => natural? body
  | _ => none

/-- A settings file from its document; it has no other keys than the known ones. -/
def ofDocument? (d : Document) : Option SettingsFile := do
  let r ← Record.ofMapping? knownKeys d
  if !r.others.isEmpty then none
  return {
    queuePrefix := ← r.optional? "queue_prefix" Document.text?
    dsn := ← r.optional? "async_transport_dsn" Document.text?
    workflowPaths := ← r.optional? "workflow_paths" Document.texts?
    dynamicRouting := ← r.optional? "enable_dynamic_routing" Document.bool?
    sync := ← r.optional? "sync" Document.bool?
    forcedTransport := ← r.optional? "forced_transport" Document.text?
    maxChainDepth := ← r.optional? "max_chain_depth" natural?
    filterVariable := ← r.optional? "context_filter_env" Document.text? }

/-- **A settings file from its octets.** A blank file sets nothing. -/
def read (content : ByteArray) : Except ConfigError SettingsFile :=
  match String.fromUTF8? content with
  | none => .error .unreadable
  | some text =>
    if Text.isBlankText text then .ok {}
    else match (Yaml.document? text).bind ofDocument? with
      | some file => .ok file
      | none => .error .malformed

end SettingsFile

namespace Config

/-- **The settings with those that a file sets.** -/
def withFile (c : Config) (f : SettingsFile) : Config where
  queuePrefix := f.queuePrefix.getD c.queuePrefix
  dsn := f.dsn.getD c.dsn
  workflowPaths := f.workflowPaths.getD c.workflowPaths
  dynamicRouting := f.dynamicRouting.getD c.dynamicRouting
  sync := f.sync.getD c.sync
  forcedTransport :=
    match f.forcedTransport with
    | some transport => Text.nonBlank? transport
    | none => c.forcedTransport
  maxChainDepth := f.maxChainDepth.getD c.maxChainDepth
  filterVariable := f.filterVariable.getD c.filterVariable

/-! ## All layers -/

/-- **The settings of an environment and a file**, which has to be readable; the settings have to
work. -/
def load (env : Environment) (file : Option ByteArray) : Except ConfigError Config := do
  let content ← file.elim (.error .unreadable) .ok
  let c := (({} : Config).withEnvironment env).withFile (← SettingsFile.read content)
  c.validate
  return c

/-- **The settings of an environment and perhaps a file**; a file that cannot be read sets nothing. -/
def gather (env : Environment) (file : Option ByteArray) : Config :=
  let c := ({} : Config).withEnvironment env
  match file.map SettingsFile.read with
  | some (.ok f) => c.withFile f
  | _ => c

/-- The name of a settings file. -/
def fileName : String := "statebus.yaml"

/-- **Where a settings file is looked for**: here, then below the home directory. -/
def searchPaths (home : String) : List String :=
  [fileName, home ++ "/.config/statebus/" ++ fileName, home ++ "/" ++ fileName]

/-- The first settings file that exists. -/
def findFile? (home : String) (files : String → Option ByteArray) : Option (String × ByteArray) :=
  (searchPaths home).findSome? fun path => (files path).map fun content => (path, content)

/-! ## What settings are used for -/

/-- What addresses are made with. -/
def routerConfig (c : Config) : RouterConfig := ⟨c.queuePrefix, c.dsn⟩

/-- The filter of consumers. -/
def filter (c : Config) (env : Environment) : ContextFilter :=
  .ofEnvironment env c.filterVariable

end Config

end WorkflowEngine
