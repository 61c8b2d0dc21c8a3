import WorkflowEngine.Proofs.Collection.Outcome
import WorkflowEngine.Settings.Config

/-!
# Layers of settings

Every setting is looked for on its own: in the settings file, then in its variables, and else it has its
default. Where it is looked for first, there it is set, even if that leaves it without a value. The
settings that come of it are returned unless one of them cannot work.

* `Setting`, `Setting.Value`: the settings one by one;
* `Setting.sources`: the variables of a setting, and how they are read;
* `Setting.readEntry?`: how its entry in a settings file is read;
* `Config.value`, `SettingsFile.value?`, `Environment.value?`: a setting in each of the layers;
* `Config.value_withEnvironment`, `Config.value_withFile`, `Config.ext_value`: what the layers do;
* `Config.offends`, `Config.firstOffender?`, `Config.validate_eq`: the settings that cannot work, in the
  order in which they are looked at;
* `SettingsFile.Holds`, `SettingsFile.value?_of_read`: the entries of a settings file;
* `Config.ofLayers`, `Config.Layered`: the settings of the layers, one apart from the other;
* **`Config.load_layers`**: what is loaded from an environment and a file.
-/

namespace WorkflowEngine

/-- **The settings**, one by one. -/
inductive Setting where
  | queuePrefix
  | dsn
  | workflowPaths
  | dynamicRouting
  | sync
  | forcedTransport
  | maxChainDepth
  | filterVariable
  deriving DecidableEq

namespace Setting

/-- What a setting is set to. -/
abbrev Value : Setting → Type
  | .queuePrefix | .dsn | .filterVariable => String
  | .workflowPaths => List String
  | .dynamicRouting | .sync => Bool
  | .forcedTransport => Option String
  | .maxChainDepth => Nat

/-- The key of a setting in a settings file. -/
def key : Setting → String
  | .queuePrefix => "queue_prefix"
  | .dsn => "async_transport_dsn"
  | .workflowPaths => "workflow_paths"
  | .dynamicRouting => "enable_dynamic_routing"
  | .sync => "sync"
  | .forcedTransport => "forced_transport"
  | .maxChainDepth => "max_chain_depth"
  | .filterVariable => "context_filter_env"

/-- **The variables of a setting**, the one that counts first in front, with how each is read: texts as
they stand, a list by its entries, all else without the blanks around it. A blank transport is read too,
and means none. -/
def sources : (s : Setting) → List (String × (String → Option s.Value))
  | .queuePrefix =>
    [("STATEBUS_QUEUE_PREFIX", some), ("STATEQUEUE_PREFIX", fun text => some (Text.trim text))]
  | .dsn => [("STATEBUS_ASYNC_TRANSPORT_DSN", some)]
  | .workflowPaths => [("STATEBUS_WORKFLOW_PATHS", fun text => some (Text.listEntries text))]
  | .dynamicRouting =>
    [("STATEBUS_ENABLE_DYNAMIC_ROUTING", fun text => Environment.flagValue? (Text.trim text))]
  | .sync => [("STATEBUS_SYNC", fun text => Environment.flagValue? (Text.trim text))]
  | .forcedTransport =>
    [("STATEBUS_FORCED_TRANSPORT", fun text => some (Text.nonBlank? (Text.trim text)))]
  | .maxChainDepth =>
    [("STATEBUS_MAX_CHAIN_DEPTH", fun text => Environment.naturalValue? (Text.trim text))]
  | .filterVariable => [("STATEBUS_CONTEXT_FILTER_ENV", some)]

/-- **How the entry of a setting** in a settings file is read. -/
def readEntry? : (s : Setting) → Document → Option s.Value
  | .queuePrefix | .dsn | .filterVariable => Document.text?
  | .workflowPaths => Document.texts?
  | .dynamicRouting | .sync => Document.bool?
  | .forcedTransport => fun d => d.text?.map Text.nonBlank?
  | .maxChainDepth => SettingsFile.natural?

/-- The names of the variables of a setting. -/
def variableNames (s : Setting) : List String := s.sources.map (·.1)

theorem variableNames_apart {s t : Setting} {name : String} (hs : name ∈ s.variableNames)
    (ht : name ∈ t.variableNames) : s = t := by
  cases s <;> cases t <;> first | rfl | (simp [variableNames, sources] at hs ht; grind)

theorem key_injective {s t : Setting} (h : s.key = t.key) : s = t := by
  cases s <;> cases t <;> first | rfl | exact absurd h (by decide)

end Setting

/-! ## A setting in the layers -/

/-- A setting as it stands. -/
def Config.value (c : Config) : (s : Setting) → s.Value
  | .queuePrefix => c.queuePrefix
  | .dsn => c.dsn
  | .workflowPaths => c.workflowPaths
  | .dynamicRouting => c.dynamicRouting
  | .sync => c.sync
  | .forcedTransport => c.forcedTransport
  | .maxChainDepth => c.maxChainDepth
  | .filterVariable => c.filterVariable

/-- **What a settings file sets a setting to**, if it does. A blank transport means none. -/
def SettingsFile.value? (f : SettingsFile) : (s : Setting) → Option s.Value
  | .queuePrefix => f.queuePrefix
  | .dsn => f.dsn
  | .workflowPaths => f.workflowPaths
  | .dynamicRouting => f.dynamicRouting
  | .sync => f.sync
  | .forcedTransport => f.forcedTransport.map Text.nonBlank?
  | .maxChainDepth => f.maxChainDepth
  | .filterVariable => f.filterVariable

/-- **What an environment sets a setting to**, if it does: what the first of its variables that is set
and can be read is read as. -/
def Environment.value? (env : Environment) (s : Setting) : Option s.Value :=
  s.sources.findSome? fun (name, read) => (env.get? name).bind read

namespace Environment

variable {env : Environment} {s : Setting} {name : String} {read : String → Option s.Value}

theorem value?_of_sources (h : s.sources = [(name, read)]) :
    env.value? s = (env.get? name).bind read := by
  simp only [value?, h, List.findSome?_cons, List.findSome?_nil]
  cases (env.get? name).bind read <;> rfl

theorem value?_queuePrefix :
    env.value? .queuePrefix =
      (env.get? "STATEBUS_QUEUE_PREFIX").or ((env.get? "STATEQUEUE_PREFIX").map Text.trim) := by
  simp only [value?, Setting.sources, List.findSome?_cons, List.findSome?_nil]
  cases env.get? "STATEBUS_QUEUE_PREFIX" <;> cases env.get? "STATEQUEUE_PREFIX" <;> rfl

theorem value?_congr {env' : Environment}
    (h : ∀ name ∈ s.variableNames, env'.get? name = env.get? name) :
    env'.value? s = env.value? s := by
  have same : ∀ source ∈ s.sources,
      (env'.get? source.1).bind source.2 = (env.get? source.1).bind source.2 := fun source hs => by
    rw [h source.1 (List.mem_map_of_mem hs)]
  simp only [value?]
  generalize s.sources = sources at same
  induction sources with
  | nil => rfl
  | cons source sources ih =>
    rw [List.findSome?_cons, List.findSome?_cons, same source List.mem_cons_self,
      ih fun other ho => same other (List.mem_cons_of_mem _ ho)]

end Environment

namespace Config

variable {c c' : Config} {env : Environment} {f : SettingsFile}

theorem ext_value (h : ∀ s, c.value s = c'.value s) : c = c' := by
  have queuePrefix := h .queuePrefix
  have dsn := h .dsn
  have workflowPaths := h .workflowPaths
  have dynamicRouting := h .dynamicRouting
  have sync := h .sync
  have forcedTransport := h .forcedTransport
  have maxChainDepth := h .maxChainDepth
  have filterVariable := h .filterVariable
  cases c
  cases c'
  simp only [value] at *
  subst_vars
  rfl

/-- **The environment** sets the settings that it has a variable for. -/
theorem value_withEnvironment (c : Config) (env : Environment) (s : Setting) :
    (c.withEnvironment env).value s = (env.value? s).getD (c.value s) := by
  cases s with
  | queuePrefix =>
    rw [Environment.value?_queuePrefix]
    simp only [value, withEnvironment, Environment.text, Environment.parsed?, legacyPrefixVariable]
    rw [show variableOf "QUEUE_PREFIX" = "STATEBUS_QUEUE_PREFIX" by decide]
    cases env.get? "STATEBUS_QUEUE_PREFIX" <;> cases env.get? "STATEQUEUE_PREFIX" <;> rfl
  | dsn =>
    rw [Environment.value?_of_sources rfl, Option.bind_fun_some]
    simp only [value, withEnvironment, Environment.text]
    rw [show variableOf "ASYNC_TRANSPORT_DSN" = "STATEBUS_ASYNC_TRANSPORT_DSN" by decide]
  | workflowPaths =>
    rw [Environment.value?_of_sources rfl]
    simp only [value, withEnvironment, Environment.list?]
    rw [show variableOf "WORKFLOW_PATHS" = "STATEBUS_WORKFLOW_PATHS" by decide]
    cases env.get? "STATEBUS_WORKFLOW_PATHS" <;> rfl
  | dynamicRouting =>
    rw [Environment.value?_of_sources rfl]
    simp only [value, withEnvironment, Environment.parsed?]
    rw [show variableOf "ENABLE_DYNAMIC_ROUTING" = "STATEBUS_ENABLE_DYNAMIC_ROUTING" by decide]
  | sync =>
    rw [Environment.value?_of_sources rfl]
    simp only [value, withEnvironment, Environment.parsed?]
    rw [show variableOf "SYNC" = "STATEBUS_SYNC" by decide]
  | forcedTransport =>
    rw [Environment.value?_of_sources rfl]
    simp only [value, withEnvironment, Environment.parsed?]
    rw [show variableOf "FORCED_TRANSPORT" = "STATEBUS_FORCED_TRANSPORT" by decide]
    cases env.get? "STATEBUS_FORCED_TRANSPORT" with
    | none => rfl
    | some text => rw [Option.bind_some, Option.bind_some, Option.getD_some]
  | maxChainDepth =>
    rw [Environment.value?_of_sources rfl]
    simp only [value, withEnvironment, Environment.parsed?]
    rw [show variableOf "MAX_CHAIN_DEPTH" = "STATEBUS_MAX_CHAIN_DEPTH" by decide]
  | filterVariable =>
    rw [Environment.value?_of_sources rfl, Option.bind_fun_some]
    simp only [value, withEnvironment, Environment.text]
    rw [show variableOf "CONTEXT_FILTER_ENV" = "STATEBUS_CONTEXT_FILTER_ENV" by decide]

theorem value_withFile (c : Config) (f : SettingsFile) (s : Setting) :
    (c.withFile f).value s = (f.value? s).getD (c.value s) := by
  cases s with
  | forcedTransport =>
    simp only [value, withFile, SettingsFile.value?]
    cases f.forcedTransport <;> rfl
  | _ => rfl

theorem value_layers (c : Config) (env : Environment) (f : SettingsFile) (s : Setting) :
    ((c.withEnvironment env).withFile f).value s =
      ((f.value? s).or (env.value? s)).getD (c.value s) := by
  rw [value_withFile, value_withEnvironment]
  cases f.value? s <;> rfl

theorem withEnvironment_twice (c : Config) (env : Environment) :
    (c.withEnvironment env).withEnvironment env = c.withEnvironment env := by
  refine ext_value fun s => ?_
  rw [value_withEnvironment, value_withEnvironment]
  cases env.value? s <;> rfl

/-! ## Settings that cannot work -/

/-- A setting cannot work: no hop is allowed, or a name that has to be there is blank. -/
def offends (c : Config) : Setting → Bool
  | .maxChainDepth => c.maxChainDepth = 0
  | .dsn => Text.isBlankText c.dsn
  | .filterVariable => Text.isBlankText c.filterVariable
  | _ => false

/-- How a setting that cannot work is shown. -/
def shown (c : Config) : Setting → String
  | .dsn => c.dsn
  | .filterVariable => c.filterVariable
  | _ => toString c.maxChainDepth

/-- What to do about a setting that cannot work. -/
def hint : Setting → String
  | .dsn => "use a DSN such as 'doctrine://default'"
  | .filterVariable => "name an environment variable, e.g. 'CONTEXT_STAMP'"
  | _ => "max_chain_depth must allow at least one synchronous hop"

/-- **The first setting that cannot work**, in the order in which they are looked at. -/
def firstOffender? (c : Config) : Option Setting :=
  [.maxChainDepth, .dsn, .filterVariable].find? c.offends

theorem validate_eq (c : Config) :
    c.validate = match c.firstOffender? with
      | none => .ok ()
      | some s => .error (.invalid s.key (c.shown s) (hint s)) := by
  by_cases depth : c.maxChainDepth = 0
  · have first : c.firstOffender? = some .maxChainDepth := by simp [firstOffender?, offends, depth]
    have nought : c.shown .maxChainDepth = "0" := by
      change toString c.maxChainDepth = "0"
      rw [depth]
      decide
    rw [first, validate, if_pos depth]
    change _ = Except.error (ConfigError.invalid _ (c.shown .maxChainDepth) _)
    rw [nought]
    rfl
  by_cases dsn : Text.isBlankText c.dsn
  · have first : c.firstOffender? = some .dsn := by simp [firstOffender?, offends, depth, dsn]
    have advice : hint .dsn = "use a DSN such as '" ++ defaultDsn ++ "'" := by decide
    rw [first, validate, if_neg depth, if_pos dsn, ← advice]
    rfl
  by_cases filter : Text.isBlankText c.filterVariable
  · have first : c.firstOffender? = some .filterVariable := by
      simp [firstOffender?, offends, depth, dsn, filter]
    have advice : hint .filterVariable =
        "name an environment variable, e.g. '" ++ ContextFilter.defaultVariable ++ "'" := by decide
    rw [first, validate, if_neg depth, if_neg dsn, if_pos filter, ← advice]
    rfl
  · have first : c.firstOffender? = none := by
      simp [firstOffender?, offends, depth, dsn, filter]
    rw [first, validate, if_neg depth, if_neg dsn, if_neg filter]

end Config

/-! ## The settings file -/

theorem Record.optional?_map {α β : Type} {r : Record} {name : String} {read : Document → Option α}
    {found : Option α} (h : r.optional? name read = some found) (g : α → β) :
    r.optional? name (fun d => (read d).map g) = some (found.map g) := by
  cases field : r.field? name with
  | none =>
    simp only [optional?, field, Option.some.injEq] at h ⊢
    rw [← h, Option.map_none]
  | some d =>
    simp only [optional?, field] at h ⊢
    split at h
    · next null => rw [if_pos null, ← Option.some.inj h, Option.map_none]
    · next null =>
      obtain ⟨a, ha, rfl⟩ := Option.map_eq_some_iff.1 h
      rw [if_neg null, ha, Option.map_some, Option.map_some]

namespace SettingsFile

/-- **A settings file read from a document** has what stands under the keys of the settings, and there
are no other keys. -/
theorem value?_of_document {d : Document} {f : SettingsFile} (h : ofDocument? d = some f) :
    ∃ r, Record.ofMapping? knownKeys d = some r ∧ r.others = [] ∧
      ∀ s, r.optional? s.key s.readEntry? = some (f.value? s) := by
  simp only [ofDocument?, Option.bind_eq_bind, Option.bind_eq_some_iff] at h
  obtain ⟨r, hr, h⟩ := h
  split at h
  · cases h
  next others =>
  simp only [Option.bind_eq_some_iff] at h
  obtain ⟨queuePrefix, hqueuePrefix, dsn, hdsn, paths, hpaths, routing, hrouting, sync, hsync,
    transport, htransport, depth, hdepth, filter, hfilter, h⟩ := h
  cases h
  refine ⟨r, hr, by simpa using others, fun s => ?_⟩
  cases s with
  | queuePrefix => exact hqueuePrefix
  | dsn => exact hdsn
  | workflowPaths => exact hpaths
  | dynamicRouting => exact hrouting
  | sync => exact hsync
  | forcedTransport => exact Record.optional?_map htransport Text.nonBlank?
  | maxChainDepth => exact hdepth
  | filterVariable => exact hfilter

/-- **The entries of a settings file**: those of the mapping that its text stands for, or none if the
text is blank. -/
def Holds (content : ByteArray) (r : Record) : Prop :=
  ∃ text, String.fromUTF8? content = some text ∧
    if Text.isBlankText text then r = ⟨[], []⟩
    else ∃ d, Yaml.document? text = some d ∧ Record.ofMapping? knownKeys d = some r

theorem value?_of_read {content : ByteArray} {f : SettingsFile} (h : read content = .ok f) :
    ∃ r, Holds content r ∧ r.others = [] ∧
      ∀ s, r.optional? s.key s.readEntry? = some (f.value? s) := by
  unfold read at h
  split at h
  · cases h
  next text decoded =>
  split at h
  · next blank =>
    cases h
    exact ⟨⟨[], []⟩, ⟨text, decoded, by rw [if_pos blank]⟩, rfl, fun s => by cases s <;> rfl⟩
  · next blank =>
    split at h
    · next read =>
      cases h
      obtain ⟨d, hd, hf⟩ := Option.bind_eq_some_iff.1 read
      obtain ⟨r, hr, others, values⟩ := value?_of_document hf
      exact ⟨r, ⟨text, decoded, by rw [if_neg blank]; exact ⟨d, hd, hr⟩⟩, others, values⟩
    · cases h

end SettingsFile

/-! ## All layers -/

namespace Config

/-- The settings of an environment and a file, whether or not they can work. -/
def ofLayers (env : Environment) (file : SettingsFile) : Config :=
  (({} : Config).withEnvironment env).withFile file

theorem load_of_read {env : Environment} {content : ByteArray} {file : SettingsFile}
    (parses : SettingsFile.read content = .ok file) :
    load env (some content) = (ofLayers env file).validate.map fun _ => ofLayers env file := by
  simp only [load, Option.elim_some, parses, bind, Except.bind, pure, Except.pure, ofLayers]
  cases ((({} : Config).withEnvironment env).withFile file).validate <;> rfl

/-- **Settings in layers**, one setting apart from the other. -/
structure Layered (content : ByteArray) (env : Environment) (file : SettingsFile) (c : Config) :
    Prop where
  /-- The file sets what stands under the keys of the settings, and has no other keys. -/
  entries : ∃ r, SettingsFile.Holds content r ∧ r.others = [] ∧
    ∀ s, r.optional? s.key s.readEntry? = some (file.value? s)
  /-- A setting comes from the file, or else from the environment, or else is the default. -/
  values : ∀ s, c.value s = ((file.value? s).or (env.value? s)).getD (({} : Config).value s)
  /-- No setting depends on the sources of another. -/
  apart : ∀ s (env' : Environment) (file' : SettingsFile),
    (∀ name ∈ s.variableNames, env'.get? name = env.get? name) → file'.value? s = file.value? s →
      (ofLayers env' file').value s = c.value s
  /-- The environment may be looked at twice. -/
  twice : ((({} : Config).withEnvironment env).withEnvironment env).withFile file = c

/-- **The layers of settings.** No two settings share a variable or a key. From an environment and a file
that can be read, each setting has the value of the first layer that sets it, independently of the
others, and looking at the environment twice changes nothing. These settings are what is loaded, just if
they are valid; else the error is that of the first setting that cannot work. -/
theorem load_layers {env : Environment} {content : ByteArray} {file : SettingsFile}
    (parses : SettingsFile.read content = .ok file) :
    (∀ s t : Setting,
        (∃ name, name ∈ s.variableNames ∧ name ∈ t.variableNames) ∨ s.key = t.key → s = t) ∧
      Layered content env file (ofLayers env file) ∧
      (load env (some content) = .ok (ofLayers env file) ↔ (ofLayers env file).validate = .ok ()) ∧
      load env (some content) = match (ofLayers env file).firstOffender? with
        | none => .ok (ofLayers env file)
        | some s => .error (.invalid s.key ((ofLayers env file).shown s) (hint s)) := by
  refine ⟨?_, ⟨SettingsFile.value?_of_read parses, value_layers {} env file, ?_, ?_⟩, ?_, ?_⟩
  · rintro s t (⟨name, hs, ht⟩ | same)
    · exact Setting.variableNames_apart hs ht
    · exact Setting.key_injective same
  · intro s env' file' named entry
    rw [ofLayers, ofLayers, value_layers, value_layers, entry, Environment.value?_congr named]
  · rw [withEnvironment_twice, ofLayers]
  · rw [load_of_read parses]
    cases (ofLayers env file).validate with
    | ok => exact ⟨fun _ => rfl, fun _ => rfl⟩
    | error e => exact ⟨nofun, nofun⟩
  · rw [load_of_read parses, validate_eq]
    cases (ofLayers env file).firstOffender? <;> rfl

/-- A settings file that takes the transport of the environment away, next to an older variable and a
depth that cannot be read. -/
theorem load_layers_blankTransport :
    SettingsFile.read "forced_transport: ' '\n".toUTF8 = .ok { forcedTransport := some " " } ∧
      load (.ofList [("STATEBUS_FORCED_TRANSPORT", "async"), ("STATEBUS_MAX_CHAIN_DEPTH", "few"),
          ("STATEQUEUE_PREFIX", " shop ")]) (some "forced_transport: ' '\n".toUTF8) =
        .ok { queuePrefix := "shop" } := by
  have parses : SettingsFile.read "forced_transport: ' '\n".toUTF8 =
      .ok { forcedTransport := some " " } :=
    toOption_eq_some_iff.1 (by decide +kernel)
  refine ⟨parses, ?_⟩
  exact (load_layers parses).2.2.1.2 (toOption_eq_some_iff.1 (by decide +kernel))

end Config

end WorkflowEngine
