import WorkflowEngine.Routing.Slug
import WorkflowEngine.Text.Blank

/-!
# Queue addresses

The address of a queue is a prefix, a workflow slug, a dot and a transition slug. Queues of one
shared relational store take no prefix and share one table; elsewhere every queue has its own table,
named after its address.

* `normalizePrefix`, `effectivePrefix`: the prefix of a configuration;
* `dsnScheme?`, `isSharedStore`: what a data source name says about the store;
* `queueAddress`, `tableName`: the names made of the parts.
-/

namespace WorkflowEngine.Routing

/-- The schemes of shared relational stores. -/
def sharedStoreSchemes : List String := ["doctrine", "postgres", "postgresql", "mysql", "sqlite"]

/-- The table that holds every queue of a shared store. -/
def sharedStoreTable : String := "messenger_messages"

/-- A text without the dots at its end. -/
def dropLastDots (cs : List Char) : List Char := (cs.reverse.dropWhile (· = '.')).reverse

/-- **The normal form of a queue prefix**: empty, or ending with one dot. -/
def normalizePrefix (queuePrefix : String) : String :=
  let cs := dropLastDots (Text.trimChars queuePrefix.toList)
  if cs.isEmpty then "" else String.ofList (cs ++ ['.'])

/-- The text before the first `://`. -/
def beforeScheme? : List Char → Option (List Char)
  | [] => none
  | c :: cs =>
    if "://".toList.isPrefixOf (c :: cs) then some []
    else (beforeScheme? cs).map (c :: ·)

/-- **The scheme of a data source name**, in small letters. -/
def dsnScheme? (dsn : String) : Option String := do
  let scheme := Text.lowerAscii (String.ofList (Text.trimChars (← beforeScheme? dsn.toList)))
  if scheme = "" then none else some scheme

/-- True when the data source is a shared relational store. -/
def isSharedStore (dsn : String) : Bool :=
  match dsnScheme? dsn with
  | some scheme => sharedStoreSchemes.contains scheme
  | none => false

/-- **The prefix that addresses get**: none in a shared store. -/
def effectivePrefix (queuePrefix dsn : String) : String :=
  if isSharedStore dsn then "" else normalizePrefix queuePrefix

/-- The address made of a prefix and two slugs. -/
def queueAddress (queuePrefix workflowSlug transitionSlug : String) : String :=
  queuePrefix ++ workflowSlug ++ "." ++ transitionSlug

/-- **The table of a queue outside a shared store.** -/
def tableName (address : String) : String :=
  "messenger_" ++ Text.lowerAscii
    (String.ofList (address.toList.map fun c => if c.isAlphanum then c else '_'))

end WorkflowEngine.Routing
