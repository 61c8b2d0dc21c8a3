import WorkflowEngine.Guard.Evaluation

/-!
# The cache of compiled guards

What the texts of guards compile to is kept under the text, the most recently used first, up to a
capacity. When the cache is full the least recently used one gives way.

* `Cache`, `Cache.new`: the programs kept, and counts of what happened;
* `Cache.fetch`: a program from the cache, compiled when it is not there;
* `Cache.clear`: no program kept, the other counts left;
* `Cache.evaluate`: the answer of a guard by way of the cache.
-/

namespace WorkflowEngine.Guard

/-- **A cache of compiled guards**, the most recently used first, with counts of what happened and of
the programs kept. -/
structure Cache (P : Type) where
  capacity : Nat
  entries : List (String × P) := []
  hits : Nat := 0
  misses : Nat := 0
  evictions : Nat := 0
  size : Nat := 0

namespace Cache

variable {P : Type}

/-- The capacity when none is asked for. -/
def defaultCapacity : Nat := 500

/-- An empty cache; no capacity means the usual one. -/
def new (capacity : Nat) : Cache P :=
  { capacity := if capacity = 0 then defaultCapacity else capacity }

/-- The program kept under a text. -/
def find? (c : Cache P) (text : String) : Option P :=
  (c.entries.find? (·.1 = text)).map (·.2)

/-- The cache after a hit: the program counts as the most recently used. -/
def promote (c : Cache P) (text : String) (program : P) : Cache P :=
  { c with entries := (text, program) :: c.entries.filter (·.1 ≠ text), hits := c.hits + 1 }

/-- The cache after a miss: the program is kept, and the last one gives way when it was full. -/
def keep (c : Cache P) (text : String) (program : P) : Cache P :=
  let entries := (text, program) :: c.entries.take (c.capacity - 1)
  { c with
    entries
    misses := c.misses + 1
    evictions := if c.entries.length = c.capacity then c.evictions + 1 else c.evictions
    size := entries.length }

/-- **A program by way of the cache.** A text that does not compile changes nothing. -/
def fetch (l : Language P) (c : Cache P) (text : String) : Except GuardError P × Cache P :=
  match c.find? text with
  | some program => (.ok program, c.promote text program)
  | none =>
    match l.compile text with
    | .ok program => (.ok program, c.keep text program)
    | .error cause => (.error cause, c)

/-- The cache without programs; what was counted before stays. -/
def clear (c : Cache P) : Cache P := { c with entries := [], size := 0 }

/-- The share of hits among the programs found. -/
def hitRate (c : Cache P) : Binary64 :=
  if c.hits + c.misses = 0 then .ofInt 0 else .ofRatio false c.hits (c.hits + c.misses)

/-- **The answer of a guard by way of the cache.** -/
def evaluate (l : Language P) (c : Cache P) (text : String) (attributes : Json) (marking : Marking) :
    Except GuardError Bool × Cache P :=
  let text := Text.trim text
  if text = "" then (.ok true, c)
  else
    let (compiled, c) := c.fetch l text
    (compiled.bind fun program => l.answer program attributes marking, c)

end Cache

end WorkflowEngine.Guard
