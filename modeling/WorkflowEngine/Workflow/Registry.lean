import WorkflowEngine.Workflow.Definition

/-!
# Registries

The definitions that are in force, one for every name, in the order in which the names came. A later
definition of a name takes the place of the earlier one. An index has for every name the place where
its definition stands.

* `putDefinition`, `names_putDefinition`: a definition put into a list;
* `Indexes`: an index that fits a list of definitions, `Indexes.set`, `Indexes.append`;
* `Registry`: the definitions with their index;
* `put`, `insert`, `ofList`, `get?`, `forType`.
-/

namespace WorkflowEngine

/-- Put a definition into a list: in place of its namesake, or at the end. -/
def putDefinition (d : Definition) : List Definition → List Definition
  | [] => [d]
  | e :: rest => if e.name = d.name then d :: rest else e :: putDefinition d rest

theorem names_putDefinition (d : Definition) (ds : List Definition) :
    (putDefinition d ds).map (·.name) =
      if d.name ∈ ds.map (·.name) then ds.map (·.name) else ds.map (·.name) ++ [d.name] := by
  induction ds with
  | nil => simp [putDefinition]
  | cons e rest ih =>
    rw [putDefinition]
    split
    · next h => simp [h]
    · next h =>
      rw [List.map_cons, ih]
      by_cases hm : d.name ∈ rest.map (·.name)
      · simp only [List.map_cons, List.mem_cons, hm, or_true, if_true]
      · have : ¬ d.name ∈ (e :: rest).map (·.name) := by
          simp only [List.map_cons, List.mem_cons, hm, or_false]
          exact fun e => h e.symm
        rw [if_neg hm, if_neg this]
        rfl

/-! ## Places of names -/

/-- **An index fits a list of definitions**: it has a name at a place exactly if the definition there
has that name. -/
def Indexes (index : SortedMap Nat) (ds : List Definition) : Prop :=
  ∀ name place, index.get? name = some place ↔ (ds.map (·.name))[place]? = some name

namespace Indexes

variable {index : SortedMap Nat} {ds : List Definition} {d : Definition}

/-- A definition in place of its namesake leaves the index as it is. -/
theorem set {place : Nat} (h : Indexes index ds) (found : index.get? d.name = some place) :
    Indexes index (ds.set place d) := by
  have hnames : (ds.set place d).map (·.name) = ds.map (·.name) := by
    obtain ⟨hlt, hget⟩ := List.getElem?_eq_some_iff.1 ((h d.name place).1 found)
    rw [List.map_set, ← hget, List.set_getElem_self]
  intro name i
  rw [hnames]
  exact h name i

/-- A definition of a new name at the end takes the place behind the others. -/
theorem append (h : Indexes index ds) (missing : index.get? d.name = none) :
    Indexes (index.insert d.name ds.length) (ds ++ [d]) := by
  intro name i
  rw [List.map_append, List.map_singleton, List.getElem?_append, List.length_map]
  by_cases hname : name = d.name
  · subst hname
    rw [SortedMap.get?_insert_self]
    split
    · next hlt =>
      have hnot : (ds.map (·.name))[i]? ≠ some d.name := fun hget => by
        rw [(h d.name i).2 hget] at missing
        cases missing
      simp only [Option.some.injEq, hnot, iff_false]
      omega
    · next hge =>
      rw [List.getElem?_singleton]
      split <;> simp <;> omega
  · rw [SortedMap.get?_insert_of_ne index hname, h name i]
    split
    · rfl
    · next hge =>
      rw [List.getElem?_eq_none (by simpa using hge), List.getElem?_singleton]
      split <;> simp [Ne.symm hname]

end Indexes

/-! ## Registries -/

/-- **The definitions in force**, one for every name, with the index of their places. -/
structure Registry where
  definitions : List Definition
  index : SortedMap Nat
  indexed : Indexes index definitions

namespace Registry

/-- The registry without definitions. -/
def empty : Registry := ⟨[], .empty, fun _ _ => by simp⟩

instance : Inhabited Registry := ⟨empty⟩

/-- The definition of a name: the one at the place that the index has for it. -/
def get? (r : Registry) (name : WorkflowName) : Option Definition :=
  (r.index.get? name).bind fun place => r.definitions[place]?

/-- **Put a definition in**: what it replaced, and the registry with it. -/
def put (r : Registry) (d : Definition) : Option Definition × Registry :=
  match h : r.index.get? d.name with
  | some place => (r.definitions[place]?, ⟨r.definitions.set place d, r.index, r.indexed.set h⟩)
  | none => (none, ⟨r.definitions ++ [d], r.index.insert d.name r.definitions.length,
      r.indexed.append h⟩)

/-- **The registry with a definition put in**, in place of an earlier one of its name. -/
def insert (r : Registry) (d : Definition) : Registry := (r.put d).2

/-- The registry of a list of definitions; of definitions with the same name the last one stays. -/
def ofList (ds : List Definition) : Registry := ds.foldl insert empty

/-- The names in the order they came. -/
def names (r : Registry) : List WorkflowName := r.definitions.map (·.name)

/-- The number of definitions. -/
def size (r : Registry) : Nat := r.definitions.length

/-- True when there is no definition. -/
def isEmpty (r : Registry) : Bool := r.definitions.isEmpty

/-- The definitions for a type of entities, in the order of the registry. -/
def forType (r : Registry) (type : String) : List Definition :=
  r.definitions.filter (·.supportsType type)

end Registry

end WorkflowEngine
