import Mathlib.Data.List.Basic
import Mathlib.Data.List.Induction
import Mathlib.Data.List.Nodup
import WorkflowEngine.Workflow.Registry

/-!
# What a registry holds

A registry is determined by its names and by what is found under them. Made of a list of definitions,
it has every name where that was first met, and under it the last definition of that name.

* `nodup`: no name comes twice, since the index has one place for it;
* `get?_eq_find?`, `definitions_insert`, `names_insert`: the index finds and replaces what a search
  through the list would;
* `get?_insert`: what an insertion changes;
* `get?_eq_some`, `get?_of_mem`: what is found is in force;
* `ext_get?`: names and look-ups determine a registry;
* `names_ofList`, **`get?_ofList`**: a registry made of a list;
* `ofList_append_self`: putting the same definitions in once more changes nothing.
-/

namespace WorkflowEngine.Registry

variable {r r' : Registry} {d : Definition} {name : WorkflowName}

theorem find?_putDefinition (d : Definition) (ds : List Definition) (name : WorkflowName) :
    (putDefinition d ds).find? (·.name = name) =
      if d.name = name then some d else ds.find? (·.name = name) := by
  induction ds with
  | nil => by_cases h : d.name = name <;> simp [putDefinition, h]
  | cons e ds ih =>
    rw [putDefinition]
    by_cases he : e.name = d.name
    · rw [if_pos he, List.find?_cons, List.find?_cons, he]
      by_cases h : d.name = name <;> simp [h]
    · rw [if_neg he, List.find?_cons, List.find?_cons, ih]
      by_cases h : d.name = name
      · simp [h, h ▸ he]
      · simp [h]

theorem find?_of_mem {ds : List Definition} (hn : (ds.map (·.name)).Nodup) (h : d ∈ ds) :
    ds.find? (·.name = d.name) = some d := by
  induction ds with
  | nil => cases h
  | cons e ds ih =>
    rw [List.map_cons, List.nodup_cons] at hn
    rcases List.mem_cons.1 h with rfl | h
    · simp
    · have hne : e.name ≠ d.name := fun heq => hn.1 (heq ▸ List.mem_map_of_mem h)
      rw [List.find?_cons_of_neg (by simpa using hne), ih hn.2 h]

/-! ## By the index as by a search -/

theorem nodup_putDefinition {ds : List Definition} (h : (ds.map (·.name)).Nodup) (d : Definition) :
    ((putDefinition d ds).map (·.name)).Nodup := by
  rw [names_putDefinition]
  split
  · exact h
  · next hnew =>
    refine List.nodup_append.2 ⟨h, by simp, fun a ha b hb => ?_⟩
    rw [List.mem_singleton.1 hb]
    exact fun heq => hnew (heq ▸ ha)

theorem putDefinition_of_getElem? {ds : List Definition} (hn : (ds.map (·.name)).Nodup) {place : Nat}
    (h : (ds.map (·.name))[place]? = some d.name) : putDefinition d ds = ds.set place d := by
  induction ds generalizing place with
  | nil => cases h
  | cons e ds ih =>
    rw [List.map_cons, List.nodup_cons] at hn
    cases place with
    | zero =>
      have hname : e.name = d.name := Option.some.inj h
      rw [putDefinition, if_pos hname, List.set_cons_zero]
    | succ place =>
      have hname : e.name ≠ d.name := fun heq => by
        have hmem : d.name ∈ ds.map (·.name) := List.mem_of_getElem? h
        exact hn.1 (heq ▸ hmem)
      rw [putDefinition, if_neg hname, ih hn.2 h, List.set_cons_succ]

theorem putDefinition_of_notMem {ds : List Definition} (h : d.name ∉ ds.map (·.name)) :
    putDefinition d ds = ds ++ [d] := by
  induction ds with
  | nil => rfl
  | cons e ds ih =>
    rw [List.map_cons, List.mem_cons, not_or] at h
    rw [putDefinition, if_neg (Ne.symm h.1), ih h.2, List.cons_append]

theorem nodup (r : Registry) : (r.definitions.map (·.name)).Nodup := by
  refine List.nodup_iff_getElem?_ne_getElem?.2 fun i j hij hj heq => ?_
  have hname := List.getElem?_eq_getElem hj
  have hfirst := (r.indexed _ i).2 (heq.trans hname)
  rw [(r.indexed _ j).2 hname, Option.some.injEq] at hfirst
  omega

theorem notMem_of_index (h : r.index.get? name = none) : name ∉ r.definitions.map (·.name) := by
  intro hmem
  obtain ⟨place, hplace⟩ := List.getElem?_of_mem hmem
  rw [(r.indexed name place).2 hplace] at h
  cases h

theorem get?_of_index {place : Nat} (h : r.index.get? name = some place) :
    r.get? name = r.definitions[place]? := by
  rw [get?, h, Option.bind_some]

theorem get?_of_index_none (h : r.index.get? name = none) : r.get? name = none := by
  rw [get?, h, Option.bind_none]

/-- **What the index leads to** is what a search through the definitions finds. -/
theorem get?_eq_find? (r : Registry) (name : WorkflowName) :
    r.get? name = r.definitions.find? (·.name = name) := by
  cases h : r.index.get? name with
  | some place =>
    have hplace := (r.indexed name place).1 h
    rw [List.getElem?_map] at hplace
    obtain ⟨d, hd, rfl⟩ := Option.map_eq_some_iff.1 hplace
    rw [get?_of_index h, hd, find?_of_mem r.nodup (List.mem_of_getElem? hd)]
  | none =>
    have hnone : r.definitions.find? (·.name = name) = none :=
      List.find?_eq_none.2 fun d hd hname =>
        notMem_of_index h (of_decide_eq_true hname ▸ List.mem_map_of_mem hd)
    rw [get?_of_index_none h, hnone]

/-- **An insertion** does to the definitions what putting into a list does. -/
theorem definitions_insert (r : Registry) (d : Definition) :
    (r.insert d).definitions = putDefinition d r.definitions := by
  unfold insert put
  split
  · next place h => exact (putDefinition_of_getElem? r.nodup ((r.indexed d.name place).1 h)).symm
  · next h => exact (putDefinition_of_notMem (notMem_of_index h)).symm

theorem put_fst (r : Registry) (d : Definition) : (r.put d).1 = r.get? d.name := by
  unfold put
  split
  · next h => exact (get?_of_index h).symm
  · next h => exact (get?_of_index_none h).symm

theorem names_insert (r : Registry) (d : Definition) :
    (r.insert d).names = if d.name ∈ r.names then r.names else r.names ++ [d.name] := by
  rw [names, definitions_insert, names_putDefinition]
  rfl

/-- **An insertion is found under its name**, and leaves the other names alone. -/
theorem get?_insert (r : Registry) (d : Definition) (name : WorkflowName) :
    (r.insert d).get? name = if d.name = name then some d else r.get? name := by
  rw [get?_eq_find?, definitions_insert, find?_putDefinition, get?_eq_find?]

/-! ## What is in force -/

theorem get?_eq_some (h : r.get? name = some d) : d ∈ r.definitions ∧ d.name = name := by
  rw [get?_eq_find?] at h
  refine ⟨List.mem_of_find?_eq_some h, ?_⟩
  simpa using List.find?_some h

theorem get?_of_mem (h : d ∈ r.definitions) : r.get? d.name = some d := by
  rw [get?_eq_find?, find?_of_mem r.nodup h]

theorem definitions_eq_filterMap (r : Registry) : r.definitions = r.names.filterMap r.get? := by
  rw [names, List.filterMap_map]
  calc r.definitions = r.definitions.filterMap some := List.filterMap_some.symm
    _ = r.definitions.filterMap (r.get? ∘ (·.name)) :=
      List.filterMap_congr fun _ hd => (get?_of_mem hd).symm

theorem ext_get? (hnames : r.names = r'.names) (hget : ∀ name, r.get? name = r'.get? name) :
    r = r' := by
  have hdefinitions : r.definitions = r'.definitions := by
    rw [r.definitions_eq_filterMap, r'.definitions_eq_filterMap, hnames, funext hget]
  have hindex : r.index = r'.index := by
    refine SortedMap.ext_get? fun name => Option.ext fun place => ?_
    rw [r.indexed name place, r'.indexed name place, hdefinitions]
  cases r
  cases r'
  cases hdefinitions
  cases hindex
  rfl

/-! ## Registries made of lists -/

theorem ofList_concat (ds : List Definition) (d : Definition) :
    ofList (ds ++ [d]) = (ofList ds).insert d := by
  rw [ofList, List.foldl_append, List.foldl_cons, List.foldl_nil, ofList]

/-- **The names of a registry made of a list**, each where it was first met. -/
theorem names_ofList (ds : List Definition) :
    (ofList ds).names = distinct (ds.map (·.name)) := by
  induction ds using List.reverseRecOn with
  | nil => rfl
  | append_singleton ds d ih =>
    rw [ofList_concat, names_insert, ih, List.map_append, distinct_append, List.map_singleton]
    generalize ds.map (·.name) = names
    by_cases h : d.name ∈ names
    · simp [distinct, h]
    · simp [distinct, h]

/-- **A registry made of a list has the last definition of every name.** -/
theorem get?_ofList (ds : List Definition) (name : WorkflowName) :
    (ofList ds).get? name = ds.reverse.find? (·.name = name) := by
  induction ds using List.reverseRecOn with
  | nil => rfl
  | append_singleton ds d ih =>
    rw [ofList_concat, get?_insert, ih, List.reverse_concat, List.find?_cons]
    by_cases h : d.name = name <;> simp [h]

theorem ofList_append_self (ds : List Definition) : ofList (ds ++ ds) = ofList ds := by
  refine ext_get? ?_ fun name => ?_
  · rw [names_ofList, names_ofList, List.map_append, distinct_append, List.filter_eq_nil_iff.2,
      List.append_nil]
    simp
  · rw [get?_ofList, get?_ofList, List.reverse_append, List.find?_append, Option.or_self]

end WorkflowEngine.Registry
