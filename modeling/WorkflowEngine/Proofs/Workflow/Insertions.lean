import Mathlib.Data.Finset.Card
import Mathlib.Data.Finset.Dedup
import WorkflowEngine.Proofs.Collection.Distinct
import WorkflowEngine.Proofs.Workflow.Registry

/-!
# A registry after any insertions

Whatever is put into an empty registry, in whatever order and however often under one name, its index
leads every name that was met to the one definition kept for it, which is the last that was put in
under that name.

* `putAll`: insertions one after the other, with what each gives back;
* `latest`: the definition that was put in last under a name;
* `putAll_append`, `snd_putAll`, `get?_putAll`: what a row of insertions comes to;
* `Reflects`: a registry that shows what was put in;
* **`reflects_putAll`**: every registry that insertions lead to does, and each insertion gives back
  what it replaced.
-/

namespace WorkflowEngine.Registry

/-- **Insertions one after the other**: what each of them gives back, and the registry after all. -/
def putAll (r : Registry) : List Definition → List (Option Definition) × Registry
  | [] => ([], r)
  | d :: ds =>
    let rest := (r.put d).2.putAll ds
    ((r.put d).1 :: rest.1, rest.2)

/-- The definition that was put in last under a name. -/
def latest (ds : List Definition) (name : WorkflowName) : Option Definition :=
  (ds.filter (·.name = name)).getLast?

/-- **A registry reflects what was put in**, by its index, its look-ups and its listings. -/
structure Reflects (r : Registry) (ds : List Definition) : Prop where
  indexed : ∀ name, (r.index.get? name).isSome = true ↔ name ∈ ds.map (·.name)
  place_iff : ∀ name place, r.index.get? name = some place ↔
    ∃ d, r.definitions[place]? = some d ∧ d.name = name
  place_lt : ∀ name place, r.index.get? name = some place →
    place < r.size ∧ r.definitions[place]? = latest ds name
  get : ∀ name, r.get? name = latest ds name
  names : FirstOccurrences r.names (ds.map (·.name))
  definitions : r.definitions = r.names.filterMap r.get?
  size : r.size = (ds.map (·.name)).toFinset.card
  forType : ∀ type, r.forType type =
    (r.names.filterMap r.get?).filter fun d => type ∈ d.supports

variable {r : Registry} {ds : List Definition} {d : Definition} {name : WorkflowName}

/-! ## Rows of insertions -/

theorem snd_putAll (r : Registry) (ds : List Definition) : (r.putAll ds).2 = ds.foldl insert r := by
  induction ds generalizing r with
  | nil => rfl
  | cons d ds ih => exact ih (r.put d).2

theorem length_putAll (r : Registry) (ds : List Definition) :
    (r.putAll ds).1.length = ds.length := by
  induction ds generalizing r with
  | nil => rfl
  | cons d ds ih => rw [putAll, List.length_cons, ih, List.length_cons]

/-- **What a row of insertions gives back** is what its parts do, one after the other. -/
theorem putAll_append (r : Registry) (before after : List Definition) :
    r.putAll (before ++ after) =
      ((r.putAll before).1 ++ ((r.putAll before).2.putAll after).1,
        ((r.putAll before).2.putAll after).2) := by
  induction before generalizing r with
  | nil => rfl
  | cons d before ih => rw [List.cons_append, putAll, putAll, ih, List.cons_append]

theorem latest_eq_find? (ds : List Definition) (name : WorkflowName) :
    latest ds name = ds.reverse.find? (·.name = name) := by
  rw [latest, List.getLast?_eq_head?_reverse, ← List.filter_reverse, List.head?_filter]

theorem get?_putAll (ds : List Definition) (name : WorkflowName) :
    (empty.putAll ds).2.get? name = latest ds name := by
  rw [snd_putAll, latest_eq_find?]
  exact get?_ofList ds name

theorem names_putAll (ds : List Definition) :
    FirstOccurrences (empty.putAll ds).2.names (ds.map (·.name)) := by
  rw [snd_putAll]
  exact firstOccurrences_iff.2 (names_ofList ds)

/-! ## What any registry shows -/

theorem index_eq_some_iff {place : Nat} : r.index.get? name = some place ↔
    ∃ d, r.definitions[place]? = some d ∧ d.name = name := by
  rw [r.indexed name place, List.getElem?_map, Option.map_eq_some_iff]

theorem isSome_index_iff : (r.index.get? name).isSome = true ↔ name ∈ r.names := by
  simp only [Option.isSome_iff_exists, r.indexed name, names, List.mem_iff_getElem?]

theorem card_of_firstOccurrences {α : Type} [DecidableEq α] {xs ys : List α}
    (h : FirstOccurrences ys xs) : ys.length = xs.toFinset.card := by
  rw [← List.toFinset_card_of_nodup h.nodup]
  congr 1
  ext x
  rw [List.mem_toFinset, List.mem_toFinset, h.mem_iff]

theorem reflects_of_names_of_get? (hnames : FirstOccurrences r.names (ds.map (·.name)))
    (hget : ∀ name, r.get? name = latest ds name) : r.Reflects ds where
  indexed name := isSome_index_iff.trans (hnames.mem_iff name)
  place_iff _ _ := index_eq_some_iff
  place_lt name place h := by
    obtain ⟨d, hd, _⟩ := index_eq_some_iff.1 h
    exact ⟨(List.getElem?_eq_some_iff.1 hd).1, (get?_of_index h).symm.trans (hget name)⟩
  get := hget
  names := hnames
  definitions := r.definitions_eq_filterMap
  size := by
    rw [← card_of_firstOccurrences hnames, size, names, List.length_map]
  forType type := by
    rw [← r.definitions_eq_filterMap, forType]
    exact List.filter_congr fun d _ => by simp [Definition.supportsType]

/-! ## After any insertions -/

/-- **A registry shows what was put in**, whatever that was, and every insertion gives back the
definition that was put in last under that name before it. -/
theorem reflects_putAll :
    (∀ ds, (empty.putAll ds).2.Reflects ds) ∧
      ∀ before d after, (empty.putAll (before ++ d :: after)).1[before.length]? =
        some (latest before d.name) := by
  refine ⟨fun ds => reflects_of_names_of_get? (names_putAll ds) (get?_putAll ds), ?_⟩
  intro before d after
  have hlength := length_putAll empty before
  calc (empty.putAll (before ++ d :: after)).1[before.length]?
      = ((empty.putAll before).1 ++ ((empty.putAll before).2.putAll (d :: after)).1)[before.length]? := by
        rw [putAll_append]
    _ = some ((empty.putAll before).2.put d).1 := by
        rw [List.getElem?_append_right (Nat.le_of_eq hlength), hlength, Nat.sub_self]
        rfl
    _ = some (latest before d.name) := by rw [put_fst, get?_putAll]

end WorkflowEngine.Registry
