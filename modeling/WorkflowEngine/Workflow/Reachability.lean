import WorkflowEngine.Workflow.Marking

/-!
# Reachability

The places that tokens can get to, one source being enough to follow a transition.

* `Definition.targetsOf`: the places one step away;
* `Definition.visit`: the search from a queue of places; `targetsLeft_visited`: why it ends;
* `Definition.reachableFrom`: the places reached from a list of places;
* `Definition.unreachable`: declared places that a fresh subject never reaches;
* `Definition.danglingNext`: names under `next` that name no transition.
-/

namespace WorkflowEngine.Definition

/-- The places that a place leads to in one step. -/
def targetsOf (d : Definition) (place : PlaceName) : List PlaceName :=
  (d.transitions.filter (·.sources.contains place)).flatMap (·.targets)

/-- How many targets the sources of some transitions may still put into the queue of a search. -/
def targetsLeft (seen : List PlaceName) : List Transition → Nat
  | [] => 0
  | t :: ts => (t.sources.filter (· ∉ seen)).length * t.targets.length + targetsLeft seen ts

theorem filter_notMem_concat (place : PlaceName) (seen sources : List PlaceName) :
    sources.filter (· ∉ seen ++ [place]) = (sources.filter (· ∉ seen)).filter (· ≠ place) := by
  rw [List.filter_filter]
  refine List.filter_congr fun q _ => ?_
  by_cases hq : q ∈ seen <;> by_cases he : q = place <;> simp [hq, he]

theorem length_filter_notMem_concat {place : PlaceName} {seen sources : List PlaceName}
    (new : place ∉ seen) (h : place ∈ sources) :
    (sources.filter (· ∉ seen ++ [place])).length + 1 ≤ (sources.filter (· ∉ seen)).length := by
  have hmem : place ∈ sources.filter (· ∉ seen) := by simp [h, new]
  rw [filter_notMem_concat]
  exact List.length_filter_lt_length_iff_exists.2 ⟨place, hmem, by simp⟩

/-- **A place that is visited spends the targets it puts into the queue.** -/
theorem targetsLeft_visited {place : PlaceName} {seen : List PlaceName} (new : place ∉ seen)
    (ts : List Transition) :
    ((ts.filter (·.sources.contains place)).flatMap (·.targets)).length +
      targetsLeft (seen ++ [place]) ts ≤ targetsLeft seen ts := by
  induction ts with
  | nil => simp [targetsLeft]
  | cons t ts ih =>
    have hsub : (t.sources.filter (· ∉ seen ++ [place])).length ≤
        (t.sources.filter (· ∉ seen)).length := by
      rw [filter_notMem_concat]
      exact List.length_filter_le _ _
    by_cases hsource : place ∈ t.sources
    · have hspent := Nat.mul_le_mul_right t.targets.length
        (length_filter_notMem_concat new hsource)
      rw [Nat.succ_mul] at hspent
      simp only [List.filter_cons, List.contains_eq_mem, hsource, decide_true, if_true,
        List.flatMap_cons, List.length_append, targetsLeft] at ih ⊢
      omega
    · have hkept := Nat.mul_le_mul_right t.targets.length hsub
      simp only [List.filter_cons, List.contains_eq_mem, hsource, decide_false,
        Bool.false_eq_true, if_false, targetsLeft] at ih ⊢
      omega

/-- **Visit the places of a queue**, first in first out. A place that was not seen before puts the
places it leads to at the end of the queue. -/
def visit (d : Definition) (queue seen : List PlaceName) : List PlaceName :=
  match queue with
  | [] => seen
  | place :: queue =>
    if place ∈ seen then d.visit queue seen
    else d.visit (queue ++ d.targetsOf place) (seen ++ [place])
termination_by queue.length + targetsLeft seen d.transitions
decreasing_by
  · simp only [List.length_cons]
    omega
  · next new =>
    have := targetsLeft_visited new d.transitions
    simp only [List.length_cons, List.length_append, targetsOf]
    omega

/-- **The places reached from a list of places**, in the order in which they are met. -/
def reachableFrom (d : Definition) (places : List PlaceName) : List PlaceName := d.visit places []

/-- **Declared places that a fresh subject never reaches.** -/
def unreachable (d : Definition) : List PlaceName :=
  let reached := d.reachableFrom d.initialPlaces
  d.placeNames.filter (!reached.contains ·)

/-- The names under `next`, those of places first. -/
def nextReferences (d : Definition) : List TransitionName :=
  d.places.flatMap (·.metadata.next) ++ d.transitions.flatMap (·.metadata.next)

/-- Names under `next` that name no transition, each once. -/
def danglingNext (d : Definition) : List TransitionName :=
  distinct (d.nextReferences.filter fun name => (d.transition? name).isNone)

end WorkflowEngine.Definition
