import Mathlib.Data.List.Chain
import WorkflowEngine.Proofs.Workflow.ChainCycles

/-!
# The search for cycles is exact

The search descends without a bound of its own: it ends because a path repeats nothing. Here the
bound is taken out of the search. What remains has one outcome, the lists that it reports are cycles,
and it reports one whenever there is one.

* `IsCycle`: a list that goes round in a relation and meets nothing twice;
* `ChainGraph.Explores`: the search by its four rules; `Explores.unique`: it has one outcome;
* **`explores_foldl`**: the fuel of `explore` never runs out;
* `ChainGraph.Behind`, **`Explores.sound`**: what is reported behind a path are cycles;
* **`cycles_exact`**: the search finds a cycle exactly if there is one.
-/

namespace WorkflowEngine

open Relation

/-- **A simple cycle** of a relation: nothing repeats, each entry leads to the next one, and the last
one to the first. -/
structure IsCycle (r : TransitionName → TransitionName → Prop) (names : List TransitionName) :
    Prop where
  ne_nil : names ≠ []
  nodup : names.Nodup
  chain : names.IsChain r
  closes : ∀ last ∈ names.getLast?, ∀ first ∈ names.head?, r last first

variable {r : TransitionName → TransitionName → Prop} {names path : List TransitionName}
  {name : TransitionName}

theorem IsCycle.exists_transGen (h : IsCycle r names) : ∃ name, TransGen r name name := by
  cases names with
  | nil => exact absurd rfl h.ne_nil
  | cons name names =>
    have around := List.relationReflTransGen_of_exists_isChain_cons names h.chain rfl
    exact ⟨name, .tail' around (h.closes _ (List.getLast?_eq_getLast_of_ne_nil _) name rfl)⟩

theorem exists_dropWhile_eq_cons (hmem : name ∈ path) :
    ∃ front back, path = front ++ name :: back ∧ path.dropWhile (· ≠ name) = name :: back := by
  induction path with
  | nil => cases hmem
  | cons other path ih =>
    by_cases h : other = name
    · exact ⟨[], path, by simp [h], by simp [h]⟩
    · obtain ⟨front, back, hpath, hdrop⟩ := ih ((List.mem_cons.1 hmem).resolve_left (Ne.symm h))
      exact ⟨other :: front, back, by simp [← hpath], by simp [h, ← hdrop]⟩

theorem isCycle_dropWhile (nodup : path.Nodup) (chain : path.IsChain r) (hmem : name ∈ path)
    (hlast : ∀ last ∈ path.getLast?, r last name) : IsCycle r (path.dropWhile (· ≠ name)) := by
  obtain ⟨front, back, hpath, hdrop⟩ := exists_dropWhile_eq_cons hmem
  rw [hpath] at nodup chain hlast
  rw [hdrop]
  refine ⟨List.cons_ne_nil _ _, (List.nodup_append.1 nodup).2.1, chain.right_of_append, ?_⟩
  intro last hl first hf
  cases hf
  exact hlast last (by rwa [List.getLast?_append_cons])

namespace ChainGraph

variable {g : ChainGraph} {search after after' : Search}

/-- **A search that ends**, without a bound on its depth: nothing is left to look at; the next name is
finished; it closes a cycle with the path; or the search descends behind it and goes on. -/
inductive Explores (g : ChainGraph) :
    List TransitionName → Search → List TransitionName → Search → Prop where
  | done {path : List TransitionName} {search : Search} : g.Explores path search [] search
  | skip {path names : List TransitionName} {name : TransitionName} {search after : Search} :
    name ∈ search.finished → g.Explores path search names after →
    g.Explores path search (name :: names) after
  | meet {path names : List TransitionName} {name : TransitionName} {search after : Search} :
    name ∉ search.finished → name ∈ path →
    g.Explores path { search with cycles := search.cycles ++ [path.dropWhile (· ≠ name)] } names
      after →
    g.Explores path search (name :: names) after
  | enter {path names : List TransitionName} {name : TransitionName}
      {search inner after : Search} :
    name ∉ search.finished → name ∉ path →
    g.Explores (path ++ [name]) search (successors g name) inner →
    g.Explores path { inner with finished := name :: inner.finished } names after →
    g.Explores path search (name :: names) after

theorem Explores.unique (h : g.Explores path search names after)
    (h' : g.Explores path search names after') : after = after' := by
  induction h generalizing after' with
  | done =>
    cases h'
    rfl
  | skip hdone _ ih =>
    cases h' with
    | skip _ h' => exact ih h'
    | meet hnew _ _ => exact absurd hdone hnew
    | enter hnew _ _ _ => exact absurd hdone hnew
  | meet hnew hmem _ ih =>
    cases h' with
    | skip hdone _ => exact absurd hdone hnew
    | meet _ _ h' => exact ih h'
    | enter _ hnot _ _ => exact absurd hmem hnot
  | enter hnew hnot _ _ ihInner ih =>
    cases h' with
    | skip hdone _ => exact absurd hdone hnew
    | meet _ hmem _ => exact absurd hmem hnot
    | enter _ _ hinner h' =>
      cases ihInner hinner
      exact ih h'

/-- **The fuel never runs out**: `explore` does what the search without a bound does. -/
theorem explores_foldl (fuel : Nat) : ∀ {path : List TransitionName}, Fits g fuel path →
    ∀ (names : List TransitionName) (search : Search),
      g.Explores path search names (names.foldl (explore g fuel path) search) := by
  induction fuel with
  | zero => exact fun hfit => absurd hfit.pos (Nat.lt_irrefl 0)
  | succ fuel ih =>
    intro path hfit names
    induction names with
    | nil => exact fun _ => .done
    | cons name names ihNames =>
      intro search
      rw [List.foldl_cons, explore]
      split
      · next hdone => exact .skip hdone (ihNames _)
      · next hnew =>
        split
        · next hmem => exact .meet hnew hmem (ihNames _)
        · next hnot =>
          refine .enter hnew hnot ?_ (ihNames _)
          by_cases hkey : name ∈ g.keys
          · exact ih (hfit.snoc hnot hkey) _ _
          · -- behind a name that the graph does not know, there is nothing to look at
            have hnil : successors g name = [] :=
              List.eq_nil_iff_forall_not_mem.2 fun _ h => hkey (mem_keys_of_follows h)
            rw [hnil]
            exact .done

theorem existsUnique_explores :
    ∃ after, after.cycles = g.cycles ∧ ∀ other, g.Explores [] {} g.keys other ↔ other = after := by
  have ends := explores_foldl (g.size + 2) fits_nil g.keys {}
  refine ⟨_, rfl, fun other => ⟨fun h => h.unique ends, ?_⟩⟩
  rintro rfl
  exact ends

/-! ## What is reported -/

/-- **A search stands behind a path** when the path is a chain without repetition, and what comes next
follows its last entry. -/
structure Behind (g : ChainGraph) (path names : List TransitionName) : Prop where
  nodup : path.Nodup
  chain : path.IsChain fun a b => g.Follows b a
  ahead : ∀ last ∈ path.getLast?, ∀ name ∈ names, g.Follows name last

theorem Behind.nil (names : List TransitionName) : Behind g [] names :=
  ⟨List.nodup_nil, .nil, fun _ hlast => by cases hlast⟩

theorem Behind.tail (h : Behind g path (name :: names)) : Behind g path names :=
  ⟨h.nodup, h.chain, fun last hlast next hnext =>
    h.ahead last hlast next (List.mem_cons_of_mem _ hnext)⟩

theorem Behind.isCycle (h : Behind g path (name :: names)) (hmem : name ∈ path) :
    IsCycle (fun a b => g.Follows b a) (path.dropWhile (· ≠ name)) :=
  isCycle_dropWhile h.nodup h.chain hmem fun last hlast => h.ahead last hlast _ List.mem_cons_self

theorem Behind.enter (h : Behind g path (name :: names)) (hnot : name ∉ path) :
    Behind g (path ++ [name]) (successors g name) where
  nodup := by
    rw [← List.concat_eq_append]
    exact h.nodup.concat hnot
  chain := by
    refine h.chain.append (List.isChain_singleton _) fun last hlast first hfirst => ?_
    cases hfirst
    exact h.ahead last hlast name List.mem_cons_self
  ahead := by
    intro last hlast later hlater
    rw [List.getLast?_concat, Option.mem_some_iff] at hlast
    exact hlast ▸ hlater

/-- **What is reported are cycles.** -/
theorem Explores.sound (h : g.Explores path search names after) (behind : Behind g path names)
    (sound : ∀ cycle ∈ search.cycles, IsCycle (fun a b => g.Follows b a) cycle) :
    ∀ cycle ∈ after.cycles, IsCycle (fun a b => g.Follows b a) cycle := by
  induction h with
  | done => exact sound
  | skip _ _ ih => exact ih behind.tail sound
  | meet _ hmem _ ih =>
    refine ih behind.tail fun cycle hcycle => ?_
    rcases List.mem_append.1 hcycle with hcycle | hcycle
    · exact sound cycle hcycle
    · rw [List.mem_singleton.1 hcycle]
      exact behind.isCycle hmem
  | enter _ hnot _ _ ihInner ih => exact ih behind.tail (ihInner (behind.enter hnot) sound)

theorem isCycle_of_mem_cycles {cycle : List TransitionName} (h : cycle ∈ g.cycles) :
    IsCycle (fun a b => g.Follows b a) cycle :=
  (explores_foldl (g.size + 2) fits_nil g.keys {}).sound (.nil _) (fun _ hc => by cases hc) cycle h

theorem cycles_ne_nil_iff :
    g.cycles ≠ [] ↔ ∃ name, TransGen (fun a b => g.Follows b a) name name := by
  constructor
  · intro h
    obtain ⟨cycle, hcycle⟩ := List.exists_mem_of_ne_nil _ h
    exact (isCycle_of_mem_cycles hcycle).exists_transGen
  · rintro ⟨name, around⟩ hnil
    have back : TransGen g.Follows name name := transGen_swap.1 around
    exact (wellFounded_of_cycles hnil).transGen.irrefl.irrefl name back

end ChainGraph

namespace Definition

/-- **The search for cycles is exact**: it ends with one outcome, it reports something exactly if
some transition goes on to itself in the end, and what it reports are simple cycles. -/
theorem cycles_exact (d : Definition) (distinct : (d.transitions.map (·.name)).Nodup) :
    (∃ after : ChainGraph.Search, after.cycles = d.chainGraph.cycles ∧
      ∀ other, d.chainGraph.Explores [] {} d.chainGraph.keys other ↔ other = after) ∧
    (d.chainGraph.cycles ≠ [] ↔ ∃ name, TransGen d.GoesOnTo name name) ∧
    ∀ cycle ∈ d.chainGraph.cycles, IsCycle d.GoesOnTo cycle := by
  have edges : (fun a b => d.chainGraph.Follows b a) = d.GoesOnTo := by
    funext a b
    exact propext (follows_chainGraph_iff distinct)
  refine ⟨ChainGraph.existsUnique_explores, edges ▸ ChainGraph.cycles_ne_nil_iff, ?_⟩
  intro cycle hcycle
  exact edges ▸ ChainGraph.isCycle_of_mem_cycles hcycle

/-- **A flow that goes to and fro**, and has a way out on the side. -/
def pingPong : Definition where
  name := "PingPong"
  places := [{ name := "left", metadata := { next := ["there"] } }, { name := "right" }]
  transitions := [{ name := "back", sources := ["right"], targets := ["left"] },
    { name := "there", sources := ["left"], targets := ["right"],
      metadata := { next := ["leave", "back"] } },
    { name := "leave", sources := ["right"], targets := ["left"], metadata := { async := true } }]
  initialPlaces := ["left"]

/-- The way to and fro is found, the way out is not part of it. -/
theorem cycles_exact_pingPong :
    pingPong.chainGraph.cycles = [["back", "there"]] ∧
      (pingPong.transitions.map (·.name)).Nodup ∧
      (∃ name, TransGen pingPong.GoesOnTo name name) ∧
      IsCycle pingPong.GoesOnTo ["back", "there"] := by
  have found : pingPong.chainGraph.cycles = [["back", "there"]] := by decide
  have distinct : (pingPong.transitions.map (·.name)).Nodup := by decide
  obtain ⟨_, around, cycles⟩ := cycles_exact pingPong distinct
  exact ⟨found, distinct, around.1 (by simp [found]), cycles _ (by simp [found])⟩

end Definition

end WorkflowEngine
