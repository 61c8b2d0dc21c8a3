import Mathlib.Data.List.Perm.Subperm
import Mathlib.Order.WellFounded
import WorkflowEngine.Proofs.Collection.SortedMap
import WorkflowEngine.Proofs.Workflow.Validity
import WorkflowEngine.Workflow.ChainGraph

/-!
# What a search without cycles says

The search for cycles shares what it has finished between all starting points. If it reports nothing,
no chain of successors goes on forever, and none meets a transition twice.

* `ChainGraph.Follows`: one transition is a successor of another;
* `Search.Grounded`: from what was finished, no chain of successors goes on forever;
* `Fits`, `Fits.snoc`: the fuel suffices, for a path repeats nothing;
* `explore_grounded`: **searching onward from a transition finishes it**, if no cycle is found;
* **`wellFounded_of_cycles`**: a graph without reported cycles has no endless chain;
* `nodup_of_chain`: its chains repeat no transition;
* `Definition.GoesOnTo`: the transitions that may fire at once after another one;
* `follows_chainGraph_iff`: the edges of the graph of a definition.
-/

namespace WorkflowEngine.ChainGraph

/-- **A transition follows another** when it is one of its successors. -/
def Follows (g : ChainGraph) (later earlier : TransitionName) : Prop :=
  later ∈ successors g earlier

variable {g : ChainGraph}

theorem mem_keys_of_follows {later earlier : TransitionName} (h : g.Follows later earlier) :
    earlier ∈ g.keys := by
  rw [SortedMap.mem_keys_iff]
  unfold Follows successors at h
  cases hget : g.get? earlier with
  | none => simp [hget] at h
  | some names => rfl

/-! ## Searches only gain -/

/-- What a search has done stays done. -/
structure Search.Gains (before after : Search) : Prop where
  finished : before.finished ⊆ after.finished
  cycles : after.cycles = [] → before.cycles = []

theorem Search.Gains.refl (search : Search) : search.Gains search :=
  ⟨List.Subset.refl _, id⟩

theorem Search.Gains.trans {a b c : Search} (hab : a.Gains b) (hbc : b.Gains c) : a.Gains c :=
  ⟨List.Subset.trans hab.finished hbc.finished, hab.cycles ∘ hbc.cycles⟩

theorem gains_foldl {step : Search → TransitionName → Search}
    (h : ∀ search name, Search.Gains search (step search name)) (names : List TransitionName)
    (search : Search) : search.Gains (names.foldl step search) := by
  induction names generalizing search with
  | nil => exact .refl search
  | cons name names ih => exact (h search name).trans (ih _)

theorem explore_gains (fuel : Nat) : ∀ (path : List TransitionName) (search : Search)
    (name : TransitionName), search.Gains (explore g fuel path search name) := by
  induction fuel with
  | zero => exact fun _ search _ => .refl search
  | succ fuel ih =>
    intro path search name
    rw [explore]
    split
    · exact .refl search
    · split
      · exact ⟨List.Subset.refl _, fun h => absurd h (by simp)⟩
      · refine (gains_foldl (ih (path ++ [name])) (successors g name) search).trans ?_
        exact ⟨List.subset_cons_self _ _, id⟩

/-! ## What is finished has no endless chain -/

/-- **From everything finished, no chain of successors goes on forever.** -/
def Search.Grounded (g : ChainGraph) (search : Search) : Prop :=
  ∀ name ∈ search.finished, Acc g.Follows name

/-- **The fuel is enough for a path**: it repeats no transition, all of them in the graph. -/
structure Fits (g : ChainGraph) (fuel : Nat) (path : List TransitionName) : Prop where
  nodup : path.Nodup
  subset : path ⊆ g.keys
  length : fuel + path.length = g.size + 2

theorem fits_nil : Fits g (g.size + 2) [] := ⟨List.nodup_nil, List.nil_subset _, by simp⟩

theorem Fits.pos {fuel : Nat} {path : List TransitionName} (h : Fits g fuel path) : 0 < fuel := by
  have hle : path.length ≤ g.size :=
    calc path.length ≤ g.keys.length := (h.nodup.subperm h.subset).length_le
      _ = g.size := List.length_map ..
  have := h.length
  omega

theorem Fits.snoc {fuel : Nat} {path : List TransitionName} {name : TransitionName}
    (h : Fits g (fuel + 1) path) (hnew : name ∉ path) (hkey : name ∈ g.keys) :
    Fits g fuel (path ++ [name]) where
  nodup := by
    rw [List.nodup_append]
    exact ⟨h.nodup, by simp, fun a ha b hb => by
      rw [List.mem_singleton.1 hb]
      exact fun e => hnew (e ▸ ha)⟩
  subset := List.append_subset.2 ⟨h.subset, by simpa using hkey⟩
  length := by
    have := h.length
    rw [List.length_append, List.length_singleton]
    omega

theorem grounded_foldl {step : Search → TransitionName → Search}
    (gains : ∀ search name, Search.Gains search (step search name)) {names : List TransitionName}
    (h : ∀ search : Search, ∀ name ∈ names, search.Grounded g → (step search name).cycles = [] →
      (step search name).Grounded g ∧ name ∈ (step search name).finished) {search : Search}
    (hg : search.Grounded g) (hc : (names.foldl step search).cycles = []) :
    (names.foldl step search).Grounded g ∧ names ⊆ (names.foldl step search).finished := by
  induction names generalizing search with
  | nil => exact ⟨hg, List.nil_subset _⟩
  | cons name names ih =>
    rw [List.foldl_cons] at hc ⊢
    have hrest := gains_foldl gains names (step search name)
    obtain ⟨hg', hname⟩ := h search name List.mem_cons_self hg (hrest.cycles hc)
    obtain ⟨hgr, hsub⟩ := ih (fun search n hn => h search n (List.mem_cons_of_mem _ hn)) hg' hc
    exact ⟨hgr, List.cons_subset.2 ⟨hrest.finished hname, hsub⟩⟩

/-- **Searching onward from a transition finishes it**, if no cycle is found. The induction is on the
fuel, which the path does not exhaust. -/
theorem explore_grounded (fuel : Nat) : ∀ {path : List TransitionName} {search : Search}
    {name : TransitionName}, Fits g fuel path → search.Grounded g →
    (explore g fuel path search name).cycles = [] →
    (explore g fuel path search name).Grounded g ∧
      name ∈ (explore g fuel path search name).finished := by
  induction fuel with
  | zero => exact fun hfit => absurd hfit.pos (Nat.lt_irrefl 0)
  | succ fuel ih =>
    intro path search name hfit hg
    rw [explore]
    split
    · next hdone => exact fun _ => ⟨hg, hdone⟩
    · split
      · exact fun hc => absurd hc (by simp)
      · next hnew =>
        intro hc
        obtain ⟨hgr, hsub⟩ := grounded_foldl (explore_gains fuel (path ++ [name]))
          (fun search later hlater hg hc =>
            ih (hfit.snoc hnew (mem_keys_of_follows hlater)) hg hc) hg hc
        refine ⟨fun n hn => ?_, List.mem_cons_self⟩
        rcases List.mem_cons.1 hn with rfl | hn
        · exact ⟨_, fun later hlater => hgr later (hsub hlater)⟩
        · exact hgr n hn

/-- **A graph without reported cycles has no endless chain of successors.** -/
theorem wellFounded_of_cycles (h : g.cycles = []) : WellFounded g.Follows := by
  let search : Search := g.keys.foldl (explore g (g.size + 2) []) {}
  have grounded : Search.Grounded g {} := fun _ hn => absurd hn List.not_mem_nil
  obtain ⟨hgr, hsub⟩ : search.Grounded g ∧ g.keys ⊆ search.finished :=
    grounded_foldl (explore_gains (g.size + 2) [])
      (fun _ _ _ hg hc => explore_grounded _ fits_nil hg hc) grounded h
  refine ⟨fun name => ?_⟩
  by_cases hkey : name ∈ g.keys
  · exact hgr name (hsub hkey)
  · exact ⟨_, fun later hlater => absurd (mem_keys_of_follows hlater) hkey⟩

theorem nodup_of_chain (h : WellFounded g.Follows) {names : List TransitionName}
    (hchain : names.IsChain g.Follows) : names.Nodup := by
  have htrans : names.IsChain (Relation.TransGen g.Follows) :=
    hchain.imp fun _ _ => Relation.TransGen.single
  refine (List.isChain_iff_pairwise.1 htrans).imp ?_
  rintro a _ hab rfl
  exact h.transGen.irrefl.irrefl a hab

end WorkflowEngine.ChainGraph

namespace WorkflowEngine.Definition

variable {d : Definition} {a b : TransitionName}

/-! ## The graph of a definition -/

/-- **A transition goes on to another one at once**: it is not queued, and the other one is declared
and named by it or by a place that it enters. -/
def GoesOnTo (d : Definition) (a b : TransitionName) : Prop :=
  ∃ t ∈ d.transitions, t.name = a ∧ t.isAsync = false ∧ b ∈ d.transitions.map (·.name) ∧
    (b ∈ t.metadata.next ∨ ∃ p ∈ t.targets, ∃ place, d.place? p = some place ∧
      b ∈ place.metadata.next)

theorem mem_followers {t : Transition} : b ∈ d.followers t ↔
    b ∈ t.metadata.next ∨ ∃ p ∈ t.targets, ∃ place, d.place? p = some place ∧
      b ∈ place.metadata.next := by
  simp only [followers, List.mem_append, List.mem_flatMap, List.mem_filterMap]
  constructor
  · rintro (⟨place, ⟨p, hp, hplace⟩, hb⟩ | hb)
    · exact .inr ⟨p, hp, place, hplace, hb⟩
    · exact .inl hb
  · rintro (hb | ⟨p, hp, place, hplace, hb⟩)
    · exact .inr hb
    · exact .inl ⟨place, ⟨p, hp, hplace⟩, hb⟩

theorem mem_successors {t : Transition} : b ∈ d.successors t ↔
    t.isAsync = false ∧ b ∈ d.transitions.map (·.name) ∧ b ∈ d.followers t := by
  have declared : (d.transition? b).isSome = true ↔ b ∈ d.transitions.map (·.name) := by
    simp [transition?]
  unfold successors
  cases t.isAsync <;> simp [declared, and_comm]

/-- **The edges of the graph.** Of transitions with the same name the last one would count. -/
theorem follows_chainGraph_iff (distinct : (d.transitions.map (·.name)).Nodup) :
    d.chainGraph.Follows b a ↔ d.GoesOnTo a b := by
  have hkeys : ((d.transitions.map fun t => (t.name, d.successors t)).map (·.1)).Nodup := by
    rwa [List.map_map]
  unfold ChainGraph.Follows ChainGraph.successors GoesOnTo
  constructor
  · intro h
    cases hget : d.chainGraph.get? a with
    | none => simp [hget] at h
    | some names =>
      rw [hget, Option.getD_some] at h
      obtain ⟨t, ht, he⟩ := List.mem_map.1 (SortedMap.mem_of_get?_ofList hget)
      cases he
      obtain ⟨inline, declared, hb⟩ := mem_successors.1 h
      exact ⟨t, ht, rfl, inline, declared, mem_followers.1 hb⟩
  · rintro ⟨t, ht, rfl, inline, declared, hb⟩
    have hget : d.chainGraph.get? t.name = some (d.successors t) :=
      SortedMap.get?_ofList_of_mem hkeys (List.mem_map_of_mem ht)
    rw [hget, Option.getD_some]
    exact mem_successors.2 ⟨inline, declared, mem_followers.2 hb⟩

end WorkflowEngine.Definition
