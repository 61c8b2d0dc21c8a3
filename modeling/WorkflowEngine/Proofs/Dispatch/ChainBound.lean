import Mathlib.Data.List.Chain
import WorkflowEngine.Proofs.Dispatch.Call
import WorkflowEngine.Proofs.Workflow.ChainCycles

/-!
# Chains without cycles end in time

The search for cycles looks at a definition only. If it reports nothing, no run of a dispatcher goes
deeper than there are transitions that fire at once: what fired below an event is a chain of
successors, and such a chain repeats nothing.

* `Definition.inlineNames`: the transitions that ask for no queue;
* `Definition.Trail`: what fired in a row before an event;
* `Trail.cons`: the next transition goes on with the trail;
* `Dispatcher.Charted`: every pending event has a trail; `charted_of_step`: steps keep this;
* **`call_ne_chainTooDeep`**: no call fails because too many transitions fired in a row.
-/

namespace WorkflowEngine

namespace Definition

/-- The transitions that ask for no queue. -/
def inlineNames (d : Definition) : List TransitionName :=
  (d.transitions.filter (!·.isAsync)).map (·.name)

/-- **The transitions that fired in a row before an event**, the last one first: each is a successor
of the one before, and what the event goes on with is a successor of the last one. -/
structure Trail (d : Definition) (event : Event) (fired : List TransitionName) : Prop where
  inline : fired ⊆ d.inlineNames
  chain : fired.IsChain d.chainGraph.Follows
  ahead : ∀ name ∈ d.candidates event, (d.transition? name).isSome = true →
    ∀ last ∈ fired.head?, d.chainGraph.Follows name last

variable {d : Definition}

theorem Trail.nil (event : Event) : d.Trail event [] :=
  ⟨List.nil_subset _, .nil, fun _ _ _ _ h => by cases h⟩

theorem WellFormed.follows_of_mem_candidates (h : d.WellFormed) {t : Transition}
    (ht : t ∈ d.transitions) (inline : t.isAsync = false) {event : Event}
    (hevent : event ∈ followUps d t) {name : TransitionName} (hname : name ∈ d.candidates event)
    (known : (d.transition? name).isSome = true) : d.chainGraph.Follows name t.name := by
  refine (follows_chainGraph_iff h.transitions_nodup).2 ⟨t, ht, rfl, inline, ?_, ?_⟩
  · simpa [transition?] using known
  · rcases List.mem_append.1 hevent with hentered | hcompleted
    · obtain ⟨p, hp, rfl⟩ := List.mem_map.1 hentered
      simp only [candidates] at hname
      cases hplace : d.place? p with
      | none => simp [hplace] at hname
      | some place =>
        simp only [hplace, Option.map_some, Option.getD_some] at hname
        exact .inr ⟨p, hp, place, hplace, hname⟩
    · rw [List.mem_singleton.1 hcompleted] at hname
      simp only [candidates, h.transition?_name ht, Option.map_some, Option.getD_some] at hname
      exact .inl hname

theorem Trail.chain_cons {event : Event} {fired : List TransitionName} (h : d.Trail event fired)
    {name : TransitionName} (hname : name ∈ d.candidates event)
    (known : (d.transition? name).isSome = true) :
    (name :: fired).IsChain d.chainGraph.Follows := by
  rw [List.isChain_cons]
  exact ⟨h.ahead name hname known, h.chain⟩

/-- **The next transition goes on with the trail**, and its events with what it leads on to. -/
theorem Trail.cons (h : d.WellFormed) {event : Event} {fired : List TransitionName}
    (trail : d.Trail event fired) {t : Transition} (hname : t.name ∈ d.candidates event)
    (known : d.transition? t.name = some t) (inline : t.isAsync = false) {next : Event}
    (hnext : next ∈ followUps d t) : d.Trail next (t.name :: fired) where
  inline := by
    refine List.cons_subset.2 ⟨List.mem_map_of_mem (List.mem_filter.2 ⟨?_, ?_⟩), trail.inline⟩
    · exact List.mem_of_find?_eq_some known
    · simp [inline]
  chain := trail.chain_cons hname (Option.isSome_of_eq_some known)
  ahead := by
    intro name hcandidate hknown last hlast
    cases hlast
    exact h.follows_of_mem_candidates (List.mem_of_find?_eq_some known) inline hnext hcandidate
      hknown

/-- **A chain of transitions that fire at once is no longer than there are of them**, in a definition
without cycles. -/
theorem length_le_of_isChain (acyclic : d.chainGraph.cycles = []) {fired : List TransitionName}
    (hchain : fired.IsChain d.chainGraph.Follows) (inline : fired ⊆ d.inlineNames) :
    fired.length ≤ d.inlineNames.length :=
  (List.Nodup.subperm (ChainGraph.nodup_of_chain (ChainGraph.wellFounded_of_cycles acyclic) hchain)
    inline).length_le

end Definition

namespace Dispatcher

variable {σ : Type} {x : Dispatcher} {services : Services σ} {d : Definition}

theorem enqueue_eq_error {t : Transition} {s : Subject} {w w' : σ} {e : DispatchError}
    (h : x.enqueue services d t s w = (.error e, w')) :
    (∃ cause, e = .store cause) ∨ ∃ cause, e = .bus cause := by
  revert h
  unfold enqueue
  split
  · simp
  · split
    · rintro ⟨⟩
      exact .inl ⟨_, rfl⟩
    · simp only
      split
      · rintro ⟨⟩
        exact .inr ⟨_, rfl⟩
      · simp

/-- **Every pending event has a trail**, and how much more may fire is the bound less its length. -/
def Charted (x : Dispatcher) (d : Definition) (c : ChainState σ) : Prop :=
  ∀ entry ∈ c.stack, ∃ fired, d.Trail entry.1 fired ∧ entry.2 + fired.length = x.maxChainDepth

theorem charted_roots (events : List Event) (report : Report) (s : Subject) (w : σ) :
    x.Charted d ⟨events.map (·, x.maxChainDepth), report, s, w⟩ := by
  intro entry hentry
  obtain ⟨event, _, rfl⟩ := List.mem_map.1 hentry
  exact ⟨[], .nil event, rfl⟩

section Bound

variable (h : d.WellFormed)
  (queued : ∀ t ∈ d.transitions, t.isAsync = true → x.locator.isAsync d.name t.name = true)

include queued in
theorem isAsync_eq_false {t : Transition} (ht : t ∈ d.transitions)
    (inline : x.locator.isAsync d.name t.name = false) : t.isAsync = false := by
  by_contra hasync
  have := queued t ht (by simpa using hasync)
  rw [inline] at this
  cases this

include h queued in
theorem charted_of_step {c c' : ChainState σ} (hstep : x.Step services d c c')
    (hc : x.Charted d c) : x.Charted d c' := by
  cases hstep with
  | settled | abandoned | sent => exact fun entry hentry => hc entry (List.mem_cons_of_mem _ hentry)
  | fired chosen inline =>
    obtain ⟨hname, known, _⟩ := firstEnabled?_eq_some chosen
    have hinline := isAsync_eq_false queued (mem_of_firstEnabled? chosen) inline
    obtain ⟨fired, trail, hlength⟩ := hc _ List.mem_cons_self
    intro entry hentry
    rcases List.mem_append.1 hentry with hnew | hrest
    · obtain ⟨next, hnext, rfl⟩ := List.mem_map.1 hnew
      refine ⟨_, trail.cons h hname known hinline hnext, ?_⟩
      simp only [List.length_cons] at hlength ⊢
      omega
    · exact hc entry (List.mem_cons_of_mem _ hrest)

include queued in
theorem ne_chainTooDeep_of_stop (acyclic : d.chainGraph.cycles = [])
    (bound : (d.transitions.filter (!·.isAsync)).length ≤ x.maxChainDepth) {c : ChainState σ}
    {r : Except DispatchError Report × Subject × σ} (hstop : x.Stop services d c r)
    (hc : x.Charted d c) (name : WorkflowName) (transition : TransitionName) (n : Nat) :
    r.1 ≠ .error (.chainTooDeep name transition n) := by
  cases hstop with
  | finished => simp
  | refused chosen queued outcome =>
    rcases enqueue_eq_error outcome with ⟨cause, rfl⟩ | ⟨cause, rfl⟩ <;> simp
  | tooDeep chosen inline =>
    exfalso
    obtain ⟨hname, known, _⟩ := firstEnabled?_eq_some chosen
    have ht := mem_of_firstEnabled? chosen
    obtain ⟨fired, trail, hlength⟩ := hc _ List.mem_cons_self
    have hle := d.length_le_of_isChain acyclic
      (trail.chain_cons hname (Option.isSome_of_eq_some known))
      (List.cons_subset.2 ⟨List.mem_map_of_mem (List.mem_filter.2
        ⟨ht, by simp [isAsync_eq_false queued ht inline]⟩), trail.inline⟩)
    simp only [List.length_cons, Definition.inlineNames, List.length_map] at hle hlength
    omega

end Bound

/-- **No call fails because too many transitions fired in a row**, if the search for cycles finds
nothing and the bound admits every transition that fires at once. -/
theorem call_ne_chainTooDeep (x : Dispatcher) (services : Services σ) (c : Call) {d : Definition}
    (registered : x.registry.get? c.workflow = some d) (valid : d.isValid = true)
    (acyclic : d.chainGraph.cycles = [])
    (queued : ∀ t ∈ d.transitions, t.isAsync = true → x.locator.isAsync d.name t.name = true)
    (bound : (d.transitions.filter (!·.isAsync)).length ≤ x.maxChainDepth) (s : Subject) (w : σ)
    (name : WorkflowName) (transition : TransitionName) (n : Nat) :
    (x.call services c s w).1 ≠ .error (.chainTooDeep name transition n) := by
  rcases x.opens_or_unchanged services c s w with ⟨e, events, report, s', hopens⟩ | ⟨_, h, hne⟩
  · obtain rfl : d = e := by
      have := (definitionFor_eq_ok_iff.1 hopens.definitionFor).1
      rw [registered] at this
      exact Option.some.inj this
    have keep : ∀ c c', x.Step services d c c' → x.Charted d c → x.Charted d c' :=
      fun _ _ hstep => charted_of_step (isValid_iff.1 valid) queued hstep
    obtain ⟨last, hlast, hstop⟩ := exists_stop_of_invariant keep (charted_roots events report s' w)
    have hne := ne_chainTooDeep_of_stop queued acyclic bound hstop hlast name transition n
    change (x.follow services d events report s' w).1 ≠ _ at hne
    rw [call_of_opens hopens]
    rcases hrun : x.follow services d events report s' w with ⟨_ | report', s'', w'⟩ <;>
      rw [hrun] at hne
    · simpa [Except.map] using hne
    · simp [Except.map]
  · rw [h]
    exact hne name transition n

/-- An asset is started without going too deep. -/
theorem call_ne_chainTooDeep_asset :
    assetFlow.chainGraph.cycles = [] ∧
      (assetDispatcher.call assetServices (.start "AssetFlow") asset assetWorld).1 ≠
        .error (.chainTooDeep "AssetFlow" "publish" assetDispatcher.maxChainDepth) := by
  have acyclic : assetFlow.chainGraph.cycles = [] := by decide
  have queued : ∀ t ∈ assetFlow.transitions, t.isAsync = true →
      assetDispatcher.locator.isAsync assetFlow.name t.name = true := by
    intro t ht hasync
    rcases List.mem_cons.1 ht with rfl | ht
    · exact isAsync_assetDispatcher.1
    · rw [List.mem_singleton.1 ht] at hasync
      cases hasync
  exact ⟨acyclic, call_ne_chainTooDeep assetDispatcher assetServices (.start "AssetFlow") (by decide)
    (by decide) acyclic queued (by decide) asset assetWorld _ _ _⟩

end Dispatcher

end WorkflowEngine
