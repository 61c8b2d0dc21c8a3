import WorkflowEngine.Proofs.Dispatch.Entity
import WorkflowEngine.Proofs.Workflow.Validity

/-!
# The walk of a state machine

If automatic chaining is declared on places only, a chain of a state machine is a walk: each place
leads on to the first transition that is enabled there. Where a transition is queued, the chain stops
and the rest of the walk is still to come.

* `Definition.PlaceChained`: state machines whose transitions name nothing to go on with;
* `Walk`, `Walk.alike`: what fires from a place on, for a subject and those alike;
* `Walk.sameEntity`: a walk leaves the entity alone;
* **`walk_of_runChain`**: a chain in which everything fires at once is a walk;
* `Dispatcher.Pause`, **`runChain_of_walk`**: a chain follows a walk up to its first queued
  transition.
-/

namespace WorkflowEngine

/-- **A state machine that chains from its places only.** -/
structure Definition.PlaceChained (d : Definition) : Prop extends d.WellFormed where
  machine : d.kind = .stateMachine
  next_eq_nil : ∀ t ∈ d.transitions, t.metadata.next = []

namespace Definition.PlaceChained

variable {d : Definition}

theorem exists_followUps (h : d.PlaceChained) {t : Transition} (ht : t ∈ d.transitions) :
    ∃ place, followUps d t = [.entered d.name place, .completed d.name t.name] := by
  obtain ⟨place, htargets⟩ := h.exists_target h.machine ht
  exact ⟨place, by simp only [followUps, htargets, List.map_cons, List.map_nil, List.cons_append,
    List.nil_append]⟩

theorem candidates_completed (h : d.PlaceChained) {t : Transition} (ht : t ∈ d.transitions)
    (workflow : WorkflowName) : d.candidates (.completed workflow t.name) = [] := by
  simp only [candidates, h.transition?_name ht, Option.map_some, Option.getD_some,
    h.next_eq_nil t ht]

theorem exists_initial (h : d.PlaceChained) : ∃ place, d.initial.places = [place] :=
  List.length_eq_one_iff.1 (h.length_initial h.machine)

end Definition.PlaceChained

/-! ## Walks -/

/-- **The transitions that fire one after the other** when a subject entered a place, and the subject
at the end. -/
inductive Walk (x : Dispatcher) (d : Definition) :
    Subject → PlaceName → List Transition → Subject → Prop
  | stop {s place} (idle : x.firstEnabled? s d (d.candidates (.entered d.name place)) = none) :
      Walk x d s place [] s
  | hop {s place t next ts s'}
      (chosen : x.firstEnabled? s d (d.candidates (.entered d.name place)) = some t)
      (leads : followUps d t = [.entered d.name next, .completed d.name t.name])
      (walk : Walk x d (fire s d t) next ts s') : Walk x d s place (t :: ts) s'

namespace Walk

variable {x : Dispatcher} {d : Definition} {s₁ s₂ : Subject} {place : PlaceName} {ts : List Transition}

theorem alike (reads : x.ReadsKept) (registered : d ∈ x.registry.definitions)
    (h : Walk x d s₁ place ts s₂) {s₁' : Subject} (hs : s₁.Alike x.registry s₁') :
    ∃ s₂', Walk x d s₁' place ts s₂' ∧ s₂.Alike x.registry s₂' := by
  have chooses : ∀ {s s' : Subject}, s.Alike x.registry s' → ∀ names,
      x.firstEnabled? s' d names = x.firstEnabled? s d names :=
    fun h => reads.firstEnabled? h registered
  induction h generalizing s₁' with
  | stop idle => exact ⟨s₁', .stop ((chooses hs _).trans idle), hs⟩
  | @hop s place t next ts s' chosen leads _ ih =>
    obtain ⟨s₂', hwalk, hs₂⟩ := ih (hs.fire registered t)
    exact ⟨s₂', .hop ((chooses hs _).trans chosen) leads hwalk, hs₂⟩

theorem of_choice {y : Dispatcher}
    (same : ∀ s names, y.firstEnabled? s d names = x.firstEnabled? s d names)
    (h : Walk x d s₁ place ts s₂) : Walk y d s₁ place ts s₂ := by
  induction h with
  | stop idle => exact .stop ((same _ _).trans idle)
  | hop chosen leads _ ih => exact .hop ((same _ _).trans chosen) leads ih

theorem mem_transitions {t : Transition} (h : Walk x d s₁ place (t :: ts) s₂) :
    t ∈ d.transitions := by
  cases h with
  | hop chosen => exact mem_of_firstEnabled? chosen

theorem sameEntity (h : Walk x d s₁ place ts s₂) : s₁.SameEntity s₂ := by
  induction h with
  | stop => exact .refl _
  | hop _ _ _ ih => exact (Subject.sameEntity_fire _ d _).trans ih

end Walk

namespace Dispatcher

variable {σ : Type} {x : Dispatcher} {services : Services σ} {d : Definition}

theorem runChain_of_candidates_eq_nil (x : Dispatcher) (services : Services σ)
    {stack : List (Event × Nat)} (h : ∀ entry ∈ stack, d.candidates entry.1 = [])
    (report : Report) (s : Subject) (w : σ) :
    ∃ report', x.runChain services d stack report s w = (.ok report', s, w) ∧
      report'.applied = report.applied := by
  induction stack generalizing report with
  | nil => exact ⟨report, runChain_nil report s w, rfl⟩
  | cons entry stack ih =>
    obtain ⟨report', hrun, happlied⟩ :=
      ih (fun e he => h e (List.mem_cons_of_mem _ he)) (report.saw entry.1)
    refine ⟨report', ?_, happlied⟩
    rw [runChain_cons, h entry List.mem_cons_self]
    exact hrun

theorem runChain_of_idle (x : Dispatcher) (services : Services σ) {s : Subject} {event : Event}
    {rest : List (Event × Nat)} (idle : x.firstEnabled? s d (d.candidates event) = none)
    (hrest : ∀ entry ∈ rest, d.candidates entry.1 = []) (left : Nat) (report : Report) (w : σ) :
    ∃ report', x.runChain services d ((event, left) :: rest) report s w = (.ok report', s, w) ∧
      report'.applied = report.applied := by
  obtain ⟨report', hend, happlied⟩ := runChain_of_candidates_eq_nil x services hrest
    (report.saw event) s w
  refine ⟨report', ?_, happlied⟩
  rw [runChain_cons, idle]
  exact hend

theorem walk_of_idle {s s' : Subject} {place : PlaceName} {rest : List (Event × Nat)} {left : Nat}
    {report report' : Report} {w w' : σ}
    (idle : x.firstEnabled? s d (d.candidates (.entered d.name place)) = none)
    (hrest : ∀ entry ∈ rest, d.candidates entry.1 = [])
    (hrun : x.runChain services d ((.entered d.name place, left) :: rest) report s w =
      (.ok report', s', w')) :
    Walk x d s place [] s' ∧ report'.applied = report.applied := by
  obtain ⟨report'', hend, happlied⟩ := runChain_of_idle x services idle hrest left report w
  rw [hend] at hrun
  cases hrun
  exact ⟨.stop idle, happlied⟩

theorem candidates_completed_cons (h : d.PlaceChained) {t : Transition} (ht : t ∈ d.transitions)
    {left : Nat} {rest : List (Event × Nat)} (hrest : ∀ entry ∈ rest, d.candidates entry.1 = []) :
    ∀ entry ∈ (Event.completed d.name t.name, left) :: rest, d.candidates entry.1 = [] := by
  intro entry hentry
  rcases List.mem_cons.1 hentry with rfl | hentry
  · exact h.candidates_completed ht d.name
  · exact hrest entry hentry

/-- **A chain in which everything fires at once is a walk.** The induction is on the number of
transitions that may still fire. -/
theorem walk_of_runChain (h : d.PlaceChained)
    (inline : ∀ t ∈ d.transitions, x.locator.isAsync d.name t.name = false) (left : Nat) :
    ∀ {place : PlaceName} {rest : List (Event × Nat)} {report report' : Report} {s s' : Subject}
      {w w' : σ}, (∀ entry ∈ rest, d.candidates entry.1 = []) →
      x.runChain services d ((.entered d.name place, left) :: rest) report s w =
        (.ok report', s', w') →
      ∃ ts, Walk x d s place ts s' ∧ ts.length ≤ left ∧
        report'.applied = report.applied ++ ts.map (·.name) := by
  induction left with
  | zero =>
    intro place rest report report' s s' w w' hrest hrun
    cases chosen : x.firstEnabled? s d (d.candidates (.entered d.name place)) with
    | none =>
      obtain ⟨hwalk, happlied⟩ := walk_of_idle chosen hrest hrun
      exact ⟨[], hwalk, Nat.le_refl 0, by simp [happlied]⟩
    | some t =>
      have hinline := inline t (mem_of_firstEnabled? chosen)
      rw [runChain_cons, chosen] at hrun
      simp [hinline] at hrun
  | succ left ih =>
    intro place rest report report' s s' w w' hrest hrun
    cases chosen : x.firstEnabled? s d (d.candidates (.entered d.name place)) with
    | none =>
      obtain ⟨hwalk, happlied⟩ := walk_of_idle chosen hrest hrun
      exact ⟨[], hwalk, Nat.zero_le _, by simp [happlied]⟩
    | some t =>
      have ht := mem_of_firstEnabled? chosen
      obtain ⟨next, leads⟩ := h.exists_followUps ht
      rw [runChain_cons, chosen] at hrun
      simp only [inline t ht, Bool.false_eq_true, if_false, leads, List.map_cons, List.map_nil,
        List.cons_append, List.nil_append] at hrun
      obtain ⟨ts, hwalk, hlength, happlied⟩ := ih (candidates_completed_cons h ht hrest) hrun
      refine ⟨t :: ts, .hop chosen leads hwalk, Nat.succ_le_succ hlength, ?_⟩
      rw [happlied]
      simp [Report.saw, Report.fired]

/-- The queued transitions of a walk. -/
def queuedOf (x : Dispatcher) (d : Definition) (ts : List Transition) : List Transition :=
  ts.filter fun t => x.locator.isAsync d.name t.name

/-- **Where a chain that follows a walk ends**: with the walk, or with its first queued transition,
which was sent while the rest of the walk is still to come. -/
inductive Pause (x : Dispatcher) (services : Services σ) (d : Definition) (ts : List Transition)
    (last : Subject) (w : σ) : Subject → σ → Prop
  | arrived (inline : x.queuedOf d ts = []) : Pause x services d ts last w last w
  | queued {s place t rest e w'} (walk : Walk x d s place (t :: rest) last)
      (queued : x.locator.isAsync d.name t.name = true)
      (sent : x.enqueue services d t s w = (.ok (some e), w'))
      (length : (t :: rest).length ≤ ts.length)
      (same : x.queuedOf d (t :: rest) = x.queuedOf d ts) : Pause x services d ts last w s w'

theorem Pause.cons {t : Transition} (inline : x.locator.isAsync d.name t.name = false)
    {ts : List Transition} {last s : Subject} {w w' : σ}
    (h : x.Pause services d ts last w s w') : x.Pause services d (t :: ts) last w s w' := by
  have hsame : x.queuedOf d (t :: ts) = x.queuedOf d ts := by
    rw [queuedOf, List.filter_cons, inline]
    rfl
  cases h with
  | arrived hnone => exact .arrived (hsame.trans hnone)
  | queued walk queued sent length same =>
    exact .queued walk queued sent (Nat.le_succ_of_le length) (same.trans hsame.symm)

/-- **A chain follows a walk up to its first queued transition**, if that can be sent. The induction
follows the walk. -/
theorem runChain_of_walk (h : d.PlaceChained) {s₀ last : Subject} {place : PlaceName}
    {ts : List Transition} (walk : Walk x d s₀ place ts last)
    {w : σ} (sends : ∀ s t, s₀.SameEntity s → t ∈ d.transitions →
      x.locator.isAsync d.name t.name = true →
      ∃ e w', x.enqueue services d t s w = (.ok (some e), w'))
    {left : Nat} (length : ts.length ≤ left) {rest : List (Event × Nat)}
    (hrest : ∀ entry ∈ rest, d.candidates entry.1 = []) (report : Report) :
    ∃ report' s w',
      x.runChain services d ((.entered d.name place, left) :: rest) report s₀ w =
        (.ok report', s, w') ∧ x.Pause services d ts last w s w' := by
  induction walk generalizing left rest report with
  | @stop s place idle =>
    obtain ⟨report', hend, _⟩ := runChain_of_idle x services idle hrest left report w
    exact ⟨report', s, w, hend, .arrived rfl⟩
  | @hop s place t next ts last chosen leads walk ih =>
    have ht := mem_of_firstEnabled? chosen
    rw [runChain_cons, chosen]
    cases queued : x.locator.isAsync d.name t.name with
    | true =>
      obtain ⟨e, w', sent⟩ := sends s t (.refl s) ht queued
      obtain ⟨report', hend, _⟩ := runChain_of_candidates_eq_nil x services hrest
        ((report.saw (.entered d.name place)).sent e) s w'
      refine ⟨report', s, w', ?_,
        .queued (.hop chosen leads walk) queued sent (Nat.le_refl _) rfl⟩
      simp only [queued, if_true, sent]
      exact hend
    | false =>
      obtain ⟨left, rfl⟩ : ∃ n, left = n + 1 :=
        ⟨left - 1, by simp only [List.length_cons] at length; omega⟩
      have sends' : ∀ s' t', (fire s d t).SameEntity s' → t' ∈ d.transitions →
          x.locator.isAsync d.name t'.name = true →
          ∃ e w', x.enqueue services d t' s' w = (.ok (some e), w') :=
        fun s' t' same => sends s' t' ((Subject.sameEntity_fire s d t).trans same)
      obtain ⟨report', s', w', hrun, hpause⟩ := ih sends' (Nat.le_of_succ_le_succ length)
        (candidates_completed_cons h ht hrest) ((report.saw (.entered d.name place)).fired t.name)
      refine ⟨report', s', w', ?_, hpause.cons queued⟩
      simp only [queued, Bool.false_eq_true, if_false, leads, List.map_cons, List.map_nil,
        List.cons_append, List.nil_append]
      exact hrun

end Dispatcher

end WorkflowEngine
