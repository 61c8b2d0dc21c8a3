import Mathlib.Algebra.Ring.GeomSum
import WorkflowEngine.Dispatch.Dispatcher
import WorkflowEngine.Proofs.Dispatch.Step

/-!
# How many events a chain takes

Transitions may name each other in circles, and each one leads to several events. Still every chain
comes to its end: the events below one root form a tree, which branches no more than a transition has
events and is no deeper than the bound.

* `Visit`, `Dispatcher.Visits`: an event with its depth, and the events that a chain takes;
* `exists_visits`, `Visits.answer_eq`: a chain takes some events, and answers as they say;
* `Visits.report_eq`, `Visits.depth_lt`: what is reported, and how deep transitions fire;
* `Definition.width`: the most targets of a transition;
* `treeSize`, `forestSize`: the nodes of a tree, and of the trees below some events;
* `Visits.countP_le`: the visits that count are no more than the nodes of the trees;
* **`visits_follow`**: a chain takes finitely many events and stops, with bounds for both.
-/

namespace WorkflowEngine

/-- **A visit**: an event that was taken, how many transitions fired one below the other to bring it
about, and the transition that fired at it. -/
structure Visit where
  event : Event
  depth : Nat
  fired : Option TransitionName := none
  deriving DecidableEq, Repr

namespace Dispatcher

variable {σ : Type}

/-- **The events that a chain takes**, the one at which it breaks off included, and its answer. A
pending event has its depth, where a chain keeps what may still fire from it: the events of a
transition are one deeper than the event at which it fired. -/
inductive Visits (x : Dispatcher) (services : Services σ) (d : Definition) :
    List (Event × Nat) → Report → Subject → σ → List Visit →
      Except DispatchError Report × Subject × σ → Prop
  | finished {report s w} : Visits x services d [] report s w [] (.ok report, s, w)
  | settled {event depth rest report s w visits answer}
      (idle : x.firstEnabled? s d (d.candidates event) = none)
      (next : Visits x services d rest (report.saw event) s w visits answer) :
      Visits x services d ((event, depth) :: rest) report s w (⟨event, depth, none⟩ :: visits) answer
  | abandoned {event depth rest report s w t w' visits answer}
      (chosen : x.firstEnabled? s d (d.candidates event) = some t)
      (queued : x.locator.isAsync d.name t.name = true)
      (outcome : x.enqueue services d t s w = (.ok none, w'))
      (next : Visits x services d rest ((report.saw event).gaveUp t.name) s w' visits answer) :
      Visits x services d ((event, depth) :: rest) report s w (⟨event, depth, none⟩ :: visits) answer
  | sent {event depth rest report s w t e w' visits answer}
      (chosen : x.firstEnabled? s d (d.candidates event) = some t)
      (queued : x.locator.isAsync d.name t.name = true)
      (outcome : x.enqueue services d t s w = (.ok (some e), w'))
      (next : Visits x services d rest ((report.saw event).sent e) s w' visits answer) :
      Visits x services d ((event, depth) :: rest) report s w (⟨event, depth, none⟩ :: visits) answer
  | refused {event depth rest report s w t e w'}
      (chosen : x.firstEnabled? s d (d.candidates event) = some t)
      (queued : x.locator.isAsync d.name t.name = true)
      (outcome : x.enqueue services d t s w = (.error e, w')) :
      Visits x services d ((event, depth) :: rest) report s w [⟨event, depth, none⟩] (.error e, s, w')
  | tooDeep {event depth rest report s w t}
      (chosen : x.firstEnabled? s d (d.candidates event) = some t)
      (inline : x.locator.isAsync d.name t.name = false) (deep : x.maxChainDepth ≤ depth) :
      Visits x services d ((event, depth) :: rest) report s w [⟨event, depth, none⟩]
        (.error (.chainTooDeep d.name t.name x.maxChainDepth), s, w)
  | fired {event depth rest report s w t visits answer}
      (chosen : x.firstEnabled? s d (d.candidates event) = some t)
      (inline : x.locator.isAsync d.name t.name = false) (shallow : depth < x.maxChainDepth)
      (next : Visits x services d ((followUps d t).map (·, depth + 1) ++ rest)
        ((report.saw event).fired t.name) (fire s d t) w visits answer) :
      Visits x services d ((event, depth) :: rest) report s w
        (⟨event, depth, some t.name⟩ :: visits) answer

variable {x : Dispatcher} {services : Services σ} {d : Definition} {pending : List (Event × Nat)}
  {report : Report} {s : Subject} {w : σ} {visits : List Visit}
  {answer : Except DispatchError Report × Subject × σ}

/-! ## Chains and their visits -/

/-- Pending events with what may still fire in a row from them, in place of their depth. -/
def allowances (x : Dispatcher) (pending : List (Event × Nat)) : List (Event × Nat) :=
  pending.map fun entry => (entry.1, x.maxChainDepth - entry.2)

theorem allowances_cons (event : Event) (depth : Nat) (rest : List (Event × Nat)) :
    x.allowances ((event, depth) :: rest) = (event, x.maxChainDepth - depth) :: x.allowances rest :=
  rfl

theorem allowances_followUps (t : Transition) (depth : Nat) (rest : List (Event × Nat)) :
    x.allowances ((followUps d t).map (·, depth + 1) ++ rest) =
      (followUps d t).map (·, x.maxChainDepth - (depth + 1)) ++ x.allowances rest := by
  simp only [allowances, List.map_append, List.map_map, Function.comp_def]

theorem allowances_roots (roots : List Event) :
    x.allowances (roots.map (·, 0)) = roots.map (·, x.maxChainDepth) := by
  simp only [allowances, List.map_map, Function.comp_def, Nat.sub_zero]

theorem exists_sub_eq_succ {depth : Nat} (h : depth < x.maxChainDepth) :
    x.maxChainDepth - depth = x.maxChainDepth - (depth + 1) + 1 := by
  omega

/-- **A chain takes some events** and comes to its answer. The induction is on what the pending events
can still give rise to. -/
theorem exists_visits (x : Dispatcher) (services : Services σ) (d : Definition)
    (pending : List (Event × Nat)) (report : Report) (s : Subject) (w : σ) :
    ∃ visits, x.Visits services d pending report s w visits
      (x.runChain services d (x.allowances pending) report s w) := by
  induction hn : stackWeight d.breadth (x.allowances pending) using Nat.strongRecOn
    generalizing pending report s w with
  | _ n ih =>
    subst hn
    rcases pending with _ | ⟨⟨event, depth⟩, rest⟩
    · refine ⟨[], ?_⟩
      rw [allowances, List.map_nil, runChain_nil]
      exact .finished
    · have later := fun report s w => ih _ (stackWeight_rest_lt ..) rest report s w rfl
      rw [allowances_cons, runChain_cons]
      cases chosen : x.firstEnabled? s d (d.candidates event) with
      | none =>
        obtain ⟨visits, next⟩ := later (report.saw event) s w
        exact ⟨_, .settled chosen next⟩
      | some t =>
        cases queued : x.locator.isAsync d.name t.name with
        | true =>
          simp only [queued, if_true]
          rcases outcome : x.enqueue services d t s w with ⟨e | _ | e, w'⟩
          · exact ⟨_, .refused chosen queued outcome⟩
          · obtain ⟨visits, next⟩ := later ((report.saw event).gaveUp t.name) s w'
            exact ⟨_, .abandoned chosen queued outcome next⟩
          · obtain ⟨visits, next⟩ := later ((report.saw event).sent e) s w'
            exact ⟨_, .sent chosen queued outcome next⟩
        | false =>
          simp only [queued, Bool.false_eq_true, if_false]
          rcases Nat.lt_or_ge depth x.maxChainDepth with shallow | deep
          · have hless := stackWeight_followUps_lt
              (length_followUps_le (mem_of_firstEnabled? chosen)) event
              (x.maxChainDepth - (depth + 1)) (x.allowances rest)
            rw [← exists_sub_eq_succ shallow, ← allowances_followUps] at hless
            obtain ⟨visits, next⟩ :=
              ih _ hless _ ((report.saw event).fired t.name) (fire s d t) w rfl
            rw [allowances_followUps] at next
            rw [exists_sub_eq_succ shallow]
            exact ⟨_, .fired chosen queued shallow next⟩
          · rw [Nat.sub_eq_zero_of_le deep]
            exact ⟨_, .tooDeep chosen queued deep⟩

theorem Visits.answer_eq (h : x.Visits services d pending report s w visits answer) :
    answer = x.runChain services d (x.allowances pending) report s w := by
  induction h with
  | finished => exact (runChain_nil ..).symm
  | settled idle _ ih => rw [ih, allowances_cons, runChain_cons, idle]
  | abandoned chosen queued outcome _ ih | sent chosen queued outcome _ ih =>
    rw [ih, allowances_cons, runChain_cons, chosen]
    simp only [queued, outcome, if_true]
  | refused chosen queued outcome =>
    rw [allowances_cons, runChain_cons, chosen]
    simp only [queued, outcome, if_true]
  | tooDeep chosen inline deep =>
    rw [allowances_cons, runChain_cons, chosen, Nat.sub_eq_zero_of_le deep]
    simp only [inline, Bool.false_eq_true, if_false]
  | fired chosen inline shallow _ ih =>
    rw [ih, allowances_followUps, allowances_cons, runChain_cons, chosen,
      exists_sub_eq_succ shallow]
    simp only [inline, Bool.false_eq_true, if_false]

theorem Visits.report_eq (h : x.Visits services d pending report s w visits answer)
    {report' : Report} (ok : answer.1 = .ok report') :
    report'.events = report.events ++ visits.map (·.event) ∧
      report'.applied = report.applied ++ visits.filterMap (·.fired) := by
  induction h with
  | finished =>
    cases ok
    simp
  | refused | tooDeep => cases ok
  | settled _ _ ih | abandoned _ _ _ _ ih | sent _ _ _ _ ih | fired _ _ _ _ ih =>
    obtain ⟨hevents, happlied⟩ := ih ok
    rw [hevents, happlied]
    simp [Report.saw, Report.gaveUp, Report.sent, Report.fired]

theorem Visits.depth_lt (h : x.Visits services d pending report s w visits answer) :
    ∀ v ∈ visits, v.fired.isSome = true → v.depth < x.maxChainDepth := by
  induction h with
  | finished => simp
  | refused | tooDeep => simp
  | settled _ _ ih | abandoned _ _ _ _ ih | sent _ _ _ _ ih => simpa using ih
  | fired _ _ shallow _ ih =>
    refine List.forall_mem_cons.2 ⟨fun _ => shallow, ih⟩

end Dispatcher

/-! ## Counting -/

/-- **The most targets of a transition** of a definition. -/
def Definition.width (d : Definition) : Nat := (d.transitions.map (·.targets.length)).max?.getD 0

theorem length_followUps_le_width {d : Definition} {t : Transition} (h : t ∈ d.transitions) :
    (followUps d t).length ≤ d.width + 1 := by
  have hle : t.targets.length ≤ d.width :=
    List.le_max?_getD_of_mem (List.mem_map_of_mem (f := fun t => t.targets.length) h)
  simpa [followUps] using hle

/-- **The nodes of a tree** of some levels, each of them with so many below it. -/
def treeSize (branches levels : Nat) : Nat := ∑ i ∈ Finset.range levels, branches ^ i

theorem treeSize_succ (branches levels : Nat) :
    treeSize branches (levels + 1) = branches * treeSize branches levels + 1 := geom_sum_succ

theorem le_treeSize (branches levels : Nat) : levels ≤ treeSize (branches + 1) levels := by
  induction levels with
  | zero => exact Nat.zero_le _
  | succ levels ih =>
    rw [treeSize_succ, Nat.succ_mul]
    omega

/-- The nodes of the trees below some entries, as many levels each as they allow and some more. -/
def forestSize (branches extra : Nat) (entries : List (Event × Nat)) : Nat :=
  (entries.map fun entry => treeSize branches (entry.2 + extra)).sum

theorem forestSize_cons (branches extra left : Nat) (event : Event) (rest : List (Event × Nat)) :
    forestSize branches extra ((event, left) :: rest) =
      treeSize branches (left + extra) + forestSize branches extra rest := by
  simp only [forestSize, List.map_cons, List.sum_cons]

theorem forestSize_append (branches extra left : Nat) (events : List Event)
    (rest : List (Event × Nat)) :
    forestSize branches extra (events.map (·, left) ++ rest) =
      events.length * treeSize branches (left + extra) + forestSize branches extra rest := by
  simp only [forestSize, List.map_append, List.map_map, Function.comp_def, List.map_const',
    List.sum_append, List.sum_replicate, nsmul_eq_mul, Nat.cast_id]

namespace Dispatcher

variable {σ : Type} {x : Dispatcher} {services : Services σ} {d : Definition}
  {pending : List (Event × Nat)} {report : Report} {s : Subject} {w : σ} {visits : List Visit}
  {answer : Except DispatchError Report × Subject × σ}

/-- **The visits that count are no more than the nodes of the trees** below the pending events. A tree
has a level for each transition that may fire in a row, and one more where events at which nothing
fires count as well. -/
theorem Visits.countP_le (h : x.Visits services d pending report s w visits answer)
    (counts : Visit → Bool) (extra : Nat)
    (unfired : ∀ event depth, counts ⟨event, depth, none⟩ = true → 1 ≤ extra) :
    visits.countP counts ≤ forestSize (d.width + 1) extra (x.allowances pending) := by
  have hnode : ∀ event depth left, (if counts ⟨event, depth, none⟩ = true then 1 else 0) ≤
      treeSize (d.width + 1) (left + extra) := by
    intro event depth left
    have hlevels := le_treeSize d.width (left + extra)
    split
    · next hcounts =>
      have := unfired event depth hcounts
      omega
    · exact Nat.zero_le _
  induction h with
  | finished => exact Nat.zero_le _
  | @settled event depth rest _ _ _ _ _ _ _ ih | @abandoned event depth rest _ _ _ _ _ _ _ _ _ _ _ ih
  | @sent event depth rest _ _ _ _ _ _ _ _ _ _ _ _ ih =>
    have := hnode event depth (x.maxChainDepth - depth)
    rw [List.countP_cons, allowances_cons, forestSize_cons]
    omega
  | @refused event depth | @tooDeep event depth =>
    have := hnode event depth (x.maxChainDepth - depth)
    rw [List.countP_cons, List.countP_nil, allowances_cons, forestSize_cons]
    omega
  | @fired event depth rest _ _ _ t _ _ chosen _ shallow _ ih =>
    -- the trees below the events of the transition, with the event itself, are the tree below it
    have hbranches := Nat.mul_le_mul_right
      (treeSize (d.width + 1) (x.maxChainDepth - (depth + 1) + extra))
      (length_followUps_le_width (mem_of_firstEnabled? chosen))
    have hone : (if counts ⟨event, depth, some t.name⟩ = true then 1 else 0) ≤ 1 := by
      split <;> omega
    rw [allowances_followUps, forestSize_append] at ih
    rw [List.countP_cons, allowances_cons, forestSize_cons, exists_sub_eq_succ shallow,
      Nat.add_right_comm, treeSize_succ]
    omega

/-- **A chain stops after finitely many events**, however its transitions name each other. It takes
some events one after the other and comes to an answer. If a transition has `m` targets at most, it
takes no more events from each root than a tree has nodes in which every node has `m + 1` below it,
down to the bound; no more transitions fire than there are nodes above the last level, and none fires
as deep as the bound. A report lists the events that were taken and the transitions that fired. -/
theorem visits_follow (x : Dispatcher) (services : Services σ) (d : Definition) (roots : List Event)
    (report : Report) (s : Subject) (w : σ) :
    (∃ visits, x.Visits services d (roots.map (·, 0)) report s w visits
      (x.follow services d roots report s w)) ∧
    ∀ visits answer, x.Visits services d (roots.map (·, 0)) report s w visits answer →
      answer = x.follow services d roots report s w ∧
      visits.length ≤
        roots.length * ∑ i ∈ Finset.range (x.maxChainDepth + 1), (d.width + 1) ^ i ∧
      visits.countP (·.fired.isSome) ≤
        roots.length * ∑ i ∈ Finset.range x.maxChainDepth, (d.width + 1) ^ i ∧
      (∀ v ∈ visits, v.fired.isSome = true → v.depth < x.maxChainDepth) ∧
      ∀ report', answer.1 = .ok report' →
        report'.events = report.events ++ visits.map (·.event) ∧
          report'.applied = report.applied ++ visits.filterMap (·.fired) := by
  have hforest : ∀ extra, forestSize (d.width + 1) extra (x.allowances (roots.map (·, 0))) =
      roots.length * treeSize (d.width + 1) (x.maxChainDepth + extra) := by
    intro extra
    have happend := forestSize_append (d.width + 1) extra x.maxChainDepth roots []
    rw [List.append_nil] at happend
    rw [allowances_roots, happend]
    rfl
  refine ⟨?_, fun visits answer h => ⟨?_, ?_, ?_, h.depth_lt, fun _ ok => h.report_eq ok⟩⟩
  · rw [follow, ← allowances_roots]
    exact exists_visits x services d _ report s w
  · rw [follow, ← allowances_roots]
    exact h.answer_eq
  · have hall := h.countP_le (fun _ => true) 1 fun _ _ _ => Nat.le_refl 1
    rwa [hforest, List.countP_true] at hall
  · have hfired := h.countP_le (·.fired.isSome) 0 fun _ _ h => by cases h
    rwa [hforest] at hfired

end Dispatcher

end WorkflowEngine
