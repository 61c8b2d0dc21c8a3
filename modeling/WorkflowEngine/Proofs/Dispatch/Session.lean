import WorkflowEngine.Proofs.Dispatch.Call
import WorkflowEngine.Proofs.Workflow.Validity

/-!
# Where a subject stands in the course of calls

A subject goes through calls of any kind, in any of its workflows, one after the other. Its entity may
change at any time in everything but its markings, and with it what the guards say; and while a chain
is followed the locator and the services may answer differently at every event.

* `Moment`, `Moment.Next`, `Moment.Reached`: the moments that a subject may live through;
* `exists_reached_call`: what a call leaves behind is such a moment;
* `Definition.Holds`: a marking that a definition allows; `holds_initial`, `holds_advance`;
* `Moment.Sound`, `sound_of_next`: the invariant, and that no moment breaks it;
* **`marking_of_reached`**: at every moment a subject stands in declared places, in one place of a
  state machine that it has started, and where it stood in the workflows that no call is about.
-/

namespace WorkflowEngine

open Relation

/-- The workflows in which a call puts its subject at the start. -/
def Call.starts : Call → List WorkflowName
  | .start workflow => [workflow]
  | _ => []

/-- **A moment in the life of a subject**: the definition and the events of the chain being followed,
the call made last with the subject it was made on, and the workflows that were started. -/
structure Moment where
  subject : Subject
  pending : Option (Definition × List (Event × Nat)) := none
  last : Option (Call × Subject) := none
  started : List WorkflowName := []

namespace Moment

/-- **One moment follows another.** Only the registry stays the same throughout. -/
inductive Next (r : Registry) : Moment → Moment → Prop
  | edited {s s' pending last started} (same : s'.markings = s.markings) :
      Next r ⟨s, pending, last, started⟩ ⟨s', pending, last, started⟩
  | unchanged {σ : Type} {x : Dispatcher} {services : Services σ} {c s w outcome last started}
      (registered : x.registry = r) (answer : x.call services c s w = (outcome, s, w)) :
      Next r ⟨s, none, last, started⟩ ⟨s, none, some (c, s), started⟩
  | opened {x : Dispatcher} {c s d events report s' last started} (registered : x.registry = r)
      (opens : x.Opens c s d events report s') :
      Next r ⟨s, none, last, started⟩
        ⟨s', some (d, events.map (·, x.maxChainDepth)), some (c, s), c.starts ++ started⟩
  | stepped {σ : Type} {x : Dispatcher} {services : Services σ}
      {d stack report s w stack' report' s' w' last started}
      (step : x.Step services d ⟨stack, report, s, w⟩ ⟨stack', report', s', w'⟩) :
      Next r ⟨s, some (d, stack), last, started⟩ ⟨s', some (d, stack'), last, started⟩
  | ended {σ : Type} {x : Dispatcher} {services : Services σ}
      {d stack report s w outcome s' w' last started}
      (stop : x.Stop services d ⟨stack, report, s, w⟩ (outcome, s', w')) :
      Next r ⟨s, some (d, stack), last, started⟩ ⟨s', none, last, started⟩

/-- **The moments that a subject without markings may come to.** -/
def Reached (r : Registry) (m : Moment) : Prop :=
  ∃ s : Subject, (∀ name, s.marking name = .empty) ∧ ReflTransGen (Next r) { subject := s } m

/-! ## Calls pass through moments -/

section Calls

variable {r : Registry} {σ : Type} {x : Dispatcher} {services : Services σ}

theorem reflTransGen_of_steps {d : Definition} {c c' : ChainState σ}
    (h : ReflTransGen (x.Step services d) c c') (last : Option (Call × Subject))
    (started : List WorkflowName) :
    ReflTransGen (Next r) ⟨c.subject, some (d, c.stack), last, started⟩
      ⟨c'.subject, some (d, c'.stack), last, started⟩ := by
  induction h with
  | refl => exact .refl
  | tail _ step ih => exact ih.tail (.stepped step)

/-- **What a call leaves behind is a moment**, the workflow counted as started if the call put the
subject there. -/
theorem exists_reached_call {m : Moment} (h : Reached r m) (hm : m.pending = none)
    (registered : x.registry = r) (services : Services σ) (c : Call) (w : σ) :
    ∃ m', Reached r m' ∧ m'.pending = none ∧ m'.last = some (c, m.subject) ∧
      m'.subject = (x.call services c m.subject w).2.1 ∧
      ∀ d, x.definitionFor m.subject c.workflow = .ok d → ∀ name ∈ c.starts, name ∈ m'.started := by
  obtain ⟨s₀, hempty, hrun⟩ := h
  obtain ⟨s, pending, last, started⟩ := m
  obtain rfl : pending = none := hm
  by_cases hopen : ∃ d events report s', x.Opens c s d events report s'
  · obtain ⟨d, events, report, s', opens⟩ := hopen
    obtain ⟨c', hsteps, hstop⟩ :=
      x.exists_stop services d ⟨events.map (·, x.maxChainDepth), report, s', w⟩
    have hend : ReflTransGen (Next r) { subject := s₀ }
        ⟨(x.call services c s w).2.1, none, some (c, s), c.starts ++ started⟩ := by
      rw [Dispatcher.call_of_opens opens]
      exact ((hrun.tail (.opened registered opens)).trans
        (reflTransGen_of_steps hsteps _ _)).tail (.ended hstop)
    exact ⟨_, ⟨s₀, hempty, hend⟩, rfl, rfl, rfl, fun _ _ name hn => List.mem_append_left _ hn⟩
  · obtain ⟨outcome, answer, _⟩ := (x.opens_or_unchanged services c s w).resolve_left hopen
    refine ⟨⟨s, none, some (c, s), started⟩,
      ⟨s₀, hempty, hrun.tail (.unchanged registered answer)⟩, rfl, rfl, ?_, ?_⟩
    · rw [answer]
    · intro d found name hn
      cases c with
      | start workflow => exact absurd ⟨d, _, _, _, .start found⟩ hopen
      | entered | completed | apply | applyIfEnabled => cases hn

end Calls

end Moment

/-! ## Markings that a definition allows -/

/-- **A marking that a definition allows**: declared places, and in a state machine at most one of
them, exactly one once the workflow was started. -/
def Definition.Holds (d : Definition) (started : Prop) (m : Marking) : Prop :=
  (∀ p ∈ m.places, d.hasPlace p = true) ∧
    (d.kind = .stateMachine → m.places.length ≤ 1 ∧ (started → m.places.length = 1))

namespace Definition

variable {d : Definition}

theorem holds_empty : d.Holds False .empty := by
  refine ⟨?_, fun _ => ⟨?_, False.elim⟩⟩
  · intro p hp
    cases hp
  · exact Nat.zero_le 1

theorem holds_initial (h : d.WellFormed) (started : Prop) : d.Holds started d.initial := by
  refine ⟨fun p hp => h.hasPlace_initial hp, fun hk => ?_⟩
  have hlen := h.length_initial hk
  exact ⟨Nat.le_of_eq hlen, fun _ => hlen⟩

theorem holds_advance (h : d.WellFormed) {m : Marking} {before : Prop} (hm : d.Holds before m)
    {t : Transition} (ht : t ∈ d.transitions) (started : Prop) :
    d.Holds started (m.advance d.kind t) := by
  refine ⟨fun p hp => h.hasPlace_advance ht hm.1 hp, fun hk => ?_⟩
  have hlen := h.length_advance hk m ht
  exact ⟨Nat.le_of_eq hlen, fun _ => hlen⟩

end Definition

/-! ## The invariant -/

namespace Moment

/-- **What holds at every moment**: each marking is allowed, the chain being followed belongs to the
call made last, and that call moved nothing in other workflows. -/
structure Sound (r : Registry) (m : Moment) : Prop where
  holds : ∀ d ∈ r.definitions, d.Holds (d.name ∈ m.started) (m.subject.marking d.name)
  following : ∀ d stack, m.pending = some (d, stack) →
    d ∈ r.definitions ∧ ∃ c s, m.last = some (c, s) ∧ d.name = c.workflow
  elsewhere : ∀ c s, m.last = some (c, s) → ∀ name, name ≠ c.workflow →
    m.subject.marking name = s.marking name

variable {r : Registry}

theorem holds_mark {d : Definition} (hd : d ∈ r.definitions) {s : Subject}
    {started started' : List WorkflowName} {m : Marking}
    (hs : ∀ e ∈ r.definitions, e.Holds (e.name ∈ started) (s.marking e.name))
    (hm : d.Holds (d.name ∈ started') m)
    (hstarted : ∀ name, name ≠ d.name → name ∈ started' → name ∈ started) :
    ∀ e ∈ r.definitions, e.Holds (e.name ∈ started') ((s.mark d.name m).marking e.name) := by
  intro e he
  by_cases hname : e.name = d.name
  · obtain rfl := List.inj_on_of_nodup_map r.nodup he hd hname
    rw [Subject.marking_mark_self]
    exact hm
  · rw [s.marking_mark_of_ne hname]
    obtain ⟨hplaces, hsingle⟩ := hs e he
    exact ⟨hplaces, fun hk => ⟨(hsingle hk).1, fun h => (hsingle hk).2 (hstarted _ hname h)⟩⟩

theorem holds_fire {d : Definition} (hd : d ∈ r.definitions) (hw : d.WellFormed) {s : Subject}
    {started : List WorkflowName}
    (hs : ∀ e ∈ r.definitions, e.Holds (e.name ∈ started) (s.marking e.name)) {t : Transition}
    (ht : t ∈ d.transitions) :
    ∀ e ∈ r.definitions, e.Holds (e.name ∈ started) ((fire s d t).marking e.name) :=
  holds_mark hd hs (d.holds_advance hw (hs d hd) ht _) fun _ _ h => h

theorem holds_of_opens (valid : ∀ d ∈ r.definitions, d.WellFormed) {x : Dispatcher}
    (registered : x.registry = r) {c : Call} {s s' : Subject} {d : Definition}
    {events : List Event} {report : Report} (opens : x.Opens c s d events report s')
    {started : List WorkflowName}
    (hs : ∀ e ∈ r.definitions, e.Holds (e.name ∈ started) (s.marking e.name)) :
    ∀ e ∈ r.definitions, e.Holds (e.name ∈ c.starts ++ started) (s'.marking e.name) := by
  have hd : d ∈ r.definitions := registered ▸ opens.registered.1
  have hname := opens.registered.2
  cases opens with
  | start =>
    change d.name = _ at hname
    subst hname
    refine holds_mark hd hs (d.holds_initial (valid d hd) _) ?_
    intro name hne hmem
    exact (List.mem_cons.1 hmem).resolve_left hne
  | entered | completed => exact hs
  | apply _ known | applyIfEnabled _ known =>
    exact holds_fire hd (valid d hd) hs (List.mem_of_find?_eq_some known)

theorem sound_init {s : Subject} (h : ∀ name, s.marking name = .empty) :
    Sound r { subject := s } := by
  refine ⟨fun d _ => ?_, ?_, ?_⟩
  · change d.Holds (d.name ∈ []) (s.marking d.name)
    rw [h, eq_false (List.not_mem_nil)]
    exact d.holds_empty
  · rintro d stack ⟨⟩
  · rintro c s' ⟨⟩

theorem sound_of_next (valid : ∀ d ∈ r.definitions, d.WellFormed) {m m' : Moment}
    (h : Sound r m) (next : Next r m m') : Sound r m' := by
  cases next with
  | @edited s s' _ _ _ same =>
    have hmark : ∀ name, s'.marking name = s.marking name := by
      intro name
      rw [Subject.marking, same]
      rfl
    refine ⟨fun d hd => ?_, h.following, fun c s hc name hn => ?_⟩
    · change d.Holds _ (s'.marking d.name)
      rw [hmark]
      exact h.holds d hd
    · exact (hmark name).trans (h.elsewhere c s hc name hn)
  | unchanged =>
    refine ⟨h.holds, ?_, ?_⟩
    · rintro d stack ⟨⟩
    · rintro c s ⟨⟩ name _
      rfl
  | opened registered opens =>
    refine ⟨holds_of_opens valid registered opens h.holds, ?_, ?_⟩
    · rintro d stack ⟨⟩
      exact ⟨registered ▸ opens.registered.1, _, _, rfl, opens.registered.2⟩
    · rintro c s ⟨⟩ name hn
      exact opens.marking_eq hn
  | @stepped _ _ _ d stack _ s _ stack' _ s' _ _ _ step =>
    obtain ⟨hd, c, s₀, hlast, hname⟩ := h.following d stack rfl
    rcases step.moves with hs | ⟨t, ht, hs⟩
    · obtain rfl : s' = s := hs
      refine ⟨h.holds, ?_, h.elsewhere⟩
      rintro d stack ⟨⟩
      exact h.following d _ rfl
    · obtain rfl : s' = fire s d t := hs
      refine ⟨holds_fire hd (valid d hd) h.holds ht, ?_, fun c' s₁ hc name hn => ?_⟩
      · rintro d stack ⟨⟩
        exact h.following d _ rfl
      · obtain ⟨rfl, rfl⟩ : c = c' ∧ s₀ = s₁ := by simpa using hlast.symm.trans hc
        rw [Dispatcher.marking_fire_of_ne (hname ▸ hn)]
        exact h.elsewhere c s₀ hc name hn
  | @ended _ _ _ d stack _ s _ _ s' _ _ _ stop =>
    obtain rfl : s' = s := stop.subject_eq
    refine ⟨h.holds, ?_, h.elsewhere⟩
    rintro d stack ⟨⟩

theorem sound_of_reached (valid : ∀ d ∈ r.definitions, d.WellFormed) {m : Moment}
    (h : Reached r m) : Sound r m := by
  obtain ⟨s, hempty, hrun⟩ := h
  induction hrun with
  | refl => exact sound_init hempty
  | tail _ next ih => exact sound_of_next valid ih next

/-- **Where a subject stands.** At every moment it stands in declared places of each workflow, none
of them twice; in a state machine in at most one place, and in exactly one once the machine was
started; and the call made last moved it in no other workflow. Whatever a call leaves behind is such
a moment. -/
theorem marking_of_reached (valid : ∀ d ∈ r.definitions, d.isValid = true) {m : Moment}
    (h : Reached r m) :
    (∀ d ∈ r.definitions,
      (m.subject.marking d.name).places.Nodup ∧
      (∀ p ∈ (m.subject.marking d.name).places, d.hasPlace p = true) ∧
      (d.kind = .stateMachine →
        (m.subject.marking d.name).places.length ≤ 1 ∧
        (d.name ∈ m.started → (m.subject.marking d.name).places.length = 1))) ∧
    (∀ c s, m.last = some (c, s) → ∀ name, name ≠ c.workflow →
      m.subject.marking name = s.marking name) ∧
    (m.pending = none → ∀ (σ : Type) (x : Dispatcher) (services : Services σ) (c : Call) (w : σ),
      x.registry = r → ∃ m', Reached r m' ∧ m'.pending = none ∧ m'.last = some (c, m.subject) ∧
        m'.subject = (x.call services c m.subject w).2.1 ∧
        ∀ d, x.definitionFor m.subject c.workflow = .ok d → ∀ name ∈ c.starts, name ∈ m'.started) := by
  have hsound := sound_of_reached (fun d hd => isValid_iff.1 (valid d hd)) h
  refine ⟨fun d hd => ?_, hsound.elsewhere, ?_⟩
  · obtain ⟨hplaces, hsingle⟩ := hsound.holds d hd
    exact ⟨(m.subject.marking d.name).nodup, hplaces, hsingle⟩
  · intro hm σ x services c w registered
    exact exists_reached_call h hm registered services c w

/-- An asset that was just started stands in one place. -/
theorem marking_of_reached_asset :
    ∃ m, Reached assetDispatcher.registry m ∧ "AssetFlow" ∈ m.started ∧
      (m.subject.marking "AssetFlow").places.length = 1 := by
  have valid : ∀ d ∈ assetDispatcher.registry.definitions, d.isValid = true := by decide
  have opens : assetDispatcher.Opens (.start "AssetFlow") asset assetFlow
      (assetFlow.initial.places.map (.entered "AssetFlow")) {}
      (asset.mark "AssetFlow" assetFlow.initial) := .start rfl
  have reached : Reached assetDispatcher.registry ⟨asset.mark "AssetFlow" assetFlow.initial, _, _, _⟩ :=
    ⟨asset, fun _ => rfl, .single (.opened rfl opens)⟩
  have started : "AssetFlow" ∈ (Call.start "AssetFlow").starts ++ [] := by decide
  have hplaces := (marking_of_reached valid reached).1 assetFlow (by decide)
  exact ⟨_, reached, started, (hplaces.2.2 rfl).2 started⟩

end Moment

end WorkflowEngine
