import Mathlib.Logic.Function.Basic
import WorkflowEngine.Proofs.Bus.Steps

/-!
# Settling envelopes under any schedule

Workers take their steps in any order, while envelopes are sent and what is in flight is put back at
any moment. An envelope may come to several workers then, and one of them may settle what was handed
to another; still nothing is lost, doubled or settled twice.

* `Workshop`, `Turn`, `Floor`, `Workshop.run`: workers at one queue, and how that goes on;
* `sentIn`, `Event.acked?`, `Event.rejected?`: what was done, read off the history;
* `Takes`, `Answered`, `Holds`: where an envelope in hand comes from;
* `Kept`, **`kept_turn`**, `kept_run`: books that agree with the history;
* `Settlement`, **`settlement_run`**: what holds at every moment.
-/

namespace WorkflowEngine

variable {ι σ : Type}

/-! ## Turns in any order -/

/-- **Workers at one queue.** While a handler has an envelope, it uses the queue as anybody may. -/
structure Workshop (ι σ : Type) where
  place : QueueAt σ
  lawful : place.Lawful
  handler : ι → Handler σ
  filter : ι → ContextFilter
  uses : ι → Envelope → σ → List Queue.Use
  handled : ∀ i e s, place.get ((handler i).handle e s).2 = (place.get s).useAll (uses i e s)

namespace Workshop

/-- **A turn**: somebody uses the queue, or a worker takes its next step at some time. -/
inductive Turn (ι : Type) where
  | use (use : Queue.Use)
  | step (i : ι) (now : Instant)

/-- **What was done in a turn.** In a worker's step, its handler may have used the queue. -/
inductive Event (ι : Type) where
  | used (use : Queue.Use)
  | step (i : ι) (act : Worker.Act) (uses : List Queue.Use)

/-- How the queue was used. -/
def Event.uses : Event ι → List Queue.Use
  | .used use => [use]
  | .step _ _ uses => uses

/-- The identifier of the envelope that was acknowledged. -/
def Event.acked? : Event ι → Option EnvelopeId
  | .used _ => none
  | .step _ act _ => act.acked?

/-- The identifier of the envelope that was rejected. -/
def Event.rejected? : Event ι → Option EnvelopeId
  | .used _ => none
  | .step _ act _ => act.rejected?

/-- **All envelopes that were sent.** -/
def sentIn (history : List (Event ι)) : List Envelope :=
  history.flatMap fun event => event.uses.filterMap Queue.Use.sent?

/-- **What the workers are at**, and what was done, the last turn first. -/
structure Floor (ι σ : Type) where
  phase : ι → Worker.Phase
  state : σ
  history : List (Event ι) := []

/-- Nobody has begun. -/
def Floor.start (s : σ) : Floor ι σ := { phase := fun _ => .idle, state := s }

/-- A worker at some time. -/
def worker (shop : Workshop ι σ) (i : ι) (now : Instant) : Worker σ where
  queue := shop.place
  handler := shop.handler i
  filter := shop.filter i
  now := now

/-- **One turn.** -/
def turn [DecidableEq ι] (shop : Workshop ι σ) (c : Floor ι σ) : Turn ι → Floor ι σ
  | .use use =>
    { c with
      state := shop.place.put ((shop.place.get c.state).use use) c.state
      history := .used use :: c.history }
  | .step i now =>
    let (act, p, s) := (shop.worker i now).next (c.phase i) c.state
    { phase := Function.update c.phase i p
      state := s
      history := .step i act ((c.phase i).uses (shop.uses i) c.state) :: c.history }

/-- **Turns are taken in the order of a schedule.** -/
def run [DecidableEq ι] (shop : Workshop ι σ) (c : Floor ι σ) (schedule : List (Turn ι)) : Floor ι σ :=
  schedule.foldl shop.turn c

/-! ## Envelopes in hand -/

section Hand

variable (shop : Workshop ι σ) (name : String) (history : List (Event ι)) (i : ι)

/-- **A worker takes an envelope**: it is its copy of one that was sent and that its filter takes. -/
def Takes (copy : Envelope) : Prop :=
  ∃ e ∈ sentIn history, ∃ now,
    copy = (shop.worker i now).copy name e ∧ (shop.filter i).accepts e = true

/-- **A worker answered an envelope that it takes**, as its handler did. -/
def Answered (copy : Envelope) (answer : Except String Unit) : Prop :=
  shop.Takes name history i copy ∧ ∃ s uses,
    ((shop.handler i).handle copy s).1 = answer ∧ .step i (.answered copy answer) uses ∈ history

/-- **What a worker holds** is an envelope that it takes, and that it answered if it is to be
settled. -/
def Holds : Worker.Phase → Prop
  | .idle => True
  | .handling e => shop.Takes name history i e
  | .settling e answer => shop.Answered name history i e answer

end Hand

/-- **Books that agree with the history**, with workers that hold what they should. -/
structure Kept (shop : Workshop ι σ) (name : String) (c : Floor ι σ) : Prop where
  named : (shop.place.get c.state).name = name
  everywhere : (shop.place.get c.state).everywhere.Perm (sentIn c.history)
  acked : (shop.place.get c.state).acked.map (·.id) = (c.history.filterMap Event.acked?).reverse
  rejected : (shop.place.get c.state).rejected.map (·.id) =
    (c.history.filterMap Event.rejected?).reverse
  holds : ∀ i, shop.Holds name c.history i (c.phase i)
  settler : ∀ {i e answer outcome uses before},
    .step i (.settled e answer true outcome) uses :: before <:+ c.history →
      shop.Answered name before i e answer

variable {shop : Workshop ι σ} {name : String} {c : Floor ι σ} {i : ι} {history : List (Event ι)}
  {event : Event ι} {now : Instant} {p p' : Worker.Phase} {a : Worker.Act} {uses : List Queue.Use}
  {q q' : Queue} {s s' : σ}

theorem sentIn_cons (event : Event ι) (history : List (Event ι)) :
    sentIn (event :: history) = event.uses.filterMap Queue.Use.sent? ++ sentIn history :=
  List.flatMap_cons

theorem Takes.cons {e : Envelope} (h : shop.Takes name history i e) :
    shop.Takes name (event :: history) i e := by
  obtain ⟨e', hsent, h⟩ := h
  exact ⟨e', by rw [sentIn_cons]; exact List.mem_append_right _ hsent, h⟩

theorem Holds.cons (h : shop.Holds name history i p) :
    shop.Holds name (event :: history) i p := by
  cases p with
  | idle => trivial
  | handling e => exact Takes.cons h
  | settling e answer =>
    obtain ⟨takes, s, uses, hanswer, hmem⟩ := h
    exact ⟨takes.cons, s, uses, hanswer, List.mem_cons_of_mem _ hmem⟩

theorem exists_does [DecidableEq ι] (shop : Workshop ι σ) (c : Floor ι σ) (i : ι) (now : Instant) :
    ∃ a p' s',
      shop.turn c (.step i now) =
        { phase := Function.update c.phase i p'
          state := s'
          history := .step i a ((c.phase i).uses (shop.uses i) c.state) :: c.history } ∧
      (shop.worker i now).Does (shop.place.get c.state) (c.phase i)
        ((c.phase i).uses (shop.uses i) c.state) a p' (shop.place.get s') :=
  ⟨_, _, _, rfl, @Worker.does_next _ (shop.worker i now) shop.lawful _ (shop.handled i) _ _⟩

theorem holds_of_does (does : (shop.worker i now).Does q p uses a p' q') (named : q.name = name)
    (sent : ∀ e ∈ q.ready, e ∈ sentIn history) (h : shop.Holds name history i p) :
    shop.Holds name (.step i a uses :: history) i p' := by
  subst named
  cases does with
  | nothing | skipped | acked | rejected | refused => trivial
  | took ready accepts =>
    exact Takes.cons ⟨_, sent _ (ready ▸ List.mem_cons_self), now, rfl, accepts⟩
  | answered s => exact ⟨Takes.cons h, s, uses, rfl, List.mem_cons_self⟩

theorem settling_of_does {w : Worker σ} {e : Envelope} {answer : Except String Unit} {landed : Bool}
    {outcome : Except BusError WorkerOutcome}
    (does : w.Does q p uses (.settled e answer landed outcome) p' q') : p = .settling e answer := by
  cases does <;> rfl

namespace Kept

theorem start (empty : shop.place.get s = { name }) : shop.Kept name (.start s) where
  named := by simp only [Floor.start, empty]
  everywhere := by
    simp only [Floor.start, empty]
    exact .refl _
  acked := by simp [Floor.start, empty]
  rejected := by simp [Floor.start, empty]
  holds _ := trivial
  settler h := absurd (List.suffix_nil.1 h) (List.cons_ne_nil _ _)

theorem distinct (h : shop.Kept name c) (fresh : ((sentIn c.history).map (·.id)).Nodup) :
    ((shop.place.get c.state).everywhere.map (·.id)).Nodup :=
  ((h.everywhere.map _).nodup_iff).2 fresh

variable [DecidableEq ι]

theorem use (h : shop.Kept name c) (use : Queue.Use) : shop.Kept name (shop.turn c (.use use)) where
  named := by
    rw [turn, shop.lawful]
    exact (Queue.books_useAll [use] _).1.trans h.named
  everywhere := by
    rw [turn, shop.lawful, sentIn_cons]
    exact (Queue.everywhere_useAll [use] _).trans (h.everywhere.append_left _)
  acked := by
    rw [turn, shop.lawful]
    exact (congrArg (List.map _) (Queue.books_useAll [use] _).2.1).trans h.acked
  rejected := by
    rw [turn, shop.lawful]
    exact (congrArg (List.map _) (Queue.books_useAll [use] _).2.2).trans h.rejected
  holds i := (h.holds i).cons
  settler hsuffix := by
    rcases List.suffix_cons_iff.1 hsuffix with heq | hsuffix
    · cases heq
    · exact h.settler hsuffix

theorem step (h : shop.Kept name c) (fresh : ((sentIn c.history).map (·.id)).Nodup) (i : ι)
    (now : Instant) : shop.Kept name (shop.turn c (.step i now)) := by
  obtain ⟨a, p', s', hturn, does⟩ := shop.exists_does c i now
  rw [hturn]
  obtain ⟨hname, hacked, hrejected⟩ := does.books
  exact
    { named := hname.trans h.named
      everywhere := by
        rw [sentIn_cons]
        exact (does.everywhere (h.distinct fresh)).trans (h.everywhere.append_left _)
      acked := by
        rw [hacked, h.acked]
        simp only [List.filterMap_cons, Event.acked?]
        cases a.acked? <;> simp
      rejected := by
        rw [hrejected, h.rejected]
        simp only [List.filterMap_cons, Event.rejected?]
        cases a.rejected? <;> simp
      holds := by
        intro j
        dsimp only
        by_cases hj : j = i
        · subst hj
          rw [Function.update_self]
          refine holds_of_does does h.named (fun e he => h.everywhere.subset ?_) (h.holds j)
          simp [Queue.everywhere, he]
        · rw [Function.update_of_ne hj]
          exact (h.holds j).cons
      settler := by
        intro j e answer outcome uses before hsuffix
        rcases List.suffix_cons_iff.1 hsuffix with heq | hsuffix
        · cases heq
          have hheld := h.holds i
          rwa [settling_of_does does] at hheld
        · exact h.settler hsuffix }

end Kept

variable [DecidableEq ι]

theorem kept_turn (h : shop.Kept name c) (fresh : ((sentIn c.history).map (·.id)).Nodup)
    (t : Turn ι) : shop.Kept name (shop.turn c t) := by
  cases t with
  | use use => exact h.use use
  | step i now => exact h.step fresh i now

theorem history_suffix (shop : Workshop ι σ) (c : Floor ι σ) (schedule : List (Turn ι)) :
    c.history <:+ (shop.run c schedule).history := by
  induction schedule generalizing c with
  | nil => exact List.suffix_refl _
  | cons t schedule ih =>
    have hturn : c.history <:+ (shop.turn c t).history := by
      cases t with
      | use => exact List.suffix_cons _ _
      | step => exact List.suffix_cons _ _
    exact hturn.trans (ih _)

/-- **However the turns are ordered**, the books agree with the history. What was sent before is among
what was sent at the end, so its identifiers are distinct as well. -/
theorem kept_run (h : shop.Kept name c) {schedule : List (Turn ι)}
    (fresh : ((sentIn (shop.run c schedule).history).map (·.id)).Nodup) :
    shop.Kept name (shop.run c schedule) := by
  induction schedule generalizing c with
  | nil => exact h
  | cons t schedule ih =>
    obtain ⟨later, hlater⟩ := shop.history_suffix c (t :: schedule)
    have hfresh : ((sentIn c.history).map (·.id)).Nodup := by
      rw [← hlater, sentIn, List.flatMap_append, List.map_append] at fresh
      exact (List.nodup_append.1 fresh).2.1
    exact ih (kept_turn h hfresh t) fresh

/-! ## What holds at every moment -/

/-- **Envelopes are settled safely.**

Every envelope that was sent is in one place: ready, in flight, acknowledged or rejected. The books
hold what the history says, and no envelope is acknowledged or rejected a second time, nor both. Who
settles an envelope takes it and has answered it, well if it is acknowledged and with a failure if it
is rejected. What is not in flight cannot be settled, and a worker that tries fails and changes
nothing. -/
structure Settlement (shop : Workshop ι σ) (name : String) (c : Floor ι σ) : Prop where
  everywhere : (shop.place.get c.state).everywhere.Perm (sentIn c.history)
  distinct : ((shop.place.get c.state).everywhere.map (·.id)).Nodup
  acked : (shop.place.get c.state).acked.map (·.id) = (c.history.filterMap Event.acked?).reverse
  rejected : (shop.place.get c.state).rejected.map (·.id) =
    (c.history.filterMap Event.rejected?).reverse
  once : (c.history.filterMap Event.acked? ++ c.history.filterMap Event.rejected?).Nodup
  settler : ∀ {i e answer outcome uses before},
    .step i (.settled e answer true outcome) uses :: before <:+ c.history →
      shop.Answered name before i e answer
  unsettled : ∀ id, id ∉ (shop.place.get c.state).inFlight.map (·.id) →
    (shop.place.get c.state).ack id = .error (.notInFlight name id) ∧
      (shop.place.get c.state).reject id = .error (.notInFlight name id)
  refused : ∀ {i e answer} (now : Instant), c.phase i = .settling e answer →
    e.id ∉ (shop.place.get c.state).inFlight.map (·.id) →
      shop.turn c (.step i now) =
        { phase := Function.update c.phase i .idle
          state := c.state
          history := .step i (.settled e answer false (.error (.notInFlight name e.id))) [] ::
            c.history }

theorem Kept.settlement (h : shop.Kept name c) (fresh : ((sentIn c.history).map (·.id)).Nodup) :
    shop.Settlement name c where
  everywhere := h.everywhere
  distinct := h.distinct fresh
  acked := h.acked
  rejected := h.rejected
  once := by
    have hsub : ((shop.place.get c.state).acked ++ (shop.place.get c.state).rejected).Sublist
        (shop.place.get c.state).everywhere :=
      (List.sublist_append_right _ _).append_right _
    have hsettled := (h.distinct fresh).sublist (hsub.map _)
    rw [List.map_append, h.acked, h.rejected] at hsettled
    exact ((List.reverse_perm _).append (List.reverse_perm _)).nodup_iff.1 hsettled
  settler := h.settler
  unsettled id gone := by
    obtain ⟨hack, hreject⟩ := Queue.unsettled_of_notMem gone
    rw [h.named] at hack hreject
    exact ⟨hack, hreject⟩
  refused {i e answer} now settling gone := by
    have hclose : (shop.worker i now).next (c.phase i) c.state =
        (.settled e answer false (.error (.notInFlight name e.id)), .idle, c.state) := by
      rw [settling, Worker.next, @Worker.close_refused _ (shop.worker i now) _ _ _ gone, ← h.named]
      rfl
    rw [turn, hclose, settling]
    rfl

/-- **Settling is safe under any schedule.** Workers with any handlers and filters share a queue that
was empty. They take, answer and settle envelopes one step at a time and in any order, while anybody,
their handlers included, sends envelopes of identifiers that were not used before and puts back what is
in flight. At every moment, each envelope is in one place and was settled once at most, by a worker
that takes it and as its handler answered. -/
theorem settlement_run (shop : Workshop ι σ) {name : String} {s : σ}
    (empty : shop.place.get s = { name }) (schedule : List (Turn ι))
    (fresh : ((sentIn (shop.run (.start s) schedule).history).map (·.id)).Nodup) :
    shop.Settlement name (shop.run (.start s) schedule) :=
  (kept_run (.start empty) fresh).settlement fresh

/-- Two loaders of assets, on a state that is a queue. One sends the next asset on while it handles an
envelope; the other one fails. -/
def loaders : Workshop Bool Queue where
  place := (Worker.ofRegions []).queue
  lawful _ _ := rfl
  handler
    | true =>
      { name := "Loader"
        handle := fun e q => (.ok (), q.send (Worker.loadIn "aac" (e.id.value + 1))) }
    | false =>
      { name := "BrokenLoader"
        handle := fun _ q => (.error "disk full", q) }
  filter
    | true => ⟨["aac"]⟩
    | false => ⟨[]⟩
  uses
    | true, e, _ => [.send (Worker.loadIn "aac" (e.id.value + 1))]
    | false, _, _ => []
  handled
    | true, _, _ => rfl
    | false, _, _ => rfl

/-- An envelope is put back while it is handled, and comes to the second loader. The first one
acknowledges it all the same, so the second one cannot reject it any more. -/
theorem settlement_run_late :
    let schedule : List (Turn Bool) :=
      [.use (.send (Worker.loadIn "aac" 1)), .step true ⟨0, 0⟩, .use .redeliver, .step false ⟨1, 0⟩,
        .step true ⟨2, 0⟩, .step true ⟨2, 0⟩, .step false ⟨3, 0⟩, .step false ⟨3, 0⟩]
    let c := loaders.run (.start { name := "load" }) schedule
    c.state = { name := "load", ready := [Worker.loadIn "aac" 2], acked := [Worker.loadIn "aac" 1] } ∧
      loaders.Settlement "load" c := by
  intro schedule c
  have fresh : ((sentIn c.history).map (·.id)).Nodup := by decide +kernel
  exact ⟨by decide +kernel, settlement_run loaders rfl schedule fresh⟩

end Workshop

end WorkflowEngine
