import Mathlib.Data.List.Nodup
import WorkflowEngine.Workflow.Marking

/-!
# Transitions that do not get in each other's way

Two transitions of a workflow are independent if neither consumes a place that the other consumes or
enters. Where both may fire, they may fire in either order, and the subject comes to the same places. So
may any row of transitions of which each two are independent.

* `Transition.Independent`: independence of two transitions;
* `Marking.advanceAll`, `Marking.FiresAll`: a row of transitions that fire one after the other;
* `permits_workflow_iff`, `permits_advance`: a transition waits for its turn;
* `mem_advanceAll`, **`firesAll_of_perm`**: where a row leads, in whatever order it fires;
* **`advance_comm`**: two transitions in either order.
-/

namespace WorkflowEngine

/-- **Independent transitions**: neither consumes a place that the other consumes or enters. -/
structure Transition.Independent (t u : Transition) : Prop where
  sources : t.sources.Disjoint u.sources
  targets : t.sources.Disjoint u.targets
  targets_of_other : u.sources.Disjoint t.targets

theorem Transition.Independent.symm {t u : Transition} (h : t.Independent u) : u.Independent t :=
  ⟨List.disjoint_comm.1 h.sources, h.targets_of_other, h.targets⟩

namespace Marking

variable {m : Marking} {t u : Transition} {ts us : List Transition} {p : PlaceName}

/-- The marking of a workflow after a row of transitions fired, one after the other. -/
def advanceAll (m : Marking) (ts : List Transition) : Marking := ts.foldl (advance · .workflow ·) m

/-- **A row of transitions fires**: each is permitted when its turn comes. -/
def FiresAll : Marking → List Transition → Prop
  | _, [] => True
  | m, t :: ts => m.permits .workflow t = true ∧ (m.advance .workflow t).FiresAll ts

theorem permits_workflow_iff :
    m.permits .workflow t = true ↔ t.sources ≠ [] ∧ ∀ p ∈ t.sources, p ∈ m.places := by
  simp [permits, contains]

/-- **A transition waits for its turn** while others fire that do not consume its sources. -/
theorem permits_advance (h : u.sources.Disjoint t.sources) (hu : m.permits .workflow u = true) :
    (m.advance .workflow t).permits .workflow u = true := by
  obtain ⟨hne, hmarked⟩ := permits_workflow_iff.1 hu
  refine permits_workflow_iff.2 ⟨hne, fun p hp => mem_advance_workflow.2 (.inl ⟨hmarked p hp, ?_⟩)⟩
  exact fun ht => h hp ht

theorem firesAll_of_pairwise (hts : ts.Pairwise Transition.Independent)
    (permitted : ∀ t ∈ ts, m.permits .workflow t = true) : m.FiresAll ts := by
  induction ts generalizing m with
  | nil => trivial
  | cons t ts ih =>
    obtain ⟨ht, hts⟩ := List.pairwise_cons.1 hts
    obtain ⟨hm, permitted⟩ := List.forall_mem_cons.1 permitted
    exact ⟨hm, ih hts fun u hu => permits_advance (ht u hu).symm.sources (permitted u hu)⟩

/-- **Where a row of independent transitions leads**: what none of them consumes stays, and what one of
them enters is there. -/
theorem mem_advanceAll (hts : ts.Pairwise Transition.Independent) :
    p ∈ (m.advanceAll ts).places ↔
      (p ∈ m.places ∧ ∀ t ∈ ts, p ∉ t.sources) ∨ ∃ t ∈ ts, p ∈ t.targets := by
  induction ts generalizing m with
  | nil => simp [advanceAll]
  | cons t ts ih =>
    obtain ⟨ht, hts⟩ := List.pairwise_cons.1 hts
    -- what the first one enters, no later one consumes
    have hentered : p ∈ t.targets → ∀ u ∈ ts, p ∉ u.sources := fun hp u hu hpu =>
      (ht u hu).targets_of_other hpu hp
    have hstep : p ∈ (m.advanceAll (t :: ts)).places ↔
        (p ∈ (m.advance .workflow t).places ∧ ∀ u ∈ ts, p ∉ u.sources) ∨ ∃ u ∈ ts, p ∈ u.targets :=
      ih hts
    rw [hstep, mem_advance_workflow, List.forall_mem_cons, List.exists_mem_cons_iff]
    constructor
    · rintro (⟨⟨hp, hpt⟩ | hp, hlater⟩ | hp)
      · exact .inl ⟨hp, hpt, hlater⟩
      · exact .inr (.inl hp)
      · exact .inr (.inr hp)
    · rintro (⟨hp, hpt, hlater⟩ | hp | hp)
      · exact .inl ⟨.inl ⟨hp, hpt⟩, hlater⟩
      · exact .inl ⟨.inr hp, hentered hp⟩
      · exact .inr hp

/-- **Independent transitions fire in any order** and lead to the same places. -/
theorem firesAll_of_perm (hts : ts.Pairwise Transition.Independent)
    (permitted : ∀ t ∈ ts, m.permits .workflow t = true) (hperm : ts.Perm us) :
    m.FiresAll us ∧ (m.advanceAll us).places.Perm (m.advanceAll ts).places := by
  have hus : us.Pairwise Transition.Independent := hts.perm hperm Transition.Independent.symm
  refine ⟨firesAll_of_pairwise hus fun t ht => permitted t (hperm.mem_iff.2 ht), ?_⟩
  rw [List.perm_ext_iff_of_nodup (Marking.nodup _) (Marking.nodup _)]
  intro p
  rw [mem_advanceAll hus, mem_advanceAll hts]
  simp only [hperm.mem_iff]

/-- **Two independent transitions commute.** Each waits while the other fires, and in either order the
subject comes to the same places, none of them twice. -/
theorem advance_comm (h : t.Independent u) (ht : m.permits .workflow t = true)
    (hu : m.permits .workflow u = true) :
    (m.advance .workflow t).permits .workflow u = true ∧
      (m.advance .workflow u).permits .workflow t = true ∧
      (∀ p, p ∈ ((m.advance .workflow t).advance .workflow u).places ↔
        p ∈ ((m.advance .workflow u).advance .workflow t).places) ∧
      ((m.advance .workflow t).advance .workflow u).places.Nodup ∧
      ((m.advance .workflow u).advance .workflow t).places.Nodup := by
  have hpair : [t, u].Pairwise Transition.Independent := List.pairwise_pair.2 h
  have permitted : ∀ v ∈ [t, u], m.permits .workflow v = true := by simp [ht, hu]
  obtain ⟨-, hfirst, -⟩ := firesAll_of_pairwise hpair permitted
  obtain ⟨⟨-, hsecond, -⟩, hsame⟩ := firesAll_of_perm hpair permitted (.swap u t [])
  exact ⟨hfirst, hsecond, fun p => hsame.mem_iff.symm, Marking.nodup _, Marking.nodup _⟩

/-- One branch of a workflow. -/
def reviewing : Transition := .between "review" ["draft"] ["reviewed", "ready"]

/-- Another branch, which enters one of the same places. -/
def translating : Transition := .between "translate" ["text", "glossary"] ["ready", "glossary"]

/-- A subject that is in both branches, and in one more place. -/
def inBoth : Marking := .ofPlaces ["glossary", "draft", "listed", "text"]

theorem advance_comm_branches :
    (reviewing.Independent translating ∧ inBoth.permits .workflow reviewing = true ∧
        inBoth.permits .workflow translating = true) ∧
      (inBoth.advance .workflow reviewing).permits .workflow translating = true ∧
      (inBoth.advance .workflow translating).permits .workflow reviewing = true ∧
      (∀ p, p ∈ ((inBoth.advance .workflow reviewing).advance .workflow translating).places ↔
        p ∈ ((inBoth.advance .workflow translating).advance .workflow reviewing).places) ∧
      ((inBoth.advance .workflow reviewing).advance .workflow translating).places.Nodup ∧
      ((inBoth.advance .workflow translating).advance .workflow reviewing).places.Nodup := by
  have h : reviewing.Independent translating := by
    constructor <;> simp [reviewing, translating, Transition.between, distinct]
  have ht : inBoth.permits .workflow reviewing = true := by decide
  have hu : inBoth.permits .workflow translating = true := by decide
  exact ⟨⟨h, ht, hu⟩, advance_comm h ht hu⟩

end Marking

end WorkflowEngine
