import WorkflowEngine.Bus.Filter
import WorkflowEngine.Proofs.Routing.Locator

/-!
# What an envelope carries

Stamps are put behind those that are there. A partition value that is there already is not put on
again, so it does not come to stand last either.

* `stamp_of_mem`, `stamps_stamp_of_notMem`, `mem_stamps_stamp`: one stamp put on;
* `stamps_stampAll_of_new`: stamps that are new and different are all put on;
* `lastContext?_stamp_iff`: the partition value that stands last after one stamp;
* `Envelope.NoNews`, `Envelope.LastNews`, `Envelope.Decides`: what decides after several stamps;
* **`lastContext?_stampAll_iff`**: the last partition value that was new is what a filter goes by.
-/

namespace WorkflowEngine

namespace Envelope

variable {e : Envelope} {s t : Stamp} {c : ContextStamp} {stamps : List Stamp}

/-! ## Stamps put on -/

theorem stamp_of_mem (h : .context c ∈ e.stamps) : e.stamp (.context c) = e := by
  unfold stamp
  simp [Stamp.context?, h]

theorem stamps_stamp_of_notMem (h : s ∉ e.stamps) : (e.stamp s).stamps = e.stamps ++ [s] := by
  unfold stamp
  simp [h]

theorem stamps_stamp_of_context?_none (h : s.context? = none) :
    (e.stamp s).stamps = e.stamps ++ [s] := by
  unfold stamp
  simp [h]

theorem contexts_stamp_of_context?_none (h : s.context? = none) :
    (e.stamp s).contexts = e.contexts := by
  simp [contexts, stamps_stamp_of_context?_none h, h]

theorem lastContext?_stamp_of_context?_none (h : s.context? = none) :
    (e.stamp s).lastContext? = e.lastContext? := by
  rw [lastContext?, contexts_stamp_of_context?_none h, lastContext?]

theorem mem_stamps_stamp : t ∈ (e.stamp s).stamps ↔ t ∈ e.stamps ∨ t = s := by
  unfold stamp
  split
  · next h =>
    have hs : s ∈ e.stamps := by simpa using (Bool.and_eq_true_iff.1 h).2
    refine ⟨.inl, ?_⟩
    rintro (ht | rfl)
    · exact ht
    · exact hs
  · simp

/-- **Stamps that are new, and different from each other, are all put on** in their order. -/
theorem stamps_stampAll_of_new (nodup : stamps.Nodup) (new : ∀ s ∈ stamps, s ∉ e.stamps) :
    (e.stampAll stamps).stamps = e.stamps ++ stamps := by
  induction stamps generalizing e with
  | nil => simp [stampAll]
  | cons s stamps ih =>
    obtain ⟨hs, nodup⟩ := List.nodup_cons.1 nodup
    have hstamps := stamps_stamp_of_notMem (new s List.mem_cons_self)
    have hnew : ∀ t ∈ stamps, t ∉ (e.stamp s).stamps := by
      intro t ht
      rw [mem_stamps_stamp, not_or]
      refine ⟨new t (List.mem_cons_of_mem _ ht), ?_⟩
      rintro rfl
      exact hs ht
    change ((e.stamp s).stampAll stamps).stamps = _
    rw [ih nodup hnew, hstamps, List.append_assoc, List.singleton_append]

/-! ## The partition value that stands last -/

/-- **After one stamp**, a partition value stands last if it was put on, or if it stood last and no
other one was put on. -/
theorem lastContext?_stamp_iff : (e.stamp s).lastContext? = some c ↔
    (s = .context c ∧ .context c ∉ e.stamps) ∨
      ((∀ c', s = .context c' → .context c' ∈ e.stamps) ∧ e.lastContext? = some c) := by
  cases s with
  | context c' =>
    by_cases h : .context c' ∈ e.stamps
    · rw [stamp_of_mem h]
      constructor
      · intro hlast
        exact .inr ⟨fun c'' heq => heq ▸ h, hlast⟩
      · rintro (⟨heq, hnew⟩ | ⟨_, hlast⟩)
        · exact absurd (heq ▸ h) hnew
        · exact hlast
    · have hlast : (e.stamp (.context c')).lastContext? = some c' := by
        simp [lastContext?, contexts, stamps_stamp_of_notMem h, Stamp.context?]
      rw [hlast]
      constructor
      · rintro ⟨⟩
        exact .inl ⟨rfl, h⟩
      · rintro (⟨heq, _⟩ | ⟨hold, _⟩)
        · cases heq
          rfl
        · exact absurd (hold c' rfl) h
  | route | received | handled =>
    rw [lastContext?_stamp_of_context?_none rfl]
    simp

/-- None of some stamps is a partition value that the envelope does not have. -/
def NoNews (e : Envelope) (stamps : List Stamp) : Prop :=
  ∀ c, .context c ∈ stamps → .context c ∈ e.stamps

/-- **The last news**: the last of some stamps that is a partition value which neither the envelope has
nor a stamp before it. -/
def LastNews (e : Envelope) (stamps : List Stamp) (c : ContextStamp) : Prop :=
  ∃ before after, stamps = before ++ .context c :: after ∧ .context c ∉ e.stamps ++ before ∧
    ∀ c', .context c' ∈ after → .context c' ∈ e.stamps ++ before ++ [.context c]

/-- **The partition value that decides** after some stamps: the last news, or without any news the one
that stood last before. -/
def Decides (e : Envelope) (stamps : List Stamp) (c : ContextStamp) : Prop :=
  e.LastNews stamps c ∨ e.NoNews stamps ∧ e.lastContext? = some c

theorem noNews_cons : e.NoNews (s :: stamps) ↔
    (∀ c, s = .context c → .context c ∈ e.stamps) ∧ (e.stamp s).NoNews stamps := by
  simp only [NoNews, List.mem_cons, mem_stamps_stamp]
  constructor
  · intro h
    exact ⟨fun c hc => h c (.inl hc.symm), fun c hc => .inl (h c (.inr hc))⟩
  · rintro ⟨hs, hstamps⟩ c (heq | hc)
    · exact hs c heq.symm
    · rcases hstamps c hc with hmem | heq
      · exact hmem
      · exact hs c heq.symm

theorem lastNews_cons : e.LastNews (s :: stamps) c ↔
    (s = .context c ∧ .context c ∉ e.stamps ∧ (e.stamp s).NoNews stamps) ∨
      (e.stamp s).LastNews stamps c := by
  constructor
  · rintro ⟨before, after, hsplit, hnew, hold⟩
    -- the news is the first stamp, or one of the others
    cases before with
    | nil =>
      cases hsplit
      refine .inl ⟨rfl, by simpa using hnew, fun c' hc' => ?_⟩
      simpa [mem_stamps_stamp] using hold c' hc'
    | cons s' before =>
      cases hsplit
      refine .inr ⟨before, after, rfl, ?_, fun c' hc' => ?_⟩
      · simpa [mem_stamps_stamp, or_assoc] using hnew
      · simpa [mem_stamps_stamp, or_assoc] using hold c' hc'
  · rintro (⟨rfl, hnew, hold⟩ | ⟨before, after, rfl, hnew, hold⟩)
    · refine ⟨[], stamps, rfl, by simpa using hnew, fun c' hc' => ?_⟩
      simpa [mem_stamps_stamp] using hold c' hc'
    · refine ⟨s :: before, after, rfl, ?_, fun c' hc' => ?_⟩
      · simpa [mem_stamps_stamp, or_assoc] using hnew
      · simpa [mem_stamps_stamp, or_assoc] using hold c' hc'

theorem decides_cons : e.Decides (s :: stamps) c ↔ (e.stamp s).Decides stamps c := by
  unfold Decides
  rw [lastNews_cons, noNews_cons, lastContext?_stamp_iff]
  constructor
  · rintro ((⟨hs, hnew, hno⟩ | hnews) | ⟨⟨hold, hno⟩, hlast⟩)
    · exact .inr ⟨hno, .inl ⟨hs, hnew⟩⟩
    · exact .inl hnews
    · exact .inr ⟨hno, .inr ⟨hold, hlast⟩⟩
  · rintro (hnews | ⟨hno, ⟨hs, hnew⟩ | ⟨hold, hlast⟩⟩)
    · exact .inl (.inr hnews)
    · exact .inl (.inl ⟨hs, hnew, hno⟩)
    · exact .inr ⟨⟨hold, hno⟩, hlast⟩

theorem decides_iff : e.Decides stamps c ↔ (e.stampAll stamps).lastContext? = some c := by
  induction stamps generalizing e with
  | nil => simp [Decides, LastNews, NoNews, stampAll]
  | cons s stamps ih => exact decides_cons.trans ih

end Envelope

theorem ContextFilter.accepts_iff {f : ContextFilter} {e : Envelope} : f.accepts e = true ↔
    f.allowed = [] ∨ ∃ c, e.lastContext? = some c ∧ c.value.display ∈ f.allowed := by
  unfold accepts
  cases e.lastContext? <;> simp

/-- **The last news decides.** After any stamps, the partition value that stands last is the last one
that was new when it was put on; when none was new, it is the one that stood last before. A filter with
entries takes the envelope if it lists the text of that value, and a filter without entries takes it
anyway. -/
theorem Envelope.lastContext?_stampAll_iff (e : Envelope) (stamps : List Stamp) (f : ContextFilter) :
    (∀ c, (e.stampAll stamps).lastContext? = some c ↔ e.Decides stamps c) ∧
      (f.accepts (e.stampAll stamps) = true ↔
        f.allowed = [] ∨ ∃ c, e.Decides stamps c ∧ c.value.display ∈ f.allowed) := by
  have hdecides : ∀ c, (e.stampAll stamps).lastContext? = some c ↔ e.Decides stamps c :=
    fun _ => decides_iff.symm
  refine ⟨hdecides, ?_⟩
  rw [ContextFilter.accepts_iff]
  simp only [hdecides]

/-- A partition value that is put on again, after another one, does not stand last: the filter that
lists it refuses the envelope. -/
theorem lastContext?_put_on_again :
    let euro : ContextStamp := ⟨defaultContextKey, .text "euro"⟩
    let aac : ContextStamp := ⟨defaultContextKey, .text "aac"⟩
    let stamps : List Stamp := [.context euro, .context aac, .context euro]
    let e : Envelope := { id := ⟨1⟩, message := ⟨"1", "Asset", "load", "AssetFlow"⟩ }
    (stamps.filterMap Stamp.context?).getLast? = some euro ∧
      (e.stampAll stamps).lastContext? = some aac ∧
      (ContextFilter.ofNames ["euro"]).accepts (e.stampAll stamps) = false := by
  decide +kernel

end WorkflowEngine
