import Mathlib.Data.List.Basic
import Mathlib.Data.List.Perm.Basic
import WorkflowEngine.Proofs.Collection.SortedMap
import WorkflowEngine.Proofs.Workflow.Registry
import WorkflowEngine.Source.Compilation

/-!
# What a compile run makes of its sources

Every unit is compiled for itself, and a compile run takes in what comes of them one after the other:
the last definition of a name is in force, where the first one stood. Units that fail leave nothing but
a reason, so a run without them gives the same definitions.

* `Path.namesBefore_total`, `Path.namesBefore_trans`, `mergeSort_filter`, `candidates_filter`: the
  order of a folder does not depend on which of its files there are;
* `Attempt`, `Source.attempts`: the units of a source, and what comes of each;
* `Source.reports`, `compileSources_eq`: a compile run takes the attempts in, unreadable files of a
  folder first;
* `get?_asyncTransitions`: the transitions that ask for a queue;
* `withoutFailures`, `attempts_withoutFailures`: the sources without the units that fail;
* `Compilation.Settles`, **`compileSources_settles`**: what is in force, what was left out, and what
  other runs have in common with this one.
-/

namespace WorkflowEngine

/-! ## The order of a folder -/

namespace Path

theorem namesBefore_total : ∀ as bs : List String,
    (namesBefore as bs || namesBefore bs as) = true
  | [], _ => rfl
  | _ :: _, [] => rfl
  | a :: as, b :: bs => by
    rw [namesBefore, namesBefore]
    by_cases h : a = b
    · rw [if_pos h, if_pos h.symm]
      exact namesBefore_total as bs
    · rw [if_neg h, if_neg (Ne.symm h), Bool.or_eq_true, decide_eq_true_eq, decide_eq_true_eq]
      by_cases hlt : a < b
      · exact .inl hlt
      · exact .inr (SortedMap.lt_of_not_lt_of_ne hlt h)

theorem namesBefore_trans : ∀ as bs cs : List String,
    namesBefore as bs = true → namesBefore bs cs = true → namesBefore as cs = true
  | [], _, _, _, _ => rfl
  | _ :: _, [], _, h, _ => by cases h
  | _ :: _, _ :: _, [], _, h => by cases h
  | a :: as, b :: bs, c :: cs, hab, hbc => by
    rw [namesBefore] at hab hbc ⊢
    by_cases h₁ : a = b
    · subst h₁
      by_cases h₂ : a = c
      · rw [if_pos rfl] at hab
        rw [if_pos h₂] at hbc ⊢
        exact namesBefore_trans as bs cs hab hbc
      · rwa [if_neg h₂] at hbc ⊢
    · rw [if_neg h₁, decide_eq_true_eq] at hab
      by_cases h₂ : b = c
      · subst h₂
        rw [if_neg h₁, decide_eq_true_eq]
        exact hab
      · rw [if_neg h₂, decide_eq_true_eq] at hbc
        have hac := String.lt_trans hab hbc
        have hne : a ≠ c := fun h => String.lt_irrefl c (h ▸ hac)
        rw [if_neg hne, decide_eq_true_eq]
        exact hac

end Path

theorem append_cut {α : Type} {p : α → Bool} {l₁ l₂ m₁ m₂ : List α} (h : l₁ ++ l₂ = m₁ ++ m₂)
    (hl₁ : ∀ b ∈ l₁, p b = false) (hl₂ : ∀ b ∈ l₂, p b = true)
    (hm₁ : ∀ b ∈ m₁, p b = false) (hm₂ : ∀ b ∈ m₂, p b = true) : l₁ = m₁ ∧ l₂ = m₂ := by
  have hbehind : ∀ {a b : List α}, (∀ c ∈ a, p c = false) → (∀ c ∈ b, p c = true) →
      (a ++ b).filter p = b := by
    intro a b ha hb
    have hnil : a.filter p = [] := List.filter_eq_nil_iff.2 fun c hc => by simp [ha c hc]
    rw [List.filter_append, hnil, List.filter_eq_self.2 hb, List.nil_append]
  obtain rfl : l₂ = m₂ := by rw [← hbehind hl₁ hl₂, h, hbehind hm₁ hm₂]
  exact ⟨List.append_cancel_right h, rfl⟩

/-- **Sorting what is kept of a list** gives what is kept of the sorted list. -/
theorem mergeSort_filter {α : Type} {le : α → α → Bool}
    (trans : ∀ a b c, le a b = true → le b c = true → le a c = true)
    (total : ∀ a b, (le a b || le b a) = true) (keep : α → Bool) (l : List α) :
    (l.filter keep).mergeSort le = (l.mergeSort le).filter keep := by
  -- an entry stands behind all that it is not before, and before the others
  have hsplit : ∀ (a : α) (l : List α), ∃ l₁ l₂, (a :: l).mergeSort le = l₁ ++ a :: l₂ ∧
      l.mergeSort le = l₁ ++ l₂ ∧ (∀ b ∈ l₁, le a b = false) ∧ ∀ b ∈ l₂, le a b = true := by
    intro a l
    obtain ⟨l₁, l₂, hcons, hl, hbefore⟩ := List.mergeSort_cons trans total a l
    have hsorted := List.pairwise_mergeSort trans total (a :: l)
    rw [hcons, List.pairwise_append, List.pairwise_cons] at hsorted
    exact ⟨l₁, l₂, hcons, hl, fun b hb => by simpa using hbefore b hb, hsorted.2.1.1⟩
  induction l with
  | nil => simp
  | cons a l ih =>
    obtain ⟨l₁, l₂, hcons, hl, hbefore, hafter⟩ := hsplit a l
    rw [hl, List.filter_append] at ih
    rw [hcons, List.filter_append]
    cases ha : keep a with
    | false =>
      have hna : ¬keep a = true := by simp [ha]
      rw [List.filter_cons_of_neg hna, List.filter_cons_of_neg hna, ih]
    | true =>
      obtain ⟨m₁, m₂, hcons', hm, hbefore', hafter'⟩ := hsplit a (l.filter keep)
      obtain ⟨rfl, rfl⟩ := append_cut (hm.symm.trans ih) hbefore' hafter'
        (fun b hb => hbefore b (List.mem_filter.1 hb).1)
        (fun b hb => hafter b (List.mem_filter.1 hb).1)
      rw [List.filter_cons_of_pos ha, List.filter_cons_of_pos ha, hcons']

theorem candidates_filter (keep : SourceFile → Bool) (files : List SourceFile) :
    Compilation.candidates (files.filter keep) = (Compilation.candidates files).filter keep := by
  rw [Compilation.candidates, List.filter_comm, mergeSort_filter, Compilation.candidates]
  · exact fun a b c => Path.namesBefore_trans _ _ _
  · exact fun a b => Path.namesBefore_total _ _

/-! ## Attempts -/

/-- **What comes of one unit**: where it came from, the file it was read from, and its definition, or
why there is none. -/
structure Attempt where
  origin : String
  file : Option String := none
  result : Except CompileError Definition

namespace Attempt

/-- The definition that was accepted. -/
def accepted? (a : Attempt) : Option Definition := a.result.toOption

/-- The file of a definition that was accepted. -/
def acceptedFile? (a : Attempt) : Option String := a.accepted?.bind fun _ => a.file

/-- What is said of a unit that was left out. -/
def skipped? (a : Attempt) : Option Skipped :=
  match a.result with
  | .ok _ => none
  | .error cause => some ⟨a.origin, cause⟩

end Attempt

/-- The attempt at a unit. -/
def SourceUnit.attempt (u : SourceUnit) : Attempt := ⟨u.origin, u.path, u.definition⟩

/-- The attempt at a declaration made in code. -/
def Declaration.attempt (d : Declaration) : Attempt := ⟨d.origin, none, d.compile⟩

/-- **The attempt at a file** of a folder, which has to be readable first. -/
def SourceFile.attempt (f : SourceFile) : Attempt :=
  match SourceUnit.ofFile f with
  | .ok u => u.attempt
  | .error cause => ⟨f.path, none, .error cause⟩

/-- True when a definition was accepted. -/
def Attempt.succeeds (a : Attempt) : Bool := a.accepted?.isSome

/-- True of a file that can be read. -/
def SourceFile.isReadable (f : SourceFile) : Bool := (SourceUnit.ofFile f).toOption.isSome

/-- **The attempts at a source**, one for every unit: a folder has one for every file that may hold a
unit. -/
def Source.attempts : Source → List Attempt
  | .unit u => [u.attempt]
  | .declared d => [d.attempt]
  | .folder files => (Compilation.candidates files).map SourceFile.attempt

/-- The attempts in the order in which they are reported: files that cannot be read come first. -/
def Source.reports : Source → List Attempt
  | .unit u => [u.attempt]
  | .declared d => [d.attempt]
  | .folder files =>
    let files := Compilation.candidates files
    (files.filter (!·.isReadable) ++ files.filter (·.isReadable)).map SourceFile.attempt

namespace Compilation

/-- Take an attempt in. -/
def take (c : Compilation) (a : Attempt) : Compilation := c.add a.origin a.file a.result

theorem foldl_unreadable (c : Compilation) (files : List SourceFile) :
    (files.foldl (fun c file => match SourceUnit.ofFile file with
      | .ok _ => c
      | .error cause => c.skip file.path cause) c) =
      ((files.filter (!·.isReadable)).map SourceFile.attempt).foldl take c := by
  induction files generalizing c with
  | nil => rfl
  | cons f files ih =>
    rw [List.foldl_cons, ih, List.filter_cons, SourceFile.isReadable]
    cases h : SourceUnit.ofFile f with
    | ok u => rfl
    | error cause =>
      have hattempt : f.attempt = ⟨f.path, none, .error cause⟩ := by rw [SourceFile.attempt, h]
      simp [Except.toOption, hattempt, take, add]

theorem foldl_readable (c : Compilation) (files : List SourceFile) :
    (files.filterMap fun file => (SourceUnit.ofFile file).toOption).foldl addUnit c =
      ((files.filter (·.isReadable)).map SourceFile.attempt).foldl take c := by
  induction files generalizing c with
  | nil => rfl
  | cons f files ih =>
    rw [List.filterMap_cons, List.filter_cons, SourceFile.isReadable]
    cases h : SourceUnit.ofFile f with
    | ok u =>
      have hattempt : f.attempt = u.attempt := by rw [SourceFile.attempt, h]
      simp only [Except.toOption, Option.isSome_some, if_true, List.foldl_cons, List.map_cons,
        hattempt]
      exact ih (c.addUnit u)
    | error cause => exact ih c

theorem addSource_eq (c : Compilation) (s : Source) : c.addSource s = s.reports.foldl take c := by
  cases s with
  | unit u => rfl
  | declared d => rfl
  | folder files =>
    rw [Source.reports, List.map_append, List.foldl_append, ← foldl_readable, ← foldl_unreadable]
    rfl

theorem foldl_take (c : Compilation) (as : List Attempt) :
    as.foldl take c =
      { definitions := (as.filterMap (·.accepted?)).foldl Registry.insert c.definitions
        files := c.files ++ as.filterMap (·.acceptedFile?)
        skipped := c.skipped ++ as.filterMap (·.skipped?) } := by
  induction as generalizing c with
  | nil => simp
  | cons a as ih =>
    rw [List.foldl_cons, ih]
    obtain ⟨origin, file, cause | d⟩ := a
    · simp [take, add, skip, Attempt.accepted?, Attempt.acceptedFile?, Attempt.skipped?,
        Except.toOption]
    · cases file <;>
        simp [take, add, accept, Attempt.accepted?, Attempt.acceptedFile?, Attempt.skipped?,
          Except.toOption]

end Compilation

theorem Source.reports_perm (s : Source) : s.reports.Perm s.attempts := by
  cases s with
  | unit u => exact .refl _
  | declared d => exact .refl _
  | folder files =>
    refine List.Perm.map _ (List.perm_append_comm.trans ?_)
    exact List.filter_append_perm SourceFile.isReadable _

theorem SourceFile.accepted?_attempt {f : SourceFile} (h : f.isReadable = false) :
    f.attempt.accepted? = none := by
  rw [isReadable] at h
  cases hof : SourceUnit.ofFile f with
  | ok u => simp [hof, Except.toOption] at h
  | error cause => rw [attempt, hof]; rfl

/-- **Unreadable files give nothing**, so what is accepted of the attempts does not depend on when they
are reported. -/
theorem Source.filterMap_reports {α : Type} {f : Attempt → Option α}
    (hf : ∀ a, a.accepted? = none → f a = none) (s : Source) :
    s.reports.filterMap f = s.attempts.filterMap f := by
  cases s with
  | unit u => rfl
  | declared d => rfl
  | folder files =>
    have hnone : ∀ file : SourceFile, file.isReadable = false → f file.attempt = none :=
      fun file h => hf _ (SourceFile.accepted?_attempt h)
    rw [reports, attempts, List.map_append, List.filterMap_append, List.filterMap_map,
      List.filterMap_map, List.filterMap_map, List.filterMap_eq_nil_iff.2, List.nil_append,
      List.filterMap_filter]
    · refine List.filterMap_congr fun file _ => ?_
      cases h : file.isReadable with
      | true => rfl
      | false => exact (hnone file h).symm
    · intro file hfile
      exact hnone file (by simpa using (List.mem_filter.1 hfile).2)

/-- **A compile run**: the definitions that were accepted, with their files, and the reasons of what was
left out. -/
theorem compileSources_eq (sources : List Source) :
    compileSources sources =
      { definitions := .ofList ((sources.flatMap Source.attempts).filterMap (·.accepted?))
        files := (sources.flatMap Source.attempts).filterMap (·.acceptedFile?)
        skipped := (sources.flatMap Source.reports).filterMap (·.skipped?) } := by
  have hfold : compileSources sources = (sources.flatMap Source.reports).foldl Compilation.take {} := by
    rw [compileSources, List.foldl_flatMap, funext₂ Compilation.addSource_eq]
  have hsame : ∀ {α : Type} {f : Attempt → Option α}, (∀ a, a.accepted? = none → f a = none) →
      (sources.flatMap Source.reports).filterMap f = (sources.flatMap Source.attempts).filterMap f := by
    intro α f hf
    rw [List.filterMap_flatMap, List.filterMap_flatMap, funext (Source.filterMap_reports hf)]
  rw [hfold, Compilation.foldl_take, hsame (fun _ h => h), hsame (f := (·.acceptedFile?)), Registry.ofList,
    List.nil_append, List.nil_append]
  intro a h
  rw [Attempt.acceptedFile?, h]
  rfl

/-! ## Transitions that ask for a queue -/

namespace Compilation

/-- **The transitions of a workflow that ask for a queue**, if it has any. -/
theorem get?_asyncTransitions (c : Compilation) (w : WorkflowName) :
    c.asyncTransitions.get? w = (c.definitions.get? w).bind fun d =>
      if d.asyncTransitions.isEmpty then none
      else some (SortedMap.ofList (d.asyncTransitions.map fun t => (t, ()))).keys := by
  let names (d : Definition) := (SortedMap.ofList (d.asyncTransitions.map fun t => (t, ()))).keys
  let asking := c.definitions.definitions.filter (!·.asyncTransitions.isEmpty)
  have hkeys : (asking.map fun d => (d.name, names d)).map (·.1) = asking.map (·.name) := by
    rw [List.map_map]
    rfl
  cases hget : c.definitions.get? w with
  | none =>
    refine SortedMap.get?_ofList_of_notMem (hkeys ▸ fun hmem => ?_)
    obtain ⟨d, hd, rfl⟩ := List.mem_map.1 hmem
    rw [Registry.get?_of_mem (List.mem_filter.1 hd).1] at hget
    cases hget
  | some d =>
    obtain ⟨hd, rfl⟩ := Registry.get?_eq_some hget
    rw [Option.bind_some]
    cases hempty : d.asyncTransitions.isEmpty with
    | true =>
      refine SortedMap.get?_ofList_of_notMem (hkeys ▸ fun hmem => ?_)
      obtain ⟨d', hd', hname⟩ := List.mem_map.1 hmem
      obtain ⟨hd', hasks⟩ := List.mem_filter.1 hd'
      rw [← hname, Registry.get?_of_mem hd', Option.some.injEq] at hget
      rw [hget, hempty] at hasks
      cases hasks
    | false =>
      refine SortedMap.get?_ofList_of_mem (hkeys ▸ ?_) ?_
      · exact c.definitions.nodup.sublist (List.filter_sublist.map _)
      · refine List.mem_map.2 ⟨d, List.mem_filter.2 ⟨hd, ?_⟩, rfl⟩
        rw [hempty]
        rfl

end Compilation

/-! ## Sources without failures -/

/-- A source without the units that fail, if anything is left of it. -/
def Source.mended? : Source → Option Source
  | .unit u => if u.attempt.succeeds then some (.unit u) else none
  | .declared d => if d.attempt.succeeds then some (.declared d) else none
  | .folder files => some (.folder (files.filter (·.attempt.succeeds)))

/-- **Sources without the units that fail.** -/
def withoutFailures (sources : List Source) : List Source := sources.filterMap Source.mended?

theorem Source.attempts_mended? (s : Source) :
    (s.mended?.map Source.attempts).getD [] = s.attempts.filter (·.succeeds) := by
  cases s with
  | unit u => cases h : u.attempt.succeeds <;> simp [mended?, attempts, h]
  | declared d => cases h : d.attempt.succeeds <;> simp [mended?, attempts, h]
  | folder files =>
    rw [mended?, Option.map_some, Option.getD_some, attempts, attempts, candidates_filter,
      List.filter_map]
    rfl

/-- **What is attempted without the units that fail** are the attempts that succeed. -/
theorem attempts_withoutFailures (sources : List Source) :
    (withoutFailures sources).flatMap Source.attempts =
      (sources.flatMap Source.attempts).filter (·.succeeds) := by
  induction sources with
  | nil => rfl
  | cons s sources ih =>
    rw [List.flatMap_cons, List.filter_append, ← ih, ← Source.attempts_mended?, withoutFailures,
      List.filterMap_cons]
    cases s.mended? <;> rfl

theorem filterMap_filter_succeeds {α : Type} {f : Attempt → Option α}
    (hf : ∀ a, a.accepted? = none → f a = none) (as : List Attempt) :
    (as.filter (·.succeeds)).filterMap f = as.filterMap f := by
  rw [List.filterMap_filter]
  refine List.filterMap_congr fun a _ => ?_
  cases h : a.succeeds with
  | true => rfl
  | false => exact (hf a (by simpa [Attempt.succeeds] using h)).symm

/-! ## Compile runs -/

/-- **A compilation of some attempts.** Under every name there is the last definition that was accepted,
where the first one stood; every attempt was accepted or left out with its reason; and what is said to
ask for a queue are transitions of the definitions in force that do. -/
structure Compilation.Settles (c : Compilation) (as : List Attempt) : Prop where
  nodup : c.definitions.names.Nodup
  names : c.definitions.names = distinct ((as.filterMap (·.accepted?)).map (·.name))
  last : ∀ name, c.definitions.get? name =
    (as.filterMap (·.accepted?)).reverse.find? (·.name = name)
  files : c.files = as.filterMap (·.acceptedFile?)
  skipped : c.skipped.Perm (as.filterMap (·.skipped?))
  once : (as.filterMap (·.accepted?)).length + c.skipped.length = as.length
  async : ∀ w t, t ∈ (c.asyncTransitions.get? w).getD [] ↔
    ∃ d, c.definitions.get? w = some d ∧ ∃ transition ∈ d.transitions,
      transition.name = t ∧ transition.isAsync = true
  async_none : ∀ w, c.asyncTransitions.get? w = none ↔
    ∀ d, c.definitions.get? w = some d → ∀ t ∈ d.transitions, t.isAsync = false
  async_sorted : ∀ w names, c.asyncTransitions.get? w = some names → names.Pairwise (· < ·)

theorem mem_asyncTransitions_iff {d : Definition} {t : TransitionName} :
    t ∈ d.asyncTransitions ↔
      ∃ transition ∈ d.transitions, transition.name = t ∧ transition.isAsync = true := by
  simp only [Definition.asyncTransitions, List.mem_map, List.mem_filter]
  exact ⟨fun ⟨x, ⟨hx, ha⟩, hn⟩ => ⟨x, hx, hn, ha⟩, fun ⟨x, hx, hn, ha⟩ => ⟨x, ⟨hx, ha⟩, hn⟩⟩

theorem mem_get?_asyncTransitions (c : Compilation) (w : WorkflowName) (t : TransitionName) :
    t ∈ (c.asyncTransitions.get? w).getD [] ↔
      ∃ d, c.definitions.get? w = some d ∧ t ∈ d.asyncTransitions := by
  rw [c.get?_asyncTransitions]
  cases c.definitions.get? w with
  | none => simp
  | some d =>
    rw [Option.bind_some]
    cases hempty : d.asyncTransitions.isEmpty with
    | true => simp [List.isEmpty_iff.1 hempty]
    | false =>
      rw [if_neg Bool.false_ne_true, Option.getD_some, SortedMap.mem_keys_ofList]
      simp

theorem reports_perm (sources : List Source) :
    ((sources.flatMap Source.reports).filterMap (·.skipped?)).Perm
      ((sources.flatMap Source.attempts).filterMap (·.skipped?)) :=
  List.Perm.filterMap _ (List.Perm.flatMap_left _ fun s _ => s.reports_perm)

theorem length_accepted_skipped (as : List Attempt) :
    (as.filterMap (·.accepted?)).length + (as.filterMap (·.skipped?)).length = as.length := by
  induction as with
  | nil => rfl
  | cons a as ih =>
    rw [List.filterMap_cons, List.filterMap_cons, List.length_cons, ← ih]
    obtain ⟨origin, file, cause | d⟩ := a
    · rfl
    · exact Nat.add_right_comm _ 1 _

theorem skipped?_of_succeeds {a : Attempt} (h : a.succeeds = true) : a.skipped? = none := by
  obtain ⟨origin, file, cause | d⟩ := a
  · cases h
  · rfl

theorem settles_compileSources (sources : List Source) :
    (compileSources sources).Settles (sources.flatMap Source.attempts) where
  nodup := (compileSources sources).definitions.nodup
  names := by rw [compileSources_eq, Registry.names_ofList]
  last name := by rw [compileSources_eq, Registry.get?_ofList]
  files := by rw [compileSources_eq]
  skipped := by
    rw [compileSources_eq]
    exact reports_perm sources
  once := by
    rw [compileSources_eq, (reports_perm sources).length_eq, length_accepted_skipped]
  async w t := by simp only [mem_get?_asyncTransitions, mem_asyncTransitions_iff]
  async_none w := by
    rw [Compilation.get?_asyncTransitions, Option.bind_eq_none_iff]
    refine forall₂_congr fun d _ => ?_
    rw [ite_eq_left_iff]
    simp [Definition.asyncTransitions]
  async_sorted w names h := by
    rw [Compilation.get?_asyncTransitions, Option.bind_eq_some_iff] at h
    obtain ⟨d, _, h⟩ := h
    split at h
    · cases h
    · cases h
      exact SortedMap.pairwise_keys _

/-- **A compile run is a fold in which the last definition of a name wins, and failures disturb
nothing.** It is a compilation of the attempts at its sources; the same sources without the units that
fail give the same definitions, files and transitions that ask for a queue; and the sources put in once
more change no definition. -/
theorem compileSources_settles (sources : List Source) :
    let c := compileSources sources
    let mended := compileSources (withoutFailures sources)
    c.Settles (sources.flatMap Source.attempts) ∧
      (mended.definitions = c.definitions ∧ mended.files = c.files ∧
        mended.asyncTransitions = c.asyncTransitions ∧ mended.skipped = []) ∧
      (compileSources (sources ++ sources)).definitions = c.definitions := by
  intro c mended
  have hdefinitions : mended.definitions = c.definitions := by
    simp only [mended, c, compileSources_eq, attempts_withoutFailures]
    rw [filterMap_filter_succeeds fun _ h => h]
  have hfiles : mended.files = c.files := by
    simp only [mended, c, compileSources_eq, attempts_withoutFailures]
    exact filterMap_filter_succeeds (fun a h => by rw [Attempt.acceptedFile?, h]; rfl) _
  have hskipped : mended.skipped = [] := by
    refine List.perm_nil.1 ((settles_compileSources (withoutFailures sources)).skipped.trans ?_)
    rw [attempts_withoutFailures, List.filterMap_eq_nil_iff.2]
    exact fun a ha => skipped?_of_succeeds (List.mem_filter.1 ha).2
  refine ⟨settles_compileSources sources,
    ⟨hdefinitions, hfiles, by simp only [Compilation.asyncTransitions, hdefinitions], hskipped⟩, ?_⟩
  simp only [c, compileSources_eq, List.flatMap_append, List.filterMap_append,
    Registry.ofList_append_self]

end WorkflowEngine
