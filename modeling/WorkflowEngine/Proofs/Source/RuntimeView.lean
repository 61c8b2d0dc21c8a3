import WorkflowEngine.Proofs.Declaration.ReadBack
import WorkflowEngine.Proofs.Json.Injective
import WorkflowEngine.Proofs.Workflow.Registry
import WorkflowEngine.Source.Compilation
import WorkflowEngine.Source.RuntimeView

/-!
# The runtime view loses nothing

What is left out of the view of a definition has one value it can have had: metadata that are empty, a
guard that is not there. Places keep their order under their names, and a state machine has one place to
start in. So the text of the view tells everything about how the definition behaves.

* `Definition.SameBehaviour`: definitions that differ in their name and their own metadata at most;
* `PlaceMetadata.eq_of_fields`, `TransitionMetadata.eq_of_fields`, `eq_of_metadataView`: metadata;
* `Place.eq_of_runtimeView`, `Transition.eq_of_runtimeView`: places and transitions;
* `Definition.finite_runtimeView`: all numbers in a view are finite;
* **`Definition.text_runtimeView_iff`**: views and behaviours correspond.
-/

namespace WorkflowEngine

open Document (ofJson)

/-! ## Metadata -/

theorem eq_of_readBack {α : Type} {read : Document → Option α} {write : α → Json} {a b : α}
    (ha : read (ofJson (write a)) = some a) (hb : read (ofJson (write b)) = some b)
    (same : write a = write b) : a = b := by
  rw [same, hb] at ha
  exact (Option.some.inj ha).symm

namespace PlaceMetadata

variable {p p' : PlaceMetadata}

theorem kept_fields (h : p.Readable) : ∀ e ∈ p.fields, e.2.Kept := by
  rw [fields_eq]
  exact List.forall_mem_append.2 ⟨fun e he => (p.forall_mem_knownFields e he).2,
    Json.kept_of_mem_fields h.extensions_kept⟩

theorem eq_of_fields (h : p.Readable) (h' : p'.Readable) (same : p.fields = p'.fields) : p = p' :=
  eq_of_readBack (ofDocument?_toJson h) (ofDocument?_toJson h') (congrArg Json.ofPairs same)

end PlaceMetadata

namespace TransitionMetadata

variable {t t' : TransitionMetadata}

theorem kept_fields (h : t.Readable) : ∀ e ∈ t.fields, e.2.Kept := by
  rw [fields_eq]
  exact List.forall_mem_append.2 ⟨fun e he => (t.forall_mem_knownFields e he).2,
    Json.kept_of_mem_fields h.extensions_kept⟩

theorem eq_of_fields (h : t.Readable) (h' : t'.Readable) (same : t.fields = t'.fields) : t = t' :=
  eq_of_readBack (ofDocument?_toJson h) (ofDocument?_toJson h') (congrArg Json.ofPairs same)

end TransitionMetadata

/-- **The metadata of a view** are told whether they are left out or not. -/
theorem eq_of_metadataView {α : Type} {isEmpty : α → Bool} {fields : α → List (String × Json)}
    {a b : α} (empty : isEmpty a = true → isEmpty b = true → a = b)
    (same : fields a = fields b → a = b)
    (h : metadataView (isEmpty a) (fields a) = metadataView (isEmpty b) (fields b)) : a = b := by
  unfold metadataView at h
  split at h <;> split at h
  · exact empty ‹_› ‹_›
  · cases h
  · cases h
  · simp only [List.cons.injEq, Prod.mk.injEq, Json.object.injEq, and_true, true_and] at h
    exact same h

theorem finite_metadataView {isEmpty : Bool} {fields : List (String × Json)}
    (h : ∀ e ∈ fields, e.2.Kept) : ∀ e ∈ metadataView isEmpty fields, e.2.Finite := by
  intro e he
  unfold metadataView at he
  split at he
  · cases he
  · obtain rfl := List.mem_singleton.1 he
    exact .object fun e he => Json.finite_of_kept e.2 (h e he)

/-! ## Places and transitions -/

theorem Place.eq_of_runtimeView {p p' : Place} (h : p.metadata.Readable) (h' : p'.metadata.Readable)
    (name : p.name = p'.name) (view : p.runtimeView = p'.runtimeView) : p = p' := by
  have hmetadata : p.metadata = p'.metadata :=
    eq_of_metadataView (fun hp hp' => (PlaceMetadata.eq_empty_of_isEmpty hp).trans
      (PlaceMetadata.eq_empty_of_isEmpty hp').symm) (PlaceMetadata.eq_of_fields h h')
      (Json.object.inj view)
  cases p
  cases p'
  rw [mk.injEq]
  exact ⟨name, hmetadata⟩

theorem eq_of_map_eq {α β : Type} {f : α → β} {xs ys : List α}
    (inj : ∀ x ∈ xs, ∀ y ∈ ys, f x = f y → x = y) (h : xs.map f = ys.map f) : xs = ys := by
  induction xs generalizing ys with
  | nil => exact (List.map_eq_nil_iff.1 h.symm).symm
  | cons x xs ih =>
    cases ys with
    | nil => cases h
    | cons y ys =>
      obtain ⟨hfirst, hrest⟩ := List.cons.inj h
      rw [inj x List.mem_cons_self y List.mem_cons_self hfirst,
        ih (fun x hx y hy => inj x (List.mem_cons_of_mem _ hx) y (List.mem_cons_of_mem _ hy)) hrest]

theorem ofStrings_inj {names names' : List String} (h : Json.ofStrings names = .ofStrings names') :
    names = names' :=
  List.map_injective_iff.2 (fun _ _ h => Json.string.inj h) (Json.array.inj h)

theorem eq_of_guardView {guard guard' : Option String} {isEmpty isEmpty' : Bool}
    {fields fields' : List (String × Json)}
    (h : textField "guard" guard ++ metadataView isEmpty fields =
      textField "guard" guard' ++ metadataView isEmpty' fields') :
    guard = guard' ∧ metadataView isEmpty fields = metadataView isEmpty' fields' := by
  have hkey : ∀ {g : String} {rest : List (String × Json)} {isEmpty : Bool} {fields},
      metadataView isEmpty fields ≠ ("guard", .string g) :: rest := by
    intro g rest isEmpty fields heq
    unfold metadataView at heq
    split at heq
    · cases heq
    · simp at heq
  cases guard with
  | none =>
    cases guard' with
    | none => exact ⟨rfl, h⟩
    | some g' => exact absurd h hkey
  | some g =>
    cases guard' with
    | none => exact absurd h.symm hkey
    | some g' =>
      obtain ⟨hguard, hrest⟩ := List.cons.inj h
      exact ⟨congrArg some (Json.string.inj (Prod.mk.inj hguard).2), hrest⟩

theorem Transition.eq_of_runtimeView {t t' : Transition} (h : t.metadata.Readable)
    (h' : t'.metadata.Readable) (view : t.runtimeView = t'.runtimeView) : t = t' := by
  have hfields := Json.object.inj view
  simp only [List.cons_append, List.nil_append, List.cons.injEq, Prod.mk.injEq, true_and] at hfields
  obtain ⟨name, sources, targets, hrest⟩ := hfields
  obtain ⟨guard, hmetadata⟩ := eq_of_guardView hrest
  have hmetadata : t.metadata = t'.metadata :=
    eq_of_metadataView (fun ht ht' => (TransitionMetadata.eq_empty_of_isEmpty ht).trans
      (TransitionMetadata.eq_empty_of_isEmpty ht').symm) (TransitionMetadata.eq_of_fields h h')
      hmetadata
  cases t
  cases t'
  rw [mk.injEq]
  exact ⟨Json.string.inj name, ofStrings_inj sources, ofStrings_inj targets, guard, hmetadata⟩

/-! ## Numbers of a view -/

theorem Place.finite_runtimeView {p : Place} (h : p.metadata.Readable) : p.runtimeView.Finite :=
  .object (finite_metadataView (PlaceMetadata.kept_fields h))

theorem Transition.finite_runtimeView {t : Transition} (h : t.metadata.Readable) :
    t.runtimeView.Finite := by
  refine .object ?_
  simp only [List.forall_mem_append, List.forall_mem_cons]
  refine ⟨⟨⟨.string _, .of_ofStrings _, .of_ofStrings _, nofun⟩, fun e he => ?_⟩,
    finite_metadataView (TransitionMetadata.kept_fields h)⟩
  exact Json.finite_of_kept e.2 (kept_textField _ _ e he)

namespace Definition

variable {a b : Definition}

theorem finite_initialView (d : Definition) : d.initialView.Finite := by
  unfold initialView
  split
  · cases d.initialPlaces.head? with
    | none => exact .null
    | some place => exact .string place
  · exact .of_ofStrings _

/-- **All numbers in a view are finite**, if the values of the metadata are kept. -/
theorem finite_runtimeView (h : a.Readable) : a.runtimeView.Finite := by
  refine .object ?_
  simp only [List.forall_mem_cons]
  refine ⟨.string _, .of_ofStrings _, .object fun e he => ?_, .array fun v hv => ?_,
    a.finite_initialView, nofun⟩
  · obtain ⟨p, hp, rfl⟩ := List.mem_map.1 he
    exact Place.finite_runtimeView (h.places p hp)
  · obtain ⟨t, ht, rfl⟩ := List.mem_map.1 hv
    exact Transition.finite_runtimeView (h.transitions t ht)

/-! ## Definitions -/

/-- **Definitions that behave alike**: they differ in their name and their own metadata at most. -/
structure SameBehaviour (a b : Definition) : Prop where
  kind : a.kind = b.kind
  supports : a.supports = b.supports
  places : a.places = b.places
  transitions : a.transitions = b.transitions
  initialPlaces : a.initialPlaces = b.initialPlaces

theorem SameBehaviour.runtimeView_eq (h : a.SameBehaviour b) : a.runtimeView = b.runtimeView := by
  rw [runtimeView, runtimeView, initialView, initialView, h.kind, h.supports, h.places,
    h.transitions, h.initialPlaces]

theorem kind_eq_of_text {kind kind' : Kind} (h : kind.text = kind'.text) : kind = kind' := by
  cases kind <;> cases kind' <;> first | rfl | exact absurd h (by decide)

theorem sameBehaviour_of_runtimeView (h : a.Readable) (h' : b.Readable) (normal : a.NormalForm)
    (normal' : b.NormalForm) (view : a.runtimeView = b.runtimeView) : a.SameBehaviour b := by
  have hfields := Json.object.inj view
  simp only [List.cons.injEq, Prod.mk.injEq, true_and, and_true, Json.string.injEq,
    Json.object.injEq, Json.array.injEq] at hfields
  obtain ⟨hkind, hsupports, hplaces, htransitions, hinitial⟩ := hfields
  have hkind := kind_eq_of_text hkind
  refine ⟨hkind, ofStrings_inj hsupports, ?_, ?_, ?_⟩
  · refine eq_of_map_eq (fun p hp p' hp' heq => ?_) hplaces
    obtain ⟨hname, hview⟩ := Prod.mk.inj heq
    exact Place.eq_of_runtimeView (h.places p hp) (h'.places p' hp') hname hview
  · exact eq_of_map_eq (fun t ht t' ht' => Transition.eq_of_runtimeView (h.transitions t ht)
      (h'.transitions t' ht')) htransitions
  · unfold initialView at hinitial
    cases hmachine : a.kind with
    | workflow =>
      rw [← hkind, hmachine] at hinitial
      exact ofStrings_inj hinitial
    | stateMachine =>
      -- a state machine starts in one place, which is what its view says
      obtain ⟨place, hplace⟩ := List.length_eq_one_iff.1 (normal.single_initial hmachine)
      obtain ⟨place', hplace'⟩ :=
        List.length_eq_one_iff.1 (normal'.single_initial (hkind ▸ hmachine))
      rw [← hkind, hmachine, hplace, hplace'] at hinitial
      rw [hplace, hplace', Json.string.inj hinitial]

end Definition

/-! ## All definitions -/

theorem Registry.runtimeView_eq (r : Registry) :
    ∃ entries, r.runtimeView = .object entries ∧
      entries.Perm (r.definitions.map fun d => (d.name, d.runtimeView)) ∧
      (entries.map (·.1)).Nodup := by
  have hnames : (r.definitions.map fun d => (d.name, d.runtimeView)).map (·.1) =
      r.definitions.map (·.name) := by
    rw [List.map_map]
    rfl
  have hperm := SortedMap.perm_entries_ofList (hnames ▸ r.nodup)
  refine ⟨_, rfl, hperm, ?_⟩
  exact (hperm.map (·.1)).nodup_iff.2 (hnames ▸ r.nodup)

namespace Definition

/-- **The runtime view loses no behaviour.** Definitions that were compiled, from values as readers give
them, have views of the same text exactly if they behave alike: if they have the same kind, apply to the
same types, and have the same places, transitions and places to start in, with all their metadata. And
the view of a compiled set has one entry for every definition, under its name. -/
theorem text_runtimeView_iff {d d' : Declaration} {a b : Definition} (kept : d.Kept)
    (kept' : d'.Kept) (h : d.compile = .ok a) (h' : d'.compile = .ok b) :
    (a.runtimeView.text = b.runtimeView.text ↔ a.SameBehaviour b) ∧
      ∀ sources : List Source, ∃ entries,
        (compileSources sources).definitions.runtimeView = .object entries ∧
        entries.Perm
          ((compileSources sources).definitions.definitions.map fun d => (d.name, d.runtimeView)) ∧
        (entries.map (·.1)).Nodup := by
  have readable := Declaration.readable_of_compile kept h
  have readable' := Declaration.readable_of_compile kept' h'
  refine ⟨⟨fun text => ?_, fun same => by rw [same.runtimeView_eq]⟩, fun sources => ?_⟩
  · exact sameBehaviour_of_runtimeView readable readable' (Declaration.normalForm_of_compile h)
      (Declaration.normalForm_of_compile h')
      (Json.eq_of_text _ _ (finite_runtimeView readable) (finite_runtimeView readable') text)
  · exact Registry.runtimeView_eq _

/-- The review of articles under another name, with metadata of its own, a place without metadata that is
written with its keys, and a guard that stands under its own key. -/
def renamedReview : Declaration where
  header :=
    { name := some "PressReview"
      kind := some "workflow"
      supports := some (.one "ArticleReview")
      metadata := .ofList [("owner", .string "press")] }
  places := [.detailed { name := "draft" }, .detailed
    { name := "review"
      initial := true
      info := some "7"
      next := some (.many ["publish", "reject"])
      loose := .ofList [("guard", .bool true)] }]
  transitions := [
    { name := "publish"
      sources := .many ["draft", "review"]
      targets := .one "draft"
      guard := some "score > 3"
      async := true
      next := some (.many ["publish"])
      loose := .ofList [("owner", .string "desk")] },
    { name := "reject"
      sources := .one "review"
      targets := .one "draft"
      next := some (.one "publish") }]

theorem text_runtimeView_iff_renamedReview :
    ∃ a b, Declaration.articleReview.compile = .ok a ∧ renamedReview.compile = .ok b ∧
      a.name ≠ b.name ∧ a.runtimeView.text = b.runtimeView.text ∧ a.SameBehaviour b := by
  have kept : Declaration.articleReview.Kept :=
    ⟨by decide +kernel, by decide +kernel, by decide +kernel⟩
  have kept' : renamedReview.Kept := ⟨by decide +kernel, by decide +kernel, by decide +kernel⟩
  have compiled : (Declaration.articleReview.compile.toOption).isSome = true ∧
      (renamedReview.compile.toOption).isSome = true := by decide +kernel
  obtain ⟨a, ha⟩ := Option.isSome_iff_exists.1 compiled.1
  obtain ⟨b, hb⟩ := Option.isSome_iff_exists.1 compiled.2
  have texts : Declaration.articleReview.compile.toOption.map (·.runtimeView.text) =
      renamedReview.compile.toOption.map (·.runtimeView.text) := by decide +kernel
  have names : Declaration.articleReview.compile.toOption.map (·.name) ≠
      renamedReview.compile.toOption.map (·.name) := by decide +kernel
  rw [ha, hb] at texts names
  have text : a.runtimeView.text = b.runtimeView.text := Option.some.inj texts
  have h := toOption_eq_some_iff.1 ha
  have h' := toOption_eq_some_iff.1 hb
  exact ⟨a, b, h, h', fun name => names (congrArg some name), text,
    (text_runtimeView_iff kept kept' h h').1.1 text⟩

end Definition

end WorkflowEngine
