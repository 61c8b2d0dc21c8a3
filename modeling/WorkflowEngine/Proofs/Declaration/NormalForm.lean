import WorkflowEngine.Declaration.Compile
import WorkflowEngine.Proofs.Workflow.Metadata
import WorkflowEngine.Proofs.Workflow.Validity

/-!
# The normal form of compiled definitions

However a declaration is written, with values under known keys, under `metadata` or loose beside them,
what it is compiled to has one form.

* `DetailedPlace.compile_eq_ok`, `DeclaredTransition.compile_eq_ok`, `Declaration.compile_eq_ok`: what
  the parts of a compiled definition are made of;
* `Place.NormalForm`, `Transition.NormalForm`, `Definition.NormalForm`;
* **`Declaration.normalForm_of_compile`**: a compiled definition is in normal form.
-/

namespace WorkflowEngine

theorem nonBlank?_eq_some_iff {s t : String} :
    Text.nonBlank? s = some t ↔ t = s ∧ Text.isBlankText s = false := by
  unfold Text.nonBlank?
  cases Text.isBlankText s <;> simp [eq_comm]

theorem notBlank_of_mem_bind {o : Option String} {s : String} (h : s ∈ o.bind Text.nonBlank?) :
    Text.isBlankText s = false := by
  obtain ⟨t, _, ht⟩ := Option.bind_eq_some_iff.1 h
  obtain ⟨rfl, notBlank⟩ := nonBlank?_eq_some_iff.1 ht
  exact notBlank

/-! ## Normal forms -/

/-- **A place in normal form.** -/
structure Place.NormalForm (p : Place) : Prop where
  named : Text.isBlankText p.name = false
  metadata : p.metadata.WellFormed

/-- **A transition in normal form**: its ends are sets, what it names is not blank, and its guard is
nowhere else. -/
structure Transition.NormalForm (t : Transition) : Prop where
  named : Text.isBlankText t.name = false
  sources_ne_nil : t.sources ≠ []
  sources_nodup : t.sources.Nodup
  targets_ne_nil : t.targets ≠ []
  targets_nodup : t.targets.Nodup
  guard_named : ∀ guard ∈ t.guard, Text.isBlankText guard = false
  transport_named : ∀ transport ∈ t.metadata.transport, Text.isBlankText transport = false
  guard_lifted : "guard" ∉ t.metadata.extensions.keys
  metadata : t.metadata.WellFormed

/-- **A definition in normal form.** -/
structure Definition.NormalForm (d : Definition) : Prop where
  valid : d.isValid = true
  named : Text.isBlankText d.name = false
  supports_ne_nil : d.supports ≠ []
  places : ∀ p ∈ d.places, p.NormalForm
  transitions : ∀ t ∈ d.transitions, t.NormalForm
  single_initial : d.kind = .stateMachine → d.initialPlaces.length = 1
  single_target : d.kind = .stateMachine → ∀ t ∈ d.transitions, t.targets.length = 1

/-! ## Places -/

namespace DetailedPlace

/-- The loose map that a place gives its metadata from. -/
def merged (p : DetailedPlace) : SortedMap Json :=
  mergedMetadata p.metadata p.loose
    (textField "info" p.info ++ textField "description" p.description ++
      textField "backgroundColor" p.backgroundColor ++ nextField p.next)

theorem compile_eq_ok {p : DetailedPlace} {place : Place} (h : p.compile = .ok place) :
    place.name = p.name ∧ Text.isBlankText p.name = false ∧
      PlaceMetadata.ofMap p.merged = .ok place.metadata := by
  unfold compile at h
  obtain ⟨name, hname, h⟩ := bind_eq_ok_iff.1 h
  obtain ⟨metadata, hmetadata, h⟩ := bind_eq_ok_iff.1 h
  cases h
  obtain ⟨rfl, notBlank⟩ := checkName_eq_ok_iff.1 (mapError_eq_ok_iff.1 hname)
  exact ⟨rfl, notBlank, mapError_eq_ok_iff.1 hmetadata⟩

theorem normalForm_compile {p : DetailedPlace} {place : Place} (h : p.compile = .ok place) :
    place.NormalForm := by
  obtain ⟨hname, notBlank, hmetadata⟩ := compile_eq_ok h
  exact ⟨hname ▸ notBlank, PlaceMetadata.wellFormed_of_ofMap hmetadata⟩

end DetailedPlace

/-! ## Transitions -/

namespace DeclaredTransition

/-- What stands under the known keys of a transition's metadata. -/
def ownFields (t : DeclaredTransition) : List (String × Json) :=
  textField "info" t.info ++ textField "description" t.description ++
    textField "transport" t.transport ++ nextField t.next

/-- The loose map that a transition gives its metadata from; the guard is not in it. -/
def merged (t : DeclaredTransition) : SortedMap Json :=
  ((mergedMetadata t.metadata t.loose []).erase "guard").overlay (.ofList t.ownFields)

theorem compile_eq_ok {t : DeclaredTransition} {u : Transition} (h : t.compile = .ok u) :
    ∃ (lifted : Option String) (metadata : TransitionMetadata) (sources targets : List PlaceName),
      Text.isBlankText t.name = false ∧
      liftedGuard (mergedMetadata t.metadata t.loose []) = .ok lifted ∧
      TransitionMetadata.ofMap t.merged = .ok metadata ∧
      u = { name := t.name, sources := distinct sources, targets := distinct targets
            guard := (t.guard.bind Text.nonBlank?).or (lifted.bind Text.nonBlank?)
            metadata := { metadata with async := metadata.async || t.async } } := by
  unfold compile at h
  obtain ⟨lifted, hlifted, h⟩ := bind_eq_ok_iff.1 h
  obtain ⟨metadata, hmetadata, h⟩ := bind_eq_ok_iff.1 h
  obtain ⟨name, hname, h⟩ := bind_eq_ok_iff.1 h
  obtain ⟨sources, _, h⟩ := bind_eq_ok_iff.1 h
  obtain ⟨targets, _, h⟩ := bind_eq_ok_iff.1 h
  cases h
  obtain ⟨rfl, notBlank⟩ := checkName_eq_ok_iff.1 (mapError_eq_ok_iff.1 hname)
  exact ⟨lifted, metadata, sources, targets, notBlank, mapError_eq_ok_iff.1 hlifted,
    mapError_eq_ok_iff.1 hmetadata, rfl⟩

theorem get?_guard_merged (t : DeclaredTransition) : t.merged.get? "guard" = none := by
  have hown : (SortedMap.ofList t.ownFields).get? "guard" = none := by
    refine SortedMap.get?_ofList_of_notMem fun hmem => ?_
    simp [ownFields, textField, nextField] at hmem
  rw [merged, SortedMap.get?_overlay, hown, SortedMap.get?_erase, if_pos rfl, Option.or_none]

theorem normalForm_compile {t : DeclaredTransition} {u : Transition} (h : t.compile = .ok u)
    (hsources : u.sources ≠ []) (htargets : u.targets ≠ []) : u.NormalForm := by
  obtain ⟨lifted, metadata, sources, targets, notBlank, _, hmetadata, rfl⟩ := compile_eq_ok h
  have hwell := TransitionMetadata.wellFormed_of_ofMap hmetadata
  obtain ⟨_, _, _, ⟨transport, _, htransport⟩, _, hextensions⟩ :=
    TransitionMetadata.ofMap_eq_ok hmetadata
  refine ⟨notBlank, hsources, nodup_distinct _, htargets, nodup_distinct _, ?_, ?_, ?_,
    ⟨hwell.next_named, hwell.extensions_unknown⟩⟩
  · intro guard hguard
    rcases Option.or_eq_some_iff.1 hguard with hown | ⟨_, hlifted⟩
    · exact notBlank_of_mem_bind hown
    · exact notBlank_of_mem_bind hlifted
  · intro transport' hmem
    exact notBlank_of_mem_bind (htransport ▸ hmem)
  · change "guard" ∉ metadata.extensions.keys
    rw [hextensions, SortedMap.mem_keys_iff, get?_withoutKeys, get?_guard_merged, ite_self]
    exact Bool.false_ne_true

end DeclaredTransition

/-! ## Definitions -/

namespace Declaration

theorem compile_eq_ok {d : Declaration} {definition : Definition} (h : d.compile = .ok definition) :
    Text.isBlankText definition.name = false ∧ definition.supports ≠ [] ∧
      definition.metadata = d.header.metadata ∧
      (d.places.map DeclaredPlace.details).mapM DetailedPlace.compile = .ok definition.places ∧
      d.transitions.mapM DeclaredTransition.compile = .ok definition.transitions ∧
      definition.isValid = true := by
  unfold compile at h
  cases hname : d.header.name.bind Text.nonBlank? with
  | none =>
    rw [hname] at h
    cases h
  | some name =>
    rw [hname] at h
    obtain ⟨kind, _, h⟩ := bind_eq_ok_iff.1 h
    have h := mapError_eq_ok_iff.1 h
    obtain ⟨places, hplaces, h⟩ := bind_eq_ok_iff.1 h
    obtain ⟨transitions, htransitions, h⟩ := bind_eq_ok_iff.1 h
    obtain ⟨named, _, h⟩ := bind_eq_ok_iff.1 h
    obtain ⟨_, hvalid, h⟩ := bind_eq_ok_iff.1 h
    cases h
    refine ⟨notBlank_of_mem_bind hname, ?_, rfl, hplaces, htransitions, validate_eq_ok_iff.1 hvalid⟩
    dsimp only
    split
    · exact List.cons_ne_nil _ _
    · next hsupports => exact fun hnil => hsupports (List.isEmpty_iff.2 hnil)

/-- **A compiled definition is in normal form.** -/
theorem normalForm_of_compile {d : Declaration} {definition : Definition}
    (h : d.compile = .ok definition) : definition.NormalForm := by
  obtain ⟨named, supports, _, hplaces, htransitions, valid⟩ := compile_eq_ok h
  have wellFormed := isValid_iff.1 valid
  refine ⟨valid, named, supports, ?_, ?_, wellFormed.single_initial, wellFormed.single_target⟩
  · intro p hp
    obtain ⟨_, _, hcompile⟩ := exists_of_mapM_ok hplaces p hp
    exact DetailedPlace.normalForm_compile hcompile
  · intro t ht
    obtain ⟨_, _, hcompile⟩ := exists_of_mapM_ok htransitions t ht
    exact DeclaredTransition.normalForm_compile hcompile (wellFormed.sources_ne_nil t ht)
      (wellFormed.targets_ne_nil t ht)

/-- A workflow that reviews articles, with a guard under the metadata, names given twice, a blank
transport, a number as text, and `next` in three ways. -/
def articleReview : Declaration where
  header := { name := some "ArticleReview", kind := some " Workflow " }
  places := [.bare "draft", .detailed
    { name := "review"
      initial := true
      next := some (.many ["publish", "reject"])
      metadata := .ofList [("guard", .bool true), ("info", .ofInt 7), ("next", .string "ignored")] }]
  transitions := [
    { name := "publish"
      sources := .many ["draft", "review", "draft"]
      targets := .one "draft"
      guard := some " "
      async := true
      next := some (.one "publish")
      metadata := .ofList [("guard", .string "score > 3"), ("transport", .string " ")]
      loose := .ofList [("guard", .ofInt 0), ("next", .null), ("owner", .string "desk")] },
    { name := "reject"
      sources := .one "review"
      targets := .many ["draft", "draft"]
      loose := .ofList [("next", .array [.string "publish"]), ("guard", .null)] }]

theorem normalForm_of_compile_articleReview :
    let definition : Definition :=
      { name := "ArticleReview"
        kind := .workflow
        places := [
          { name := "draft" },
          { name := "review"
            metadata :=
              { info := some "7"
                next := ["publish", "reject"]
                extensions := .ofList [("guard", .bool true)] } }]
        transitions := [
          { name := "publish"
            sources := ["draft", "review"]
            targets := ["draft"]
            guard := some "score > 3"
            metadata :=
              { async := true
                next := ["publish"]
                extensions := .ofList [("owner", .string "desk")] } },
          { name := "reject"
            sources := ["review"]
            targets := ["draft"]
            metadata := { next := ["publish"] } }]
        initialPlaces := ["review"]
        supports := ["ArticleReview"] }
    articleReview.compile = .ok definition ∧ definition.NormalForm := by
  intro definition
  have h : articleReview.compile = .ok definition := by decide +kernel
  exact ⟨h, normalForm_of_compile h⟩

end Declaration

end WorkflowEngine
