import WorkflowEngine.Proofs.Declaration.Codec
import WorkflowEngine.Proofs.Json.Text
import WorkflowEngine.Source.Compilation

/-!
# Declarations in code and in files

A declaration that is written to a file is the declaration that was written. So it makes no difference
to a compile run whether a workflow is declared in code or shipped as a file.

* `SourceUnit.declaration_of_parts`: the declaration of a unit whose parts have a name;
* **`SourceUnit.declaration_toJson`**: the declaration of the unit that a declaration is written to.
-/

namespace WorkflowEngine.SourceUnit

theorem declaration_of_parts {u : SourceUnit} {d : Declaration} {name : String}
    (named : d.header.name = some name) (notBlank : Text.isBlankText name = false)
    (parts : (u.format.document? u.content).bind
      (Declaration.partsOfDocument? u.format.hasRecordLists) =
        some (some d.header, d.places, d.transitions)) :
    u.declaration = .ok d := by
  have hname : (d.header.name.bind Text.nonBlank?).or u.defaultName? = d.header.name := by
    rw [named, Option.bind_some, Text.nonBlank?, notBlank]
    rfl
  rw [declaration, parts]
  dsimp only
  rw [hname]
  rfl

/-- **A written declaration is the declaration.** A workflow whose name is not blank and whose loose
keys are not known ones is written to a text that is read back. The unit of the text declares just
that workflow, with the same definition or the same error, and a compile run takes the unit in as it
takes in the declaration. -/
theorem declaration_toJson {d : Declaration} {name : String} (named : d.header.name = some name)
    (notBlank : Text.isBlankText name = false) (apart : d.Apart)
    (readsBack : Json.parse? d.toJson.text = some d.toJson) (origin : String) :
    let u : SourceUnit := { origin, format := .json, content := d.toJson.text }
    u.declaration = .ok d ∧ u.definition = d.compile ∧
      (origin = d.origin → ∀ c : Compilation, c.addSource (.unit u) = c.addSource (.declared d)) := by
  intro u
  have hdocument := Json.document?_of_parse? readsBack
  have kept : d.toJson.Kept := by
    rw [Json.parse?, hdocument] at readsBack
    exact readsBack
  have hparts : (u.format.document? u.content).bind
      (Declaration.partsOfDocument? u.format.hasRecordLists) =
        some (some d.header, d.places, d.transitions) := by
    change (Json.document? d.toJson.text).bind (Declaration.partsOfDocument? true) = _
    rw [hdocument, Option.bind_some, Declaration.partsOfDocument?_toJson kept apart]
  have hdeclaration : u.declaration = .ok d := declaration_of_parts named notBlank hparts
  have hdefinition : u.definition = d.compile := by
    rw [definition, hdeclaration]
    rfl
  refine ⟨hdeclaration, hdefinition, ?_⟩
  rintro rfl c
  change c.add u.origin u.path u.definition = c.add d.origin none d.compile
  rw [hdefinition]

/-- A workflow that loads assets, with names alone and in lists, a bare place and one with its keys,
loose keys and metadata. -/
def assetLoading : Declaration where
  header :=
    { name := some "AssetLoading"
      kind := some "state_machine"
      supports := some (.one "Asset")
      initial := some (.many ["new"])
      metadata := .ofList [("limits", .object [("retries", .ofInt 3), ("waits", .array [.null])])] }
  places := [.bare "new", .detailed
    { name := "loaded"
      backgroundColor := some "green"
      next := some (.one "publish")
      metadata := .ofList [("public", .bool true)]
      loose := .ofList [("badge", .string "\"new\""), ("initials", .ofInt (-1))] }]
  transitions := [
    { name := "load"
      sources := .one "new"
      targets := .many ["loaded"]
      async := true
      loose := .ofList [("queue", .string "slow")] }]

theorem declaration_toJson_assetLoading :
    let u : SourceUnit :=
      { origin := "registered:AssetLoading", format := .json, content := assetLoading.toJson.text }
    u.declaration = .ok assetLoading ∧ u.definition = assetLoading.compile ∧
      ("registered:AssetLoading" = assetLoading.origin → ∀ c : Compilation,
        c.addSource (.unit u) = c.addSource (.declared assetLoading)) := by
  have apart : assetLoading.Apart := ⟨by decide, by decide⟩
  have readsBack : Json.parse? assetLoading.toJson.text = some assetLoading.toJson := by
    rw [Json.parse?_text]
    decide +kernel
  have notBlank : Text.isBlankText "AssetLoading" = false := by decide
  exact @declaration_toJson assetLoading "AssetLoading" rfl notBlank apart readsBack _

end WorkflowEngine.SourceUnit
