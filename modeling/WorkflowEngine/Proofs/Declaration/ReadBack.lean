import WorkflowEngine.Proofs.Declaration.NormalForm
import WorkflowEngine.Proofs.Workflow.Codec
import WorkflowEngine.Source.Unit

/-!
# Definitions read back, wherever they come from

A definition comes about in two ways: a declaration is compiled, or the written form of a definition is
read. Either way its extensions stand apart from the known keys and hold values that are kept, and so it
is read back as it was.

* `Declaration.Kept`, **`Declaration.readable_of_compile`**: what is compiled from kept values;
* `Declaration.kept_of_partsOfDocument?`: declarations that were read have kept values;
* `Document.Read`, `Definition.Obtained`: where documents and definitions come from;
* `SourceUnit.obtained_of_definition`: the definitions of source units;
* **`Definition.readsBack_of_obtained`**: a definition is read back as it was.
-/

namespace WorkflowEngine

open Document (ofJson)

/-! ## Declarations whose values are kept -/

/-- **A declaration whose values are kept**: every number among them is finite, and their objects are in
key order, as those of a reader are. -/
structure Declaration.Kept (d : Declaration) : Prop where
  header : (Json.ofMap d.header.metadata).Kept
  places : ∀ p ∈ d.places, (Json.ofMap p.details.metadata).Kept ∧ (Json.ofMap p.details.loose).Kept
  transitions : ∀ t ∈ d.transitions, (Json.ofMap t.metadata).Kept ∧ (Json.ofMap t.loose).Kept

theorem NameList.kept_toJson (names : NameList) : names.toJson.Kept := by
  cases names with
  | one name => exact Json.kept_string name
  | many names => exact Json.kept_ofStrings names

theorem kept_textField (key : String) (value : Option String) :
    ∀ e ∈ textField key value, e.2.Kept :=
  fun e he => (forall_mem_textField (List.mem_singleton_self key) value e he).2

theorem kept_nextField (next : Option NameList) : ∀ e ∈ nextField next, e.2.Kept := by
  intro e he
  obtain ⟨names, _, rfl⟩ := List.mem_map.1 he
  exact names.kept_toJson

theorem DetailedPlace.kept_merged {p : DetailedPlace} (metadata : (Json.ofMap p.metadata).Kept)
    (loose : (Json.ofMap p.loose).Kept) : (Json.ofMap p.merged).Kept := by
  refine Json.kept_overlay (Json.kept_overlay loose metadata) (Json.kept_ofPairs ?_)
  simp only [List.forall_mem_append]
  exact ⟨⟨⟨kept_textField _ _, kept_textField _ _⟩, kept_textField _ _⟩, kept_nextField _⟩

theorem DeclaredTransition.kept_merged {t : DeclaredTransition}
    (metadata : (Json.ofMap t.metadata).Kept) (loose : (Json.ofMap t.loose).Kept) :
    (Json.ofMap t.merged).Kept := by
  have hplain : (Json.ofMap (mergedMetadata t.metadata t.loose [])).Kept :=
    Json.kept_overlay (Json.kept_overlay loose metadata) rfl
  refine Json.kept_overlay (Json.kept_erase hplain _) (Json.kept_ofPairs ?_)
  simp only [DeclaredTransition.ownFields, List.forall_mem_append]
  exact ⟨⟨⟨kept_textField _ _, kept_textField _ _⟩, kept_textField _ _⟩, kept_nextField _⟩

/-- **What is compiled from kept values** can be read back. -/
theorem Declaration.readable_of_compile {d : Declaration} {definition : Definition} (kept : d.Kept)
    (h : d.compile = .ok definition) : definition.Readable := by
  obtain ⟨_, _, hmetadata, hplaces, htransitions, _⟩ := compile_eq_ok h
  refine ⟨fun place hplace => ?_, fun transition htransition => ?_, hmetadata ▸ kept.header⟩
  · obtain ⟨details, hdetails, hcompile⟩ := exists_of_mapM_ok hplaces place hplace
    obtain ⟨p, hp, rfl⟩ := List.mem_map.1 hdetails
    obtain ⟨_, _, hmap⟩ := DetailedPlace.compile_eq_ok hcompile
    obtain ⟨metadata, loose⟩ := kept.places p hp
    exact PlaceMetadata.readable_of_ofMap (DetailedPlace.kept_merged metadata loose) hmap
  · obtain ⟨t, ht, hcompile⟩ := exists_of_mapM_ok htransitions transition htransition
    obtain ⟨_, _, _, _, _, _, hmap, rfl⟩ := DeclaredTransition.compile_eq_ok hcompile
    obtain ⟨metadata, loose⟩ := kept.transitions t ht
    have readable := TransitionMetadata.readable_of_ofMap
      (DeclaredTransition.kept_merged metadata loose) hmap
    exact ⟨⟨readable.next_named, readable.extensions_unknown⟩, readable.extensions_kept⟩

/-! ## Declarations that were read -/

theorem DetailedPlace.kept_of_ofDocument? {p : DetailedPlace} {d : Document} (plain : d.Plain)
    (h : ofDocument? d = some p) : (Json.ofMap p.metadata).Kept ∧ (Json.ofMap p.loose).Kept := by
  obtain ⟨r, hr, h⟩ := Option.bind_eq_some_iff.1 h
  obtain ⟨_, _, h⟩ := Option.bind_eq_some_iff.1 h
  obtain ⟨_, _, h⟩ := Option.bind_eq_some_iff.1 h
  obtain ⟨_, _, h⟩ := Option.bind_eq_some_iff.1 h
  obtain ⟨_, _, h⟩ := Option.bind_eq_some_iff.1 h
  obtain ⟨_, _, h⟩ := Option.bind_eq_some_iff.1 h
  obtain ⟨_, _, h⟩ := Option.bind_eq_some_iff.1 h
  obtain ⟨metadata, hmeta, h⟩ := Option.bind_eq_some_iff.1 h
  obtain ⟨loose, hloose, h⟩ := Option.bind_eq_some_iff.1 h
  cases h
  have plain := Record.plain_ofMapping? plain hr
  exact ⟨plain.kept_of_valueMap? hmeta, (plain.others? hloose).2⟩

theorem DeclaredPlace.kept_of_ofDocument? {p : DeclaredPlace} {d : Document} (plain : d.Plain)
    (h : ofDocument? d = some p) :
    (Json.ofMap p.details.metadata).Kept ∧ (Json.ofMap p.details.loose).Kept := by
  obtain ⟨typed, htyped, h⟩ := Option.bind_eq_some_iff.1 h
  split at h
  · cases h
    exact ⟨rfl, rfl⟩
  · obtain ⟨place, hplace, h⟩ := Option.bind_eq_some_iff.1 h
    cases h
    exact DetailedPlace.kept_of_ofDocument? (plain.typed htyped) hplace

theorem DeclaredTransition.kept_of_ofDocument? {t : DeclaredTransition} {d : Document}
    (plain : d.Plain) (h : ofDocument? d = some t) :
    (Json.ofMap t.metadata).Kept ∧ (Json.ofMap t.loose).Kept := by
  obtain ⟨r, hr, h⟩ := Option.bind_eq_some_iff.1 h
  obtain ⟨_, _, h⟩ := Option.bind_eq_some_iff.1 h
  obtain ⟨_, _, h⟩ := Option.bind_eq_some_iff.1 h
  obtain ⟨_, _, h⟩ := Option.bind_eq_some_iff.1 h
  obtain ⟨_, _, h⟩ := Option.bind_eq_some_iff.1 h
  obtain ⟨_, _, h⟩ := Option.bind_eq_some_iff.1 h
  obtain ⟨_, _, h⟩ := Option.bind_eq_some_iff.1 h
  obtain ⟨_, _, h⟩ := Option.bind_eq_some_iff.1 h
  obtain ⟨_, _, h⟩ := Option.bind_eq_some_iff.1 h
  obtain ⟨_, _, h⟩ := Option.bind_eq_some_iff.1 h
  obtain ⟨metadata, hmeta, h⟩ := Option.bind_eq_some_iff.1 h
  obtain ⟨loose, hloose, h⟩ := Option.bind_eq_some_iff.1 h
  cases h
  have plain := Record.plain_ofMapping? plain hr
  exact ⟨plain.kept_of_valueMap? hmeta, (plain.others? hloose).2⟩

namespace Declaration

theorem Header.kept_of_ofDocument? {header : Header} {lists : Bool} {d : Document} (plain : d.Plain)
    (h : ofDocument? lists d = some header) : (Json.ofMap header.metadata).Kept := by
  obtain ⟨r, hr, h⟩ := Option.bind_eq_some_iff.1 h
  obtain ⟨_, _, h⟩ := Option.bind_eq_some_iff.1 h
  obtain ⟨_, _, h⟩ := Option.bind_eq_some_iff.1 h
  obtain ⟨_, _, h⟩ := Option.bind_eq_some_iff.1 h
  obtain ⟨_, _, h⟩ := Option.bind_eq_some_iff.1 h
  obtain ⟨metadata, hmeta, h⟩ := Option.bind_eq_some_iff.1 h
  cases h
  exact (Record.plain_read? plain hr).kept_of_valueMap? hmeta

theorem kept_of_partsOfDocument? {lists : Bool} {doc : Document} {header : Header}
    {places : List DeclaredPlace} {transitions : List DeclaredTransition} (plain : doc.Plain)
    (h : partsOfDocument? lists doc = some (some header, places, transitions)) :
    Declaration.Kept { header, places, transitions } := by
  obtain ⟨r, hr, h⟩ := Option.bind_eq_some_iff.1 h
  obtain ⟨header?, hheader, h⟩ := Option.bind_eq_some_iff.1 h
  obtain ⟨places', hplaces, h⟩ := Option.bind_eq_some_iff.1 h
  obtain ⟨transitions', htransitions, h⟩ := Option.bind_eq_some_iff.1 h
  cases h
  have plain := Record.plain_read? plain hr
  refine ⟨?_, fun p hp => ?_, fun t ht => ?_⟩
  · obtain ⟨d, plain, hd⟩ := plain.optional? hheader header rfl
    exact Header.kept_of_ofDocument? plain hd
  · rcases plain.withDefault? hplaces with rfl | ⟨list, plain, hlist⟩
    · cases hp
    · obtain ⟨item, plain, hitem⟩ := plain.exists_item hlist p hp
      exact DeclaredPlace.kept_of_ofDocument? plain hitem
  · rcases plain.withDefault? htransitions with rfl | ⟨list, plain, hlist⟩
    · cases ht
    · obtain ⟨item, plain, hitem⟩ := plain.exists_item hlist t ht
      exact DeclaredTransition.kept_of_ofDocument? plain hitem

end Declaration

/-! ## Where definitions come from -/

/-- **A document that is read**: that of a value, or of a text in some format. -/
inductive Document.Read : Document → Prop
  | value (v : Json) : Read (ofJson v)
  | text {format : SourceFormat} {content : String} {d : Document}
      (h : format.document? content = some d) : Read d

theorem Document.Read.plain {d : Document} (h : d.Read) : d.Plain := by
  cases h with
  | value v => exact Document.plain_ofJson v
  | @text format _ _ h =>
    cases format with
    | yaml => exact Yaml.plain_of_document? h
    | json => exact Json.plain_of_document? h

namespace Definition

/-- **How a definition comes about**: compiled from a declaration, or read in its written form. -/
inductive Obtained : Definition → Prop
  | compiled {declaration : Declaration} {d : Definition} (kept : declaration.Kept)
      (h : declaration.compile = .ok d) : Obtained d
  | read {doc : Document} {d : Definition} (hdoc : doc.Read) (h : ofDocument? doc = some d) :
      Obtained d

theorem Obtained.readable {d : Definition} (h : d.Obtained) : d.Readable := by
  cases h with
  | compiled kept h => exact Declaration.readable_of_compile kept h
  | read hdoc h => exact readable_of_ofDocument? hdoc.plain h

end Definition

/-- **The definition of a unit** comes about by compiling what was read. -/
theorem SourceUnit.obtained_of_definition {u : SourceUnit} {d : Definition}
    (h : u.definition = .ok d) : d.Obtained := by
  obtain ⟨declaration, hdeclaration, h⟩ := bind_eq_ok_iff.1 h
  refine .compiled ?_ h
  unfold SourceUnit.declaration at hdeclaration
  dsimp only at hdeclaration
  split at hdeclaration
  · cases hdeclaration
  · cases hdeclaration
  · next header places transitions hparts =>
    cases hdeclaration
    obtain ⟨doc, hdoc, hparts⟩ := Option.bind_eq_some_iff.1 hparts
    have kept := Declaration.kept_of_partsOfDocument? (Document.Read.text hdoc).plain hparts
    exact ⟨kept.header, kept.places, kept.transitions⟩

namespace Definition

/-- **A definition is read back as it was.** Whether it was compiled or read, its written form is read
as the definition itself, so it is written again as before. -/
theorem readsBack_of_obtained {d : Definition} (h : d.Obtained) :
    ofDocument? (ofJson d.toJson) = some d ∧
      (ofDocument? (ofJson d.toJson)).map toJson = some d.toJson := by
  have hread : ofDocument? (ofJson d.toJson) = some d := ofDocument?_toJson h.readable
  refine ⟨hread, ?_⟩
  rw [hread, Option.map_some]

/-- A written definition that names places twice, has a blank guard, metadata without keys, a flag that
is not set, one name under `next`, and extensions. -/
def writtenPress : Json :=
  .ofPairs [("name", .string "press"), ("type", .string "workflow"),
    ("places", .array [
      .ofPairs [("name", .string "sent"), ("metadata", .ofPairs [])],
      .ofPairs [("name", .string "draft"),
        ("metadata", .ofPairs [("next", .string "publish"), ("shape", .array [.null, .ofInt 3])])]]),
    ("transitions", .array [
      .ofPairs [("name", .string "publish"), ("from", .ofStrings ["draft", "draft"]),
        ("to", .ofStrings ["sent", "draft", "sent"]), ("guard", .string " "),
        ("metadata", .ofPairs [("async", .bool false), ("guard", .null), ("info", .null)])]]),
    ("initial_marking", .ofStrings []), ("supports", .ofStrings ["book", "book"]),
    ("metadata", .ofPairs [("owner", .ofPairs [("desk", .ofInt (-1))])])]

theorem readsBack_of_obtained_press :
    let press : Definition :=
      { name := "press"
        kind := .workflow
        places := [
          { name := "sent" },
          { name := "draft"
            metadata :=
              { next := ["publish"], extensions := .ofList [("shape", .array [.null, .ofInt 3])] } }]
        transitions := [
          { name := "publish"
            sources := ["draft", "draft"]
            targets := ["sent", "draft", "sent"]
            guard := some " "
            metadata := { extensions := .ofList [("guard", .null)] } }]
        supports := ["book", "book"]
        metadata := .ofList [("owner", .ofPairs [("desk", .ofInt (-1))])] }
    (ofDocument? (ofJson writtenPress) = some press ∧ press.toJson ≠ writtenPress ∧
      ofDocument? (ofJson press.toJson) = some press ∧
      (ofDocument? (ofJson press.toJson)).map toJson = some press.toJson) ∧
    ∃ review, Declaration.articleReview.compile = .ok review ∧
      ofDocument? (ofJson review.toJson) = some review ∧
      (ofDocument? (ofJson review.toJson)).map toJson = some review.toJson := by
  intro press
  have hpress : ofDocument? (ofJson writtenPress) = some press := by decide +kernel
  have kept : Declaration.articleReview.Kept :=
    ⟨by decide +kernel, by decide +kernel, by decide +kernel⟩
  have compiles : (Declaration.articleReview.compile.toOption).isSome = true := by decide +kernel
  refine ⟨⟨hpress, by decide +kernel, readsBack_of_obtained (.read (.value _) hpress)⟩, ?_⟩
  cases hreview : Declaration.articleReview.compile with
  | error e =>
    rw [hreview] at compiles
    cases compiles
  | ok review => exact ⟨review, rfl, readsBack_of_obtained (.compiled kept hreview)⟩

end Definition

end WorkflowEngine
