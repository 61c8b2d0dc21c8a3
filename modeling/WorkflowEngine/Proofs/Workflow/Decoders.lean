import WorkflowEngine.Proofs.Document.Records
import WorkflowEngine.Proofs.Workflow.Metadata
import WorkflowEngine.Workflow.Definition

/-!
# Two ways to metadata

Metadata may be read from a loose map or from the written form, and a map that is a written form can be
read in both ways. The loose way accepts more. Where the written form is accepted too, both give the
same metadata, but for a blank transport: loosely read it counts as none, and as written it is kept.

* `textAt_of_optional?`, `flagAt_of_withDefault?`, `nextNames_of_withDefault?`: a field that can be read
  as written is read loosely with the same value;
* `withoutKeys_of_others?`: so are the extensions;
* `PlaceMetadata.ofMap_of_ofDocument?`, `TransitionMetadata.ofMap_of_ofDocument?`;
* **`ofMap_of_written`**: where the two ways meet, a blank transport being all that is between them;
* `blankTransport`: a map that is read in two ways.
-/

namespace WorkflowEngine

open Document (ofJson)

variable {names : List String} {m : SortedMap Json} {key : String}

/-! ## Fields -/

/-- **A text** that can be read as written is read loosely as the same text. -/
theorem textAt_of_optional? (known : key ∈ names) {text : Option String}
    (h : (Record.ofMap names m).optional? key Document.text? = some text) :
    textAt m key = .ok text := by
  rw [Record.optional?, Record.field?_ofMap known] at h
  unfold textAt
  cases hvalue : m.get? key with
  | none =>
    rw [hvalue] at h
    cases h
    rfl
  | some value =>
    rw [hvalue] at h
    cases value with
    | null | string =>
      cases h
      rfl
    | _ => cases h

/-- **A flag** that can be read as written is read loosely as the same flag. -/
theorem flagAt_of_withDefault? (known : key ∈ names) {flag : Bool}
    (h : (Record.ofMap names m).withDefault? key false Document.bool? = some flag) :
    flagAt m key = .ok flag := by
  rw [Record.withDefault?, Record.field?_ofMap known] at h
  unfold flagAt
  cases hvalue : m.get? key with
  | none =>
    rw [hvalue] at h
    cases h
    rfl
  | some value =>
    rw [hvalue] at h
    cases value with
    | bool =>
      cases h
      rfl
    | _ => cases h

theorem bind_nonBlank?_eq_self_iff {o : Option String} :
    o.bind Text.nonBlank? = o ↔ ∀ s ∈ o, Text.isBlankText s = false := by
  cases o with
  | none => simp
  | some s => cases hblank : Text.isBlankText s <;> simp [Text.nonBlank?, hblank]

section Written

variable (kept : (Json.ofMap m).Kept)

include kept

/-- **Names** that can be read as written are read loosely as the same names. -/
theorem nextNames_of_withDefault? (known : key ∈ names) {next : List TransitionName}
    (h : (Record.ofMap names m).withDefault? key [] nextOfDocument? = some next) :
    nextNames ((m.get? key).getD .null) = .ok next := by
  rw [Record.withDefault?, Record.field?_ofMap known] at h
  cases hvalue : m.get? key with
  | none =>
    rw [hvalue] at h
    cases h
    rfl
  | some value =>
    have hkept : (ofJson value).value? = some value := Json.kept_of_get? kept hvalue
    rw [hvalue, Option.map_some] at h
    dsimp only at h
    rw [nextOfDocument?, hkept, Option.bind_eq_bind, Option.bind_some] at h
    exact toOption_eq_some_iff.1 h

/-- **The other entries** of a written form are what is left without the known keys. -/
theorem withoutKeys_of_others? {extensions : SortedMap Json}
    (h : (Record.ofMap names m).others? = some extensions) : withoutKeys m names = extensions := by
  rw [Record.others?_ofMap kept] at h
  obtain rfl := Option.some.inj h
  refine SortedMap.ext_get? fun k => ?_
  rw [get?_withoutKeys, SortedMap.get?_ofList_filter m fun k => !names.contains k]
  by_cases hk : k ∈ names <;> simp [hk]

/-! ## Metadata -/

/-- **Metadata of a place** that can be read as written are read loosely as they are. -/
theorem PlaceMetadata.ofMap_of_ofDocument? {p : PlaceMetadata}
    (h : ofDocument? (ofJson (.ofMap m)) = some p) : ofMap m = .ok p := by
  rw [ofDocument?, Record.ofMapping?_ofMap, Option.bind_eq_bind, Option.bind_some] at h
  obtain ⟨info, hinfo, h⟩ := Option.bind_eq_some_iff.1 h
  obtain ⟨description, hdescription, h⟩ := Option.bind_eq_some_iff.1 h
  obtain ⟨color, hcolor, h⟩ := Option.bind_eq_some_iff.1 h
  obtain ⟨next, hnext, h⟩ := Option.bind_eq_some_iff.1 h
  obtain ⟨extensions, hextensions, h⟩ := Option.bind_eq_some_iff.1 h
  cases h
  rw [ofMap, textAt_of_optional? (by decide) hinfo, textAt_of_optional? (by decide) hdescription,
    textAt_of_optional? (by decide) hcolor, nextNames_of_withDefault? kept (by decide) hnext,
    withoutKeys_of_others? kept hextensions]
  rfl

/-- **Metadata of a transition** that can be read as written are read loosely as they are, a blank
transport left out. -/
theorem TransitionMetadata.ofMap_of_ofDocument? {t : TransitionMetadata}
    (h : ofDocument? (ofJson (.ofMap m)) = some t) :
    ofMap m = .ok { t with transport := t.transport.bind Text.nonBlank? } := by
  rw [ofDocument?, Record.ofMapping?_ofMap, Option.bind_eq_bind, Option.bind_some] at h
  obtain ⟨info, hinfo, h⟩ := Option.bind_eq_some_iff.1 h
  obtain ⟨description, hdescription, h⟩ := Option.bind_eq_some_iff.1 h
  obtain ⟨async, hasync, h⟩ := Option.bind_eq_some_iff.1 h
  obtain ⟨transport, htransport, h⟩ := Option.bind_eq_some_iff.1 h
  obtain ⟨next, hnext, h⟩ := Option.bind_eq_some_iff.1 h
  obtain ⟨extensions, hextensions, h⟩ := Option.bind_eq_some_iff.1 h
  cases h
  rw [ofMap, textAt_of_optional? (by decide) hinfo, textAt_of_optional? (by decide) hdescription,
    flagAt_of_withDefault? (by decide) hasync, textAt_of_optional? (by decide) htransport,
    nextNames_of_withDefault? kept (by decide) hnext, withoutKeys_of_others? kept hextensions]
  rfl

/-- **Where the two ways meet.** A map that is a written form of metadata is read loosely as the same
metadata. Only a blank transport, which asks for a queue where it is kept, is left out. The values of
the map are those that are kept: numbers are finite, and the fields of objects are in key order. -/
theorem ofMap_of_written :
    (∀ p, PlaceMetadata.ofDocument? (ofJson (.ofMap m)) = some p → PlaceMetadata.ofMap m = .ok p) ∧
      ∀ t, TransitionMetadata.ofDocument? (ofJson (.ofMap m)) = some t →
        TransitionMetadata.ofMap m = .ok { t with transport := t.transport.bind Text.nonBlank? } ∧
        (TransitionMetadata.ofMap m = .ok t ↔
          ∀ transport ∈ t.transport, Text.isBlankText transport = false) := by
  refine ⟨fun p => PlaceMetadata.ofMap_of_ofDocument? kept, fun t ht => ?_⟩
  have hloose := TransitionMetadata.ofMap_of_ofDocument? kept ht
  refine ⟨hloose, ?_⟩
  rw [hloose, ← bind_nonBlank?_eq_self_iff]
  constructor
  · intro heq
    exact congrArg TransitionMetadata.transport (Except.ok.inj heq)
  · intro heq
    rw [heq]

end Written

/-- A map that is read alike in both ways. -/
def queuedNotes : SortedMap Json :=
  .ofList [("async", .bool true), ("transport", .string "priority.queue"),
    ("next", .ofStrings ["archive", "notify"]), ("x-owner", .string "ops")]

/-- What is read from it. -/
def queuedMetadata : TransitionMetadata where
  async := true
  transport := some "priority.queue"
  next := ["archive", "notify"]
  extensions := .ofList [("x-owner", .string "ops")]

/-- A transport that is not blank is kept in both ways. -/
theorem ofMap_of_written_queuedNotes :
    (Json.ofMap queuedNotes).Kept ∧
      TransitionMetadata.ofDocument? (ofJson (.ofMap queuedNotes)) = some queuedMetadata ∧
      TransitionMetadata.ofMap queuedNotes = .ok queuedMetadata := by
  have kept : (Json.ofMap queuedNotes).Kept := by decide +kernel
  have written : TransitionMetadata.ofDocument? (ofJson (.ofMap queuedNotes)) =
      some queuedMetadata := by decide +kernel
  obtain ⟨_, hiff⟩ := (ofMap_of_written kept).2 queuedMetadata written
  exact ⟨kept, written, hiff.2 (by decide)⟩

/-- A map with a blank transport and nothing else. -/
def blankTransport : SortedMap Json := .ofList [("transport", .string " ")]

/-- **A blank transport is read in two ways**: as written it is kept, and a transition with it asks for
a queue. Loosely read there is none. -/
theorem blankTransport_apart :
    (Json.ofMap blankTransport).Kept ∧
      TransitionMetadata.ofDocument? (ofJson (.ofMap blankTransport)) =
        some { transport := some " " } ∧
      TransitionMetadata.ofMap blankTransport = .ok {} ∧
      TransitionMetadata.ofMap blankTransport ≠ .ok { transport := some " " } ∧
      ({ name := "load", sources := [], targets := [],
         metadata := { transport := some " " } } : Transition).isAsync = true ∧
      ({ name := "load", sources := [], targets := [], metadata := {} } : Transition).isAsync =
        false := by
  have loose : TransitionMetadata.ofMap blankTransport = .ok {} := by decide +kernel
  refine ⟨by decide +kernel, by decide +kernel, loose, ?_, rfl, rfl⟩
  rw [loose]
  intro heq
  cases heq

end WorkflowEngine
