import WorkflowEngine.Collection.SortedMap
import WorkflowEngine.Number.Basic

/-!
# Values of documents

The values that metadata, attributes and identifiers hold. The fields of an object stand in
increasing key order whenever the object was made by `Json.ofMap` or by a reader.

* `Json`: the values, with decidable equality;
* `Json.ofMap`, `Json.toMap?`: objects and maps;
* `Json.field?`: a field of an object;
* `Json.text`: the compact written form.
-/

namespace WorkflowEngine

/-- **A value of a document.** -/
inductive Json where
  | null
  | bool (value : Bool)
  | number (value : Number)
  | string (value : String)
  | array (items : List Json)
  | object (fields : List (String × Json))
  deriving Repr, Inhabited

namespace Json

/-! ## Equality -/

mutual

/-- Structural equality of values. -/
def same : Json → Json → Bool
  | .null, .null => true
  | .bool a, .bool b => a == b
  | .number a, .number b => a == b
  | .string a, .string b => a == b
  | .array a, .array b => sameItems a b
  | .object a, .object b => sameFields a b
  | _, _ => false

/-- Structural equality of lists of values. -/
def sameItems : List Json → List Json → Bool
  | [], [] => true
  | a :: as, b :: bs => same a b && sameItems as bs
  | _, _ => false

/-- Structural equality of lists of fields. -/
def sameFields : List (String × Json) → List (String × Json) → Bool
  | [], [] => true
  | (k, a) :: as, (l, b) :: bs => k == l && same a b && sameFields as bs
  | _, _ => false

end

mutual

theorem eq_of_same : ∀ a b : Json, same a b = true → a = b
  | .null, .null, _ => rfl
  | .bool a, .bool b, h => by simpa [same] using h
  | .number a, .number b, h => by simpa [same] using h
  | .string a, .string b, h => by simpa [same] using h
  | .array a, .array b, h => congrArg Json.array (eq_of_sameItems a b (by simpa [same] using h))
  | .object a, .object b, h => congrArg Json.object (eq_of_sameFields a b (by simpa [same] using h))
  | .null, .bool _, h | .null, .number _, h | .null, .string _, h | .null, .array _, h
  | .null, .object _, h | .bool _, .null, h | .bool _, .number _, h | .bool _, .string _, h
  | .bool _, .array _, h | .bool _, .object _, h | .number _, .null, h | .number _, .bool _, h
  | .number _, .string _, h | .number _, .array _, h | .number _, .object _, h
  | .string _, .null, h | .string _, .bool _, h | .string _, .number _, h | .string _, .array _, h
  | .string _, .object _, h | .array _, .null, h | .array _, .bool _, h | .array _, .number _, h
  | .array _, .string _, h | .array _, .object _, h | .object _, .null, h | .object _, .bool _, h
  | .object _, .number _, h | .object _, .string _, h | .object _, .array _, h => by simp [same] at h

theorem eq_of_sameItems : ∀ a b : List Json, sameItems a b = true → a = b
  | [], [], _ => rfl
  | a :: as, b :: bs, h => by
    simp only [sameItems, Bool.and_eq_true] at h
    rw [eq_of_same a b h.1, eq_of_sameItems as bs h.2]
  | [], _ :: _, h | _ :: _, [], h => by simp [sameItems] at h

theorem eq_of_sameFields : ∀ a b : List (String × Json), sameFields a b = true → a = b
  | [], [], _ => rfl
  | (k, a) :: as, (l, b) :: bs, h => by
    simp only [sameFields, Bool.and_eq_true, beq_iff_eq] at h
    rw [h.1.1, eq_of_same a b h.1.2, eq_of_sameFields as bs h.2]
  | [], _ :: _, h | _ :: _, [], h => by simp [sameFields] at h

end

mutual

theorem same_self : ∀ a : Json, same a a = true
  | .null => rfl
  | .bool _ | .number _ | .string _ => by simp [same]
  | .array items => by simpa [same] using sameItems_self items
  | .object fields => by simpa [same] using sameFields_self fields

theorem sameItems_self : ∀ items : List Json, sameItems items items = true
  | [] => rfl
  | a :: as => by simp [sameItems, same_self a, sameItems_self as]

theorem sameFields_self : ∀ fields : List (String × Json), sameFields fields fields = true
  | [] => rfl
  | (k, a) :: as => by simp [sameFields, same_self a, sameFields_self as]

end

instance : DecidableEq Json := fun a b =>
  if h : same a b = true then isTrue (eq_of_same a b h)
  else isFalse fun e => h (e ▸ same_self a)

/-! ## Objects -/

/-- The object of a map. -/
def ofMap (m : SortedMap Json) : Json := .object m.entries

/-- The map of an object's fields; of fields with the same key the last one counts. -/
def toMap? : Json → Option (SortedMap Json)
  | .object fields => some (.ofList fields)
  | _ => none

/-- The object of a list of pairs, its fields in key order. -/
def ofPairs (pairs : List (String × Json)) : Json := ofMap (.ofList pairs)

/-- A field of an object. -/
def field? : Json → String → Option Json
  | .object fields, key => SortedMap.lookupEntry key fields
  | _, _ => none

/-- A whole number. -/
def ofInt (n : Int) : Json := .number (.integer n)

/-- A list of texts. -/
def ofStrings (items : List String) : Json := .array (items.map .string)

/-- The text of a text value. -/
def string? : Json → Option String
  | .string s => some s
  | _ => none

/-- A value, or null when there is none. -/
def ofOption (f : α → Json) : Option α → Json
  | none => .null
  | some a => f a

/-! ## The written form -/

/-- One character inside a quoted text: quotes, backslashes and controls are escaped. -/
def escapedChar (c : Char) : List Char :=
  if c = '"' then ['\\', '"']
  else if c = '\\' then ['\\', '\\']
  else if c = '\n' then ['\\', 'n']
  else if c = '\r' then ['\\', 'r']
  else if c = '\t' then ['\\', 't']
  else if c.toNat = 8 then ['\\', 'b']
  else if c.toNat = 12 then ['\\', 'f']
  else if c.toNat < 32 then
    ['\\', 'u', '0', '0', Nat.digitChar (c.toNat / 16), Nat.digitChar (c.toNat % 16)]
  else [c]

/-- A quoted text. -/
def quote (s : String) : String :=
  "\"" ++ String.ofList (s.toList.flatMap escapedChar) ++ "\""

mutual

/-- **The compact written form of a value.** -/
def text : Json → String
  | .null => "null"
  | .bool true => "true"
  | .bool false => "false"
  | .number n => n.text
  | .string s => quote s
  | .array items => "[" ++ ",".intercalate (itemTexts items) ++ "]"
  | .object fields => "\x7b" ++ ",".intercalate (fieldTexts fields) ++ "\x7d"

/-- The written forms of the items of a list. -/
def itemTexts : List Json → List String
  | [] => []
  | item :: rest => item.text :: itemTexts rest

/-- The written forms of the fields of an object. -/
def fieldTexts : List (String × Json) → List String
  | [] => []
  | (key, value) :: rest => (quote key ++ ":" ++ value.text) :: fieldTexts rest

end

end Json

end WorkflowEngine
