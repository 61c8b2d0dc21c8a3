import Mathlib.Data.List.Lex
import Mathlib.Data.String.Basic

/-!
# The order of texts

Texts compare by their characters, and just so by their octets in UTF-8: the first octet of a character
tells how many there are, longer rows of octets begin with greater ones, and the bits of a character
stand in its octets from the highest on.

* `octets`, `octets_eq`: the octets of a text, character by character;
* `utf8EncodeChar_append_lt`: a lesser character has lesser octets, whatever follows;
* **`octets_lt_iff`**: texts compare as their octets do.
-/

namespace WorkflowEngine.Text

/-- **The octets of a text** in UTF-8. -/
def octets (s : String) : List UInt8 := s.toUTF8.data.toList

theorem octets_eq (s : String) : octets s = s.toList.flatMap String.utf8EncodeChar := by
  rw [octets, ← String.ofList_toList (s := s), String.toUTF8_eq_toByteArray,
    String.toByteArray_ofList, String.toList_ofList, List.utf8Encode, List.data_toByteArray]

/-! ## Characters -/

theorem cons_ofNat_lt_iff {m n : Nat} {as bs : List UInt8} (hm : m < 256) (hn : n < 256) :
    UInt8.ofNat m :: as < UInt8.ofNat n :: bs ↔ m < n ∨ m = n ∧ as < bs := by
  rw [List.cons_lt_cons_iff, UInt8.ofNat_lt_iff_lt hm hn, ← UInt8.toNat_inj,
    UInt8.toNat_ofNat_of_lt' hm, UInt8.toNat_ofNat_of_lt' hn]

theorem lt_in_six {m n : Nat} (h : m < n) : m / 64 < n / 64 ∨ m / 64 = n / 64 ∧ m % 64 < n % 64 := by
  omega

/-- **A lesser character has lesser octets**, and the difference is in one of them, so it does not
matter what follows. -/
theorem utf8EncodeChar_append_lt {c d : Char} (h : c < d) (as bs : List UInt8) :
    String.utf8EncodeChar c ++ as < String.utf8EncodeChar d ++ bs := by
  have hlt : c.val.toNat < d.val.toNat := h
  have hbound : d.val.toNat < 0x110000 := by
    rcases d.valid with hlow | ⟨_, hhigh⟩
    · exact Nat.lt_trans hlow (by decide)
    · exact hhigh
  have hparts : ∀ n : Nat, n / 4096 = n / 64 / 64 ∧ n / 262144 = n / 64 / 64 / 64 :=
    fun n => ⟨by omega, by omega⟩
  unfold String.utf8EncodeChar
  simp only [hparts]
  generalize c.val.toNat = m at *
  generalize d.val.toNat = n at *
  -- where the two numbers differ first, going down six bits at a time
  have hfirst := lt_in_six hlt
  have hsecond := lt_in_six (m := m / 64) (n := n / 64)
  have hthird := lt_in_six (m := m / 64 / 64) (n := n / 64 / 64)
  have hhigh : m / 64 / 64 / 64 < 8 ∧ n / 64 / 64 / 64 < 8 := by omega
  split_ifs <;>
    simp (disch := omega) only [List.cons_append, List.nil_append, cons_ofNat_lt_iff] <;> omega

/-! ## Texts -/

theorem flatMap_utf8EncodeChar_lt {as bs : List Char} (h : as < bs) :
    as.flatMap String.utf8EncodeChar < bs.flatMap String.utf8EncodeChar := by
  induction h with
  | @nil d bs =>
    have hne : String.utf8EncodeChar d ≠ [] := String.utf8EncodeChar_ne_nil
    rw [List.flatMap_cons]
    cases hd : String.utf8EncodeChar d with
    | nil => exact absurd hd hne
    | cons b rest => exact .nil
  | rel hlt => exact utf8EncodeChar_append_lt hlt _ _
  | cons _ ih => exact List.append_left_lt ih

/-- **Texts compare as their octets do.** -/
theorem octets_lt_iff {s t : String} : octets s < octets t ↔ s < t := by
  have hmono : ∀ {s t : String}, s < t → octets s < octets t := by
    intro s t h
    rw [octets_eq, octets_eq]
    exact flatMap_utf8EncodeChar_lt (String.lt_iff_toList_lt.1 h)
  refine ⟨fun h => ?_, hmono⟩
  rcases lt_trichotomy s t with hlt | rfl | hgt
  · exact hlt
  · exact absurd h (List.lt_irrefl _)
  · exact absurd (hmono hgt) (List.lt_asymm h)

end WorkflowEngine.Text
