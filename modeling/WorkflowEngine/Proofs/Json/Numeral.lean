import Mathlib.Algebra.Group.Int.Defs
import Mathlib.Logic.Basic
import WorkflowEngine.Json.Reader
import WorkflowEngine.Proofs.Number.Shortest

/-!
# Written numbers

The written form of a number is a numeral of the format: digits without leading zeros, a fraction and
an exponent where there is one. A numeral is read to its end.

* `Numeral`, `Numeral.chars`, `Numeral.value?`, `Numeral.decimal`: numerals with their parts;
* `Numeral.Ends`, **`Numeral.readNumber_chars`**: where a value ends, and what reading a numeral gives;
* `Numeral.ofInt`, `Numeral.value?_ofInt`: the numeral of a whole number;
* `Numeral.Shows`, **`exists_numeral_float`**: numerals that show double-precision numbers;
* `Number.IsFinite`, **`exists_numeral`**: finite numbers are written as numerals.
-/

namespace WorkflowEngine

/-- A row of digits, one at least. -/
def IsDigits (cs : List Char) : Prop := cs ≠ [] ∧ ∀ c ∈ cs, c.isDigit = true

/-- **A numeral**, in its parts. The exponent has a sign and digits. -/
structure Numeral where
  negative : Bool
  whole : List Char
  fraction : Option (List Char)
  exponent : Option (Bool × List Char)
  whole_digits : IsDigits whole
  no_leading_zero : whole.head? = some '0' → whole.length = 1
  fraction_digits : ∀ cs ∈ fraction, IsDigits cs
  exponent_digits : ∀ e ∈ exponent, IsDigits e.2

namespace Numeral

/-- A fraction as it is written. -/
def fractionChars : Option (List Char) → List Char
  | none => []
  | some cs => '.' :: cs

/-- An exponent as it is written. -/
def exponentChars : Option (Bool × List Char) → List Char
  | none => []
  | some (negative, cs) => 'e' :: (if negative then '-' else '+') :: cs

/-- **A numeral as it is written.** -/
def chars (m : Numeral) : List Char :=
  (if m.negative then ['-'] else []) ++
    (m.whole ++ (fractionChars m.fraction ++ exponentChars m.exponent))

/-- The number of an exponent. -/
def exponentValue (e : Bool × List Char) : Int :=
  if e.1 then -(digitsValue e.2 : Int) else digitsValue e.2

/-- **The number that a numeral is read as.** -/
def value? (m : Numeral) : Option Number :=
  Json.numberValue m.negative m.whole (m.fraction.getD []) (m.exponent.map exponentValue)

/-- **The decimal of a numeral**, without its sign. -/
def decimal (m : Numeral) : Decimal where
  digits := digitsValue (m.whole ++ m.fraction.getD [])
  exponent := (m.exponent.map exponentValue).getD 0 - (m.fraction.getD []).length

/-- **A numeral that shows a double-precision number**: sign and value are right, and a point or an
exponent tells it from a whole number. -/
structure Shows (m : Numeral) (negative : Bool) (d : Decimal) : Prop where
  sign : m.negative = negative
  value : m.decimal.value = d.value
  marked : m.fraction ≠ none ∨ m.exponent ≠ none

/-! ## Reading -/

/-- **A value ends here**: with the text, or before another part of a list or an object. -/
def Ends (rest : List Char) : Prop := ∀ c ∈ rest.head?, c = ',' ∨ c = ']' ∨ c = '\x7d'

theorem ends_nil : Ends [] := fun _ hc => by cases hc

variable {rest cs : List Char}

theorem span_digits (h : IsDigits cs) (stop : ∀ c ∈ rest.head?, c.isDigit = false) :
    (cs ++ rest).takeWhile Char.isDigit = cs ∧ (cs ++ rest).dropWhile Char.isDigit = rest := by
  have hrest : rest.takeWhile Char.isDigit = [] ∧ rest.dropWhile Char.isDigit = rest := by
    cases rest with
    | nil => exact ⟨rfl, rfl⟩
    | cons c rest =>
      have hc : c.isDigit = false := stop c rfl
      exact ⟨List.takeWhile_cons_of_neg (by simp [hc]), List.dropWhile_cons_of_neg (by simp [hc])⟩
  rw [List.takeWhile_append_of_pos h.2, List.dropWhile_append_of_pos h.2, hrest.1, hrest.2,
    List.append_nil]
  exact ⟨rfl, rfl⟩

theorem isEmpty_eq_false (h : IsDigits cs) : cs.isEmpty = false := by
  cases cs with
  | nil => exact absurd rfl h.1
  | cons => rfl

theorem Ends.no_digit (h : Ends rest) : ∀ c ∈ rest.head?, c.isDigit = false := by
  intro c hc
  rcases h c hc with rfl | rfl | rfl <;> decide

theorem readExponent_chars (e : Option (Bool × List Char)) (he : ∀ d ∈ e, IsDigits d.2)
    (h : Ends rest) :
    Json.readExponent (exponentChars e ++ rest) = some (e.map exponentValue, rest) := by
  rcases e with _ | ⟨negative, ds⟩
  · cases rest with
    | nil => rfl
    | cons c rest =>
      have hc : ¬(c = 'e' ∨ c = 'E') := by
        rcases h c rfl with rfl | rfl | rfl <;> decide
      exact if_neg hc
  · have hds := he _ rfl
    obtain ⟨htake, hdrop⟩ := span_digits hds h.no_digit
    have hempty := isEmpty_eq_false hds
    -- the sign is read before the digits
    cases negative <;>
    · simp only [exponentChars, Json.readExponent, List.cons_append, true_or, if_true, htake, hdrop,
        hempty, Bool.false_eq_true, if_false]
      rfl

theorem readFraction_chars (f : Option (List Char)) (hf : ∀ cs ∈ f, IsDigits cs)
    (stop : ∀ c ∈ rest.head?, c.isDigit = false ∧ c ≠ '.') :
    Json.readFraction (fractionChars f ++ rest) = some (f.getD [], rest) := by
  rcases f with _ | ds
  · change Json.readFraction rest = some ([], rest)
    cases rest with
    | nil => rfl
    | cons c rest =>
      rw [Json.readFraction]
      intro _ hc
      cases hc
      exact absurd rfl (stop _ rfl).2
  · obtain ⟨htake, hdrop⟩ := span_digits (hf ds rfl) fun c hc => (stop c hc).1
    simp only [fractionChars, Json.readFraction, List.cons_append, htake, hdrop,
      isEmpty_eq_false (hf ds rfl), Bool.false_eq_true, if_false, Option.getD_some]

theorem stop_exponentChars (e : Option (Bool × List Char)) (h : Ends rest) :
    ∀ c ∈ (exponentChars e ++ rest).head?, c.isDigit = false ∧ c ≠ '.' := by
  intro c hc
  cases e with
  | none => rcases h c hc with rfl | rfl | rfl <;> decide
  | some e =>
    cases hc
    decide

theorem stop_fractionChars (f : Option (List Char)) (e : Option (Bool × List Char))
    (h : Ends rest) :
    ∀ c ∈ (fractionChars f ++ (exponentChars e ++ rest)).head?, c.isDigit = false := by
  intro c hc
  cases f with
  | none => exact (stop_exponentChars e h c hc).1
  | some cs =>
    cases hc
    decide

theorem head_chars (m : Numeral) :
    ∃ c cs, m.chars = c :: cs ∧ (c = '-' ∨ c.isDigit = true) := by
  cases hm : m.negative with
  | true => exact ⟨'-', _, by rw [chars, hm]; rfl, .inl rfl⟩
  | false =>
    cases hw : m.whole with
    | nil => exact absurd hw m.whole_digits.1
    | cons c cs =>
      refine ⟨c, cs ++ _, by rw [chars, hm, hw]; rfl, .inr ?_⟩
      exact m.whole_digits.2 c (hw ▸ List.mem_cons_self)

/-- The number at the start of a text behind its sign. -/
def readUnsigned (negative : Bool) (cs : List Char) : Option (Document × List Char) := do
  let whole := cs.takeWhile Char.isDigit
  if whole.isEmpty ∨ (whole.head? = some '0' ∧ 1 < whole.length) then none
  let (fraction, cs) ← Json.readFraction (cs.dropWhile Char.isDigit)
  let (exponent, cs) ← Json.readExponent cs
  return (.scalar none ((Json.numberValue negative whole fraction exponent).map .number), cs)

theorem readNumber_digit {c : Char} (h : c.isDigit = true) (cs : List Char) :
    Json.readNumber (c :: cs) = readUnsigned false (c :: cs) := by
  have hc : c ≠ '-' := by
    rintro rfl
    cases h
  rw [Json.readNumber]
  · rfl
  · intro rest heq
    cases heq
    exact hc rfl

/-- **A numeral is read to its end.** -/
theorem readNumber_chars (m : Numeral) (h : Ends rest) :
    Json.readNumber (m.chars ++ rest) = some (.scalar none (m.value?.map .number), rest) := by
  have hsign : Json.readNumber (m.chars ++ rest) = readUnsigned m.negative
      (m.whole ++ (fractionChars m.fraction ++ (exponentChars m.exponent ++ rest))) := by
    cases hm : m.negative with
    | true =>
      rw [chars, hm, List.append_assoc, List.append_assoc, List.append_assoc]
      rfl
    | false =>
      cases hw : m.whole with
      | nil => exact absurd hw m.whole_digits.1
      | cons c cs =>
        rw [chars, hm, hw, List.append_assoc, List.append_assoc, List.append_assoc]
        exact readNumber_digit (m.whole_digits.2 c (hw ▸ List.mem_cons_self)) _
  obtain ⟨htake, hdrop⟩ :=
    span_digits m.whole_digits (stop_fractionChars m.fraction m.exponent h)
  have hwhole : ¬(m.whole.isEmpty = true ∨ (m.whole.head? = some '0' ∧ 1 < m.whole.length)) := by
    rintro (hempty | ⟨hzero, hlong⟩)
    · exact absurd hempty (by simp [isEmpty_eq_false m.whole_digits])
    · exact absurd (m.no_leading_zero hzero) (Nat.ne_of_gt hlong)
  simp only [hsign, readUnsigned, htake, hdrop, if_neg hwhole, value?,
    readFraction_chars m.fraction m.fraction_digits (stop_exponentChars m.exponent h),
    readExponent_chars m.exponent m.exponent_digits h, Option.bind_eq_bind, Option.bind_some,
    Option.pure_def]

end Numeral

/-! ## Writing -/

theorem isDigits_toDigits (n : Nat) : IsDigits (Nat.toDigits 10 n) :=
  ⟨Nat.toDigits_ne_nil, fun _ hc => Nat.isDigit_of_mem_toDigits (by decide) (by decide) hc⟩

theorem head?_toDigits {n : Nat} (h : (Nat.toDigits 10 n).head? = some '0') : n = 0 := by
  induction n using Nat.strongRecOn with
  | ind n ih =>
    by_cases hn : n < 10
    · rw [Nat.toDigits_of_lt_base hn] at h
      have hall : ∀ m < 10, [Nat.digitChar m].head? = some '0' → m = 0 := by decide
      exact hall n hn h
    · rw [Nat.toDigits_of_base_le (by decide) (by omega),
        List.head?_append, Option.or_of_isSome (by simp [Nat.toDigits_ne_nil])] at h
      have := ih (n / 10) (by omega) h
      omega

theorem no_leading_zero_toDigits (n : Nat) (h : (Nat.toDigits 10 n).head? = some '0') :
    (Nat.toDigits 10 n).length = 1 := by
  rw [head?_toDigits h]
  rfl

theorem digitsValue_toDigits (n : Nat) : digitsValue (Nat.toDigits 10 n) = n :=
  Nat.ofDigitChars_ten_toDigits

theorem digitsValue_append_zeros (cs : List Char) (n : Nat) :
    digitsValue (cs ++ List.replicate n '0') = digitsValue cs * 10 ^ n :=
  (Nat.ofDigitChars_append 0).trans (Nat.ofDigitChars_replicate_zero.trans (mul_comm _ _))

theorem digitsValue_zeros_append (n : Nat) (cs : List Char) :
    digitsValue (List.replicate n '0' ++ cs) = digitsValue cs := by
  refine (Nat.ofDigitChars_append 0).trans ?_
  rw [Nat.ofDigitChars_replicate_zero, mul_zero]
  rfl

theorem Decimal.value_of_digits {d d' : Decimal} {k : Nat} (digits : d'.digits = d.digits * 10 ^ k)
    (exponent : d'.exponent + k = d.exponent) : d'.value = d.value := by
  rw [value, value, digits, ← exponent, zpow_add₀ (by norm_num), zpow_natCast]
  push_cast
  rw [mul_assoc, mul_comm (10 ^ k : ℚ)]

/-! ## Layouts -/

section Layout

variable (negative : Bool) (d : Decimal)

/-- The sign of a number as it is written. -/
def signText (negative : Bool) : String := if negative then "-" else ""

theorem toList_signText : (signText negative).toList = if negative then ['-'] else [] := by
  cases negative <;> rfl

theorem isDigits_zero : IsDigits ['0'] := by
  refine ⟨List.cons_ne_nil _ _, fun c hc => ?_⟩
  rw [List.mem_singleton.1 hc]
  rfl

theorem isDigits_append_zeros {cs : List Char} (h : IsDigits cs) (n : Nat) :
    IsDigits (cs ++ List.replicate n '0') := by
  refine ⟨by simp [h.1], fun c hc => ?_⟩
  rcases List.mem_append.1 hc with hc | hc
  · exact h.2 c hc
  · rw [(List.mem_replicate.1 hc).2]
    decide

theorem exists_positional_whole (normal : d.digits ≠ 0 ∨ d = ⟨0, 0⟩) (hexp : 0 ≤ d.exponent) :
    ∃ m : Numeral, (signText negative ++ Number.layout.positional d).toList = m.chars ∧
      m.Shows negative d := by
  have hleading : (Nat.toDigits 10 d.digits ++ List.replicate d.exponent.toNat '0').head? = some '0' →
      (Nat.toDigits 10 d.digits ++ List.replicate d.exponent.toNat '0').length = 1 := by
    intro h
    rw [List.head?_append, Option.or_of_isSome (by simp [Nat.toDigits_ne_nil])] at h
    rcases normal with hne | rfl
    · exact absurd (head?_toDigits h) hne
    · rfl
  refine ⟨{
    negative
    whole := Nat.toDigits 10 d.digits ++ List.replicate d.exponent.toNat '0'
    fraction := some ['0']
    exponent := none
    whole_digits := isDigits_append_zeros (isDigits_toDigits _) _
    no_leading_zero := hleading
    fraction_digits := by
      rintro cs ⟨⟩
      exact isDigits_zero
    exponent_digits := by simp }, ?_, rfl, ?_, .inl (by simp)⟩
  · simp only [FloatLayout.positional, if_pos hexp, Number.layout, if_true, String.toList_append,
    String.toList_ofList, toList_signText, Numeral.chars, Numeral.fractionChars,
      Numeral.exponentChars, List.append_nil]
    rfl
  · have hdigits : digitsValue (Nat.toDigits 10 d.digits ++ List.replicate d.exponent.toNat '0' ++
        ['0']) = d.digits * 10 ^ (d.exponent.toNat + 1) := by
      rw [List.append_assoc, ← List.replicate_succ', digitsValue_append_zeros, digitsValue_toDigits]
    refine Decimal.value_of_digits hdigits ?_
    change (0 : Int) - (1 : Nat) + _ = d.exponent
    omega

theorem exists_positional_inside (hexp : ¬0 ≤ d.exponent)
    (hinside : (-d.exponent).toNat < (Nat.toDigits 10 d.digits).length) :
    ∃ m : Numeral, (signText negative ++ Number.layout.positional d).toList = m.chars ∧
      m.Shows negative d := by
  have hdigits := isDigits_toDigits d.digits
  have hplaces : 0 < (-d.exponent).toNat := by omega
  obtain ⟨k, hk⟩ : ∃ k, (Nat.toDigits 10 d.digits).length - (-d.exponent).toNat = k + 1 :=
    ⟨_, (Nat.succ_pred_eq_of_pos (by omega)).symm⟩
  have hleading : ((Nat.toDigits 10 d.digits).take (k + 1)).head? = some '0' →
      ((Nat.toDigits 10 d.digits).take (k + 1)).length = 1 := by
    intro h
    rw [List.head?_take, if_neg (Nat.succ_ne_zero k)] at h
    have hone := no_leading_zero_toDigits d.digits h
    omega
  refine ⟨{
    negative
    whole := (Nat.toDigits 10 d.digits).take (k + 1)
    fraction := some ((Nat.toDigits 10 d.digits).drop (k + 1))
    exponent := none
    whole_digits := ⟨by simp [hdigits.1], fun c hc => hdigits.2 c (List.mem_of_mem_take hc)⟩
    no_leading_zero := hleading
    fraction_digits := by
      rintro cs ⟨⟩
      refine ⟨fun hnil => ?_, fun c hc => hdigits.2 c (List.mem_of_mem_drop hc)⟩
      have hlength := congrArg List.length hnil
      rw [List.length_drop, List.length_nil] at hlength
      omega
    exponent_digits := by simp }, ?_, rfl, ?_, .inl (by simp)⟩
  · simp only [FloatLayout.positional, if_neg hexp, if_pos hinside, String.toList_append,
      String.toList_ofList, toList_signText, Numeral.chars, Numeral.fractionChars,
      Numeral.exponentChars, List.append_nil, hk]
    rw [List.append_assoc (List.take _ _)]
    rfl
  · refine Decimal.value_of_digits (k := 0) ?_ ?_
    · change digitsValue ((Nat.toDigits 10 d.digits).take _ ++ (Nat.toDigits 10 d.digits).drop _) = _
      rw [List.take_append_drop, digitsValue_toDigits, pow_zero, mul_one]
    · change (0 : Int) - ((Nat.toDigits 10 d.digits).drop (k + 1)).length + _ = d.exponent
      rw [List.length_drop]
      omega

theorem exists_positional_fraction (hexp : ¬0 ≤ d.exponent)
    (hinside : ¬(-d.exponent).toNat < (Nat.toDigits 10 d.digits).length) :
    ∃ m : Numeral, (signText negative ++ Number.layout.positional d).toList = m.chars ∧
      m.Shows negative d := by
  have hdigits := isDigits_toDigits d.digits
  let zeros := List.replicate ((-d.exponent).toNat - (Nat.toDigits 10 d.digits).length) '0'
  refine ⟨{
    negative
    whole := ['0']
    fraction := some (zeros ++ Nat.toDigits 10 d.digits)
    exponent := none
    whole_digits := isDigits_zero
    no_leading_zero := fun _ => rfl
    fraction_digits := by
      rintro cs ⟨⟩
      refine ⟨by simp [hdigits.1], fun c hc => ?_⟩
      rcases List.mem_append.1 hc with hc | hc
      · rw [(List.mem_replicate.1 hc).2]
        decide
      · exact hdigits.2 c hc
    exponent_digits := by simp }, ?_, rfl, ?_, .inl (by simp)⟩
  · simp only [FloatLayout.positional, if_neg hexp, if_neg hinside, String.toList_append,
      String.toList_ofList, toList_signText, Numeral.chars, Numeral.fractionChars,
      Numeral.exponentChars, List.append_nil]
    rfl
  · refine Decimal.value_of_digits (k := 0) ?_ ?_
    · change digitsValue (List.replicate _ '0' ++ Nat.toDigits 10 d.digits) = _
      rw [digitsValue_zeros_append, digitsValue_toDigits, pow_zero, mul_one]
    · change (0 : Int) - (zeros ++ Nat.toDigits 10 d.digits).length + _ = d.exponent
      rw [List.length_append, List.length_replicate]
      omega

theorem toList_exponent (e : Int) : ((if 0 ≤ e then "+" else "") ++ toString e).toList =
    (if decide (e < 0) = true then '-' else '+') :: Nat.toDigits 10 e.natAbs := by
  cases e with
  | ofNat n =>
    have hsign : 0 ≤ Int.ofNat n := Int.natCast_nonneg n
    rw [if_pos hsign, String.toList_append, decide_eq_false (Int.not_lt.2 hsign)]
    exact congrArg ('+' :: ·) Nat.toList_repr
  | negSucc n =>
    have hsign : Int.negSucc n < 0 := Int.negSucc_lt_zero n
    rw [if_neg (Int.not_le.2 hsign), String.toList_append, decide_eq_true hsign]
    change ("-" ++ (n + 1).repr).toList = _
    rw [String.toList_append, Nat.toList_repr]
    rfl

theorem exponentValue_toDigits (e : Int) :
    Numeral.exponentValue (decide (e < 0), Nat.toDigits 10 e.natAbs) = e := by
  simp only [Numeral.exponentValue, digitsValue_toDigits, decide_eq_true_eq]
  split <;> omega

theorem exists_scientific :
    ∃ m : Numeral, (signText negative ++ Number.layout.scientific d).toList = m.chars ∧
      m.Shows negative d := by
  have hdigits := isDigits_toDigits d.digits
  cases hd : Nat.toDigits 10 d.digits with
  | nil => exact absurd hd Nat.toDigits_ne_nil
  | cons c rest =>
    rw [hd] at hdigits
    let exponent : Int := d.exponent + (c :: rest).length - 1
    refine ⟨{
      negative
      whole := [c]
      fraction := if rest = [] then none else some rest
      exponent := some (decide (exponent < 0), Nat.toDigits 10 exponent.natAbs)
      whole_digits := ⟨List.cons_ne_nil _ _, fun c' hc' =>
        hdigits.2 c' (List.mem_singleton.1 hc' ▸ List.mem_cons_self)⟩
      no_leading_zero := fun _ => rfl
      fraction_digits := by
        intro cs hcs
        split at hcs
        · cases hcs
        · next hne =>
          cases hcs
          exact ⟨hne, fun c' hc' => hdigits.2 c' (List.mem_cons_of_mem _ hc')⟩
      exponent_digits := by
        rintro e ⟨⟩
        exact isDigits_toDigits _ }, ?_, rfl, ?_, .inr (by simp)⟩
    · have hlayout : Number.layout.scientific d = (if rest = [] then String.singleton c
          else String.singleton c ++ "." ++ String.ofList rest) ++ "e" ++
            (if 0 ≤ exponent then "+" else "") ++ toString exponent := by
        rw [FloatLayout.scientific, hd]
        cases rest <;> rfl
      have hmantissa : (if rest = [] then String.singleton c
          else String.singleton c ++ "." ++ String.ofList rest).toList =
          c :: Numeral.fractionChars (if rest = [] then none else some rest) := by
        cases rest <;> simp [Numeral.fractionChars]
      have hexponent := toList_exponent exponent
      rw [String.toList_append] at hexponent
      rw [hlayout, String.toList_append, String.toList_append, String.toList_append,
        String.toList_append, toList_signText, hmantissa, List.append_assoc, List.append_assoc,
        hexponent]
      rfl
    · have hfraction : (if rest = [] then none else some rest).getD [] = rest := by
        cases rest <;> rfl
      refine Decimal.value_of_digits (k := 0) ?_ ?_
      · change digitsValue ([c] ++ (if rest = [] then none else some rest).getD []) = _
        rw [hfraction, List.singleton_append, ← hd, digitsValue_toDigits, pow_zero, mul_one]
      · change Numeral.exponentValue (decide (exponent < 0), Nat.toDigits 10 exponent.natAbs) -
          ((if rest = [] then none else some rest).getD []).length + _ = d.exponent
        rw [hfraction, exponentValue_toDigits]
        simp only [exponent, List.length_cons]
        omega

end Layout

/-! ## Whole numbers -/

namespace Numeral

/-- **The numeral of a whole number.** -/
def ofInt (n : Int) : Numeral where
  negative := decide (n < 0)
  whole := Nat.toDigits 10 n.natAbs
  fraction := none
  exponent := none
  whole_digits := isDigits_toDigits _
  no_leading_zero := no_leading_zero_toDigits _
  fraction_digits := by simp
  exponent_digits := by simp

theorem chars_ofInt (n : Int) : (ofInt n).chars = (Number.integer n).text.toList := by
  have hchars : (ofInt n).chars = (if (ofInt n).negative then ['-'] else []) ++
      (Nat.toDigits 10 n.natAbs ++ []) := rfl
  rw [hchars, List.append_nil]
  cases n with
  | ofNat n => exact Nat.toList_repr.symm
  | negSucc n =>
    have hnegative : (ofInt (.negSucc n)).negative = true := decide_eq_true (Int.negSucc_lt_zero n)
    change _ = ("-" ++ (n + 1).repr).toList
    rw [if_pos hnegative, String.toList_append, Nat.toList_repr]
    rfl

/-- **The numeral of a whole number of sixty-four bits** is read as that number. -/
theorem value?_ofInt {n : Int} (lower : -2 ^ 63 ≤ n) (upper : n < 2 ^ 64) :
    (ofInt n).value? = some (.integer n) := by
  have hnatAbs : n < 0 → -(n.natAbs : Int) = n := by omega
  have hnonneg : ¬n < 0 → (n.natAbs : Int) = n := by omega
  simp only [value?, ofInt, Json.numberValue, digitsValue_toDigits, Option.getD_none,
    Option.map_none, List.isEmpty_nil, and_self, if_true, Nat.pow_eq]
  split
  · next h =>
    have h : n < 0 := of_decide_eq_true h
    rw [if_pos (by omega), hnatAbs h]
  · next h =>
    have h : ¬n < 0 := fun hneg => h (decide_eq_true hneg)
    rw [if_pos (by omega), hnonneg h]

end Numeral

/-- **A finite double-precision number is written as a numeral** that shows its shortest digits. -/
theorem exists_numeral_float {x : Binary64} (finite : x.isFinite = true) :
    ∃ m : Numeral, (Number.float x).text.toList = m.chars ∧ m.Shows x.isNegative x.shortest := by
  have htext : (Number.float x).text = signText x.isNegative ++
      if (-5 : Int) ≤ x.shortest.exponent + Decimal.digitCount x.shortest.digits - 1 ∧
          x.shortest.exponent + Decimal.digitCount x.shortest.digits - 1 ≤ 15 then
        Number.layout.positional x.shortest
      else Number.layout.scientific x.shortest := by
    rw [Number.text, if_pos finite]
    rfl
  rw [htext]
  split
  · by_cases hexp : 0 ≤ x.shortest.exponent
    · exact exists_positional_whole _ _ x.shortest_normal hexp
    · by_cases hinside :
          (-x.shortest.exponent).toNat < (Nat.toDigits 10 x.shortest.digits).length
      · exact exists_positional_inside _ _ hexp hinside
      · exact exists_positional_fraction _ _ hexp hinside
  · exact exists_scientific _ _

/-- **A finite number.** All whole numbers are finite. -/
def Number.IsFinite (n : Number) : Prop := ∀ x, n = .float x → x.isFinite = true

/-- **Finite numbers are written as numerals.** -/
theorem exists_numeral {n : Number} (finite : n.IsFinite) :
    ∃ m : Numeral, n.text.toList = m.chars := by
  cases n with
  | integer n => exact ⟨.ofInt n, (Numeral.chars_ofInt n).symm⟩
  | float x => exact (exists_numeral_float (finite x rfl)).imp fun _ h => h.1

end WorkflowEngine
