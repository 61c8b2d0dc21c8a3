import Mathlib.Algebra.Order.Field.Power
import Mathlib.Tactic.FieldSimp
import Mathlib.Tactic.Linarith
import Mathlib.Tactic.Positivity
import WorkflowEngine.Number.Shortest

/-!
# The intervals of numbers

The decimals that round to a finite number lie in an interval around it. Two such intervals meet in an
end at most, and then one of the two significands is odd and its interval is open: a decimal rounds to
one number only.

* `Decimal.value`, `Decimal.quotient_scaled`: decimals and quotients as rational numbers;
* `Decimal.lower`, `Decimal.upper`, `Decimal.readsBack_iff`: the interval of a number;
* `Canonical`, `Binary64.canonical`: the significands and scales of finite numbers;
* `Decimal.upper_le_lower`: the interval of a lesser number is below that of a greater one;
* **`Decimal.readsBack_unique`**: a decimal rounds to one number only.
-/

namespace WorkflowEngine

/-- **The value of a decimal.** -/
def Decimal.value (d : Decimal) : ℚ := d.digits * 10 ^ d.exponent

namespace Decimal

/-! ## Quotients -/

/-- The value of a quotient. -/
def quotient (a : Nat × Nat) : ℚ := a.1 / a.2

theorem zpow_eq_div {b : ℚ} (hb : b ≠ 0) (k : Int) : b ^ k = b ^ k.toNat / b ^ (-k).toNat := by
  rw [← zpow_natCast, ← zpow_natCast, ← zpow_sub₀ hb, Int.toNat_sub_toNat_neg]

theorem quotient_scaled (n : Nat) (p t : Int) : quotient (scaled n p t) = n * 2 ^ p * 10 ^ t := by
  rw [zpow_eq_div (b := 2) (by norm_num) p, zpow_eq_div (b := 10) (by norm_num) t]
  simp only [quotient, scaled, Nat.pow_eq, Nat.cast_mul, Nat.cast_pow, Nat.cast_ofNat]
  field_simp

theorem scaled_snd_pos (n : Nat) (p t : Int) : 0 < (scaled n p t).2 :=
  Nat.mul_pos (Nat.pow_pos (by decide)) (Nat.pow_pos (by decide))

variable {a b : Nat × Nat}

theorem quotLt_iff (ha : 0 < a.2) (hb : 0 < b.2) : quotLt a b = true ↔ quotient a < quotient b := by
  rw [quotLt, decide_eq_true_iff, quotient, quotient,
    div_lt_div_iff₀ (Nat.cast_pos.2 ha) (Nat.cast_pos.2 hb)]
  exact_mod_cast Iff.rfl

theorem quotLe_iff (ha : 0 < a.2) (hb : 0 < b.2) : quotLe a b = true ↔ quotient a ≤ quotient b := by
  rw [quotLe, decide_eq_true_iff, quotient, quotient,
    div_le_div_iff₀ (Nat.cast_pos.2 ha) (Nat.cast_pos.2 hb)]
  exact_mod_cast Iff.rfl

/-! ## Intervals -/

/-- The lower end of the interval that rounds to `m · 2 ^ q`. -/
def lower (m : Nat) (q : Int) : ℚ :=
  if m = 2 ^ 52 ∧ -1074 < q then (4 * m - 1) * 2 ^ (q - 2) else (2 * m - 1) * 2 ^ (q - 1)

/-- The upper end of the interval that rounds to `m · 2 ^ q`. -/
def upper (m : Nat) (q : Int) : ℚ := (2 * m + 1) * 2 ^ (q - 1)

variable {m m' : Nat} {q q' : Int} {d d' : Decimal}

theorem quotient_lowerEnd (hm : m ≠ 0) (q : Int) : quotient (lowerEnd m q) = lower m q := by
  unfold lowerEnd lower
  rw [Nat.pow_eq]
  split
  · rw [quotient_scaled, Nat.cast_sub (by omega), zpow_zero, mul_one]
    push_cast
    rfl
  · rw [quotient_scaled, Nat.cast_sub (by omega), zpow_zero, mul_one]
    push_cast
    rfl

theorem quotient_upperEnd (m : Nat) (q : Int) : quotient (upperEnd m q) = upper m q := by
  rw [upperEnd, upper, quotient_scaled, zpow_zero, mul_one]
  push_cast
  rfl

theorem quotient_value (d : Decimal) : quotient (scaled d.digits 0 d.exponent) = d.value := by
  rw [quotient_scaled, zpow_zero, mul_one, value]

/-- **A decimal rounds to a number** when it lies in the interval, which has its ends just if the
significand is even. -/
theorem readsBack_iff (hm : m ≠ 0) :
    readsBack m q d = true ↔
      if m % 2 = 0 then lower m q ≤ d.value ∧ d.value ≤ upper m q
      else lower m q < d.value ∧ d.value < upper m q := by
  have hlower : 0 < (lowerEnd m q).2 := by
    unfold lowerEnd
    split <;> exact scaled_snd_pos ..
  have hupper : 0 < (upperEnd m q).2 := scaled_snd_pos ..
  have hvalue := scaled_snd_pos d.digits 0 d.exponent
  rw [readsBack]
  split
  · rw [Bool.and_eq_true, quotLe_iff hlower hvalue, quotLe_iff hvalue hupper,
      quotient_lowerEnd hm, quotient_upperEnd, quotient_value]
  · rw [Bool.and_eq_true, quotLt_iff hlower hvalue, quotLt_iff hvalue hupper,
      quotient_lowerEnd hm, quotient_upperEnd, quotient_value]

theorem lower_le_of_readsBack (hm : m ≠ 0) (h : readsBack m q d = true) :
    lower m q ≤ d.value ∧ d.value ≤ upper m q := by
  rw [readsBack_iff hm] at h
  split at h
  · exact h
  · exact ⟨h.1.le, h.2.le⟩

theorem even_of_readsBack (hm : m ≠ 0) (h : readsBack m q d = true)
    (atEnd : lower m q = d.value ∨ d.value = upper m q) : m % 2 = 0 := by
  rw [readsBack_iff hm] at h
  split at h
  · assumption
  · rcases atEnd with heq | heq
    · exact absurd heq h.1.ne
    · exact absurd heq h.2.ne

end Decimal

/-! ## Significands and scales -/

/-- **The significand and the scale of a finite number**: a significand is as great as it can be, unless
the scale is the least one. -/
structure Canonical (m : Nat) (q : Int) : Prop where
  bounded : m < 2 ^ 53
  least : -1074 ≤ q
  normal : -1074 < q → 2 ^ 52 ≤ m

theorem Binary64.canonical (x : Binary64) : Canonical x.significand x.scale := by
  have hfraction : x.fractionBits < 2 ^ 52 := Nat.mod_lt _ (by decide)
  unfold significand scale
  split
  · exact ⟨by omega, le_refl _, fun h => absurd h (lt_irrefl _)⟩
  · next hzero =>
    rw [Nat.pow_eq]
    exact ⟨by omega, by omega, fun _ => by omega⟩

namespace Decimal

variable {m m' : Nat} {q q' : Int} {d d' : Decimal}

theorem le_lower (h : Canonical m q) (hq : -1074 < q) :
    (2 ^ 54 - 1) * (2 : ℚ) ^ (q - 2) ≤ lower m q := by
  have hpos : (0 : ℚ) < 2 ^ (q - 2) := by positivity
  have hm : (2 : ℚ) ^ 52 ≤ m := by exact_mod_cast h.normal hq
  unfold lower
  split
  · next heq =>
    refine mul_le_mul_of_nonneg_right ?_ hpos.le
    linarith
  · next hne =>
    have hm : (2 : ℚ) ^ 52 + 1 ≤ m := by
      have := h.normal hq
      exact_mod_cast (show 2 ^ 52 + 1 ≤ m by omega)
    have hstep : (2 : ℚ) ^ (q - 1) = 2 * 2 ^ (q - 2) := by
      rw [show q - 1 = q - 2 + 1 by omega, zpow_add_one₀ (by norm_num), mul_comm]
    rw [hstep, ← mul_assoc]
    refine mul_le_mul_of_nonneg_right ?_ hpos.le
    linarith

/-- **The interval of a lesser number is below the interval of a greater one.** They meet only if one
of the significands is odd. -/
theorem upper_le_lower (h : Canonical m q) (h' : Canonical m' q') (less : q < q' ∨ q = q' ∧ m < m') :
    upper m q ≤ lower m' q' ∧ (upper m q = lower m' q' → m % 2 = 1 ∨ m' % 2 = 1) := by
  have hpos : (0 : ℚ) < 2 ^ (q - 1) := by positivity
  rcases less with hq | ⟨rfl, hm⟩
  · -- the greatest significand is odd, and nothing lies between it and the next scale
    have hbound : (2 * m + 1 : ℚ) ≤ 2 ^ 54 - 1 := by
      have : (m : ℚ) + 1 ≤ 2 ^ 53 := by exact_mod_cast h.bounded
      linarith
    have hscale : (2 : ℚ) ^ (q - 1) ≤ 2 ^ (q' - 2) := zpow_le_zpow_right₀ (by norm_num) (by omega)
    have hleast := h.least
    have hlower : (2 ^ 54 - 1) * (2 : ℚ) ^ (q - 1) ≤ lower m' q' :=
      (mul_le_mul_of_nonneg_left hscale (by norm_num)).trans (le_lower h' (by omega))
    have hupper : upper m q ≤ (2 ^ 54 - 1) * (2 : ℚ) ^ (q - 1) :=
      mul_le_mul_of_nonneg_right hbound hpos.le
    refine ⟨hupper.trans hlower, fun heq => .inl ?_⟩
    have hfull : (2 ^ 54 - 1 : ℚ) ≤ 2 * m + 1 :=
      le_of_mul_le_mul_right (hlower.trans heq.symm.le) hpos
    have hodd : 2 ^ 54 ≤ 2 * m + 2 := by
      have : (2 ^ 54 : ℚ) ≤ 2 * m + 2 := by linarith
      exact_mod_cast this
    have hbounded := h.bounded
    omega
  · have hlower : lower m' q = (2 * m' - 1) * 2 ^ (q - 1) := by
      refine if_neg fun hleast => ?_
      have := h.normal hleast.2
      omega
    have hnext : (m : ℚ) + 1 ≤ m' := by exact_mod_cast hm
    refine ⟨?_, fun heq => ?_⟩
    · rw [hlower]
      exact mul_le_mul_of_nonneg_right (by linarith) hpos.le
    · rw [hlower] at heq
      have hnumerators := mul_right_cancel₀ hpos.ne' heq
      have hsucc : (m' : ℚ) = m + 1 := by linarith
      have hsucc : m' = m + 1 := by exact_mod_cast hsucc
      omega

theorem not_readsBack_of_less (h : Canonical m q) (h' : Canonical m' q') (hm : m ≠ 0) (hm' : m' ≠ 0)
    (hd : readsBack m q d = true) (hd' : readsBack m' q' d' = true) (same : d.value = d'.value) :
    ¬(q < q' ∨ q = q' ∧ m < m') := by
  intro less
  obtain ⟨hle, hodd⟩ := upper_le_lower h h' less
  have hupper := (lower_le_of_readsBack hm hd).2
  have hlower := (lower_le_of_readsBack hm' hd').1
  have hend : d.value = upper m q := le_antisymm hupper (by linarith)
  have hend' : lower m' q' = d'.value := le_antisymm hlower (by linarith)
  have heven := even_of_readsBack hm hd (.inr hend)
  have heven' := even_of_readsBack hm' hd' (.inl hend')
  have := hodd (by rw [← hend, same, hend'])
  omega

/-- **A decimal rounds to one number only.** -/
theorem readsBack_unique (h : Canonical m q) (h' : Canonical m' q') (hm : m ≠ 0) (hm' : m' ≠ 0)
    (hd : readsBack m q d = true) (hd' : readsBack m' q' d' = true) (same : d.value = d'.value) :
    m = m' ∧ q = q' := by
  have hless := not_readsBack_of_less h h' hm hm' hd hd' same
  have hgreater := not_readsBack_of_less h' h hm' hm hd' hd same.symm
  omega

end Decimal

end WorkflowEngine
