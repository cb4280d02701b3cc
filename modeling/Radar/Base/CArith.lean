import Mathlib.Data.Nat.Basic
import Mathlib.Data.Int.Basic
import Mathlib.Tactic.NormNum
import Mathlib.Tactic.Ring

/-!
# C division and conversions on fixed-width integers

Division with a zero divisor is undefined in C, so both divisions are partial. Unsigned arithmetic
wraps and is that of `UInt32`; a conversion of an unsigned value to `int32_t` is the two's complement
reading, which keeps a value below `2^31`.
-/

namespace CArith

/-- `a / b` on `uint32_t`: undefined (`none`) on a zero divisor. -/
def udiv (a b : UInt32) : Option UInt32 := if b = 0 then none else some (a / b)

/-- `a / b` on signed operands, truncating toward zero: undefined (`none`) on a zero divisor. -/
def sdiv (a b : Int) : Option Int := if b = 0 then none else some (a.tdiv b)

@[simp] theorem udiv_eq_none {a b : UInt32} : udiv a b = none ↔ b = 0 := by
  simp [udiv]

theorem udiv_eq_some {a b q : UInt32} : udiv a b = some q ↔ b ≠ 0 ∧ a / b = q := by
  simp [udiv]

@[simp] theorem sdiv_eq_none {a b : Int} : sdiv a b = none ↔ b = 0 := by
  simp [sdiv]

theorem sdiv_eq_some {a b q : Int} : sdiv a b = some q ↔ b ≠ 0 ∧ a.tdiv b = q := by
  simp [sdiv]

theorem toNat_pos {a : UInt32} (h : a ≠ 0) : 0 < a.toNat :=
  Nat.pos_of_ne_zero fun hzero => h (UInt32.toNat_inj.mp hzero)

/-- A quotient is zero exactly when the divisor is the larger operand. -/
theorem udiv_zero_iff {a b : UInt32} (hb : b ≠ 0) : a / b = 0 ↔ a < b := by
  have hpos := toNat_pos hb
  rw [← UInt32.toNat_inj, UInt32.toNat_div, UInt32.lt_iff_toNat_lt]
  show a.toNat / b.toNat = 0 ↔ _
  rw [Nat.div_eq_zero_iff_lt hpos]

theorem toInt_toInt32 {q : UInt32} (hq : q.toNat < 2 ^ 31) : q.toInt32.toInt = q.toNat := by
  have hbv : q.toInt32.toInt = q.toBitVec.toInt := rfl
  rw [hbv, BitVec.toInt_eq_toNat_of_lt]
  · rfl
  · show 2 * q.toNat < 2 ^ 32
    omega

/-- An even divisor halves the quotient, which then fits in `int32_t`. -/
theorem toNat_div_lt {a b : UInt32} (hb : b ≠ 0) (heven : b.toNat % 2 = 0) :
    (a / b).toNat < 2 ^ 31 := by
  have hpos := toNat_pos hb
  have htwo : 2 ≤ b.toNat := by omega
  have ha := a.toNat_lt
  rw [UInt32.toNat_div, Nat.div_lt_iff_lt_mul (by omega)]
  omega

/-! ### Quotients of wrapped numbers -/

/-- What the exact quotient leaves of the dividend's carry beyond the divisor's. -/
def lostCarry (m n w : ℕ) : ℕ := m / w - m / n * (n / w)

theorem carry_le (m n : ℕ) {w : ℕ} (hw : 0 < w) : m / n * (n / w) ≤ m / w := by
  rw [Nat.le_div_iff_mul_le hw]
  calc m / n * (n / w) * w = m / n * (n / w * w) := by ring
    _ ≤ m / n * n := Nat.mul_le_mul_left _ (Nat.div_mul_le_self n w)
    _ ≤ m := Nat.div_mul_le_self m n

/-- The wrapped dividend from the exact quotient and remainder. -/
theorem mod_add_lostCarry (m n : ℕ) {w : ℕ} (hw : 0 < w) :
    m % w + lostCarry m n w * w = m / n * (n % w) + m % n := by
  have hcarry : lostCarry m n w + m / n * (n / w) = m / w := Nat.sub_add_cancel (carry_le m n hw)
  have hm : w * (m / w) + m % w = m := Nat.div_add_mod m w
  have hn : w * (n / w) + n % w = n := Nat.div_add_mod n w
  have hq : n * (m / n) + m % n = m := Nat.div_add_mod m n
  apply Nat.add_right_cancel (m := m / n * (n / w) * w)
  calc m % w + lostCarry m n w * w + m / n * (n / w) * w
      = w * (lostCarry m n w + m / n * (n / w)) + m % w := by ring
    _ = n * (m / n) + m % n := by rw [hcarry, hm, hq]
    _ = (w * (n / w) + n % w) * (m / n) + m % n := by rw [hn]
    _ = m / n * (n % w) + m % n + m / n * (n / w) * w := by ring

/-- The exact remainder covers the lost carry, by less than the wrapped divisor. -/
def CarriesCancel (m n w : ℕ) : Prop :=
  lostCarry m n w * w ≤ m % n ∧ m % n < lostCarry m n w * w + n % w

instance (m n w : ℕ) : Decidable (CarriesCancel m n w) := inferInstanceAs (Decidable (_ ∧ _))

/-- **When a quotient survives wrapping.** -/
theorem wrapped_quotient_iff {m n w : ℕ} (hw : 0 < w) (hn : 0 < n % w) :
    m % w / (n % w) = m / n ↔ CarriesCancel m n w := by
  have hsplit := mod_add_lostCarry m n hw
  rw [Nat.div_eq_iff hn]
  unfold CarriesCancel
  omega

theorem not_carriesCancel {m n w : ℕ} (hn : n % w = 0) : ¬ CarriesCancel m n w := by
  unfold CarriesCancel
  omega

/-- Below an unwrapped divisor no carry of the dividend can cancel. -/
theorem carriesCancel_iff_lt {m n w : ℕ} (hn : 0 < n) (hnw : n < w) : CarriesCancel m n w ↔ m < w := by
  have hrem : m % n < n := Nat.mod_lt m hn
  have hcarry : lostCarry m n w = m / w := by
    rw [lostCarry, Nat.div_eq_of_lt hnw, Nat.mul_zero, Nat.sub_zero]
  unfold CarriesCancel
  rw [hcarry, Nat.mod_eq_of_lt hnw]
  by_cases hm : m < w
  · rw [Nat.div_eq_of_lt hm]
    omega
  · have hle : w ≤ m / w * w := by
      have hone : 1 ≤ m / w := Nat.div_pos (by omega) (by omega)
      calc w = 1 * w := (Nat.one_mul w).symm
        _ ≤ m / w * w := Nat.mul_le_mul_right w hone
    omega

/-- A dividend that does not wrap, over a larger divisor. -/
theorem carriesCancel_iff_lt_mod {m n w : ℕ} (hm : m < w) (hmn : m < n) :
    CarriesCancel m n w ↔ m < n % w := by
  have hcarry : lostCarry m n w = 0 := by
    rw [lostCarry, Nat.div_eq_of_lt hm, Nat.zero_sub]
  unfold CarriesCancel
  rw [hcarry, Nat.mod_eq_of_lt hmn]
  omega

end CArith
