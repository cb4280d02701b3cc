import Radar.Processing

/-!
# Speed and timeout arithmetic

`compute_speed_kmh` divides two wrapped products. The divisor `delta_ms * 10` is even, so the quotient
stays below `2^31` and the cast to `int32_t` never turns it negative (`computeSpeedKmh_toInt`); hence
`compute_timeout`, which divides by the speed, leaves `18000 / speed` (`stopTimeout_eq_some`). The two
divisors are non-zero exactly when `0 < delta_ms * 10 ≤ distance_mm * 36` in `uint32_t`
(`stopTimeout_ne_none`).
-/

namespace Radar

open CArith

variable {D δ : UInt32} {s : Int32}

theorem mul_ten_even (δ : UInt32) : (δ * 10).toNat % 2 = 0 := by
  rw [UInt32.toNat_mul, show (10 : UInt32).toNat = 10 from rfl]
  omega

theorem mul_ten_zero : (0 : UInt32) * 10 = 0 := by decide

@[simp] theorem computeSpeedKmh_zero (D : UInt32) : computeSpeedKmh D 0 = some 0 := by
  simp [computeSpeedKmh]

theorem computeSpeedKmh_of_ne (h : δ * 10 ≠ 0) :
    computeSpeedKmh D δ = some (D * 36 / (δ * 10)).toInt32 := by
  have hδ : δ ≠ 0 := by
    rintro rfl
    exact h mul_ten_zero
  rw [computeSpeedKmh, if_neg hδ, udiv_eq_some.mpr ⟨h, rfl⟩, Option.map_some]

/-- The speed divides by zero only where `delta_ms * 10` wraps to zero. -/
theorem computeSpeedKmh_eq_none : computeSpeedKmh D δ = none ↔ δ ≠ 0 ∧ δ * 10 = 0 := by
  by_cases hδ : δ = 0
  · simp [hδ]
  · simp [computeSpeedKmh, hδ]

/-- The value returned is the quotient of the wrapped products, never a negative number. -/
theorem computeSpeedKmh_toInt (h : δ * 10 ≠ 0) (hs : computeSpeedKmh D δ = some s) :
    s.toInt = ((D * 36 / (δ * 10)).toNat : Int) := by
  rw [computeSpeedKmh_of_ne h, Option.some.injEq] at hs
  rw [← hs, toInt_toInt32 (toNat_div_lt h (mul_ten_even δ))]

theorem computeSpeedKmh_pos (h : δ * 10 ≠ 0) (hs : computeSpeedKmh D δ = some s) :
    0 < s.toInt ↔ δ * 10 ≤ D * 36 := by
  rw [computeSpeedKmh_toInt h hs, Int.natCast_pos, UInt32.le_iff_toNat_le]
  have hzero := udiv_zero_iff (a := D * 36) h
  rw [← UInt32.toNat_inj, UInt32.lt_iff_toNat_lt] at hzero
  change (D * 36 / (δ * 10)).toNat = 0 ↔ _ at hzero
  omega

/-- The dividend and divisor of `compute_timeout` share the factor 1000. -/
theorem timeout_quotient (v : Int) :
    (vehicleLengthMm * 3600).tdiv (v * 1000) = 18000 / v := by
  rw [Int.tdiv_eq_ediv_of_nonneg (by decide), show vehicleLengthMm * 3600 = 18000 * 1000 by decide,
    Int.mul_ediv_mul_of_pos_left _ _ (by norm_num)]

theorem ofInt_toInt_small {v : Int} (h0 : 0 ≤ v) (h1 : v ≤ 18000) : (Int32.ofInt v).toInt = v := by
  rw [Int32.toInt_ofInt, Int.bmod_eq_of_le] <;> simp [Int32.size] <;> omega

theorem quotient_bounds {v : Int} (hv : 0 < v) : 0 ≤ 18000 / v ∧ 18000 / v ≤ 18000 :=
  ⟨Int.ediv_nonneg (by norm_num) hv.le, Int.ediv_le_self _ (by norm_num)⟩

theorem computeSpeedKmh_nonneg (hs : computeSpeedKmh D δ = some s) : 0 ≤ s.toInt := by
  by_cases h : δ * 10 = 0
  · have hδ : δ = 0 := by
      by_contra hδ
      rw [computeSpeedKmh_eq_none.mpr ⟨hδ, h⟩] at hs
      cases hs
    rw [hδ, computeSpeedKmh_zero, Option.some.injEq] at hs
    rw [← hs]
    decide
  · rw [computeSpeedKmh_toInt h hs]
    exact Int.natCast_nonneg _

/-- **`compute_timeout` leaves `18000 / speed`** when no divisor is zero. -/
theorem stopTimeout_eq_some {t : Int32} :
    stopTimeout D δ = some t ↔
      ∃ s, computeSpeedKmh D δ = some s ∧ 0 < s.toInt ∧ t.toInt = 18000 / s.toInt := by
  unfold stopTimeout
  cases hs : computeSpeedKmh D δ with
  | none => simp
  | some s =>
    have hnonneg := computeSpeedKmh_nonneg hs
    by_cases hpos : 0 < s.toInt
    · obtain ⟨h0, h1⟩ := quotient_bounds hpos
      have hdiv : sdiv (vehicleLengthMm * 3600) (s.toInt * 1000) = some (18000 / s.toInt) :=
        sdiv_eq_some.mpr ⟨by omega, timeout_quotient _⟩
      have hcast : ∀ t : Int32, Int32.ofInt (18000 / s.toInt) = t ↔ t.toInt = 18000 / s.toInt := by
        intro t
        rw [← Int32.toInt_inj, ofInt_toInt_small h0 h1, eq_comm]
      simp [hdiv, hcast, hpos]
    · have hzero : s.toInt = 0 := by omega
      have hdiv : sdiv (vehicleLengthMm * 3600) (s.toInt * 1000) = none := by
        rw [sdiv_eq_none, hzero, Int.zero_mul]
      simp [hdiv, hpos]

/-- **Neither divisor is zero** exactly when `0 < delta_ms * 10 ≤ distance_mm * 36` in `uint32_t`. -/
theorem stopTimeout_ne_none : stopTimeout D δ ≠ none ↔ δ * 10 ≠ 0 ∧ δ * 10 ≤ D * 36 := by
  rw [Option.ne_none_iff_exists']
  simp only [stopTimeout_eq_some]
  by_cases h : δ * 10 = 0
  · -- either `δ = 0`, whose speed is 0, or the speed itself divides by zero
    have hno : ∀ s, computeSpeedKmh D δ = some s → ¬ 0 < s.toInt := by
      intro s hs
      by_cases hδ : δ = 0
      · rw [hδ, computeSpeedKmh_zero, Option.some.injEq] at hs
        rw [← hs]
        decide
      · rw [computeSpeedKmh_eq_none.mpr ⟨hδ, h⟩] at hs
        cases hs
    constructor
    · rintro ⟨t, s, hs, hpos, -⟩
      exact absurd hpos (hno s hs)
    · exact fun hle => absurd h hle.1
  · have hs := computeSpeedKmh_of_ne (D := D) h
    constructor
    · rintro ⟨t, s, hs', hpos, -⟩
      exact ⟨h, (computeSpeedKmh_pos h hs').mp hpos⟩
    · rintro ⟨-, hle⟩
      have hpos := (computeSpeedKmh_pos h hs).mpr hle
      obtain ⟨h0, h1⟩ := quotient_bounds hpos
      exact ⟨_, _, hs, hpos, ofInt_toInt_small h0 h1⟩

/-! ### The speed over the naturals -/

theorem toNat_mul_ten (δ : UInt32) : (δ * 10).toNat = 10 * δ.toNat % 2 ^ 32 := by
  rw [UInt32.toNat_mul, show (10 : UInt32).toNat = 10 from rfl, Nat.mul_comm]

theorem toNat_mul_thirtySix (D : UInt32) : (D * 36).toNat = 36 * D.toNat % 2 ^ 32 := by
  rw [UInt32.toNat_mul, show (36 : UInt32).toNat = 36 from rfl, Nat.mul_comm]

theorem mul_ten_ne_zero : δ * 10 ≠ 0 ↔ 0 < 10 * δ.toNat % 2 ^ 32 := by
  rw [← toNat_mul_ten, Nat.pos_iff_ne_zero, ne_eq, ne_eq, ← UInt32.toNat_inj]
  rfl

/-- The speed as a quotient of naturals. -/
theorem computeSpeedKmh_quotient (h : δ * 10 ≠ 0) (hs : computeSpeedKmh D δ = some s) :
    s.toInt = (36 * D.toNat % 2 ^ 32 / (10 * δ.toNat % 2 ^ 32) : ℕ) := by
  rw [computeSpeedKmh_toInt h hs, UInt32.toNat_div, toNat_mul_ten, toNat_mul_thirtySix]

/-- Where nothing wraps, the speed is the quotient of the exact products. -/
theorem computeSpeedKmh_unwrapped (hD : 36 * D.toNat < 2 ^ 32) (hpos : 0 < δ.toNat)
    (hδ : 10 * δ.toNat < 2 ^ 32) :
    ∃ s, computeSpeedKmh D δ = some s ∧ s.toInt = (36 * D.toNat / (10 * δ.toNat) : ℕ) := by
  have hne : δ * 10 ≠ 0 := by
    rw [mul_ten_ne_zero, Nat.mod_eq_of_lt hδ]
    omega
  have hs := computeSpeedKmh_of_ne (D := D) hne
  have hquot := computeSpeedKmh_quotient hne hs
  rw [Nat.mod_eq_of_lt hD, Nat.mod_eq_of_lt hδ] at hquot
  exact ⟨_, hs, hquot⟩

/-! ### Without overflow -/

theorem computeSpeedKmh_exact {d : ℕ} (hD : 36 * D.toNat < 2 ^ 32) (hd : 0 < d)
    (hs : 10 * d ≤ 36 * D.toNat) :
    computeSpeedKmh D (UInt32.ofNat d) = some (Int32.ofNat (36 * D.toNat / (10 * d))) := by
  have hδ : (UInt32.ofNat d).toNat = d := UInt32.toNat_ofNat_of_lt' (by simp [UInt32.size]; omega)
  obtain ⟨s, hspeed, hquot⟩ := @computeSpeedKmh_unwrapped D (UInt32.ofNat d) hD (by omega) (by omega)
  have hlt : 36 * D.toNat / (10 * d) < 2 ^ 31 := by
    rw [Nat.div_lt_iff_lt_mul (by omega)]
    omega
  rw [hspeed, Option.some.injEq, ← Int32.toInt_inj, hquot, hδ, Int32.toInt_ofNat_of_lt hlt]

theorem stopTimeout_exact {d : ℕ} (hD : 36 * D.toNat < 2 ^ 32) (hd : 0 < d)
    (hs : 10 * d ≤ 36 * D.toNat) :
    ∃ t, stopTimeout D (UInt32.ofNat d) = some t ∧
      t.toInt.toNat = 18000 / (36 * D.toNat / (10 * d)) := by
  have hspeed := computeSpeedKmh_exact hD hd hs
  have hlt : 36 * D.toNat / (10 * d) < 2 ^ 31 := by
    rw [Nat.div_lt_iff_lt_mul (by omega)]
    omega
  have hpos : 0 < 36 * D.toNat / (10 * d) := Nat.div_pos hs (by omega)
  have hint := Int32.toInt_ofNat_of_lt hlt
  have hquot : (18000 : Int) / (36 * D.toNat / (10 * d) : ℕ) =
      (18000 / (36 * D.toNat / (10 * d)) : ℕ) := by
    rw [Int.natCast_ediv]
    rfl
  obtain ⟨h0, h1⟩ := @quotient_bounds ((36 * D.toNat / (10 * d) : ℕ) : Int) (by omega)
  refine ⟨Int32.ofInt (18000 / ((36 * D.toNat / (10 * d) : ℕ) : Int)), ?_, ?_⟩
  · rw [stopTimeout_eq_some]
    exact ⟨_, hspeed, by rw [hint]; omega, by rw [hint, ofInt_toInt_small h0 h1]⟩
  · rw [ofInt_toInt_small h0 h1, hquot, Int.toNat_natCast]

/-- **The timeout covers one vehicle length and not two.** -/
theorem timeout_covers {D d : ℕ} (hd : 0 < d) (hs : 10 * d ≤ 36 * D) :
    5000 * d / D ≤ 18000 / (36 * D / (10 * d)) ∧ D * (18000 / (36 * D / (10 * d))) < 10000 * d := by
  set s := 36 * D / (10 * d) with hsdef
  have hspos : 0 < s := Nat.div_pos hs (by omega)
  have hle : s * (10 * d) ≤ 36 * D := Nat.div_mul_le_self _ _
  have hlt : 36 * D < (s + 1) * (10 * d) := Nat.lt_mul_of_div_lt (Nat.lt_succ_self _) (by omega) 
  have hT : 18000 / s * s ≤ 18000 := Nat.div_mul_le_self _ _
  constructor
  · rw [Nat.le_div_iff_mul_le hspos]
    have hq : 5000 * d / D * D ≤ 5000 * d := Nat.div_mul_le_self _ _
    refine Nat.le_of_mul_le_mul_right ?_ (show 0 < 10 * d by omega)
    calc 5000 * d / D * s * (10 * d) = 5000 * d / D * (s * (10 * d)) := by ring
      _ ≤ 5000 * d / D * (36 * D) := Nat.mul_le_mul_left _ hle
      _ = 36 * (5000 * d / D * D) := by ring
      _ ≤ 36 * (5000 * d) := Nat.mul_le_mul_left _ hq
      _ = 18000 * (10 * d) := by ring
  · have hdouble : s + 1 ≤ 2 * s := by omega
    apply Nat.lt_of_mul_lt_mul_left (a := 36)
    by_cases hzero : 18000 / s = 0
    · rw [hzero]
      omega
    · calc 36 * (D * (18000 / s)) = 18000 / s * (36 * D) := by ring
        _ < 18000 / s * ((s + 1) * (10 * d)) :=
          Nat.mul_lt_mul_of_pos_left hlt (Nat.pos_of_ne_zero hzero)
        _ ≤ 18000 / s * (2 * s * (10 * d)) :=
          Nat.mul_le_mul_left _ (Nat.mul_le_mul_right _ hdouble)
        _ = 18000 / s * s * (20 * d) := by ring
        _ ≤ 18000 * (20 * d) := Nat.mul_le_mul_right _ hT
        _ = 36 * (10000 * d) := by ring

end Radar
