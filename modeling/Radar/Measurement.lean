import Radar.Speed

/-!
# What the speed measures

`compute_speed_kmh` against the speed `36 * D / (10 * d)` computed over the naturals, and
`compute_timeout` against the time a vehicle of `VEHICLE_LENGTH_MM` needs to pass. Both products of the
speed are `uint32_t` products: the distance wraps from 119304648 mm on and the elapsed time from
429496730 ms on. A wrapped divisor can be zero, which the test of `delta_ms` does not see.
-/

namespace Radar

open CArith

variable {D δ : UInt32} {s : Int32}

/-- `compute_speed_kmh` divides by no zero and returns the exact integer speed where that fits in
`int32_t`. -/
def ExactSpeed (D δ : UInt32) : Prop :=
  computeSpeedKmh D δ ≠ none ∧
    (36 * D.toNat / (10 * δ.toNat) < 2 ^ 31 →
      ∃ s, computeSpeedKmh D δ = some s ∧ s.toInt = (36 * D.toNat / (10 * δ.toNat) : ℕ))

theorem exactSpeed_iff_quotient (h : δ * 10 ≠ 0) :
    ExactSpeed D δ ↔ (36 * D.toNat / (10 * δ.toNat) < 2 ^ 31 →
      36 * D.toNat % 2 ^ 32 / (10 * δ.toNat % 2 ^ 32) = 36 * D.toNat / (10 * δ.toNat)) := by
  have hs := computeSpeedKmh_of_ne (D := D) h
  have hquot := computeSpeedKmh_quotient h hs
  unfold ExactSpeed
  rw [hs]
  simp only [ne_eq, reduceCtorEq, not_false_iff, true_and, Option.some.injEq, exists_eq_left', hquot,
    Int.natCast_inj]

/-- Over a divisor that wraps, every speed fits in `int32_t`. -/
theorem fits_of_wrapped (D : UInt32) {n : ℕ} (hn : 2 ^ 32 ≤ n) : ¬ 2 ^ 31 * n ≤ 36 * D.toNat := by
  have hD := D.toNat_lt
  omega

/-- Exact where the speed leaves `int32_t`, or where the carries of the two products cancel. -/
theorem exactSpeed_iff_cancel (hδ : δ ≠ 0) :
    ExactSpeed D δ ↔ 2 ^ 31 * (10 * δ.toNat) ≤ 36 * D.toNat ∨
      CarriesCancel (36 * D.toNat) (10 * δ.toNat) (2 ^ 32) := by
  have hpos : 0 < 10 * δ.toNat := Nat.mul_pos (by decide) (toNat_pos hδ)
  have hfits : 36 * D.toNat / (10 * δ.toNat) < 2 ^ 31 ↔ ¬ 2 ^ 31 * (10 * δ.toNat) ≤ 36 * D.toNat := by
    rw [Nat.div_lt_iff_lt_mul hpos, Nat.not_le]
  by_cases h : δ * 10 = 0
  · -- the wrapped divisor is zero: the division has no result, and the exact speed fits
    have hmod : 10 * δ.toNat % 2 ^ 32 = 0 := by
      rw [← toNat_mul_ten, h, UInt32.toNat_zero]
    have hwrap : 2 ^ 32 ≤ 10 * δ.toNat := Nat.le_of_dvd hpos (Nat.dvd_of_mod_eq_zero hmod)
    constructor
    · exact fun hex => absurd (computeSpeedKmh_eq_none.mpr ⟨hδ, h⟩) hex.1
    · rintro (hbig | hcancel)
      · exact absurd hbig (fits_of_wrapped D hwrap)
      · exact absurd hcancel (not_carriesCancel hmod)
  · rw [exactSpeed_iff_quotient h, hfits, wrapped_quotient_iff (by norm_num) (mul_ten_ne_zero.mp h)]
    tauto

/-- Over a time that wraps, a distance that does not wrap is measured exactly as long as it stays below the
wrapped divisor, where the speed is 0. -/
theorem exactSpeed_iff_of_wrapped (hD : 36 * D.toNat < 2 ^ 32) (hwrap : 2 ^ 32 ≤ 10 * δ.toNat) :
    ExactSpeed D δ ↔ 36 * D.toNat < 10 * δ.toNat % 2 ^ 32 := by
  have hδ : δ ≠ 0 := by
    rintro rfl
    rw [UInt32.toNat_zero] at hwrap
    omega
  rw [exactSpeed_iff_cancel hδ, carriesCancel_iff_lt_mod hD (lt_of_lt_of_le hD hwrap),
    or_iff_right (fits_of_wrapped D hwrap)]

/-- **When the speed is exact**: neither product wraps, or the exact speed does not fit anyway, or the
time product wraps and the carries cancel. -/
theorem speed_exact_iff (hδ : δ ≠ 0) :
    ExactSpeed D δ ↔
      (10 * δ.toNat < 2 ^ 32 ∧ (36 * D.toNat < 2 ^ 32 ∨ 2 ^ 31 * (10 * δ.toNat) ≤ 36 * D.toNat)) ∨
      (2 ^ 32 ≤ 10 * δ.toNat ∧ CarriesCancel (36 * D.toNat) (10 * δ.toNat) (2 ^ 32)) := by
  have hpos : 0 < 10 * δ.toNat := Nat.mul_pos (by decide) (toNat_pos hδ)
  rw [exactSpeed_iff_cancel hδ]
  by_cases hwrap : 10 * δ.toNat < 2 ^ 32
  · rw [carriesCancel_iff_lt hpos hwrap]
    omega
  · constructor
    · rintro (hbig | hcancel)
      · exact absurd hbig (fits_of_wrapped D (not_lt.mp hwrap))
      · exact .inr ⟨not_lt.mp hwrap, hcancel⟩
    · rintro (⟨hlt, -⟩ | ⟨-, hcancel⟩)
      · exact absurd hlt hwrap
      · exact .inr hcancel

theorem speed_exact_one_metre : ExactSpeed 1000 120 :=
  (speed_exact_iff (by decide)).mpr (.inl (by decide))

/-- At `2^31` ms the divisor wraps to zero. -/
theorem speed_divides_by_zero : ¬ ∀ D δ : UInt32, δ ≠ 0 → ExactSpeed D δ := by
  intro h
  exact (h 1000 (2 ^ 31) (by decide)).1 (by decide)

/-! ### The stop timeout -/

/-- `delta_ms` of `compute_timeout` and `compute_vehicle_status`. -/
def Globals.deltaMs (g : Globals) : UInt32 := g.ctx.sensor2TimeMs - g.ctx.startTimeMs

theorem computeTimeout_of_stopTimeout (cfg : Config) (undef : Option Int32) {g : Globals} {t : Int32}
    (ht : stopTimeout cfg.sensorDistanceMm g.deltaMs = some t) :
    computeTimeout cfg undef g = some { g with radarStopTimeout := t } := by
  unfold Globals.deltaMs at ht
  simp [computeTimeout, ht]

/-- A positive speed comes from a positive elapsed time no longer than the distance allows. -/
theorem delta_of_speed_pos (hD : 36 * D.toNat < 2 ^ 32) (hδ : 10 * δ.toNat < 2 ^ 32)
    (hs : computeSpeedKmh D δ = some s) (hpos : 1 ≤ s.toInt) :
    0 < δ.toNat ∧ 10 * δ.toNat ≤ 36 * D.toNat ∧ s.toInt = (36 * D.toNat / (10 * δ.toNat) : ℕ) := by
  have hδpos : 0 < δ.toNat := by
    apply toNat_pos
    rintro rfl
    rw [computeSpeedKmh_zero, Option.some.injEq] at hs
    rw [← hs] at hpos
    exact absurd hpos (by decide)
  obtain ⟨s', hs', hquot⟩ := computeSpeedKmh_unwrapped hD hδpos hδ
  obtain rfl : s' = s := Option.some.inj (hs'.symm.trans hs)
  refine ⟨hδpos, ?_, hquot⟩
  have hge : 1 ≤ 36 * D.toNat / (10 * δ.toNat) := by omega
  rw [Nat.le_div_iff_mul_le (by omega), Nat.one_mul] at hge
  exact hge

/-- **The stop timeout covers one vehicle length and overshoots by less than a factor of two.** -/
theorem stop_timeout_covers (cfg : Config) (undef : Option Int32) (g : Globals) {s : Int32}
    (hD : 36 * cfg.sensorDistanceMm.toNat < 2 ^ 32) (hd : 10 * g.deltaMs.toNat < 2 ^ 32)
    (hs : computeSpeedKmh cfg.sensorDistanceMm g.deltaMs = some s) (hpos : 1 ≤ s.toInt) :
    ∃ t : Int32, computeTimeout cfg undef g = some { g with radarStopTimeout := t } ∧
      0 ≤ t.toInt ∧ t.toInt ≤ 18000 ∧
      ((5000 * g.deltaMs.toNat / cfg.sensorDistanceMm.toNat : ℕ) : Int) ≤ t.toInt ∧
      (cfg.sensorDistanceMm.toNat : Int) * t.toInt < 10000 * g.deltaMs.toNat := by
  obtain ⟨hdpos, hle, hquot⟩ := delta_of_speed_pos hD hd hs hpos
  obtain ⟨hcover, hover⟩ := timeout_covers hdpos hle
  obtain ⟨h0, h1⟩ := @quotient_bounds s.toInt (by omega)
  have ht : (Int32.ofInt (18000 / s.toInt)).toInt =
      (18000 / (36 * cfg.sensorDistanceMm.toNat / (10 * g.deltaMs.toNat)) : ℕ) := by
    rw [ofInt_toInt_small h0 h1, hquot, Int.natCast_ediv]
    rfl
  refine ⟨Int32.ofInt (18000 / s.toInt), computeTimeout_of_stopTimeout cfg undef ?_, ?_, ?_, ?_, ?_⟩
  · rw [stopTimeout_eq_some]
    exact ⟨s, hs, by omega, ofInt_toInt_small h0 h1⟩
  · rwa [ofInt_toInt_small h0 h1]
  · rwa [ofInt_toInt_small h0 h1]
  · rw [ht]
    exact_mod_cast hcover
  · rw [ht]
    exact_mod_cast hover

/-- A context that has counted `axleCount` axles and seen sensor 2 at `t2`. -/
def measuredContext (axleCount : UInt8) (t1 t2 : UInt32) : Globals :=
  ⟨⟨.tracking, t1, t2, true, axleCount, ⟨true, some 500⟩⟩, 500⟩

/-- One metre in 120 ms, 30 km/h. -/
theorem stop_timeout_covers_simVehicle :
    ∃ t : Int32, computeTimeout .kconfig none (measuredContext 1 0 120) =
        some { measuredContext 1 0 120 with radarStopTimeout := t } ∧
      0 ≤ t.toInt ∧ t.toInt ≤ 18000 ∧ (5000 * 120 / 1000 : ℕ) ≤ t.toInt ∧
      (1000 : Int) * t.toInt < 10000 * 120 :=
  @stop_timeout_covers .kconfig none (measuredContext 1 0 120) 30 (by decide) (by decide) (by decide)
    (by decide)

end Radar
