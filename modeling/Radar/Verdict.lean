import Mathlib.Algebra.Order.Field.Rat
import Mathlib.Tactic.Linarith
import Radar.Grade
import Radar.Measurement

/-!
# Verdicts

The decision of `compute_vehicle_status` against the exact average speed. Where no product overflows,
the status is the grade of the exact integer speed between the warning threshold and the limit, both
as integers (`statusOf_eq_grade`); a floor is at least `k` exactly when the exact quotient is, so the
cut-offs fall at `10 * d * (L + 1)` and `10 * d * ⌊L * p / 100⌋` (`verdict_exact`). That grades are
monotone in the value and antitone in both thresholds compares two vehicles (`verdict_monotone`).
-/

namespace Radar

/-! ### The decision over the integers -/

/-- The configurations whose decision meets no overflow. -/
structure Config.Regular (cfg : Config) : Prop where
  light_nonneg : 0 ≤ cfg.speedLimitLightKmh.toInt
  heavy_nonneg : 0 ≤ cfg.speedLimitHeavyKmh.toInt
  percent_pos : 1 ≤ cfg.warningThresholdPercent.toInt
  percent_le : cfg.warningThresholdPercent.toInt ≤ 100
  light_product : cfg.speedLimitLightKmh.toInt * cfg.warningThresholdPercent.toInt < 2 ^ 31
  heavy_product : cfg.speedLimitHeavyKmh.toInt * cfg.warningThresholdPercent.toInt < 2 ^ 31
  distance_product : 36 * cfg.sensorDistanceMm.toNat < 2 ^ 32

theorem regular_kconfig : Config.kconfig.Regular := by
  constructor <;> decide

/-- The limit for a vehicle with so many axles, as an integer. -/
def Config.limit (cfg : Config) (axleCount : UInt8) : Int :=
  if 3 ≤ axleCount then cfg.speedLimitHeavyKmh.toInt else cfg.speedLimitLightKmh.toInt

def Config.warning (cfg : Config) (axleCount : UInt8) : Int :=
  cfg.limit axleCount * cfg.warningThresholdPercent.toInt / 100

/-- The code takes the limit of the type. -/
theorem toInt_limitKmhOf (cfg : Config) (axleCount : UInt8) :
    (limitKmhOf cfg (vehicleTypeOf axleCount)).toInt = cfg.limit axleCount := by
  unfold Config.limit limitKmhOf vehicleTypeOf
  split_ifs <;> simp_all

section Regular

variable {cfg : Config} (hcfg : cfg.Regular) (axleCount : UInt8)
include hcfg

theorem Config.Regular.limit_nonneg : 0 ≤ cfg.limit axleCount := by
  unfold Config.limit
  split_ifs
  · exact hcfg.heavy_nonneg
  · exact hcfg.light_nonneg

theorem Config.Regular.product_lt :
    cfg.limit axleCount * cfg.warningThresholdPercent.toInt < 2 ^ 31 := by
  unfold Config.limit
  split_ifs
  · exact hcfg.heavy_product
  · exact hcfg.light_product

theorem Config.Regular.warning_nonneg : 0 ≤ cfg.warning axleCount :=
  Int.ediv_nonneg (Int.mul_nonneg (hcfg.limit_nonneg axleCount) (by have := hcfg.percent_pos; omega))
    (by norm_num)

/-- `warning_speed` of the code is the floor of the exact product. -/
theorem Config.Regular.toInt_warning :
    (limitKmhOf cfg (vehicleTypeOf axleCount) * cfg.warningThresholdPercent / 100).toInt =
      cfg.warning axleCount := by
  have hL := hcfg.limit_nonneg axleCount
  have hprod := hcfg.product_lt axleCount
  have hnonneg : 0 ≤ cfg.limit axleCount * cfg.warningThresholdPercent.toInt :=
    Int.mul_nonneg hL (by have := hcfg.percent_pos; omega)
  have hmul : (limitKmhOf cfg (vehicleTypeOf axleCount) * cfg.warningThresholdPercent).toInt =
      cfg.limit axleCount * cfg.warningThresholdPercent.toInt := by
    rw [Int32.toInt_mul, toInt_limitKmhOf, Int.bmod_eq_of_le]
    · show -(2 ^ 32 / 2) ≤ cfg.limit axleCount * cfg.warningThresholdPercent.toInt
      omega
    · show cfg.limit axleCount * cfg.warningThresholdPercent.toInt < (2 ^ 32 + 1) / 2
      omega
  rw [Int32.toInt_div_of_ne_right _ _ (by decide), hmul, Int.tdiv_eq_ediv_of_nonneg hnonneg]
  rfl

/-- Without overflow the status is the grade of the speed. -/
theorem statusOf_eq_grade (speedKmh : Int32) :
    statusOf cfg speedKmh (limitKmhOf cfg (vehicleTypeOf axleCount)) =
      grade (cfg.limit axleCount) (cfg.warning axleCount) speedKmh.toInt := by
  rw [statusOf_eq, toInt_limitKmhOf, hcfg.toInt_warning axleCount]

end Regular

/-! ### The cut-offs -/

/-- The status for `D` mm in `d` ms under the limit `L` and the warning threshold `W`, with the cut-offs on
the exact products. -/
structure CutOffs (D d : ℕ) (L W : ℤ) (status : RadarInfractionStatus) : Prop where
  infraction_iff : status = .infraction ↔ 10 * d * (L + 1) ≤ 36 * D
  warning_iff : status = .warning ↔ 10 * d * W ≤ 36 * D ∧ 36 * D < 10 * d * (L + 1)
  normal_iff : status = .normal ↔ ¬ 10 * d * (L + 1) ≤ 36 * D ∧
    ¬ (10 * d * W ≤ 36 * D ∧ 36 * D < 10 * d * (L + 1))

section CutOffs

variable {D d : ℕ} {L W : ℤ} {status : RadarInfractionStatus}

/-- A floor is at least `k` exactly when the quotient is. -/
theorem le_speed_iff (hd : 0 < d) (k : ℤ) : k ≤ (36 * D / (10 * d) : ℕ) ↔ 10 * d * k ≤ 36 * D := by
  rw [Int.natCast_ediv, Int.le_ediv_iff_mul_le (by omega), Int.mul_comm k]
  push_cast
  rfl

theorem cutOffs_grade (hd : 0 < d) :
    CutOffs D d L W (grade L W ((36 * D / (10 * d) : ℕ) : ℤ)) := by
  have hinf := @le_speed_iff D d hd (L + 1)
  have hwarn := @le_speed_iff D d hd W
  refine ⟨?_, ?_, ?_⟩
  · rw [grade_infraction, ← hinf, Int.add_one_le_iff]
  · rw [grade_warning, ← hwarn, ← not_le, ← hinf, not_le, Int.lt_add_one_iff]
  · rw [grade_normal, ← hwarn, ← not_le (a := 10 * (d : ℤ) * (L + 1)), ← hinf]
    omega

/-- A vehicle whose average speed does not exceed the limit is not flagged. -/
theorem CutOffs.not_infraction (h : CutOffs D d L W status) (hd : 0 < d)
    (hle : (36 * D : ℚ) / (10 * d) ≤ L) : status ≠ .infraction := by
  intro hinf
  have hcut := h.infraction_iff.mp hinf
  rw [div_le_iff₀ (by positivity)] at hle
  have hle' : (36 * D : ℤ) ≤ L * (10 * d) := by exact_mod_cast hle
  nlinarith

/-- A vehicle at least 1 km/h above the limit is flagged. -/
theorem CutOffs.infraction (h : CutOffs D d L W status) (hd : 0 < d)
    (hge : (L + 1 : ℚ) ≤ (36 * D : ℚ) / (10 * d)) : status = .infraction := by
  rw [le_div_iff₀ (by positivity)] at hge
  have hge' : (L + 1) * (10 * d) ≤ (36 * D : ℤ) := by exact_mod_cast hge
  rw [h.infraction_iff]
  linarith

end CutOffs

/-! ### Contexts -/

/-- A context `compute_vehicle_status` takes for a vehicle. -/
structure Globals.Measured (g : Globals) : Prop where
  tracking : g.ctx.state = .tracking
  sensor2Seen : g.ctx.sensor2Seen = true
  two_axles : 2 ≤ g.ctx.axleCount

variable {cfg : Config} {g g₁ g₂ : Globals} {v : Int32}

theorem Globals.Measured.not_noise (hg : g.Measured) : ¬ g.Noise := by
  rintro (hseen | hstate | hone)
  · rw [hg.sensor2Seen] at hseen
    cases hseen
  · exact hstate hg.tracking
  · have htwo := hg.two_axles
    rw [hone] at htwo
    exact absurd htwo (by decide)

theorem computeVehicleStatus_measured (undef : Option Int32) (disp : RadarDisplayData)
    (hg : g.Measured) (hs : computeSpeedKmh cfg.sensorDistanceMm g.deltaMs = some v) :
    computeVehicleStatus cfg undef g disp =
      some (g, 0, displayData cfg g.ctx.axleCount g.deltaMs v) := by
  unfold Globals.deltaMs at hs ⊢
  simp [computeVehicleStatus, hg.not_noise, hs]

theorem displayData_status (hcfg : cfg.Regular) (axleCount : UInt8) (δ : UInt32) :
    (displayData cfg axleCount δ v).status =
      grade (cfg.limit axleCount) (cfg.warning axleCount) v.toInt :=
  statusOf_eq_grade hcfg axleCount v

/-- **The verdict is sound and tight against the exact average speed.** -/
theorem verdict_exact (hcfg : cfg.Regular) (hg : g.Measured) (hpos : 1 ≤ g.deltaMs.toNat)
    (hδ : 10 * g.deltaMs.toNat < 2 ^ 32) (undef : Option Int32) (disp : RadarDisplayData) :
    ∃ out, computeVehicleStatus cfg undef g disp = some (g, 0, out) ∧
      CutOffs cfg.sensorDistanceMm.toNat g.deltaMs.toNat (cfg.limit g.ctx.axleCount)
        (cfg.warning g.ctx.axleCount) out.status ∧
      ((36 * cfg.sensorDistanceMm.toNat : ℚ) / (10 * g.deltaMs.toNat) ≤ cfg.limit g.ctx.axleCount →
        out.status ≠ .infraction) ∧
      ((cfg.limit g.ctx.axleCount + 1 : ℚ) ≤
          (36 * cfg.sensorDistanceMm.toNat : ℚ) / (10 * g.deltaMs.toNat) →
        out.status = .infraction) := by
  obtain ⟨s, hs, hquot⟩ := computeSpeedKmh_unwrapped hcfg.distance_product hpos hδ
  have hcut : CutOffs cfg.sensorDistanceMm.toNat g.deltaMs.toNat (cfg.limit g.ctx.axleCount)
      (cfg.warning g.ctx.axleCount) (displayData cfg g.ctx.axleCount g.deltaMs s).status := by
    rw [displayData_status hcfg, hquot]
    exact cutOffs_grade hpos
  exact ⟨_, computeVehicleStatus_measured undef disp hg hs, hcut, hcut.not_infraction hpos,
    hcut.infraction hpos⟩

/-- The simulated vehicle, at 30 km/h under a limit of 80 km/h. -/
theorem verdict_exact_simVehicle :
    ∃ out, computeVehicleStatus .kconfig none (measuredContext 2 0 120) ⟨.light, 0, 0, 0, 0, .normal⟩ =
        some (measuredContext 2 0 120, 0, out) ∧
      out.status = .normal := by
  obtain ⟨out, hout, hcut, -⟩ := @verdict_exact .kconfig (measuredContext 2 0 120) regular_kconfig
    ⟨rfl, rfl, by decide⟩ (by decide) (by decide) none ⟨.light, 0, 0, 0, 0, .normal⟩
  exact ⟨out, hout, hcut.normal_iff.mpr (by decide)⟩

/-! ### Two vehicles -/

/-- Also at `delta_ms = 0`, where both sides are 0. -/
theorem computeSpeedKmh_total {D δ : UInt32} (hD : 36 * D.toNat < 2 ^ 32) (hδ : 10 * δ.toNat < 2 ^ 32) :
    ∃ s, computeSpeedKmh D δ = some s ∧ s.toInt = (36 * D.toNat / (10 * δ.toNat) : ℕ) := by
  by_cases hzero : δ = 0
  · refine ⟨0, by rw [hzero, computeSpeedKmh_zero], ?_⟩
    rw [hzero, UInt32.toNat_zero, Nat.mul_zero, Nat.div_zero]
    rfl
  · exact computeSpeedKmh_unwrapped hD (CArith.toNat_pos hzero) hδ

/-- More axles never raise the limit. -/
theorem limit_antitone {a₁ a₂ : UInt8} (horder : cfg.speedLimitHeavyKmh.toInt ≤ cfg.speedLimitLightKmh.toInt)
    (ha : a₁ ≤ a₂) : cfg.limit a₂ ≤ cfg.limit a₁ := by
  unfold Config.limit
  by_cases h₁ : 3 ≤ a₁
  · rw [if_pos h₁, if_pos (UInt8.le_trans h₁ ha)]
  · rw [if_neg h₁]
    split_ifs
    · exact horder
    · exact le_refl _

theorem warning_antitone {a₁ a₂ : UInt8} (hcfg : cfg.Regular)
    (horder : cfg.speedLimitHeavyKmh.toInt ≤ cfg.speedLimitLightKmh.toInt) (ha : a₁ ≤ a₂) :
    cfg.warning a₂ ≤ cfg.warning a₁ := by
  have hp := hcfg.percent_pos
  apply Int.ediv_le_ediv (by norm_num)
  exact Int.mul_le_mul_of_nonneg_right (limit_antitone horder ha) (by omega)

/-- At speed 0 only a zero threshold warns. -/
theorem grade_zero (hcfg : cfg.Regular) (a : UInt8) :
    grade (cfg.limit a) (cfg.warning a) 0 = if cfg.warning a = 0 then .warning else .normal := by
  have hL := hcfg.limit_nonneg a
  have hW := hcfg.warning_nonneg a
  unfold grade
  rw [if_neg (by omega)]
  by_cases hzero : cfg.warning a = 0
  · rw [if_pos (by omega), if_pos hzero]
  · rw [if_neg (by omega), if_neg hzero]

/-- **A faster or heavier vehicle is judged no more leniently**, unless only its sensors fired in the same
millisecond; such a vehicle is judged at speed 0. -/
theorem verdict_monotone (hcfg : cfg.Regular)
    (horder : cfg.speedLimitHeavyKmh.toInt ≤ cfg.speedLimitLightKmh.toInt)
    (h₁ : g₁.Measured) (h₂ : g₂.Measured) (haxles : g₁.ctx.axleCount ≤ g₂.ctx.axleCount)
    (hdelta : g₂.deltaMs ≤ g₁.deltaMs) (hδ : 10 * g₁.deltaMs.toNat < 2 ^ 32)
    (undef₁ undef₂ : Option Int32) (disp₁ disp₂ : RadarDisplayData) :
    ∃ out₁ out₂, computeVehicleStatus cfg undef₁ g₁ disp₁ = some (g₁, 0, out₁) ∧
      computeVehicleStatus cfg undef₂ g₂ disp₂ = some (g₂, 0, out₂) ∧
      ((g₂.deltaMs = 0 → g₁.deltaMs = 0) → out₁.status.severity ≤ out₂.status.severity) ∧
      (g₂.deltaMs = 0 → out₂.measuredSpeedKmh = 0 ∧
        out₂.status = if cfg.warning g₂.ctx.axleCount = 0 then .warning else .normal) := by
  have hle : g₂.deltaMs.toNat ≤ g₁.deltaMs.toNat := UInt32.le_iff_toNat_le.mp hdelta
  obtain ⟨s₁, hs₁, hq₁⟩ := computeSpeedKmh_total hcfg.distance_product hδ
  obtain ⟨s₂, hs₂, hq₂⟩ := @computeSpeedKmh_total _ g₂.deltaMs hcfg.distance_product (by omega)
  refine ⟨_, _, computeVehicleStatus_measured undef₁ disp₁ h₁ hs₁,
    computeVehicleStatus_measured undef₂ disp₂ h₂ hs₂, ?_, ?_⟩
  · intro hzero
    have hspeed : s₁.toInt ≤ s₂.toInt := by
      rw [hq₁, hq₂, Int.ofNat_le]
      by_cases h0 : g₂.deltaMs = 0
      · rw [hzero h0, h0]
      · have hpos := CArith.toNat_pos h0
        exact Nat.div_le_div_left (by omega) (by omega)
    rw [displayData_status hcfg, displayData_status hcfg]
    exact grade_mono hspeed (limit_antitone horder haxles) (warning_antitone hcfg horder haxles)
  · intro h0
    rw [h0, computeSpeedKmh_zero, Option.some.injEq] at hs₂
    subst hs₂
    rw [displayData_status hcfg]
    exact ⟨rfl, grade_zero hcfg _⟩

/-- A light vehicle at 30 km/h and a heavy one at 90 km/h. -/
theorem verdict_monotone_heavy :
    ∃ out₁ out₂, computeVehicleStatus .kconfig none (measuredContext 2 0 120)
        ⟨.light, 0, 0, 0, 0, .normal⟩ = some (measuredContext 2 0 120, 0, out₁) ∧
      computeVehicleStatus .kconfig none (measuredContext 3 0 40) ⟨.light, 0, 0, 0, 0, .normal⟩ =
        some (measuredContext 3 0 40, 0, out₂) ∧
      out₁.status.severity ≤ out₂.status.severity := by
  obtain ⟨out₁, out₂, hout₁, hout₂, hle, -⟩ := @verdict_monotone .kconfig (measuredContext 2 0 120)
    (measuredContext 3 0 40) regular_kconfig (by decide) ⟨rfl, rfl, by decide⟩ ⟨rfl, rfl, by decide⟩
    (by decide) (by decide) (by decide) none none ⟨.light, 0, 0, 0, 0, .normal⟩
    ⟨.light, 0, 0, 0, 0, .normal⟩
  exact ⟨out₁, out₂, hout₁, hout₂, hle (by decide)⟩

/-- Two axles in 20 ms are an infraction, the same in 0 ms are not. -/
theorem same_millisecond_lenient :
    ¬ ∀ (cfg : Config) (g₁ g₂ : Globals) (undef : Option Int32) (disp : RadarDisplayData), cfg.Regular →
      cfg.speedLimitHeavyKmh.toInt ≤ cfg.speedLimitLightKmh.toInt → 1 ≤ cfg.sensorDistanceMm →
      g₁.Measured → g₂.Measured → g₁.ctx.axleCount ≤ g₂.ctx.axleCount → g₂.deltaMs ≤ g₁.deltaMs →
      ∃ out₁ out₂, computeVehicleStatus cfg undef g₁ disp = some (g₁, 0, out₁) ∧
        computeVehicleStatus cfg undef g₂ disp = some (g₂, 0, out₂) ∧
        out₁.status.severity ≤ out₂.status.severity := by
  intro h
  obtain ⟨out₁, out₂, hout₁, hout₂, hle⟩ := h .kconfig (measuredContext 2 0 20) (measuredContext 2 0 0)
    none ⟨.light, 0, 0, 0, 0, .normal⟩ regular_kconfig (by decide) (by decide) ⟨rfl, rfl, by decide⟩
    ⟨rfl, rfl, by decide⟩ (by decide) (by decide)
  have hfast : computeVehicleStatus .kconfig none (measuredContext 2 0 20) ⟨.light, 0, 0, 0, 0, .normal⟩ =
      some (measuredContext 2 0 20, 0, ⟨.light, 2, 20, 180, 80, .infraction⟩) := by decide
  have hzero : computeVehicleStatus .kconfig none (measuredContext 2 0 0) ⟨.light, 0, 0, 0, 0, .normal⟩ =
      some (measuredContext 2 0 0, 0, ⟨.light, 2, 0, 0, 80, .normal⟩) := by decide
  simp only [hfast, Option.some.injEq, Prod.mk.injEq, true_and] at hout₁
  simp only [hzero, Option.some.injEq, Prod.mk.injEq, true_and] at hout₂
  rw [← hout₁, ← hout₂] at hle
  exact absurd hle (by decide)

end Radar
