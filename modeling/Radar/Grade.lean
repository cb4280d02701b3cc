import Mathlib.Order.Defs.LinearOrder
import Mathlib.Tactic.SplitIfs
import Radar.Processing

/-!
# Grades

What a report has to say, stated without the code: a vehicle is heavy from three axles on, each type has
its limit, and a value is graded against a limit and a warning threshold. Grades are monotone in the value
and antitone in both thresholds (`grade_mono`).

`displayData_eq_record` links the record that `compute_vehicle_status` builds to this one, once for all the
modules that say which reports are due.
-/

namespace Radar

/-! ### Values against thresholds -/

section Grade

variable {α : Type*} [LinearOrder α] {limit limit' warn warn' v v' : α}

/-- A value against a limit and a warning threshold. -/
def grade (limit warn v : α) : RadarInfractionStatus :=
  if limit < v then .infraction else if warn ≤ v then .warning else .normal

theorem grade_infraction : grade limit warn v = .infraction ↔ limit < v := by
  unfold grade
  split_ifs <;> simp_all

theorem grade_warning : grade limit warn v = .warning ↔ warn ≤ v ∧ v ≤ limit := by
  unfold grade
  split_ifs <;> simp_all

theorem grade_normal : grade limit warn v = .normal ↔ v < warn ∧ v ≤ limit := by
  unfold grade
  split_ifs <;> simp_all

/-- The enumerators of `enum radar_infraction_status`, in the order of severity. -/
def RadarInfractionStatus.severity : RadarInfractionStatus → ℕ
  | .normal => 0
  | .warning => 1
  | .infraction => 2
  | .other raw => raw.toNat

/-- **A larger value against lower thresholds is graded no more leniently.** -/
theorem grade_mono (hv : v ≤ v') (hlimit : limit' ≤ limit) (hwarn : warn' ≤ warn) :
    (grade limit warn v).severity ≤ (grade limit' warn' v').severity := by
  unfold grade
  by_cases hinf : limit < v
  · have hinf' : limit' < v' := lt_of_le_of_lt hlimit (lt_of_lt_of_le hinf hv)
    rw [if_pos hinf, if_pos hinf']
  · rw [if_neg hinf]
    by_cases hw : warn ≤ v
    · have hw' : warn' ≤ v' := hwarn.trans (hw.trans hv)
      rw [if_pos hw, if_pos hw']
      split_ifs <;> decide
    · rw [if_neg hw]
      exact Nat.zero_le _

end Grade

/-! ### The record of a vehicle -/

/-- The record of a vehicle with so many axles, by its elapsed time and speed. The warning threshold is an
`int`, in which the product may wrap and the quotient is truncated. -/
def Config.record (cfg : Config) (axles : ℕ) (deltaMs : UInt32) (speedKmh : Int32) : RadarDisplayData :=
  let type := if 3 ≤ axles then VehicleType.heavy else .light
  let limit := if 3 ≤ axles then cfg.speedLimitHeavyKmh else cfg.speedLimitLightKmh
  let warning := limit * cfg.warningThresholdPercent / 100
  { type := type
    axleCount := UInt8.ofNat axles
    deltaMs := deltaMs
    measuredSpeedKmh := speedKmh
    limitKmh := limit
    status := grade limit.toInt warning.toInt speedKmh.toInt }

variable {cfg : Config}

/-- The code grades the speed. -/
theorem statusOf_eq (speedKmh limitKmh : Int32) :
    statusOf cfg speedKmh limitKmh =
      grade limitKmh.toInt (limitKmh * cfg.warningThresholdPercent / 100).toInt speedKmh.toInt := by
  unfold statusOf grade
  simp only [gt_iff_lt, ge_iff_le, Int32.lt_iff_toInt_lt, Int32.le_iff_toInt_le]

theorem vehicleTypeOf_ofNat {n : ℕ} (hn : n ≤ 255) :
    vehicleTypeOf (UInt8.ofNat n) = if 3 ≤ n then .heavy else .light := by
  have hge : UInt8.ofNat n ≥ 3 ↔ 3 ≤ n := by
    rw [ge_iff_le, UInt8.le_iff_toNat_le, UInt8.toNat_ofNat_of_lt' (by simp [UInt8.size]; omega)]
    rfl
  simp only [vehicleTypeOf, hge]

theorem limitKmhOf_type (cfg : Config) (n : ℕ) :
    limitKmhOf cfg (if 3 ≤ n then .heavy else .light) =
      if 3 ≤ n then cfg.speedLimitHeavyKmh else cfg.speedLimitLightKmh := by
  split_ifs <;> rfl

/-- Up to 255 axles `compute_vehicle_status` builds the record of the vehicle. -/
theorem displayData_eq_record {axles : ℕ} (hn : axles ≤ 255) (deltaMs : UInt32) (speedKmh : Int32) :
    displayData cfg (UInt8.ofNat axles) deltaMs speedKmh = cfg.record axles deltaMs speedKmh := by
  simp only [displayData, Config.record, vehicleTypeOf_ofNat hn, limitKmhOf_type, statusOf_eq]

end Radar
