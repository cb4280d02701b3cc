import Mathlib.Data.Nat.Basic

/-!
# Report data

The enumerations and `struct radar_display_data` of `radar_display.h`.
-/

namespace Radar

/-- `enum vehicle_type`. -/
inductive VehicleType where
  | light
  | heavy
deriving DecidableEq, Repr

/-- `enum radar_infraction_status`. A C object of the type can hold other values than the three
enumerators (`status_str` has a branch for them); `other` stands for these. -/
inductive RadarInfractionStatus where
  | normal
  | warning
  | infraction
  | other (raw : UInt32)
deriving DecidableEq, Repr

/-- `struct radar_display_data`. -/
structure RadarDisplayData where
  type : VehicleType
  axleCount : UInt8
  deltaMs : UInt32
  measuredSpeedKmh : Int32
  limitKmh : Int32
  status : RadarInfractionStatus
deriving DecidableEq, Repr

end Radar
