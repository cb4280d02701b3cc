import Mathlib.Data.Nat.Basic

/-!
# Sensor events

`struct sensor_event` of `sensor.h`: which magnetic sensor reported, its level, and the uptime in
milliseconds at which `sensor_send_event` read the clock.
-/

namespace Radar

/-- `struct sensor_event`. -/
structure SensorEvent where
  sensorId : UInt8
  level : UInt8
  timestampMs : UInt32
deriving DecidableEq, Repr

/-- The test `evt->sensor_id == id && evt->level == 1` of the processing code. -/
def SensorEvent.Rise (evt : SensorEvent) (id : UInt8) : Prop := evt.sensorId = id ∧ evt.level = 1

instance (evt : SensorEvent) (id : UInt8) : Decidable (evt.Rise id) :=
  inferInstanceAs (Decidable (_ ∧ _))

/-- One event is not a rise of both sensors. -/
theorem SensorEvent.Rise.not_two {evt : SensorEvent} (h : evt.Rise 1) : ¬ evt.Rise 2 := by
  rintro ⟨h2, -⟩
  have h12 : (1 : UInt8) = 2 := h.1.symm.trans h2
  exact absurd h12 (by decide)

end Radar
