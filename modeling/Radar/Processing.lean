import Radar.Base.CArith
import Radar.Base.StepMachine
import Radar.Sensor
import Radar.Display

/-!
# `radar_processing.c`

The functions of the file as state transformers on its two globals, `ctx` and `radar_stop_timeout`,
together with the calls they make to the outside (`Action`). Names are the source's in camel case;
`vehicleTypeOf`, `limitKmhOf` and `statusOf` are the three decisions inside `compute_vehicle_status`,
`Globals.Noise` its first test, and `Globals.boot` is what the loader leaves. The only C operations without a defined
result are the two divisions. A function that divides takes `undef`, the value the undefined division
is taken to leave: with `some v` the run goes on with `v`, with `none` it stops there. So a run whose
every step has `undef = none` goes through exactly as long as no divisor is zero.

`machine` is the whole file: it reads sensor events and firings of `finalize_work`.
-/

namespace Radar

/-- The Kconfig values. `sensorDistanceMm` is `CONFIG_RADAR_SENSOR_DISTANCE_MM` as stored in a
`uint32_t`. -/
structure Config where
  sensorDistanceMm : UInt32
  speedLimitLightKmh : Int32
  speedLimitHeavyKmh : Int32
  warningThresholdPercent : Int32
deriving DecidableEq, Repr

def Config.kconfig : Config := ⟨1000, 80, 60, 90⟩

def vehicleLengthMm : Int := 5000

inductive VehicleTrackState where
  | idle
  | tracking
deriving DecidableEq, Repr

/-- `struct k_work_delayable`, as far as the file uses it: whether `k_work_init_delayable` gave it its
handler, and the delay in milliseconds it is pending with. -/
structure KWorkDelayable where
  initialised : Bool
  pending : Option Int32
deriving DecidableEq, Repr

structure VehicleContext where
  state : VehicleTrackState
  startTimeMs : UInt32
  sensor2TimeMs : UInt32
  sensor2Seen : Bool
  axleCount : UInt8
  finalizeWork : KWorkDelayable
deriving DecidableEq, Repr

structure Globals where
  ctx : VehicleContext
  radarStopTimeout : Int32
deriving DecidableEq, Repr

def Globals.boot : Globals := ⟨⟨.idle, 0, 0, false, 0, ⟨false, none⟩⟩, 500⟩

/-- Calls out of the file: `k_work_reschedule(&ctx.finalize_work, K_MSEC(delay))`,
`radar_display_show` and `handler_plate_infraction`. -/
inductive Action where
  | reschedule (delayMs : Int32)
  | display (disp : RadarDisplayData)
  | capture
deriving DecidableEq, Repr

/-! ### The functions of the file -/

@[simp] def vehicleContextReset (g : Globals) : Globals :=
  { ctx := { g.ctx with state := .idle, axleCount := 0, startTimeMs := 0 }, radarStopTimeout := 500 }

def computeSpeedKmh (distanceMm deltaMs : UInt32) : Option Int32 :=
  if deltaMs = 0 then some 0
  else (CArith.udiv (distanceMm * 36) (deltaMs * 10)).map UInt32.toInt32

/-- The right-hand side of the assignment in `compute_timeout`. -/
def stopTimeout (distanceMm deltaMs : UInt32) : Option Int32 := do
  let speedKmh ← computeSpeedKmh distanceMm deltaMs
  let timeout ← CArith.sdiv (vehicleLengthMm * 3600) (speedKmh.toInt * 1000)
  return Int32.ofInt timeout

def computeTimeout (cfg : Config) (undef : Option Int32) (g : Globals) : Option Globals := do
  let deltaMs := g.ctx.sensor2TimeMs - g.ctx.startTimeMs
  let timeout ← stopTimeout cfg.sensorDistanceMm deltaMs <|> undef
  return { g with radarStopTimeout := timeout }

@[simp] def initContext (g : Globals) (evt : SensorEvent) : Globals :=
  { g with ctx := { g.ctx with
      state := .tracking, axleCount := 1, startTimeMs := evt.timestampMs, sensor2Seen := false } }

@[simp] def addAxle (g : Globals) : Globals :=
  { g with ctx := { g.ctx with axleCount := g.ctx.axleCount + 1 } }

@[simp] def registerTimestampSensor2 (g : Globals) (evt : SensorEvent) : Globals :=
  { g with ctx := { g.ctx with sensor2Seen := true, sensor2TimeMs := evt.timestampMs } }

def vehicleTypeOf (axleCount : UInt8) : VehicleType := if axleCount ≥ 3 then .heavy else .light

def limitKmhOf (cfg : Config) (vtype : VehicleType) : Int32 :=
  if vtype = .light then cfg.speedLimitLightKmh else cfg.speedLimitHeavyKmh

/-- `status` of `compute_vehicle_status`. The product is an `int` product; where it overflows, which C
leaves undefined, it wraps here. -/
def statusOf (cfg : Config) (speedKmh limitKmh : Int32) : RadarInfractionStatus :=
  let warningSpeed := limitKmh * cfg.warningThresholdPercent / 100
  if speedKmh > limitKmh then .infraction
  else if speedKmh ≥ warningSpeed then .warning
  else .normal

/-- The record `compute_vehicle_status` builds from the counted axles, the elapsed time and the
speed. -/
def displayData (cfg : Config) (axleCount : UInt8) (deltaMs : UInt32) (speedKmh : Int32) :
    RadarDisplayData :=
  let vtype := vehicleTypeOf axleCount
  let limitKmh := limitKmhOf cfg vtype
  { type := vtype
    axleCount := axleCount
    deltaMs := deltaMs
    measuredSpeedKmh := speedKmh
    limitKmh := limitKmh
    status := statusOf cfg speedKmh limitKmh }

def Globals.Noise (g : Globals) : Prop :=
  g.ctx.sensor2Seen = false ∨ g.ctx.state ≠ .tracking ∨ g.ctx.axleCount = 1

instance (g : Globals) : Decidable g.Noise := inferInstanceAs (Decidable (_ ∨ _ ∨ _))

/-- `compute_vehicle_status`, from the content of `*disp` to the return value and the new content. -/
def computeVehicleStatus (cfg : Config) (undef : Option Int32) (g : Globals)
    (disp : RadarDisplayData) : Option (Globals × Int32 × RadarDisplayData) :=
  if g.Noise then some (vehicleContextReset g, -1, disp)
  else do
    let deltaMs := g.ctx.sensor2TimeMs - g.ctx.startTimeMs
    let speedKmh ← computeSpeedKmh cfg.sensorDistanceMm deltaMs <|> undef
    return (g, 0, displayData cfg g.ctx.axleCount deltaMs speedKmh)

/-- `finalize_vehicle_work` up to its last line; `disp` is what the stack variable holds on entry. -/
def finalizeReport (cfg : Config) (undef : Option Int32) (disp : RadarDisplayData) (g : Globals) :
    Option (Globals × List Action) := do
  let (g, ret, disp) ← computeVehicleStatus cfg undef g disp
  let shown := if ret = 0 then [.display disp] else []
  let captured := if disp.status = .infraction then [.capture] else []
  return (g, shown ++ captured)

def finalizeVehicleWork (cfg : Config) (undef : Option Int32) (disp : RadarDisplayData)
    (g : Globals) : Option (Globals × List Action) := do
  let (g, acts) ← finalizeReport cfg undef disp g
  return (vehicleContextReset g, acts)

/-- `k_work_reschedule(&ctx.finalize_work, K_MSEC(radar_stop_timeout))`. -/
@[simp] def kWorkReschedule (g : Globals) : Globals × List Action :=
  ({ g with ctx := { g.ctx with
      finalizeWork := { g.ctx.finalizeWork with pending := some g.radarStopTimeout } } },
    [.reschedule g.radarStopTimeout])

/-- `radar_process_sensor_event`; `evt` is `none` for a null pointer. -/
def radarProcessSensorEvent (cfg : Config) (undef : Option Int32) (g : Globals)
    (evt : Option SensorEvent) : Option (Globals × List Action) :=
  match evt with
  | none => some (g, [])
  | some evt =>
    match g.ctx.state with
    | .idle =>
      if evt.Rise 1 then some (kWorkReschedule (initContext g evt)) else some (g, [])
    | .tracking => do
      let (g, acts) := if evt.Rise 1 then kWorkReschedule (addAxle g) else (g, [])
      if evt.Rise 2 ∧ g.ctx.sensor2Seen = false then
        let g ← computeTimeout cfg undef (registerTimestampSensor2 g evt)
        return (g, acts)
      else
        return (g, acts)

def radarProcessingInit (g : Globals) : Globals :=
  let g := vehicleContextReset g
  { g with ctx := { g.ctx with finalizeWork := ⟨true, none⟩ } }

/-- The state the file is in once `radar_processing_init` has run. -/
def initial : Globals := radarProcessingInit .boot

/-! ### The file as a machine -/

/-- What the machine reads: a call of `radar_process_sensor_event`, or the work queue's attempt to run
`finalize_work` with `disp` on the handler's stack. -/
inductive Input where
  | event (evt : Option SensorEvent) (undef : Option Int32)
  | fire (disp : RadarDisplayData) (undef : Option Int32)
deriving DecidableEq, Repr

/-- The event an input hands over. -/
def Input.sensorEvent : Input → Option SensorEvent
  | .event evt _ => evt
  | .fire _ _ => none

/-- The work queue takes the work item before it calls the handler. -/
@[simp] def takeWork (g : Globals) : Globals :=
  { g with ctx := { g.ctx with finalizeWork := { g.ctx.finalizeWork with pending := none } } }

/-- One input. The work queue runs the handler only of a pending work item. -/
def step (cfg : Config) (g : Globals) : Input → Option (Globals × List Action)
  | .event evt undef => radarProcessSensorEvent cfg undef g evt
  | .fire disp undef =>
    if g.ctx.finalizeWork.pending.isSome then finalizeVehicleWork cfg undef disp (takeWork g)
    else some (g, [])

/-- `radar_processing.c`, with atomic firings of `finalize_work`. -/
def machine (cfg : Config) : StepMachine Globals Input Action := ⟨step cfg⟩

/-- An input on which an undefined division stops the run. -/
def Input.Strict : Input → Prop
  | .event _ undef => undef = none
  | .fire _ undef => undef = none

instance : DecidablePred Input.Strict := fun x => by cases x <;> exact inferInstanceAs (Decidable (_ = _))

/-- The events of `emit_vehicle(2, 120)`, sent from time `t` on. -/
def simVehicle (t : UInt32) : List Input :=
  [.event (some ⟨1, 1, t⟩) none, .event (some ⟨2, 1, t + 120⟩) none,
    .event (some ⟨1, 1, t + 120⟩) none, .event (some ⟨2, 1, t + 240⟩) none]

end Radar
