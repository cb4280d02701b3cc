import Radar.Atomic
import Radar.Exchange
import Radar.Show
import Radar.Startup

/-!
# The whole firmware

`main`, the interrupt handler, the simulation, `sensor_thread`, the work queue and `camera_thread`, in any
interleaving of their steps. A call of `radar_process_sensor_event` is one step, and so are the expiry of
`finalize_work` and the start of its handler. The work queue runs `finalize_vehicle_work` in two moves.
`report` comes to its last line or, if the record in `disp` is an infraction, into
`handler_plate_infraction`; `reset` is the last line and waits for the handler. Whatever else moves
meanwhile finds the context as the report left it.
-/

namespace Radar

/-- What the device tree and the display driver answer to `radar_display_init`. -/
structure DisplayDriver where
  displayLabel : Bool
  deviceGetBinding : Bool
  deviceIsReady : Bool
deriving DecidableEq, Repr

/-- `radar_display_init`: what it returns, and whether `disp_dev` is bound then. -/
def radarDisplayInit (driver : DisplayDriver) : Int32 × Bool :=
  if driver.displayLabel = false then (-enodev, false)
  else if driver.deviceGetBinding = false then (-enodev, false)
  else if driver.deviceIsReady = false then (-enodev, false)
  else (0, true)

structure System where
  firmware : Firmware
  /-- `disp_dev` is bound. -/
  dispDev : Bool
  /-- The work queue is in `finalize_vehicle_work`, behind its report. -/
  finalizing : Bool
  camera : CameraSystem RadarDisplayData

inductive SystemMove where
  | main
  | sensors (m : SensorMove) (undef : Option Int32)
  | report (disp : RadarDisplayData) (undef : Option Int32)
  | reset
  /-- A step of the handler or of `camera_thread`; the handler is called by a report only. -/
  | camera (m : CameraMove RadarDisplayData)

/-- What an observer sees: the stream of `sensor.c`, the calls of `radar_processing.c`, what
`radar_display.c` writes, and what the camera threads show. -/
inductive SystemOutput where
  | sensor (o : SensorOutput)
  | call (a : Action)
  | display (o : Output)
  | camera (a : CameraAction RadarDisplayData)

namespace System

/-- `main` binds the display in its last step and ignores the result. -/
def stepMain (gpio : GpioDriver) (driver : DisplayDriver) (s : System) : System :=
  { s with
    firmware := s.firmware.stepMain gpio
    dispDev := if s.firmware.main = .processingReady then (radarDisplayInit driver).2 else s.dispDev }

/-- The stream of a step of the sensors. -/
def sensorOutputs (s : System) (m : SensorMove) : List SensorOutput :=
  if s.firmware.enabled m then (s.firmware.sensors.step m).2 else []

def stepSensors (cfg : Config) (s : System) (m : SensorMove) (undef : Option Int32) :
    Option (System × List SystemOutput) :=
  (s.firmware.stepSensors cfg m undef).map fun r =>
    ({ s with firmware := r.1 }, (s.sensorOutputs m).map .sensor ++ r.2.map .call)

/-- The work queue behind a report that left `g` and `disp`. The handler is called for an infraction, with
the record as label. -/
def reported (tables : PlateTables) (s : System) (g : Globals) (disp : RadarDisplayData) : System :=
  { s with
    firmware := { s.firmware with globals := g }
    finalizing := true
    camera := if disp.status = .infraction then (s.camera.move tables (.infraction disp)).1 else s.camera }

/-- `finalize_vehicle_work` from the return of `compute_vehicle_status` with `ret` to its last line. -/
def finishReport (tables : PlateTables) (s : System) (g : Globals) (ret : Int32) (disp : RadarDisplayData) :
    Option (System × List SystemOutput) := do
  let shown := if ret = 0 then [Action.display disp] else []
  let text ← if ret = 0 then radarDisplayShow s.dispDev (some disp) else some []
  return (s.reported tables g disp,
    shown.map .call ++ text.map .display ++ (captureOf disp).map .call)

/-- The work queue takes `finalize_work` and runs it up to its last line. -/
def stepReport (cfg : Config) (tables : PlateTables) (s : System) (disp : RadarDisplayData)
    (undef : Option Int32) : Option (System × List SystemOutput) :=
  let g := s.firmware.globals
  if s.finalizing = false ∧ g.ctx.finalizeWork.pending.isSome then
    if g.ctx.finalizeWork.initialised = false then none
    else do
      let (g, ret, disp) ← computeVehicleStatus cfg undef (takeWork g) disp
      s.finishReport tables g ret disp
  else some (s, [])

/-- The last line of `finalize_vehicle_work`, once the handler has returned. -/
def stepReset (s : System) : System :=
  if s.finalizing = true ∧ s.camera.client = .idle then
    { s with
      firmware := { s.firmware with globals := vehicleContextReset s.firmware.globals }
      finalizing := false }
  else s

def stepCamera (tables : PlateTables) (s : System) (m : CameraMove RadarDisplayData) :
    System × List SystemOutput :=
  match m with
  | .infraction _ => (s, [])
  | m => ({ s with camera := (s.camera.move tables m).1 }, (s.camera.move tables m).2.map .camera)

def boot (uptime : UInt32) : System := ⟨.boot uptime, false, false, .start⟩

end System

/-- Every interleaving of the steps of the threads, the interrupts and time. -/
def system (gpio : GpioDriver) (driver : DisplayDriver) (cfg : Config) (tables : PlateTables) :
    StepMachine System SystemMove SystemOutput where
  step s
    | .main => some (s.stepMain gpio driver, [])
    | .sensors m undef => s.stepSensors cfg m undef
    | .report disp undef => s.stepReport cfg tables disp undef
    | .reset => some (s.stepReset, [])
    | .camera m => some (s.stepCamera tables m)

/-! ### What is seen of a run -/

@[simp] def SystemOutput.sensor? : SystemOutput → Option SensorOutput
  | .sensor o => some o
  | _ => none

@[simp] def SystemOutput.call? : SystemOutput → Option Action
  | .call a => some a
  | _ => none

@[simp] def SystemOutput.display? : SystemOutput → Option Output
  | .display o => some o
  | _ => none

@[simp] def SystemOutput.camera? : SystemOutput → Option (CameraAction RadarDisplayData)
  | .camera a => some a
  | _ => none

def sensorStream (o : List SystemOutput) : List SensorOutput := o.filterMap SystemOutput.sensor?

def calls (o : List SystemOutput) : List Action := o.filterMap SystemOutput.call?

def written (o : List SystemOutput) : List Output := o.filterMap SystemOutput.display?

def cameraLog (o : List SystemOutput) : List (CameraAction RadarDisplayData) :=
  o.filterMap SystemOutput.camera?

section

variable (o o' : List SystemOutput) (stream : List SensorOutput) (acts : List Action)

@[simp] theorem sensorStream_append : sensorStream (o ++ o') = sensorStream o ++ sensorStream o' :=
  List.filterMap_append

@[simp] theorem calls_append : calls (o ++ o') = calls o ++ calls o' := List.filterMap_append

@[simp] theorem written_append : written (o ++ o') = written o ++ written o' := List.filterMap_append

@[simp] theorem cameraLog_append : cameraLog (o ++ o') = cameraLog o ++ cameraLog o' :=
  List.filterMap_append

/-- What a step of the sensors shows. -/
theorem seen_sensors :
    sensorStream (stream.map .sensor ++ acts.map .call) = stream ∧
      calls (stream.map .sensor ++ acts.map .call) = acts ∧
      written (stream.map .sensor ++ acts.map .call) = [] ∧
      cameraLog (stream.map .sensor ++ acts.map .call) = [] := by
  simp [sensorStream, calls, written, cameraLog, List.filterMap_map, Function.comp_def]

/-- What a step of the camera shows. -/
theorem seen_camera (log : List (CameraAction RadarDisplayData)) :
    sensorStream (log.map .camera) = [] ∧ calls (log.map .camera) = [] ∧
      written (log.map .camera) = [] ∧ cameraLog (log.map .camera) = log := by
  simp [sensorStream, calls, written, cameraLog, List.filterMap_map, Function.comp_def]

/-- What a report shows. -/
theorem seen_report (shown : List Action) (text : List Output) :
    let o := shown.map .call ++ text.map .display ++ acts.map .call
    sensorStream o = [] ∧ calls o = shown ++ acts ∧ written o = text ∧ cameraLog o = [] := by
  simp [sensorStream, calls, written, cameraLog, List.filterMap_map, Function.comp_def]

end

variable {gpio : GpioDriver} {driver : DisplayDriver} {cfg : Config} {tables : PlateTables}
  {s s' : System} {o : List SystemOutput} {disp : RadarDisplayData} {undef : Option Int32} {t t' : Shared}
  {acts : List Action}

/-! ### What a step of the sensors does -/

theorem stepSensors_eq {m : SensorMove} (h : s.stepSensors cfg m undef = some (s', o)) :
    ∃ f acts, s.firmware.stepSensors cfg m undef = some (f, acts) ∧ s' = { s with firmware := f } ∧
      o = (s.sensorOutputs m).map .sensor ++ acts.map .call := by
  rw [System.stepSensors, Option.map_eq_some_iff] at h
  obtain ⟨⟨f, acts⟩, hfirmware, heq⟩ := h
  obtain ⟨rfl, rfl⟩ := Prod.mk.inj heq
  exact ⟨f, acts, hfirmware, rfl, rfl⟩

/-! ### What a report does -/

/-- The line on the display. -/
def displayWrite (data : RadarDisplayData) : Output :=
  let line := (lineText data).take 64
  .displayWrite ⟨UInt32.ofNat line.length, UInt16.ofNat line.length, 1, UInt16.ofNat line.length⟩ line

/-- What `radar_display_show` writes for a report. -/
def shownText (dispDev : Bool) (data : RadarDisplayData) : List Output :=
  (if dispDev then [displayWrite data] else []) ++ [.printk (consoleText data.status (lineText data))]

theorem radarDisplayShow_eq (dispDev : Bool) (data : RadarDisplayData) :
    radarDisplayShow dispDev (some data) = some (shownText dispDev data) := by
  cases dispDev with
  | true => exact radarDisplayShow_bound data
  | false =>
    obtain ⟨hprint, hcstr⟩ := snprintk_line data
    have hnone : updateDummyDisplay false (lineText data ++ [0]) = [] := if_neg Bool.false_ne_true
    unfold radarDisplayShow
    simp only [hprint, hcstr, format_console, Option.bind_eq_bind, Option.bind_some, hnone, shownText,
      if_neg Bool.false_ne_true]
    rfl

/-- What `report` has found, from the content `disp` of the stack variable to its new content `d`: noise
leaves it, and a vehicle is shown. -/
def Judged (cfg : Config) (s : System) (disp d : RadarDisplayData) (g : Globals) (shown : List Action)
    (text : List Output) : Prop :=
  (s.firmware.globals.Noise ∧ g = vehicleContextReset (takeWork s.firmware.globals) ∧ d = disp ∧
      shown = [] ∧ text = []) ∨
    (¬ s.firmware.globals.Noise ∧ g = takeWork s.firmware.globals ∧
      (∃ v, d = s.firmware.globals.displayData cfg v) ∧ shown = [.display d] ∧
      text = shownText s.dispDev d)

inductive ReportEffect (cfg : Config) (tables : PlateTables) (s : System) (disp : RadarDisplayData)
    (undef : Option Int32) : System → List SystemOutput → Prop where
  | nothing (hno : ¬ (s.finalizing = false ∧ s.firmware.globals.ctx.finalizeWork.pending.isSome)) :
      ReportEffect cfg tables s disp undef s []
  | judged (g : Globals) (d : RadarDisplayData) (shown : List Action) (text : List Output)
      (hgo : s.finalizing = false ∧ s.firmware.globals.ctx.finalizeWork.pending.isSome)
      (hreport : finalizeReport cfg undef disp (takeWork s.firmware.globals) =
        some (g, shown ++ captureOf d))
      (hjudged : Judged cfg s disp d g shown text) :
      ReportEffect cfg tables s disp undef (s.reported tables g d)
        (shown.map .call ++ text.map .display ++ (captureOf d).map .call)

theorem computeVehicleStatus_noise {g : Globals} (h : g.Noise) :
    computeVehicleStatus cfg undef g disp = some (vehicleContextReset g, -1, disp) := if_pos h

theorem computeVehicleStatus_report {g : Globals} (h : ¬ g.Noise) :
    computeVehicleStatus cfg undef g disp =
      (g.speedKmh cfg <|> undef).map fun v => (g, 0, g.displayData cfg v) := by
  simp only [computeVehicleStatus, if_neg h, Globals.speedKmh]
  cases computeSpeedKmh cfg.sensorDistanceMm (g.ctx.sensor2TimeMs - g.ctx.startTimeMs) <|> undef with
  | none => rfl
  | some v => rfl

theorem finishReport_report (g : Globals) :
    s.finishReport tables g 0 disp = some (s.reported tables g disp,
      [Action.display disp].map .call ++ (shownText s.dispDev disp).map .display ++
        (captureOf disp).map .call) := by
  simp only [System.finishReport, if_true, radarDisplayShow_eq, Option.bind_eq_bind, Option.bind_some]
  rfl

theorem stepReport_cases (h : s.stepReport cfg tables disp undef = some (s', o)) :
    ReportEffect cfg tables s disp undef s' o := by
  by_cases hgo : s.finalizing = false ∧ s.firmware.globals.ctx.finalizeWork.pending.isSome
  · simp only [System.stepReport, if_pos hgo] at h
    split_ifs at h with hnull
    rw [Option.bind_eq_bind, Option.bind_eq_some_iff] at h
    obtain ⟨⟨g, ret, d⟩, hstatus, hfinish⟩ := h
    by_cases hnoise : s.firmware.globals.Noise
    · have hnoise' : (takeWork s.firmware.globals).Noise := takeWork_noise.mpr hnoise
      rw [computeVehicleStatus_noise hnoise'] at hstatus
      obtain ⟨rfl, rfl, rfl⟩ := by simpa only [Option.some.injEq, Prod.mk.injEq] using hstatus
      obtain ⟨rfl, rfl⟩ := Prod.mk.inj (Option.some.inj hfinish)
      exact .judged _ disp [] [] hgo (finalizeReport_noise hnoise') (.inl ⟨hnoise, rfl, rfl, rfl, rfl⟩)
    · have hnoise' : ¬ (takeWork s.firmware.globals).Noise := mt takeWork_noise.mp hnoise
      rw [computeVehicleStatus_report hnoise', Option.map_eq_some_iff] at hstatus
      obtain ⟨v, hv, hstatus⟩ := hstatus
      obtain ⟨rfl, rfl, rfl⟩ := by simpa only [Prod.mk.injEq] using hstatus
      obtain ⟨rfl, rfl⟩ := Prod.mk.inj (Option.some.inj ((finishReport_report _).symm.trans hfinish))
      refine .judged _ _ _ _ hgo ?_ (.inr ⟨hnoise, rfl, ⟨v, rfl⟩, rfl, rfl⟩)
      rw [finalizeReport_report hnoise', hv]
      rfl
  · simp only [System.stepReport, if_neg hgo] at h
    obtain ⟨rfl, rfl⟩ := Prod.mk.inj (Option.some.inj h)
    exact .nothing hgo

end Radar
