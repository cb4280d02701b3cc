import Radar.Speed

/-!
# What one step does

`EventEffect` and `FireEffect` list everything a sensor event and a firing of `finalize_work` can do,
guards included. `event_cases` and `fire_cases` invert the functions into these lists; every invariant
and simulation below is a case analysis on them.
-/

namespace Radar

variable {cfg : Config} {undef : Option Int32} {g g' : Globals} {acts : List Action}

/-! ### Sensor events -/

/-- An event `radar_process_sensor_event` does nothing with. -/
def Globals.Ignores (g : Globals) (evt : Option SensorEvent) : Prop :=
  ∀ e, evt = some e →
    ¬ e.Rise 1 ∧ ¬ (e.Rise 2 ∧ g.ctx.state = .tracking ∧ g.ctx.sensor2Seen = false)

/-- The effects of `radar_process_sensor_event`. -/
inductive EventEffect (cfg : Config) (undef : Option Int32) (g : Globals) :
    Option SensorEvent → Globals → List Action → Prop where
  | opens (e : SensorEvent) (hstate : g.ctx.state = .idle) (hrise : e.Rise 1) :
      EventEffect cfg undef g (some e) (kWorkReschedule (initContext g e)).1
        [.reschedule g.radarStopTimeout]
  | axle (e : SensorEvent) (hstate : g.ctx.state = .tracking) (hrise : e.Rise 1) :
      EventEffect cfg undef g (some e) (kWorkReschedule (addAxle g)).1
        [.reschedule g.radarStopTimeout]
  | sensor2 (e : SensorEvent) (t : Int32) (hstate : g.ctx.state = .tracking) (hrise : e.Rise 2)
      (hfirst : g.ctx.sensor2Seen = false)
      (ht : (stopTimeout cfg.sensorDistanceMm (e.timestampMs - g.ctx.startTimeMs) <|> undef) = some t) :
      EventEffect cfg undef g (some e)
        { registerTimestampSensor2 g e with radarStopTimeout := t } []
  | ignored (evt : Option SensorEvent) (hignores : g.Ignores evt) : EventEffect cfg undef g evt g []

theorem event_opens {e : SensorEvent} (hstate : g.ctx.state = .idle) (hrise : e.Rise 1) :
    radarProcessSensorEvent cfg undef g (some e) = some (kWorkReschedule (initContext g e)) := by
  simp only [radarProcessSensorEvent, hstate, if_pos hrise]

theorem event_axle {e : SensorEvent} (hstate : g.ctx.state = .tracking) (hrise : e.Rise 1) :
    radarProcessSensorEvent cfg undef g (some e) = some (kWorkReschedule (addAxle g)) := by
  simp only [radarProcessSensorEvent, hstate, if_pos hrise]
  rw [if_neg (fun h => hrise.not_two h.1)]
  rfl

theorem event_sensor2 {e : SensorEvent} (hstate : g.ctx.state = .tracking) (hrise : e.Rise 2)
    (hfirst : g.ctx.sensor2Seen = false) :
    radarProcessSensorEvent cfg undef g (some e) =
      (stopTimeout cfg.sensorDistanceMm (e.timestampMs - g.ctx.startTimeMs) <|> undef).map fun t =>
        ({ registerTimestampSensor2 g e with radarStopTimeout := t }, []) := by
  have hnot : ¬ e.Rise 1 := fun h => h.not_two hrise
  simp only [radarProcessSensorEvent, hstate, if_neg hnot]
  rw [if_pos ⟨hrise, hfirst⟩]
  simp only [computeTimeout, registerTimestampSensor2]
  cases stopTimeout cfg.sensorDistanceMm (e.timestampMs - g.ctx.startTimeMs) <|> undef with
  | none => rfl
  | some t => rfl

theorem event_ignored {evt : Option SensorEvent} (h : g.Ignores evt) :
    radarProcessSensorEvent cfg undef g evt = some (g, []) := by
  cases evt with
  | none => rfl
  | some e =>
    obtain ⟨h1, h2⟩ := h e rfl
    cases hstate : g.ctx.state with
    | idle => simp only [radarProcessSensorEvent, hstate, if_neg h1]
    | tracking =>
      simp only [radarProcessSensorEvent, hstate, if_neg h1]
      rw [if_neg (fun h => h2 ⟨h.1, hstate, h.2⟩)]
      rfl

theorem event_cases {evt : Option SensorEvent}
    (h : radarProcessSensorEvent cfg undef g evt = some (g', acts)) :
    EventEffect cfg undef g evt g' acts := by
  by_cases hignores : g.Ignores evt
  · rw [event_ignored hignores] at h
    obtain ⟨rfl, rfl⟩ := Prod.mk.inj (Option.some.inj h)
    exact .ignored evt hignores
  · simp only [Globals.Ignores, not_forall] at hignores
    obtain ⟨e, rfl, he⟩ := hignores
    by_cases h1 : e.Rise 1
    · cases hstate : g.ctx.state with
      | idle =>
        rw [event_opens hstate h1] at h
        obtain ⟨rfl, rfl⟩ := Prod.mk.inj (Option.some.inj h)
        exact .opens e hstate h1
      | tracking =>
        rw [event_axle hstate h1] at h
        obtain ⟨rfl, rfl⟩ := Prod.mk.inj (Option.some.inj h)
        exact .axle e hstate h1
    · obtain ⟨h2, hstate, hfirst⟩ := not_not.mp fun hno => he ⟨h1, hno⟩
      rw [event_sensor2 hstate h2 hfirst, Option.map_eq_some_iff] at h
      obtain ⟨t, ht, heq⟩ := h
      obtain ⟨rfl, rfl⟩ := Prod.mk.inj heq
      exact .sensor2 e t hstate h2 hfirst ht

/-! ### Firings -/

/-- The camera call of a firing that ends with `disp` in its stack variable. -/
def captureOf (disp : RadarDisplayData) : List Action :=
  if disp.status = .infraction then [.capture] else []

/-- The record `compute_vehicle_status` builds for the vehicle in `g` once its speed is known. -/
def Globals.displayData (cfg : Config) (g : Globals) (speedKmh : Int32) : RadarDisplayData :=
  Radar.displayData cfg g.ctx.axleCount (g.ctx.sensor2TimeMs - g.ctx.startTimeMs) speedKmh

/-- The speed `compute_vehicle_status` measures for the vehicle in `g`. -/
def Globals.speedKmh (cfg : Config) (g : Globals) : Option Int32 :=
  computeSpeedKmh cfg.sensorDistanceMm (g.ctx.sensor2TimeMs - g.ctx.startTimeMs)

theorem finalizeReport_noise {disp : RadarDisplayData} (h : g.Noise) :
    finalizeReport cfg undef disp g = some (vehicleContextReset g, captureOf disp) := by
  simp only [finalizeReport, computeVehicleStatus, if_pos h]
  rfl

theorem finalizeReport_report {disp : RadarDisplayData} (h : ¬ g.Noise) :
    finalizeReport cfg undef disp g = (g.speedKmh cfg <|> undef).map fun s =>
      (g, .display (g.displayData cfg s) :: captureOf (g.displayData cfg s)) := by
  simp only [finalizeReport, computeVehicleStatus, if_neg h, Globals.speedKmh]
  cases computeSpeedKmh cfg.sensorDistanceMm (g.ctx.sensor2TimeMs - g.ctx.startTimeMs) <|> undef with
  | none => rfl
  | some s => rfl

/-- The effects of an attempt to run `finalize_work`. -/
inductive FireEffect (cfg : Config) (undef : Option Int32) (disp : RadarDisplayData) (g : Globals) :
    Globals → List Action → Prop where
  | notPending (hpending : g.ctx.finalizeWork.pending = none) : FireEffect cfg undef disp g g []
  | noise (hpending : g.ctx.finalizeWork.pending ≠ none) (hnoise : g.Noise) :
      FireEffect cfg undef disp g (vehicleContextReset (takeWork g)) (captureOf disp)
  | report (s : Int32) (hpending : g.ctx.finalizeWork.pending ≠ none) (hnoise : ¬ g.Noise)
      (hs : (g.speedKmh cfg <|> undef) = some s) :
      FireEffect cfg undef disp g (vehicleContextReset (takeWork g))
        (.display (g.displayData cfg s) :: captureOf (g.displayData cfg s))

theorem takeWork_noise : (takeWork g).Noise ↔ g.Noise := Iff.rfl

theorem fire_notPending {disp : RadarDisplayData} (h : g.ctx.finalizeWork.pending = none) :
    step cfg g (.fire disp undef) = some (g, []) := by
  simp [step, h]

theorem fire_noise {disp : RadarDisplayData} (h : g.ctx.finalizeWork.pending ≠ none)
    (hnoise : g.Noise) :
    step cfg g (.fire disp undef) = some (vehicleContextReset (takeWork g), captureOf disp) := by
  simp only [step, Option.isSome_iff_ne_none.mpr h, if_true, finalizeVehicleWork,
    finalizeReport_noise (takeWork_noise.mpr hnoise)]
  rfl

theorem fire_report {disp : RadarDisplayData} (h : g.ctx.finalizeWork.pending ≠ none)
    (hnoise : ¬ g.Noise) :
    step cfg g (.fire disp undef) = (g.speedKmh cfg <|> undef).map fun s =>
      (vehicleContextReset (takeWork g),
        .display (g.displayData cfg s) :: captureOf (g.displayData cfg s)) := by
  simp only [step, Option.isSome_iff_ne_none.mpr h, if_true, finalizeVehicleWork,
    finalizeReport_report (mt takeWork_noise.mp hnoise)]
  show (((g.speedKmh cfg <|> undef).map _).bind _) = _
  cases g.speedKmh cfg <|> undef with
  | none => rfl
  | some s => rfl

theorem fire_cases {disp : RadarDisplayData} (h : step cfg g (.fire disp undef) = some (g', acts)) :
    FireEffect cfg undef disp g g' acts := by
  by_cases hpending : g.ctx.finalizeWork.pending = none
  · rw [fire_notPending hpending] at h
    obtain ⟨rfl, rfl⟩ := Prod.mk.inj (Option.some.inj h)
    exact .notPending hpending
  · by_cases hnoise : g.Noise
    · rw [fire_noise hpending hnoise] at h
      obtain ⟨rfl, rfl⟩ := Prod.mk.inj (Option.some.inj h)
      exact .noise hpending hnoise
    · rw [fire_report hpending hnoise, Option.map_eq_some_iff] at h
      obtain ⟨s, hs, heq⟩ := h
      obtain ⟨rfl, rfl⟩ := Prod.mk.inj heq
      exact .report s hpending hnoise hs

end Radar
