import Radar.System

/-!
# The firmware as a composition

`Follows` reads the two threads of `radar_processing.c` off the whole firmware, from the start of `main`
on. After a successful start-up a run of the firmware is at once a run of `sensor.c`, of the two threads
and of the camera, each over what its moves are for it (`firmware_composes`). Nothing but the events that
`sensor_thread` hands over passes from the first to the second, and nothing but the infractions of the
second to the third.

So what is proved of the parts adds up from the edges to the display: a run that neither loses an event in
the interrupt handler nor processes a sensor-1 rise behind a report shows exactly the reports of the
windows cut out of the stream of events (`end_to_end`).
-/

namespace Radar

open Printk

variable {gpio : GpioDriver} {driver : DisplayDriver} {cfg : Config} {tables : PlateTables}
  {s s' : System} {o : List SystemOutput} {disp : RadarDisplayData} {undef : Option Int32} {t t' : Shared}
  {acts : List Action} {m : SystemMove}

namespace System

/-- What `sensor.c` does in a step. -/
def sensorMoves (s : System) : SystemMove → List SensorMove
  | .sensors m _ => if s.firmware.enabled m then [m] else []
  | _ => []

/-- What the two threads of `radar_processing.c` do in a step. -/
def threadMoves (s : System) : SystemMove → List Move
  | .sensors m undef => (handedEvents (s.sensorOutputs m)).map fun evt => .event (some evt) undef
  | .report disp undef => [.report disp undef]
  | .reset => if s.camera.client = .idle then [.reset] else []
  | _ => []

end System

/-! ### The processing threads under the firmware -/

/-- Before `main` has returned nothing has happened to the context but its initialisation; after that the
globals and the firing under way are those of the two threads. -/
inductive Follows (driver : DisplayDriver) (s : System) : Shared → Prop where
  | starting (hmain : (s.firmware.main = .entry ∨ s.firmware.main = .sensorsReady) ∧
        s.firmware.globals = .boot ∨ s.firmware.main = .processingReady ∧ s.firmware.globals = initial)
      (hfree : s.finalizing = false) : Follows driver s .start
  | running (t : Shared) (hmain : s.firmware.main = .returned 0)
      (hinit : s.firmware.globals.ctx.finalizeWork.initialised = true)
      (hdisplay : s.dispDev = (radarDisplayInit driver).2) (hglobals : t.globals = s.firmware.globals)
      (hfinal : t.finalizing = s.finalizing) : Follows driver s t

theorem follows_boot (uptime : UInt32) : Follows driver (.boot uptime) .start :=
  .starting (.inl ⟨.inl rfl, rfl⟩) rfl

/-- Events are processed by the threads as by the file. -/
theorem threads_events {evts : List SensorEvent} :
    ∀ {t : Shared} {g : Globals} {acts : List Action},
      (machine cfg).run t.globals (evts.map fun evt => .event (some evt) undef) = some (g, acts) →
        ∃ t', (threads cfg).run t (evts.map fun evt => .event (some evt) undef) = some (t', acts) ∧
          t'.globals = g ∧ t'.finalizing = t.finalizing := by
  induction evts with
  | nil =>
    intro t g acts hrun
    obtain ⟨rfl, rfl⟩ := Prod.mk.inj (Option.some.inj hrun)
    exact ⟨t, rfl, rfl, rfl⟩
  | cons evt evts ih =>
    intro t g acts hrun
    obtain ⟨g₁, o₁, o₂, hstep, hrest, rfl⟩ := (machine cfg).run_cons_some hrun
    have hevent : radarProcessSensorEvent cfg undef t.globals (some evt) = some (g₁, o₁) := hstep
    have hmove : (threads cfg).step t (.event (some evt) undef) =
        some (⟨g₁, t.finalizing, t.ledger.enter t.globals.ctx.state (some evt)⟩, o₁) := by
      simp [threads, move, hevent]
    obtain ⟨t', hrun', hglobals, hfinal⟩ :=
      @ih ⟨g₁, t.finalizing, t.ledger.enter t.globals.ctx.state (some evt)⟩ g o₂ hrest
    refine ⟨t', ?_, hglobals, hfinal⟩
    rw [List.map_cons, StepMachine.run_cons, hmove, Option.bind_some, hrun']
    rfl

theorem starting_quiet (h : (s.firmware.main = .entry ∨ s.firmware.main = .sensorsReady) ∧
    s.firmware.globals = .boot ∨ s.firmware.main = .processingReady ∧ s.firmware.globals = initial) :
    s.firmware.main.isOver = false ∧ s.firmware.globals.ctx.finalizeWork.pending = none := by
  rcases h with ⟨hmain | hmain, hglobals⟩ | ⟨hmain, hglobals⟩ <;>
    · rw [hmain, hglobals]
      exact ⟨rfl, rfl⟩

theorem follows_main (h : Follows driver s t) (hok : 0 ≤ sensorInit gpio) :
    Follows driver (s.stepMain gpio driver) t := by
  have hnot : ¬ sensorInit gpio < 0 := Int32.not_lt.mpr hok
  cases h with
  | starting hmain hfree =>
    rcases hmain with ⟨hmain | hmain, hglobals⟩ | ⟨hmain, hglobals⟩
    · refine .starting (.inl ⟨.inr ?_, ?_⟩) hfree <;>
        simp [System.stepMain, Firmware.stepMain, hmain, hnot, hglobals]
    · refine .starting (.inr ⟨?_, ?_⟩) hfree <;>
        simp [System.stepMain, Firmware.stepMain, hmain, hglobals, initial]
    · refine .running _ ?_ ?_ ?_ ?_ hfree.symm <;>
        simp [System.stepMain, Firmware.stepMain, hmain, hglobals, Shared.start, initial,
          radarProcessingInit]
  | running t hmain hinit hdisplay hglobals hfinal =>
    have hstep : s.stepMain gpio driver = s := by
      simp [System.stepMain, Firmware.stepMain, hmain]
    rw [hstep]
    exact .running t hmain hinit hdisplay hglobals hfinal

theorem follows_sensors {m : SensorMove} (h : Follows driver s t)
    (hstep : s.stepSensors cfg m undef = some (s', o)) :
    ∃ t', (threads cfg).run t (s.threadMoves (.sensors m undef)) = some (t', calls o) ∧
      Follows driver s' t' := by
  obtain ⟨f, acts, hfirmware, rfl, rfl⟩ := stepSensors_eq hstep
  rw [(seen_sensors (s.sensorOutputs m) acts).2.1, System.threadMoves]
  rcases Firmware.stepSensors_cases hfirmware with ⟨hoff, rfl, rfl⟩ | ⟨hon, g, hrun, rfl⟩
  · rw [System.sensorOutputs, if_neg hoff]
    exact ⟨t, rfl, h⟩
  · rw [System.sensorOutputs, if_pos hon]
    cases h with
    | starting hmain hfree =>
      -- nothing is handed over before `main` has returned
      have hnone : handedEvents (s.firmware.sensors.step m).2 = [] := by
        refine (Firmware.handed_of_enabled hon).resolve_right ?_
        rw [(starting_quiet hmain).1]
        exact Bool.false_ne_true
      rw [Firmware.inputs, hnone] at hrun
      obtain ⟨rfl, rfl⟩ := Prod.mk.inj (Option.some.inj hrun)
      rw [hnone]
      exact ⟨.start, rfl, .starting hmain hfree⟩
    | running t hmain hinit hdisplay hglobals hfinal =>
      rw [← hglobals] at hrun
      obtain ⟨t', hrun', hglobals', hfinal'⟩ := threads_events hrun
      rw [hglobals] at hrun
      refine ⟨t', hrun', .running t' hmain ?_ hdisplay hglobals' (hfinal'.trans hfinal)⟩
      exact Firmware.initialised_run hinit hrun

theorem report_initialised {g g' : Globals} (h : finalizeReport cfg undef disp (takeWork g) = some (g', acts)) :
    g'.ctx.finalizeWork.initialised = g.ctx.finalizeWork.initialised := by
  by_cases hnoise : (takeWork g).Noise
  · rw [finalizeReport_noise hnoise] at h
    obtain ⟨rfl, -⟩ := Prod.mk.inj (Option.some.inj h)
    rfl
  · rw [finalizeReport_report hnoise, Option.map_eq_some_iff] at h
    obtain ⟨v, -, heq⟩ := h
    obtain ⟨rfl, -⟩ := Prod.mk.inj heq
    rfl

theorem follows_report (h : Follows driver s t) (heffect : ReportEffect cfg tables s disp undef s' o) :
    ∃ t', (threads cfg).step t (.report disp undef) = some (t', calls o) ∧ Follows driver s' t' := by
  cases heffect with
  | nothing hno =>
    refine ⟨t, ?_, h⟩
    have hno' : ¬ (t.finalizing = false ∧ t.globals.ctx.finalizeWork.pending.isSome) := by
      cases h with
      | starting hmain hfree => exact fun hgo => absurd hgo.2 Bool.false_ne_true
      | running t hmain hinit hdisplay hglobals hfinal =>
        rw [hglobals, hfinal]
        exact hno
    simp only [threads, move, if_neg hno']
    rfl
  | judged g d shown text hgo hreport hjudged =>
    cases h with
    | starting hmain hfree =>
      rw [(starting_quiet hmain).2] at hgo
      exact absurd hgo.2 Bool.false_ne_true
    | running t hmain hinit hdisplay hglobals hfinal =>
      rw [← hglobals, ← hfinal] at hgo
      rw [← hglobals] at hreport
      refine ⟨⟨g, true, t.ledger.judge (decide t.globals.Noise)⟩, ?_, ?_⟩
      · rw [(seen_report (captureOf d) shown text).2.1]
        simp only [threads, move, if_pos hgo, hreport, Option.bind_eq_bind, Option.bind_some]
        rfl
      · refine .running _ hmain ?_ hdisplay rfl rfl
        rw [hglobals] at hreport
        exact (report_initialised hreport).trans hinit

theorem follows_reset (h : Follows driver s t) :
    ∃ t', (threads cfg).run t (s.threadMoves .reset) = some (t', []) ∧ Follows driver s.stepReset t' := by
  by_cases hclient : s.camera.client = .idle
  · rw [System.threadMoves, if_pos hclient, StepMachine.run_singleton]
    cases h with
    | starting hmain hfree =>
      have hstay : s.stepReset = s := by simp [System.stepReset, hfree]
      rw [hstay]
      exact ⟨.start, rfl, .starting hmain hfree⟩
    | running t hmain hinit hdisplay hglobals hfinal =>
      cases hbusy : s.finalizing with
      | false =>
        have hstay : s.stepReset = s := by simp [System.stepReset, hbusy]
        rw [hstay]
        refine ⟨t, ?_, .running t hmain hinit hdisplay hglobals hfinal⟩
        simp [threads, move, hfinal, hbusy]
      | true =>
        refine ⟨⟨vehicleContextReset t.globals, false, t.ledger.clear⟩, ?_, ?_⟩
        · simp [threads, move, hfinal, hbusy]
        · rw [System.stepReset, if_pos ⟨hbusy, hclient⟩]
          refine .running _ hmain hinit hdisplay ?_ rfl
          rw [hglobals]
  · rw [System.threadMoves, if_neg hclient]
    have hstay : s.stepReset = s := by simp [System.stepReset, hclient]
    rw [hstay]
    exact ⟨t, rfl, h⟩

/-- The camera's steps are no business of the firmware. -/
theorem stepCamera_eq (tables : PlateTables) (s : System) (m : CameraMove RadarDisplayData) :
    ∃ c log, s.stepCamera tables m = ({ s with camera := c }, log.map .camera) ∧
      (((∃ d, m = .infraction d) ∧ c = s.camera ∧ log = []) ∨
        (∀ d, m ≠ .infraction d) ∧ s.camera.move tables m = (c, log)) := by
  cases m with
  | infraction d => exact ⟨s.camera, [], rfl, .inl ⟨⟨d, rfl⟩, rfl, rfl⟩⟩
  | _ => exact ⟨_, _, rfl, .inr ⟨fun d => by simp, rfl⟩⟩

theorem Follows.camera (h : Follows driver s t) (c : CameraSystem RadarDisplayData) :
    Follows driver { s with camera := c } t := by
  cases h with
  | starting hmain hfree => exact .starting hmain hfree
  | running t hmain hinit hdisplay hglobals hfinal => exact .running t hmain hinit hdisplay hglobals hfinal

/-- **One step of the firmware** is a run of the two threads over what it is for them. -/
theorem follows_step (hok : 0 ≤ sensorInit gpio) (h : Follows driver s t)
    (hstep : (system gpio driver cfg tables).step s m = some (s', o)) :
    ∃ t', (threads cfg).run t (s.threadMoves m) = some (t', calls o) ∧ Follows driver s' t' := by
  cases m with
  | main =>
    obtain ⟨rfl, rfl⟩ := Prod.mk.inj (Option.some.inj hstep)
    exact ⟨t, rfl, follows_main h hok⟩
  | sensors m undef => exact follows_sensors h hstep
  | report disp undef =>
    rw [System.threadMoves, StepMachine.run_singleton]
    exact follows_report h (stepReport_cases hstep)
  | reset =>
    obtain ⟨rfl, rfl⟩ := Prod.mk.inj (Option.some.inj hstep)
    exact follows_reset h
  | camera m =>
    obtain ⟨c, log, heq, -⟩ := stepCamera_eq tables s m
    obtain ⟨rfl, rfl⟩ := Prod.mk.inj (heq.symm.trans (Option.some.inj hstep))
    rw [(seen_camera log).2.1]
    exact ⟨t, rfl, h.camera c⟩

/-! ### The parts of a run -/

theorem sensors_step (hstep : (system gpio driver cfg tables).step s m = some (s', o)) :
    sensorMachine.run s.firmware.sensors (s.sensorMoves m) =
      some (s'.firmware.sensors, sensorStream o) := by
  cases m with
  | main =>
    obtain ⟨rfl, rfl⟩ := Prod.mk.inj (Option.some.inj hstep)
    have hsame : (s.stepMain gpio driver).firmware.sensors = s.firmware.sensors := by
      unfold System.stepMain Firmware.stepMain
      cases s.firmware.main with
      | entry => dsimp only; split_ifs <;> rfl
      | _ => rfl
    rw [hsame]
    rfl
  | sensors m undef =>
    obtain ⟨f, acts, hfirmware, rfl, rfl⟩ := stepSensors_eq hstep
    rw [(seen_sensors (s.sensorOutputs m) acts).1, System.sensorMoves, System.sensorOutputs]
    rcases Firmware.stepSensors_cases hfirmware with ⟨hoff, rfl, rfl⟩ | ⟨hon, g, hrun, rfl⟩
    · rw [if_neg hoff, if_neg hoff]
      rfl
    · rw [if_pos hon, if_pos hon, StepMachine.run_singleton]
      rfl
  | report disp undef =>
    cases stepReport_cases hstep with
    | nothing hno => rfl
    | judged g d shown text hgo hreport hjudged =>
      rw [(seen_report (captureOf d) shown text).1]
      rfl
  | reset =>
    obtain ⟨rfl, rfl⟩ := Prod.mk.inj (Option.some.inj hstep)
    have hsame : s.stepReset.firmware.sensors = s.firmware.sensors := by
      unfold System.stepReset
      split_ifs <;> rfl
    rw [hsame]
    rfl
  | camera m =>
    obtain ⟨c, log, heq, -⟩ := stepCamera_eq tables s m
    obtain ⟨rfl, rfl⟩ := Prod.mk.inj (heq.symm.trans (Option.some.inj hstep))
    rw [(seen_camera log).1]
    rfl

/-- The call of the handler, if the move is one. -/
def CameraMove.called {τ : Type} : CameraMove τ → Option τ
  | .infraction vehicle => some vehicle
  | _ => none

/-- A call of the handler shows nothing. -/
theorem infraction_silent {τ : Type} (c : CameraSystem τ) (vehicle : τ) :
    (camera tables).step c (.infraction vehicle) = some ((c.move tables (.infraction vehicle)).1, []) := by
  obtain ⟨client, cmds, server, evts⟩ := c
  cases client <;> rfl

/-- Events neither show a report nor call the handler. -/
theorem events_silent {evts : List SensorEvent} :
    ∀ {g g' : Globals} {acts : List Action},
      (machine cfg).run g (evts.map fun evt => .event (some evt) undef) = some (g', acts) →
        reports acts = [] ∧ captures acts = 0 := by
  induction evts with
  | nil =>
    intro g g' acts hrun
    obtain ⟨-, rfl⟩ := Prod.mk.inj (Option.some.inj hrun)
    exact ⟨rfl, rfl⟩
  | cons evt evts ih =>
    intro g g' acts hrun
    obtain ⟨g₁, o₁, o₂, hstep, hrest, rfl⟩ := (machine cfg).run_cons_some hrun
    obtain ⟨hreports, hcaptures⟩ := ih hrest
    have hhead : reports o₁ = [] ∧ captures o₁ = 0 := by
      have hevent : radarProcessSensorEvent cfg undef g (some evt) = some (g₁, o₁) := hstep
      cases event_cases hevent <;> exact ⟨rfl, rfl⟩
    rw [reports_append, captures_append, hhead.1, hhead.2, hreports, hcaptures]
    exact ⟨rfl, rfl⟩

theorem sensors_silent {f : Firmware} {m : SensorMove}
    (h : s.firmware.stepSensors cfg m undef = some (f, acts)) : reports acts = [] ∧ captures acts = 0 := by
  rcases Firmware.stepSensors_cases h with ⟨-, -, rfl⟩ | ⟨-, g, hrun, -⟩
  · exact ⟨rfl, rfl⟩
  · exact events_silent hrun

/-- The handler is called as often as `radar_processing.c` calls it. -/
theorem camera_step (hstep : (system gpio driver cfg tables).step s m = some (s', o)) :
    ∃ ms, (camera tables).run s.camera ms = some (s'.camera, cameraLog o) ∧
      (ms.filterMap CameraMove.called).length = captures (calls o) := by
  cases m with
  | main =>
    obtain ⟨rfl, rfl⟩ := Prod.mk.inj (Option.some.inj hstep)
    exact ⟨[], rfl, rfl⟩
  | sensors m undef =>
    obtain ⟨f, acts, hfirmware, rfl, rfl⟩ := stepSensors_eq hstep
    obtain ⟨-, hcalls, -, hlog⟩ := seen_sensors (s.sensorOutputs m) acts
    rw [hcalls, hlog]
    exact ⟨[], rfl, (sensors_silent hfirmware).2.symm⟩
  | report disp undef =>
    cases stepReport_cases hstep with
    | nothing hno => exact ⟨[], rfl, rfl⟩
    | judged g d shown text hgo hreport hjudged =>
      obtain ⟨-, hcalls, -, hlog⟩ := seen_report (captureOf d) shown text
      have hshown : captures shown = 0 := by
        rcases hjudged with ⟨-, -, -, rfl, -⟩ | ⟨-, -, -, rfl, -⟩ <;> rfl
      rw [hcalls, hlog, captures_append, hshown, captures_captureOf]
      by_cases hd : d.IsInfraction
      · refine ⟨[.infraction d], ?_, by rw [if_pos hd]; rfl⟩
        have hcalled : (s.reported tables g d).camera = (s.camera.move tables (.infraction d)).1 := if_pos hd
        rw [StepMachine.run_singleton, hcalled]
        exact infraction_silent s.camera d
      · refine ⟨[], ?_, by rw [if_neg hd]; rfl⟩
        have hsame : (s.reported tables g d).camera = s.camera := if_neg hd
        rw [hsame]
        rfl
  | reset =>
    obtain ⟨rfl, rfl⟩ := Prod.mk.inj (Option.some.inj hstep)
    have hsame : s.stepReset.camera = s.camera := by
      unfold System.stepReset
      split_ifs <;> rfl
    rw [hsame]
    exact ⟨[], rfl, rfl⟩
  | camera m =>
    obtain ⟨c, log, heq, hcamera⟩ := stepCamera_eq tables s m
    obtain ⟨rfl, rfl⟩ := Prod.mk.inj (heq.symm.trans (Option.some.inj hstep))
    obtain ⟨-, hcalls, -, hlog⟩ := seen_camera log
    rw [hcalls, hlog]
    rcases hcamera with ⟨-, rfl, rfl⟩ | ⟨hm, hmove⟩
    · exact ⟨[], rfl, rfl⟩
    · refine ⟨[m], ?_, ?_⟩
      · rw [StepMachine.run_singleton]
        exact congrArg some hmove
      · cases m with
        | infraction d => exact absurd rfl (hm d)
        | _ => rfl

/-- The event of a call of `radar_process_sensor_event`. -/
def Move.evt : Move → Option SensorEvent
  | .event evt _ => evt
  | _ => none

def SystemOutput.handed : SystemOutput → Option SensorEvent
  | .sensor (.handed evt) => some evt
  | _ => none

theorem handed_eq (o : List SystemOutput) :
    o.filterMap SystemOutput.handed = handedEvents (sensorStream o) := by
  rw [handedEvents, sensorStream, List.filterMap_filterMap]
  congr 1
  funext a
  cases a with
  | sensor a => cases a <;> rfl
  | _ => rfl

theorem events_step (hstep : (system gpio driver cfg tables).step s m = some (s', o)) :
    (s.threadMoves m).filterMap Move.evt = o.filterMap SystemOutput.handed := by
  rw [handed_eq]
  cases m with
  | main =>
    obtain ⟨rfl, rfl⟩ := Prod.mk.inj (Option.some.inj hstep)
    rfl
  | sensors m undef =>
    obtain ⟨f, acts, hfirmware, rfl, rfl⟩ := stepSensors_eq hstep
    rw [(seen_sensors (s.sensorOutputs m) acts).1, System.threadMoves, List.filterMap_map]
    exact List.filterMap_some
  | report disp undef =>
    cases stepReport_cases hstep with
    | nothing hno => rfl
    | judged g d shown text hgo hreport hjudged =>
      rw [(seen_report (captureOf d) shown text).1]
      rfl
  | reset =>
    obtain ⟨rfl, rfl⟩ := Prod.mk.inj (Option.some.inj hstep)
    rw [System.threadMoves]
    split_ifs <;> rfl
  | camera m =>
    obtain ⟨c, log, heq, -⟩ := stepCamera_eq tables s m
    obtain ⟨rfl, rfl⟩ := Prod.mk.inj (heq.symm.trans (Option.some.inj hstep))
    rw [(seen_camera log).1]
    rfl

/-- **The firmware is composed of its parts.** After a successful `sensor_init` every run is a run of
`sensor.c`, a run of the two threads of `radar_processing.c` over the events the first hands over, and a
run of the camera with one call of the handler for every one made by the second. -/
theorem firmware_composes {uptime : UInt32} {moves : List SystemMove} (hok : 0 ≤ sensorInit gpio)
    (hrun : (system gpio driver cfg tables).run (.boot uptime) moves = some (s, o)) :
    let read := (system gpio driver cfg tables).reads System.threadMoves (.boot uptime) moves
    sensorMachine.run (.start uptime)
        ((system gpio driver cfg tables).reads System.sensorMoves (.boot uptime) moves) =
      some (s.firmware.sensors, sensorStream o) ∧
    read.filterMap Move.evt = handedEvents (sensorStream o) ∧
    (∃ t, (threads cfg).run .start read = some (t, calls o) ∧ Follows driver s t) ∧
    ∃ ms, (camera tables).run .start ms = some (s.camera, cameraLog o) ∧
      (ms.filterMap CameraMove.called).length = captures (calls o) := by
  refine ⟨?_, ?_, ?_, ?_⟩
  · have hstep : ∀ s q m s' o, q = s.firmware.sensors → True →
        (system gpio driver cfg tables).step s m = some (s', o) →
        ∃ q', sensorMachine.run q (s.sensorMoves m) = some (q', o.filterMap SystemOutput.sensor?) ∧
          q' = s'.firmware.sensors := by
      rintro s q m s' o rfl - hstep
      exact ⟨_, sensors_step hstep, rfl⟩
    obtain ⟨q, hrun', rfl⟩ := (system gpio driver cfg tables).run_simulate sensorMachine
      (P := fun _ _ _ _ => True) hstep rfl (fun _ _ _ _ _ _ => trivial) hrun
    exact hrun'
  · rw [← handed_eq]
    exact (system gpio driver cfg tables).reads_filterMap (fun _ _ _ _ hstep => events_step hstep) hrun
  · exact (system gpio driver cfg tables).run_simulate (threads cfg) (P := fun _ _ _ _ => True)
      (fun _ _ _ _ _ h _ hstep => follows_step hok h hstep) (follows_boot uptime)
      (fun _ _ _ _ _ _ => trivial) hrun
  · refine (system gpio driver cfg tables).run_history (P := fun _ _ _ _ => True)
      (R := fun s h => ∃ ms, (camera tables).run .start ms = some (s.camera, cameraLog h) ∧
        (ms.filterMap CameraMove.called).length = captures (calls h)) (h := []) ?_ ⟨[], rfl, rfl⟩
      (fun _ _ _ _ _ _ => trivial) hrun
    rintro s h m s' o ⟨ms, hcamera, hcount⟩ - hstep
    obtain ⟨ms', hcamera', hcount'⟩ := camera_step hstep
    refine ⟨ms ++ ms', ?_, ?_⟩
    · rw [cameraLog_append]
      exact (camera tables).run_trans hcamera hcamera'
    · rw [List.filterMap_append, List.length_append, calls_append, captures_append, hcount, hcount']

/-! ### From the edges to the display -/

namespace System

/-- What `radar_processing.c` reads in a step, with firings as one step. -/
def inputs (s : System) (m : SystemMove) : List Input := (s.threadMoves m).flatMap Move.inputs

/-- The interrupt handler finds its way clear, and no rise of sensor 1 is processed behind a report. -/
def Undisturbed (s : System) : SystemMove → Prop
  | .sensors m _ => s.firmware.enabled m = true → s.firmware.sensors.Undisturbed m ∧
      (s.finalizing = true → ∀ evt ∈ handedEvents (s.firmware.sensors.step m).2, ¬ evt.Rise 1)
  | _ => True

end System

theorem Follows.finalizing_eq (h : Follows driver s t) : t.finalizing = s.finalizing := by
  cases h with
  | starting hmain hfree => exact hfree.symm
  | running t hmain hinit hdisplay hglobals hfinal => exact hfinal

theorem undisturbed_events {evts : List SensorEvent} :
    ∀ {t : Shared}, (t.finalizing = true → ∀ evt ∈ evts, ¬ evt.Rise 1) →
      (threads cfg).Along (fun s x _ _ => Undisturbed s x) t
        (evts.map fun evt => .event (some evt) undef) := by
  induction evts with
  | nil =>
    intro t _
    exact StepMachine.along_nil _ _ _
  | cons evt evts ih =>
    intro t hno
    rw [List.map_cons]
    cases hstep : (threads cfg).step t (.event (some evt) undef) with
    | none => exact StepMachine.along_none _ _ hstep
    | some r =>
      have hfinal : r.1.finalizing = t.finalizing := by
        have hmove : move cfg t (.event (some evt) undef) = some (r.1, r.2) := hstep
        simp only [move, Option.bind_eq_bind, Option.bind_eq_some_iff] at hmove
        obtain ⟨g, -, heq⟩ := hmove
        obtain ⟨h1, -⟩ := Prod.mk.inj (Option.some.inj heq)
        rw [← h1]
      refine ((threads cfg).along_cons hstep).mpr ⟨fun hrise => ?_, ih fun hbusy e he => ?_⟩
      · by_contra hbusy
        exact hno (by simpa using hbusy) evt List.mem_cons_self hrise
      · exact hno (hfinal ▸ hbusy) e (List.mem_cons_of_mem _ he)

/-- An undisturbed step of the firmware is one of the two threads. -/
theorem undisturbed_step (h : Follows driver s t) (hfree : s.Undisturbed m) :
    (threads cfg).Along (fun s x _ _ => Undisturbed s x) t (s.threadMoves m) := by
  have hsilent : ∀ xs : List Move, (∀ x ∈ xs, x.evt = none) →
      (threads cfg).Along (fun s x _ _ => Undisturbed s x) t xs := by
    refine fun xs hxs => (threads cfg).along_of_forall_mem t fun x hx s s' o => ?_
    cases x with
    | event evt undef =>
      obtain rfl : evt = none := hxs _ hx
      trivial
    | _ => trivial
  cases m with
  | sensors m undef =>
    rw [System.threadMoves, System.sensorOutputs]
    by_cases hon : s.firmware.enabled m = true
    · rw [if_pos hon]
      apply undisturbed_events
      rw [h.finalizing_eq]
      exact (hfree hon).2
    · rw [if_neg hon]
      exact StepMachine.along_nil _ _ _
  | reset =>
    apply hsilent
    rw [System.threadMoves]
    split_ifs <;> simp [Move.evt]
  | _ =>
    apply hsilent
    simp [System.threadMoves, Move.evt]

theorem inputs_evt (xs : List Move) :
    (xs.flatMap Move.inputs).filterMap Input.sensorEvent = xs.filterMap Move.evt := by
  induction xs with
  | nil => rfl
  | cons x xs ih =>
    rw [List.flatMap_cons, List.filterMap_append, ih, ← List.singleton_append, List.filterMap_append]
    cases x with
    | event evt undef => cases evt <;> rfl
    | _ => rfl

theorem inOrder_step {h : List SystemOutput} (hin : s.firmware.sensors.InOrder (sensorStream h))
    (hfree : s.Undisturbed m) (hstep : (system gpio driver cfg tables).step s m = some (s', o)) :
    s'.firmware.sensors.InOrder (sensorStream (h ++ o)) := by
  have hsensors := sensors_step hstep
  have hstay : s.sensorMoves m = [] → s'.firmware.sensors.InOrder (sensorStream (h ++ o)) := by
    intro hnone
    rw [hnone] at hsensors
    obtain ⟨hsame, hstream⟩ := Prod.mk.inj (Option.some.inj hsensors)
    rwa [sensorStream_append, ← hstream, ← hsame, List.append_nil]
  cases m with
  | sensors m undef =>
    by_cases hon : s.firmware.enabled m = true
    · rw [System.sensorMoves, if_pos hon, StepMachine.run_singleton] at hsensors
      obtain ⟨hnext, hstream⟩ := SensorSystem.sensorMachine_step hsensors
      rw [sensorStream_append, hnext, hstream]
      exact hin.step (hfree hon).1
    · exact hstay (if_neg hon)
  | _ => exact hstay rfl

/-- Whatever is shown is written to the console, and to the display if `radar_display_init` bound it. -/
theorem written_step (h : Follows driver s t)
    (hstep : (system gpio driver cfg tables).step s m = some (s', o)) :
    written o = (reports (calls o)).flatMap (shownText (radarDisplayInit driver).2) := by
  cases m with
  | sensors m undef =>
    obtain ⟨f, acts, hfirmware, rfl, rfl⟩ := stepSensors_eq hstep
    obtain ⟨-, hcalls, hwritten, -⟩ := seen_sensors (s.sensorOutputs m) acts
    rw [hcalls, hwritten, (sensors_silent hfirmware).1]
    rfl
  | report disp undef =>
    cases stepReport_cases hstep with
    | nothing hno => rfl
    | judged g d shown text hgo hreport hjudged =>
      obtain ⟨-, hcalls, hwritten, -⟩ := seen_report (captureOf d) shown text
      rw [hcalls, hwritten, reports_append, reports_captureOf, List.append_nil]
      cases h with
      | starting hmain hfree =>
        rw [(starting_quiet hmain).2] at hgo
        exact nomatch hgo.2
      | running t hmain hinit hdisplay hglobals hfinal =>
        rcases hjudged with ⟨-, -, -, rfl, rfl⟩ | ⟨-, -, -, rfl, rfl⟩
        · rfl
        · rw [hdisplay]
          simp
  | camera m =>
    obtain ⟨c, log, heq, -⟩ := stepCamera_eq tables s m
    obtain ⟨rfl, rfl⟩ := Prod.mk.inj (heq.symm.trans (Option.some.inj hstep))
    obtain ⟨-, hcalls, hwritten, -⟩ := seen_camera log
    rw [hcalls, hwritten]
    rfl
  | _ =>
    obtain ⟨-, rfl⟩ := Prod.mk.inj (Option.some.inj hstep)
    rfl

/-- **From the edges to the display.** After a successful `sensor_init`, if the interrupt handler always
finds its way clear and no rise of sensor 1 is processed behind a report, then no event is lost or
overtaken, the reports shown are those of the windows cut out of the events handed over, one after the
other, and `radar_display_show` writes each to the console, and to the display if there is one, and nothing
else. -/
theorem end_to_end {uptime : UInt32} {moves : List SystemMove} (hok : 0 ≤ sensorInit gpio)
    (hfree : (system gpio driver cfg tables).Along (fun s m _ _ => s.Undisturbed m) (.boot uptime) moves)
    (hrun : (system gpio driver cfg tables).run (.boot uptime) moves = some (s, o)) :
    let history := (system gpio driver cfg tables).reads System.inputs (.boot uptime) moves
    Ordered (sentEvents (sensorStream o)) (handedEvents (sensorStream o) ++ s.firmware.sensors.queued)
        s.firmware.sensors.sending s.firmware.sensors.uptime ∧
      history.filterMap Input.sensorEvent = handedEvents (sensorStream o) ∧
      (CountsFit none history → windowReports cfg none history = some (reports (calls o))) ∧
      written o = (reports (calls o)).flatMap (shownText (radarDisplayInit driver).2) := by
  refine ⟨?_, ?_, fun hfit => ?_, ?_⟩
  · exact (system gpio driver cfg tables).run_history
      (R := fun s h => s.firmware.sensors.InOrder (sensorStream h)) (h := [])
      (fun _ _ _ _ _ hin hfree hstep => inOrder_step hin hfree hstep)
      (SensorSystem.inOrder_start uptime) hfree hrun
  · rw [← handed_eq]
    refine (system gpio driver cfg tables).reads_filterMap (fun s m s' o hstep => ?_) hrun
    rw [System.inputs, inputs_evt]
    exact events_step hstep
  · have hstep : ∀ s a m s' o, (∃ t, Follows driver s t ∧ Linearized t a) → s.Undisturbed m →
        (system gpio driver cfg tables).step s m = some (s', o) →
        ∃ a', (machine cfg).run a (s.inputs m) = some (a', o.filterMap SystemOutput.call?) ∧
          ∃ t, Follows driver s' t ∧ Linearized t a' := by
      rintro s a m s' o ⟨t, hfollows, hlinearized⟩ hfree hstep
      obtain ⟨t', hthreads, hfollows'⟩ := follows_step hok hfollows hstep
      obtain ⟨a', hatomic, hlinearized'⟩ :=
        linearized_run hlinearized (undisturbed_step hfollows hfree) hthreads
      exact ⟨a', hatomic, t', hfollows', hlinearized'⟩
    obtain ⟨a, hatomic, -⟩ := (system gpio driver cfg tables).run_simulate (machine cfg) hstep
      ⟨.start, follows_boot uptime, linearized_free rfl⟩ hfree hrun
    exact run_windowReports tracks_initial hfit hatomic
  · refine ((system gpio driver cfg tables).run_history (P := fun _ _ _ _ => True)
      (R := fun s h => (∃ t, Follows driver s t) ∧
        written h = (reports (calls h)).flatMap (shownText (radarDisplayInit driver).2)) (h := [])
      ?_ ⟨⟨.start, follows_boot uptime⟩, rfl⟩ (fun _ _ _ _ _ _ => trivial) hrun).2
    rintro s h m s' o ⟨⟨t, hfollows⟩, hwritten⟩ - hstep
    obtain ⟨t', -, hfollows'⟩ := follows_step hok hfollows hstep
    refine ⟨⟨t', hfollows'⟩, ?_⟩
    rw [written_append, hwritten, written_step hfollows hstep, calls_append, reports_append,
      List.flatMap_append]

/-! ### A vehicle -/

def readyGpio : GpioDriver := ⟨true, 0, 0, 0, 0⟩

def readyDisplay : DisplayDriver := ⟨true, true, true⟩

/-- One plate to a table. -/
def twoPlates : PlateTables where
  validCarLicensePlates := #[⟨⟨bytes "EGG3D02", by decide⟩, ⟨[], by decide⟩⟩]
  invalidCarLicensePlates := #[⟨⟨bytes "EGG3D0", by decide⟩, ⟨[], by decide⟩⟩]
  valid_pos := by decide
  invalid_pos := by decide

/-- Start-up, and two axles 20 milliseconds apart that reach sensor 2 in 20 milliseconds each. -/
def infractionMoves : List SystemMove :=
  [.main, .main, .main, .sensors (.gpio (some 1) 20 (some 1)) none, .sensors (.gpio (some 1) 0 none) none,
    .sensors .take none, .sensors .process none, .sensors .take none, .sensors .process none,
    .sensors .take none, .sensors .process none, .report ⟨.light, 0, 0, 0, 0, .normal⟩ none]

theorem infraction_run :
    ∃ s o, (system readyGpio readyDisplay .kconfig twoPlates).run (.boot 0) infractionMoves = some (s, o) ∧
      captures (calls o) = 1 ∧ (reports (calls o)).map RadarDisplayData.measuredSpeedKmh = [180] :=
  ⟨_, _, rfl, by decide, by decide⟩

theorem firmware_composes_infraction :
    ∃ s o, (system readyGpio readyDisplay .kconfig twoPlates).run (.boot 0) infractionMoves = some (s, o) ∧
      sensorMachine.run (.start 0) ((system readyGpio readyDisplay .kconfig twoPlates).reads
        System.sensorMoves (.boot 0) infractionMoves) = some (s.firmware.sensors, sensorStream o) ∧
      ((system readyGpio readyDisplay .kconfig twoPlates).reads System.threadMoves (.boot 0)
        infractionMoves).filterMap Move.evt = handedEvents (sensorStream o) ∧
      (∃ t, (threads .kconfig).run .start ((system readyGpio readyDisplay .kconfig twoPlates).reads
        System.threadMoves (.boot 0) infractionMoves) = some (t, calls o)) ∧
      (∃ ms, (camera twoPlates).run .start ms = some (s.camera, cameraLog o) ∧
        (ms.filterMap CameraMove.called).length = 1) ∧
      (reports (calls o)).map RadarDisplayData.measuredSpeedKmh = [180] := by
  obtain ⟨s, o, hrun, hcaptures, hspeed⟩ := infraction_run
  obtain ⟨hsensors, hevents, ⟨t, hthreads, -⟩, ms, hcamera, hcalled⟩ := firmware_composes (by decide) hrun
  exact ⟨s, o, hrun, hsensors, hevents, ⟨t, hthreads⟩, ⟨ms, hcamera, hcalled.trans hcaptures⟩, hspeed⟩

theorem end_to_end_infraction :
    ∃ s o, (system readyGpio readyDisplay .kconfig twoPlates).run (.boot 0) infractionMoves = some (s, o) ∧
      Ordered (sentEvents (sensorStream o)) (handedEvents (sensorStream o) ++ s.firmware.sensors.queued)
        s.firmware.sensors.sending s.firmware.sensors.uptime ∧
      ((system readyGpio readyDisplay .kconfig twoPlates).reads System.inputs (.boot 0)
        infractionMoves).filterMap Input.sensorEvent = handedEvents (sensorStream o) ∧
      windowReports .kconfig none ((system readyGpio readyDisplay .kconfig twoPlates).reads System.inputs
        (.boot 0) infractionMoves) = some (reports (calls o)) ∧
      written o = (reports (calls o)).flatMap (shownText true) ∧
      (reports (calls o)).map RadarDisplayData.measuredSpeedKmh = [180] := by
  have hfree : (system readyGpio readyDisplay .kconfig twoPlates).Along (fun s m _ _ => s.Undisturbed m)
      (.boot 0) infractionMoves := by
    refine ((system _ _ _ _).along_cons rfl).mpr ⟨trivial, ?_⟩
    refine ((system _ _ _ _).along_cons rfl).mpr ⟨trivial, ?_⟩
    refine ((system _ _ _ _).along_cons rfl).mpr ⟨trivial, ?_⟩
    refine ((system _ _ _ _).along_cons rfl).mpr ⟨fun _ => ⟨?_, fun h => nomatch h⟩, ?_⟩
    · exact ⟨fun _ => ⟨by decide, fun _ h => nomatch h⟩, fun _ => ⟨by decide, fun _ h => nomatch h⟩⟩
    refine ((system _ _ _ _).along_cons rfl).mpr ⟨fun _ => ⟨?_, fun h => nomatch h⟩, ?_⟩
    · exact ⟨fun _ => ⟨by decide, fun _ h => nomatch h⟩, fun h => nomatch h⟩
    refine ((system _ _ _ _).along_cons rfl).mpr ⟨fun _ => ⟨trivial, fun h => nomatch h⟩, ?_⟩
    refine ((system _ _ _ _).along_cons rfl).mpr ⟨fun _ => ⟨trivial, fun h => nomatch h⟩, ?_⟩
    refine ((system _ _ _ _).along_cons rfl).mpr ⟨fun _ => ⟨trivial, fun h => nomatch h⟩, ?_⟩
    refine ((system _ _ _ _).along_cons rfl).mpr ⟨fun _ => ⟨trivial, fun h => nomatch h⟩, ?_⟩
    refine ((system _ _ _ _).along_cons rfl).mpr ⟨fun _ => ⟨trivial, fun h => nomatch h⟩, ?_⟩
    refine ((system _ _ _ _).along_cons rfl).mpr ⟨fun _ => ⟨trivial, fun h => nomatch h⟩, ?_⟩
    exact ((system _ _ _ _).along_cons rfl).mpr ⟨trivial, StepMachine.along_nil _ _ _⟩
  obtain ⟨s, o, hrun, -, hspeed⟩ := infraction_run
  obtain ⟨hordered, hevents, hshown, hwritten⟩ := end_to_end (by decide) hfree hrun
  exact ⟨s, o, hrun, hordered, hevents, hshown (by decide), hwritten, hspeed⟩

end Radar
