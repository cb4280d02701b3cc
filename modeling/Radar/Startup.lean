import Radar.SensorQueue
import Radar.Step

/-!
# `main.c`: start-up

`main` configures the sensors, and returns at once if that fails; otherwise it initialises the processing
and the display. `sensor_thread` and the simulation are started by their definitions, not by `main`, and
run once `main` has returned, with whatever result. The interrupt handler runs from `gpio_add_callback`
on. After a failure nobody has called `radar_processing_init`, and the simulation still sends pulses:
`finalize_work` is never rescheduled before its initialisation exactly if `sensor_init` succeeds or no
rise of sensor 1 is processed (`initialised_before_use_iff`).
-/

namespace Radar

/-- What the GPIO driver answers to `sensor_init`, call by call. -/
structure GpioDriver where
  deviceIsReady : Bool
  pinConfigure1 : Int32
  pinConfigure2 : Int32
  pinInterruptConfigure1 : Int32
  pinInterruptConfigure2 : Int32
deriving DecidableEq, Repr

def enodev : Int32 := 19

def sensorInit (gpio : GpioDriver) : Int32 :=
  if gpio.deviceIsReady = false then -enodev
  else if gpio.pinConfigure1 < 0 then gpio.pinConfigure1
  else if gpio.pinConfigure2 < 0 then gpio.pinConfigure2
  else if gpio.pinInterruptConfigure1 < 0 then gpio.pinInterruptConfigure1
  else if gpio.pinInterruptConfigure2 < 0 then gpio.pinInterruptConfigure2
  else 0

/-- Where `main` is: at its start, behind `sensor_init`, behind `radar_processing_init`, or over. -/
inductive MainState where
  | entry
  | sensorsReady
  | processingReady
  | returned (ret : Int32)
deriving DecidableEq, Repr

structure Firmware where
  main : MainState
  sensors : SensorSystem
  globals : Globals

inductive FirmwareMove where
  | main
  | sensors (m : SensorMove) (undef : Option Int32)
  | fire (disp : RadarDisplayData) (undef : Option Int32)
deriving DecidableEq, Repr

def MainState.isOver : MainState → Bool
  | .returned _ => true
  | _ => false

/-- Whether `gpio_add_callback` has been called: a negative result is one of `sensor_init`. -/
def MainState.callbackAdded : MainState → Bool
  | .entry => false
  | .returned ret => 0 ≤ ret
  | _ => true

namespace Firmware

def stepMain (gpio : GpioDriver) (s : Firmware) : Firmware :=
  match s.main with
  | .entry =>
    if sensorInit gpio < 0 then { s with main := .returned (sensorInit gpio) }
    else { s with main := .sensorsReady }
  | .sensorsReady => { s with main := .processingReady, globals := radarProcessingInit s.globals }
  | .processingReady => { s with main := .returned 0 }
  | .returned _ => s

/-- The interrupt handler needs its callback, and the threads wait for `main`. -/
def enabled (s : Firmware) : SensorMove → Bool
  | .uptime _ => true
  | .gpio _ _ _ => s.main.callbackAdded
  | _ => s.main.isOver

/-- The calls of `radar_process_sensor_event` in a step of the sensors. -/
def inputs (o : List SensorOutput) (undef : Option Int32) : List Input :=
  (handedEvents o).map fun evt => .event (some evt) undef

/-- A step of the sensors, with the processing of what `sensor_thread` hands over. -/
def stepSensors (cfg : Config) (s : Firmware) (m : SensorMove) (undef : Option Int32) :
    Option (Firmware × List Action) :=
  if s.enabled m then
    ((machine cfg).run s.globals (inputs (s.sensors.step m).2 undef)).map fun r =>
      ({ s with sensors := (s.sensors.step m).1, globals := r.1 }, r.2)
  else some (s, [])

/-- The kernel calls the handler of a pending work item; one that was never initialised has none. -/
def stepFire (cfg : Config) (s : Firmware) (disp : RadarDisplayData) (undef : Option Int32) :
    Option (Firmware × List Action) :=
  if s.globals.ctx.finalizeWork.pending.isSome ∧ s.globals.ctx.finalizeWork.initialised = false then none
  else (Radar.step cfg s.globals (.fire disp undef)).map fun r => ({ s with globals := r.1 }, r.2)

def boot (uptime : UInt32) : Firmware := ⟨.entry, .start uptime, .boot⟩

end Firmware

/-- Every interleaving of `main`, the interrupts, the threads, time and the work queue. -/
def firmware (gpio : GpioDriver) (cfg : Config) : StepMachine Firmware FirmwareMove Action where
  step s
    | .main => some (s.stepMain gpio, [])
    | .sensors m undef => s.stepSensors cfg m undef
    | .fire disp undef => s.stepFire cfg disp undef

namespace Firmware

variable {gpio : GpioDriver} {cfg : Config} {s s' : Firmware} {acts : List Action}

/-- A step reschedules only an initialised `finalize_work`, and leaves no vehicle tracked after the failure
path of `main`. -/
def InitialisedBeforeUse (s s' : Firmware) (acts : List Action) : Prop :=
  (∀ delayMs, .reschedule delayMs ∈ acts → s.globals.ctx.finalizeWork.initialised = true) ∧
    ∀ ret, s'.main = .returned ret → ret < 0 → s'.globals.ctx.state = .idle

/-- The step hands over no rise of sensor 1. -/
def NoRise (s : Firmware) : FirmwareMove → Prop
  | .sensors m _ => s.enabled m → ∀ evt ∈ handedEvents (s.sensors.step m).2, ¬ evt.Rise 1
  | _ => True

/-! ### What one step does -/

theorem stepSensors_cases {m : SensorMove} {undef : Option Int32}
    (h : s.stepSensors cfg m undef = some (s', acts)) :
    (¬ s.enabled m = true ∧ s' = s ∧ acts = []) ∨
      (s.enabled m = true ∧ ∃ g,
        (machine cfg).run s.globals (inputs (s.sensors.step m).2 undef) = some (g, acts) ∧
        s' = ⟨s.main, (s.sensors.step m).1, g⟩) := by
  unfold stepSensors at h
  split_ifs at h with hm
  · rw [Option.map_eq_some_iff] at h
    obtain ⟨⟨g, acts'⟩, hrun, heq⟩ := h
    obtain ⟨rfl, rfl⟩ := Prod.mk.inj heq
    exact .inr ⟨hm, g, hrun, rfl⟩
  · obtain ⟨rfl, rfl⟩ := Prod.mk.inj (Option.some.inj h)
    exact .inl ⟨hm, rfl, rfl⟩

/-- A firing is one of the processing, of a work item that is initialised if it is pending. -/
theorem stepFire_cases {disp : RadarDisplayData} {undef : Option Int32}
    (h : s.stepFire cfg disp undef = some (s', acts)) :
    ∃ g, Radar.step cfg s.globals (.fire disp undef) = some (g, acts) ∧
      s' = ⟨s.main, s.sensors, g⟩ ∧
      (s.globals.ctx.finalizeWork.pending ≠ none → s.globals.ctx.finalizeWork.initialised = true) := by
  unfold stepFire at h
  split_ifs at h with hnull
  rw [Option.map_eq_some_iff] at h
  obtain ⟨⟨g, acts'⟩, hfire, heq⟩ := h
  obtain ⟨rfl, rfl⟩ := Prod.mk.inj heq
  refine ⟨g, hfire, rfl, fun hpending => ?_⟩
  have hsome := Option.isSome_iff_ne_none.mpr hpending
  simpa [hsome] using hnull

/-! ### The processing under the firmware -/

theorem handed_isrPin (s : SensorSystem) (sensorId : UInt8) (level : Option UInt8) :
    handedEvents (s.isrPin sensorId level).2 = [] := by
  cases level with
  | none => rfl
  | some level =>
    show handedEvents (s.sendFromIsr sensorId level).2 = []
    by_cases hfull : s.sensorMsgq.Full
    · rw [SensorSystem.sendFromIsr_full sensorId level hfull]
      rfl
    · obtain ⟨s', hsend, -⟩ := SensorSystem.sendFromIsr_room sensorId level hfull
      rw [hsend]
      rfl

theorem handed_gpio (s : SensorSystem) (level1 : Option UInt8) (between : UInt32)
    (level2 : Option UInt8) : handedEvents (s.step (.gpio level1 between level2)).2 = [] := by
  show handedEvents ((s.isrPin 1 level1).2 ++ ((s.isrPin 1 level1).1.advance between |>.isrPin 2 level2).2) = []
  rw [handedEvents_append, handed_isrPin, handed_isrPin, List.append_nil]

/-- Neither the handler nor time hands anything over, and the rest waits for `main`. -/
theorem handed_of_enabled {m : SensorMove} (hm : s.enabled m = true) :
    handedEvents (s.sensors.step m).2 = [] ∨ s.main.isOver = true := by
  cases m with
  | uptime now => exact .inl rfl
  | gpio level1 between level2 => exact .inl (handed_gpio _ level1 between level2)
  | _ => exact .inr hm

/-- Nothing but `radar_processing_init` initialises the work item, and nothing undoes it. -/
theorem initialised_run {g g' : Globals} {is : List Input} {b : Bool}
    (hg : g.ctx.finalizeWork.initialised = b) (hrun : (machine cfg).run g is = some (g', acts)) :
    g'.ctx.finalizeWork.initialised = b := by
  refine (machine cfg).run_invariant (I := fun g => g.ctx.finalizeWork.initialised = b) ?_ hg hrun
  intro g i g' acts hg hstep
  cases i with
  | event evt undef =>
    cases event_cases hstep with
    | opens e hstate hrise => exact hg
    | axle e hstate hrise => exact hg
    | sensor2 e t hstate hrise hfirst ht => exact hg
    | ignored _ hignores => exact hg
  | fire disp undef =>
    cases fire_cases hstep with
    | notPending hpending => exact hg
    | noise hpending hnoise => exact hg
    | report s hpending hnoise hs => exact hg

/-- In an idle context only a rise of sensor 1 does anything. -/
theorem idle_run {g : Globals} (hidle : g.ctx.state = .idle) (undef : Option Int32) {evts : List SensorEvent}
    (hno : ∀ evt ∈ evts, ¬ evt.Rise 1) :
    (machine cfg).run g (evts.map fun evt => .event (some evt) undef) = some (g, []) := by
  induction evts with
  | nil => rfl
  | cons evt evts ih =>
    have hignores : g.Ignores (some evt) := by
      rintro e ⟨⟩
      refine ⟨hno evt List.mem_cons_self, ?_⟩
      rintro ⟨-, htracking, -⟩
      rw [hidle] at htracking
      cases htracking
    have hstep : (machine cfg).step g (.event (some evt) undef) = some (g, []) := event_ignored hignores
    rw [List.map_cons, StepMachine.run_cons, hstep, Option.bind_some,
      ih fun e he => hno e (List.mem_cons_of_mem _ he)]
    rfl

/-- A rise of sensor 1 that finds the context idle reschedules. -/
theorem rise_run {g g' : Globals} (hidle : g.ctx.state = .idle) {undef : Option Int32} :
    ∀ {evts : List SensorEvent} {acts : List Action}, (∃ evt ∈ evts, evt.Rise 1) →
      (machine cfg).run g (evts.map fun evt => .event (some evt) undef) = some (g', acts) →
      ∃ delayMs, .reschedule delayMs ∈ acts := by
  intro evts
  induction evts with
  | nil =>
    rintro acts ⟨evt, hevt, -⟩
    cases hevt
  | cons evt evts ih =>
    intro acts hrise hrun
    obtain ⟨g₁, o₁, o₂, hstep, hrest, rfl⟩ := (machine cfg).run_cons_some hrun
    by_cases h1 : evt.Rise 1
    · have hopens : some (g₁, o₁) = some (kWorkReschedule (initContext g evt)) :=
        hstep.symm.trans (event_opens hidle h1)
      obtain ⟨-, rfl⟩ := Prod.mk.inj (Option.some.inj hopens)
      exact ⟨_, List.mem_append_left _ (List.mem_singleton_self _)⟩
    · have hsame := @idle_run cfg g hidle undef [evt] (by simpa using h1)
      rw [List.map_singleton, StepMachine.run_singleton, hstep] at hsame
      obtain ⟨rfl, rfl⟩ := Prod.mk.inj (Option.some.inj hsame)
      have hlater : ∃ e ∈ evts, e.Rise 1 := by
        obtain ⟨e, he, hr⟩ := hrise
        rcases List.mem_cons.mp he with rfl | he
        · exact absurd hr h1
        · exact ⟨e, he, hr⟩
      exact ih hlater hrest

/-! ### Start-up that succeeds -/

/-- `main` is past `radar_processing_init`, or no thread runs yet. -/
def Ready (s : Firmware) : Prop :=
  s.main = .entry ∨ s.main = .sensorsReady ∨
    (s.main = .processingReady ∨ s.main = .returned 0) ∧ s.globals.ctx.finalizeWork.initialised = true

theorem Ready.initialised (h : s.Ready) (hover : s.main.isOver = true) :
    s.globals.ctx.finalizeWork.initialised = true := by
  rcases h with hmain | hmain | ⟨-, hinit⟩
  · rw [hmain] at hover
    cases hover
  · rw [hmain] at hover
    cases hover
  · exact hinit

theorem Ready.main_step (h : s.Ready) (hok : 0 ≤ sensorInit gpio) : (s.stepMain gpio).Ready := by
  have hnot : ¬ sensorInit gpio < 0 := Int32.not_lt.mpr hok
  unfold stepMain
  rcases h with hmain | hmain | ⟨hmain | hmain, hinit⟩
  · simp only [hmain, if_neg hnot]
    exact .inr (.inl rfl)
  · simp only [hmain]
    exact .inr (.inr ⟨.inl rfl, rfl⟩)
  · simp only [hmain]
    exact .inr (.inr ⟨.inr rfl, hinit⟩)
  · simp only [hmain]
    exact .inr (.inr ⟨.inr hmain, hinit⟩)

/-- A step of the processing leaves `main` where it is and the work item initialised. -/
theorem Ready.globals_step (h : s.Ready) {is : List Input} {g : Globals}
    (hrun : (machine cfg).run s.globals is = some (g, acts)) (sensors : SensorSystem) :
    (⟨s.main, sensors, g⟩ : Firmware).Ready := by
  rcases h with hmain | hmain | ⟨hmain, hinit⟩
  · exact .inl hmain
  · exact .inr (.inl hmain)
  · exact .inr (.inr ⟨hmain, initialised_run hinit hrun⟩)

theorem Ready.not_aborted (h : s.Ready) {ret : Int32} (hret : s.main = .returned ret) : ¬ ret < 0 := by
  have hzero : ret = 0 := by
    rcases h with hmain | hmain | ⟨hmain | hmain, -⟩
    all_goals
      rw [hret] at hmain
      cases hmain
    rfl
  rw [hzero]
  decide

theorem Ready.step (h : s.Ready) (hok : 0 ≤ sensorInit gpio) {m : FirmwareMove}
    (hstep : (firmware gpio cfg).step s m = some (s', acts)) :
    InitialisedBeforeUse s s' acts ∧ s'.Ready := by
  have key : s'.Ready → (∀ delayMs, .reschedule delayMs ∈ acts →
      s.globals.ctx.finalizeWork.initialised = true) → InitialisedBeforeUse s s' acts ∧ s'.Ready :=
    fun hready hinit => ⟨⟨hinit, fun ret hret hneg => absurd hneg (hready.not_aborted hret)⟩, hready⟩
  cases m with
  | main =>
    obtain ⟨rfl, rfl⟩ := Prod.mk.inj (Option.some.inj hstep)
    exact key (h.main_step hok) fun _ hmem => nomatch hmem
  | sensors m undef =>
    rcases stepSensors_cases hstep with ⟨-, rfl, rfl⟩ | ⟨hm, g, hrun, rfl⟩
    · exact key h fun _ hmem => nomatch hmem
    · refine key (h.globals_step hrun _) fun delayMs hmem => ?_
      rcases handed_of_enabled hm with hnone | hover
      · rw [inputs, hnone, List.map_nil, StepMachine.run_nil, Option.some.injEq, Prod.mk.injEq] at hrun
        rw [← hrun.2] at hmem
        cases hmem
      · exact h.initialised hover
  | fire disp undef =>
    obtain ⟨g, hfire, rfl, hpending⟩ := stepFire_cases hstep
    have hrun : (machine cfg).run s.globals [.fire disp undef] = some (g, acts) := by
      rw [StepMachine.run_singleton]
      exact hfire
    refine key (h.globals_step hrun _) fun delayMs hmem => hpending ?_
    intro hnone
    rw [fire_notPending hnone] at hfire
    obtain ⟨rfl, rfl⟩ := Prod.mk.inj (Option.some.inj hfire)
    cases hmem

/-! ### Start-up that fails -/

/-- `main` has stopped at `sensor_init` and nothing has happened to the context. -/
def Untouched (gpio : GpioDriver) (s : Firmware) : Prop :=
  (s.main = .entry ∨ s.main = .returned (sensorInit gpio)) ∧ s.globals = .boot

theorem Untouched.step (h : s.Untouched gpio) (hfail : sensorInit gpio < 0) {m : FirmwareMove}
    (hstep : (firmware gpio cfg).step s m = some (s', acts)) :
    (InitialisedBeforeUse s s' acts ↔ s.NoRise m) ∧ (s.NoRise m → s'.Untouched gpio) := by
  obtain ⟨hmain, hboot⟩ := h
  have hidle : s.globals.ctx.state = .idle := by rw [hboot]; rfl
  have key : acts = [] → s'.Untouched gpio → s.NoRise m →
      (InitialisedBeforeUse s s' acts ↔ s.NoRise m) ∧ (s.NoRise m → s'.Untouched gpio) := by
    rintro rfl hs' hno
    have hlaw : InitialisedBeforeUse s s' [] := by
      refine ⟨fun _ hmem => (nomatch hmem), fun _ _ _ => ?_⟩
      rw [hs'.2]
      rfl
    exact ⟨iff_of_true hlaw hno, fun _ => hs'⟩
  cases m with
  | main =>
    obtain ⟨rfl, rfl⟩ := Prod.mk.inj (Option.some.inj hstep)
    refine key rfl ?_ trivial
    unfold stepMain
    rcases hmain with hmain | hmain
    · simp only [hmain, if_pos hfail]
      exact ⟨.inr rfl, hboot⟩
    · simp only [hmain]
      exact ⟨.inr hmain, hboot⟩
  | sensors m undef =>
    rcases stepSensors_cases hstep with ⟨hm, rfl, rfl⟩ | ⟨hm, g, hrun, rfl⟩
    · exact key rfl ⟨hmain, hboot⟩ fun h => absurd h hm
    · by_cases hno : ∀ evt ∈ handedEvents (s.sensors.step m).2, ¬ evt.Rise 1
      · rw [inputs, idle_run hidle undef hno] at hrun
        obtain ⟨rfl, rfl⟩ := Prod.mk.inj (Option.some.inj hrun)
        exact key rfl ⟨hmain, hboot⟩ fun _ => hno
      · have hrise : ∃ evt ∈ handedEvents (s.sensors.step m).2, evt.Rise 1 := by
          push Not at hno
          exact hno
        obtain ⟨delayMs, hmem⟩ := rise_run hidle hrise hrun
        have hnoRise : ¬ s.NoRise (.sensors m undef) := fun h => hno (h hm)
        refine ⟨iff_of_false (fun hlaw => ?_) hnoRise, fun h => absurd h hnoRise⟩
        have hinit := hlaw.1 delayMs hmem
        rw [hboot] at hinit
        cases hinit
  | fire disp undef =>
    obtain ⟨g, hfire, rfl, -⟩ := stepFire_cases hstep
    have hnone : s.globals.ctx.finalizeWork.pending = none := by rw [hboot]; rfl
    rw [fire_notPending hnone] at hfire
    obtain ⟨rfl, rfl⟩ := Prod.mk.inj (Option.some.inj hfire)
    exact key rfl ⟨hmain, hboot⟩ trivial

end Firmware

/-- **`finalize_work` is initialised before it is rescheduled**, and no vehicle is tracked after a failed
start-up, exactly if `sensor_init` succeeds or no rise of sensor 1 is handed over. -/
theorem initialised_before_use_iff (gpio : GpioDriver) (cfg : Config) (t : UInt32)
    (moves : List FirmwareMove) :
    (firmware gpio cfg).Along (fun s _ s' acts => s.InitialisedBeforeUse s' acts) (.boot t) moves ↔
      0 ≤ sensorInit gpio ∨ (firmware gpio cfg).Along (fun s m _ _ => s.NoRise m) (.boot t) moves := by
  by_cases hok : 0 ≤ sensorInit gpio
  · refine iff_of_true ?_ (.inl hok)
    have htrue : (firmware gpio cfg).Along (fun _ _ _ _ => True) (.boot t) moves :=
      fun _ _ _ _ _ _ => trivial
    refine (firmware gpio cfg).along_imp (I := Firmware.Ready) ?_ (.inl rfl) htrue
    intro s m s' acts h _ hstep
    exact (h.step hok hstep).symm
  · have hfail : sensorInit gpio < 0 := Int32.not_le.mp hok
    have hiff : (firmware gpio cfg).Along (fun s m _ _ => s.NoRise m) (.boot t) moves ↔
        (firmware gpio cfg).Along (fun s _ s' acts => s.InitialisedBeforeUse s' acts) (.boot t) moves := by
      refine (firmware gpio cfg).along_congr (I := Firmware.Untouched gpio) ?_ ?_ ⟨.inl rfl, rfl⟩
      · exact fun s m s' acts h hstep => (h.step hfail hstep).1.symm
      · exact fun s m s' acts h hno hstep => (h.step hfail hstep).2 hno
    rw [← hiff, or_iff_right hok]

/-- The GPIO controller is not ready. -/
def absentGpio : GpioDriver := ⟨false, 0, 0, 0, 0⟩

/-- The first simulated pulse, after `main` has returned. -/
def firstPulse : List FirmwareMove :=
  [.main, .sensors (.simStamp 1) none, .sensors .simPut none, .sensors .take none, .sensors .process none]

theorem first_pulse_uninitialised :
    ¬ ∀ (gpio : GpioDriver) (cfg : Config) (t : UInt32) (moves : List FirmwareMove),
      (firmware gpio cfg).Along (fun s _ s' acts => s.InitialisedBeforeUse s' acts) (.boot t) moves := by
  intro h
  have hlaw := h absentGpio .kconfig 0 firstPulse _ (.sensors .process none) _ _
    ⟨firstPulse.take 4, [], _, rfl, rfl⟩ rfl
  have hinit := hlaw.1 500 (by decide)
  exact absurd hinit (by decide)

end Radar
