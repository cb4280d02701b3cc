import Radar.Step
import Mathlib.Data.List.Induction

/-!
# The context and its timer

`TimerInv` ties the tracking state to the pending work and pins `radar_stop_timeout` to 500 as long as
no sensor-2 reading of the open window is in; it holds after every run. Where no divisor is zero, the
timeout is the one of the speed that the firing will report (`TimeoutMeasured`), and that speed is
settled for the rest of the window (`speed_settled`).

`Shifted` relates two files whose open windows are the same up to a shift of the clock. It ignores what
`vehicle_context_reset` leaves behind (`sensor2_seen`, `sensor2_time_ms`), and two idle files are always
related, so no vehicle depends on the ones before it.
-/

namespace Radar

variable {cfg : Config} {undef : Option Int32} {g g' : Globals} {acts : List Action}

/-! ### The invariant -/

/-- What holds of the state, the pending work and `radar_stop_timeout` after every run. -/
structure TimerInv (g : Globals) : Prop where
  pending : g.ctx.state = .tracking ↔ g.ctx.finalizeWork.pending ≠ none
  idle : g.ctx.state = .idle → g.ctx.axleCount = 0 ∧ g.radarStopTimeout = 500
  unseen : g.ctx.state = .tracking → g.ctx.sensor2Seen = false → g.radarStopTimeout = 500

/-- The timeout in force after a sensor-2 reading is the one `compute_timeout` derives from it. -/
def TimeoutMeasured (cfg : Config) (g : Globals) : Prop :=
  g.ctx.state = .tracking → g.ctx.sensor2Seen = true →
    stopTimeout cfg.sensorDistanceMm (g.ctx.sensor2TimeMs - g.ctx.startTimeMs) =
      some g.radarStopTimeout

theorem timerInv_initial : TimerInv initial :=
  ⟨⟨fun h => (nomatch h), fun h => absurd rfl h⟩, fun _ => ⟨rfl, rfl⟩, fun h => (nomatch h)⟩

theorem timerInv_event {evt : Option SensorEvent} (h : TimerInv g)
    (heffect : EventEffect cfg undef g evt g' acts) : TimerInv g' := by
  cases heffect with
  | opens e hstate hrise =>
    exact ⟨by simp, fun h => (nomatch h), fun _ _ => (h.idle hstate).2⟩
  | axle e hstate hrise =>
    refine ⟨by simp [hstate], fun hidle => ?_, fun _ hseen => h.unseen hstate hseen⟩
    exact absurd (hstate.symm.trans hidle) (by decide)
  | sensor2 e t hstate hrise hfirst ht =>
    refine ⟨h.pending, fun hidle => ?_, fun _ hseen => nomatch hseen⟩
    exact absurd (hstate.symm.trans hidle) (by decide)
  | ignored evt hignores => exact h

theorem timerInv_reset : TimerInv (vehicleContextReset (takeWork g)) :=
  ⟨⟨fun h => (nomatch h), fun h => absurd rfl h⟩, fun _ => ⟨rfl, rfl⟩, fun h => (nomatch h)⟩

theorem timerInv_step {x : Input} (h : TimerInv g) (hstep : step cfg g x = some (g', acts)) :
    TimerInv g' := by
  cases x with
  | event evt undef => exact timerInv_event h (event_cases hstep)
  | fire disp undef =>
    cases fire_cases hstep with
    | notPending hpending => exact h
    | noise hpending hnoise => exact timerInv_reset
    | report s hpending hnoise hs => exact timerInv_reset

theorem timerInv_run {xs : List Input} (h : (machine cfg).run initial xs = some (g, acts)) :
    TimerInv g :=
  (machine cfg).run_invariant (fun _ _ _ _ hI hs => timerInv_step hI hs) timerInv_initial h

theorem timeoutMeasured_step {x : Input} (h : TimeoutMeasured cfg g) (hx : x.Strict)
    (hstep : step cfg g x = some (g', acts)) : TimeoutMeasured cfg g' := by
  cases x with
  | event evt undef =>
    obtain rfl : undef = none := hx
    cases event_cases hstep with
    | opens e hstate hrise => exact fun _ hseen => nomatch hseen
    | axle e hstate hrise => exact h
    | sensor2 e t hstate hrise hfirst ht => exact fun _ _ => by simpa using ht
    | ignored evt hignores => exact h
  | fire disp undef =>
    cases fire_cases hstep with
    | notPending hpending => exact h
    | noise hpending hnoise => exact fun hstate _ => nomatch hstate
    | report s hpending hnoise hs => exact fun hstate _ => nomatch hstate

theorem timeoutMeasured_run {xs : List Input} (hstrict : ∀ x ∈ xs, x.Strict)
    (h : (machine cfg).run initial xs = some (g, acts)) : TimeoutMeasured cfg g := by
  induction xs using List.reverseRecOn generalizing g acts with
  | nil =>
    simp only [StepMachine.run_nil, Option.some.injEq, Prod.mk.injEq] at h
    obtain ⟨rfl, -⟩ := h
    exact fun hstate => nomatch hstate
  | append_singleton xs x ih =>
    obtain ⟨g₁, o₁, o₂, hrun, hstep⟩ := (machine cfg).run_concat_some h
    exact timeoutMeasured_step (ih (fun y hy => hstrict y (by simp [hy])) hrun)
      (hstrict x (by simp)) hstep

/-! ### The speed of a window is settled by its first sensor-2 reading -/

/-- The inputs of a window after the present point, up to its firing. -/
def events (es : List (Option SensorEvent)) : List Input := es.map fun e => .event e none

/-- Whatever is still read in the window, a report of it carries the speed `s`. -/
def SpeedSettled (cfg : Config) (g : Globals) (s : Int32) : Prop :=
  ∀ es g₁ o₁ disp g₂ o₂ d, (machine cfg).run g (events es) = some (g₁, o₁) →
    step cfg g₁ (.fire disp none) = some (g₂, o₂) → .display d ∈ o₂ → d.measuredSpeedKmh = s

theorem seen_event {s : Int32} {evt : Option SensorEvent}
    (h : g.ctx.state = .tracking ∧ g.ctx.sensor2Seen = true ∧ g.speedKmh cfg = some s)
    (heffect : EventEffect cfg undef g evt g' acts) :
    g'.ctx.state = .tracking ∧ g'.ctx.sensor2Seen = true ∧ g'.speedKmh cfg = some s := by
  obtain ⟨hstate, hseen, hs⟩ := h
  cases heffect with
  | opens e hidle hrise => exact absurd (hstate.symm.trans hidle) (by decide)
  | axle e _ hrise => exact ⟨hstate, hseen, hs⟩
  | sensor2 e t _ hrise hfirst ht => exact absurd (hseen.symm.trans hfirst) (by decide)
  | ignored evt hignores => exact ⟨hstate, hseen, hs⟩

theorem seen_events {s : Int32} {es : List (Option SensorEvent)}
    (h : g.ctx.state = .tracking ∧ g.ctx.sensor2Seen = true ∧ g.speedKmh cfg = some s)
    (hrun : (machine cfg).run g (events es) = some (g', acts)) :
    g'.ctx.state = .tracking ∧ g'.ctx.sensor2Seen = true ∧ g'.speedKmh cfg = some s := by
  induction es generalizing g acts with
  | nil =>
    simp only [events, List.map_nil, StepMachine.run_nil, Option.some.injEq, Prod.mk.injEq] at hrun
    obtain ⟨rfl, -⟩ := hrun
    exact h
  | cons e es ih =>
    obtain ⟨g₁, o₁, o₂, hstep, hrest, -⟩ := (machine cfg).run_cons_some hrun
    exact ih (seen_event h (event_cases hstep)) hrest

theorem mem_captureOf_display {disp d : RadarDisplayData} : .display d ∉ captureOf disp := by
  unfold captureOf
  split <;> simp

theorem speed_settled {s : Int32} (hstate : g.ctx.state = .tracking)
    (hseen : g.ctx.sensor2Seen = true) (hs : g.speedKmh cfg = some s) : SpeedSettled cfg g s := by
  intro es g₁ o₁ disp g₂ o₂ d hrun hfire hmem
  obtain ⟨-, -, hs₁⟩ := seen_events ⟨hstate, hseen, hs⟩ hrun
  cases fire_cases hfire with
  | notPending hpending => simp at hmem
  | noise hpending hnoise => exact absurd hmem mem_captureOf_display
  | report s' hpending hnoise hs' =>
    rw [hs₁] at hs'
    rcases List.mem_cons.mp hmem with heq | hmem
    · rw [Action.display.inj heq]
      exact (Option.some.inj hs').symm
    · exact absurd hmem mem_captureOf_display

/-- **Context and timer stay in step.** After every run in which no divisor is zero: the state is
TRACKING exactly when the work is pending; an idle context counts no axle and has the timeout 500; so
has a window without a sensor-2 reading; and with one, the timeout is `18000 / s` for the speed `s` that
the window will be reported with. A window therefore always opens with a delay of 500. -/
theorem context_timer_invariant (cfg : Config) (xs : List Input) (hstrict : ∀ x ∈ xs, x.Strict)
    (g : Globals) (acts : List Action) (hrun : (machine cfg).run initial xs = some (g, acts)) :
    (g.ctx.state = .tracking ↔ g.ctx.finalizeWork.pending ≠ none) ∧
      (g.ctx.state = .idle → g.ctx.axleCount = 0 ∧ g.radarStopTimeout = 500) ∧
      (g.ctx.state = .tracking → g.ctx.sensor2Seen = false → g.radarStopTimeout = 500) ∧
      (g.ctx.state = .tracking → g.ctx.sensor2Seen = true →
        ∃ s, g.speedKmh cfg = some s ∧ 0 < s.toInt ∧ g.radarStopTimeout.toInt = 18000 / s.toInt ∧
          SpeedSettled cfg g s) ∧
      ∀ e d g' o, g.ctx.state = .idle → step cfg g (.event e none) = some (g', o) →
        .reschedule d ∈ o → d = 500 := by
  have hinv := timerInv_run hrun
  refine ⟨hinv.pending, hinv.idle, hinv.unseen, fun hstate hseen => ?_, fun e d g' o hidle hstep hmem => ?_⟩
  · obtain ⟨s, hs, hpos, ht⟩ := stopTimeout_eq_some.mp (timeoutMeasured_run hstrict hrun hstate hseen)
    exact ⟨s, hs, hpos, ht, speed_settled hstate hseen hs⟩
  · cases event_cases hstep with
    | opens e _ hrise =>
      simp only [List.mem_singleton, Action.reschedule.injEq] at hmem
      rw [hmem, (hinv.idle hidle).2]
    | axle e hstate hrise => exact absurd (hidle.symm.trans hstate) (by decide)
    | sensor2 e t hstate hrise hfirst ht => simp at hmem
    | ignored evt hignores => simp at hmem

/-- The simulated vehicle, whose 30 km/h give a timeout of 600 ms. -/
theorem context_timer_invariant_simVehicle :
    ∃ g acts, (machine .kconfig).run initial (simVehicle 0) = some (g, acts) ∧
      g.radarStopTimeout = 600 ∧ ∃ s, g.speedKmh .kconfig = some s ∧ 0 < s.toInt ∧
        g.radarStopTimeout.toInt = 18000 / s.toInt ∧ SpeedSettled .kconfig g s :=
  ⟨_, _, rfl, by decide,
    (context_timer_invariant .kconfig (simVehicle 0) (by decide) _ _ rfl).2.2.2.1 rfl rfl⟩

/-! ### Two files side by side -/

/-- Two files that hold the same window, the second with its clock `c` ahead. -/
structure Shifted (c : UInt32) (g₁ g₂ : Globals) : Prop where
  state : g₂.ctx.state = g₁.ctx.state
  axles : g₂.ctx.axleCount = g₁.ctx.axleCount
  timeout : g₂.radarStopTimeout = g₁.radarStopTimeout
  pending : g₂.ctx.finalizeWork.pending = g₁.ctx.finalizeWork.pending
  seen : g₁.ctx.state = .tracking → g₂.ctx.sensor2Seen = g₁.ctx.sensor2Seen
  start : g₁.ctx.state = .tracking → g₂.ctx.startTimeMs = g₁.ctx.startTimeMs + c
  sensor2 : g₁.ctx.state = .tracking → g₁.ctx.sensor2Seen = true →
    g₂.ctx.sensor2TimeMs = g₁.ctx.sensor2TimeMs + c

/-- The event `c` milliseconds later, modulo `2^32`. -/
def SensorEvent.shift (c : UInt32) (e : SensorEvent) : SensorEvent :=
  { e with timestampMs := e.timestampMs + c }

/-- Corresponding inputs of the two files: the same event `c` later, or two firings. -/
inductive ShiftInput (c : UInt32) : Input → Input → Prop where
  | event (evt : Option SensorEvent) :
      ShiftInput c (.event evt none) (.event (evt.map (SensorEvent.shift c)) none)
  | fire (disp disp' : RadarDisplayData) : ShiftInput c (.fire disp none) (.fire disp' none)

/-- What the two files are compared by: the state, the axle count and the calls of a step. The camera
call is left out: on a noise firing it depends on what the stack held. -/
def observe (g : Globals) (acts : List Action) : VehicleTrackState × UInt8 × List Action :=
  (g.ctx.state, g.ctx.axleCount, acts.filter fun a => !decide (a = .capture))

variable {c : UInt32} {g₁ g₂ : Globals}

theorem shift_rise (e : SensorEvent) (id : UInt8) : (e.shift c).Rise id ↔ e.Rise id := Iff.rfl

theorem shift_elapsed (a b : UInt32) : a + c - (b + c) = a - b := by
  grind

/-- Idle files are related whatever vehicles they have seen. -/
theorem TimerInv.shifted (h₁ : TimerInv g₁) (h₂ : TimerInv g₂) (hidle₁ : g₁.ctx.state = .idle)
    (hidle₂ : g₂.ctx.state = .idle) : Shifted c g₁ g₂ := by
  have hnone : ∀ g, TimerInv g → g.ctx.state = .idle → g.ctx.finalizeWork.pending = none := by
    intro g h hidle
    by_contra hpending
    exact absurd (hidle.symm.trans (h.pending.mpr hpending)) (by decide)
  refine ⟨by rw [hidle₁, hidle₂], ?_, ?_, ?_, ?_, ?_, ?_⟩
  · rw [(h₁.idle hidle₁).1, (h₂.idle hidle₂).1]
  · rw [(h₁.idle hidle₁).2, (h₂.idle hidle₂).2]
  · rw [hnone g₁ h₁ hidle₁, hnone g₂ h₂ hidle₂]
  all_goals
    intro hstate
    exact absurd (hidle₁.symm.trans hstate) (by decide)

theorem Shifted.ignores {evt : Option SensorEvent} (h : Shifted c g₁ g₂) (hignores : g₁.Ignores evt) :
    g₂.Ignores (evt.map (SensorEvent.shift c)) := by
  intro e' he'
  obtain ⟨e, rfl, rfl⟩ := Option.map_eq_some_iff.mp he'
  obtain ⟨h1, h2⟩ := hignores e rfl
  refine ⟨h1, fun ⟨hr, hstate, hfirst⟩ => ?_⟩
  rw [h.state] at hstate
  rw [h.seen hstate] at hfirst
  exact h2 ⟨hr, hstate, hfirst⟩

/-- The two files step on corresponding inputs to related states with the same observation, or stop
together. -/
def StepsAlike (cfg : Config) (c : UInt32) (g₁ g₂ : Globals) (x y : Input) : Prop :=
  (step cfg g₁ x = none ∧ step cfg g₂ y = none) ∨
    ∃ g₁' o₁ g₂' o₂, step cfg g₁ x = some (g₁', o₁) ∧ step cfg g₂ y = some (g₂', o₂) ∧
      Shifted c g₁' g₂' ∧ observe g₁' o₁ = observe g₂' o₂

theorem Shifted.opens {e : SensorEvent} (h : Shifted c g₁ g₂) (hstate : g₁.ctx.state = .idle)
    (hrise : e.Rise 1) :
    StepsAlike cfg c g₁ g₂ (.event (some e) none) (.event (some (e.shift c)) none) := by
  refine Or.inr ⟨_, _, _, _, event_opens hstate hrise,
    event_opens (h.state.trans hstate) ((shift_rise e 1).mpr hrise), ?_, ?_⟩
  · exact ⟨rfl, rfl, h.timeout, by simp [h.timeout], fun _ => rfl, fun _ => rfl,
      fun _ hseen => nomatch hseen⟩
  · simp [observe, h.timeout]

theorem Shifted.axle {e : SensorEvent} (h : Shifted c g₁ g₂) (hstate : g₁.ctx.state = .tracking)
    (hrise : e.Rise 1) :
    StepsAlike cfg c g₁ g₂ (.event (some e) none) (.event (some (e.shift c)) none) := by
  refine Or.inr ⟨_, _, _, _, event_axle hstate hrise,
    event_axle (h.state.trans hstate) ((shift_rise e 1).mpr hrise), ?_, ?_⟩
  · exact ⟨h.state, by simp [h.axles], h.timeout, by simp [h.timeout], h.seen, h.start, h.sensor2⟩
  · simp [observe, h.state, h.axles, h.timeout]

theorem Shifted.register {e : SensorEvent} (h : Shifted c g₁ g₂) (hstate : g₁.ctx.state = .tracking)
    (hrise : e.Rise 2) (hfirst : g₁.ctx.sensor2Seen = false) :
    StepsAlike cfg c g₁ g₂ (.event (some e) none) (.event (some (e.shift c)) none) := by
  have hevent₁ := @event_sensor2 cfg none g₁ e hstate hrise hfirst
  have hevent₂ := @event_sensor2 cfg none g₂ (e.shift c) (h.state.trans hstate)
    ((shift_rise e 2).mpr hrise) ((h.seen hstate).trans hfirst)
  have helapsed : (e.shift c).timestampMs - g₂.ctx.startTimeMs = e.timestampMs - g₁.ctx.startTimeMs := by
    rw [h.start hstate]
    exact shift_elapsed _ _
  rw [helapsed] at hevent₂
  cases ht : stopTimeout cfg.sensorDistanceMm (e.timestampMs - g₁.ctx.startTimeMs) with
  | none =>
    rw [ht] at hevent₁ hevent₂
    exact Or.inl ⟨hevent₁, hevent₂⟩
  | some t =>
    rw [ht] at hevent₁ hevent₂
    refine Or.inr ⟨_, _, _, _, hevent₁, hevent₂, ?_, ?_⟩
    · exact ⟨h.state, h.axles, rfl, h.pending, fun _ => rfl, h.start, fun _ _ => rfl⟩
    · simp [observe, h.state, h.axles]

theorem Shifted.event (h : Shifted c g₁ g₂) (evt : Option SensorEvent) :
    StepsAlike cfg c g₁ g₂ (.event evt none) (.event (evt.map (SensorEvent.shift c)) none) := by
  by_cases hignores : g₁.Ignores evt
  · refine Or.inr ⟨_, _, _, _, event_ignored hignores, event_ignored (h.ignores hignores), h, ?_⟩
    simp [observe, h.state, h.axles]
  · simp only [Globals.Ignores, not_forall] at hignores
    obtain ⟨e, rfl, he⟩ := hignores
    by_cases h1 : e.Rise 1
    · cases hstate : g₁.ctx.state with
      | idle => exact h.opens hstate h1
      | tracking => exact h.axle hstate h1
    · obtain ⟨h2, hstate, hfirst⟩ := not_not.mp fun hno => he ⟨h1, hno⟩
      exact h.register hstate h2 hfirst

theorem Shifted.noise_iff (h : Shifted c g₁ g₂) : g₂.Noise ↔ g₁.Noise := by
  cases hstate : g₁.ctx.state with
  | idle => simp [Globals.Noise, h.state, hstate]
  | tracking => simp [Globals.Noise, h.state, hstate, h.seen hstate, h.axles]

theorem Shifted.elapsed (h : Shifted c g₁ g₂) (hnoise : ¬ g₁.Noise) :
    g₂.ctx.sensor2TimeMs - g₂.ctx.startTimeMs = g₁.ctx.sensor2TimeMs - g₁.ctx.startTimeMs := by
  simp only [Globals.Noise, not_or, Bool.not_eq_false, not_not] at hnoise
  rw [h.start hnoise.2.1, h.sensor2 hnoise.2.1 hnoise.1]
  exact shift_elapsed _ _

theorem filter_captureOf (disp : RadarDisplayData) :
    (captureOf disp).filter (fun a => !decide (a = .capture)) = [] := by
  unfold captureOf
  split <;> rfl

theorem shifted_reset :
    Shifted c (vehicleContextReset (takeWork g₁)) (vehicleContextReset (takeWork g₂)) :=
  ⟨rfl, rfl, rfl, rfl, fun h => (nomatch h), fun h => (nomatch h), fun h => (nomatch h)⟩

theorem Shifted.fire (h : Shifted c g₁ g₂) (disp disp' : RadarDisplayData) :
    StepsAlike cfg c g₁ g₂ (.fire disp none) (.fire disp' none) := by
  by_cases hpending : g₁.ctx.finalizeWork.pending = none
  · refine Or.inr ⟨_, _, _, _, fire_notPending hpending, fire_notPending (h.pending.trans hpending),
      h, ?_⟩
    simp [observe, h.state, h.axles]
  · have hpending₂ : g₂.ctx.finalizeWork.pending ≠ none := by rwa [h.pending]
    by_cases hnoise : g₁.Noise
    · refine Or.inr ⟨_, _, _, _, fire_noise hpending hnoise,
        fire_noise hpending₂ (h.noise_iff.mpr hnoise), shifted_reset, ?_⟩
      simp [observe, filter_captureOf]
    · have hfire₁ := @fire_report cfg none g₁ disp hpending hnoise
      have hfire₂ := @fire_report cfg none g₂ disp' hpending₂ (mt h.noise_iff.mp hnoise)
      rw [Globals.speedKmh, h.elapsed hnoise, ← Globals.speedKmh] at hfire₂
      cases hs : g₁.speedKmh cfg with
      | none =>
        rw [hs] at hfire₁ hfire₂
        exact Or.inl ⟨hfire₁, hfire₂⟩
      | some s =>
        rw [hs] at hfire₁ hfire₂
        refine Or.inr ⟨_, _, _, _, hfire₁, hfire₂, shifted_reset, ?_⟩
        simp [observe, filter_captureOf, Globals.displayData, h.axles, h.elapsed hnoise]

/-- **Vehicles do not influence one another, and the clock's rollover is invisible.** From two idle
states, reached by any two histories, inputs that differ only by a shift of the clock modulo `2^32`
show the same states, axle counts, delays and reports at every step, and stop at the same step. -/
theorem vehicles_independent (cfg : Config) (c : UInt32) {hist₁ hist₂ xs ys : List Input}
    {g₁ g₂ : Globals} {o₁ o₂ : List Action}
    (hrun₁ : (machine cfg).run initial hist₁ = some (g₁, o₁))
    (hrun₂ : (machine cfg).run initial hist₂ = some (g₂, o₂))
    (hidle₁ : g₁.ctx.state = .idle) (hidle₂ : g₂.ctx.state = .idle)
    (hshift : List.Forall₂ (ShiftInput c) xs ys) :
    (machine cfg).trace observe g₁ xs = (machine cfg).trace observe g₂ ys := by
  refine (machine cfg).trace_eq ?_ hshift
    ((timerInv_run hrun₁).shifted (c := c) (timerInv_run hrun₂) hidle₁ hidle₂)
  intro s t x y hst hxy
  cases hxy with
  | event evt => exact hst.event evt
  | fire disp disp' => exact hst.fire disp disp'

/-- The simulated vehicle again, after it has been reported once and while the clock rolls over. -/
theorem vehicles_independent_simVehicle :
    ∃ g acts, (machine .kconfig).run initial
        (simVehicle 0 ++ [.fire ⟨.light, 0, 0, 0, 0, .normal⟩ none]) = some (g, acts) ∧
      (machine .kconfig).trace observe initial (simVehicle 0) =
        (machine .kconfig).trace observe g (simVehicle 4294967200) :=
  ⟨_, _, rfl, @vehicles_independent .kconfig 4294967200 []
    (simVehicle 0 ++ [.fire ⟨.light, 0, 0, 0, 0, .normal⟩ none]) _ _ _ _ _ _ rfl rfl rfl rfl
    (.cons (.event (some ⟨1, 1, 0⟩)) (.cons (.event (some ⟨2, 1, 120⟩))
      (.cons (.event (some ⟨1, 1, 120⟩)) (.cons (.event (some ⟨2, 1, 240⟩)) .nil))))⟩

end Radar
