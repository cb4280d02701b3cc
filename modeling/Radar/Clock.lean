import Radar.Base.Sessions
import Radar.Window

/-!
# Sensor pulses and the timer on one clock

The processing file fed by pulses that carry their uptime, with the work item firing exactly when the
last delay handed to `k_work_reschedule` has elapsed; a pulse that comes at the very deadline finds the
work done. `clock` is the timed system. A timed run is a run of `machine` (`clock_runs`), so what holds
after every run of the processing file holds of it.

`windowCut` is what the timed system computes: a stream of pulses cut into windows, each closed by the
timeout of the code. `Keeps` relates the two, and `clock_reports` says that a timed run shows what its
windows show, one after the other.
-/

namespace Radar

inductive Sensor where
  | first
  | second
deriving DecidableEq, Repr

def Sensor.id : Sensor → UInt8
  | .first => 1
  | .second => 2

/-- A rising edge, at an uptime in milliseconds. -/
structure Pulse where
  sensor : Sensor
  time : ℕ
deriving DecidableEq, Repr

/-- `sensor_send_event(id, 1)`; the timestamp is `k_uptime_get_32()`. -/
def Pulse.event (p : Pulse) : SensorEvent := ⟨p.sensor.id, 1, UInt32.ofNat p.time⟩

@[simp] theorem Pulse.timestampMs_event (p : Pulse) : p.event.timestampMs = UInt32.ofNat p.time := rfl

@[simp] theorem Pulse.rise_one (p : Pulse) : p.event.Rise 1 ↔ p.sensor = .first := by
  cases hs : p.sensor <;> simp [SensorEvent.Rise, Pulse.event, Sensor.id, hs]

@[simp] theorem Pulse.rise_two (p : Pulse) : p.event.Rise 2 ↔ p.sensor = .second := by
  cases hs : p.sensor <;> simp [SensorEvent.Rise, Pulse.event, Sensor.id, hs]

/-! ### The timed system -/

/-- The globals, and when `finalize_work` is due. -/
structure Clocked where
  globals : Globals
  deadline : Option ℕ
deriving DecidableEq, Repr

def Clocked.start : Clocked := ⟨initial, none⟩

/-- What happens next: a pulse, or nothing until the timer has run out. -/
inductive Tick where
  | pulse (p : Pulse)
  | quiet
deriving DecidableEq, Repr

/-- The deadline after the calls made at a time. `K_MSEC` takes a negative delay for zero. -/
def rearmed (now : ℕ) (deadline : Option ℕ) (acts : List Action) : Option ℕ :=
  acts.foldl
    (fun deadline act =>
      match act with
      | .reschedule delayMs => some (now + delayMs.toInt.toNat)
      | _ => deadline)
    deadline

section

-- beside the configuration, the value an undefined division leaves and what the uninitialised `disp`
-- holds when the work fires
variable (cfg : Config) (undef : Option Int32) (stack : ℕ → RadarDisplayData)

/-- The work queue runs `finalize_work` at its deadline. -/
def Clocked.fire (c : Clocked) (due : ℕ) : Option (Clocked × List Action) := do
  let (g, acts) ← step cfg c.globals (.fire (stack due) undef)
  return (⟨g, none⟩, acts)

/-- The work that is due by a time is done. -/
def Clocked.expire (c : Clocked) (now : ℕ) : Option (Clocked × List Action) :=
  match c.deadline with
  | some due => if now < due then some (c, []) else c.fire cfg undef stack due
  | none => some (c, [])

def Clocked.receive (c : Clocked) (p : Pulse) : Option (Clocked × List Action) := do
  let (g, acts) ← step cfg c.globals (.event (some p.event) undef)
  return (⟨g, rearmed p.time c.deadline acts⟩, acts)

def Clocked.tick (c : Clocked) : Tick → Option (Clocked × List Action)
  | .pulse p => do
    let (c, fired) ← c.expire cfg undef stack p.time
    let (c, acts) ← c.receive cfg undef p
    return (c, fired ++ acts)
  | .quiet =>
    match c.deadline with
    | some due => c.fire cfg undef stack due
    | none => some (c, [])

/-- The processing file and its timer. -/
def clock : StepMachine Clocked Tick Action := ⟨Clocked.tick cfg undef stack⟩

/-! ### Timed runs are runs -/

/-- The timed system comes from `c` to `c'` by a run of the processing file. -/
def Runs (c c' : Clocked) (acts : List Action) : Prop :=
  ∃ xs, (machine cfg).run c.globals xs = some (c'.globals, acts)

end

section

variable {cfg : Config} {undef : Option Int32} {stack : ℕ → RadarDisplayData} {c c' c'' : Clocked}
  {p : Pulse} {acts acts' : List Action}

theorem receive_eq {r : Option (Globals × List Action)}
    (h : radarProcessSensorEvent cfg undef c.globals (some p.event) = r) :
    c.receive cfg undef p =
      r.map fun r => (⟨r.1, rearmed p.time c.deadline r.2⟩, r.2) := by
  simp only [Clocked.receive, step, h]
  cases r <;> rfl

theorem fire_eq {now : ℕ} {r : Option (Globals × List Action)}
    (h : step cfg c.globals (.fire (stack now) undef) = r) :
    c.fire cfg undef stack now = r.map fun r => (⟨r.1, none⟩, r.2) := by
  simp only [Clocked.fire, h]
  cases r <;> rfl

theorem runs_refl (c : Clocked) : Runs cfg c c [] := ⟨[], rfl⟩

theorem Runs.trans (h : Runs cfg c c' acts) (h' : Runs cfg c' c'' acts') :
    Runs cfg c c'' (acts ++ acts') := by
  obtain ⟨xs, hxs⟩ := h
  obtain ⟨ys, hys⟩ := h'
  exact ⟨xs ++ ys, (machine cfg).run_trans hxs hys⟩

theorem runs_fire {now : ℕ} (h : c.fire cfg undef stack now = some (c', acts)) :
    Runs cfg c c' acts := by
  rw [fire_eq rfl, Option.map_eq_some_iff] at h
  obtain ⟨⟨g, o⟩, hstep, heq⟩ := h
  obtain ⟨rfl, rfl⟩ := Prod.mk.inj heq
  exact ⟨[.fire (stack now) undef], ((machine cfg).run_singleton _ _).trans hstep⟩

theorem runs_receive (h : c.receive cfg undef p = some (c', acts)) : Runs cfg c c' acts := by
  rw [receive_eq rfl, Option.map_eq_some_iff] at h
  obtain ⟨⟨g, o⟩, hstep, heq⟩ := h
  obtain ⟨rfl, rfl⟩ := Prod.mk.inj heq
  exact ⟨[.event (some p.event) undef], ((machine cfg).run_singleton _ _).trans hstep⟩

theorem runs_expire {now : ℕ} (h : c.expire cfg undef stack now = some (c', acts)) :
    Runs cfg c c' acts := by
  unfold Clocked.expire at h
  cases hdeadline : c.deadline with
  | none =>
    rw [hdeadline] at h
    obtain ⟨rfl, rfl⟩ := Prod.mk.inj (Option.some.inj h)
    exact runs_refl c
  | some due =>
    simp only [hdeadline] at h
    by_cases htime : now < due
    · rw [if_pos htime] at h
      obtain ⟨rfl, rfl⟩ := Prod.mk.inj (Option.some.inj h)
      exact runs_refl c
    · rw [if_neg htime] at h
      exact runs_fire h

theorem runs_tick {t : Tick} (h : c.tick cfg undef stack t = some (c', acts)) :
    Runs cfg c c' acts := by
  cases t with
  | pulse p =>
    simp only [Clocked.tick, Option.bind_eq_bind, Option.bind_eq_some_iff] at h
    obtain ⟨⟨c₁, o₁⟩, hexpire, ⟨c₂, o₂⟩, hreceive, heq⟩ := h
    obtain ⟨rfl, rfl⟩ := Prod.mk.inj (Option.some.inj heq)
    exact (runs_expire hexpire).trans (runs_receive hreceive)
  | quiet =>
    unfold Clocked.tick at h
    cases hdeadline : c.deadline with
    | none =>
      simp only [hdeadline] at h
      obtain ⟨rfl, rfl⟩ := Prod.mk.inj (Option.some.inj h)
      exact runs_refl c
    | some due =>
      simp only [hdeadline] at h
      exact runs_fire h

/-- **Every timed run is a run of the processing file**, with the firings where the timer puts them. -/
theorem clock_runs {ts : List Tick} (h : (clock cfg undef stack).run c ts = some (c', acts)) :
    Runs cfg c c' acts := by
  induction ts generalizing c acts with
  | nil =>
    obtain ⟨rfl, rfl⟩ := Prod.mk.inj (Option.some.inj h)
    exact runs_refl c
  | cons t ts ih =>
    obtain ⟨c₁, o₁, o₂, htick, hrest, rfl⟩ := (clock cfg undef stack).run_cons_some h
    exact (runs_tick htick).trans (ih hrest)

end

/-! ### Windows on the clock -/

section

variable (cfg : Config) (undef : Option Int32)

/-- `radar_stop_timeout` while the window is open, `none` where computing it stopped the run. -/
def Window.stopTimeout (w : Window) : Option Int32 :=
  match w.t2 with
  | none => some 500
  | some t2 => Radar.stopTimeout cfg.sensorDistanceMm (t2 - w.t1) <|> undef

/-- A stream of pulses is cut by the timeouts of the code, which every sensor-1 pulse arms. -/
def windowCut : SessionCut Pulse Window where
  time := Pulse.time
  opens p := if h : p.event.Rise 1 then some (⟨p.event, [], h⟩, 500) else none
  push w p := w.push p.event
  rearm w p :=
    if p.event.Rise 1 then some ((w.stopTimeout cfg undef).getD 0).toInt.toNat else none

/-- The records the firing shows that closes a window of any length. -/
def Window.shown (w : Window) : List RadarDisplayData :=
  match w.t2 with
  | none => []
  | some t2 =>
    if UInt8.ofNat w.axles = 1 then []
    else
      ((computeSpeedKmh cfg.sensorDistanceMm (t2 - w.t1) <|> undef).map
        (displayData cfg (UInt8.ofNat w.axles) (t2 - w.t1))).toList

/-- The timed system has exactly the window open that the cut has, with its timeout and deadline. -/
def Keeps (c : Clocked) : Option (Window × ℕ) → Prop
  | none => Tracks c.globals none ∧ c.globals.radarStopTimeout = 500 ∧ c.deadline = none
  | some (w, due) => Tracks c.globals (some w) ∧
      w.stopTimeout cfg undef = some c.globals.radarStopTimeout ∧ c.deadline = some due

end

variable {cfg : Config} {undef : Option Int32} {stack : ℕ → RadarDisplayData} {c : Clocked}
  {w : Window} {due : ℕ} {p : Pulse}

theorem opened_first (hp : p.sensor = .first) :
    (windowCut cfg undef).opened p = some (⟨p.event, [], p.rise_one.mpr hp⟩, p.time + 500) := by
  simp [SessionCut.opened, windowCut, hp]

theorem opens_second (hp : p.sensor = .second) : (windowCut cfg undef).opens p = none := by
  simp [windowCut, hp]

/-! ### The simulation -/

theorem receive_idle (h : Keeps cfg undef c none) (p : Pulse) :
    ∃ c' acts, c.receive cfg undef p = some (c', acts) ∧ reports acts = [] ∧
      Keeps cfg undef c' ((windowCut cfg undef).opened p) := by
  obtain ⟨htracks, htimeout, hdeadline⟩ := h
  cases hp : p.sensor with
  | first =>
    have hrise := p.rise_one.mpr hp
    have hevent := @event_opens cfg undef c.globals p.event htracks.1 hrise
    have htracks' := tracks_event htracks (event_cases hevent)
    simp only [nextWindow, dif_pos hrise] at htracks'
    refine ⟨_, _, receive_eq hevent, rfl, ?_⟩
    rw [opened_first hp]
    exact ⟨htracks', by simp [Window.stopTimeout, Window.t2, htimeout], by simp [rearmed, htimeout]⟩
  | second =>
    have hignores : c.globals.Ignores (some p.event) := by
      intro e he
      obtain rfl := Option.some.inj he
      simp [hp, htracks.1]
    refine ⟨_, _, receive_eq (event_ignored hignores), rfl, ?_⟩
    rw [SessionCut.opened, opens_second hp]
    exact ⟨htracks, htimeout, hdeadline⟩

theorem stopTimeout_push {w : Window} {p : Pulse} (h : p.sensor = .first ∨ w.t2 ≠ none) :
    (w.push p.event).stopTimeout cfg undef = w.stopTimeout cfg undef := by
  have ht2 : (w.push p.event).t2 = w.t2 := by
    rw [Window.t2_push]
    rcases h with hp | hw
    · simp [hp]
    · obtain ⟨t, ht⟩ := Option.ne_none_iff_exists'.mp hw
      rw [ht]
      rfl
  simp only [Window.stopTimeout, ht2, Window.t1_push]

/-- Another axle in time. -/
theorem receive_axle (h : Keeps cfg undef c (some (w, due))) (hp : p.sensor = .first) :
    ∃ c' acts, c.receive cfg undef p = some (c', acts) ∧ reports acts = [] ∧
      Keeps cfg undef c' (some ((windowCut cfg undef).take (w, due) p)) := by
  obtain ⟨htracks, htimeout, hdeadline⟩ := h
  have hevent := @event_axle cfg undef c.globals p.event htracks.1 (p.rise_one.mpr hp)
  have htracks' := tracks_event htracks (event_cases hevent)
  refine ⟨_, _, receive_eq hevent, rfl, htracks', ?_, ?_⟩
  · exact (stopTimeout_push (Or.inl hp)).trans htimeout
  · simp [windowCut, hp, htimeout, rearmed]

/-- A sensor-2 pulse of a window that has its reading. -/
theorem receive_again {t : UInt32} (h : Keeps cfg undef c (some (w, due))) (hp : p.sensor = .second)
    (hw : w.t2 = some t) :
    ∃ c' acts, c.receive cfg undef p = some (c', acts) ∧ reports acts = [] ∧
      Keeps cfg undef c' (some (w.push p.event, due)) := by
  obtain ⟨htracks, htimeout, hdeadline⟩ := h
  have hignores : c.globals.Ignores (some p.event) := by
    intro e he
    obtain rfl := Option.some.inj he
    refine ⟨by simp [hp], fun hr => ?_⟩
    have hseen := hr.2.2
    rw [htracks.2.2.2.2.1, hw] at hseen
    cases hseen
  refine ⟨_, _, receive_eq (event_ignored hignores), rfl, htracks.push_ignored hignores, ?_, hdeadline⟩
  exact (stopTimeout_push (Or.inr (by simp [hw]))).trans htimeout

/-- The sensor-2 reading of a window. It stops the run if no timeout can be computed from it. -/
theorem receive_reading (h : Keeps cfg undef c (some (w, due))) (hp : p.sensor = .second)
    (hw : w.t2 = none) :
    (c.receive cfg undef p = none ∧ (w.push p.event).stopTimeout cfg undef = none) ∨
      ∃ c' acts, c.receive cfg undef p = some (c', acts) ∧ reports acts = [] ∧
        Keeps cfg undef c' (some (w.push p.event, due)) := by
  obtain ⟨htracks, htimeout, hdeadline⟩ := h
  have hfirst : c.globals.ctx.sensor2Seen = false := by rw [htracks.2.2.2.2.1, hw]; rfl
  have hevent :=
    @event_sensor2 cfg undef c.globals p.event htracks.1 (p.rise_two.mpr hp) hfirst
  have hpush : (w.push p.event).stopTimeout cfg undef =
      (stopTimeout cfg.sensorDistanceMm (p.event.timestampMs - c.globals.ctx.startTimeMs)
        <|> undef) := by
    rw [htracks.2.2.2.1]
    simp [Window.stopTimeout, Window.t2_push, hw, hp]
  rw [← hpush] at hevent
  cases ht : (w.push p.event).stopTimeout cfg undef with
  | none =>
    left
    rw [ht] at hevent
    exact ⟨receive_eq hevent, rfl⟩
  | some t =>
    right
    rw [ht] at hevent
    have htracks' := tracks_event htracks (event_cases hevent)
    exact ⟨_, _, receive_eq hevent, rfl, htracks', ht, hdeadline⟩

/-- A pulse in time. -/
theorem receive_open (h : Keeps cfg undef c (some (w, due))) (p : Pulse) :
    (c.receive cfg undef p = none ∧ (w.push p.event).stopTimeout cfg undef = none) ∨
      ∃ c' acts, c.receive cfg undef p = some (c', acts) ∧ reports acts = [] ∧
        Keeps cfg undef c' (some ((windowCut cfg undef).take (w, due) p)) := by
  cases hp : p.sensor with
  | first => exact Or.inr (receive_axle h hp)
  | second =>
    have htake : (windowCut cfg undef).take (w, due) p = (w.push p.event, due) := by
      simp [SessionCut.take, windowCut, hp]
    rw [htake]
    cases hw : w.t2 with
    | none => exact receive_reading h hp hw
    | some t => exact Or.inr (receive_again h hp hw)

theorem fire_open (stack : ℕ → RadarDisplayData) (h : Keeps cfg undef c (some (w, due))) (now : ℕ) :
    ∃ c' acts, c.fire cfg undef stack now = some (c', acts) ∧ reports acts = w.shown cfg undef ∧
      Keeps cfg undef c' none := by
  obtain ⟨htracks, htimeout, -⟩ := h
  have hclosed : Keeps cfg undef ⟨vehicleContextReset (takeWork c.globals), none⟩ none :=
    ⟨⟨rfl, rfl⟩, rfl, rfl⟩
  by_cases hnoise : c.globals.Noise
  · have hfire := @fire_noise cfg undef c.globals (stack now) htracks.2.1 hnoise
    refine ⟨_, _, fire_eq hfire, ?_, hclosed⟩
    rw [reports_captureOf, Window.shown]
    rcases htracks.noise_iff.mp hnoise with ht | hone
    · rw [ht]
    · cases ht : w.t2 with
      | none => rfl
      | some t => simp [hone]
  · have hfire := @fire_report cfg undef c.globals (stack now) htracks.2.1 hnoise
    rw [htracks.noise_iff, not_or] at hnoise
    obtain ⟨t, ht⟩ := Option.ne_none_iff_exists'.mp hnoise.1
    rw [htracks.speedKmh_eq ht] at hfire
    -- a timeout was computed from this elapsed time, so its speed is known
    have hspeed : (computeSpeedKmh cfg.sensorDistanceMm (t - w.t1) <|> undef) ≠ none := by
      intro hnone
      obtain ⟨hs, hundef⟩ : computeSpeedKmh cfg.sensorDistanceMm (t - w.t1) = none ∧
          undef = none := by
        simpa using hnone
      simp [Window.stopTimeout, ht, stopTimeout, hs, hundef] at htimeout
    obtain ⟨s, hs⟩ := Option.ne_none_iff_exists'.mp hspeed
    rw [hs, Option.map_some] at hfire
    refine ⟨_, _, fire_eq hfire, ?_, hclosed⟩
    obtain ⟨-, -, haxles, hstart, -, htime⟩ := htracks
    simp [Window.shown, ht, hnoise.2, hs, Globals.displayData, haxles, hstart, htime t ht]

/-- A pulse closes the window that is over and enters the one that is not. -/
theorem tick_pulse (stack : ℕ → RadarDisplayData) {st : Option (Window × ℕ)}
    (h : Keeps cfg undef c st) (p : Pulse) :
    ∃ closed st',
      (∀ ps, (windowCut cfg undef).sessions st (p :: ps) =
        closed ++ (windowCut cfg undef).sessions st' ps) ∧
      ((c.tick cfg undef stack (.pulse p) = none ∧
          ∃ w due, st' = some (w, due) ∧ w.stopTimeout cfg undef = none) ∨
        ∃ c' acts, c.tick cfg undef stack (.pulse p) = some (c', acts) ∧
          reports acts = closed.flatMap (Window.shown cfg undef) ∧ Keeps cfg undef c' st') := by
  cases st with
  | none =>
    obtain ⟨c', acts, hreceive, hacts, hkeeps⟩ := receive_idle h p
    have hexpire : c.expire cfg undef stack p.time = some (c, []) := by
      simp [Clocked.expire, h.2.2]
    refine ⟨[], (windowCut cfg undef).opened p, fun ps => rfl, Or.inr ⟨c', acts, ?_, hacts, hkeeps⟩⟩
    simp [Clocked.tick, hexpire, hreceive]
  | some st =>
    obtain ⟨w, due⟩ := st
    by_cases htime : p.time < due
    · have hexpire : c.expire cfg undef stack p.time = some (c, []) := by
        simp [Clocked.expire, h.2.2, htime]
      refine ⟨[], some ((windowCut cfg undef).take (w, due) p),
        fun ps => SessionCut.sessions_inTime htime, ?_⟩
      rcases receive_open h p with ⟨hreceive, htimeout⟩ | ⟨c', acts, hreceive, hacts, hkeeps⟩
      · exact Or.inl ⟨by simp [Clocked.tick, hexpire, hreceive], _, _, rfl, htimeout⟩
      · exact Or.inr ⟨c', acts, by simp [Clocked.tick, hexpire, hreceive], hacts, hkeeps⟩
    · obtain ⟨c₁, fired, hfire, hfired, hkeeps₁⟩ := fire_open stack h due
      obtain ⟨c', acts, hreceive, hacts, hkeeps⟩ := receive_idle hkeeps₁ p
      have hexpire : c.expire cfg undef stack p.time = some (c₁, fired) := by
        simp [Clocked.expire, h.2.2, htime, hfire]
      refine ⟨[w], (windowCut cfg undef).opened p,
        fun ps => SessionCut.sessions_late (Nat.not_lt.mp htime), Or.inr ⟨c', fired ++ acts, ?_⟩⟩
      refine ⟨by simp [Clocked.tick, hexpire, hreceive], ?_, hkeeps⟩
      rw [reports_append, hfired, hacts]
      simp

/-- A window whose timeout could not be computed stays one. -/
theorem stopTimeout_lost (h : w.stopTimeout cfg undef = none) (due : ℕ) (ps : List Pulse) :
    ∃ w' ∈ (windowCut cfg undef).sessions (some (w, due)) ps, w'.stopTimeout cfg undef = none := by
  have hpush : ∀ (w : Window) (p : Pulse), w.stopTimeout cfg undef = none →
      ((windowCut cfg undef).push w p).stopTimeout cfg undef = none := by
    intro w p hw
    refine (stopTimeout_push (Or.inr fun ht => ?_)).trans hw
    simp [Window.stopTimeout, ht] at hw
  obtain ⟨w', ws, hsessions, hw'⟩ := SessionCut.sessions_head hpush ps (w, due) h
  exact ⟨w', by simp [hsessions], hw'⟩

/-- **A timed run shows what its windows show**, or stops at one whose timeout cannot be computed. -/
theorem clock_reports (ps : List Pulse) :
    ∀ {c : Clocked} {st : Option (Window × ℕ)}, Keeps cfg undef c st →
      ((clock cfg undef stack).run c (ps.map .pulse ++ [.quiet]) = none ∧
        ∃ w ∈ (windowCut cfg undef).sessions st ps, w.stopTimeout cfg undef = none) ∨
      ∃ c' acts, (clock cfg undef stack).run c (ps.map .pulse ++ [.quiet]) = some (c', acts) ∧
        reports acts = ((windowCut cfg undef).sessions st ps).flatMap (Window.shown cfg undef) := by
  induction ps with
  | nil =>
    intro c st h
    right
    rw [List.map_nil, List.nil_append, StepMachine.run_cons]
    show ∃ c' acts, (c.tick cfg undef stack .quiet).bind _ = _ ∧ _
    cases st with
    | none => exact ⟨c, [], by simp [Clocked.tick, h.2.2], rfl⟩
    | some st =>
      obtain ⟨w, due⟩ := st
      obtain ⟨c', acts, hfire, hacts, -⟩ := fire_open stack h due
      refine ⟨c', acts, by simp [Clocked.tick, h.2.2, hfire], ?_⟩
      rw [hacts]
      simp [SessionCut.sessions]
  | cons p ps ih =>
    intro c st h
    rw [List.map_cons, List.cons_append, StepMachine.run_cons]
    show ((c.tick cfg undef stack (.pulse p)).bind _ = _ ∧ _) ∨
      ∃ c' acts, (c.tick cfg undef stack (.pulse p)).bind _ = _ ∧ _
    obtain ⟨closed, st', hsessions, htick⟩ := tick_pulse stack h p
    rw [hsessions ps]
    rcases htick with ⟨htick, w, due, rfl, hw⟩ | ⟨c₁, acts₁, htick, hacts₁, hkeeps⟩
    · left
      obtain ⟨w', hmem, hw'⟩ := stopTimeout_lost hw due ps
      exact ⟨by rw [htick]; rfl, w', List.mem_append_right _ hmem, hw'⟩
    · rw [htick, Option.bind_some]
      rcases ih hkeeps with ⟨hrun, w, hmem, hw⟩ | ⟨c', acts, hrun, hacts⟩
      · exact Or.inl ⟨by rw [hrun]; rfl, w, List.mem_append_right _ hmem, hw⟩
      · refine Or.inr ⟨c', acts₁ ++ acts, by rw [hrun]; rfl, ?_⟩
        rw [reports_append, hacts₁, hacts, List.flatMap_append]

end Radar
