import Radar.Grade
import Radar.Step

/-!
# Vehicle windows: the trace specification

The abstract model of the processing file reads a history of inputs, with no context and no timer. A
window opens at the first sensor-1 rise read while none is open and closes at the next firing; it keeps
the events read in between (`openWindow`). The report of a window is a function of these events alone
(`Window.report`): the number of sensor-1 rises, the time of the first one and the time of the first
sensor-2 rise after it.

`Tracks` relates the globals to the open window. It is kept by every step (`tracks_step`), whatever
values undefined divisions leave, so it holds after every run (`tracks_run`), and it determines what a
firing shows (`Tracks.fire_reports`).
-/

namespace Radar

/-- An open window: the sensor-1 rise that opened it and the events read since. -/
structure Window where
  first : SensorEvent
  rest : List SensorEvent
  opens : first.Rise 1

namespace Window

/-- The sensor-1 rises of the window, the opening one included. -/
def axles (w : Window) : ℕ := 1 + w.rest.countP fun e => decide (e.Rise 1)

/-- The time of the opening rise. -/
def t1 (w : Window) : UInt32 := w.first.timestampMs

/-- The time of the first sensor-2 rise after the opening one. -/
def t2 (w : Window) : Option UInt32 :=
  (w.rest.find? fun e => decide (e.Rise 2)).map SensorEvent.timestampMs

def push (w : Window) (e : SensorEvent) : Window := { w with rest := w.rest ++ [e] }

/-- The record of a window with the given sensor-2 time and measured speed. -/
def record (cfg : Config) (w : Window) (t2 : UInt32) (speedKmh : Int32) : RadarDisplayData :=
  cfg.record w.axles (t2 - w.t1) speedKmh

/-- What the firing that closes the window shows: one record if there are two axles and a sensor-2
time, nothing otherwise. As in the code, `undef` is the speed an undefined division leaves. -/
def report (cfg : Config) (undef : Option Int32) (w : Window) : Option (List RadarDisplayData) :=
  match w.t2 with
  | none => some []
  | some t2 =>
    if 2 ≤ w.axles then
      (computeSpeedKmh cfg.sensorDistanceMm (t2 - w.t1) <|> undef).map fun s => [w.record cfg t2 s]
    else some []

theorem axles_pos (w : Window) : 1 ≤ w.axles := Nat.le_add_right _ _

@[simp] theorem t1_push (w : Window) (e : SensorEvent) : (w.push e).t1 = w.t1 := rfl

theorem axles_push (w : Window) (e : SensorEvent) :
    (w.push e).axles = w.axles + if e.Rise 1 then 1 else 0 := by
  simp only [axles, push, List.countP_append, List.countP_cons, List.countP_nil, decide_eq_true_eq]
  omega

/-- The first sensor-2 rise wins. -/
theorem t2_push (w : Window) (e : SensorEvent) :
    (w.push e).t2 = (w.t2 <|> if e.Rise 2 then some e.timestampMs else none) := by
  simp only [t2, push, List.find?_append, List.find?_cons, List.find?_nil]
  cases hfind : w.rest.find? fun e => decide (e.Rise 2) with
  | some e' => rfl
  | none => by_cases h : e.Rise 2 <;> simp [h]

end Window

/-- The open window after one more input. -/
def nextWindow : Option Window → Input → Option Window
  | none, .event (some e) _ => if h : e.Rise 1 then some ⟨e, [], h⟩ else none
  | some w, .event (some e) _ => some (w.push e)
  | w, .event none _ => w
  | _, .fire _ _ => none

/-- The window open after a history. -/
def openWindow (xs : List Input) : Option Window := xs.foldl nextWindow none

theorem openWindow_concat (xs : List Input) (x : Input) :
    openWindow (xs ++ [x]) = nextWindow (openWindow xs) x := by
  simp [openWindow]

/-- The records among the calls. -/
def reports (acts : List Action) : List RadarDisplayData :=
  acts.filterMap fun
    | .display disp => some disp
    | _ => none

@[simp] theorem reports_nil : reports [] = [] := rfl

@[simp] theorem reports_append (as bs : List Action) : reports (as ++ bs) = reports as ++ reports bs :=
  List.filterMap_append

@[simp] theorem reports_reschedule (d : Int32) (as : List Action) :
    reports (.reschedule d :: as) = reports as := rfl

@[simp] theorem reports_display (d : RadarDisplayData) (as : List Action) :
    reports (.display d :: as) = d :: reports as := rfl

@[simp] theorem reports_captureOf (disp : RadarDisplayData) : reports (captureOf disp) = [] := by
  unfold captureOf
  split <;> rfl

/-! ### The simulation -/

/-- The globals of a file whose open window is `w`. -/
def Tracks (g : Globals) : Option Window → Prop
  | none => g.ctx.state = .idle ∧ g.ctx.finalizeWork.pending = none
  | some w => g.ctx.state = .tracking ∧ g.ctx.finalizeWork.pending ≠ none ∧
      g.ctx.axleCount = UInt8.ofNat w.axles ∧ g.ctx.startTimeMs = w.t1 ∧
      g.ctx.sensor2Seen = w.t2.isSome ∧ ∀ t, w.t2 = some t → g.ctx.sensor2TimeMs = t

theorem tracks_initial : Tracks initial none := ⟨rfl, rfl⟩

variable {cfg : Config} {undef : Option Int32} {g g' : Globals} {acts : List Action}

theorem Tracks.idle {w : Option Window} (h : Tracks g w) (hstate : g.ctx.state = .idle) : w = none := by
  cases w with
  | none => rfl
  | some w =>
    rw [h.1] at hstate
    cases hstate

theorem Tracks.tracking {w : Option Window} (h : Tracks g w) (hstate : g.ctx.state = .tracking) :
    ∃ w', w = some w' := by
  cases w with
  | none =>
    rw [h.1] at hstate
    cases hstate
  | some w => exact ⟨w, rfl⟩

theorem Tracks.t2_eq_none {w : Window} (h : Tracks g (some w)) (hfirst : g.ctx.sensor2Seen = false) :
    w.t2 = none := by
  rw [h.2.2.2.2.1] at hfirst
  exact Option.isNone_iff_eq_none.mp (Option.isSome_eq_false_iff.mp hfirst)

/-- An event the code ignores changes neither the axles nor the times of the window. -/
theorem Tracks.push_ignored {w : Window} {e : SensorEvent} (h : Tracks g (some w))
    (hignores : g.Ignores (some e)) : Tracks g (some (w.push e)) := by
  obtain ⟨hstate, hpending, haxles, hstart, hseen, htime⟩ := h
  obtain ⟨h1, h2⟩ := hignores e rfl
  have ht2 : (w.push e).t2 = w.t2 := by
    rw [Window.t2_push]
    cases hw : w.t2 with
    | some t => rfl
    | none =>
      have hnot : ¬ e.Rise 2 := fun hr => h2 ⟨hr, hstate, by rw [hseen, hw]; rfl⟩
      simp [hnot]
  refine ⟨hstate, hpending, ?_, hstart, ?_, ?_⟩
  · rw [haxles, Window.axles_push, if_neg h1, Nat.add_zero]
  · rw [ht2, hseen]
  · rw [ht2]
    exact htime

theorem tracks_event {w : Option Window} {evt : Option SensorEvent} (h : Tracks g w)
    (heffect : EventEffect cfg undef g evt g' acts) : Tracks g' (nextWindow w (.event evt undef)) := by
  cases heffect with
  | opens e hstate hrise =>
    obtain rfl := h.idle hstate
    simp only [nextWindow, dif_pos hrise]
    exact ⟨rfl, by simp, rfl, rfl, rfl, fun t ht => by simp [Window.t2] at ht⟩
  | axle e hstate hrise =>
    obtain ⟨w, rfl⟩ := h.tracking hstate
    obtain ⟨-, -, haxles, hstart, hseen, htime⟩ := h
    have ht2 : (w.push e).t2 = w.t2 := by
      simp [Window.t2_push, hrise.not_two]
    refine ⟨hstate, by simp, ?_, hstart, ?_, ?_⟩
    · rw [Window.axles_push, if_pos hrise, UInt8.ofNat_add, ← haxles]
      rfl
    · rw [ht2]
      exact hseen
    · rw [ht2]
      exact htime
  | sensor2 e t hstate hrise hfirst ht =>
    obtain ⟨w, rfl⟩ := h.tracking hstate
    have hnone := h.t2_eq_none hfirst
    obtain ⟨-, hpending, haxles, hstart, -, -⟩ := h
    have ht2 : (w.push e).t2 = some e.timestampMs := by
      simp [Window.t2_push, hnone, hrise]
    have hnot : ¬ e.Rise 1 := fun h => h.not_two hrise
    refine ⟨hstate, hpending, ?_, hstart, ?_, ?_⟩
    · rw [Window.axles_push, if_neg hnot, Nat.add_zero]
      exact haxles
    · rw [ht2]
      rfl
    · rw [ht2]
      intro t ht
      exact Option.some.inj ht
  | ignored evt hignores =>
    cases evt with
    | none => cases w <;> exact h
    | some e =>
      cases w with
      | none =>
        simp only [nextWindow, dif_neg (hignores e rfl).1]
        exact h
      | some w => exact h.push_ignored hignores

theorem tracks_fire {w : Option Window} {disp : RadarDisplayData} (h : Tracks g w)
    (heffect : FireEffect cfg undef disp g g' acts) : Tracks g' (nextWindow w (.fire disp undef)) := by
  have hclosed : nextWindow w (.fire disp undef) = none := by cases w <;> rfl
  rw [hclosed]
  cases heffect with
  | notPending hpending =>
    cases w with
    | none => exact h
    | some w => exact absurd hpending h.2.1
  | noise hpending hnoise => exact ⟨rfl, rfl⟩
  | report s hpending hnoise hs => exact ⟨rfl, rfl⟩

theorem tracks_step {w : Option Window} {x : Input} (h : Tracks g w)
    (hstep : step cfg g x = some (g', acts)) : Tracks g' (nextWindow w x) := by
  cases x with
  | event evt undef => exact tracks_event h (event_cases hstep)
  | fire disp undef => exact tracks_fire h (fire_cases hstep)

/-- **The globals follow the open window** along every run. -/
theorem tracks_run {xs : List Input} (h : (machine cfg).run initial xs = some (g, acts)) :
    Tracks g (openWindow xs) :=
  (machine cfg).run_track (fun _ _ _ _ _ hR hs => tracks_step hR hs) tracks_initial h

/-! ### What a firing shows -/

theorem ofNat_axles_eq_one {n : ℕ} (hn : n ≤ 255) : UInt8.ofNat n = 1 ↔ n = 1 := by
  rw [← UInt8.toNat_inj, UInt8.toNat_ofNat_of_lt' (by simp [UInt8.size]; omega)]
  rfl

theorem Tracks.noise_iff {w : Window} (h : Tracks g (some w)) :
    g.Noise ↔ w.t2 = none ∨ UInt8.ofNat w.axles = 1 := by
  obtain ⟨hstate, -, haxles, -, hseen, -⟩ := h
  have hseen' : g.ctx.sensor2Seen = false ↔ w.t2 = none := by
    rw [hseen, Option.isSome_eq_false_iff, Option.isNone_iff_eq_none]
  rw [Globals.Noise, hseen', haxles]
  simp [hstate]

theorem Tracks.speedKmh_eq {w : Window} {t : UInt32} (h : Tracks g (some w)) (ht : w.t2 = some t) :
    g.speedKmh cfg = computeSpeedKmh cfg.sensorDistanceMm (t - w.t1) := by
  obtain ⟨-, -, -, hstart, -, htime⟩ := h
  rw [Globals.speedKmh, htime t ht, hstart]

/-- Up to 255 axles the record built from the context is the record of the window. -/
theorem Tracks.displayData_eq {w : Window} {t : UInt32} {s : Int32} (h : Tracks g (some w))
    (ht : w.t2 = some t) (hn : w.axles ≤ 255) : g.displayData cfg s = w.record cfg t s := by
  obtain ⟨-, -, haxles, hstart, -, htime⟩ := h
  rw [Globals.displayData, haxles, hstart, htime t ht, displayData_eq_record hn]
  rfl

theorem Tracks.fire_reports {w : Window} (h : Tracks g (some w)) (hn : w.axles ≤ 255)
    (disp : RadarDisplayData) (undef : Option Int32) :
    (step cfg g (.fire disp undef)).map (fun r => reports r.2) = w.report cfg undef := by
  have hpending := h.2.1
  by_cases hnoise : g.Noise
  · rw [fire_noise hpending hnoise]
    rcases h.noise_iff.mp hnoise with ht | hone
    · simp [Window.report, ht]
    · have haxles := (ofNat_axles_eq_one hn).mp hone
      cases ht : w.t2 with
      | none => simp [Window.report, ht]
      | some t => simp [Window.report, ht, haxles]
  · rw [fire_report hpending hnoise]
    rw [h.noise_iff, not_or, ofNat_axles_eq_one hn] at hnoise
    obtain ⟨hsome, hone⟩ := hnoise
    obtain ⟨t, ht⟩ := Option.ne_none_iff_exists'.mp hsome
    have htwo : 2 ≤ w.axles := by
      have := w.axles_pos
      omega
    simp only [Window.report, ht, if_pos htwo, Option.map_map, h.speedKmh_eq ht]
    congr 1
    funext s
    simp [h.displayData_eq ht hn]

/-! ### The refinement -/

/-- An event that says nothing about the open window: a null pointer, or neither a sensor-1 rise nor
the first sensor-2 rise of an open window. -/
def Irrelevant (w : Option Window) (evt : Option SensorEvent) : Prop :=
  ∀ e, evt = some e → ¬ e.Rise 1 ∧ ¬ (e.Rise 2 ∧ ∃ w', w = some w' ∧ w'.t2 = none)

/-- The globals `g` behave as the trace specification says for the open window `w`. -/
structure Refines (cfg : Config) (g : Globals) (w : Option Window) : Prop where
  /-- With no window open the work is not pending and nothing fires. -/
  closed : w = none → ∀ disp undef, step cfg g (.fire disp undef) = some (g, [])
  /-- The firing that closes a window of at most 255 axles shows the report of the window. -/
  shows : ∀ w', w = some w' → w'.axles ≤ 255 → ∀ disp undef,
    (step cfg g (.fire disp undef)).map (fun r => reports r.2) = w'.report cfg undef
  /-- Sensor events show nothing. -/
  silent : ∀ evt undef g' acts, step cfg g (.event evt undef) = some (g', acts) → reports acts = []
  /-- Irrelevant events change nothing. -/
  ignores : ∀ evt undef, Irrelevant w evt → step cfg g (.event evt undef) = some (g, [])

theorem Tracks.ignores {w : Option Window} {evt : Option SensorEvent} (h : Tracks g w)
    (hevt : Irrelevant w evt) : g.Ignores evt := by
  intro e he
  obtain ⟨h1, h2⟩ := hevt e he
  refine ⟨h1, fun hr => h2 ⟨hr.1, ?_⟩⟩
  obtain ⟨w, rfl⟩ := h.tracking hr.2.1
  exact ⟨w, rfl, h.t2_eq_none hr.2.2⟩

theorem Tracks.refines {w : Option Window} (h : Tracks g w) : Refines cfg g w := by
  refine ⟨?_, ?_, ?_, ?_⟩
  · rintro rfl disp undef
    exact fire_notPending h.2
  · rintro w rfl hn disp undef
    exact h.fire_reports hn disp undef
  · intro evt undef g' acts hstep
    cases event_cases hstep <;> rfl
  · intro evt undef hevt
    exact event_ignored (h.ignores hevt)

/-- An input that leaves a value where a division is undefined. -/
def Input.Resolved : Input → Prop
  | .event _ undef => undef ≠ none
  | .fire _ undef => undef ≠ none

theorem orElse_ne_none {α : Type} {a b : Option α} (h : b ≠ none) : (a <|> b) ≠ none := by
  cases a with
  | none => exact h
  | some a => simp

theorem event_ne_none {evt : Option SensorEvent} (h : undef ≠ none) :
    radarProcessSensorEvent cfg undef g evt ≠ none := by
  by_cases hignores : g.Ignores evt
  · simp [event_ignored hignores]
  · simp only [Globals.Ignores, not_forall] at hignores
    obtain ⟨e, rfl, he⟩ := hignores
    by_cases h1 : e.Rise 1
    · cases hstate : g.ctx.state with
      | idle => simp [event_opens hstate h1]
      | tracking => simp [event_axle hstate h1]
    · obtain ⟨h2, hstate, hfirst⟩ := not_not.mp fun hno => he ⟨h1, hno⟩
      rw [event_sensor2 hstate h2 hfirst]
      simpa using orElse_ne_none h

theorem step_ne_none {x : Input} (hx : x.Resolved) : step cfg g x ≠ none := by
  cases x with
  | event evt undef => exact event_ne_none hx
  | fire disp undef =>
    by_cases hpending : g.ctx.finalizeWork.pending = none
    · simp [fire_notPending hpending]
    · by_cases hnoise : g.Noise
      · simp [fire_noise hpending hnoise]
      · rw [fire_report hpending hnoise]
        simpa using orElse_ne_none hx

/-- **The state machine refines the trace specification of the vehicle window.** A history runs through
whatever values undefined divisions leave, and after every run the globals behave as the open window
says. -/
theorem run_refines_windows (cfg : Config) (xs : List Input) :
    ((∀ x ∈ xs, x.Resolved) → (machine cfg).run initial xs ≠ none) ∧
      ∀ g acts, (machine cfg).run initial xs = some (g, acts) → Refines cfg g (openWindow xs) := by
  refine ⟨fun hxs => ?_, fun g acts hrun => (tracks_run hrun).refines⟩
  rw [StepMachine.run_ne_none_iff]
  rintro g x ⟨pre, post, acts, rfl, -⟩
  exact step_ne_none (hxs x (by simp))

end Radar
