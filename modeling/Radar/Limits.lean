import Radar.Invariant
import Radar.Window

/-!
# The limits of the 8-bit counter and of the two divisions

`axle_count` is a `uint8_t`: it agrees with the number of sensor-1 rises of the window modulo 256, so it
is sound exactly as long as no window has more than 255 of them (`axle_counter_limit`).

The divisions of `compute_speed_kmh` and `compute_timeout` are both made at the first sensor-2 rise of a
window, and the firing repeats the first one with the same operands. So a run divides by zero exactly
when some window has its first sensor-2 rise at an elapsed time that is zero, or too long for a speed of
1 km/h (`no_zero_divisor_iff`).
-/

namespace Radar

variable {cfg : Config} {undef : Option Int32} {g g' : Globals} {acts : List Action} {xs : List Input}

/-! ### The axle counter -/

/-- No window of the history has more than `n` sensor-1 rises. -/
def WindowsWithin (n : ℕ) (xs : List Input) : Prop :=
  ∀ pre post w, xs = pre ++ post → openWindow pre = some w → w.axles ≤ n

/-- The counter is positive in TRACKING and does not decrease within a window. -/
def CounterSound (g : Globals) (_ : Input) (g' : Globals) (_ : List Action) : Prop :=
  g'.ctx.state = .tracking →
    1 ≤ g'.ctx.axleCount ∧ (g.ctx.state = .tracking → g.ctx.axleCount ≤ g'.ctx.axleCount)

theorem toNat_ofNat_axles {n : ℕ} (hn : n ≤ 255) : (UInt8.ofNat n).toNat = n :=
  UInt8.toNat_ofNat_of_lt' (by simp [UInt8.size]; omega)

theorem nextWindow_axles {w w' : Window} {x : Input} (h : nextWindow (some w) x = some w') :
    w'.axles = w.axles ∨ w'.axles = w.axles + 1 := by
  cases x with
  | fire disp undef => cases h
  | event evt undef =>
    cases evt with
    | none =>
      obtain rfl := Option.some.inj h
      exact Or.inl rfl
    | some e =>
      obtain rfl := Option.some.inj h
      rw [Window.axles_push]
      split
      · exact Or.inr rfl
      · exact Or.inl rfl

theorem nextWindow_opens {w : Window} {x : Input} (h : nextWindow none x = some w) : w.axles = 1 := by
  cases x with
  | fire disp undef => cases h
  | event evt undef =>
    cases evt with
    | none => cases h
    | some e =>
      simp only [nextWindow] at h
      split at h
      · obtain rfl := Option.some.inj h
        rfl
      · cases h

theorem counterSound_of_within {w : Option Window} {x : Input} (h : Tracks g w)
    (hstep : step cfg g x = some (g', acts))
    (hbound : ∀ w', nextWindow w x = some w' → w'.axles ≤ 255) : CounterSound g x g' acts := by
  intro hstate'
  have h' := tracks_step h hstep
  obtain ⟨w', hw'⟩ := h'.tracking hstate'
  rw [hw'] at h'
  have hn' := hbound w' hw'
  have haxles' := h'.2.2.1
  refine ⟨?_, fun hstate => ?_⟩
  · rw [haxles', UInt8.le_iff_toNat_le, toNat_ofNat_axles hn']
    exact w'.axles_pos
  · obtain ⟨w, rfl⟩ := h.tracking hstate
    have hle : w.axles ≤ w'.axles := by
      rcases nextWindow_axles hw' with heq | heq <;> omega
    rw [h.2.2.1, haxles', UInt8.le_iff_toNat_le, toNat_ofNat_axles hn',
      toNat_ofNat_axles (hle.trans hn')]
    exact hle

/-- At the 256th rise of a window the counter is zero. -/
theorem axles_le_of_counterSound {w w' : Window} {x : Input} (h : Tracks g (some w))
    (hn : w.axles ≤ 255) (hstep : step cfg g x = some (g', acts)) (hsound : CounterSound g x g' acts)
    (hw' : nextWindow (some w) x = some w') : w'.axles ≤ 255 := by
  have h' := tracks_step h hstep
  rw [hw'] at h'
  by_contra hover
  have hfull : w'.axles = 256 := by
    rcases nextWindow_axles hw' with heq | heq <;> omega
  obtain ⟨hpos, -⟩ := hsound h'.1
  rw [h'.2.2.1, hfull] at hpos
  exact absurd hpos (by decide)

theorem within_of_counterSound (hrun : (machine cfg).run initial xs = some (g, acts))
    (hsound : (machine cfg).Along CounterSound initial xs) : WindowsWithin 255 xs := by
  intro pre
  induction pre using List.reverseRecOn with
  | nil => intro post w _ hw; cases hw
  | append_singleton pre x ih =>
    intro post w' hxs hw'
    rw [openWindow_concat] at hw'
    rw [List.append_assoc, List.singleton_append] at hxs
    have hrun' := hrun
    rw [hxs] at hrun'
    obtain ⟨g₁, o₁, o₂, hpre, hrest⟩ := (machine cfg).run_front hrun'
    obtain ⟨g₂, o₃, o₄, hstep, -, -⟩ := (machine cfg).run_cons_some hrest
    have hx := hsound g₁ x g₂ o₃ ⟨pre, post, o₁, hxs, hpre⟩ hstep
    have htracks := tracks_run hpre
    cases hw : openWindow pre with
    | none =>
      rw [hw] at hw'
      rw [nextWindow_opens hw']
      norm_num
    | some w =>
      rw [hw] at hw' htracks
      exact axles_le_of_counterSound htracks (ih (x :: post) w hxs hw) hstep hx hw'

theorem counterSound_iff_within (hrun : (machine cfg).run initial xs = some (g, acts)) :
    (machine cfg).Along CounterSound initial xs ↔ WindowsWithin 255 xs := by
  refine ⟨within_of_counterSound hrun, fun hwithin g₁ x g₂ o => ?_⟩
  rintro ⟨pre, post, o₁, hxs, hpre⟩ hstep
  refine counterSound_of_within (tracks_run hpre) hstep fun w' hw' => ?_
  refine hwithin (pre ++ [x]) post w' ?_ (by rw [openWindow_concat, hw'])
  rw [hxs, List.append_assoc, List.singleton_append]

/-- Sensor-1 rises after the present point of a window. -/
def rises (es : List SensorEvent) : List Input := events (es.map some)

/-- After the further rises `es` the firing shows a heavy vehicle with at least `k` axles. -/
def HeavyAfter (cfg : Config) (g : Globals) (k : ℕ) (es : List SensorEvent) : Prop :=
  ∃ g₁ o₁, (machine cfg).run g (rises es) = some (g₁, o₁) ∧ ∀ disp, ∃ g₂ o₂ d,
    step cfg g₁ (.fire disp none) = some (g₂, o₂) ∧ .display d ∈ o₂ ∧ d.type = .heavy ∧
      k ≤ d.axleCount.toNat

theorem run_rises {w : Window} {es : List SensorEvent} (h : Tracks g (some w))
    (hes : ∀ e ∈ es, e.Rise 1) :
    ∃ g' o w', (machine cfg).run g (rises es) = some (g', o) ∧ Tracks g' (some w') ∧
      w'.axles = w.axles + es.length ∧ w'.t2 = w.t2 ∧ w'.t1 = w.t1 := by
  induction es generalizing g w with
  | nil => exact ⟨g, [], w, rfl, h, rfl, rfl, rfl⟩
  | cons e es ih =>
    have hrise := hes e (by simp)
    have hstep := @event_axle cfg none g e h.1 hrise
    have h₁ : Tracks (kWorkReschedule (addAxle g)).1 (some (w.push e)) :=
      tracks_event h (event_cases hstep)
    obtain ⟨g', o, w', hrun, h', haxles, ht2, ht1⟩ := ih h₁ (fun e he => hes e (by simp [he]))
    have hrun' : (machine cfg).run g (rises (e :: es)) =
        some (g', (kWorkReschedule (addAxle g)).2 ++ o) := by
      rw [rises, events, List.map_cons, List.map_cons, StepMachine.run_cons]
      show ((radarProcessSensorEvent cfg none g (some e)).bind _) = _
      rw [hstep, Option.bind_some]
      exact congrArg (Option.map _) hrun
    refine ⟨g', _, w', hrun', h', ?_, ?_, ht1⟩
    · rw [haxles, Window.axles_push, if_pos hrise, List.length_cons]
      omega
    · simp [ht2, Window.t2_push, hrise.not_two]

theorem heavyAfter_iff {w : Window} {t : UInt32} {s : Int32} {es : List SensorEvent}
    (h : Tracks g (some w)) (ht : w.t2 = some t) (hk : 3 ≤ w.axles)
    (hs : computeSpeedKmh cfg.sensorDistanceMm (t - w.t1) = some s) (hes : ∀ e ∈ es, e.Rise 1) :
    HeavyAfter cfg g w.axles es ↔ w.axles ≤ (w.axles + es.length) % 256 := by
  obtain ⟨g₁, o₁, w₁, hrun, h₁, haxles, ht2, ht1⟩ := @run_rises cfg g w es h hes
  have hs₁ : (g₁.speedKmh cfg <|> none) = some s := by
    rw [h₁.speedKmh_eq (ht2.trans ht), ht1, hs]
    rfl
  have hcount : g₁.ctx.axleCount.toNat = (w.axles + es.length) % 256 := by
    rw [h₁.2.2.1, haxles]
    rfl
  constructor
  · rintro ⟨g₁', o₁', hrun', hfire⟩
    obtain ⟨rfl, -⟩ := Prod.mk.inj (Option.some.inj (hrun.symm.trans hrun'))
    obtain ⟨g₂, o₂, d, hstep, hmem, -, hle⟩ := hfire ⟨.light, 0, 0, 0, 0, .normal⟩
    rw [← hcount]
    cases fire_cases hstep with
    | notPending hpending => simp at hmem
    | noise hpending hnoise => exact absurd hmem mem_captureOf_display
    | report s' hpending hnoise hs' =>
      rcases List.mem_cons.mp hmem with heq | hmem
      · rw [Action.display.inj heq] at hle
        exact hle
      · exact absurd hmem mem_captureOf_display
  · intro hle
    refine ⟨g₁, o₁, hrun, fun disp => ?_⟩
    have hnoise : ¬ g₁.Noise := by
      rw [h₁.noise_iff, ht2, ht, ← h₁.2.2.1]
      rintro (hnone | hone)
      · cases hnone
      · rw [hone] at hcount
        change 1 = _ at hcount
        omega
    have hfire := @fire_report cfg none g₁ disp h₁.2.1 hnoise
    rw [hs₁] at hfire
    refine ⟨_, _, _, hfire, List.mem_cons_self .., ?_, ?_⟩
    · have hge : g₁.ctx.axleCount ≥ 3 := by
        rw [ge_iff_le, UInt8.le_iff_toNat_le, hcount]
        exact hk.trans hle
      simp [Globals.displayData, displayData, vehicleTypeOf, hge]
    · rw [← hcount] at hle
      exact hle

theorem replicate_rise (n : ℕ) (t : UInt32) :
    ∀ e ∈ List.replicate n (⟨1, 1, t⟩ : SensorEvent), e.Rise 1 := by
  intro e he
  rw [List.eq_of_mem_replicate he]
  exact ⟨rfl, rfl⟩

/-- In a run without zero divisors the speed of a window is known once sensor 2 has been read. -/
theorem speed_of_strict {w : Window} {t : UInt32} (hstrict : ∀ x ∈ xs, x.Strict)
    (hrun : (machine cfg).run initial xs = some (g, acts)) (hw : openWindow xs = some w)
    (ht : w.t2 = some t) : ∃ s, computeSpeedKmh cfg.sensorDistanceMm (t - w.t1) = some s := by
  have h := tracks_run hrun
  rw [hw] at h
  have hseen : g.ctx.sensor2Seen = true := by rw [h.2.2.2.2.1, ht]; rfl
  obtain ⟨s, hs, -⟩ := stopTimeout_eq_some.mp (timeoutMeasured_run hstrict hrun h.1 hseen)
  exact ⟨s, (h.speedKmh_eq ht).symm.trans hs⟩

/-- **The axle counter is sound up to 255 axles and no further.** In every run the counter stays positive
and never decreases within a window exactly if no window has more than 255 sensor-1 rises. And in a run
without zero divisors, once a window has `k ≥ 3` of them and a sensor-2 rise, every continuation by up to
`m` further rises is reported as a heavy vehicle of at least `k` axles exactly if `k + m ≤ 255`. -/
theorem axle_counter_limit (cfg : Config) (xs : List Input) (g : Globals) (acts : List Action)
    (hrun : (machine cfg).run initial xs = some (g, acts)) :
    ((machine cfg).Along CounterSound initial xs ↔ WindowsWithin 255 xs) ∧
      ((∀ x ∈ xs, x.Strict) → ∀ w, openWindow xs = some w → 3 ≤ w.axles → w.t2 ≠ none → ∀ m,
        (∀ es : List SensorEvent, (∀ e ∈ es, e.Rise 1) → es.length ≤ m →
          HeavyAfter cfg g w.axles es) ↔ w.axles + m ≤ 255) := by
  refine ⟨counterSound_iff_within hrun, fun hstrict w hw hk hsome m => ?_⟩
  obtain ⟨t, ht⟩ := Option.ne_none_iff_exists'.mp hsome
  obtain ⟨s, hs⟩ := speed_of_strict hstrict hrun hw ht
  have h := tracks_run hrun
  rw [hw] at h
  constructor
  · intro hall
    by_contra hover
    -- the shortest continuation that brings the counter to zero
    have hrise := replicate_rise (256 - w.axles) 0
    have hheavy := hall _ hrise (by rw [List.length_replicate]; omega)
    rw [heavyAfter_iff h ht hk hs hrise, List.length_replicate] at hheavy
    omega
  · intro hle es hes hlen
    rw [heavyAfter_iff h ht hk hs hes]
    omega

/-- Three axles and a sensor-2 reading. -/
def threeAxles : List Input :=
  rises [⟨1, 1, 0⟩, ⟨1, 1, 20⟩, ⟨1, 1, 40⟩] ++ [.event (some ⟨2, 1, 100⟩) none]

/-- Up to 252 more rises are reported as a heavy vehicle. -/
theorem axle_counter_limit_threeAxles :
    ∃ g acts, (machine .kconfig).run initial threeAxles = some (g, acts) ∧
      ((machine .kconfig).Along CounterSound initial threeAxles ↔ WindowsWithin 255 threeAxles) ∧
      ∀ es : List SensorEvent, (∀ e ∈ es, e.Rise 1) → es.length ≤ 252 → HeavyAfter .kconfig g 3 es := by
  obtain ⟨⟨g, acts⟩, hrun⟩ : ∃ r, (machine .kconfig).run initial threeAxles = some r :=
    Option.ne_none_iff_exists'.mp (by decide)
  obtain ⟨w, hw, haxles, ht2⟩ :
      ∃ w, openWindow threeAxles = some w ∧ w.axles = 3 ∧ w.t2 = some 100 :=
    ⟨_, rfl, by decide, by decide⟩
  have hlimit := axle_counter_limit .kconfig threeAxles g acts hrun
  refine ⟨g, acts, hrun, hlimit.1, ?_⟩
  rw [← haxles]
  refine (hlimit.2 (by decide) w hw (by rw [haxles]) ?_ 252).mpr (by rw [haxles])
  rw [ht2]
  exact Option.some_ne_none 100

/-- A heavy vehicle is lost: after 253 more rises its counter is zero. -/
theorem axle_counter_wraps :
    ∃ g o, (machine .kconfig).run initial threeAxles = some (g, o) ∧
      (openWindow threeAxles).map Window.axles = some 3 ∧
      ¬ HeavyAfter .kconfig g 3 (List.replicate 253 ⟨1, 1, 110⟩) := by
  obtain ⟨⟨g, o⟩, hrun⟩ : ∃ r, (machine .kconfig).run initial threeAxles = some r :=
    Option.ne_none_iff_exists'.mp (by decide)
  have htracks := tracks_run hrun
  have haxles : (openWindow threeAxles).map Window.axles = some 3 := by decide
  have ht2 : (openWindow threeAxles).bind Window.t2 = some 100 := by decide
  have ht1 : (openWindow threeAxles).map Window.t1 = some 0 := by decide
  refine ⟨g, o, hrun, haxles, fun hheavy => ?_⟩
  cases hw : openWindow threeAxles with
  | none => rw [hw] at haxles; cases haxles
  | some w =>
    rw [hw] at haxles ht2 ht1 htracks
    simp only [Option.map_some, Option.some.injEq, Option.bind_some] at haxles ht2 ht1
    have hs : computeSpeedKmh Config.kconfig.sensorDistanceMm (100 - w.t1) = some 36 := by
      rw [ht1]
      decide
    have hiff := heavyAfter_iff htracks ht2 haxles.ge hs (replicate_rise 253 110)
    rw [haxles, List.length_replicate] at hiff
    exact absurd (hiff.mp hheavy) (by decide)

/-! ### The divisions -/

/-- In every window the first sensor-2 rise comes at an elapsed time `δ` with
`0 < 10 * δ ≤ 36 * distance`, the products taken in `uint32_t`. -/
def ElapsedMeasurable (cfg : Config) (xs : List Input) : Prop :=
  ∀ pre e undef post w, xs = pre ++ .event (some e) undef :: post → openWindow pre = some w →
    w.t2 = none → e.Rise 2 →
      (e.timestampMs - w.t1) * 10 ≠ 0 ∧ (e.timestampMs - w.t1) * 10 ≤ cfg.sensorDistanceMm * 36

theorem event_ne_none_of_measurable {evt : Option SensorEvent} {w : Option Window}
    (h : Tracks g w)
    (hmeas : ∀ e w', evt = some e → w = some w' → w'.t2 = none → e.Rise 2 →
      (e.timestampMs - w'.t1) * 10 ≠ 0 ∧ (e.timestampMs - w'.t1) * 10 ≤ cfg.sensorDistanceMm * 36) :
    radarProcessSensorEvent cfg none g evt ≠ none := by
  by_cases hignores : g.Ignores evt
  · simp [event_ignored hignores]
  · simp only [Globals.Ignores, not_forall] at hignores
    obtain ⟨e, rfl, he⟩ := hignores
    by_cases h1 : e.Rise 1
    · cases hstate : g.ctx.state with
      | idle => simp [event_opens hstate h1]
      | tracking => simp [event_axle hstate h1]
    · obtain ⟨h2, hstate, hfirst⟩ := not_not.mp fun hno => he ⟨h1, hno⟩
      obtain ⟨w, rfl⟩ := h.tracking hstate
      have hnone := h.t2_eq_none hfirst
      have hdiv := stopTimeout_ne_none.mpr (hmeas e w rfl rfl hnone h2)
      rw [event_sensor2 hstate h2 hfirst, h.2.2.2.1]
      simpa using hdiv

theorem fire_ne_none_of_measured {disp : RadarDisplayData} (h : TimeoutMeasured cfg g) :
    step cfg g (.fire disp none) ≠ none := by
  by_cases hpending : g.ctx.finalizeWork.pending = none
  · simp [fire_notPending hpending]
  · by_cases hnoise : g.Noise
    · simp [fire_noise hpending hnoise]
    · rw [fire_report hpending hnoise]
      simp only [Globals.Noise, not_or, Bool.not_eq_false, not_not] at hnoise
      obtain ⟨s, hs, -⟩ := stopTimeout_eq_some.mp (h hnoise.2.1 hnoise.1)
      simp [Globals.speedKmh, hs]

/-- **No zero divisor, exactly when.** A run meets no zero divisor, in `compute_speed_kmh` or in
`compute_timeout`, if and only if in every window the first sensor-2 rise comes at an elapsed time `δ`
with `0 < 10 * δ ≤ 36 * distance`. -/
theorem no_zero_divisor_iff (cfg : Config) (xs : List Input) (hstrict : ∀ x ∈ xs, x.Strict) :
    (machine cfg).run initial xs ≠ none ↔ ElapsedMeasurable cfg xs := by
  constructor
  · intro hrun pre e undef post w hxs hw hnone hrise
    obtain ⟨⟨g', o'⟩, hrun⟩ := Option.ne_none_iff_exists'.mp hrun
    rw [hxs] at hrun
    obtain ⟨g, o, o₂, hpre, hrest⟩ := (machine cfg).run_front hrun
    obtain ⟨g₁, o₃, o₄, hstep, -, -⟩ := (machine cfg).run_cons_some hrest
    have h := tracks_run hpre
    rw [hw] at h
    obtain rfl : undef = none := hstrict (.event (some e) undef) (by simp [hxs])
    have hfirst : g.ctx.sensor2Seen = false := by rw [h.2.2.2.2.1, hnone]; rfl
    change radarProcessSensorEvent cfg none g (some e) = _ at hstep
    rw [event_sensor2 h.1 hrise hfirst, h.2.2.2.1, Option.map_eq_some_iff] at hstep
    obtain ⟨t, ht, -⟩ := hstep
    refine stopTimeout_ne_none.mp fun hzero => ?_
    simp [hzero] at ht
  · intro hmeas
    rw [StepMachine.run_ne_none_iff]
    rintro g x ⟨pre, post, o, rfl, hpre⟩
    have hpreStrict : ∀ y ∈ pre, y.Strict := fun y hy => hstrict y (by simp [hy])
    have hx : x.Strict := hstrict x (by simp)
    cases x with
    | event evt undef =>
      obtain rfl : undef = none := hx
      refine event_ne_none_of_measurable (tracks_run hpre) fun e w he hw hnone hrise => ?_
      exact hmeas pre e none post w (by rw [he]) hw hnone hrise
    | fire disp undef =>
      obtain rfl : undef = none := hx
      exact fire_ne_none_of_measured (timeoutMeasured_run hpreStrict hpre)

theorem no_zero_divisor_simVehicle : ElapsedMeasurable .kconfig (simVehicle 0) :=
  (no_zero_divisor_iff .kconfig (simVehicle 0) (by decide)).mp (by decide)

/-- The timestamps of the sensor events of a history. -/
def timestamps (xs : List Input) : List UInt32 :=
  xs.filterMap fun
    | .event (some e) _ => some e.timestampMs
    | _ => none

/-- Both sensors reported by one call of `sensor_gpio_isr`: the speed is 0 and `compute_timeout`
divides by it. -/
theorem zero_divisor_same_millisecond :
    let xs : List Input := [.event (some ⟨1, 1, 5⟩) none, .event (some ⟨2, 1, 5⟩) none]
    (∀ x ∈ xs, x.Strict) ∧ (timestamps xs).Pairwise (· ≤ ·) ∧
      (machine .kconfig).run initial xs = none := by
  decide

end Radar
