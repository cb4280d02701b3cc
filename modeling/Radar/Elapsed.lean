import Radar.Measurement
import Radar.SensorQueue
import Radar.Step

/-!
# What `delta_ms` measures

If the events reach `radar_process_sensor_event` in the order of their timestamps, a context that has seen
sensor 2 has `start_time_ms ≤ sensor2_time_ms`, whatever firings of `finalize_work` come in between, and
the `uint32_t` difference is the elapsed time. The events of `sensor.c` arrive so in every run without a
disturbed interrupt.
-/

namespace Radar

variable {cfg : Config} {undef : Option Int32} {g g' : Globals} {acts : List Action}
  {last now : UInt32}

/-- The times of a context, against the last event processed. -/
structure Globals.Timed (g : Globals) (last : UInt32) : Prop where
  started : g.ctx.state = .tracking → g.ctx.startTimeMs ≤ last
  passed : g.ctx.state = .tracking → g.ctx.sensor2Seen = true → g.ctx.startTimeMs ≤ g.ctx.sensor2TimeMs

theorem Globals.Timed.mono (h : g.Timed last) (hle : last ≤ now) : g.Timed now :=
  ⟨fun hstate => UInt32.le_trans (h.started hstate) hle, h.passed⟩

theorem timed_of_idle (h : g.ctx.state = .idle) (last : UInt32) : g.Timed last := by
  constructor
  · intro hstate
    rw [h] at hstate
    cases hstate
  · intro hstate
    rw [h] at hstate
    cases hstate

theorem Globals.Timed.event (h : g.Timed last) {e : SensorEvent} (hle : last ≤ e.timestampMs)
    (hstep : radarProcessSensorEvent cfg undef g (some e) = some (g', acts)) :
    g'.Timed e.timestampMs := by
  cases event_cases hstep with
  | opens _ hstate hrise => exact ⟨fun _ => UInt32.le_refl _, fun _ hseen => nomatch hseen⟩
  | axle _ hstate hrise =>
    have hnow := h.mono hle
    exact ⟨hnow.started, hnow.passed⟩
  | sensor2 _ t hstate hrise hfirst ht =>
    have hstart : g.ctx.startTimeMs ≤ e.timestampMs := (h.mono hle).started hstate
    exact ⟨fun _ => hstart, fun _ _ => hstart⟩
  | ignored _ hignores => exact h.mono hle

theorem Globals.Timed.fire (h : g.Timed last) {disp : RadarDisplayData}
    (hstep : step cfg g (.fire disp undef) = some (g', acts)) : g'.Timed last := by
  cases fire_cases hstep with
  | notPending hpending => exact h
  | noise hpending hnoise => exact timed_of_idle rfl last
  | report s hpending hnoise hs => exact timed_of_idle rfl last

/-- **Events in order keep the times of the context in order.** -/
theorem timed_run {is : List Input} :
    ∀ {g g' : Globals} {acts : List Action} {last : UInt32}, g.Timed last →
      (∀ e ∈ is.filterMap Input.sensorEvent, last ≤ e.timestampMs) →
      (is.filterMap Input.sensorEvent).Pairwise (fun a b => a.timestampMs ≤ b.timestampMs) →
      (machine cfg).run g is = some (g', acts) → ∃ last', g'.Timed last' := by
  induction is with
  | nil =>
    intro g g' acts last h _ _ hrun
    simp only [StepMachine.run_nil, Option.some.injEq, Prod.mk.injEq] at hrun
    obtain ⟨rfl, -⟩ := hrun
    exact ⟨last, h⟩
  | cons i is ih =>
    intro g g' acts last h hlate hsorted hrun
    obtain ⟨g₁, o₁, o₂, hstep, hrest, -⟩ := (machine cfg).run_cons_some hrun
    cases i with
    | fire disp undef => exact ih (h.fire hstep) hlate hsorted hrest
    | event evt undef =>
      cases evt with
      | none =>
        have hsame : g₁ = g := (Prod.mk.inj (Option.some.inj hstep)).1.symm
        rw [hsame] at hrest
        exact ih h hlate hsorted hrest
      | some e =>
        have hcons : (Input.event (some e) undef :: is).filterMap Input.sensorEvent =
            e :: is.filterMap Input.sensorEvent := rfl
        rw [hcons] at hlate hsorted
        rw [List.pairwise_cons] at hsorted
        exact ih (h.event (hlate e List.mem_cons_self) hstep) hsorted.1 hsorted.2 hrest

/-- Every context reached by events in order measures a true elapsed time. -/
theorem deltaMs_elapsed {is : List Input}
    (hsorted : (is.filterMap Input.sensorEvent).Pairwise fun a b => a.timestampMs ≤ b.timestampMs)
    (hrun : (machine cfg).run initial is = some (g, acts)) (hstate : g.ctx.state = .tracking)
    (hseen : g.ctx.sensor2Seen = true) :
    g.ctx.startTimeMs ≤ g.ctx.sensor2TimeMs ∧
      g.deltaMs.toNat = g.ctx.sensor2TimeMs.toNat - g.ctx.startTimeMs.toNat := by
  have hzero : ∀ e ∈ is.filterMap Input.sensorEvent, 0 ≤ e.timestampMs :=
    fun e _ => UInt32.le_iff_toNat_le.mpr (Nat.zero_le _)
  obtain ⟨last, htimed⟩ := timed_run (timed_of_idle rfl 0) hzero hsorted hrun
  have hle := htimed.passed hstate hseen
  exact ⟨hle, UInt32.toNat_sub_of_le _ _ hle⟩

/-! ### The whole path -/

section Path

variable {t : UInt32} {moves : List SensorMove} {s : SensorSystem} {o : List SensorOutput}

/-- **The event stream is complete and in time order** in every run without a disturbed interrupt, and
`delta_ms` is then the elapsed time; a run that ends with nothing under way is complete and in order
only so. -/
theorem events_complete_in_order (hrun : sensorMachine.run (.start t) moves = some (s, o)) :
    (sensorMachine.Along (fun s m _ _ => s.Undisturbed m) (.start t) moves →
      (sentEvents o).Perm (handedEvents o ++ (s.queued ++ s.sending.toList)) ∧
      (handedEvents o).Pairwise (fun a b => a.timestampMs ≤ b.timestampMs) ∧
      ∀ cfg is g acts, is.filterMap Input.sensorEvent = handedEvents o →
        (machine cfg).run initial is = some (g, acts) → g.ctx.state = .tracking →
        g.ctx.sensor2Seen = true → g.ctx.startTimeMs ≤ g.ctx.sensor2TimeMs ∧
          g.deltaMs.toNat = g.ctx.sensor2TimeMs.toNat - g.ctx.startTimeMs.toNat) ∧
    (s.Drained →
      (sensorMachine.Along (fun s m _ _ => s.Undisturbed m) (.start t) moves ↔
        (sentEvents o).Perm (handedEvents o) ∧
        (handedEvents o).Pairwise fun a b => a.timestampMs ≤ b.timestampMs)) := by
  have hsplit := SensorSystem.stream_split hrun
  have horder : s.InOrder o → (sentEvents o).Perm (handedEvents o ++ (s.queued ++ s.sending.toList)) ∧
      (handedEvents o).Pairwise fun a b => a.timestampMs ≤ b.timestampMs := by
    rintro ⟨hperm, hsorted, -⟩
    rw [List.append_assoc] at hperm hsorted
    exact ⟨hperm, (List.pairwise_append.mp hsorted).1⟩
  constructor
  · intro halong
    rcases hsplit with ⟨-, hin⟩ | ⟨hnot, -⟩
    · obtain ⟨hperm, hsorted⟩ := horder hin
      refine ⟨hperm, hsorted, ?_⟩
      intro cfg is g acts hevents hmachine hstate hseen
      exact deltaMs_elapsed (hevents ▸ hsorted) hmachine hstate hseen
    · exact absurd halong hnot
  · rintro ⟨hqueued, hsending⟩
    rcases hsplit with ⟨halong, hin⟩ | ⟨hnot, hbroken⟩
    · obtain ⟨hperm, hsorted⟩ := horder hin
      rw [hqueued, hsending, Option.toList_none, List.append_nil, List.append_nil] at hperm
      exact iff_of_true halong ⟨hperm, hsorted⟩
    · unfold SensorSystem.Broken at hbroken
      rw [hqueued, hsending, List.append_nil] at hbroken
      exact iff_of_false hnot hbroken.not_delivered

/-- An edge on each pin, 120 ms apart. -/
def twoEdges : List SensorMove :=
  [.gpio (some 1) 0 none, .take, .process, .uptime 120, .gpio none 120 (some 1), .take, .process]

theorem events_complete_in_order_twoEdges :
    sensorMachine.Along (fun s m _ _ => s.Undisturbed m) (.start 0) twoEdges :=
  ((@events_complete_in_order 0 twoEdges _ _ rfl).2 ⟨rfl, rfl⟩).mpr ⟨List.Perm.refl _, by decide⟩

/-- The simulation stamps its pulse at 5 ms, and an edge at 6 ms comes in before the put. -/
def overtaking : List SensorMove :=
  [.uptime 5, .simStamp 1, .uptime 6, .gpio (some 1) 6 none, .simPut, .take, .process, .take, .process]

theorem pulse_overtaken :
    ¬ ∀ (t : UInt32) (moves : List SensorMove) (s : SensorSystem) (o : List SensorOutput),
      sensorMachine.run (.start t) moves = some (s, o) →
      (sentEvents o).Perm (handedEvents o ++ (s.queued ++ s.sending.toList)) ∧
      (handedEvents o).Pairwise fun a b => a.timestampMs ≤ b.timestampMs := by
  intro h
  obtain ⟨-, hsorted⟩ := h 0 overtaking _ _ rfl
  exact absurd hsorted (by decide)

end Path

end Radar
