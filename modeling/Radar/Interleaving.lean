import Radar.Finalize
import Radar.Invariant

/-!
# Sensor events between the report and the reset

`handler_plate_infraction` blocks between the report of a vehicle and `vehicle_context_reset`, and
`sensor_thread` goes on reading events meanwhile. Here a firing is two moves, `report` and `reset`, with
any number of events in between; nothing is assumed about how long the camera takes. `report_reset`
says that the two moves in a row are the atomic firing of `machine`. A call of
`radar_process_sensor_event` is one move, and so are the expiry of the delay and the start of the handler:
no firing begins inside an event.

A `Ledger` keeps, beside the globals, which sensor-1 rises have been read, which of them the context
counts, and which ones each firing judged. `accounted_iff_undisturbed`: every rise read is judged by
exactly one firing or still counted, and no reset leaves the work pending on an idle context, exactly if
no sensor-1 rise is read between a report and its reset.
-/

namespace Radar

/-- What became of the sensor-1 rises: all rises read, those the context counts, those each firing
found counted, and, between a report and its reset, the rises of the reported vehicle. -/
structure Ledger where
  read : List SensorEvent
  counted : List SensorEvent
  judged : List (List SensorEvent)
  awaiting : Option (List SensorEvent)

/-- The globals, whether a firing stands between its report and its reset, and the ledger. -/
structure Shared where
  globals : Globals
  finalizing : Bool
  ledger : Ledger

def Shared.start : Shared := ⟨initial, false, ⟨[], [], [], none⟩⟩

/-- An event is entered: a sensor-1 rise opens a count on an idle context and adds to it otherwise. -/
def Ledger.enter (l : Ledger) (state : VehicleTrackState) (evt : Option SensorEvent) : Ledger :=
  match evt with
  | none => l
  | some e =>
    if e.Rise 1 then
      { l with
        read := l.read ++ [e]
        counted := if state = .idle then [e] else l.counted ++ [e] }
    else l

/-- A firing judges the counted rises; noise is dropped at once, a reported vehicle awaits its reset. -/
def Ledger.judge (l : Ledger) (noise : Bool) : Ledger :=
  { l with
    counted := if noise then [] else l.counted
    judged := l.judged ++ [l.counted]
    awaiting := if noise then none else some l.counted }

def Ledger.clear (l : Ledger) : Ledger := { l with counted := [], awaiting := none }

/-- A sensor event, or one half of a firing of `finalize_work`. -/
inductive Move where
  | event (evt : Option SensorEvent) (undef : Option Int32)
  | report (disp : RadarDisplayData) (undef : Option Int32)
  | reset

/-- One move. The work queue has one thread: it starts no firing while another one is under way. -/
def move (cfg : Config) (s : Shared) : Move → Option (Shared × List Action)
  | .event evt undef => do
    let (g, acts) ← radarProcessSensorEvent cfg undef s.globals evt
    return ({ s with globals := g, ledger := s.ledger.enter s.globals.ctx.state evt }, acts)
  | .report disp undef =>
    if s.finalizing = false ∧ s.globals.ctx.finalizeWork.pending.isSome then do
      let (g, acts) ← finalizeReport cfg undef disp (takeWork s.globals)
      return (⟨g, true, s.ledger.judge (decide s.globals.Noise)⟩, acts)
    else some (s, [])
  | .reset =>
    if s.finalizing then some (⟨vehicleContextReset s.globals, false, s.ledger.clear⟩, [])
    else some (s, [])

/-- The processing file with its two threads interleaved. -/
def threads (cfg : Config) : StepMachine Shared Move Action := ⟨move cfg⟩

variable {cfg : Config} {s s' : Shared} {acts : List Action}

/-- **The two halves in a row are the atomic firing.** -/
theorem report_reset (hidle : s.finalizing = false) (disp : RadarDisplayData)
    (undef : Option Int32) :
    ((threads cfg).run s [.report disp undef, .reset]).map (fun r => (r.1.globals, r.2)) =
      step cfg s.globals (.fire disp undef) := by
  rw [StepMachine.run_cons]
  show ((move cfg s (.report disp undef)).bind _).map _ = _
  by_cases hpending : s.globals.ctx.finalizeWork.pending.isSome
  · simp only [move, step, hidle, hpending, and_self, if_true, finalizeVehicleWork]
    cases finalizeReport cfg undef disp (takeWork s.globals) with
    | none => rfl
    | some r => simp [StepMachine.run_cons, threads, move]
  · simp [move, step, hidle, hpending, StepMachine.run_cons, threads]

/-! ### The property and the condition -/

/-- No sensor event is charged to a vehicle already reported, and none is erased. -/
structure Accounted (s : Shared) : Prop where
  /-- `axle_count` counts the rises the ledger says it counts. -/
  counter : s.globals.ctx.axleCount = UInt8.ofNat s.ledger.counted.length
  /-- While a reported vehicle awaits its reset, the context counts what was reported. -/
  uncharged : ∀ w, s.ledger.awaiting = some w → s.ledger.counted = w
  /-- With no firing under way, every rise read was judged by one firing or is still counted. -/
  kept : s.finalizing = false → s.ledger.read = s.ledger.judged.flatten ++ s.ledger.counted
  /-- The work of an idle context is not pending. -/
  timer : s.globals.ctx.state = .idle → s.globals.ctx.finalizeWork.pending = none

/-- The move does not read a sensor-1 rise between a report and its reset. -/
def Undisturbed (s : Shared) : Move → Prop
  | .event (some e) _ => e.Rise 1 → s.finalizing = false
  | _ => True

/-! ### What one move does -/

/-- The moves that matter: a sensor-1 rise, another event, the two halves of a firing, or nothing. -/
inductive MoveEffect (cfg : Config) (s : Shared) : Move → Shared → Prop where
  | opens (e : SensorEvent) (undef : Option Int32) (hstate : s.globals.ctx.state = .idle)
      (hrise : e.Rise 1) :
      MoveEffect cfg s (.event (some e) undef)
        { s with globals := (kWorkReschedule (initContext s.globals e)).1
                 ledger := { s.ledger with read := s.ledger.read ++ [e], counted := [e] } }
  | axle (e : SensorEvent) (undef : Option Int32) (hstate : s.globals.ctx.state = .tracking)
      (hrise : e.Rise 1) :
      MoveEffect cfg s (.event (some e) undef)
        { s with globals := (kWorkReschedule (addAxle s.globals)).1
                 ledger := { s.ledger with
                   read := s.ledger.read ++ [e], counted := s.ledger.counted ++ [e] } }
  | other (evt : Option SensorEvent) (undef : Option Int32) (g : Globals)
      (hrise : ∀ e, evt = some e → ¬ e.Rise 1) (hstate : g.ctx.state = s.globals.ctx.state)
      (hcount : g.ctx.axleCount = s.globals.ctx.axleCount)
      (hpending : g.ctx.finalizeWork = s.globals.ctx.finalizeWork) :
      MoveEffect cfg s (.event evt undef) { s with globals := g }
  | noise (disp : RadarDisplayData) (undef : Option Int32) (hfinal : s.finalizing = false)
      (hpending : s.globals.ctx.finalizeWork.pending ≠ none) :
      MoveEffect cfg s (.report disp undef)
        ⟨vehicleContextReset (takeWork s.globals), true, s.ledger.judge true⟩
  | report (disp : RadarDisplayData) (undef : Option Int32) (hfinal : s.finalizing = false)
      (hpending : s.globals.ctx.finalizeWork.pending ≠ none) (hnoise : ¬ s.globals.Noise) :
      MoveEffect cfg s (.report disp undef) ⟨takeWork s.globals, true, s.ledger.judge false⟩
  | reset (hfinal : s.finalizing = true) :
      MoveEffect cfg s .reset ⟨vehicleContextReset s.globals, false, s.ledger.clear⟩
  | nothing (x : Move) (hx : ∀ evt undef, x ≠ .event evt undef) : MoveEffect cfg s x s

theorem move_event_cases {evt : Option SensorEvent} {undef : Option Int32}
    (h : move cfg s (.event evt undef) = some (s', acts)) :
    MoveEffect cfg s (.event evt undef) s' := by
  simp only [move, Option.bind_eq_bind, Option.bind_eq_some_iff] at h
  obtain ⟨⟨g, o⟩, hevent, heq⟩ := h
  obtain ⟨rfl, rfl⟩ := Prod.mk.inj (Option.some.inj heq)
  cases event_cases hevent with
  | opens e hstate hrise =>
    have heffect := @MoveEffect.opens cfg s e undef hstate hrise
    simpa only [Ledger.enter, if_pos hrise, hstate, if_true] using heffect
  | axle e hstate hrise =>
    have heffect := @MoveEffect.axle cfg s e undef hstate hrise
    simpa [Ledger.enter, hrise, hstate] using heffect
  | sensor2 e t hstate hrise hfirst ht =>
    have hnot : ¬ e.Rise 1 := fun h => h.not_two hrise
    have heffect := @MoveEffect.other cfg s (some e) undef
      { registerTimestampSensor2 s.globals e with radarStopTimeout := t }
      (fun e' he' => by obtain rfl := Option.some.inj he'; exact hnot) rfl rfl rfl
    simpa only [Ledger.enter, if_neg hnot] using heffect
  | ignored evt hignores =>
    have heffect := @MoveEffect.other cfg s evt undef s.globals
      (fun e he => (hignores e he).1) rfl rfl rfl
    cases evt with
    | none => exact heffect
    | some e => simpa only [Ledger.enter, if_neg (hignores e rfl).1] using heffect

theorem move_cases {x : Move} (h : move cfg s x = some (s', acts)) : MoveEffect cfg s x s' := by
  cases x with
  | event evt undef => exact move_event_cases h
  | report disp undef =>
    by_cases hgo : s.finalizing = false ∧ s.globals.ctx.finalizeWork.pending.isSome
    · have hpending := Option.isSome_iff_ne_none.mp hgo.2
      simp only [move, if_pos hgo, Option.bind_eq_bind, Option.bind_eq_some_iff] at h
      obtain ⟨⟨g, o⟩, hreport, heq⟩ := h
      obtain ⟨rfl, rfl⟩ := Prod.mk.inj (Option.some.inj heq)
      by_cases hnoise : s.globals.Noise
      · rw [finalizeReport_noise (takeWork_noise.mpr hnoise)] at hreport
        obtain ⟨rfl, rfl⟩ := Prod.mk.inj (Option.some.inj hreport)
        simpa only [hnoise, decide_true] using
          @MoveEffect.noise cfg s disp undef hgo.1 hpending
      · rw [finalizeReport_report (mt takeWork_noise.mp hnoise), Option.map_eq_some_iff] at hreport
        obtain ⟨v, -, heq⟩ := hreport
        obtain ⟨rfl, rfl⟩ := Prod.mk.inj heq
        simpa only [hnoise, decide_false] using
          @MoveEffect.report cfg s disp undef hgo.1 hpending hnoise
    · simp only [move, if_neg hgo, Option.some.injEq, Prod.mk.injEq] at h
      obtain ⟨rfl, -⟩ := h
      exact .nothing _ fun _ _ => by simp
  | reset =>
    by_cases hfinal : s.finalizing = true
    · simp only [move, if_pos hfinal, Option.some.injEq, Prod.mk.injEq] at h
      obtain ⟨rfl, -⟩ := h
      exact .reset hfinal
    · simp only [move, if_neg hfinal, Option.some.injEq, Prod.mk.injEq] at h
      obtain ⟨rfl, -⟩ := h
      exact .nothing _ fun _ _ => by simp

/-! ### Rises that get lost -/

/-- The ledger's count is the counter's, and an idle context counts nothing. -/
def Counts (s : Shared) : Prop :=
  s.globals.ctx.axleCount = UInt8.ofNat s.ledger.counted.length ∧
    (s.globals.ctx.state = .idle → s.ledger.counted = [])

theorem counts_start : Counts .start := ⟨rfl, fun _ => rfl⟩

theorem counts_move {x : Move} (h : Counts s) (heffect : MoveEffect cfg s x s') : Counts s' := by
  obtain ⟨hcount, hempty⟩ := h
  cases heffect with
  | opens e undef hstate hrise => exact ⟨rfl, fun h => nomatch h⟩
  | axle e undef hstate hrise =>
    refine ⟨?_, fun h => ?_⟩
    · simp only [kWorkReschedule, addAxle, hcount, List.length_append, List.length_singleton,
        UInt8.ofNat_add]
      rfl
    · exact absurd (hstate.symm.trans h) (by decide)
  | other evt undef g hrise hstate hcount' hpending =>
    refine ⟨hcount'.trans hcount, fun h => hempty (hstate.symm.trans h)⟩
  | noise disp undef hfinal hpending => exact ⟨rfl, fun _ => rfl⟩
  | report disp undef hfinal hpending hnoise => exact ⟨hcount, hempty⟩
  | reset hfinal => exact ⟨rfl, fun _ => rfl⟩
  | nothing x hx => exact ⟨hcount, hempty⟩

/-- `n` of the rises read are neither judged nor, outside a firing, counted. -/
def Lost (s : Shared) (n : ℕ) : Prop :=
  s.ledger.read.length =
    s.ledger.judged.flatten.length + (if s.finalizing then 0 else s.ledger.counted.length) + n

theorem undisturbed_rise {e : SensorEvent} {undef : Option Int32} (hrise : e.Rise 1) :
    Undisturbed s (.event (some e) undef) ↔ s.finalizing = false :=
  ⟨fun h => h hrise, fun h _ => h⟩

/-- A rise that is read is counted, or lost in a firing. -/
theorem lost_rise {e : SensorEvent} {n : ℕ} (hlost : Lost s n)
    (hfinal : s'.finalizing = s.finalizing) (hjudged : s'.ledger.judged = s.ledger.judged)
    (hread : s'.ledger.read = s.ledger.read ++ [e])
    (hcounted : s.finalizing = false → s'.ledger.counted.length = s.ledger.counted.length + 1) :
    ∃ n', Lost s' n' ∧ n ≤ n' ∧ (n' = n ↔ s.finalizing = false) := by
  unfold Lost at hlost ⊢
  rw [hfinal, hjudged, hread, List.length_append, List.length_singleton]
  cases hf : s.finalizing with
  | false =>
    refine ⟨n, ?_, le_rfl, by simp⟩
    rw [hcounted hf]
    simp [hf] at hlost ⊢
    omega
  | true =>
    refine ⟨n + 1, ?_, Nat.le_succ n, by simp⟩
    simp [hf] at hlost ⊢
    omega

/-- A move loses a rise exactly when it reads one between a report and its reset. -/
theorem lost_move {x : Move} {n : ℕ} (hcounts : Counts s) (hlost : Lost s n)
    (heffect : MoveEffect cfg s x s') :
    ∃ n', Lost s' n' ∧ n ≤ n' ∧ (n' = n ↔ Undisturbed s x) := by
  cases heffect with
  | opens e undef hstate hrise =>
    rw [undisturbed_rise hrise]
    exact lost_rise hlost rfl rfl rfl fun _ => by simp [hcounts.2 hstate]
  | axle e undef hstate hrise =>
    rw [undisturbed_rise hrise]
    exact lost_rise hlost rfl rfl rfl fun _ => by simp
  | other evt undef g hrise hstate hcount hpending =>
    have hfree : Undisturbed s (.event evt undef) := by
      cases evt with
      | none => trivial
      | some e => exact fun h => absurd h (hrise e rfl)
    exact ⟨n, hlost, le_rfl, ⟨fun _ => hfree, fun _ => rfl⟩⟩
  | noise disp undef hfinal hpending =>
    refine ⟨n, ?_, le_rfl, ⟨fun _ => trivial, fun _ => rfl⟩⟩
    unfold Lost at hlost ⊢
    simp [Ledger.judge, hfinal] at hlost ⊢
    omega
  | report disp undef hfinal hpending hnoise =>
    refine ⟨n, ?_, le_rfl, ⟨fun _ => trivial, fun _ => rfl⟩⟩
    unfold Lost at hlost ⊢
    simp [Ledger.judge, hfinal] at hlost ⊢
    omega
  | reset hfinal =>
    refine ⟨n, ?_, le_rfl, ⟨fun _ => trivial, fun _ => rfl⟩⟩
    unfold Lost at hlost ⊢
    simp [Ledger.clear, hfinal] at hlost ⊢
    omega
  | nothing x hx =>
    have hfree : Undisturbed s x := by
      cases x with
      | event evt undef => exact absurd rfl (hx evt undef)
      | report disp undef => trivial
      | reset => trivial
    exact ⟨n, hlost, le_rfl, ⟨fun _ => hfree, fun _ => rfl⟩⟩

theorem lost_run {xs : List Move} {n : ℕ} (hcounts : Counts s) (hlost : Lost s n)
    (hrun : (threads cfg).run s xs = some (s', acts)) :
    ∃ n', Lost s' n' ∧ n ≤ n' ∧
      (n' = n ↔ (threads cfg).Along (fun s x _ _ => Undisturbed s x) s xs) := by
  have hstep : ∀ s (_ : List Action) n x s' o, Counts s ∧ Lost s n →
      (threads cfg).step s x = some (s', o) →
      ∃ n', (Counts s' ∧ Lost s' n') ∧ n ≤ n' ∧ (n' = n ↔ Undisturbed s x) := by
    rintro s - n x s' o ⟨hcounts, hlost⟩ hmove
    have heffect := move_cases hmove
    obtain ⟨n', hlost', hle, hiff⟩ := lost_move hcounts hlost heffect
    exact ⟨n', ⟨counts_move hcounts heffect, hlost'⟩, hle, hiff⟩
  obtain ⟨n', ⟨-, hlost'⟩, hle, hiff⟩ :=
    (threads cfg).run_defect (R := fun s _ n => Counts s ∧ Lost s n) hstep (h := []) ⟨hcounts, hlost⟩ hrun
  exact ⟨n', hlost', hle, hiff⟩

/-! ### Undisturbed firings -/

/-- The invariant of undisturbed runs. -/
structure Settled (s : Shared) : Prop where
  accounted : Accounted s
  counts : Counts s
  free : s.finalizing = false → s.ledger.awaiting = none
  busy : s.finalizing = true →
    s.globals.ctx.finalizeWork.pending = none ∧ s.ledger.read = s.ledger.judged.flatten

theorem settled_start : Settled .start :=
  ⟨⟨rfl, fun _ h => (nomatch h), fun _ => rfl, fun _ => rfl⟩, counts_start, fun _ => rfl,
    fun h => (nomatch h)⟩

/-- A rise read outside a firing leaves every rise accounted for. -/
theorem settled_rise (h : Settled s) (hfinal : s.finalizing = false) (hcounts' : Counts s')
    (hfinal' : s'.finalizing = false) (hawaiting : s'.ledger.awaiting = s.ledger.awaiting)
    (hkept : s'.ledger.read = s'.ledger.judged.flatten ++ s'.ledger.counted)
    (hstate : s'.globals.ctx.state = .tracking) : Settled s' := by
  have hnone : s'.ledger.awaiting = none := hawaiting.trans (h.free hfinal)
  refine ⟨⟨hcounts'.1, ?_, fun _ => hkept, ?_⟩, hcounts', fun _ => hnone, ?_⟩
  · intro w hw
    exact absurd (hnone.symm.trans hw) (by simp)
  · exact fun hidle => absurd (hstate.symm.trans hidle) (by decide)
  · exact fun htrue => absurd (hfinal'.symm.trans htrue) (by decide)

/-- The first half of a firing has judged every rise read. -/
theorem settled_judged (hcounts' : Counts s') (hfinal' : s'.finalizing = true)
    (hcharged : ∀ w, s'.ledger.awaiting = some w → s'.ledger.counted = w)
    (hpending : s'.globals.ctx.finalizeWork.pending = none)
    (hread : s'.ledger.read = s'.ledger.judged.flatten) : Settled s' := by
  have hbusy : ¬ s'.finalizing = false := by
    rw [hfinal']
    decide
  exact ⟨⟨hcounts'.1, hcharged, fun hfalse => absurd hfalse hbusy, fun _ => hpending⟩, hcounts',
    fun hfalse => absurd hfalse hbusy, fun _ => ⟨hpending, hread⟩⟩

theorem settled_move {x : Move} (h : Settled s) (heffect : MoveEffect cfg s x s')
    (hfree : Undisturbed s x) : Settled s' := by
  have hcounts' := counts_move h.counts heffect
  have hkept := h.accounted.kept
  cases heffect with
  | opens e undef hstate hrise =>
    have hfinal := hfree hrise
    refine settled_rise h hfinal hcounts' hfinal rfl ?_ rfl
    simp [hkept hfinal, h.counts.2 hstate]
  | axle e undef hstate hrise =>
    have hfinal := hfree hrise
    refine settled_rise h hfinal hcounts' hfinal rfl ?_ hstate
    simp [hkept hfinal]
  | other evt undef g hrise hstate hcount hpending =>
    refine ⟨⟨hcounts'.1, h.accounted.uncharged, hkept, ?_⟩, hcounts', h.free, ?_⟩
    · intro hidle
      show g.ctx.finalizeWork.pending = none
      rw [hpending]
      exact h.accounted.timer (hstate.symm.trans hidle)
    · intro hfinal
      show g.ctx.finalizeWork.pending = none ∧ _
      rw [hpending]
      exact h.busy hfinal
  | noise disp undef hfinal hpending =>
    refine settled_judged hcounts' rfl (fun w hw => nomatch hw) rfl ?_
    simp [Ledger.judge, hkept hfinal]
  | report disp undef hfinal hpending hnoise =>
    refine settled_judged hcounts' rfl (fun w hw => Option.some.inj hw) rfl ?_
    simp [Ledger.judge, hkept hfinal]
  | reset hfinal =>
    obtain ⟨hpending, hread⟩ := h.busy hfinal
    refine ⟨⟨hcounts'.1, ?_, ?_, ?_⟩, hcounts', fun _ => rfl, fun h => nomatch h⟩
    · exact fun w hw => nomatch hw
    · intro _
      simp [Ledger.clear, hread]
    · exact fun _ => hpending
  | nothing x hx => exact h

theorem accounted_of_undisturbed {xs : List Move} (h : Settled s)
    (hfree : (threads cfg).Along (fun s x _ _ => Undisturbed s x) s xs) :
    (threads cfg).Along (fun _ _ s' _ => Accounted s') s xs := by
  refine (threads cfg).along_imp (I := Settled) ?_ h hfree
  intro s x s' o h hundisturbed hstep
  have hsettled := settled_move h (move_cases hstep) hundisturbed
  exact ⟨hsettled, hsettled.accounted⟩

/-- **Sensor events survive a firing exactly when none of sensor 1 falls into it.** In every interleaving
in which no sensor-1 rise is read between a report and its reset, every state reached is accounted for.
And over every run that ends with no firing under way, the states are accounted for only then. -/
theorem accounted_iff_undisturbed (cfg : Config) (xs : List Move) :
    ((threads cfg).Along (fun s x _ _ => Undisturbed s x) .start xs →
        (threads cfg).Along (fun _ _ s' _ => Accounted s') .start xs) ∧
      ∀ s acts, (threads cfg).run .start xs = some (s, acts) → s.finalizing = false →
        (threads cfg).Along (fun _ _ s' _ => Accounted s') .start xs →
          (threads cfg).Along (fun s x _ _ => Undisturbed s x) .start xs := by
  refine ⟨accounted_of_undisturbed settled_start, fun s acts hrun hfinal hacc => ?_⟩
  have hlast : Accounted s := by
    rcases List.eq_nil_or_concat xs with rfl | ⟨ys, x, rfl⟩
    · simp only [StepMachine.run_nil, Option.some.injEq, Prod.mk.injEq] at hrun
      obtain ⟨rfl, -⟩ := hrun
      exact settled_start.accounted
    · rw [List.concat_eq_append] at hrun hacc
      obtain ⟨s₁, o₁, o₂, hfront, hstep⟩ := (threads cfg).run_concat_some hrun
      exact hacc s₁ x s o₂ ⟨ys, [], o₁, rfl, hfront⟩ hstep
  obtain ⟨n, hlost, -, hiff⟩ := lost_run (n := 0) counts_start rfl hrun
  apply hiff.mp
  rw [Lost, hfinal, hlast.kept hfinal, List.length_append] at hlost
  simp at hlost
  exact hlost

/-- An infraction is reported, and while the camera is busy the first axle of the next vehicle passes. -/
def axleDuringCapture : List Move :=
  [.event (some ⟨1, 1, 0⟩) none, .event (some ⟨1, 1, 10⟩) none, .event (some ⟨2, 1, 20⟩) none,
    .report ⟨.light, 0, 0, 0, 0, .normal⟩ none, .event (some ⟨1, 1, 700⟩) none, .reset]

/-- The axle is charged to the reported vehicle and erased, and the work stays pending on an idle
context. -/
theorem axle_erased :
    ∃ s acts, (threads .kconfig).run .start axleDuringCapture = some (s, acts) ∧
      captures acts = 1 ∧ s.finalizing = false ∧ s.ledger.read.length = 3 ∧
      s.ledger.judged.flatten.length = 2 ∧ s.ledger.counted = [] ∧ s.globals.ctx.axleCount = 0 ∧
      s.globals.ctx.state = .idle ∧ s.globals.ctx.finalizeWork.pending = some 100 ∧ ¬ Accounted s := by
  refine ⟨_, _, rfl, by decide, rfl, rfl, rfl, rfl, rfl, rfl, by decide, fun h => ?_⟩
  exact absurd (h.timer rfl) (by decide)

end Radar
