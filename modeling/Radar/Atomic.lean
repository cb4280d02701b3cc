import Mathlib.Data.List.Infix
import Radar.Base.Simulation
import Radar.Interleaving

/-!
# Firings as one step

With no sensor-1 rise between a report and its reset, a firing might as well be one step: `Linearized`
puts it at the report, and the globals between report and reset behave like those after the reset, as
the work item is taken and a tracked vehicle has its sensor-2 time. So the two threads show what
`machine` shows on the same events and firings, which is what the windows cut out of them show
(`undisturbed_linearizes`).
-/

namespace Radar

variable {cfg : Config} {g g' a : Globals} {s s' : Shared} {acts : List Action}

/-! ### What a history shows -/

/-- What an input shows that finds the window `w` open. -/
def closing (cfg : Config) (w : Option Window) : Input → Option (List RadarDisplayData)
  | .event _ _ => some []
  | .fire _ undef =>
    match w with
    | none => some []
    | some w => w.report cfg undef

/-- What a history shows: at every firing the report of the window it closes. -/
def windowReports (cfg : Config) : Option Window → List Input → Option (List RadarDisplayData)
  | _, [] => some []
  | w, x :: xs => do
    let shown ← closing cfg w x
    let later ← windowReports cfg (nextWindow w x) xs
    return shown ++ later

/-- No window of the history counts more than 255 axles. -/
def CountsFit (w : Option Window) (xs : List Input) : Prop :=
  ∀ pre, pre <+: xs → ∀ w', pre.foldl nextWindow w = some w' → w'.axles ≤ 255

/-- `CountsFit` can be checked prefix by prefix. -/
instance (w : Option Window) (xs : List Input) : Decidable (CountsFit w xs) :=
  decidable_of_iff (∀ pre ∈ xs.inits, ∀ n ∈ (pre.foldl nextWindow w).map Window.axles, n ≤ 255) <| by
    simp only [List.mem_inits, Option.mem_map, forall_exists_index, and_imp, forall_apply_eq_imp_iff₂]
    rfl

theorem CountsFit.head {w : Window} {xs : List Input} (h : CountsFit (some w) xs) : w.axles ≤ 255 :=
  h [] xs.nil_prefix w rfl

theorem CountsFit.tail {w : Option Window} {x : Input} {xs : List Input} (h : CountsFit w (x :: xs)) :
    CountsFit (nextWindow w x) xs :=
  fun pre hpre w' hw' => h (x :: pre) ((List.prefix_cons_inj x).mpr hpre) w' hw'

theorem step_closing {w : Option Window} {x : Input} (h : Tracks g w)
    (hfit : ∀ w', w = some w' → w'.axles ≤ 255) (hstep : step cfg g x = some (g', acts)) :
    closing cfg w x = some (reports acts) := by
  cases x with
  | event evt undef => cases event_cases hstep <;> rfl
  | fire disp undef =>
    cases w with
    | none =>
      rw [fire_notPending h.2] at hstep
      obtain ⟨-, rfl⟩ := Prod.mk.inj (Option.some.inj hstep)
      rfl
    | some w =>
      have hreports : (step cfg g (.fire disp undef)).map (fun r => reports r.2) = w.report cfg undef :=
        h.fire_reports (hfit w rfl) disp undef
      rw [hstep] at hreports
      exact hreports.symm

/-- A run shows what its history shows. -/
theorem run_windowReports {xs : List Input} :
    ∀ {w : Option Window} {g : Globals} {acts : List Action}, Tracks g w → CountsFit w xs →
      (machine cfg).run g xs = some (g', acts) → windowReports cfg w xs = some (reports acts) := by
  induction xs with
  | nil =>
    intro w g acts _ _ hrun
    obtain ⟨-, rfl⟩ := Prod.mk.inj (Option.some.inj hrun)
    rfl
  | cons x xs ih =>
    intro w g acts h hfit hrun
    obtain ⟨g₁, o₁, o₂, hstep, hrest, rfl⟩ := (machine cfg).run_cons_some hrun
    have hhead : closing cfg w x = some (reports o₁) := by
      refine step_closing h ?_ hstep
      rintro w' rfl
      exact hfit.head
    have hlater := ih (tracks_step h hstep) hfit.tail hrest
    simp only [windowReports, hhead, hlater, Option.bind_eq_bind, Option.bind_some, reports_append]
    rfl

/-! ### The firing at its report -/

/-- The inputs of the file with atomic firings. -/
def Move.inputs : Move → List Input
  | .event evt undef => [.event evt undef]
  | .report disp undef => [.fire disp undef]
  | .reset => []

/-- The globals `a` are those of a file that has done the firing under way at once. -/
structure Linearized (s : Shared) (a : Globals) : Prop where
  free : s.finalizing = false → a = s.globals
  busy : s.finalizing = true → a = vehicleContextReset s.globals
  taken : s.finalizing = true → s.globals.ctx.finalizeWork.pending = none
  seen : s.finalizing = true → s.globals.ctx.state = .tracking → s.globals.ctx.sensor2Seen = true

theorem linearized_free (hfinal : s.finalizing = false) : Linearized s s.globals := by
  have hnot : ¬ s.finalizing = true := by
    rw [hfinal]
    decide
  exact ⟨fun _ => rfl, fun h => absurd h hnot, fun h => absurd h hnot, fun h => absurd h hnot⟩

theorem linearized_busy (hfinal : s.finalizing = true)
    (htaken : s.globals.ctx.finalizeWork.pending = none)
    (hseen : s.globals.ctx.state = .tracking → s.globals.ctx.sensor2Seen = true) :
    Linearized s (vehicleContextReset s.globals) := by
  have hnot : ¬ s.finalizing = false := by
    rw [hfinal]
    decide
  exact ⟨fun h => absurd h hnot, fun _ => rfl, fun _ => htaken, fun _ => hseen⟩

/-- Between report and reset an event that is no rise of sensor 1 is ignored, and would be after the
reset. -/
theorem Linearized.ignores {evt : Option SensorEvent} {undef : Option Int32} (h : Linearized s a)
    (hfinal : s.finalizing = true) (hfree : Undisturbed s (.event evt undef)) :
    s.globals.Ignores evt ∧ a.Ignores evt := by
  have hrise : ∀ e, evt = some e → ¬ e.Rise 1 := by
    rintro e rfl h1
    have hfalse := hfree h1
    rw [hfinal] at hfalse
    cases hfalse
  refine ⟨fun e he => ⟨hrise e he, ?_⟩, fun e he => ⟨hrise e he, ?_⟩⟩
  · rintro ⟨-, hstate, hfirst⟩
    rw [h.seen hfinal hstate] at hfirst
    cases hfirst
  · rintro ⟨-, hstate, -⟩
    rw [h.busy hfinal] at hstate
    cases hstate

theorem linearized_event {evt : Option SensorEvent} {undef : Option Int32} (h : Linearized s a)
    (hfree : Undisturbed s (.event evt undef)) (hmove : move cfg s (.event evt undef) = some (s', acts)) :
    ∃ a', step cfg a (.event evt undef) = some (a', acts) ∧ Linearized s' a' := by
  simp only [move, Option.bind_eq_bind, Option.bind_eq_some_iff] at hmove
  obtain ⟨⟨g, o⟩, hevent, heq⟩ := hmove
  obtain ⟨rfl, rfl⟩ := Prod.mk.inj (Option.some.inj heq)
  cases hfinal : s.finalizing with
  | false =>
    rw [h.free hfinal]
    exact ⟨g, hevent, linearized_free rfl⟩
  | true =>
    obtain ⟨hignores, hignores'⟩ := h.ignores hfinal hfree
    rw [event_ignored hignores] at hevent
    obtain ⟨rfl, rfl⟩ := Prod.mk.inj (Option.some.inj hevent)
    refine ⟨a, event_ignored hignores', ?_⟩
    rw [h.busy hfinal]
    exact linearized_busy rfl (h.taken hfinal) (h.seen hfinal)

theorem linearized_report {disp : RadarDisplayData} {undef : Option Int32} (h : Linearized s a)
    (hmove : move cfg s (.report disp undef) = some (s', acts)) :
    ∃ a', step cfg a (.fire disp undef) = some (a', acts) ∧ Linearized s' a' := by
  cases hfinal : s.finalizing with
  | true =>
    have hpending : a.ctx.finalizeWork.pending = none := by
      rw [h.busy hfinal]
      exact h.taken hfinal
    simp only [move, hfinal, Bool.true_eq_false, false_and, if_false, Option.some.injEq,
      Prod.mk.injEq] at hmove
    obtain ⟨rfl, rfl⟩ := hmove
    exact ⟨a, fire_notPending hpending, h⟩
  | false =>
    have hatomic := @report_reset cfg s hfinal disp undef
    have hstep : (threads cfg).step s (.report disp undef) = some (s', acts) := hmove
    rw [h.free hfinal, ← hatomic, StepMachine.run_cons, hstep, Option.bind_some,
      StepMachine.run_singleton]
    cases move_cases hmove with
    | noise disp undef _ hpending =>
      refine ⟨_, by simp [threads, move], linearized_busy rfl rfl ?_⟩
      intro hstate
      cases hstate
    | report disp undef _ hpending hnoise =>
      refine ⟨_, by simp [threads, move], linearized_busy rfl rfl ?_⟩
      intro _
      rw [Globals.Noise, not_or, Bool.not_eq_false] at hnoise
      exact hnoise.1
    | nothing x hx => exact ⟨_, by simp [threads, move, hfinal], linearized_free hfinal⟩

theorem linearized_reset (h : Linearized s a) (hmove : move cfg s .reset = some (s', acts)) :
    acts = [] ∧ Linearized s' a := by
  cases hfinal : s.finalizing with
  | true =>
    simp only [move, hfinal, if_true, Option.some.injEq, Prod.mk.injEq] at hmove
    obtain ⟨rfl, rfl⟩ := hmove
    rw [h.busy hfinal]
    exact ⟨rfl, linearized_free rfl⟩
  | false =>
    simp only [move, hfinal, Bool.false_eq_true, if_false, Option.some.injEq, Prod.mk.injEq] at hmove
    obtain ⟨rfl, rfl⟩ := hmove
    exact ⟨rfl, h⟩

theorem linearized_move {x : Move} (h : Linearized s a) (hfree : Undisturbed s x)
    (hmove : move cfg s x = some (s', acts)) :
    ∃ a', (machine cfg).run a x.inputs = some (a', acts) ∧ Linearized s' a' := by
  cases x with
  | event evt undef =>
    rw [Move.inputs, StepMachine.run_singleton]
    exact linearized_event h hfree hmove
  | report disp undef =>
    rw [Move.inputs, StepMachine.run_singleton]
    exact linearized_report h hmove
  | reset =>
    obtain ⟨rfl, hlinearized⟩ := linearized_reset h hmove
    exact ⟨a, rfl, hlinearized⟩

theorem linearized_run {xs : List Move} (h : Linearized s a)
    (hfree : (threads cfg).Along (fun s x _ _ => Undisturbed s x) s xs)
    (hrun : (threads cfg).run s xs = some (s', acts)) :
    ∃ a', (machine cfg).run a (xs.flatMap Move.inputs) = some (a', acts) ∧ Linearized s' a' := by
  have hstep : ∀ s a x s' o, Linearized s a → Undisturbed s x → (threads cfg).step s x = some (s', o) →
      ∃ a', (machine cfg).run a (Move.inputs x) = some (a', o.filterMap some) ∧ Linearized s' a' := by
    intro s a x s' o h hfree hmove
    rw [List.filterMap_some]
    exact linearized_move h hfree hmove
  have hsim := (threads cfg).run_simulate (machine cfg) hstep h hfree hrun
  rwa [(threads cfg).reads_flatMap Move.inputs hrun, List.filterMap_some] at hsim

/-- **Undisturbed firings are atomic.** Events being one move each, an interleaving in which no sensor-1
rise is read between a report and its reset makes the calls of `machine` over the same events and firings,
ends in its globals if no firing is under way, and shows exactly the reports of the windows that the
firings close. -/
theorem undisturbed_linearizes (cfg : Config) {xs : List Move}
    (hfree : (threads cfg).Along (fun s x _ _ => Undisturbed s x) .start xs)
    (hrun : (threads cfg).run .start xs = some (s, acts)) :
    (∃ g, (machine cfg).run initial (xs.flatMap Move.inputs) = some (g, acts) ∧
        (s.finalizing = false → g = s.globals)) ∧
      (CountsFit none (xs.flatMap Move.inputs) →
        windowReports cfg none (xs.flatMap Move.inputs) = some (reports acts)) := by
  obtain ⟨g, hatomic, hlinearized⟩ := linearized_run (linearized_free rfl) hfree hrun
  exact ⟨⟨g, hatomic, hlinearized.free⟩, fun hfit => run_windowReports tracks_initial hfit hatomic⟩

/-- An infraction is reported, and while the camera is busy its second axle reaches sensor 2. -/
def sensor2DuringCapture : List Move :=
  [.event (some ⟨1, 1, 0⟩) none, .event (some ⟨1, 1, 10⟩) none, .event (some ⟨2, 1, 20⟩) none,
    .report ⟨.light, 0, 0, 0, 0, .normal⟩ none, .event (some ⟨2, 1, 30⟩) none, .reset]

theorem sensor2_during_capture :
    ∃ s g acts, (threads .kconfig).run .start sensor2DuringCapture = some (s, acts) ∧
      (machine .kconfig).run initial (sensor2DuringCapture.flatMap Move.inputs) = some (g, acts) ∧
      g = s.globals ∧
      windowReports .kconfig none (sensor2DuringCapture.flatMap Move.inputs) = some (reports acts) ∧
      captures acts = 1 ∧ (reports acts).map RadarDisplayData.measuredSpeedKmh = [180] := by
  have hfree : (threads .kconfig).Along (fun s x _ _ => Undisturbed s x) .start sensor2DuringCapture := by
    refine ((threads .kconfig).along_cons rfl).mpr ⟨fun _ => rfl, ?_⟩
    refine ((threads .kconfig).along_cons rfl).mpr ⟨fun _ => rfl, ?_⟩
    refine ((threads .kconfig).along_cons rfl).mpr ⟨fun _ => rfl, ?_⟩
    refine ((threads .kconfig).along_cons rfl).mpr ⟨trivial, ?_⟩
    refine ((threads .kconfig).along_cons rfl).mpr ⟨fun h => absurd h (by decide), ?_⟩
    exact ((threads .kconfig).along_cons rfl).mpr ⟨trivial, StepMachine.along_nil _ _ _⟩
  obtain ⟨s, acts, hrun, hfinal, hcaptures, hspeed⟩ :
      ∃ s acts, (threads .kconfig).run .start sensor2DuringCapture = some (s, acts) ∧
        s.finalizing = false ∧ captures acts = 1 ∧
        (reports acts).map RadarDisplayData.measuredSpeedKmh = [180] :=
    ⟨_, _, rfl, rfl, by decide, by decide⟩
  obtain ⟨⟨g, hatomic, hglobals⟩, hshown⟩ := undisturbed_linearizes .kconfig hfree hrun
  exact ⟨s, g, acts, hrun, hatomic, hglobals hfinal, hshown (by decide), hcaptures, hspeed⟩

end Radar
