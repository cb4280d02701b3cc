import Radar.Window

/-!
# Which firings start a capture

`finalize_vehicle_work` decides on `disp.status`, and `disp` is a stack variable that
`compute_vehicle_status` leaves unwritten when it discards a vehicle as noise. So a firing calls
`handler_plate_infraction` for a reported infraction, and also for noise when the stack still holds the
status of an infraction (`capture_iff_reported`).
-/

namespace Radar

variable {cfg : Config} {g g' : Globals} {acts : List Action}

/-- The record of an infraction. -/
def RadarDisplayData.IsInfraction (disp : RadarDisplayData) : Prop := disp.status = .infraction

instance : DecidablePred RadarDisplayData.IsInfraction := fun disp =>
  inferInstanceAs (Decidable (disp.status = .infraction))

/-- The step calls `handler_plate_infraction` if and only if it shows an infraction. -/
def CapturesReported (_ : Globals) (_ : Input) (_ : Globals) (acts : List Action) : Prop :=
  .capture ∈ acts ↔ ∃ disp ∈ reports acts, disp.IsInfraction

/-- If the step is a firing that discards noise, the stack variable does not hold an infraction. -/
def StackClean (g : Globals) : Input → Prop
  | .event _ _ => True
  | .fire disp _ => g.ctx.finalizeWork.pending ≠ none → g.Noise → ¬ disp.IsInfraction

/-- The infraction reports shown and the captures requested among the calls. -/
def infractions (acts : List Action) : ℕ := (reports acts).countP fun disp => decide disp.IsInfraction

def captures (acts : List Action) : ℕ := acts.count .capture

theorem infractions_append (as bs : List Action) :
    infractions (as ++ bs) = infractions as + infractions bs := by
  simp [infractions, List.countP_append]

theorem captures_append (as bs : List Action) : captures (as ++ bs) = captures as + captures bs := by
  simp [captures, List.count_append]

theorem captureOf_mem (disp : RadarDisplayData) : .capture ∈ captureOf disp ↔ disp.IsInfraction := by
  unfold captureOf RadarDisplayData.IsInfraction
  split <;> simp_all

theorem captures_captureOf (disp : RadarDisplayData) :
    captures (captureOf disp) = if disp.IsInfraction then 1 else 0 := by
  by_cases h : disp.status = .infraction <;>
    simp [captureOf, RadarDisplayData.IsInfraction, captures, h]

/-- One step: how the captures and the shown infractions compare. -/
theorem step_captures {x : Input} (hstep : step cfg g x = some (g', acts)) :
    (CapturesReported g x g' acts ↔ StackClean g x) ∧ infractions acts ≤ captures acts ∧
      (captures acts = infractions acts ↔ StackClean g x) := by
  cases x with
  | event evt undef =>
    have hnone : .capture ∉ acts ∧ reports acts = [] := by
      cases event_cases hstep <;> exact ⟨by simp, rfl⟩
    have hcount : captures acts = 0 := List.count_eq_zero.mpr hnone.1
    simp [CapturesReported, StackClean, infractions, hnone, hcount]
  | fire disp undef =>
    cases fire_cases hstep with
    | notPending hpending =>
      simp [CapturesReported, StackClean, infractions, captures, hpending]
    | noise hpending hnoise =>
      have hclean : StackClean g (.fire disp undef) ↔ ¬ disp.IsInfraction :=
        ⟨fun h => h hpending hnoise, fun h _ _ => h⟩
      have hshown : infractions (captureOf disp) = 0 := by simp [infractions]
      rw [hclean, hshown, captures_captureOf]
      refine ⟨?_, Nat.zero_le _, ?_⟩
      · simp [CapturesReported, captureOf_mem]
      · by_cases h : disp.IsInfraction <;> simp [h]
    | report s hpending hnoise hs =>
      have hclean : StackClean g (.fire disp undef) := fun _ h => absurd h hnoise
      have hshown : infractions (.display (g.displayData cfg s) :: captureOf (g.displayData cfg s)) =
          captures (.display (g.displayData cfg s) :: captureOf (g.displayData cfg s)) := by
        rw [← List.singleton_append, captures_append, captures_captureOf]
        simp [infractions, captures, List.countP_cons]
      refine ⟨⟨fun _ => hclean, fun _ => ?_⟩, hshown.le, ⟨fun _ => hclean, fun _ => hshown.symm⟩⟩
      simp [CapturesReported, captureOf_mem]

/-- Over a run the captures never fall short of the shown infractions, and they are as many exactly if
no noise firing found an infraction on its stack. -/
theorem run_captures {xs : List Input} (hrun : (machine cfg).run g xs = some (g', acts)) :
    infractions acts ≤ captures acts ∧
      (captures acts = infractions acts ↔ (machine cfg).Along (fun g x _ _ => StackClean g x) g xs) := by
  have hstep : ∀ g h n x g' o, captures h = infractions h + n → (machine cfg).step g x = some (g', o) →
      ∃ n', captures (h ++ o) = infractions (h ++ o) + n' ∧ n ≤ n' ∧ (n' = n ↔ StackClean g x) := by
    intro g h n x g' o hcount hstep
    obtain ⟨-, hle, hiff⟩ := step_captures hstep
    refine ⟨n + (captures o - infractions o), ?_, Nat.le_add_right _ _, ?_⟩
    · rw [captures_append, infractions_append]
      omega
    · rw [← hiff]
      omega
  obtain ⟨n, hcount, -, hiff⟩ := (machine cfg).run_defect
    (R := fun _ h n => captures h = infractions h + n) hstep (h := []) (n := 0) rfl hrun
  rw [List.nil_append] at hcount
  refine ⟨by omega, ?_⟩
  rw [← hiff]
  omega

/-- **A capture for every reported infraction, and no other, exactly when the stack is clean.** Along
any history every firing calls `handler_plate_infraction` if and only if it reported an infraction, and
the captures requested are as many as the infractions shown, exactly if no firing that discards noise
finds an infraction in its uninitialised `disp`. -/
theorem capture_iff_reported (cfg : Config) (xs : List Input) :
    ((machine cfg).Along CapturesReported initial xs ↔
        (machine cfg).Along (fun g x _ _ => StackClean g x) initial xs) ∧
      ∀ g acts, (machine cfg).run initial xs = some (g, acts) →
        (captures acts = infractions acts ↔
          (machine cfg).Along (fun g x _ _ => StackClean g x) initial xs) := by
  refine ⟨?_, fun g acts hrun => (run_captures hrun).2⟩
  constructor
  · exact fun h g x g' o htakes hstep => (step_captures hstep).1.mp (h g x g' o htakes hstep)
  · exact fun h g x g' o htakes hstep => (step_captures hstep).1.mpr (h g x g' o htakes hstep)

/-- An infraction at 180 km/h and, five seconds later, a lone pulse on sensor 1. The stack of the second
firing still holds the record of the first. -/
def infractionThenNoise : List Input :=
  [.event (some ⟨1, 1, 0⟩) none, .event (some ⟨1, 1, 10⟩) none, .event (some ⟨2, 1, 20⟩) none,
    .fire ⟨.light, 0, 0, 0, 0, .normal⟩ none,
    .event (some ⟨1, 1, 5000⟩) none, .fire ⟨.light, 2, 20, 180, 80, .infraction⟩ none]

/-- The noise is not reported and yet starts a second capture. -/
theorem noise_starts_capture :
    ∃ g acts, (machine .kconfig).run initial infractionThenNoise = some (g, acts) ∧
      infractions acts = 1 ∧ captures acts = 2 :=
  ⟨_, _, rfl, by decide, by decide⟩

end Radar
