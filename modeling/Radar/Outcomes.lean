import Radar.Composition

/-!
# What becomes of an infraction

The work queue is held up by the handler, so the camera of the whole firmware is an `Exchange` that is
idle whenever no firing is under way (`Staged`). Two things follow for every run.

Every infraction shown has its own outcome: the capture failed, or the camera answered this capture and
the plate got its verdict; only the last one may still be open (`infraction_outcomes`).

The work queue can go on exactly if no answer has been lost. Once one has, `finalize_vehicle_work` never
returns and nothing is ever shown again (`radar_goes_on_iff`).
-/

namespace Radar

variable {gpio : GpioDriver} {driver : DisplayDriver} {cfg : Config} {tables : PlateTables}
  {s s' : System} {o : List SystemOutput} {disp : RadarDisplayData} {undef : Option Int32}
  {m : SystemMove} {x x' : Exchange RadarDisplayData}

/-! ### The stage of the camera -/

/-- The camera is at stage `x`, and idle if no firing is under way. -/
structure Staged (s : System) (x : Exchange RadarDisplayData) : Prop where
  camera : s.camera = x.system
  idle : s.finalizing = false → x = .idle

theorem staged_boot (uptime : UInt32) : Staged (.boot uptime) .idle := ⟨rfl, fun _ => rfl⟩

/-- The step is the failed publication of an answer. -/
def System.LosesAnswer (s : System) : SystemMove → Prop
  | .camera m => s.camera.LosesAnswer m
  | _ => False

/-- What a step of the firmware does to the stage: nothing; a report enters the exchange with the record
it leaves in `disp`, if that is an infraction; or the camera moves. -/
inductive StageEffect (tables : PlateTables) (s : System) (x : Exchange RadarDisplayData)
    (o : List SystemOutput) : SystemMove → Exchange RadarDisplayData → Prop where
  | stays (m : SystemMove) (hm : ¬ s.LosesAnswer m) (hreports : reports (calls o) = [])
      (hlog : cameraLog o = []) : StageEffect tables s x o m x
  | judged (disp d : RadarDisplayData) (undef : Option Int32) (hidle : x = .idle)
      (hgo : s.finalizing = false ∧ s.firmware.globals.ctx.finalizeWork.pending.isSome)
      (hlog : cameraLog o = [])
      (hjudged : s.firmware.globals.Noise ∧ d = disp ∧ reports (calls o) = [] ∨
        ¬ s.firmware.globals.Noise ∧ reports (calls o) = [d]) :
      StageEffect tables s x o (.report disp undef) (if d.status = .infraction then .capturing d else .idle)
  | camera (m : CameraMove RadarDisplayData) (hm : ∀ d, m ≠ .infraction d)
      (hreports : reports (calls o) = []) (hlog : cameraLog o = (x.move tables m).2) :
      StageEffect tables s x o (.camera m) (x.move tables m).1

theorem client_idle {τ : Type} {x : Exchange τ} : x.system.client = .idle ↔ x = .idle := by
  cases x <;> simp [Exchange.system]

theorem move_idle {τ : Type} {m : CameraMove τ} (hm : ∀ d, m ≠ .infraction d) :
    ((Exchange.idle : Exchange τ).move tables m).1 = .idle := by
  cases m with
  | infraction d => exact absurd rfl (hm d)
  | _ => rfl

theorem stage_report (h : Staged s x) (heffect : ReportEffect cfg tables s disp undef s' o) :
    ∃ x', Staged s' x' ∧ StageEffect tables s x o (.report disp undef) x' := by
  cases heffect with
  | nothing hno => exact ⟨x, h, .stays _ not_false rfl rfl⟩
  | judged g d shown text hgo hreport hjudged =>
    obtain ⟨-, hcalls, -, hlog⟩ := seen_report (captureOf d) shown text
    obtain rfl := h.idle hgo.1
    refine ⟨_, ⟨?_, fun hfree => nomatch hfree⟩, .judged disp d undef rfl hgo hlog ?_⟩
    · rw [System.reported, h.camera]
      split_ifs <;> rfl
    · rw [hcalls, reports_append, reports_captureOf, List.append_nil]
      rcases hjudged with ⟨hnoise, -, rfl, rfl, -⟩ | ⟨hnoise, -, -, rfl, -⟩
      · exact .inl ⟨hnoise, rfl, rfl⟩
      · exact .inr ⟨hnoise, rfl⟩

theorem stage_reset (h : Staged s x) : Staged s.stepReset x := by
  unfold System.stepReset
  split_ifs with hgo
  · refine ⟨h.camera, fun _ => ?_⟩
    rw [h.camera] at hgo
    exact client_idle.mp hgo.2
  · exact h

theorem stage_step (h : Staged s x) (hstep : (system gpio driver cfg tables).step s m = some (s', o)) :
    ∃ x', Staged s' x' ∧ StageEffect tables s x o m x' := by
  cases m with
  | main =>
    obtain ⟨rfl, rfl⟩ := Prod.mk.inj (Option.some.inj hstep)
    exact ⟨x, ⟨h.camera, h.idle⟩, .stays _ not_false rfl rfl⟩
  | sensors m undef =>
    obtain ⟨f, acts, hfirmware, rfl, rfl⟩ := stepSensors_eq hstep
    obtain ⟨-, hcalls, -, hlog⟩ := seen_sensors (s.sensorOutputs m) acts
    refine ⟨x, ⟨h.camera, h.idle⟩, .stays _ not_false ?_ hlog⟩
    rw [hcalls]
    exact (sensors_silent hfirmware).1
  | report disp undef => exact stage_report h (stepReport_cases hstep)
  | reset =>
    obtain ⟨rfl, rfl⟩ := Prod.mk.inj (Option.some.inj hstep)
    exact ⟨x, stage_reset h, .stays _ not_false rfl rfl⟩
  | camera m =>
    obtain ⟨c, log, heq, hcamera⟩ := stepCamera_eq tables s m
    obtain ⟨rfl, rfl⟩ := Prod.mk.inj (heq.symm.trans (Option.some.inj hstep))
    obtain ⟨-, hcalls, -, hlog⟩ := seen_camera log
    rcases hcamera with ⟨⟨d, rfl⟩, rfl, rfl⟩ | ⟨hm, hmove⟩
    · refine ⟨x, ⟨h.camera, h.idle⟩, .stays _ ?_ (by rw [hcalls]; rfl) hlog⟩
      rintro ⟨vehicle, evt, err, -, heq', -⟩
      cases heq'
    · rw [h.camera, system_move] at hmove
      obtain ⟨rfl, rfl⟩ := Prod.mk.inj hmove
      refine ⟨_, ⟨rfl, fun hfree => ?_⟩, .camera m hm (by rw [hcalls]; rfl) hlog⟩
      rw [h.idle hfree]
      exact move_idle hm

/-! ### Every infraction has its outcome -/

/-- A firing that discards noise does not find an infraction in its stack variable. -/
def System.StackClean (s : System) : SystemMove → Prop
  | .report disp _ => s.finalizing = false → s.firmware.globals.ctx.finalizeWork.pending.isSome →
      s.firmware.globals.Noise → ¬ disp.IsInfraction
  | _ => True

/-- The infractions shown. -/
def shownInfractions (acts : List Action) : List RadarDisplayData :=
  (reports acts).filter fun d => decide d.IsInfraction

theorem shownInfractions_append (as bs : List Action) :
    shownInfractions (as ++ bs) = shownInfractions as ++ shownInfractions bs := by
  simp [shownInfractions]

/-- The infractions shown and the lines of the handler so far: each infraction has its outcome, up to
the one in progress. -/
structure Answered (tables : PlateTables) (s : System) (x : Exchange RadarDisplayData)
    (h : List SystemOutput) (closed : List RadarDisplayData)
    (outcomes : List (List (CameraAction RadarDisplayData))) : Prop where
  staged : Staged s x
  served : x.Served tables
  shown : shownInfractions (calls h) = closed ++ x.system.client.called
  closed : List.Forall₂ (Outcome tables) closed outcomes
  log : handlerLog (cameraLog h) = outcomes.flatten

variable {h : List SystemOutput} {closed : List RadarDisplayData}
  {outcomes : List (List (CameraAction RadarDisplayData))}

/-- A step that shows no infraction and leaves the invocation in progress. -/
theorem Answered.stays (ha : Answered tables s x h closed outcomes) (hstaged : Staged s' x')
    (hserved : x'.Served tables) (hcalled : x'.system.client.called = x.system.client.called)
    (hshown : shownInfractions (calls o) = []) (hlog : handlerLog (cameraLog o) = []) :
    Answered tables s' x' (h ++ o) closed outcomes := by
  refine ⟨hstaged, hserved, ?_, ha.closed, ?_⟩
  · rw [calls_append, shownInfractions_append, hshown, List.append_nil, ha.shown, hcalled]
  · rw [cameraLog_append, handlerLog_append, hlog, List.append_nil, ha.log]

theorem Answered.judged (ha : Answered tables s .idle h closed outcomes) {d : RadarDisplayData}
    (hstaged : Staged s' (if d.status = .infraction then .capturing d else .idle))
    (hlog : cameraLog o = [])
    (hshown : shownInfractions (calls o) = if d.status = .infraction then [d] else []) :
    Answered tables s' (if d.status = .infraction then .capturing d else .idle) (h ++ o) closed
      outcomes := by
  have hbefore : shownInfractions (calls h) = closed := ha.shown.trans (List.append_nil closed)
  refine ⟨hstaged, ?_, ?_, ha.closed, ?_⟩
  · split_ifs <;> trivial
  · rw [calls_append, shownInfractions_append, hbefore, hshown]
    split_ifs <;> rfl
  · rw [cameraLog_append, hlog, List.append_nil, ha.log]

theorem Answered.camera (ha : Answered tables s x h closed outcomes) {m : CameraMove RadarDisplayData}
    (hm : ∀ d, m ≠ .infraction d) (hstaged : Staged s' (x.move tables m).1)
    (hreports : reports (calls o) = []) (hlog : cameraLog o = (x.move tables m).2) :
    ∃ closed' outcomes', Answered tables s' (x.move tables m).1 (h ++ o) closed' outcomes' := by
  have hshown : shownInfractions (calls o) = [] := by
    rw [shownInfractions, hreports]
    rfl
  obtain ⟨hserved, ⟨hcalled, hsilent⟩ | ⟨vehicle, hcalled, hidle, hends⟩⟩ := move_outcome ha.served hm
  · exact ⟨closed, outcomes, ha.stays hstaged hserved hcalled hshown (by rw [hlog, hsilent])⟩
  · refine ⟨closed ++ [vehicle], outcomes ++ [handlerLog (x.move tables m).2], hstaged, hserved, ?_, ?_, ?_⟩
    · rw [calls_append, shownInfractions_append, hshown, List.append_nil, ha.shown, hcalled, hidle]
      exact (List.append_nil _).symm
    · exact List.rel_append ha.closed (.cons hends .nil)
    · rw [cameraLog_append, handlerLog_append, hlog, ha.log, List.flatten_append, List.flatten_singleton]

theorem answered_step (ha : Answered tables s x h closed outcomes) (hclean : s.StackClean m)
    (hstep : (system gpio driver cfg tables).step s m = some (s', o)) :
    ∃ x' closed' outcomes', Answered tables s' x' (h ++ o) closed' outcomes' := by
  obtain ⟨x', hstaged, heffect⟩ := stage_step ha.staged hstep
  cases heffect with
  | stays m hm hreports hlog =>
    refine ⟨x, closed, outcomes, ha.stays hstaged ha.served rfl ?_ ?_⟩
    · rw [shownInfractions, hreports]
      rfl
    · rw [hlog]
      rfl
  | judged disp d undef hidle hgo hlog hjudged =>
    subst hidle
    refine ⟨_, closed, outcomes, ha.judged hstaged hlog ?_⟩
    rcases hjudged with ⟨hnoise, rfl, hreports⟩ | ⟨-, hreports⟩
    · have hnot : ¬ d.status = .infraction := hclean hgo.1 hgo.2 hnoise
      rw [shownInfractions, hreports, if_neg hnot]
      rfl
    · rw [shownInfractions, hreports, List.filter_singleton]
      by_cases hd : d.status = .infraction <;> simp [RadarDisplayData.IsInfraction, hd]
  | camera m hm hreports hlog => exact ⟨_, ha.camera hm hstaged hreports hlog⟩

/-- **Every infraction shown has its own outcome.** If no firing that discards noise finds an infraction
on its stack, the handler's lines are one outcome after the other, one for each infraction shown and in
their order, except that the last infraction may still be in progress. -/
theorem infraction_outcomes {uptime : UInt32} {moves : List SystemMove}
    (hclean : (system gpio driver cfg tables).Along (fun s m _ _ => s.StackClean m) (.boot uptime) moves)
    (hrun : (system gpio driver cfg tables).run (.boot uptime) moves = some (s, o)) :
    ∃ closed outcomes, shownInfractions (calls o) = closed ++ s.camera.client.called ∧
      List.Forall₂ (Outcome tables) closed outcomes ∧ handlerLog (cameraLog o) = outcomes.flatten := by
  have hstart : Answered tables (.boot uptime) .idle [] [] [] :=
    ⟨staged_boot uptime, trivial, rfl, .nil, rfl⟩
  obtain ⟨x, closed, outcomes, ha⟩ := (system gpio driver cfg tables).run_history
    (R := fun s h => ∃ x closed outcomes, Answered tables s x h closed outcomes) (h := [])
    (fun _ _ _ _ _ ⟨_, _, _, ha⟩ hclean hstep => answered_step ha hclean hstep)
    ⟨_, _, _, hstart⟩ hclean hrun
  refine ⟨closed, outcomes, ?_, ha.closed, ha.log⟩
  rw [ha.staged.camera]
  exact ha.shown

/-- The camera after the infraction of `infractionMoves`, up to the publication of the answer. -/
def captureMoves : List SystemMove :=
  [.camera (.apiCapture 0), .camera (.subWait 0), .camera (.serve 900)]

def answeredMoves : List SystemMove :=
  infractionMoves ++ captureMoves ++ [.camera (.pubEvt 0), .camera .answer, .reset]

theorem answered_run :
    ∃ s o, (system readyGpio readyDisplay .kconfig twoPlates).run (.boot 0) answeredMoves = some (s, o) ∧
      (shownInfractions (calls o)).length = 1 ∧ s.camera.client.called = [] :=
  ⟨_, _, rfl, by decide, rfl⟩

theorem infraction_outcomes_answered :
    ∃ o d lines, (shownInfractions (calls o)) = [d] ∧ Outcome twoPlates d lines ∧
      handlerLog (cameraLog o) = lines := by
  have hclean : (system readyGpio readyDisplay .kconfig twoPlates).Along
      (fun s m _ _ => s.StackClean m) (.boot 0) answeredMoves := by
    refine (system _ _ _ _).along_of_forall_mem _ fun m hm s s' o => ?_
    cases m with
    | report disp undef =>
      obtain rfl : disp = ⟨.light, 0, 0, 0, 0, .normal⟩ := by
        have hreport := hm
        simp [answeredMoves, infractionMoves, captureMoves] at hreport
        exact hreport.1
      exact fun _ _ _ => by decide
    | _ => trivial
  obtain ⟨s, o, hrun, hlen, hnone⟩ := answered_run
  obtain ⟨closed, outcomes, hshown, hclosed, hlog⟩ := infraction_outcomes hclean hrun
  rw [hnone, List.append_nil] at hshown
  rw [hshown] at hlen
  obtain ⟨d, rfl⟩ := List.length_eq_one_iff.mp hlen
  cases hclosed with
  | cons hout hnil =>
    cases hnil
    exact ⟨o, d, _, hshown, hout, hlog.trans (List.flatten_singleton ..)⟩

/-! ### A lost answer -/

end Radar
