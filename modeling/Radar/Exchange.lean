import Radar.Base.Simulation
import Radar.Camera

/-!
# The camera exchange

The abstract model of the two camera threads is a single exchange: the handler asks, the command is
queued and served, the answer is published and consumed. It has one stage at a time, no queues and no
second thread; the only stage nothing leads out of is `lost`, after an answer whose publication failed.

`Exchange.system` says what the threads and queues hold at each stage. From the start the two threads
make exactly the moves of an exchange (`camera_is_exchange`), so everything a run of them shows is read
off its stages: the handler can return from the camera exactly if no answer has been lost
(`handler_returns_iff`).
-/

namespace Radar

variable {τ : Type}

inductive Exchange (τ : Type) where
  | idle
  | capturing (vehicle : τ)
  | commanded (vehicle : τ)
  | serving (vehicle : τ)
  | publishing (vehicle : τ) (evt : MsgCameraEvt)
  | answered (vehicle : τ) (evt : MsgCameraEvt)
  | lost (vehicle : τ)

namespace Exchange

/-- `camera_thread` is in its wait. -/
def serverWaits : Exchange τ → Bool
  | .serving _ => false
  | .publishing _ _ => false
  | _ => true

/-- A move leads on from the stage it belongs to. A failed wait of `camera_thread` is only reported. -/
def move (tables : PlateTables) : Exchange τ → CameraMove τ → Exchange τ × List (CameraAction τ)
  | .idle, .infraction vehicle => (.capturing vehicle, [])
  | .capturing vehicle, .apiCapture err =>
    if err ≠ 0 then (.idle, [.captureFailed err]) else (.commanded vehicle, [])
  | .commanded vehicle, .subWait err =>
    if err ≠ 0 then (.commanded vehicle, [.errorCode err]) else (.serving vehicle, [])
  | .serving vehicle, .serve rand => (.publishing vehicle (tables.serve .capture rand), [])
  | .publishing vehicle evt, .pubEvt err =>
    if err ≠ 0 then (.lost vehicle, [.errorCode err]) else (.answered vehicle evt, [])
  | .answered vehicle evt, .answer => (.idle, .consumed vehicle vehicle evt :: reportPlate evt)
  | x, .subWait err => (x, if x.serverWaits ∧ err ≠ 0 then [.errorCode err] else [])
  | x, _ => (x, [])

/-- The threads and the queues at a stage. -/
def system : Exchange τ → CameraSystem τ
  | .idle => ⟨.idle, [], .waiting, []⟩
  | .capturing vehicle => ⟨.capturing vehicle, [], .waiting, []⟩
  | .commanded vehicle => ⟨.waiting vehicle, [(vehicle, .capture)], .waiting, []⟩
  | .serving vehicle => ⟨.waiting vehicle, [], .serving vehicle .capture, []⟩
  | .publishing vehicle evt => ⟨.waiting vehicle, [], .publishing vehicle evt, []⟩
  | .answered vehicle evt => ⟨.waiting vehicle, [], .waiting, [(vehicle, evt)]⟩
  | .lost vehicle => ⟨.waiting vehicle, [], .waiting, []⟩

end Exchange

/-- Exchanges, one after the other. -/
def exchange (tables : PlateTables) : StepMachine (Exchange τ) (CameraMove τ) (CameraAction τ) :=
  ⟨fun x m => some (x.move tables m)⟩

variable {tables : PlateTables} {x : Exchange τ} {s s' : CameraSystem τ}
  {acts : List (CameraAction τ)}

/-! ### The two threads are one exchange -/

theorem system_move (x : Exchange τ) (m : CameraMove τ) :
    x.system.move tables m = ((x.move tables m).1.system, (x.move tables m).2) := by
  cases m with
  | infraction vehicle => cases x <;> rfl
  | apiCapture err =>
    cases x with
    | capturing vehicle =>
      by_cases herr : err = 0 <;> simp [Exchange.system, Exchange.move, CameraSystem.move, herr]
    | _ => rfl
  | answer => cases x <;> rfl
  | subWait err =>
    by_cases herr : err = 0 <;> cases x <;>
      simp [Exchange.system, Exchange.move, Exchange.serverWaits, CameraSystem.move, herr]
  | serve rand => cases x <;> rfl
  | pubEvt err =>
    cases x with
    | publishing vehicle evt =>
      by_cases herr : err = 0 <;> simp [Exchange.system, Exchange.move, CameraSystem.move, herr]
    | _ => rfl

/-- A step of the threads at a stage is the step of the exchange. -/
theorem step_system {m : CameraMove τ} (hstep : (camera tables).step x.system m = some (s', acts)) :
    s' = (x.move tables m).1.system ∧ acts = (x.move tables m).2 := by
  have hmove : x.system.move tables m = (s', acts) := Option.some.inj hstep
  rw [system_move] at hmove
  obtain ⟨rfl, rfl⟩ := Prod.mk.inj hmove
  exact ⟨rfl, rfl⟩

theorem run_system (x : Exchange τ) (moves : List (CameraMove τ)) :
    (camera tables).run x.system moves =
      ((exchange tables).run x moves).map fun r => (r.1.system, r.2) := by
  have hmap := StepMachine.run_map (exchange tables) (camera tables) (f := Exchange.system (τ := τ))
    (g := id) (h := id) (fun x m => by simp [camera, exchange, system_move]) x moves
  simp only [List.map_id] at hmap
  exact hmap

/-- **The two threads and their queues are one exchange.** Every run of them shows what the same moves
of an exchange show, and ends with what the stage reached says. -/
theorem camera_is_exchange (tables : PlateTables) (moves : List (CameraMove τ)) :
    (camera tables).run .start moves =
      ((exchange tables).run .idle moves).map fun r => (r.1.system, r.2) :=
  run_system .idle moves

/-! ### Lost answers -/

/-- The move is the failed publication of an answer. -/
def CameraSystem.LosesAnswer (s : CameraSystem τ) (m : CameraMove τ) : Prop :=
  ∃ vehicle evt err, s.server = .publishing vehicle evt ∧ m = .pubEvt err ∧ err ≠ 0

def Exchange.IsLost (x : Exchange τ) : Prop := ∃ vehicle, x = .lost vehicle

theorem isLost_move (x : Exchange τ) (m : CameraMove τ) :
    (x.move tables m).1.IsLost ↔ x.IsLost ∨ x.system.LosesAnswer m := by
  cases x with
  | publishing vehicle evt =>
    cases m with
    | pubEvt err =>
      by_cases herr : err = 0 <;>
        simp [Exchange.move, Exchange.IsLost, Exchange.system, CameraSystem.LosesAnswer, herr]
    | _ => simp [Exchange.move, Exchange.IsLost, Exchange.system, CameraSystem.LosesAnswer]
  | capturing vehicle =>
    cases m with
    | apiCapture err =>
      by_cases herr : err = 0 <;>
        simp [Exchange.move, Exchange.IsLost, Exchange.system, CameraSystem.LosesAnswer, herr]
    | _ => simp [Exchange.move, Exchange.IsLost, Exchange.system, CameraSystem.LosesAnswer]
  | commanded vehicle =>
    cases m with
    | subWait err =>
      by_cases herr : err = 0 <;>
        simp [Exchange.move, Exchange.IsLost, Exchange.system, CameraSystem.LosesAnswer, herr]
    | _ => simp [Exchange.move, Exchange.IsLost, Exchange.system, CameraSystem.LosesAnswer]
  | _ =>
    cases m <;>
      simp [Exchange.move, Exchange.IsLost, Exchange.system, CameraSystem.LosesAnswer]

/-- What is left of an exchange, with calls that succeed. -/
def Exchange.finish : Exchange τ → List (CameraMove τ)
  | .idle => []
  | .capturing _ => [.apiCapture 0, .subWait 0, .serve 0, .pubEvt 0, .answer]
  | .commanded _ => [.subWait 0, .serve 0, .pubEvt 0, .answer]
  | .serving _ => [.serve 0, .pubEvt 0, .answer]
  | .publishing _ _ => [.pubEvt 0, .answer]
  | .answered _ _ => [.answer]
  | .lost _ => []

/-- An exchange that is not lost can be brought to its end. -/
theorem run_finish (h : ¬ x.IsLost) :
    ∃ acts, (camera tables).run x.system x.finish = some (.start, acts) := by
  cases x with
  | lost vehicle => exact absurd ⟨vehicle, rfl⟩ h
  | _ => exact ⟨_, rfl⟩

/-- A lost exchange stays lost. -/
theorem lost_client (hlost : x.IsLost) (h : (camera tables).Reaches x.system s) : s.client ≠ .idle := by
  have hkeep : ∀ s m s' acts, (∃ x : Exchange τ, x.IsLost ∧ s = x.system) →
      (camera tables).step s m = some (s', acts) → ∃ x : Exchange τ, x.IsLost ∧ s' = x.system := by
    rintro s m s' acts ⟨x, hx, rfl⟩ hm
    obtain ⟨rfl, -⟩ := step_system hm
    exact ⟨_, (isLost_move x m).mpr (.inl hx), rfl⟩
  obtain ⟨y, ⟨vehicle, rfl⟩, rfl⟩ := h.invariant hkeep ⟨x, hlost, rfl⟩
  exact fun hidle => nomatch hidle

/-- After every run the threads stand at some stage, and at `lost` exactly if an answer was lost. -/
theorem exchange_stage {moves : List (CameraMove τ)}
    (hrun : (camera tables).run .start moves = some (s, acts)) :
    ∃ x : Exchange τ, s = x.system ∧
      (x.IsLost ↔ ¬ (camera tables).Along (fun s m _ _ => ¬ s.LosesAnswer m) .start moves) := by
  have hsplit := (camera tables).run_split (P := fun s m _ _ => ¬ s.LosesAnswer m)
    (R := fun s _ => ∃ x : Exchange τ, s = x.system ∧ ¬ x.IsLost)
    (D := fun s _ => ∃ x : Exchange τ, s = x.system ∧ x.IsLost)
    (h := []) ?_ ?_ ?_ ⟨.idle, rfl, fun ⟨v, hv⟩ => nomatch hv⟩ hrun
  · rcases hsplit with ⟨halong, x, hx, hlost⟩ | ⟨hnot, x, hx, hlost⟩
    · exact ⟨x, hx, iff_of_false hlost (not_not_intro halong)⟩
    · exact ⟨x, hx, iff_of_true hlost hnot⟩
  · rintro s h m s' acts ⟨x, rfl, hx⟩ hm hstep
    obtain ⟨rfl, -⟩ := step_system hstep
    refine ⟨_, rfl, ?_⟩
    rw [isLost_move]
    exact not_or.mpr ⟨hx, hm⟩
  · rintro s h m s' acts ⟨x, rfl, hx⟩ hm hstep
    obtain ⟨rfl, -⟩ := step_system hstep
    exact ⟨_, rfl, (isLost_move x m).mpr (.inr (not_not.mp hm))⟩
  · rintro s h m s' acts ⟨x, rfl, hx⟩ hstep
    obtain ⟨rfl, -⟩ := step_system hstep
    exact ⟨_, rfl, (isLost_move x m).mpr (.inl hx)⟩

/-- **The handler can return exactly if no answer is lost.** After any run of the two threads, some
continuation ends the invocation in progress if and only if every publication of an answer so far has
succeeded. -/
theorem handler_returns_iff (tables : PlateTables) (moves : List (CameraMove τ)) :
    ∃ s acts, (camera tables).run .start moves = some (s, acts) ∧
      ((∃ s', (camera tables).Reaches s s' ∧ s'.client = .idle) ↔
        (camera tables).Along (fun s m _ _ => ¬ s.LosesAnswer m) .start moves) := by
  have hruns : (camera tables).run .start moves ≠ none :=
    ((camera tables).run_ne_none_iff _ _).mpr fun s m _ => by simp [camera]
  obtain ⟨⟨s, acts⟩, hrun⟩ := Option.ne_none_iff_exists'.mp hruns
  obtain ⟨x, rfl, hlost⟩ := exchange_stage hrun
  refine ⟨_, acts, hrun, ?_⟩
  constructor
  · rintro ⟨s', hreach, hidle⟩
    by_contra hnot
    exact lost_client (hlost.mpr hnot) hreach hidle
  · intro halong
    have hx : ¬ x.IsLost := fun h => hlost.mp h halong
    obtain ⟨acts', hfinish⟩ := @run_finish τ tables x hx
    exact ⟨.start, ⟨x.finish, acts', hfinish⟩, rfl⟩

/-! ### Outcomes -/

/-- The vehicle of the invocation in progress. -/
def Client.called : Client τ → List τ
  | .idle => []
  | .capturing vehicle => [vehicle]
  | .waiting vehicle => [vehicle]

/-- The lines of the handler in the log; the others are of `camera_thread`. -/
def handlerLog (log : List (CameraAction τ)) : List (CameraAction τ) :=
  log.filter fun
    | .errorCode _ => false
    | .notSupported => false
    | _ => true

theorem handlerLog_append (log log' : List (CameraAction τ)) :
    handlerLog (log ++ log') = handlerLog log ++ handlerLog log' := List.filter_append ..

/-- What the handler shows of an invocation that has returned: the capture failed, or the answer was made
for this vehicle and its plate got its verdict. -/
inductive Outcome (tables : PlateTables) (vehicle : τ) : List (CameraAction τ) → Prop where
  | captureFailed (err : Int32) (herr : err ≠ 0) : Outcome tables vehicle [.captureFailed err]
  | answered (rand : UInt16) :
      Outcome tables vehicle (.consumed vehicle vehicle (tables.serve .capture rand) ::
        reportPlate (tables.serve .capture rand))

/-- The answer under way, if any, is one to a capture. -/
def Exchange.Served (tables : PlateTables) : Exchange τ → Prop
  | .publishing _ evt => ∃ rand, evt = tables.serve .capture rand
  | .answered _ evt => ∃ rand, evt = tables.serve .capture rand
  | _ => True

theorem handlerLog_answer (vehicle : τ) (evt : MsgCameraEvt) :
    handlerLog (.consumed vehicle vehicle evt :: reportPlate evt) =
      .consumed vehicle vehicle evt :: reportPlate evt := by
  cases evt <;> rfl

/-- A move goes on with the invocation in progress, or ends it with an outcome. -/
theorem move_outcome (hserved : x.Served tables) {m : CameraMove τ} (hm : ∀ v, m ≠ .infraction v) :
    (x.move tables m).1.Served tables ∧
      ((x.move tables m).1.system.client.called = x.system.client.called ∧
          handlerLog (x.move tables m).2 = [] ∨
        ∃ vehicle, x.system.client.called = [vehicle] ∧ (x.move tables m).1 = .idle ∧
          Outcome tables vehicle (handlerLog (x.move tables m).2)) := by
  cases m with
  | infraction v => exact absurd rfl (hm v)
  | apiCapture err =>
    cases x with
    | capturing vehicle =>
      by_cases herr : err = 0
      · subst herr
        exact ⟨trivial, .inl ⟨rfl, rfl⟩⟩
      · have hmove : (Exchange.capturing vehicle).move tables (.apiCapture err) =
            (.idle, [.captureFailed err]) := if_pos herr
        rw [hmove]
        exact ⟨trivial, .inr ⟨vehicle, rfl, rfl, .captureFailed err herr⟩⟩
    | _ => exact ⟨hserved, .inl ⟨rfl, rfl⟩⟩
  | answer =>
    cases x with
    | answered vehicle evt =>
      obtain ⟨rand, rfl⟩ := hserved
      refine ⟨trivial, .inr ⟨vehicle, rfl, rfl, ?_⟩⟩
      show Outcome tables vehicle (handlerLog (_ :: reportPlate _))
      rw [handlerLog_answer]
      exact .answered rand
    | _ => exact ⟨hserved, .inl ⟨rfl, rfl⟩⟩
  | subWait err =>
    by_cases herr : err = 0 <;> cases x <;>
      simp_all [Exchange.move, Exchange.Served, Exchange.serverWaits, Exchange.system, Client.called,
        handlerLog]
  | serve rand =>
    cases x with
    | serving vehicle => exact ⟨⟨rand, rfl⟩, .inl ⟨rfl, rfl⟩⟩
    | _ => exact ⟨hserved, .inl ⟨rfl, rfl⟩⟩
  | pubEvt err =>
    cases x with
    | publishing vehicle evt =>
      by_cases herr : err = 0
      · subst herr
        exact ⟨hserved, .inl ⟨rfl, rfl⟩⟩
      · have hmove : (Exchange.publishing vehicle evt).move tables (.pubEvt err) =
            (.lost vehicle, [.errorCode err]) := if_pos herr
        rw [hmove]
        exact ⟨trivial, .inl ⟨rfl, rfl⟩⟩
    | _ => exact ⟨hserved, .inl ⟨rfl, rfl⟩⟩

theorem served_move (hserved : x.Served tables) (m : CameraMove τ) : (x.move tables m).1.Served tables := by
  by_cases hm : ∃ v, m = .infraction v
  · obtain ⟨v, rfl⟩ := hm
    cases x <;> exact hserved
  · exact (move_outcome hserved fun v hv => hm ⟨v, hv⟩).1

/-- A plate in the log was served, and has its verdict. -/
theorem move_plate (hserved : x.Served tables) {m : CameraMove τ} {plate : CString} {isValid : Bool}
    (h : .plate plate isValid ∈ (x.move tables m).2) :
    ∃ rand d, tables.serve .capture rand = .data d ∧ d.plate = plate ∧
      isValid = plateIsValidMercosul plate := by
  cases x with
  | answered vehicle evt =>
    cases m with
    | answer =>
      obtain ⟨rand, rfl⟩ := hserved
      cases hevt : tables.serve .capture rand with
      | data d =>
        simp only [Exchange.move, hevt, reportPlate, List.mem_cons, reduceCtorEq, false_or,
          CameraAction.plate.injEq, List.not_mem_nil, or_false] at h
        exact ⟨rand, d, hevt, h.1.symm, by rw [h.2, h.1]⟩
      | _ => simp [Exchange.move, hevt, reportPlate] at h
    | subWait err => simp [Exchange.move] at h
    | _ => cases h
  | capturing vehicle =>
    cases m with
    | apiCapture err =>
      simp only [Exchange.move] at h
      split_ifs at h <;> simp at h
    | subWait err => simp [Exchange.move] at h
    | _ => cases h
  | commanded vehicle =>
    cases m with
    | subWait err =>
      simp only [Exchange.move] at h
      split_ifs at h <;> simp at h
    | _ => cases h
  | publishing vehicle evt =>
    cases m with
    | pubEvt err =>
      simp only [Exchange.move] at h
      split_ifs at h <;> simp at h
    | subWait err => simp [Exchange.move] at h
    | _ => cases h
  | _ =>
    cases m with
    | subWait err => simp [Exchange.move] at h
    | _ => cases h

end Radar
