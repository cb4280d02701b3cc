import Radar.Base.StepMachine
import Radar.Plate

/-!
# The camera: `handler_plate_infraction` and `camera_thread`

The work queue asks for a picture and waits for the answer; `camera_thread` serves one command after the
other. The two threads meet in `chan_camera_cmd` and `chan_camera_evt` only, and the messages carry
nothing that tells one request from the next. The model labels every invocation of the handler with the
vehicle it is for and lets the messages carry the label along; no step reads a label (`run_relabel`).

What is under way is one pipeline, from the commands queued over the command being served to the events
queued. The handler enters a command only with its own vehicle and leaves only with an event, so the
pipeline is never more than the vehicle the handler waits for (`Paired`).
-/

namespace Radar

/-- `struct msg_camera_cmd`: its `type`. -/
inductive MsgCameraCmd where
  | undefined
  | capture
  | count
deriving DecidableEq, Repr

/-- `struct camera_data`. -/
structure CameraData where
  plate : CString
  hash : CString

/-- The error numbers `camera_thread` answers with, `-EBUSY` and `-ENOTSUP`. -/
inductive ErrorCode where
  | eBusy
  | eNotSup
deriving DecidableEq, Repr

/-- `struct msg_camera_evt`: the union is read as its `type` says. -/
inductive MsgCameraEvt where
  | undefined
  | data (capturedData : CameraData)
  | error (errorCode : ErrorCode)

/-- The two tables of `camera_service_priv.h`. -/
structure PlateTables where
  validCarLicensePlates : Array CameraData
  invalidCarLicensePlates : Array CameraData
  valid_pos : 0 < validCarLicensePlates.size
  invalid_pos : 0 < invalidCarLicensePlates.size

/-- The answer of `camera_thread` to a command, `rand` being what `sys_rand16_get` returns. -/
def PlateTables.serve (tables : PlateTables) (cmd : MsgCameraCmd) (rand : UInt16) : MsgCameraEvt :=
  match cmd with
  | .capture =>
    let randomKey := rand.toNat % 1100
    if randomKey < 900 then
      let i : Fin tables.validCarLicensePlates.size :=
        ⟨randomKey % tables.validCarLicensePlates.size, Nat.mod_lt _ tables.valid_pos⟩
      .data tables.validCarLicensePlates[i]
    else if 900 ≤ randomKey ∧ randomKey < 1000 then
      let i : Fin tables.invalidCarLicensePlates.size :=
        ⟨randomKey % tables.invalidCarLicensePlates.size, Nat.mod_lt _ tables.invalid_pos⟩
      .data tables.invalidCarLicensePlates[i]
    else .error .eBusy
  | _ => .error .eNotSup

/-! ### The two threads -/

variable {τ τ' : Type}

/-- Where the work queue stands: no invocation of the handler in progress, in `camera_api_capture`, or
in its wait for the answer. -/
inductive Client (τ : Type) where
  | idle
  | capturing (vehicle : τ)
  | waiting (vehicle : τ)
deriving DecidableEq

/-- Where `camera_thread` stands: in its wait for a command, serving one, or publishing its answer. -/
inductive Server (τ : Type) where
  | waiting
  | serving (vehicle : τ) (cmd : MsgCameraCmd)
  | publishing (vehicle : τ) (evt : MsgCameraEvt)

/-- Both threads and the queues of `msub_camera_cmd` and `msub_camera_evt`, oldest message first. -/
structure CameraSystem (τ : Type) where
  client : Client τ
  cmds : List (τ × MsgCameraCmd)
  server : Server τ
  evts : List (τ × MsgCameraEvt)

def CameraSystem.start : CameraSystem τ := ⟨.idle, [], .waiting, []⟩

/-- A step of one of the threads. An `err` is what the zbus call of the step returns. -/
inductive CameraMove (τ : Type) where
  /-- `handler_plate_infraction` is called. -/
  | infraction (vehicle : τ)
  /-- `camera_api_capture` returns. -/
  | apiCapture (err : Int32)
  /-- The handler's wait returns. It waits forever, so it returns with a message. -/
  | answer
  /-- The wait of `camera_thread` returns. -/
  | subWait (err : Int32)
  /-- `camera_thread` serves its command. -/
  | serve (rand : UInt16)
  /-- The publication of the answer returns. -/
  | pubEvt (err : Int32)

/-- What a step shows: an answer consumed, with the vehicle of the invocation and the vehicle of the
command it was made for, or a line of the log. -/
inductive CameraAction (τ : Type) where
  | consumed (vehicle producedFor : τ) (rsp : MsgCameraEvt)
  | captureFailed (err : Int32)
  | unavailable (errorCode : ErrorCode)
  | plate (plate : CString) (isValid : Bool)
  | errorCode (err : Int32)
  | notSupported

/-- The end of `handler_plate_infraction`, once it has its answer. -/
def reportPlate (rsp : MsgCameraEvt) : List (CameraAction τ) :=
  match rsp with
  | .error code => [.unavailable code]
  | .data d => [.plate d.plate (plateIsValidMercosul d.plate)]
  | .undefined => []

/-- A failed publication delivers nothing and a failed wait takes nothing. A step its thread cannot take
changes nothing. -/
def CameraSystem.move (tables : PlateTables) (s : CameraSystem τ) :
    CameraMove τ → CameraSystem τ × List (CameraAction τ)
  | .infraction vehicle =>
    match s.client with
    | .idle => ({ s with client := .capturing vehicle }, [])
    | _ => (s, [])
  | .apiCapture err =>
    match s.client with
    | .capturing vehicle =>
      if err ≠ 0 then ({ s with client := .idle }, [.captureFailed err])
      else ({ s with client := .waiting vehicle, cmds := s.cmds ++ [(vehicle, .capture)] }, [])
    | _ => (s, [])
  | .answer =>
    match s.client, s.evts with
    | .waiting vehicle, (producedFor, rsp) :: evts =>
      ({ s with client := .idle, evts := evts },
        .consumed vehicle producedFor rsp :: reportPlate rsp)
    | _, _ => (s, [])
  | .subWait err =>
    match s.server with
    | .waiting =>
      if err ≠ 0 then (s, [.errorCode err])
      else
        match s.cmds with
        | [] => (s, [])
        | (vehicle, cmd) :: cmds => ({ s with server := .serving vehicle cmd, cmds := cmds }, [])
    | _ => (s, [])
  | .serve rand =>
    match s.server with
    | .serving vehicle cmd =>
      ({ s with server := .publishing vehicle (tables.serve cmd rand) },
        if cmd = .capture then [] else [.notSupported])
    | _ => (s, [])
  | .pubEvt err =>
    match s.server with
    | .publishing vehicle evt =>
      if err ≠ 0 then ({ s with server := .waiting }, [.errorCode err])
      else ({ s with server := .waiting, evts := s.evts ++ [(vehicle, evt)] }, [])
    | _ => (s, [])

/-- The two threads, interleaved. -/
def camera (tables : PlateTables) : StepMachine (CameraSystem τ) (CameraMove τ) (CameraAction τ) :=
  ⟨fun s m => some (s.move tables m)⟩

variable {tables : PlateTables} {s s' : CameraSystem τ} {acts : List (CameraAction τ)}

/-! ### The labels are not read -/

def Client.map (f : τ → τ') : Client τ → Client τ'
  | .idle => .idle
  | .capturing v => .capturing (f v)
  | .waiting v => .waiting (f v)

def Server.map (f : τ → τ') : Server τ → Server τ'
  | .waiting => .waiting
  | .serving v cmd => .serving (f v) cmd
  | .publishing v evt => .publishing (f v) evt

def CameraSystem.map (f : τ → τ') (s : CameraSystem τ) : CameraSystem τ' :=
  ⟨s.client.map f, s.cmds.map (Prod.map f id), s.server.map f, s.evts.map (Prod.map f id)⟩

def CameraMove.map (f : τ → τ') : CameraMove τ → CameraMove τ'
  | .infraction v => .infraction (f v)
  | .apiCapture err => .apiCapture err
  | .answer => .answer
  | .subWait err => .subWait err
  | .serve rand => .serve rand
  | .pubEvt err => .pubEvt err

def CameraAction.map (f : τ → τ') : CameraAction τ → CameraAction τ'
  | .consumed v w rsp => .consumed (f v) (f w) rsp
  | .captureFailed err => .captureFailed err
  | .unavailable code => .unavailable code
  | .plate p isValid => .plate p isValid
  | .errorCode err => .errorCode err
  | .notSupported => .notSupported

theorem reportPlate_map (f : τ → τ') (rsp : MsgCameraEvt) :
    (reportPlate rsp).map (CameraAction.map f) = reportPlate rsp := by
  cases rsp <;> rfl

theorem move_map (f : τ → τ') (s : CameraSystem τ) (m : CameraMove τ) :
    (s.map f).move tables (m.map f) =
      ((s.move tables m).1.map f, (s.move tables m).2.map (CameraAction.map f)) := by
  obtain ⟨client, cmds, server, evts⟩ := s
  cases m with
  | infraction v => cases client <;> rfl
  | apiCapture err =>
    cases client with
    | idle => rfl
    | waiting v => rfl
    | capturing v =>
      by_cases herr : err = 0
      · simp [CameraMove.map, CameraSystem.move, CameraSystem.map, Client.map, herr]
      · simp [CameraMove.map, CameraSystem.move, CameraSystem.map, Client.map, herr,
          CameraAction.map]
  | answer =>
    cases client with
    | idle => rfl
    | capturing v => rfl
    | waiting v =>
      cases evts with
      | nil => rfl
      | cons first evts =>
        simp [CameraMove.map, CameraSystem.move, CameraSystem.map, Client.map, CameraAction.map,
          reportPlate_map]
  | subWait err =>
    cases server with
    | serving v cmd => rfl
    | publishing v evt => rfl
    | waiting =>
      by_cases herr : err = 0
      · cases cmds <;>
          simp [CameraMove.map, CameraSystem.move, CameraSystem.map, Server.map, herr]
      · simp [CameraMove.map, CameraSystem.move, CameraSystem.map, Server.map, herr,
          CameraAction.map]
  | serve rand =>
    cases server with
    | waiting => rfl
    | publishing v evt => rfl
    | serving v cmd => cases cmd <;> rfl
  | pubEvt err =>
    cases server with
    | waiting => rfl
    | serving v cmd => rfl
    | publishing v evt =>
      by_cases herr : err = 0
      · simp [CameraMove.map, CameraSystem.move, CameraSystem.map, Server.map, herr]
      · simp [CameraMove.map, CameraSystem.move, CameraSystem.map, Server.map, herr,
          CameraAction.map]

/-- **Labels are not read.** The system with other labels does the same. -/
theorem run_relabel (f : τ → τ') (s : CameraSystem τ) (moves : List (CameraMove τ)) :
    (camera tables).run (s.map f) (moves.map (CameraMove.map f)) =
      ((camera tables).run s moves).map fun r => (r.1.map f, r.2.map (CameraAction.map f)) :=
  StepMachine.run_map (camera tables) (camera tables)
    (fun s m => congrArg some (move_map f s m)) s moves

/-! ### The pipeline -/

/-- The vehicle whose answer the handler waits for, if it does. -/
def Client.awaited : Client τ → List τ
  | .waiting vehicle => [vehicle]
  | _ => []

/-- The vehicle whose command `camera_thread` has in hand, if any. -/
def Server.held : Server τ → List τ
  | .waiting => []
  | .serving vehicle _ => [vehicle]
  | .publishing vehicle _ => [vehicle]

/-- The vehicles of all messages queued or being served, the next to be consumed first. -/
def CameraSystem.inFlight (s : CameraSystem τ) : List τ :=
  s.evts.map Prod.fst ++ s.server.held ++ s.cmds.map Prod.fst

/-- An answer that was consumed was made for the vehicle of the invocation that consumed it. -/
def CameraAction.Matched : CameraAction τ → Prop
  | .consumed vehicle producedFor _ => vehicle = producedFor
  | _ => True

/-- What a step does to the pipeline: its messages move on, and one may be lost, while the handler waits
for what it waited for; the handler enters its vehicle at the end; or it takes the first message. -/
inductive Flow (s s' : CameraSystem τ) (acts : List (CameraAction τ)) : Prop where
  | advance (hpipe : s'.inFlight.Sublist s.inFlight) (hclient : s'.client.awaited = s.client.awaited)
      (hacts : ∀ a ∈ acts, a.Matched)
  | enter (vehicle : τ) (hidle : s.client.awaited = []) (hclient : s'.client.awaited = [vehicle])
      (hpipe : s'.inFlight = s.inFlight ++ [vehicle]) (hacts : acts = [])
  | leave (vehicle producedFor : τ) (rsp : MsgCameraEvt) (hclient : s.client.awaited = [vehicle])
      (hidle : s'.client.awaited = []) (hpipe : s.inFlight = producedFor :: s'.inFlight)
      (hacts : acts = .consumed vehicle producedFor rsp :: reportPlate rsp)

theorem flow_refl (s : CameraSystem τ) : Flow s s [] :=
  .advance (List.Sublist.refl _) rfl (by simp)

theorem reportPlate_matched (rsp : MsgCameraEvt) :
    ∀ a ∈ reportPlate (τ := τ) rsp, a.Matched := by
  cases rsp <;> simp [reportPlate, CameraAction.Matched]

/-- The steps of the handler. -/
theorem flow_infraction (s : CameraSystem τ) (v : τ) :
    Flow s (s.move tables (.infraction v)).1 (s.move tables (.infraction v)).2 := by
  cases hclient : s.client with
  | idle =>
    simp only [CameraSystem.move, hclient]
    exact .advance (List.Sublist.refl _) (by simp [hclient, Client.awaited]) (by simp)
  | capturing w =>
    simp only [CameraSystem.move, hclient]
    exact flow_refl s
  | waiting w =>
    simp only [CameraSystem.move, hclient]
    exact flow_refl s

theorem flow_apiCapture (s : CameraSystem τ) (err : Int32) :
    Flow s (s.move tables (.apiCapture err)).1 (s.move tables (.apiCapture err)).2 := by
  cases hclient : s.client with
  | idle =>
    simp only [CameraSystem.move, hclient]
    exact flow_refl s
  | waiting w =>
    simp only [CameraSystem.move, hclient]
    exact flow_refl s
  | capturing v =>
    simp only [CameraSystem.move, hclient]
    by_cases herr : err ≠ 0
    · rw [if_pos herr]
      exact .advance (List.Sublist.refl _) (by simp [hclient, Client.awaited])
        (by simp [CameraAction.Matched])
    · rw [if_neg herr]
      refine .enter v (by simp [hclient, Client.awaited]) rfl ?_ rfl
      simp [CameraSystem.inFlight]

theorem flow_answer (s : CameraSystem τ) :
    Flow s (s.move tables .answer).1 (s.move tables .answer).2 := by
  cases hclient : s.client with
  | idle =>
    simp only [CameraSystem.move, hclient]
    exact flow_refl s
  | capturing w =>
    simp only [CameraSystem.move, hclient]
    exact flow_refl s
  | waiting v =>
    cases hevts : s.evts with
    | nil =>
      simp only [CameraSystem.move, hclient, hevts]
      exact flow_refl s
    | cons first evts =>
      obtain ⟨w, rsp⟩ := first
      simp only [CameraSystem.move, hclient, hevts]
      refine .leave v w rsp (by simp [hclient, Client.awaited]) rfl ?_ rfl
      simp [CameraSystem.inFlight, hevts]

/-- The steps of `camera_thread`. -/
theorem flow_subWait (s : CameraSystem τ) (err : Int32) :
    Flow s (s.move tables (.subWait err)).1 (s.move tables (.subWait err)).2 := by
  cases hserver : s.server with
  | serving v cmd =>
    simp only [CameraSystem.move, hserver]
    exact flow_refl s
  | publishing v evt =>
    simp only [CameraSystem.move, hserver]
    exact flow_refl s
  | waiting =>
    simp only [CameraSystem.move, hserver]
    by_cases herr : err ≠ 0
    · rw [if_pos herr]
      exact .advance (List.Sublist.refl _) rfl (by simp [CameraAction.Matched])
    · rw [if_neg herr]
      cases hcmds : s.cmds with
      | nil => exact flow_refl s
      | cons first cmds =>
        refine .advance ?_ rfl (by simp)
        simp [CameraSystem.inFlight, hserver, hcmds, Server.held]

theorem flow_serve (s : CameraSystem τ) (rand : UInt16) :
    Flow s (s.move tables (.serve rand)).1 (s.move tables (.serve rand)).2 := by
  cases hserver : s.server with
  | waiting =>
    simp only [CameraSystem.move, hserver]
    exact flow_refl s
  | publishing v evt =>
    simp only [CameraSystem.move, hserver]
    exact flow_refl s
  | serving v cmd =>
    simp only [CameraSystem.move, hserver]
    refine .advance ?_ rfl ?_
    · simp [CameraSystem.inFlight, hserver, Server.held]
    · split <;> simp [CameraAction.Matched]

theorem flow_pubEvt (s : CameraSystem τ) (err : Int32) :
    Flow s (s.move tables (.pubEvt err)).1 (s.move tables (.pubEvt err)).2 := by
  cases hserver : s.server with
  | waiting =>
    simp only [CameraSystem.move, hserver]
    exact flow_refl s
  | serving v cmd =>
    simp only [CameraSystem.move, hserver]
    exact flow_refl s
  | publishing v evt =>
    simp only [CameraSystem.move, hserver]
    by_cases herr : err ≠ 0
    · rw [if_pos herr]
      refine .advance ?_ rfl (by simp [CameraAction.Matched])
      simp [CameraSystem.inFlight, hserver, Server.held]
    · rw [if_neg herr]
      refine .advance ?_ rfl (by simp)
      simp [CameraSystem.inFlight, hserver, Server.held]

theorem flow_move (s : CameraSystem τ) (m : CameraMove τ) :
    Flow s (s.move tables m).1 (s.move tables m).2 := by
  cases m with
  | infraction v => exact flow_infraction s v
  | apiCapture err => exact flow_apiCapture s err
  | answer => exact flow_answer s
  | subWait err => exact flow_subWait s err
  | serve rand => exact flow_serve s rand
  | pubEvt err => exact flow_pubEvt s err

/-! ### Pairing -/

/-- Under way is at most what the handler waits for. -/
def Paired (s : CameraSystem τ) : Prop := s.inFlight.Sublist s.client.awaited

theorem paired_start : Paired (CameraSystem.start (τ := τ)) := List.Sublist.refl []

theorem Flow.paired (hpaired : Paired s) (h : Flow s s' acts) :
    Paired s' ∧ ∀ a ∈ acts, a.Matched := by
  unfold Paired at hpaired ⊢
  cases h with
  | advance hpipe hclient hacts =>
    rw [hclient]
    exact ⟨hpipe.trans hpaired, hacts⟩
  | enter v hidle hclient hpipe hacts =>
    rw [hidle, List.sublist_nil] at hpaired
    rw [hpipe, hpaired, hclient, hacts]
    exact ⟨List.Sublist.refl _, by simp⟩
  | leave v w rsp hclient hidle hpipe hacts =>
    rw [hclient, hpipe] at hpaired
    have hlen := hpaired.length_le
    simp only [List.length_cons, List.length_nil] at hlen
    have hrest : s'.inFlight = [] := List.length_eq_zero_iff.mp (by omega)
    have hvw : w = v := by
      rw [hrest, List.singleton_sublist, List.mem_singleton] at hpaired
      exact hpaired
    rw [hrest, hidle, hacts, hvw]
    refine ⟨List.Sublist.refl _, fun a ha => ?_⟩
    rcases List.mem_cons.mp ha with rfl | ha
    · exact rfl
    · exact reportPlate_matched rsp a ha

theorem Paired.idle (hpaired : Paired s) (hidle : s.client = .idle) :
    s.cmds = [] ∧ s.server = .waiting ∧ s.evts = [] := by
  have hawaited : s.client.awaited = [] := by simp [hidle, Client.awaited]
  rw [Paired, hawaited, List.sublist_nil] at hpaired
  simp only [CameraSystem.inFlight, List.append_eq_nil_iff, List.map_eq_nil_iff] at hpaired
  obtain ⟨⟨hevts, hheld⟩, hcmds⟩ := hpaired
  refine ⟨hcmds, ?_, hevts⟩
  cases hserver : s.server with
  | waiting => rfl
  | serving v cmd => simp [hserver, Server.held] at hheld
  | publishing v evt => simp [hserver, Server.held] at hheld

theorem Paired.le_one (hpaired : Paired s) :
    s.cmds.length + s.server.held.length + s.evts.length ≤ 1 := by
  have hlen := List.Sublist.length_le hpaired
  have hawaited : s.client.awaited.length ≤ 1 := by
    cases s.client <;> simp [Client.awaited]
  simp only [CameraSystem.inFlight, List.length_append, List.length_map] at hlen
  omega

/-- **Every answer goes to the invocation that asked for it.** -/
theorem camera_pairing (tables : PlateTables) (moves : List (CameraMove τ)) :
    ∃ s acts, (camera tables).run .start moves = some (s, acts) ∧
      (∀ vehicle producedFor rsp, .consumed vehicle producedFor rsp ∈ acts →
        vehicle = producedFor) ∧
      s.cmds.length + s.server.held.length + s.evts.length ≤ 1 ∧
      (s.client = .idle → s.cmds = [] ∧ s.server = .waiting ∧ s.evts = []) := by
  have hruns : (camera tables).run .start moves ≠ none :=
    ((camera tables).run_ne_none_iff _ _).mpr fun s m _ => by simp [camera]
  obtain ⟨⟨s, acts⟩, hrun⟩ := Option.ne_none_iff_exists'.mp hruns
  have hstep : ∀ s m s' acts, Paired s → (camera tables).step s m = some (s', acts) →
      Paired s' ∧ ∀ a ∈ acts, CameraAction.Matched (τ := τ) a := by
    intro s m s' acts hpaired hm
    obtain ⟨rfl, rfl⟩ := Prod.mk.inj (Option.some.inj hm)
    exact (flow_move s m).paired hpaired
  obtain ⟨hpaired, hmatched⟩ := (camera tables).run_outputs hstep paired_start hrun
  exact ⟨s, acts, hrun, fun v w rsp ha => hmatched _ ha, hpaired.le_one, hpaired.idle⟩

end Radar
