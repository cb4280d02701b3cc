import Radar.Base.MsgQueue
import Radar.Base.StepMachine
import Radar.Sensor

/-!
# `sensor.c`: from the edges to `sensor_thread`

`sensor_send_event` reads the clock and then puts the event on `sensor_msgq`. The interrupt handler does
both without a thread in between, and fails on a full queue; the thread of `sensor_sim.c` can be
interrupted between the two and waits for room. `sensor_thread` takes one event at a time and hands it to
`radar_process_sensor_event`.

An event of the handler is lost on a full queue, and it overtakes an older event that the simulation has
stamped and not yet put. Nothing else disturbs the stream (`events_complete_in_order`).
-/

namespace Radar

structure SensorSystem where
  /-- `k_uptime_get_32()`. -/
  uptime : UInt32
  sensorMsgq : MsgQueue SensorEvent 16
  /-- `evt` of the simulation, stamped and not yet put. -/
  sending : Option SensorEvent
  /-- `evt` of `sensor_thread`, taken and not yet processed. -/
  received : Option SensorEvent
  none_of_waiting : sensorMsgq.readerWaits = true → received = none

/-- What an observer sees: an event made by `sensor_send_event`, and a call of
`radar_process_sensor_event`. -/
inductive SensorOutput where
  | sent (evt : SensorEvent)
  | handed (evt : SensorEvent)
deriving DecidableEq, Repr

inductive SensorMove where
  /-- Time passes. -/
  | uptime (now : UInt32)
  /-- The interrupt handler, with the levels it reads from the pins that caused it. -/
  | gpio (level1 : Option UInt8) (between : UInt32) (level2 : Option UInt8)
  /-- `pulse_sensor` up to the clock. -/
  | simStamp (sensorId : UInt8)
  /-- Its `k_msgq_put`. -/
  | simPut
  /-- `k_msgq_get` of `sensor_thread`. -/
  | take
  | process
deriving DecidableEq, Repr

namespace SensorSystem

/-- Uptime does not go back. -/
def advance (s : SensorSystem) (now : UInt32) : SensorSystem :=
  { s with uptime := if s.uptime ≤ now then now else s.uptime }

/-- The state after a write to the queue, which may have gone to the waiting `sensor_thread`. -/
def written (s : SensorSystem) (q : MsgQueue SensorEvent 16) (d : Option SensorEvent)
    (h : q.readerWaits = false) : SensorSystem :=
  { s with sensorMsgq := q, received := d <|> s.received, none_of_waiting := by simp [h] }

/-- `sensor_send_event` in the interrupt handler. -/
def sendFromIsr (s : SensorSystem) (sensorId level : UInt8) : SensorSystem × List SensorOutput :=
  let evt : SensorEvent := ⟨sensorId, level, s.uptime⟩
  match h : s.sensorMsgq.put evt with
  | none => (s, [.sent evt])
  | some (q, d) =>
    (s.written q d (MsgQueue.readerWaits_putForever (MsgQueue.put_eq_some h)).1, [.sent evt])

/-- One `if` of the handler; `level` is `none` if the pin did not cause the interrupt. -/
def isrPin (s : SensorSystem) (sensorId : UInt8) (level : Option UInt8) :
    SensorSystem × List SensorOutput :=
  match level with
  | none => (s, [])
  | some level => s.sendFromIsr sensorId level

def sensorGpioIsr (s : SensorSystem) (level1 : Option UInt8) (between : UInt32) (level2 : Option UInt8) :
    SensorSystem × List SensorOutput :=
  let (s, o₁) := s.isrPin 1 level1
  let (s, o₂) := (s.advance between).isrPin 2 level2
  (s, o₁ ++ o₂)

/-- `pulse_sensor` up to the clock; the thread is neither in a pulse nor waiting for room. -/
def simStamp (s : SensorSystem) (sensorId : UInt8) : SensorSystem × List SensorOutput :=
  if s.sending = none ∧ s.sensorMsgq.writers = [] then
    let evt : SensorEvent := ⟨sensorId, 1, s.uptime⟩
    ({ s with sending := some evt }, [.sent evt])
  else (s, [])

def simPut (s : SensorSystem) : SensorSystem × List SensorOutput :=
  match s.sending with
  | none => (s, [])
  | some evt =>
    let r := s.sensorMsgq.putForever evt
    ({ s.written r.1 r.2 (MsgQueue.readerWaits_putForever rfl).1 with sending := none }, [])

/-- `sensor_thread` calls `k_msgq_get` when it has no event and is not waiting for one. -/
def take (s : SensorSystem) : SensorSystem × List SensorOutput :=
  if s.received = none ∧ s.sensorMsgq.readerWaits = false then
    let r := s.sensorMsgq.get
    ({ s with
      sensorMsgq := r.1
      received := r.2
      none_of_waiting := (MsgQueue.readerWaits_get rfl).mp }, [])
  else (s, [])

def process (s : SensorSystem) : SensorSystem × List SensorOutput :=
  match s.received with
  | none => (s, [])
  | some evt => ({ s with received := none, none_of_waiting := fun _ => rfl }, [.handed evt])

def step (s : SensorSystem) : SensorMove → SensorSystem × List SensorOutput
  | .uptime now => (s.advance now, [])
  | .gpio level1 between level2 => s.sensorGpioIsr level1 between level2
  | .simStamp sensorId => s.simStamp sensorId
  | .simPut => s.simPut
  | .take => s.take
  | .process => s.process

/-- The state before the first event, at some uptime. -/
def start (uptime : UInt32) : SensorSystem := ⟨uptime, .empty, none, none, fun _ => rfl⟩

end SensorSystem

/-- Every interleaving of interrupts, simulated pulses, `sensor_thread` and time. -/
def sensorMachine : StepMachine SensorSystem SensorMove SensorOutput := ⟨fun s m => some (s.step m)⟩

/-! ### Streams

A stream is judged by the events made so far (`sent`), those that are past the queue's entry (`line`, from
the first one handed over to the last one in the queue), and the one the simulation has stamped. -/

structure Ordered (sent line : List SensorEvent) (sending : Option SensorEvent) (uptime : UInt32) :
    Prop where
  perm : sent.Perm (line ++ sending.toList)
  sorted : (line ++ sending.toList).Pairwise fun a b => a.timestampMs ≤ b.timestampMs
  past : ∀ evt ∈ line ++ sending.toList, evt.timestampMs ≤ uptime

/-- An event is lost or two are out of order. -/
def Damaged (sent line : List SensorEvent) (sending : Option SensorEvent) : Prop :=
  (line ++ sending.toList).length < sent.length ∨
    ¬ (line ++ sending.toList).Pairwise fun a b => a.timestampMs ≤ b.timestampMs

section Streams

variable {sent line : List SensorEvent} {sending : Option SensorEvent} {uptime now : UInt32}
  {evt old : SensorEvent}

theorem Ordered.advance (h : Ordered sent line sending uptime) (hle : uptime ≤ now) :
    Ordered sent line sending now :=
  ⟨h.perm, h.sorted, fun evt hevt => UInt32.le_trans (h.past evt hevt) hle⟩

theorem Ordered.stamp (h : Ordered sent line none uptime) (hevt : evt.timestampMs = uptime) :
    Ordered (sent ++ [evt]) line (some evt) uptime := by
  obtain ⟨hperm, hsorted, hpast⟩ := h
  simp only [Option.toList_none, List.append_nil] at hperm hsorted hpast
  refine ⟨hperm.append_right [evt], ?_, ?_⟩
  · rw [Option.toList_some, List.pairwise_append]
    refine ⟨hsorted, List.pairwise_singleton _ _, ?_⟩
    intro a ha b hb
    rw [List.mem_singleton.mp hb, hevt]
    exact hpast a ha
  · intro a ha
    rcases List.mem_append.mp ha with ha | ha
    · exact hpast a ha
    · rw [List.mem_singleton.mp ha, hevt]
      exact UInt32.le_refl _

theorem Ordered.put (h : Ordered sent line (some old) uptime) :
    Ordered sent (line ++ [old]) none uptime := by
  obtain ⟨hperm, hsorted, hpast⟩ := h
  exact ⟨by simpa using hperm, by simpa using hsorted, by simpa using hpast⟩

/-- An event that passes no younger one joins the line in order. -/
theorem Ordered.send (h : Ordered sent line sending uptime) (hevt : evt.timestampMs = uptime)
    (hclear : ∀ old, sending = some old → uptime ≤ old.timestampMs) :
    Ordered (sent ++ [evt]) (line ++ [evt]) sending uptime := by
  cases sending with
  | none =>
    have hstamped := h.stamp hevt
    exact hstamped.put
  | some old =>
    have hle : uptime ≤ old.timestampMs := hclear old rfl
    obtain ⟨hperm, hsorted, hpast⟩ := h
    rw [Option.toList_some] at hperm hsorted hpast
    rw [List.pairwise_append] at hsorted
    obtain ⟨hline, -, hlast⟩ := hsorted
    refine ⟨?_, ?_, ?_⟩
    · have hmove : (line ++ [old] ++ [evt]).Perm (line ++ [evt] ++ [old]) := by
        rw [List.append_assoc, List.append_assoc]
        exact List.perm_append_comm.append_left line
      exact (hperm.append_right [evt]).trans hmove
    · rw [Option.toList_some, List.pairwise_append, List.pairwise_append]
      refine ⟨⟨hline, List.pairwise_singleton _ _, ?_⟩, List.pairwise_singleton _ _, ?_⟩
      · intro a ha b hb
        rw [List.mem_singleton.mp hb, hevt]
        exact hpast a (List.mem_append_left _ ha)
      · intro a ha b hb
        rw [List.mem_singleton.mp hb]
        rcases List.mem_append.mp ha with ha | ha
        · exact hlast a ha old (List.mem_singleton_self old)
        · rw [List.mem_singleton.mp ha, hevt]
          exact hle
    · intro a ha
      have hcases : a ∈ line ++ [old] ∨ a = evt := by
        simp only [Option.toList_some, List.mem_append, List.mem_singleton] at ha ⊢
        tauto
      rcases hcases with ha | rfl
      · exact hpast a ha
      · rw [hevt]
        exact UInt32.le_refl _

/-- The line and the stamped event are all that is left of what was made. -/
theorem Ordered.lost (h : Ordered sent line sending uptime) : Damaged (sent ++ [evt]) line sending := by
  have hlen := h.perm.length_eq
  have hmade : (sent ++ [evt]).length = sent.length + 1 := List.length_append
  left
  omega

theorem Damaged.overtaken (hlt : ¬ evt.timestampMs ≤ old.timestampMs) :
    Damaged sent (line ++ [evt]) (some old) := by
  right
  intro hsorted
  rw [Option.toList_some, List.pairwise_append] at hsorted
  exact hlt (hsorted.2.2 evt (List.mem_append_right _ (List.mem_singleton_self _)) old
    (List.mem_singleton_self _))

/-- Damage stays: the line and the stamped event only grow, by no more than what is made. -/
theorem Damaged.grow {sent' line' : List SensorEvent} {sending' : Option SensorEvent}
    (h : Damaged sent line sending)
    (hsub : (line ++ sending.toList).Sublist (line' ++ sending'.toList))
    (hlen : (line' ++ sending'.toList).length + sent.length ≤
      (line ++ sending.toList).length + sent'.length) :
    Damaged sent' line' sending' := by
  rcases h with hlost | hunsorted
  · left
    omega
  · right
    exact fun hsorted => hunsorted (hsorted.sublist hsub)

/-- Nothing is damaged in the end exactly if everything was handed over, in order. -/
theorem Damaged.not_delivered (h : Damaged sent line none) :
    ¬ (sent.Perm line ∧ line.Pairwise fun a b => a.timestampMs ≤ b.timestampMs) := by
  rintro ⟨hperm, hsorted⟩
  have hlen := hperm.length_eq
  rcases h with hlost | hunsorted
  · simp only [Option.toList_none, List.append_nil] at hlost
    omega
  · simp only [Option.toList_none, List.append_nil] at hunsorted
    exact hunsorted hsorted

end Streams

/-! ### The stream of the system -/

def sentEvents (o : List SensorOutput) : List SensorEvent :=
  o.filterMap fun
    | .sent evt => some evt
    | .handed _ => none

def handedEvents (o : List SensorOutput) : List SensorEvent :=
  o.filterMap fun
    | .sent _ => none
    | .handed evt => some evt

@[simp] theorem sentEvents_append (o o' : List SensorOutput) :
    sentEvents (o ++ o') = sentEvents o ++ sentEvents o' := List.filterMap_append

@[simp] theorem handedEvents_append (o o' : List SensorOutput) :
    handedEvents (o ++ o') = handedEvents o ++ handedEvents o' := List.filterMap_append

@[simp] theorem sentEvents_sent (evt : SensorEvent) : sentEvents [.sent evt] = [evt] := rfl

@[simp] theorem handedEvents_sent (evt : SensorEvent) : handedEvents [.sent evt] = [] := rfl

namespace SensorSystem

variable {s s' : SensorSystem} {h o : List SensorOutput} {evt : SensorEvent}

/-- The events put and not yet processed, the oldest first. -/
def queued (s : SensorSystem) : List SensorEvent := s.received.toList ++ s.sensorMsgq.contents

def InOrder (s : SensorSystem) (h : List SensorOutput) : Prop :=
  Ordered (sentEvents h) (handedEvents h ++ s.queued) s.sending s.uptime

def Broken (s : SensorSystem) (h : List SensorOutput) : Prop :=
  Damaged (sentEvents h) (handedEvents h ++ s.queued) s.sending

theorem inOrder_sent : s.InOrder (h ++ [.sent evt]) ↔
    Ordered (sentEvents h ++ [evt]) (handedEvents h ++ s.queued) s.sending s.uptime := by
  rw [InOrder, sentEvents_append, handedEvents_append, sentEvents_sent, handedEvents_sent, List.append_nil]

theorem broken_sent : s.Broken (h ++ [.sent evt]) ↔
    Damaged (sentEvents h ++ [evt]) (handedEvents h ++ s.queued) s.sending := by
  rw [Broken, sentEvents_append, handedEvents_append, sentEvents_sent, handedEvents_sent, List.append_nil]

/-- The handler can send: the queue has room, and no event stamped in an earlier millisecond is still to
be put. -/
def Clear (s : SensorSystem) : Prop :=
  ¬ s.sensorMsgq.Full ∧ ∀ old, s.sending = some old → s.uptime ≤ old.timestampMs

theorem queued_written {q : MsgQueue SensorEvent 16} {d : Option SensorEvent}
    (hput : s.sensorMsgq.putForever evt = (q, d)) (hq : q.readerWaits = false) :
    (s.written q d hq).queued = s.queued ++ [evt] := by
  have hcontents := MsgQueue.contents_putForever hput
  have hreceived : (d <|> s.received).toList = s.received.toList ++ d.toList := by
    cases d with
    | none => simp
    | some x =>
      have hwaits := (MsgQueue.readerWaits_putForever hput).2 (by simp)
      simp [s.none_of_waiting hwaits]
  show (d <|> s.received).toList ++ q.contents = _
  rw [hreceived, List.append_assoc, hcontents, queued, List.append_assoc]

/-! What the parts of a step do to the stream. -/

theorem sendFromIsr_full (sensorId level : UInt8) (hfull : s.sensorMsgq.Full) :
    s.sendFromIsr sensorId level = (s, [.sent ⟨sensorId, level, s.uptime⟩]) := by
  unfold sendFromIsr
  dsimp only
  split
  · rfl
  · rename_i hput
    rw [MsgQueue.put_eq_none.mpr hfull] at hput
    cases hput

theorem sendFromIsr_room (sensorId level : UInt8) (hroom : ¬ s.sensorMsgq.Full) :
    ∃ s', s.sendFromIsr sensorId level = (s', [.sent ⟨sensorId, level, s.uptime⟩]) ∧
      s'.queued = s.queued ++ [⟨sensorId, level, s.uptime⟩] ∧ s'.sending = s.sending ∧
      s'.uptime = s.uptime := by
  unfold sendFromIsr
  dsimp only
  split
  · rename_i hput
    exact absurd (MsgQueue.put_eq_none.mp hput) hroom
  · rename_i q d hput
    exact ⟨_, rfl, queued_written (MsgQueue.put_eq_some hput) _, rfl, rfl⟩

theorem InOrder.sendFromIsr (hin : s.InOrder h) (sensorId level : UInt8) (hclear : s.Clear) :
    (s.sendFromIsr sensorId level).1.InOrder (h ++ (s.sendFromIsr sensorId level).2) := by
  obtain ⟨s', hsend, hqueued, hsending, huptime⟩ := sendFromIsr_room sensorId level hclear.1
  rw [hsend, inOrder_sent, hqueued, hsending, huptime, ← List.append_assoc]
  exact Ordered.send hin rfl hclear.2

theorem InOrder.sendFromIsr_not (hin : s.InOrder h) (sensorId level : UInt8) (hclear : ¬ s.Clear) :
    (s.sendFromIsr sensorId level).1.Broken (h ++ (s.sendFromIsr sensorId level).2) := by
  by_cases hfull : s.sensorMsgq.Full
  · rw [sendFromIsr_full sensorId level hfull, broken_sent]
    exact Ordered.lost hin
  · obtain ⟨s', hsend, hqueued, hsending, huptime⟩ := sendFromIsr_room sensorId level hfull
    have hold : ∃ old, s.sending = some old ∧ ¬ s.uptime ≤ old.timestampMs := by
      by_contra hall
      push Not at hall
      exact hclear ⟨hfull, hall⟩
    obtain ⟨old, hsome, hlate⟩ := hold
    rw [hsend, broken_sent, hqueued, hsending, hsome, ← List.append_assoc]
    exact Damaged.overtaken hlate

theorem Broken.sendFromIsr (hbroken : s.Broken h) (sensorId level : UInt8) :
    (s.sendFromIsr sensorId level).1.Broken (h ++ (s.sendFromIsr sensorId level).2) := by
  by_cases hfull : s.sensorMsgq.Full
  · rw [sendFromIsr_full sensorId level hfull, broken_sent]
    apply Damaged.grow hbroken (List.Sublist.refl _)
    have hmade : (sentEvents h ++ [(⟨sensorId, level, s.uptime⟩ : SensorEvent)]).length =
        (sentEvents h).length + 1 := List.length_append
    omega
  · obtain ⟨s', hsend, hqueued, hsending, -⟩ := sendFromIsr_room sensorId level hfull
    rw [hsend, broken_sent, hqueued, hsending]
    apply Damaged.grow hbroken
    · rw [← List.append_assoc]
      exact (List.sublist_append_left _ _).append_right _
    · simp only [List.length_append, List.length_singleton]
      omega

theorem InOrder.advance (hin : s.InOrder h) (now : UInt32) : (s.advance now).InOrder h := by
  apply Ordered.advance hin
  unfold SensorSystem.advance
  split_ifs with hle
  · exact hle
  · exact UInt32.le_refl _

theorem InOrder.isrPin (hin : s.InOrder h) (sensorId : UInt8) {level : Option UInt8} (hclear : level.isSome → s.Clear) :
    (s.isrPin sensorId level).1.InOrder (h ++ (s.isrPin sensorId level).2) := by
  cases level with
  | none => exact (List.append_nil h).symm ▸ hin
  | some level => exact hin.sendFromIsr sensorId level (hclear rfl)

theorem InOrder.isrPin_not (hin : s.InOrder h) (sensorId : UInt8) {level : Option UInt8}
    (hclear : ¬ (level.isSome → s.Clear)) :
    (s.isrPin sensorId level).1.Broken (h ++ (s.isrPin sensorId level).2) := by
  cases level with
  | none => exact absurd (fun hsome => nomatch hsome) hclear
  | some level => exact hin.sendFromIsr_not sensorId level fun hyes => hclear fun _ => hyes

theorem Broken.isrPin (hbroken : s.Broken h) (sensorId : UInt8) (level : Option UInt8) :
    (s.isrPin sensorId level).1.Broken (h ++ (s.isrPin sensorId level).2) := by
  cases level with
  | none => exact (List.append_nil h).symm ▸ hbroken
  | some level => exact hbroken.sendFromIsr sensorId level

/-- A step that makes nothing and moves events along the line only. -/
structure Quiet (s s' : SensorSystem) (o : List SensorOutput) : Prop where
  sent : sentEvents o = []
  queued : handedEvents o ++ s'.queued = s.queued
  sending : s'.sending = s.sending
  uptime : s'.uptime = s.uptime

theorem Quiet.refl (s : SensorSystem) : s.Quiet s [] := ⟨rfl, rfl, rfl, rfl⟩

theorem InOrder.quiet (hin : s.InOrder h) (hq : s.Quiet s' o) : s'.InOrder (h ++ o) := by
  unfold InOrder at hin ⊢
  rwa [sentEvents_append, hq.sent, List.append_nil, handedEvents_append, List.append_assoc, hq.queued,
    hq.sending, hq.uptime]

theorem Broken.quiet (hbroken : s.Broken h) (hq : s.Quiet s' o) : s'.Broken (h ++ o) := by
  unfold Broken at hbroken ⊢
  rwa [sentEvents_append, hq.sent, List.append_nil, handedEvents_append, List.append_assoc, hq.queued,
    hq.sending]

theorem quiet_take (s : SensorSystem) : s.Quiet s.take.1 s.take.2 := by
  unfold take
  split_ifs with hidle
  · refine ⟨rfl, ?_, rfl, rfl⟩
    have hcontents : s.sensorMsgq.get.2.toList ++ s.sensorMsgq.get.1.contents =
        s.sensorMsgq.contents := MsgQueue.contents_get rfl
    show s.sensorMsgq.get.2.toList ++ s.sensorMsgq.get.1.contents = s.queued
    rw [hcontents, queued, hidle.1]
    rfl
  · exact Quiet.refl s

theorem quiet_process (s : SensorSystem) : s.Quiet s.process.1 s.process.2 := by
  unfold process
  split
  · exact Quiet.refl s
  · rename_i evt hreceived
    refine ⟨rfl, ?_, rfl, rfl⟩
    rw [queued, queued, hreceived]
    rfl

theorem InOrder.simStamp (hin : s.InOrder h) (sensorId : UInt8) :
    (s.simStamp sensorId).1.InOrder (h ++ (s.simStamp sensorId).2) := by
  unfold SensorSystem.simStamp
  split_ifs with hready
  · unfold InOrder at hin
    rw [hready.1] at hin
    exact inOrder_sent.mpr (hin.stamp rfl)
  · exact hin.quiet (Quiet.refl s)

theorem Broken.simStamp (hbroken : s.Broken h) (sensorId : UInt8) :
    (s.simStamp sensorId).1.Broken (h ++ (s.simStamp sensorId).2) := by
  unfold SensorSystem.simStamp
  split_ifs with hready
  · unfold Broken at hbroken
    rw [hready.1] at hbroken
    apply broken_sent.mpr
    show Damaged _ (handedEvents h ++ s.queued) (some _)
    apply hbroken.grow
    · exact List.Sublist.append_left (List.nil_sublist _) _
    · simp only [List.length_append, Option.toList_none, Option.toList_some, List.length_nil,
        List.length_singleton]
      omega
  · exact hbroken.quiet (Quiet.refl s)

/-- The put of the simulation moves its event to the end of the line. -/
theorem simPut_cases (s : SensorSystem) :
    s.simPut = (s, []) ∨ ∃ s' evt, s.simPut = (s', []) ∧ s.sending = some evt ∧ s'.sending = none ∧
      s'.queued = s.queued ++ [evt] ∧ s'.uptime = s.uptime := by
  unfold simPut
  split
  · exact .inl rfl
  · rename_i evt hsending
    have hput : s.sensorMsgq.putForever evt =
        ((s.sensorMsgq.putForever evt).1, (s.sensorMsgq.putForever evt).2) := rfl
    have hqueued := queued_written hput (MsgQueue.readerWaits_putForever hput).1
    exact .inr ⟨_, evt, rfl, hsending, rfl, hqueued, rfl⟩

theorem InOrder.simPut (hin : s.InOrder h) : s.simPut.1.InOrder (h ++ s.simPut.2) := by
  rcases s.simPut_cases with hput | ⟨s', evt, hput, hsending, hnone, hqueued, huptime⟩
  · rw [hput]
    exact hin.quiet (Quiet.refl s)
  · rw [hput]
    unfold InOrder at hin ⊢
    rw [hsending] at hin
    rw [List.append_nil, hqueued, hnone, huptime, ← List.append_assoc]
    exact hin.put

theorem Broken.simPut (hbroken : s.Broken h) : s.simPut.1.Broken (h ++ s.simPut.2) := by
  rcases s.simPut_cases with hput | ⟨s', evt, hput, hsending, hnone, hqueued, -⟩
  · rw [hput]
    exact hbroken.quiet (Quiet.refl s)
  · rw [hput]
    unfold Broken at hbroken ⊢
    rw [hsending] at hbroken
    rw [List.append_nil, hqueued, hnone, ← List.append_assoc]
    apply hbroken.grow
    · simp
    · simp

/-! ### Runs -/

/-- The handler, if the move is one, finds its way clear for each event it sends. -/
def Undisturbed (s : SensorSystem) : SensorMove → Prop
  | .gpio level1 between level2 =>
    (level1.isSome → s.Clear) ∧ (level2.isSome → ((s.isrPin 1 level1).1.advance between).Clear)
  | _ => True

theorem InOrder.step (hin : s.InOrder h) {m : SensorMove} (hm : s.Undisturbed m) :
    (s.step m).1.InOrder (h ++ (s.step m).2) := by
  cases m with
  | uptime now => exact (List.append_nil h).symm ▸ hin.advance now
  | gpio level1 between level2 =>
    have hfirst := hin.isrPin 1 hm.1
    have hsecond := (hfirst.advance between).isrPin 2 hm.2
    rw [List.append_assoc] at hsecond
    exact hsecond
  | simStamp sensorId => exact hin.simStamp sensorId
  | simPut => exact hin.simPut
  | take => exact hin.quiet s.quiet_take
  | process => exact hin.quiet s.quiet_process

theorem Broken.step (hbroken : s.Broken h) (m : SensorMove) :
    (s.step m).1.Broken (h ++ (s.step m).2) := by
  cases m with
  | uptime now => exact (List.append_nil h).symm ▸ hbroken
  | gpio level1 between level2 =>
    have hfirst := hbroken.isrPin 1 level1
    have hpassed : ((s.isrPin 1 level1).1.advance between).Broken (h ++ (s.isrPin 1 level1).2) := hfirst
    have hsecond := hpassed.isrPin 2 level2
    rw [List.append_assoc] at hsecond
    exact hsecond
  | simStamp sensorId => exact hbroken.simStamp sensorId
  | simPut => exact hbroken.simPut
  | take => exact hbroken.quiet s.quiet_take
  | process => exact hbroken.quiet s.quiet_process

/-- Only the handler can do damage. -/
theorem InOrder.step_not (hin : s.InOrder h) {m : SensorMove} (hm : ¬ s.Undisturbed m) :
    (s.step m).1.Broken (h ++ (s.step m).2) := by
  cases m with
  | gpio level1 between level2 =>
    show ((s.isrPin 1 level1).1.advance between |>.isrPin 2 level2).1.Broken
      (h ++ ((s.isrPin 1 level1).2 ++ ((s.isrPin 1 level1).1.advance between |>.isrPin 2 level2).2))
    rw [← List.append_assoc]
    by_cases hfirst : level1.isSome → s.Clear
    · have hsecond : ¬ (level2.isSome → ((s.isrPin 1 level1).1.advance between).Clear) :=
        fun hyes => hm ⟨hfirst, hyes⟩
      exact ((hin.isrPin 1 hfirst).advance between).isrPin_not 2 hsecond
    · have hbroken := hin.isrPin_not 1 hfirst
      have hpassed : ((s.isrPin 1 level1).1.advance between).Broken (h ++ (s.isrPin 1 level1).2) :=
        hbroken
      exact hpassed.isrPin 2 level2
  | _ => exact absurd trivial hm

theorem inOrder_start (t : UInt32) : (start t).InOrder [] :=
  ⟨List.Perm.refl _, List.Pairwise.nil, fun _ hevt => nomatch hevt⟩

theorem sensorMachine_step {m : SensorMove} (hstep : sensorMachine.step s m = some (s', o)) :
    s' = (s.step m).1 ∧ o = (s.step m).2 := by
  have hpair : s.step m = (s', o) := Option.some.inj hstep
  rw [hpair]
  exact ⟨rfl, rfl⟩

/-- **The stream stays in order until a disturbed interrupt damages it for good.** -/
theorem stream_split {t : UInt32} {moves : List SensorMove}
    (hrun : sensorMachine.run (start t) moves = some (s, o)) :
    (sensorMachine.Along (fun s m _ _ => s.Undisturbed m) (start t) moves ∧ s.InOrder o) ∨
      (¬ sensorMachine.Along (fun s m _ _ => s.Undisturbed m) (start t) moves ∧ s.Broken o) := by
  refine sensorMachine.run_split (R := InOrder) (D := Broken) ?_ ?_ ?_ (inOrder_start t) hrun
  · intro s h m s' o hin hm hstep
    obtain ⟨rfl, rfl⟩ := sensorMachine_step hstep
    exact hin.step hm
  · intro s h m s' o hin hm hstep
    obtain ⟨rfl, rfl⟩ := sensorMachine_step hstep
    exact hin.step_not hm
  · intro s h m s' o hbroken hstep
    obtain ⟨rfl, rfl⟩ := sensorMachine_step hstep
    exact hbroken.step m

/-- Every event that was made and not lost has been handed over. -/
def Drained (s : SensorSystem) : Prop := s.queued = [] ∧ s.sending = none

end SensorSystem

end Radar
