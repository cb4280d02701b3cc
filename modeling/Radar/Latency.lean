import Radar.Atomic
import Radar.SensorSim

/-!
# The camera on the clock

`clock` takes a firing for one step, as if the handler returned at once. `busyClock` has the two threads
of the processing file on the clock: the work queue reports at the deadline, and comes to the last line of
`finalize_vehicle_work` only when the handler has returned, which takes it `latency` milliseconds. The
pulses of that time are processed meanwhile.

A firing under way is one that has been done, as long as no sensor-1 pulse comes (`Ahead`). So if on `clock`
no pulse comes between a deadline and `L` milliseconds after it, a camera that takes no longer than `L`
changes nothing (`camera_time_invisible`), and what was shown of `clock` holds with the camera.
-/

namespace Radar

/-- The two threads, when `finalize_work` is due, and when its last firing is over. -/
structure BusyClock where
  shared : Shared
  deadline : Option ℕ
  release : ℕ

def BusyClock.start : BusyClock := ⟨.start, none, 0⟩

section

-- beside what `clock` depends on, for how long the handler holds the work queue if it is called in a
-- firing that begins at a time
variable (cfg : Config) (undef : Option Int32) (stack : ℕ → RadarDisplayData) (latency : ℕ → ℕ)

namespace BusyClock

/-- The last line of `finalize_vehicle_work`, if its time has come. -/
def reset (b : BusyClock) (passed : ℕ → Bool) : Option (BusyClock × List Action) :=
  if passed b.release then do
    let (t, acts) ← move cfg b.shared .reset
    return ({ b with shared := t }, acts)
  else some (b, [])

/-- The work queue takes the work that is due, once it is free. -/
def report (b : BusyClock) (passed : ℕ → Bool) : Option (BusyClock × List Action) :=
  match b.deadline with
  | none => some (b, [])
  | some due =>
    let begins := max due b.release
    if b.shared.finalizing = false ∧ passed begins then do
      let (t, acts) ← move cfg b.shared (.report (stack begins) undef)
      return (⟨t, none, if captures acts = 0 then begins else begins + latency begins⟩, acts)
    else some (b, [])

/-- What the work queue does up to a time. -/
def settle (b : BusyClock) (passed : ℕ → Bool) : Option (BusyClock × List Action) := do
  let (b, _) ← b.reset cfg passed
  let (b, acts) ← b.report cfg undef stack latency passed
  let (b, _) ← b.reset cfg passed
  return (b, acts)

def receive (b : BusyClock) (p : Pulse) : Option (BusyClock × List Action) := do
  let (t, acts) ← move cfg b.shared (.event (some p.event) undef)
  return ({ b with shared := t, deadline := rearmed p.time b.deadline acts }, acts)

def tick (b : BusyClock) : Tick → Option (BusyClock × List Action)
  | .pulse p => do
    let (b, fired) ← b.settle cfg undef stack latency fun t => t ≤ p.time
    let (b, acts) ← b.receive cfg undef p
    return (b, fired ++ acts)
  | .quiet => b.settle cfg undef stack latency fun _ => true

end BusyClock

def busyClock : StepMachine BusyClock Tick Action := ⟨BusyClock.tick cfg undef stack latency⟩

end

variable {cfg : Config} {undef : Option Int32} {stack : ℕ → RadarDisplayData} {latency : ℕ → ℕ}
  {b b' : BusyClock} {c c' : Clocked} {passed : ℕ → Bool} {p : Pulse}

/-! ### A firing under way has been done -/

/-- The work of `clock` that is due. -/
def Clocked.settle (cfg : Config) (undef : Option Int32) (stack : ℕ → RadarDisplayData) (c : Clocked)
    (passed : ℕ → Bool) : Option (Clocked × List Action) :=
  match c.deadline with
  | none => some (c, [])
  | some due => if passed due then c.fire cfg undef stack due else some (c, [])

theorem expire_eq (c : Clocked) (now : ℕ) :
    c.expire cfg undef stack now = c.settle cfg undef stack fun t => t ≤ now := by
  unfold Clocked.expire Clocked.settle
  cases c.deadline with
  | none => rfl
  | some due => by_cases h : now < due <;> simp [h]

theorem tick_quiet (c : Clocked) :
    c.tick cfg undef stack .quiet = c.settle cfg undef stack fun _ => true := by
  unfold Clocked.tick Clocked.settle
  cases c.deadline <;> rfl

/-- `c` is `b` with the firing under way done at once. -/
structure Ahead (b : BusyClock) (c : Clocked) : Prop where
  linearized : Linearized b.shared c.globals
  deadline : c.deadline = b.deadline
  taken : b.shared.finalizing = true → b.deadline = none
  free : ∀ due ∈ b.deadline, b.release ≤ due

theorem ahead_start : Ahead .start .start where
  linearized := linearized_free rfl
  deadline := rfl
  taken h := rfl
  free := by simp [BusyClock.start]

theorem reset_ahead (h : Ahead b c) (passed : ℕ → Bool) :
    ∃ b', b.reset cfg passed = some (b', []) ∧ Ahead b' c := by
  unfold BusyClock.reset
  split_ifs
  · obtain ⟨t, hmove, hfinal⟩ : ∃ t, move cfg b.shared .reset = some (t, []) ∧ t.finalizing = false := by
      cases hfinal : b.shared.finalizing with
      | false => exact ⟨b.shared, by simp [move, hfinal], hfinal⟩
      | true => exact ⟨_, if_pos hfinal, rfl⟩
    rw [hmove]
    refine ⟨_, rfl, (linearized_reset h.linearized hmove).2, h.deadline, fun hbusy => ?_, h.free⟩
    rw [hfinal] at hbusy
    cases hbusy
  · exact ⟨b, rfl, h⟩

theorem report_ahead (h : Ahead b c) (passed : ℕ → Bool) :
    (b.report cfg undef stack latency passed = none ∧ c.settle cfg undef stack passed = none) ∨
      ∃ b' c' acts, b.report cfg undef stack latency passed = some (b', acts) ∧
        c.settle cfg undef stack passed = some (c', acts) ∧ Ahead b' c' := by
  unfold BusyClock.report Clocked.settle
  rw [h.deadline]
  cases hdeadline : b.deadline with
  | none => exact .inr ⟨b, c, [], rfl, rfl, h⟩
  | some due =>
    have hfinal : b.shared.finalizing = false := by
      rw [Bool.eq_false_iff]
      intro hbusy
      rw [h.taken hbusy] at hdeadline
      cases hdeadline
    have hbegins : max due b.release = due := max_eq_left (h.free due hdeadline)
    simp only [hbegins, hfinal, true_and]
    by_cases hover : passed due = true
    · simp only [if_pos hover]
      cases hmove : move cfg b.shared (.report (stack due) undef) with
      | none =>
        left
        have hfire : step cfg c.globals (.fire (stack due) undef) = none := by
          rw [h.linearized.free hfinal, ← report_reset hfinal, StepMachine.run_cons]
          simp [threads, hmove]
        exact ⟨rfl, by rw [fire_eq hfire]; rfl⟩
      | some r =>
        obtain ⟨t, acts⟩ := r
        right
        obtain ⟨a', hfire, hlinearized⟩ := linearized_report h.linearized hmove
        refine ⟨_, _, acts, rfl, fire_eq hfire, hlinearized, rfl, fun _ => rfl, ?_⟩
        simp
    · simp only [if_neg hover]
      exact .inr ⟨b, c, [], rfl, rfl, h⟩

theorem settle_ahead (h : Ahead b c) (passed : ℕ → Bool) :
    (b.settle cfg undef stack latency passed = none ∧ c.settle cfg undef stack passed = none) ∨
      ∃ b' c' acts, b.settle cfg undef stack latency passed = some (b', acts) ∧
        c.settle cfg undef stack passed = some (c', acts) ∧ Ahead b' c' := by
  obtain ⟨b₁, hreset, h₁⟩ := @reset_ahead cfg b c h passed
  simp only [BusyClock.settle, hreset, Option.bind_eq_bind, Option.bind_some]
  rcases report_ahead h₁ passed with ⟨hreport, hsettle⟩ | ⟨b₂, c', acts, hreport, hsettle, h₂⟩
  · exact .inl ⟨by rw [hreport]; rfl, hsettle⟩
  · obtain ⟨b₃, hreset', h₃⟩ := @reset_ahead cfg b₂ c' h₂ passed
    refine .inr ⟨b₃, c', acts, ?_, hsettle, h₃⟩
    rw [hreport, Option.bind_some, hreset']
    rfl

theorem rearmed_after {now due : ℕ} {acts : List Action} :
    ∀ {deadline : Option ℕ}, due ∈ rearmed now deadline acts → due ∈ deadline ∨ now ≤ due := by
  induction acts with
  | nil => exact fun h => .inl h
  | cons act acts ih =>
    intro deadline h
    cases act with
    | reschedule delayMs =>
      rcases ih (show due ∈ rearmed now (some (now + delayMs.toInt.toNat)) acts from h) with h | h
      · right
        rw [← Option.some.inj h]
        exact Nat.le_add_right now _
      · exact .inr h
    | _ => exact ih (show due ∈ rearmed now deadline acts from h)

theorem second_silent {g g' : Globals} {acts : List Action}
    (h : radarProcessSensorEvent cfg undef g (some p.event) = some (g', acts)) (hp : p.sensor ≠ .first) :
    acts = [] := by
  have hrise : ¬ p.event.Rise 1 := mt p.rise_one.mp hp
  cases event_cases h with
  | opens e hstate h1 => exact absurd h1 hrise
  | axle e hstate h1 => exact absurd h1 hrise
  | sensor2 e t hstate h2 hfirst ht => rfl
  | ignored _ hignores => rfl

/-- Between a report and its last line. -/
theorem receive_busy (h : Ahead b c) (hfinal : b.shared.finalizing = true) (hp : p.sensor ≠ .first) :
    ∃ b', b.receive cfg undef p = some (b', []) ∧ c.receive cfg undef p = some (c, []) ∧ Ahead b' c := by
  have hundisturbed : Undisturbed b.shared (.event (some p.event) undef) :=
    fun hrise => absurd (p.rise_one.mp hrise) hp
  obtain ⟨hignores, hignores'⟩ := h.linearized.ignores hfinal hundisturbed
  have hmove : ∃ t, move cfg b.shared (.event (some p.event) undef) = some (t, []) ∧
      t.finalizing = b.shared.finalizing := by
    simp only [move, event_ignored hignores]
    exact ⟨_, rfl, rfl⟩
  obtain ⟨t, hmove, hsame⟩ := hmove
  obtain ⟨a', hstep, hlinearized⟩ := linearized_event h.linearized hundisturbed hmove
  obtain rfl : c.globals = a' := by
    have hstep' : step cfg c.globals (.event (some p.event) undef) = some (c.globals, []) :=
      event_ignored hignores'
    rw [hstep] at hstep'
    exact (Prod.mk.inj (Option.some.inj hstep')).1.symm
  refine ⟨_, by rw [BusyClock.receive, hmove]; rfl, receive_eq (event_ignored hignores'), ?_⟩
  exact ⟨hlinearized, h.deadline, fun hbusy => h.taken (hsame ▸ hbusy), h.free⟩

theorem receive_free (h : Ahead b c) (hfinal : b.shared.finalizing = false)
    (hrelease : p.sensor = .first → b.release ≤ p.time) :
    (b.receive cfg undef p = none ∧ c.receive cfg undef p = none) ∨
      ∃ b' c' acts, b.receive cfg undef p = some (b', acts) ∧ c.receive cfg undef p = some (c', acts) ∧
        Ahead b' c' := by
  have hglobals := h.linearized.free hfinal
  cases hevent : radarProcessSensorEvent cfg undef b.shared.globals (some p.event) with
  | none =>
    rw [← hglobals] at hevent
    exact .inl ⟨by simp [BusyClock.receive, move, ← hglobals, hevent], receive_eq hevent⟩
  | some r =>
    obtain ⟨g, acts⟩ := r
    have hmove : ∃ t, move cfg b.shared (.event (some p.event) undef) = some (t, acts) ∧
        t.finalizing = false ∧ t.globals = g := by
      simp only [move, hevent]
      exact ⟨_, rfl, hfinal, rfl⟩
    obtain ⟨t, hmove, hfree, rfl⟩ := hmove
    rw [← hglobals] at hevent
    refine .inr ⟨_, _, acts, by rw [BusyClock.receive, hmove]; rfl, receive_eq hevent,
      linearized_free hfree, by rw [h.deadline], fun hbusy => ?_, fun due hdue => ?_⟩
    · rw [hfree] at hbusy
      cases hbusy
    · by_cases hp : p.sensor = .first
      · rcases rearmed_after hdue with hdue | hdue
        · exact h.free due hdue
        · exact (hrelease hp).trans hdue
      · obtain rfl := second_silent hevent hp
        exact h.free due hdue

theorem receive_ahead (h : Ahead b c)
    (hfree : p.sensor = .first → b.shared.finalizing = false ∧ b.release ≤ p.time) :
    (b.receive cfg undef p = none ∧ c.receive cfg undef p = none) ∨
      ∃ b' c' acts, b.receive cfg undef p = some (b', acts) ∧ c.receive cfg undef p = some (c', acts) ∧
        Ahead b' c' := by
  cases hfinal : b.shared.finalizing with
  | false => exact receive_free h hfinal fun hp => (hfree hp).2
  | true =>
    have hp : p.sensor ≠ .first := fun hp => by
      rw [(hfree hp).1] at hfinal
      cases hfinal
    obtain ⟨b', hreceive, hreceive', h'⟩ := @receive_busy cfg undef b c p h hfinal hp
    exact .inr ⟨b', c, [], hreceive, hreceive', h'⟩

/-! ### Ticks -/

/-- A sensor-1 pulse finds the work queue free. -/
def BusyClock.Clear (cfg : Config) (undef : Option Int32) (stack : ℕ → RadarDisplayData)
    (latency : ℕ → ℕ) (b : BusyClock) : Tick → Prop
  | .pulse p => p.sensor = .first → ∀ b' acts,
      b.settle cfg undef stack latency (fun t => t ≤ p.time) = some (b', acts) →
        b'.shared.finalizing = false ∧ b'.release ≤ p.time
  | .quiet => True

theorem tick_ahead (h : Ahead b c) {t : Tick} (hclear : b.Clear cfg undef stack latency t) :
    (b.tick cfg undef stack latency t = none ∧ c.tick cfg undef stack t = none) ∨
      ∃ b' c' acts, b.tick cfg undef stack latency t = some (b', acts) ∧
        c.tick cfg undef stack t = some (c', acts) ∧ Ahead b' c' := by
  cases t with
  | quiet =>
    rw [tick_quiet]
    exact settle_ahead h fun _ => true
  | pulse p =>
    simp only [BusyClock.tick, Clocked.tick, expire_eq]
    rcases settle_ahead h fun t => t ≤ p.time with ⟨hsettle, hsettle'⟩ | ⟨b₁, c₁, fired, hsettle, hsettle', h₁⟩
    · exact .inl ⟨by rw [hsettle]; rfl, by rw [hsettle']; rfl⟩
    · rw [hsettle, hsettle']
      simp only [Option.bind_eq_bind, Option.bind_some]
      rcases receive_ahead h₁ fun hp => hclear hp b₁ fired hsettle with
        ⟨hreceive, hreceive'⟩ | ⟨b', c', acts, hreceive, hreceive', h'⟩
      · exact .inl ⟨by rw [hreceive]; rfl, by rw [hreceive']; rfl⟩
      · exact .inr ⟨b', c', fired ++ acts, by rw [hreceive]; rfl, by rw [hreceive']; rfl, h'⟩

/-- With the work queue free at every sensor-1 pulse, a run with the camera is one without. -/
theorem run_ahead (h : Ahead b c) {ts : List Tick}
    (hclear : ∀ b₁ t, (busyClock cfg undef stack latency).Takes b ts b₁ t →
      b₁.Clear cfg undef stack latency t) :
    ((busyClock cfg undef stack latency).run b ts = none ∧ (clock cfg undef stack).run c ts = none) ∨
      ∃ b' c' acts, (busyClock cfg undef stack latency).run b ts = some (b', acts) ∧
        (clock cfg undef stack).run c ts = some (c', acts) ∧ Ahead b' c' :=
  (busyClock cfg undef stack latency).run_lockstep (clock cfg undef stack)
    (P := fun b t => b.Clear cfg undef stack latency t) (R := Ahead)
    (fun _ _ _ h hclear => tick_ahead h hclear) ts h hclear

/-! ### A camera that is fast enough -/

variable {L : ℕ}

/-- A pulse of `clock` that finds a deadline over finds it over for `L` milliseconds. -/
def Clocked.Roomy (L : ℕ) (c : Clocked) (p : Pulse) : Prop :=
  ∀ due ∈ c.deadline, due ≤ p.time → due + L ≤ p.time

/-- The work queue is free, and has been for some time. -/
def BusyClock.FreeBy (b : BusyClock) (now : ℕ) : Prop := b.shared.finalizing = false ∧ b.release ≤ now

theorem reset_free {now : ℕ} (hrelease : b.release ≤ now) {acts : List Action}
    (hreset : b.reset cfg (fun t => t ≤ now) = some (b', acts)) : b'.FreeBy now := by
  simp only [BusyClock.reset, decide_eq_true hrelease, if_true, Option.bind_eq_bind,
    Option.bind_eq_some_iff] at hreset
  obtain ⟨⟨t, acts'⟩, hmove, heq⟩ := hreset
  obtain ⟨rfl, rfl⟩ := Prod.mk.inj (Option.some.inj heq)
  refine ⟨?_, hrelease⟩
  simp only [move] at hmove
  split_ifs at hmove with hfinal
  · obtain ⟨rfl, -⟩ := Prod.mk.inj (Option.some.inj hmove)
    rfl
  · obtain ⟨rfl, -⟩ := Prod.mk.inj (Option.some.inj hmove)
    exact Bool.eq_false_iff.mpr hfinal

theorem report_release {now : ℕ} (h : Ahead b c) (hlatency : ∀ t, latency t ≤ L)
    (hrelease : b.release ≤ now) (hroomy : c.Roomy L p) (hp : p.time = now) {acts : List Action}
    (hreport : b.report cfg undef stack latency (fun t => t ≤ now) = some (b', acts)) :
    b'.release ≤ now := by
  unfold BusyClock.report at hreport
  cases hdeadline : b.deadline with
  | none =>
    rw [hdeadline] at hreport
    obtain ⟨rfl, -⟩ := Prod.mk.inj (Option.some.inj hreport)
    exact hrelease
  | some due =>
    have hbegins : max due b.release = due := max_eq_left (h.free due hdeadline)
    simp only [hdeadline, hbegins] at hreport
    split_ifs at hreport with hdue
    · simp only [Option.bind_eq_bind, Option.bind_eq_some_iff] at hreport
      obtain ⟨⟨t, acts'⟩, hmove, heq⟩ := hreport
      obtain ⟨rfl, rfl⟩ := Prod.mk.inj (Option.some.inj heq)
      have hover := hroomy due (h.deadline.trans hdeadline) (hp ▸ of_decide_eq_true hdue.2)
      have hle := hlatency due
      show (if captures acts' = 0 then due else due + latency due) ≤ now
      split_ifs <;> omega
    · obtain ⟨rfl, -⟩ := Prod.mk.inj (Option.some.inj hreport)
      exact hrelease

theorem settle_free (h : Ahead b c) (hlatency : ∀ t, latency t ≤ L) (hrelease : b.release ≤ p.time)
    (hroomy : c.Roomy L p) {acts : List Action}
    (hsettle : b.settle cfg undef stack latency (fun t => t ≤ p.time) = some (b', acts)) :
    b'.FreeBy p.time := by
  obtain ⟨b₁, hreset, h₁⟩ := @reset_ahead cfg b c h fun t => t ≤ p.time
  have hfree₁ := reset_free hrelease hreset
  simp only [BusyClock.settle, hreset, Option.bind_eq_bind, Option.bind_some,
    Option.bind_eq_some_iff] at hsettle
  obtain ⟨⟨b₂, acts₂⟩, hreport, ⟨b₃, acts₃⟩, hreset', heq⟩ := hsettle
  obtain ⟨rfl, rfl⟩ := Prod.mk.inj (Option.some.inj heq)
  exact reset_free (report_release h₁ hlatency hfree₁.2 hroomy rfl hreport) hreset'

theorem receive_kept {acts : List Action} (hreceive : b.receive cfg undef p = some (b', acts)) :
    b'.shared.finalizing = b.shared.finalizing ∧ b'.release = b.release := by
  simp only [BusyClock.receive, move, Option.bind_eq_bind, Option.bind_eq_some_iff] at hreceive
  obtain ⟨⟨t, acts'⟩, ⟨⟨g, acts''⟩, -, heq⟩, heq'⟩ := hreceive
  obtain ⟨rfl, rfl⟩ := Prod.mk.inj (Option.some.inj heq)
  obtain ⟨rfl, -⟩ := Prod.mk.inj (Option.some.inj heq')
  exact ⟨rfl, rfl⟩

theorem tick_release (h : Ahead b c) (hlatency : ∀ t, latency t ≤ L) (hrelease : b.release ≤ p.time)
    (hroomy : c.Roomy L p) {acts : List Action}
    (htick : b.tick cfg undef stack latency (.pulse p) = some (b', acts)) : b'.release ≤ p.time := by
  simp only [BusyClock.tick, Option.bind_eq_bind, Option.bind_eq_some_iff] at htick
  obtain ⟨⟨b₁, fired⟩, hsettle, ⟨b₂, acts'⟩, hreceive, heq⟩ := htick
  obtain ⟨rfl, rfl⟩ := Prod.mk.inj (Option.some.inj heq)
  rw [(receive_kept hreceive).2]
  exact (settle_free h hlatency hrelease hroomy hsettle).2

/-- Pulses in order, with room behind every deadline, find the work queue free. -/
theorem clear_of_roomy (hlatency : ∀ t, latency t ≤ L) (ps : List Pulse) :
    ∀ {b : BusyClock} {c : Clocked}, Ahead b c → (∀ p ∈ ps, b.release ≤ p.time) →
      ps.Pairwise (fun p q => p.time ≤ q.time) →
      (∀ c₁ p, (clock cfg undef stack).Takes c (ps.map .pulse) c₁ (.pulse p) → c₁.Roomy L p) →
      ∀ b₁ t, (busyClock cfg undef stack latency).Takes b (ps.map .pulse ++ [.quiet]) b₁ t →
        b₁.Clear cfg undef stack latency t := by
  induction ps with
  | nil =>
    intro b c _ _ _ _ b₁ t htakes
    rcases (busyClock cfg undef stack latency).takes_cons.mp htakes with
      ⟨rfl, rfl⟩ | ⟨b', o, -, pre, post, o', heq, -⟩
    · trivial
    · simp at heq
  | cons p ps ih =>
    intro b c h hrelease hordered hroomy b₁ t htakes
    obtain ⟨hp, hordered⟩ := List.pairwise_cons.mp hordered
    have hhead := hroomy c p ((clock cfg undef stack).takes_cons.mpr (.inl ⟨rfl, rfl⟩))
    have hclear : b.Clear cfg undef stack latency (.pulse p) :=
      fun _ b' acts hsettle => settle_free h hlatency (hrelease p (by simp)) hhead hsettle
    rw [List.map_cons, List.cons_append] at htakes
    rcases (busyClock cfg undef stack latency).takes_cons.mp htakes with
      ⟨rfl, rfl⟩ | ⟨b', o, htick, htakes⟩
    · exact hclear
    · have hb : b.tick cfg undef stack latency (.pulse p) = some (b', o) := htick
      rcases tick_ahead h hclear with ⟨hnone, -⟩ | ⟨b'', c', acts, htick', hc, h'⟩
      · rw [hnone] at hb
        cases hb
      · obtain ⟨rfl, rfl⟩ := Prod.mk.inj (Option.some.inj (htick'.symm.trans hb))
        refine ih h' (fun q hq => ?_) hordered (fun c₁ q hq => ?_) b₁ t htakes
        · have hle := tick_release h hlatency (hrelease p (by simp)) hhead hb
          exact hle.trans (hp q hq)
        · exact hroomy c₁ q ((clock cfg undef stack).takes_cons.mpr (.inr ⟨c', acts, hc, hq⟩))

/-! ### Room behind the windows -/

/-- After a pulse `clock` keeps the window that the cut has open. -/
theorem tick_next {st : Option (Window × ℕ)} (h : Keeps cfg undef c st) (p : Pulse) :
    c.tick cfg undef stack (.pulse p) = none ∨
      ∃ c' acts, c.tick cfg undef stack (.pulse p) = some (c', acts) ∧
        Keeps cfg undef c' ((windowCut cfg undef).next st p) := by
  cases st with
  | none =>
    obtain ⟨c', acts, hreceive, -, hkeeps⟩ := receive_idle h p
    exact .inr ⟨c', acts, by simp [Clocked.tick, Clocked.expire, h.2.2, hreceive], hkeeps⟩
  | some st =>
    obtain ⟨w, due⟩ := st
    by_cases htime : p.time < due
    · have hexpire : c.expire cfg undef stack p.time = some (c, []) := by
        simp [Clocked.expire, h.2.2, htime]
      have hnext : (windowCut cfg undef).next (some (w, due)) p =
          some ((windowCut cfg undef).take (w, due) p) := if_pos htime
      rw [hnext]
      rcases receive_open h p with ⟨hreceive, -⟩ | ⟨c', acts, hreceive, -, hkeeps⟩
      · exact .inl (by simp [Clocked.tick, hexpire, hreceive])
      · exact .inr ⟨c', acts, by simp [Clocked.tick, hexpire, hreceive], hkeeps⟩
    · have hnext : (windowCut cfg undef).next (some (w, due)) p = (windowCut cfg undef).opened p :=
        if_neg htime
      rw [hnext]
      obtain ⟨c₁, fired, hfire, -, hkeeps₁⟩ := fire_open stack h due
      obtain ⟨c', acts, hreceive, -, hkeeps⟩ := receive_idle hkeeps₁ p
      have hexpire : c.expire cfg undef stack p.time = some (c₁, fired) := by
        simp [Clocked.expire, h.2.2, htime, hfire]
      exact .inr ⟨c', fired ++ acts, by simp [Clocked.tick, hexpire, hreceive], hkeeps⟩

/-- The windows of a stream say whether there is room on `clock`. -/
theorem roomy_takes (ps : List Pulse) :
    ∀ {c : Clocked} {st : Option (Window × ℕ)}, Keeps cfg undef c st →
      (windowCut cfg undef).Roomy L st ps →
      ∀ c₁ p, (clock cfg undef stack).Takes c (ps.map .pulse) c₁ (.pulse p) → c₁.Roomy L p := by
  induction ps with
  | nil =>
    rintro c st - - c₁ p ⟨pre, post, o, heq, -⟩
    simp at heq
  | cons p ps ih =>
    intro c st h hroomy c₁ q htakes
    rcases (clock cfg undef stack).takes_cons.mp htakes with ⟨rfl, heq⟩ | ⟨c', o, htick, htakes⟩
    · obtain rfl := Tick.pulse.inj heq
      have hdeadline : c₁.deadline = st.map Prod.snd := by
        cases st with
        | none => exact h.2.2
        | some st => exact h.2.2
      intro due hdue
      exact hroomy.1 due (hdeadline ▸ hdue)
    · have hc : c.tick cfg undef stack (.pulse p) = some (c', o) := htick
      rcases @tick_next cfg undef stack c st h p with hnone | ⟨c'', acts, hc', hkeeps⟩
      · rw [hnone] at hc
        cases hc
      · obtain ⟨rfl, rfl⟩ := Prod.mk.inj (Option.some.inj (hc'.symm.trans hc))
        exact ih hkeeps hroomy.2 c₁ q htakes

/-! ### The simulated traffic -/

variable {slack : ℕ} {e : Emission} {rest : List Pulse}

/-- One more axle of a window that has its sensor-2 reading. -/
theorem roomy_axle {w : Window} {nap a due : ℕ} (hw : w.t2 ≠ none) (hdue : a < due)
    (hnap : nap < w.delay cfg undef) (ps : List Pulse) :
    ∃ w', w'.t2 ≠ none ∧ w'.delay cfg undef = w.delay cfg undef ∧
      ((windowCut cfg undef).Roomy L (some (w, due)) (⟨.first, a⟩ :: ⟨.second, a + nap⟩ :: ps) ↔
        (windowCut cfg undef).Roomy L (some (w', a + w.delay cfg undef)) ps) := by
  obtain ⟨t, ht⟩ := Option.ne_none_iff_exists'.mp hw
  have hpush : (w.push (⟨.first, a⟩ : Pulse).event).t2 = some t := t2_push_seen ht
  have hsecond : a + nap < a + w.delay cfg undef := by omega
  refine ⟨(w.push (⟨.first, a⟩ : Pulse).event).push (⟨.second, a + nap⟩ : Pulse).event, ?_, ?_, ?_⟩
  · rw [t2_push_seen hpush]
    exact Option.some_ne_none t
  · rw [delay_push (.inr (by simp [hpush])), delay_push (.inl rfl)]
  · rw [SessionCut.roomy_inTime (by exact hdue), take_first rfl, SessionCut.roomy_inTime (by exact hsecond),
      take_second rfl]

theorem roomy_axles (naps : List ℕ) :
    ∀ (nap a due : ℕ) (w : Window), w.t2 ≠ none → a < due → (∀ n ∈ nap :: naps, n < w.delay cfg undef) →
      ∃ w', (windowCut cfg undef).Roomy L (some (w, due)) (axlePulses a (nap :: naps) ++ rest) ↔
        (windowCut cfg undef).Roomy L
          (some (w', a + (nap :: naps).dropLast.sum + w.delay cfg undef)) rest := by
  induction naps with
  | nil =>
    intro nap a due w hw hdue hnaps
    obtain ⟨w', -, -, hroomy⟩ := @roomy_axle cfg undef L w nap a due hw hdue (hnaps nap (by simp)) rest
    exact ⟨w', hroomy⟩
  | cons nap' naps ih =>
    intro nap a due w hw hdue hnaps
    obtain ⟨w₁, hw₁, hdelay, hroomy⟩ := @roomy_axle cfg undef L w nap a due hw hdue (hnaps nap (by simp))
      (axlePulses (a + nap) (nap' :: naps) ++ rest)
    have hnap := hnaps nap (by simp)
    obtain ⟨w', hroomy'⟩ := ih nap' (a + nap) (a + w.delay cfg undef) w₁ hw₁ (by omega)
      fun n hn => hdelay ▸ hnaps n (List.mem_cons_of_mem nap hn)
    refine ⟨w', hroomy.trans (hroomy'.trans (Eq.to_iff ?_))⟩
    rw [hdelay, List.dropLast_cons_of_ne_nil (List.cons_ne_nil nap' naps), List.sum_cons, ← Nat.add_assoc]

/-- The vehicle fits, its last axle leaves before the timeout, and there is room for `L` milliseconds
before the next vehicle. -/
structure Emission.LeavesRoom (cfg : Config) (slack L : ℕ) (e : Emission) : Prop where
  fits : e.Fits cfg slack
  leaves : e.travel + slack < timeoutMs cfg.sensorDistanceMm.toNat e.travel
  room : timeoutMs cfg.sensorDistanceMm.toNat (e.travel + slack) + L ≤ e.travel + 1600

theorem roomy_emission (hD : 36 * cfg.sensorDistanceMm.toNat < 2 ^ 32) (he : e.LeavesRoom cfg slack L)
    {st : Option (Window × ℕ)} {now : ℕ} {naps : List ℕ} (hlength : naps.length = e.axles.toNat)
    (hnaps : ∀ nap ∈ naps, e.travel ≤ nap ∧ nap ≤ e.travel + slack)
    (hst : ∀ due ∈ st.map Prod.snd, due + L ≤ now) :
    ∃ w due, due + L ≤ now + naps.sum + 1600 ∧
      ((windowCut cfg undef).Roomy L st (axlePulses now naps ++ rest) ↔
        (windowCut cfg undef).Roomy L (some (w, due)) rest) := by
  have htwo := he.fits.two_axles
  obtain ⟨nap, nap', naps, rfl⟩ : ∃ nap nap' naps', naps = nap :: nap' :: naps' := by
    cases naps with
    | nil => simp at hlength; omega
    | cons nap naps =>
      cases naps with
      | nil => simp at hlength; omega
      | cons nap' naps => exact ⟨nap, nap', naps, rfl⟩
  obtain ⟨hlow, hhigh⟩ := hnaps nap (by simp)
  have hpos := he.fits.travel_pos
  have hspeed := he.fits.speed
  have hsensor2 := he.fits.sensor2
  have hnap : 10 * nap ≤ 36 * cfg.sensorDistanceMm.toNat := by omega
  have hmin := timeoutMs_mono hpos hlow hnap
  have hmax := timeoutMs_mono (hpos.trans_le hlow) hhigh hspeed
  -- the first axle opens the window and reaches sensor 2 within 500 ms
  let w₀ : Window := ⟨(⟨.first, now⟩ : Pulse).event, [], by simp⟩
  let w₁ := w₀.push (⟨.second, now + nap⟩ : Pulse).event
  have hopens : (windowCut cfg undef).Roomy L st (axlePulses now (nap :: nap' :: naps) ++ rest) ↔
      (windowCut cfg undef).Roomy L (some (w₁, now + 500))
        (axlePulses (now + nap) (nap' :: naps) ++ rest) := by
    have hinTime : now + nap < now + 500 := by omega
    rw [axlePulses, List.cons_append, SessionCut.roomy_opened (by exact hst), opened_first rfl,
      List.cons_append, SessionCut.roomy_inTime (by exact hinTime), take_second rfl]
  -- the others come within the timeout computed from it
  obtain ⟨T, hT, htimeout⟩ := @stopTimeout_measured cfg undef w₁ now nap hD (by omega) hnap rfl rfl
  have hdelay : w₁.delay cfg undef = timeoutMs cfg.sensorDistanceMm.toNat nap := by
    rw [Window.delay, hT, Option.getD_some, htimeout]
  have hleaves := he.leaves
  obtain ⟨w, hroomy⟩ := @roomy_axles cfg undef L rest naps nap' (now + nap) (now + 500) w₁
    (Option.some_ne_none _) (by omega) fun n hn => by
      have hn := hnaps n (List.mem_cons_of_mem nap hn)
      omega
  refine ⟨w, _, ?_, hopens.trans hroomy⟩
  have hroom := he.room
  have hlast := hnaps _ (List.mem_cons_of_mem nap (List.getLast_mem (List.cons_ne_nil nap' naps)))
  have hsum := sum_dropLast (List.cons_ne_nil nap' naps)
  rw [List.sum_cons, ← hsum, hdelay]
  omega

theorem roomy_emissions (hD : 36 * cfg.sensorDistanceMm.toNat < 2 ^ 32) (es : List Emission) :
    ∀ (st : Option (Window × ℕ)) (now : ℕ) (cs : List (Script.Cmd Sensor × ℕ)),
      (∀ e ∈ es, e.LeavesRoom cfg slack L) → Script.Performs slack (es.flatMap Emission.calls) cs →
      (∀ due ∈ st.map Prod.snd, due + L ≤ now) →
      (windowCut cfg undef).Roomy L st (pulsesFrom now cs) := by
  induction es with
  | nil =>
    intro st now cs _ hperforms _
    obtain rfl := Script.performs_nil.mp hperforms
    cases st <;> trivial
  | cons e es ih =>
    intro st now cs hleaves hperforms hst
    rw [List.flatMap_cons, Script.performs_append] at hperforms
    obtain ⟨cs₁, cs₂, rfl, h₁, h₂⟩ := hperforms
    obtain ⟨naps, hlength, hnaps, hpulses, hfinish⟩ := emission_performed h₁ now
    obtain ⟨w, due, hdue, hroomy⟩ := @roomy_emission cfg undef L slack e
      (pulsesFrom (Script.finish now cs₁) cs₂) hD (hleaves e (by simp)) st now naps hlength hnaps hst
    rw [pulsesFrom_append, hpulses, hroomy]
    refine ih _ _ cs₂ (fun e he => hleaves e (by simp [he])) h₂ ?_
    rintro due' hdue'
    obtain rfl := Option.some.inj hdue'
    exact hdue.trans hfinish

/-- The vehicles of the file leave room for 720 ms. -/
theorem leavesRoom_emitted (hslack : slack < 80) (turns : ℕ) :
    ∀ e ∈ emitted turns, e.LeavesRoom .kconfig slack 720 := by
  have hroom : ∀ e ∈ emissions, e.travel + 79 < timeoutMs 1000 e.travel ∧
      timeoutMs 1000 (e.travel + 79) + 720 ≤ e.travel + 1600 := by
    decide
  intro e he
  have hfits := fits_emitted hslack turns e he
  obtain ⟨es, hes, hmem⟩ := List.mem_flatten.mp he
  rw [List.eq_of_mem_replicate hes] at hmem
  obtain ⟨hleaves, happart⟩ := hroom e hmem
  have hpos := hfits.travel_pos
  have hspeed := (fits_emitted (show 79 < 80 by decide) turns e he).speed
  have hmono := timeoutMs_mono (d := e.travel + slack) (by omega) (by omega) hspeed
  refine ⟨hfits, ?_, ?_⟩
  · show e.travel + slack < timeoutMs 1000 e.travel
    omega
  · show timeoutMs 1000 (e.travel + slack) + 720 ≤ e.travel + 1600
    exact (Nat.add_le_add_right hmono 720).trans happart

theorem roomy_simulator (hslack : slack < 80) {turns : ℕ} {cs : List (Script.Cmd Sensor × ℕ)}
    (hperforms : Script.Performs slack (sensorSimThread turns) cs) (start : ℕ) :
    ∀ c p, (clock .kconfig undef stack).Takes .start ((pulsesFrom start cs).map .pulse) c (.pulse p) →
      c.Roomy 720 p :=
  roomy_takes _ keeps_start (roomy_emissions (by decide) _ none start cs (leavesRoom_emitted hslack turns)
    hperforms (by simp))

theorem pulsesFrom_ordered (now : ℕ) (cs : List (Script.Cmd Sensor × ℕ)) :
    (pulsesFrom now cs).Pairwise fun p q => p.time ≤ q.time := by
  rw [pulsesFrom, List.pairwise_map]
  exact Script.stamps_ordered cs now

/-! ### With the camera -/

/-- **A camera that is fast enough changes nothing.** If on `clock` a pulse that finds a deadline over
finds it over for `L` milliseconds, and the handler holds the work queue no longer than that, then the
radar with the camera makes the calls of `clock`. -/
theorem camera_time_invisible {ps : List Pulse} (hordered : ps.Pairwise fun p q => p.time ≤ q.time)
    (hlatency : ∀ t, latency t ≤ L)
    (hroomy : ∀ c p, (clock cfg undef stack).Takes .start (ps.map .pulse) c (.pulse p) → c.Roomy L p) :
    ((busyClock cfg undef stack latency).run .start (ps.map .pulse ++ [.quiet])).map Prod.snd =
      ((clock cfg undef stack).run .start (ps.map .pulse ++ [.quiet])).map Prod.snd := by
  have hclear := clear_of_roomy hlatency ps ahead_start (fun p _ => Nat.zero_le p.time) hordered hroomy
  rcases run_ahead ahead_start hclear with ⟨hbusy, hclock⟩ | ⟨b', c', acts, hbusy, hclock, -⟩
  · rw [hbusy, hclock]
    rfl
  · rw [hbusy, hclock]
    rfl

/-- The simulated traffic, with a camera that always takes 255 ms. -/
theorem simulator_with_camera_of_255_ms :
    ((busyClock .kconfig none (fun _ => ⟨.light, 0, 0, 0, 0, .normal⟩) fun _ => 255).run .start
        ((pulsesFrom 0 (Script.punctual (sensorSimThread 3))).map .pulse ++ [.quiet])).map Prod.snd =
      ((clock .kconfig none fun _ => ⟨.light, 0, 0, 0, 0, .normal⟩).run .start
        ((pulsesFrom 0 (Script.punctual (sensorSimThread 3))).map .pulse ++ [.quiet])).map Prod.snd :=
  camera_time_invisible (pulsesFrom_ordered 0 _) (fun _ => show 255 ≤ 720 by decide)
    (roomy_simulator (show 0 < 80 by decide) (Script.performs_punctual _) 0)

/-- **Every simulated vehicle is reported while the camera works.** With sleeps late by less than 80 ms and
a camera that holds the work queue for up to 720 ms, the radar shows one report for every vehicle. -/
theorem simulator_with_camera {turns : ℕ} {cs : List (Script.Cmd Sensor × ℕ)} (hslack : slack < 80)
    (hperforms : Script.Performs slack (sensorSimThread turns) cs) (hlatency : ∀ t, latency t ≤ 720)
    (undef : Option Int32) (stack : ℕ → RadarDisplayData) (start : ℕ) :
    ∃ b acts, (busyClock .kconfig undef stack latency).run .start
        ((pulsesFrom start cs).map .pulse ++ [.quiet]) = some (b, acts) ∧
      List.Forall₂ (Emission.Reported .kconfig slack) (emitted turns) (reports acts) := by
  obtain ⟨c, acts, hrun, hreported⟩ :=
    run_emissions (by decide) (fits_emitted hslack turns) hperforms undef stack start
  have hclear := @clear_of_roomy .kconfig undef stack latency 720 hlatency (pulsesFrom start cs) .start .start
    ahead_start (fun p _ => Nat.zero_le p.time) (pulsesFrom_ordered start cs)
    (roomy_simulator hslack hperforms start)
  rcases run_ahead ahead_start hclear with ⟨-, hnone⟩ | ⟨b, c', acts', hbusy, hclock, -⟩
  · rw [hrun] at hnone
    cases hnone
  · obtain ⟨rfl, rfl⟩ := Prod.mk.inj (Option.some.inj (hrun.symm.trans hclock))
    exact ⟨b, acts, hbusy, hreported⟩

/-- Three turns, each sleep of an axle late by 10 ms, and a camera that always takes 255 ms. -/
theorem simulator_late_with_camera :
    ∃ b acts, (busyClock .kconfig none (fun _ => ⟨.light, 0, 0, 0, 0, .normal⟩) fun _ => 255).run .start
        ((pulsesFrom 0 ((sensorSimThread 3).map fun c => (c, 10))).map .pulse ++ [.quiet]) = some (b, acts) ∧
      List.Forall₂ (Emission.Reported .kconfig 10) (emitted 3) (reports acts) :=
  simulator_with_camera (by decide) ⟨by simp [Function.comp_def], by simp⟩
    (fun _ => by decide) none _ 0

end Radar
