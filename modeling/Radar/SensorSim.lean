import Radar.Base.Script
import Radar.Traffic

/-!
# `sensor_sim.c`: the simulated traffic

A thread without end that pulses the sensors: six vehicles a turn, each with its axles and the time from
sensor to sensor. Its times are times it asks `k_msleep` for, and a sleep takes at least as long as asked.
An axle that wakes up late is measured late, and may come after the timeout that the axles before it have
left the radar with.

`Emission.Fits` says which vehicles the radar can count however late each sleep returns, up to a bound, and
`run_emissions` that it shows one report for each of them. For the vehicles of the file the bound is
79 ms, and no more (`simulator_tolerance`). Without lateness the vehicles announced `com atenção` are over
their limits, and reported so (`simulator_verdicts`).
-/

namespace Radar

open Script

def betweenVehiclesS : Int32 := 1000

def vehicleEndSilenceMs : Int32 := 600

def pulseSensor (sensor : Sensor) : Cmd Sensor := .emit sensor

/-- A negative time is taken for zero. -/
def kMsleep (ms : Int32) : Cmd Sensor := .sleep ms.toInt.toNat

/-- The body of the loop of `emit_vehicle`. -/
def emitAxle (travelMs : UInt32) : List (Cmd Sensor) :=
  [pulseSensor .first, kMsleep travelMs.toInt32, pulseSensor .second]

def emitVehicle (axles : UInt8) (travelMs : UInt32) : List (Cmd Sensor) :=
  (List.replicate axles.toNat (emitAxle travelMs)).flatten ++ [kMsleep vehicleEndSilenceMs]

/-- The arguments of a call of `emit_vehicle`. -/
structure Emission where
  axles : UInt8
  travelMs : UInt32
deriving DecidableEq, Repr

/-- The call, and the pause after it. -/
def Emission.calls (e : Emission) : List (Cmd Sensor) :=
  emitVehicle e.axles e.travelMs ++ [kMsleep betweenVehiclesS]

/-- The vehicles of one turn of `sensor_sim_thread`. -/
def emissions : List Emission := [⟨2, 120⟩, ⟨2, 40⟩, ⟨2, 20⟩, ⟨3, 120⟩, ⟨3, 50⟩, ⟨3, 20⟩]

/-- The vehicles of a number of turns. -/
def emitted (turns : ℕ) : List Emission := (List.replicate turns emissions).flatten

def sensorSimThread (turns : ℕ) : List (Cmd Sensor) := (emitted turns).flatMap Emission.calls

/-- The pulses of a performance that begins at a time. -/
def pulsesFrom (now : ℕ) (cs : List (Cmd Sensor × ℕ)) : List Pulse :=
  (stamps now cs).map fun e => ⟨e.1, e.2⟩

theorem pulsesFrom_append (now : ℕ) (cs cs' : List (Cmd Sensor × ℕ)) :
    pulsesFrom now (cs ++ cs') = pulsesFrom now cs ++ pulsesFrom (finish now cs) cs' := by
  rw [pulsesFrom, stamps_append, List.map_append]
  rfl

/-! ### The pulses of a vehicle -/

/-- The pulses of axles each of which enters when the one before leaves; `naps` are their times from
sensor to sensor. -/
def axlePulses : ℕ → List ℕ → List Pulse
  | _, [] => []
  | a, nap :: naps => ⟨.first, a⟩ :: ⟨.second, a + nap⟩ :: axlePulses (a + nap) naps

theorem first_axlePulses (naps : List ℕ) :
    ∀ a nap, pulsesOf .first (axlePulses a (nap :: naps)) = a :: laterAxles a (nap :: naps).dropLast := by
  induction naps with
  | nil => exact fun a nap => rfl
  | cons nap' naps ih =>
    intro a nap
    rw [axlePulses, pulsesOf_cons, if_pos rfl, pulsesOf_cons, if_neg (by simp), ih]
    rfl

theorem axlePulses_bounds (naps : List ℕ) :
    ∀ a, ∀ p ∈ axlePulses a naps, a ≤ p.time ∧ p.time ≤ a + naps.sum := by
  induction naps with
  | nil => exact fun a p hp => absurd hp List.not_mem_nil
  | cons nap naps ih =>
    intro a p hp
    rw [List.sum_cons]
    simp only [axlePulses, List.mem_cons] at hp
    rcases hp with rfl | rfl | hp
    · exact ⟨le_rfl, Nat.le_add_right _ _⟩
    · show a ≤ a + nap ∧ a + nap ≤ a + (nap + naps.sum)
      omega
    · have hbounds := ih (a + nap) p hp
      omega

theorem axlePulses_ordered (naps : List ℕ) :
    ∀ a, (axlePulses a naps).Pairwise fun p q => p.time ≤ q.time := by
  induction naps with
  | nil => exact fun a => .nil
  | cons nap naps ih =>
    intro a
    have hlater : ∀ q ∈ axlePulses (a + nap) naps, a + nap ≤ q.time :=
      fun q hq => (axlePulses_bounds naps (a + nap) q hq).1
    rw [axlePulses, List.pairwise_cons, List.pairwise_cons]
    refine ⟨fun q hq => ?_, hlater, ih (a + nap)⟩
    show a ≤ q.time
    rcases List.mem_cons.mp hq with rfl | hq
    · exact Nat.le_add_right a nap
    · exact (Nat.le_add_right a nap).trans (hlater q hq)

variable {slack : ℕ} {e : Emission} {cs : List (Cmd Sensor × ℕ)}

/-- The time from sensor to sensor that is asked for. -/
def Emission.travel (e : Emission) : ℕ := e.travelMs.toInt32.toInt.toNat

theorem axles_performed (travelMs : UInt32) (n : ℕ) :
    ∀ (now : ℕ) (cs : List (Cmd Sensor × ℕ)),
      Performs slack (List.replicate n (emitAxle travelMs)).flatten cs →
      ∃ naps : List ℕ, naps.length = n ∧
        (∀ nap ∈ naps, travelMs.toInt32.toInt.toNat ≤ nap ∧ nap ≤ travelMs.toInt32.toInt.toNat + slack) ∧
        pulsesFrom now cs = axlePulses now naps ∧ finish now cs = now + naps.sum := by
  induction n with
  | zero =>
    intro now cs hperforms
    obtain rfl := performs_nil.mp hperforms
    exact ⟨[], rfl, by simp, rfl, rfl⟩
  | succ n ih =>
    intro now cs hperforms
    rw [List.replicate_succ, List.flatten_cons, performs_append] at hperforms
    obtain ⟨cs₁, cs₂, rfl, h₁, h₂⟩ := hperforms
    simp only [emitAxle, performs_cons, performs_nil] at h₁
    obtain ⟨-, -, rfl, -, late, -, rfl, hlate, -, -, rfl, -, rfl⟩ := h₁
    obtain ⟨naps, hlength, hbounds, hpulses, hfinish⟩ :=
      ih (now + travelMs.toInt32.toInt.toNat + late) cs₂ h₂
    refine ⟨(travelMs.toInt32.toInt.toNat + late) :: naps, by simp [hlength], ?_, ?_, ?_⟩
    · intro nap hnap
      rcases List.mem_cons.mp hnap with rfl | hnap
      · omega
      · exact hbounds nap hnap
    · rw [pulsesFrom_append, axlePulses, ← Nat.add_assoc, ← hpulses]
      rfl
    · rw [finish_append, List.sum_cons, ← Nat.add_assoc, ← Nat.add_assoc, ← hfinish]
      rfl

/-- A performed vehicle: the times of its axles, and the silence behind it. -/
theorem emission_performed (hperforms : Performs slack e.calls cs) (now : ℕ) :
    ∃ naps : List ℕ, naps.length = e.axles.toNat ∧
      (∀ nap ∈ naps, e.travel ≤ nap ∧ nap ≤ e.travel + slack) ∧
      pulsesFrom now cs = axlePulses now naps ∧ now + naps.sum + 1600 ≤ finish now cs := by
  rw [Emission.calls, emitVehicle, performs_append] at hperforms
  obtain ⟨cs', cs₃, rfl, h', h₃⟩ := hperforms
  obtain ⟨cs₁, cs₂, rfl, h₁, h₂⟩ := performs_append.mp h'
  simp only [performs_cons, performs_nil] at h₂ h₃
  obtain ⟨late, -, rfl, -, rfl⟩ := h₂
  obtain ⟨late', -, rfl, -, rfl⟩ := h₃
  obtain ⟨naps, hlength, hbounds, hpulses, hfinish⟩ := axles_performed e.travelMs _ now cs₁ h₁
  refine ⟨naps, hlength, hbounds, ?_, ?_⟩
  · rw [pulsesFrom_append, pulsesFrom_append, hpulses]
    simp [pulsesFrom, stamps, kMsleep]
  · rw [finish_append, finish_append, hfinish]
    show _ ≤ now + naps.sum + 600 + late + 1000 + late'
    omega

/-! ### The window of a vehicle -/

variable {cfg : Config} {undef : Option Int32}

/-- The timeout computed from an elapsed time, where nothing overflows. -/
def timeoutMs (D d : ℕ) : ℕ := 18000 / (36 * D / (10 * d))

theorem timeoutMs_mono {D d d' : ℕ} (hd : 0 < d) (hle : d ≤ d') (hs : 10 * d' ≤ 36 * D) :
    timeoutMs D d ≤ timeoutMs D d' := by
  have hpos : 0 < 36 * D / (10 * d') := Nat.div_pos hs (by omega)
  have hspeed : 36 * D / (10 * d') ≤ 36 * D / (10 * d) :=
    Nat.div_le_div_left (by omega) (by omega)
  exact Nat.div_le_div_left hspeed hpos

/-- The radar can count the vehicle if every sleep is late by `slack` at most: the first axle reaches
sensor 2 within 500 ms, every axle behind the second one comes within the timeout, and this is over when
the next vehicle comes. -/
structure Emission.Fits (cfg : Config) (slack : ℕ) (e : Emission) : Prop where
  two_axles : 2 ≤ e.axles.toNat
  travel_pos : 0 < e.travel
  speed : 10 * (e.travel + slack) ≤ 36 * cfg.sensorDistanceMm.toNat
  sensor2 : e.travel + slack < 500
  close : 3 ≤ e.axles.toNat → e.travel + slack < timeoutMs cfg.sensorDistanceMm.toNat e.travel
  apart : timeoutMs cfg.sensorDistanceMm.toNat (e.travel + slack) ≤ e.travel + 1600

/-- The report of a vehicle whose first axle takes `d` milliseconds from sensor to sensor. -/
def Emission.report (cfg : Config) (e : Emission) (d : ℕ) : RadarDisplayData :=
  cfg.record e.axles.toNat (UInt32.ofNat d) (Int32.ofNat (36 * cfg.sensorDistanceMm.toNat / (10 * d)))

/-- The report has the axles of the vehicle, and a time that is late by `slack` at most. -/
def Emission.Reported (cfg : Config) (slack : ℕ) (e : Emission) (r : RadarDisplayData) : Prop :=
  ∃ d, e.travel ≤ d ∧ d ≤ e.travel + slack ∧ r = e.report cfg d

section

variable {w : Window} {t d : ℕ}

theorem stopTimeout_measured (hD : 36 * cfg.sensorDistanceMm.toNat < 2 ^ 32) (hd : 0 < d)
    (hs : 10 * d ≤ 36 * cfg.sensorDistanceMm.toNat) (ht1 : w.t1 = UInt32.ofNat t)
    (ht2 : w.t2 = some (UInt32.ofNat (t + d))) :
    ∃ T, w.stopTimeout cfg undef = some T ∧ T.toInt.toNat = timeoutMs cfg.sensorDistanceMm.toNat d := by
  obtain ⟨T, hT, htoNat⟩ := stopTimeout_exact hD hd hs
  refine ⟨T, ?_, htoNat⟩
  simp only [Window.stopTimeout, ht2, ht1, elapsed_vehicle, hT]
  rfl

theorem shown_measured (hD : 36 * cfg.sensorDistanceMm.toNat < 2 ^ 32) (hd : 0 < d)
    (hs : 10 * d ≤ 36 * cfg.sensorDistanceMm.toNat) (ht1 : w.t1 = UInt32.ofNat t)
    (ht2 : w.t2 = some (UInt32.ofNat (t + d))) (haxles : w.axles = e.axles.toNat)
    (htwo : 2 ≤ e.axles.toNat) : w.shown cfg undef = [e.report cfg d] := by
  have hone : e.axles ≠ 1 := by
    rintro h
    rw [h] at htwo
    exact absurd htwo (by decide)
  have hspeed := computeSpeedKmh_exact hD hd hs
  have hrecord := @displayData_eq_record cfg e.axles.toNat (by have := e.axles.toNat_lt; omega)
  rw [UInt8.ofNat_toNat] at hrecord
  simp only [Window.shown, ht2, ht1, elapsed_vehicle, haxles, UInt8.ofNat_toNat, if_neg hone, hspeed]
  exact congrArg (fun r => [r]) (hrecord _ _)

end

theorem sum_dropLast {naps : List ℕ} (hne : naps ≠ []) :
    naps.dropLast.sum + naps.getLast hne = naps.sum := by
  conv_rhs => rw [← List.dropLast_append_getLast hne, List.sum_append, List.sum_singleton]

/-- The axles of a vehicle that fits come in time, and the timeout after the last one is over before the
next vehicle. -/
theorem Emission.Fits.spaced (hfits : e.Fits cfg slack) {now nap : ℕ} {naps : List ℕ} {next : Option ℕ}
    (hlength : (nap :: naps).length = e.axles.toNat)
    (hnaps : ∀ n ∈ nap :: naps, e.travel ≤ n ∧ n ≤ e.travel + slack)
    (hnext : ∀ t ∈ next, now + (nap :: naps).sum + 1600 ≤ t) :
    Spaced (timeoutMs cfg.sensorDistanceMm.toNat nap) next (now + 500)
      (laterAxles now (nap :: naps).dropLast) := by
  have htwo := hfits.two_axles
  have hne : naps ≠ [] := by
    rintro rfl
    rw [List.length_singleton] at hlength
    omega
  obtain ⟨hlow, hhigh⟩ := hnaps nap (by simp)
  have hpos := hfits.travel_pos
  have hspeed := hfits.speed
  have hsensor2 := hfits.sensor2
  have hnap : 10 * nap ≤ 36 * cfg.sensorDistanceMm.toNat := by omega
  have hmin := timeoutMs_mono hpos hlow hnap
  have hmax := timeoutMs_mono (hpos.trans_le hlow) hhigh hspeed
  have happart := hfits.apart
  have hlast := hnaps (naps.getLast hne) (List.mem_cons_of_mem nap (List.getLast_mem hne))
  have hsum := sum_dropLast hne
  rw [List.dropLast_cons_of_ne_nil hne]
  refine ⟨show now + nap < now + 500 by omega, spaced_of_close _ _ (fun gap hgap => ?_) fun t ht => ?_⟩
  · -- a third axle
    have hthree : 3 ≤ e.axles.toNat := by
      have hdrop := List.length_pos_of_mem hgap
      rw [List.length_dropLast] at hdrop
      rw [List.length_cons] at hlength
      omega
    have hclose := hfits.close hthree
    have hgap := hnaps gap (List.mem_cons_of_mem nap (List.dropLast_subset naps hgap))
    omega
  · have ht := hnext t ht
    rw [List.sum_cons] at ht
    omega

/-- **One vehicle.** A performed vehicle that fits is one window, and gets its report. -/
theorem sessions_emission (hD : 36 * cfg.sensorDistanceMm.toNat < 2 ^ 32) (hfits : e.Fits cfg slack)
    {now : ℕ} {naps : List ℕ} {rest : List Pulse} (hlength : naps.length = e.axles.toNat)
    (hnaps : ∀ nap ∈ naps, e.travel ≤ nap ∧ nap ≤ e.travel + slack)
    (hrest : ∀ q ∈ rest.head?, q.sensor = .first ∧ now + naps.sum + 1600 ≤ q.time) :
    ∃ w r, (windowCut cfg undef).sessions none (axlePulses now naps ++ rest) =
        w :: (windowCut cfg undef).sessions none rest ∧
      w.stopTimeout cfg undef ≠ none ∧ w.shown cfg undef = [r] ∧ e.Reported cfg slack r := by
  have htwo := hfits.two_axles
  obtain ⟨nap, naps, rfl⟩ : ∃ nap naps', naps = nap :: naps' := by
    cases naps with
    | nil => simp at hlength; omega
    | cons nap naps => exact ⟨nap, naps, rfl⟩
  obtain ⟨hlow, hhigh⟩ := hnaps nap (by simp)
  have hpos := hfits.travel_pos
  have hsensor2 := hfits.sensor2
  have hspeed := hfits.speed
  have hnext : ∀ t ∈ rest.head?.map Pulse.time, now + (nap :: naps).sum + 1600 ≤ t := by
    intro t ht
    obtain ⟨q, hq, rfl⟩ := Option.map_eq_some_iff.mp ht
    exact (hrest q hq).2
  have hspaced := hfits.spaced hlength hnaps hnext
  -- the first two pulses open the window and give it its sensor-2 reading
  rw [axlePulses, List.cons_append, SessionCut.sessions_opened, opened_first rfl, List.cons_append]
  obtain ⟨w₁, hsessions, haxles₁, ht1₁, ht2₁⟩ := @sessions_early cfg undef ⟨.second, now + nap⟩ rfl
    (axlePulses (now + nap) naps ++ rest) [] ⟨(⟨.first, now⟩ : Pulse).event, [], by simp⟩ now [] rfl
    (by simp) rfl (by simp) (by simp; omega)
  rw [List.nil_append] at hsessions
  obtain ⟨T, hT, htimeout⟩ := @stopTimeout_measured cfg undef w₁ now nap hD (by omega) (by omega) ht1₁ ht2₁
  have hdelay : w₁.delay cfg undef = timeoutMs cfg.sensorDistanceMm.toNat nap := by
    rw [Window.delay, hT, Option.getD_some, htimeout]
  -- the others belong to it as they are spaced
  have hfirst := first_axlePulses naps now nap
  rw [axlePulses, pulsesOf_cons, if_pos rfl, pulsesOf_cons, if_neg (by simp), List.cons.injEq] at hfirst
  obtain ⟨w, ws, hrun, ht1, ht2, hiff, htail⟩ := @sessions_seen cfg undef rest _
    (fun q hq => (hrest q hq).1) (axlePulses (now + nap) naps) w₁ (now + ([] : List ℕ).sum + 500) ht2₁
    (axlePulses_ordered naps (now + nap)) fun p hp q hq => by
      have hbound := (axlePulses_bounds naps (now + nap) p hp).2
      have hq := (hrest q hq).2
      rw [List.sum_cons] at hq
      omega
  rw [hdelay, hfirst.2] at hiff htail
  have haxles := hiff.mpr hspaced
  rw [haxles₁, length_laterAxles, List.length_dropLast, hlength] at haxles
  have haxles : w.axles = e.axles.toNat := by
    rw [haxles, Window.axles]
    show 1 + 0 + (e.axles.toNat - 1) = _
    omega
  obtain rfl := htail hspaced
  obtain ⟨T', hT', -⟩ := @stopTimeout_measured cfg undef w now nap hD (by omega) (by omega) (ht1.trans ht1₁) ht2
  refine ⟨w, e.report cfg nap, hsessions.trans hrun, by simp [hT'], ?_, nap, hlow, hhigh, rfl⟩
  exact shown_measured hD (by omega) (by omega) (ht1.trans ht1₁) ht2 haxles htwo

/-! ### All vehicles -/

theorem sessions_emissions (hD : 36 * cfg.sensorDistanceMm.toNat < 2 ^ 32) (es : List Emission) :
    ∀ (now : ℕ) (cs : List (Cmd Sensor × ℕ)), (∀ e ∈ es, e.Fits cfg slack) →
      Performs slack (es.flatMap Emission.calls) cs →
      (∀ q ∈ (pulsesFrom now cs).head?, q.sensor = .first ∧ now ≤ q.time) ∧
        (∀ w ∈ (windowCut cfg undef).sessions none (pulsesFrom now cs), w.stopTimeout cfg undef ≠ none) ∧
        List.Forall₂ (Emission.Reported cfg slack) es
          (((windowCut cfg undef).sessions none (pulsesFrom now cs)).flatMap (Window.shown cfg undef)) := by
  induction es with
  | nil =>
    intro now cs _ hperforms
    obtain rfl := performs_nil.mp hperforms
    exact ⟨fun q hq => absurd hq (Option.not_mem_none q), fun w hw => absurd hw List.not_mem_nil, .nil⟩
  | cons e es ih =>
    intro now cs hfits hperforms
    rw [List.flatMap_cons, performs_append] at hperforms
    obtain ⟨cs₁, cs₂, rfl, h₁, h₂⟩ := hperforms
    obtain ⟨naps, hlength, hnaps, hpulses, hfinish⟩ := emission_performed h₁ now
    obtain ⟨hhead, hmeasured, hreported⟩ := ih (finish now cs₁) cs₂ (fun e he => hfits e (by simp [he])) h₂
    have hrest : ∀ q ∈ (pulsesFrom (finish now cs₁) cs₂).head?,
        q.sensor = .first ∧ now + naps.sum + 1600 ≤ q.time :=
      fun q hq => ⟨(hhead q hq).1, hfinish.trans (hhead q hq).2⟩
    have hfit := hfits e (by simp)
    obtain ⟨w, r, hsessions, hw, hshown, hr⟩ := @sessions_emission slack e cfg undef hD hfit now naps _
      hlength hnaps hrest
    rw [pulsesFrom_append, hpulses, hsessions]
    refine ⟨?_, ?_, ?_⟩
    · cases naps with
      | nil =>
        have htwo := hfit.two_axles
        rw [List.length_nil] at hlength
        omega
      | cons nap naps =>
        rintro q hq
        obtain rfl := Option.some.inj hq
        exact ⟨rfl, le_rfl⟩
    · intro w' hw'
      rcases List.mem_cons.mp hw' with rfl | hw'
      · exact hw
      · exact hmeasured w' hw'
    · rw [List.flatMap_cons, hshown]
      exact .cons hr hreported

/-- Vehicles that fit get one report each, in order, and nothing else is shown. -/
theorem run_emissions (hD : 36 * cfg.sensorDistanceMm.toNat < 2 ^ 32) {es : List Emission}
    (hfits : ∀ e ∈ es, e.Fits cfg slack) (hperforms : Performs slack (es.flatMap Emission.calls) cs)
    (undef : Option Int32) (stack : ℕ → RadarDisplayData) (start : ℕ) :
    ∃ c acts, (clock cfg undef stack).run .start ((pulsesFrom start cs).map .pulse ++ [.quiet]) =
        some (c, acts) ∧
      List.Forall₂ (Emission.Reported cfg slack) es (reports acts) := by
  obtain ⟨-, hmeasured, hreported⟩ := @sessions_emissions slack cfg undef hD es start cs hfits hperforms
  rcases @clock_reports cfg undef stack (pulsesFrom start cs) .start none keeps_start with
    ⟨-, w, hw, hnone⟩ | ⟨c, acts, hrun, hacts⟩
  · exact absurd hnone (hmeasured w hw)
  · exact ⟨c, acts, hrun, hacts ▸ hreported⟩

/-! ### The vehicles of the file -/

instance (cfg : Config) (slack : ℕ) (e : Emission) : Decidable (e.Fits cfg slack) :=
  decidable_of_iff
    (2 ≤ e.axles.toNat ∧ 0 < e.travel ∧ 10 * (e.travel + slack) ≤ 36 * cfg.sensorDistanceMm.toNat ∧
      e.travel + slack < 500 ∧
      (3 ≤ e.axles.toNat → e.travel + slack < timeoutMs cfg.sensorDistanceMm.toNat e.travel) ∧
      timeoutMs cfg.sensorDistanceMm.toNat (e.travel + slack) ≤ e.travel + 1600)
    ⟨fun ⟨h₁, h₂, h₃, h₄, h₅, h₆⟩ => ⟨h₁, h₂, h₃, h₄, h₅, h₆⟩,
      fun ⟨h₁, h₂, h₃, h₄, h₅, h₆⟩ => ⟨h₁, h₂, h₃, h₄, h₅, h₆⟩⟩

theorem Emission.Fits.mono {slack' : ℕ} (h : e.Fits cfg slack') (hle : slack ≤ slack') :
    e.Fits cfg slack where
  two_axles := h.two_axles
  travel_pos := h.travel_pos
  speed := by
    have hspeed := h.speed
    omega
  sensor2 := by
    have hsensor2 := h.sensor2
    omega
  close hthree := by
    have hclose := h.close hthree
    omega
  apart := by
    have hpos := h.travel_pos
    have hmono := timeoutMs_mono (d := e.travel + slack) (by omega) (by omega) h.speed
    exact hmono.trans h.apart

theorem fits_emitted (hslack : slack < 80) (turns : ℕ) : ∀ e ∈ emitted turns, e.Fits .kconfig slack := by
  have hfits : ∀ e ∈ emissions, e.Fits .kconfig 79 := by decide
  intro e he
  obtain ⟨es, hes, he⟩ := List.mem_flatten.mp he
  rw [List.eq_of_mem_replicate hes] at he
  exact (hfits e he).mono (by omega)

/-- The radar shows one report for every vehicle of the simulator, if every sleep is late by `slack` at
most: each has the axles of its vehicle, and a time that is late by no more. -/
def ToleratesLateness (slack : ℕ) : Prop :=
  ∀ (undef : Option Int32) (stack : ℕ → RadarDisplayData) (start turns : ℕ)
    (cs : List (Cmd Sensor × ℕ)), Performs slack (sensorSimThread turns) cs →
    ∃ c acts, (clock .kconfig undef stack).run .start ((pulsesFrom start cs).map .pulse ++ [.quiet]) =
        some (c, acts) ∧
      List.Forall₂ (Emission.Reported .kconfig slack) (emitted turns) (reports acts)

/-- One turn in which the second axle of the last vehicle sleeps 80 ms too long. -/
def lateTurn : List (Cmd Sensor × ℕ) := (sensorSimThread 1).mapIdx fun i c => (c, if i = 50 then 80 else 0)

theorem performs_lateTurn : Performs 80 (sensorSimThread 1) lateTurn := ⟨by decide, by decide⟩

/-- Its third axle comes when the timeout is over: two axles are reported, and the third is noise. -/
theorem run_lateTurn :
    ((clock .kconfig none fun _ => ⟨.light, 0, 0, 0, 0, .normal⟩).run .start
      ((pulsesFrom 0 lateTurn).map .pulse ++ [.quiet])).map (fun r => (reports r.2).map (·.axleCount)) =
        some [2, 2, 2, 3, 3, 2] := by
  decide

theorem reported_axles {es : List Emission} {rs : List RadarDisplayData}
    (h : List.Forall₂ (Emission.Reported cfg slack) es rs) :
    rs.map (·.axleCount) = es.map Emission.axles := by
  induction h with
  | nil => rfl
  | cons hr _ ih =>
    obtain ⟨d, -, -, rfl⟩ := hr
    rw [List.map_cons, List.map_cons, ih, Emission.report, Config.record, UInt8.ofNat_toNat]

/-- **The radar tolerates sleeps that are late by less than 80 ms**, over any number of turns, and no
more. -/
theorem simulator_tolerance (slack : ℕ) : ToleratesLateness slack ↔ slack < 80 := by
  constructor
  · intro h
    by_contra hslack
    obtain ⟨c, acts, hrun, hreported⟩ := h none (fun _ => ⟨.light, 0, 0, 0, 0, .normal⟩) 0 1 lateTurn
      (performs_lateTurn.mono (Nat.not_lt.mp hslack))
    have haxles := run_lateTurn
    rw [hrun, Option.map_some, reported_axles hreported] at haxles
    exact absurd haxles (by decide)
  · intro hslack undef stack start turns cs hperforms
    exact run_emissions (by decide) (fits_emitted hslack turns) hperforms undef stack start

/-! ### Without lateness -/

theorem reported_punctual {es : List Emission} {rs : List RadarDisplayData}
    (h : List.Forall₂ (Emission.Reported cfg 0) es rs) : rs = es.map fun e => e.report cfg e.travel := by
  induction h with
  | nil => rfl
  | cons hr _ ih =>
    obtain ⟨d, hlow, hhigh, rfl⟩ := hr
    rw [List.map_cons, ← ih, Nat.le_antisymm hhigh hlow]
    rfl

/-- **What the radar says of the simulated traffic.** In every turn the vehicles announced as normal are
reported as normal, and all others as infractions: those announced `com atenção` go at 90 and 72 km/h. -/
theorem simulator_verdicts (undef : Option Int32) (stack : ℕ → RadarDisplayData) (start turns : ℕ) :
    ∃ c acts, (clock .kconfig undef stack).run .start
        ((pulsesFrom start (punctual (sensorSimThread turns))).map .pulse ++ [.quiet]) = some (c, acts) ∧
      reports acts = (List.replicate turns
        [⟨.light, 2, 120, 30, 80, .normal⟩, ⟨.light, 2, 40, 90, 80, .infraction⟩,
          ⟨.light, 2, 20, 180, 80, .infraction⟩, ⟨.heavy, 3, 120, 30, 60, .normal⟩,
          ⟨.heavy, 3, 50, 72, 60, .infraction⟩, ⟨.heavy, 3, 20, 180, 60, .infraction⟩]).flatten := by
  obtain ⟨c, acts, hrun, hreported⟩ := run_emissions (by decide) (fits_emitted (by decide) turns)
    (performs_punctual (sensorSimThread turns)) undef stack start
  refine ⟨c, acts, hrun, ?_⟩
  rw [reported_punctual hreported, emitted, List.map_flatten, List.map_replicate]
  congr 2

end Radar
