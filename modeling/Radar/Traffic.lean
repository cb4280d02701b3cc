import Radar.Clock

/-!
# Traffic

Vehicles pass the two sensors one after the other, each at its own constant speed. `windowCut` cuts the
stream of their pulses into windows, and the processing file shows one correct report per vehicle
exactly if every vehicle is one window with a sensor-2 reading (`one_report_per_vehicle_iff`).

The timeout computed from the speed is long enough for one vehicle and too short for two, but it only
comes into force with the first sensor-1 pulse after the first sensor-2 pulse. Up to there the timer runs
with 500 ms, so this is where a vehicle can be cut in two, or taken together with the next one
(`Vehicle.Timely`). The converse counts axles: windows share out the sensor-1 pulses, so if the reports
account for all of them, no window is noise and every window is one vehicle.
-/

namespace Radar

/-- The times at which the axles behind one at `a` reach sensor 1. -/
def laterAxles : ℕ → List ℕ → List ℕ
  | _, [] => []
  | a, gap :: gaps => (a + gap) :: laterAxles (a + gap) gaps

/-- The times of the pulses of one sensor. -/
def pulsesOf (s : Sensor) (ps : List Pulse) : List ℕ :=
  (ps.filter fun p => p.sensor = s).map Pulse.time

/-- A vehicle at constant speed over sensors `D` millimetres apart: its first axle reaches sensor 1 at
`t`, each axle reaches sensor 2 `d` milliseconds after sensor 1, and `gaps` are the times between its
axles. `pulses` are its pulses in the order in which they are processed. -/
structure Vehicle (D : ℕ) where
  t : ℕ
  d : ℕ
  gaps : List ℕ
  pulses : List Pulse
  two_axles : 1 ≤ gaps.length
  axles_le : gaps.length + 1 ≤ 255
  speed : 10 * d ≤ 36 * D
  close : ∀ gap ∈ gaps, gap < 5000 * d / D
  ordered : pulses.Pairwise fun p q => p.time ≤ q.time
  sensor1 : pulsesOf .first pulses = t :: laterAxles t gaps
  sensor2 : pulsesOf .second pulses = (t :: laterAxles t gaps).map fun a => a + d

namespace Vehicle

variable {D : ℕ}

def axles (v : Vehicle D) : ℕ := v.gaps.length + 1

/-- When the last axle reaches sensor 1. -/
def last (v : Vehicle D) : ℕ := v.t + v.gaps.sum

/-- The next vehicle comes after all pulses of this one, and two vehicle lengths behind its last axle. -/
def Before (v v' : Vehicle D) : Prop :=
  (∀ p ∈ v.pulses, p.time ≤ v'.t) ∧ v.last + 10000 * v.d / D ≤ v'.t

/-- The report the vehicle should get, from its axles, its time from sensor to sensor and its speed. -/
def report (cfg : Config) (v : Vehicle D) : RadarDisplayData :=
  cfg.record v.axles (UInt32.ofNat v.d) (Int32.ofNat (36 * D / (10 * v.d)))

/-- How many of its sensor-1 pulses are processed before its first sensor-2 pulse. -/
def early (v : Vehicle D) : ℕ := (v.pulses.takeWhile fun p => p.sensor = .first).length

/-- The 500 ms that the timer is armed with up to the first sensor-2 pulse are enough: the gaps up to
the first sensor-1 pulse after it are shorter, it comes within them itself, and if no sensor-1 pulse
comes after it, they are over when the next vehicle comes. -/
structure Timely (v : Vehicle D) (next : Option ℕ) : Prop where
  gaps : ∀ gap ∈ v.gaps.take v.early, gap < 500
  sensor2 : v.d < (v.gaps.take (v.early - 1)).sum + 500
  next : v.early = v.axles → ∀ t ∈ next, v.last + 500 ≤ t

end Vehicle

/-! ### One window -/

variable {cfg : Config} {undef : Option Int32}

theorem pulsesOf_cons (s : Sensor) (p : Pulse) (ps : List Pulse) :
    pulsesOf s (p :: ps) = if p.sensor = s then p.time :: pulsesOf s ps else pulsesOf s ps := by
  by_cases h : p.sensor = s <;> simp [pulsesOf, h]

theorem pulsesOf_append (s : Sensor) (ps qs : List Pulse) :
    pulsesOf s (ps ++ qs) = pulsesOf s ps ++ pulsesOf s qs := by
  simp [pulsesOf]

theorem mem_pulsesOf {s : Sensor} {ps : List Pulse} {a : ℕ} (h : a ∈ pulsesOf s ps) :
    ∃ p ∈ ps, p.time = a := by
  obtain ⟨p, hp, rfl⟩ := List.mem_map.mp h
  exact ⟨p, List.mem_of_mem_filter hp, rfl⟩

theorem second_of_pulsesOf_nil {ps : List Pulse} (h : pulsesOf .first ps = []) :
    ∀ p ∈ ps, p.sensor = .second := by
  intro p hp
  cases hs : p.sensor with
  | second => rfl
  | first =>
    have hmem : p.time ∈ pulsesOf .first ps :=
      List.mem_map_of_mem (List.mem_filter.mpr ⟨hp, by simp [hs]⟩)
    rw [h] at hmem
    cases hmem

/-- The delay a sensor-1 pulse arms the timer of the window with. -/
def Window.delay (cfg : Config) (undef : Option Int32) (w : Window) : ℕ :=
  ((w.stopTimeout cfg undef).getD 0).toInt.toNat

theorem delay_unseen {w : Window} (h : w.t2 = none) : w.delay cfg undef = 500 := by
  rw [Window.delay, Window.stopTimeout, h]
  rfl

theorem delay_push {w : Window} {p : Pulse} (h : p.sensor = .first ∨ w.t2 ≠ none) :
    (w.push p.event).delay cfg undef = w.delay cfg undef := by
  rw [Window.delay, stopTimeout_push h, Window.delay]

theorem take_first {w : Window} {p : Pulse} (hp : p.sensor = .first) (due : ℕ) :
    (windowCut cfg undef).take (w, due) p = (w.push p.event, p.time + w.delay cfg undef) := by
  simp [SessionCut.take, windowCut, hp, Window.delay]

theorem take_second {w : Window} {p : Pulse} (hp : p.sensor = .second) (due : ℕ) :
    (windowCut cfg undef).take (w, due) p = (w.push p.event, due) := by
  simp [SessionCut.take, windowCut, hp]

theorem axles_push_first {w : Window} {p : Pulse} (hp : p.sensor = .first) :
    (w.push p.event).axles = w.axles + 1 := by
  rw [Window.axles_push, if_pos (p.rise_one.mpr hp)]

theorem axles_push_second {w : Window} {p : Pulse} (hp : p.sensor = .second) :
    (w.push p.event).axles = w.axles := by
  rw [Window.axles_push, if_neg (by simp [hp]), Nat.add_zero]

theorem t2_push_first {w : Window} {p : Pulse} (hp : p.sensor = .first) :
    (w.push p.event).t2 = w.t2 := by
  simp [Window.t2_push, hp]

theorem t2_push_seen {w : Window} {p : Pulse} {t : UInt32} (h : w.t2 = some t) :
    (w.push p.event).t2 = some t := by
  rw [Window.t2_push, h]
  rfl

/-- An axle in time, before the first sensor-2 pulse. -/
theorem sessions_axle {w : Window} {a gap : ℕ} {r : Pulse} (hw : w.t2 = none)
    (hr : r.sensor = .first) (htime : r.time = a + gap) (hgap : gap < 500) (xs : List Pulse) :
    (windowCut cfg undef).sessions (some (w, a + 500)) (r :: xs) =
      (windowCut cfg undef).sessions (some (w.push r.event, a + gap + 500)) xs := by
  have hlt : (windowCut cfg undef).time r < a + 500 := by
    show r.time < a + 500
    omega
  rw [SessionCut.sessions_inTime hlt, take_first hr, delay_unseen hw, htime]

/-- Until the first sensor-2 pulse every sensor-1 pulse gives the window 500 ms more. -/
theorem sessions_early {q : Pulse} (hq : q.sensor = .second) (ys : List Pulse) (gaps : List ℕ) :
    ∀ (w : Window) (a : ℕ) (rs : List Pulse), w.t2 = none → (∀ r ∈ rs, r.sensor = .first) →
      rs.map Pulse.time = laterAxles a gaps → (∀ gap ∈ gaps, gap < 500) →
      q.time < a + gaps.sum + 500 →
      ∃ w', (windowCut cfg undef).sessions (some (w, a + 500)) (rs ++ q :: ys) =
          (windowCut cfg undef).sessions (some (w', a + gaps.sum + 500)) ys ∧
        w'.axles = w.axles + gaps.length ∧ w'.t1 = w.t1 ∧ w'.t2 = some (UInt32.ofNat q.time) := by
  induction gaps with
  | nil =>
    intro w a rs hw _ hrs _ hlt
    obtain rfl := List.map_eq_nil_iff.mp hrs
    refine ⟨w.push q.event, ?_, by simp [axles_push_second hq], rfl, by simp [Window.t2_push, hw, hq]⟩
    rw [List.nil_append, SessionCut.sessions_inTime (by simpa [windowCut] using hlt), take_second hq]
    simp
  | cons gap gaps ih =>
    intro w a rs hw hfirst hrs hgaps hlt
    cases rs with
    | nil => simp [laterAxles] at hrs
    | cons r rs =>
      simp only [List.map_cons, laterAxles, List.cons.injEq] at hrs
      obtain ⟨hr, hrs⟩ := hrs
      have hrfirst := hfirst r (by simp)
      have hgap := hgaps gap (by simp)
      rw [List.sum_cons] at hlt ⊢
      have hw' : (w.push r.event).t2 = none := by rw [t2_push_first hrfirst, hw]
      obtain ⟨w', hsessions, haxles, ht1, ht2⟩ := ih (w.push r.event) (a + gap) rs hw'
        (fun r hr => hfirst r (by simp [hr])) hrs (fun g hg => hgaps g (by simp [hg])) (by omega)
      refine ⟨w', ?_, ?_, ht1, ht2⟩
      · rw [List.cons_append, sessions_axle hw hrfirst hr hgap, hsessions, Nat.add_assoc a gap]
      · rw [haxles, axles_push_first hrfirst, List.length_cons]
        omega

/-- If one of them comes too late, or the sensor-2 pulse does, the window closes without a sensor-2
reading. -/
theorem sessions_early_cut {q : Pulse} (ys : List Pulse) (gaps : List ℕ) :
    ∀ (w : Window) (a : ℕ) (rs : List Pulse), w.t2 = none → (∀ r ∈ rs, r.sensor = .first) →
      rs.map Pulse.time = laterAxles a gaps →
      ¬ ((∀ gap ∈ gaps, gap < 500) ∧ q.time < a + gaps.sum + 500) →
      ∃ w' ws, (windowCut cfg undef).sessions (some (w, a + 500)) (rs ++ q :: ys) = w' :: ws ∧
        w'.t2 = none := by
  induction gaps with
  | nil =>
    intro w a rs hw _ hrs hlate
    obtain rfl := List.map_eq_nil_iff.mp hrs
    have htime : a + 500 ≤ (windowCut cfg undef).time q := by
      show a + 500 ≤ q.time
      simpa using hlate
    exact ⟨w, _, SessionCut.sessions_late htime, hw⟩
  | cons gap gaps ih =>
    intro w a rs hw hfirst hrs hlate
    cases rs with
    | nil => simp [laterAxles] at hrs
    | cons r rs =>
      simp only [List.map_cons, laterAxles, List.cons.injEq] at hrs
      obtain ⟨hr, hrs⟩ := hrs
      have hrfirst := hfirst r (by simp)
      by_cases hgap : gap < 500
      · have hw' : (w.push r.event).t2 = none := by rw [t2_push_first hrfirst, hw]
        have hlate' : ¬ ((∀ g ∈ gaps, g < 500) ∧ q.time < a + gap + gaps.sum + 500) := by
          refine fun hgood => hlate ⟨fun g hg => ?_, ?_⟩
          · rcases List.mem_cons.mp hg with rfl | hg
            · exact hgap
            · exact hgood.1 g hg
          · have hlt := hgood.2
            rw [List.sum_cons]
            omega
        obtain ⟨w', ws, hsessions, ht2⟩ := ih (w.push r.event) (a + gap) rs hw'
          (fun r hr => hfirst r (by simp [hr])) hrs hlate'
        refine ⟨w', ws, ?_, ht2⟩
        rw [List.cons_append, sessions_axle hw hrfirst hr hgap, hsessions]
      · have htime : a + 500 ≤ (windowCut cfg undef).time r := by
          show a + 500 ≤ r.time
          omega
        exact ⟨w, _, SessionCut.sessions_late htime, hw⟩

/-- The times all come before the deadline in force, which each of them puts off, and the last deadline
is over by `next`. -/
def Spaced (delay : ℕ) (next : Option ℕ) : ℕ → List ℕ → Prop
  | due, [] => ∀ t ∈ next, due ≤ t
  | due, a :: as => a < due ∧ Spaced delay next (a + delay) as

/-- Times that are all late are spaced only if there are none. -/
theorem spaced_late {delay due : ℕ} {next : Option ℕ} {as : List ℕ} (has : ∀ a ∈ as, due ≤ a)
    (hnext : ∀ t ∈ next, due ≤ t) : Spaced delay next due as ↔ as = [] := by
  cases as with
  | nil => simpa [Spaced] using hnext
  | cons a as =>
    have ha := has a (by simp)
    simp only [Spaced, reduceCtorEq, iff_false]
    omega

/-- The windows begin with the open window `w`, whose sensor-2 time is `t2`. It ends up with `n` more
axles exactly if `spaced` holds, and then the other windows are those of `rest`. -/
def Completes (cfg : Config) (undef : Option Int32) (rest : List Pulse) (w : Window) (t2 : UInt32)
    (n : ℕ) (spaced : Prop) (windows : List Window) : Prop :=
  ∃ w' ws, windows = w' :: ws ∧ w'.t1 = w.t1 ∧ w'.t2 = some t2 ∧
    (w'.axles = w.axles + n ↔ spaced) ∧ (spaced → ws = (windowCut cfg undef).sessions none rest)

section

variable {rest ps : List Pulse} {w : Window} {due : ℕ} {t2 : UInt32} {p : Pulse}

/-- An open window keeps its times and never loses an axle. -/
theorem sessions_grow (hw : w.t2 = some t2) (due : ℕ) (ps : List Pulse) :
    ∃ w' ws, (windowCut cfg undef).sessions (some (w, due)) ps = w' :: ws ∧
      w'.t1 = w.t1 ∧ w'.t2 = some t2 ∧ w.axles ≤ w'.axles := by
  have hpush : ∀ (w' : Window) (p : Pulse),
      (w'.t1 = w.t1 ∧ w'.t2 = some t2 ∧ w.axles ≤ w'.axles) →
      ((windowCut cfg undef).push w' p).t1 = w.t1 ∧ ((windowCut cfg undef).push w' p).t2 = some t2 ∧
        w.axles ≤ ((windowCut cfg undef).push w' p).axles := by
    intro w' p h
    refine ⟨h.1, t2_push_seen h.2.1, ?_⟩
    show w.axles ≤ (w'.push p.event).axles
    rw [Window.axles_push]
    omega
  exact SessionCut.sessions_head hpush ps (w, due) ⟨rfl, hw, le_rfl⟩

/-- When the pulses of the vehicle are over, its window closes before the next vehicle or takes it in. -/
theorem completes_end (hrest : ∀ q ∈ rest.head?, q.sensor = .first) (hw : w.t2 = some t2) (due : ℕ) :
    Completes cfg undef rest w t2 0 (∀ t ∈ rest.head?.map Pulse.time, due ≤ t)
      ((windowCut cfg undef).sessions (some (w, due)) rest) := by
  cases rest with
  | nil => exact ⟨w, [], rfl, rfl, hw, by simp, fun _ => rfl⟩
  | cons q rest =>
    by_cases htime : q.time < due
    · have hq := hrest q (by simp)
      rw [SessionCut.sessions_inTime (by exact htime), take_first hq]
      obtain ⟨w', ws, hsessions, ht1, ht2, haxles⟩ :=
        @sessions_grow cfg undef (w.push q.event) t2 (t2_push_seen hw) (q.time + w.delay cfg undef) rest
      rw [axles_push_first hq] at haxles
      have hnot : ¬ ∀ t ∈ (q :: rest).head?.map Pulse.time, due ≤ t := by
        simpa using htime
      refine ⟨w', ws, hsessions, ht1, ht2, ?_, fun h => absurd h hnot⟩
      rw [iff_false_right hnot]
      omega
    · rw [SessionCut.sessions_late (by exact Nat.not_lt.mp htime)]
      exact ⟨w, _, rfl, rfl, hw, by simpa using htime, fun _ => rfl⟩

/-- If a pulse of the vehicle comes too late, so do the ones after it: the window is over, and what is
left of the vehicle is ignored if it is sensor-2 pulses only. -/
theorem completes_late (hw : w.t2 = some t2) (htime : due ≤ p.time)
    (hordered : ∀ x ∈ ps, p.time ≤ x.time) (hbefore : ∀ q ∈ rest.head?, p.time ≤ q.time) :
    Completes cfg undef rest w t2 (pulsesOf .first (p :: ps)).length
      (Spaced (w.delay cfg undef) (rest.head?.map Pulse.time) due (pulsesOf .first (p :: ps)))
      ((windowCut cfg undef).sessions (some (w, due)) (p :: ps ++ rest)) := by
  have hlate : ∀ a ∈ pulsesOf .first (p :: ps), due ≤ a := by
    intro a ha
    obtain ⟨x, hx, rfl⟩ := mem_pulsesOf ha
    rcases List.mem_cons.mp hx with rfl | hx
    · exact htime
    · exact htime.trans (hordered x hx)
  have hnext : ∀ t ∈ rest.head?.map Pulse.time, due ≤ t := by
    intro t ht
    obtain ⟨q, hq, rfl⟩ := Option.map_eq_some_iff.mp ht
    exact htime.trans (hbefore q hq)
  rw [spaced_late hlate hnext, List.cons_append, SessionCut.sessions_late (by exact htime)]
  refine ⟨w, _, rfl, rfl, hw, ?_, fun hnil => ?_⟩
  · rw [← List.length_eq_zero_iff]
    omega
  · have hsecond : ∀ x ∈ p :: ps, (windowCut cfg undef).opens x = none :=
      fun x hx => opens_second (second_of_pulsesOf_nil hnil x hx)
    exact SessionCut.sessions_ignored hsecond

/-- **The rest of a vehicle once its sensor-2 reading is there.** Its window ends up with all its
sensor-1 pulses and no others exactly if these are spaced. -/
theorem sessions_seen (hrest : ∀ q ∈ rest.head?, q.sensor = .first) (ps : List Pulse) :
    ∀ (w : Window) (due : ℕ), w.t2 = some t2 → ps.Pairwise (fun p q => p.time ≤ q.time) →
      (∀ p ∈ ps, ∀ q ∈ rest.head?, p.time ≤ q.time) →
      Completes cfg undef rest w t2 (pulsesOf .first ps).length
        (Spaced (w.delay cfg undef) (rest.head?.map Pulse.time) due (pulsesOf .first ps))
        ((windowCut cfg undef).sessions (some (w, due)) (ps ++ rest)) := by
  induction ps with
  | nil => exact fun w due hw _ _ => completes_end hrest hw due
  | cons p ps ih =>
    intro w due hw hordered hbefore
    obtain ⟨hp, hordered⟩ := List.pairwise_cons.mp hordered
    by_cases htime : p.time < due
    · have hbefore' : ∀ x ∈ ps, ∀ q ∈ rest.head?, x.time ≤ q.time :=
        fun x hx => hbefore x (by simp [hx])
      rw [List.cons_append, SessionCut.sessions_inTime (by exact htime), pulsesOf_cons]
      cases hs : p.sensor with
      | first =>
        obtain ⟨w', ws, hsessions, ht1, ht2, hiff, htail⟩ :=
          ih (w.push p.event) (p.time + w.delay cfg undef) (t2_push_seen hw) hordered hbefore'
        rw [delay_push (Or.inl hs)] at hiff htail
        rw [if_pos rfl, take_first hs, Spaced, List.length_cons]
        refine ⟨w', ws, hsessions, ht1, ht2, ?_, fun h => htail h.2⟩
        rw [← Nat.add_assoc, Nat.add_right_comm, ← axles_push_first hs, hiff]
        simp [htime]
      | second =>
        obtain ⟨w', ws, hsessions, ht1, ht2, hiff, htail⟩ :=
          ih (w.push p.event) due (t2_push_seen hw) hordered hbefore'
        rw [delay_push (Or.inr (by simp [hw]))] at hiff htail
        rw [axles_push_second hs] at hiff
        rw [if_neg (by decide), take_second hs]
        exact ⟨w', ws, hsessions, ht1, ht2, hiff, htail⟩
    · exact completes_late hw (Nat.not_lt.mp htime) hp (hbefore p (by simp))

end

/-! ### One vehicle -/

theorem laterAxles_append (l₁ : List ℕ) {l₂ : List ℕ} :
    ∀ {a : ℕ} {gaps : List ℕ}, l₁ ++ l₂ = laterAxles a gaps →
      l₁ = laterAxles a (gaps.take l₁.length) ∧
        l₂ = laterAxles (a + (gaps.take l₁.length).sum) (gaps.drop l₁.length) := by
  induction l₁ with
  | nil => exact fun h => ⟨rfl, h⟩
  | cons b l₁ ih =>
    intro a gaps h
    cases gaps with
    | nil => simp [laterAxles] at h
    | cons gap gaps =>
      simp only [List.cons_append, laterAxles, List.cons.injEq] at h
      obtain ⟨rfl, h⟩ := h
      obtain ⟨h₁, h₂⟩ := ih h
      simp only [List.length_cons, List.take_succ_cons, List.drop_succ_cons, laterAxles,
        List.sum_cons, ← Nat.add_assoc]
      exact ⟨by rw [← h₁], h₂⟩

theorem length_laterAxles (gaps : List ℕ) : ∀ a, (laterAxles a gaps).length = gaps.length := by
  induction gaps with
  | nil => exact fun _ => rfl
  | cons gap gaps ih =>
    intro a
    simp [laterAxles, ih]

theorem spaced_of_close {delay : ℕ} {next : Option ℕ} (gaps : List ℕ) :
    ∀ a, (∀ gap ∈ gaps, gap < delay) → (∀ t ∈ next, a + gaps.sum + delay ≤ t) →
      Spaced delay next (a + delay) (laterAxles a gaps) := by
  induction gaps with
  | nil => exact fun a _ hnext => hnext
  | cons gap gaps ih =>
    intro a hgaps hnext
    have hgap := hgaps gap (by simp)
    refine ⟨by omega, ih (a + gap) (fun g hg => hgaps g (by simp [hg])) fun t ht => ?_⟩
    have ht := hnext t ht
    rw [List.sum_cons] at ht
    omega

namespace Vehicle

variable {D : ℕ}

theorem d_pos (v : Vehicle D) : 0 < v.d := by
  obtain ⟨gap, gaps, hgaps⟩ := List.exists_cons_of_length_pos v.two_axles
  have hclose := v.close gap (by simp [hgaps])
  by_contra hd
  rw [Nat.eq_zero_of_not_pos hd, Nat.mul_zero, Nat.zero_div] at hclose
  omega

/-- The pulses of a vehicle: those of sensor 1 up to its first sensor-2 pulse, which comes `d` after the
first of them, and the others. -/
structure Split (v : Vehicle D) (p : Pulse) (rs : List Pulse) (q : Pulse) (post : List Pulse) :
    Prop where
  pulses : v.pulses = p :: (rs ++ q :: post)
  early : v.early = rs.length + 1
  le : rs.length ≤ v.gaps.length
  first : p.sensor = .first ∧ p.time = v.t
  run : (∀ r ∈ rs, r.sensor = .first) ∧ rs.map Pulse.time = laterAxles v.t (v.gaps.take rs.length)
  second : q.sensor = .second ∧ q.time = v.t + v.d
  later : pulsesOf .first post =
    laterAxles (v.t + (v.gaps.take rs.length).sum) (v.gaps.drop rs.length)

theorem exists_split (v : Vehicle D) : ∃ p rs q post, v.Split p rs q post := by
  have hsplit : v.pulses = (v.pulses.takeWhile fun p => p.sensor = .first) ++
      v.pulses.dropWhile fun p => p.sensor = .first := List.takeWhile_append_dropWhile.symm
  have hfirst : ∀ r ∈ v.pulses.takeWhile fun p => p.sensor = .first, r.sensor = .first :=
    fun r hr => of_decide_eq_true (List.all_eq_true.mp List.all_takeWhile r hr)
  have hdrop := List.head?_dropWhile_not (fun p : Pulse => decide (p.sensor = .first)) v.pulses
  have hearly : v.early = (v.pulses.takeWhile fun p => p.sensor = .first).length := rfl
  generalize v.pulses.takeWhile (fun p => p.sensor = .first) = pre at hsplit hfirst hearly
  generalize v.pulses.dropWhile (fun p => p.sensor = .first) = tail at hsplit hdrop
  have hpre1 : pulsesOf .first pre = pre.map Pulse.time := by
    rw [pulsesOf, List.filter_eq_self.mpr (by simpa using hfirst)]
  have hpre2 : pulsesOf .second pre = [] := by
    rw [pulsesOf, List.filter_eq_nil_iff.mpr (fun r hr => by simp [hfirst r hr]), List.map_nil]
  have h1 := v.sensor1
  have h2 := v.sensor2
  rw [hsplit, pulsesOf_append] at h1 h2
  rw [hpre1] at h1
  rw [hpre2, List.nil_append] at h2
  cases tail with
  | nil => simp [pulsesOf] at h2
  | cons q post =>
    have hq : q.sensor = .second := by
      cases hs : q.sensor with
      | first => simp [hs] at hdrop
      | second => rfl
    simp only [pulsesOf_cons, hq, if_true, List.map_cons, List.cons.injEq] at h2
    rw [pulsesOf_cons, if_neg (by simp [hq])] at h1
    cases pre with
    | nil =>
      -- the first sensor-2 pulse cannot come before the first axle
      exfalso
      rw [List.map_nil, List.nil_append] at h1
      obtain ⟨x, hx, hxt⟩ := mem_pulsesOf (show v.t ∈ pulsesOf .first post by simp [h1])
      have hordered := v.ordered
      rw [hsplit, List.nil_append, List.pairwise_cons] at hordered
      have hle := hordered.1 x hx
      have hd := v.d_pos
      omega
    | cons p rs =>
      simp only [List.map_cons, List.cons_append, List.cons.injEq] at h1
      obtain ⟨hp, h1⟩ := h1
      obtain ⟨hrs, hpost⟩ := laterAxles_append _ h1
      rw [List.length_map] at hrs hpost
      have hlen := congrArg List.length hrs
      rw [length_laterAxles, List.length_map, List.length_take] at hlen
      exact ⟨p, rs, q, post, hsplit, hearly, by omega, ⟨hfirst p (by simp), hp⟩,
        ⟨fun r hr => hfirst r (by simp [hr]), hrs⟩, ⟨hq, h2.1⟩, hpost⟩

/-- The timeout computed from the speed of the vehicle. -/
def timeout (v : Vehicle D) : ℕ := 18000 / (36 * D / (10 * v.d))

theorem close_timeout (v : Vehicle D) : ∀ gap ∈ v.gaps, gap < v.timeout :=
  fun gap hgap => (v.close gap hgap).trans_le (timeout_covers v.d_pos v.speed).1

/-- The computed timeout is over before a vehicle that keeps its distance comes. -/
theorem timeout_over (v : Vehicle D) {t : ℕ} (h : v.last + 10000 * v.d / D ≤ t) :
    v.last + v.timeout ≤ t := by
  have hD : 0 < D := by
    have hd := v.d_pos
    have hspeed := v.speed
    omega
  have hcovers := (timeout_covers v.d_pos v.speed).2
  have hle : v.timeout ≤ 10000 * v.d / D := by
    rw [Nat.le_div_iff_mul_le hD, Nat.mul_comm]
    exact hcovers.le
  omega

variable {v : Vehicle D} {p q : Pulse} {rs post : List Pulse} {next : Option ℕ}

/-- The pulses up to the first sensor-2 pulse come in time. -/
def Split.EarlyInTime (_ : v.Split p rs q post) : Prop :=
  (∀ gap ∈ v.gaps.take rs.length, gap < 500) ∧
    q.time < v.t + (v.gaps.take rs.length).sum + 500

/-- With every axle before the first sensor-2 pulse, 500 ms have to pass before the next vehicle. -/
theorem Split.timely_of_all_early (h : v.Split p rs q post) (hdrop : v.gaps.drop rs.length = []) :
    v.Timely next ↔ h.EarlyInTime ∧ ∀ t ∈ next, v.last + 500 ≤ t := by
  have hall : v.gaps.take rs.length = v.gaps :=
    List.take_of_length_le (List.drop_eq_nil_iff.mp hdrop)
  have hlen := congrArg List.length hall
  rw [List.length_take] at hlen
  have hle := h.le
  unfold EarlyInTime
  rw [hall, h.second.2]
  constructor
  · intro ht
    have h1 := ht.gaps
    have h2 := ht.sensor2
    rw [h.early, List.take_of_length_le (by omega)] at h1
    rw [h.early, Nat.add_sub_cancel, hall] at h2
    exact ⟨⟨h1, by omega⟩, ht.next (by rw [h.early, Vehicle.axles]; omega)⟩
  · rintro ⟨⟨h1, h2⟩, h3⟩
    refine ⟨fun gap hgap => h1 gap (List.mem_of_mem_take hgap), ?_, fun _ => h3⟩
    rw [h.early, Nat.add_sub_cancel, hall]
    omega

/-- With an axle after it, that axle has to come within 500 ms of the one before. -/
theorem Split.timely_of_later (h : v.Split p rs q post) {gap : ℕ} {gaps : List ℕ}
    (hdrop : v.gaps.drop rs.length = gap :: gaps) :
    v.Timely next ↔ h.EarlyInTime ∧ gap < 500 := by
  have hget : v.gaps[rs.length]? = some gap := by rw [← List.head?_drop, hdrop]; rfl
  have hlen : rs.length < v.gaps.length := (List.getElem?_eq_some_iff.mp hget).1
  have htake : v.gaps.take (rs.length + 1) = v.gaps.take rs.length ++ [gap] := by
    rw [List.take_add_one, hget]
    rfl
  unfold EarlyInTime
  rw [h.second.2]
  constructor
  · intro ht
    have h1 := ht.gaps
    have h2 := ht.sensor2
    rw [h.early, htake] at h1
    rw [h.early, Nat.add_sub_cancel] at h2
    exact ⟨⟨fun g hg => h1 g (by simp [hg]), by omega⟩, h1 gap (by simp)⟩
  · rintro ⟨⟨h1, h2⟩, hgap⟩
    refine ⟨?_, ?_, ?_⟩
    · rw [h.early, htake]
      intro g hg
      rcases List.mem_append.mp hg with hg | hg
      · exact h1 g hg
      · rw [List.mem_singleton.mp hg]
        exact hgap
    · rw [h.early, Nat.add_sub_cancel]
      omega
    · intro hall
      rw [h.early, Vehicle.axles] at hall
      omega

/-- The vehicle is timely if its early pulses are in time and the later ones are spaced. -/
theorem Split.timely_iff (h : v.Split p rs q post) (hnext : ∀ t ∈ next, v.last + v.timeout ≤ t) :
    v.Timely next ↔ h.EarlyInTime ∧
      Spaced v.timeout next (v.t + (v.gaps.take rs.length).sum + 500) (pulsesOf .first post) := by
  have hsum : (v.gaps.take rs.length).sum + (v.gaps.drop rs.length).sum = v.gaps.sum := by
    rw [← List.sum_append, List.take_append_drop]
  have hlast : v.last = v.t + v.gaps.sum := rfl
  rw [h.later]
  cases hdrop : v.gaps.drop rs.length with
  | nil =>
    rw [hdrop, List.sum_nil, Nat.add_zero] at hsum
    rw [h.timely_of_all_early hdrop, laterAxles, Spaced, hsum, hlast]
  | cons gap gaps =>
    have hclose : ∀ g ∈ gaps, g < v.timeout := fun g hg =>
      v.close_timeout g (List.mem_of_mem_drop (hdrop ▸ List.mem_cons_of_mem gap hg))
    have hspaced : Spaced v.timeout next (v.t + (v.gaps.take rs.length).sum + gap + v.timeout)
        (laterAxles (v.t + (v.gaps.take rs.length).sum + gap) gaps) := by
      refine spaced_of_close gaps _ hclose fun t ht => ?_
      have ht := hnext t ht
      rw [hdrop, List.sum_cons] at hsum
      omega
    rw [h.timely_of_later hdrop, laterAxles, Spaced]
    exact and_congr_right fun _ => ⟨fun hgap => ⟨by omega, hspaced⟩, fun hgap => by omega⟩

end Vehicle

/-- The pulses of a vehicle begin with its first axle on sensor 1. -/
theorem Vehicle.head?_pulses {D : ℕ} (v : Vehicle D) : v.pulses.head? = some ⟨.first, v.t⟩ := by
  obtain ⟨p, rs, q, post, h⟩ := v.exists_split
  rw [h.pulses, List.head?_cons, ← h.first.1, ← h.first.2]

section

variable {v : Vehicle cfg.sensorDistanceMm.toNat} {w : Window}

theorem elapsed_vehicle (t d : ℕ) : UInt32.ofNat (t + d) - UInt32.ofNat t = UInt32.ofNat d := by
  rw [Nat.add_comm, UInt32.ofNat_add, UInt32.add_sub_cancel]

theorem stopTimeout_vehicle (hD : 36 * cfg.sensorDistanceMm.toNat < 2 ^ 32)
    (ht1 : w.t1 = UInt32.ofNat v.t) (ht2 : w.t2 = some (UInt32.ofNat (v.t + v.d))) :
    ∃ t, w.stopTimeout cfg undef = some t ∧ t.toInt.toNat = v.timeout := by
  obtain ⟨t, ht, htoNat⟩ := stopTimeout_exact hD v.d_pos v.speed
  refine ⟨t, ?_, htoNat⟩
  simp only [Window.stopTimeout, ht2, ht1, elapsed_vehicle, ht]
  rfl

theorem delay_vehicle (hD : 36 * cfg.sensorDistanceMm.toNat < 2 ^ 32)
    (ht1 : w.t1 = UInt32.ofNat v.t) (ht2 : w.t2 = some (UInt32.ofNat (v.t + v.d))) :
    w.delay cfg undef = v.timeout := by
  obtain ⟨t, ht, htoNat⟩ := @stopTimeout_vehicle cfg undef v w hD ht1 ht2
  rw [Window.delay, ht, Option.getD_some, htoNat]

/-- The window of a vehicle shows its report. -/
theorem shown_vehicle (hD : 36 * cfg.sensorDistanceMm.toNat < 2 ^ 32) (haxles : w.axles = v.axles)
    (ht1 : w.t1 = UInt32.ofNat v.t) (ht2 : w.t2 = some (UInt32.ofNat (v.t + v.d))) :
    w.shown cfg undef = [v.report cfg] := by
  have hle : v.axles ≤ 255 := v.axles_le
  have htwo : 2 ≤ v.axles := Nat.succ_le_succ v.two_axles
  have hone : UInt8.ofNat v.axles ≠ 1 := by
    rw [Ne, ofNat_axles_eq_one hle]
    omega
  have hspeed := computeSpeedKmh_exact hD v.d_pos v.speed
  simp only [Window.shown, ht2, ht1, elapsed_vehicle, haxles, if_neg hone, hspeed]
  simp [Vehicle.report, displayData_eq_record hle]

/-- **One vehicle.** The first window of a stream that begins with a vehicle has all its sensor-1 pulses
and no others, and a sensor-2 reading, exactly if the vehicle is timely. -/
theorem sessions_vehicle (v : Vehicle cfg.sensorDistanceMm.toNat)
    (hD : 36 * cfg.sensorDistanceMm.toNat < 2 ^ 32) {rest : List Pulse}
    (hfirst : ∀ q ∈ rest.head?, q.sensor = .first)
    (hafter : ∀ q ∈ rest.head?, ∀ p ∈ v.pulses, p.time ≤ q.time)
    (hnext : ∀ t ∈ rest.head?.map Pulse.time, v.last + v.timeout ≤ t) :
    ∃ w ws, (windowCut cfg undef).sessions none (v.pulses ++ rest) = w :: ws ∧
      (w.axles = v.axles ∧ w.t2 ≠ none → v.Timely (rest.head?.map Pulse.time)) ∧
      (v.Timely (rest.head?.map Pulse.time) →
        w.axles = v.axles ∧ w.t1 = UInt32.ofNat v.t ∧ w.t2 = some (UInt32.ofNat (v.t + v.d)) ∧
          ws = (windowCut cfg undef).sessions none rest) := by
  obtain ⟨p, rs, q, post, h⟩ := v.exists_split
  obtain ⟨hp, hpt⟩ := h.first
  obtain ⟨hrs, hrst⟩ := h.run
  obtain ⟨hq, hqt⟩ := h.second
  have hopened := @opened_first cfg undef p hp
  rw [hpt] at hopened
  have ht2 : (⟨p.event, [], p.rise_one.mpr hp⟩ : Window).t2 = none := rfl
  have ht1 : (⟨p.event, [], p.rise_one.mpr hp⟩ : Window).t1 = UInt32.ofNat v.t := by
    rw [← hpt]
    rfl
  have haxles : (⟨p.event, [], p.rise_one.mpr hp⟩ : Window).axles = 1 := rfl
  rw [h.pulses, List.cons_append, SessionCut.sessions_opened, hopened, List.append_assoc,
    List.cons_append, h.timely_iff hnext]
  generalize (⟨p.event, [], p.rise_one.mpr hp⟩ : Window) = w₀ at *
  by_cases hearly : h.EarlyInTime
  · obtain ⟨w₁, hsessions, haxles₁, ht1₁, ht2₁⟩ := @sessions_early cfg undef q hq (post ++ rest)
      (v.gaps.take rs.length) w₀ v.t rs ht2 hrs hrst hearly.1 hearly.2
    have hordered := v.ordered
    rw [h.pulses, List.pairwise_cons, List.pairwise_append, List.pairwise_cons] at hordered
    have hmem : ∀ x ∈ post, x ∈ v.pulses := fun x hx => by simp [h.pulses, hx]
    obtain ⟨w, ws, hrest, ht1', ht2', hiff, htail⟩ := @sessions_seen cfg undef rest _ hfirst post w₁
      (v.t + (v.gaps.take rs.length).sum + 500) ht2₁ hordered.2.2.1.2
      fun x hx y hy => hafter y hy x (hmem x hx)
    rw [hqt] at ht2' ht2₁
    rw [delay_vehicle hD (ht1₁.trans ht1) ht2₁] at hiff htail
    have hcount : w₁.axles + (pulsesOf .first post).length = v.axles := by
      have hlen := congrArg List.length (List.take_append_drop rs.length v.gaps)
      rw [List.length_append] at hlen
      rw [haxles₁, haxles, h.later, length_laterAxles, Vehicle.axles]
      omega
    rw [hcount] at hiff
    refine ⟨w, ws, hsessions.trans hrest, fun hw => ⟨hearly, hiff.mp hw.1⟩, fun ht => ?_⟩
    exact ⟨hiff.mpr ht.2, ht1'.trans (ht1₁.trans ht1), ht2', htail ht.2⟩
  · obtain ⟨w, ws, hsessions, hnone⟩ := @sessions_early_cut cfg undef q (post ++ rest)
      (v.gaps.take rs.length) w₀ v.t rs ht2 hrs hrst hearly
    exact ⟨w, ws, hsessions, fun hw => absurd hnone hw.2, fun ht => absurd ht.1 hearly⟩

end

/-! ### All vehicles -/

/-- Vehicles one after the other over the sensors of a configuration. -/
structure Traffic (cfg : Config) where
  vehicles : List (Vehicle cfg.sensorDistanceMm.toNat)
  separated : vehicles.IsChain Vehicle.Before
  noOverflow : 36 * cfg.sensorDistanceMm.toNat < 2 ^ 32

def Traffic.pulses (s : Traffic cfg) : List Pulse := s.vehicles.flatMap Vehicle.pulses

/-- The run over the traffic, with the timer after it, shows the report of every vehicle, in order, and
nothing else. -/
def Traffic.OneReportEach (s : Traffic cfg) (undef : Option Int32) (stack : ℕ → RadarDisplayData) :
    Prop :=
  ∃ c acts, (clock cfg undef stack).run .start (s.pulses.map .pulse ++ [.quiet]) = some (c, acts) ∧
    reports acts = s.vehicles.map (Vehicle.report cfg)

/-- Every vehicle is timely, given when the next one comes. -/
def AllTimely {D : ℕ} : List (Vehicle D) → Prop
  | [] => True
  | v :: vs => v.Timely (vs.head?.map Vehicle.t) ∧ AllTimely vs

theorem head?_pulses {D : ℕ} (vs : List (Vehicle D)) :
    (vs.flatMap Vehicle.pulses).head? = vs.head?.map fun v => ⟨.first, v.t⟩ := by
  cases vs with
  | nil => rfl
  | cons v vs =>
    rw [List.flatMap_cons, List.head?_append, v.head?_pulses]
    rfl

/-- `sessions_vehicle` for the first of several vehicles. -/
theorem sessions_traffic (hD : 36 * cfg.sensorDistanceMm.toNat < 2 ^ 32)
    {v : Vehicle cfg.sensorDistanceMm.toNat} {vs : List (Vehicle cfg.sensorDistanceMm.toNat)}
    (hchain : (v :: vs).IsChain Vehicle.Before) :
    ∃ w ws, (windowCut cfg undef).sessions none ((v :: vs).flatMap Vehicle.pulses) = w :: ws ∧
      (w.axles = v.axles ∧ w.t2 ≠ none → v.Timely (vs.head?.map Vehicle.t)) ∧
      (v.Timely (vs.head?.map Vehicle.t) →
        w.axles = v.axles ∧ w.t1 = UInt32.ofNat v.t ∧ w.t2 = some (UInt32.ofNat (v.t + v.d)) ∧
          ws = (windowCut cfg undef).sessions none (vs.flatMap Vehicle.pulses)) := by
  have hhead := head?_pulses vs
  have hnext : (vs.flatMap Vehicle.pulses).head?.map Pulse.time = vs.head?.map Vehicle.t := by
    rw [hhead, Option.map_map]
    rfl
  rw [← hnext, List.flatMap_cons]
  have hbefore : ∀ v' ∈ vs.head?, v.Before v' := fun v' hv' => by
    cases vs with
    | nil => cases hv'
    | cons u us =>
      obtain rfl := Option.some.inj hv'
      exact (List.isChain_cons_cons.mp hchain).1
  apply sessions_vehicle v hD
  · intro q hq
    rw [hhead] at hq
    obtain ⟨v', -, rfl⟩ := Option.map_eq_some_iff.mp hq
    rfl
  · intro q hq
    rw [hhead] at hq
    obtain ⟨v', hv', rfl⟩ := Option.map_eq_some_iff.mp hq
    exact (hbefore v' hv').1
  · intro t ht
    rw [hnext] at ht
    obtain ⟨v', hv', rfl⟩ := Option.map_eq_some_iff.mp ht
    exact v.timeout_over (hbefore v' hv').2

theorem reports_of_timely (hD : 36 * cfg.sensorDistanceMm.toNat < 2 ^ 32)
    {vs : List (Vehicle cfg.sensorDistanceMm.toNat)} (hchain : vs.IsChain Vehicle.Before)
    (htimely : AllTimely vs) :
    (∀ w ∈ (windowCut cfg undef).sessions none (vs.flatMap Vehicle.pulses),
        w.stopTimeout cfg undef ≠ none) ∧
      ((windowCut cfg undef).sessions none (vs.flatMap Vehicle.pulses)).flatMap
        (Window.shown cfg undef) = vs.map (Vehicle.report cfg) := by
  induction vs with
  | nil => simp [SessionCut.sessions]
  | cons v vs ih =>
    obtain ⟨w, ws, hsessions, -, htail⟩ := @sessions_traffic cfg undef hD v vs hchain
    obtain ⟨haxles, ht1, ht2, rfl⟩ := htail htimely.1
    obtain ⟨hmeasured, hshown⟩ := ih hchain.of_cons htimely.2
    rw [hsessions]
    constructor
    · intro w' hw'
      rcases List.mem_cons.mp hw' with rfl | hw'
      · obtain ⟨t, ht, -⟩ := @stopTimeout_vehicle cfg undef v w' hD ht1 ht2
        simp [ht]
      · exact hmeasured w' hw'
    · rw [List.flatMap_cons, shown_vehicle hD haxles ht1 ht2, hshown]
      rfl

/-! ### Counting axles -/

/-- The axles that a list of reports accounts for. -/
def countedAxles (rs : List RadarDisplayData) : ℕ := (rs.map fun r => r.axleCount.toNat).sum

/-- A window accounts for no more axles than it has. -/
theorem shown_cases (w : Window) :
    w.shown cfg undef = [] ∨
      ∃ r, w.shown cfg undef = [r] ∧ w.t2 ≠ none ∧ r.axleCount = UInt8.ofNat w.axles := by
  unfold Window.shown
  cases ht : w.t2 with
  | none => exact Or.inl rfl
  | some t =>
    by_cases hone : UInt8.ofNat w.axles = 1
    · exact Or.inl (by simp [hone])
    · simp only [if_neg hone]
      cases computeSpeedKmh cfg.sensorDistanceMm (t - w.t1) <|> undef with
      | none => exact Or.inl rfl
      | some s => exact Or.inr ⟨_, rfl, by simp, rfl⟩

theorem countedAxles_shown (w : Window) : countedAxles (w.shown cfg undef) ≤ w.axles := by
  rcases @shown_cases cfg undef w with hnil | ⟨r, hr, -, haxles⟩
  · simp [hnil, countedAxles]
  · rw [hr, countedAxles, List.map_singleton, List.sum_singleton, haxles]
    exact Nat.mod_le _ _

theorem countedAxles_append (rs rs' : List RadarDisplayData) :
    countedAxles (rs ++ rs') = countedAxles rs + countedAxles rs' := by
  simp [countedAxles]

theorem countedAxles_windows (ws : List Window) :
    countedAxles (ws.flatMap (Window.shown cfg undef)) ≤ (ws.map Window.axles).sum := by
  induction ws with
  | nil => exact le_rfl
  | cons w ws ih =>
    rw [List.flatMap_cons, countedAxles_append, List.map_cons, List.sum_cons]
    exact Nat.add_le_add (countedAxles_shown w) ih

theorem countedAxles_report {D : ℕ} (cfg : Config) (v : Vehicle D) :
    countedAxles [v.report cfg] = v.axles := by
  have hle : v.axles ≤ 255 := v.axles_le
  rw [countedAxles, List.map_singleton, List.sum_singleton, Vehicle.report]
  exact UInt8.toNat_ofNat_of_lt' (by simp [UInt8.size]; omega)

theorem countedAxles_reports {D : ℕ} (cfg : Config) (vs : List (Vehicle D)) :
    countedAxles (vs.map (Vehicle.report cfg)) = (vs.map Vehicle.axles).sum := by
  induction vs with
  | nil => rfl
  | cons v vs ih =>
    rw [List.map_cons, ← List.singleton_append, countedAxles_append, countedAxles_report, ih,
      List.map_cons, List.sum_cons]

/-- What a pulse adds to the axles of the window it falls into. -/
def Pulse.axles (p : Pulse) : ℕ := if p.sensor = .first then 1 else 0

theorem sum_pulse_axles (ps : List Pulse) :
    (ps.map Pulse.axles).sum = (pulsesOf .first ps).length := by
  induction ps with
  | nil => rfl
  | cons p ps ih =>
    rw [List.map_cons, List.sum_cons, ih, pulsesOf_cons, Pulse.axles]
    by_cases hp : p.sensor = .first
    · simp [hp, Nat.add_comm]
    · simp [hp]

/-- The windows of a stream share out its sensor-1 pulses. -/
theorem sum_axles (ps : List Pulse) :
    (((windowCut cfg undef).sessions none ps).map Window.axles).sum =
      (pulsesOf .first ps).length := by
  have hopen : ∀ p, SessionCut.openSize Window.axles ((windowCut cfg undef).opened p) = p.axles := by
    intro p
    cases hp : p.sensor with
    | first =>
      rw [opened_first hp, Pulse.axles, if_pos hp]
      rfl
    | second =>
      rw [SessionCut.opened, opens_second hp, Pulse.axles, if_neg (by simp [hp])]
      rfl
  have hpush : ∀ w p, ((windowCut cfg undef).push w p).axles = w.axles + p.axles := by
    intro w p
    show (w.push p.event).axles = _
    simp only [Window.axles_push, Pulse.rise_one, Pulse.axles]
  rw [SessionCut.sum_sessions hopen hpush, sum_pulse_axles]
  exact Nat.zero_add _

theorem length_pulses {D : ℕ} (vs : List (Vehicle D)) :
    (pulsesOf .first (vs.flatMap Vehicle.pulses)).length = (vs.map Vehicle.axles).sum := by
  induction vs with
  | nil => rfl
  | cons v vs ih =>
    rw [List.flatMap_cons, pulsesOf_append, List.length_append, ih, v.sensor1, List.length_cons,
      length_laterAxles, List.map_cons, List.sum_cons, Vehicle.axles]

theorem timely_of_reports (hD : 36 * cfg.sensorDistanceMm.toNat < 2 ^ 32)
    {vs : List (Vehicle cfg.sensorDistanceMm.toNat)} (hchain : vs.IsChain Vehicle.Before)
    (hreports : ((windowCut cfg undef).sessions none (vs.flatMap Vehicle.pulses)).flatMap
      (Window.shown cfg undef) = vs.map (Vehicle.report cfg)) : AllTimely vs := by
  induction vs with
  | nil => trivial
  | cons v vs ih =>
    obtain ⟨w, ws, hsessions, hvehicle, htail⟩ := @sessions_traffic cfg undef hD v vs hchain
    -- the reports account for all axles, so this window accounts for all of its own
    have haxles := @sum_axles cfg undef ((v :: vs).flatMap Vehicle.pulses)
    rw [length_pulses, ← countedAxles_reports cfg, ← hreports, hsessions, List.flatMap_cons,
      countedAxles_append, List.map_cons, List.sum_cons] at haxles
    have hw := @countedAxles_shown cfg undef w
    have hws := @countedAxles_windows cfg undef ws
    have hfull : countedAxles (w.shown cfg undef) = w.axles := by omega
    rw [hsessions, List.flatMap_cons, List.map_cons] at hreports
    rcases @shown_cases cfg undef w with hnil | ⟨r, hr, hsome, -⟩
    · rw [hnil] at hfull
      have hpos := w.axles_pos
      change 0 = _ at hfull
      omega
    · rw [hr, List.singleton_append, List.cons.injEq] at hreports
      obtain ⟨rfl, hreports⟩ := hreports
      rw [hr, countedAxles_report] at hfull
      have htimely := hvehicle ⟨hfull.symm, hsome⟩
      obtain ⟨-, -, -, rfl⟩ := htail htimely
      exact ⟨htimely, ih hchain.of_cons hreports⟩

theorem keeps_start : Keeps cfg undef .start none := ⟨tracks_initial, rfl, rfl⟩

/-- **One correct report per vehicle, exactly when every vehicle is timely.** -/
theorem one_report_per_vehicle_iff (cfg : Config) (undef : Option Int32)
    (stack : ℕ → RadarDisplayData) (s : Traffic cfg) :
    s.OneReportEach undef stack ↔ AllTimely s.vehicles := by
  have hclock := @clock_reports cfg undef stack s.pulses .start none keeps_start
  constructor
  · rintro ⟨c, acts, hrun, hreports⟩
    rcases hclock with ⟨hnone, -⟩ | ⟨c', acts', hrun', hacts⟩
    · rw [hnone] at hrun
      cases hrun
    · obtain ⟨-, rfl⟩ := Prod.mk.inj (Option.some.inj (hrun'.symm.trans hrun))
      rw [hacts] at hreports
      exact timely_of_reports s.noOverflow s.separated hreports
  · intro htimely
    obtain ⟨hmeasured, hshown⟩ :=
      @reports_of_timely cfg undef s.noOverflow s.vehicles s.separated htimely
    rcases hclock with ⟨-, w, hw, hnone⟩ | ⟨c, acts, hrun, hacts⟩
    · exact absurd hnone (hmeasured w hw)
    · exact ⟨c, acts, hrun, hacts.trans hshown⟩

/-- The first vehicle of `sensor_sim.c`, `emit_vehicle(2, 120)`. -/
def simulatedVehicle : Vehicle 1000 where
  t := 0
  d := 120
  gaps := [120]
  pulses := [⟨.first, 0⟩, ⟨.second, 120⟩, ⟨.first, 120⟩, ⟨.second, 240⟩]
  two_axles := by decide
  axles_le := by decide
  speed := by decide
  close := by decide
  ordered := by decide
  sensor1 := by decide
  sensor2 := by decide

example : ((clock .kconfig none fun _ => ⟨.light, 0, 0, 0, 0, .normal⟩).run .start
    (simulatedVehicle.pulses.map .pulse ++ [.quiet])).map (fun r => reports r.2) =
      some [⟨.light, 2, 120, 30, 80, .normal⟩] := by decide

/-- Two axles 550 ms apart at 30 km/h: closer than one vehicle length. -/
def slowVehicle : Vehicle 1000 where
  t := 0
  d := 120
  gaps := [550]
  pulses := [⟨.first, 0⟩, ⟨.second, 120⟩, ⟨.first, 550⟩, ⟨.second, 670⟩]
  two_axles := by decide
  axles_le := by decide
  speed := by decide
  close := by decide
  ordered := by decide
  sensor1 := by decide
  sensor2 := by decide

def slowTraffic : Traffic .kconfig where
  vehicles := [slowVehicle]
  separated := .singleton slowVehicle
  noOverflow := by decide

/-- Its first axle is discarded as noise after 500 ms, and its second one too. -/
theorem slow_vehicle_unreported :
    ¬ slowTraffic.OneReportEach none fun _ => ⟨.light, 0, 0, 0, 0, .normal⟩ := by
  rintro ⟨c, acts, hrun, hreports⟩
  have hsilent : ((clock .kconfig none fun _ => ⟨.light, 0, 0, 0, 0, .normal⟩).run .start
      (slowTraffic.pulses.map .pulse ++ [.quiet])).map (fun r => reports r.2) = some [] := by
    decide
  rw [hrun, Option.map_some, hreports] at hsilent
  cases hsilent

end Radar
