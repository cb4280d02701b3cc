import Mathlib.Algebra.BigOperators.Group.List.Basic
import Mathlib.Algebra.Ring.Nat

/-!
# Streams cut into sessions by a timer

A session opens at an item, takes every item that arrives before its deadline and closes at the
deadline. An item may arm the timer again. `sessions` lists the sessions of a finite stream whose items
carry their times; after the last item the timer runs out.

* `sessions_late`, `sessions_inTime`: the next item comes too late, or in time;
* `sessions_head`: the open session closes first, and keeps what every item keeps;
* `sum_sessions`: every item that weighs something is in exactly one session.

`Roomy` streams leave some time between a deadline and the next item.
-/

/-- How a stream of timed items is cut: the session and the delay an item opens, the session after
one more item, and the delay an item arms the timer of its session with, if it does. -/
structure SessionCut (α ω : Type*) where
  time : α → ℕ
  opens : α → Option (ω × ℕ)
  push : ω → α → ω
  rearm : ω → α → Option ℕ

namespace SessionCut

variable {α ω : Type*} (C : SessionCut α ω)

/-- The session an item opens, with its deadline. -/
def opened (x : α) : Option (ω × ℕ) := (C.opens x).map fun o => (o.1, C.time x + o.2)

/-- The open session and its deadline after an item in time. -/
def take (st : ω × ℕ) (x : α) : ω × ℕ :=
  (C.push st.1 x, ((C.rearm st.1 x).map fun delay => C.time x + delay).getD st.2)

/-- The sessions of a stream, from an open session and its deadline, if one is open. -/
def sessions : Option (ω × ℕ) → List α → List ω
  | none, [] => []
  | some st, [] => [st.1]
  | none, x :: xs => sessions (C.opened x) xs
  | some st, x :: xs =>
    if C.time x < st.2 then sessions (some (C.take st x)) xs
    else st.1 :: sessions (C.opened x) xs

variable {C} {st : ω × ℕ} {x : α} {xs ys : List α}

theorem sessions_opened (x : α) (xs : List α) :
    C.sessions none (x :: xs) = C.sessions (C.opened x) xs := rfl

theorem sessions_inTime (h : C.time x < st.2) :
    C.sessions (some st) (x :: xs) = C.sessions (some (C.take st x)) xs := by
  rw [sessions, if_pos h]

theorem sessions_late (h : st.2 ≤ C.time x) :
    C.sessions (some st) (x :: xs) = st.1 :: C.sessions none (x :: xs) := by
  rw [sessions_opened]
  show (if C.time x < st.2 then _ else _) = _
  rw [if_neg (Nat.not_lt.mpr h)]

/-- Items that open no session are ignored while none is open. -/
theorem sessions_ignored (h : ∀ x ∈ xs, C.opens x = none) :
    C.sessions none (xs ++ ys) = C.sessions none ys := by
  induction xs with
  | nil => rfl
  | cons x xs ih =>
    have hx : C.opened x = none := by simp [opened, h x (by simp)]
    rw [List.cons_append, sessions_opened, hx, ih fun y hy => h y (by simp [hy])]

/-- The open session is the first one to close; it has every property that items in time keep. -/
theorem sessions_head {P : ω → Prop} (hpush : ∀ w x, P w → P (C.push w x)) (xs : List α) :
    ∀ st : ω × ℕ, P st.1 → ∃ w ws, C.sessions (some st) xs = w :: ws ∧ P w := by
  induction xs with
  | nil => exact fun st hst => ⟨st.1, [], rfl, hst⟩
  | cons x xs ih =>
    intro st hst
    by_cases h : C.time x < st.2
    · rw [sessions_inTime h]
      exact ih (C.take st x) (hpush st.1 x hst)
    · rw [sessions_late (Nat.not_lt.mp h)]
      exact ⟨st.1, _, rfl, hst⟩

section Weights

variable {size : ω → ℕ} {weight : α → ℕ}

/-- The size of the open session. -/
def openSize (size : ω → ℕ) (st : Option (ω × ℕ)) : ℕ := (st.map fun st => size st.1).getD 0

/-- **Nothing is lost or counted twice.** If an item adds its weight to the session it opens or enters,
and an item that opens none weighs nothing, the sizes of all sessions add up to the weights. -/
theorem sum_sessions (hopen : ∀ x, openSize size (C.opened x) = weight x)
    (hpush : ∀ w x, size (C.push w x) = size w + weight x) (xs : List α) :
    ∀ st, ((C.sessions st xs).map size).sum = openSize size st + (xs.map weight).sum := by
  induction xs with
  | nil =>
    intro st
    cases st <;> simp [sessions, openSize]
  | cons x xs ih =>
    intro st
    rw [List.map_cons, List.sum_cons]
    cases st with
    | none =>
      rw [sessions_opened, ih, hopen]
      simp [openSize]
    | some st =>
      by_cases h : C.time x < st.2
      · rw [sessions_inTime h, ih]
        simp only [openSize, take, Option.map_some, Option.getD_some, hpush]
        omega
      · rw [sessions_late (Nat.not_lt.mp h), sessions_opened, List.map_cons, List.sum_cons, ih, hopen]
        simp [openSize]

end Weights

/-! ### Room behind the deadlines -/

/-- The open session after one more item. -/
def next (st : Option (ω × ℕ)) (x : α) : Option (ω × ℕ) :=
  match st with
  | none => C.opened x
  | some st => if C.time x < st.2 then some (C.take st x) else C.opened x

/-- An item that comes after a deadline comes at least `L` after it. -/
def Roomy (L : ℕ) : Option (ω × ℕ) → List α → Prop
  | _, [] => True
  | st, x :: xs =>
    (∀ due ∈ st.map Prod.snd, due ≤ C.time x → due + L ≤ C.time x) ∧ Roomy L (C.next st x) xs

variable {L : ℕ}

theorem roomy_inTime (h : C.time x < st.2) :
    C.Roomy L (some st) (x :: xs) ↔ C.Roomy L (some (C.take st x)) xs := by
  simp only [Roomy, next, if_pos h, Option.map_some, Option.mem_some_iff, forall_eq', Nat.not_le.mpr h,
    false_imp_iff, true_and]

theorem roomy_opened {st : Option (ω × ℕ)} (h : ∀ due ∈ st.map Prod.snd, due + L ≤ C.time x) :
    C.Roomy L st (x :: xs) ↔ C.Roomy L (C.opened x) xs := by
  have hnext : C.next st x = C.opened x := by
    cases st with
    | none => rfl
    | some st =>
      have hlate := h st.2 rfl
      exact if_neg (by omega)
  rw [Roomy, hnext]
  exact and_iff_right fun due hdue _ => h due hdue

end SessionCut
