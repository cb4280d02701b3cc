import Mathlib.Data.List.Basic

/-!
# Bounded message queues

A FIFO with room for `cap` messages between writers and one reading thread, as a kernel provides it. A
thread that reads an empty queue waits and gets the next message directly; a thread that writes to a full
queue waits, and a read lets its message in. A writer that cannot wait fails on a full queue. Through
`contents`, the stored messages and behind them those of the waiting writers, every successful operation
is that of an unbounded FIFO (`contents_put`, `contents_putForever`, `contents_get`).
-/

structure MsgQueue (α : Type*) (cap : ℕ) where
  stored : List α
  writers : List α
  readerWaits : Bool
  fits : stored.length ≤ cap
  full_of_writers : writers ≠ [] → stored.length = cap
  empty_of_reader : readerWaits = true → stored = [] ∧ writers = []

namespace MsgQueue

variable {α : Type*} {cap : ℕ}

def empty : MsgQueue α cap := ⟨[], [], false, Nat.zero_le _, by simp, by simp⟩

def contents (q : MsgQueue α cap) : List α := q.stored ++ q.writers

/-- A write that does not wait finds no room. -/
def Full (q : MsgQueue α cap) : Prop := q.readerWaits = false ∧ q.stored.length = cap

instance (q : MsgQueue α cap) : Decidable q.Full := inferInstanceAs (Decidable (_ ∧ _))

theorem writers_of_room {q : MsgQueue α cap} (h : q.stored.length < cap) : q.writers = [] := by
  by_contra hne
  have hfull := q.full_of_writers hne
  omega

theorem length_of_no_room {q : MsgQueue α cap} (h : ¬ q.stored.length < cap) :
    q.stored.length = cap := by
  have hfits := q.fits
  omega

theorem length_append_of_room {q : MsgQueue α cap} (x : α) (h : q.stored.length < cap) :
    (q.stored ++ [x]).length ≤ cap := by
  rw [List.length_append, List.length_singleton]
  omega

/-- A write that does not wait: `none` if there is no room. The second component is the message a waiting
reader gets. -/
def put (q : MsgQueue α cap) (x : α) : Option (MsgQueue α cap × Option α) :=
  if q.readerWaits then some (empty, some x)
  else if h : q.stored.length < cap then
    some (⟨q.stored ++ [x], [], false, length_append_of_room x h, by simp, by simp⟩, none)
  else none

/-- A write that waits for room. -/
def putForever (q : MsgQueue α cap) (x : α) : MsgQueue α cap × Option α :=
  if q.readerWaits then (empty, some x)
  else if h : q.stored.length < cap then
    (⟨q.stored ++ [x], [], false, length_append_of_room x h, by simp, by simp⟩, none)
  else
    (⟨q.stored, q.writers ++ [x], false, q.fits, fun _ => length_of_no_room h, by simp⟩, none)

/-- A read: `none` if the reader has to wait. -/
def get (q : MsgQueue α cap) : MsgQueue α cap × Option α :=
  match hs : q.stored, hw : q.writers with
  | [], [] => (⟨[], [], true, Nat.zero_le _, by simp, by simp⟩, none)
  | [], w :: ws =>
    (⟨[], ws, false, Nat.zero_le _, fun _ => by rw [← hs]; exact q.full_of_writers (by simp [hw]),
      by simp⟩, some w)
  | x :: xs, [] =>
    (⟨xs, [], false, by have := q.fits; rw [hs, List.length_cons] at this; omega, by simp, by simp⟩,
      some x)
  | x :: xs, w :: ws =>
    (⟨xs ++ [w], ws, false, by have := q.fits; rw [hs] at this; simpa using this,
      fun _ => by have := q.full_of_writers (by simp [hw]); rw [hs] at this; simpa using this, by simp⟩,
      some x)

/-! ### The queue as a FIFO -/

@[simp] theorem readerWaits_empty : (empty : MsgQueue α cap).readerWaits = false := rfl

theorem contents_of_reader {q : MsgQueue α cap} (h : q.readerWaits = true) : q.contents = [] := by
  obtain ⟨hs, hw⟩ := q.empty_of_reader h
  rw [contents, hs, hw, List.nil_append]

theorem put_eq_none {q : MsgQueue α cap} {x : α} : q.put x = none ↔ q.Full := by
  unfold put Full
  cases hr : q.readerWaits with
  | true => simp
  | false =>
    by_cases hroom : q.stored.length < cap
    · simp [hroom, Nat.ne_of_lt hroom]
    · simp [length_of_no_room hroom]

theorem contents_putForever {q q' : MsgQueue α cap} {x : α} {d : Option α}
    (h : q.putForever x = (q', d)) : d.toList ++ q'.contents = q.contents ++ [x] := by
  unfold putForever at h
  cases hr : q.readerWaits with
  | true =>
    rw [if_pos hr] at h
    cases h
    rw [contents_of_reader hr]
    rfl
  | false =>
    rw [if_neg (by rw [hr]; decide)] at h
    by_cases hroom : q.stored.length < cap
    · rw [dif_pos hroom] at h
      cases h
      simp [contents, writers_of_room hroom]
    · rw [dif_neg hroom] at h
      cases h
      simp [contents]

/-- A successful write is one that would not have waited. -/
theorem put_eq_some {q q' : MsgQueue α cap} {x : α} {d : Option α} (h : q.put x = some (q', d)) :
    q.putForever x = (q', d) := by
  unfold put at h
  unfold putForever
  split_ifs at h ⊢
  · exact Option.some.inj h
  · exact Option.some.inj h

theorem contents_put {q q' : MsgQueue α cap} {x : α} {d : Option α} (h : q.put x = some (q', d)) :
    d.toList ++ q'.contents = q.contents ++ [x] :=
  contents_putForever (put_eq_some h)

theorem contents_get {q q' : MsgQueue α cap} {d : Option α} (h : q.get = (q', d)) :
    d.toList ++ q'.contents = q.contents := by
  unfold get at h
  split at h <;> (rename_i hs hw; cases h; simp [contents, hs, hw])

/-! ### Who waits -/

theorem readerWaits_putForever {q q' : MsgQueue α cap} {x : α} {d : Option α}
    (h : q.putForever x = (q', d)) : q'.readerWaits = false ∧ (d ≠ none → q.readerWaits = true) := by
  unfold putForever at h
  split_ifs at h <;> (cases h; simp_all)

theorem readerWaits_get {q q' : MsgQueue α cap} {d : Option α} (h : q.get = (q', d)) :
    q'.readerWaits = true ↔ d = none := by
  unfold get at h
  split at h <;> (cases h; simp)

end MsgQueue
