import Mathlib.Data.List.Basic

/-!
# Scripts with sleeps

What a thread does that only emits events and sleeps, written down as the list of its calls. A performance
of a script says of each call how much later it returns than asked; `stamps` are the events of a
performance with their times, and `finish` is when it is over.

* `stamps_append`, `finish_append`: one script after the other;
* `stamps_ordered`: events come in the order of their times;
* `performs_cons`, `performs_append`: the performances of a script, call by call and part by part.
-/

namespace Script

/-- A call: it emits an event, or sleeps for a time. -/
inductive Cmd (ε : Type*) where
  | emit (e : ε)
  | sleep (ms : ℕ)
deriving DecidableEq

variable {ε : Type*} {slack slack' : ℕ} {script script' : List (Cmd ε)} {cs : List (Cmd ε × ℕ)}

/-- When the performance is over. -/
def finish : ℕ → List (Cmd ε × ℕ) → ℕ
  | now, [] => now
  | now, (.emit _, _) :: cs => finish now cs
  | now, (.sleep ms, late) :: cs => finish (now + ms + late) cs

/-- The events of a performance, each with its time. An event takes no time. -/
def stamps : ℕ → List (Cmd ε × ℕ) → List (ε × ℕ)
  | _, [] => []
  | now, (.emit e, _) :: cs => (e, now) :: stamps now cs
  | now, (.sleep ms, late) :: cs => stamps (now + ms + late) cs

theorem finish_append (cs cs' : List (Cmd ε × ℕ)) :
    ∀ now, finish now (cs ++ cs') = finish (finish now cs) cs' := by
  induction cs with
  | nil => exact fun now => rfl
  | cons c cs ih =>
    obtain ⟨c, late⟩ := c
    intro now
    cases c with
    | emit e => exact ih now
    | sleep ms => exact ih (now + ms + late)

theorem stamps_append (cs cs' : List (Cmd ε × ℕ)) :
    ∀ now, stamps now (cs ++ cs') = stamps now cs ++ stamps (finish now cs) cs' := by
  induction cs with
  | nil => exact fun now => rfl
  | cons c cs ih =>
    obtain ⟨c, late⟩ := c
    intro now
    cases c with
    | emit e => exact congrArg ((e, now) :: ·) (ih now)
    | sleep ms => exact ih (now + ms + late)

theorem stamps_after (cs : List (Cmd ε × ℕ)) : ∀ now, ∀ e ∈ stamps now cs, now ≤ e.2 := by
  induction cs with
  | nil => exact fun now e he => absurd he List.not_mem_nil
  | cons c cs ih =>
    obtain ⟨c, late⟩ := c
    intro now e he
    cases c with
    | emit e' =>
      rcases List.mem_cons.mp he with rfl | he
      · exact Nat.le_refl now
      · exact ih now e he
    | sleep ms =>
      have hlater := ih (now + ms + late) e he
      omega

/-- Events come in the order of their times. -/
theorem stamps_ordered (cs : List (Cmd ε × ℕ)) :
    ∀ now, (stamps now cs).Pairwise fun e e' => e.2 ≤ e'.2 := by
  induction cs with
  | nil => exact fun now => .nil
  | cons c cs ih =>
    obtain ⟨c, late⟩ := c
    intro now
    cases c with
    | emit e => exact .cons (fun e' he' => stamps_after cs now e' he') (ih now)
    | sleep ms => exact ih (now + ms + late)

/-! ### Performances -/

/-- The calls are those of the script, and none returns later than `slack` after it should. -/
structure Performs (slack : ℕ) (script : List (Cmd ε)) (cs : List (Cmd ε × ℕ)) : Prop where
  calls : cs.map Prod.fst = script
  late : ∀ c ∈ cs, c.2 ≤ slack

theorem Performs.mono (h : Performs slack script cs) (hle : slack ≤ slack') : Performs slack' script cs :=
  ⟨h.calls, fun c hc => Nat.le_trans (h.late c hc) hle⟩

theorem performs_nil : Performs slack [] cs ↔ cs = [] := by
  refine ⟨fun h => List.map_eq_nil_iff.mp h.calls, ?_⟩
  rintro rfl
  exact ⟨rfl, by simp⟩

theorem performs_cons {c : Cmd ε} :
    Performs slack (c :: script) cs ↔
      ∃ late cs', cs = (c, late) :: cs' ∧ late ≤ slack ∧ Performs slack script cs' := by
  constructor
  · rintro ⟨hcalls, hlate⟩
    obtain ⟨⟨c, late⟩, cs', rfl, rfl, hrest⟩ := List.map_eq_cons_iff.mp hcalls
    exact ⟨late, cs', rfl, hlate _ List.mem_cons_self, hrest,
      fun d hd => hlate d (List.mem_cons_of_mem _ hd)⟩
  · rintro ⟨late, cs', rfl, hle, hcalls, hlate⟩
    exact ⟨by simp [hcalls], by simpa [hle] using hlate⟩

theorem performs_append :
    Performs slack (script ++ script') cs ↔
      ∃ cs₁ cs₂, cs = cs₁ ++ cs₂ ∧ Performs slack script cs₁ ∧ Performs slack script' cs₂ := by
  constructor
  · rintro ⟨hcalls, hlate⟩
    obtain ⟨cs₁, cs₂, rfl, h₁, h₂⟩ := List.map_eq_append_iff.mp hcalls
    exact ⟨cs₁, cs₂, rfl, ⟨h₁, fun c hc => hlate c (by simp [hc])⟩,
      h₂, fun c hc => hlate c (by simp [hc])⟩
  · rintro ⟨cs₁, cs₂, rfl, h₁, h₂⟩
    refine ⟨by simp [h₁.calls, h₂.calls], fun c hc => ?_⟩
    rcases List.mem_append.mp hc with hc | hc
    · exact h₁.late c hc
    · exact h₂.late c hc

/-- A performance in which no call is late. -/
def punctual (script : List (Cmd ε)) : List (Cmd ε × ℕ) := script.map fun c => (c, 0)

theorem performs_punctual (script : List (Cmd ε)) : Performs 0 script (punctual script) := by
  refine ⟨by simp [punctual, Function.comp_def], fun c hc => ?_⟩
  obtain ⟨c, -, rfl⟩ := List.mem_map.mp hc
  exact Nat.le_refl 0

end Script
