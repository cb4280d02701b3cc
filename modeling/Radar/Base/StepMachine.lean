import Mathlib.Data.List.Basic
import Mathlib.Data.Option.Basic

/-!
# Deterministic systems that report what they do and may stop

A `StepMachine` reads one input at a time, moves to a new state and reports a list of outputs, or
stops for good (`none`). `run` is a whole run. The rules below are the ones an argument about every
run needs:

* `run_track`: a relation between the state and a value computed from the inputs alone, kept by every
  step, holds after every run (a simulation by a history); `run_invariant` is its case without history,
  and `run_outputs` also says something about the outputs;
* `run_ne_none_iff`: a run stops exactly when one of its steps does;
* `Along`: a property of every step a run takes, with `along_cons`; `along_imp` and `along_congr` pass
  from one such property to another;
* `run_defect`: a count that stays exactly at the steps with a property; `run_split` is its case of one
  first violation;
* `run_map`: a translation that agrees with every step agrees with every run;
* `trace_eq`: two runs that stay related step by step show the same observations and stop at the
  same step.
-/

/-- A system that steps on an input, with outputs, or stops. -/
structure StepMachine (σ ι ο : Type*) where
  step : σ → ι → Option (σ × List ο)

namespace StepMachine

variable {σ ι ο : Type*} (M : StepMachine σ ι ο)

/-- The run over a list of inputs: the last state and all outputs, or `none` if a step stops. -/
def run : σ → List ι → Option (σ × List ο)
  | s, [] => some (s, [])
  | s, i :: is =>
    match M.step s i with
    | none => none
    | some (s', o) => (run s' is).map fun r => (r.1, o ++ r.2)

@[simp] theorem run_nil (s : σ) : M.run s [] = some (s, []) := rfl

theorem run_cons (s : σ) (i : ι) (is : List ι) :
    M.run s (i :: is) = (M.step s i).bind fun r =>
      (M.run r.1 is).map fun r' => (r'.1, r.2 ++ r'.2) := by
  rw [run]
  cases M.step s i with
  | none => rfl
  | some r => rfl

theorem run_cons_some {s : σ} {i : ι} {is : List ι} {s' : σ} {o : List ο}
    (h : M.run s (i :: is) = some (s', o)) :
    ∃ s₁ o₁ o₂, M.step s i = some (s₁, o₁) ∧ M.run s₁ is = some (s', o₂) ∧ o = o₁ ++ o₂ := by
  rw [run_cons, Option.bind_eq_some_iff] at h
  obtain ⟨⟨s₁, o₁⟩, hstep, hrest⟩ := h
  rw [Option.map_eq_some_iff] at hrest
  obtain ⟨⟨s₂, o₂⟩, hrun, heq⟩ := hrest
  simp only [Prod.mk.injEq] at heq
  obtain ⟨rfl, rfl⟩ := heq
  exact ⟨s₁, o₁, o₂, hstep, hrun, rfl⟩

theorem run_append (s : σ) (is js : List ι) :
    M.run s (is ++ js) = (M.run s is).bind fun r =>
      (M.run r.1 js).map fun r' => (r'.1, r.2 ++ r'.2) := by
  induction is generalizing s with
  | nil => simp
  | cons i is ih =>
    rw [List.cons_append, run_cons, run_cons]
    cases M.step s i with
    | none => rfl
    | some r =>
      simp only [Option.bind_some, ih, Option.map_bind, Option.bind_map]
      congr 1
      funext r'
      simp only [Function.comp_apply, Option.map_map]
      congr 1
      funext r''
      simp [List.append_assoc]

theorem run_trans {s s₁ s₂ : σ} {is js : List ι} {o₁ o₂ : List ο}
    (h₁ : M.run s is = some (s₁, o₁)) (h₂ : M.run s₁ js = some (s₂, o₂)) :
    M.run s (is ++ js) = some (s₂, o₁ ++ o₂) := by
  rw [run_append, h₁, Option.bind_some, h₂, Option.map_some]

theorem run_singleton (s : σ) (i : ι) : M.run s [i] = M.step s i := by
  rw [run_cons]
  cases M.step s i with
  | none => rfl
  | some r => simp

theorem run_front {s s' : σ} {is js : List ι} {o : List ο} (h : M.run s (is ++ js) = some (s', o)) :
    ∃ s₁ o₁ o₂, M.run s is = some (s₁, o₁) ∧ M.run s₁ js = some (s', o₂) := by
  rw [run_append, Option.bind_eq_some_iff] at h
  obtain ⟨⟨s₁, o₁⟩, hrun, hrest⟩ := h
  rw [Option.map_eq_some_iff] at hrest
  obtain ⟨⟨s₂, o₂⟩, hrest, heq⟩ := hrest
  obtain ⟨rfl, -⟩ := Prod.mk.inj heq
  exact ⟨s₁, o₁, o₂, hrun, hrest⟩

theorem run_concat_some {s s₂ : σ} {is : List ι} {i : ι} {o : List ο}
    (h : M.run s (is ++ [i]) = some (s₂, o)) :
    ∃ s₁ o₁ o₂, M.run s is = some (s₁, o₁) ∧ M.step s₁ i = some (s₂, o₂) := by
  obtain ⟨s₁, o₁, o₂, hrun, hlast⟩ := M.run_front h
  obtain ⟨s₄, o₄, o₅, hstep, hnil, -⟩ := M.run_cons_some hlast
  simp only [run_nil, Option.some.injEq, Prod.mk.injEq] at hnil
  obtain ⟨rfl, -⟩ := hnil
  exact ⟨s₁, o₁, o₄, hrun, hstep⟩

/-! ### Invariants and histories -/

/-- **Simulation by a history.** A relation to a value folded from the inputs, kept by every step,
holds after every run. -/
theorem run_track {α : Type*} {R : σ → α → Prop} {next : α → ι → α}
    (hstep : ∀ s a i s' o, R s a → M.step s i = some (s', o) → R s' (next a i)) :
    ∀ {is : List ι} {s : σ} {a : α} {s' : σ} {o : List ο},
      R s a → M.run s is = some (s', o) → R s' (is.foldl next a) := by
  intro is
  induction is with
  | nil =>
    intro s a s' o hR hrun
    simp only [run_nil, Option.some.injEq, Prod.mk.injEq] at hrun
    obtain ⟨rfl, -⟩ := hrun
    exact hR
  | cons i is ih =>
    intro s a s' o hR hrun
    obtain ⟨s₁, o₁, o₂, h₁, h₂, -⟩ := M.run_cons_some hrun
    exact ih (hstep s a i s₁ o₁ hR h₁) h₂

/-- **Invariant rule.** What every step keeps holds after every run. -/
theorem run_invariant {I : σ → Prop} (hstep : ∀ s i s' o, I s → M.step s i = some (s', o) → I s')
    {is : List ι} {s s' : σ} {o : List ο} (hI : I s) (hrun : M.run s is = some (s', o)) :
    I s' := by
  have htrack : ∀ s (_ : Unit) i s' o, I s → M.step s i = some (s', o) → I s' :=
    fun s _ i s' o => hstep s i s' o
  exact @run_track σ ι ο M Unit (fun s _ => I s) (fun a _ => a) htrack is s () s' o hI hrun

/-- **Invariant rule with outputs.** If every step keeps `I` and shows only outputs with `P`, so does
every run. -/
theorem run_outputs {I : σ → Prop} {P : ο → Prop}
    (hstep : ∀ s i s' o, I s → M.step s i = some (s', o) → I s' ∧ ∀ a ∈ o, P a) :
    ∀ {is : List ι} {s s' : σ} {o : List ο},
      I s → M.run s is = some (s', o) → I s' ∧ ∀ a ∈ o, P a := by
  intro is
  induction is with
  | nil =>
    intro s s' o hI hrun
    simp only [run_nil, Option.some.injEq, Prod.mk.injEq] at hrun
    obtain ⟨rfl, rfl⟩ := hrun
    exact ⟨hI, by simp⟩
  | cons i is ih =>
    intro s s' o hI hrun
    obtain ⟨s₁, o₁, o₂, h₁, h₂, rfl⟩ := M.run_cons_some hrun
    obtain ⟨hI₁, hP₁⟩ := hstep s i s₁ o₁ hI h₁
    obtain ⟨hI₂, hP₂⟩ := ih hI₁ h₂
    refine ⟨hI₂, fun a ha => ?_⟩
    rcases List.mem_append.mp ha with ha | ha
    · exact hP₁ a ha
    · exact hP₂ a ha

/-! ### Every step of a run -/

/-- `M.Takes s is s₁ i`: the run from `s` over `is` comes to `s₁` and reads `i` there. -/
def Takes (s : σ) (is : List ι) (s₁ : σ) (i : ι) : Prop :=
  ∃ pre post o, is = pre ++ i :: post ∧ M.run s pre = some (s₁, o)

/-- `P` holds of every step the run from `s` over `is` takes. -/
def Along (P : σ → ι → σ → List ο → Prop) (s : σ) (is : List ι) : Prop :=
  ∀ s₁ i s₂ o, M.Takes s is s₁ i → M.step s₁ i = some (s₂, o) → P s₁ i s₂ o

theorem takes_cons {s : σ} {i : ι} {is : List ι} {s₁ : σ} {j : ι} :
    M.Takes s (i :: is) s₁ j ↔
      (s₁ = s ∧ j = i) ∨ ∃ s' o, M.step s i = some (s', o) ∧ M.Takes s' is s₁ j := by
  constructor
  · rintro ⟨pre, post, o, heq, hrun⟩
    cases pre with
    | nil =>
      simp only [List.nil_append, List.cons.injEq] at heq
      simp only [run_nil, Option.some.injEq, Prod.mk.injEq] at hrun
      exact Or.inl ⟨hrun.1.symm, heq.1.symm⟩
    | cons a pre =>
      simp only [List.cons_append, List.cons.injEq] at heq
      obtain ⟨rfl, rfl⟩ := heq
      obtain ⟨s', o₁, o₂, hstep, hrest, -⟩ := M.run_cons_some hrun
      exact Or.inr ⟨s', o₁, hstep, pre, post, o₂, rfl, hrest⟩
  · rintro (⟨rfl, rfl⟩ | ⟨s', o, hstep, pre, post, o', rfl, hrun⟩)
    · exact ⟨[], is, [], rfl, rfl⟩
    · exact ⟨i :: pre, post, o ++ o', rfl, by simp [run_cons, hstep, hrun]⟩

/-- A run stops exactly when one of the steps it comes to does. -/
theorem run_ne_none_iff (s : σ) (is : List ι) :
    M.run s is ≠ none ↔ ∀ s₁ i, M.Takes s is s₁ i → M.step s₁ i ≠ none := by
  induction is generalizing s with
  | nil =>
    refine ⟨fun _ s₁ i => ?_, fun _ => by simp⟩
    rintro ⟨pre, post, o, heq, -⟩
    simp at heq
  | cons i is ih =>
    simp only [takes_cons]
    cases hstep : M.step s i with
    | none =>
      refine ⟨fun h => absurd (by simp [run_cons, hstep]) h, fun h => ?_⟩
      exact absurd hstep (h s i (Or.inl ⟨rfl, rfl⟩))
    | some r =>
      have hrun : M.run s (i :: is) ≠ none ↔ M.run r.1 is ≠ none := by
        simp [run_cons, hstep]
      rw [hrun, ih]
      constructor
      · rintro h s₁ j (⟨rfl, rfl⟩ | ⟨s', o, heq, htakes⟩)
        · simp [hstep]
        · obtain rfl := Option.some.inj heq
          exact h s₁ j htakes
      · exact fun h s₁ j htakes => h s₁ j (Or.inr ⟨r.1, r.2, rfl, htakes⟩)

theorem along_nil (P : σ → ι → σ → List ο → Prop) (s : σ) : M.Along P s [] := by
  rintro s₁ i s₂ o ⟨pre, post, o', heq, -⟩
  simp at heq

theorem along_cons {P : σ → ι → σ → List ο → Prop} {s s' : σ} {i : ι} {is : List ι} {o : List ο}
    (hstep : M.step s i = some (s', o)) :
    M.Along P s (i :: is) ↔ P s i s' o ∧ M.Along P s' is := by
  constructor
  · intro h
    refine ⟨h s i s' o ((M.takes_cons).mpr (Or.inl ⟨rfl, rfl⟩)) hstep, fun s₁ j s₂ o' htakes => ?_⟩
    exact h s₁ j s₂ o' ((M.takes_cons).mpr (Or.inr ⟨s', o, hstep, htakes⟩))
  · rintro ⟨hP, hrest⟩ s₁ j s₂ o' htakes hstep'
    rcases (M.takes_cons).mp htakes with ⟨rfl, rfl⟩ | ⟨s₃, o₃, hstep₃, htakes⟩
    · obtain ⟨rfl, rfl⟩ := Prod.mk.inj (Option.some.inj (hstep.symm.trans hstep'))
      exact hP
    · obtain ⟨rfl, rfl⟩ := Prod.mk.inj (Option.some.inj (hstep.symm.trans hstep₃))
      exact hrest s₁ j s₂ o' htakes hstep'

theorem along_none {s : σ} {i : ι} {is : List ι} (P : σ → ι → σ → List ο → Prop)
    (hstep : M.step s i = none) : M.Along P s (i :: is) := by
  intro s₁ j s₂ o htakes hstep'
  rcases M.takes_cons.mp htakes with ⟨rfl, rfl⟩ | ⟨s₃, o₃, hstep₃, -⟩
  · rw [hstep] at hstep'
    cases hstep'
  · rw [hstep] at hstep₃
    cases hstep₃

/-- An invariant that steps with `P` keep gives `Q` along every run with `P`. -/
theorem along_imp {I : σ → Prop} {P Q : σ → ι → σ → List ο → Prop}
    (hstep : ∀ s i s' o, I s → P s i s' o → M.step s i = some (s', o) → I s' ∧ Q s i s' o) :
    ∀ {is : List ι} {s : σ}, I s → M.Along P s is → M.Along Q s is := by
  intro is
  induction is with
  | nil =>
    intro s _ _
    exact M.along_nil Q s
  | cons i is ih =>
    intro s hI hP
    cases h : M.step s i with
    | none => exact M.along_none Q h
    | some r =>
      rw [M.along_cons h] at hP ⊢
      obtain ⟨hI', hQ⟩ := hstep s i r.1 r.2 hI hP.1 h
      exact ⟨hQ, ih hI' hP.2⟩

/-- Two properties that agree in every state with an invariant, which they keep, agree along every
run. -/
theorem along_congr {I : σ → Prop} {P Q : σ → ι → σ → List ο → Prop}
    (hiff : ∀ s i s' o, I s → M.step s i = some (s', o) → (P s i s' o ↔ Q s i s' o))
    (hkeep : ∀ s i s' o, I s → P s i s' o → M.step s i = some (s', o) → I s') {is : List ι} {s : σ}
    (hI : I s) : M.Along P s is ↔ M.Along Q s is := by
  constructor
  · refine M.along_imp (fun s i s' o hI hP hstep => ?_) hI
    exact ⟨hkeep s i s' o hI hP hstep, (hiff s i s' o hI hstep).mp hP⟩
  · refine M.along_imp (fun s i s' o hI hQ hstep => ?_) hI
    have hP := (hiff s i s' o hI hstep).mpr hQ
    exact ⟨hkeep s i s' o hI hP hstep, hP⟩

/-- **Counting violations.** A number that the state and the outputs determine, never falls, and stays at
a step exactly if the step has `P`, stays over a run exactly if every step has. -/
theorem run_defect {P : σ → ι → σ → List ο → Prop} {R : σ → List ο → ℕ → Prop}
    (hstep : ∀ s h n i s' o, R s h n → M.step s i = some (s', o) →
      ∃ n', R s' (h ++ o) n' ∧ n ≤ n' ∧ (n' = n ↔ P s i s' o)) :
    ∀ {is : List ι} {s s' : σ} {h o : List ο} {n : ℕ}, R s h n → M.run s is = some (s', o) →
      ∃ n', R s' (h ++ o) n' ∧ n ≤ n' ∧ (n' = n ↔ M.Along P s is) := by
  intro is
  induction is with
  | nil =>
    intro s s' h o n hR hrun
    simp only [run_nil, Option.some.injEq, Prod.mk.injEq] at hrun
    obtain ⟨rfl, rfl⟩ := hrun
    exact ⟨n, by rwa [List.append_nil], Nat.le_refl n, fun _ => M.along_nil P s, fun _ => rfl⟩
  | cons i is ih =>
    intro s s' h o n hR hrun
    obtain ⟨s₁, o₁, o₂, h₁, h₂, rfl⟩ := M.run_cons_some hrun
    obtain ⟨n₁, hR₁, hle₁, hiff₁⟩ := hstep s h n i s₁ o₁ hR h₁
    obtain ⟨n₂, hR₂, hle₂, hiff₂⟩ := ih hR₁ h₂
    rw [List.append_assoc] at hR₂
    refine ⟨n₂, hR₂, Nat.le_trans hle₁ hle₂, ?_⟩
    rw [M.along_cons h₁, ← hiff₁, ← hiff₂]
    omega

/-- **First violation.** `R` holds of the state and the outputs as long as every step has `P`; the first
step without `P` leads to `D`, which stays. -/
theorem run_split {P : σ → ι → σ → List ο → Prop} {R D : σ → List ο → Prop}
    (hgood : ∀ s h i s' o, R s h → P s i s' o → M.step s i = some (s', o) → R s' (h ++ o))
    (hbad : ∀ s h i s' o, R s h → ¬ P s i s' o → M.step s i = some (s', o) → D s' (h ++ o))
    (hkeep : ∀ s h i s' o, D s h → M.step s i = some (s', o) → D s' (h ++ o))
    {is : List ι} {s s' : σ} {h o : List ο} (hR : R s h) (hrun : M.run s is = some (s', o)) :
    (M.Along P s is ∧ R s' (h ++ o)) ∨ (¬ M.Along P s is ∧ D s' (h ++ o)) := by
  -- the number of violations so far, with `R` at 0 and `D` above
  have hcount : ∀ s h n i s' o, (n = 0 ∧ R s h) ∨ (n ≠ 0 ∧ D s h) → M.step s i = some (s', o) →
      ∃ n', ((n' = 0 ∧ R s' (h ++ o)) ∨ (n' ≠ 0 ∧ D s' (h ++ o))) ∧ n ≤ n' ∧
        (n' = n ↔ P s i s' o) := by
    intro s h n i s' o hn hstep
    by_cases hP : P s i s' o
    · refine ⟨n, ?_, Nat.le_refl n, iff_of_true rfl hP⟩
      rcases hn with ⟨hn, hR⟩ | ⟨hn, hD⟩
      · exact .inl ⟨hn, hgood s h i s' o hR hP hstep⟩
      · exact .inr ⟨hn, hkeep s h i s' o hD hstep⟩
    · refine ⟨n + 1, .inr ⟨Nat.succ_ne_zero n, ?_⟩, Nat.le_succ n, iff_of_false (by omega) hP⟩
      rcases hn with ⟨-, hR⟩ | ⟨-, hD⟩
      · exact hbad s h i s' o hR hP hstep
      · exact hkeep s h i s' o hD hstep
  obtain ⟨n, hn, -, hiff⟩ := M.run_defect hcount (.inl ⟨rfl, hR⟩) hrun
  rcases hn with ⟨hzero, hR'⟩ | ⟨hne, hD⟩
  · exact .inl ⟨hiff.mp hzero, hR'⟩
  · exact .inr ⟨fun hall => hne (hiff.mpr hall), hD⟩

/-! ### Two runs side by side -/

/-- A translation of states, inputs and outputs that agrees with every step agrees with every run. -/
theorem run_map {σ' ι' ο' : Type*} (M' : StepMachine σ' ι' ο') {f : σ → σ'} {g : ι → ι'} {h : ο → ο'}
    (hstep : ∀ s i, M'.step (f s) (g i) = (M.step s i).map fun r => (f r.1, r.2.map h))
    (s : σ) (is : List ι) :
    M'.run (f s) (is.map g) = (M.run s is).map fun r => (f r.1, r.2.map h) := by
  induction is generalizing s with
  | nil => rfl
  | cons i is ih =>
    rw [List.map_cons, run_cons, run_cons, hstep]
    cases M.step s i with
    | none => rfl
    | some r =>
      simp only [Option.map_some, Option.bind_some, ih, Option.map_map]
      congr 1
      funext r'
      simp

/-- What an observer `obs` sees of each step of a run; the last entry is `none` if a step stops. -/
def trace {β : Type*} (obs : σ → List ο → β) : σ → List ι → List (Option β)
  | _, [] => []
  | s, i :: is =>
    match M.step s i with
    | none => [none]
    | some (s', o) => some (obs s' o) :: trace obs s' is

/-- **Lockstep rule.** Two runs over related inputs show the same trace if related states step on
related inputs to related states with the same observation, or stop together. -/
theorem trace_eq {β : Type*} {obs : σ → List ο → β} {R : σ → σ → Prop} {J : ι → ι → Prop}
    (hstep : ∀ s t i j, R s t → J i j →
      (M.step s i = none ∧ M.step t j = none) ∨
      ∃ s' o t' p, M.step s i = some (s', o) ∧ M.step t j = some (t', p) ∧ R s' t' ∧
        obs s' o = obs t' p)
    {is js : List ι} (hJ : List.Forall₂ J is js) :
    ∀ {s t : σ}, R s t → M.trace obs s is = M.trace obs t js := by
  induction hJ with
  | nil => intro s t _; rfl
  | cons hij _ ih =>
    intro s t hR
    rcases hstep s t _ _ hR hij with ⟨hs, ht⟩ | ⟨s', o, t', p, hs, ht, hR', hobs⟩
    · simp only [trace, hs, ht]
    · simp only [trace, hs, ht, hobs, ih hR']

end StepMachine
