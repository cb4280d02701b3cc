import Radar.Base.StepMachine

/-!
# Simulations between step machines

One step of a machine `M` may be several inputs of another machine `M'`, or none: a component of a
larger system moves only when the system's step concerns it, and an abstract machine does at once what
the concrete one does in stages. `reads` lists what the other machine reads along a run.

* `run_history`: a relation between the state and the outputs so far, kept by every step;
* `along_of_forall_mem`: steps that have a property whatever the state;
* `run_simulate`: if every step is matched by a run of the other machine over what it reads, so is every
  run, with the outputs the other machine is seen to make;
* `run_lockstep`: two machines that take the same inputs, stop together and show the same;
* `reads_flatMap`: what is read if the state does not matter;
* `reads_filterMap`: what the inputs read and the outputs made have in common;
* `Reaches`: the states some continuation leads to, with `Reaches.invariant`.
-/

namespace StepMachine

variable {σ ι ο σ' ι' ο' : Type*} (M : StepMachine σ ι ο) (M' : StepMachine σ' ι' ο')

/-- **History rule.** A relation between the state and all outputs so far that steps with `P` keep holds
after every run with `P`. -/
theorem run_history {P : σ → ι → σ → List ο → Prop} {R : σ → List ο → Prop}
    (hstep : ∀ s h i s' o, R s h → P s i s' o → M.step s i = some (s', o) → R s' (h ++ o))
    {is : List ι} {s s' : σ} {h o : List ο} (hR : R s h) (hP : M.Along P s is)
    (hrun : M.run s is = some (s', o)) : R s' (h ++ o) := by
  have hsplit := M.run_split (D := fun _ _ => True) hstep (fun _ _ _ _ _ _ _ _ => trivial)
    (fun _ _ _ _ _ _ _ => trivial) hR hrun
  rcases hsplit with ⟨-, hR'⟩ | ⟨hnot, -⟩
  · exact hR'
  · exact absurd hP hnot

/-- A property of the inputs alone holds along a run if it holds of all of them. -/
theorem along_of_forall_mem {P : σ → ι → σ → List ο → Prop} {is : List ι} (s : σ)
    (h : ∀ i ∈ is, ∀ s s' o, P s i s' o) : M.Along P s is := by
  rintro s₁ i s₂ o ⟨pre, post, o', rfl, -⟩ -
  exact h i (by simp) s₁ s₂ o

/-! ### What another machine reads -/

/-- The inputs another machine reads along a run, if it reads `inputs s i` at the step on `i` in `s`. -/
def reads (inputs : σ → ι → List ι') : σ → List ι → List ι'
  | _, [] => []
  | s, i :: is =>
    match M.step s i with
    | none => []
    | some (s', _) => inputs s i ++ reads inputs s' is

theorem reads_cons {inputs : σ → ι → List ι'} {s s' : σ} {i : ι} {is : List ι} {o : List ο}
    (hstep : M.step s i = some (s', o)) :
    M.reads inputs s (i :: is) = inputs s i ++ M.reads inputs s' is := by
  rw [reads, hstep]

/-- Inputs that do not depend on the state are read one after the other. -/
theorem reads_flatMap (f : ι → List ι') :
    ∀ {is : List ι} {s s' : σ} {o : List ο}, M.run s is = some (s', o) →
      M.reads (fun _ => f) s is = is.flatMap f := by
  intro is
  induction is with
  | nil =>
    intro s s' o _
    rfl
  | cons i is ih =>
    intro s s' o hrun
    obtain ⟨s₁, o₁, o₂, h₁, h₂, -⟩ := M.run_cons_some hrun
    rw [M.reads_cons h₁, ih h₂, List.flatMap_cons]

/-- **Forward simulation.** If `M'` follows every step with `P` of `M` over what it reads there, it
follows every run with `P`, and makes the outputs of `M` that `view` keeps. -/
theorem run_simulate {R : σ → σ' → Prop} {P : σ → ι → σ → List ο → Prop} {inputs : σ → ι → List ι'}
    {view : ο → Option ο'}
    (hstep : ∀ s t i s' o, R s t → P s i s' o → M.step s i = some (s', o) →
      ∃ t', M'.run t (inputs s i) = some (t', o.filterMap view) ∧ R s' t') :
    ∀ {is : List ι} {s s' : σ} {t : σ'} {o : List ο}, R s t → M.Along P s is →
      M.run s is = some (s', o) →
        ∃ t', M'.run t (M.reads inputs s is) = some (t', o.filterMap view) ∧ R s' t' := by
  intro is
  induction is with
  | nil =>
    intro s s' t o hR _ hrun
    simp only [run_nil, Option.some.injEq, Prod.mk.injEq] at hrun
    obtain ⟨rfl, rfl⟩ := hrun
    exact ⟨t, rfl, hR⟩
  | cons i is ih =>
    intro s s' t o hR hP hrun
    obtain ⟨s₁, o₁, o₂, h₁, h₂, rfl⟩ := M.run_cons_some hrun
    obtain ⟨hhere, hrest⟩ := (M.along_cons h₁).mp hP
    obtain ⟨t₁, hrun₁, hR₁⟩ := hstep s t i s₁ o₁ hR hhere h₁
    obtain ⟨t₂, hrun₂, hR₂⟩ := ih hR₁ hrest h₂
    refine ⟨t₂, ?_, hR₂⟩
    rw [M.reads_cons h₁, List.filterMap_append]
    exact M'.run_trans hrun₁ hrun₂

/-- What `f` finds in the inputs read at each step and `g` in its outputs, they find along a run. -/
theorem reads_filterMap {β : Type*} {inputs : σ → ι → List ι'} {f : ι' → Option β} {g : ο → Option β}
    (hstep : ∀ s i s' o, M.step s i = some (s', o) → (inputs s i).filterMap f = o.filterMap g) :
    ∀ {is : List ι} {s s' : σ} {o : List ο}, M.run s is = some (s', o) →
      (M.reads inputs s is).filterMap f = o.filterMap g := by
  intro is
  induction is with
  | nil =>
    intro s s' o hrun
    simp only [run_nil, Option.some.injEq, Prod.mk.injEq] at hrun
    obtain ⟨-, rfl⟩ := hrun
    rfl
  | cons i is ih =>
    intro s s' o hrun
    obtain ⟨s₁, o₁, o₂, h₁, h₂, rfl⟩ := M.run_cons_some hrun
    rw [M.reads_cons h₁, List.filterMap_append, List.filterMap_append, hstep s i s₁ o₁ h₁, ih h₂]

/-! ### In lockstep -/

/-- **Lockstep rule.** If related states stop together or show the same and stay related, as long as the
inputs find the first machine with `P`, so do their runs. -/
theorem run_lockstep (M' : StepMachine σ' ι ο) {R : σ → σ' → Prop} {P : σ → ι → Prop}
    (hstep : ∀ s t i, R s t → P s i → (M.step s i = none ∧ M'.step t i = none) ∨
      ∃ s' t' o, M.step s i = some (s', o) ∧ M'.step t i = some (t', o) ∧ R s' t') (is : List ι) :
    ∀ {s : σ} {t : σ'}, R s t → (∀ s₁ i, M.Takes s is s₁ i → P s₁ i) →
      (M.run s is = none ∧ M'.run t is = none) ∨
        ∃ s' t' o, M.run s is = some (s', o) ∧ M'.run t is = some (t', o) ∧ R s' t' := by
  induction is with
  | nil => exact fun hR _ => .inr ⟨_, _, [], rfl, rfl, hR⟩
  | cons i is ih =>
    intro s t hR hP
    rw [run_cons, run_cons]
    rcases hstep s t i hR (hP s i (M.takes_cons.mpr (.inl ⟨rfl, rfl⟩))) with
      ⟨hs, ht⟩ | ⟨s₁, t₁, o₁, hs, ht, hR₁⟩
    · exact .inl ⟨by rw [hs]; rfl, by rw [ht]; rfl⟩
    · rw [hs, ht, Option.bind_some, Option.bind_some]
      have hrest : ∀ s₂ j, M.Takes s₁ is s₂ j → P s₂ j :=
        fun s₂ j htakes => hP s₂ j (M.takes_cons.mpr (.inr ⟨s₁, o₁, hs, htakes⟩))
      rcases ih hR₁ hrest with ⟨hrun, hrun'⟩ | ⟨s', t', o, hrun, hrun', hR'⟩
      · exact .inl ⟨by rw [hrun]; rfl, by rw [hrun']; rfl⟩
      · exact .inr ⟨s', t', o₁ ++ o, by rw [hrun]; rfl, by rw [hrun']; rfl, hR'⟩

/-! ### Reachable states -/

/-- Some continuation leads from `s` to `s'`. -/
def Reaches (s s' : σ) : Prop := ∃ is o, M.run s is = some (s', o)

variable {M} {s s₁ : σ}

/-- What every step keeps is never left. -/
theorem Reaches.invariant {I : σ → Prop} (hstep : ∀ s i s' o, I s → M.step s i = some (s', o) → I s')
    (h : M.Reaches s s₁) (hI : I s) : I s₁ := by
  obtain ⟨is, o, hrun⟩ := h
  exact M.run_invariant hstep hI hrun

end StepMachine
