import Mathlib.Data.List.Forall2
import Mathlib.Data.List.Basic

/-!
# Extended regular expressions over bytes

The part of POSIX extended regular expressions without `*`, `+`, `?` and back references: byte sets,
the two anchors, concatenation, alternation and the interval `{n}`. `Matches s r i j` says that `r`
matches the bytes of `s` from position `i` up to position `j`; as without `REG_NEWLINE`, the anchors
match only at the two ends of `s`. `regexec` searches every starting position (`regexec_iff`).

An expression made of sets, concatenations and intervals only is a fixed word of sets (`word`), and
between two anchors it matches exactly the strings that fit this word set by set (`anchored_word`).
-/

/-- Inclusive ranges of bytes. -/
abbrev ByteSet := List (UInt8 × UInt8)

def ByteSet.Has (bs : ByteSet) (b : UInt8) : Prop := ∃ r ∈ bs, r.1 ≤ b ∧ b ≤ r.2

instance (bs : ByteSet) (b : UInt8) : Decidable (bs.Has b) :=
  inferInstanceAs (Decidable (∃ r ∈ bs, r.1 ≤ b ∧ b ≤ r.2))

inductive Ere where
  | empty
  | set (bs : ByteSet)
  | bol
  | eol
  | seq (a b : Ere)
  | alt (a b : Ere)
  | rep (a : Ere) (n : ℕ)
deriving DecidableEq, Repr

namespace Ere

/-- `n` steps of a relation on positions. -/
def Steps (R : ℕ → ℕ → Prop) : ℕ → ℕ → ℕ → Prop
  | 0, i, j => j = i
  | n + 1, i, j => ∃ k, R i k ∧ Steps R n k j

/-- `r` matches `s` from position `i` to position `j`. -/
def Matches (s : List UInt8) : Ere → ℕ → ℕ → Prop
  | .empty, i, j => j = i
  | .set bs, i, j => (∃ b, s[i]? = some b ∧ bs.Has b) ∧ j = i + 1
  | .bol, i, j => i = 0 ∧ j = i
  | .eol, i, j => i = s.length ∧ j = i
  | .seq a b, i, j => ∃ k, Matches s a i k ∧ Matches s b k j
  | .alt a b, i, j => Matches s a i j ∨ Matches s b i j
  | .rep a n, i, j => Steps (Matches s a) n i j

/-! ### Matching by search -/

def stepEnds (f : ℕ → List ℕ) : ℕ → ℕ → List ℕ
  | 0, i => [i]
  | n + 1, i => (f i).flatMap (stepEnds f n)

/-- The positions where a match that starts at `i` can end. -/
def ends (s : List UInt8) : Ere → ℕ → List ℕ
  | .empty, i => [i]
  | .set bs, i => if ∃ b ∈ s[i]?, bs.Has b then [i + 1] else []
  | .bol, i => if i = 0 then [i] else []
  | .eol, i => if i = s.length then [i] else []
  | .seq a b, i => (ends s a i).flatMap (ends s b)
  | .alt a b, i => ends s a i ++ ends s b i
  | .rep a n, i => stepEnds (ends s a) n i

/-- `regexec`: whether the expression matches somewhere in the string. -/
def regexec (r : Ere) (s : List UInt8) : Bool :=
  (List.range (s.length + 1)).any fun i => !(ends s r i).isEmpty

variable {s : List UInt8}

theorem mem_stepEnds {f : ℕ → List ℕ} {R : ℕ → ℕ → Prop} (h : ∀ i j, j ∈ f i ↔ R i j) (n i j : ℕ) :
    j ∈ stepEnds f n i ↔ Steps R n i j := by
  induction n generalizing i with
  | zero => simp [stepEnds, Steps]
  | succ n ih => simp [stepEnds, Steps, h, ih]

/-- The search finds exactly the matches. -/
theorem mem_ends (r : Ere) (i j : ℕ) : j ∈ ends s r i ↔ Matches s r i j := by
  induction r generalizing i j with
  | empty => simp [ends, Matches]
  | set bs =>
    simp only [ends, Matches, Option.mem_def]
    split <;> simp_all
  | bol =>
    simp only [ends, Matches]
    split <;> simp_all
  | eol =>
    simp only [ends, Matches]
    split <;> simp_all
  | seq a b iha ihb => simp [ends, Matches, iha, ihb]
  | alt a b iha ihb => simp [ends, Matches, iha, ihb]
  | rep a n ih => exact mem_stepEnds ih n i j

theorem regexec_iff (r : Ere) (s : List UInt8) :
    regexec r s = true ↔ ∃ i j, i ≤ s.length ∧ Matches s r i j := by
  have hends : ∀ i, (!(ends s r i).isEmpty) = true ↔ ∃ j, Matches s r i j := by
    intro i
    rw [Bool.not_eq_true', List.isEmpty_eq_false_iff_exists_mem]
    exact exists_congr fun j => mem_ends r i j
  simp only [regexec, List.any_eq_true, List.mem_range, hends, Nat.lt_succ_iff]
  exact ⟨fun ⟨i, hi, j, h⟩ => ⟨i, j, hi, h⟩, fun ⟨i, j, hi, h⟩ => ⟨i, hi, j, h⟩⟩

/-! ### Words -/

/-- The expressions one after the other. -/
def cat : List Ere → Ere
  | [] => .empty
  | r :: rs => .seq r (cat rs)

/-- The word of sets an expression stands for, if it has neither anchors nor alternatives. -/
def word : Ere → Option (List ByteSet)
  | .empty => some []
  | .set bs => some [bs]
  | .bol => none
  | .eol => none
  | .seq a b => do
    let u ← word a
    let v ← word b
    return u ++ v
  | .alt _ _ => none
  | .rep a n => (word a).map fun u => (List.replicate n u).flatten

/-- From position `i` to position `j` stand bytes of the sets of `w`, one each. -/
def Fits (s : List UInt8) (w : List ByteSet) (i j : ℕ) : Prop :=
  ∃ u rest, s.drop i = u ++ rest ∧ j = i + u.length ∧ List.Forall₂ ByteSet.Has w u

theorem fits_nil (i j : ℕ) : Fits s [] i j ↔ j = i := by
  simp [Fits]

theorem fits_append (v w : List ByteSet) (i j : ℕ) :
    Fits s (v ++ w) i j ↔ ∃ k, Fits s v i k ∧ Fits s w k j := by
  constructor
  · intro h
    obtain ⟨u, rest, hdrop, hj, hfit⟩ := h
    obtain ⟨u₁, u₂, rfl, hv, hw⟩ : ∃ u₁ u₂, u = u₁ ++ u₂ ∧ List.Forall₂ ByteSet.Has v u₁ ∧
        List.Forall₂ ByteSet.Has w u₂ := by
      refine ⟨u.take v.length, u.drop v.length, (List.take_append_drop _ u).symm, ?_, ?_⟩
      · simpa using List.forall₂_take v.length hfit
      · simpa using List.forall₂_drop v.length hfit
    rw [List.append_assoc] at hdrop
    refine ⟨i + u₁.length, ⟨u₁, u₂ ++ rest, hdrop, rfl, hv⟩, ⟨u₂, rest, ?_, ?_, hw⟩⟩
    · rw [← List.drop_drop, hdrop, List.drop_left]
    · rw [hj, List.length_append, Nat.add_assoc]
  · intro h
    obtain ⟨k, ⟨u, rest, hdrop, hk, hv⟩, u', rest', hdrop', hj, hw⟩ := h
    refine ⟨u ++ u', rest', ?_, ?_, List.rel_append hv hw⟩
    · rw [hk, ← List.drop_drop, hdrop, List.drop_left] at hdrop'
      rw [hdrop, hdrop', List.append_assoc]
    · rw [hj, hk, List.length_append, Nat.add_assoc]

theorem fits_replicate (w : List ByteSet) (n i j : ℕ) :
    Fits s (List.replicate n w).flatten i j ↔ Steps (Fits s w) n i j := by
  induction n generalizing i with
  | zero => exact fits_nil i j
  | succ n ih =>
    rw [List.replicate_succ, List.flatten_cons, fits_append]
    simp only [Steps, ih]

theorem fits_singleton (bs : ByteSet) (i j : ℕ) :
    Fits s [bs] i j ↔ (∃ b, s[i]? = some b ∧ bs.Has b) ∧ j = i + 1 := by
  constructor
  · intro h
    obtain ⟨u, rest, hdrop, hj, hfit⟩ := h
    obtain ⟨b, _, hb, hnil, rfl⟩ := List.forall₂_cons_left_iff.mp hfit
    rw [List.forall₂_nil_left_iff] at hnil
    subst hnil
    have hget : s[i]? = some b := by
      rw [← Nat.add_zero i, ← List.getElem?_drop, hdrop]
      rfl
    exact ⟨⟨b, hget, hb⟩, hj⟩
  · intro h
    obtain ⟨⟨b, hget, hb⟩, hj⟩ := h
    obtain ⟨hlt, hb'⟩ := List.getElem?_eq_some_iff.mp hget
    refine ⟨[b], s.drop (i + 1), ?_, hj, List.Forall₂.cons hb .nil⟩
    rw [List.drop_eq_getElem_cons hlt, hb']
    rfl

/-- An expression with a word matches exactly what fits the word. -/
theorem matches_word {r : Ere} {w : List ByteSet} (hw : word r = some w) (i j : ℕ) :
    Matches s r i j ↔ Fits s w i j := by
  induction r generalizing w i j with
  | empty =>
    obtain rfl := Option.some.inj hw
    rw [fits_nil]
    rfl
  | set bs =>
    obtain rfl := Option.some.inj hw
    rw [fits_singleton]
    rfl
  | bol => cases hw
  | eol => cases hw
  | seq a b iha ihb =>
    simp only [word, Option.bind_eq_bind, Option.bind_eq_some_iff] at hw
    obtain ⟨u, hu, v, hv, heq⟩ := hw
    obtain rfl := Option.some.inj heq
    simp only [Matches, fits_append, iha hu, ihb hv]
  | alt a b iha ihb => cases hw
  | rep a n ih =>
    simp only [word, Option.map_eq_some_iff] at hw
    obtain ⟨u, hu, rfl⟩ := hw
    have hstep : Matches s a = Fits s u := by
      funext i j
      exact propext (ih hu i j)
    simp only [Matches, fits_replicate, hstep]

/-! ### Anchored expressions -/

theorem matches_cat_append (rs ts : List Ere) (i j : ℕ) :
    Matches s (cat (rs ++ ts)) i j ↔ ∃ k, Matches s (cat rs) i k ∧ Matches s (cat ts) k j := by
  induction rs generalizing i with
  | nil => simp [cat, Matches]
  | cons r rs ih =>
    simp only [List.cons_append, cat, Matches, ih]
    constructor
    · exact fun ⟨k, hr, l, hrs, hts⟩ => ⟨l, ⟨k, hr, hrs⟩, hts⟩
    · exact fun ⟨l, ⟨k, hr, hrs⟩, hts⟩ => ⟨k, hr, l, hrs, hts⟩

/-- Between two anchors an expression matches the whole string or nothing. -/
theorem regexec_anchored (rs : List Ere) (s : List UInt8) :
    regexec (cat (.bol :: (rs ++ [.eol]))) s = true ↔ Matches s (cat rs) 0 s.length := by
  rw [regexec_iff]
  simp only [cat, Matches, matches_cat_append]
  constructor
  · intro h
    obtain ⟨i, j, -, _, ⟨rfl, rfl⟩, k, hrs, _, ⟨rfl, -⟩, -⟩ := h
    exact hrs
  · intro h
    exact ⟨0, s.length, Nat.zero_le _, 0, ⟨rfl, rfl⟩, s.length, h, s.length, ⟨rfl, rfl⟩, rfl⟩

theorem matches_all_of_word {r : Ere} {w : List ByteSet} (hw : word r = some w) :
    Matches s r 0 s.length ↔ List.Forall₂ ByteSet.Has w s := by
  rw [matches_word hw]
  constructor
  · intro h
    obtain ⟨u, rest, hdrop, hlen, hfit⟩ := h
    have hnil : rest = [] := by
      have hlength := congrArg List.length hdrop
      rw [List.drop_zero, List.length_append] at hlength
      exact List.length_eq_zero_iff.mp (by omega)
    rw [List.drop_zero, hnil, List.append_nil] at hdrop
    rwa [hdrop]
  · exact fun h => ⟨s, [], by simp, by simp, h⟩

/-- **An anchored word is a fixed-length shape.** -/
theorem anchored_word {rs : List Ere} {w : List ByteSet} (hw : word (cat rs) = some w)
    (s : List UInt8) :
    regexec (cat (.bol :: (rs ++ [.eol]))) s = true ↔ List.Forall₂ ByteSet.Has w s := by
  rw [regexec_anchored, matches_all_of_word hw]

end Ere
