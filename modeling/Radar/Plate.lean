import Radar.Base.Regcomp

/-!
# `plate.c`: licence plates

Each validator compiles a pattern and asks `regexec` whether the string matches. The patterns are fixed
words between two anchors (two words for Paraguay), so a validator accepts exactly the strings of one
shape of letters, digits and spaces. A byte is of one kind at most; different shapes therefore have no
string in common, and every accepted plate belongs to one country.
-/

namespace Radar

/-- A NUL-terminated string, without its terminator. -/
structure CString where
  bytes : List UInt8
  noNul : 0 ∉ bytes

/-- `plate_match_pattern`: a pattern that does not compile matches nothing. -/
def plateMatchPattern (plate : CString) (pattern : String) : Bool :=
  match Ere.regcomp pattern with
  | none => false
  | some rx => Ere.regexec rx plate.bytes

def plateIsBr (plate : CString) : Bool := plateMatchPattern plate "^[A-Z]{3}[0-9]{1}[A-Z]{1}[0-9]{2}$"

def plateIsAr (plate : CString) : Bool := plateMatchPattern plate "^[A-Z]{2} [0-9]{3} [A-Z]{2}$"

def plateIsPr (plate : CString) : Bool :=
  plateMatchPattern plate "^([A-Z]{4} [0-9]{3}|[0-9]{3} [A-Z]{4})$"

def plateIsUr (plate : CString) : Bool := plateMatchPattern plate "^[A-Z]{3} [0-9]{4}$"

def plateIsBo (plate : CString) : Bool := plateMatchPattern plate "^[A-Z]{2} [0-9]{5}$"

def plateIsValidMercosul (plate : CString) : Bool :=
  plateIsBr plate || plateIsAr plate || plateIsPr plate || plateIsUr plate || plateIsBo plate

/-! ### Shapes -/

/-- The kinds of characters of a plate: a letter, a digit, or a space. -/
inductive Kind where
  | L
  | D
  | sp
deriving DecidableEq, Repr

/-- ASCII `A`-`Z`, ASCII `0`-`9`, and the space. -/
def Kind.Accepts : Kind → UInt8 → Prop
  | .L, b => 65 ≤ b ∧ b ≤ 90
  | .D, b => 48 ≤ b ∧ b ≤ 57
  | .sp, b => b = 32

/-- The string has one byte of each kind of the shape, in order, and nothing else. -/
def Shape (kinds : List Kind) (s : CString) : Prop := List.Forall₂ Kind.Accepts kinds s.bytes

open Kind

/-- `LLLDLDD`. -/
def shapeBr : List Kind := [L, L, L, D, L, D, D]

/-- `LL DDD LL`. -/
def shapeAr : List Kind := [L, L, sp, D, D, D, sp, L, L]

/-- `LLLL DDD`. -/
def shapePr : List Kind := [L, L, L, L, sp, D, D, D]

/-- `DDD LLLL`, for motorcycles. -/
def shapePrMotorcycle : List Kind := [D, D, D, sp, L, L, L, L]

/-- `LLL DDDD`. -/
def shapeUr : List Kind := [L, L, L, sp, D, D, D, D]

/-- `LL DDDDD`. -/
def shapeBo : List Kind := [L, L, sp, D, D, D, D, D]

def Kind.set : Kind → ByteSet
  | .L => [(65, 90)]
  | .D => [(48, 57)]
  | .sp => [(32, 32)]

theorem set_has (k : Kind) (b : UInt8) : k.set.Has b ↔ k.Accepts b := by
  cases k with
  | L => simp [Kind.set, ByteSet.Has, Kind.Accepts]
  | D => simp [Kind.set, ByteSet.Has, Kind.Accepts]
  | sp =>
    simp only [Kind.set, ByteSet.Has, Kind.Accepts, List.mem_singleton, exists_eq_left]
    exact ⟨fun h => UInt8.le_antisymm h.2 h.1, fun h => h ▸ ⟨UInt8.le_refl _, UInt8.le_refl _⟩⟩

theorem forall₂_set (kinds : List Kind) (s : List UInt8) :
    List.Forall₂ ByteSet.Has (kinds.map Kind.set) s ↔ List.Forall₂ Kind.Accepts kinds s := by
  rw [List.forall₂_map_left_iff]
  simp only [set_has]

/-- The range of the bytes of a kind. -/
def Kind.range : Kind → ℕ × ℕ
  | .L => (65, 90)
  | .D => (48, 57)
  | .sp => (32, 32)

theorem accepts_range {k : Kind} {b : UInt8} (h : k.Accepts b) :
    k.range.1 ≤ b.toNat ∧ b.toNat ≤ k.range.2 := by
  cases k with
  | L => exact ⟨UInt8.le_iff_toNat_le.mp h.1, UInt8.le_iff_toNat_le.mp h.2⟩
  | D => exact ⟨UInt8.le_iff_toNat_le.mp h.1, UInt8.le_iff_toNat_le.mp h.2⟩
  | sp =>
    rw [show b = 32 from h]
    decide

/-- A byte is of one kind at most. -/
theorem accepts_unique {k k' : Kind} {b : UInt8} (h : k.Accepts b) (h' : k'.Accepts b) : k = k' := by
  have hrange := accepts_range h
  have hrange' := accepts_range h'
  cases k <;> cases k' <;> simp only [Kind.range] at hrange hrange' <;> first | rfl | omega

/-- A string has one shape at most. -/
theorem shape_unique {p q : List Kind} {s : CString} (hp : Shape p s) (hq : Shape q s) : p = q := by
  have hunique : Relator.LeftUnique Kind.Accepts := fun _ _ _ h h' => accepts_unique h h'
  exact List.left_unique_forall₂' hunique hp hq

/-! ### The validators -/

theorem match_of_word {pattern : String} (rs : List Ere) {kinds : List Kind}
    (hcomp : Ere.regcomp pattern = some (Ere.cat (.bol :: (rs ++ [.eol]))))
    (hword : Ere.word (Ere.cat rs) = some (kinds.map Kind.set)) (s : CString) :
    plateMatchPattern s pattern = true ↔ Shape kinds s := by
  simp only [plateMatchPattern, hcomp]
  rw [Ere.anchored_word hword, forall₂_set]
  rfl

theorem plateIsBr_iff (s : CString) : plateIsBr s = true ↔ Shape shapeBr s :=
  match_of_word [.rep (.set L.set) 3, .rep (.set D.set) 1, .rep (.set L.set) 1, .rep (.set D.set) 2]
    (by decide) (by decide) s

theorem plateIsAr_iff (s : CString) : plateIsAr s = true ↔ Shape shapeAr s :=
  match_of_word [.rep (.set L.set) 2, .set sp.set, .rep (.set D.set) 3, .set sp.set,
    .rep (.set L.set) 2] (by decide) (by decide) s

theorem plateIsUr_iff (s : CString) : plateIsUr s = true ↔ Shape shapeUr s :=
  match_of_word [.rep (.set L.set) 3, .set sp.set, .rep (.set D.set) 4] (by decide) (by decide) s

theorem plateIsBo_iff (s : CString) : plateIsBo s = true ↔ Shape shapeBo s :=
  match_of_word [.rep (.set L.set) 2, .set sp.set, .rep (.set D.set) 5] (by decide) (by decide) s

/-- The two alternatives of the Paraguayan pattern. -/
def prAlternatives : Ere × Ere :=
  (.cat [.rep (.set L.set) 4, .set sp.set, .rep (.set D.set) 3],
    .cat [.rep (.set D.set) 3, .set sp.set, .rep (.set L.set) 4])

theorem plateIsPr_iff (s : CString) :
    plateIsPr s = true ↔ Shape shapePr s ∨ Shape shapePrMotorcycle s := by
  have hcomp : Ere.regcomp "^([A-Z]{4} [0-9]{3}|[0-9]{3} [A-Z]{4})$" =
      some (Ere.cat (.bol :: ([.alt prAlternatives.1 prAlternatives.2] ++ [.eol]))) := by
    decide
  have hcar : Ere.word prAlternatives.1 = some (shapePr.map Kind.set) := by decide
  have hmotorcycle : Ere.word prAlternatives.2 = some (shapePrMotorcycle.map Kind.set) := by decide
  simp only [plateIsPr, plateMatchPattern, hcomp]
  rw [Ere.regexec_anchored]
  simp only [Ere.cat, Ere.Matches, exists_eq_right', Ere.matches_all_of_word hcar,
    Ere.matches_all_of_word hmotorcycle, forall₂_set]
  rfl

/-- The five validators, each with the shapes of its country. -/
def grammar : List ((CString → Bool) × List (List Kind)) :=
  [(plateIsBr, [shapeBr]), (plateIsAr, [shapeAr]), (plateIsPr, [shapePr, shapePrMotorcycle]),
    (plateIsUr, [shapeUr]), (plateIsBo, [shapeBo])]

def validators : List (CString → Bool) := grammar.map Prod.fst

theorem grammar_sound (s : CString) : ∀ c ∈ grammar, c.1 s = true ↔ ∃ p ∈ c.2, Shape p s := by
  intro c hc
  simp only [grammar, List.mem_cons, List.not_mem_nil, or_false] at hc
  rcases hc with rfl | rfl | rfl | rfl | rfl
  · simp [plateIsBr_iff]
  · simp [plateIsAr_iff]
  · simp [plateIsPr_iff]
  · simp [plateIsUr_iff]
  · simp [plateIsBo_iff]

theorem grammar_disjoint : grammar.Pairwise fun c c' => ∀ p ∈ c.2, p ∉ c'.2 := by
  rw [← List.pairwise_map (f := Prod.snd) (R := fun ps qs => ∀ p ∈ ps, p ∉ qs)]
  decide

/-- No string is accepted by two validators. -/
theorem validators_disjoint (s : CString) :
    validators.Pairwise fun f g => ¬ (f s = true ∧ g s = true) := by
  rw [validators, List.pairwise_map]
  refine grammar_disjoint.imp_of_mem fun {c c'} hc hc' hdisjoint hboth => ?_
  obtain ⟨p, hp, hshape⟩ := (grammar_sound s c hc).mp hboth.1
  obtain ⟨q, hq, hshape'⟩ := (grammar_sound s c' hc').mp hboth.2
  obtain rfl := shape_unique hshape hshape'
  exact hdisjoint p hp hq

theorem countP_le_one {α : Type} {p : α → Bool} {l : List α}
    (h : l.Pairwise fun a b => ¬ (p a = true ∧ p b = true)) : l.countP p ≤ 1 := by
  induction l with
  | nil => simp
  | cons a l ih =>
    obtain ⟨hhead, htail⟩ := List.pairwise_cons.mp h
    rw [List.countP_cons]
    by_cases ha : p a = true
    · have hnone : l.countP p = 0 := by
        rw [List.countP_eq_zero]
        exact fun b hb hpb => hhead b hb ⟨ha, hpb⟩
      simp [ha, hnone]
    · simpa [ha] using ih htail

theorem plateIsValidMercosul_iff (s : CString) :
    plateIsValidMercosul s = true ↔ validators.countP (fun f => f s) = 1 := by
  have hany : plateIsValidMercosul s = validators.any fun f => f s := by
    simp [plateIsValidMercosul, validators, grammar, Bool.or_assoc]
  have hle := countP_le_one (validators_disjoint s)
  rw [hany, List.any_eq_true, ← List.countP_pos_iff]
  omega

/-- **The validators accept exactly the Mercosul grammar, each plate for one country.** -/
theorem plate_grammar (s : CString) :
    (plateIsBr s = true ↔ Shape shapeBr s) ∧ (plateIsAr s = true ↔ Shape shapeAr s) ∧
      (plateIsPr s = true ↔ Shape shapePr s ∨ Shape shapePrMotorcycle s) ∧
      (plateIsUr s = true ↔ Shape shapeUr s) ∧ (plateIsBo s = true ↔ Shape shapeBo s) ∧
      validators.Pairwise (fun f g => ¬ (f s = true ∧ g s = true)) ∧
      (plateIsValidMercosul s = true ↔ validators.countP (fun f => f s) = 1) :=
  ⟨plateIsBr_iff s, plateIsAr_iff s, plateIsPr_iff s, plateIsUr_iff s, plateIsBo_iff s,
    validators_disjoint s, plateIsValidMercosul_iff s⟩

end Radar
