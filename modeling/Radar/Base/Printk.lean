import Mathlib.Algebra.Ring.Nat
import Mathlib.Data.Nat.Log

/-!
# Formatted printing into C strings

`printk` and `snprintk` on bytes, for the conversions `%s`, `%u` and `%d` without flags or widths. A
format that asks for anything else, or for an argument it is not given or of another type, is undefined
(`none`). A buffer is the list of its bytes up to the last one written; what C reads of it as a string
ends before the first NUL byte.
-/

namespace Printk

/-- The bytes of a string literal, in UTF-8. -/
def bytes (s : String) : List UInt8 := s.toList.flatMap String.utf8EncodeChar

inductive Arg where
  | str (s : List UInt8)
  | uint (n : UInt32)
  | int (n : Int32)
deriving DecidableEq, Repr

def decimal (n : ℕ) : List UInt8 := (Nat.toDigits 10 n).map Char.toUInt8

def signed (z : Int) : List UInt8 := if z < 0 then 45 :: decimal z.natAbs else decimal z.natAbs

/-- The conversion with the letter `c`: `s`, `u` or `d`. -/
def convert (c : UInt8) : Arg → Option (List UInt8)
  | .str s => if c = 115 then some s else none
  | .uint n => if c = 117 then some (decimal n.toNat) else none
  | .int n => if c = 100 then some (signed n.toInt) else none

/-- The text of a format; `%` is the byte 37. Arguments left over are ignored. -/
def format : List UInt8 → List Arg → Option (List UInt8)
  | [], _ => some []
  | [c], _ => if c = 37 then none else some [c]
  | c :: d :: fmt, args =>
    if c = 37 then
      match args with
      | [] => none
      | arg :: args => do
        let text ← convert d arg
        let rest ← format fmt args
        return text ++ rest
    else do
      let rest ← format (d :: fmt) args
      return c :: rest

/-- The bytes C reads at the start of a buffer as a string. -/
def cstr (buf : List UInt8) : List UInt8 := buf.takeWhile (· ≠ 0)

def strlen (buf : List UInt8) : ℕ := (cstr buf).length

/-- What `snprintk` leaves in a buffer of `size` bytes. -/
def snprintk (size : ℕ) (fmt : List UInt8) (args : List Arg) : Option (List UInt8) :=
  (format fmt args).map fun text => if size = 0 then [] else text.take (size - 1) ++ [0]

/-! ### Formats piece by piece -/

theorem format_cons {c : UInt8} (hc : c ≠ 37) (fmt : List UInt8) (args : List Arg) :
    format (c :: fmt) args = (format fmt args).map (c :: ·) := by
  cases fmt with
  | nil => simp [format, hc]
  | cons d fmt =>
    simp only [format, if_neg hc]
    cases format (d :: fmt) args with
    | none => rfl
    | some rest => rfl

/-- Text without a conversion is copied. -/
theorem format_text {text : List UInt8} (h : 37 ∉ text) (fmt : List UInt8) (args : List Arg) :
    format (text ++ fmt) args = (format fmt args).map (text ++ ·) := by
  induction text with
  | nil => simp
  | cons c text ih =>
    rw [List.mem_cons, not_or] at h
    rw [List.cons_append, format_cons (Ne.symm h.1), ih h.2, Option.map_map]
    rfl

@[simp] theorem convert_str (s : List UInt8) : convert 115 (.str s) = some s := rfl

@[simp] theorem convert_uint (n : UInt32) : convert 117 (.uint n) = some (decimal n.toNat) := rfl

@[simp] theorem convert_int (n : Int32) : convert 100 (.int n) = some (signed n.toInt) := rfl

/-- A conversion takes the next argument. -/
theorem format_conversion {c : UInt8} {arg : Arg} {text : List UInt8} (h : convert c arg = some text)
    (fmt : List UInt8) (args : List Arg) :
    format (37 :: c :: fmt) (arg :: args) = (format fmt args).map (text ++ ·) := by
  simp only [format, if_pos, h]
  cases format fmt args with
  | none => rfl
  | some rest => rfl

theorem format_end {text : List UInt8} (h : 37 ∉ text) (args : List Arg) :
    format text args = some text := by
  have happend := format_text h [] args
  rwa [List.append_nil, format, Option.map_some, List.append_nil] at happend

example : format (bytes "%s at %d") [.str (bytes "v"), .int (-7)] = some (bytes "v at -7") := by decide

/-! ### Widths -/

/-- The number of decimal digits. -/
def digits (n : ℕ) : ℕ := Nat.log 10 n + 1

def width (z : Int) : ℕ := (if z < 0 then 1 else 0) + digits z.natAbs

@[simp] theorem length_decimal (n : ℕ) : (decimal n).length = digits n := by
  have hpow : n < 10 ^ digits n := Nat.lt_pow_succ_log_self (by decide) n
  have hle : (Nat.toDigits 10 n).length ≤ digits n :=
    (Nat.length_toDigits_le_iff (by decide) (Nat.succ_pos _)).mpr hpow
  have hge : digits n ≤ (Nat.toDigits 10 n).length := by
    have hlt : n < 10 ^ (Nat.toDigits 10 n).length :=
      (Nat.length_toDigits_le_iff (by decide) Nat.length_toDigits_pos).mp (le_refl _)
    exact Nat.log_lt_of_lt_pow' (Nat.ne_of_gt Nat.length_toDigits_pos) hlt
  rw [decimal, List.length_map]
  omega

@[simp] theorem length_signed (z : Int) : (signed z).length = width z := by
  unfold signed width
  split_ifs
  · rw [List.length_cons, length_decimal]
    omega
  · rw [length_decimal]
    omega

theorem digits_le {n k : ℕ} (hk : k ≠ 0) (h : n < 10 ^ k) : digits n ≤ k :=
  Nat.log_lt_of_lt_pow' hk h

/-! ### No NUL byte -/

theorem zero_notMem_decimal (n : ℕ) : 0 ∉ decimal n := by
  unfold decimal
  rw [List.mem_map]
  rintro ⟨c, hc, hzero⟩
  have hdigit : c.isDigit := Nat.isDigit_of_mem_toDigits (by decide) (by decide) hc
  have hbyte : c.val.toNat % 256 = 0 := by
    rw [← UInt32.toNat_toUInt8]
    exact congrArg UInt8.toNat hzero
  simp only [Char.isDigit, Bool.and_eq_true, decide_eq_true_eq, ge_iff_le,
    UInt32.le_iff_toNat_le] at hdigit
  have hlow : 48 ≤ c.val.toNat := hdigit.1
  have hhigh : c.val.toNat ≤ 57 := hdigit.2
  omega

theorem zero_notMem_signed (z : Int) : 0 ∉ signed z := by
  unfold signed
  split_ifs
  · rw [List.mem_cons, not_or]
    exact ⟨by decide, zero_notMem_decimal _⟩
  · exact zero_notMem_decimal _

theorem zero_notMem_convert {c : UInt8} {arg : Arg} {text : List UInt8}
    (h : convert c arg = some text) (hstr : ∀ s, arg = .str s → 0 ∉ s) : 0 ∉ text := by
  cases arg with
  | str s =>
    simp only [convert, Option.ite_none_right_eq_some, Option.some.injEq] at h
    rw [← h.2]
    exact hstr s rfl
  | uint n =>
    simp only [convert, Option.ite_none_right_eq_some, Option.some.injEq] at h
    rw [← h.2]
    exact zero_notMem_decimal _
  | int n =>
    simp only [convert, Option.ite_none_right_eq_some, Option.some.injEq] at h
    rw [← h.2]
    exact zero_notMem_signed _

/-- A format without NUL and strings without NUL give a text without NUL. -/
theorem zero_notMem_format {fmt : List UInt8} {args : List Arg} {text : List UInt8}
    (h : format fmt args = some text) (hfmt : 0 ∉ fmt) (hstr : ∀ s, .str s ∈ args → 0 ∉ s) :
    0 ∉ text := by
  fun_induction format fmt args generalizing text with
  | case1 args =>
    cases h
    exact List.not_mem_nil
  | case2 args =>
    cases h
  | case3 c args hc =>
    cases h
    exact hfmt
  | case4 d fmt =>
    cases h
  | case5 d fmt arg args ih =>
    simp only [Option.bind_eq_bind, Option.bind_eq_some_iff] at h
    obtain ⟨head, hhead, rest, hrest, htext⟩ := h
    cases htext
    rw [List.mem_append, not_or]
    refine ⟨zero_notMem_convert hhead ?_, ih hrest ?_ ?_⟩
    · intro s hs
      exact hstr s (by rw [hs]; exact List.mem_cons_self)
    · intro hzero
      exact hfmt (List.mem_cons_of_mem _ (List.mem_cons_of_mem _ hzero))
    · intro s hs
      exact hstr s (List.mem_cons_of_mem _ hs)
  | case6 c d fmt args hc ih =>
    simp only [Option.bind_eq_bind, Option.bind_eq_some_iff] at h
    obtain ⟨rest, hrest, htext⟩ := h
    cases htext
    rw [List.mem_cons, not_or]
    refine ⟨fun hzero => hfmt (hzero ▸ List.mem_cons_self), ih hrest ?_ hstr⟩
    exact fun hzero => hfmt (List.mem_cons_of_mem _ hzero)

/-- C reads back what was written before the terminator. -/
theorem cstr_terminated {text : List UInt8} (h : 0 ∉ text) : cstr (text ++ [0]) = text := by
  unfold cstr
  rw [List.takeWhile_append_of_pos]
  · simp
  · intro b hb
    have hne : b ≠ 0 := fun hzero => h (hzero ▸ hb)
    simpa using hne

/-- A text that fits with its terminator is what the buffer holds as a string. -/
theorem snprintk_fits {size : ℕ} {fmt : List UInt8} {args : List Arg} {text : List UInt8}
    (h : format fmt args = some text) (hnul : 0 ∉ text) (hlen : text.length < size) :
    snprintk size fmt args = some (text ++ [0]) ∧ cstr (text ++ [0]) = text := by
  refine ⟨?_, cstr_terminated hnul⟩
  rw [snprintk, h, Option.map_some, if_neg (by omega), List.take_of_length_le (by omega)]

end Printk
