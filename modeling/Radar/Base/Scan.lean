import Mathlib.Data.List.Basic
import Radar.Base.Printk

/-!
# Reading formatted text back

`scan` reads a text with the format it was printed with. `%u` and `%d` take all the digits there are, and
`%s` everything up to the next byte of the format, or up to the end. If it can be told where each argument
ends (`Delimited`), what was printed is read back (`scan_format`).

A text of lines that each end in a newline is read line by line (`mapM_splitLines`).
-/

namespace Printk

def isDigit (b : UInt8) : Bool := 48 ≤ b && b ≤ 57

def readNat (ds : List UInt8) : ℕ := ds.foldl (fun n b => 10 * n + (b.toNat - 48)) 0

/-- The digits at the start of a text, at least one, and what follows. -/
def scanNat (text : List UInt8) : Option (ℕ × List UInt8) :=
  if text.takeWhile isDigit = [] then none
  else some (readNat (text.takeWhile isDigit), text.dropWhile isDigit)

def scanInt : List UInt8 → Option (Int × List UInt8)
  | [] => none
  | b :: text =>
    if b = 45 then (scanNat text).map fun r => (-(r.1 : Int), r.2)
    else (scanNat (b :: text)).map fun r => ((r.1 : Int), r.2)

/-- The conversion with the letter `c`; `stop` is the byte of the format behind it. -/
def scanArg (c : UInt8) (stop : Option UInt8) (text : List UInt8) : Option (Arg × List UInt8) :=
  if c = 115 then
    some (.str (text.takeWhile fun b => some b ≠ stop), text.dropWhile fun b => some b ≠ stop)
  else if c = 117 then (scanNat text).map fun r => (.uint (UInt32.ofNat r.1), r.2)
  else if c = 100 then (scanInt text).map fun r => (.int (Int32.ofInt r.1), r.2)
  else none

/-- The arguments of a text in a format, if it has that format. -/
def scan : List UInt8 → List UInt8 → Option (List Arg)
  | [], text => if text = [] then some [] else none
  | [c], text => if c ≠ 37 ∧ text = [c] then some [] else none
  | c :: d :: fmt, text =>
    if c = 37 then do
      let (arg, rest) ← scanArg d fmt.head? text
      let args ← scan fmt rest
      return arg :: args
    else
      match text with
      | [] => none
      | b :: rest => if b = c then scan (d :: fmt) rest else none

/-! ### Where an argument ends -/

/-- The byte behind an argument does not belong to it. -/
def Arg.EndsAt : Arg → Option UInt8 → Prop
  | .str s, stop => ∀ b ∈ stop, b ∉ s
  | _, stop => ∀ b ∈ stop, isDigit b = false

/-- Every argument ends at a byte of the format that is no conversion, and none is left over. -/
def Delimited : List UInt8 → List Arg → Prop
  | [], args => args = []
  | [_], args => args = []
  | c :: d :: fmt, args =>
    if c = 37 then
      match args with
      | [] => False
      | arg :: args => (fmt.head? ≠ some 37 ∧ arg.EndsAt fmt.head?) ∧ Delimited fmt args
    else Delimited (d :: fmt) args

theorem delimited_cons {c : UInt8} (hc : c ≠ 37) (fmt : List UInt8) (args : List Arg) :
    Delimited (c :: fmt) args ↔ Delimited fmt args := by
  cases fmt with
  | nil => rfl
  | cons d fmt => simp only [Delimited, if_neg hc]

theorem delimited_text {text : List UInt8} (h : 37 ∉ text) (fmt : List UInt8) (args : List Arg) :
    Delimited (text ++ fmt) args ↔ Delimited fmt args := by
  induction text with
  | nil => rfl
  | cons c text ih =>
    rw [List.mem_cons, not_or] at h
    rw [List.cons_append, delimited_cons (Ne.symm h.1), ih h.2]

theorem delimited_conversion {c : UInt8} {fmt : List UInt8} {arg : Arg} {args : List Arg}
    (hstop : fmt.head? ≠ some 37) (hends : arg.EndsAt fmt.head?) (h : Delimited fmt args) :
    Delimited (37 :: c :: fmt) (arg :: args) := by
  simp only [Delimited, if_true]
  exact ⟨⟨hstop, hends⟩, h⟩

theorem delimited_end {text : List UInt8} (h : 37 ∉ text) : Delimited text [] := by
  have happend := delimited_text h [] []
  rw [List.append_nil] at happend
  exact happend.mpr rfl

/-! ### Numbers -/

theorem isDigit_decimal (n : ℕ) : ∀ b ∈ decimal n, isDigit b = true := by
  intro b hb
  obtain ⟨c, hc, rfl⟩ := List.mem_map.mp hb
  have hdigit : c.isDigit := Nat.isDigit_of_mem_toDigits (by decide) (by decide) hc
  simp only [Char.isDigit, Bool.and_eq_true, decide_eq_true_eq, ge_iff_le, UInt32.le_iff_toNat_le] at hdigit
  have hlow : 48 ≤ c.val.toNat := hdigit.1
  have hhigh : c.val.toNat ≤ 57 := hdigit.2
  have hbyte : c.toUInt8.toNat = c.val.toNat := by
    rw [Char.toUInt8, UInt32.toNat_toUInt8]
    omega
  simp only [isDigit, Bool.and_eq_true, decide_eq_true_eq, UInt8.le_iff_toNat_le, hbyte]
  exact ⟨hlow, hhigh⟩

theorem decimal_ne_nil (n : ℕ) : decimal n ≠ [] := by
  rw [decimal, ne_eq, List.map_eq_nil_iff]
  exact Nat.toDigits_ne_nil

theorem readNat_decimal (n : ℕ) : readNat (decimal n) = n := by
  have hdigits : readNat (decimal n) = Nat.ofDigitChars 10 (Nat.toDigits 10 n) 0 := by
    rw [readNat, decimal, List.foldl_map, Nat.ofDigitChars_eq_foldl]
    apply List.foldl_ext
    intro acc c hc
    have hdigit : c.isDigit := Nat.isDigit_of_mem_toDigits (by decide) (by decide) hc
    simp only [Char.isDigit, Bool.and_eq_true, decide_eq_true_eq, ge_iff_le,
      UInt32.le_iff_toNat_le] at hdigit
    have hhigh : c.val.toNat ≤ 57 := hdigit.2
    have hbyte : c.toUInt8.toNat = c.toNat := by
      rw [Char.toUInt8, UInt32.toNat_toUInt8]
      show c.val.toNat % 256 = c.val.toNat
      omega
    rw [hbyte]
    rfl
  rw [hdigits, Nat.ofDigitChars_ten_toDigits]

/-- A prefix with a property, in front of something that begins without it. -/
theorem span_append {p : UInt8 → Bool} {s rest : List UInt8} (hs : ∀ b ∈ s, p b = true)
    (hrest : ∀ b ∈ rest.head?, p b = false) :
    (s ++ rest).takeWhile p = s ∧ (s ++ rest).dropWhile p = rest := by
  have hstop : rest.takeWhile p = [] ∧ rest.dropWhile p = rest := by
    cases rest with
    | nil => exact ⟨rfl, rfl⟩
    | cons b rest => simp [hrest b rfl]
  rw [List.takeWhile_append_of_pos hs, List.dropWhile_append_of_pos hs, hstop.1, hstop.2, List.append_nil]
  exact ⟨rfl, rfl⟩

theorem scanNat_decimal (n : ℕ) {rest : List UInt8} (hrest : ∀ b ∈ rest.head?, isDigit b = false) :
    scanNat (decimal n ++ rest) = some (n, rest) := by
  obtain ⟨htake, hdrop⟩ := span_append (isDigit_decimal n) hrest
  rw [scanNat, htake, hdrop, if_neg (decimal_ne_nil n), readNat_decimal]

theorem scanInt_signed (z : Int) {rest : List UInt8} (hrest : ∀ b ∈ rest.head?, isDigit b = false) :
    scanInt (signed z ++ rest) = some (z, rest) := by
  unfold signed
  split_ifs with hneg
  · rw [List.cons_append, scanInt, if_pos rfl, scanNat_decimal _ hrest]
    simp only [Option.map_some]
    congr 2
    omega
  · cases hdecimal : decimal z.natAbs with
    | nil => exact absurd hdecimal (decimal_ne_nil _)
    | cons b ds =>
      have hdigit := isDigit_decimal z.natAbs b (by rw [hdecimal]; exact List.mem_cons_self)
      have hnot : b ≠ 45 := by
        rintro rfl
        exact absurd hdigit (by decide)
      rw [List.cons_append, scanInt, if_neg hnot, ← List.cons_append, ← hdecimal, scanNat_decimal _ hrest]
      simp only [Option.map_some]
      congr 2
      omega

/-- A byte that no number has is in a text only if it is in the format or in a string. -/
theorem notMem_format {b : UInt8} {fmt : List UInt8} {args : List Arg} {text : List UInt8}
    (h : format fmt args = some text) (hdigit : isDigit b = false) (hminus : b ≠ 45) (hfmt : b ∉ fmt)
    (hstr : ∀ s, .str s ∈ args → b ∉ s) : b ∉ text := by
  have hdecimal : ∀ n, b ∉ decimal n := fun n hmem => by
    have htrue := isDigit_decimal n b hmem
    rw [hdigit] at htrue
    cases htrue
  have hconvert : ∀ {c arg head}, convert c arg = some head → (∀ s, arg = .str s → b ∉ s) → b ∉ head := by
    intro c arg head h hs
    cases arg with
    | str s =>
      simp only [convert, Option.ite_none_right_eq_some, Option.some.injEq] at h
      rw [← h.2]
      exact hs s rfl
    | uint n =>
      simp only [convert, Option.ite_none_right_eq_some, Option.some.injEq] at h
      rw [← h.2]
      exact hdecimal _
    | int n =>
      simp only [convert, Option.ite_none_right_eq_some, Option.some.injEq] at h
      rw [← h.2, signed]
      split_ifs
      · rw [List.mem_cons, not_or]
        exact ⟨hminus, hdecimal _⟩
      · exact hdecimal _
  fun_induction format fmt args generalizing text with
  | case1 args =>
    cases h
    exact List.not_mem_nil
  | case2 args => cases h
  | case3 c args hc =>
    cases h
    exact hfmt
  | case4 d fmt => cases h
  | case5 d fmt arg args ih =>
    simp only [Option.bind_eq_bind, Option.bind_eq_some_iff] at h
    obtain ⟨head, hhead, rest, hrest, htext⟩ := h
    cases htext
    rw [List.mem_append, not_or]
    refine ⟨hconvert hhead fun s hs => hstr s (by rw [hs]; exact List.mem_cons_self), ih hrest ?_ ?_⟩
    · exact fun hmem => hfmt (List.mem_cons_of_mem _ (List.mem_cons_of_mem _ hmem))
    · exact fun s hs => hstr s (List.mem_cons_of_mem _ hs)
  | case6 c d fmt args hc ih =>
    simp only [Option.bind_eq_bind, Option.bind_eq_some_iff] at h
    obtain ⟨rest, hrest, htext⟩ := h
    cases htext
    rw [List.mem_cons, not_or]
    exact ⟨fun hb => hfmt (hb ▸ List.mem_cons_self),
      ih hrest (fun hmem => hfmt (List.mem_cons_of_mem _ hmem)) hstr⟩

/-! ### The round trip -/

theorem head_format {fmt : List UInt8} {args : List Arg} {text : List UInt8}
    (h : format fmt args = some text) (hstop : fmt.head? ≠ some 37) : text.head? = fmt.head? := by
  cases fmt with
  | nil =>
    cases h
    rfl
  | cons c fmt =>
    have hc : c ≠ 37 := by simpa using hstop
    rw [format_cons hc, Option.map_eq_some_iff] at h
    obtain ⟨rest, -, rfl⟩ := h
    rfl

theorem scanArg_convert {c : UInt8} {arg : Arg} {text rest : List UInt8} (h : convert c arg = some text)
    (hends : arg.EndsAt rest.head?) : scanArg c rest.head? (text ++ rest) = some (arg, rest) := by
  cases arg with
  | str s =>
    simp only [convert, Option.ite_none_right_eq_some, Option.some.injEq] at h
    obtain ⟨rfl, rfl⟩ := h
    have hs : ∀ b ∈ s, decide (some b ≠ rest.head?) = true := by
      intro b hb
      simp only [decide_eq_true_eq]
      exact fun hstop => hends b hstop.symm hb
    have hrest : ∀ b ∈ rest.head?, decide (some b ≠ rest.head?) = false := by
      intro b hb
      simp [Option.mem_def.mp hb]
    obtain ⟨htake, hdrop⟩ := span_append hs hrest
    rw [scanArg, if_pos rfl, htake, hdrop]
  | uint n =>
    simp only [convert, Option.ite_none_right_eq_some, Option.some.injEq] at h
    obtain ⟨rfl, rfl⟩ := h
    rw [scanArg, if_neg (by decide), if_pos rfl, scanNat_decimal _ hends]
    simp
  | int n =>
    simp only [convert, Option.ite_none_right_eq_some, Option.some.injEq] at h
    obtain ⟨rfl, rfl⟩ := h
    rw [scanArg, if_neg (by decide), if_neg (by decide), if_pos rfl, scanInt_signed _ hends]
    simp

/-- **What was printed is read back** if it can be told where each argument ends. -/
theorem scan_format {fmt : List UInt8} {args : List Arg} {text : List UInt8}
    (h : format fmt args = some text) (hdelimited : Delimited fmt args) : scan fmt text = some args := by
  fun_induction format fmt args generalizing text with
  | case1 args =>
    obtain rfl : args = [] := hdelimited
    cases h
    rfl
  | case2 args => cases h
  | case3 c args hc =>
    obtain rfl : args = [] := hdelimited
    cases h
    simp [scan, hc]
  | case4 d fmt => cases h
  | case5 d fmt arg args ih =>
    simp only [Option.bind_eq_bind, Option.bind_eq_some_iff] at h
    obtain ⟨head, hhead, rest, hrest, htext⟩ := h
    cases htext
    simp only [Delimited, if_true] at hdelimited
    obtain ⟨⟨hstop, hends⟩, hdelimited⟩ := hdelimited
    have hnext := head_format hrest hstop
    simp only [scan, if_true, ← hnext, scanArg_convert hhead (hnext ▸ hends), Option.bind_eq_bind,
      Option.bind_some, ih hrest hdelimited]
    rfl
  | case6 c d fmt args hc ih =>
    simp only [Option.bind_eq_bind, Option.bind_eq_some_iff] at h
    obtain ⟨rest, hrest, htext⟩ := h
    cases htext
    simp only [Delimited, if_neg hc] at hdelimited
    simp only [scan, if_neg hc, if_true]
    exact ih hrest hdelimited

example : scan (bytes "%s at %d") (bytes "v at -7") = some [.str (bytes "v"), .int (-7)] := by decide

/-! ### Lines -/

/-- The lines of a text; a newline is the byte 10. -/
def splitLines : List UInt8 → List (List UInt8)
  | [] => []
  | b :: text =>
    if b = 10 then [] :: splitLines text
    else
      match splitLines text with
      | [] => [[b]]
      | line :: lines => (b :: line) :: lines

theorem splitLines_append {line : List UInt8} (h : 10 ∉ line) (text : List UInt8) :
    splitLines (line ++ 10 :: text) = line :: splitLines text := by
  induction line with
  | nil => simp [splitLines]
  | cons b line ih =>
    rw [List.mem_cons, not_or] at h
    rw [List.cons_append, splitLines, if_neg (Ne.symm h.1), ih h.2]

/-- Entries that can be read back from their lines can be read back from the text of all lines. -/
theorem mapM_splitLines {ε : Type} {read : List UInt8 → Option ε} {line : ε → List UInt8} {entries : List ε}
    (h : ∀ e ∈ entries, 10 ∉ line e ∧ read (line e) = some e) :
    (splitLines (entries.flatMap fun e => line e ++ [10])).mapM read = some entries := by
  induction entries with
  | nil => rfl
  | cons e entries ih =>
    obtain ⟨hline, hread⟩ := h e List.mem_cons_self
    rw [List.flatMap_cons, List.append_assoc, List.singleton_append, splitLines_append hline, List.mapM_cons,
      hread, ih fun e he => h e (List.mem_cons_of_mem _ he)]
    rfl

end Printk
