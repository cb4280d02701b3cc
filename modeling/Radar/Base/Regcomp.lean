import Radar.Base.Ere

/-!
# Compiling a pattern

`regcomp` reads a pattern of the POSIX extended syntax, character by character, into an `Ere`. It knows
ordinary characters, bracket expressions of single characters and ranges, the interval `{n}`, groups,
alternation and the two anchors, and returns `none` for a malformed pattern or any other construct.
-/

namespace Ere

/-- A group being read: its finished alternatives and the pieces of the current one, latest first. -/
structure Group where
  alts : List Ere
  pieces : List Ere
deriving DecidableEq, Repr

def alternatives : Ere → List Ere → Ere
  | r, [] => r
  | r, r' :: rs => .alt r (alternatives r' rs)

/-- The expression of a finished group. -/
def Group.close (g : Group) : Ere :=
  match g.alts.reverse ++ [cat g.pieces.reverse] with
  | [] => .empty
  | r :: rs => alternatives r rs

/-- What the next character belongs to: the pattern itself, a bracket expression (its ranges so far, a
character that may still start a range, and whether a dash followed it), or an interval. -/
inductive Mode where
  | plain
  | bracket (ranges : ByteSet) (low : Option Char) (dash : Bool)
  | interval (digits : Option ℕ)
deriving DecidableEq, Repr

/-- The scanner: the mode, the innermost open group and the groups around it. -/
structure Scanner where
  mode : Mode
  group : Group
  outer : List Group
deriving DecidableEq, Repr

def byte (c : Char) : UInt8 := UInt8.ofNat c.toNat

def Scanner.push (s : Scanner) (r : Ere) : Scanner :=
  { s with mode := .plain, group := { s.group with pieces := r :: s.group.pieces } }

/-- A character outside brackets and intervals. -/
def Scanner.plain (s : Scanner) (c : Char) : Option Scanner :=
  match c with
  | '^' => some (s.push .bol)
  | '$' => some (s.push .eol)
  | '[' => some { s with mode := .bracket [] none false }
  | '{' => if s.group.pieces.isEmpty then none else some { s with mode := .interval none }
  | '|' => some { s with group := ⟨cat s.group.pieces.reverse :: s.group.alts, []⟩ }
  | '(' => some { s with group := ⟨[], []⟩, outer := s.group :: s.outer }
  | ')' =>
    match s.outer with
    | [] => none
    | g :: gs => some ({ s with group := g, outer := gs }.push s.group.close)
  | '*' => none
  | '+' => none
  | '?' => none
  | '.' => none
  | '\\' => none
  | c => some (s.push (.set [(byte c, byte c)]))

/-- A character of a bracket expression. -/
def Scanner.bracket (s : Scanner) (ranges : ByteSet) (low : Option Char) (dash : Bool) (c : Char) :
    Option Scanner :=
  match c, low, dash with
  | ']', none, _ => if ranges.isEmpty then none else some (s.push (.set ranges))
  | ']', some a, false => some (s.push (.set (ranges ++ [(byte a, byte a)])))
  | ']', some _, true => none
  | '[', _, _ => none
  | '^', _, _ => none
  | '-', some a, false => some { s with mode := .bracket ranges (some a) true }
  | '-', _, _ => none
  | c, some a, true =>
    if a ≤ c then some { s with mode := .bracket (ranges ++ [(byte a, byte c)]) none false } else none
  | c, some a, false => some { s with mode := .bracket (ranges ++ [(byte a, byte a)]) (some c) false }
  | c, none, _ => some { s with mode := .bracket ranges (some c) false }

/-- A character of an interval; the closing brace applies it to the last piece. -/
def Scanner.interval (s : Scanner) (digits : Option ℕ) (c : Char) : Option Scanner :=
  if c.isDigit then
    some { s with mode := .interval (some (digits.getD 0 * 10 + (c.toNat - '0'.toNat))) }
  else
    match c, digits, s.group.pieces with
    | '}', some n, r :: rs =>
      some { s with mode := .plain, group := { s.group with pieces := .rep r n :: rs } }
    | _, _, _ => none

def Scanner.read (s : Scanner) (c : Char) : Option Scanner :=
  match s.mode with
  | .plain => s.plain c
  | .bracket ranges low dash => s.bracket ranges low dash c
  | .interval digits => s.interval digits c

def Scanner.readAll : Scanner → List Char → Option Scanner
  | s, [] => some s
  | s, c :: cs => (s.read c).bind fun s' => readAll s' cs

/-- `regcomp` with `REG_EXTENDED`. -/
def regcomp (pattern : String) : Option Ere :=
  match Scanner.readAll ⟨.plain, ⟨[], []⟩, []⟩ pattern.toList with
  | some ⟨.plain, g, []⟩ => some g.close
  | _ => none

end Ere
