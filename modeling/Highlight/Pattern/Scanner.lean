import Highlight.Pattern.Basic
import Highlight.Unicode.Property

/-! # The scanner of the pattern language

Pattern texts are read from left to right. The scanner holds what is left of the text, the flags
in force, and the groups met so far. All faults of a pattern are reported alike, so reading simply
fails.
-/

namespace Highlight.Pattern

open Unicode

structure Flags where
  ignoreCase : Bool := false
  multiLine : Bool := false
  dotAll : Bool := false
  swapGreed : Bool := false
  unicode : Bool := true
  crlf : Bool := false
  verbose : Bool := false
deriving DecidableEq, Repr

def Flags.set? (f : Flags) (flag : Char) (on : Bool) : Option Flags :=
  match flag with
  | 'i' => some { f with ignoreCase := on }
  | 'm' => some { f with multiLine := on }
  | 's' => some { f with dotAll := on }
  | 'U' => some { f with swapGreed := on }
  | 'u' => some { f with unicode := on }
  | 'R' => some { f with crlf := on }
  | 'x' => some { f with verbose := on }
  | _ => none

structure Scanner where
  rest : List Char
  flags : Flags
  groups : Nat
  names : List (List Char)

abbrev Scan := StateT Scanner Option

def dropSpace : Nat → List Char → List Char
  | 0, cs => cs
  | _ + 1, [] => []
  | bound + 1, c :: cs =>
    if isWhiteSpace c then dropSpace bound cs
    else if c = '#' then dropSpace bound ((cs.dropWhile (· != '\n')).drop 1)
    else c :: cs

namespace Scan

def flags : Scan Flags := do return (← get).flags

def setFlags (f : Flags) : Scan Unit := modify ({ · with flags := f })

def skipSpace : Scan Unit := modify fun s =>
  if s.flags.verbose then { s with rest := dropSpace s.rest.length s.rest } else s

def peek? : Scan (Option Char) := do return (← get).rest.head?

def peek : Scan Char := do
  match (← get).rest with
  | c :: _ => return c
  | [] => failure

def drop (n : Nat) : Scan Unit := modify fun s => { s with rest := s.rest.drop n }

def dropSpaced : Scan Unit := do
  drop 1
  skipSpace

def accept (cs : List Char) : Scan Bool := do
  if cs.isPrefixOf (← get).rest then
    drop cs.length
    return true
  else return false

def expect (c : Char) : Scan Unit := do
  if (← accept [c]) then return () else failure

def takeSpaced (p : Char → Bool) : Nat → Scan (List Char)
  | 0 => return []
  | bound + 1 => do
    match ← peek? with
    | some c =>
      if p c then
        dropSpaced
        return c :: (← takeSpaced p bound)
      else return []
    | none => return []

def dropBlanks : Scan Unit := modify fun s => { s with rest := s.rest.dropWhile isWhiteSpace }

/-- An upper bound for the number of steps that the rest of the text can take. -/
def bound : Scan Nat := do return (← get).rest.length + 1

end Scan

end Highlight.Pattern
