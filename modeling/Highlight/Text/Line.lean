/-! # Lines of a text

A line ends at a line feed, and one carriage return in front of that line feed belongs to the line
end. What follows the last line feed is a line if it is not empty; there a carriage return is
ordinary text.

A cursor stands between two characters of a line. It knows the character before it, its distance
from the start of the line in bytes, and all that follows.
-/

namespace Highlight.Text

def closeLine : List Char → List Char
  | '\r' :: cs => cs.reverse
  | cs => cs.reverse

theorem closeLine_eq_reverse {current : List Char} (h : current.head? ≠ some '\r') :
    closeLine current = current.reverse := by
  rw [closeLine.eq_2]
  rintro cs rfl
  exact h rfl

/-- Split into lines; `current` holds the characters of the open line, last first. -/
def splitLines (current : List Char) : List Char → List (List Char)
  | [] => if current.isEmpty then [] else [current.reverse]
  | c :: cs =>
    if c = '\n' then closeLine current :: splitLines [] cs
    else splitLines (c :: current) cs

def lines (s : String) : List String :=
  (splitLines [] s.toList).map String.ofList

/-- The characters that start at an offset from `a` up to but not including `b`, where the first
character of the list stands at `offset`. -/
def sliceFrom (offset a b : Nat) : List Char → List Char
  | [] => []
  | c :: cs =>
    let rest := sliceFrom (offset + c.utf8Size) a b cs
    if a ≤ offset ∧ offset < b then c :: rest else rest

def slice (s : String) (a b : Nat) : String :=
  String.ofList (sliceFrom 0 a b s.toList)

structure Cursor where
  before : Option Char
  offset : Nat
  rest : List Char
deriving DecidableEq, Repr

namespace Cursor

def ofLine (line : String) : Cursor := ⟨none, 0, line.toList⟩

def next? (c : Cursor) : Option (Char × Cursor) :=
  match c.rest with
  | [] => none
  | x :: xs => some (x, ⟨some x, c.offset + x.utf8Size, xs⟩)

def advance (c : Cursor) : Cursor :=
  match c.next? with
  | none => c
  | some (_, d) => d

def textTo (c d : Cursor) : String :=
  String.ofList (c.rest.take (c.rest.length - d.rest.length))

end Cursor

end Highlight.Text
