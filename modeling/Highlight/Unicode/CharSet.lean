/-! # Sets of characters

A set of characters is a list of ranges of code points, in ascending order and with a gap between
any two, so equal sets have equal lists. Union and complement are computed on the ranges; the
other operations are expressed by these two.
-/

namespace Highlight.Unicode

structure CharSet where
  ranges : List (Nat × Nat)
deriving DecidableEq, Repr

namespace CharSet

def last : Nat := 0x10FFFF

def empty : CharSet := ⟨[]⟩

def full : CharSet := ⟨[(0, last)]⟩

instance : Inhabited CharSet := ⟨empty⟩

def range (a b : Nat) : CharSet := ⟨[(a, b)]⟩

def single (c : Char) : CharSet := range c.toNat c.toNat

def hasCode (s : CharSet) (n : Nat) : Bool :=
  s.ranges.any fun r => r.1 ≤ n && n ≤ r.2

def contains (s : CharSet) (c : Char) : Bool :=
  s.hasCode c.toNat

def isEmpty (s : CharSet) : Bool :=
  s.ranges.isEmpty

/-- Put a range in front of ranges that start no earlier, joining those that it touches. -/
def pushRange (r : Nat × Nat) : List (Nat × Nat) → List (Nat × Nat)
  | [] => [r]
  | s :: ss => if s.1 ≤ r.2 + 1 then pushRange (r.1, max r.2 s.2) ss else r :: s :: ss

def joinRanges (rs : List (Nat × Nat)) : List (Nat × Nat) :=
  rs.foldr pushRange []

/-- Merge two lists of ranges by their starts. `bound` is at least the sum of their lengths. -/
def mergeRanges : Nat → List (Nat × Nat) → List (Nat × Nat) → List (Nat × Nat)
  | 0, rs, ss => rs ++ ss
  | _ + 1, [], ss => ss
  | _ + 1, rs, [] => rs
  | bound + 1, r :: rs, s :: ss =>
    if r.1 ≤ s.1 then r :: mergeRanges bound rs (s :: ss)
    else s :: mergeRanges bound (r :: rs) ss

def union (s t : CharSet) : CharSet :=
  match s.ranges, t.ranges with
  | [], _ => t
  | _, [] => s
  | rs, ss => ⟨joinRanges (mergeRanges (rs.length + ss.length) rs ss)⟩

def gaps (start : Nat) : List (Nat × Nat) → List (Nat × Nat)
  | [] => if start ≤ last then [(start, last)] else []
  | r :: rs => if start < r.1 then (start, r.1 - 1) :: gaps (r.2 + 1) rs else gaps (r.2 + 1) rs

def compl (s : CharSet) : CharSet := ⟨gaps 0 s.ranges⟩

def inter (s t : CharSet) : CharSet := (s.compl.union t.compl).compl

def diff (s t : CharSet) : CharSet := (s.compl.union t).compl

def symmDiff (s t : CharSet) : CharSet := (s.diff t).union (t.diff s)

def unions (ss : List CharSet) : CharSet := ss.foldr union empty

def insertRange (s : CharSet) (a b : Nat) : CharSet := (range a b).union s

def everyOther (a b : Nat) : List (Nat × Nat) :=
  (List.range ((b - a) / 2 + 1)).map fun i => (a + 2 * i, a + 2 * i)

/-- The set of a table of ranges and a table of ranges of which every second code point counts. -/
def ofTable (rs alternating : List (Nat × Nat)) : CharSet :=
  union ⟨rs⟩ ⟨alternating.flatMap fun r => everyOther r.1 r.2⟩

def ofString (s : String) : CharSet :=
  unions (s.toList.map single)

end CharSet

end Highlight.Unicode
