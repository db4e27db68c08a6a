import Highlight.Unicode.Alphabetic
import Highlight.Text.Line

/-! # Patterns

A pattern describes pieces of a line. Patterns are built through `Pattern.sequence`,
`Pattern.choice` and `Pattern.repeated`, which keep them in a simple form: sequences hold no empty
parts, a choice between single characters is a set, and a repetition of something that has no
width happens at most once.
-/

namespace Highlight

open Unicode Text

/-- Where a word character stands and where none does. The half forms look at one side only. -/
inductive Boundary where
  | edge
  | inner
  | start
  | stop
  | startHalf
  | stopHalf
deriving DecidableEq, Repr

inductive Look where
  | textStart
  | textEnd
  | lineStart (crlf : Bool)
  | lineEnd (crlf : Bool)
  | word (boundary : Boundary) (ascii : Bool)
deriving DecidableEq, Repr

def Boundary.holds (b : Boundary) (before after : Bool) : Bool :=
  match b with
  | .edge => before != after
  | .inner => before == after
  | .start => !before && after
  | .stop => before && !after
  | .startHalf => !before
  | .stopHalf => !after

def isAsciiWord (c : Char) : Bool :=
  c.toNat < 128 && isWord c

def Look.holds (l : Look) (c : Cursor) : Bool :=
  let after := c.rest.head?
  match l with
  | .textStart => c.before.isNone
  | .textEnd => after.isNone
  | .lineStart false => c.before.isNone || c.before == some '\n'
  | .lineEnd false => after.isNone || after == some '\n'
  | .lineStart true =>
    c.before.isNone || c.before == some '\n' || (c.before == some '\r' && after != some '\n')
  | .lineEnd true =>
    after.isNone || after == some '\r' || (after == some '\n' && c.before != some '\r')
  | .word b ascii =>
    let inWord := if ascii then isAsciiWord else isWord
    b.holds (c.before.any inWord) (after.any inWord)

structure Repeat where
  least : Nat
  most : Option Nat
  greedy : Bool
deriving DecidableEq, Repr

inductive Pattern where
  | empty
  | set (s : CharSet)
  | look (l : Look)
  | group (index : Nat) (p : Pattern)
  | times (r : Repeat) (p : Pattern)
  | seq (p q : Pattern)
  | alt (p q : Pattern)
deriving DecidableEq, Repr

namespace Pattern

instance : Inhabited Pattern := ⟨empty⟩

/-- The number of characters of a shortest match; nothing if some part can never match. -/
def minLength : Pattern → Option Nat
  | empty => some 0
  | set s => if s.isEmpty then none else some 1
  | look _ => some 0
  | group _ p => p.minLength
  | times r p => p.minLength.map (· * r.least)
  | seq p q => do return (← p.minLength) + (← q.minLength)
  | alt p q => do return min (← p.minLength) (← q.minLength)

def isSolid (p : Pattern) : Bool :=
  match p.minLength with
  | some n => 0 < n
  | none => false

/-- Every match is empty, whatever the sets in the pattern hold. -/
def isWidthless : Pattern → Bool
  | empty => true
  | set _ => false
  | look _ => true
  | group _ p => p.isWidthless
  | times r p => r.most.isSome && p.isWidthless
  | seq p q => p.isWidthless && q.isWidthless
  | alt p q => p.isWidthless && q.isWidthless

def looksForWords : Pattern → Bool
  | look (.word _ ascii) => !ascii
  | group _ p => p.looksForWords
  | times _ p => p.looksForWords
  | seq p q => p.looksForWords || q.looksForWords
  | alt p q => p.looksForWords || q.looksForWords
  | _ => false

def groupCount : Pattern → Nat
  | empty => 0
  | set _ => 0
  | look _ => 0
  | group _ p => p.groupCount + 1
  | times _ p => p.groupCount
  | seq p q => p.groupCount + q.groupCount
  | alt p q => p.groupCount + q.groupCount

def partsOnto : Pattern → List Pattern → List Pattern
  | empty, ps => ps
  | seq p q, ps => p.partsOnto (q.partsOnto ps)
  | p, ps => p :: ps

def parts (p : Pattern) : List Pattern :=
  p.partsOnto []

def branches : Pattern → List Pattern
  | alt p q => p.branches ++ q.branches
  | p => [p]

/-- The parts joined from the left: what ends at one place in several ways is told apart no longer
when the next part begins. -/
def joinParts : List Pattern → Pattern
  | [] => empty
  | p :: ps => ps.foldl seq p

def joinBranches : List Pattern → Pattern
  | [] => empty
  | [p] => p
  | p :: ps => alt p (joinBranches ps)

def sequence (ps : List Pattern) : Pattern :=
  joinParts (ps.flatMap parts)

def set? : Pattern → Option CharSet
  | set s => some s
  | _ => none

def flatChoice (ps : List Pattern) : Pattern :=
  let ps := ps.flatMap branches
  if 2 ≤ ps.length && ps.all (·.set?.isSome) then set (.unions (ps.filterMap set?))
  else joinBranches ps

def commonStart : List Pattern → List Pattern → List Pattern
  | p :: ps, q :: qs => if p = q then p :: commonStart ps qs else []
  | _, _ => []

/-- A choice between patterns, the first preferred. When all branches are sequences, the parts
with which they all begin are put in front of the choice. -/
def choice (ps : List Pattern) : Pattern :=
  let rows := (ps.flatMap branches).map parts
  match rows with
  | first :: second :: more =>
    let common := (second :: more).foldl commonStart first
    if rows.all (2 ≤ ·.length) && !common.isEmpty then
      sequence (common ++ [flatChoice (rows.map fun row => joinParts (row.drop common.length))])
    else flatChoice ps
  | _ => flatChoice ps

/-- A repeated pattern. What is repeated no times at all disappears with its groups. -/
def repeated (r : Repeat) (p : Pattern) : Pattern :=
  let r : Repeat :=
    if p.isWidthless then { r with least := min r.least 1, most := some (min (r.most.getD 1) 1) }
    else r
  if r.least = 0 ∧ r.most = some 0 then empty
  else if r.least = 1 ∧ r.most = some 1 then p
  else times r p

end Pattern

end Highlight
