import Highlight.Pattern.Basic

/-! # Matching

`Pattern.ends` lists the ways in which a pattern can match from a place on, the preferred one
first: earlier branches before later ones, and more repetitions before fewer, or the other way
round for a lazy repetition. Of several ways that end at the same place only the first counts.

A way may not come through the same point of decision twice without consuming a character in
between. The points of decision are the choices of a pattern and the turns of its repetitions with
the starts of their bodies, named by where they stand in the pattern; a thread carries the trail of
those that it has passed since the last character. This is what ends a repetition of empty matches.
-/

namespace Highlight

open Unicode Text

structure Marks where
  bits : Nat

namespace Marks

def none : Marks := ⟨0⟩

def contains (m : Marks) (n : Nat) : Bool := m.bits.testBit n

def insert (m : Marks) (n : Nat) : Marks := ⟨m.bits ||| 1 <<< n⟩

end Marks

structure Capture where
  index : Nat
  start : Nat
  stop : Nat
deriving DecidableEq, Repr

/-- A point of decision: the path from the top of the pattern, last step first. -/
abbrev Point := List Nat

structure Thread where
  cursor : Cursor
  trail : List Point
  captures : List Capture
deriving Repr

namespace Thread

def start (c : Cursor) : Thread := ⟨c, [], []⟩

def consume? (t : Thread) (s : CharSet) : Option Thread :=
  match t.cursor.next? with
  | some (x, c) => if s.contains x then some ⟨c, [], t.captures⟩ else none
  | none => none

/-- Pass a point of decision for the first time since the last character. -/
def pass? (t : Thread) (p : Point) : Option Thread :=
  if t.trail.contains p then none else some { t with trail := p :: t.trail }

/-- Record a group that was entered at `start`. An earlier capture of the group is forgotten. -/
def capture (t : Thread) (index start : Nat) : Thread :=
  { t with
    captures := ⟨index, start, t.cursor.offset⟩ :: t.captures.filter (·.index != index) }

end Thread

/-- Keep the first of several threads at one place. -/
def distinctFrom (seen : Marks) : List Thread → List Thread
  | [] => []
  | t :: ts =>
    if seen.contains t.cursor.offset then distinctFrom seen ts
    else t :: distinctFrom (seen.insert t.cursor.offset) ts

def distinct (ts : List Thread) : List Thread :=
  distinctFrom .none ts

namespace Repeat

/-- The number of turns that are told apart. Without an upper bound, turns count alike once the
required ones are over; a body that can be empty has a first turn of its own. -/
def turns (r : Repeat) (solid : Bool) : Nat :=
  match r.most with
  | some n => n
  | none => max r.least (if solid then 0 else 1)

def nextTurn (r : Repeat) (solid : Bool) (k : Nat) : Nat :=
  match r.most with
  | some _ => k + 1
  | none => min (k + 1) (r.turns solid)

/-- Which copy of the body is used at a turn. Each copy has points of decision of its own. -/
def copyAt (r : Repeat) (solid : Bool) (k : Nat) : Nat :=
  match r.most with
  | some _ => k
  | none => min k (r.turns solid - 1)

end Repeat

namespace Point

def turn (path : Point) (k : Nat) : Point := k :: 0 :: path

def body (path : Point) (copy : Nat) : Point := copy :: 1 :: path

def entry (path : Point) (copy : Nat) : Point := copy :: 2 :: path

end Point

/-- Pass the start of a copy of a body as if it had been entered: whoever leaves a greedy repetition
comes after all that begins with another turn from the same place. -/
def Thread.forgo (t : Thread) (entry : Point) : Thread :=
  { t with trail := entry :: t.trail }

/-- Repeat one character of a set, from turn `k` on. The threads that leave the repetition are put
in front of those in `left`, so the latest comes first. The first argument is what is left of the
line, one character of which is consumed at every turn. -/
def Repeat.run (r : Repeat) (s : CharSet) (path : Point) :
    List Char → Nat → Thread → List Thread → List Thread
  | rest, k, t, left =>
    let entry := path.entry (r.copyAt true k)
    let further (t : Thread) (left : List Thread) : List Thread :=
      match rest with
      | [] => left
      | _ :: rest =>
        match (t.pass? entry).bind (·.consume? s) with
        | some u => run r s path rest (r.nextTurn true k) u left
        | none => left
    if k < r.least then further t left
    else if r.most = some k then t :: left
    else
      match t.pass? (path.turn k) with
      | none => left
      | some t =>
        if r.greedy then t.forgo entry :: further t left else further t (t :: left)

/-- The state of a walk through the turns of a repetition: the pairs of turn and place that it has
reached, and the threads that have left the repetition, latest first. -/
structure Walk where
  seen : Marks
  left : List Thread

namespace Walk

def leave (w : Walk) (t : Thread) : Walk := { w with left := t :: w.left }

def go (r : Repeat) (solid : Bool) (path : Point) (body : Nat → Thread → List Thread) :
    Nat → Nat → Thread → Walk → Walk
  | 0, _, _, w => w
  | bound + 1, k, t, w =>
    let place := t.cursor.offset * (r.turns solid + 1) + k
    if w.seen.contains place then w
    else
      let w := { w with seen := w.seen.insert place }
      let copy := r.copyAt solid k
      let enter (t : Thread) (w : Walk) : Walk :=
        match t.pass? (path.entry copy) with
        | none => w
        | some t =>
          (body copy t).foldl (fun w u => go r solid path body bound (r.nextTurn solid k) u w) w
      if k < r.least then enter t w
      else if r.most = some k then w.leave t
      else
        match t.pass? (path.turn k) with
        | none => w
        | some t =>
          if r.greedy then (enter t w).leave (t.forgo (path.entry copy)) else enter t (w.leave t)

end Walk

namespace Pattern

/-- The ways to match from a thread on, the preferred first. `path` leads to this pattern. The
branches of one choice are decided at one point: a choice that is the `rest` of another one has
none of its own. -/
def endsAt : Pattern → (rest : Bool) → Point → Thread → List Thread
  | empty, _, _, t => [t]
  | set s, _, _, t => (t.consume? s).toList
  | look l, _, _, t => if l.holds t.cursor then [t] else []
  | group i p, _, path, t => (p.endsAt false (0 :: path) t).map (·.capture i t.cursor.offset)
  | seq p q, _, path, t =>
    distinct ((p.endsAt false (0 :: path) t).flatMap fun u => q.endsAt false (1 :: path) u)
  | alt p q, rest, path, t =>
    match if rest then some t else t.pass? path with
    | none => []
    | some t => distinct (p.endsAt false (0 :: path) t ++ q.endsAt true (1 :: path) t)
  | times r (set s), _, path, t => (r.run s path t.cursor.rest 0 t []).reverse
  | times r p, _, path, t =>
    let walk := Walk.go r p.isSolid path (fun copy u => p.endsAt false (path.body copy) u)
      (r.turns p.isSolid + t.cursor.rest.length + 2) 0 t ⟨.none, []⟩
    distinct walk.left.reverse

def ends (p : Pattern) (t : Thread) : List Thread :=
  p.endsAt false [] t

end Pattern

structure Match where
  stop : Cursor
  captures : List Capture
deriving Repr

def Match.capture? (m : Match) (index : Nat) : Option Capture :=
  m.captures.find? (·.index == index)

def Pattern.match? (p : Pattern) (c : Cursor) : Option Match :=
  (p.ends (.start c)).head?.map fun t => ⟨t.cursor, t.captures⟩

end Highlight
