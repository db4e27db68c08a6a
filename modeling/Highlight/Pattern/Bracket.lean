import Highlight.Pattern.Escape

/-! # Bracketed classes

A class in brackets is a union of characters, ranges, named classes and nested brackets. Unions may
be combined by the operators `&&`, `--` and `~~`, which bind alike and to the left. Beside its set
each part has a height, the depth of its nesting, because patterns that nest too deeply are
refused.
-/

namespace Highlight.Pattern

open Unicode

def asciiClass? (name : List Char) : Option CharSet :=
  match String.ofList name with
  | "alnum" => some ⟨[(48, 57), (65, 90), (97, 122)]⟩
  | "alpha" => some ⟨[(65, 90), (97, 122)]⟩
  | "ascii" => some ⟨[(0, 127)]⟩
  | "blank" => some ⟨[(9, 9), (32, 32)]⟩
  | "cntrl" => some ⟨[(0, 31), (127, 127)]⟩
  | "digit" => some asciiDigits
  | "graph" => some ⟨[(33, 126)]⟩
  | "lower" => some ⟨[(97, 122)]⟩
  | "print" => some ⟨[(32, 126)]⟩
  | "punct" => some ⟨[(33, 47), (58, 64), (91, 96), (123, 126)]⟩
  | "space" => some asciiBlanks
  | "upper" => some ⟨[(65, 90)]⟩
  | "word" => some asciiWord
  | "xdigit" => some ⟨[(48, 57), (65, 70), (97, 102)]⟩
  | _ => none

def colonClass? (cs : List Char) : Option (Bool × CharSet × List Char) :=
  match cs with
  | '[' :: ':' :: cs =>
    let (negated, cs) :=
      match cs with
      | '^' :: cs => (true, cs)
      | cs => (false, cs)
    match cs.dropWhile (· != ':') with
    | ':' :: ']' :: rest => (asciiClass? (cs.takeWhile (· != ':'))).map (negated, ·, rest)
    | _ => none
  | _ => none

/-- A union in the making: its set, the number of its items and the greatest of their heights. -/
structure Union where
  set : CharSet := .empty
  items : Nat := 0
  height : Nat := 0

def Union.add (u : Union) (s : CharSet) (height : Nat) : Union :=
  ⟨u.set.union s, u.items + 1, max u.height height⟩

/-- The height of a union: a single item is not nested for being in a union. -/
def Union.total (u : Union) : Nat :=
  if 2 ≤ u.items then u.height + 1 else u.height

inductive Operator where
  | intersection
  | difference
  | symmetricDifference

structure Pending where
  operator : Operator
  set : CharSet
  height : Nat

def combine (f : Flags) (pending : Option Pending) (u : Union) : CharSet × Nat :=
  match pending with
  | none => (u.set, u.total)
  | some p =>
    let a := f.close p.set
    let b := f.close u.set
    let s :=
      match p.operator with
      | .intersection => a.inter b
      | .difference => a.diff b
      | .symmetricDifference => a.symmDiff b
    (s, max p.height u.total + 1)

def classAtom : Scan Atom := do
  let c ← Scan.peek
  Scan.drop 1
  if c = '\\' then escape else return .literal c false

def classLiteral : Atom → Scan Nat
  | .literal c _ => do
    if (← Scan.flags).allows c then return c.toNat else failure
  | _ => failure

/-- The next character behind the current one, looking over space in a verbose pattern. -/
def peekBehind : Scan (Option Char) := do
  let cs := (← get).rest.drop 1
  if (← Scan.flags).verbose then
    match cs.dropWhile isWhiteSpace with
    | '#' :: cs => return (cs.dropWhile isWhiteSpace).head?
    | cs => return cs.head?
  else return cs.head?

def classRange : Scan CharSet := do
  let first ← classAtom
  Scan.skipSpace
  let c ← Scan.peek
  let behind ← peekBehind
  if c = '-' && behind != some ']' && behind != some '-' then
    Scan.dropSpaced
    let second ← classAtom
    let a ← classLiteral first
    let b ← classLiteral second
    if a ≤ b then return .range a b else failure
  else
    match first with
    | .cls s => return s
    | atom => do
      let a ← classLiteral atom
      return .range a a

def leadingHyphens : Nat → Union → Scan Union
  | 0, u => return u
  | bound + 1, u => do
    if (← Scan.peek) = '-' then
      Scan.dropSpaced
      leadingHyphens bound (u.add (.single '-') 0)
    else return u

def openBracket : Scan (Bool × Union) := do
  Scan.skipSpace
  let negated := (← Scan.peek) = '^'
  if negated then Scan.dropSpaced
  let u ← leadingHyphens (← Scan.bound) {}
  if u.items = 0 && (← Scan.peek) = ']' then
    Scan.dropSpaced
    let _ ← Scan.peek
    return (negated, u.add (.single ']') 0)
  else return (negated, u)

mutual

/-- A class, read behind its opening bracket: its set and its height. At most `room` brackets may
be nested. -/
def bracket : Nat → Nat → Scan (CharSet × Nat)
  | 0, _ => failure
  | _ + 1, 0 => failure
  | bound + 1, room + 1 => do
    let (negated, u) ← openBracket
    let (s, height) ← classItems bound room none u
    let f ← Scan.flags
    return (← f.negate? negated (f.close s), height + 1)

def classItems : Nat → Nat → Option Pending → Union → Scan (CharSet × Nat)
  | 0, _, _, _ => failure
  | bound + 1, room, pending, u => do
    Scan.skipSpace
    let f ← Scan.flags
    let continueWith (op : Operator) : Scan (CharSet × Nat) := do
      Scan.drop 2
      let (s, height) := combine f pending u
      classItems bound room (some ⟨op, s, height⟩) {}
    match (← get).rest with
    | ']' :: _ => do
      Scan.drop 1
      return combine f pending u
    | '[' :: _ =>
      match colonClass? (← get).rest with
      | some (negated, s, rest) => do
        modify ({ · with rest := rest })
        classItems bound room pending (u.add (← f.negate? negated (f.close s)) 0)
      | none => do
        Scan.drop 1
        let (s, height) ← bracket bound room
        classItems bound room pending (u.add s height)
    | '&' :: '&' :: _ => continueWith .intersection
    | '-' :: '-' :: _ => continueWith .difference
    | '~' :: '~' :: _ => continueWith .symmetricDifference
    | _ => do
      let s ← classRange
      classItems bound room pending (u.add s 0)

end

end Highlight.Pattern
