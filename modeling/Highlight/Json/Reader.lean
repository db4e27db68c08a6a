import Highlight.Json.Basic
import Highlight.Json.Error

/-! # Reading JSON text

Readers take the characters that are left and give a value with the characters behind it. Two
ways of going over a value are needed: `value` builds it and limits its nesting, `skip` only
passes over it, with no limit and without looking at the range of numbers or at surrogates.
Recursion is bounded by a number that the length of the text always exceeds.
-/

namespace Highlight.Json

abbrev Rest := List Char

def isBlank (c : Char) : Bool :=
  c == ' ' || c == '\n' || c == '\t' || c == '\r'

def dropBlanks (s : Rest) : Rest :=
  s.dropWhile isBlank

def ident : List Char → Rest → Except Fault Rest
  | [], s => .ok s
  | _ :: _, [] => .error .endInValue
  | c :: cs, d :: s => if c = d then ident cs s else .error .noIdent

def hexValue (c : Char) : Option Nat :=
  if '0' ≤ c ∧ c ≤ '9' then some (c.toNat - 48)
  else if 'a' ≤ c ∧ c ≤ 'f' then some (c.toNat - 87)
  else if 'A' ≤ c ∧ c ≤ 'F' then some (c.toNat - 55)
  else none

def hasBytes : Nat → Rest → Bool
  | 0, _ => true
  | _ + 1, [] => false
  | n + 1, c :: s => hasBytes (n + 1 - c.utf8Size) s

def hexEscape (s : Rest) : Except Fault (Nat × Rest) :=
  if hasBytes 4 s then
    match s with
    | a :: b :: c :: d :: s =>
      match hexValue a, hexValue b, hexValue c, hexValue d with
      | some a, some b, some c, some d => .ok (((a * 16 + b) * 16 + c) * 16 + d, s)
      | _, _, _, _ => .error .badEscape
    | _ => .error .badEscape
  else .error .endInString

def isLeading (n : Nat) : Bool :=
  0xD800 ≤ n && n ≤ 0xDBFF

def isTrailing (n : Nat) : Bool :=
  0xDC00 ≤ n && n ≤ 0xDFFF

def pairedEscape (lead : Nat) (s : Rest) : Except Fault (Char × Rest) :=
  match s with
  | [] => .error .endInString
  | '\\' :: [] => .error .endInString
  | '\\' :: 'u' :: s => do
    let (trail, s) ← hexEscape s
    if isTrailing trail then
      .ok (Char.ofNat ((lead - 0xD800) * 0x400 + (trail - 0xDC00) + 0x10000), s)
    else .error .loneSurrogate
  | _ => .error .hexEscapeEnd

def escaped (s : Rest) : Except Fault (Char × Rest) :=
  match s with
  | [] => .error .endInString
  | '"' :: s => .ok ('"', s)
  | '\\' :: s => .ok ('\\', s)
  | '/' :: s => .ok ('/', s)
  | 'b' :: s => .ok (Char.ofNat 8, s)
  | 'f' :: s => .ok (Char.ofNat 12, s)
  | 'n' :: s => .ok ('\n', s)
  | 'r' :: s => .ok ('\r', s)
  | 't' :: s => .ok ('\t', s)
  | 'u' :: s => do
    let (n, s) ← hexEscape s
    if isTrailing n then .error .loneSurrogate
    else if isLeading n then pairedEscape n s
    else .ok (Char.ofNat n, s)
  | _ => .error .badEscape

def stringChars : Nat → Rest → Except Fault (List Char × Rest)
  | 0, _ => .error .endInString
  | _ + 1, [] => .error .endInString
  | bound + 1, c :: s =>
    if c = '"' then .ok ([], s)
    else if c = '\\' then do
      let (d, s) ← escaped s
      let (ds, s) ← stringChars bound s
      .ok (d :: ds, s)
    else if c.toNat < 32 then .error .controlCharacter
    else do
      let (ds, s) ← stringChars bound s
      .ok (c :: ds, s)

def string (s : Rest) : Except Fault (String × Rest) := do
  let (cs, s) ← stringChars (s.length + 1) s
  .ok (String.ofList cs, s)

def skipEscape (s : Rest) : Except Fault Rest :=
  match s with
  | [] => .error .endInString
  | c :: s =>
    if "\"\\/bfnrt".toList.contains c then .ok s
    else if c = 'u' then (hexEscape s).map Prod.snd
    else .error .badEscape

def skipString : Nat → Rest → Except Fault Rest
  | 0, _ => .error .endInString
  | _ + 1, [] => .error .endInString
  | bound + 1, c :: s =>
    if c = '"' then .ok s
    else if c = '\\' then do skipString bound (← skipEscape s)
    else if c.toNat < 32 then .error .controlCharacter
    else skipString bound s

def isDigit (c : Char) : Bool :=
  '0' ≤ c && c ≤ '9'

def digitValue (c : Char) : Nat :=
  c.toNat - 48

def digitRun (s : Rest) : List Nat × Rest :=
  ((s.takeWhile isDigit).map digitValue, s.dropWhile isDigit)

/-- Append digits to a significand as long as it stays below `2 ^ 64`; also how many were taken. -/
def absorb (n : Nat) : List Nat → Nat × Nat
  | [] => (n, 0)
  | d :: ds =>
    if n * 10 + d < UInt64.size then
      let (m, taken) := absorb (n * 10 + d) ds
      (m, taken + 1)
    else (n, 0)

def ofDigits (ds : List Nat) : Nat :=
  ds.foldl (fun n d => n * 10 + d) 0

def realNumber (minus : Bool) (n : Nat) (k : Int) (s : Rest) : Except Fault (Number × Rest) :=
  if Number.isFinite n k then .ok (.real minus n k, s) else .error .numberRange

def exponentSign : Rest → Bool × Rest
  | '+' :: s => (false, s)
  | '-' :: s => (true, s)
  | s => (false, s)

def exponent (minus : Bool) (n : Nat) (k : Int) (s : Rest) : Except Fault (Number × Rest) :=
  let (down, s) := exponentSign s
  match s with
  | [] => .error .endInValue
  | c :: _ =>
    if isDigit c then
      let (ds, s) := digitRun s
      let e := ofDigits ds
      if e < 0x80000000 then realNumber minus n (if down then k - e else k + e) s
      else if n ≠ 0 ∧ ¬down then .error .numberRange
      else .ok (.real minus 0 0, s)
    else .error .badNumber

def fraction (minus : Bool) (n : Nat) (k : Int) (s : Rest) : Except Fault (Number × Rest) :=
  match digitRun s with
  | ([], []) => .error .endInValue
  | ([], _ :: _) => .error .badNumber
  | (ds, s) =>
    let (n, taken) := absorb n ds
    let k := k - taken
    match s with
    | 'e' :: s => exponent minus n k s
    | 'E' :: s => exponent minus n k s
    | s => realNumber minus n k s

def number (minus : Bool) (s : Rest) : Except Fault (Number × Rest) :=
  match digitRun s with
  | ([], []) => .error .endInValue
  | ([], _ :: _) => .error .badNumber
  | (0 :: _ :: _, _) => .error .badNumber
  | (ds, s) =>
    let (n, taken) := absorb 0 ds
    let k := ds.length - taken
    match s with
    | '.' :: s => fraction minus n k s
    | 'e' :: s => exponent minus n k s
    | 'E' :: s => exponent minus n k s
    | s => if k = 0 then .ok (.ofInteger minus n, s) else realNumber minus n k s

def skipExponent (s : Rest) : Except Fault Rest :=
  match digitRun (exponentSign s).2 with
  | ([], _) => .error .badNumber
  | (_, s) => .ok s

def skipFraction (s : Rest) : Except Fault Rest :=
  match digitRun s with
  | ([], _) => .error .badNumber
  | (_, 'e' :: s) => skipExponent s
  | (_, 'E' :: s) => skipExponent s
  | (_, s) => .ok s

def skipNumber (s : Rest) : Except Fault Rest :=
  match digitRun s with
  | ([], _) => .error .badNumber
  | (0 :: _ :: _, _) => .error .badNumber
  | (_, '.' :: s) => skipFraction s
  | (_, 'e' :: s) => skipExponent s
  | (_, 'E' :: s) => skipExponent s
  | (_, s) => .ok s

/-- Where the next element of a list starts; nothing at the closing bracket, which is left. -/
def nextElement (first : Bool) (s : Rest) : Except Fault (Option Rest) :=
  match dropBlanks s with
  | [] => .error .endInList
  | ']' :: _ => .ok none
  | c :: s =>
    if first then .ok (some (c :: s))
    else if c = ',' then
      match dropBlanks s with
      | [] => .error .endInValue
      | ']' :: _ => .error .trailingComma
      | s => .ok (some s)
    else .error .noListEnd

def closeList (s : Rest) : Except Fault Rest :=
  match dropBlanks s with
  | [] => .error .endInList
  | ']' :: s => .ok s
  | ',' :: s =>
    match dropBlanks s with
    | ']' :: _ => .error .trailingComma
    | _ => .error .trailingCharacters
  | _ => .error .trailingCharacters

/-- Where the next key of an object starts, behind its quote; nothing at the closing brace, which
is left. -/
def nextKey (first : Bool) (s : Rest) : Except Fault (Option Rest) :=
  match dropBlanks s with
  | [] => .error .endInObject
  | '\x7d' :: _ => .ok none
  | c :: s =>
    if first then if c = '"' then .ok (some s) else .error .keyNotString
    else if c = ',' then
      match dropBlanks s with
      | [] => .error .endInValue
      | '"' :: s => .ok (some s)
      | '\x7d' :: _ => .error .trailingComma
      | _ => .error .keyNotString
    else .error .noObjectEnd

def closeObject (s : Rest) : Except Fault Rest :=
  match dropBlanks s with
  | [] => .error .endInObject
  | '\x7d' :: s => .ok s
  | ',' :: _ => .error .trailingComma
  | _ => .error .trailingCharacters

def colon (s : Rest) : Except Fault Rest :=
  match dropBlanks s with
  | [] => .error .endInObject
  | ':' :: s => .ok s
  | _ => .error .noColon

mutual

/-- A value whose lists and objects nest less than `depth` deep. -/
def valueWithin : Nat → Nat → Rest → Except Fault (Json × Rest)
  | 0, _, _ => .error .endInValue
  | bound + 1, depth, s =>
    match dropBlanks s with
    | [] => .error .endInValue
    | 'n' :: s => do .ok (.null, ← ident "ull".toList s)
    | 't' :: s => do .ok (.bool true, ← ident "rue".toList s)
    | 'f' :: s => do .ok (.bool false, ← ident "alse".toList s)
    | '"' :: s => do
      let (x, s) ← string s
      .ok (.str x, s)
    | '-' :: s => do
      let (n, s) ← number true s
      .ok (.num n, s)
    | '[' :: s =>
      if depth ≤ 1 then .error .tooDeep
      else do
        let (items, s) ← itemsWithin bound (depth - 1) true s
        .ok (.arr items, s)
    | '\x7b' :: s =>
      if depth ≤ 1 then .error .tooDeep
      else do
        let (members, s) ← membersWithin bound (depth - 1) true s
        .ok (.obj members, s)
    | c :: s =>
      if isDigit c then do
        let (n, s) ← number false (c :: s)
        .ok (.num n, s)
      else .error .noValue

def itemsWithin : Nat → Nat → Bool → Rest → Except Fault (List Json × Rest)
  | 0, _, _, _ => .error .endInList
  | bound + 1, depth, first, s => do
    match ← nextElement first s with
    | none => .ok ([], ← closeList s)
    | some s =>
      let (x, s) ← valueWithin bound depth s
      let (xs, s) ← itemsWithin bound depth false s
      .ok (x :: xs, s)

def membersWithin : Nat → Nat → Bool → Rest → Except Fault (List (String × Json) × Rest)
  | 0, _, _, _ => .error .endInObject
  | bound + 1, depth, first, s => do
    match ← nextKey first s with
    | none => .ok ([], ← closeObject s)
    | some s =>
      let (key, s) ← string s
      let (x, s) ← valueWithin bound depth (← colon s)
      let (xs, s) ← membersWithin bound depth false s
      .ok ((key, x) :: xs, s)

end

def value (depth : Nat) (s : Rest) : Except Fault (Json × Rest) :=
  valueWithin (2 * s.length + 2) depth s

inductive Frame where
  | list
  | object
deriving DecidableEq, Repr

def skipKey (s : Rest) : Except Fault Rest :=
  match dropBlanks s with
  | [] => .error .endInObject
  | '"' :: s => do colon (← skipString (s.length + 1) s)
  | _ => .error .keyNotString

mutual

/-- Pass over a value and over all that its enclosing frames still hold. -/
def skipWithin : Nat → List Frame → Rest → Except Fault Rest
  | 0, _, _ => .error .endInValue
  | bound + 1, frames, s =>
    match dropBlanks s with
    | [] => .error .endInValue
    | 'n' :: s => do skipClose bound frames (← ident "ull".toList s)
    | 't' :: s => do skipClose bound frames (← ident "rue".toList s)
    | 'f' :: s => do skipClose bound frames (← ident "alse".toList s)
    | '"' :: s => do skipClose bound frames (← skipString (s.length + 1) s)
    | '-' :: s => do skipClose bound frames (← skipNumber s)
    | '[' :: s =>
      match dropBlanks s with
      | [] => .error .endInList
      | ']' :: s => skipClose bound frames s
      | s => skipWithin bound (.list :: frames) s
    | '\x7b' :: s =>
      match dropBlanks s with
      | [] => .error .endInObject
      | '\x7d' :: s => skipClose bound frames s
      | s => do skipWithin bound (.object :: frames) (← skipKey s)
    | c :: s =>
      if isDigit c then do skipClose bound frames (← skipNumber (c :: s))
      else .error .noValue

def skipClose : Nat → List Frame → Rest → Except Fault Rest
  | 0, _, _ => .error .endInValue
  | _ + 1, [], s => .ok s
  | bound + 1, .list :: frames, s =>
    match dropBlanks s with
    | [] => .error .endInList
    | ',' :: s => skipWithin bound (.list :: frames) s
    | ']' :: s => skipClose bound frames s
    | _ => .error .noListEnd
  | bound + 1, .object :: frames, s =>
    match dropBlanks s with
    | [] => .error .endInObject
    | ',' :: s => do skipWithin bound (.object :: frames) (← skipKey s)
    | '\x7d' :: s => skipClose bound frames s
    | _ => .error .noObjectEnd

end

def skip (s : Rest) : Except Fault Rest :=
  skipWithin (2 * s.length + 2) [] s

end Highlight.Json
