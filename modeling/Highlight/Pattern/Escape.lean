import Highlight.Pattern.Scanner

/-! # Escapes of the pattern language

What a backslash introduces: a literal character, a class of characters, or a condition on the
place. Without the Unicode flag only ASCII may be described, so that a negated class is refused.
-/

namespace Highlight.Pattern

open Unicode

/-- One unit of a pattern text. `byte` marks a character that was given by two digits. -/
inductive Atom where
  | literal (c : Char) (byte : Bool)
  | cls (s : CharSet)
  | look (l : Look)

def Flags.close (f : Flags) (s : CharSet) : CharSet :=
  if f.ignoreCase then if f.unicode then s.foldClosure else s.asciiFoldClosure else s

/-- Negation needs the Unicode flag, since it lets more than ASCII match. -/
def Flags.negate? (f : Flags) (negated : Bool) (s : CharSet) : Option CharSet :=
  if negated then if f.unicode then some s.compl else none else some s

def Flags.allows (f : Flags) (c : Char) : Bool :=
  f.unicode || c.toNat < 128

def asciiDigits : CharSet := .range 48 57

def asciiWord : CharSet := ⟨[(48, 57), (65, 90), (95, 95), (97, 122)]⟩

def asciiBlanks : CharSet := ⟨[(9, 13), (32, 32)]⟩

def shorthand? (f : Flags) (c : Char) : Option CharSet :=
  match c with
  | 'd' => some (if f.unicode then decimalNumber else asciiDigits)
  | 's' => some (if f.unicode then whiteSpace else asciiBlanks)
  | 'w' => some (if f.unicode then word else asciiWord)
  | _ => none

def hexValue (c : Char) : Option Nat :=
  if '0' ≤ c ∧ c ≤ '9' then some (c.toNat - 48)
  else if 'a' ≤ c ∧ c ≤ 'f' then some (c.toNat - 87)
  else if 'A' ≤ c ∧ c ≤ 'F' then some (c.toNat - 55)
  else none

def hexChar (digits : List Char) : Scan Char := do
  if digits.isEmpty then failure
  let n ← digits.foldlM (fun n d => do return n * 16 + (← hexValue d)) 0
  if Nat.isValidChar n then return Char.ofNat n else failure

def hexDigits : Nat → Scan (List Char)
  | 0 => return []
  | count + 1 => do
    let c ← Scan.peek
    if (hexValue c).isNone then failure
    Scan.dropSpaced
    return c :: (← hexDigits count)

def hexEscape (kind : Char) : Scan Atom := do
  Scan.skipSpace
  if (← Scan.peek) = '\x7b' then
    Scan.dropSpaced
    let digits ← Scan.takeSpaced (· != '\x7d') (← Scan.bound)
    Scan.expect '\x7d'
    Scan.skipSpace
    return .literal (← hexChar digits) false
  else
    let digits ← hexDigits (if kind = 'x' then 2 else if kind = 'u' then 4 else 8)
    return .literal (← hexChar digits) (kind = 'x')

def splitAt? (sep : List Char) : List Char → Option (List Char × List Char)
  | [] => none
  | c :: cs =>
    if sep.isPrefixOf (c :: cs) then some ([], (c :: cs).drop sep.length)
    else (splitAt? sep cs).map fun (a, b) => (c :: a, b)

/-- The property that stands in braces: a name, or a name with a value that the characters have or,
behind `!=`, do not have. -/
inductive PropertyQuery where
  | named (name : List Char)
  | valued (name value : List Char) (differs : Bool)

def PropertyQuery.parse (text : List Char) : PropertyQuery :=
  match splitAt? ['!', '='] text with
  | some (name, value) => .valued name value true
  | none =>
    match splitAt? [':'] text with
    | some (name, value) => .valued name value false
    | none =>
      match splitAt? ['='] text with
      | some (name, value) => .valued name value false
      | none => .named text

def PropertyQuery.charSet? : PropertyQuery → Option CharSet
  | .named name => property? name
  | .valued name value _ => propertyValue? name value

def PropertyQuery.differs : PropertyQuery → Bool
  | .named _ => false
  | .valued _ _ differs => differs

/-- A property class, read behind its letter. Two negations cancel. -/
def propertyEscape (negated : Bool) : Scan Atom := do
  Scan.skipSpace
  let c ← Scan.peek
  let query ←
    if c = '\x7b' then do
      Scan.dropSpaced
      let text ← Scan.takeSpaced (· != '\x7d') (← Scan.bound)
      Scan.expect '\x7d'
      pure (PropertyQuery.parse text)
    else do
      if c = '\\' then failure
      Scan.dropSpaced
      pure (.named [c])
  let f ← Scan.flags
  if !f.unicode then failure
  let s ← query.charSet?
  return .cls (← f.negate? (negated != query.differs) (f.close s))

def isMeta (c : Char) : Bool :=
  "\\.+*?()|[]\x7b\x7d^$#&-~".toList.contains c

def isEscapable (c : Char) : Bool :=
  isMeta c || (c.toNat < 128 && !c.isAlphanum && c != '<' && c != '>')

def isBoundaryLetter (c : Char) : Bool :=
  c.isAlpha || c == '-'

/-- The named boundaries. If no name can stand here, the brace opens a repetition and is left. -/
def boundaryEscape : Scan Boundary := do
  let before ← get
  if (← Scan.accept ['\x7b']) then
    Scan.skipSpace
    if isBoundaryLetter (← Scan.peek) then
      let name ← Scan.takeSpaced isBoundaryLetter (← Scan.bound)
      Scan.expect '\x7d'
      match String.ofList name with
      | "start" => return .start
      | "end" => return .stop
      | "start-half" => return .startHalf
      | "end-half" => return .stopHalf
      | _ => failure
    else
      modify fun _ => before
      return .edge
  else return .edge

def escape : Scan Atom := do
  let c ← Scan.peek
  let f ← Scan.flags
  let atBoundary (b : Boundary) : Atom := .look (.word b !f.unicode)
  Scan.drop 1
  if c = 'x' || c = 'u' || c = 'U' then hexEscape c
  else if c = 'p' || c = 'P' then propertyEscape (c = 'P')
  else
    match shorthand? f c, shorthand? f c.toLower with
    | some s, _ => return .cls s
    | none, some s => return .cls (← f.negate? true s)
    | none, none =>
      if isEscapable c then return .literal c false
      else
        match c with
        | 'a' => return .literal (Char.ofNat 7) false
        | 'f' => return .literal (Char.ofNat 12) false
        | 't' => return .literal '\t' false
        | 'n' => return .literal '\n' false
        | 'r' => return .literal '\r' false
        | 'v' => return .literal (Char.ofNat 11) false
        | 'A' => return .look .textStart
        | 'z' => return .look .textEnd
        | 'b' => return atBoundary (← boundaryEscape)
        | 'B' => return atBoundary .inner
        | '<' => return atBoundary .start
        | '>' => return atBoundary .stop
        | _ => failure

end Highlight.Pattern
