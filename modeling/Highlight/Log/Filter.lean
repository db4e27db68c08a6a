import Highlight.Log.Event
import Highlight.Pattern.Parser
import Highlight.Text.Line

/-! # Filters of the log

Which events are shown is decided by a filter, a list of directives separated by commas. A directive
sets a level for all events or for those whose target begins with a given name. In brackets it may
ask for more: to be inside of a span, or for a field, possibly with a value. The program opens no
spans, so of these only a field without a value can be met by an event.
-/

namespace Highlight.Log

open Unicode

inductive Demand where
  | nothing
  | field (name : String)
  | span
deriving DecidableEq, Repr

/-- Show events up to a rank whose target begins with `target`. Rank zero shows none. -/
structure Directive where
  target : String
  demand : Demand
  rank : Nat
deriving DecidableEq, Repr

abbrev Filter := List Directive

def natural? (s : List Char) : Option Nat :=
  let digits := if s.head? = some '+' then s.tail else s
  if digits.isEmpty || !digits.all Char.isDigit then none
  else
    let n := digits.foldl (fun n d => 10 * n + (d.toNat - '0'.toNat)) 0
    if n < UInt64.size then some n else none

def rank? (text : String) : Option Nat :=
  match natural? text.toList with
  | some n => if n ≤ 5 then some n else none
  | none =>
    match String.ofList (text.toList.map Char.toLower) with
    | "off" => some 0
    | "" | "error" => some 1
    | "warn" => some 2
    | "info" => some 3
    | "debug" => some 4
    | "trace" => some 5
    | _ => none

def isDecimal (s : List Char) : Bool :=
  let whole := s.takeWhile Char.isDigit
  let rest := s.drop whole.length
  let (part, rest) :=
    match rest with
    | '.' :: more => (more.takeWhile Char.isDigit, more.dropWhile Char.isDigit)
    | _ => ([], rest)
  let scale :=
    match rest with
    | [] => true
    | e :: more =>
      let digits := if more.head? = some '+' || more.head? = some '-' then more.tail else more
      e.toLower == 'e' && !digits.isEmpty && digits.all Char.isDigit
  !(whole.isEmpty && part.isEmpty) && scale

def isSignedNumber : List Char → Bool
  | '+' :: s =>
    isDecimal s || ["inf", "infinity", "nan"].contains (String.ofList (s.map Char.toLower))
  | _ => false

/-- Can a field be compared with this value? Numbers stand for themselves, and everything else is a
pattern, in which the borders of words are not available. -/
def isComparable (value : List Char) : Bool :=
  isSignedNumber value || (Pattern.parse? false value).any fun p => !p.looksForWords

def fieldDemand? (text : String) : Option Demand :=
  match text.splitOn "=" with
  | [name] => if name.isEmpty then none else some (.field name)
  | _ :: value :: _ => if isComparable value.toList then some .span else none
  | [] => none

/-- How far a directive has been read. Offsets are counted in bytes from its first visible
character. -/
inductive Place where
  | start
  | name (start : Nat)
  | span (start : Nat)
  | field (start : Nat)
  | closing
  | closed
  | level (start : Nat)

structure Reading where
  place : Place := .start
  target : String := ""
  demand : Demand := .nothing

def isTargetStart (c : Char) : Bool :=
  c == '-' || c == ':' || c == '_' || Recent.alphanumeric.contains c

/-- Read the character at an offset. What a name or a level says is cut out of the whole text, so
that blanks in front of a directive shift it. -/
def Reading.next? (text : String) (offset : Nat) (c : Char) (r : Reading) : Option Reading :=
  match r.place with
  | .start =>
    if c = '[' then some { r with place := .span (offset + 1) }
    else if isTargetStart c then some { r with place := .name offset }
    else none
  | .name start =>
    if c = '=' then
      some { r with place := .level (offset + 1), target := Text.slice text start offset }
    else if c = '[' then
      some { r with place := .span (offset + 1), target := Text.slice text start offset }
    else some r
  | .span start =>
    if c = ']' then some { r with place := .closed, demand := .span }
    else if c = '\x7b' then
      let demand := if (Text.slice text start offset).isEmpty then .nothing else .span
      some { r with place := .field (offset + 1), demand := demand }
    else some r
  | .field start =>
    if c = '\x7d' then do
      let demand ← fieldDemand? (Text.slice text start offset)
      some { r with place := .closing, demand := if r.demand = .span then .span else demand }
    else some r
  | .closing => if c = ']' then some { r with place := .closed } else none
  | .closed => if c = '=' then some { r with place := .level (offset + 1) } else none
  | .level _ => some r

def Reading.run? (text : String) (offset : Nat) : List Char → Reading → Option Reading
  | [], r => some r
  | c :: cs, r => do run? text (offset + c.utf8Size) cs (← r.next? text offset c)

/-- A directive without a level shows everything. A word that is no level is a target. -/
def Reading.directive? (text : String) (r : Reading) : Option Directive :=
  match r.place with
  | .name start =>
    let word := Text.slice text start text.utf8ByteSize
    match rank? word with
    | some n => some ⟨"", .nothing, n⟩
    | none => some ⟨word, .nothing, 5⟩
  | .level start =>
    let word := Text.slice text start text.utf8ByteSize
    if word.isEmpty then some ⟨r.target, r.demand, 5⟩
    else (rank? word).map (⟨r.target, r.demand, ·⟩)
  | .closed => some ⟨r.target, r.demand, 5⟩
  | _ => none

def trimBlanks (cs : List Char) : List Char :=
  ((cs.dropWhile isWhiteSpace).reverse.dropWhile isWhiteSpace).reverse

def Directive.parse? (text : String) : Option Directive := do
  (← Reading.run? text 0 (trimBlanks text.toList) {}).directive? text

def Filter.parse? (s : String) : Option Filter := do
  let parts := (s.splitOn ",").filter (!·.isEmpty)
  let directives ← parts.mapM Directive.parse?
  return if directives.isEmpty then [⟨"", .nothing, 1⟩] else directives

def Directive.concerns (d : Directive) (e : Event) : Bool :=
  d.target.toList.isPrefixOf e.target.toList &&
    match d.demand with
    | .nothing => true
    | .field name => e.hasField name
    | .span => false

/-- Does the first directive say more about an event than the second? A longer target comes first,
then a field, then the greater name of a field. -/
def Directive.outranks (d b : Directive) : Bool :=
  let length (x : Directive) : Nat := x.target.utf8ByteSize
  if length d = length b then
    match d.demand, b.demand with
    | .field x, .field y => y < x
    | .field _, _ => true
    | _, _ => false
  else length b < length d

def moreSpecific (best : Option Directive) (d : Directive) : Option Directive :=
  match best with
  | some b => if b.outranks d then some b else some d
  | none => some d

def Filter.shows (f : Filter) (e : Event) : Bool :=
  match (f.filter (·.concerns e)).foldl moreSpecific none with
  | some d => e.level.rank ≤ d.rank
  | none => false

/-- The filter in force: the one asked for if it can be read, or a level that depends on
whether more output is wanted. -/
def Filter.choose (asked : Option String) (verbose : Bool) : Filter :=
  let usual : Filter := [⟨"", .nothing, if verbose then 4 else 2⟩]
  match asked with
  | none => usual
  | some s => (Filter.parse? s).getD usual

end Highlight.Log
