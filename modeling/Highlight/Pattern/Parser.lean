import Highlight.Pattern.Bracket
import Highlight.Unicode.Recent

/-! # Reading patterns

`Pattern.parse?` reads the text of a pattern. A text is a choice between sequences; a sequence holds
literals, classes, conditions, groups and flag settings, each possibly repeated. Flags that are set
in the middle of a group hold to its end, over the bars of its choice. A pattern that nests more
than 250 deep is refused.
-/

namespace Highlight.Pattern

open Unicode

def heightLimit : Nat := 250

structure Node where
  pattern : Pattern
  height : Nat
  repeatable : Bool := true

def Node.leaf (p : Pattern) : Node := ⟨p, 0, true⟩

/-- A single part is no deeper for standing alone in a sequence or a choice. -/
def Node.nested (nodes : List Node) (build : List Pattern → Pattern) : Node :=
  let height := nodes.foldl (fun h n => max h n.height) 0
  let pattern := build (nodes.map (·.pattern))
  match nodes with
  | [] => ⟨pattern, 0, true⟩
  | [n] => ⟨pattern, n.height, true⟩
  | _ => ⟨pattern, height + 1, true⟩

/-- A literal outside of classes. Without the Unicode flag, two digits cannot give a byte outside
of ASCII, and only ASCII letters ignore case. -/
def literal (c : Char) (byte : Bool) : Scan Pattern := do
  let f ← Scan.flags
  if !f.unicode && byte && 127 < c.toNat then failure
  if f.unicode || c.toNat < 128 then return .set (f.close (.single c))
  else return .set (.single c)

def dot : Scan Pattern := do
  let f ← Scan.flags
  if !f.unicode then failure
  if f.dotAll then return .set .full
  else if f.crlf then return .set (CharSet.compl ⟨[(10, 10), (13, 13)]⟩)
  else return .set (CharSet.compl (.single '\n'))

def atomPattern : Atom → Scan Pattern
  | .literal c byte => literal c byte
  | .cls s => return .set s
  | .look l => return .look l

def primitive : Scan Pattern := do
  let c ← Scan.peek
  let f ← Scan.flags
  Scan.drop 1
  match c with
  | '\\' => do atomPattern (← escape)
  | '.' => dot
  | '^' => return .look (if f.multiLine then .lineStart f.crlf else .textStart)
  | '$' => return .look (if f.multiLine then .lineEnd f.crlf else .textEnd)
  | c => literal c false

def decimal : Scan (Option Nat) := do
  Scan.dropBlanks
  let digits ← Scan.takeSpaced Char.isDigit (← Scan.bound)
  Scan.dropBlanks
  Scan.skipSpace
  if digits.isEmpty then return none
  let n := digits.foldl (fun n d => n * 10 + (d.toNat - 48)) 0
  if n < UInt32.size then return some n else failure

def countedBounds : Scan (Nat × Option Nat) := do
  Scan.skipSpace
  let _ ← Scan.peek
  let least ← decimal
  let bounds ←
    if (← Scan.accept [',']) then do
      Scan.skipSpace
      if (← Scan.peek) = '\x7d' then pure (← least, none)
      else do
        let least ← least
        let most ← decimal
        pure (least, some (← most))
    else pure (← least, some (← least))
  Scan.expect '\x7d'
  match bounds with
  | (least, some most) => if least ≤ most then return bounds else failure
  | _ => return bounds

def repetition : Scan Repeat := do
  let c ← Scan.peek
  Scan.drop 1
  let (least, most) ←
    match c with
    | '?' => pure (0, some 1)
    | '*' => pure (0, none)
    | '+' => pure (1, none)
    | _ => do
      let bounds ← countedBounds
      Scan.skipSpace
      pure bounds
  let lazily ← Scan.accept ['?']
  return ⟨least, most, lazily == (← Scan.flags).swapGreed⟩

def isNameStart (c : Char) : Bool :=
  c == '_' || Recent.alphabetic.contains c

def isNamePart (c : Char) : Bool :=
  c == '_' || c == '.' || c == '[' || c == ']' || Recent.alphanumeric.contains c

def groupName : Scan Unit := do
  let s ← get
  let name := s.rest.takeWhile (· != '>')
  match name with
  | [] => failure
  | c :: cs =>
    if isNameStart c && cs.all isNamePart && !s.names.contains name then
      modify fun s => { s with names := name :: s.names, rest := s.rest.drop name.length }
      Scan.expect '>'
    else failure

/-- Settings of flags up to a colon or parenthesis, which is left. No flag occurs twice, and one
minus sign may turn off those behind it. -/
def flagItems : Nat → List Char → Flags → Scan Flags
  | 0, _, _ => failure
  | bound + 1, seen, f => do
    let c ← Scan.peek
    if c = ':' || c = ')' then
      if seen.head? == some '-' then failure else return f
    else if seen.contains c then failure
    else
      Scan.drop 1
      if c = '-' then flagItems bound (c :: seen) f
      else do
        let f ← f.set? c (!seen.contains '-')
        flagItems bound (c :: seen) f

inductive Opening where
  | capture (index : Nat)
  | plain (flags : Flags)
  | setting (flags : Flags)

def nextGroup : Scan Nat := do
  let n := (← get).groups + 1
  modify ({ · with groups := n })
  return n

def opening : Scan Opening := do
  Scan.skipSpace
  if (← Scan.accept "?P<".toList) then
    let n ← nextGroup
    groupName
    return .capture n
  else if (← Scan.accept "?<".toList) then
    let n ← nextGroup
    groupName
    return .capture n
  else if (← Scan.accept ['?']) then
    let before := (← get).rest
    let f ← flagItems (← Scan.bound) [] (← Scan.flags)
    if (← Scan.accept [':']) then return .plain f
    else
      Scan.expect ')'
      if before.head? == some ')' then failure
      return .setting f
  else return .capture (← nextGroup)

mutual

def choiceNode : Nat → Nat → Scan Node
  | 0, _ => failure
  | bound + 1, room => do
    let nodes ← choiceBranches bound room
    return Node.nested nodes choice

def choiceBranches : Nat → Nat → Scan (List Node)
  | 0, _ => failure
  | bound + 1, room => do
    let node ← sequenceNode bound room []
    if (← Scan.accept ['|']) then return node :: (← choiceBranches bound room)
    else return [node]

/-- A sequence up to a bar, a closing parenthesis or the end. `done` holds its nodes, last first. -/
def sequenceNode : Nat → Nat → List Node → Scan Node
  | 0, _, _ => failure
  | bound + 1, room, done => do
    Scan.skipSpace
    match ← Scan.peek? with
    | none => return Node.nested done.reverse sequence
    | some c =>
      if c = '|' || c = ')' then return Node.nested done.reverse sequence
      else if c = '(' then do
        Scan.drop 1
        let node ← groupNode bound room
        sequenceNode bound room (node :: done)
      else if c = '[' then do
        Scan.drop 1
        let (s, height) ← bracket (2 * (← Scan.bound)) heightLimit
        sequenceNode bound room (⟨.set s, height, true⟩ :: done)
      else if c = '?' || c = '*' || c = '+' || c = '\x7b' then
        match done with
        | [] => failure
        | node :: done => do
          if !node.repeatable then failure
          let r ← repetition
          sequenceNode bound room (⟨repeated r node.pattern, node.height + 1, true⟩ :: done)
      else do
        let p ← primitive
        sequenceNode bound room (Node.leaf p :: done)

def groupNode : Nat → Nat → Scan Node
  | 0, _ => failure
  | _ + 1, 0 => failure
  | bound + 1, room + 1 => do
    let outer ← Scan.flags
    match ← opening with
    | .setting f => do
      Scan.setFlags f
      return ⟨.empty, 0, false⟩
    | .plain f => do
      Scan.setFlags f
      let node ← choiceNode bound room
      Scan.expect ')'
      Scan.setFlags outer
      return ⟨node.pattern, node.height + 1, true⟩
    | .capture n => do
      let node ← choiceNode bound room
      Scan.expect ')'
      Scan.setFlags outer
      return ⟨.group n node.pattern, node.height + 1, true⟩

end

def parse? (ignoreCase : Bool) (text : List Char) : Option Pattern := do
  let scanner : Scanner := ⟨text, { ignoreCase := ignoreCase }, 0, []⟩
  let (node, s) ← (choiceNode (4 * text.length + 4) (heightLimit + 1)).run scanner
  if s.rest.isEmpty ∧ node.height ≤ heightLimit then some node.pattern else none

end Highlight.Pattern

namespace Highlight

/-- What reads patterns, told whether case is ignored. Besides patterns of a wrong form an engine
may refuse those that need more room than it has, so which patterns it takes is up to the engine. -/
structure Engine where
  compile? : (ignoreCase : Bool) → (text : List Char) → Option Pattern

/-- The engine that has room for every pattern. -/
def Engine.standard : Engine := ⟨Pattern.parse?⟩

end Highlight
