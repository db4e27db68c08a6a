/-! # Control sequences

Terminals read some characters as commands: a control character, or a sequence that an escape
character opens. `plain` is the text that is left when all of them are taken out. Sequences end as
terminals end them, and a sequence that is not finished takes the rest of the text with it.
-/

namespace Highlight.Text.ControlSequence

/-- What the next character belongs to. A device string has a head with parameters and
intermediates before its data. -/
inductive Mode where
  | text
  | escape
  | intermediate
  | sequence
  | deviceEntry
  | deviceParameter
  | deviceIntermediate
  | stringData
  | command
deriving DecidableEq, Repr

/-- Blanks among the control characters. They are text wherever controls are carried out. -/
def isBlank (c : Char) : Bool :=
  c == '\t' || c == '\n' || c.toNat == 12 || c == '\r'

/-- The last byte of a character may be the one that ends a string. -/
def endsString (c : Char) : Bool :=
  c.toString.toUTF8.toList.contains 0x9C

def Mode.behind (m : Mode) (c : Char) : Mode :=
  let n := c.toNat
  let intermediate := 0x20 ≤ n && n ≤ 0x2F
  let parameter := 0x30 ≤ n && n ≤ 0x3F
  let final := 0x40 ≤ n && n ≤ 0x7E
  match m with
  | .text => .text
  | .escape =>
    if c = '[' then .sequence
    else if c = ']' then .command
    else if c = 'P' then .deviceEntry
    else if c = 'X' || c = '^' || c = '_' then .stringData
    else if intermediate then .intermediate
    else if parameter || final then .text
    else .escape
  | .intermediate => if parameter || final then .text else .intermediate
  | .sequence => if final then .text else .sequence
  | .deviceEntry =>
    if intermediate then .deviceIntermediate
    else if parameter then .deviceParameter
    else if final then .stringData
    else .deviceEntry
  | .deviceParameter =>
    if intermediate then .deviceIntermediate
    else if '<' ≤ c ∧ c ≤ '~' then .stringData
    else .deviceParameter
  | .deviceIntermediate => if parameter || final then .stringData else .deviceIntermediate
  | .stringData => if 0x80 ≤ n && endsString c then .text else .stringData
  | .command => .command

/-- Are control characters carried out in this mode? In strings they are data. -/
def Mode.obeys : Mode → Bool
  | .text | .escape | .intermediate | .sequence => true
  | _ => false

def Mode.next (m : Mode) (c : Char) : Mode × Bool :=
  let n := c.toNat
  if n = 0x1B then (.escape, false)
  else if n = 0x18 || n = 0x1A then (.text, false)
  else if n = 0x7F then (m, false)
  else if n < 0x20 then
    if m.obeys && isBlank c then (.text, true)
    else if m = .command && n = 7 then (.text, false)
    else (m, false)
  else (m.behind c, m = .text)

def plainFrom (m : Mode) : List Char → List Char
  | [] => []
  | c :: cs =>
    let (m, shown) := m.next c
    if shown then c :: plainFrom m cs else plainFrom m cs

def plain (s : String) : String :=
  String.ofList (plainFrom .text s.toList)

end Highlight.Text.ControlSequence
