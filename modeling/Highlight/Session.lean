import Highlight.Document

/-! # Sessions

A session tokenizes the lines of a text that is being edited. It keeps the stack for the next line,
counts lines since it was last set up, and can go on from a stack that was saved earlier. A saved
stack of some other grammar resets the session.
-/

namespace Highlight

inductive Phase where
  | fresh
  | active
  | reset
deriving DecidableEq, Repr

structure Session where
  grammar : Grammar
  phase : Phase
  stack : StateStack
  lines : Nat
deriving DecidableEq

namespace Session

def ofGrammar (g : Grammar) : Session := ⟨g, .fresh, g.initial, 0⟩

def tokenizeLine (s : Session) (line : String) : List Span × Session :=
  let t := s.grammar.tokenizeLine s.stack line
  (t.spans, { s with phase := .active, stack := t.stack, lines := s.lines + 1 })

def reset (s : Session) : Session :=
  { s with phase := .reset, stack := s.grammar.initial, lines := 0 }

def resume (s : Session) (stack : StateStack) : Session :=
  if s.grammar.accepts stack then { s with phase := .active, stack := stack, lines := 0 }
  else s.reset

def tokenizeLines (s : Session) : List String → List TokenizedLine × Session
  | [] => ([], s)
  | line :: lines =>
    let (spans, s) := s.tokenizeLine line
    let (rest, t) := s.tokenizeLines lines
    (⟨spans, s.stack⟩ :: rest, t)

def replaceText (s : Session) (text : String) : List TokenizedLine × Session :=
  s.reset.tokenizeLines (Text.lines text)

end Session

end Highlight
