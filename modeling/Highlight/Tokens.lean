import Highlight.Step

/-! # Tokenized lines and lazy reading

`Grammar.tokenizeLine` gives the spans of a line and the stack for the next one. A `TokenReader`
gives the same spans one at a time: it makes a step only when the spans of the steps before have
all been read.
-/

namespace Highlight

open Text

structure TokenizedLine where
  spans : List Span
  stack : StateStack
deriving DecidableEq, Repr

/-- An empty line has one span, so that it can be styled too. -/
def emptyLineSpan : Span := ⟨0, "", none⟩

def stackAfter (start : StateStack) (steps : List Step) : StateStack :=
  match steps.getLast? with
  | some s => s.stack
  | none => start

def TokenizedLine.ofSteps (start : StateStack) (steps : List Step) : TokenizedLine :=
  ⟨if steps.isEmpty then [emptyLineSpan] else steps.flatMap (·.spans), stackAfter start steps⟩

def Grammar.tokenizeLine (g : Grammar) (stack : StateStack) (line : String) : TokenizedLine :=
  .ofSteps (g.enter stack) (g.steps stack line)

structure TokenReader where
  grammar : Grammar
  cursor : Cursor
  /-- The stack as of the last span that was read. -/
  stack : StateStack
  pending : List Span
  started : Bool
  fallbacks : Nat
  peakDepth : Nat

namespace TokenReader

def ofLine (g : Grammar) (stack : StateStack) (line : String) : TokenReader :=
  let stack := g.enter stack
  { grammar := g
    cursor := .ofLine line
    stack := stack
    pending := []
    started := false
    fallbacks := 0
    peakDepth := stack.depth }

def advance (r : TokenReader) : TokenReader :=
  let s := r.grammar.step r.stack r.cursor
  { r with
    cursor := s.cursor
    stack := s.stack
    pending := r.pending ++ s.spans
    fallbacks := r.fallbacks + if s.isFallback then 1 else 0
    peakDepth := max r.peakDepth s.stack.depth }

def pop? (r : TokenReader) : Option (Span × TokenReader) :=
  match r.pending with
  | [] => none
  | span :: pending => some (span, { r with pending := pending, started := true })

def next? (r : TokenReader) : Option (Span × TokenReader) :=
  match r.pop? with
  | some result => some result
  | none =>
    if r.cursor.rest.isEmpty then
      if r.started then none else some (emptyLineSpan, { r with started := true })
    else r.advance.pop?

def take : Nat → TokenReader → List (Span × TokenReader)
  | 0, _ => []
  | n + 1, r =>
    match r.next? with
    | none => []
    | some (span, r) => (span, r) :: take n r

def drain : Nat → TokenReader → TokenReader
  | 0, r => r
  | n + 1, r => if r.cursor.rest.isEmpty then r else drain n r.advance

def finish (r : TokenReader) : StateStack :=
  (drain r.cursor.rest.length r).stack

end TokenReader

end Highlight
