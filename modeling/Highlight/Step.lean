import Highlight.Grammar.Classify

/-! # Steps through a line

At a cursor the rules of the top state are tried in order, and the first one that matches there
makes the step. It tags the match, moves the cursor behind it, but by one character at least, and
acts on the stack. If no rule matches, one character gets the default tag and the stack stays. A
line is a sequence of such steps.
-/

namespace Highlight

open Text

structure Step where
  state : StateId
  start : Nat
  /-- The rule that matched and the length of the match in bytes. -/
  matched : Option (RuleId × Nat)
  spans : List Span
  cursor : Cursor
  stack : StateStack
  /-- The rule wanted to push a state and the depth limit forbade it. -/
  refused : Bool

def Step.isFallback (s : Step) : Bool := s.matched.isNone

namespace Grammar

def firstMatch? (g : Grammar) (state : StateId) (c : Cursor) : Option (RuleId × Rule × Match) :=
  (g.rulesAt state).findSome? fun (id, rule) =>
    if rule.lineStart && c.offset != 0 then none
    else (rule.pattern.match? c).map (id, rule, ·)

def step (g : Grammar) (stack : StateStack) (c : Cursor) : Step :=
  match g.firstMatch? stack.top c with
  | some (id, rule, m) =>
    let length := m.stop.offset - c.offset
    { state := stack.top
      start := c.offset
      matched := some (id, length)
      spans := g.spansOf rule c m
      cursor := if length = 0 then c.advance else m.stop
      stack := stack.apply g.depthLimit rule.effect
      refused := stack.refuses g.depthLimit rule.effect }
  | none =>
    { state := stack.top
      start := c.offset
      matched := none
      spans := [⟨c.offset, g.defaultTag, none⟩]
      cursor := c.advance
      stack := stack
      refused := false }

/-- At most `bound` steps, until the end of the line. -/
def stepsFrom (g : Grammar) : Nat → StateStack → Cursor → List Step
  | 0, _, _ => []
  | bound + 1, stack, c =>
    if c.rest.isEmpty then []
    else
      let s := g.step stack c
      s :: g.stepsFrom bound s.stack s.cursor

/-- The stack from which a line really starts: a stack of some other grammar is replaced. -/
def enter (g : Grammar) (stack : StateStack) : StateStack :=
  if g.accepts stack then stack else g.initial

def steps (g : Grammar) (stack : StateStack) (line : String) : List Step :=
  let c := Cursor.ofLine line
  g.stepsFrom c.rest.length (g.enter stack) c

end Grammar

end Highlight
