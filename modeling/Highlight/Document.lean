import Highlight.Tokens
import Highlight.Text.Line

/-! # Whole texts

A text is tokenized line by line, from the root state on. The run also counts its lines, its spans,
the characters for which no rule was found, and the greatest depth of the stack.
-/

namespace Highlight

structure Counters where
  lines : Nat := 0
  spans : Nat := 0
  fallbacks : Nat := 0
  maxDepth : Nat := 0
deriving DecidableEq, Repr

structure Run where
  lines : List TokenizedLine
  counters : Counters
deriving DecidableEq, Repr

def peakDepth (start : StateStack) (steps : List Step) : Nat :=
  steps.foldl (fun n s => max n s.stack.depth) start.depth

namespace Grammar

def tokenizeLines (g : Grammar) (stack : StateStack) : List String → List TokenizedLine
  | [] => []
  | line :: lines =>
    let t := g.tokenizeLine stack line
    t :: g.tokenizeLines t.stack lines

def tokenizeText (g : Grammar) (text : String) : List TokenizedLine :=
  g.tokenizeLines g.initial (Text.lines text)

def runLines (g : Grammar) (stack : StateStack) (n : Counters) : List String → Run
  | [] => ⟨[], n⟩
  | line :: lines =>
    let steps := g.steps stack line
    let t := TokenizedLine.ofSteps (g.enter stack) steps
    let n : Counters := {
      lines := n.lines + 1
      spans := n.spans + t.spans.length
      fallbacks := n.fallbacks + steps.countP (·.isFallback)
      maxDepth := max n.maxDepth (peakDepth (g.enter stack) steps) }
    let rest := g.runLines t.stack n lines
    ⟨t :: rest.lines, rest.counters⟩

def run (g : Grammar) (text : String) : Run :=
  g.runLines g.initial {} (Text.lines text)

def traceLines (g : Grammar) (stack : StateStack) : List String → List (List Step)
  | [] => []
  | line :: lines =>
    let steps := g.steps stack line
    steps :: g.traceLines (stackAfter (g.enter stack) steps) lines

end Grammar

end Highlight
