import Highlight.Document
import Highlight.Log.Event

/-! # The log of a run

Building a grammar, starting a run and every step of it leave events in the log.
-/

namespace Highlight.Log

def programTarget : String := "fsdlex"

def buildTarget : String := "fsdlex::engine::compiled_grammar"

def stepTarget : String := "fsdlex::engine::tokenizer"

def grammarBuilt (g : Grammar) : Event :=
  ⟨.debug, buildTarget, "grammar built",
    [("grammar", g.name), ("states", toString g.states.length),
      ("rules", toString g.rules.length), ("brackets", toString g.brackets.length)]⟩

def tokenizing (source text : String) (g : Grammar) : Event :=
  ⟨.debug, programTarget, "tokenizing",
    [("source", source), ("bytes", toString text.utf8ByteSize), ("grammar", g.name)]⟩

def ofStep (g : Grammar) (s : Step) : List Event :=
  let state := (g.stateName? s.state).getD ""
  match s.matched with
  | none =>
    [⟨.trace, stepTarget, "no rule matched, emitting default token",
      [("state", state), ("at", toString s.start)]⟩]
  | some (id, length) =>
    let source := (g.rules[id]?.map (·.source)).getD ""
    let found : Event := ⟨.trace, stepTarget, "rule matched",
      [("state", state), ("pattern", source), ("at", toString s.start), ("len", toString length)]⟩
    if s.refused then
      [found, ⟨.warn, stepTarget, "stack depth limit reached, push ignored",
        [("state", state), ("pattern", source), ("depth", toString s.stack.depth)]⟩]
    else [found]

def ofRun (g : Grammar) (text : String) : List Event :=
  (g.traceLines g.initial (Text.lines text)).flatMap fun steps => steps.flatMap (ofStep g)

end Highlight.Log
