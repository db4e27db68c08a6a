import Highlight.Grammar.Includes
import Highlight.Declaration.Reader
import Highlight.Pattern.Parser
import Highlight.Unicode.Recent

/-! # Building grammars

`Grammar.build` checks a declaration in a fixed order: its version, the names of its states, its
root, its rules in the order of their declaration, and its includes.
-/

namespace Highlight

namespace Declaration

/-- A tag with the common ending. An empty tag stays empty. -/
def tag (d : Declaration) (t : String) : String :=
  if t.isEmpty then "" else t ++ d.tagEnding

def caseKey (ignoreCase : Bool) (text : String) : String :=
  if ignoreCase then Unicode.lowercaseText text else text

def usualBrackets : List BracketPair := [
  ⟨"\x7b", "\x7d", "delimiter.curly"⟩,
  ⟨"[", "]", "delimiter.square"⟩,
  ⟨"(", ")", "delimiter.parenthesis"⟩,
  ⟨"<", ">", "delimiter.angle"⟩]

def bracketPairs (d : Declaration) : List BracketPair :=
  let pairs := if d.brackets.isEmpty then usualBrackets else d.brackets
  pairs.map fun b => { b with tag := d.tag b.tag }

def stateNames (d : Declaration) : List String :=
  d.states.map (·.name)

def index (d : Declaration) : List (String × StateId) :=
  d.stateNames.zipIdx

def firstRepeated? (seen : List String) : List String → Option String
  | [] => none
  | n :: ns => if seen.contains n then some n else firstRepeated? (n :: seen) ns

/-- An outcome with complete tags and with keys in the form in which they are looked up. Of keys
with the same form the last one counts. -/
def outcome (d : Declaration) : Outcome → Outcome
  | .emit t => .emit (d.tag t)
  | .cases table default =>
    .cases (.ofList (table.entries.map fun (text, t) => (caseKey d.ignoreCase text, d.tag t)))
      (d.tag default)
  | .bracket t polarity => .bracket (t.map d.tag) polarity
  | .groups tags => .groups (tags.map d.tag)

/-- A pattern and whether it applies only at the start of a line, which a leading `^` says. -/
def splitPattern (source : String) : Bool × List Char :=
  match source.toList with
  | '^' :: cs => (true, cs)
  | cs => (false, cs)

def target (d : Declaration) (state pattern name : String) : Except GrammarError StateId :=
  match d.index.lookup name with
  | some id => .ok id
  | none => .error (.unknownState name (.rule pattern state))

def effect (d : Declaration) (state pattern : String) : StackAction → Except GrammarError Effect
  | .stay => .ok .stay
  | .pop => .ok .pop
  | .popAll => .ok .popAll
  | .push name => do return .push (← d.target state pattern name)
  | .switch name => do return .switch (← d.target state pattern name)

/-- Are captures needed? Then there are as many tags as groups. -/
def checkGroups (state source : String) (p : Pattern) : Outcome → Except GrammarError Bool
  | .groups tags =>
    if p.groupCount = tags.length then .ok true
    else .error (.groupMismatch state source p.groupCount tags.length)
  | _ => .ok false

def rule (d : Declaration) (engine : Engine) (state : String) (r : RuleDeclaration) :
    Except GrammarError Rule := do
  let (lineStart, text) := splitPattern r.pattern
  match engine.compile? d.ignoreCase text with
  | none => .error (.invalidPattern state r.pattern)
  | some pattern =>
    let captures ← checkGroups state r.pattern pattern r.outcome
    let effect ← d.effect state r.pattern r.action
    return ⟨r.pattern, pattern, lineStart, captures, d.outcome r.outcome, effect⟩

def inlineRules (d : Declaration) : List (String × RuleDeclaration) :=
  d.states.flatMap fun s => s.inlineRules.map (s.name, ·)

end Declaration

namespace Grammar

def usualDepthLimit : Nat := 100

/-- The grammar of a declaration. The stack may always hold one state. -/
def build (d : Declaration) (depthLimit : Nat := usualDepthLimit) (engine : Engine := .standard) :
    Except GrammarError Grammar := do
  if currentVersion < d.version then
    throw (.unsupportedVersion d.version currentVersion)
  if let some name := Declaration.firstRepeated? [] d.stateNames then
    throw (.duplicateState name)
  match d.index.lookup d.root with
  | none => throw (.unknownState d.root .root)
  | some root =>
    let rules ← d.inlineRules.mapM fun (state, r) => d.rule engine state r
    let lists ← Includes.expandAll d.stateNames (StateDeclaration.slotsFrom 0 d.states)
    return {
      name := d.name
      rules := rules
      states := List.zipWith State.mk d.stateNames lists
      index := d.index
      root := root
      defaultTag := d.tag d.defaultTag
      ignoreCase := d.ignoreCase
      brackets := d.bracketPairs
      depthLimit := max depthLimit 1 }

def readDeclaration (text : String) : Except GrammarError Declaration :=
  (Declaration.read text).mapError .unreadable

def read (text : String) (engine : Engine := .standard) : Except GrammarError Grammar := do
  build (← readDeclaration text) usualDepthLimit engine

end Grammar

end Highlight
