import Highlight.Declaration.Basic
import Highlight.Pattern.Match
import Highlight.StateStack

/-! # Grammars

A grammar is a declaration made ready for use: patterns are read, targets are positions, includes
are replaced by the rules that they stand for, and tags carry their common ending. Rules are kept
once, in the order of their declaration; states list positions of rules.
-/

namespace Highlight

abbrev RuleId := Nat

structure Rule where
  source : String
  pattern : Pattern
  lineStart : Bool
  /-- The captures of a match are looked at. -/
  captures : Bool
  outcome : Outcome
  effect : Effect
deriving DecidableEq

structure State where
  name : String
  rules : List RuleId
deriving DecidableEq

structure Grammar where
  name : String
  rules : List Rule
  states : List State
  index : List (String × StateId)
  root : StateId
  defaultTag : String
  ignoreCase : Bool
  brackets : List BracketPair
  depthLimit : Nat
deriving DecidableEq

namespace Grammar

def initial (g : Grammar) : StateStack := ⟨g.root, []⟩

def stateNames (g : Grammar) : List String := g.states.map (·.name)

def stateId? (g : Grammar) (name : String) : Option StateId :=
  g.index.lookup name

def stateName? (g : Grammar) (id : StateId) : Option String :=
  g.states[id]?.map (·.name)

theorem stateName?_eq (g : Grammar) (id : StateId) : g.stateName? id = g.stateNames[id]? := by
  rw [stateName?, stateNames, List.getElem?_map]

def rulesAt (g : Grammar) (id : StateId) : List (RuleId × Rule) :=
  match g.states[id]? with
  | some s => s.rules.filterMap fun r => g.rules[r]?.map (r, ·)
  | none => []

def patterns? (g : Grammar) (state : String) : Option (List String) :=
  (g.stateId? state).map fun id => (g.rulesAt id).map (·.2.source)

def accepts (g : Grammar) (s : StateStack) : Bool :=
  s.ids.all (· < g.states.length)

/-- The names of the states of a stack; what is not a state of the grammar is left out. -/
def stackNames (g : Grammar) (s : StateStack) : List String :=
  s.ids.filterMap g.stateName?

end Grammar

end Highlight
