import Highlight.Declaration.CaseTable

/-! # Grammar declarations

A declaration lists named states. A state lists entries: rules, each with a pattern, an outcome and
an effect on the stack of states, and includes, which stand for the entries of another state.
Names are plain texts here; building a grammar resolves them.
-/

namespace Highlight

inductive Polarity where
  | opening
  | closing
deriving DecidableEq, Repr

inductive Outcome where
  | emit (tag : String)
  | cases (table : CaseTable) (default : String)
  /-- A bracket. What is missing comes from the bracket pairs of the grammar. -/
  | bracket (tag : Option String) (polarity : Option Polarity)
  | groups (tags : List String)
deriving DecidableEq

namespace Outcome

/-- A choice of tag by text; later pairs replace earlier ones. -/
def ofCases (default : String) (pairs : List (String × String)) : Outcome :=
  .cases (.ofList pairs) default

def isGroups : Outcome → Bool
  | .groups _ => true
  | _ => false

def brackets : Outcome := .bracket none none

def ofBracket (tag : String) (polarity : Polarity) : Outcome :=
  .bracket (some tag) (some polarity)

end Outcome

inductive StackAction where
  | stay
  | push (target : String)
  /-- Remove the top state unless it is the last one. -/
  | pop
  | switch (target : String)
  | popAll
deriving DecidableEq, Repr

structure RuleDeclaration where
  pattern : String
  outcome : Outcome
  action : StackAction := .stay
deriving DecidableEq

inductive Entry where
  | include (state : String)
  | rule (rule : RuleDeclaration)
deriving DecidableEq

structure StateDeclaration where
  name : String
  entries : List Entry
deriving DecidableEq

structure BracketPair where
  opening : String
  closing : String
  tag : String
deriving DecidableEq, Repr

def currentVersion : UInt32 := 1

structure Declaration where
  version : UInt32 := currentVersion
  name : String
  root : String
  defaultTag : String
  ignoreCase : Bool := false
  /-- Appended to every tag that is not empty. -/
  tagEnding : String := ""
  /-- No pairs stand for the usual ones. -/
  brackets : List BracketPair := []
  states : List StateDeclaration := []
deriving DecidableEq

namespace Declaration

def addState (d : Declaration) (s : StateDeclaration) : Declaration :=
  { d with states := d.states ++ [s] }

def addBracket (d : Declaration) (b : BracketPair) : Declaration :=
  { d with brackets := d.brackets ++ [b] }

def withIgnoreCase (d : Declaration) (b : Bool) : Declaration :=
  { d with ignoreCase := b }

def withTagEnding (d : Declaration) (s : String) : Declaration :=
  { d with tagEnding := s }

def withVersion (d : Declaration) (v : UInt32) : Declaration :=
  { d with version := v }

end Declaration

end Highlight
