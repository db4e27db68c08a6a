import Highlight.Grammar.Basic
import Highlight.Grammar.Error

/-! # Includes

Each state becomes a list of rules by replacing its includes with the rules of the included states.
States that are finished are remembered. A chain of includes that is longer than there are states
has to come back to one of them, so the room for a chain is limited and its end means a circle.
-/

namespace Highlight

inductive Slot where
  | rule (id : RuleId)
  | include (state : String)
deriving DecidableEq, Repr

namespace Slot

def ofEntries (n : Nat) : List Entry → List Slot
  | [] => []
  | .rule _ :: es => .rule n :: ofEntries (n + 1) es
  | .include s :: es => .include s :: ofEntries n es

end Slot

namespace StateDeclaration

def inlineRules (s : StateDeclaration) : List RuleDeclaration :=
  s.entries.filterMap fun
    | .rule r => some r
    | .include _ => none

def slotsFrom (n : Nat) : List StateDeclaration → List (List Slot)
  | [] => []
  | s :: ss => Slot.ofEntries n s.entries :: slotsFrom (n + s.inlineRules.length) ss

end StateDeclaration

namespace Includes

/-- The rules of the states that are finished. -/
abbrev Memo := List (Option (List RuleId))

/-- The error of a chain that has run out of room: the part from where its last state first
occurs. -/
def circle (names : List String) (chain : List StateId) : GrammarError :=
  let name (id : StateId) : String := names.getD id ""
  let last := chain.getLastD 0
  .cyclicInclude (name (chain.headD 0)) ((chain.drop (chain.idxOf last)).map name)

/-- The rules of the state at the end of `chain`, and what is finished after that. -/
def expand (names : List String) (slots : List (List Slot)) :
    Nat → List StateId → StateId → Memo → Except GrammarError (List RuleId × Memo)
  | 0, chain, id, memo =>
    match memo.getD id none with
    | some rules => .ok (rules, memo)
    | none => .error (circle names chain)
  | room + 1, chain, id, memo =>
    match memo.getD id none with
    | some rules => .ok (rules, memo)
    | none => do
      let step (done : List RuleId × Memo) (slot : Slot) :
          Except GrammarError (List RuleId × Memo) :=
        match slot with
        | .rule r => .ok (done.1 ++ [r], done.2)
        | .include target =>
          match names.idxOf? target with
          | none => .error (.unknownInclude target (names.getD id ""))
          | some next => do
            let (rules, memo) ← expand names slots room (chain ++ [next]) next done.2
            .ok (done.1 ++ rules, memo)
      let (rules, memo) ← (slots.getD id []).foldlM step ([], memo)
      .ok (rules, memo.set id (some rules))

def expandEach (names : List String) (slots : List (List Slot)) :
    List StateId → Memo → Except GrammarError (List (List RuleId))
  | [], _ => .ok []
  | id :: ids, memo => do
    let (rules, memo) ← expand names slots (names.length + 1) [id] id memo
    .ok (rules :: (← expandEach names slots ids memo))

def expandAll (names : List String) (slots : List (List Slot)) :
    Except GrammarError (List (List RuleId)) :=
  expandEach names slots (List.range names.length) (List.replicate names.length none)

end Includes

end Highlight
