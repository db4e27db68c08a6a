import Highlight.Grammar.Build

/-! # Tags of matches

A match becomes spans: one at its start, with a tag that depends on the outcome of the rule and on
the matched text, or one for each capture group that is not empty and not inside an earlier one.
-/

namespace Highlight

/-- A piece of a line from `start` to the start of the next span. -/
structure Span where
  start : Nat
  tag : String
  polarity : Option Polarity := none
deriving DecidableEq, Repr

namespace Grammar

def bracketOf? (g : Grammar) (text : String) : Option (String × Polarity) :=
  g.brackets.findSome? fun b =>
    if b.opening = text then some (b.tag, .opening)
    else if b.closing = text then some (b.tag, .closing)
    else none

/-- The tag and polarity of a matched text. Groups give the tag of the first group. -/
def classify (g : Grammar) (outcome : Outcome) (text : String) : String × Option Polarity :=
  match outcome with
  | .emit tag => (tag, none)
  | .cases table default =>
    ((table.get? (Declaration.caseKey g.ignoreCase text)).getD default, none)
  | .bracket tag polarity =>
    let paired := g.bracketOf? text
    match tag.or (paired.map (·.1)) with
    | some tag => (tag, polarity.or (paired.map (·.2)))
    | none => (g.defaultTag, none)
  | .groups tags => (tags.headD g.defaultTag, none)

end Grammar

namespace Match

/-- The captures that become spans, with their tags: those that are not empty and start no earlier
than the last kept one ends. Tags belong to groups in order, from `index` on. -/
def keptGroups (m : Match) (index covered : Nat) : List String → List (Capture × String)
  | [] => []
  | tag :: tags =>
    match m.capture? index with
    | none => m.keptGroups (index + 1) covered tags
    | some c =>
      if c.start < c.stop ∧ covered ≤ c.start then
        (c, tag) :: m.keptGroups (index + 1) c.stop tags
      else m.keptGroups (index + 1) covered tags

end Match

/-- Spans of kept groups. The first one starts with the match, so that nothing is left out. -/
def groupSpans (start : Nat) : List (Capture × String) → List Span
  | [] => []
  | (_, tag) :: kept => ⟨start, tag, none⟩ :: kept.map fun (c, tag) => ⟨c.start, tag, none⟩

namespace Grammar

def wholeSpan (g : Grammar) (outcome : Outcome) (c : Text.Cursor) (m : Match) : Span :=
  let (tag, polarity) := g.classify outcome (c.textTo m.stop)
  ⟨c.offset, tag, polarity⟩

def capturedSpans (g : Grammar) (outcome : Outcome) (c : Text.Cursor) (m : Match) : List Span :=
  match outcome with
  | .groups tags =>
    match groupSpans c.offset (m.keptGroups 1 c.offset tags) with
    | [] => [⟨c.offset, (g.classify outcome "").1, none⟩]
    | spans => spans
  | _ => [g.wholeSpan outcome c m]

def spansOf (g : Grammar) (rule : Rule) (c : Text.Cursor) (m : Match) : List Span :=
  if rule.captures then g.capturedSpans rule.outcome c m else [g.wholeSpan rule.outcome c m]

end Grammar

end Highlight
