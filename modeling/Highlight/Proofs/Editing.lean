import Highlight.Proofs.LineByLine
import Highlight.Proofs.StackSafety

/-! # Tokenizing an edited text again

The stack is all that one line hands to the next. So the lines before an edit stay as they were, a
session can go on from the stack saved there, and where the stacks agree behind the edit the lines
after it stay as they were too.
-/

namespace Highlight

structure Edit where
  before : List String
  removed : List String
  inserted : List String
  after : List String

namespace Edit

variable (e : Edit) (g : Grammar)

def old : List TokenizedLine := g.tokenizeLines g.initial (e.before ++ e.removed ++ e.after)

def new : List TokenizedLine := g.tokenizeLines g.initial (e.before ++ e.inserted ++ e.after)

/-- The stack that the old document has in front of the edit. -/
def saved : StateStack := endStack g.initial ((e.old g).take e.before.length)

/-- Only what the edit touches has to be tokenized again, and what follows until stacks agree. -/
structure Sound : Prop where
  before_eq : (e.old g).take e.before.length = (e.new g).take e.before.length
  resumed : ∀ s : Session, s.grammar = g → (s.resume (e.saved g)).stack = e.saved g ∧
    ((s.resume (e.saved g)).tokenizeLines (e.inserted ++ e.after)).1 =
      (e.new g).drop e.before.length
  after_eq :
    endStack g.initial ((e.old g).take (e.before ++ e.removed).length) =
      endStack g.initial ((e.new g).take (e.before ++ e.inserted).length) →
    (e.old g).drop (e.before ++ e.removed).length =
      (e.new g).drop (e.before ++ e.inserted).length

theorem take_tokenizeLines (g : Grammar) (stack : StateStack) (before after : List String) :
    (g.tokenizeLines stack (before ++ after)).take before.length = g.tokenizeLines stack before := by
  rw [g.tokenizeLines_append]
  exact List.take_left' (g.length_tokenizeLines stack before)

theorem drop_tokenizeLines (g : Grammar) (stack : StateStack) (before after : List String) :
    (g.tokenizeLines stack (before ++ after)).drop before.length =
      g.tokenizeLines (endStack stack (g.tokenizeLines stack before)) after := by
  rw [g.tokenizeLines_append]
  exact List.drop_left' (g.length_tokenizeLines stack before)

theorem saved_eq : e.saved g = endStack g.initial (g.tokenizeLines g.initial e.before) := by
  rw [saved, old, List.append_assoc, take_tokenizeLines]

variable {g}

theorem accepts_endStack (h : g.WellFormed) (lines : List String) :
    g.accepts (endStack g.initial (g.tokenizeLines g.initial lines)) = true := by
  rw [endStack]
  split
  · rename_i t hLast
    exact (h.keeps_initial.of_mem_tokenizeLines h t (List.mem_of_getLast? hLast)).accepted
  · exact h.accepts_initial

theorem sound (h : g.WellFormed) : e.Sound g where
  before_eq := by
    rw [old, new, List.append_assoc, List.append_assoc, take_tokenizeLines, take_tokenizeLines]
  resumed s hs := by
    subst hs
    have hStack : (s.resume (e.saved s.grammar)).stack = e.saved s.grammar := by
      rw [s.stack_resume, saved_eq]
      exact Grammar.enter_of_accepts (accepts_endStack h e.before)
    refine ⟨hStack, ?_⟩
    rw [Session.tokenizeLines_eq, s.grammar_resume, hStack, saved_eq, new, List.append_assoc,
      drop_tokenizeLines]
  after_eq hAgree := by
    rw [old, new, take_tokenizeLines, take_tokenizeLines] at hAgree
    rw [old, new, drop_tokenizeLines, drop_tokenizeLines, hAgree]

end Edit

namespace Text

theorem splitLines_append_newline (current a b : List Char) :
    splitLines current (a ++ '\n' :: b) = splitLines current (a ++ ['\n']) ++ splitLines [] b := by
  induction a generalizing current with
  | nil => simp [splitLines]
  | cons x a ih =>
    by_cases hx : x = '\n'
    · simp [splitLines, hx, ih]
    · simp [splitLines, hx, ih]

theorem lines_append_newline (a b : String) :
    lines (a ++ "\n" ++ b) = lines (a ++ "\n") ++ lines b := by
  have hSplit := splitLines_append_newline [] a.toList b.toList
  simp only [lines, String.toList_append]
  rw [← List.map_append, show "\n".toList = ['\n'] from rfl, ← hSplit, List.append_assoc]
  rfl

end Text

/-- Every edit of a document can be followed by going on from saved stacks, and a text goes on
behind a line feed as if it began with the stack that it has reached there. -/
theorem Grammar.retokenizes_edits {d : Declaration} {depthLimit : Nat} {engine : Engine}
    {g : Grammar}
    (h : build d depthLimit engine = .ok g) :
    (∀ e : Edit, e.Sound g) ∧
      ∀ a b : String, g.tokenizeText (a ++ "\n" ++ b) = g.tokenizeText (a ++ "\n") ++
        g.tokenizeLines (endStack g.initial (g.tokenizeText (a ++ "\n"))) (Text.lines b) := by
  refine ⟨fun e => e.sound (wellFormed_of_build h), fun a b => ?_⟩
  rw [tokenizeText, Text.lines_append_newline, tokenizeLines_append]
  rfl

theorem Grammar.fsd_retokenizes_edits :
    build Fsd.declaration = .ok Fsd.grammar ∧
      Edit.Sound ⟨["service A \x7b"], ["data B \x7b x: map<", "y>; \x7d"], ["enum C \x7b d"], ["\x7d"]⟩
        Fsd.grammar ∧
      Fsd.grammar.tokenizeText ("service A\r" ++ "\n" ++ "\x7b\r\n\r") =
        Fsd.grammar.tokenizeText ("service A\r" ++ "\n") ++
          Fsd.grammar.tokenizeLines (endStack Fsd.grammar.initial
            (Fsd.grammar.tokenizeText ("service A\r" ++ "\n"))) (Text.lines "\x7b\r\n\r") :=
  have h := retokenizes_edits Fsd.build_declaration
  ⟨Fsd.build_declaration, h.1 _, h.2 _ _⟩

end Highlight
