import Highlight.Session

/-! # Lines one after the other

A text is tokenized by a run that counts, without counting, by a session, or by folding over its
lines. The lines come out the same each time. Lines that follow others go on from the last stack of
those, and a session that resumes a saved stack goes on as if it had just reached it.
-/

namespace Highlight

def endStack (start : StateStack) (ts : List TokenizedLine) : StateStack :=
  match ts.getLast? with
  | some t => t.stack
  | none => start

theorem endStack_cons (start : StateStack) (t : TokenizedLine) (ts : List TokenizedLine) :
    endStack start (t :: ts) = endStack t.stack ts := by
  cases ts with
  | nil => rfl
  | cons u ts => simp [endStack, List.getLast?_cons]

namespace Grammar

variable (g : Grammar) (stack : StateStack)

def extend (done : List TokenizedLine × StateStack) (line : String) :
    List TokenizedLine × StateStack :=
  let t := g.tokenizeLine done.2 line
  (done.1 ++ [t], t.stack)

theorem foldl_extend (done : List TokenizedLine) (lines : List String) :
    (lines.foldl g.extend (done, stack)).1 = done ++ g.tokenizeLines stack lines := by
  induction lines generalizing done stack with
  | nil => exact (List.append_nil done).symm
  | cons line lines ih =>
    rw [List.foldl_cons, extend, ih, tokenizeLines, List.append_assoc]
    rfl

theorem lines_runLines (n : Counters) (lines : List String) :
    (g.runLines stack n lines).lines = g.tokenizeLines stack lines := by
  induction lines generalizing stack n with
  | nil => rfl
  | cons line lines ih =>
    simp only [runLines, tokenizeLines, ih]
    rfl

@[simp] theorem length_tokenizeLines (lines : List String) :
    (g.tokenizeLines stack lines).length = lines.length := by
  induction lines generalizing stack with
  | nil => rfl
  | cons line lines ih => rw [tokenizeLines, List.length_cons, List.length_cons, ih]

theorem tokenizeLines_append (before after : List String) :
    g.tokenizeLines stack (before ++ after) = g.tokenizeLines stack before ++
      g.tokenizeLines (endStack stack (g.tokenizeLines stack before)) after := by
  induction before generalizing stack with
  | nil => rfl
  | cons line before ih =>
    rw [List.cons_append, tokenizeLines, tokenizeLines, ih, endStack_cons, List.cons_append]

theorem enter_enter : g.enter (g.enter stack) = g.enter stack := by
  cases h : g.accepts stack with
  | true => simp [enter, h]
  | false => simp [enter, h]

theorem tokenizeLine_enter (line : String) :
    g.tokenizeLine (g.enter stack) line = g.tokenizeLine stack line := by
  simp only [tokenizeLine, steps, enter_enter]

end Grammar

namespace Session

variable (s : Session)

theorem tokenizeLines_eq (lines : List String) :
    (s.tokenizeLines lines).1 = s.grammar.tokenizeLines s.stack lines := by
  induction lines generalizing s with
  | nil => rfl
  | cons line lines ih =>
    rw [tokenizeLines, Grammar.tokenizeLines]
    exact congrArg _ (ih (s.tokenizeLine line).2)

theorem grammar_resume (stack : StateStack) : (s.resume stack).grammar = s.grammar := by
  rw [resume]
  split <;> rfl

/-- A session refuses a stack of some other grammar in favour of the stack from which tokenizing it
would start anyway. -/
theorem stack_resume (stack : StateStack) : (s.resume stack).stack = s.grammar.enter stack := by
  rw [resume, Grammar.enter]
  split <;> rfl

theorem tokenizeLine_resume (stack : StateStack) (line : String) :
    (s.resume stack).grammar.tokenizeLine (s.resume stack).stack line =
      s.grammar.tokenizeLine stack line := by
  rw [grammar_resume, stack_resume, Grammar.tokenizeLine_enter]

/-- However a text is tokenized and whatever a session has done before, the lines are the same, and
so is a line after a saved stack has been resumed. -/
theorem entry_points_agree :
    (∀ text, (s.replaceText text).1 = s.grammar.tokenizeText text ∧
      (s.grammar.run text).lines = s.grammar.tokenizeText text ∧
      ((Text.lines text).foldl s.grammar.extend ([], s.grammar.initial)).1 =
        s.grammar.tokenizeText text) ∧
    ∀ stack line,
      ((s.resume stack).tokenizeLine line).1 = (s.grammar.tokenizeLine stack line).spans ∧
      ((s.resume stack).tokenizeLine line).2.stack = (s.grammar.tokenizeLine stack line).stack := by
  refine ⟨fun text => ⟨?_, ?_, ?_⟩, fun stack line => ?_⟩
  · exact s.reset.tokenizeLines_eq (Text.lines text)
  · exact s.grammar.lines_runLines _ _ _
  · exact s.grammar.foldl_extend _ [] (Text.lines text)
  · have hLine := s.tokenizeLine_resume stack line
    exact ⟨congrArg TokenizedLine.spans hLine, congrArg TokenizedLine.stack hLine⟩

end Session

end Highlight
