import Highlight.Document
import Highlight.Proofs.Matching

/-! # What a step does

A step is made by a rule of the top state that matches at the cursor, or it passes one character for
which there is no rule. In both cases it ends further on in the line. What every step of a run keeps
holds wherever the run makes a step, and so from line to line.
-/

namespace Highlight

open Text

namespace Grammar

variable {g : Grammar} {state : StateId} {stack : StateStack} {c : Cursor}

theorem of_firstMatch?_eq_some {id : RuleId} {rule : Rule} {m : Match}
    (h : g.firstMatch? state c = some (id, rule, m)) :
    (id, rule) ∈ g.rulesAt state ∧ (rule.lineStart = true → c.offset = 0) ∧
      rule.pattern.match? c = some m := by
  obtain ⟨⟨id', rule'⟩, hMem, hTry⟩ := List.exists_of_findSome?_eq_some h
  dsimp only at hTry
  split at hTry
  · cases hTry
  · rename_i hStart
    obtain ⟨m', hMatch, hEq⟩ := Option.map_eq_some_iff.mp hTry
    cases hEq
    refine ⟨hMem, fun hLine => ?_, hMatch⟩
    simpa [hLine] using hStart

theorem step_cases (g : Grammar) (stack : StateStack) (c : Cursor) :
    (∃ id rule m, (id, rule) ∈ g.rulesAt stack.top ∧ (rule.lineStart = true → c.offset = 0) ∧
      rule.pattern.match? c = some m ∧
      g.step stack c =
        { state := stack.top
          start := c.offset
          matched := some (id, m.stop.offset - c.offset)
          spans := g.spansOf rule c m
          cursor := if m.stop.offset - c.offset = 0 then c.advance else m.stop
          stack := stack.apply g.depthLimit rule.effect
          refused := stack.refuses g.depthLimit rule.effect }) ∨
    (g.firstMatch? stack.top c = none ∧
      g.step stack c =
        { state := stack.top
          start := c.offset
          matched := none
          spans := [⟨c.offset, g.defaultTag, none⟩]
          cursor := c.advance
          stack := stack
          refused := false }) := by
  cases hFirst : g.firstMatch? stack.top c with
  | none => exact .inr ⟨rfl, by rw [step, hFirst]⟩
  | some found =>
    obtain ⟨id, rule, m⟩ := found
    obtain ⟨hMem, hStart, hMatch⟩ := of_firstMatch?_eq_some hFirst
    exact .inl ⟨id, rule, m, hMem, hStart, hMatch, by rw [step, hFirst]⟩

@[simp] theorem state_step (g : Grammar) (stack : StateStack) (c : Cursor) :
    (g.step stack c).state = stack.top := by
  obtain ⟨_, _, _, _, _, _, hStep⟩ | ⟨_, hStep⟩ := g.step_cases stack c <;> rw [hStep]

@[simp] theorem start_step (g : Grammar) (stack : StateStack) (c : Cursor) :
    (g.step stack c).start = c.offset := by
  obtain ⟨_, _, _, _, _, _, hStep⟩ | ⟨_, hStep⟩ := g.step_cases stack c <;> rw [hStep]

/-- Behind a match the cursor stands at its end, or one character further if it is empty. -/
theorem reaches_behind {m : Match} (h : c.Reaches m.stop) :
    c.Reaches (if m.stop.offset - c.offset = 0 then c.advance else m.stop) := by
  split
  · exact .advance c
  · exact h

theorem offset_lt_behind {m : Match} (h : c.rest ≠ []) :
    c.offset < (if m.stop.offset - c.offset = 0 then c.advance else m.stop).offset := by
  split
  · exact Cursor.offset_lt_advance h
  · omega

theorem reaches_step (g : Grammar) (stack : StateStack) (c : Cursor) :
    c.Reaches (g.step stack c).cursor := by
  obtain ⟨_, _, _, _, _, hMatch, hStep⟩ | ⟨_, hStep⟩ := g.step_cases stack c <;> rw [hStep]
  · exact reaches_behind (Pattern.reaches_of_match? hMatch)
  · exact .advance c

theorem offset_lt_step (g : Grammar) (stack : StateStack) (h : c.rest ≠ []) :
    c.offset < (g.step stack c).cursor.offset := by
  obtain ⟨_, _, _, _, _, _, hStep⟩ | ⟨_, hStep⟩ := g.step_cases stack c <;> rw [hStep]
  · exact offset_lt_behind h
  · exact Cursor.offset_lt_advance h

theorem length_step_lt (g : Grammar) (stack : StateStack) (h : c.rest ≠ []) :
    (g.step stack c).cursor.rest.length < c.rest.length :=
  (g.reaches_step stack c).length_lt (g.offset_lt_step stack h)

theorem cursor_step_of_firstMatch? {id : RuleId} {rule : Rule} {m : Match}
    (h : g.firstMatch? stack.top c = some (id, rule, m))
    (hLength : m.stop.rest.length < c.rest.length) : (g.step stack c).cursor = m.stop := by
  have hFurther := (Pattern.reaches_of_match? (of_firstMatch?_eq_some h).2.2).offset_lt hLength
  have hOffset : m.stop.offset - c.offset ≠ 0 := by omega
  simp only [step, h, if_neg hOffset]

end Grammar

def Outcome.isBracket : Outcome → Bool
  | .bracket _ _ => true
  | _ => false

theorem polarity_of_mem_groupSpans {start : Nat} {kept : List (Capture × String)} {s : Span}
    (hs : s ∈ groupSpans start kept) : s.polarity = none := by
  cases kept with
  | nil => exact absurd hs List.not_mem_nil
  | cons x kept =>
    rcases List.mem_cons.mp hs with rfl | hs
    · rfl
    · obtain ⟨_, _, rfl⟩ := List.mem_map.mp hs
      rfl

theorem Grammar.spansOf_eq_wholeSpan {rule : Rule} (h : rule.outcome.isGroups = false) (g : Grammar)
    (c : Cursor) (m : Match) : g.spansOf rule c m = [g.wholeSpan rule.outcome c m] := by
  rw [spansOf]
  split
  · revert h
    cases rule.outcome with
    | emit | cases | bracket => exact fun _ => rfl
    | groups tags => exact fun h => absurd h Bool.true_eq_false.mp
  · rfl

theorem polarity_wholeSpan {g : Grammar} {o : Outcome} {c : Cursor} {m : Match}
    (h : o.isBracket = false) : (g.wholeSpan o c m).polarity = none := by
  cases o with
  | emit | cases | groups => rfl
  | bracket => cases h

theorem polarity_of_mem_spansOf {g : Grammar} {rule : Rule} {c : Cursor} {m : Match} {s : Span}
    (h : rule.outcome.isBracket = false) (hs : s ∈ g.spansOf rule c m) : s.polarity = none := by
  rw [Grammar.spansOf] at hs
  split at hs
  · unfold Grammar.capturedSpans at hs
    split at hs
    · split at hs
      · cases List.mem_singleton.mp hs
        rfl
      · exact polarity_of_mem_groupSpans hs
    · cases List.mem_singleton.mp hs
      exact polarity_wholeSpan h
  · cases List.mem_singleton.mp hs
    exact polarity_wholeSpan h

theorem stackAfter_cons (start : StateStack) (s : Step) (steps : List Step) :
    stackAfter start (s :: steps) = stackAfter s.stack steps := by
  cases steps with
  | nil => rfl
  | cons t steps => simp [stackAfter, List.getLast?_cons]

theorem stackAfter_append (start : StateStack) (xs ys : List Step) :
    stackAfter start (xs ++ ys) = stackAfter (stackAfter start xs) ys := by
  induction xs generalizing start with
  | nil => rfl
  | cons s xs ih => rw [List.cons_append, stackAfter_cons, stackAfter_cons, ih]

theorem stackAfter_cases (start : StateStack) (steps : List Step) :
    stackAfter start steps = start ∨ ∃ s ∈ steps, stackAfter start steps = s.stack := by
  unfold stackAfter
  split
  · rename_i s hs
    exact .inr ⟨s, List.mem_of_getLast? hs, rfl⟩
  · exact .inl rfl

namespace Grammar

variable {g : Grammar} {stack : StateStack} {c : Cursor}

theorem stepsFrom_of_rest_eq_nil (bound : Nat) (h : c.rest = []) :
    g.stepsFrom bound stack c = [] := by
  cases bound with
  | zero => rfl
  | succ bound => simp [stepsFrom, h]

theorem stepsFrom_succ (bound : Nat) (h : c.rest ≠ []) :
    g.stepsFrom (bound + 1) stack c =
      g.step stack c :: g.stepsFrom bound (g.step stack c).stack (g.step stack c).cursor := by
  have hEmpty : c.rest.isEmpty = false := by simpa using h
  simp [stepsFrom, hEmpty]

/-- What holds at the start and is kept by every step holds wherever a step is made. -/
theorem exists_of_mem_stepsFrom {Inv : StateStack → Cursor → Prop}
    (hKeep : ∀ stack c, Inv stack c → c.rest ≠ [] →
      Inv (g.step stack c).stack (g.step stack c).cursor)
    {bound : Nat} {s : Step} (hStart : Inv stack c) (hs : s ∈ g.stepsFrom bound stack c) :
    ∃ stack' c', Inv stack' c' ∧ c'.rest ≠ [] ∧ s = g.step stack' c' := by
  induction bound generalizing stack c with
  | zero => exact absurd hs List.not_mem_nil
  | succ bound ih =>
    by_cases hRest : c.rest = []
    · rw [stepsFrom_of_rest_eq_nil _ hRest] at hs
      exact absurd hs List.not_mem_nil
    · rw [stepsFrom_succ bound hRest] at hs
      rcases List.mem_cons.mp hs with rfl | hs
      · exact ⟨stack, c, hStart, hRest, rfl⟩
      · exact ih (hKeep stack c hStart hRest) hs

theorem exists_end_stepsFrom {Inv : StateStack → Cursor → Prop}
    (hKeep : ∀ stack c, Inv stack c → c.rest ≠ [] →
      Inv (g.step stack c).stack (g.step stack c).cursor)
    {bound : Nat} (hStart : Inv stack c) (hBound : c.rest.length ≤ bound) :
    ∃ d : Cursor, d.rest = [] ∧ Inv (stackAfter stack (g.stepsFrom bound stack c)) d := by
  induction bound generalizing stack c with
  | zero => exact ⟨c, List.length_eq_zero_iff.mp (Nat.le_zero.mp hBound), hStart⟩
  | succ bound ih =>
    by_cases hRest : c.rest = []
    · rw [stepsFrom_of_rest_eq_nil _ hRest]
      exact ⟨c, hRest, hStart⟩
    · have hLength := g.length_step_lt stack hRest
      rw [stepsFrom_succ bound hRest, stackAfter_cons]
      exact ih (hKeep stack c hStart hRest) (by omega)

end Grammar

namespace Grammar

variable {g : Grammar} {stack : StateStack} {Inv : StateStack → Prop}

/-- Some property of stacks is kept by every step, and lines start with the stacks that have it. -/
structure Preserves (g : Grammar) (Inv : StateStack → Prop) : Prop where
  enter : ∀ stack, Inv stack → g.enter stack = stack
  step : ∀ stack c, Inv stack → Inv (g.step stack c).stack

namespace Preserves

theorem exists_of_mem_steps (h : g.Preserves Inv) (hStart : Inv stack) {line : String} {s : Step}
    (hs : s ∈ g.steps stack line) :
    ∃ stack' c, Inv stack' ∧ c.rest ≠ [] ∧ s = g.step stack' c := by
  rw [steps, h.enter stack hStart] at hs
  exact exists_of_mem_stepsFrom (fun stack c hInv _ => h.step stack c hInv) hStart hs

theorem tokenizeLine (h : g.Preserves Inv) (hStart : Inv stack) (line : String) :
    Inv (g.tokenizeLine stack line).stack := by
  change Inv (stackAfter (g.enter stack) (g.steps stack line))
  obtain hEnd | ⟨s, hs, hEnd⟩ := stackAfter_cases (g.enter stack) (g.steps stack line)
  · rwa [hEnd, h.enter stack hStart]
  · obtain ⟨stack', c, hInv, -, rfl⟩ := h.exists_of_mem_steps hStart hs
    rw [hEnd]
    exact h.step stack' c hInv

theorem of_mem_tokenizeLines (h : g.Preserves Inv) (hStart : Inv stack) {lines : List String} :
    ∀ t ∈ g.tokenizeLines stack lines, Inv t.stack := by
  induction lines generalizing stack with
  | nil => exact fun _ ht => absurd ht List.not_mem_nil
  | cons line lines ih =>
    have hNext := h.tokenizeLine hStart line
    exact List.forall_mem_cons.mpr ⟨hNext, ih hNext⟩

theorem exists_line_of_mem_traceLines (h : g.Preserves Inv) (hStart : Inv stack)
    {lines : List String} :
    ∀ steps ∈ g.traceLines stack lines, ∃ stack' line, Inv stack' ∧ steps = g.steps stack' line := by
  induction lines generalizing stack with
  | nil => exact fun _ hs => absurd hs List.not_mem_nil
  | cons line lines ih =>
    exact List.forall_mem_cons.mpr ⟨⟨stack, line, hStart, rfl⟩, ih (h.tokenizeLine hStart line)⟩

theorem exists_of_mem_traceLines (h : g.Preserves Inv) (hStart : Inv stack) {lines : List String} :
    ∀ steps ∈ g.traceLines stack lines, ∀ s ∈ steps, ∃ stack' c, Inv stack' ∧ s = g.step stack' c := by
  intro steps hSteps s hs
  obtain ⟨_, line, hInv, rfl⟩ := h.exists_line_of_mem_traceLines hStart steps hSteps
  obtain ⟨stack', c, hInv', -, hStep⟩ := h.exists_of_mem_steps hInv hs
  exact ⟨stack', c, hInv', hStep⟩

end Preserves

theorem drop_lines {lines : List String} {i : Nat} {t : TokenizedLine}
    (h : (g.tokenizeLines stack lines)[i]? = some t) :
    (g.tokenizeLines stack lines).drop (i + 1) = g.tokenizeLines t.stack (lines.drop (i + 1)) ∧
      (g.traceLines stack lines).drop (i + 1) = g.traceLines t.stack (lines.drop (i + 1)) := by
  induction lines generalizing stack i with
  | nil => cases h
  | cons line lines ih =>
    cases i with
    | zero =>
      cases h
      exact ⟨rfl, rfl⟩
    | succ i => exact ih h

inductive Chained (g : Grammar) : StateStack → List Step → Prop
  | nil {stack : StateStack} : Chained g stack []
  | cons {stack : StateStack} {c : Cursor} {steps : List Step}
      (h : g.Chained (g.step stack c).stack steps) : Chained g stack (g.step stack c :: steps)

variable {xs ys : List Step}

theorem chained_stepsFrom (g : Grammar) (bound : Nat) (stack : StateStack) (c : Cursor) :
    g.Chained stack (g.stepsFrom bound stack c) := by
  induction bound generalizing stack c with
  | zero => exact .nil
  | succ bound ih =>
    by_cases hRest : c.rest = []
    · rw [stepsFrom_of_rest_eq_nil _ hRest]
      exact .nil
    · rw [stepsFrom_succ bound hRest]
      exact .cons (ih _ _)

theorem Chained.append (h : g.Chained stack xs) (h' : g.Chained (stackAfter stack xs) ys) :
    g.Chained stack (xs ++ ys) := by
  induction h with
  | nil => exact h'
  | cons _ ih =>
    rw [stackAfter_cons] at h'
    exact .cons (ih h')

theorem Chained.take (h : g.Chained stack xs) (n : Nat) : g.Chained stack (xs.take n) := by
  induction h generalizing n with
  | nil =>
    rw [List.take_nil]
    exact .nil
  | cons _ ih =>
    cases n with
    | zero => exact .nil
    | succ n => exact .cons (ih n)

theorem Preserves.chained_traceLines (h : g.Preserves Inv) (hStart : Inv stack)
    (lines : List String) : g.Chained stack (g.traceLines stack lines).flatten := by
  induction lines generalizing stack with
  | nil => exact .nil
  | cons line lines ih =>
    have hLine : g.Chained stack (g.steps stack line) := by
      rw [steps, h.enter stack hStart]
      exact chained_stepsFrom g _ _ _
    have hNext := ih (h.tokenizeLine hStart line)
    rw [Grammar.tokenizeLine, TokenizedLine.ofSteps, h.enter stack hStart] at hNext
    rw [traceLines, List.flatten_cons, h.enter stack hStart]
    exact hLine.append hNext

/-- A stack that steps lead to from the initial one, line by line or in the middle of lines. -/
inductive Reachable (g : Grammar) : StateStack → Prop
  | initial : Reachable g g.initial
  | step {stack : StateStack} {line : String} {s : Step} (h : g.Reachable stack)
      (hs : s ∈ g.steps stack line) : Reachable g s.stack

theorem Reachable.tokenizeLine (h : g.Reachable stack) (hEnter : g.enter stack = stack)
    (line : String) : g.Reachable (g.tokenizeLine stack line).stack := by
  change g.Reachable (stackAfter (g.enter stack) (g.steps stack line))
  obtain hEnd | ⟨s, hs, hEnd⟩ := stackAfter_cases (g.enter stack) (g.steps stack line)
  · rwa [hEnd, hEnter]
  · rw [hEnd]
    exact .step h hs

theorem Preserves.of_reachable (h : g.Preserves Inv) (hInitial : Inv g.initial)
    (hStack : g.Reachable stack) : Inv stack := by
  induction hStack with
  | initial => exact hInitial
  | step _ hs ih =>
    obtain ⟨stack', c, hInv, -, rfl⟩ := h.exists_of_mem_steps ih hs
    exact h.step stack' c hInv

end Grammar

end Highlight
