import Highlight.Document
import Highlight.Proofs.Coverage
import Highlight.Proofs.StackSafety

/-! # Reading a line span by span

The run of a line is a list of steps, said here without a reader: each step is made by the first
rule of the top state that applies at the cursor, or passes one character if none applies. A reader
that is called for one span after the other answers with the spans of the run. After any number of
calls it stands behind the steps of which some span has been read, and no further.
-/

namespace Highlight

open Text

structure Rule.AppliesAt (rule : Rule) (c : Cursor) (m : Match) : Prop where
  place : rule.lineStart = true → c.offset = 0
  found : rule.pattern.match? c = some m

namespace Grammar

def Passes (g : Grammar) (c : Cursor) (id : RuleId) : Prop :=
  ∀ rule, g.rules[id]? = some rule → ∀ m, ¬rule.AppliesAt c m

/-- The step at a cursor: by the first rule in the order of the state that applies there, or over
one character when there is none. -/
inductive Makes (g : Grammar) (stack : StateStack) (c : Cursor) : Step → Prop
  | ofRule {state : State} {tried later : List RuleId} {id : RuleId} {rule : Rule} {m : Match}
      (hState : g.states[stack.top]? = some state) (hRules : state.rules = tried ++ id :: later)
      (hTried : ∀ i ∈ tried, g.Passes c i) (hRule : g.rules[id]? = some rule)
      (hApplies : rule.AppliesAt c m) :
      Makes g stack c
        { state := stack.top
          start := c.offset
          matched := some (id, m.stop.offset - c.offset)
          spans := g.spansOf rule c m
          cursor := if m.stop.offset = c.offset then c.advance else m.stop
          stack := stack.apply g.depthLimit rule.effect
          refused := stack.refuses g.depthLimit rule.effect }
  | ofNone (hNone : ∀ state, g.states[stack.top]? = some state → ∀ i ∈ state.rules, g.Passes c i) :
      Makes g stack c
        { state := stack.top
          start := c.offset
          matched := none
          spans := [⟨c.offset, g.defaultTag, none⟩]
          cursor := c.advance
          stack := stack
          refused := false }

inductive Runs (g : Grammar) : StateStack → Cursor → List Step → Prop
  | done {stack : StateStack} {c : Cursor} (hRest : c.rest = []) : Runs g stack c []
  | step {stack : StateStack} {c : Cursor} {s : Step} {steps : List Step} (hRest : c.rest ≠ [])
      (hStep : g.Makes stack c s) (hSteps : g.Runs s.stack s.cursor steps) :
      Runs g stack c (s :: steps)

def tryRule (g : Grammar) (c : Cursor) (id : RuleId) : Option (RuleId × Rule × Match) :=
  g.rules[id]?.bind fun rule =>
    if rule.lineStart && c.offset != 0 then none else (rule.pattern.match? c).map (id, rule, ·)

variable {g : Grammar} {stack : StateStack} {c : Cursor} {id : RuleId}

theorem tryRule_eq_some_iff {x : RuleId × Rule × Match} :
    g.tryRule c id = some x ↔ x.1 = id ∧ g.rules[id]? = some x.2.1 ∧ x.2.1.AppliesAt c x.2.2 := by
  obtain ⟨id', rule, m⟩ := x
  constructor
  · intro h
    obtain ⟨rule', hRule, h⟩ := Option.bind_eq_some_iff.mp h
    split at h
    · cases h
    · rename_i hPlace
      obtain ⟨m', hMatch, hEq⟩ := Option.map_eq_some_iff.mp h
      cases hEq
      simp only [Bool.and_eq_true, bne_iff_ne, not_and, not_not] at hPlace
      exact ⟨rfl, hRule, hPlace, hMatch⟩
  · rintro ⟨rfl, hRule, hPlace, hMatch⟩
    dsimp only at hRule hPlace hMatch
    have hFree : ¬(rule.lineStart && c.offset != 0) = true := by
      simp only [Bool.and_eq_true, bne_iff_ne, not_and, not_not]
      exact hPlace
    rw [tryRule, hRule, Option.bind_some, if_neg hFree, hMatch]
    rfl

theorem tryRule_eq_none_iff : g.tryRule c id = none ↔ g.Passes c id := by
  rw [Option.eq_none_iff_forall_ne_some]
  constructor
  · intro h rule hRule m hApplies
    exact h (id, rule, m) (tryRule_eq_some_iff.mpr ⟨rfl, hRule, hApplies⟩)
  · intro h x hx
    obtain ⟨-, hRule, hApplies⟩ := tryRule_eq_some_iff.mp hx
    exact h x.2.1 hRule x.2.2 hApplies

theorem findSome?_filterMap {α β γ : Type} (f : α → Option β) (h : β → Option γ) (l : List α) :
    (l.filterMap f).findSome? h = l.findSome? fun x => (f x).bind h := by
  induction l with
  | nil => rfl
  | cons x l ih => cases hx : f x <;> simp [hx, ih, List.findSome?_cons]

theorem firstMatch?_eq {state : State} (hState : g.states[id]? = some state) :
    g.firstMatch? id c = state.rules.findSome? (g.tryRule c) := by
  simp only [firstMatch?, rulesAt, hState, findSome?_filterMap]
  refine congrArg (List.findSome? · state.rules) (funext fun i => ?_)
  cases hRule : g.rules[i]? <;> simp [tryRule, hRule]

theorem firstMatch?_of_no_state (hState : g.states[id]? = none) : g.firstMatch? id c = none := by
  simp [firstMatch?, rulesAt, hState]

theorem makes_iff {s : Step} : g.Makes stack c s ↔ s = g.step stack c := by
  constructor
  · intro h
    cases h with
    | @ofRule state tried later id rule m hState hRules hTried hRule hApplies =>
      have hFirst : g.firstMatch? stack.top c = some (id, rule, m) := by
        rw [firstMatch?_eq hState]
        exact List.findSome?_eq_some_iff.mpr ⟨tried, id, later, hRules,
          tryRule_eq_some_iff.mpr ⟨rfl, hRule, hApplies⟩,
          fun i hi => tryRule_eq_none_iff.mpr (hTried i hi)⟩
      have hStop := (Pattern.reaches_of_match? hApplies.found).offset_le
      have hLength : m.stop.offset - c.offset = 0 ↔ m.stop.offset = c.offset := by omega
      simp only [step, hFirst, hLength]
    | ofNone hNone =>
      have hFirst : g.firstMatch? stack.top c = none := by
        cases hState : g.states[stack.top]? with
        | none => exact firstMatch?_of_no_state hState
        | some state =>
          rw [firstMatch?_eq hState]
          exact List.findSome?_eq_none_iff.mpr fun i hi =>
            tryRule_eq_none_iff.mpr (hNone state hState i hi)
      simp only [step, hFirst]
  · rintro rfl
    cases hState : g.states[stack.top]? with
    | none =>
      simp only [step, firstMatch?_of_no_state hState]
      exact .ofNone fun state hState' => by simp [hState] at hState'
    | some state =>
      cases hFirst : state.rules.findSome? (g.tryRule c) with
      | none =>
        simp only [step, firstMatch?_eq hState, hFirst]
        refine .ofNone fun state' hState' i hi => ?_
        cases hState.symm.trans hState'
        exact tryRule_eq_none_iff.mp (List.findSome?_eq_none_iff.mp hFirst i hi)
      | some x =>
        obtain ⟨tried, i, later, hRules, hFound, hTried⟩ := List.findSome?_eq_some_iff.mp hFirst
        obtain ⟨id, rule, m⟩ := x
        obtain ⟨rfl, hRule, hApplies⟩ := tryRule_eq_some_iff.mp hFound
        dsimp only at hRule hApplies
        have hStop := (Pattern.reaches_of_match? hApplies.found).offset_le
        have hLength : m.stop.offset - c.offset = 0 ↔ m.stop.offset = c.offset := by omega
        simp only [step, firstMatch?_eq hState, hFirst, hLength]
        exact .ofRule hState hRules (fun i hi => tryRule_eq_none_iff.mp (hTried i hi)) hRule
          hApplies

theorem runs_iff {bound : Nat} {steps : List Step} (hBound : c.rest.length ≤ bound) :
    g.Runs stack c steps ↔ steps = g.stepsFrom bound stack c := by
  induction bound generalizing stack c steps with
  | zero =>
    have hRest : c.rest = [] := List.length_eq_zero_iff.mp (Nat.le_zero.mp hBound)
    rw [stepsFrom_of_rest_eq_nil 0 hRest]
    constructor
    · intro h
      cases h with
      | done => rfl
      | step hNe => exact absurd hRest hNe
    · rintro rfl
      exact .done hRest
  | succ bound ih =>
    by_cases hRest : c.rest = []
    · rw [stepsFrom_of_rest_eq_nil _ hRest]
      constructor
      · intro h
        cases h with
        | done => rfl
        | step hNe => exact absurd hRest hNe
      · rintro rfl
        exact .done hRest
    · have hLength := g.length_step_lt stack hRest
      have hLater : (g.step stack c).cursor.rest.length ≤ bound := by omega
      rw [stepsFrom_succ bound hRest]
      constructor
      · intro h
        cases h with
        | done hNil => exact absurd hNil hRest
        | step _ hStep hSteps =>
          cases makes_iff.mp hStep
          rw [(ih hLater).mp hSteps]
      · rintro rfl
        exact .step hRest (makes_iff.mpr rfl) ((ih hLater).mpr rfl)

theorem exists_spans_step (g : Grammar) (stack : StateStack) (hRest : c.rest ≠ []) :
    ∃ span pending, (g.step stack c).spans = span :: pending := by
  have hFirst := (g.fills_step stack hRest).first
  cases hSpans : (g.step stack c).spans with
  | nil =>
    rw [hSpans] at hFirst
    cases hFirst
  | cons span pending => exact ⟨span, pending, rfl⟩

theorem Runs.flatMap_spans_ne_nil {steps : List Step} (h : g.Runs stack c steps)
    (hRest : c.rest ≠ []) : steps.flatMap (·.spans) ≠ [] := by
  cases h with
  | done hNil => exact absurd hNil hRest
  | step _ hStep =>
    cases makes_iff.mp hStep
    obtain ⟨span, pending, hSpans⟩ := g.exists_spans_step stack hRest
    simp [hSpans]

end Grammar

/-- The steps of which some span is among the first `k` spans. -/
def begun : Nat → List Step → List Step
  | 0, _ => []
  | _ + 1, [] => []
  | k + 1, s :: steps => s :: begun (k + 1 - s.spans.length) steps

theorem begun_zero (steps : List Step) : begun 0 steps = [] := by
  cases steps <;> rfl

theorem begun_nil (k : Nat) : begun k [] = [] := by
  cases k <;> rfl

namespace TokenReader

def call (r : TokenReader) : Option Span × TokenReader :=
  match r.next? with
  | some (span, r) => (some span, r)
  | none => (none, r)

def answers : Nat → TokenReader → List (Option Span)
  | 0, _ => []
  | k + 1, r => r.call.1 :: answers k r.call.2

def after : Nat → TokenReader → TokenReader
  | 0, r => r
  | k + 1, r => after k r.call.2

theorem after_add (j k : Nat) (r : TokenReader) : r.after (j + k) = (r.after j).after k := by
  induction j generalizing r with
  | zero => rw [Nat.zero_add, after]
  | succ j ih => rw [Nat.succ_add, after, after, ih]

variable {r r' : TokenReader} {steps made later : List Step} {span : Span} {pending : List Span}

/-- The reader with these spans left of a step of which it has read the first one. -/
def leave (r : TokenReader) (pending : List Span) : TokenReader :=
  { r with pending := pending, started := true }

theorem call_of_pending (h : r.pending = span :: pending) :
    r.call = (some span, r.leave pending) := by
  simp [call, next?, pop?, h, leave]

theorem call_of_step (hPending : r.pending = []) (hRest : r.cursor.rest ≠ [])
    (hSpans : (r.grammar.step r.stack r.cursor).spans = span :: pending) :
    r.call = (some span, r.advance.leave pending) := by
  have hEmpty : r.cursor.rest.isEmpty = false := by simpa using hRest
  simp [call, next?, pop?, hPending, hEmpty, advance, hSpans, leave]

theorem call_of_empty_line (hPending : r.pending = []) (hRest : r.cursor.rest = [])
    (hStarted : r.started = false) : r.call = (some emptyLineSpan, r.leave []) := by
  simp [call, next?, pop?, hPending, hRest, hStarted, leave]

structure Exhausted (r : TokenReader) : Prop where
  pending_eq : r.pending = []
  rest_eq : r.cursor.rest = []
  started_eq : r.started = true

theorem Exhausted.call_eq (h : r.Exhausted) : r.call = (none, r) := by
  simp [call, next?, pop?, h.pending_eq, h.rest_eq, h.started_eq]

theorem Exhausted.answers_eq (h : r.Exhausted) (k : Nat) :
    r.answers k = List.replicate k none := by
  induction k with
  | zero => rfl
  | succ k ih => rw [answers, h.call_eq, ih, List.replicate_succ]

theorem Exhausted.after_eq (h : r.Exhausted) (k : Nat) : r.after k = r := by
  induction k with
  | zero => rfl
  | succ k ih => rw [after, h.call_eq, ih]

/-- The reader `r` comes to `r'` by the steps `made`, and the steps `later` are still to be made. -/
structure Comes (r : TokenReader) (made : List Step) (r' : TokenReader) (later : List Step) :
    Prop where
  stack_eq : r'.stack = stackAfter r.stack made
  fallbacks_eq : r'.fallbacks = r.fallbacks + made.countP (·.isFallback)
  peakDepth_eq : r'.peakDepth = made.foldl (fun n s => max n s.stack.depth) r.peakDepth
  runs : r'.grammar.Runs r'.stack r'.cursor later

namespace Comes

theorem refl (h : r.grammar.Runs r.stack r.cursor steps) : r.Comes [] r steps :=
  ⟨rfl, rfl, rfl, h⟩

theorem of_leave (h : (r.leave pending).Comes made r' later) : r.Comes made r' later :=
  ⟨h.stack_eq, h.fallbacks_eq, h.peakDepth_eq, h.runs⟩

theorem of_advance (h : (r.advance.leave pending).Comes made r' later) :
    r.Comes (r.grammar.step r.stack r.cursor :: made) r' later := by
  refine ⟨?_, ?_, ?_, h.runs⟩
  · rw [h.stack_eq, stackAfter_cons]
    rfl
  · rw [h.fallbacks_eq, List.countP_cons]
    simp only [leave, advance]
    omega
  · rw [h.peakDepth_eq]
    rfl

end Comes

def queue (r : TokenReader) (steps : List Step) : List Span :=
  r.pending ++ steps.flatMap (·.spans)

/-- What `k` calls of a reader do that has these steps to make: they give the first `k` spans, and
they make those steps that have one of these spans. -/
structure Reads (r : TokenReader) (steps : List Step) (k : Nat) : Prop where
  answers_eq : r.answers k = ((r.queue steps).take k).map some ++
    List.replicate (k - (r.queue steps).length) none
  started_eq : 0 < k ∨ r.started = true → (r.after k).started = true
  comes : ∃ later, steps = begun (k - r.pending.length) steps ++ later ∧
    r.Comes (begun (k - r.pending.length) steps) (r.after k) later ∧
    (r.after k).queue later = (r.queue steps).drop k

namespace Reads

variable {k : Nat}

theorem zero (h : r.grammar.Runs r.stack r.cursor steps) : r.Reads steps 0 where
  answers_eq := by simp [answers]
  started_eq hk := hk.resolve_left (Nat.lt_irrefl 0)
  comes := by
    rw [Nat.zero_sub, begun_zero]
    exact ⟨steps, rfl, .refl h, rfl⟩

theorem of_exhausted (h : r.Exhausted) : r.Reads [] k where
  answers_eq := by simp [h.answers_eq, queue, h.pending_eq]
  started_eq _ := by rw [h.after_eq, h.started_eq]
  comes := by
    rw [begun_nil, h.after_eq]
    exact ⟨[], rfl, .refl (.done h.rest_eq), by simp [queue, h.pending_eq]⟩

theorem of_pending (hPending : r.pending = span :: pending) (h : (r.leave pending).Reads steps k) :
    r.Reads steps (k + 1) := by
  have hQueue : r.queue steps = span :: (r.leave pending).queue steps := by
    simp [queue, leave, hPending]
  have hBegun : k + 1 - r.pending.length = k - (r.leave pending).pending.length := by
    simp [leave, hPending]
  have hAfter : r.after (k + 1) = (r.leave pending).after k := by
    rw [after, call_of_pending hPending]
  refine ⟨?_, ?_, ?_⟩
  · rw [answers, call_of_pending hPending, h.answers_eq, hQueue]
    simp
  · rw [hAfter]
    exact fun _ => h.started_eq (.inr rfl)
  · rw [hBegun, hAfter, hQueue]
    obtain ⟨later, hSteps, hComes, hLeft⟩ := h.comes
    exact ⟨later, hSteps, hComes.of_leave, hLeft⟩

theorem of_step (hPending : r.pending = []) (hRest : r.cursor.rest ≠ [])
    (hSpans : (r.grammar.step r.stack r.cursor).spans = span :: pending)
    (h : (r.advance.leave pending).Reads steps k) :
    r.Reads (r.grammar.step r.stack r.cursor :: steps) (k + 1) := by
  have hCall := call_of_step hPending hRest hSpans
  have hQueue : r.queue (r.grammar.step r.stack r.cursor :: steps) =
      span :: (r.advance.leave pending).queue steps := by
    simp [queue, leave, hPending, hSpans]
  have hBegun : begun (k + 1 - r.pending.length) (r.grammar.step r.stack r.cursor :: steps) =
      r.grammar.step r.stack r.cursor ::
        begun (k - (r.advance.leave pending).pending.length) steps := by
    simp [leave, hPending, begun, hSpans]
  have hAfter : r.after (k + 1) = (r.advance.leave pending).after k := by
    rw [after, hCall]
  refine ⟨?_, ?_, ?_⟩
  · rw [answers, hCall, h.answers_eq, hQueue]
    simp
  · rw [hAfter]
    exact fun _ => h.started_eq (.inr rfl)
  · rw [hBegun, hAfter, hQueue]
    obtain ⟨later, hSteps, hComes, hLeft⟩ := h.comes
    exact ⟨later, congrArg _ hSteps, hComes.of_advance, hLeft⟩

end Reads

theorem reads (hRuns : r.grammar.Runs r.stack r.cursor steps)
    (hQueue : r.started = true ∨ r.queue steps ≠ []) (k : Nat) : r.Reads steps k := by
  induction k generalizing r steps with
  | zero => exact .zero hRuns
  | succ k ih =>
    cases hPending : r.pending with
    | cons span pending =>
      have hLater : (r.leave pending).Reads steps k := ih hRuns (.inl rfl)
      exact .of_pending hPending hLater
    | nil =>
      cases hRuns with
      | done hRest =>
        have hStarted : r.started = true := hQueue.resolve_right (by simp [queue, hPending])
        exact .of_exhausted ⟨hPending, hRest, hStarted⟩
      | step hRest hStep hSteps =>
        cases Grammar.makes_iff.mp hStep
        obtain ⟨span, pending, hSpans⟩ := r.grammar.exists_spans_step r.stack hRest
        have hLater : (r.advance.leave pending).Reads _ k := ih hSteps (.inl rfl)
        exact .of_step hPending hRest hSpans hLater

/-- The steps that are left lead to the end of the line, whatever spans are still pending. -/
theorem stack_drain {bound : Nat} (hRuns : r.grammar.Runs r.stack r.cursor steps)
    (hBound : r.cursor.rest.length ≤ bound) : (drain bound r).stack = stackAfter r.stack steps := by
  induction bound generalizing r steps with
  | zero =>
    have hRest : r.cursor.rest = [] := List.length_eq_zero_iff.mp (Nat.le_zero.mp hBound)
    cases hRuns with
    | done => rfl
    | step hNe => exact absurd hRest hNe
  | succ bound ih =>
    rw [drain]
    cases hRuns with
    | done hRest => simp [hRest, stackAfter]
    | step hRest hStep hSteps =>
      cases Grammar.makes_iff.mp hStep
      have hEmpty : r.cursor.rest.isEmpty = false := by simpa using hRest
      have hLength := r.grammar.length_step_lt r.stack hRest
      have hLater : r.advance.cursor.rest.length ≤ bound := by
        change (r.grammar.step r.stack r.cursor).cursor.rest.length ≤ bound
        omega
      rw [hEmpty, stackAfter_cons]
      exact ih (r := r.advance) hSteps hLater

theorem finish_of_runs (hRuns : r.grammar.Runs r.stack r.cursor steps) :
    r.finish = stackAfter r.stack steps :=
  stack_drain hRuns (Nat.le_refl _)

/-- Reading shows the run that makes these steps from the stack `start`: each call gives the next
span, until there are none and nothing changes any more, the reader knows of exactly those steps
that have begun to be read, and it comes to the end of the run from wherever it is. -/
structure Shows (r : TokenReader) (start : StateStack) (steps : List Step) : Prop where
  answers_eq : ∀ k, r.answers k = ((TokenizedLine.ofSteps start steps).spans.take k).map some ++
    List.replicate (k - (TokenizedLine.ofSteps start steps).spans.length) none
  stack_eq : ∀ k, (r.after k).stack = stackAfter start (begun k steps)
  fallbacks_eq : ∀ k, (r.after k).fallbacks = (begun k steps).countP (·.isFallback)
  peakDepth_eq : ∀ k, (r.after k).peakDepth = Highlight.peakDepth start (begun k steps)
  stays : ∀ j k, (TokenizedLine.ofSteps start steps).spans.length ≤ j →
    r.after (j + k) = r.after j
  finish_eq : ∀ k, (r.after k).finish = stackAfter start steps

section OfLine

variable {g : Grammar} {stack : StateStack} {line : String}

theorem shows_of_comes (hStack : g.accepts stack = true)
    (hComes : ∀ k, ∃ later, steps = begun k steps ++ later ∧
      (ofLine g stack line).Comes (begun k steps) ((ofLine g stack line).after k) later)
    (hAnswers : ∀ k, (ofLine g stack line).answers k =
      ((TokenizedLine.ofSteps stack steps).spans.take k).map some ++
        List.replicate (k - (TokenizedLine.ofSteps stack steps).spans.length) none)
    (hEnd : ∀ j, (TokenizedLine.ofSteps stack steps).spans.length ≤ j →
      ((ofLine g stack line).after j).Exhausted) :
    (ofLine g stack line).Shows stack steps := by
  have hEnter : (ofLine g stack line).stack = stack := Grammar.enter_of_accepts hStack
  have hDepth : (ofLine g stack line).peakDepth = stack.depth := congrArg StateStack.depth hEnter
  refine ⟨hAnswers, fun k => ?_, fun k => ?_, fun k => ?_, fun j k hj => ?_, fun k => ?_⟩
  · obtain ⟨_, _, h⟩ := hComes k
    rw [h.stack_eq, hEnter]
  · obtain ⟨_, _, h⟩ := hComes k
    rw [h.fallbacks_eq]
    exact Nat.zero_add _
  · obtain ⟨_, _, h⟩ := hComes k
    rw [h.peakDepth_eq, hDepth]
    rfl
  · rw [after_add, (hEnd j hj).after_eq]
  · obtain ⟨later, hSteps, h⟩ := hComes k
    rw [finish_of_runs h.runs, h.stack_eq, ← stackAfter_append, ← hSteps, hEnter]

theorem shows_empty_line (h : g.accepts stack = true) : (ofLine g stack "").Shows stack [] := by
  have hCall : (ofLine g stack "").call = (some emptyLineSpan, (ofLine g stack "").leave []) :=
    call_of_empty_line rfl rfl rfl
  have hEnd : ((ofLine g stack "").leave []).Exhausted := ⟨rfl, rfl, rfl⟩
  have hAfter : ∀ k, (ofLine g stack "").after (k + 1) = (ofLine g stack "").leave [] := by
    intro k
    rw [after, hCall, hEnd.after_eq]
  refine shows_of_comes h (fun k => ?_) (fun k => ?_) (fun j hj => ?_)
  · rw [begun_nil]
    cases k with
    | zero => exact ⟨[], rfl, .refl (.done rfl)⟩
    | succ k =>
      rw [hAfter]
      exact ⟨[], rfl, .of_leave (.refl (.done rfl))⟩
  · cases k with
    | zero => rfl
    | succ k =>
      rw [answers, hCall, hEnd.answers_eq]
      simp [TokenizedLine.ofSteps]
  · cases j with
    | zero => simp [TokenizedLine.ofSteps] at hj
    | succ j => rwa [hAfter]

theorem exhausted_of_queue_eq_nil (hStarted : r.started = true)
    (hRuns : r.grammar.Runs r.stack r.cursor later) (hQueue : r.queue later = []) :
    r.Exhausted := by
  obtain ⟨hPending, hLater⟩ := List.append_eq_nil_iff.mp hQueue
  refine ⟨hPending, ?_, hStarted⟩
  by_contra hRest
  exact hRuns.flatMap_spans_ne_nil hRest hLater

theorem shows_of_runs (h : g.accepts stack = true) (hLine : line ≠ "")
    (hRuns : g.Runs stack (.ofLine line) steps) : (ofLine g stack line).Shows stack steps := by
  have hRest : (Cursor.ofLine line).rest ≠ [] := fun hNil =>
    hLine (String.toList_eq_nil_iff.mp hNil)
  have hSpans := hRuns.flatMap_spans_ne_nil hRest
  have hSteps : (TokenizedLine.ofSteps stack steps).spans = steps.flatMap (·.spans) := by
    refine if_neg fun hEmpty => hSpans ?_
    rw [List.isEmpty_iff.mp hEmpty, List.flatMap_nil]
  have hEnter : (ofLine g stack line).stack = stack := Grammar.enter_of_accepts h
  have hReader : (ofLine g stack line).grammar.Runs (ofLine g stack line).stack
      (ofLine g stack line).cursor steps := by
    rw [hEnter]
    exact hRuns
  have hReads : ∀ k, (ofLine g stack line).Reads steps k := reads hReader (.inr hSpans)
  rw [show steps.flatMap (·.spans) = (ofLine g stack line).queue steps from rfl] at hSteps hSpans
  refine shows_of_comes h (fun k => ?_) (fun k => ?_) (fun j hj => ?_)
  · obtain ⟨later, hEq, hComes, -⟩ := (hReads k).comes
    exact ⟨later, hEq, hComes⟩
  · rw [hSteps, (hReads k).answers_eq]
  · rw [hSteps] at hj
    have hPos : 0 < j := Nat.lt_of_lt_of_le (List.length_pos_of_ne_nil hSpans) hj
    obtain ⟨later, -, hComes, hLeft⟩ := (hReads j).comes
    rw [List.drop_eq_nil_of_le hj] at hLeft
    exact exhausted_of_queue_eq_nil ((hReads j).started_eq (.inl hPos)) hComes.runs hLeft

end OfLine

end TokenReader

/-- A line has exactly one run from a stack of the grammar. Tokenizing the line gives this run, and
reading it one span after the other shows it. -/
theorem Grammar.reading_shows_run {g : Grammar} {stack : StateStack}
    (h : g.accepts stack = true) (line : String) :
    ∃ steps, (∀ other, g.Runs stack (.ofLine line) other ↔ other = steps) ∧
      g.tokenizeLine stack line = .ofSteps stack steps ∧
      (TokenReader.ofLine g stack line).Shows stack steps := by
  have hRuns : ∀ other, g.Runs stack (.ofLine line) other ↔ other = g.steps stack line := by
    intro other
    rw [runs_iff (Nat.le_refl _), steps, enter_of_accepts h]
  refine ⟨g.steps stack line, hRuns, by rw [tokenizeLine, enter_of_accepts h], ?_⟩
  by_cases hLine : line = ""
  · subst hLine
    exact TokenReader.shows_empty_line h
  · exact TokenReader.shows_of_runs h hLine ((hRuns _).mpr rfl)

theorem Grammar.fsd_reading_shows_run :
    Fsd.grammar.accepts Fsd.grammar.initial = true ∧
      ∃ steps, (∀ other, Fsd.grammar.Runs Fsd.grammar.initial (.ofLine "[a(b: \"é") other ↔
          other = steps) ∧
        Fsd.grammar.tokenizeLine Fsd.grammar.initial "[a(b: \"é" =
          .ofSteps Fsd.grammar.initial steps ∧
        (TokenReader.ofLine Fsd.grammar Fsd.grammar.initial "[a(b: \"é").Shows
          Fsd.grammar.initial steps :=
  have h := (wellFormed_of_build Fsd.build_declaration).accepts_initial
  ⟨h, reading_shows_run h _⟩

end Highlight
