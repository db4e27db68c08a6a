import Highlight.Proofs.LazyReading
import Highlight.Proofs.LineByLine
import Highlight.Proofs.RunBounds
import Mathlib.Algebra.Order.BigOperators.Group.List
import Mathlib.Algebra.Order.Group.Nat
import Mathlib.Algebra.Ring.Nat

/-! # What a run counts

A run over a text is a run of each of its lines, from the stack that the line before it left. The
counters of the run are read off these: how many lines and spans there are, how many steps found no
rule, and how deep the deepest stack was.
-/

namespace Highlight

open Text

def cursorAfter (c : Cursor) (steps : List Step) : Cursor :=
  match steps.getLast? with
  | some s => s.cursor
  | none => c

theorem cursorAfter_cons (c : Cursor) (s : Step) (steps : List Step) :
    cursorAfter c (s :: steps) = cursorAfter s.cursor steps := by
  cases steps with
  | nil => rfl
  | cons t steps => simp [cursorAfter, List.getLast?_cons]

namespace Grammar

variable {g : Grammar} {stack : StateStack} {c : Cursor} {s : Step} {made later : List Step}

def Unmatched (g : Grammar) (stack : StateStack) (c : Cursor) : Prop :=
  ∀ state, g.states[stack.top]? = some state → ∀ i ∈ state.rules, g.Passes c i

theorem Makes.isFallback_iff (h : g.Makes stack c s) :
    s.isFallback = true ↔ g.Unmatched stack c := by
  cases h with
  | @ofRule state tried later id rule m hState hRules _ hRule hApplies =>
    refine iff_of_false (fun h => by cases h) fun hNone => ?_
    have hMem : id ∈ state.rules := by simp [hRules]
    exact hNone state hState id hMem rule hRule m hApplies
  | ofNone hNone => exact iff_of_true rfl hNone

/-- What a step does for which there is no rule: it passes the one character `x`, gives it the
default tag, and leaves the stack. -/
structure Skips (g : Grammar) (stack : StateStack) (c : Cursor) (x : Char) (s : Step) : Prop where
  rest_eq : c.rest = x :: s.cursor.rest
  offset_eq : s.cursor.offset = c.offset + x.utf8Size
  spans_eq : s.spans = [⟨c.offset, g.defaultTag, none⟩]
  stack_eq : s.stack = stack

theorem Makes.exists_skips (h : g.Makes stack c s) (hRest : c.rest ≠ [])
    (hFallback : s.isFallback = true) : ∃ x, g.Skips stack c x s := by
  cases h with
  | ofRule => cases hFallback
  | ofNone =>
    obtain ⟨x, rest, hx⟩ := List.exists_cons_of_ne_nil hRest
    have hAdvance : c.advance = ⟨some x, c.offset + x.utf8Size, rest⟩ := by
      simp only [Cursor.advance, Cursor.next?, hx]
    refine ⟨x, ?_, ?_, rfl, rfl⟩ <;> simp [hAdvance, hx]

theorem Runs.split (h : g.Runs stack c (made ++ s :: later)) :
    c.Reaches (cursorAfter c made) ∧ (cursorAfter c made).rest ≠ [] ∧
      g.Makes (stackAfter stack made) (cursorAfter c made) s ∧ g.Runs s.stack s.cursor later := by
  induction made generalizing stack c with
  | nil =>
    cases h with
    | step hRest hStep hSteps => exact ⟨.refl c, hRest, hStep, hSteps⟩
  | cons t made ih =>
    cases h with
    | step hRest hStep hSteps =>
      obtain ⟨hReaches, hLater⟩ := ih hSteps
      rw [cursorAfter_cons, stackAfter_cons]
      refine ⟨.trans ?_ hReaches, hLater⟩
      cases makes_iff.mp hStep
      exact g.reaches_step stack c

theorem Runs.head?_spans {steps : List Step} (h : g.Runs stack c steps) (hSteps : steps ≠ []) :
    (steps.flatMap (·.spans)).head?.map (·.start) = some c.offset := by
  cases h with
  | done => exact absurd rfl hSteps
  | step hRest hStep =>
    cases makes_iff.mp hStep
    obtain ⟨span, pending, hSpans⟩ := g.exists_spans_step stack hRest
    have hFirst := (g.fills_step stack hRest).first
    rw [hSpans] at hFirst
    rw [List.flatMap_cons, hSpans]
    exact hFirst

theorem Runs.getElem?_extents {line : String} {span : Span}
    (h : g.Runs stack (.ofLine line) (made ++ s :: later)) (hSpan : s.spans = [span]) :
    (extents line.utf8ByteSize ((made ++ s :: later).flatMap (·.spans)))[
      (made.flatMap (·.spans)).length]? = some (span.start, s.cursor.offset) := by
  obtain ⟨hReaches, hRest, hStep, hLater⟩ := h.split
  have hEnd : (Cursor.ofLine line).Reaches s.cursor := by
    cases makes_iff.mp hStep
    exact hReaches.trans (g.reaches_step _ _)
  have hNext : ((later.flatMap (·.spans)).head?.map (·.start)).getD line.utf8ByteSize =
      s.cursor.offset := by
    cases hLater with
    | done hNil =>
      have hSize := Cursor.offset_add_size_eq hEnd
      rw [hNil, String.ofList_nil, String.utf8ByteSize_empty] at hSize
      exact hSize.symm
    | step hRest hStep hSteps =>
      rw [(Runs.step hRest hStep hSteps).head?_spans (List.cons_ne_nil _ _)]
      rfl
  have hIndex : (made.flatMap (·.spans)).length + 1 - (made.flatMap (·.spans)).length = 1 := by
    omega
  rw [Highlight.getElem?_extents, List.flatMap_append, List.flatMap_cons, hSpan,
    List.getElem?_append_right (Nat.le_refl _), List.getElem?_append_right (Nat.le_succ _), hIndex,
    Nat.sub_self]
  simpa [List.head?_eq_getElem?] using hNext

theorem Runs.begun_eq {steps : List Step} {k : Nat} (h : g.Runs stack c steps)
    (hk : (steps.flatMap (·.spans)).length ≤ k) : begun k steps = steps := by
  induction h generalizing k with
  | done => exact begun_nil k
  | @step stack c s steps hRest hStep hSteps ih =>
    have hSpans : s.spans.length ≠ 0 := by
      cases makes_iff.mp hStep
      obtain ⟨span, pending, hSpans⟩ := g.exists_spans_step stack hRest
      simp [hSpans]
    rw [List.flatMap_cons, List.length_append] at hk
    obtain ⟨k, rfl⟩ : ∃ k', k = k' + 1 := ⟨k - 1, by omega⟩
    rw [begun, ih (by omega)]

end Grammar

structure LineRun where
  line : String
  start : StateStack
  steps : List Step

namespace LineRun

def visited (r : LineRun) : List StateStack := r.start :: r.steps.map (·.stack)

def tokenized (r : LineRun) : TokenizedLine := .ofSteps r.start r.steps

theorem spans_tokenized {r : LineRun} (h : r.steps ≠ []) :
    r.tokenized.spans = r.steps.flatMap (·.spans) :=
  if_neg (mt List.isEmpty_iff.mp h)

def reader (g : Grammar) (r : LineRun) : TokenReader :=
  (TokenReader.ofLine g r.start r.line).after (r.tokenized.spans.length + 1)

def count (n : Counters) (r : LineRun) : Counters where
  lines := n.lines + 1
  spans := n.spans + r.tokenized.spans.length
  fallbacks := n.fallbacks + r.steps.countP (·.isFallback)
  maxDepth := max n.maxDepth (peakDepth r.start r.steps)

theorem peakDepth_le_iff {r : LineRun} {n : Nat} :
    peakDepth r.start r.steps ≤ n ↔ ∀ s ∈ r.visited, s.depth ≤ n := by
  simp [visited, Highlight.peakDepth_le_iff]

variable (n : Counters) (runs : List LineRun)

theorem foldl_count : runs.foldl count n = {
    lines := n.lines + runs.length
    spans := n.spans + (runs.map (·.tokenized.spans.length)).sum
    fallbacks := n.fallbacks + (runs.map (·.steps.countP (·.isFallback))).sum
    maxDepth := (runs.map fun r => peakDepth r.start r.steps).foldl max n.maxDepth } := by
  induction runs generalizing n with
  | nil => rfl
  | cons r runs ih =>
    rw [List.foldl_cons, ih]
    simp only [count, List.length_cons, List.map_cons, List.sum_cons, List.foldl_cons,
      Nat.add_assoc, Nat.add_comm 1]

theorem maxDepth_foldl_count_le_iff {b : Nat} : (runs.foldl count n).maxDepth ≤ b ↔
    n.maxDepth ≤ b ∧ ∀ r ∈ runs, ∀ s ∈ r.visited, s.depth ≤ b := by
  induction runs generalizing n with
  | nil => simp
  | cons r runs ih =>
    rw [List.foldl_cons, ih, List.forall_mem_cons, count, Nat.max_le, peakDepth_le_iff, and_assoc]

theorem exists_depth_eq (hRuns : runs ≠ []) :
    ∃ r ∈ runs, ∃ s ∈ r.visited, s.depth = (runs.foldl count {}).maxDepth := by
  have hLe := ((maxDepth_foldl_count_le_iff {} runs).mp (Nat.le_refl _)).2
  obtain ⟨r, hr⟩ := List.exists_mem_of_ne_nil runs hRuns
  have hStart := hLe r hr r.start List.mem_cons_self
  have hPos := r.start.one_le_depth
  by_contra hNone
  have hLess : (runs.foldl count {}).maxDepth ≤ (runs.foldl count {}).maxDepth - 1 := by
    refine (maxDepth_foldl_count_le_iff {} runs).mpr ⟨Nat.zero_le _, fun r hr s hs => ?_⟩
    have hNe : s.depth ≠ (runs.foldl count {}).maxDepth := fun hEq => hNone ⟨r, hr, s, hs, hEq⟩
    have hLe := hLe r hr s hs
    omega
  omega

theorem stackAfter_mem_visited (r : LineRun) : stackAfter r.start r.steps ∈ r.visited := by
  obtain hEnd | ⟨s, hs, hEnd⟩ := stackAfter_cases r.start r.steps <;> rw [hEnd]
  · exact List.mem_cons_self
  · exact List.mem_cons_of_mem _ (List.mem_map_of_mem hs)

end LineRun

namespace Grammar

inductive RunsLines (g : Grammar) : StateStack → List String → List LineRun → Prop
  | done {stack : StateStack} : RunsLines g stack [] []
  | line {stack : StateStack} {line : String} {lines : List String} {steps : List Step}
      {runs : List LineRun} (hLine : g.Runs stack (.ofLine line) steps)
      (hLines : g.RunsLines (stackAfter stack steps) lines runs) :
      RunsLines g stack (line :: lines) (⟨line, stack, steps⟩ :: runs)

def lineRuns (g : Grammar) (stack : StateStack) : List String → List LineRun
  | [] => []
  | line :: lines =>
    ⟨line, stack, g.steps stack line⟩ :: g.lineRuns (g.tokenizeLine stack line).stack lines

variable {g : Grammar} {stack : StateStack} {lines : List String} {runs : List LineRun}
  {r : LineRun}

theorem runs_ofLine_iff (h : g.accepts stack = true) {line : String} {steps : List Step} :
    g.Runs stack (.ofLine line) steps ↔ steps = g.steps stack line := by
  rw [runs_iff (Nat.le_refl _), Grammar.steps, enter_of_accepts h]

theorem tokenizeLine_of_accepts (h : g.accepts stack = true) (line : String) :
    g.tokenizeLine stack line = .ofSteps stack (g.steps stack line) := by
  rw [tokenizeLine, enter_of_accepts h]

theorem runsLines_iff (hg : g.WellFormed) (h : g.accepts stack = true) :
    g.RunsLines stack lines runs ↔ runs = g.lineRuns stack lines := by
  induction lines generalizing stack runs with
  | nil =>
    constructor
    · rintro ⟨⟩
      rfl
    · rintro rfl
      exact .done
  | cons line lines ih =>
    have hNext := hg.accepts_tokenizeLine stack line
    have hEnd : stackAfter stack (g.steps stack line) = (g.tokenizeLine stack line).stack := by
      rw [tokenizeLine_of_accepts h, TokenizedLine.ofSteps]
    constructor
    · rintro (_ | ⟨hLine, hLines⟩)
      cases (runs_ofLine_iff h).mp hLine
      rw [hEnd, ih hNext] at hLines
      rw [hLines, lineRuns]
    · rintro rfl
      refine .line ((runs_ofLine_iff h).mpr rfl) ?_
      rw [hEnd]
      exact (ih hNext).mpr rfl

namespace RunsLines

theorem map_line_eq (h : g.RunsLines stack lines runs) : runs.map (·.line) = lines := by
  induction h with
  | done => rfl
  | line _ _ ih => rw [List.map_cons, ih]

theorem of_mem (h : g.RunsLines stack lines runs) (hg : g.WellFormed) (hStack : g.Keeps stack) :
    ∀ r ∈ runs, g.Keeps r.start ∧ g.Runs r.start (.ofLine r.line) r.steps := by
  induction h with
  | done => exact fun _ hr => absurd hr List.not_mem_nil
  | @line stack line lines steps runs hLine hLines ih =>
    cases (runs_ofLine_iff hStack.accepted).mp hLine
    have hNext := hg.preserves_keeps.tokenizeLine hStack line
    rw [tokenizeLine_of_accepts hStack.accepted] at hNext
    exact List.forall_mem_cons.mpr ⟨⟨hStack, hLine⟩, ih hNext⟩

theorem runLines_eq (h : g.RunsLines stack lines runs) (hg : g.WellFormed)
    (hStack : g.accepts stack = true) (n : Counters) :
    g.runLines stack n lines = ⟨runs.map (·.tokenized), runs.foldl LineRun.count n⟩ := by
  induction h generalizing n with
  | done => rfl
  | @line stack line lines steps runs hLine hLines ih =>
    cases (runs_ofLine_iff hStack).mp hLine
    have hNext := hg.accepts_tokenizeLine stack line
    rw [tokenizeLine_of_accepts hStack, TokenizedLine.ofSteps] at hNext
    simp only [runLines, enter_of_accepts hStack, TokenizedLine.ofSteps, ih hNext]
    rfl

end RunsLines

theorem Runs.shows (h : g.Runs r.start (.ofLine r.line) r.steps)
    (hStack : g.accepts r.start = true) :
    (TokenReader.ofLine g r.start r.line).Shows r.start r.steps := by
  obtain ⟨line, start, steps⟩ := r
  by_cases hLine : line = ""
  · subst hLine
    cases h with
    | done => exact TokenReader.shows_empty_line hStack
    | step hRest => exact absurd rfl hRest
  · exact TokenReader.shows_of_runs hStack hLine h

theorem Runs.reader_eq (h : g.Runs r.start (.ofLine r.line) r.steps)
    (hStack : g.accepts r.start = true) :
    (r.reader g).fallbacks = r.steps.countP (·.isFallback) ∧
      (r.reader g).peakDepth = peakDepth r.start r.steps := by
  have hLength : (r.steps.flatMap (·.spans)).length ≤ r.tokenized.spans.length + 1 := by
    rw [LineRun.tokenized, TokenizedLine.ofSteps]
    split
    · simp_all
    · exact Nat.le_succ _
  have hShows := h.shows hStack
  constructor
  · rw [LineRun.reader, hShows.fallbacks_eq, h.begun_eq hLength]
  · rw [LineRun.reader, hShows.peakDepth_eq, h.begun_eq hLength]

/-- The step `s` of the line, behind the steps `made`, counts as one without a rule exactly if no
rule of the top state applies there. It then passes one character, and its one span covers it. -/
structure JudgesStep (g : Grammar) (r : LineRun) (made : List Step) (s : Step) : Prop where
  isFallback_iff : s.isFallback = true ↔
    g.Unmatched (stackAfter r.start made) (cursorAfter (.ofLine r.line) made)
  skips : s.isFallback = true → ∃ x,
    g.Skips (stackAfter r.start made) (cursorAfter (.ofLine r.line) made) x s ∧
      (extents r.line.utf8ByteSize r.tokenized.spans)[(made.flatMap (·.spans)).length]? =
        some ((cursorAfter (.ofLine r.line) made).offset,
          (cursorAfter (.ofLine r.line) made).offset + x.utf8Size)

theorem Runs.judgesStep {made later : List Step} {s : Step}
    (h : g.Runs r.start (.ofLine r.line) r.steps) (hSteps : r.steps = made ++ s :: later) :
    g.JudgesStep r made s := by
  have hSplit : g.Runs r.start (.ofLine r.line) (made ++ s :: later) := hSteps ▸ h
  obtain ⟨-, hRest, hStep, -⟩ := hSplit.split
  refine ⟨hStep.isFallback_iff, fun hFallback => ?_⟩
  obtain ⟨x, hSkips⟩ := hStep.exists_skips hRest hFallback
  have hSome : r.steps ≠ [] := by simp [hSteps]
  refine ⟨x, hSkips, ?_⟩
  rw [LineRun.spans_tokenized hSome, hSteps, hSplit.getElem?_extents hSkips.spans_eq,
    hSkips.offset_eq]

theorem Runs.length_le (h : g.Runs r.start (.ofLine r.line) r.steps)
    (hStack : g.accepts r.start = true) : r.steps.length ≤ r.line.length := by
  rw [(runs_ofLine_iff hStack).mp h, Grammar.steps, enter_of_accepts hStack,
    ← String.length_toList]
  exact g.length_stepsFrom_le _ _ _

/-- The counters of a run over some lines measure the runs of these lines. -/
structure Measures (g : Grammar) (lines : List String) (runs : List LineRun) (run : Run) :
    Prop where
  tokenized_eq : run.lines = runs.map (·.tokenized)
  lines_eq : run.counters.lines = lines.length
  spans_eq : run.counters.spans = (run.lines.map (·.spans.length)).sum
  fallbacks_eq : run.counters.fallbacks = (runs.flatMap (·.steps)).countP (·.isFallback)
  judges : ∀ r ∈ runs, ∀ made s later, r.steps = made ++ s :: later → g.JudgesStep r made s
  fallbacks_le : run.counters.fallbacks ≤ (lines.map (·.length)).sum
  depth_le : ∀ r ∈ runs, ∀ s ∈ r.visited, s.depth ≤ run.counters.maxDepth
  exists_depth_eq : lines ≠ [] → ∃ r ∈ runs, ∃ s ∈ r.visited, s.depth = run.counters.maxDepth
  maxDepth_eq_zero_iff : run.counters.maxDepth = 0 ↔ lines = []
  end_le : ∀ t ∈ run.lines, t.stack.depth ≤ run.counters.maxDepth
  maxDepth_le : run.counters.maxDepth ≤ g.depthLimit
  fallbacks_read : run.counters.fallbacks = (runs.map fun r => (r.reader g).fallbacks).sum
  maxDepth_read :
    run.counters.maxDepth = (runs.map fun r => (r.reader g).peakDepth).foldl max 0

theorem WellFormed.measures (hg : g.WellFormed) (hStack : g.Keeps stack)
    (h : g.RunsLines stack lines runs) : g.Measures lines runs (g.runLines stack {} lines) := by
  have hMem := h.of_mem hg hStack
  have hLines := h.map_line_eq
  have hDepth := ((LineRun.maxDepth_foldl_count_le_iff {} runs).mp (Nat.le_refl _)).2
  have hNil : lines = [] ↔ runs = [] := by rw [← hLines, List.map_eq_nil_iff]
  have hCount := LineRun.foldl_count {} runs
  simp only [Nat.zero_add] at hCount
  rw [h.runLines_eq hg hStack.accepted]
  refine {
    tokenized_eq := rfl
    lines_eq := ?_
    spans_eq := ?_
    fallbacks_eq := ?_
    judges := fun r hr made s later hSteps => (hMem r hr).2.judgesStep hSteps
    fallbacks_le := ?_
    depth_le := hDepth
    exists_depth_eq := fun hNe => LineRun.exists_depth_eq runs (mt hNil.mpr hNe)
    maxDepth_eq_zero_iff := ?_
    end_le := ?_
    maxDepth_le := ?_
    fallbacks_read := ?_
    maxDepth_read := ?_ }
  · rw [hCount, ← hLines, List.length_map]
  · rw [hCount, List.map_map]
    rfl
  · rw [hCount, List.countP_flatMap]
    rfl
  · rw [hCount, ← hLines, List.map_map]
    refine List.sum_le_sum fun r hr => ?_
    obtain ⟨hKeeps, hRuns⟩ := hMem r hr
    exact Nat.le_trans List.countP_le_length (hRuns.length_le hKeeps.accepted)
  · constructor
    · intro hZero
      by_contra hNe
      obtain ⟨r, -, s, -, hEq⟩ := LineRun.exists_depth_eq runs (mt hNil.mpr hNe)
      have hPos := s.one_le_depth
      dsimp only at hZero
      omega
    · intro hEmpty
      rw [hNil.mp hEmpty]
      rfl
  · intro t ht
    obtain ⟨r, hr, rfl⟩ := List.mem_map.mp ht
    exact hDepth r hr _ r.stackAfter_mem_visited
  · refine (LineRun.maxDepth_foldl_count_le_iff {} runs).mpr ⟨Nat.zero_le _, fun r hr => ?_⟩
    obtain ⟨hKeeps, hRuns⟩ := hMem r hr
    refine List.forall_mem_cons.mpr ⟨hKeeps.depth_le, ?_⟩
    rw [(runs_ofLine_iff hKeeps.accepted).mp hRuns]
    intro s hs
    obtain ⟨t, ht, rfl⟩ := List.mem_map.mp hs
    obtain ⟨stack', c, hKeeps', -, rfl⟩ := hg.preserves_keeps.exists_of_mem_steps hKeeps ht
    exact (hg.preserves_keeps.step stack' c hKeeps').depth_le
  · rw [hCount]
    refine congrArg List.sum (List.map_congr_left fun r hr => ?_)
    obtain ⟨hKeeps, hRuns⟩ := hMem r hr
    exact (hRuns.reader_eq hKeeps.accepted).1.symm
  · rw [hCount]
    refine congrArg (List.foldl max 0) (List.map_congr_left fun r hr => ?_)
    obtain ⟨hKeeps, hRuns⟩ := hMem r hr
    exact (hRuns.reader_eq hKeeps.accepted).2.symm

/-- The lines of a text have exactly one run from the root, and the counters measure it. -/
theorem counters_measure_run {d : Declaration} {limit : Nat} {engine : Engine}
    (h : build d limit engine = .ok g)
    (text : String) :
    ∃ runs, (∀ other, g.RunsLines g.initial (Text.lines text) other ↔ other = runs) ∧
      g.Measures (Text.lines text) runs (g.run text) ∧ g.depthLimit = max limit 1 := by
  have hg := wellFormed_of_build h
  have hRuns (other : List LineRun) : g.RunsLines g.initial (Text.lines text) other ↔
      other = g.lineRuns g.initial (Text.lines text) :=
    runsLines_iff hg hg.accepts_initial
  refine ⟨g.lineRuns g.initial (Text.lines text), hRuns, ?_, ?_⟩
  · exact hg.measures hg.keeps_initial ((hRuns _).mpr rfl)
  · obtain ⟨-, -, _, _, _, -, -, -, rfl⟩ := build_eq_ok_iff.mp h
    rfl

theorem bracket_counters_measure_run :
    let d : Declaration := {
      name := "brackets", root := "outside", defaultTag := "other"
      states := [
        ⟨"outside", [.rule ⟨"\\(", .emit "open", .push "inside"⟩]⟩,
        ⟨"inside", [.rule ⟨"\\)", .emit "close", .pop⟩, .rule ⟨"a", .emit "letter", .stay⟩]⟩] }
    ∃ g runs, build d 2 = .ok g ∧ g.RunsLines g.initial (Text.lines "(aé)\n\né") runs ∧
      g.Measures (Text.lines "(aé)\n\né") runs (g.run "(aé)\n\né") ∧
      (g.run "(aé)\n\né").counters = ⟨3, 6, 2, 2⟩ := by
  intro d
  have hRun : (build d 2).map (fun g => (g.run "(aé)\n\né").counters) = .ok ⟨3, 6, 2, 2⟩ := by
    decide +kernel
  obtain ⟨g, hBuild, hCounters⟩ := except_map_eq_ok_iff.mp hRun
  obtain ⟨runs, hUnique, hMeasures, -⟩ := counters_measure_run hBuild "(aé)\n\né"
  exact ⟨g, runs, hBuild, (hUnique runs).mpr rfl, hMeasures, hCounters⟩

end Grammar

end Highlight
