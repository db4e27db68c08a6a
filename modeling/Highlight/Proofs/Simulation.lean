import Highlight.Document
import Highlight.Proofs.StackSafety

/-! # Grammars that make the same steps

States and rules are known by their positions, so grammars that differ only in these tokenize alike.
A grammar mirrors another one when each step of that one is matched by a step of its own, which
gives the same spans and leaves the same stack with states at their new positions. Then whole lines
and texts are matched too. It is enough to look at steps of some kind if the run makes no others.
-/

namespace Highlight

open Text

namespace StateStack

def map (f : StateId → StateId) (s : StateStack) : StateStack := ⟨f s.bottom, s.above.map f⟩

variable (f : StateId → StateId) (s : StateStack)

@[simp] theorem map_id : s.map id = s := by
  simp [map]

@[simp] theorem ids_map : (s.map f).ids = s.ids.map f := by
  simp [map, ids]

@[simp] theorem depth_map : (s.map f).depth = s.depth := by
  simp [map, depth]

@[simp] theorem top_map : (s.map f).top = f s.top := by
  cases h : s.above <;> simp [map, top, h]

end StateStack

namespace Effect

def map (f : StateId → StateId) : Effect → Effect
  | .stay => .stay
  | .push id => .push (f id)
  | .pop => .pop
  | .switch id => .switch (f id)
  | .popAll => .popAll

@[simp] theorem map_id (e : Effect) : e.map id = e := by
  cases e <;> rfl

end Effect

namespace StateStack

variable (f : StateId → StateId) (s : StateStack) (limit : Nat) (e : Effect)

theorem refuses_map : (s.map f).refuses limit (e.map f) = s.refuses limit e := by
  cases e <;> simp [Effect.map, refuses]

theorem apply_map : (s.map f).apply limit (e.map f) = (s.apply limit e).map f := by
  cases e with
  | stay | popAll => rfl
  | push id =>
    simp only [Effect.map, apply, depth_map]
    split
    · rfl
    · rfl
  | pop => simp [Effect.map, apply, pop, map]
  | switch id => cases h : s.above <;> simp [Effect.map, apply, switch, map, h]

end StateStack

/-- The second step does the same as the first, where rules may have other positions and `f` gives
the positions of states. -/
structure Step.Matches (f : StateId → StateId) (s s' : Step) : Prop where
  state_eq : s'.state = f s.state
  start_eq : s'.start = s.start
  length_eq : s'.matched.map (·.2) = s.matched.map (·.2)
  spans_eq : s'.spans = s.spans
  cursor_eq : s'.cursor = s.cursor
  stack_eq : s'.stack = s.stack.map f
  refused_eq : s'.refused = s.refused

theorem Step.Matches.isFallback_eq {f : StateId → StateId} {s s' : Step} (h : s.Matches f s') :
    s'.isFallback = s.isFallback := by
  have hLength := congrArg Option.isNone h.length_eq
  simpa [Step.isFallback] using hLength

def TokenizedLine.mapStack (f : StateId → StateId) (t : TokenizedLine) : TokenizedLine :=
  ⟨t.spans, t.stack.map f⟩

def Run.mapStacks (f : StateId → StateId) (r : Run) : Run :=
  ⟨r.lines.map (·.mapStack f), r.counters⟩

@[simp] theorem TokenizedLine.mapStack_id (t : TokenizedLine) : t.mapStack id = t := by
  simp [mapStack]

@[simp] theorem Run.mapStacks_id (r : Run) : r.mapStacks id = r := by
  simp [mapStacks]

section Steps

variable {f : StateId → StateId} {ss ss' : List Step}

theorem map_eq_of_forall₂ {α β γ : Type} {R : α → β → Prop} {F : α → γ} {G : β → γ} {xs : List α}
    {ys : List β} (h : List.Forall₂ R xs ys) (hEq : ∀ x y, R x y → G y = F x) :
    ys.map G = xs.map F := by
  induction h with
  | nil => rfl
  | cons hxy _ ih => rw [List.map_cons, List.map_cons, hEq _ _ hxy, ih]

theorem stackAfter_of_matches (h : List.Forall₂ (Step.Matches f) ss ss') (start : StateStack) :
    stackAfter (start.map f) ss' = (stackAfter start ss).map f := by
  induction h generalizing start with
  | nil => rfl
  | cons hStep _ ih => rw [stackAfter_cons, stackAfter_cons, hStep.stack_eq, ih]

theorem ofSteps_of_matches (h : List.Forall₂ (Step.Matches f) ss ss') (start : StateStack) :
    TokenizedLine.ofSteps (start.map f) ss' = (TokenizedLine.ofSteps start ss).mapStack f := by
  have hSpans : ss'.map (·.spans) = ss.map (·.spans) :=
    map_eq_of_forall₂ h fun _ _ hStep => hStep.spans_eq
  have hEmpty : ss'.isEmpty = ss.isEmpty := by
    simpa using congrArg List.isEmpty hSpans
  rw [TokenizedLine.ofSteps, stackAfter_of_matches h, hEmpty, List.flatMap_def, hSpans,
    ← List.flatMap_def]
  rfl

theorem countP_of_matches (h : List.Forall₂ (Step.Matches f) ss ss') :
    ss'.countP (·.isFallback) = ss.countP (·.isFallback) := by
  have hCount := map_eq_of_forall₂ h fun _ _ hStep => hStep.isFallback_eq
  have hTrue := congrArg (List.countP id) hCount
  rwa [List.countP_map, List.countP_map] at hTrue

theorem peakDepth_of_matches (h : List.Forall₂ (Step.Matches f) ss ss') (start : StateStack) :
    peakDepth (start.map f) ss' = peakDepth start ss := by
  have hDepths : ss'.map (·.stack.depth) = ss.map (·.stack.depth) :=
    map_eq_of_forall₂ h fun _ _ hStep => by rw [hStep.stack_eq, StateStack.depth_map]
  have hFolds := congrArg (List.foldl max start.depth) hDepths
  rw [List.foldl_map, List.foldl_map] at hFolds
  rw [peakDepth, StateStack.depth_map]
  exact hFolds

end Steps

namespace Grammar

variable {g g' : Grammar} {f : StateId → StateId} {Good : Step → Prop} {stack : StateStack}
  {c : Cursor} {line : String} {lines : List String}

/-- The steps of `g` that are of the kind `Good` are matched by steps of `g'`. -/
structure Mirrors (g g' : Grammar) (f : StateId → StateId) (Good : Step → Prop) : Prop where
  wellFormed : g.WellFormed
  initial_eq : g'.initial = g.initial.map f
  accepts : ∀ stack, g.accepts stack = true → g'.accepts (stack.map f) = true
  step : ∀ stack c, g.accepts stack = true → Good (g.step stack c) →
    (g.step stack c).Matches f (g'.step (stack.map f) c)

namespace Mirrors

theorem matches_stepsFrom (h : g.Mirrors g' f Good) {bound : Nat} (hStack : g.accepts stack = true)
    (hGood : ∀ s ∈ g.stepsFrom bound stack c, Good s) :
    List.Forall₂ (Step.Matches f) (g.stepsFrom bound stack c)
      (g'.stepsFrom bound (stack.map f) c) := by
  induction bound generalizing stack c with
  | zero => exact .nil
  | succ bound ih =>
    by_cases hRest : c.rest = []
    · rw [stepsFrom_of_rest_eq_nil _ hRest, stepsFrom_of_rest_eq_nil _ hRest]
      exact .nil
    · rw [stepsFrom_succ bound hRest] at hGood ⊢
      obtain ⟨hFirst, hLater⟩ := List.forall_mem_cons.mp hGood
      have hStep := h.step stack c hStack hFirst
      rw [stepsFrom_succ bound hRest, hStep.stack_eq, hStep.cursor_eq]
      exact .cons hStep (ih (h.wellFormed.accepts_step hStack c) hLater)

theorem enter_map (h : g.Mirrors g' f Good) (hStack : g.accepts stack = true) :
    g'.enter (stack.map f) = (g.enter stack).map f := by
  rw [enter_of_accepts (h.accepts stack hStack), enter_of_accepts hStack]

theorem matches_steps (h : g.Mirrors g' f Good) (hStack : g.accepts stack = true)
    (hGood : ∀ s ∈ g.steps stack line, Good s) :
    List.Forall₂ (Step.Matches f) (g.steps stack line) (g'.steps (stack.map f) line) := by
  rw [steps, enter_of_accepts hStack] at hGood ⊢
  rw [steps, enter_of_accepts (h.accepts stack hStack)]
  exact h.matches_stepsFrom hStack hGood

theorem runLines_map (h : g.Mirrors g' f Good) (hStack : g.accepts stack = true)
    (hGood : ∀ steps ∈ g.traceLines stack lines, ∀ s ∈ steps, Good s) (n : Counters) :
    g'.runLines (stack.map f) n lines = (g.runLines stack n lines).mapStacks f := by
  induction lines generalizing stack n with
  | nil => rfl
  | cons line lines ih =>
    obtain ⟨hLine, hLater⟩ := List.forall_mem_cons.mp hGood
    have hSteps := h.matches_steps hStack hLine
    have hEnd := h.wellFormed.accepts_tokenizeLine stack line
    have hNext := ofSteps_of_matches hSteps (g.enter stack)
    simp only [runLines, h.enter_map hStack, hNext, countP_of_matches hSteps,
      peakDepth_of_matches hSteps]
    exact congrArg (fun r : Run => Run.mk (_ :: r.lines) r.counters) (ih hEnd hLater _)

theorem run_map (h : g.Mirrors g' f Good) {text : String}
    (hGood : ∀ steps ∈ g.traceLines g.initial (Text.lines text), ∀ s ∈ steps, Good s) :
    g'.run text = (g.run text).mapStacks f := by
  rw [run, h.initial_eq]
  exact h.runLines_map h.wellFormed.accepts_initial hGood {}

end Mirrors

end Grammar

namespace Rule

def mapTargets (f : StateId → StateId) (rule : Rule) : Rule := { rule with effect := rule.effect.map f }

@[simp] theorem effect_mapTargets (f : StateId → StateId) (rule : Rule) :
    (rule.mapTargets f).effect = rule.effect.map f := rfl

@[simp] theorem mapTargets_id (rule : Rule) : rule.mapTargets id = rule := by
  simp [mapTargets]

def tryAt (rule : Rule) (c : Cursor) : Option (Rule × Match) :=
  if rule.lineStart && c.offset != 0 then none else (rule.pattern.match? c).map (rule, ·)

theorem tryAt_mapTargets (f : StateId → StateId) (rule : Rule) (c : Cursor) :
    (rule.mapTargets f).tryAt c = (rule.tryAt c).map fun x => (x.1.mapTargets f, x.2) := by
  by_cases hPlace : (rule.lineStart && c.offset != 0) = true
  · simp [tryAt, mapTargets, hPlace]
  · simp [tryAt, mapTargets, hPlace, Function.comp_def]

end Rule

namespace Grammar

variable {g g' : Grammar} {f : StateId → StateId} {id : StateId} {stack : StateStack} {c : Cursor}

def rulesOf (g : Grammar) (id : StateId) : List Rule := (g.rulesAt id).map (·.2)

theorem map_firstMatch? (g : Grammar) (id : StateId) (c : Cursor) :
    (g.firstMatch? id c).map (·.2) = (g.rulesOf id).findSome? (·.tryAt c) := by
  rw [rulesOf, List.findSome?_map, firstMatch?, List.map_findSome?]
  congr 1
  funext ⟨id, rule⟩
  simp only [Function.comp_apply, Rule.tryAt]
  split
  · rfl
  · cases rule.pattern.match? c <;> rfl

theorem spansOf_congr (hDefault : g'.defaultTag = g.defaultTag)
    (hCase : g'.ignoreCase = g.ignoreCase) (hBrackets : g'.brackets = g.brackets)
    (rule : Rule) (c : Cursor) (m : Match) : g'.spansOf rule c m = g.spansOf rule c m := by
  have hBracket : g'.bracketOf? = g.bracketOf? := by
    funext text
    rw [bracketOf?, bracketOf?, hBrackets]
  have hClassify : g'.classify = g.classify := by
    funext o text
    simp only [classify, hBracket, hCase, hDefault]
  simp only [spansOf, capturedSpans, wholeSpan, hClassify]

@[simp] theorem spansOf_mapTargets (g : Grammar) (rule : Rule) (c : Cursor) (m : Match) :
    g.spansOf (rule.mapTargets f) c m = g.spansOf rule c m := rfl

theorem matches_step_of_firstMatch? {rule : Rule} {m : Match}
    (hFound : (g.firstMatch? stack.top c).map (·.2) = some (rule, m))
    (hFound' : (g'.firstMatch? (f stack.top) c).map (·.2) = some (rule.mapTargets f, m))
    (hLimit : g'.depthLimit = g.depthLimit)
    (hSpans : g'.spansOf rule c m = g.spansOf rule c m) :
    (g.step stack c).Matches f (g'.step (stack.map f) c) := by
  obtain ⟨⟨i, _, _⟩, hFirst, hEq⟩ := Option.map_eq_some_iff.mp hFound
  obtain ⟨⟨i', _, _⟩, hFirst', hEq'⟩ := Option.map_eq_some_iff.mp hFound'
  cases hEq
  cases hEq'
  rw [← StateStack.top_map f stack] at hFirst'
  simp only [step, hFirst, hFirst']
  constructor <;> simp [hLimit, hSpans, StateStack.apply_map, StateStack.refuses_map]

/-- All states of `g` are states of `g'`, at the positions given by `f` and with the same rules. -/
structure Relocates (f : StateId → StateId) (g g' : Grammar) : Prop where
  defaultTag_eq : g'.defaultTag = g.defaultTag
  ignoreCase_eq : g'.ignoreCase = g.ignoreCase
  brackets_eq : g'.brackets = g.brackets
  depthLimit_eq : g'.depthLimit = g.depthLimit
  root_eq : g'.root = f g.root
  state_lt : ∀ id < g.states.length, f id < g'.states.length
  rules_eq : ∀ id < g.states.length, g'.rulesOf (f id) = (g.rulesOf id).map (·.mapTargets f)

namespace Relocates

theorem accepts_map (h : Relocates f g g') (hStack : g.accepts stack = true) :
    g'.accepts (stack.map f) = true := by
  rw [accepts_iff] at hStack ⊢
  rw [StateStack.ids_map]
  intro id hid
  obtain ⟨i, hi, rfl⟩ := List.mem_map.mp hid
  exact h.state_lt i (hStack i hi)

theorem map_firstMatch?_eq (h : Relocates f g g') (hid : id < g.states.length) :
    (g'.firstMatch? (f id) c).map (·.2) =
      (g.firstMatch? id c).map fun x => (x.2.1.mapTargets f, x.2.2) := by
  have hTry : (Rule.tryAt · c) ∘ Rule.mapTargets f =
      Option.map (fun x => (Rule.mapTargets f x.1, x.2)) ∘ (Rule.tryAt · c) :=
    funext fun rule => rule.tryAt_mapTargets f c
  rw [map_firstMatch?, h.rules_eq id hid, List.findSome?_map, hTry, ← List.map_findSome?,
    ← map_firstMatch?, Option.map_map]
  rfl

theorem matches_step (h : Relocates f g g') (hStack : g.accepts stack = true) (c : Cursor) :
    (g.step stack c).Matches f (g'.step (stack.map f) c) := by
  have hFound := h.map_firstMatch?_eq (c := c) (top_lt hStack)
  cases hFirst : g.firstMatch? stack.top c with
  | none =>
    rw [hFirst, ← StateStack.top_map f stack] at hFound
    have hFirst' := Option.map_eq_none_iff.mp hFound
    simp only [step, hFirst, hFirst', h.defaultTag_eq]
    constructor <;> simp
  | some found =>
    rw [hFirst] at hFound
    exact matches_step_of_firstMatch? (by rw [hFirst]; rfl) hFound h.depthLimit_eq
      (spansOf_congr h.defaultTag_eq h.ignoreCase_eq h.brackets_eq _ c _)

theorem mirrors (h : Relocates f g g') (hg : g.WellFormed) : g.Mirrors g' f fun _ => True where
  wellFormed := hg
  initial_eq := by
    rw [initial, initial, h.root_eq]
    rfl
  accepts _ hStack := h.accepts_map hStack
  step _ c hStack _ := h.matches_step hStack c

end Relocates

end Grammar

end Highlight
