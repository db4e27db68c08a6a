import Highlight.Document
import Highlight.Fsd
import Highlight.Proofs.Steps
import Highlight.Proofs.WellFormed

/-! # Stacks stay in bounds

In a grammar that was built, a line that starts with a stack of states of the grammar goes on with
such stacks, and no stack gets deeper than the first one or the limit, whichever is more. So the top
state and its rules are always found, and cursors and matches stay in the line.
-/

namespace Highlight

open Text

namespace StateStack

variable {s : StateStack} {n limit : Nat} {e : Effect}

theorem one_le_depth (s : StateStack) : 1 ≤ s.depth := Nat.le_add_left 1 _

theorem depth_apply_le (s : StateStack) (limit : Nat) (e : Effect) :
    (s.apply limit e).depth ≤ max s.depth limit := by
  cases e with
  | stay => exact Nat.le_max_left _ _
  | push id =>
    rw [apply]
    split
    · exact Nat.le_max_left _ _
    · rename_i hRoom
      change s.depth + 1 ≤ _
      omega
  | pop =>
    refine Nat.le_trans ?_ (Nat.le_max_left _ _)
    simp only [apply, pop, depth, List.length_tail]
    omega
  | switch id =>
    refine Nat.le_trans ?_ (Nat.le_max_left _ _)
    obtain ⟨bottom, above⟩ := s
    cases above <;> exact Nat.le_refl _
  | popAll =>
    refine Nat.le_trans ?_ (Nat.le_max_left _ _)
    exact one_le_depth s

theorem mem_ids_apply {id : StateId} (h : id ∈ (s.apply limit e).ids) :
    id ∈ s.ids ∨ e = .push id ∨ e = .switch id := by
  cases e with
  | stay => exact .inl h
  | push target =>
    rw [apply] at h
    split at h
    · exact .inl h
    · rw [ids_push] at h
      rcases List.mem_append.mp h with h | h
      · exact .inl h
      · exact .inr (.inl (by rw [List.mem_singleton.mp h]))
  | pop =>
    rw [apply, ids_pop] at h
    refine .inl ?_
    rcases List.mem_cons.mp h with rfl | h
    · exact List.mem_cons_self
    · exact List.mem_of_mem_tail ((List.dropLast_sublist _).subset h)
  | switch target =>
    rw [apply, ids_switch] at h
    rcases List.mem_append.mp h with h | h
    · exact .inl ((List.dropLast_sublist _).subset h)
    · exact .inr (.inr (by rw [List.mem_singleton.mp h]))
  | popAll =>
    rw [apply, ids_popAll] at h
    exact .inl (by rw [List.mem_singleton.mp h]; exact List.mem_cons_self)

theorem top_mem_ids (s : StateStack) : s.top ∈ s.ids :=
  List.mem_of_getLast? s.getLast?_ids

end StateStack

namespace Grammar

variable {g : Grammar} {stack : StateStack} {c : Cursor} {line : String}

theorem accepts_iff : g.accepts stack = true ↔ ∀ id ∈ stack.ids, id < g.states.length := by
  simp [accepts]

theorem map_stateName?_of_accepts (h : g.accepts stack = true) :
    stack.ids.map g.stateName? = (g.stackNames stack).map some := by
  have hNames := accepts_iff.mp h
  rw [stackNames]
  generalize stack.ids = ids at hNames ⊢
  induction ids with
  | nil => rfl
  | cons id ids ih =>
    obtain ⟨hLt, hNames⟩ := List.forall_mem_cons.mp hNames
    have hName : g.stateName? id = some g.states[id].name := by
      rw [stateName?, List.getElem?_eq_getElem hLt]
      rfl
    rw [List.map_cons, List.filterMap_cons_some hName, List.map_cons, hName, ih hNames]

theorem top_lt (h : g.accepts stack = true) : stack.top < g.states.length :=
  accepts_iff.mp h _ stack.top_mem_ids

theorem WellFormed.accepts_initial (h : g.WellFormed) : g.accepts g.initial = true := by
  rw [accepts_iff]
  intro id hid
  rw [List.mem_singleton.mp hid]
  exact h.root_lt

theorem WellFormed.accepts_enter (h : g.WellFormed) (stack : StateStack) :
    g.accepts (g.enter stack) = true := by
  unfold enter
  split
  · assumption
  · exact h.accepts_initial

theorem accepts_apply {limit : Nat} {e : Effect} (h : g.accepts stack = true)
    (he : e.Within g.states.length) : g.accepts (stack.apply limit e) = true := by
  rw [accepts_iff] at h ⊢
  intro id hid
  rcases StateStack.mem_ids_apply hid with hid | rfl | rfl
  · exact h id hid
  · exact he
  · exact he

theorem WellFormed.accepts_step (h : g.WellFormed) (hStack : g.accepts stack = true) (c : Cursor) :
    g.accepts (g.step stack c).stack = true := by
  obtain ⟨_, rule, _, hMem, _, _, hStep⟩ | ⟨_, hStep⟩ := g.step_cases stack c <;> rw [hStep]
  · have hRule := List.mem_of_getElem? (getElem?_of_mem_rulesAt hMem)
    exact accepts_apply hStack (h.target_within rule hRule)
  · exact hStack

theorem depth_step_le (g : Grammar) (stack : StateStack) (c : Cursor) :
    (g.step stack c).stack.depth ≤ max stack.depth g.depthLimit := by
  obtain ⟨_, rule, _, _, _, _, hStep⟩ | ⟨_, hStep⟩ := g.step_cases stack c <;> rw [hStep]
  · exact stack.depth_apply_le g.depthLimit rule.effect
  · exact Nat.le_max_left _ _

end Grammar

structure InBounds (g : Grammar) (line : String) (most : Nat) (stack : StateStack) (c : Cursor) :
    Prop where
  accepted : g.accepts stack = true
  depth_le : stack.depth ≤ most
  limit_le : g.depthLimit ≤ most
  place : (Cursor.ofLine line).Reaches c

structure Step.Safe (g : Grammar) (line : String) (most : Nat) (s : Step) : Prop where
  state_lt : s.state < g.states.length
  rule_lt : ∀ state, g.states[s.state]? = some state → ∀ r ∈ state.rules, r < g.rules.length
  rules_found : ∀ state, g.states[s.state]? = some state →
    (g.rulesAt s.state).map (·.1) = state.rules
  start_valid : String.Pos.Raw.IsValid line ⟨s.start⟩
  start_lt : s.start < line.utf8ByteSize
  match_valid : ∀ id length, s.matched = some (id, length) →
    id < g.rules.length ∧ String.Pos.Raw.IsValid line ⟨s.start + length⟩
  cursor_valid : String.Pos.Raw.IsValid line ⟨s.cursor.offset⟩
  accepted : g.accepts s.stack = true
  one_le_depth : 1 ≤ s.stack.depth
  depth_le : s.stack.depth ≤ most

namespace InBounds

variable {g : Grammar} {line : String} {most : Nat} {stack : StateStack} {c : Cursor}

theorem step (h : InBounds g line most stack c) (hg : g.WellFormed) :
    InBounds g line most (g.step stack c).stack (g.step stack c).cursor where
  accepted := hg.accepts_step h.accepted c
  depth_le := Nat.le_trans (g.depth_step_le stack c) (Nat.max_le.mpr ⟨h.depth_le, h.limit_le⟩)
  limit_le := h.limit_le
  place := h.place.trans (g.reaches_step stack c)

theorem match_valid (h : InBounds g line most stack c) {id : RuleId} {length : Nat}
    (hMatched : (g.step stack c).matched = some (id, length)) :
    id < g.rules.length ∧ String.Pos.Raw.IsValid line ⟨c.offset + length⟩ := by
  obtain ⟨_, rule, m, hMem, _, hMatch, hStep⟩ | ⟨_, hStep⟩ := g.step_cases stack c
  · rw [hStep] at hMatched
    cases hMatched
    have hStop := Pattern.reaches_of_match? hMatch
    rw [Nat.add_sub_cancel' hStop.offset_le]
    exact ⟨Grammar.lt_of_mem_rulesAt hMem, Cursor.isValid_offset (h.place.trans hStop)⟩
  · rw [hStep] at hMatched
    cases hMatched

theorem safe_step (h : InBounds g line most stack c) (hg : g.WellFormed) (hRest : c.rest ≠ []) :
    (g.step stack c).Safe g line most where
  state_lt := by
    rw [Grammar.state_step]
    exact Grammar.top_lt h.accepted
  rule_lt state hState := hg.rule_lt state (List.mem_of_getElem? hState)
  rules_found _ hState := hg.map_rulesAt hState
  start_valid := by
    rw [Grammar.start_step]
    exact Cursor.isValid_offset h.place
  start_lt := by
    rw [Grammar.start_step]
    exact Cursor.offset_lt_size h.place hRest
  match_valid id length hMatched := by
    rw [Grammar.start_step]
    exact h.match_valid hMatched
  cursor_valid := Cursor.isValid_offset (h.step hg).place
  accepted := (h.step hg).accepted
  one_le_depth := StateStack.one_le_depth _
  depth_le := (h.step hg).depth_le

end InBounds

theorem peakDepth_le_iff {start : StateStack} {steps : List Step} {n : Nat} :
    peakDepth start steps ≤ n ↔ start.depth ≤ n ∧ ∀ s ∈ steps, s.stack.depth ≤ n := by
  unfold peakDepth
  generalize start.depth = m
  induction steps generalizing m with
  | nil => simp
  | cons s steps ih =>
    rw [List.foldl_cons, ih, Nat.max_le, List.forall_mem_cons, and_assoc]

namespace Grammar.WellFormed

variable {g : Grammar} {stack : StateStack} {line : String}

theorem inBounds_enter (h : g.WellFormed) (stack : StateStack) (line : String) :
    InBounds g line (max (g.enter stack).depth g.depthLimit) (g.enter stack) (.ofLine line) where
  accepted := h.accepts_enter stack
  depth_le := Nat.le_max_left _ _
  limit_le := Nat.le_max_right _ _
  place := .refl _

theorem safe_of_mem_steps (h : g.WellFormed) {s : Step} (hs : s ∈ g.steps stack line) :
    s.Safe g line (max (g.enter stack).depth g.depthLimit) := by
  obtain ⟨stack', c, hBounds, hRest, rfl⟩ := exists_of_mem_stepsFrom
    (fun _ _ hBounds _ => hBounds.step h) (h.inBounds_enter stack line) hs
  exact hBounds.safe_step h hRest

theorem accepts_tokenizeLine (h : g.WellFormed) (stack : StateStack) (line : String) :
    g.accepts (g.tokenizeLine stack line).stack = true := by
  change g.accepts (stackAfter (g.enter stack) (g.steps stack line)) = true
  obtain hStart | ⟨s, hs, hEnd⟩ := stackAfter_cases (g.enter stack) (g.steps stack line)
  · rw [hStart]
    exact h.accepts_enter stack
  · rw [hEnd]
    exact (h.safe_of_mem_steps hs).accepted

theorem peakDepth_le (h : g.WellFormed) (stack : StateStack) (line : String) :
    peakDepth (g.enter stack) (g.steps stack line) ≤ max (g.enter stack).depth g.depthLimit :=
  peakDepth_le_iff.mpr ⟨Nat.le_max_left _ _, fun _ hs => (h.safe_of_mem_steps hs).depth_le⟩

end Grammar.WellFormed

theorem Grammar.depth_tokenizeLine_le_peakDepth (g : Grammar) (stack : StateStack) (line : String) :
    (g.tokenizeLine stack line).stack.depth ≤ peakDepth (g.enter stack) (g.steps stack line) := by
  obtain ⟨hStart, hSteps⟩ := peakDepth_le_iff.mp
    (Nat.le_refl (peakDepth (g.enter stack) (g.steps stack line)))
  change (stackAfter (g.enter stack) (g.steps stack line)).depth ≤ _
  obtain hEq | ⟨s, hs, hEq⟩ := stackAfter_cases (g.enter stack) (g.steps stack line)
  · rw [hEq]
    exact hStart
  · rw [hEq]
    exact hSteps s hs

structure TokenReader.Safe (g : Grammar) (line : String) (start most : Nat) (r : TokenReader) :
    Prop where
  grammar_eq : r.grammar = g
  bounds : InBounds g line most r.stack r.cursor
  start_le_peak : start ≤ r.peakDepth
  depth_le_peak : r.stack.depth ≤ r.peakDepth
  peak_le : r.peakDepth ≤ most

namespace TokenReader.Safe

variable {g : Grammar} {line : String} {start most : Nat} {r r' : TokenReader} {span : Span}

theorem advance (h : r.Safe g line start most) (hg : g.WellFormed) :
    r.advance.Safe g line start most := by
  obtain ⟨rfl, hBounds, hStart, hDepth, hPeak⟩ := h
  have hStep := hBounds.step hg
  exact ⟨rfl, hStep, Nat.le_trans hStart (Nat.le_max_left _ _), Nat.le_max_right _ _,
    Nat.max_le.mpr ⟨hPeak, hStep.depth_le⟩⟩

theorem pop (h : r.Safe g line start most) (hPop : r.pop? = some (span, r')) :
    r'.Safe g line start most := by
  unfold pop? at hPop
  split at hPop
  · cases hPop
  · cases hPop
    exact ⟨h.grammar_eq, h.bounds, h.start_le_peak, h.depth_le_peak, h.peak_le⟩

theorem next (h : r.Safe g line start most) (hg : g.WellFormed)
    (hNext : r.next? = some (span, r')) : r'.Safe g line start most := by
  unfold next? at hNext
  split at hNext
  · rename_i hPop
    cases hNext
    exact h.pop hPop
  · split at hNext
    · split at hNext
      · cases hNext
      · cases hNext
        exact ⟨h.grammar_eq, h.bounds, h.start_le_peak, h.depth_le_peak, h.peak_le⟩
    · exact (h.advance hg).pop hNext

theorem take (h : r.Safe g line start most) (hg : g.WellFormed) {n : Nat} :
    ∀ x ∈ r.take n, x.2.Safe g line start most := by
  induction n generalizing r with
  | zero => exact fun _ hx => absurd hx List.not_mem_nil
  | succ n ih =>
    intro x hx
    rw [TokenReader.take] at hx
    split at hx
    · exact absurd hx List.not_mem_nil
    · rename_i hNext
      have hSafe := h.next hg hNext
      rcases List.mem_cons.mp hx with rfl | hx
      · exact hSafe
      · exact ih hSafe x hx

theorem drain (h : r.Safe g line start most) (hg : g.WellFormed) {n : Nat} :
    (TokenReader.drain n r).Safe g line start most := by
  induction n generalizing r with
  | zero => exact h
  | succ n ih =>
    rw [TokenReader.drain]
    split
    · exact h
    · exact ih (h.advance hg)

end TokenReader.Safe

/-- All that is looked up while a line is tokenized is there, and no stack leaves its bounds. -/
structure SafeLine (g : Grammar) (stack : StateStack) (line : String) : Prop where
  start_accepted : g.accepts (g.enter stack) = true
  safe_steps : ∀ s ∈ g.steps stack line, s.Safe g line (max (g.enter stack).depth g.depthLimit)
  end_accepted : g.accepts (g.tokenizeLine stack line).stack = true
  one_le_end : 1 ≤ (g.tokenizeLine stack line).stack.depth
  start_le_peak : (g.enter stack).depth ≤ peakDepth (g.enter stack) (g.steps stack line)
  end_le_peak :
    (g.tokenizeLine stack line).stack.depth ≤ peakDepth (g.enter stack) (g.steps stack line)
  peak_le :
    peakDepth (g.enter stack) (g.steps stack line) ≤ max (g.enter stack).depth g.depthLimit
  safe_readers : ∀ n, ∀ x ∈ (TokenReader.ofLine g stack line).take n,
    x.2.Safe g line (g.enter stack).depth (max (g.enter stack).depth g.depthLimit)
  safe_drained : ∀ n, (TokenReader.drain n (.ofLine g stack line)).Safe g line
    (g.enter stack).depth (max (g.enter stack).depth g.depthLimit)

namespace Grammar

variable {g : Grammar} {stack : StateStack}

theorem enter_of_accepts (h : g.accepts stack = true) : g.enter stack = stack := if_pos h

theorem WellFormed.safeLine (h : g.WellFormed) (stack : StateStack) (line : String) :
    SafeLine g stack line := by
  have hReader : (TokenReader.ofLine g stack line).Safe g line (g.enter stack).depth
      (max (g.enter stack).depth g.depthLimit) :=
    ⟨rfl, h.inBounds_enter stack line, Nat.le_refl _, Nat.le_refl _, Nat.le_max_left _ _⟩
  exact {
    start_accepted := h.accepts_enter stack
    safe_steps _ hs := h.safe_of_mem_steps hs
    end_accepted := h.accepts_tokenizeLine stack line
    one_le_end := StateStack.one_le_depth _
    start_le_peak := (peakDepth_le_iff.mp (Nat.le_refl _)).1
    end_le_peak := g.depth_tokenizeLine_le_peakDepth stack line
    peak_le := h.peakDepth_le stack line
    safe_readers _ := hReader.take h
    safe_drained _ := hReader.drain h }

structure Keeps (g : Grammar) (stack : StateStack) : Prop where
  accepted : g.accepts stack = true
  depth_le : stack.depth ≤ g.depthLimit

theorem WellFormed.keeps_initial (h : g.WellFormed) : g.Keeps g.initial :=
  ⟨h.accepts_initial, h.one_le_limit⟩

theorem WellFormed.preserves_keeps (h : g.WellFormed) : g.Preserves g.Keeps where
  enter _ hKeeps := enter_of_accepts hKeeps.accepted
  step stack c hKeeps := by
    refine ⟨h.accepts_step hKeeps.accepted c, Nat.le_trans (g.depth_step_le stack c) ?_⟩
    exact Nat.max_le.mpr ⟨hKeeps.depth_le, Nat.le_refl _⟩

namespace Keeps

theorem of_mem_tokenizeLines (h : g.Keeps stack) (hg : g.WellFormed) {lines : List String} :
    ∀ t ∈ g.tokenizeLines stack lines, g.Keeps t.stack :=
  hg.preserves_keeps.of_mem_tokenizeLines h

theorem of_mem_traceLines (h : g.Keeps stack) (hg : g.WellFormed) {lines : List String} :
    ∀ steps ∈ g.traceLines stack lines, ∀ s ∈ steps, g.Keeps s.stack := by
  intro steps hSteps s hs
  obtain ⟨stack', c, hKeeps, rfl⟩ := hg.preserves_keeps.exists_of_mem_traceLines h steps hSteps s hs
  exact hg.preserves_keeps.step stack' c hKeeps

end Keeps

/-- Lines are tokenized safely from any stack, and from the root no stack exceeds the limit. -/
theorem tokenizes_safely {d : Declaration} {depthLimit : Nat} {engine : Engine}
    {g : Grammar}
    (h : build d depthLimit engine = .ok g) :
    (∀ stack line, SafeLine g stack line) ∧
      ∀ lines, (∀ t ∈ g.tokenizeLines g.initial lines, g.Keeps t.stack) ∧
        ∀ steps ∈ g.traceLines g.initial lines, ∀ s ∈ steps, g.Keeps s.stack := by
  have hg := wellFormed_of_build h
  refine ⟨hg.safeLine, fun lines => ⟨?_, ?_⟩⟩
  · exact hg.keeps_initial.of_mem_tokenizeLines hg
  · exact hg.keeps_initial.of_mem_traceLines hg

theorem fsd_tokenizes_safely :
    build Fsd.declaration = .ok Fsd.grammar ∧
      SafeLine Fsd.grammar ⟨1000, [7, 1000]⟩ "let x = (1; // é" ∧
        ∀ t ∈ Fsd.grammar.tokenizeLines Fsd.grammar.initial ["/* é", "*/ begin"],
          Fsd.grammar.Keeps t.stack :=
  have h := tokenizes_safely Fsd.build_declaration
  ⟨Fsd.build_declaration, h.1 _ _, (h.2 _).1⟩

end Grammar

end Highlight
