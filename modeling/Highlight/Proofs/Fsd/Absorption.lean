import Highlight.Proofs.Fsd.Remarks

/-! # Remarks are never left

Once the stack has come to the remarks it stays there, to the end of the document. Any line at all
can stand there: a rule is found for each of its characters, and none of them marks a bracket.
-/

namespace Highlight.Fsd

open Text Grammar

variable {c : Cursor} {steps : List Step}

theorem not_isBracket : ∀ x ∈ grammar.rulesAt At.markdown, x.2.outcome.isBracket = false := by
  decide +kernel

theorem stack_step_inRemarks (c : Cursor) : (grammar.step inRemarks c).stack = inRemarks := by
  -- This holds with a fallback too, so it does not need that some rule matches.
  obtain ⟨_, rule, _, hRule, -, -, hStep⟩ | ⟨-, hStep⟩ := grammar.step_cases inRemarks c
  · have hEffect : rule.effect = .stay :=
      grammar_table.2.2.2.2.1 _ (List.mem_map_of_mem hRule)
    rw [hStep, hEffect, StateStack.apply]
  · rw [hStep]

theorem preserves_inRemarks : grammar.Preserves (· = inRemarks) where
  enter := by
    rintro _ rfl
    exact enter_inRemarks
  step := by
    rintro _ c rfl
    exact stack_step_inRemarks c

/-- The steps stay in the remarks, each one is made by a rule, and no span of theirs is a side of a
bracket. -/
structure Absorbed (steps : List Step) : Prop where
  stack_eq : ∀ s ∈ steps, s.stack = inRemarks
  isFallback_eq : ∀ s ∈ steps, s.isFallback = false
  polarity_eq : ∀ s ∈ steps, ∀ span ∈ s.spans, span.polarity = none

theorem exists_firstMatch?_inRemarks (h : c.rest ≠ []) :
    ∃ x, grammar.firstMatch? inRemarks.top c = some x := by
  obtain ⟨x, xs, hRest⟩ := List.exists_cons_of_ne_nil h
  have hMove : ∃ m, Move.first? (grammar.movesAt inRemarks.top) c = some (.stay, m) :=
    exists_first?_markdown hRest
  obtain ⟨m, hMove⟩ := hMove
  obtain ⟨id, rule, -, hFirst⟩ := exists_firstMatch?_of_move hMove
  exact ⟨_, hFirst⟩

theorem absorbed_steps (line : String) : Absorbed (grammar.steps inRemarks line) := by
  have hMade : ∀ s ∈ grammar.steps inRemarks line,
      ∃ c : Cursor, c.rest ≠ [] ∧ s = grammar.step inRemarks c := by
    intro s hs
    obtain ⟨_, c, rfl, hRest, hStep⟩ := preserves_inRemarks.exists_of_mem_steps rfl hs
    exact ⟨c, hRest, hStep⟩
  refine ⟨fun s hs => ?_, fun s hs => ?_, fun s hs span hSpan => ?_⟩
  · obtain ⟨c, -, rfl⟩ := hMade s hs
    exact stack_step_inRemarks c
  · obtain ⟨c, hRest, rfl⟩ := hMade s hs
    obtain ⟨⟨id, rule, m⟩, hFirst⟩ := exists_firstMatch?_inRemarks hRest
    rw [Step.isFallback, step, hFirst]
    rfl
  · obtain ⟨c, -, rfl⟩ := hMade s hs
    obtain ⟨_, rule, m, hRule, -, -, hStep⟩ | ⟨-, hStep⟩ := grammar.step_cases inRemarks c
    · rw [hStep] at hSpan
      exact polarity_of_mem_spansOf (not_isBracket _ hRule) hSpan
    · rw [hStep] at hSpan
      cases List.mem_singleton.mp hSpan
      rfl

theorem polarity_of_mem_tokenizeLine {line : String} {span : Span}
    (h : span ∈ (grammar.tokenizeLine inRemarks line).spans) : span.polarity = none := by
  rw [tokenizeLine, TokenizedLine.ofSteps] at h
  split at h
  · cases List.mem_singleton.mp h
    rfl
  · obtain ⟨s, hs, hSpan⟩ := List.mem_flatMap.mp h
    exact (absorbed_steps line).polarity_eq s hs span hSpan

theorem stack_tokenizeLine_hash {line : String} (h : line.toList.head? = some '#') :
    (grammar.tokenizeLine atRoot line).stack = inRemarks := by
  obtain ⟨xs, hLine⟩ := List.head?_eq_some_iff.mp h
  have hClean : grammar.Clean (grammar.enter atRoot) (.ofLine line) [] inRemarks := by
    rw [enter_atRoot]
    exact clean_hash hLine rfl
  exact hClean.endStack_tokenizeLines

/-- A line in the remarks is absorbed whatever it holds. So all lines behind one that ends in the
remarks are absorbed and end there too, and a hash at the start of a line at the root leads there.
-/
theorem remarks_absorb :
    inRemarks.ids.map grammar.stateName? = [some "root", some "markdown"] ∧
    (∀ line, Absorbed (grammar.steps inRemarks line) ∧
      (grammar.tokenizeLine inRemarks line).stack = inRemarks ∧
      ∀ span ∈ (grammar.tokenizeLine inRemarks line).spans, span.polarity = none) ∧
    (∀ stack lines i t, (grammar.tokenizeLines stack lines)[i]? = some t → t.stack = inRemarks →
      (∀ later ∈ (grammar.tokenizeLines stack lines).drop (i + 1), later.stack = inRemarks) ∧
      ∀ steps ∈ (grammar.traceLines stack lines).drop (i + 1), Absorbed steps) ∧
    grammar.initial.ids.map grammar.stateName? = [some "root"] ∧
    ∀ line : String, line.toList.head? = some '#' →
      (grammar.tokenizeLine grammar.initial line).stack = inRemarks := by
  have hNames := grammar_table.2.2.1
  refine ⟨?_, fun line => ⟨absorbed_steps line, preserves_inRemarks.tokenizeLine rfl line, ?_⟩,
    fun stack lines i t ht hStack => ?_, ?_, fun line hLine => ?_⟩
  · change [grammar.stateName? At.root, grammar.stateName? At.markdown] = _
    rw [stateName?_eq, stateName?_eq, hNames]
    rfl
  · exact fun span hSpan => polarity_of_mem_tokenizeLine hSpan
  · obtain ⟨hLines, hTrace⟩ := drop_lines ht
    rw [hLines, hTrace, hStack]
    refine ⟨preserves_inRemarks.of_mem_tokenizeLines rfl, fun steps hSteps => ?_⟩
    obtain ⟨_, line, rfl, rfl⟩ := preserves_inRemarks.exists_line_of_mem_traceLines rfl steps hSteps
    exact absorbed_steps line
  · rw [initial_eq]
    change [grammar.stateName? At.root] = _
    rw [stateName?_eq, hNames]
    rfl
  · rw [initial_eq]
    exact stack_tokenizeLine_hash hLine

theorem heading_absorbs :
    (grammar.tokenizeLine grammar.initial "# a").stack = inRemarks ∧
      (∀ later ∈ (grammar.tokenizeLines grammar.initial ["# a", "[b](c", "\""]).drop 1,
        later.stack = inRemarks) ∧
      ∀ steps ∈ (grammar.traceLines grammar.initial ["# a", "[b](c", "\""]).drop 1, Absorbed steps := by
  obtain ⟨-, -, hLater, -, hHash⟩ := remarks_absorb
  have hFirst := hHash "# a" (by decide)
  exact ⟨hFirst, hLater grammar.initial ["# a", "[b](c", "\""] 0 _ rfl hFirst⟩

end Highlight.Fsd
