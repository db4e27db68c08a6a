import Highlight.Proofs.LineByLine
import Highlight.Proofs.StateRules

/-! # Includes are shorthand

The includes of a declaration that makes a grammar can be written out: each state then lists the
rules for which its entries stand. There is one way to do this, and the declaration that it gives
makes a grammar with the same states, which tokenizes every line and every text in the same way.
-/

namespace Highlight

namespace Declaration

variable {d : Declaration} {engine : Engine} {states states' : List StateDeclaration}

def InlinesAll (d : Declaration) (states : List StateDeclaration) : Prop :=
  List.Forall₂
    (fun s s' => ∃ rs, d.Inlines s.entries rs ∧ s' = StateDeclaration.mk s.name (rs.map .rule))
    d.states states

theorem Inlines.exists_mem {es : List Entry} {rs : List RuleDeclaration} (h : d.Inlines es rs)
    {r : RuleDeclaration} (hr : r ∈ rs) :
    .rule r ∈ es ∨ ∃ s ∈ d.states, .rule r ∈ s.entries := by
  induction h with
  | nil => exact absurd hr List.not_mem_nil
  | rule _ ih =>
    rcases List.mem_cons.mp hr with rfl | hr
    · exact .inl List.mem_cons_self
    · exact (ih hr).imp_left (List.mem_cons_of_mem _)
  | splice hs _ _ ihState ih =>
    rcases List.mem_append.mp hr with hr | hr
    · exact .inr ((ihState hr).elim (fun hMem => ⟨_, hs, hMem⟩) id)
    · exact (ih hr).imp_left (List.mem_cons_of_mem _)

theorem exists_inlinesAll {depthLimit : Nat} {g : Grammar}
    (h : Grammar.build d depthLimit engine = .ok g) : ∃ states, d.InlinesAll states := by
  have hInlines : ∀ s ∈ d.states, ∃ rs, d.Inlines s.entries rs := by
    intro s hs
    obtain ⟨i, hi⟩ := List.getElem?_of_mem hs
    obtain ⟨rs, hRules, -⟩ := Grammar.exists_inlines_of_build h hi
    exact ⟨rs, hRules⟩
  choose! rules hRules using hInlines
  refine ⟨d.states.map fun s => ⟨s.name, (rules s).map .rule⟩, ?_⟩
  exact List.forall₂_map_right_iff.mpr (List.forall₂_same.mpr fun s hs => ⟨_, hRules s hs, rfl⟩)

namespace InlinesAll

theorem stateNames_eq (h : d.InlinesAll states) :
    ({ d with states := states } : Declaration).stateNames = d.stateNames := by
  refine map_eq_of_forall₂ h ?_
  rintro s _ ⟨rs, -, rfl⟩
  rfl

theorem unique (hNodup : d.stateNames.Nodup) (h : d.InlinesAll states)
    (h' : d.InlinesAll states') : states' = states := by
  refine List.right_unique_forall₂' ?_ h' h
  rintro s _ _ ⟨rs, hInlines, rfl⟩ ⟨rs', hInlines', rfl⟩
  rw [hInlines.unique hNodup hInlines']

theorem exists_rule (h : d.InlinesAll states) {s' : StateDeclaration} (hs' : s' ∈ states)
    {e : Entry} (he : e ∈ s'.entries) :
    ∃ r, e = .rule r ∧ ∃ s ∈ d.states, .rule r ∈ s.entries := by
  obtain ⟨s, hs, rs, hInlines, rfl⟩ := exists_of_mem_of_forall₂ h hs'
  obtain ⟨r, hr, rfl⟩ := List.mem_map.mp he
  exact ⟨r, rfl, (hInlines.exists_mem hr).elim (fun hMem => ⟨s, hs, hMem⟩) id⟩

theorem valid (h : d.InlinesAll states) (hValid : d.Valid engine) :
    ({ d with states := states } : Declaration).Valid engine := by
  have hNames := h.stateNames_eq
  have hRule : ∀ s' ∈ states, ∀ r, .rule r ∈ s'.entries → ∃ s ∈ d.states, .rule r ∈ s.entries := by
    intro s' hs' r hr
    obtain ⟨_, hEq, hMem⟩ := h.exists_rule hs' hr
    cases hEq
    exact hMem
  have hNone : ∀ s' ∈ states, ∀ name, .include name ∉ s'.entries := by
    intro s' hs' name hMem
    obtain ⟨_, hEq, -⟩ := h.exists_rule hs' hMem
    cases hEq
  exact {
    version := hValid.version
    distinct := by rw [hNames]; exact hValid.distinct
    root := by rw [hNames]; exact hValid.root
    pattern := fun s' hs' r hr => by
      obtain ⟨s, hs, hMem⟩ := hRule s' hs' r hr
      exact hValid.pattern s hs r hMem
    groups := fun s' hs' r hr => by
      obtain ⟨s, hs, hMem⟩ := hRule s' hs' r hr
      exact hValid.groups s hs r hMem
    target := fun s' hs' r hr => by
      obtain ⟨s, hs, hMem⟩ := hRule s' hs' r hr
      rw [hNames]
      exact hValid.target s hs r hMem
    included := fun s' hs' name hMem => absurd hMem (hNone s' hs' name)
    acyclic := fun a hLoop => by
      obtain ⟨_, ⟨s', hs', -, hMem⟩, -⟩ := Relation.TransGen.head'_iff.mp hLoop
      exact hNone s' hs' _ hMem }

theorem corresponds (hNodup : d.stateNames.Nodup) (h : d.InlinesAll states) :
    Corresponds id id d { d with states := states } := by
  refine ⟨rfl, rfl, rfl, rfl, rfl, fun i s hs => ?_⟩
  obtain ⟨_, hs', rs, hInlines, rfl⟩ := exists_getElem?_of_forall₂ h hs
  refine ⟨_, hs', rfl, fun rs' hInlines' => ?_⟩
  cases hInlines.unique hNodup hInlines'
  simpa using inlines_rules _ rs

end InlinesAll

end Declaration

namespace Grammar

structure Alike (g g' : Grammar) : Prop where
  stateNames_eq : g'.stateNames = g.stateNames
  index_eq : g'.index = g.index
  root_eq : g'.root = g.root
  patterns_eq : ∀ state, g'.patterns? state = g.patterns? state
  line_eq : ∀ stack line, g'.tokenizeLine stack line = g.tokenizeLine stack line
  fallbacks_eq : ∀ stack line, (g'.steps stack line).countP (·.isFallback) =
    (g.steps stack line).countP (·.isFallback)
  peakDepth_eq : ∀ stack line, peakDepth (g'.enter stack) (g'.steps stack line) =
    peakDepth (g.enter stack) (g.steps stack line)
  run_eq : ∀ text, g'.run text = g.run text

variable {g g' : Grammar}

theorem steps_enter (g : Grammar) (stack : StateStack) (line : String) :
    g.steps (g.enter stack) line = g.steps stack line := by
  rw [steps, enter_enter, steps]

namespace Relocates

variable (h : g.Relocates id g') (hNames : g'.stateNames = g.stateNames)

include h hNames

theorem enter_eq (stack : StateStack) : g'.enter stack = g.enter stack := by
  have hLength : g'.states.length = g.states.length := by
    simpa [stateNames] using congrArg List.length hNames
  have hAccepts : g'.accepts stack = g.accepts stack := by
    rw [accepts, accepts, hLength]
  have hInitial : g'.initial = g.initial := by
    rw [initial, initial, h.root_eq, id]
  rw [enter, enter, hAccepts, hInitial]

theorem matches_steps (hg : g.WellFormed) (stack : StateStack) (line : String) :
    List.Forall₂ (Step.Matches id) (g.steps stack line) (g'.steps stack line) := by
  -- A stack of some other grammar is replaced by the same stack on both sides.
  have hMatches : List.Forall₂ (Step.Matches id) (g.steps (g.enter stack) line)
      (g'.steps ((g.enter stack).map id) line) :=
    (h.mirrors hg).matches_steps (hg.accepts_enter stack) fun _ _ => trivial
  rwa [StateStack.map_id, steps_enter, ← h.enter_eq hNames, steps_enter] at hMatches

theorem patterns?_eq (hIndex : g'.index = g.index) (state : String) :
    g'.patterns? state = g.patterns? state := by
  rw [patterns?, patterns?, stateId?, stateId?, hIndex]
  refine Option.map_congr fun i _ => ?_
  by_cases hLt : i < g.states.length
  · have hRules := congrArg (List.map (·.source)) (h.rules_eq i hLt)
    simpa [rulesOf, Function.comp_def] using hRules
  · have hLength : g'.states.length = g.states.length := by
      simpa [stateNames] using congrArg List.length hNames
    have hLe : g.states.length ≤ i := Nat.not_lt.mp hLt
    rw [rulesAt, rulesAt, List.getElem?_eq_none_iff.mpr hLe,
      List.getElem?_eq_none_iff.mpr (hLength ▸ hLe)]

theorem alike (hg : g.WellFormed) (hIndex : g'.index = g.index) : g.Alike g' where
  stateNames_eq := hNames
  index_eq := hIndex
  root_eq := h.root_eq
  patterns_eq := h.patterns?_eq hNames hIndex
  line_eq stack line := by
    have hLine := ofSteps_of_matches (h.matches_steps hNames hg stack line) (g.enter stack)
    rwa [StateStack.map_id, TokenizedLine.mapStack_id, ← tokenizeLine, ← h.enter_eq hNames] at hLine
  fallbacks_eq stack line := countP_of_matches (h.matches_steps hNames hg stack line)
  peakDepth_eq stack line := by
    rw [h.enter_eq hNames]
    have hPeak := peakDepth_of_matches (h.matches_steps hNames hg stack line) (g.enter stack)
    rwa [StateStack.map_id] at hPeak
  run_eq text := by
    rw [(h.mirrors hg).run_map fun _ _ _ _ => trivial, Run.mapStacks_id]

end Relocates

/-- Writing out the includes of a declaration is possible in one way and changes nothing. -/
theorem inlining_preserves {d : Declaration} {depthLimit : Nat} {engine : Engine}
    (h : build d depthLimit engine = .ok g) :
    ∃ states, (∀ other, d.InlinesAll other ↔ other = states) ∧
      ∃ g', build { d with states := states } depthLimit engine = .ok g' ∧ g.Alike g' := by
  have hNodup := nodup_stateNames_of_build h
  have hValid := (Declaration.exists_build_eq_ok_iff depthLimit).mp ⟨g, h⟩
  obtain ⟨states, hStates⟩ := Declaration.exists_inlinesAll h
  obtain ⟨g', h'⟩ := (Declaration.exists_build_eq_ok_iff depthLimit).mpr (hStates.valid hValid)
  refine ⟨states, fun other => ⟨hStates.unique hNodup, fun hOther => hOther ▸ hStates⟩, g', h', ?_⟩
  have hRelocates := (hStates.corresponds hNodup).relocates h h'
  refine hRelocates.alike ?_ (wellFormed_of_build h) ?_
  · rw [stateNames_of_build h, stateNames_of_build h', hStates.stateNames_eq]
  · rw [index_of_build h, index_of_build h', Declaration.index, Declaration.index,
      hStates.stateNames_eq]

theorem fsd_inlining_preserves :
    build Fsd.declaration = .ok Fsd.grammar ∧
      ∃ states, (∀ other, Fsd.declaration.InlinesAll other ↔ other = states) ∧
        ∃ g', build { Fsd.declaration with states := states } = .ok g' ∧ Fsd.grammar.Alike g' :=
  ⟨Fsd.build_declaration, inlining_preserves Fsd.build_declaration⟩

end Grammar

end Highlight
