import Highlight.Proofs.StateRules

/-! # One more rule

A rule at the end of a state is tried after all other rules of the state, unless the state is
included somewhere: there, rules of another state may come behind it. So a rule at the end of a
state that is not included can only change what would otherwise be a fallback.
-/

namespace Highlight

def StateDeclaration.appendRule (state : String) (r : RuleDeclaration) (s : StateDeclaration) :
    StateDeclaration :=
  if s.name = state then { s with entries := s.entries ++ [.rule r] } else s

namespace Declaration

def appendRule (d : Declaration) (state : String) (r : RuleDeclaration) : Declaration :=
  { d with states := d.states.map (·.appendRule state r) }

variable {d : Declaration} {state : String} {r : RuleDeclaration} {es es' : List Entry}
  {rs rs' : List RuleDeclaration}

@[simp] theorem stateNames_appendRule (d : Declaration) (state : String) (r : RuleDeclaration) :
    (d.appendRule state r).stateNames = d.stateNames := by
  simp only [stateNames, appendRule, List.map_map]
  refine List.map_congr_left fun s _ => ?_
  rw [Function.comp_apply, StateDeclaration.appendRule]
  split <;> rfl

theorem rule_appendRule (d : Declaration) (state : String) (r : RuleDeclaration) :
    (d.appendRule state r).rule = d.rule := by
  funext engine name r'
  simp only [rule, effect, target, index, stateNames_appendRule]
  rfl

theorem Inlines.append (h : d.Inlines es rs) (h' : d.Inlines es' rs') :
    d.Inlines (es ++ es') (rs ++ rs') := by
  induction h with
  | nil => exact h'
  | rule _ ih => exact .rule ih
  | splice hs hState _ _ ih =>
    rw [List.append_assoc]
    exact .splice hs hState ih

theorem Inlines.appendRule (h : d.Inlines es rs) (hFree : ∀ a, ¬ d.Includes a state)
    (hEntries : .include state ∉ es) : (d.appendRule state r).Inlines es rs := by
  induction h with
  | nil => exact .nil
  | rule _ ih => exact .rule (ih fun hMem => hEntries (List.mem_cons_of_mem _ hMem))
  | @splice s _ _ _ hs _ _ ihState ih =>
    have hNe : s.name ≠ state := by
      rintro rfl
      exact hEntries List.mem_cons_self
    have hSame : s.appendRule state r = s := if_neg hNe
    have hMem : s ∈ (d.appendRule state r).states := List.mem_map.mpr ⟨s, hs, hSame⟩
    refine .splice hMem (ihState fun hInclude => hFree s.name ⟨s, hs, rfl, hInclude⟩) ?_
    exact ih fun hInclude => hEntries (List.mem_cons_of_mem _ hInclude)

theorem exists_inlines_appendRule (hFree : ∀ a, ¬ d.Includes a state) {s : StateDeclaration}
    (hs : s ∈ d.states) (h : d.Inlines s.entries rs) :
    ∃ more, (d.appendRule state r).Inlines (s.appendRule state r).entries (rs ++ more) := by
  have hKept : (d.appendRule state r).Inlines s.entries rs :=
    h.appendRule hFree fun hInclude => hFree s.name ⟨s, hs, rfl, hInclude⟩
  by_cases hName : s.name = state
  · have hEntries : (s.appendRule state r).entries = s.entries ++ [.rule r] := by
      rw [StateDeclaration.appendRule, if_pos hName]
    rw [hEntries]
    exact ⟨[r], hKept.append (.rule .nil)⟩
  · have hEntries : (s.appendRule state r).entries = s.entries := by
      rw [StateDeclaration.appendRule, if_neg hName]
    rw [hEntries]
    exact ⟨[], (List.append_nil rs).symm ▸ hKept⟩

end Declaration

namespace Grammar

variable {g g' : Grammar} {c : Text.Cursor}

/-- The states of `g` are states of `g'`, where each has its rules of `g` in front. -/
structure Extends (g g' : Grammar) : Prop where
  defaultTag_eq : g'.defaultTag = g.defaultTag
  ignoreCase_eq : g'.ignoreCase = g.ignoreCase
  brackets_eq : g'.brackets = g.brackets
  depthLimit_eq : g'.depthLimit = g.depthLimit
  root_eq : g'.root = g.root
  length_eq : g'.states.length = g.states.length
  rulesOf_prefix : ∀ i < g.states.length, g.rulesOf i <+: g'.rulesOf i

namespace Extends

theorem map_firstMatch?_eq (h : g.Extends g') {i : StateId} (hi : i < g.states.length)
    {x : Rule × Match} (hFound : (g.firstMatch? i c).map (·.2) = some x) :
    (g'.firstMatch? i c).map (·.2) = some x := by
  obtain ⟨more, hMore⟩ := h.rulesOf_prefix i hi
  rw [map_firstMatch?] at hFound ⊢
  rw [← hMore, List.findSome?_append, hFound]
  rfl

theorem mirrors (h : g.Extends g') (hg : g.WellFormed) :
    g.Mirrors g' id fun s => s.isFallback = false where
  wellFormed := hg
  initial_eq := by
    rw [StateStack.map_id, initial, initial, h.root_eq]
  accepts stack hStack := by
    rw [StateStack.map_id, accepts, h.length_eq]
    exact hStack
  step stack c hStack hStep := by
    obtain ⟨x, hFirst⟩ : ∃ x, g.firstMatch? stack.top c = some x := by
      cases hFirst : g.firstMatch? stack.top c with
      | none => simp [Step.isFallback, step, hFirst] at hStep
      | some x => exact ⟨x, rfl⟩
    have hFound : (g.firstMatch? stack.top c).map (·.2) = some x.2 := by rw [hFirst]; rfl
    refine matches_step_of_firstMatch? hFound ?_ h.depthLimit_eq
      (spansOf_congr h.defaultTag_eq h.ignoreCase_eq h.brackets_eq _ c _)
    rw [Rule.mapTargets_id]
    exact h.map_firstMatch?_eq (top_lt hStack) hFound

end Extends

theorem not_fallback_of_fallbacks_eq_zero {stack : StateStack} {lines : List String} {n : Counters}
    (h : (g.runLines stack n lines).counters.fallbacks = 0) :
    n.fallbacks = 0 ∧ ∀ steps ∈ g.traceLines stack lines, ∀ s ∈ steps, s.isFallback = false := by
  induction lines generalizing stack n with
  | nil => exact ⟨h, fun _ hs => absurd hs List.not_mem_nil⟩
  | cons line lines ih =>
    obtain ⟨hCounted, hLater⟩ := ih h
    obtain ⟨hBefore, hLine⟩ := Nat.add_eq_zero_iff.mp hCounted
    refine ⟨hBefore, List.forall_mem_cons.mpr ⟨fun s hs => ?_, hLater⟩⟩
    exact Bool.eq_false_iff.mpr (List.countP_eq_zero.mp hLine s hs)

theorem Extends.run_eq (h : g.Extends g') (hg : g.WellFormed) {text : String}
    (hFallbacks : (g.run text).counters.fallbacks = 0) : g'.run text = g.run text := by
  rw [(h.mirrors hg).run_map (not_fallback_of_fallbacks_eq_zero hFallbacks).2, Run.mapStacks_id]

variable {d : Declaration} {depthLimit : Nat} {engine : Engine} {state : String}
  {r : RuleDeclaration}

theorem rulesOf_prefix_of_build (h : build d depthLimit engine = .ok g)
    (hFree : ∀ a, ¬ d.Includes a state)
    (h' : build (d.appendRule state r) depthLimit engine = .ok g')
    {i : StateId} (hi : i < d.states.length) : g.rulesOf i <+: g'.rulesOf i := by
  have hs := List.getElem?_eq_getElem hi
  have hs' : (d.appendRule state r).states[i]? = some (d.states[i].appendRule state r) := by
    rw [Declaration.appendRule, List.getElem?_map, hs, Option.map_some]
  obtain ⟨rs, hInlines, hRules⟩ := exists_inlines_of_build h hs
  obtain ⟨rs', hInlines', hRules'⟩ := exists_inlines_of_build h' hs'
  obtain ⟨more, hMore⟩ :=
    Declaration.exists_inlines_appendRule (r := r) hFree (List.getElem_mem hi) hInlines
  cases hInlines'.unique (nodup_stateNames_of_build h') hMore
  -- The first part of the new list is made of the declared rules of the old one.
  rw [Declaration.rule_appendRule] at hRules'
  have hFirst := List.forall₂_take_append _ _ _ hRules'.flip
  have hEq := List.right_unique_forall₂' (Declaration.rule_unique (nodup_stateNames_of_build h))
    hRules hFirst.flip
  rw [hEq]
  exact List.take_prefix _ _

theorem extends_of_build (h : build d depthLimit engine = .ok g)
    (hFree : ∀ a, ¬ d.Includes a state)
    (h' : build (d.appendRule state r) depthLimit engine = .ok g') : g.Extends g' := by
  have hPrefix := fun i => rulesOf_prefix_of_build (i := i) h hFree h'
  have hLength := length_states_of_build h
  have hLength' := length_states_of_build h'
  obtain ⟨-, -, root, _, _, hRoot, -, -, rfl⟩ := build_eq_ok_iff.mp h
  obtain ⟨-, -, root', _, _, hRoot', -, -, rfl⟩ := build_eq_ok_iff.mp h'
  rw [Declaration.stateNames_appendRule] at hRoot'
  exact {
    defaultTag_eq := rfl
    ignoreCase_eq := rfl
    brackets_eq := rfl
    depthLimit_eq := rfl
    root_eq := Option.some.inj (hRoot'.symm.trans hRoot)
    length_eq := by rw [hLength', hLength, Declaration.appendRule, List.length_map]
    rulesOf_prefix := fun i hi => hPrefix i (hLength ▸ hi) }

/-- A rule at the end of a state that is not included changes no run without fallbacks. -/
theorem appending_conserves (h : build d depthLimit engine = .ok g)
    (hFree : ∀ a, ¬ d.Includes a state)
    (h' : build (d.appendRule state r) depthLimit engine = .ok g') :
    g'.stateNames = g.stateNames ∧
      ∀ text, (g.run text).counters.fallbacks = 0 → g'.run text = g.run text := by
  refine ⟨?_, fun text hText => ?_⟩
  · rw [stateNames_of_build h, stateNames_of_build h', Declaration.stateNames_appendRule]
  · exact (extends_of_build h hFree h').run_eq (wellFormed_of_build h) hText

/-- Numbers could be added to the body of a service, which no state includes. -/
theorem fsd_appending_conserves :
    build Fsd.declaration = .ok Fsd.grammar ∧
      (∀ a, ¬ Fsd.declaration.Includes a "service") ∧
      (Fsd.grammar.run "service A \x7b\ndata").counters.fallbacks = 0 ∧
      ∃ g', build (Fsd.declaration.appendRule "service" ⟨"[0-9]+", .emit "number", .stay⟩) = .ok g' ∧
        g'.stateNames = Fsd.grammar.stateNames ∧
        g'.run "service A \x7b\ndata" = Fsd.grammar.run "service A \x7b\ndata" := by
  have hFree : ∀ a, ¬ Fsd.declaration.Includes a "service" := by
    rintro a ⟨s, hs, -, hInclude⟩
    have hNone : ∀ s ∈ Fsd.declaration.states, .include "service" ∉ s.entries := by decide
    exact hNone s hs hInclude
  have hText : (Fsd.grammar.run "service A \x7b\ndata").counters.fallbacks = 0 := by decide +kernel
  have hBuilds :
      (build (Fsd.declaration.appendRule "service" ⟨"[0-9]+", .emit "number", .stay⟩)).isOk = true := by
    decide +kernel
  cases h' : build (Fsd.declaration.appendRule "service" ⟨"[0-9]+", .emit "number", .stay⟩) with
  | error e =>
    rw [h'] at hBuilds
    cases hBuilds
  | ok g' =>
    obtain ⟨hNames, hRun⟩ := appending_conserves Fsd.build_declaration hFree h'
    exact ⟨Fsd.build_declaration, hFree, hText, g', rfl, hNames, hRun _ hText⟩

end Grammar

end Highlight
