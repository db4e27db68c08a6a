import Highlight.Proofs.Simulation
import Highlight.Proofs.Validation

/-! # The rules of a state

The entries of a state stand for a list of rules: includes are replaced by what the included state
stands for. In the grammar that is built a state has just these rules, in this order, wherever they
were declared and whatever their positions are. So declarations whose states stand for the same
rules make grammars that tokenize alike, also if the states have other names and another order.
-/

namespace Highlight

namespace Declaration

variable {d d' : Declaration} {es : List Entry} {rs rs' : List RuleDeclaration}

inductive Inlines (d : Declaration) : List Entry → List RuleDeclaration → Prop
  | nil : Inlines d [] []
  | rule {r : RuleDeclaration} {es : List Entry} {rs : List RuleDeclaration} :
    Inlines d es rs → Inlines d (.rule r :: es) (r :: rs)
  | splice {s : StateDeclaration} {es : List Entry} {rs rs' : List RuleDeclaration} :
    s ∈ d.states → Inlines d s.entries rs → Inlines d es rs' →
    Inlines d (.include s.name :: es) (rs ++ rs')

theorem eq_of_name_eq (hNodup : d.stateNames.Nodup) {s s' : StateDeclaration} (hs : s ∈ d.states)
    (hs' : s' ∈ d.states) (h : s.name = s'.name) : s = s' :=
  List.inj_on_of_nodup_map hNodup hs hs' h

theorem Inlines.unique (hNodup : d.stateNames.Nodup) (h : d.Inlines es rs)
    (h' : d.Inlines es rs') : rs = rs' := by
  induction h generalizing rs' with
  | nil =>
    cases h'
    rfl
  | rule _ ih =>
    cases h' with
    | rule h' => rw [ih h']
  | @splice s _ _ _ hs _ _ ihState ih =>
    -- The other derivation names the state as well, so it is the same state.
    generalize hEntry : Entry.include s.name = entry at h'
    cases h' with
    | rule _ => cases hEntry
    | splice hs' hState' hRest' =>
      cases eq_of_name_eq hNodup hs hs' (Entry.include.inj hEntry)
      rw [ihState hState', ih hRest']

theorem inlines_rules (d : Declaration) (rs : List RuleDeclaration) :
    d.Inlines (rs.map .rule) rs := by
  induction rs with
  | nil => exact .nil
  | cons r rs ih => exact .rule ih

theorem exists_inlines_of_flattens {ss : List Slot} {ids : List RuleId}
    (h : Includes.Flattens d.stateNames d.slots ss ids)
    (hEntries : List.Forall₂ (Slot.StandsFor d.inlineRules) ss es) :
    ∃ rs, d.Inlines es rs ∧
      List.Forall₂ (fun id r => ∃ state, d.inlineRules[id]? = some (state, r)) ids rs := by
  -- The slots of an included state stand for the entries of that state.
  induction h generalizing es with
  | nil =>
    cases hEntries
    exact ⟨[], .nil, .nil⟩
  | rule _ ih =>
    cases hEntries with
    | cons hEntry hEntries =>
      obtain ⟨rs, hInlines, hRules⟩ := ih hEntries
      cases hEntry with
      | rule hRule => exact ⟨_ :: rs, .rule hInlines, .cons ⟨_, hRule⟩ hRules⟩
  | splice hTarget _ _ ihState ih =>
    cases hEntries with
    | cons hEntry hEntries =>
      obtain ⟨rs', hInlines', hRules'⟩ := ih hEntries
      cases hEntry with
      | «include» =>
        obtain ⟨s, hs, rfl⟩ := exists_state_of_idxOf? hTarget
        obtain ⟨rs, hInlines, hRules⟩ := ihState (standsFor_slots hs)
        exact ⟨rs ++ rs', .splice (List.mem_of_getElem? hs) hInlines hInlines',
          List.rel_append hRules hRules'⟩

end Declaration

namespace Grammar

variable {engine : Engine} {d : Declaration} {depthLimit : Nat} {g : Grammar}

theorem rulesOf_eq {i : StateId} {s : State} (hs : g.states[i]? = some s) :
    g.rulesOf i = s.rules.filterMap (g.rules[·]?) := by
  simp only [rulesOf, rulesAt, hs, List.map_filterMap, Option.map_map]
  congr 1
  funext r
  cases g.rules[r]? <;> rfl

theorem forall₂_filterMap {α β γ : Type} {R : α → β → Prop} {Q : β → γ → Prop} {F : α → Option γ}
    {xs : List α} {ys : List β} (h : List.Forall₂ R xs ys)
    (hF : ∀ x y, R x y → ∃ z, F x = some z ∧ Q y z) : List.Forall₂ Q ys (xs.filterMap F) := by
  induction h with
  | nil => exact .nil
  | cons hxy _ ih =>
    obtain ⟨z, hz, hQ⟩ := hF _ _ hxy
    rw [List.filterMap_cons_some hz]
    exact .cons hQ ih

theorem forall₂_rules_of_build (h : build d depthLimit engine = .ok g) :
    List.Forall₂ (fun x rule => d.rule engine x.1 x.2 = .ok rule) d.inlineRules g.rules := by
  obtain ⟨-, -, _, _, _, -, hRules, -, rfl⟩ := build_eq_ok_iff.mp h
  exact hRules

theorem exists_flattens_of_build (h : build d depthLimit engine = .ok g) {i : StateId}
    {s : StateDeclaration} (hs : d.states[i]? = some s) :
    ∃ ids, g.states[i]? = some ⟨s.name, ids⟩ ∧
      Includes.Flattens d.stateNames d.slots (d.slots.getD i []) ids := by
  obtain ⟨-, -, root, rules, lists, -, -, hLists, rfl⟩ := build_eq_ok_iff.mp h
  have hName : d.stateNames[i]? = some s.name := by simp [Declaration.stateNames, hs]
  have hRange : (List.range d.stateNames.length)[i]? = some i :=
    List.getElem?_range (List.getElem?_eq_some_iff.mp hName).1
  obtain ⟨ids, hIds, hFlattens⟩ :=
    exists_getElem?_of_forall₂ (Includes.flattens_of_expandAll hLists) hRange
  refine ⟨ids, ?_, hFlattens⟩
  simp [assemble, List.getElem?_zipWith, hName, hIds]

theorem forall₂_rulesOf_of_build (h : build d depthLimit engine = .ok g) {i : StateId} {s : State}
    (hs : g.states[i]? = some s) {rs : List RuleDeclaration}
    (hRules : List.Forall₂ (fun id r => ∃ state, d.inlineRules[id]? = some (state, r)) s.rules rs) :
    List.Forall₂ (fun r rule => ∃ state, d.rule engine state r = .ok rule) rs (g.rulesOf i) := by
  rw [rulesOf_eq hs]
  refine forall₂_filterMap hRules ?_
  rintro id r ⟨state, hRule⟩
  obtain ⟨rule, hFound, hOk⟩ := exists_getElem?_of_forall₂ (forall₂_rules_of_build h) hRule
  exact ⟨rule, hFound, state, hOk⟩

/-- A state has the rules for which its entries stand. -/
theorem exists_inlines_of_build (h : build d depthLimit engine = .ok g) {i : StateId}
    {s : StateDeclaration} (hs : d.states[i]? = some s) :
    ∃ rs, d.Inlines s.entries rs ∧
      List.Forall₂ (fun r rule => ∃ state, d.rule engine state r = .ok rule) rs (g.rulesOf i) := by
  obtain ⟨ids, hState, hFlattens⟩ := exists_flattens_of_build h hs
  obtain ⟨rs, hInlines, hPositions⟩ :=
    Declaration.exists_inlines_of_flattens hFlattens (Declaration.standsFor_slots hs)
  exact ⟨rs, hInlines, forall₂_rulesOf_of_build h hState hPositions⟩

theorem nodup_stateNames_of_build (h : build d depthLimit engine = .ok g) : d.stateNames.Nodup :=
  (build_eq_ok_iff.mp h).2.1

end Grammar

def StackAction.rename (f : String → String) : StackAction → StackAction
  | .stay => .stay
  | .push name => .push (f name)
  | .pop => .pop
  | .switch name => .switch (f name)
  | .popAll => .popAll

def RuleDeclaration.rename (f : String → String) (r : RuleDeclaration) : RuleDeclaration :=
  { r with action := r.action.rename f }

@[simp] theorem StackAction.rename_id (a : StackAction) : a.rename id = a := by
  cases a <;> rfl

@[simp] theorem RuleDeclaration.rename_id (r : RuleDeclaration) : r.rename id = r := by
  simp [rename]

namespace Declaration

variable {engine : Engine} {d d' : Declaration} {σ : StateId → StateId} {f : String → String}

/-- Every state of `d` is a state of `d'` that stands for the same rules, where `σ` gives its
position and `f` its name. -/
structure Corresponds (σ : StateId → StateId) (f : String → String) (d d' : Declaration) :
    Prop where
  defaultTag_eq : d'.defaultTag = d.defaultTag
  ignoreCase_eq : d'.ignoreCase = d.ignoreCase
  tagEnding_eq : d'.tagEnding = d.tagEnding
  brackets_eq : d'.brackets = d.brackets
  root_eq : d'.root = f d.root
  state : ∀ i s, d.states[i]? = some s → ∃ s', d'.states[σ i]? = some s' ∧ s'.name = f s.name ∧
    ∀ rs, d.Inlines s.entries rs → d'.Inlines s'.entries (rs.map (·.rename f))

namespace Corresponds

theorem tag_eq (h : Corresponds σ f d d') : d'.tag = d.tag := by
  funext t
  rw [tag, tag, h.tagEnding_eq]

theorem outcome_eq (h : Corresponds σ f d d') (o : Outcome) : d'.outcome o = d.outcome o := by
  cases o <;> simp only [outcome, h.tag_eq, h.ignoreCase_eq]

theorem idxOf?_eq (h : Corresponds σ f d d') (hNodup : d'.stateNames.Nodup) {name : String}
    {i : StateId} (hi : d.stateNames.idxOf? name = some i) :
    d'.stateNames.idxOf? (f name) = some (σ i) := by
  obtain ⟨s, hs, rfl⟩ := exists_state_of_idxOf? hi
  obtain ⟨s', hs', hName, -⟩ := h.state i s hs
  rw [← hName]
  exact idxOf?_stateNames hNodup hs'

theorem effect_eq_ok (h : Corresponds σ f d d') (hNodup : d'.stateNames.Nodup)
    {state pattern : String} {a : StackAction} {e : Effect} (he : d.effect state pattern a = .ok e)
    (state' pattern' : String) :
    d'.effect state' pattern' (a.rename f) = .ok (e.map σ) := by
  cases a with
  | stay | pop | popAll =>
    cases he
    rfl
  | push name | switch name =>
    obtain ⟨i, hTarget, he⟩ := except_bind_eq_ok_iff.mp he
    cases he
    have hTarget' := h.idxOf?_eq hNodup (target_eq_ok_iff.mp hTarget)
    exact except_bind_ok (target_eq_ok_iff.mpr hTarget') rfl

theorem rule_eq_ok (h : Corresponds σ f d d') (hNodup : d'.stateNames.Nodup) {state : String}
    {r : RuleDeclaration} {rule : Rule} (hRule : d.rule engine state r = .ok rule) (state' : String) :
    d'.rule engine state' (r.rename f) = .ok (rule.mapTargets σ) := by
  obtain ⟨p, effect, hp, hGroups, hEffect, rfl⟩ := rule_eq_ok_iff.mp hRule
  refine rule_eq_ok_iff.mpr ⟨p, effect.map σ, ?_, hGroups, h.effect_eq_ok hNodup hEffect _ _, ?_⟩
  · rw [pattern?, h.ignoreCase_eq]
    exact hp
  · simp only [Rule.mapTargets, RuleDeclaration.rename, h.outcome_eq]

protected theorem refl (d : Declaration) : Corresponds id id d d :=
  ⟨rfl, rfl, rfl, rfl, rfl, fun _ s hs => ⟨s, hs, rfl, fun rs hInlines => by simpa using hInlines⟩⟩

end Corresponds

theorem rule_unique (hNodup : d.stateNames.Nodup) :
    Relator.RightUnique fun r rule => ∃ state, d.rule engine state r = .ok rule := by
  rintro r rule rule' ⟨state, hOk⟩ ⟨state', hOk'⟩
  have hSame := (Corresponds.refl d).rule_eq_ok hNodup hOk state'
  rw [RuleDeclaration.rename_id, Rule.mapTargets_id, hOk'] at hSame
  exact (Except.ok.inj hSame).symm

namespace Corresponds

variable {depthLimit : Nat} {g g' : Grammar}

theorem rulesOf_eq (h : Corresponds σ f d d') (hg : Grammar.build d depthLimit engine = .ok g)
    (hg' : Grammar.build d' depthLimit engine = .ok g') {i : StateId} (hi : i < g.states.length) :
    g'.rulesOf (σ i) = (g.rulesOf i).map (·.mapTargets σ) := by
  have hNodup' := Grammar.nodup_stateNames_of_build hg'
  rw [Grammar.length_states_of_build hg] at hi
  obtain ⟨s', hs', -, hSame⟩ := h.state i d.states[i] (List.getElem?_eq_getElem hi)
  obtain ⟨rs, hInlines, hRules⟩ :=
    Grammar.exists_inlines_of_build hg (List.getElem?_eq_getElem hi)
  obtain ⟨rs', hInlines', hRules'⟩ := Grammar.exists_inlines_of_build hg' hs'
  cases hInlines'.unique hNodup' (hSame rs hInlines)
  -- Both lists of rules are made of the same declared rules.
  refine List.right_unique_forall₂' (rule_unique hNodup') hRules' ?_
  rw [List.forall₂_map_left_iff, List.forall₂_map_right_iff]
  refine hRules.imp ?_
  rintro r rule ⟨state, hOk⟩
  exact ⟨state, h.rule_eq_ok hNodup' hOk state⟩

theorem relocates (h : Corresponds σ f d d') (hg : Grammar.build d depthLimit engine = .ok g)
    (hg' : Grammar.build d' depthLimit engine = .ok g') : g.Relocates σ g' := by
  have hNodup' := Grammar.nodup_stateNames_of_build hg'
  have hRules := fun i hi => h.rulesOf_eq hg hg' (i := i) hi
  have hLength := Grammar.length_states_of_build hg
  have hLength' := Grammar.length_states_of_build hg'
  obtain ⟨-, -, root, _, _, hRoot, -, -, rfl⟩ := Grammar.build_eq_ok_iff.mp hg
  obtain ⟨-, -, root', _, _, hRoot', -, -, rfl⟩ := Grammar.build_eq_ok_iff.mp hg'
  have hRootEq := h.idxOf?_eq hNodup' hRoot
  rw [← h.root_eq, hRoot'] at hRootEq
  exact {
    defaultTag_eq := by simp only [Grammar.assemble, h.tag_eq, h.defaultTag_eq]
    ignoreCase_eq := h.ignoreCase_eq
    brackets_eq := by simp only [Grammar.assemble, bracketPairs, h.tag_eq, h.brackets_eq]
    depthLimit_eq := rfl
    root_eq := Option.some.inj hRootEq
    state_lt := fun i hi => by
      rw [hLength] at hi
      rw [hLength']
      obtain ⟨_, hs', -⟩ := h.state i _ (List.getElem?_eq_getElem hi)
      exact (List.getElem?_eq_some_iff.mp hs').1
    rules_eq := hRules }

end Corresponds

end Declaration

end Highlight
