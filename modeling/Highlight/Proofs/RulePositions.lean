import Highlight.Proofs.StateRules

/-! # Lists of rules by position

Expansion gives each state a list of positions of rules. `IsFlattening` describes these lists
without any search: an entry that is a rule stands for its own position, and an include for the list
of the included state. Where includes do not go round in circles only one assignment of lists has
this property. Expansion finds it, whatever the order in which the states are finished.
-/

namespace Highlight

namespace Includes

variable {names : List String} {slots : List (List Slot)} {ss : List Slot} {rs rs' : List RuleId}
  {ids : List StateId} {memo : Memo} {e : GrammarError} {G : StateId → List RuleId}

theorem Flattens.unique (h : Flattens names slots ss rs) (h' : Flattens names slots ss rs') :
    rs = rs' := by
  induction h generalizing rs' with
  | nil =>
    cases h'
    rfl
  | rule _ ih =>
    cases h' with
    | rule h' => rw [ih h']
  | splice hTarget _ _ ihState ih =>
    cases h' with
    | splice hTarget' hState' hRest' =>
      cases hTarget.symm.trans hTarget'
      rw [ihState hState', ih hRest']

section Order

variable (hG : ∀ id < names.length, Flattens names slots (slots.getD id []) (G id))

include hG

theorem not_blocked {id : StateId} (hId : id < names.length) :
    ¬ Blocked names slots [id] id memo e := by
  intro h
  cases h with
  | undeclared hReach hSlot hTarget =>
    obtain ⟨b, hb⟩ := (hG _ (lt_of_reflTransGen hReach hId)).exists_idxOf? hSlot
    cases hTarget.symm.trans hb
  | endless hWalk hLong =>
    -- A walk that is too long leads into a circle, where no state stands for rules.
    rw [List.singleton_append, List.length_cons] at hLong
    obtain ⟨a, hReach, hLoop⟩ := exists_transGen_self hWalk.isChain hId (by omega)
    exact not_transGen_self (hG a (lt_of_reflTransGen hReach hId)).acc_state hLoop

theorem expandEach_eq_ok (hIds : ∀ id ∈ ids, id < names.length) (hMemo : Sound names slots memo) :
    expandEach names slots ids memo = .ok (ids.map G) := by
  cases hResult : expandEach names slots ids memo with
  | error e =>
    obtain ⟨pre, id, post, memo', rfl, -, hBlocked⟩ := blocked_of_expandEach hIds hMemo hResult
    have hId : id < names.length := hIds id (List.mem_append_right pre List.mem_cons_self)
    exact absurd hBlocked (not_blocked hG hId)
  | ok lists =>
    have hLists := flattens_of_expandEach hIds hMemo hResult
    have hEq : lists.map id = ids.map G := by
      refine map_eq_of_forall₂ ((List.forall₂_and_left _ _).mpr ⟨hIds, hLists⟩) ?_
      rintro id rules ⟨hId, hRules⟩
      exact hRules.unique (hG id hId)
    rw [← hEq, List.map_id]

end Order

end Includes

namespace Declaration

variable {d : Declaration} {F F' : String → List RuleId} {n : Nat} {es : List Entry}

/-- The positions for which entries stand when `n` rules are declared before them and `F` gives the
lists of the states that they include. -/
def positions (F : String → List RuleId) (n : Nat) : List Entry → List RuleId
  | [] => []
  | .rule _ :: es => n :: positions F (n + 1) es
  | .include name :: es => F name ++ positions F n es

def rulesBefore (d : Declaration) (i : Nat) : Nat :=
  ((d.states.take i).flatMap (·.inlineRules)).length

def IsFlattening (d : Declaration) (F : String → List RuleId) : Prop :=
  ∀ i s, d.states[i]? = some s → F s.name = positions F (d.rulesBefore i) s.entries

theorem positions_congr (h : ∀ name, .include name ∈ es → F name = F' name) (n : Nat) :
    positions F n es = positions F' n es := by
  induction es generalizing n with
  | nil => rfl
  | cons entry es ih =>
    have hRest := ih fun name hName => h name (List.mem_cons_of_mem entry hName)
    cases entry with
    | rule r => rw [positions, positions, hRest]
    | «include» name => rw [positions, positions, hRest, h name List.mem_cons_self]

theorem getD_slotsFrom {states : List StateDeclaration} {i : Nat} {s : StateDeclaration}
    (hs : states[i]? = some s) (n : Nat) :
    (StateDeclaration.slotsFrom n states).getD i [] =
      Slot.ofEntries (n + ((states.take i).flatMap (·.inlineRules)).length) s.entries := by
  induction states generalizing n i with
  | nil => cases hs
  | cons first states ih =>
    cases i with
    | zero =>
      cases hs
      rfl
    | succ i =>
      rw [List.take_succ_cons, List.flatMap_cons, List.length_append, ← Nat.add_assoc]
      exact ih hs _

theorem getD_slots {i : Nat} {s : StateDeclaration} (hs : d.states[i]? = some s) :
    d.slots.getD i [] = Slot.ofEntries (d.rulesBefore i) s.entries := by
  rw [slots, getD_slotsFrom hs, Nat.zero_add, rulesBefore]

theorem eq_positions_of_flattens
    (hF : ∀ name i, d.stateNames.idxOf? name = some i →
      Includes.Flattens d.stateNames d.slots (d.slots.getD i []) (F name))
    {rs : List RuleId} (h : Includes.Flattens d.stateNames d.slots (Slot.ofEntries n es) rs) :
    rs = positions F n es := by
  induction es generalizing n rs with
  | nil =>
    cases h
    rfl
  | cons entry es ih =>
    cases entry with
    | rule r =>
      cases h with
      | rule hRest => rw [positions, ih hRest]
    | «include» name =>
      cases h with
      | splice hTarget hState hRest => rw [positions, ih hRest, hState.unique (hF name _ hTarget)]

theorem IsFlattening.eq (h : d.IsFlattening F) (h' : d.IsFlattening F') {name : String}
    (hAcc : Acc (fun b a => d.Includes a b) name)
    (hIncluded : ∀ a b, d.Includes a b → b ∈ d.stateNames) (hName : name ∈ d.stateNames) :
    F' name = F name := by
  -- The list of a state is fixed by the lists of the states that it includes.
  induction hAcc with
  | intro name _ ih =>
    obtain ⟨i, hi⟩ := exists_idxOf?_of_mem hName
    obtain ⟨s, hs, rfl⟩ := exists_state_of_idxOf? hi
    rw [h i s hs, h' i s hs]
    refine positions_congr (fun target hTarget => ?_) _
    have hEdge : d.Includes s.name target := ⟨s, List.mem_of_getElem? hs, rfl, hTarget⟩
    exact ih target hEdge (hIncluded _ _ hEdge)

end Declaration

def Grammar.listOf (g : Grammar) (name : String) : List RuleId :=
  ((g.stateId? name).bind (g.states[·]?)).elim [] (·.rules)

/-- The grammar has the lists `F`, in whatever order they are found, and the patterns of a state are
those that are declared along its list. -/
structure Grammar.ListsRules (g : Grammar) (d : Declaration) (F : String → List RuleId) : Prop where
  states_eq : g.states = d.states.map fun s => ⟨s.name, F s.name⟩
  patterns : ∀ s ∈ d.states, ∃ rs,
    List.Forall₂ (fun id r => ∃ state, d.inlineRules[id]? = some (state, r)) (F s.name) rs ∧
      g.patterns? s.name = some (rs.map (·.pattern))
  any_order : ∀ ids, (∀ id ∈ ids, id < d.states.length) →
    Includes.expandEach d.stateNames d.slots ids (List.replicate d.states.length none) =
      .ok (ids.map fun id => F (d.stateNames.getD id ""))

namespace Grammar

variable {engine : Engine} {d : Declaration} {depthLimit : Nat} {g : Grammar}
  {F : String → List RuleId}

theorem getElem?_states (h : build d depthLimit engine = .ok g) {i : Nat} {s : StateDeclaration}
    (hs : d.states[i]? = some s) :
    g.states[i]? = some ⟨s.name, g.listOf s.name⟩ ∧
      Includes.Flattens d.stateNames d.slots (d.slots.getD i []) (g.listOf s.name) := by
  obtain ⟨ids, hState, hFlattens⟩ := exists_flattens_of_build h hs
  have hIndex : g.stateId? s.name = some i := by
    rw [stateId?_of_build h, stateNames_of_build h]
    exact Declaration.idxOf?_stateNames (nodup_stateNames_of_build h) hs
  have hList : g.listOf s.name = ids := by
    rw [listOf, hIndex, Option.bind_some, hState]
    rfl
  rw [hList]
  exact ⟨hState, hFlattens⟩

theorem isFlattening_listOf (h : build d depthLimit engine = .ok g) : d.IsFlattening g.listOf := by
  intro i s hs
  have hFlattens := (getElem?_states h hs).2
  rw [Declaration.getD_slots hs] at hFlattens
  refine Declaration.eq_positions_of_flattens (fun name j hj => ?_) hFlattens
  obtain ⟨target, hTarget, rfl⟩ := Declaration.exists_state_of_idxOf? hj
  exact (getElem?_states h hTarget).2

theorem source_of_rule {state : String} {r : RuleDeclaration} {rule : Rule}
    (h : d.rule engine state r = .ok rule) : rule.source = r.pattern := by
  obtain ⟨_, _, -, -, -, rfl⟩ := Declaration.rule_eq_ok_iff.mp h
  rfl

theorem listsRules_listOf (h : build d depthLimit engine = .ok g) : g.ListsRules d g.listOf where
  states_eq := by
    refine List.ext_getElem? fun i => ?_
    rw [List.getElem?_map]
    cases hs : d.states[i]? with
    | none =>
      rw [List.getElem?_eq_none_iff, ← length_states_of_build h] at hs
      rw [List.getElem?_eq_none_iff.mpr hs, Option.map_none]
    | some s => rw [(getElem?_states h hs).1, Option.map_some]
  patterns s hMem := by
    obtain ⟨i, hs⟩ := List.getElem?_of_mem hMem
    obtain ⟨hState, hFlattens⟩ := getElem?_states h hs
    obtain ⟨rs, -, hPositions⟩ :=
      Declaration.exists_inlines_of_flattens hFlattens (Declaration.standsFor_slots hs)
    have hSources : (g.rulesOf i).map (·.source) = rs.map (·.pattern) := by
      refine map_eq_of_forall₂ (forall₂_rulesOf_of_build h hState hPositions) ?_
      rintro r rule ⟨state, hOk⟩
      exact source_of_rule hOk
    have hIndex := Declaration.idxOf?_stateNames (nodup_stateNames_of_build h) hs
    refine ⟨rs, hPositions, ?_⟩
    rw [patterns?, stateId?_of_build h, stateNames_of_build h, hIndex, ← hSources, rulesOf,
      List.map_map]
    rfl
  any_order ids hIds := by
    have hLength : d.stateNames.length = d.states.length := List.length_map _
    rw [← hLength] at hIds ⊢
    refine Includes.expandEach_eq_ok (fun id hId => ?_) hIds (Includes.sound_replicate _ _)
    rw [hLength] at hId
    have hs := List.getElem?_eq_getElem hId
    rw [Declaration.getD_stateNames hs]
    exact (getElem?_states h hs).2

/-- There is one rule for each rule that is declared, in this order. The lists of the states are a
flattening of their entries, and there is no other one. -/
theorem expansion_is_flattening (h : build d depthLimit engine = .ok g) :
    List.Forall₂ (fun x rule => d.rule engine x.1 x.2 = .ok rule) d.inlineRules g.rules ∧
      ∃ F, d.IsFlattening F ∧ g.ListsRules d F ∧
        ∀ F', d.IsFlattening F' → ∀ name ∈ d.stateNames, F' name = F name := by
  have hF := isFlattening_listOf h
  refine ⟨forall₂_rules_of_build h, g.listOf, hF, listsRules_listOf h, fun F' hF' name hName => ?_⟩
  obtain ⟨-, hNodup, _, _, lists, -, -, hAll, -⟩ := build_eq_ok_iff.mp h
  obtain ⟨i, hi⟩ := Declaration.exists_idxOf?_of_mem hName
  obtain ⟨_, hFlattens⟩ := Declaration.flattens_state hAll hi
  exact hF.eq hF' (Declaration.acc_includes hNodup hFlattens.acc_state hi)
    (fun _ _ => Declaration.included_of_expandAll hNodup hAll) hName

theorem fsd_expansion_is_flattening :
    build Fsd.declaration = .ok Fsd.grammar ∧
      ∃ F, Fsd.grammar.ListsRules Fsd.declaration F ∧
        F "whitespace" = [17, 18] ∧ F "attribute" = [19] ∧
        F "service" = [17, 18, 19, 5, 6, 7, 8, 9] ∧ F "typeName" = [17, 18, 14, 15, 16] := by
  obtain ⟨-, F, hF, hLists, -⟩ := expansion_is_flattening Fsd.build_declaration
  have hBlank : F "whitespace" = [17, 18] := hF 4 Fsd.whitespaceState rfl
  have hAttribute : F "attribute" = [19] := hF 5 Fsd.attributeState rfl
  have hService : F "service" = F "whitespace" ++ (F "attribute" ++ [5, 6, 7, 8, 9]) :=
    hF 1 Fsd.serviceState rfl
  have hType : F "typeName" = F "whitespace" ++ [14, 15, 16] := hF 3 Fsd.typeNameState rfl
  rw [hBlank, hAttribute] at hService
  rw [hBlank] at hType
  exact ⟨Fsd.build_declaration, F, hLists, hBlank, hAttribute, hService, hType⟩

end Grammar

end Highlight
