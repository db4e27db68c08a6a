import Highlight.Proofs.Validation

/-! # Grammars that are built are well formed

Every position in a grammar that was built is one of its states or of its rules, so no look-up in it
fails.
-/

namespace Highlight

def Effect.Within (n : Nat) : Effect → Prop
  | .push id => id < n
  | .switch id => id < n
  | _ => True

theorem Declaration.within_of_effect {d : Declaration} {state pattern : String} {a : StackAction}
    {e : Effect} (h : d.effect state pattern a = .ok e) : e.Within d.stateNames.length := by
  cases a with
  | stay | pop | popAll =>
    cases h
    exact trivial
  | push name | switch name =>
    obtain ⟨id, hTarget, h⟩ := except_bind_eq_ok_iff.mp h
    cases h
    exact Includes.lt_of_idxOf?_eq_some (target_eq_ok_iff.mp hTarget)

namespace Grammar

variable {engine : Engine}

structure WellFormed (g : Grammar) : Prop where
  root_lt : g.root < g.states.length
  rule_lt : ∀ s ∈ g.states, ∀ r ∈ s.rules, r < g.rules.length
  target_within : ∀ rule ∈ g.rules, rule.effect.Within g.states.length
  one_le_limit : 1 ≤ g.depthLimit

theorem WellFormed.map_rulesAt {g : Grammar} (h : g.WellFormed) {id : StateId} {s : State}
    (hs : g.states[id]? = some s) : (g.rulesAt id).map (·.1) = s.rules := by
  have hFound : ∀ r ∈ s.rules, (g.rules[r]?.map (r, ·)).map (·.1) = some r := by
    intro r hr
    rw [List.getElem?_eq_getElem (h.rule_lt s (List.mem_of_getElem? hs) r hr)]
    rfl
  simp only [rulesAt, hs, List.map_filterMap]
  rw [List.filterMap_congr hFound, List.filterMap_some]

theorem getElem?_of_mem_rulesAt {g : Grammar} {id : StateId} {r : RuleId} {rule : Rule}
    (h : (r, rule) ∈ g.rulesAt id) : g.rules[r]? = some rule := by
  unfold rulesAt at h
  split at h
  · obtain ⟨x, -, hx⟩ := List.mem_filterMap.mp h
    obtain ⟨rule', hRule, hEq⟩ := Option.map_eq_some_iff.mp hx
    cases hEq
    exact hRule
  · exact absurd h List.not_mem_nil

theorem lt_of_mem_rulesAt {g : Grammar} {id : StateId} {r : RuleId} {rule : Rule}
    (h : (r, rule) ∈ g.rulesAt id) : r < g.rules.length := by
  obtain ⟨hLt, -⟩ := List.getElem?_eq_some_iff.mp (getElem?_of_mem_rulesAt h)
  exact hLt

theorem stateNames_of_build {d : Declaration} {depthLimit : Nat} {g : Grammar}
    (h : build d depthLimit engine = .ok g) : g.stateNames = d.stateNames := by
  obtain ⟨-, -, root, rules, lists, -, -, hLists, rfl⟩ := build_eq_ok_iff.mp h
  have hLength := (Includes.flattens_of_expandAll hLists).length_eq
  rw [List.length_range] at hLength
  change (List.zipWith State.mk d.stateNames lists).map (·.name) = d.stateNames
  rw [← List.map_uncurry_zip_eq_zipWith, List.map_map]
  exact List.map_fst_zip hLength.le

theorem index_of_build {d : Declaration} {depthLimit : Nat} {g : Grammar}
    (h : build d depthLimit engine = .ok g) : g.index = d.index := by
  obtain ⟨-, -, _, _, _, -, -, -, rfl⟩ := build_eq_ok_iff.mp h
  rfl

theorem stateId?_of_build {d : Declaration} {depthLimit : Nat} {g : Grammar}
    (h : build d depthLimit engine = .ok g) (name : String) :
    g.stateId? name = g.stateNames.idxOf? name := by
  rw [stateId?, index_of_build h, Declaration.lookup_index, stateNames_of_build h]

theorem captures_of_build {d : Declaration} {depthLimit : Nat} {g : Grammar}
    (h : build d depthLimit engine = .ok g) {rule : Rule} (hRule : rule ∈ g.rules) :
    rule.captures = rule.outcome.isGroups := by
  obtain ⟨-, -, _, _, _, -, hRules, -, rfl⟩ := build_eq_ok_iff.mp h
  obtain ⟨_, -, hOk⟩ := exists_of_mem_of_forall₂ hRules hRule
  obtain ⟨_, _, -, -, -, rfl⟩ := Declaration.rule_eq_ok_iff.mp hOk
  exact (Declaration.isGroups_outcome _ _).symm

theorem length_states_of_build {d : Declaration} {depthLimit : Nat} {g : Grammar}
    (h : build d depthLimit engine = .ok g) : g.states.length = d.states.length := by
  simpa [stateNames, Declaration.stateNames] using congrArg List.length (stateNames_of_build h)

theorem lt_of_flattens {d : Declaration} {id : StateId} {rs : List RuleId}
    (h : Includes.Flattens d.stateNames d.slots (d.slots.getD id []) rs) {r : RuleId}
    (hr : r ∈ rs) : r < d.inlineRules.length := by
  have hSlot : ∃ id, .rule r ∈ d.slots.getD id [] :=
    (h.exists_slot hr).elim (fun hMem => ⟨id, hMem⟩) fun hMem => hMem
  obtain ⟨i, hMem⟩ := hSlot
  obtain ⟨s, -, _, -, hStands⟩ := Declaration.exists_of_mem_slots hMem
  cases hStands with
  | rule hRule => exact (List.getElem?_eq_some_iff.mp hRule).1

theorem wellFormed_of_build {d : Declaration} {depthLimit : Nat} {g : Grammar}
    (h : build d depthLimit engine = .ok g) : g.WellFormed := by
  have hStates : g.states.length = d.stateNames.length := by
    rw [length_states_of_build h, Declaration.stateNames, List.length_map]
  obtain ⟨-, -, root, rules, lists, hRoot, hRules, hLists, rfl⟩ := build_eq_ok_iff.mp h
  refine ⟨?_, ?_, ?_, Nat.le_max_right _ _⟩
  · rw [hStates]
    exact Includes.lt_of_idxOf?_eq_some hRoot
  · intro s hs r hr
    have hList : s.rules ∈ lists := by
      obtain ⟨i, hi⟩ := List.getElem?_of_mem hs
      obtain ⟨_, list, _, hList, rfl⟩ := List.getElem?_zipWith_eq_some.mp hi
      exact List.mem_of_getElem? hList
    obtain ⟨id, -, hFlattens⟩ :=
      exists_of_mem_of_forall₂ (Includes.flattens_of_expandAll hLists) hList
    change r < rules.length
    rw [← hRules.length_eq]
    exact lt_of_flattens hFlattens hr
  · intro rule hRule
    obtain ⟨x, -, hOk⟩ := exists_of_mem_of_forall₂ hRules hRule
    obtain ⟨_, effect, -, -, hEffect, rfl⟩ := Declaration.rule_eq_ok_iff.mp hOk
    rw [hStates]
    exact Declaration.within_of_effect hEffect

end Grammar

end Highlight
