import Highlight.Proofs.Building
import Highlight.Proofs.IncludeSearch

/-! # Which declarations make a grammar

A declaration makes a grammar if and only if it is valid: its version is known, its states have
different names, its root, its targets and its includes are declared, its patterns can be read and
have as many groups as tags, and its includes do not go round in circles. Otherwise the first fault
in this order is reported.
-/

namespace Highlight.Declaration

variable {d : Declaration} {engine : Engine}

def Includes (d : Declaration) (a b : String) : Prop :=
  ∃ s ∈ d.states, s.name = a ∧ .include b ∈ s.entries

structure HeadValid (d : Declaration) : Prop where
  version : d.version ≤ currentVersion
  distinct : d.stateNames.Nodup
  root : d.root ∈ d.stateNames

structure Valid (d : Declaration) (engine : Engine) : Prop extends HeadValid d where
  pattern : ∀ s ∈ d.states, ∀ r, .rule r ∈ s.entries → ∃ p, d.pattern? engine r = some p
  groups : ∀ s ∈ d.states, ∀ r, .rule r ∈ s.entries → ∀ p tags, d.pattern? engine r = some p →
    r.outcome = .groups tags → p.groupCount = tags.length
  target : ∀ s ∈ d.states, ∀ r, .rule r ∈ s.entries → ∀ name,
    r.action = .push name ∨ r.action = .switch name → name ∈ d.stateNames
  included : ∀ s ∈ d.states, ∀ name, .include name ∈ s.entries → name ∈ d.stateNames
  acyclic : ∀ a, ¬ Relation.TransGen d.Includes a a

/-- The error of the first check that fails. -/
inductive Rejects (d : Declaration) (engine : Engine) : GrammarError → Prop
  | version : currentVersion < d.version →
    Rejects d engine (.unsupportedVersion d.version currentVersion)
  | duplicate {pre post : List String} {name : String} : d.version ≤ currentVersion →
    d.stateNames = pre ++ name :: post → pre.Nodup → name ∈ pre →
    Rejects d engine (.duplicateState name)
  | root : d.version ≤ currentVersion → d.stateNames.Nodup → d.root ∉ d.stateNames →
    Rejects d engine (.unknownState d.root .root)
  | rule {pre post : List (String × RuleDeclaration)} {state : String} {r : RuleDeclaration}
    {e : GrammarError} : d.HeadValid → d.inlineRules = pre ++ (state, r) :: post →
    (∀ x ∈ pre, ∀ e, ¬ RuleFault d engine x.1 x.2 e) → RuleFault d engine state r e →
    Rejects d engine e
  | unknownInclude {name state : String} : d.HeadValid →
    (∀ x ∈ d.inlineRules, ∀ e, ¬ RuleFault d engine x.1 x.2 e) →
    d.Includes state name → name ∉ d.stateNames → Rejects d engine (.unknownInclude name state)
  | cyclicInclude {a state : String} {chain : List String} : d.HeadValid →
    (∀ x ∈ d.inlineRules, ∀ e, ¬ RuleFault d engine x.1 x.2 e) →
    state ∈ d.stateNames → Relation.ReflTransGen d.Includes state a →
    Relation.TransGen d.Includes a a → Rejects d engine (.cyclicInclude state chain)

abbrev slots (d : Declaration) : List (List Slot) :=
  StateDeclaration.slotsFrom 0 d.states

theorem getD_stateNames {i : Nat} {s : StateDeclaration} (h : d.states[i]? = some s) :
    d.stateNames.getD i "" = s.name := by
  simp [stateNames, List.getD_eq_getElem?_getD, h]

theorem exists_state_of_idxOf? {name : String} {i : StateId}
    (h : d.stateNames.idxOf? name = some i) : ∃ s, d.states[i]? = some s ∧ s.name = name := by
  obtain ⟨hLt, hName, -⟩ := List.idxOf?_eq_some_iff.mp h
  have hLt' : i < d.states.length := by simpa [stateNames] using hLt
  exact ⟨d.states[i], List.getElem?_eq_getElem hLt', by simpa [stateNames] using hName⟩

theorem idxOf?_of_nodup {names : List String} (hNodup : names.Nodup) {i : Nat} {name : String}
    (h : names[i]? = some name) : names.idxOf? name = some i := by
  obtain ⟨hLt, hEq⟩ := List.getElem?_eq_some_iff.mp h
  refine List.idxOf?_eq_some_iff.mpr ⟨hLt, hEq, fun j hj hSame => ?_⟩
  have hEq' := (List.Nodup.getElem_inj_iff hNodup).mp (hSame.trans hEq.symm)
  omega

theorem idxOf?_stateNames (hNodup : d.stateNames.Nodup) {i : StateId} {s : StateDeclaration}
    (hs : d.states[i]? = some s) : d.stateNames.idxOf? s.name = some i :=
  idxOf?_of_nodup hNodup (by simp [stateNames, hs])

theorem standsFor_slots {i : StateId} {s : StateDeclaration} (hs : d.states[i]? = some s) :
    List.Forall₂ (Slot.StandsFor d.inlineRules) (d.slots.getD i []) s.entries :=
  StateDeclaration.standsFor_slotsFrom [] hs

theorem exists_of_mem_slots {i : StateId} {slot : Slot} (h : slot ∈ d.slots.getD i []) :
    ∃ s, d.states[i]? = some s ∧ ∃ entry ∈ s.entries, Slot.StandsFor d.inlineRules slot entry := by
  cases hs : d.states[i]? with
  | none =>
    have hSlots : d.slots[i]? = none := by
      rw [List.getElem?_eq_none_iff, StateDeclaration.length_slotsFrom]
      exact List.getElem?_eq_none_iff.mp hs
    rw [List.getD_eq_getElem?_getD, hSlots] at h
    exact absurd h List.not_mem_nil
  | some s => exact ⟨s, rfl, exists_of_mem_of_forall₂ (standsFor_slots hs).flip h⟩

theorem includes_of_mem_slots {i : StateId} {name : String}
    (h : .include name ∈ d.slots.getD i []) : d.Includes (d.stateNames.getD i "") name := by
  obtain ⟨s, hs, _, hEntry, hStands⟩ := exists_of_mem_slots h
  cases hStands
  exact ⟨s, List.mem_of_getElem? hs, (getD_stateNames hs).symm, hEntry⟩

theorem getD_of_idxOf?_eq_some {names : List String} {name : String} {i : Nat}
    (h : names.idxOf? name = some i) : names.getD i "" = name := by
  obtain ⟨hLt, hEq, -⟩ := List.idxOf?_eq_some_iff.mp h
  rw [List.getD_eq_getElem?_getD, List.getElem?_eq_getElem hLt, hEq]
  rfl

theorem includes_of_edge {i j : StateId} (h : Includes.Edge d.stateNames d.slots i j) :
    d.Includes (d.stateNames.getD i "") (d.stateNames.getD j "") := by
  obtain ⟨name, hMem, hj⟩ := h
  rw [getD_of_idxOf?_eq_some hj]
  exact includes_of_mem_slots hMem

theorem include_mem_slots (hNodup : d.stateNames.Nodup) {a b : String} {i : StateId}
    (hi : d.stateNames.idxOf? a = some i) (h : d.Includes a b) :
    .include b ∈ d.slots.getD i [] := by
  obtain ⟨s, hs, rfl, hEntry⟩ := h
  obtain ⟨j, hj⟩ := List.getElem?_of_mem hs
  cases hi.symm.trans (idxOf?_stateNames hNodup hj)
  obtain ⟨slot, hSlot, hStands⟩ := exists_of_mem_of_forall₂ (standsFor_slots hj) hEntry
  cases hStands
  exact hSlot

theorem mem_stateNames_of_includes {a b : String} (h : d.Includes a b) : a ∈ d.stateNames := by
  obtain ⟨s, hs, rfl, -⟩ := h
  exact List.mem_map_of_mem hs

theorem exists_idxOf?_of_mem {names : List String} {name : String} (h : name ∈ names) :
    ∃ i, names.idxOf? name = some i :=
  Option.isSome_iff_exists.mp (List.isSome_idxOf?.mpr h)

theorem acc_includes (hNodup : d.stateNames.Nodup) {i : StateId}
    (h : Acc (fun b a => Includes.Edge d.stateNames d.slots a b) i) {a : String}
    (ha : d.stateNames.idxOf? a = some i) : Acc (fun b a => d.Includes a b) a := by
  induction h generalizing a with
  | intro i _ ih =>
    refine .intro a fun b hab => ?_
    cases hb : d.stateNames.idxOf? b with
    | none =>
      -- What is not declared includes nothing.
      refine .intro b fun c hbc => ?_
      exact absurd (mem_stateNames_of_includes hbc) (List.idxOf?_eq_none_iff.mp hb)
    | some j => exact ih j ⟨b, include_mem_slots hNodup ha hab, hb⟩ hb

theorem flattens_state {lists : List (List RuleId)}
    (h : Includes.expandAll d.stateNames d.slots = .ok lists) {a : String} {i : StateId}
    (ha : d.stateNames.idxOf? a = some i) :
    ∃ rules, Includes.Flattens d.stateNames d.slots (d.slots.getD i []) rules := by
  have hLt := Includes.lt_of_idxOf?_eq_some ha
  have hAll := Includes.flattens_of_expandAll h
  have hRange : i < (List.range d.stateNames.length).length := by rwa [List.length_range]
  have hLists : i < lists.length := by rwa [← hAll.length_eq]
  refine ⟨lists[i], ?_⟩
  simpa using hAll.get hRange hLists

theorem included_of_expandAll (hNodup : d.stateNames.Nodup) {lists : List (List RuleId)}
    (h : Includes.expandAll d.stateNames d.slots = .ok lists) {a b : String}
    (hab : d.Includes a b) : b ∈ d.stateNames := by
  obtain ⟨i, hi⟩ := exists_idxOf?_of_mem (mem_stateNames_of_includes hab)
  obtain ⟨rules, hFlattens⟩ := flattens_state h hi
  obtain ⟨j, hj⟩ := hFlattens.exists_idxOf? (include_mem_slots hNodup hi hab)
  exact List.isSome_idxOf?.mp (by rw [hj]; rfl)

theorem acyclic_of_expandAll (hNodup : d.stateNames.Nodup) {lists : List (List RuleId)}
    (h : Includes.expandAll d.stateNames d.slots = .ok lists) (a : String) :
    ¬ Relation.TransGen d.Includes a a := by
  intro hLoop
  obtain ⟨b, hab, -⟩ := Relation.TransGen.head'_iff.mp hLoop
  obtain ⟨i, hi⟩ := exists_idxOf?_of_mem (mem_stateNames_of_includes hab)
  obtain ⟨rules, hFlattens⟩ := flattens_state h hi
  exact Includes.not_transGen_self (acc_includes hNodup hFlattens.acc_state hi) hLoop

theorem exists_of_expandAll_eq_error {e : GrammarError}
    (h : Includes.expandAll d.stateNames d.slots = .error e) :
    (∃ state name, d.Includes state name ∧ name ∉ d.stateNames ∧ e = .unknownInclude name state) ∨
    ∃ state chain a, state ∈ d.stateNames ∧ Relation.ReflTransGen d.Includes state a ∧
      Relation.TransGen d.Includes a a ∧ e = .cyclicInclude state chain := by
  obtain ⟨i, _, hLt, -, hBlocked⟩ := Includes.blocked_of_expandAll h
  cases hBlocked with
  | undeclared _ hMem hNone =>
    exact .inl ⟨_, _, includes_of_mem_slots hMem, List.idxOf?_eq_none_iff.mp hNone, rfl⟩
  | endless hWalk hLong =>
    rw [List.singleton_append, List.length_cons] at hLong
    obtain ⟨j, hReach, hLoop⟩ := Includes.exists_transGen_self hWalk.isChain hLt (by omega)
    refine .inr ⟨d.stateNames.getD i "", _, d.stateNames.getD j "", ?_, ?_, ?_, rfl⟩
    · rw [List.getD_eq_getElem?_getD, List.getElem?_eq_getElem hLt]
      exact List.getElem_mem hLt
    · exact hReach.lift (d.stateNames.getD · "") fun _ _ => includes_of_edge
    · exact hLoop.lift (d.stateNames.getD · "") fun _ _ => includes_of_edge

theorem Valid.not_ruleFault (h : d.Valid engine) {x : String × RuleDeclaration} (hx : x ∈ d.inlineRules)
    (e : GrammarError) : ¬ RuleFault d engine x.1 x.2 e := by
  obtain ⟨s, hs, -, hr⟩ := mem_inlineRules.mp hx
  rintro (hPattern | ⟨hPattern, hOutcome, hNe⟩ | ⟨-, -, hAction, hMem⟩)
  · obtain ⟨p, hp⟩ := h.pattern s hs x.2 hr
    cases hPattern.symm.trans hp
  · exact hNe (h.groups s hs x.2 hr _ _ hPattern hOutcome)
  · exact hMem (h.target s hs x.2 hr _ hAction)

theorem Valid.exists_expandAll_eq_ok (h : d.Valid engine) :
    ∃ lists, Includes.expandAll d.stateNames d.slots = .ok lists := by
  rw [exists_ok_iff]
  intro e he
  obtain ⟨state, name, ⟨s, hs, -, hEntry⟩, hMem, -⟩ | ⟨_, _, a, -, -, hLoop, -⟩ :=
    exists_of_expandAll_eq_error he
  · exact hMem (h.included s hs name hEntry)
  · exact h.acyclic a hLoop

theorem exists_build_eq_ok_iff (depthLimit : Nat) :
    (∃ g, Grammar.build d depthLimit engine = .ok g) ↔ d.Valid engine := by
  constructor
  · rintro ⟨g, h⟩
    obtain ⟨hVersion, hNodup, root, rules, lists, hRoot, hRules, hLists, -⟩ :=
      Grammar.build_eq_ok_iff.mp h
    have hRule : ∀ s ∈ d.states, ∀ r, .rule r ∈ s.entries →
        ∃ rule, d.rule engine s.name r = .ok rule := by
      intro s hs r hr
      exact exists_mapM_eq_ok_iff.mp ⟨rules, mapM_eq_ok_iff.mpr hRules⟩ (s.name, r)
        (mem_inlineRules.mpr ⟨s, hs, rfl, hr⟩)
    exact {
      version := hVersion
      distinct := hNodup
      root := List.isSome_idxOf?.mp (by rw [hRoot]; rfl)
      pattern := fun s hs r hr => by
        obtain ⟨rule, hOk⟩ := hRule s hs r hr
        obtain ⟨p, -, hp, -⟩ := rule_eq_ok_iff.mp hOk
        exact ⟨p, hp⟩
      groups := fun s hs r hr p tags hp hTags => by
        obtain ⟨rule, hOk⟩ := hRule s hs r hr
        obtain ⟨p', -, hp', hGroups, -⟩ := rule_eq_ok_iff.mp hOk
        cases hp.symm.trans hp'
        exact hGroups tags hTags
      target := fun s hs r hr name hName => by
        by_contra hMem
        obtain ⟨rule, hOk⟩ := hRule s hs r hr
        obtain ⟨p, effect, -, -, hEffect, -⟩ := rule_eq_ok_iff.mp hOk
        cases hEffect.symm.trans (effect_eq_error_iff.mpr ⟨name, hName, hMem, rfl⟩)
      included := fun s hs name hName => included_of_expandAll hNodup hLists ⟨s, hs, rfl, hName⟩
      acyclic := acyclic_of_expandAll hNodup hLists }
  · intro h
    obtain ⟨root, hRoot⟩ := exists_idxOf?_of_mem h.root
    obtain ⟨rules, hRules⟩ := exists_mapM_eq_ok_iff.mpr fun x hx =>
      exists_rule_eq_ok_iff.mpr (h.not_ruleFault hx)
    obtain ⟨lists, hLists⟩ := h.exists_expandAll_eq_ok
    exact ⟨_, Grammar.build_eq_ok_iff.mpr ⟨h.version, h.distinct, root, rules, lists, hRoot,
      mapM_eq_ok_iff.mp hRules, hLists, rfl⟩⟩

theorem rejects_of_build_eq_error {depthLimit : Nat} {e : GrammarError}
    (h : Grammar.build d depthLimit engine = .error e) : d.Rejects engine e := by
  rw [Grammar.build_eq, lookup_index] at h
  split at h
  · rename_i hVersion
    cases h
    exact .version hVersion
  · rename_i hVersion
    have hVersion := UInt32.not_lt.mp hVersion
    split at h
    · rename_i name hRepeated
      cases h
      obtain ⟨pre, post, hNames, hNodup, -, hName⟩ := exists_of_firstRepeated?_eq_some hRepeated
      exact .duplicate hVersion hNames hNodup (hName.resolve_right List.not_mem_nil)
    · rename_i hRepeated
      have hNodup := (firstRepeated?_eq_none_iff.mp hRepeated).1
      split at h
      · rename_i hRoot
        cases h
        exact .root hVersion hNodup (List.idxOf?_eq_none_iff.mp hRoot)
      · rename_i root hRoot
        have hHead : d.HeadValid :=
          ⟨hVersion, hNodup, List.isSome_idxOf?.mp (by rw [hRoot]; rfl)⟩
        rcases except_bind_eq_error_iff.mp h with h | ⟨rules, hRules, h⟩
        · obtain ⟨pre, ⟨state, r⟩, post, hSplit, hPre, hFault⟩ := mapM_eq_error_iff.mp h
          exact .rule hHead hSplit (fun x hx => exists_rule_eq_ok_iff.mp (hPre x hx))
            (rule_eq_error_iff.mp hFault)
        · have hSound : ∀ x ∈ d.inlineRules, ∀ e, ¬ RuleFault d engine x.1 x.2 e := fun x hx =>
            exists_rule_eq_ok_iff.mp (exists_mapM_eq_ok_iff.mp ⟨rules, hRules⟩ x hx)
          rcases except_bind_eq_error_iff.mp h with h | ⟨_, _, h⟩
          · obtain ⟨state, name, hIncludes, hMem, rfl⟩ |
              ⟨state, chain, a, hState, hReach, hLoop, rfl⟩ := exists_of_expandAll_eq_error h
            · exact .unknownInclude hHead hSound hIncludes hMem
            · exact .cyclicInclude hHead hSound hState hReach hLoop
          · cases h

/-- Validation is exact, and the error that is reported is that of the first check that fails. -/
theorem build_validates (d : Declaration) (depthLimit : Nat) (engine : Engine) :
    ((∃ g, Grammar.build d depthLimit engine = .ok g) ↔ d.Valid engine) ∧
      ∀ e, Grammar.build d depthLimit engine = .error e → d.Rejects engine e :=
  ⟨exists_build_eq_ok_iff depthLimit, fun _ => rejects_of_build_eq_error⟩

end Highlight.Declaration
