import Highlight.Proofs.CaseTables
import Highlight.Proofs.RulePositions

/-! # Built grammars represent their declarations

The engine looks up states and rules by position and trusts what building has put there: positions
and names of states belong to each other, every target is a state with the declared name, every rule
is in the list of the state that declares it, and tags and keys are in their final form.
-/

namespace Highlight

open Text Unicode

namespace CaseTable

theorem mem_entries_foldl_insert {es : List (String × String)} {t : CaseTable}
    {x : String × String} (h : x ∈ (es.foldl (fun t e => t.insert e.1 e.2) t).entries) :
    x ∈ t.entries ∨ x ∈ es := by
  induction es generalizing t with
  | nil => exact .inl h
  | cons e es ih =>
    rcases ih h with h | h
    · rcases mem_insertEntry h with rfl | h
      · exact .inr List.mem_cons_self
      · exact .inl h
    · exact .inr (List.mem_cons_of_mem e h)

theorem mem_of_mem_ofList {es : List (String × String)} {x : String × String}
    (h : x ∈ (ofList es).entries) : x ∈ es :=
  (mem_entries_foldl_insert h).resolve_left List.not_mem_nil

end CaseTable

def Outcome.tags : Outcome → List String
  | .emit tag => [tag]
  | .cases table default => default :: table.entries.map Prod.snd
  | .bracket tag _ => tag.toList
  | .groups tags => tags

def Grammar.tags (g : Grammar) : List String :=
  g.defaultTag :: (g.brackets.map (·.tag) ++ g.rules.flatMap (·.outcome.tags))

namespace Declaration

variable {d : Declaration}

theorem exists_of_mem_tags {o : Outcome} {t : String} (h : t ∈ (d.outcome o).tags) :
    ∃ u ∈ o.tags, t = d.tag u := by
  cases o with
  | emit tag => exact ⟨tag, List.mem_singleton_self tag, List.mem_singleton.mp h⟩
  | cases table default =>
    rcases List.mem_cons.mp h with rfl | h
    · exact ⟨default, List.mem_cons_self, rfl⟩
    · obtain ⟨x, hx, rfl⟩ := List.mem_map.mp h
      obtain ⟨e, he, rfl⟩ := List.mem_map.mp (CaseTable.mem_of_mem_ofList hx)
      exact ⟨e.2, List.mem_cons_of_mem _ (List.mem_map_of_mem he), rfl⟩
  | bracket tag polarity =>
    cases tag with
    | none => exact absurd h List.not_mem_nil
    | some tag => exact ⟨tag, List.mem_singleton_self tag, List.mem_singleton.mp h⟩
  | groups tags =>
    obtain ⟨u, hu, rfl⟩ := List.mem_map.mp h
    exact ⟨u, hu, rfl⟩

theorem exists_of_mem_keys {o : Outcome} {table : CaseTable} {default key : String}
    (hCases : d.outcome o = .cases table default) (hKey : key ∈ table.entries.map Prod.fst) :
    ∃ declared other, o = .cases declared other ∧
      ∃ text ∈ declared.entries.map Prod.fst, key = caseKey d.ignoreCase text := by
  cases o with
  | cases declared other =>
    cases hCases
    obtain ⟨x, hx, rfl⟩ := List.mem_map.mp hKey
    obtain ⟨e, he, rfl⟩ := List.mem_map.mp (CaseTable.mem_of_mem_ofList hx)
    exact ⟨declared, other, rfl, e.1, List.mem_map_of_mem he, rfl⟩
  | emit | bracket | groups => cases hCases

theorem tag_eq_append {u : String} (h : d.tag u ≠ "") : d.tag u = u ++ d.tagEnding := by
  rw [tag] at h ⊢
  split
  · rename_i hEmpty
    rw [if_pos hEmpty] at h
    exact absurd rfl h
  · rfl

theorem splitPattern_fst (source : String) :
    (splitPattern source).1 = true ↔ source.toList.head? = some '^' := by
  rw [splitPattern]
  split
  · rename_i cs hText
    simp [hText]
  · rename_i hText
    refine iff_of_false Bool.false_ne_true fun hHead => ?_
    obtain ⟨cs, hEq⟩ := List.head?_eq_some_iff.mp hHead
    exact hText cs hEq

variable {F : String → List RuleId} {n k : Nat}

theorem mem_positions {s : StateDeclaration} (hLe : n ≤ k) (hLt : k < n + s.inlineRules.length) :
    k ∈ positions F n s.entries := by
  obtain ⟨name, es⟩ := s
  induction es generalizing n with
  | nil => exact absurd hLt (Nat.not_lt.mpr hLe)
  | cons entry es ih =>
    cases entry with
    | rule r =>
      rw [positions]
      by_cases hEq : k = n
      · exact hEq ▸ List.mem_cons_self
      · refine List.mem_cons_of_mem _ (ih (by omega) ?_)
        change k < n + ((StateDeclaration.mk name es).inlineRules.length + 1) at hLt
        omega
    | «include» target => exact List.mem_append_right _ (ih hLe hLt)

theorem exists_of_getElem?_inlineRules {states : List StateDeclaration}
    {x : String × RuleDeclaration}
    (h : (states.flatMap fun s => s.inlineRules.map (s.name, ·))[k]? = some x) :
    ∃ i s, states[i]? = some s ∧ s.name = x.1 ∧ x.2 ∈ s.inlineRules ∧
      ((states.take i).flatMap (·.inlineRules)).length ≤ k ∧
      k < ((states.take i).flatMap (·.inlineRules)).length + s.inlineRules.length := by
  induction states generalizing k with
  | nil => cases h
  | cons first states ih =>
    rw [List.flatMap_cons, List.getElem?_append, List.length_map] at h
    split at h
    · rename_i hLt
      obtain ⟨r, hr, rfl⟩ := List.mem_map.mp (List.mem_of_getElem? h)
      exact ⟨0, first, rfl, rfl, hr, Nat.zero_le k, by simpa using hLt⟩
    · rename_i hLe
      obtain ⟨i, s, hs, hName, hr, hFrom, hTo⟩ := ih h
      refine ⟨i + 1, s, hs, hName, hr, ?_⟩
      rw [List.take_succ_cons, List.flatMap_cons, List.length_append]
      omega

theorem mem_entries_of_mem_inlineRules {s : StateDeclaration} {r : RuleDeclaration}
    (h : r ∈ s.inlineRules) : .rule r ∈ s.entries := by
  obtain ⟨entry, hEntry, hRule⟩ := List.mem_filterMap.mp h
  cases entry with
  | rule =>
    cases hRule
    exact hEntry
  | «include» => cases hRule

end Declaration

structure Grammar.Names (g : Grammar) (id : StateId) (name : String) : Prop where
  lt : id < g.states.length
  name_eq : g.stateName? id = some name
  id_eq : g.stateId? name = some id

inductive Grammar.Resolves (g : Grammar) : StackAction → Effect → Prop
  | stay : g.Resolves .stay .stay
  | push {name : String} {id : StateId} : g.Names id name → g.Resolves (.push name) (.push id)
  | pop : g.Resolves .pop .pop
  | switch {name : String} {id : StateId} : g.Names id name → g.Resolves (.switch name) (.switch id)
  | popAll : g.Resolves .popAll .popAll

/-- The rule is the declared one, ready for use. Its flags say what the engine no longer looks up in
the declaration: whether it is tried only at the start of a line, and whether its outcome needs the
captures of a match, each of which then has a tag. -/
structure Rule.Represents (rule : Rule) (g : Grammar) (d : Declaration) (engine : Engine)
    (r : RuleDeclaration) : Prop where
  source_eq : rule.source = r.pattern
  pattern_eq : d.pattern? engine r = some rule.pattern
  lineStart_iff : rule.lineStart = true ↔ r.pattern.toList.head? = some '^'
  captures_iff : rule.captures = true ↔ ∃ tags, r.outcome = .groups tags
  compiled_iff : rule.captures = true ↔ ∃ tags, rule.outcome = .groups tags
  groups : ∀ tags, rule.outcome = .groups tags → tags.length = rule.pattern.groupCount
  whole : rule.captures = false → ∀ (c : Cursor) (m : Match), g.spansOf rule c m =
    [⟨c.offset, (g.classify rule.outcome (c.textTo m.stop)).1,
      (g.classify rule.outcome (c.textTo m.stop)).2⟩]
  resolves : g.Resolves r.action rule.effect
  keys : d.ignoreCase = true → ∀ table default, rule.outcome = .cases table default →
    ∀ key ∈ table.entries.map Prod.fst, ∃ declared other, r.outcome = .cases declared other ∧
      ∃ text ∈ declared.entries.map Prod.fst, key = lowercaseText text

/-- What the engine trusts when it looks up states and rules by position. -/
structure Grammar.Represents (g : Grammar) (d : Declaration) (engine : Engine) : Prop where
  length_states : g.states.length = d.states.length
  named : ∀ name ∈ d.stateNames, ∃ id, g.Names id name
  numbered : ∀ id < g.states.length, ∃ name ∈ d.stateNames, g.Names id name
  undeclared : ∀ name, name ∉ d.stateNames → g.stateId? name = none
  beyond : ∀ id, g.states.length ≤ id → g.stateName? id = none
  root : g.Names g.root d.root
  rule_lt : ∀ s ∈ g.states, ∀ id ∈ s.rules, id < g.rules.length
  rule : ∀ (id : RuleId) (rule : Rule), g.rules[id]? = some rule →
    ∃ (i : StateId) (s : StateDeclaration) (r : RuleDeclaration) (ids : List RuleId),
      d.states[i]? = some s ∧ .rule r ∈ s.entries ∧ d.inlineRules[id]? = some (s.name, r) ∧
      rule.Represents g d engine r ∧ g.states[i]? = some ⟨s.name, ids⟩ ∧ id ∈ ids
  one_le_limit : 1 ≤ g.depthLimit
  ends : ∀ t ∈ g.tags, t ≠ "" → ∃ u, t = u ++ d.tagEnding

namespace Grammar

variable {d : Declaration} {depthLimit : Nat} {engine : Engine} {g : Grammar}

theorem names_of_build (h : build d depthLimit engine = .ok g) {i : StateId} {s : StateDeclaration}
    (hs : d.states[i]? = some s) : g.Names i s.name where
  lt := by
    rw [length_states_of_build h]
    exact (List.getElem?_eq_some_iff.mp hs).1
  name_eq := by
    rw [stateName?_eq, stateNames_of_build h]
    simp [Declaration.stateNames, hs]
  id_eq := by
    rw [stateId?_of_build h, stateNames_of_build h]
    exact Declaration.idxOf?_stateNames (nodup_stateNames_of_build h) hs

theorem names_of_idxOf? (h : build d depthLimit engine = .ok g) {i : StateId} {name : String}
    (hi : d.stateNames.idxOf? name = some i) : g.Names i name := by
  obtain ⟨s, hs, rfl⟩ := Declaration.exists_state_of_idxOf? hi
  exact names_of_build h hs

theorem resolves_of_effect (h : build d depthLimit engine = .ok g) {state pattern : String}
    {a : StackAction} {e : Effect} (he : d.effect state pattern a = .ok e) : g.Resolves a e := by
  cases a with
  | stay =>
    cases he
    exact .stay
  | pop =>
    cases he
    exact .pop
  | popAll =>
    cases he
    exact .popAll
  | push name =>
    obtain ⟨id, hTarget, he⟩ := except_bind_eq_ok_iff.mp he
    cases he
    exact .push (names_of_idxOf? h (Declaration.target_eq_ok_iff.mp hTarget))
  | switch name =>
    obtain ⟨id, hTarget, he⟩ := except_bind_eq_ok_iff.mp he
    cases he
    exact .switch (names_of_idxOf? h (Declaration.target_eq_ok_iff.mp hTarget))

theorem represents_rule (h : build d depthLimit engine = .ok g) {state : String}
    {r : RuleDeclaration} {rule : Rule} (hOk : d.rule engine state r = .ok rule) :
    rule.Represents g d engine r := by
  obtain ⟨p, effect, hp, hGroups, hEffect, rfl⟩ := Declaration.rule_eq_ok_iff.mp hOk
  refine {
    source_eq := rfl
    pattern_eq := hp
    lineStart_iff := Declaration.splitPattern_fst r.pattern
    captures_iff := ?_
    compiled_iff := ?_
    groups := fun tags hTags => ?_
    whole := fun hNot c m => by rw [spansOf, if_neg (Bool.eq_false_iff.mp hNot), wholeSpan]
    resolves := resolves_of_effect h hEffect
    keys := fun hIgnore table default hCases key hKey => ?_ }
  · cases r.outcome <;> simp [Outcome.isGroups]
  · cases r.outcome <;> simp [Outcome.isGroups, Declaration.outcome]
  · dsimp only at hTags
    cases hOutcome : r.outcome with
    | groups declared =>
      rw [hOutcome] at hTags
      cases hTags
      rw [List.length_map]
      exact (hGroups declared hOutcome).symm
    | emit | cases | bracket =>
      rw [hOutcome] at hTags
      cases hTags
  · obtain ⟨declared, other, hDeclared, text, hText, hEq⟩ :=
      Declaration.exists_of_mem_keys hCases hKey
    rw [hIgnore] at hEq
    exact ⟨declared, other, hDeclared, text, hText, hEq⟩

theorem exists_state_of_inlineRules (h : build d depthLimit engine = .ok g) {id : RuleId}
    {name : String} {r : RuleDeclaration} (hRule : d.inlineRules[id]? = some (name, r)) :
    ∃ (i : StateId) (s : StateDeclaration) (ids : List RuleId), s.name = name ∧
      d.states[i]? = some s ∧ .rule r ∈ s.entries ∧ g.states[i]? = some ⟨s.name, ids⟩ ∧
      id ∈ ids := by
  obtain ⟨i, s, hs, hName, hr, hFrom, hTo⟩ := Declaration.exists_of_getElem?_inlineRules hRule
  refine ⟨i, s, g.listOf s.name, hName, hs, Declaration.mem_entries_of_mem_inlineRules hr,
    (getElem?_states h hs).1, ?_⟩
  rw [isFlattening_listOf h i s hs]
  exact Declaration.mem_positions hFrom hTo

theorem exists_of_mem_tags (h : build d depthLimit engine = .ok g) {t : String} (ht : t ∈ g.tags) :
    ∃ u, t = d.tag u := by
  have hRules := forall₂_rules_of_build h
  obtain ⟨-, -, _, rules, _, -, -, -, rfl⟩ := build_eq_ok_iff.mp h
  rcases List.mem_cons.mp ht with rfl | ht
  · exact ⟨d.defaultTag, rfl⟩
  rcases List.mem_append.mp ht with ht | ht
  · obtain ⟨b, hb, rfl⟩ := List.mem_map.mp ht
    obtain ⟨pair, -, rfl⟩ := List.mem_map.mp hb
    exact ⟨pair.tag, rfl⟩
  · obtain ⟨rule, hRule, ht⟩ := List.mem_flatMap.mp ht
    obtain ⟨x, -, hOk⟩ := exists_of_mem_of_forall₂ hRules hRule
    obtain ⟨_, _, -, -, -, rfl⟩ := Declaration.rule_eq_ok_iff.mp hOk
    obtain ⟨u, -, hEq⟩ := Declaration.exists_of_mem_tags ht
    exact ⟨u, hEq⟩

/-- Whatever the declaration and the limit, a grammar that was built represents the declaration. -/
theorem represents_of_build (h : build d depthLimit engine = .ok g) : g.Represents d engine where
  length_states := length_states_of_build h
  named name hName := by
    obtain ⟨i, hi⟩ := Declaration.exists_idxOf?_of_mem hName
    exact ⟨i, names_of_idxOf? h hi⟩
  numbered id hId := by
    rw [length_states_of_build h] at hId
    have hs := List.getElem?_eq_getElem hId
    exact ⟨d.states[id].name, List.mem_map_of_mem (List.mem_of_getElem? hs), names_of_build h hs⟩
  undeclared name hName := by
    rw [stateId?_of_build h, stateNames_of_build h]
    exact List.idxOf?_eq_none_iff.mpr hName
  beyond id hId := by rw [stateName?, List.getElem?_eq_none_iff.mpr hId, Option.map_none]
  root := by
    obtain ⟨-, -, root, _, _, hRoot, -, -, hg⟩ := build_eq_ok_iff.mp h
    have hEq : g.root = root := by rw [hg, assemble]
    exact hEq ▸ names_of_idxOf? h hRoot
  rule_lt := (wellFormed_of_build h).rule_lt
  rule id rule hRule := by
    obtain ⟨⟨name, r⟩, hDeclared, hOk⟩ :=
      exists_getElem?_of_forall₂ (forall₂_rules_of_build h).flip hRule
    obtain ⟨i, s, ids, rfl, hs, hEntry, hState, hMem⟩ := exists_state_of_inlineRules h hDeclared
    exact ⟨i, s, r, ids, hs, hEntry, hDeclared, represents_rule h hOk, hState, hMem⟩
  one_le_limit := (wellFormed_of_build h).one_le_limit
  ends t ht hSome := by
    obtain ⟨u, rfl⟩ := exists_of_mem_tags h ht
    exact ⟨u, Declaration.tag_eq_append hSome⟩

/-- A rule that is included in front of one declared earlier, a table with two spellings of a word,
and an empty tag. -/
theorem included_rule_represented :
    let d : Declaration := {
      name := "marks", root := "line", defaultTag := "other", ignoreCase := true
      tagEnding := ".m", brackets := [⟨"(", ")", "round"⟩]
      states := [
        ⟨"line", [.rule ⟨"^(#)(x*)", .groups ["", "title"], .push "inner"⟩, .include "inner",
          .rule ⟨"[a-z]+", .ofCases "word" [("IF", "key"), ("If", "")], .stay⟩]⟩,
        ⟨"inner", [.rule ⟨"[()]", .brackets, .switch "line"⟩]⟩] }
    ∃ g, build d 0 = .ok g ∧ g.Represents d .standard ∧
      g.states.map (·.rules) = [[0, 2, 1], [2]] ∧
      g.rules.map (fun rule => (rule.lineStart, rule.captures, rule.effect)) =
        [(true, true, .push 1), (false, false, .stay), (false, false, .switch 0)] ∧
      g.tags = ["other.m", "round.m", "", "title.m", "word.m", ""] := by
  intro d
  have hRun : (build d 0).map (fun g => (g.states.map (·.rules),
      g.rules.map (fun rule => (rule.lineStart, rule.captures, rule.effect)), g.tags)) =
      .ok ([[0, 2, 1], [2]],
        [(true, true, .push 1), (false, false, .stay), (false, false, .switch 0)],
        ["other.m", "round.m", "", "title.m", "word.m", ""]) := by decide +kernel
  obtain ⟨g, hBuild, hParts⟩ := except_map_eq_ok_iff.mp hRun
  obtain ⟨hLists, hRules, hTags⟩ := by simpa only [Prod.mk.injEq] using hParts
  exact ⟨g, hBuild, represents_of_build hBuild, hLists, hRules, hTags⟩

end Grammar

end Highlight
