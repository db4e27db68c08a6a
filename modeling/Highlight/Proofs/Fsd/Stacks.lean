import Highlight.Proofs.DepthLimit
import Highlight.Proofs.Fsd.Moves

/-! # The stacks of the FSD grammar

Rules of the FSD grammar only push along the arrows of its diagram of states, and they never switch.
So every stack from the root on is a path in the diagram. A path has six states at most, and hence
no depth limit of six or more makes a difference.
-/

namespace Highlight.Fsd

open Grammar

def diagram : List (String × String) :=
  [("root", "service"), ("root", "attrName"), ("root", "markdown"), ("service", "member"),
    ("service", "attrName"), ("member", "typeName"), ("member", "attrName"),
    ("attrName", "attrValue"), ("attrValue", "string")]

/-- The states of the stack, from bottom to top, are a path in the diagram that starts at `root`. -/
structure IsPath (stack : StateStack) : Prop where
  named : stack.ids.map grammar.stateName? = (grammar.stackNames stack).map some
  starts : (grammar.stackNames stack).head? = some "root"
  follows : (grammar.stackNames stack).IsChain fun a b => (a, b) ∈ diagram

/-- What is true of a stack because it is a path in the diagram. -/
structure Disciplined (stack : StateStack) : Prop extends IsPath stack where
  bottom_eq : grammar.stateName? stack.bottom = some "root"
  whitespace_not_mem : "whitespace" ∉ grammar.stackNames stack
  attribute_not_mem : "attribute" ∉ grammar.stackNames stack
  depth_le : stack.depth ≤ 6

def arrows : List (StateId × StateId) :=
  [(At.root, At.service), (At.root, At.attrName), (At.root, At.markdown), (At.service, At.member),
    (At.service, At.attrName), (At.member, At.typeName), (At.member, At.attrName),
    (At.attrName, At.attrValue), (At.attrValue, At.string)]

/-- How far a path from the root to the state can be, at most. -/
def rank : StateId → Nat
  | At.service | At.markdown => 1
  | At.member => 2
  | At.typeName | At.attrName => 3
  | At.attrValue => 4
  | At.string => 5
  | _ => 0

def effectsAt (s : StateId) : List Effect :=
  .stay :: .pop :: (arrows.filter (·.1 = s)).map (.push ·.2)

inductive Follows : StateStack → Prop
  | root : Follows atRoot
  | push {stack : StateStack} {id : StateId} (h : Follows stack)
      (hArrow : (stack.top, id) ∈ arrows) : Follows (stack.push id)

theorem effect_mem_effectsAt {s : StateId} (hs : s ∈ At.markdown :: formal) {r : RuleId} {rule : Rule}
    (h : (r, rule) ∈ grammar.rulesAt s) : rule.effect ∈ effectsAt s := by
  have hMoves : ∀ s ∈ formal, ∀ v ∈ moves s, v.effect ∈ effectsAt s := by decide
  have hMem : (⟨rule.lineStart, rule.pattern, rule.effect⟩ : Move) ∈ grammar.movesAt s :=
    List.mem_map_of_mem h
  rcases List.mem_cons.mp hs with rfl | hs
  · have hStay : rule.effect = .stay := grammar_table.2.2.2.2.1 _ hMem
    rw [hStay]
    exact List.mem_cons_self
  · rw [movesAt_eq hs] at hMem
    exact hMoves s hs _ hMem

namespace Follows

variable {stack : StateStack} {e : Effect} {limit : Nat} {c : Text.Cursor}

theorem top_mem (h : Follows stack) : stack.top ∈ At.markdown :: formal := by
  have hTargets : ∀ x ∈ arrows, x.2 ∈ At.markdown :: formal := by decide
  cases h with
  | root => decide
  | push _ hArrow => exact hTargets _ hArrow

theorem depth_le_rank (h : Follows stack) : stack.depth ≤ rank stack.top + 1 := by
  have hUp : ∀ x ∈ arrows, rank x.1 < rank x.2 := by decide
  induction h with
  | root => exact Nat.le_refl 1
  | @push stack id _ hArrow ih =>
    have hStep : rank stack.top < rank id := hUp _ hArrow
    change stack.depth + 1 ≤ rank id + 1
    omega

theorem depth_le (h : Follows stack) : stack.depth ≤ 6 := by
  have hRank : ∀ s ∈ At.markdown :: formal, rank s ≤ 5 := by decide
  have hTop := hRank stack.top h.top_mem
  have hDepth := h.depth_le_rank
  omega

theorem pop (h : Follows stack) : Follows stack.pop := by
  cases h with
  | root => exact .root
  | push h => exact h

theorem apply (h : Follows stack) (he : e ∈ effectsAt stack.top) (limit : Nat) :
    Follows (stack.apply limit e) := by
  rw [effectsAt, List.mem_cons, List.mem_cons, List.mem_map] at he
  rcases he with rfl | rfl | ⟨⟨s, id⟩, hArrow, rfl⟩
  · exact h
  · exact h.pop
  · obtain ⟨hMem, hTop⟩ := List.mem_filter.mp hArrow
    have hTop : s = stack.top := by simpa using hTop
    rw [StateStack.apply]
    split
    · exact h
    · exact .push h (hTop ▸ hMem)

theorem refuses_eq (h : Follows stack) (he : e ∈ effectsAt stack.top) (hLimit : 6 ≤ limit) :
    stack.refuses limit e = false := by
  rw [effectsAt, List.mem_cons, List.mem_cons, List.mem_map] at he
  rcases he with rfl | rfl | ⟨⟨s, id⟩, hArrow, rfl⟩
  · rfl
  · rfl
  · obtain ⟨hMem, hTop⟩ := List.mem_filter.mp hArrow
    have hTop : s = stack.top := by simpa using hTop
    have hPushed : stack.depth + 1 ≤ 6 := (push h (hTop ▸ hMem)).depth_le
    simp only [StateStack.refuses, decide_eq_false_iff_not]
    omega

theorem step (h : Follows stack) (limit : Nat) (c : Text.Cursor) :
    Follows ((grammar.withLimit limit).step stack c).stack := by
  obtain ⟨_, rule, _, hMem, _, _, hStep⟩ | ⟨_, hStep⟩ :=
    (grammar.withLimit limit).step_cases stack c <;> rw [hStep]
  · rw [rulesAt_withLimit] at hMem
    exact h.apply (effect_mem_effectsAt h.top_mem hMem) _
  · exact h

theorem refused_step (h : Follows stack) (c : Text.Cursor) :
    (grammar.step stack c).refused = false := by
  obtain ⟨_, rule, _, hMem, _, _, hStep⟩ | ⟨_, hStep⟩ := grammar.step_cases stack c <;> rw [hStep]
  · refine h.refuses_eq (effect_mem_effectsAt h.top_mem hMem) ?_
    rw [depthLimit_eq]
    decide

theorem isChain_ids (h : Follows stack) : stack.ids.IsChain fun a b => (a, b) ∈ arrows := by
  induction h with
  | root => exact .singleton _
  | @push stack id _ hArrow ih =>
    rw [StateStack.ids_push]
    refine ih.append (.singleton id) fun a ha b hb => ?_
    cases stack.getLast?_ids.symm.trans ha
    cases hb
    exact hArrow

theorem bottom_eq (h : Follows stack) : stack.bottom = At.root := by
  induction h with
  | root => rfl
  | push _ _ ih => exact ih

theorem mem_ids (h : Follows stack) : ∀ id ∈ stack.ids, id ∈ At.root :: arrows.map (·.2) := by
  induction h with
  | root => decide
  | @push stack id _ hArrow ih =>
    rw [StateStack.ids_push]
    intro i hi
    rcases List.mem_append.mp hi with hi | hi
    · exact ih i hi
    · rw [List.mem_singleton.mp hi]
      exact List.mem_cons_of_mem _ (List.mem_map_of_mem hArrow)

theorem enter_eq (h : Follows stack) : grammar.enter stack = stack := by
  have hDeclared : ∀ id ∈ At.root :: arrows.map (·.2), id < 10 := by decide
  exact enter_of_accepts (accepts_iff.mpr fun id hid => hDeclared id (h.mem_ids id hid))

end Follows

def names : List String :=
  ["root", "service", "member", "typeName", "whitespace", "attribute", "attrName", "attrValue",
    "string", "markdown"]

def nameAt (id : StateId) : String := names.getD id ""

theorem stateNames_eq : grammar.stateNames = names := grammar_table.2.2.1

theorem stateName?_eq_nameAt {id : StateId} (h : id < 10) :
    grammar.stateName? id = some (nameAt id) := by
  have hLength : id < names.length := h
  rw [stateName?_eq, stateNames_eq, nameAt, List.getD_eq_getElem?_getD,
    List.getElem?_eq_getElem hLength]
  rfl

theorem stateName?_eq_some_iff {id : StateId} {name : String} :
    grammar.stateName? id = some name ↔ names.idxOf? name = some id := by
  rw [stateName?_eq, stateNames_eq]
  constructor
  · exact Declaration.idxOf?_of_nodup (by decide)
  · intro h
    obtain ⟨hLt, hName, -⟩ := List.idxOf?_eq_some_iff.mp h
    rw [List.getElem?_eq_getElem hLt, hName]

theorem Follows.stackNames_eq {stack : StateStack} (h : Follows stack) :
    grammar.stackNames stack = stack.ids.map nameAt ∧
      stack.ids.map grammar.stateName? = (stack.ids.map nameAt).map some := by
  have hDeclared : ∀ id ∈ At.root :: arrows.map (·.2), id < 10 := by decide
  have hName : ∀ id ∈ stack.ids, grammar.stateName? id = some (nameAt id) := fun id hid =>
    stateName?_eq_nameAt (hDeclared id (h.mem_ids id hid))
  have hNames : stack.ids.map grammar.stateName? = (stack.ids.map nameAt).map some := by
    rw [List.map_map]
    exact List.map_congr_left hName
  refine ⟨?_, hNames⟩
  rw [stackNames, List.filterMap_congr hName]
  exact congrFun List.filterMap_eq_map' stack.ids

theorem Follows.disciplined {stack : StateStack} (h : Follows stack) : Disciplined stack := by
  obtain ⟨hStackNames, hNames⟩ := h.stackNames_eq
  have hArrows : ∀ x ∈ arrows, (nameAt x.1, nameAt x.2) ∈ diagram := by decide
  have hGroups : ∀ id ∈ At.root :: arrows.map (·.2),
      nameAt id ≠ "whitespace" ∧ nameAt id ≠ "attribute" := by decide
  refine ⟨⟨?_, ?_, ?_⟩, ?_, ?_, ?_, h.depth_le⟩
  · rw [hNames, hStackNames]
  · rw [hStackNames, StateStack.ids, List.map_cons, h.bottom_eq]
    rfl
  · rw [hStackNames, List.isChain_map]
    exact h.isChain_ids.imp fun a b hArrow => hArrows (a, b) hArrow
  · rw [h.bottom_eq, stateName?_eq_nameAt (by decide)]
    rfl
  · rw [hStackNames, List.mem_map]
    rintro ⟨id, hid, hName⟩
    exact (hGroups id (h.mem_ids id hid)).1 hName
  · rw [hStackNames, List.mem_map]
    rintro ⟨id, hid, hName⟩
    exact (hGroups id (h.mem_ids id hid)).2 hName

theorem preserves_follows (limit : Nat) : (grammar.withLimit limit).Preserves Follows where
  enter stack h := by rw [enter_withLimit, h.enter_eq]
  step _ c h := h.step limit c

theorem grammar_preserves : grammar.Preserves Follows := by
  have hPreserves := preserves_follows grammar.depthLimit
  rwa [withLimit_depthLimit] at hPreserves

theorem follows_initial : Follows grammar.initial := by
  rw [initial_eq]
  exact .root

theorem run_limit_six {limit : Nat} (hLimit : 6 ≤ limit) (text : String) :
    (grammar.withLimit limit).run text = (grammar.withLimit 6).run text := by
  refine (run_withLimit (wellFormed_of_build build_declaration) (by omega) hLimit ?_).symm
  intro steps hSteps s hs
  obtain ⟨stack, c, h, rfl⟩ := (preserves_follows limit).exists_of_mem_traceLines
    follows_initial steps hSteps s hs
  exact (h.step limit c).depth_le

/-- Every stack that tokenizing lines from the root leads to, after each step and after each line,
is a path in the diagram of states. No push is refused, and no limit that leaves room for the
longest path changes any run. -/
theorem stacks_follow_diagram :
    Disciplined grammar.initial ∧
    (∀ lines, (∀ t ∈ grammar.tokenizeLines grammar.initial lines, Disciplined t.stack) ∧
      ∀ steps ∈ grammar.traceLines grammar.initial lines, ∀ s ∈ steps,
        Disciplined s.stack ∧ s.refused = false) ∧
    ∀ limit, 6 ≤ limit → ∃ g, build declaration limit = .ok g ∧ g.stateNames = grammar.stateNames ∧
      ∀ text, g.run text = grammar.run text := by
  have hPreserves := preserves_follows grammar.depthLimit
  rw [withLimit_depthLimit] at hPreserves
  refine ⟨follows_initial.disciplined, fun lines => ⟨fun t ht => ?_, fun steps hSteps s hs => ?_⟩,
    fun limit hLimit => ⟨_, build_withLimit build_declaration limit,
      stateNames_withLimit grammar _, fun text => ?_⟩⟩
  · exact (hPreserves.of_mem_tokenizeLines follows_initial t ht).disciplined
  · obtain ⟨stack, c, h, rfl⟩ := hPreserves.exists_of_mem_traceLines follows_initial steps hSteps s hs
    exact ⟨(hPreserves.step stack c h).disciplined, h.refused_step c⟩
  · have hUsual : 6 ≤ grammar.depthLimit := by rw [depthLimit_eq]; decide
    calc
      (grammar.withLimit (max limit 1)).run text = (grammar.withLimit 6).run text :=
        run_limit_six (by omega) text
      _ = (grammar.withLimit grammar.depthLimit).run text := (run_limit_six hUsual text).symm
      _ = grammar.run text := by rw [withLimit_depthLimit]

/-- A service, a member, an attribute and its value, and a quoted text that goes on in the next
line: the longest path, for which a limit of six is enough. -/
theorem deepest_follows_diagram :
    (Disciplined (grammar.tokenizeLine grammar.initial "service A \x7b data B \x7b").stack ∧
      ∃ steps ∈ grammar.traceLines grammar.initial ["service A \x7b data B \x7b", "[x(y: \"z\\"],
        ∃ s ∈ steps, s.stack.depth = 6 ∧ Disciplined s.stack ∧ s.refused = false) ∧
    6 ≤ 6 ∧ ∃ g, build declaration 6 = .ok g ∧ g.stateNames = grammar.stateNames ∧
      ∀ text, g.run text = grammar.run text := by
  obtain ⟨-, hLines, hLimit⟩ := stacks_follow_diagram
  obtain ⟨hEnds, hSteps⟩ := hLines ["service A \x7b data B \x7b", "[x(y: \"z\\"]
  have hDeep : ∃ steps ∈ grammar.traceLines grammar.initial
      ["service A \x7b data B \x7b", "[x(y: \"z\\"], ∃ s ∈ steps, s.stack.depth = 6 := by
    decide +kernel
  obtain ⟨steps, hMem, s, hs, hDepth⟩ := hDeep
  exact ⟨⟨hEnds _ List.mem_cons_self, steps, hMem, s, hs, hDepth, hSteps steps hMem s hs⟩,
    Nat.le_refl 6, hLimit 6 (Nat.le_refl 6)⟩

end Highlight.Fsd
