import Highlight.Proofs.Simulation

/-! # The depth limit

A declaration makes the same grammar under every depth limit, but for the limit. A step under a
limit that leaves a stack no deeper than a smaller limit is the same under that one. So a run whose
stacks stay within the smaller limit does not depend on which of the two holds. A push that the
limit refuses tags and passes its text like one that is accepted, and leaves the stack as it was.
-/

namespace Highlight

open Text

theorem StateStack.apply_of_depth_le {s : StateStack} {m n : Nat} {e : Effect} (hLe : m ≤ n)
    (hDepth : (s.apply n e).depth ≤ m) :
    s.apply m e = s.apply n e ∧ s.refuses m e = s.refuses n e := by
  cases e with
  | stay | pop | switch | popAll => exact ⟨rfl, rfl⟩
  | push id =>
    simp only [apply, refuses] at hDepth ⊢
    by_cases hFull : n ≤ s.depth
    · simp [hFull, Nat.le_trans hLe hFull]
    · rw [if_neg hFull] at hDepth
      -- The pushed state fits under the smaller limit.
      have hRoom : ¬m ≤ s.depth := Nat.not_le.mpr hDepth
      simp [hFull, hRoom]

namespace Grammar

def withLimit (g : Grammar) (limit : Nat) : Grammar := { g with depthLimit := limit }

section WithLimit

variable (g : Grammar) (limit : Nat)

@[simp] theorem withLimit_depthLimit : g.withLimit g.depthLimit = g := rfl

@[simp] theorem stateNames_withLimit : (g.withLimit limit).stateNames = g.stateNames := rfl

@[simp] theorem rulesAt_withLimit (id : StateId) :
    (g.withLimit limit).rulesAt id = g.rulesAt id := rfl

@[simp] theorem enter_withLimit (stack : StateStack) :
    (g.withLimit limit).enter stack = g.enter stack := rfl

end WithLimit

variable {g : Grammar} {m n : Nat} {stack : StateStack} {c : Cursor}

theorem build_withLimit {d : Declaration} {depthLimit : Nat} {engine : Engine}
    (h : build d depthLimit engine = .ok g) (limit : Nat) :
    build d limit engine = .ok (g.withLimit (max limit 1)) := by
  obtain ⟨hVersion, hNodup, root, rules, lists, hRoot, hRules, hLists, rfl⟩ := build_eq_ok_iff.mp h
  exact build_eq_ok_iff.mpr ⟨hVersion, hNodup, root, rules, lists, hRoot, hRules, hLists, rfl⟩

theorem WellFormed.withLimit (h : g.WellFormed) {limit : Nat} (hLimit : 1 ≤ limit) :
    (g.withLimit limit).WellFormed :=
  ⟨h.root_lt, h.rule_lt, h.target_within, hLimit⟩

theorem step_withLimit (hLe : m ≤ n)
    (hDepth : ((g.withLimit n).step stack c).stack.depth ≤ m) :
    (g.withLimit m).step stack c = (g.withLimit n).step stack c := by
  have hSame : ∀ limit id, (g.withLimit limit).firstMatch? id c = g.firstMatch? id c :=
    fun _ _ => rfl
  cases hFirst : g.firstMatch? stack.top c with
  | none =>
    simp only [step, hSame, hFirst]
    rfl
  | some found =>
    simp only [step, hSame, hFirst] at hDepth ⊢
    obtain ⟨hApply, hRefuses⟩ := StateStack.apply_of_depth_le hLe hDepth
    simp only [withLimit] at hApply hRefuses ⊢
    rw [hApply, hRefuses]
    rfl

theorem mirrors_withLimit (hg : g.WellFormed) (hPos : 1 ≤ n) (hLe : m ≤ n) :
    (g.withLimit n).Mirrors (g.withLimit m) id fun s => s.stack.depth ≤ m where
  wellFormed := hg.withLimit hPos
  initial_eq := ((g.withLimit n).initial.map_id).symm
  accepts stack hStack := by
    rw [stack.map_id]
    exact hStack
  step stack c _ hDepth := by
    rw [stack.map_id, step_withLimit hLe hDepth]
    exact ⟨rfl, rfl, rfl, rfl, rfl, (StateStack.map_id _).symm, rfl⟩

theorem run_withLimit (hg : g.WellFormed) (hPos : 1 ≤ n) (hLe : m ≤ n) {text : String}
    (hDepth : ∀ steps ∈ (g.withLimit n).traceLines g.initial (Text.lines text), ∀ s ∈ steps,
      s.stack.depth ≤ m) : (g.withLimit m).run text = (g.withLimit n).run text := by
  rw [(mirrors_withLimit hg hPos hLe).run_map hDepth, Run.mapStacks_id]

theorem depth_le_of_maxDepth_le {lines : List String} {k : Nat} {n : Counters}
    (h : (g.runLines stack n lines).counters.maxDepth ≤ k) :
    n.maxDepth ≤ k ∧ ∀ steps ∈ g.traceLines stack lines, ∀ s ∈ steps, s.stack.depth ≤ k := by
  induction lines generalizing stack n with
  | nil => exact ⟨h, fun _ hs => absurd hs List.not_mem_nil⟩
  | cons line lines ih =>
    obtain ⟨hMax, hLater⟩ := ih h
    obtain ⟨hCounted, hPeak⟩ := Nat.max_le.mp hMax
    obtain ⟨-, hLine⟩ := peakDepth_le_iff.mp hPeak
    exact ⟨hCounted, List.forall_mem_cons.mpr ⟨hLine, hLater⟩⟩

theorem run_of_maxDepth_le (hg : g.WellFormed) (hPos : 1 ≤ n) (hLe : m ≤ n) {text : String}
    (hDepth : ((g.withLimit n).run text).counters.maxDepth ≤ m) :
    (g.withLimit m).run text = (g.withLimit n).run text :=
  run_withLimit hg hPos hLe (depth_le_of_maxDepth_le hDepth).2

end Grammar

theorem StateStack.exists_push_of_refuses {s : StateStack} {m : Nat} {e : Effect}
    (h : s.refuses m e = true) :
    s.apply m e = s ∧ ∃ target, ∀ n, s.depth < n →
      s.refuses n e = false ∧ s.apply n e = s.push target := by
  cases e with
  | stay | pop | switch | popAll => cases h
  | push target =>
    have hFull : m ≤ s.depth := by simpa [refuses] using h
    refine ⟨if_pos hFull, target, fun n hRoom => ?_⟩
    have hNot : ¬n ≤ s.depth := Nat.not_le.mpr hRoom
    exact ⟨by simpa [refuses] using hRoom, if_neg hNot⟩

/-- The second step is made by the same rule at the same place, with the same spans, and passes the
same text. -/
structure Step.PassesAlike (s s' : Step) : Prop where
  state_eq : s'.state = s.state
  start_eq : s'.start = s.start
  matched_eq : s'.matched = s.matched
  spans_eq : s'.spans = s.spans
  cursor_eq : s'.cursor = s.cursor

namespace Grammar

variable {g : Grammar} {m : Nat} {stack : StateStack} {c : Cursor}

theorem step_of_refused (h : ((g.withLimit m).step stack c).refused = true) :
    ((g.withLimit m).step stack c).stack = stack ∧
      ∃ target, ∀ n, stack.depth < n →
        ((g.withLimit n).step stack c).refused = false ∧
        ((g.withLimit n).step stack c).stack = stack.push target ∧
        ((g.withLimit n).step stack c).PassesAlike ((g.withLimit m).step stack c) := by
  have hSame : ∀ limit id, (g.withLimit limit).firstMatch? id c = g.firstMatch? id c :=
    fun _ _ => rfl
  cases hFirst : g.firstMatch? stack.top c with
  | none =>
    simp only [step, hSame, hFirst] at h
    cases h
  | some found =>
    obtain ⟨id, rule, found⟩ := found
    simp only [step, hSame, hFirst] at h ⊢
    obtain ⟨hKept, target, hPush⟩ := StateStack.exists_push_of_refuses h
    refine ⟨hKept, target, fun n hRoom => ?_⟩
    obtain ⟨hAccepted, hPushed⟩ := hPush n hRoom
    exact ⟨hAccepted, hPushed, rfl, rfl, rfl, rfl, rfl⟩

/-- The limit shows only where it is hit. A run that gets no deeper than a smaller limit is the run
under that one, and a push that a limit refuses does all that it does under a limit that leaves
room, but for the stack. A limit of zero is a limit of one. -/
theorem depth_limit_transparent {d : Declaration} {depthLimit : Nat} {engine : Engine}
    {g : Grammar}
    (h : build d depthLimit engine = .ok g) :
    (∀ limit, build d limit engine = .ok (g.withLimit (max limit 1))) ∧
    (∀ m n, max m 1 ≤ max n 1 → ∀ text,
      ((g.withLimit (max n 1)).run text).counters.maxDepth ≤ max m 1 →
        (g.withLimit (max m 1)).run text = (g.withLimit (max n 1)).run text) ∧
    ∀ m stack c, ((g.withLimit (max m 1)).step stack c).refused = true →
      ((g.withLimit (max m 1)).step stack c).stack = stack ∧
      ∃ target, ∀ n, stack.depth < n →
        ((g.withLimit n).step stack c).refused = false ∧
        ((g.withLimit n).step stack c).stack = stack.push target ∧
        ((g.withLimit n).step stack c).PassesAlike ((g.withLimit (max m 1)).step stack c) := by
  have hg := wellFormed_of_build h
  refine ⟨build_withLimit h, fun m n hLe text hDepth => ?_, fun m stack c hRefused => ?_⟩
  · exact run_of_maxDepth_le hg (Nat.le_max_right n 1) hLe hDepth
  · exact step_of_refused hRefused

theorem fsd_depth_limit_transparent :
    build Fsd.declaration = .ok Fsd.grammar ∧
      max 2 1 ≤ max 100 1 ∧
      ((Fsd.grammar.withLimit 100).run "service A \x7b").counters.maxDepth ≤ 2 ∧
      (Fsd.grammar.withLimit 2).run "service A \x7b" =
        (Fsd.grammar.withLimit 100).run "service A \x7b" ∧
      ((Fsd.grammar.withLimit 2).step ⟨0, [1]⟩ (.ofLine "\x7b a")).refused = true ∧
      ((Fsd.grammar.withLimit 2).step ⟨0, [1]⟩ (.ofLine "\x7b a")).stack = ⟨0, [1]⟩ ∧
      ((Fsd.grammar.withLimit 3).step ⟨0, [1]⟩ (.ofLine "\x7b a")).PassesAlike
        ((Fsd.grammar.withLimit 2).step ⟨0, [1]⟩ (.ofLine "\x7b a")) := by
  obtain ⟨-, hRun, hStep⟩ := depth_limit_transparent Fsd.build_declaration
  obtain ⟨hDepth, hRefused⟩ :
      ((Fsd.grammar.withLimit 100).run "service A \x7b").counters.maxDepth ≤ 2 ∧
        ((Fsd.grammar.withLimit 2).step ⟨0, [1]⟩ (.ofLine "\x7b a")).refused = true := by
    decide +kernel
  obtain ⟨hStack, _, hRoom⟩ := hStep 2 _ _ hRefused
  exact ⟨Fsd.build_declaration, by decide, hDepth, hRun 2 100 (by decide) _ hDepth, hRefused, hStack,
    (hRoom 3 (by decide)).2.2⟩

end Grammar

end Highlight
