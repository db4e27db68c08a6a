import Highlight.Proofs.Flattening

/-! # The search for included rules

Expansion is a search. It goes down the includes of a state, remembers the states that are finished,
and gives up when the chain of states through which it has come is longer than there are states and
one more. `Expands` says this without any bound on the depth of the search, and `expand` computes
it. The search succeeds with the rules that slots stand for. It fails at an undeclared state, or at
the end of a trail on which every state includes the next one as its first unfinished one.
-/

namespace Highlight.Includes

variable {names : List String} {slots : List (List Slot)} {limit : Nat} {chain : List StateId}
  {id : StateId} {memo memo' : Memo} {rules : List RuleId} {ss : List Slot}
  {done done' : List RuleId × Memo} {e : GrammarError}
  {result : Except GrammarError (List RuleId × Memo)}

mutual

/-- Expansion of the state at the end of a chain. No chain on the way is longer than `limit`. -/
inductive Expands (names : List String) (slots : List (List Slot)) (limit : Nat) :
    List StateId → StateId → Memo → Except GrammarError (List RuleId × Memo) → Prop
  | finished {chain : List StateId} {id : StateId} {memo : Memo} {rules : List RuleId}
      (hLimit : chain.length ≤ limit) (hDone : memo.getD id none = some rules) :
      Expands names slots limit chain id memo (.ok (rules, memo))
  | givenUp {chain : List StateId} {id : StateId} {memo : Memo} (hLimit : chain.length ≤ limit)
      (hOpen : memo.getD id none = none) (hLong : names.length + 1 < chain.length) :
      Expands names slots limit chain id memo (.error (circle names chain))
  | fails {chain : List StateId} {id : StateId} {memo : Memo} {e : GrammarError}
      (hLimit : chain.length ≤ limit) (hOpen : memo.getD id none = none)
      (hShort : chain.length ≤ names.length + 1)
      (hSlots : Splices names slots limit chain id (slots.getD id []) ([], memo) (.error e)) :
      Expands names slots limit chain id memo (.error e)
  | succeeds {chain : List StateId} {id : StateId} {memo memo' : Memo} {rules : List RuleId}
      (hLimit : chain.length ≤ limit) (hOpen : memo.getD id none = none)
      (hShort : chain.length ≤ names.length + 1)
      (hSlots : Splices names slots limit chain id (slots.getD id []) ([], memo)
        (.ok (rules, memo'))) :
      Expands names slots limit chain id memo (.ok (rules, memo'.set id (some rules)))

/-- The slots of the state at the end of a chain, one after the other, with what is done before. -/
inductive Splices (names : List String) (slots : List (List Slot)) (limit : Nat) :
    List StateId → StateId → List Slot → List RuleId × Memo →
      Except GrammarError (List RuleId × Memo) → Prop
  | nil {chain : List StateId} {id : StateId} {done : List RuleId × Memo} :
      Splices names slots limit chain id [] done (.ok done)
  | rule {chain : List StateId} {id : StateId} {r : RuleId} {ss : List Slot}
      {done : List RuleId × Memo} {result : Except GrammarError (List RuleId × Memo)}
      (hRest : Splices names slots limit chain id ss (done.1 ++ [r], done.2) result) :
      Splices names slots limit chain id (.rule r :: ss) done result
  | undeclared {chain : List StateId} {id : StateId} {target : String} {ss : List Slot}
      {done : List RuleId × Memo} (hTarget : names.idxOf? target = none) :
      Splices names slots limit chain id (.include target :: ss) done
        (.error (.unknownInclude target (names.getD id "")))
  | fails {chain : List StateId} {id next : StateId} {target : String} {ss : List Slot}
      {done : List RuleId × Memo} {e : GrammarError} (hTarget : names.idxOf? target = some next)
      (hNext : Expands names slots limit (chain ++ [next]) next done.2 (.error e)) :
      Splices names slots limit chain id (.include target :: ss) done (.error e)
  | splice {chain : List StateId} {id next : StateId} {target : String} {ss : List Slot}
      {done : List RuleId × Memo} {rules : List RuleId} {memo : Memo}
      {result : Except GrammarError (List RuleId × Memo)}
      (hTarget : names.idxOf? target = some next)
      (hNext : Expands names slots limit (chain ++ [next]) next done.2 (.ok (rules, memo)))
      (hRest : Splices names slots limit chain id ss (done.1 ++ rules, memo) result) :
      Splices names slots limit chain id (.include target :: ss) done result

end

def expandSlot (names : List String) (slots : List (List Slot)) (room : Nat) (chain : List StateId)
    (id : StateId) (done : List RuleId × Memo) (slot : Slot) :
    Except GrammarError (List RuleId × Memo) :=
  match slot with
  | .rule r => .ok (done.1 ++ [r], done.2)
  | .include target =>
    match names.idxOf? target with
    | none => .error (.unknownInclude target (names.getD id ""))
    | some next => do
      let (rules, memo) ← expand names slots room (chain ++ [next]) next done.2
      .ok (done.1 ++ rules, memo)

theorem expand_of_memo (h : memo.getD id none = some rules) (room : Nat) (chain : List StateId) :
    expand names slots room chain id memo = .ok (rules, memo) := by
  cases room <;> rw [expand, h]

theorem expand_zero (h : memo.getD id none = none) (chain : List StateId) :
    expand names slots 0 chain id memo = .error (circle names chain) := by
  rw [expand, h]

theorem expand_succ (h : memo.getD id none = none) (room : Nat) (chain : List StateId) :
    expand names slots (room + 1) chain id memo =
      (slots.getD id []).foldlM (expandSlot names slots room chain id) ([], memo) >>=
        fun done => .ok (done.1, done.2.set id (some done.1)) := by
  rw [expand, h]
  rfl

theorem splices_foldlM {room : Nat} (hExpand : ∀ next memo,
      Expands names slots limit (chain ++ [next]) next memo
        (expand names slots room (chain ++ [next]) next memo))
    (id : StateId) (ss : List Slot) (done : List RuleId × Memo) :
    Splices names slots limit chain id ss done
      (ss.foldlM (expandSlot names slots room chain id) done) := by
  induction ss generalizing done with
  | nil => exact .nil
  | cons slot ss ih =>
    rw [List.foldlM_cons]
    cases slot with
    | rule r => exact .rule (ih _)
    | «include» target =>
      cases hTarget : names.idxOf? target with
      | none =>
        simp only [expandSlot, hTarget]
        exact .undeclared hTarget
      | some next =>
        have hNext := hExpand next done.2
        cases hResult : expand names slots room (chain ++ [next]) next done.2 with
        | error e =>
          rw [hResult] at hNext
          simp only [expandSlot, hTarget, hResult]
          exact .fails hTarget hNext
        | ok found =>
          rw [hResult] at hNext
          simp only [expandSlot, hTarget, hResult]
          exact .splice hTarget hNext (ih _)

/-- The room for a chain runs out just where the search gives up, so no chain is longer than the
number of states and two more. -/
theorem expands_expand {room : Nat} (hRoom : chain.length + room = names.length + 2) (id : StateId)
    (memo : Memo) :
    Expands names slots (names.length + 2) chain id memo
      (expand names slots room chain id memo) := by
  induction room generalizing chain id memo with
  | zero =>
    cases hDone : memo.getD id none with
    | some rules =>
      rw [expand_of_memo hDone]
      exact .finished (by omega) hDone
    | none =>
      rw [expand_zero hDone]
      exact .givenUp (by omega) hDone (by omega)
  | succ room ih =>
    cases hDone : memo.getD id none with
    | some rules =>
      rw [expand_of_memo hDone]
      exact .finished (by omega) hDone
    | none =>
      have hSlots : Splices names slots (names.length + 2) chain id (slots.getD id []) ([], memo)
          ((slots.getD id []).foldlM (expandSlot names slots room chain id) ([], memo)) := by
        refine splices_foldlM (fun next memo => ih ?_ next memo) id _ _
        rw [List.length_append, List.length_singleton]
        omega
      rw [expand_succ hDone]
      cases hResult : (slots.getD id []).foldlM (expandSlot names slots room chain id) ([], memo) with
      | error e =>
        rw [hResult] at hSlots
        exact .fails (by omega) hDone (by omega) hSlots
      | ok found =>
        rw [hResult] at hSlots
        exact .succeeds (by omega) hDone (by omega) hSlots

theorem expands_alone (names : List String) (slots : List (List Slot)) (id : StateId) (memo : Memo) :
    Expands names slots (names.length + 2) [id] id memo
      (expand names slots (names.length + 1) [id] id memo) :=
  expands_expand (Nat.add_comm 1 (names.length + 1)) id memo

def Correct (names : List String) (slots : List (List Slot)) (memo : Memo) : Prop :=
  ∀ id rules, memo.getD id none = some rules → Flattens names slots (slots.getD id []) rules

structure Sound (names : List String) (slots : List (List Slot)) (memo : Memo) : Prop where
  correct : Correct names slots memo
  length_eq : memo.length = names.length

def Finished (memo : Memo) (id : StateId) : Prop := ∃ rules, memo.getD id none = some rules

def Grows (memo memo' : Memo) : Prop := ∀ id, Finished memo id → Finished memo' id

theorem getD_set (memo : Memo) {id : StateId} (h : id < memo.length) (rules : List RuleId)
    (a : StateId) :
    (memo.set id (some rules)).getD a none = if id = a then some rules else memo.getD a none := by
  rw [List.getD_eq_getElem?_getD, List.getD_eq_getElem?_getD, List.getElem?_set]
  split
  · rename_i hEq
    subst hEq
    simp
  · rfl

theorem sound_replicate (names : List String) (slots : List (List Slot)) :
    Sound names slots (List.replicate names.length none) := by
  refine ⟨fun id rules h => ?_, List.length_replicate⟩
  rw [List.getD_eq_getElem?_getD, List.getElem?_replicate] at h
  split at h <;> cases h

structure Completes (names : List String) (slots : List (List Slot)) (memo : Memo) (id : StateId)
    (rules : List RuleId) (memo' : Memo) : Prop where
  flattens : Flattens names slots (slots.getD id []) rules
  sound : Sound names slots memo'
  grows : Grows memo memo'
  finished : Finished memo' id

theorem Completes.of_flattens (hRules : Flattens names slots (slots.getD id []) rules)
    (hSound : Sound names slots memo') (hGrows : Grows memo memo') (hId : id < names.length) :
    Completes names slots memo id rules (memo'.set id (some rules)) := by
  have hLt : id < memo'.length := hSound.length_eq ▸ hId
  refine ⟨hRules, ⟨fun a rs ha => ?_, by rw [List.length_set, hSound.length_eq]⟩, fun a ha => ?_, ?_⟩
  · rw [getD_set memo' hLt] at ha
    split at ha
    · rename_i hEq
      cases hEq
      cases ha
      exact hRules
    · exact hSound.correct a rs ha
  · obtain ⟨rs, hrs⟩ := hGrows a ha
    rw [Finished, getD_set memo' hLt]
    split
    · exact ⟨rules, rfl⟩
    · exact ⟨rs, hrs⟩
  · exact ⟨rules, by rw [getD_set memo' hLt, if_pos rfl]⟩

mutual

theorem Expands.completes {chain : List StateId} {id : StateId} {memo : Memo}
    {result : Except GrammarError (List RuleId × Memo)} :
    Expands names slots limit chain id memo result → id < names.length → Sound names slots memo →
      ∀ rules memo', result = .ok (rules, memo') → Completes names slots memo id rules memo'
  | .finished _ hDone, _, hMemo, _, _, hResult => by
    cases hResult
    exact ⟨hMemo.correct _ _ hDone, hMemo, fun _ ha => ha, _, hDone⟩
  | .givenUp _ _ _, _, _, _, _, hResult => nomatch hResult
  | .fails _ _ _ _, _, _, _, _, hResult => nomatch hResult
  | .succeeds _ _ _ hSlots, hId, hMemo, _, _, hResult => by
    obtain ⟨rs, hRules, hFlattens, hSound, hGrows⟩ := hSlots.flattens hMemo _ rfl
    cases hRules
    cases hResult
    exact .of_flattens hFlattens hSound hGrows hId

theorem Splices.flattens {chain : List StateId} {id : StateId} {ss : List Slot}
    {done : List RuleId × Memo} {result : Except GrammarError (List RuleId × Memo)} :
    Splices names slots limit chain id ss done result → Sound names slots done.2 →
      ∀ done', result = .ok done' → ∃ rs, done'.1 = done.1 ++ rs ∧ Flattens names slots ss rs ∧
        Sound names slots done'.2 ∧ Grows done.2 done'.2
  | .nil, hMemo, _, hResult => by
    cases hResult
    exact ⟨[], (List.append_nil _).symm, .nil, hMemo, fun _ ha => ha⟩
  | .rule hRest, hMemo, _, hResult => by
    obtain ⟨rs, hRules, hFlattens, hSound, hGrows⟩ := hRest.flattens hMemo _ hResult
    exact ⟨_ :: rs, by rw [hRules, List.append_assoc]; rfl, .rule hFlattens, hSound, hGrows⟩
  | .undeclared _, _, _, hResult => nomatch hResult
  | .fails _ _, _, _, hResult => nomatch hResult
  | .splice hTarget hNext hRest, hMemo, _, hResult => by
    have hState := hNext.completes (lt_of_idxOf?_eq_some hTarget) hMemo _ _ rfl
    obtain ⟨rs, hRules, hFlattens, hSound, hGrows⟩ := hRest.flattens hState.sound _ hResult
    exact ⟨_ ++ rs, by rw [hRules, List.append_assoc], .splice hTarget hState.flattens hFlattens,
      hSound, fun a ha => hGrows a (hState.grows a ha)⟩

end

theorem edge_of_slots {pre post : List Slot} {a b : StateId} {target : String}
    (hSlots : slots.getD a [] = pre ++ .include target :: post)
    (hTarget : names.idxOf? target = some b) : Edge names slots a b :=
  ⟨target, by rw [hSlots]; exact List.mem_append_right pre List.mem_cons_self, hTarget⟩

/-- The slots of a state that have been passed: their includes are finished. -/
def Passed (names : List String) (memo : Memo) (pre : List Slot) : Prop :=
  ∀ name, .include name ∈ pre → ∃ c, names.idxOf? name = some c ∧ Finished memo c

/-- The first include of the state `a` that is not finished leads to the state `b`. -/
structure FirstOpen (names : List String) (slots : List (List Slot)) (memo : Memo) (a b : StateId)
    (pre post : List Slot) (target : String) : Prop where
  slots_eq : slots.getD a [] = pre ++ .include target :: post
  target_eq : names.idxOf? target = some b
  unfinished : ¬ Finished memo b
  passed : Passed names memo pre

/-- A walk down the includes. More and more is finished on the way, and at every state all that is
included before the next state of the walk. -/
inductive Trail (names : List String) (slots : List (List Slot)) : Memo → List StateId → Prop
  | last (memo : Memo) (a : StateId) : Trail names slots memo [a]
  | down {memo memo' : Memo} {a b : StateId} {walk : List StateId} {pre post : List Slot}
      {target : String} (hOpen : FirstOpen names slots memo' a b pre post target)
      (hGrows : Grows memo memo') (hSound : Sound names slots memo')
      (hWalk : Trail names slots memo' (b :: walk)) : Trail names slots memo (a :: b :: walk)

theorem FirstOpen.edge {a b : StateId} {pre post : List Slot} {target : String}
    (h : FirstOpen names slots memo a b pre post target) : Edge names slots a b :=
  edge_of_slots h.slots_eq h.target_eq

theorem Trail.isChain {walk : List StateId} (h : Trail names slots memo walk) :
    walk.IsChain (Edge names slots) := by
  induction h with
  | last _ a => exact .singleton a
  | down hOpen _ _ _ ih => exact .cons_cons hOpen.edge ih

inductive Blocked (names : List String) (slots : List (List Slot)) (chain : List StateId)
    (id : StateId) (memo : Memo) : GrammarError → Prop
  | undeclared {a : StateId} {target : String} (hReach : Relation.ReflTransGen (Edge names slots) id a)
      (hSlot : .include target ∈ slots.getD a []) (hTarget : names.idxOf? target = none) :
      Blocked names slots chain id memo (.unknownInclude target (names.getD a ""))
  | endless {walk : List StateId} (hWalk : Trail names slots memo (id :: walk))
      (hLong : names.length + 1 < (chain ++ walk).length) :
      Blocked names slots chain id memo (circle names (chain ++ walk))

theorem Expands.not_finished (h : Expands names slots limit chain id memo (.error e)) :
    ¬ Finished memo id := by
  rintro ⟨rules, hDone⟩
  cases h with
  | givenUp _ hOpen _ => cases hOpen.symm.trans hDone
  | fails _ hOpen _ _ => cases hOpen.symm.trans hDone

mutual

theorem Expands.blocked {chain : List StateId} {id : StateId} {memo : Memo}
    {result : Except GrammarError (List RuleId × Memo)} :
    Expands names slots limit chain id memo result → id < names.length → Sound names slots memo →
      ∀ e, result = .error e → Blocked names slots chain id memo e
  | .finished _ _, _, _, _, hResult => nomatch hResult
  | .givenUp _ _ hLong, _, _, _, hResult => by
    cases hResult
    have hEnd : Blocked names slots chain id memo (circle names (chain ++ [])) :=
      .endless (.last memo id) (by rwa [List.append_nil])
    rwa [List.append_nil] at hEnd
  | .fails _ _ _ hSlots, _, hMemo, _, hResult =>
    hSlots.blocked rfl (fun _ hName => absurd hName List.not_mem_nil) hMemo (fun _ ha => ha) _ hResult
  | .succeeds _ _ _ _, _, _, _, hResult => nomatch hResult

theorem Splices.blocked {chain : List StateId} {id : StateId} {pre ss : List Slot}
    {done : List RuleId × Memo} {memo : Memo} {result : Except GrammarError (List RuleId × Memo)} :
    Splices names slots limit chain id ss done result → slots.getD id [] = pre ++ ss →
      Passed names done.2 pre → Sound names slots done.2 → Grows memo done.2 →
        ∀ e, result = .error e → Blocked names slots chain id memo e
  | .nil, _, _, _, _, _, hResult => nomatch hResult
  | .rule hRest, hSlots, hPassed, hMemo, hGrows, _, hResult => by
    refine hRest.blocked (hSlots.trans (List.append_cons pre _ _)) ?_ hMemo hGrows _ hResult
    intro name hName
    refine hPassed name ((List.mem_append.mp hName).resolve_right ?_)
    simp
  | .undeclared hTarget, hSlots, _, _, _, _, hResult => by
    cases hResult
    exact .undeclared .refl (by rw [hSlots]; simp) hTarget
  | .fails hTarget hNext, hSlots, hPassed, hMemo, hGrows, _, hResult => by
    have hEdge := edge_of_slots hSlots hTarget
    cases hNext.blocked (lt_of_idxOf?_eq_some hTarget) hMemo _ hResult with
    | undeclared hReach hSlot hNone => exact .undeclared (.head hEdge hReach) hSlot hNone
    | endless hWalk hLong =>
      rw [List.append_assoc] at hLong ⊢
      exact .endless (.down ⟨hSlots, hTarget, hNext.not_finished, hPassed⟩ hGrows hMemo hWalk) hLong
  | .splice hTarget hNext hRest, hSlots, hPassed, hMemo, hGrows, _, hResult => by
    have hState := hNext.completes (lt_of_idxOf?_eq_some hTarget) hMemo _ _ rfl
    refine hRest.blocked (hSlots.trans (List.append_cons pre _ _)) ?_ hState.sound
      (fun a ha => hState.grows a (hGrows a ha)) _ hResult
    intro name hName
    rcases List.mem_append.mp hName with hName | hName
    · obtain ⟨c, hc, hFinished⟩ := hPassed name hName
      exact ⟨c, hc, hState.grows c hFinished⟩
    · cases List.mem_singleton.mp hName
      exact ⟨_, hTarget, hState.finished⟩

end

variable {ids : List StateId}

theorem flattens_of_expandEach {lists : List (List RuleId)} (hIds : ∀ id ∈ ids, id < names.length)
    (hMemo : Sound names slots memo) (h : expandEach names slots ids memo = .ok lists) :
    List.Forall₂ (fun id rules => Flattens names slots (slots.getD id []) rules) ids lists := by
  induction ids generalizing memo lists with
  | nil =>
    cases h
    exact .nil
  | cons id ids ih =>
    obtain ⟨⟨rules, memo'⟩, hExpand, h⟩ := except_bind_eq_ok_iff.mp h
    obtain ⟨rest, hRest, h⟩ := except_bind_eq_ok_iff.mp h
    cases h
    obtain ⟨hId, hIds⟩ := List.forall_mem_cons.mp hIds
    have hState := (expands_alone names slots id memo).completes hId hMemo _ _ hExpand
    exact .cons hState.flattens (ih hIds hState.sound hRest)

theorem flattens_of_expandAll {lists : List (List RuleId)} (h : expandAll names slots = .ok lists) :
    List.Forall₂ (fun id rules => Flattens names slots (slots.getD id []) rules)
      (List.range names.length) lists :=
  flattens_of_expandEach (fun _ => List.mem_range.mp) (sound_replicate names slots) h

theorem blocked_of_expandEach (hIds : ∀ id ∈ ids, id < names.length)
    (hMemo : Sound names slots memo) (h : expandEach names slots ids memo = .error e) :
    ∃ pre id post memo', ids = pre ++ id :: post ∧
      (∀ a ∈ pre, ∃ rules, Flattens names slots (slots.getD a []) rules) ∧
        Blocked names slots [id] id memo' e := by
  induction ids generalizing memo with
  | nil => cases h
  | cons id ids ih =>
    obtain ⟨hId, hIds⟩ := List.forall_mem_cons.mp hIds
    have hExpands := expands_alone names slots id memo
    rcases except_bind_eq_error_iff.mp h with h | ⟨⟨rules, memo₁⟩, hExpand, h⟩
    · exact ⟨[], id, ids, memo, rfl, by simp, hExpands.blocked hId hMemo e h⟩
    · have hState := hExpands.completes hId hMemo _ _ hExpand
      rcases except_bind_eq_error_iff.mp h with h | ⟨_, _, h⟩
      · obtain ⟨pre, a, post, memo', rfl, hPre, hBlocked⟩ := ih hIds hState.sound h
        exact ⟨id :: pre, a, post, memo', rfl,
          List.forall_mem_cons.mpr ⟨⟨rules, hState.flattens⟩, hPre⟩, hBlocked⟩
      · cases h

theorem blocked_of_expandAll (h : expandAll names slots = .error e) :
    ∃ id memo, id < names.length ∧
      (∀ a < id, ∃ rules, Flattens names slots (slots.getD a []) rules) ∧
        Blocked names slots [id] id memo e := by
  obtain ⟨pre, id, post, memo, hIds, hPre, hBlocked⟩ :=
    blocked_of_expandEach (fun _ => List.mem_range.mp) (sound_replicate names slots) h
  rw [List.range_eq_range', List.range'_eq_append_iff] at hIds
  obtain ⟨k, -, rfl, hRest⟩ := hIds
  obtain ⟨hId, hLt, -⟩ := List.range'_eq_cons_iff.mp hRest.symm
  refine ⟨id, memo, by omega, fun a ha => hPre a ?_, hBlocked⟩
  rw [List.mem_range'_1]
  omega

end Highlight.Includes
