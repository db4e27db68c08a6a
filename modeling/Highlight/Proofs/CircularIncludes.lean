import Mathlib.Data.List.GetD
import Highlight.Proofs.Laps
import Highlight.Proofs.Validation

/-! # Reports of circular includes

When the search for included rules gives up, it has gone down a trail that passes more states than
there are. From every state the trail leads to the first include that is not finished. What is not
finished when the trail leaves a state stays so until it comes back, since the state lies on a
circle and a finished state does not. So the trail leaves each state in one direction, and the part
of it that is reported consists of laps round a circle of the declaration.
-/

namespace Highlight

theorem eq_of_append_cons_eq {α : Type} {pre pre' post post' : List α} {x y : α}
    (h : pre ++ x :: post = pre' ++ y :: post') (hx : x ∉ pre') (hy : y ∉ pre) : x = y := by
  induction pre generalizing pre' with
  | nil =>
    cases pre' with
    | nil => exact (List.cons.inj h).1
    | cons z pre' => exact absurd ((List.cons.inj h).1 ▸ List.mem_cons_self) hx
  | cons z pre ih =>
    cases pre' with
    | nil => exact absurd ((List.cons.inj h).1 ▸ List.mem_cons_self) hy
    | cons z' pre' =>
      exact ih (List.cons.inj h).2 (fun hMem => hx (List.mem_cons_of_mem z' hMem))
        fun hMem => hy (List.mem_cons_of_mem z hMem)

namespace Includes

variable {names : List String} {slots : List (List Slot)} {memo memo' : Memo} {a b b' : StateId}
  {walk : List StateId} {pre pre' post post' : List Slot} {target target' : String}

theorem Sound.not_finished (h : Sound names slots memo)
    (hLoop : Relation.TransGen (Edge names slots) a a) : ¬ Finished memo a :=
  fun ⟨rules, hRules⟩ => not_transGen_self (h.correct a rules hRules).acc_state hLoop

theorem FirstOpen.not_mem (h : FirstOpen names slots memo a b pre post target)
    (hPassed : Passed names memo' pre') (hOpen : ¬ Finished memo' b) : .include target ∉ pre' := by
  intro hMem
  obtain ⟨c, hc, hFinished⟩ := hPassed target hMem
  cases h.target_eq.symm.trans hc
  exact hOpen hFinished

theorem FirstOpen.unique (h : FirstOpen names slots memo a b pre post target)
    (h' : FirstOpen names slots memo' a b' pre' post' target') (hGrows : Grows memo memo')
    (hOpen : ¬ Finished memo' b) : b = b' := by
  have hBefore : Slot.include target' ∉ pre :=
    h'.not_mem h.passed fun hFinished => h'.unfinished (hGrows b' hFinished)
  cases eq_of_append_cons_eq (h.slots_eq.symm.trans h'.slots_eq) (h.not_mem h'.passed hOpen) hBefore
  exact Option.some.inj (h.target_eq.symm.trans h'.target_eq)

theorem Trail.exists_firstOpen (h : Trail names slots memo (a :: walk)) {p : StateId × StateId}
    (hp : p ∈ (a :: walk).zip walk) :
    ∃ memo' pre post target, FirstOpen names slots memo' p.1 p.2 pre post target ∧
      Grows memo memo' ∧ Sound names slots memo' ∧
        Relation.ReflTransGen (Edge names slots) a p.1 := by
  induction walk generalizing a memo with
  | nil => exact absurd hp List.not_mem_nil
  | cons b walk ih =>
    cases h with
    | down hOpen hGrows hSound hWalk =>
      rcases List.mem_cons.mp hp with rfl | hp
      · exact ⟨_, _, _, _, hOpen, hGrows, hSound, .refl⟩
      · obtain ⟨memo', pre, post, target, hOpen', hGrows', hSound', hReach⟩ := ih hWalk hp
        exact ⟨memo', pre, post, target, hOpen', fun c hc => hGrows' c (hGrows c hc), hSound',
          .head hOpen.edge hReach⟩

theorem Trail.steady (h : Trail names slots memo walk) : Steady walk := by
  induction h with
  | last _ a => exact .nil
  | @down _ _ a b walk _ _ _ hOpen hGrows hSound hWalk ih =>
    refine .cons (fun p hp (hSame : a = p.1) => ?_) ih
    obtain ⟨_, _, _, _, hOpen', hGrows', hSound', hReach⟩ := hWalk.exists_firstOpen hp
    -- the trail has come back to `a`, so `b` lies on a circle and has not been finished since
    rw [← hSame] at hOpen' hReach
    exact hOpen.unique hOpen' hGrows' (hSound'.not_finished (.tail' hReach hOpen.edge))

theorem Trail.runsLaps (h : Trail names slots memo (a :: walk)) (ha : a < names.length)
    (hLong : names.length < walk.length) :
    RunsLaps ((a :: walk).drop ((a :: walk).idxOf ((a :: walk).getLastD 0))) := by
  have hLast : (a :: walk).getLast? = some ((a :: walk).getLastD 0) := by
    rw [List.getLast?_cons, List.getLastD_cons, List.getLastD_eq_getLast?]
  refine h.steady.runsLaps hLast ?_
  have hNe : walk ≠ [] := List.ne_nil_of_length_pos (by omega)
  have hChain := h.isChain.dropLast
  rw [List.dropLast_cons_of_ne_nil hNe] at hChain ⊢
  exact not_nodup_of_isChain hChain ha (by rw [List.length_dropLast]; omega)

end Includes

namespace Declaration

variable {engine : Engine} {d : Declaration} {state : String} {chain : List String} {depthLimit : Nat}

/-- The chain runs round a circle of includes to which the state leads, and which no earlier state
reaches. -/
structure ReportsCircle (d : Declaration) (state : String) (chain : List String) : Prop where
  two_le_length : 2 ≤ chain.length
  closed : chain.head? = chain.getLast?
  follows : chain.IsChain d.Includes
  laps : RunsLaps chain
  reached : ∀ a ∈ chain, Relation.ReflTransGen d.Includes state a
  first : ∃ pre post, d.stateNames = pre ++ state :: post ∧
    ∀ a ∈ pre, ∀ b, Relation.ReflTransGen d.Includes a b →
      b ∈ d.stateNames ∧ ¬ Relation.TransGen d.Includes b b

theorem sound_of_flattens (hNodup : d.stateNames.Nodup) {a b : String}
    (h : Relation.ReflTransGen d.Includes a b) {i : StateId} (hi : d.stateNames.idxOf? a = some i)
    {rules : List RuleId}
    (hRules : Includes.Flattens d.stateNames d.slots (d.slots.getD i []) rules) :
    b ∈ d.stateNames ∧ ¬ Relation.TransGen d.Includes b b := by
  induction h using Relation.ReflTransGen.head_induction_on generalizing i rules with
  | refl =>
    exact ⟨List.isSome_idxOf?.mp (by rw [hi]; rfl),
      Includes.not_transGen_self (acc_includes hNodup hRules.acc_state hi)⟩
  | head hIncludes _ ih =>
    have hMem := include_mem_slots hNodup hi hIncludes
    obtain ⟨j, hj⟩ := hRules.exists_idxOf? hMem
    obtain ⟨rules', hRules'⟩ := hRules.included hMem hj
    exact ih hj hRules'

theorem exists_split_of_lt {names : List String} {i : StateId} (h : i < names.length) :
    ∃ pre post, names = pre ++ names.getD i "" :: post ∧
      ∀ a ∈ pre, ∃ j < i, names[j]? = some a := by
  refine ⟨names.take i, names.drop (i + 1), ?_, fun a ha => ?_⟩
  · rw [List.getD_eq_getElem names "" h, ← List.drop_eq_getElem_cons h, List.take_append_drop]
  · obtain ⟨j, hLt, rfl⟩ := List.mem_iff_getElem.mp ha
    obtain ⟨hj, hj'⟩ := lt_min_iff.mp (List.length_take ▸ hLt)
    exact ⟨j, hj, by rw [List.getElem_take, List.getElem?_eq_getElem hj']⟩

theorem getD_inj_of_nodup {names : List String} (hNodup : names.Nodup) {i j : Nat}
    (hi : i < names.length) (hj : j < names.length) (h : names.getD i "" = names.getD j "") :
    i = j := by
  rw [List.getD_eq_getElem names "" hi, List.getD_eq_getElem names "" hj] at h
  exact (List.Nodup.getElem_inj_iff hNodup).mp h

theorem reportsCircle_of_trail (hNodup : d.stateNames.Nodup) {id : StateId} {memo : Includes.Memo}
    {walk : List StateId} (hWalk : Includes.Trail d.stateNames d.slots memo (id :: walk))
    (hId : id < d.stateNames.length) (hLong : d.stateNames.length < walk.length)
    (hBefore : ∀ a < id, ∃ rules,
      Includes.Flattens d.stateNames d.slots (d.slots.getD a []) rules)
    (h : Includes.circle d.stateNames (id :: walk) = .cyclicInclude state chain) :
    d.ReportsCircle state chain := by
  obtain ⟨rfl, rfl⟩ := GrammarError.cyclicInclude.inj h
  have hReach : ∀ n, ∀ a ∈ (id :: walk).drop n,
      Relation.ReflTransGen (Includes.Edge d.stateNames d.slots) id a :=
    fun n a ha => Includes.reflTransGen_of_mem hWalk.isChain (List.mem_of_mem_drop ha)
  have hLaps := (hWalk.runsLaps hId hLong).map fun a ha b hb =>
    getD_inj_of_nodup hNodup (Includes.lt_of_reflTransGen (hReach _ a ha) hId)
      (Includes.lt_of_reflTransGen (hReach _ b hb) hId)
  obtain ⟨hLength, hClosed⟩ := hLaps.ends_eq
  refine ⟨hLength, hClosed, ?_, hLaps, ?_, ?_⟩
  · exact (List.isChain_map _).mpr ((hWalk.isChain.drop _).imp fun _ _ => includes_of_edge)
  · intro name hName
    obtain ⟨a, ha, rfl⟩ := List.mem_map.mp hName
    exact (hReach _ a ha).lift (d.stateNames.getD · "") fun _ _ => includes_of_edge
  · obtain ⟨pre, post, hSplit, hPre⟩ := exists_split_of_lt hId
    refine ⟨pre, post, hSplit, fun a ha b hab => ?_⟩
    obtain ⟨i, hi, hName⟩ := hPre a ha
    obtain ⟨rules, hRules⟩ := hBefore i hi
    exact sound_of_flattens hNodup hab (idxOf?_of_nodup hNodup hName) hRules

theorem expandAll_of_build_eq_error
    (h : Grammar.build d depthLimit engine = .error (.cyclicInclude state chain)) :
    d.stateNames.Nodup ∧
      Includes.expandAll d.stateNames d.slots = .error (.cyclicInclude state chain) := by
  rw [Grammar.build_eq] at h
  split at h
  · cases h
  · split at h
    · cases h
    · rename_i hRepeated
      split at h
      · cases h
      · rcases except_bind_eq_error_iff.mp h with h | ⟨_, _, h⟩
        · obtain ⟨_, _, _, -, -, hFault⟩ := mapM_eq_error_iff.mp h
          cases rule_eq_error_iff.mp hFault
        · rcases except_bind_eq_error_iff.mp h with h | ⟨_, _, h⟩
          · exact ⟨(firstRepeated?_eq_none_iff.mp hRepeated).1, h⟩
          · cases h

theorem reportsCircle_of_build_eq_error
    (h : Grammar.build d depthLimit engine = .error (.cyclicInclude state chain)) :
    d.ReportsCircle state chain := by
  obtain ⟨hNodup, h⟩ := expandAll_of_build_eq_error h
  obtain ⟨id, memo, hId, hBefore, hBlocked⟩ := Includes.blocked_of_expandAll h
  generalize hError : GrammarError.cyclicInclude state chain = e at hBlocked
  cases hBlocked with
  | undeclared => cases hError
  | endless hWalk hLong =>
    rw [List.singleton_append, List.length_cons] at hLong
    exact reportsCircle_of_trail hNodup hWalk hId (by omega) hBefore hError.symm

/-- A report of circular includes shows a circle that is there, and the search for it ends. -/
theorem circular_includes_reported (d : Declaration) :
    (∀ depthLimit engine state chain,
      Grammar.build d depthLimit engine = .error (.cyclicInclude state chain) →
        d.ReportsCircle state chain) ∧
    ∀ id memo, Includes.Expands d.stateNames d.slots (d.states.length + 2) [id] id memo
      (Includes.expand d.stateNames d.slots (d.states.length + 1) [id] id memo) := by
  refine ⟨fun _ _ _ _ => reportsCircle_of_build_eq_error, fun id memo => ?_⟩
  have hLength : d.stateNames.length = d.states.length := List.length_map _
  rw [← hLength]
  exact Includes.expands_alone d.stateNames d.slots id memo

theorem mutual_includes_reported :
    let d : Declaration := {
      name := "mutual"
      root := "start"
      defaultTag := "text"
      states := [
        ⟨"words", [.rule { pattern := "[a-z]+", outcome := .emit "word" }]⟩,
        ⟨"start", [.include "words", .include "ping"]⟩,
        ⟨"ping", [.include "words", .include "pong"]⟩,
        ⟨"pong", [.include "ping", .include "missing"]⟩] }
    Grammar.build d = .error
      (.cyclicInclude "start" ["ping", "pong", "ping", "pong", "ping"]) ∧
    d.ReportsCircle "start" ["ping", "pong", "ping", "pong", "ping"] := by
  intro d
  have hBuild : Grammar.build d = .error
      (.cyclicInclude "start" ["ping", "pong", "ping", "pong", "ping"]) := by
    decide +kernel
  exact ⟨hBuild, (circular_includes_reported d).1 _ _ _ _ hBuild⟩

end Declaration

end Highlight
