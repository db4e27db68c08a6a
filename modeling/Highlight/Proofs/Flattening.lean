import Mathlib.Logic.Relation
import Mathlib.Data.List.Chain
import Mathlib.Data.List.Perm.Subperm
import Highlight.Grammar.Includes
import Highlight.Proofs.Failure

/-! # Replacing includes

`Flattens` says which rules a list of slots stands for. States that have such rules include only
declared states and lie on no circle of includes. A chain of includes that is longer than there are
states passes some state twice, so it leads into a circle.
-/

namespace Highlight.Includes

variable {names : List String} {slots : List (List Slot)}

/-- The rules of slots, with each include replaced by the rules of the included state. -/
inductive Flattens (names : List String) (slots : List (List Slot)) :
    List Slot → List RuleId → Prop
  | nil : Flattens names slots [] []
  | rule {r : RuleId} {ss : List Slot} {rs : List RuleId} :
    Flattens names slots ss rs → Flattens names slots (.rule r :: ss) (r :: rs)
  | splice {target : String} {id : StateId} {ss : List Slot} {rs rs' : List RuleId} :
    names.idxOf? target = some id → Flattens names slots (slots.getD id []) rs →
    Flattens names slots ss rs' → Flattens names slots (.include target :: ss) (rs ++ rs')

def Edge (names : List String) (slots : List (List Slot)) (a b : StateId) : Prop :=
  ∃ target, .include target ∈ slots.getD a [] ∧ names.idxOf? target = some b

namespace Flattens

variable {ss : List Slot} {rs : List RuleId}

theorem exists_idxOf? (h : Flattens names slots ss rs) {target : String}
    (hMem : .include target ∈ ss) : ∃ id, names.idxOf? target = some id := by
  induction h with
  | nil => exact absurd hMem List.not_mem_nil
  | rule _ ih =>
    rcases List.mem_cons.mp hMem with hEq | hMem
    · cases hEq
    · exact ih hMem
  | splice hTarget _ _ _ ih =>
    rcases List.mem_cons.mp hMem with hEq | hMem
    · cases hEq
      exact ⟨_, hTarget⟩
    · exact ih hMem

theorem included (h : Flattens names slots ss rs) {target : String} {id : StateId}
    (hMem : .include target ∈ ss) (hId : names.idxOf? target = some id) :
    ∃ rules, Flattens names slots (slots.getD id []) rules := by
  induction h with
  | nil => exact absurd hMem List.not_mem_nil
  | rule _ ih =>
    rcases List.mem_cons.mp hMem with hEq | hMem
    · cases hEq
    · exact ih hMem
  | splice hTarget hState _ _ ih =>
    rcases List.mem_cons.mp hMem with hEq | hMem
    · cases hEq
      cases hTarget.symm.trans hId
      exact ⟨_, hState⟩
    · exact ih hMem

theorem acc (h : Flattens names slots ss rs) {target : String} {id : StateId}
    (hMem : .include target ∈ ss) (hId : names.idxOf? target = some id) :
    Acc (fun b a => Edge names slots a b) id := by
  induction h generalizing target id with
  | nil => exact absurd hMem List.not_mem_nil
  | rule _ ih =>
    rcases List.mem_cons.mp hMem with hEq | hMem
    · cases hEq
    · exact ih hMem hId
  | splice hTarget _ _ ihState ih =>
    rcases List.mem_cons.mp hMem with hEq | hMem
    · cases hEq
      cases hTarget.symm.trans hId
      exact .intro _ fun b ⟨_, hSlot, hb⟩ => ihState hSlot hb
    · exact ih hMem hId

theorem acc_state {id : StateId} (h : Flattens names slots (slots.getD id []) rs) :
    Acc (fun b a => Edge names slots a b) id :=
  .intro id fun _ ⟨_, hSlot, hb⟩ => h.acc hSlot hb

theorem exists_slot (h : Flattens names slots ss rs) {r : RuleId} (hr : r ∈ rs) :
    .rule r ∈ ss ∨ ∃ id, .rule r ∈ slots.getD id [] := by
  induction h with
  | nil => exact absurd hr List.not_mem_nil
  | rule _ ih =>
    rcases List.mem_cons.mp hr with rfl | hr
    · exact .inl List.mem_cons_self
    · exact (ih hr).imp_left (List.mem_cons_of_mem _)
  | splice _ _ _ ihState ih =>
    rcases List.mem_append.mp hr with hr | hr
    · exact .inr ((ihState hr).elim (fun h => ⟨_, h⟩) id)
    · exact (ih hr).imp_left (List.mem_cons_of_mem _)

end Flattens

theorem lt_of_idxOf?_eq_some {name : String} {id : StateId} (h : names.idxOf? name = some id) :
    id < names.length :=
  (List.idxOf?_eq_some_iff.mp h).1

theorem lt_of_transGen {a b : StateId} (h : Relation.TransGen (Edge names slots) a b) :
    b < names.length := by
  obtain ⟨_, _, _, _, hb⟩ := Relation.TransGen.tail'_iff.mp h
  exact lt_of_idxOf?_eq_some hb

theorem lt_of_reflTransGen {a b : StateId} (h : Relation.ReflTransGen (Edge names slots) a b)
    (ha : a < names.length) : b < names.length := by
  rcases Relation.reflTransGen_iff_eq_or_transGen.mp h with rfl | h
  · exact ha
  · exact lt_of_transGen h

theorem reflTransGen_of_mem {a b : StateId} {chain : List StateId}
    (h : (a :: chain).IsChain (Edge names slots)) (hb : b ∈ a :: chain) :
    Relation.ReflTransGen (Edge names slots) a b := by
  have hPairwise : (a :: chain).Pairwise (Relation.TransGen (Edge names slots)) :=
    (h.imp fun _ _ => Relation.TransGen.single).pairwise
  rcases List.mem_cons.mp hb with rfl | hb
  · exact .refl
  · exact ((List.pairwise_cons.mp hPairwise).1 b hb).to_reflTransGen

/-- A chain of includes that is longer than there are states passes some state twice. -/
theorem not_nodup_of_isChain {a : StateId} {chain : List StateId}
    (h : (a :: chain).IsChain (Edge names slots)) (ha : a < names.length)
    (hLength : names.length ≤ chain.length) : ¬ (a :: chain).Nodup := by
  intro hNodup
  have hSubset : a :: chain ⊆ List.range names.length := fun b hb =>
    List.mem_range.mpr (lt_of_reflTransGen (reflTransGen_of_mem h hb) ha)
  have hLe := (hNodup.subperm hSubset).length_le
  rw [List.length_range, List.length_cons] at hLe
  omega

theorem exists_transGen_self {a : StateId} {chain : List StateId}
    (h : (a :: chain).IsChain (Edge names slots)) (ha : a < names.length)
    (hLength : names.length ≤ chain.length) :
    ∃ b, Relation.ReflTransGen (Edge names slots) a b ∧
      Relation.TransGen (Edge names slots) b b := by
  by_contra hNone
  have hPairwise : (a :: chain).Pairwise (Relation.TransGen (Edge names slots)) :=
    (h.imp fun _ _ => Relation.TransGen.single).pairwise
  refine not_nodup_of_isChain h ha hLength (hPairwise.imp_of_mem ?_)
  rintro b _ hb _ hLoop rfl
  exact hNone ⟨b, reflTransGen_of_mem h hb, hLoop⟩

theorem not_transGen_self {α : Type} {r : α → α → Prop} {a : α}
    (h : Acc (fun b a => r a b) a) : ¬ Relation.TransGen r a a := by
  induction h with
  | intro a _ ih =>
    intro hLoop
    obtain ⟨b, hab, hba⟩ := Relation.TransGen.head'_iff.mp hLoop
    exact ih b hab (.tail' hba hab)

end Highlight.Includes

namespace Highlight

/-- A slot stands for an entry: it has the position of its rule, or it is the same include. -/
inductive Slot.StandsFor (rules : List (String × RuleDeclaration)) : Slot → Entry → Prop
  | rule {id : RuleId} {state : String} {r : RuleDeclaration} :
    rules[id]? = some (state, r) → StandsFor rules (.rule id) (.rule r)
  | include (name : String) : StandsFor rules (.include name) (.include name)

namespace StateDeclaration

theorem standsFor_ofEntries (pre post : List (String × RuleDeclaration)) (name : String)
    (es : List Entry) :
    List.Forall₂ (Slot.StandsFor (pre ++ ((mk name es).inlineRules.map (name, ·) ++ post)))
      (Slot.ofEntries pre.length es) es := by
  induction es generalizing pre with
  | nil => exact .nil
  | cons entry es ih =>
    cases entry with
    | «include» target => exact .cons (.include target) (ih pre)
    | rule r =>
      have hRule : (pre ++ ((mk name (.rule r :: es)).inlineRules.map (name, ·) ++ post))[pre.length]? =
          some (name, r) := by simp [inlineRules]
      have hRest := ih (pre ++ [(name, r)])
      rw [List.length_append, List.append_assoc] at hRest
      exact .cons (.rule hRule) hRest

theorem standsFor_slotsFrom (pre : List (String × RuleDeclaration))
    {states : List StateDeclaration} {i : Nat} {s : StateDeclaration} (hs : states[i]? = some s) :
    List.Forall₂
      (Slot.StandsFor (pre ++ states.flatMap fun s => s.inlineRules.map (s.name, ·)))
      ((slotsFrom pre.length states).getD i []) s.entries := by
  induction states generalizing pre i with
  | nil => cases hs
  | cons first states ih =>
    rw [List.flatMap_cons]
    cases i with
    | zero =>
      cases hs
      exact standsFor_ofEntries pre _ s.name s.entries
    | succ i =>
      have hRest := ih (pre ++ first.inlineRules.map (first.name, ·)) hs
      rw [List.length_append, List.length_map, List.append_assoc] at hRest
      exact hRest

theorem length_slotsFrom (n : Nat) (states : List StateDeclaration) :
    (slotsFrom n states).length = states.length := by
  induction states generalizing n with
  | nil => rfl
  | cons s states ih => rw [slotsFrom, List.length_cons, List.length_cons, ih]

end StateDeclaration

end Highlight
