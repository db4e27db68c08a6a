import Mathlib.Data.List.Nodup
import Highlight.Grammar.Build
import Highlight.Proofs.Failure

/-! # The order of checks

Building a grammar is a sequence of checks, each of which can be looked at on its own: the version,
the names of the states, the root, the rules one by one, and the includes.
-/

namespace Highlight

namespace Declaration

theorem firstRepeated?_eq_none_iff {seen names : List String} :
    firstRepeated? seen names = none ↔ names.Nodup ∧ ∀ n ∈ names, n ∉ seen := by
  induction names generalizing seen with
  | nil => simp [firstRepeated?]
  | cons n names ih =>
    rw [firstRepeated?, List.nodup_cons, List.forall_mem_cons]
    by_cases hSeen : n ∈ seen
    · simp [hSeen]
    · rw [if_neg (by simpa using hSeen), ih]
      constructor
      · rintro ⟨hNodup, hNew⟩
        exact ⟨⟨fun hMem => hNew n hMem List.mem_cons_self, hNodup⟩, hSeen,
          fun m hm hms => hNew m hm (List.mem_cons_of_mem n hms)⟩
      · rintro ⟨⟨hNot, hNodup⟩, -, hNew⟩
        refine ⟨hNodup, fun m hm hms => ?_⟩
        rcases List.mem_cons.mp hms with rfl | hms
        · exact hNot hm
        · exact hNew m hm hms

theorem exists_of_firstRepeated?_eq_some {seen names : List String} {n : String}
    (h : firstRepeated? seen names = some n) :
    ∃ pre post, names = pre ++ n :: post ∧ pre.Nodup ∧ (∀ m ∈ pre, m ∉ seen) ∧
      (n ∈ pre ∨ n ∈ seen) := by
  induction names generalizing seen with
  | nil => cases h
  | cons m names ih =>
    rw [firstRepeated?] at h
    split at h
    · rename_i hSeen
      cases h
      exact ⟨[], names, rfl, .nil, by simp, .inr (by simpa using hSeen)⟩
    · rename_i hSeen
      obtain ⟨pre, post, rfl, hNodup, hNew, hn⟩ := ih h
      refine ⟨m :: pre, post, rfl, List.nodup_cons.mpr ⟨fun hm => ?_, hNodup⟩,
        List.forall_mem_cons.mpr ⟨by simpa using hSeen, fun x hx hxs => ?_⟩, ?_⟩
      · exact hNew m hm List.mem_cons_self
      · exact hNew x hx (List.mem_cons_of_mem m hxs)
      · rcases hn with hn | hn
        · exact .inl (List.mem_cons_of_mem m hn)
        · rcases List.mem_cons.mp hn with rfl | hn
          · exact .inl List.mem_cons_self
          · exact .inr hn

def pattern? (d : Declaration) (engine : Engine) (r : RuleDeclaration) : Option Pattern :=
  engine.compile? d.ignoreCase (splitPattern r.pattern).2

/-- The faults of a rule, each one only where those before it are absent. -/
inductive RuleFault (d : Declaration) (engine : Engine) (state : String) (r : RuleDeclaration) :
    GrammarError → Prop
  | pattern : d.pattern? engine r = none →
    RuleFault d engine state r (.invalidPattern state r.pattern)
  | groups {p : Pattern} {tags : List String} : d.pattern? engine r = some p →
    r.outcome = .groups tags → p.groupCount ≠ tags.length →
    RuleFault d engine state r (.groupMismatch state r.pattern p.groupCount tags.length)
  | target {p : Pattern} {name : String} : d.pattern? engine r = some p →
    (∀ tags, r.outcome = .groups tags → p.groupCount = tags.length) →
    r.action = .push name ∨ r.action = .switch name → name ∉ d.stateNames →
    RuleFault d engine state r (.unknownState name (.rule r.pattern state))

@[simp] theorem isGroups_outcome (d : Declaration) (o : Outcome) :
    (d.outcome o).isGroups = o.isGroups := by
  cases o <;> rfl

theorem checkGroups_eq_ok_iff {state source : String} {p : Pattern} {o : Outcome} {b : Bool} :
    checkGroups state source p o = .ok b ↔
      (∀ tags, o = .groups tags → p.groupCount = tags.length) ∧ b = o.isGroups := by
  cases o with
  | groups tags =>
    rw [checkGroups]
    split
    · rename_i hEq
      simp [hEq, Outcome.isGroups, eq_comm]
    · rename_i hNe
      exact iff_of_false (fun h => by cases h) fun h => hNe (h.1 tags rfl)
  | emit | cases | bracket => simp [checkGroups, Outcome.isGroups, eq_comm]

theorem checkGroups_eq_error_iff {state source : String} {p : Pattern} {o : Outcome}
    {e : GrammarError} :
    checkGroups state source p o = .error e ↔
      ∃ tags, o = .groups tags ∧ p.groupCount ≠ tags.length ∧
        e = .groupMismatch state source p.groupCount tags.length := by
  cases o with
  | groups tags =>
    rw [checkGroups]
    split
    · rename_i hEq
      refine iff_of_false (fun h => by cases h) ?_
      rintro ⟨_, h, hNe, -⟩
      cases h
      exact hNe hEq
    · rename_i hNe
      constructor
      · intro h
        cases h
        exact ⟨tags, rfl, hNe, rfl⟩
      · rintro ⟨_, h, -, rfl⟩
        cases h
        rfl
  | emit | cases | bracket =>
    refine iff_of_false (fun h => by cases h) ?_
    rintro ⟨_, h, -⟩
    cases h

theorem lookup_zipIdx (names : List String) (n : Nat) (name : String) :
    (names.zipIdx n).lookup name = (names.idxOf? name).map (· + n) := by
  induction names generalizing n with
  | nil => rfl
  | cons first names ih =>
    rw [List.zipIdx_cons, List.lookup_cons, List.idxOf?_cons]
    by_cases hEq : first = name
    · simp [hEq]
    · have hNe : (name == first) = false := beq_eq_false_iff_ne.mpr (Ne.symm hEq)
      simp [hEq, hNe, ih, Function.comp_def, Nat.add_assoc, Nat.add_comm 1]

theorem lookup_index (d : Declaration) (name : String) :
    d.index.lookup name = d.stateNames.idxOf? name := by
  rw [index, lookup_zipIdx]
  simp

theorem target_eq_ok_iff {d : Declaration} {state pattern name : String} {id : StateId} :
    d.target state pattern name = .ok id ↔ d.stateNames.idxOf? name = some id := by
  rw [target, lookup_index]
  split <;> rename_i h <;> simp [h]

theorem target_eq_error_iff {d : Declaration} {state pattern name : String} {e : GrammarError} :
    d.target state pattern name = .error e ↔
      name ∉ d.stateNames ∧ e = .unknownState name (.rule pattern state) := by
  rw [target, lookup_index]
  split
  · rename_i h
    have hMem : name ∈ d.stateNames := List.isSome_idxOf?.mp (by rw [h]; rfl)
    simp [hMem]
  · rename_i h
    rw [List.idxOf?_eq_none_iff] at h
    simp [h, eq_comm]

theorem effect_eq_error_iff {d : Declaration} {state pattern : String} {a : StackAction}
    {e : GrammarError} :
    d.effect state pattern a = .error e ↔
      ∃ name, (a = .push name ∨ a = .switch name) ∧ name ∉ d.stateNames ∧
        e = .unknownState name (.rule pattern state) := by
  cases a with
  | stay | pop | popAll => simp [effect]
  | push name | switch name =>
    rw [effect, except_bind_eq_error_iff, target_eq_error_iff]
    simp [pure, Except.pure]

variable {engine : Engine}

theorem rule_eq (d : Declaration) (engine : Engine) (state : String) (r : RuleDeclaration) :
    d.rule engine state r =
      match d.pattern? engine r with
      | none => .error (.invalidPattern state r.pattern)
      | some p => checkGroups state r.pattern p r.outcome >>= fun captures =>
        d.effect state r.pattern r.action >>= fun effect =>
          .ok ⟨r.pattern, p, (splitPattern r.pattern).1, captures, d.outcome r.outcome, effect⟩ := rfl

theorem rule_eq_ok_iff {d : Declaration} {state : String} {r : RuleDeclaration} {rule : Rule} :
    d.rule engine state r = .ok rule ↔
      ∃ p effect, d.pattern? engine r = some p ∧
        (∀ tags, r.outcome = .groups tags → p.groupCount = tags.length) ∧
        d.effect state r.pattern r.action = .ok effect ∧
        rule = ⟨r.pattern, p, (splitPattern r.pattern).1, r.outcome.isGroups, d.outcome r.outcome,
          effect⟩ := by
  rw [rule_eq]
  cases hPattern : d.pattern? engine r with
  | none => simp
  | some p =>
    simp only [except_bind_eq_ok_iff, checkGroups_eq_ok_iff, Except.ok.injEq]
    constructor
    · rintro ⟨_, ⟨hGroups, rfl⟩, effect, hEffect, rfl⟩
      exact ⟨p, effect, rfl, hGroups, hEffect, rfl⟩
    · rintro ⟨_, effect, hp, hGroups, hEffect, rfl⟩
      cases hp
      exact ⟨_, ⟨hGroups, rfl⟩, effect, hEffect, rfl⟩

theorem rule_eq_error_iff {d : Declaration} {state : String} {r : RuleDeclaration}
    {e : GrammarError} : d.rule engine state r = .error e ↔ RuleFault d engine state r e := by
  rw [rule_eq]
  constructor
  · intro h
    split at h
    · rename_i hPattern
      cases h
      exact .pattern hPattern
    · rename_i p hPattern
      rcases except_bind_eq_error_iff.mp h with h | ⟨_, hGroups, h⟩
      · obtain ⟨tags, hOutcome, hNe, rfl⟩ := checkGroups_eq_error_iff.mp h
        exact .groups hPattern hOutcome hNe
      · rcases except_bind_eq_error_iff.mp h with h | ⟨_, _, h⟩
        · obtain ⟨name, hAction, hMem, rfl⟩ := effect_eq_error_iff.mp h
          exact .target hPattern (checkGroups_eq_ok_iff.mp hGroups).1 hAction hMem
        · cases h
  · intro h
    cases h with
    | pattern hPattern => rw [hPattern]
    | groups hPattern hOutcome hNe =>
      rw [hPattern]
      exact except_bind_eq_error_iff.mpr
        (.inl (checkGroups_eq_error_iff.mpr ⟨_, hOutcome, hNe, rfl⟩))
    | target hPattern hGroups hAction hMem =>
      rw [hPattern]
      exact except_bind_eq_error_iff.mpr (.inr ⟨_, checkGroups_eq_ok_iff.mpr ⟨hGroups, rfl⟩,
        except_bind_eq_error_iff.mpr
          (.inl (effect_eq_error_iff.mpr ⟨_, hAction, hMem, rfl⟩))⟩)

theorem exists_rule_eq_ok_iff {d : Declaration} {state : String} {r : RuleDeclaration} :
    (∃ rule, d.rule engine state r = .ok rule) ↔ ∀ e, ¬ RuleFault d engine state r e := by
  simp only [exists_ok_iff, ne_eq, rule_eq_error_iff]

theorem mem_inlineRules {d : Declaration} {state : String} {r : RuleDeclaration} :
    (state, r) ∈ d.inlineRules ↔ ∃ s ∈ d.states, s.name = state ∧ .rule r ∈ s.entries := by
  simp only [inlineRules, List.mem_flatMap, List.mem_map, Prod.mk.injEq,
    StateDeclaration.inlineRules, List.mem_filterMap]
  constructor
  · rintro ⟨s, hs, _, ⟨entry, hEntry, hRule⟩, rfl, rfl⟩
    cases entry with
    | rule =>
      cases hRule
      exact ⟨s, hs, rfl, hEntry⟩
    | «include» => cases hRule
  · rintro ⟨s, hs, rfl, hr⟩
    exact ⟨s, hs, r, ⟨.rule r, hr, rfl⟩, rfl, rfl⟩

end Declaration

namespace Grammar

def assemble (d : Declaration) (depthLimit : Nat) (root : StateId) (rules : List Rule)
    (lists : List (List RuleId)) : Grammar where
  name := d.name
  rules := rules
  states := List.zipWith State.mk d.stateNames lists
  index := d.index
  root := root
  defaultTag := d.tag d.defaultTag
  ignoreCase := d.ignoreCase
  brackets := d.bracketPairs
  depthLimit := max depthLimit 1

theorem build_eq (d : Declaration) (depthLimit : Nat) (engine : Engine) :
    build d depthLimit engine =
      if currentVersion < d.version then .error (.unsupportedVersion d.version currentVersion)
      else
        match Declaration.firstRepeated? [] d.stateNames with
        | some name => .error (.duplicateState name)
        | none =>
          match d.index.lookup d.root with
          | none => .error (.unknownState d.root .root)
          | some root => (d.inlineRules.mapM fun x => d.rule engine x.1 x.2) >>= fun rules =>
            Includes.expandAll d.stateNames (StateDeclaration.slotsFrom 0 d.states) >>= fun lists =>
              .ok (assemble d depthLimit root rules lists) := by
  unfold build
  by_cases hVersion : currentVersion < d.version
  · simp only [hVersion, if_true]
    rfl
  · simp only [hVersion, if_false]
    cases hRepeated : Declaration.firstRepeated? [] d.stateNames with
    | some name => cases d.index.lookup d.root <;> rfl
    | none => cases d.index.lookup d.root <;> rfl

variable {d : Declaration} {depthLimit : Nat} {engine : Engine}

theorem build_eq_ok_iff {g : Grammar} :
    build d depthLimit engine = .ok g ↔
      d.version ≤ currentVersion ∧ d.stateNames.Nodup ∧
      ∃ root rules lists, d.stateNames.idxOf? d.root = some root ∧
        List.Forall₂ (fun x rule => d.rule engine x.1 x.2 = .ok rule) d.inlineRules rules ∧
        Includes.expandAll d.stateNames (StateDeclaration.slotsFrom 0 d.states) = .ok lists ∧
        g = assemble d depthLimit root rules lists := by
  rw [build_eq, Declaration.lookup_index]
  constructor
  · intro h
    split at h
    · cases h
    · rename_i hVersion
      split at h
      · cases h
      · rename_i hDistinct
        split at h
        · cases h
        · rename_i root hRoot
          obtain ⟨rules, hRules, h⟩ := except_bind_eq_ok_iff.mp h
          obtain ⟨lists, hLists, h⟩ := except_bind_eq_ok_iff.mp h
          cases h
          exact ⟨UInt32.not_lt.mp hVersion, (Declaration.firstRepeated?_eq_none_iff.mp hDistinct).1,
            root, rules, lists, hRoot, mapM_eq_ok_iff.mp hRules, hLists, rfl⟩
  · rintro ⟨hVersion, hNodup, root, rules, lists, hRoot, hRules, hLists, rfl⟩
    have hDistinct : Declaration.firstRepeated? [] d.stateNames = none :=
      Declaration.firstRepeated?_eq_none_iff.mpr ⟨hNodup, fun _ _ => List.not_mem_nil⟩
    rw [if_neg (UInt32.not_lt.mpr hVersion)]
    simp only [hDistinct, hRoot, mapM_eq_ok_iff.mpr hRules, hLists]
    rfl

end Grammar

end Highlight
