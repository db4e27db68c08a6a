import Highlight.Proofs.LineByLine
import Highlight.Proofs.StateRules

/-! # Names and order of states

States are told apart by their names, so the names may be replaced by any others that are different,
and the order of the states does not count. A declaration is valid if and only if it is after such a
change. The grammars that are built then tokenize every text alike, with the stacks under their new
names, although states and rules have other positions.
-/

namespace Highlight

def Entry.rename (f : String → String) : Entry → Entry
  | .include name => .include (f name)
  | .rule r => .rule (r.rename f)

namespace StateDeclaration

def rename (f : String → String) (s : StateDeclaration) : StateDeclaration :=
  ⟨f s.name, s.entries.map (·.rename f)⟩

variable {f : String → String} {s : StateDeclaration}

theorem rule_mem_rename {r : RuleDeclaration} :
    .rule r ∈ (s.rename f).entries ↔ ∃ r₀, .rule r₀ ∈ s.entries ∧ r₀.rename f = r := by
  simp only [rename, List.mem_map]
  constructor
  · rintro ⟨entry, hMem, hEq⟩
    cases entry with
    | rule r₀ => exact ⟨r₀, hMem, Entry.rule.inj hEq⟩
    | «include» => cases hEq
  · rintro ⟨r₀, hMem, rfl⟩
    exact ⟨.rule r₀, hMem, rfl⟩

theorem include_mem_rename {name : String} :
    .include name ∈ (s.rename f).entries ↔ ∃ name₀, .include name₀ ∈ s.entries ∧ f name₀ = name := by
  simp only [rename, List.mem_map]
  constructor
  · rintro ⟨entry, hMem, hEq⟩
    cases entry with
    | rule => cases hEq
    | «include» name₀ => exact ⟨name₀, hMem, Entry.include.inj hEq⟩
  · rintro ⟨name₀, hMem, rfl⟩
    exact ⟨.include name₀, hMem, rfl⟩

end StateDeclaration

theorem StackAction.targets_rename {f : String → String} {a : StackAction} {name : String} :
    (a.rename f = .push name ∨ a.rename f = .switch name) ↔
      ∃ name₀, (a = .push name₀ ∨ a = .switch name₀) ∧ f name₀ = name := by
  cases a <;> simp [rename]

namespace Declaration

def rename (f : String → String) (d : Declaration) : Declaration :=
  { d with root := f d.root, states := d.states.map (·.rename f) }

variable {d : Declaration} {engine : Engine} {f : String → String}
  {states : List StateDeclaration}

@[simp] theorem stateNames_rename : (d.rename f).stateNames = d.stateNames.map f := by
  simp [stateNames, rename, StateDeclaration.rename, Function.comp_def]

theorem mem_stateNames_rename (hf : Function.Injective f) {name : String} :
    f name ∈ (d.rename f).stateNames ↔ name ∈ d.stateNames := by
  rw [stateNames_rename, List.mem_map_of_injective hf]

theorem includes_rename : (d.rename f).Includes = Relation.Map d.Includes f f := by
  funext a b
  refine propext ⟨?_, ?_⟩
  · rintro ⟨_, hs', rfl, hMem'⟩
    obtain ⟨s, hs, rfl⟩ := List.mem_map.mp hs'
    obtain ⟨name, hMem, rfl⟩ := StateDeclaration.include_mem_rename.mp hMem'
    exact ⟨s.name, name, ⟨s, hs, rfl, hMem⟩, rfl, rfl⟩
  · rintro ⟨_, name, ⟨s, hs, rfl, hMem⟩, rfl, rfl⟩
    exact ⟨s.rename f, List.mem_map_of_mem hs, rfl,
      StateDeclaration.include_mem_rename.mpr ⟨name, hMem, rfl⟩⟩

theorem transGen_map_iff {α β : Type} {r : α → α → Prop} {F : α → β} (hF : Function.Injective F)
    {x y : β} :
    Relation.TransGen (Relation.Map r F F) x y ↔ Relation.Map (Relation.TransGen r) F F x y := by
  constructor
  · intro h
    induction h with
    | single hxy =>
      obtain ⟨a, b, hab, rfl, rfl⟩ := hxy
      exact ⟨a, b, .single hab, rfl, rfl⟩
    | tail _ hyz ih =>
      obtain ⟨a, b, hab, rfl, rfl⟩ := ih
      obtain ⟨b', c, hbc, hEq, rfl⟩ := hyz
      cases hF hEq
      exact ⟨a, c, .tail hab hbc, rfl, rfl⟩
  · rintro ⟨a, b, hab, rfl, rfl⟩
    exact hab.lift F fun _ _ hr => ⟨_, _, hr, rfl, rfl⟩

theorem Valid.rename (h : d.Valid engine) (hf : Function.Injective f) :
    (d.rename f).Valid engine where
  version := h.version
  distinct := by
    rw [stateNames_rename]
    exact h.distinct.map hf
  root := (mem_stateNames_rename hf).mpr h.root
  pattern := by
    intro _ hs' _ hr'
    obtain ⟨s, hs, rfl⟩ := List.mem_map.mp hs'
    obtain ⟨r, hr, rfl⟩ := StateDeclaration.rule_mem_rename.mp hr'
    exact h.pattern s hs r hr
  groups := by
    intro _ hs' _ hr'
    obtain ⟨s, hs, rfl⟩ := List.mem_map.mp hs'
    obtain ⟨r, hr, rfl⟩ := StateDeclaration.rule_mem_rename.mp hr'
    exact h.groups s hs r hr
  target := by
    intro _ hs' _ hr' _ hName'
    obtain ⟨s, hs, rfl⟩ := List.mem_map.mp hs'
    obtain ⟨r, hr, rfl⟩ := StateDeclaration.rule_mem_rename.mp hr'
    obtain ⟨name, hName, rfl⟩ := StackAction.targets_rename.mp hName'
    exact (mem_stateNames_rename hf).mpr (h.target s hs r hr name hName)
  included := by
    intro _ hs' _ hName'
    obtain ⟨s, hs, rfl⟩ := List.mem_map.mp hs'
    obtain ⟨name, hName, rfl⟩ := StateDeclaration.include_mem_rename.mp hName'
    exact (mem_stateNames_rename hf).mpr (h.included s hs name hName)
  acyclic := by
    intro _ hLoop
    rw [includes_rename, transGen_map_iff hf] at hLoop
    obtain ⟨a, b, hLoop, rfl, hEq⟩ := hLoop
    cases hf hEq
    exact h.acyclic _ hLoop

theorem Valid.of_rename (h : (d.rename f).Valid engine) (hf : Function.Injective f) :
    d.Valid engine := by
  have hState : ∀ s ∈ d.states, s.rename f ∈ (d.rename f).states :=
    fun _ hs => List.mem_map_of_mem hs
  have hRule : ∀ s : StateDeclaration, ∀ r, .rule r ∈ s.entries →
      .rule (r.rename f) ∈ (s.rename f).entries :=
    fun _ r hr => StateDeclaration.rule_mem_rename.mpr ⟨r, hr, rfl⟩
  have hDistinct := h.distinct
  rw [stateNames_rename] at hDistinct
  exact {
    version := h.version
    distinct := hDistinct.of_map f
    root := (mem_stateNames_rename hf).mp h.root
    pattern := fun s hs r hr => h.pattern _ (hState s hs) (r.rename f) (hRule s r hr)
    groups := fun s hs r hr => h.groups _ (hState s hs) (r.rename f) (hRule s r hr)
    target := fun s hs r hr name hName => (mem_stateNames_rename hf).mp
      (h.target _ (hState s hs) _ (hRule s r hr) _ (StackAction.targets_rename.mpr ⟨name, hName, rfl⟩))
    included := fun s hs name hName => (mem_stateNames_rename hf).mp
      (h.included _ (hState s hs) _ (StateDeclaration.include_mem_rename.mpr ⟨name, hName, rfl⟩))
    acyclic := fun a hLoop => by
      refine h.acyclic (f a) ?_
      rw [includes_rename, transGen_map_iff hf]
      exact ⟨a, a, hLoop, rfl, rfl⟩ }

theorem Valid.of_perm (h : d.Valid engine) (hStates : states.Perm d.states) :
    ({ d with states := states } : Declaration).Valid engine := by
  have hNames : ({ d with states := states } : Declaration).stateNames.Perm d.stateNames :=
    hStates.map StateDeclaration.name
  have hIncludes : ({ d with states := states } : Declaration).Includes = d.Includes := by
    funext a b
    simp only [Includes, hStates.mem_iff]
  exact {
    version := h.version
    distinct := hNames.nodup_iff.mpr h.distinct
    root := hNames.mem_iff.mpr h.root
    pattern := fun s hs => h.pattern s (hStates.mem_iff.mp hs)
    groups := fun s hs => h.groups s (hStates.mem_iff.mp hs)
    target := fun s hs r hr name hName =>
      hNames.mem_iff.mpr (h.target s (hStates.mem_iff.mp hs) r hr name hName)
    included := fun s hs name hName =>
      hNames.mem_iff.mpr (h.included s (hStates.mem_iff.mp hs) name hName)
    acyclic := by
      rw [hIncludes]
      exact h.acyclic }

theorem valid_renamed_iff (hf : Function.Injective f) (hStates : states.Perm (d.rename f).states) :
    ({ d.rename f with states := states } : Declaration).Valid engine ↔ d.Valid engine := by
  constructor
  · intro h
    have hBack : (d.rename f).Valid engine := h.of_perm hStates.symm
    exact hBack.of_rename hf
  · intro h
    exact (h.rename hf).of_perm hStates

theorem Inlines.rename {d' : Declaration} (hStates : ∀ s ∈ d.states, s.rename f ∈ d'.states)
    {es : List Entry} {rs : List RuleDeclaration} (h : d.Inlines es rs) :
    d'.Inlines (es.map (·.rename f)) (rs.map (·.rename f)) := by
  induction h with
  | nil => exact .nil
  | rule _ ih => exact .rule ih
  | splice hs _ _ ihState ih =>
    rw [List.map_append]
    exact .splice (hStates _ hs) ihState ih

def newPosition (f : String → String) (d d' : Declaration) (i : StateId) : StateId :=
  (d'.stateNames.idxOf? (f (d.stateNames.getD i ""))).getD 0

theorem corresponds_renamed (hStates : states.Perm (d.rename f).states)
    (hNodup : ({ d.rename f with states := states } : Declaration).stateNames.Nodup) :
    Corresponds (newPosition f d { d.rename f with states := states }) f d
      { d.rename f with states := states } := by
  refine ⟨rfl, rfl, rfl, rfl, rfl, fun i s hs => ?_⟩
  have hAll : ∀ s ∈ d.states, s.rename f ∈ states :=
    fun s hs => hStates.mem_iff.mpr (List.mem_map_of_mem hs)
  obtain ⟨j, hj⟩ := List.getElem?_of_mem (hAll s (List.mem_of_getElem? hs))
  refine ⟨s.rename f, ?_, rfl, fun rs hInlines => hInlines.rename hAll⟩
  have hPosition : ({ d.rename f with states := states } : Declaration).stateNames.idxOf?
      (f s.name) = some j := idxOf?_stateNames hNodup hj
  rw [newPosition, getD_stateNames hs, hPosition]
  exact hj

end Declaration

namespace Grammar

variable {engine : Engine} {d d' : Declaration} {depthLimit : Nat} {g g' : Grammar}
  {σ : StateId → StateId}
  {f : String → String}

theorem stackNames_map (h : d.Corresponds σ f d') (hg : build d depthLimit engine = .ok g)
    (hg' : build d' depthLimit engine = .ok g') {stack : StateStack} (hStack : g.accepts stack = true) :
    g'.stackNames (stack.map σ) = (g.stackNames stack).map f := by
  have hName : ∀ i ∈ stack.ids, g'.stateName? (σ i) = (g.stateName? i).map f := by
    intro i hi
    have hLt := accepts_iff.mp hStack i hi
    rw [length_states_of_build hg] at hLt
    have hs := List.getElem?_eq_getElem hLt
    obtain ⟨s', hs', hEq, -⟩ := h.state i _ hs
    rw [stateName?_eq, stateName?_eq, stateNames_of_build hg, stateNames_of_build hg']
    simp [Declaration.stateNames, hs, hs', hEq]
  rw [stackNames, StateStack.ids_map, List.filterMap_map, stackNames, List.map_filterMap]
  exact List.filterMap_congr hName

/-- New names and another order of the states make no difference to a text but for the names. -/
theorem renaming_preserves (d : Declaration) (depthLimit : Nat) (engine : Engine)
    {f : String → String} (hf : Function.Injective f) {states : List StateDeclaration}
    (hStates : states.Perm (d.rename f).states) :
    ((∃ g', build { d.rename f with states := states } depthLimit engine = .ok g') ↔
        ∃ g, build d depthLimit engine = .ok g) ∧
      ∀ g g', build d depthLimit engine = .ok g →
        build { d.rename f with states := states } depthLimit engine = .ok g' → ∀ text,
          List.Forall₂
            (fun t t' => t'.spans = t.spans ∧ g'.stackNames t'.stack = (g.stackNames t.stack).map f)
            (g.run text).lines (g'.run text).lines ∧
          (g'.run text).counters = (g.run text).counters := by
  constructor
  · rw [Declaration.exists_build_eq_ok_iff, Declaration.exists_build_eq_ok_iff]
    exact Declaration.valid_renamed_iff hf hStates
  · intro g g' hg hg' text
    have hCorresponds :=
      Declaration.corresponds_renamed hStates (nodup_stateNames_of_build hg')
    have hWell := wellFormed_of_build hg
    have hMirrors := (hCorresponds.relocates hg hg').mirrors hWell
    rw [hMirrors.run_map fun _ _ _ _ => trivial]
    refine ⟨?_, rfl⟩
    rw [Run.mapStacks, List.forall₂_map_right_iff, List.forall₂_same]
    intro t ht
    refine ⟨rfl, stackNames_map hCorresponds hg hg' ?_⟩
    rw [run, lines_runLines] at ht
    exact (hWell.keeps_initial.of_mem_tokenizeLines hWell t ht).accepted

theorem fsd_renaming_preserves :
    Function.Injective ("fsd." ++ · : String → String) ∧
      (Fsd.declaration.rename ("fsd." ++ ·)).states.reverse.Perm
        (Fsd.declaration.rename ("fsd." ++ ·)).states ∧
      build Fsd.declaration = .ok Fsd.grammar ∧
      ∃ g', build { Fsd.declaration.rename ("fsd." ++ ·) with
          states := (Fsd.declaration.rename ("fsd." ++ ·)).states.reverse } = .ok g' ∧
        List.Forall₂
          (fun t t' => t'.spans = t.spans ∧
            g'.stackNames t'.stack = (Fsd.grammar.stackNames t.stack).map ("fsd." ++ ·))
          (Fsd.grammar.run "[id\n(1)").lines
          (g'.run "[id\n(1)").lines ∧
        (g'.run "[id\n(1)").counters =
          (Fsd.grammar.run "[id\n(1)").counters := by
  have hf : Function.Injective ("fsd." ++ · : String → String) := fun a b h => by simpa using h
  have hStates := List.reverse_perm (Fsd.declaration.rename ("fsd." ++ ·)).states
  have hBuild := renaming_preserves Fsd.declaration usualDepthLimit .standard hf hStates
  obtain ⟨g', hg'⟩ := hBuild.1.mpr ⟨_, Fsd.build_declaration⟩
  exact ⟨hf, hStates, Fsd.build_declaration, g', hg',
    hBuild.2 _ g' Fsd.build_declaration hg' "[id\n(1)"⟩

end Grammar

end Highlight
