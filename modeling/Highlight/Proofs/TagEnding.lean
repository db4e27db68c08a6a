import Highlight.Fsd
import Highlight.Proofs.Steps
import Highlight.Proofs.WellFormed

/-! # Tags with a common ending

No step depends on a tag: tags are only handed on, from the declaration to the rules and from there
to the spans. So a grammar whose tags are changed makes the same steps, with the tags of its spans
changed in the same way. The common ending of a declaration is such a change, which leaves the empty
tag as it is.
-/

namespace Highlight

open Text

namespace CaseTable

def mapTags (f : String → String) (t : CaseTable) : CaseTable where
  entries := t.entries.map fun e => (e.1, f e.2)
  sorted := List.pairwise_map.mpr t.sorted

variable (f : String → String)

theorem get?_mapTags (t : CaseTable) (text : String) :
    (t.mapTags f).get? text = (t.get? text).map f := by
  change (t.entries.map fun e => (e.1, f e.2)).lookup text = (t.entries.lookup text).map f
  induction t.entries with
  | nil => rfl
  | cons e es ih =>
    rw [List.map_cons, List.lookup_cons, List.lookup_cons]
    cases text == e.1 with
    | true => rfl
    | false => exact ih

theorem map_insertEntry (text tag : String) (es : List (String × String)) :
    insertEntry text (f tag) (es.map fun e => (e.1, f e.2)) =
      (insertEntry text tag es).map fun e => (e.1, f e.2) := by
  induction es with
  | nil => rfl
  | cons e es ih =>
    rw [List.map_cons, insertEntry, insertEntry, ih]
    split
    · rfl
    · split
      · rfl
      · rfl

theorem ofList_map (es : List (String × String)) :
    ofList (es.map fun e => (e.1, f e.2)) = (ofList es).mapTags f := by
  have hFold : ∀ t : CaseTable, (es.map fun e => (e.1, f e.2)).foldl (fun t e => t.insert e.1 e.2)
      (t.mapTags f) = (es.foldl (fun t e => t.insert e.1 e.2) t).mapTags f := by
    induction es with
    | nil => exact fun _ => rfl
    | cons e es ih =>
      intro t
      have hInsert : (t.mapTags f).insert e.1 (f e.2) = (t.insert e.1 e.2).mapTags f :=
        eq_of_entries_eq (map_insertEntry f e.1 e.2 t.entries)
      rw [List.map_cons, List.foldl_cons, List.foldl_cons, hInsert, ih]
  exact hFold empty

end CaseTable

def Outcome.mapTags (f : String → String) : Outcome → Outcome
  | .emit tag => .emit (f tag)
  | .cases table default => .cases (table.mapTags f) (f default)
  | .bracket tag polarity => .bracket (tag.map f) polarity
  | .groups tags => .groups (tags.map f)

def Rule.mapTags (f : String → String) (r : Rule) : Rule := { r with outcome := r.outcome.mapTags f }

def BracketPair.mapTag (f : String → String) (b : BracketPair) : BracketPair :=
  { b with tag := f b.tag }

def Grammar.mapTags (f : String → String) (g : Grammar) : Grammar :=
  { g with
    rules := g.rules.map (·.mapTags f)
    defaultTag := f g.defaultTag
    brackets := g.brackets.map (·.mapTag f) }

def Span.mapTag (f : String → String) (s : Span) : Span := { s with tag := f s.tag }

def Step.mapTags (f : String → String) (s : Step) : Step :=
  { s with spans := s.spans.map (·.mapTag f) }

def TokenizedLine.mapTags (f : String → String) (t : TokenizedLine) : TokenizedLine :=
  { t with spans := t.spans.map (·.mapTag f) }

def Run.mapTags (f : String → String) (r : Run) : Run :=
  { r with lines := r.lines.map (·.mapTags f) }

variable {f : String → String}

theorem Match.keptGroups_map (m : Match) (index covered : Nat) (tags : List String) :
    m.keptGroups index covered (tags.map f) =
      (m.keptGroups index covered tags).map (Prod.map id f) := by
  induction tags generalizing index covered with
  | nil => rfl
  | cons tag tags ih =>
    rw [List.map_cons, keptGroups, keptGroups]
    cases m.capture? index with
    | none => exact ih _ _
    | some c =>
      dsimp only
      split
      · rw [ih, List.map_cons]
        rfl
      · exact ih _ _

theorem groupSpans_map (start : Nat) (kept : List (Capture × String)) :
    groupSpans start (kept.map (Prod.map id f)) = (groupSpans start kept).map (·.mapTag f) := by
  cases kept with
  | nil => rfl
  | cons x kept =>
    simp only [groupSpans, List.map_cons, List.map_map]
    rfl

namespace Grammar

variable (g : Grammar)

theorem bracketOf?_mapTags (text : String) :
    (g.mapTags f).bracketOf? text = (g.bracketOf? text).map (Prod.map f id) := by
  change (g.brackets.map (·.mapTag f)).findSome? _ = (g.brackets.findSome? _).map _
  rw [List.findSome?_map, List.map_findSome?]
  congr 1
  funext b
  simp only [Function.comp_apply, BracketPair.mapTag]
  split
  · rfl
  · split <;> rfl

theorem classify_mapTags (o : Outcome) (text : String) :
    (g.mapTags f).classify (o.mapTags f) text = Prod.map f id (g.classify o text) := by
  cases o with
  | emit tag => rfl
  | cases table default =>
    change (((table.mapTags f).get? _).getD (f default), none) = (f _, none)
    rw [CaseTable.get?_mapTags, Option.getD_map]
    rfl
  | bracket tag polarity =>
    simp only [Outcome.mapTags, classify, bracketOf?_mapTags]
    cases tag with
    | some tag => cases g.bracketOf? text <;> rfl
    | none => cases g.bracketOf? text <;> rfl
  | groups tags => cases tags <;> rfl

theorem wholeSpan_mapTags (o : Outcome) (c : Cursor) (m : Match) :
    (g.mapTags f).wholeSpan (o.mapTags f) c m = (g.wholeSpan o c m).mapTag f := by
  rw [wholeSpan, classify_mapTags]
  rfl

theorem capturedSpans_mapTags (o : Outcome) (c : Cursor) (m : Match) :
    (g.mapTags f).capturedSpans (o.mapTags f) c m =
      (g.capturedSpans o c m).map (·.mapTag f) := by
  have hTag : ∀ text, ((g.mapTags f).classify (o.mapTags f) text) =
      Prod.map f id (g.classify o text) := g.classify_mapTags o
  cases o with
  | groups tags =>
    rw [Outcome.mapTags] at hTag ⊢
    simp only [capturedSpans, m.keptGroups_map, groupSpans_map, hTag]
    cases groupSpans c.offset (m.keptGroups 1 c.offset tags) <;> rfl
  | emit | cases | bracket => exact congrArg (fun s => [s]) (g.wholeSpan_mapTags _ c m)

theorem spansOf_mapTags (rule : Rule) (c : Cursor) (m : Match) :
    (g.mapTags f).spansOf (rule.mapTags f) c m = (g.spansOf rule c m).map (·.mapTag f) := by
  have hCaptures : (rule.mapTags f).captures = rule.captures := rfl
  have hOutcome : (rule.mapTags f).outcome = rule.outcome.mapTags f := rfl
  rw [spansOf, spansOf, hCaptures, hOutcome]
  split
  · exact g.capturedSpans_mapTags rule.outcome c m
  · rw [wholeSpan_mapTags, List.map_singleton]

theorem rulesAt_mapTags (id : StateId) :
    (g.mapTags f).rulesAt id = (g.rulesAt id).map fun x => (x.1, x.2.mapTags f) := by
  have hStates : (g.mapTags f).states = g.states := rfl
  have hRules : (g.mapTags f).rules = g.rules.map (Rule.mapTags f) := rfl
  rw [rulesAt, rulesAt, hStates, hRules]
  cases g.states[id]? with
  | none => rfl
  | some s =>
    dsimp only
    rw [List.map_filterMap]
    congr 1
    funext r
    rw [List.getElem?_map, Option.map_map, Option.map_map]
    rfl

theorem firstMatch?_mapTags (id : StateId) (c : Cursor) :
    (g.mapTags f).firstMatch? id c =
      (g.firstMatch? id c).map fun x => (x.1, x.2.1.mapTags f, x.2.2) := by
  rw [firstMatch?, rulesAt_mapTags, List.findSome?_map, firstMatch?, List.map_findSome?]
  congr 1
  funext ⟨id, rule⟩
  simp only [Function.comp_apply, Rule.mapTags]
  split
  · rfl
  · rw [Option.map_map]
    rfl

theorem step_mapTags (stack : StateStack) (c : Cursor) :
    (g.mapTags f).step stack c = (g.step stack c).mapTags f := by
  rw [step, firstMatch?_mapTags, step]
  cases g.firstMatch? stack.top c with
  | none => rfl
  | some found =>
    obtain ⟨id, rule, m⟩ := found
    simp only [Option.map_some, spansOf_mapTags, Step.mapTags]
    rfl

theorem stepsFrom_mapTags (bound : Nat) (stack : StateStack) (c : Cursor) :
    (g.mapTags f).stepsFrom bound stack c = (g.stepsFrom bound stack c).map (·.mapTags f) := by
  induction bound generalizing stack c with
  | zero => rfl
  | succ bound ih =>
    by_cases hRest : c.rest = []
    · rw [stepsFrom_of_rest_eq_nil _ hRest, stepsFrom_of_rest_eq_nil _ hRest, List.map_nil]
    · rw [stepsFrom_succ bound hRest, stepsFrom_succ bound hRest, step_mapTags, ih]
      rfl

theorem steps_mapTags (stack : StateStack) (line : String) :
    (g.mapTags f).steps stack line = (g.steps stack line).map (·.mapTags f) :=
  g.stepsFrom_mapTags _ (g.enter stack) (.ofLine line)

end Grammar

section Steps

variable (steps : List Step) (start : StateStack)

theorem stackAfter_map_mapTags : stackAfter start (steps.map (·.mapTags f)) =
    stackAfter start steps := by
  rw [stackAfter, stackAfter, List.getLast?_map]
  cases steps.getLast? <;> rfl

theorem countP_map_mapTags : (steps.map (·.mapTags f)).countP (·.isFallback) =
    steps.countP (·.isFallback) :=
  List.countP_map

theorem peakDepth_map_mapTags : peakDepth start (steps.map (·.mapTags f)) = peakDepth start steps :=
  List.foldl_map

/-- The one span of an empty line has the empty tag, which has to stay as it is. -/
theorem ofSteps_map_mapTags (hEmpty : f "" = "") :
    TokenizedLine.ofSteps start (steps.map (·.mapTags f)) =
      (TokenizedLine.ofSteps start steps).mapTags f := by
  rw [TokenizedLine.ofSteps, stackAfter_map_mapTags]
  cases steps with
  | nil => simp [TokenizedLine.ofSteps, TokenizedLine.mapTags, Span.mapTag, emptyLineSpan, hEmpty]
  | cons s steps =>
    change TokenizedLine.mk (((s :: steps).map (·.mapTags f)).flatMap (·.spans)) _ =
      ⟨((s :: steps).flatMap (·.spans)).map (·.mapTag f), _⟩
    rw [List.flatMap_map, List.map_flatMap]
    rfl

end Steps

namespace Grammar

variable (g : Grammar)

theorem tokenizeLine_mapTags (hEmpty : f "" = "") (stack : StateStack) (line : String) :
    (g.mapTags f).tokenizeLine stack line = (g.tokenizeLine stack line).mapTags f := by
  rw [tokenizeLine, steps_mapTags]
  exact ofSteps_map_mapTags _ _ hEmpty

theorem runLines_mapTags (hEmpty : f "" = "") (stack : StateStack) (n : Counters)
    (lines : List String) :
    (g.mapTags f).runLines stack n lines = (g.runLines stack n lines).mapTags f := by
  induction lines generalizing stack n with
  | nil => rfl
  | cons line lines ih =>
    have hEnter : (g.mapTags f).enter stack = g.enter stack := rfl
    simp only [runLines, steps_mapTags, hEnter, ofSteps_map_mapTags _ _ hEmpty, countP_map_mapTags,
      peakDepth_map_mapTags, ih]
    simp only [TokenizedLine.mapTags, List.length_map, Run.mapTags, List.map_cons]

theorem run_mapTags (hEmpty : f "" = "") (text : String) :
    (g.mapTags f).run text = (g.run text).mapTags f :=
  g.runLines_mapTags hEmpty g.initial {} (Text.lines text)

/-- The second grammar does what the first one does, with its tags changed by `f`. -/
structure Retags (f : String → String) (g g' : Grammar) : Prop where
  stateNames_eq : g'.stateNames = g.stateNames
  index_eq : g'.index = g.index
  root_eq : g'.root = g.root
  defaultTag_eq : g'.defaultTag = f g.defaultTag
  line_eq : ∀ stack line, g'.tokenizeLine stack line = (g.tokenizeLine stack line).mapTags f
  fallbacks_eq : ∀ stack line, (g'.steps stack line).countP (·.isFallback) =
    (g.steps stack line).countP (·.isFallback)
  peakDepth_eq : ∀ stack line, peakDepth (g'.enter stack) (g'.steps stack line) =
    peakDepth (g.enter stack) (g.steps stack line)
  run_eq : ∀ text, g'.run text = (g.run text).mapTags f

theorem retags_mapTags (hEmpty : f "" = "") : Retags f g (g.mapTags f) where
  stateNames_eq := rfl
  index_eq := rfl
  root_eq := rfl
  defaultTag_eq := rfl
  line_eq := g.tokenizeLine_mapTags hEmpty
  fallbacks_eq stack line := by rw [steps_mapTags, countP_map_mapTags]
  peakDepth_eq stack line := by rw [steps_mapTags, peakDepth_map_mapTags]; rfl
  run_eq := g.run_mapTags hEmpty

end Grammar

def withEnding (ending tag : String) : String := if tag = "" then "" else tag ++ ending

namespace Declaration

variable {engine : Engine} {d : Declaration} (hd : d.tagEnding = "") (p : String)

include hd

theorem tag_withTagEnding : (d.withTagEnding p).tag = withEnding p ∘ d.tag := by
  funext t
  by_cases hEmpty : t = ""
  · simp [tag, withEnding, hEmpty]
  · simp [tag, withEnding, withTagEnding, hd, hEmpty]

theorem outcome_withTagEnding (o : Outcome) :
    (d.withTagEnding p).outcome o = (d.outcome o).mapTags (withEnding p) := by
  have hTag := tag_withTagEnding hd p
  cases o with
  | emit t => exact congrArg Outcome.emit (congrFun hTag t)
  | cases table default =>
    simp only [outcome, hTag, Function.comp_apply, Outcome.mapTags, ← CaseTable.ofList_map,
      List.map_map]
    rfl
  | bracket t polarity => simp only [outcome, hTag, Outcome.mapTags, Option.map_map]
  | groups tags => simp only [outcome, hTag, Outcome.mapTags, List.map_map]

theorem bracketPairs_withTagEnding :
    (d.withTagEnding p).bracketPairs = d.bracketPairs.map (·.mapTag (withEnding p)) := by
  simp only [bracketPairs, tag_withTagEnding hd p, List.map_map]
  rfl

theorem rule_withTagEnding (state : String) (r : RuleDeclaration) :
    (d.withTagEnding p).rule engine state r =
      (d.rule engine state r).map (·.mapTags (withEnding p)) := by
  have hPattern : (d.withTagEnding p).pattern? engine r = d.pattern? engine r := rfl
  have hEffect : (d.withTagEnding p).effect = d.effect := rfl
  rw [rule_eq, rule_eq, outcome_withTagEnding hd p, hPattern, hEffect]
  cases d.pattern? engine r with
  | none => rfl
  | some q =>
    dsimp only
    cases checkGroups state r.pattern q r.outcome with
    | error => rfl
    | ok => cases d.effect state r.pattern r.action <;> rfl

end Declaration

theorem mapM_except_map {ε α β γ : Type} (F : α → Except ε β) (G : β → γ) (xs : List α) :
    xs.mapM (fun x => (F x).map G) = (xs.mapM F).map (List.map G) := by
  induction xs with
  | nil => rfl
  | cons x xs ih =>
    rw [List.mapM_cons, List.mapM_cons, ih]
    cases F x with
    | error => rfl
    | ok => cases xs.mapM F <;> rfl

namespace Grammar

variable {engine : Engine} {d : Declaration}

theorem build_withTagEnding (hd : d.tagEnding = "") (p : String) (depthLimit : Nat) :
    build (d.withTagEnding p) depthLimit engine =
      (build d depthLimit engine).map (·.mapTags (withEnding p)) := by
  have hRules : (d.inlineRules.mapM fun x => (d.withTagEnding p).rule engine x.1 x.2) =
      (d.inlineRules.mapM fun x => d.rule engine x.1 x.2).map
        (List.map (·.mapTags (withEnding p))) := by
    simp only [Declaration.rule_withTagEnding hd p]
    exact mapM_except_map _ _ _
  have hAssemble : ∀ root rules lists,
      assemble (d.withTagEnding p) depthLimit root (rules.map (·.mapTags (withEnding p))) lists =
        (assemble d depthLimit root rules lists).mapTags (withEnding p) := by
    intro root rules lists
    simp only [assemble, mapTags, Declaration.bracketPairs_withTagEnding hd p,
      Declaration.tag_withTagEnding hd p]
    rfl
  -- all but the tags is the same in both declarations
  have hVersion : (d.withTagEnding p).version = d.version := rfl
  have hNames : (d.withTagEnding p).stateNames = d.stateNames := rfl
  have hRoot : (d.withTagEnding p).root = d.root := rfl
  have hIndex : (d.withTagEnding p).index = d.index := rfl
  have hInline : (d.withTagEnding p).inlineRules = d.inlineRules := rfl
  have hStates : (d.withTagEnding p).states = d.states := rfl
  rw [build_eq, build_eq, hVersion, hNames, hRoot, hIndex, hInline, hStates, hRules]
  split
  · rfl
  · cases Declaration.firstRepeated? [] d.stateNames with
    | some name => rfl
    | none =>
      cases d.index.lookup d.root with
      | none => rfl
      | some root =>
        cases d.inlineRules.mapM fun x => d.rule engine x.1 x.2 with
        | error => rfl
        | ok rules =>
          cases Includes.expandAll d.stateNames (StateDeclaration.slotsFrom 0 d.states) with
          | error => rfl
          | ok lists => exact congrArg Except.ok (hAssemble root rules lists)

/-- The common ending is put behind every tag that is not empty, once, and changes nothing else: the
declaration has the same fault or makes a grammar, and lines and texts are cut into the same spans
with the same brackets and lead to the same stacks and counts. -/
theorem tag_ending_homomorphism (hd : d.tagEnding = "") (p : String) (depthLimit : Nat) :
    (∀ e, build (d.withTagEnding p) depthLimit engine = .error e ↔
      build d depthLimit engine = .error e) ∧
      ∀ g, build d depthLimit engine = .ok g →
        ∃ g', build (d.withTagEnding p) depthLimit engine = .ok g' ∧ Retags (withEnding p) g g' := by
  rw [build_withTagEnding hd]
  constructor
  · intro e
    cases build d depthLimit engine with
    | error e' => exact Iff.rfl
    | ok g => exact iff_of_false (fun h => by cases h) fun h => by cases h
  · intro g hg
    rw [hg]
    exact ⟨_, rfl, g.retags_mapTags rfl⟩

theorem fsd_tag_ending_homomorphism :
    Fsd.declaration.tagEnding = "" ∧ build Fsd.declaration = .ok Fsd.grammar ∧
      ∃ g', build (Fsd.declaration.withTagEnding ".fsd") = .ok g' ∧ g'.defaultTag = "invalid.fsd" ∧
        (g'.run "service A\n\n?").lines.map (·.spans) =
          [[⟨0, "keyword.fsd", none⟩, ⟨7, "white.fsd", none⟩, ⟨8, "type.identifier.fsd", none⟩],
            [⟨0, "", none⟩], [⟨0, "invalid.fsd", none⟩]] := by
  obtain ⟨g', hg', hRetags⟩ :=
    (tag_ending_homomorphism (d := Fsd.declaration) rfl ".fsd" usualDepthLimit).2 _
      Fsd.build_declaration
  refine ⟨rfl, Fsd.build_declaration, g', hg', ?_⟩
  rw [hRetags.defaultTag_eq, hRetags.run_eq]
  decide +kernel

end Grammar

end Highlight
