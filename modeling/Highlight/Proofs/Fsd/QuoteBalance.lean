import Highlight.Proofs.Fsd.QuotedText
import Highlight.Proofs.Fsd.Stacks

/-! # Quotes and the state inside them

A rule of the FSD grammar tags an opening quote exactly if it goes up to the state `string`, and a
closing quote exactly if it leaves that state. So the two sides of quotes take turns over a whole
text, and one of them is missing just as long as `string` is the state on top.
-/

namespace Highlight.Fsd

open Text Grammar

def ownTag? : Outcome → Option String
  | .bracket tag _ => tag
  | _ => none

def Quotes (s : StateId) (rule : Rule) : Prop :=
  (s = At.attrValue ∧ rule.pattern = char '"' ∧
    rule.outcome = .ofBracket "string.quote" .opening ∧ rule.effect = .push At.string) ∨
  (s = At.string ∧ rule.pattern = char '"' ∧
    rule.outcome = .ofBracket "string.quote" .closing ∧ rule.effect = .pop) ∨
  (ownTag? rule.outcome = none ∧ rule.effect ≠ .push At.string ∧ (s = At.string → rule.effect = .stay))

instance (s : StateId) (rule : Rule) : Decidable (Quotes s rule) :=
  inferInstanceAs (Decidable (_ ∨ _ ∨ _))

theorem quote_table :
    (∀ s ∈ At.markdown :: formal, ∀ x ∈ grammar.rulesAt s, Quotes s x.2) ∧
    (∀ b ∈ grammar.brackets, b.tag ≠ "string.quote") ∧
    ∀ x ∈ grammar.rulesAt At.attrValue, x.2.pattern.mayStart '"' = true → x.2.effect = .stay →
      x.2.outcome = .emit "string.invalid" := by
  decide +kernel

variable {stack : StateStack} {c : Cursor} {m : Match} {s : Step} {steps : List Step}

def quotes (spans : List Span) : List Polarity :=
  spans.filterMap fun s => if s.tag = "string.quote" then s.polarity else none

@[simp] theorem quotes_append (xs ys : List Span) : quotes (xs ++ ys) = quotes xs ++ quotes ys :=
  List.filterMap_append

theorem quotes_eq_nil {spans : List Span}
    (h : ∀ s ∈ spans, s.polarity = none ∨ s.tag ≠ "string.quote") : quotes spans = [] := by
  refine List.filterMap_eq_nil_iff.mpr fun s hs => ?_
  rcases h s hs with hNone | hTag
  · rw [hNone, ite_self]
  · rw [if_neg hTag]

theorem bracketOf?_ne_quote {g : Grammar} (hBrackets : ∀ b ∈ g.brackets, b.tag ≠ "string.quote")
    {text tag : String} {polarity : Polarity} (h : g.bracketOf? text = some (tag, polarity)) :
    tag ≠ "string.quote" := by
  obtain ⟨b, hb, hPair⟩ := List.exists_of_findSome?_eq_some h
  have hTag := hBrackets b hb
  split at hPair
  · cases hPair
    exact hTag
  · split at hPair
    · cases hPair
      exact hTag
    · cases hPair

theorem spansOf_emit {rule : Rule} {tag : String} (h : rule.outcome = .emit tag) (g : Grammar)
    (c : Cursor) (m : Match) : g.spansOf rule c m = [⟨c.offset, tag, none⟩] := by
  rw [spansOf_eq_wholeSpan (by rw [h]; rfl), h]
  rfl

theorem spansOf_ofBracket {rule : Rule} {tag : String} {polarity : Polarity}
    (h : rule.outcome = .ofBracket tag polarity) (g : Grammar) (c : Cursor) (m : Match) :
    g.spansOf rule c m = [⟨c.offset, tag, some polarity⟩] := by
  rw [spansOf_eq_wholeSpan (by rw [h]; rfl), h]
  rfl

theorem quotes_spansOf {g : Grammar} (hBrackets : ∀ b ∈ g.brackets, b.tag ≠ "string.quote")
    {rule : Rule} (h : ownTag? rule.outcome = none) (c : Cursor) (m : Match) :
    quotes (g.spansOf rule c m) = [] := by
  refine quotes_eq_nil fun s hs => ?_
  cases hOutcome : rule.outcome with
  | emit | cases | groups => exact .inl (polarity_of_mem_spansOf (by rw [hOutcome]; rfl) hs)
  | bracket tag polarity =>
    rw [hOutcome] at h
    cases tag with
    | some tag => cases h
    | none =>
      rw [spansOf_eq_wholeSpan (by rw [hOutcome]; rfl), hOutcome] at hs
      cases List.mem_singleton.mp hs
      simp only [wholeSpan, classify, Option.none_or]
      cases hPair : g.bracketOf? (c.textTo m.stop) with
      | none => exact .inl rfl
      | some pair => exact .inr (bracketOf?_ne_quote hBrackets hPair)

/-- A step goes into a quoted text, out of it, or stays on its side of the quote. -/
inductive QuoteStep (stack : StateStack) (c : Cursor) (s : Step) : Prop
  | opens (hTop : stack.top = At.attrValue) (hRest : c.rest = '"' :: s.cursor.rest)
      (hSpans : s.spans = [⟨c.offset, "string.quote", some .opening⟩])
      (hStack : s.stack = stack.push At.string)
  | closes (hTop : stack.top = At.string) (hRest : c.rest = '"' :: s.cursor.rest)
      (hSpans : s.spans = [⟨c.offset, "string.quote", some .closing⟩]) (hStack : s.stack = stack.pop)
  | silent (hSpans : quotes s.spans = []) (hInside : stack.top = At.string → s.stack = stack)
      (hOutside : stack.top ≠ At.string → s.stack.top ≠ At.string)

theorem Follows.top_pop_ne (h : Follows stack) : stack.pop.top ≠ At.string := by
  have hBelow : ∀ x ∈ arrows, x.1 ≠ At.string := by decide
  cases h with
  | root => decide
  | push _ hArrow => exact hBelow _ hArrow

theorem Follows.apply_push (h : Follows stack) {id : StateId}
    (hEffect : .push id ∈ effectsAt stack.top) :
    stack.apply grammar.depthLimit (.push id) = stack.push id := by
  have hRoom := h.refuses_eq hEffect (show 6 ≤ grammar.depthLimit by rw [depthLimit_eq]; decide)
  rw [StateStack.refuses, decide_eq_false_iff_not] at hRoom
  rw [StateStack.apply, if_neg hRoom]

theorem top_apply_ne (h : Follows stack) {e : Effect} (hEffect : e ∈ effectsAt stack.top)
    (hPush : e ≠ .push At.string) (hTop : stack.top ≠ At.string) :
    (stack.apply grammar.depthLimit e).top ≠ At.string := by
  have hMem := hEffect
  rw [effectsAt, List.mem_cons, List.mem_cons, List.mem_map] at hMem
  rcases hMem with rfl | rfl | ⟨⟨_, id⟩, -, rfl⟩
  · exact hTop
  · exact h.top_pop_ne
  · rw [h.apply_push hEffect]
    rintro rfl
    exact hPush rfl

theorem rest_behind {x : Char} (h : (char x).match? c = some m) :
    c.rest = x :: (if m.stop.offset - c.offset = 0 then c.advance else m.stop).rest := by
  have hRest := rest_of_matches_char (Pattern.matches_of_match? h)
  split
  · rwa [Cursor.rest_advance_of_rest hRest]
  · exact hRest

theorem Follows.quoteStep (h : Follows stack) (c : Cursor) :
    QuoteStep stack c (grammar.step stack c) := by
  obtain ⟨id, rule, m, hRule, -, hMatch, hStep⟩ | ⟨-, hStep⟩ := grammar.step_cases stack c
  · have hEffect := effect_mem_effectsAt h.top_mem hRule
    obtain ⟨hTop, hChar, hOutcome, hPush⟩ | ⟨hTop, hChar, hOutcome, hPop⟩ | ⟨hTag, hPush, hStay⟩ :=
      quote_table.1 _ h.top_mem _ hRule
    · rw [hChar] at hMatch
      refine .opens hTop ?_ ?_ ?_
      · rw [hStep]
        exact rest_behind hMatch
      · rw [hStep, spansOf_ofBracket hOutcome]
      · rw [hPush] at hEffect
        rw [hStep, hPush, ← h.apply_push hEffect]
    · rw [hChar] at hMatch
      refine .closes hTop ?_ ?_ ?_
      · rw [hStep]
        exact rest_behind hMatch
      · rw [hStep, spansOf_ofBracket hOutcome]
      · rw [hStep, hPop, StateStack.apply]
    · refine .silent ?_ (fun hTop => ?_) fun hTop => ?_
      · rw [hStep]
        exact quotes_spansOf quote_table.2.1 hTag c m
      · rw [hStep, hStay hTop, StateStack.apply]
      · rw [hStep]
        exact top_apply_ne h hEffect hPush hTop
  · rw [hStep]
    refine .silent (quotes_eq_nil fun s hs => ?_) (fun _ => rfl) fun hTop => hTop
    exact .inl (List.mem_singleton.mp hs ▸ rfl)

/-- The sides that take turns, from outside a quoted text or from inside it, with where they end. -/
inductive Alternates : Bool → List Polarity → Bool → Prop
  | nil {inside : Bool} : Alternates inside [] inside
  | opening {marks : List Polarity} {inside : Bool} (h : Alternates true marks inside) :
      Alternates false (.opening :: marks) inside
  | closing {marks : List Polarity} {inside : Bool} (h : Alternates false marks inside) :
      Alternates true (.closing :: marks) inside

namespace Alternates

variable {a b : Bool} {marks : List Polarity}

theorem head?_ne (h : Alternates a marks b) :
    marks.head? ≠ some (if a then .opening else .closing) := by
  cases h <;> simp

theorem isChain (h : Alternates a marks b) : marks.IsChain (· ≠ ·) := by
  induction h with
  | nil => exact .nil
  | opening h ih =>
    refine List.isChain_cons.mpr ⟨fun p hp hEq => ?_, ih⟩
    exact h.head?_ne (hEq ▸ hp)
  | closing h ih =>
    refine List.isChain_cons.mpr ⟨fun p hp hEq => ?_, ih⟩
    exact h.head?_ne (hEq ▸ hp)

theorem count_eq (h : Alternates a marks b) :
    a.toNat + marks.count .opening = marks.count .closing + b.toNat := by
  induction h with
  | nil => simp
  | opening _ ih =>
    rw [List.count_cons_self, List.count_cons_of_ne (by decide)]
    simp only [Bool.toNat_true, Bool.toNat_false] at ih ⊢
    omega
  | closing _ ih =>
    rw [List.count_cons_self, List.count_cons_of_ne (by decide)]
    simp only [Bool.toNat_true, Bool.toNat_false] at ih ⊢
    omega

end Alternates

def inString (stack : StateStack) : Bool := stack.top = At.string

theorem toNat_inString (stack : StateStack) :
    (inString stack).toNat = if stack.top = At.string then 1 else 0 := by
  by_cases hTop : stack.top = At.string
  · rw [inString, decide_eq_true hTop, if_pos hTop, Bool.toNat_true]
  · rw [inString, decide_eq_false hTop, if_neg hTop, Bool.toNat_false]

theorem Follows.alternates_step (h : Follows stack) (c : Cursor) {marks : List Polarity}
    {b : Bool} (hRest : Alternates (inString (grammar.step stack c).stack) marks b) :
    Alternates (inString stack) (quotes (grammar.step stack c).spans ++ marks) b := by
  cases h.quoteStep c with
  | opens hTop _ hSpans hStack =>
    have hBefore : inString stack = false := by rw [inString, hTop]; rfl
    have hAfter : inString (grammar.step stack c).stack = true := by rw [hStack]; rfl
    rw [hAfter] at hRest
    rw [hBefore, hSpans]
    exact .opening hRest
  | closes hTop _ hSpans hStack =>
    have hBefore : inString stack = true := by rw [inString, hTop]; rfl
    have hAfter : inString (grammar.step stack c).stack = false := by
      rw [hStack, inString, decide_eq_false_iff_not]
      exact h.top_pop_ne
    rw [hAfter] at hRest
    rw [hBefore, hSpans]
    exact .closing hRest
  | silent hSpans hInside hOutside =>
    have hSame : inString (grammar.step stack c).stack = inString stack := by
      by_cases hTop : stack.top = At.string
      · rw [hInside hTop]
      · rw [inString, inString, decide_eq_false hTop, decide_eq_false (hOutside hTop)]
    rw [hSame] at hRest
    rw [hSpans]
    exact hRest

theorem Follows.alternates (h : Follows stack) (hSteps : grammar.Chained stack steps) :
    Alternates (inString stack) (quotes (steps.flatMap (·.spans)))
      (inString (stackAfter stack steps)) := by
  induction hSteps with
  | nil => exact .nil
  | @cons stack c steps _ ih =>
    rw [List.flatMap_cons, quotes_append, stackAfter_cons]
    exact h.alternates_step c (ih (grammar_preserves.step stack c h))

theorem quotes_tokenizeLine (stack : StateStack) (line : String) :
    quotes (grammar.tokenizeLine stack line).spans =
      quotes ((grammar.steps stack line).flatMap (·.spans)) := by
  rw [tokenizeLine, TokenizedLine.ofSteps]
  cases grammar.steps stack line with
  | nil => rfl
  | cons s steps => rfl

theorem quotes_tokenizeLines (stack : StateStack) (lines : List String) :
    quotes ((grammar.tokenizeLines stack lines).flatMap (·.spans)) =
      quotes ((grammar.traceLines stack lines).flatten.flatMap (·.spans)) := by
  induction lines generalizing stack with
  | nil => rfl
  | cons line lines ih =>
    rw [tokenizeLines, traceLines, List.flatMap_cons, List.flatten_cons, List.flatMap_append,
      quotes_append, quotes_append, quotes_tokenizeLine, ih]
    rfl

theorem stateName?_eq_string_iff {id : StateId} :
    grammar.stateName? id = some "string" ↔ id = At.string := by
  have hIndex : names.idxOf? "string" = some At.string := by decide
  rw [stateName?_eq_some_iff, hIndex, Option.some.injEq, eq_comm]

/-- Over any text opening and closing quotes take turns, an opening one first, and after every step
one more has been opened than closed if `string` is the state on top, and as many otherwise. -/
theorem quotes_alternate (lines : List String) :
    let marks := quotes ((grammar.tokenizeLines grammar.initial lines).flatMap (·.spans))
    let trace := (grammar.traceLines grammar.initial lines).flatten
    marks.head? ≠ some .closing ∧ marks.IsChain (· ≠ ·) ∧
      marks = quotes (trace.flatMap (·.spans)) ∧
      ∀ n, (quotes ((trace.take n).flatMap (·.spans))).count .opening =
        (quotes ((trace.take n).flatMap (·.spans))).count .closing +
          if grammar.stateName? (stackAfter grammar.initial (trace.take n)).top = some "string" then 1
          else 0 := by
  intro marks trace
  have hTrace : grammar.Chained grammar.initial trace :=
    grammar_preserves.chained_traceLines follows_initial lines
  have hOutside : inString grammar.initial = false := by rw [initial_eq]; rfl
  have hMarks : marks = quotes (trace.flatMap (·.spans)) := quotes_tokenizeLines _ lines
  have hAll := follows_initial.alternates hTrace
  rw [← hMarks, hOutside] at hAll
  refine ⟨hAll.head?_ne, hAll.isChain, hMarks, fun n => ?_⟩
  have hCount := (follows_initial.alternates (hTrace.take n)).count_eq
  rw [hOutside, Bool.toNat_false, Nat.zero_add] at hCount
  rw [hCount, toNat_inString]
  simp only [stateName?_eq_string_iff]

end Highlight.Fsd
