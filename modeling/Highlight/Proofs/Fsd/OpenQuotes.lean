import Highlight.Proofs.Fsd.QuoteBalance

/-! # Quotes at the end of a line

A quote in an attribute value is read in one of two ways. If nothing closes it in its line, one step
takes the rest of the line as invalid. Otherwise the state `string` is entered, and it is left again
in the line. The two views of the rest of the line only disagree where a backslash is its last
character: then the text is neither closed nor is all of it read as one piece, and `string` stays on
the stack.
-/

namespace Highlight.Fsd

open Text Unicode CharSet Grammar

/-- The rest of a line from a place inside a quoted text that nothing closes in the line. -/
inductive StaysOpen : List Char → Prop
  | nil : StaysOpen []
  | plain {x : Char} {xs : List Char} (hx : x ≠ '"' ∧ x ≠ '\\') (h : StaysOpen xs) : StaysOpen (x :: xs)
  | escaped {x : Char} {xs : List Char} (hx : x ≠ '\n') (h : StaysOpen xs) :
      StaysOpen ('\\' :: x :: xs)

structure WellEnded (xs : List Char) : Prop where
  no_feed : '\n' ∉ xs
  getLast?_ne : xs.getLast? ≠ some '\\'

variable {xs mid after : List Char} {x : Char} {c d : Cursor} {t : Thread} {path : Point}

theorem WellEnded.of_append (h : WellEnded (mid ++ xs)) : WellEnded xs := by
  refine ⟨fun hMem => h.no_feed (List.mem_append_right mid hMem), fun hLast => h.getLast?_ne ?_⟩
  rw [List.getLast?_append, hLast]
  rfl

theorem WellEnded.tail (h : WellEnded (x :: xs)) : WellEnded xs := by
  rw [← List.singleton_append] at h
  exact h.of_append

theorem WellEnded.of_reaches (h : WellEnded c.rest) (hReach : c.Reaches d) : WellEnded d.rest := by
  obtain ⟨mid, hRest, -⟩ := hReach.exists_append
  rw [hRest] at h
  exact h.of_append

theorem WellEnded.staysOpen_or_inside (h : WellEnded xs) :
    StaysOpen xs ∨ ∃ after, Inside after xs := by
  induction hLength : xs.length using Nat.strongRecOn generalizing xs with
  | ind n ih =>
    subst hLength
    cases xs with
    | nil => exact .inl .nil
    | cons x xs =>
      by_cases hQuote : x = '"'
      · subst hQuote
        exact .inr ⟨xs, .close⟩
      by_cases hSlash : x = '\\'
      · subst hSlash
        cases xs with
        | nil => exact absurd rfl h.getLast?_ne
        | cons y xs =>
          have hFeed : y ≠ '\n' := fun hy => h.no_feed (by simp [hy])
          rcases ih _ (Nat.lt_succ_of_lt (Nat.lt_succ_self _)) h.tail.tail rfl with hOpen | ⟨after, hInside⟩
          · exact .inl (.escaped hFeed hOpen)
          · exact .inr ⟨after, .escaped hFeed hInside⟩
      · rcases ih _ (Nat.lt_succ_self _) h.tail rfl with hOpen | ⟨after, hInside⟩
        · exact .inl (.plain ⟨hQuote, hSlash⟩ hOpen)
        · exact .inr ⟨after, .plain ⟨hQuote, hSlash⟩ hInside⟩

theorem endsAt_item (hFree : ∀ point ∈ t.trail, ¬ path <:+ point) :
    ∃ trail, (Pattern.group 1 stringItem).endsAt false path t =
      (distinct ((Thread.consume? ⟨t.cursor, trail, t.captures⟩ plainChars).toList ++
        distinct ((Thread.consume? ⟨t.cursor, trail, t.captures⟩ (single '\\')).toList.flatMap
          fun u => (u.consume? inLine).toList))).map (·.capture 1 t.cursor.offset) := by
  have hPass := Thread.pass?_of_not_mem (t := t) (p := 0 :: path) fun hMem =>
    hFree _ hMem (List.suffix_cons 0 path)
  refine ⟨(0 :: path) :: t.trail, ?_⟩
  simp only [stringItem, char, Pattern.endsAt, Bool.false_eq_true, if_false, hPass]

theorem leadsOn_item : (Pattern.group 1 stringItem).LeadsOn fun c => StaysOpen c.rest := by
  intro path t hOpen hFree
  obtain ⟨trail, hEnds⟩ := endsAt_item hFree
  rw [hEnds]
  generalize hRest : t.cursor.rest = rest at hOpen
  cases hOpen with
  | nil =>
    have hNone : ∀ s : CharSet, Thread.consume? ⟨t.cursor, trail, t.captures⟩ s = none := fun s => by
      simp [Thread.consume?, Cursor.next?, hRest]
    rw [hNone, hNone]
    exact .inl ⟨rfl, rfl⟩
  | @plain x xs hx h =>
    have hOne : Thread.consume? ⟨t.cursor, trail, t.captures⟩ plainChars =
        some ⟨t.cursor.advance, [], t.captures⟩ :=
      Thread.consume?_of_mem hRest (contains_plainChars.mpr hx)
    have hNone : Thread.consume? ⟨t.cursor, trail, t.captures⟩ (single '\\') = none :=
      Thread.consume?_of_not_mem hRest (Bool.eq_false_iff.mpr fun hMem => hx.2 (contains_single.mp hMem))
    have hNe : t.cursor.rest ≠ [] := hRest ▸ List.cons_ne_nil x xs
    rw [hOne, hNone, Option.toList_some, Option.toList_none, List.flatMap_nil, distinct_nil,
      List.append_nil, distinct_singleton]
    refine .inr ⟨Thread.capture ⟨t.cursor.advance, [], t.captures⟩ 1 t.cursor.offset, rfl, rfl, ?_,
      Cursor.offset_lt_advance hNe⟩
    change StaysOpen t.cursor.advance.rest
    rwa [Cursor.rest_advance_of_rest hRest]
  | @escaped x xs hx h =>
    have hNext : t.cursor.advance.rest = x :: xs := by rw [Cursor.rest_advance_of_rest hRest]
    have hNone : Thread.consume? ⟨t.cursor, trail, t.captures⟩ plainChars = none :=
      Thread.consume?_of_not_mem hRest (Bool.eq_false_iff.mpr fun hMem =>
        (contains_plainChars.mp hMem).2 rfl)
    have hSlash : Thread.consume? ⟨t.cursor, trail, t.captures⟩ (single '\\') =
        some ⟨t.cursor.advance, [], t.captures⟩ :=
      Thread.consume?_of_mem hRest (contains_single.mpr rfl)
    have hAny : Thread.consume? ⟨t.cursor.advance, [], t.captures⟩ inLine =
        some ⟨t.cursor.advance.advance, [], t.captures⟩ :=
      Thread.consume?_of_mem hNext (contains_inLine.mpr hx)
    have hNe : t.cursor.rest ≠ [] := hRest ▸ List.cons_ne_nil _ _
    have hNe' : t.cursor.advance.rest ≠ [] := hNext ▸ List.cons_ne_nil x xs
    rw [hNone, hSlash, Option.toList_none, Option.toList_some, List.flatMap_singleton, hAny,
      Option.toList_some, List.nil_append, distinct_singleton, distinct_singleton]
    refine .inr ⟨Thread.capture ⟨t.cursor.advance.advance, [], t.captures⟩ 1 t.cursor.offset, rfl, rfl,
      ?_, (Cursor.offset_lt_advance hNe).trans (Cursor.offset_lt_advance hNe')⟩
    change StaysOpen t.cursor.advance.advance.rest
    rwa [Cursor.rest_advance_of_rest hNext]

theorem exists_match?_openQuote (hRest : c.rest = '"' :: xs) (h : StaysOpen xs) :
    ∃ m, openQuotePattern.match? c = some m := by
  have hOpen : StaysOpen c.advance.rest := by rwa [Cursor.rest_advance_of_rest hRest]
  obtain ⟨u, hItems, hEnd⟩ := leadsOn_item.exists_prefers_times (by decide) [1, 0]
    (t := ⟨c.advance, [], []⟩) hOpen rfl
  have hLook : Look.holds .textEnd u.cursor = true := by simp [Look.holds, hEnd]
  have hQuote : (char '"').Prefers [0, 0] (.start c) ⟨c.advance, [], []⟩ :=
    Pattern.prefers_set hRest (contains_single.mpr rfl)
  exact ⟨_, Pattern.match?_of_prefers (Pattern.prefers_seq (Pattern.prefers_seq hQuote hItems)
    (Pattern.prefers_look hLook))⟩

variable {stack : StateStack} {line : String}

theorem stack_step_of_staysOpen (hTop : stack.top = At.attrValue) (hRest : c.rest = '"' :: xs)
    (h : StaysOpen xs) : (grammar.step stack c).stack = stack := by
  obtain ⟨m, hMatch⟩ := exists_match?_openQuote hRest h
  have hMove := first?_quote hTop hRest
  rw [hMatch] at hMove
  rw [stack_step_of_move hMove, StateStack.apply]

/-- Whatever is open at this place of the line is closed in it. -/
structure Settled (stack : StateStack) (c : Cursor) : Prop where
  follows : Follows stack
  wellEnded : WellEnded c.rest
  closed : stack.top = At.string → ∃ after, Inside after c.rest

theorem Inside.behind_step (h : Inside after c.rest) (hFollows : Follows stack)
    (hTop : stack.top = At.string) (hStay : (grammar.step stack c).stack = stack) :
    Inside after (grammar.step stack c).cursor.rest := by
  have hMoves : grammar.movesAt stack.top = moves At.string := by
    rw [hTop]
    exact movesAt_eq (by decide)
  generalize hRest : c.rest = rest at h
  cases h with
  | close =>
    obtain ⟨m, hMove, -⟩ := exists_first?_close hRest
    rw [← hMoves] at hMove
    rw [stack_step_of_move hMove, StateStack.apply] at hStay
    exact absurd ((congrArg StateStack.top hStay).trans hTop) hFollows.top_pop_ne
  | plain hx h =>
    obtain ⟨m, hMove, hLess, hInside⟩ := exists_first?_plain hRest (contains_plainChars.mpr hx)
      (.plain hx h)
    rw [← hMoves] at hMove
    rwa [cursor_step_of_move hMove hLess]
  | escaped hx h =>
    obtain ⟨m, hMove, hLess, hInside⟩ := exists_first?_escaped hRest hx h
    rw [← hMoves] at hMove
    rwa [cursor_step_of_move hMove hLess]

theorem Settled.step (h : Settled stack c) :
    Settled (grammar.step stack c).stack (grammar.step stack c).cursor := by
  have hFollows := grammar_preserves.step stack c h.follows
  have hEnded := h.wellEnded.of_reaches (grammar.reaches_step stack c)
  refine ⟨hFollows, hEnded, fun hString => ?_⟩
  cases h.follows.quoteStep c with
  | opens hTop hRest _ hStack =>
    -- a text that stays open would have been read as one piece
    refine hEnded.staysOpen_or_inside.resolve_left fun hOpen => ?_
    rw [stack_step_of_staysOpen hTop hRest hOpen] at hStack
    have hTops : At.attrValue = At.string := hTop.symm.trans (congrArg StateStack.top hStack)
    exact absurd hTops (by decide)
  | closes _ _ _ hStack => exact absurd (hStack ▸ hString) h.follows.top_pop_ne
  | silent _ hInside hOutside =>
    by_cases hTop : stack.top = At.string
    · obtain ⟨after, hAfter⟩ := h.closed hTop
      exact ⟨after, hAfter.behind_step h.follows hTop (hInside hTop)⟩
    · exact absurd hString (hOutside hTop)

theorem Settled.top_stackAfter_ne (h : Settled stack c) {bound : Nat} (hBound : c.rest.length ≤ bound) :
    (stackAfter stack (grammar.stepsFrom bound stack c)).top ≠ At.string := by
  obtain ⟨d, hEnd, hSettled⟩ := exists_end_stepsFrom (fun _ _ h _ => Settled.step h) h hBound
  intro hTop
  obtain ⟨after, hInside⟩ := hSettled.closed hTop
  rw [hEnd] at hInside
  cases hInside

/-- The steps from a quote on: one takes the rest of the line as invalid, or the text that the quote
opens is closed. -/
inductive QuoteRead (stack : StateStack) (c : Cursor) : List Step → Prop
  | invalid {s : Step} (hSpans : s.spans = [⟨c.offset, "string.invalid", none⟩])
      (hEnd : s.cursor.rest = []) : QuoteRead stack c [s]
  | closed {opening closing : Step} {inside later : List Step}
      (hOpening : opening.spans = [⟨c.offset, "string.quote", some .opening⟩])
      (hOpened : opening.stack = stack.push At.string)
      (hInside : ∀ s ∈ inside, s.stack = stack.push At.string ∧ quotes s.spans = [])
      (hClosing : closing.spans = [⟨closing.start, "string.quote", some .closing⟩])
      (hClosed : closing.stack = stack) : QuoteRead stack c (opening :: inside ++ closing :: later)

theorem exists_closing (hFollows : Follows stack) (hTop : stack.top = At.string)
    (h : Inside after c.rest) {bound : Nat} (hBound : c.rest.length ≤ bound) :
    ∃ inside closing later, grammar.stepsFrom bound stack c = inside ++ closing :: later ∧
      (∀ s ∈ inside, s.stack = stack ∧ quotes s.spans = []) ∧
      closing.spans = [⟨closing.start, "string.quote", some .closing⟩] ∧ closing.stack = stack.pop := by
  induction bound generalizing c with
  | zero =>
    rw [List.length_eq_zero_iff.mp (Nat.le_zero.mp hBound)] at h
    cases h
  | succ bound ih =>
    have hRest : c.rest ≠ [] := by
      intro hNil
      rw [hNil] at h
      cases h
    rw [stepsFrom_succ bound hRest]
    cases hFollows.quoteStep c with
    | opens hValue => exact absurd (hTop.symm.trans hValue) (by decide)
    | closes _ _ hSpans hStack =>
      refine ⟨[], _, _, rfl, fun _ hs => absurd hs List.not_mem_nil, ?_, hStack⟩
      rw [hSpans, start_step]
    | silent hSpans hInside _ =>
      have hLength := grammar.length_step_lt stack hRest
      have hStay := hInside hTop
      obtain ⟨inside, closing, later, hSteps, hAll, hClosing⟩ :=
        ih (h.behind_step hFollows hTop hStay) (by omega)
      refine ⟨_ :: inside, closing, later, ?_, List.forall_mem_cons.mpr ⟨⟨hStay, hSpans⟩, hAll⟩, hClosing⟩
      rw [hStay, hSteps]
      rfl

theorem rest_of_match?_openQuote {m : Match} (h : openQuotePattern.match? c = some m) :
    m.stop.rest = [] := by
  obtain ⟨d, -, hStop, hEnd⟩ := Pattern.matches_of_match? h
  rw [← hStop]
  simpa [Look.holds] using hEnd

theorem spans_step_of_openQuote (hTop : stack.top = At.attrValue) (hRest : c.rest = '"' :: xs) {m : Match}
    (hMove : Move.first? (grammar.movesAt stack.top) c = some (.stay, m)) :
    (grammar.step stack c).spans = [⟨c.offset, "string.invalid", none⟩] := by
  obtain ⟨id, rule, hStay, hFirst⟩ := exists_firstMatch?_of_move hMove
  obtain ⟨hRule, -, hMatch⟩ := of_firstMatch?_eq_some hFirst
  have hStart : rule.pattern.mayStart '"' = true := by
    by_contra hNot
    rw [Pattern.match?_eq_none_of_mayStart hRest (Bool.eq_false_iff.mpr hNot)] at hMatch
    cases hMatch
  rw [hTop] at hRule
  have hInvalid : rule.outcome = .emit "string.invalid" := quote_table.2.2 _ hRule hStart hStay
  rw [step, hFirst]
  simp only [spansOf_emit hInvalid]

theorem quoteRead_of_staysOpen (hTop : stack.top = At.attrValue) (hRest : c.rest = '"' :: xs)
    (h : StaysOpen xs) : QuoteRead stack c (grammar.stepsFrom c.rest.length stack c) := by
  obtain ⟨m, hMatch⟩ := exists_match?_openQuote hRest h
  have hMove := first?_quote hTop hRest
  rw [hMatch] at hMove
  have hLess : m.stop.rest.length < c.rest.length := by
    rw [rest_of_match?_openQuote hMatch, hRest]
    exact Nat.zero_lt_succ _
  have hEnd : (grammar.step stack c).cursor.rest = [] := by
    rw [cursor_step_of_move hMove hLess, rest_of_match?_openQuote hMatch]
  have hNe : c.rest ≠ [] := hRest ▸ List.cons_ne_nil _ _
  rw [hRest, List.length_cons, stepsFrom_succ _ hNe, stepsFrom_of_rest_eq_nil _ hEnd]
  exact .invalid (spans_step_of_openQuote hTop hRest hMove) hEnd

theorem quoteRead_of_inside (hFollows : Follows stack) (hTop : stack.top = At.attrValue)
    (hRest : c.rest = '"' :: xs) (h : Inside after xs) :
    QuoteRead stack c (grammar.stepsFrom c.rest.length stack c) := by
  have hMove := first?_quote hTop hRest
  rw [match?_openQuote_eq_none hRest h] at hMove
  have hArrow : (stack.top, At.string) ∈ arrows := by rw [hTop]; decide
  have hEffect : .push At.string ∈ effectsAt stack.top := by rw [hTop]; decide
  have hStack := stack_step_of_move hMove
  rw [hFollows.apply_push hEffect] at hStack
  have hNe : c.rest ≠ [] := hRest ▸ List.cons_ne_nil _ _
  cases hFollows.quoteStep c with
  | opens _ hNext hSpans _ =>
    rw [hRest, List.cons.injEq] at hNext
    rw [hNext.2] at h
    obtain ⟨inside, closing, later, hSteps, hInside, hClosing, hClosed⟩ :=
      exists_closing (Follows.push hFollows hArrow) rfl h (Nat.le_refl _)
    rw [hRest, List.length_cons, stepsFrom_succ _ hNe, hStack, hNext.2, hSteps]
    exact .closed hSpans hStack hInside hClosing hClosed
  | closes hString => exact absurd (hTop.symm.trans hString) (by decide)
  | silent _ _ hOutside =>
    have hOut := hOutside (by rw [hTop]; decide)
    rw [hStack] at hOut
    exact absurd rfl hOut

theorem stateName?_eq_attrValue_iff {id : StateId} :
    grammar.stateName? id = some "attrValue" ↔ id = At.attrValue := by
  have hIndex : names.idxOf? "attrValue" = some At.attrValue := by decide
  rw [stateName?_eq_some_iff, hIndex, Option.some.injEq, eq_comm]

/-- Only a line that ends in a backslash can end inside a quoted text that was not open at its
start. On any other line a quote in an attribute value is closed, or the rest of the line is
invalid. -/
theorem strings_end_with_line (hStack : grammar.Reachable stack) (hLine : '\n' ∉ line.toList) :
    (grammar.stateName? stack.top ≠ some "string" →
      grammar.stateName? (grammar.tokenizeLine stack line).stack.top = some "string" →
        line.toList.getLast? = some '\\') ∧
    (grammar.stateName? stack.top = some "attrValue" → line.toList.getLast? ≠ some '\\' →
      ∀ c, (Cursor.ofLine line).Reaches c → c.rest.head? = some '"' →
        QuoteRead stack c (grammar.stepsFrom c.rest.length stack c)) := by
  have hFollows : Follows stack := grammar_preserves.of_reachable follows_initial hStack
  simp only [ne_eq, stateName?_eq_string_iff, stateName?_eq_attrValue_iff]
  constructor
  · intro hTop hEnd
    by_contra hLast
    have hSettled : Settled stack (.ofLine line) :=
      ⟨hFollows, ⟨hLine, hLast⟩, fun hString => absurd hString hTop⟩
    have hEnter : (grammar.tokenizeLine stack line).stack =
        stackAfter stack (grammar.stepsFrom line.toList.length stack (.ofLine line)) := by
      rw [tokenizeLine, TokenizedLine.ofSteps, steps, hFollows.enter_eq]
      rfl
    rw [hEnter] at hEnd
    exact hSettled.top_stackAfter_ne (Nat.le_refl _) hEnd
  · intro hTop hLast c hReach hQuote
    obtain ⟨xs, hRest⟩ := List.head?_eq_some_iff.mp hQuote
    have hWhole : WellEnded (Cursor.ofLine line).rest := ⟨hLine, hLast⟩
    have hEnded := hWhole.of_reaches hReach
    rw [hRest] at hEnded
    rcases hEnded.tail.staysOpen_or_inside with hOpen | ⟨after, hInside⟩
    · exact quoteRead_of_staysOpen hTop hRest hOpen
    · exact quoteRead_of_inside hFollows hTop hRest hInside

theorem value_ends_with_line :
    let stack := (grammar.tokenizeLine grammar.initial "[x(y:").stack
    let place := Cursor.ofLine "\"z\\u0041\" \"b"
    grammar.Reachable stack ∧ grammar.stateName? stack.top = some "attrValue" ∧
    grammar.stateName? (grammar.tokenizeLine stack "\"z\\").stack.top = some "string" ∧
    "\"z\\".toList.getLast? = some '\\' ∧
    QuoteRead stack place (grammar.stepsFrom place.rest.length stack place) := by
  intro stack place
  have hStack : grammar.Reachable stack := .tokenizeLine .initial follows_initial.enter_eq _
  have hNames : grammar.stateName? stack.top = some "attrValue" ∧
      grammar.stateName? (grammar.tokenizeLine stack "\"z\\").stack.top = some "string" := by
    decide +kernel
  have hTop : grammar.stateName? stack.top ≠ some "string" := by
    rw [hNames.1]
    decide
  exact ⟨hStack, hNames.1, hNames.2,
    (strings_end_with_line hStack (by decide)).1 hTop hNames.2,
    (strings_end_with_line hStack (by decide)).2 hNames.1 (by decide) place (.refl _) rfl⟩

end Highlight.Fsd
