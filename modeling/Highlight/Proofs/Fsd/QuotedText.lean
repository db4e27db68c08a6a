import Highlight.Proofs.GreedyMatching
import Highlight.Proofs.Fsd.Moves
import Highlight.Proofs.Fsd.Syntax

/-! # Quoted texts of service definitions

A quote that is closed in its line opens a text in the state `string`. There every step ends inside
the text again, however its characters are grouped, until the closing quote is reached.
-/

namespace Highlight.Fsd

open Text Unicode CharSet Grammar

/-- The rest of a line from a place inside a quoted text, `after` being what follows the text. -/
inductive Inside (after : List Char) : List Char → Prop
  | close : Inside after ('"' :: after)
  | plain {x : Char} {xs : List Char} (hx : x ≠ '"' ∧ x ≠ '\\') (h : Inside after xs) :
      Inside after (x :: xs)
  | escaped {x : Char} {xs : List Char} (hx : x ≠ '\n') (h : Inside after xs) :
      Inside after ('\\' :: x :: xs)

variable {after xs : List Char} {x : Char} {c d : Cursor}

theorem inside_items (items : List StringItem) (after : List Char) :
    Inside after (items.flatMap StringItem.text ++ '"' :: after) := by
  induction items with
  | nil => exact .close
  | cons item items ih =>
    cases item with
    | plain x hx =>
      simp only [List.mem_cons, List.not_mem_nil, or_false, not_or] at hx
      exact .plain ⟨hx.1, hx.2.1⟩ ih
    | escaped x hx =>
      simp only [List.mem_cons, List.not_mem_nil, or_false, not_or] at hx
      exact .escaped hx.2 ih

namespace Inside

theorem behind_plain (h : Inside after (x :: xs)) (hx : plainChars.contains x = true) :
    Inside after xs := by
  have hNe := contains_plainChars.mp hx
  cases h with
  | close => exact absurd rfl hNe.1
  | plain _ h => exact h
  | escaped _ h => exact absurd rfl hNe.2

theorem behind_escape (h : Inside after ('\\' :: x :: xs)) : Inside after xs := by
  cases h with
  | plain hx _ => exact absurd rfl hx.2
  | escaped _ h => exact h

end Inside

theorem rest_of_matches_char (h : (char x).Matches c d) : c.rest = x :: d.rest := by
  obtain ⟨y, hRest, hSet⟩ := Pattern.rest_of_matches_set h
  rw [hRest, contains_single.mp hSet]

namespace Inside

theorem behind_item (h : Inside after c.rest) (hItem : stringItem.Matches c d) :
    Inside after d.rest := by
  rcases hItem with hPlain | ⟨e, hSlash, hAny⟩
  · obtain ⟨x, hRest, hx⟩ := Pattern.rest_of_matches_set hPlain
    rw [hRest] at h
    exact h.behind_plain hx
  · obtain ⟨x, hRest, _⟩ := Pattern.rest_of_matches_set hAny
    rw [rest_of_matches_char hSlash, hRest] at h
    exact h.behind_escape

theorem behind_plains {n : Nat} (h : Inside after c.rest)
    (hTurns : Turns (Pattern.set plainChars).Matches n c d) : Inside after d.rest := by
  refine hTurns.keep (P := fun c => Inside after c.rest) h fun c d h hTurn => ?_
  obtain ⟨x, hRest, hx⟩ := Pattern.rest_of_matches_set hTurn
  rw [hRest] at h
  exact h.behind_plain hx

/-- An escape ends inside the text: the digits behind a `u` are characters of the text too. -/
theorem behind_escapePattern (h : Inside after xs) (hRest : c.rest = '\\' :: x :: xs)
    (hEscape : escapePattern.Matches c d) : Inside after d.rest ∧ d.rest.length ≤ xs.length := by
  obtain ⟨e, hSlash, hCode⟩ := hEscape
  rw [rest_of_matches_char hSlash, List.cons.injEq] at hRest
  rcases hCode with hShort | ⟨e', hUnicode, n, _, hDigits⟩
  · obtain ⟨y, hNext, _⟩ := Pattern.rest_of_matches_set hShort
    rw [hNext, List.cons.injEq] at hRest
    exact ⟨hRest.2.2 ▸ h, Nat.le_of_eq (by rw [hRest.2.2])⟩
  · rw [rest_of_matches_char hUnicode, List.cons.injEq] at hRest
    refine hDigits.keep (P := fun c => Inside after c.rest ∧ c.rest.length ≤ xs.length) ?_ ?_
    · exact ⟨hRest.2.2 ▸ h, Nat.le_of_eq (by rw [hRest.2.2])⟩
    · rintro c d ⟨hInside, hLength⟩ hDigit
      obtain ⟨y, hNext, hy⟩ := Pattern.rest_of_matches_set hDigit
      rw [hNext] at hInside hLength
      refine ⟨hInside.behind_plain (contains_plainChars_of_hexDigits hy), ?_⟩
      rw [List.length_cons] at hLength
      omega

end Inside

theorem match?_openQuote_eq_none (hRest : c.rest = '"' :: xs) (h : Inside after xs) :
    openQuotePattern.match? c = none := by
  rw [Option.eq_none_iff_forall_ne_some]
  intro m hMatch
  obtain ⟨e, ⟨d, hQuote, n, _, hTurns⟩, hStop, hEnd⟩ := Pattern.matches_of_match? hMatch
  rw [rest_of_matches_char hQuote, List.cons.injEq] at hRest
  have hInside : Inside after e.rest :=
    hTurns.keep (P := fun c => Inside after c.rest) (hRest.2 ▸ h) fun _ _ h hItem => h.behind_item hItem
  have hNil : e.rest = [] := by simpa [Look.holds] using hEnd
  rw [hNil] at hInside
  cases hInside

theorem exists_first?_close (hRest : c.rest = '"' :: after) :
    ∃ m, Move.first? (moves At.string) c = some (.pop, m) ∧ m.stop.rest = after := by
  have hHead : (Move.starting '"' (moves At.string)).head? = some ⟨false, char '"', .pop⟩ := by
    decide
  have hMatch := Pattern.match?_set hRest (contains_single.mpr rfl)
  refine ⟨_, Move.first?_of_head? hRest hHead (Move.tryAt_of_match? rfl hMatch), ?_⟩
  rw [Cursor.rest_advance_of_rest hRest]

theorem exists_first?_plain (hRest : c.rest = x :: xs) (hx : plainChars.contains x = true)
    (h : Inside after (x :: xs)) :
    ∃ m, Move.first? (moves At.string) c = some (.stay, m) ∧
      m.stop.rest.length < c.rest.length ∧ Inside after m.stop.rest := by
  obtain ⟨m, hMatch, hStop⟩ := Pattern.exists_match?_times hRest hx
  have hTry := Move.tryAt_of_match? (v := ⟨false, oneOrMore plainChars, .stay⟩) rfl hMatch
  obtain ⟨n, _, hTurns⟩ := Pattern.matches_of_match? hMatch
  rw [← hRest] at h
  refine ⟨m, ?_, ?_, h.behind_plains hTurns⟩
  · rw [moves, Move.first?, List.findSome?_cons, hTry]
  · rw [hStop, Cursor.rest_skip, Cursor.rest_advance, hRest, List.length_drop, List.tail_cons,
      List.length_cons]
    omega

theorem exists_first?_escaped (hRest : c.rest = '\\' :: x :: xs) (hx : x ≠ '\n')
    (h : Inside after xs) :
    ∃ m, Move.first? (moves At.string) c = some (.stay, m) ∧
      m.stop.rest.length < c.rest.length ∧ Inside after m.stop.rest := by
  have hStarting : Move.starting '\\' (moves At.string) = [⟨false, escapePattern, .stay⟩,
      ⟨false, .seq (char '\\') (.set inLine), .stay⟩] := by
    decide
  rw [← Move.first?_starting hRest, hStarting, Move.first?, List.findSome?_cons]
  -- a known escape may take more than two characters, any other takes just two
  cases hEscape : escapePattern.match? c with
  | some m =>
    rw [Move.tryAt_of_match? rfl hEscape]
    obtain ⟨hInside, hLength⟩ := h.behind_escapePattern hRest (Pattern.matches_of_match? hEscape)
    refine ⟨m, rfl, ?_, hInside⟩
    rw [hRest, List.length_cons, List.length_cons]
    omega
  | none =>
    have hNext : c.advance.rest = x :: xs := by rw [Cursor.rest_advance_of_rest hRest]
    have hPrefers : (Pattern.seq (char '\\') (.set inLine)).Prefers [] (.start c)
        ⟨c.advance.advance, [], (Thread.start c).captures⟩ :=
      Pattern.prefers_seq (Pattern.prefers_set hRest (contains_single.mpr rfl))
        (Pattern.prefers_set hNext (contains_inLine.mpr hx))
    have hStop : c.advance.advance.rest = xs := by
      rw [Cursor.rest_advance_of_rest hNext]
    have hTry := Move.tryAt_of_match? (v := ⟨false, .seq (char '\\') (.set inLine), .stay⟩) rfl
      (Pattern.match?_of_prefers hPrefers)
    have hNone : Move.tryAt ⟨false, escapePattern, .stay⟩ c = none := by simp [Move.tryAt, hEscape]
    rw [hNone]
    refine ⟨_, by rw [List.findSome?_cons, hTry], ?_, ?_⟩
    · rw [hStop, hRest, List.length_cons, List.length_cons]
      omega
    · rw [hStop]
      exact h

variable {stack final : StateStack} {lines : List String}

theorem clean_of_inside (hTop : stack.top = At.string) (h : Inside after c.rest)
    (hAfter : ∀ d : Cursor, d.rest = after → grammar.Clean stack.pop d lines final) :
    grammar.Clean stack c lines final := by
  have hMoves : grammar.movesAt stack.top = moves At.string := by
    rw [hTop]
    exact movesAt_eq (by decide)
  -- the text shrinks with every step, by as much as the step takes
  induction hLength : c.rest.length using Nat.strongRecOn generalizing c with
  | ind n ih =>
    have hStay : ∀ m, Move.first? (moves At.string) c = some (.stay, m) →
        m.stop.rest.length < c.rest.length → Inside after m.stop.rest →
        grammar.Clean stack c lines final := by
      intro m hMove hLess hInside
      rw [← hMoves] at hMove
      rw [clean_iff_of_move hMove hLess]
      exact ih _ (hLength ▸ hLess) hInside rfl
    generalize hRest : c.rest = rest at h
    cases h with
    | close =>
      obtain ⟨m, hMove, hStop⟩ := exists_first?_close hRest
      have hLess : m.stop.rest.length < c.rest.length := by
        rw [hStop, hRest]
        exact Nat.lt_succ_self _
      rw [← hMoves] at hMove
      rw [clean_iff_of_move hMove hLess]
      exact hAfter _ hStop
    | plain hx h =>
      obtain ⟨m, hMove, hLess, hInside⟩ := exists_first?_plain hRest (contains_plainChars.mpr hx)
        (.plain hx h)
      exact hStay m hMove hLess hInside
    | escaped hx h =>
      obtain ⟨m, hMove, hLess, hInside⟩ := exists_first?_escaped hRest hx h
      exact hStay m hMove hLess hInside

/-- Where a value is expected the rule for quotes that stay open is tried before the one that opens
a text. -/
theorem first?_quote (hTop : stack.top = At.attrValue) (hRest : c.rest = '"' :: xs) :
    Move.first? (grammar.movesAt stack.top) c = some
      (match openQuotePattern.match? c with
      | some m => (.stay, m)
      | none => (.push At.string, ⟨c.advance, (Thread.start c).captures⟩)) := by
  have hStarting : Move.starting '"' (moves At.attrValue) = [⟨false, openQuotePattern, .stay⟩,
      ⟨false, char '"', .push At.string⟩] := by
    decide
  have hTry := Move.tryAt_of_match? (v := ⟨false, char '"', .push At.string⟩) rfl
    (Pattern.match?_set hRest (contains_single.mpr rfl))
  rw [hTop, movesAt_eq (by decide), ← Move.first?_starting hRest, hStarting, Move.first?,
    List.findSome?_cons]
  cases hMatch : openQuotePattern.match? c with
  | some m => rw [Move.tryAt_of_match? rfl hMatch]
  | none =>
    have hNone : Move.tryAt ⟨false, openQuotePattern, .stay⟩ c = none := by simp [Move.tryAt, hMatch]
    rw [hNone, List.findSome?_cons, hTry]

theorem crosses_quoted (items : List StringItem) (hTop : stack.top = At.attrValue)
    (hRoom : stack.depth < 100) :
    grammar.Crosses stack (Token.quoted items).text after stack := by
  intro c lines final hRest hAfter
  rw [Token.text, List.append_assoc, List.singleton_append, List.cons_append] at hRest
  have hInside := inside_items items after
  have hMove := first?_quote hTop hRest
  rw [match?_openQuote_eq_none hRest hInside] at hMove
  have hNext : c.advance.rest = items.flatMap StringItem.text ++ '"' :: after := by
    rw [Cursor.rest_advance_of_rest hRest]
  have hLess : c.advance.rest.length < c.rest.length := by
    rw [hNext, hRest]
    exact Nat.lt_succ_self _
  have hPush : stack.apply grammar.depthLimit (.push At.string) = stack.push At.string := by
    rw [depthLimit_eq, StateStack.apply, if_neg (by omega)]
  rw [clean_iff_of_move hMove hLess, hPush]
  exact clean_of_inside rfl (hNext ▸ hInside) hAfter

end Highlight.Fsd
