import Highlight.Proofs.GreedyMatching
import Highlight.Proofs.Fsd.Moves
import Highlight.Proofs.Fsd.Syntax

/-! # Layout of service definitions

Blanks, line breaks and comments in front of a text on which the run is clean leave it clean.
-/

namespace Highlight.Fsd

open Text Unicode Grammar

variable {stack final : StateStack} {c : Cursor} {lines : List String} {text : List Char}

theorem starting_blank {x : Char} (h : blanks.contains x = true) :
    ∀ s ∈ spaced, (Move.starting x (moves s)).head? = some ⟨false, oneOrMore blanks, .stay⟩ := by
  obtain ⟨n, hn, rfl⟩ := exists_ofNat (lt_of_contains_blanks h)
  revert h
  revert n
  decide

theorem exists_first?_blank {x : Char} {xs : List Char} (hTop : stack.top ∈ spaced)
    (hRest : c.rest = x :: xs) (hx : blanks.contains x = true) :
    ∃ m, Move.first? (grammar.movesAt stack.top) c = some (.stay, m) ∧
      m.stop = c.advance.skip (xs.takeWhile blanks.contains).length := by
  obtain ⟨m, hMatch, hStop⟩ := Pattern.exists_match?_times hRest hx
  have hTry := Move.tryAt_of_match? (v := ⟨false, oneOrMore blanks, .stay⟩) rfl hMatch
  refine ⟨m, ?_, hStop⟩
  rw [movesAt_eq (mem_formal_of_mem_spaced hTop)]
  exact Move.first?_of_head? hRest (starting_blank hx _ hTop) hTry

/-- A blank can be put in front of a clean run. If the run starts with blanks, its first step is
made together with the new one. -/
theorem clean_of_blank {x : Char} {xs : List Char} (hTop : stack.top ∈ spaced)
    (hRest : c.rest = x :: xs) (hx : blanks.contains x = true)
    (h : grammar.Clean stack c.advance lines final) : grammar.Clean stack c lines final := by
  have hBehind : c.advance.rest = xs := by rw [Cursor.rest_advance_of_rest hRest]
  obtain ⟨m, hMove, hStop⟩ := exists_first?_blank hTop hRest hx
  have hLength : m.stop.rest.length < c.rest.length := by
    rw [hStop, Cursor.rest_skip, hBehind, hRest, List.length_drop, List.length_cons]
    omega
  rw [clean_iff_of_move hMove hLength, hStop]
  cases xs with
  | nil => exact h
  | cons y ys =>
    cases hy : blanks.contains y with
    | false =>
      rw [List.takeWhile_cons_of_neg (by simp [hy])]
      exact h
    | true =>
      obtain ⟨m', hMove', hStop'⟩ := exists_first?_blank hTop hBehind hy
      have hLength' : m'.stop.rest.length < c.advance.rest.length := by
        rw [hStop', Cursor.rest_skip, Cursor.rest_advance, hBehind, List.length_drop, List.tail_cons,
          List.length_cons]
        omega
      rw [List.takeWhile_cons_of_pos hy, List.length_cons, Cursor.skip, ← hStop']
      exact (clean_iff_of_move hMove' hLength').mp h

theorem cleanOn_blank {x : Char} (hTop : stack.top ∈ spaced) (hx : blanks.contains x = true)
    (hPiece : ∀ y ∈ [x], y ≠ '\r' ∧ y ≠ '\n') (h : grammar.CleanOn stack text final) :
    grammar.CleanOn stack (x :: text) final := by
  refine h.append hPiece fun c lines final hRest hAfter => ?_
  refine clean_of_blank hTop hRest hx (hAfter _ ?_)
  rw [Cursor.rest_advance, hRest]
  rfl

theorem cleanOn_lineBreak (b : LineBreak) (hStack : grammar.enter stack = stack)
    (h : grammar.CleanOn stack text final) : grammar.CleanOn stack (b.text ++ text) final := by
  intro c hRest
  cases b with
  | lineFeed => exact h.of_lineEnd [] hStack (by decide) hRest
  | returnAndFeed => exact h.of_lineEnd ['\r'] hStack (by decide) hRest

theorem starting_slash : ∀ s ∈ spaced,
    (Move.starting '/' (moves s)).head? = some ⟨false, commentPattern, .stay⟩ := by
  decide

theorem exists_match?_comment {body : List Char} (hRest : c.rest = '/' :: '/' :: body)
    (hBody : '\n' ∉ body) : ∃ m, commentPattern.match? c = some m ∧ m.stop.rest = [] := by
  have hInLine : ∀ x ∈ body, inLine.contains x = true := fun x hx =>
    contains_inLine.mpr fun hEq => hBody (hEq ▸ hx)
  have hSecond : c.advance.rest = '/' :: body := by
    rw [Cursor.rest_advance_of_rest hRest]
  have hThird : c.advance.advance.rest = body := by
    rw [Cursor.rest_advance_of_rest hSecond]
  obtain ⟨u, hMany, hCursor⟩ : ∃ u, (many inLine).Prefers [1, 0]
      ⟨c.advance.advance, [], (Thread.start c).captures⟩ u ∧
      u.cursor = c.advance.advance.skip body.length :=
    Pattern.exists_prefers_times_append rfl (by rw [hThird, List.append_nil]) hInLine
      (fun _ h => absurd h (Option.not_mem_none _)) (Nat.zero_le _)
  have hNil : u.cursor.rest = [] := by
    rw [hCursor, Cursor.rest_skip, hThird, List.drop_length]
  have hEnd : Look.textEnd.holds u.cursor = true := by
    rw [Look.holds, hNil]
    rfl
  have hSlashes : (Pattern.seq (char '/') (char '/')).Prefers [0, 0] (.start c)
      ⟨c.advance.advance, [], (Thread.start c).captures⟩ :=
    Pattern.prefers_seq (Pattern.prefers_set hRest rfl) (Pattern.prefers_set hSecond rfl)
  have hWhole := Pattern.prefers_seq (Pattern.prefers_seq hSlashes hMany) (Pattern.prefers_look hEnd)
  exact ⟨_, Pattern.match?_of_prefers hWhole, hNil⟩

theorem cleanOn_comment {body : List Char} (hTop : stack.top ∈ spaced)
    (hStack : grammar.enter stack = stack) (hBody : '\n' ∉ body)
    (h : grammar.CleanOn stack text final) :
    grammar.CleanOn stack ('/' :: '/' :: body ++ '\n' :: text) final := by
  intro c hRest
  have hPiece : ∀ x ∈ ['/', '/'], x ≠ '\r' ∧ x ≠ '\n' := by simp
  have hSlashes : lineRest ('/' :: '/' :: body ++ '\n' :: text) =
      '/' :: '/' :: lineRest (body ++ '\n' :: text) := lineRest_append hPiece _
  rw [hSlashes] at hRest
  obtain ⟨m, hMatch, hNil⟩ := exists_match?_comment hRest (not_mem_lineRest _)
  have hTry := Move.tryAt_of_match? (v := ⟨false, commentPattern, .stay⟩) rfl hMatch
  have hMove := Move.first?_of_head? hRest (starting_slash _ hTop) hTry
  rw [← movesAt_eq (mem_formal_of_mem_spaced hTop)] at hMove
  have hLength : m.stop.rest.length < c.rest.length := by
    rw [hNil, hRest]
    exact Nat.succ_pos _
  rw [clean_iff_of_move hMove hLength]
  exact h.of_lineEnd ('/' :: '/' :: body) hStack (by simpa using hBody) hNil

theorem cleanOn_gap (gap : Gap) (hTop : stack.top ∈ spaced) (hStack : grammar.enter stack = stack)
    (h : grammar.CleanOn stack text final) : grammar.CleanOn stack (gap.text ++ text) final := by
  cases gap with
  | space => exact cleanOn_blank hTop rfl (by simp) h
  | tab => exact cleanOn_blank hTop rfl (by simp) h
  | lineBreak b => exact cleanOn_lineBreak b hStack h
  | comment body b hBody =>
    cases b with
    | lineFeed =>
      have hText := cleanOn_comment hTop hStack hBody h
      simpa [Gap.text, LineBreak.text] using hText
    | returnAndFeed =>
      have hReturn : '\n' ∉ body ++ ['\r'] := by simpa using hBody
      have hText := cleanOn_comment hTop hStack hReturn h
      simpa [Gap.text, LineBreak.text] using hText

theorem cleanOn_layout (layout : Layout) (hTop : stack.top ∈ spaced)
    (hStack : grammar.enter stack = stack) (h : grammar.CleanOn stack text final) :
    grammar.CleanOn stack (layout.text ++ text) final := by
  induction layout with
  | nil => exact h
  | cons gap layout ih =>
    have hGap := cleanOn_gap gap hTop hStack ih
    rwa [← List.append_assoc] at hGap

end Highlight.Fsd
