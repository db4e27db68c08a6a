import Highlight.Proofs.GreedyMatching
import Highlight.Proofs.Fsd.Moves
import Highlight.Proofs.Fsd.Syntax

/-! # Remarks behind a service definition

A hash at the start of a line leads from the root into the state for Markdown. Some rule of that
state matches wherever the line has not ended, and none leaves the state.
-/

namespace Highlight.Fsd

open Text Unicode Grammar

def inRemarks : StateStack := ⟨At.root, [At.markdown]⟩

variable {c : Cursor} {x : Char} {xs : List Char}

theorem exists_first?_markdown (hRest : c.rest = x :: xs) :
    ∃ m, Move.first? (grammar.movesAt At.markdown) c = some (.stay, m) := by
  obtain ⟨hEffect, hOrdinary, hSpecial⟩ := grammar_table.2.2.2.2
  rcases contains_special_or_ordinary x with hx | hx
  · refine Move.exists_first?_of_effect hEffect hSpecial ?_
    rw [Move.tryAt_of_match? rfl (Pattern.match?_set hRest hx)]
    rfl
  · obtain ⟨m, hMatch, _⟩ := Pattern.exists_match?_times hRest hx
    refine Move.exists_first?_of_effect hEffect hOrdinary ?_
    rw [Move.tryAt_of_match? rfl hMatch]
    rfl

theorem enter_inRemarks : grammar.enter inRemarks = inRemarks :=
  if_pos (accepts_iff.mpr (by decide))

theorem clean_inRemarks_of_lineEnd {lines : List String}
    (h : ∀ d : Cursor, d.rest = [] → grammar.Clean inRemarks d lines inRemarks) (c : Cursor) :
    grammar.Clean inRemarks c lines inRemarks := by
  induction hLength : c.rest.length using Nat.strongRecOn generalizing c with
  | ind n ih =>
    cases hRest : c.rest with
    | nil => exact h c hRest
    | cons x xs =>
      have hNe : c.rest ≠ [] := by rw [hRest]; exact List.cons_ne_nil x xs
      obtain ⟨m, hMove⟩ := exists_first?_markdown hRest
      have hLess := grammar.length_step_lt inRemarks hNe
      exact .of_move hNe hMove (ih _ (hLength ▸ hLess) _ rfl)

/-- Remarks are never left, and a rule matches everywhere in them. -/
theorem clean_inRemarks (c : Cursor) (lines : List String) :
    grammar.Clean inRemarks c lines inRemarks := by
  induction lines generalizing c with
  | nil => exact clean_inRemarks_of_lineEnd (fun _ hRest => .done hRest) c
  | cons line lines ih =>
    refine clean_inRemarks_of_lineEnd (fun _ hRest => .line hRest ?_) c
    rw [enter_inRemarks]
    exact ih _

theorem exists_first?_hash (hRest : c.rest = '#' :: xs) (hStart : c.offset = 0) :
    ∃ m, Move.first? (grammar.movesAt At.root) c = some (.push At.markdown, m) := by
  have hEffect : ∀ v ∈ Move.starting '#' (moves At.root), v.effect = .push At.markdown := by decide
  have hMem : ⟨true, .seq (char '#') (many inLine), .push At.markdown⟩ ∈
      Move.starting '#' (moves At.root) := by decide
  obtain ⟨u, hMany, _⟩ : ∃ u, (many inLine).Prefers [1]
      ⟨c.advance, [], (Thread.start c).captures⟩ u ∧ _ :=
    Pattern.exists_prefers_times rfl (Nat.zero_le _)
  have hHash : (char '#').Prefers [0] (.start c) ⟨c.advance, [], (Thread.start c).captures⟩ :=
    Pattern.prefers_set hRest rfl
  have hMatch := Pattern.match?_of_prefers (Pattern.prefers_seq hHash hMany)
  rw [movesAt_eq (by decide), ← Move.first?_starting hRest]
  refine Move.exists_first?_of_effect hEffect hMem ?_
  simp [Move.tryAt, hStart, hMatch]

theorem clean_hash {lines : List String} (hRest : c.rest = '#' :: xs) (hStart : c.offset = 0) :
    grammar.Clean atRoot c lines inRemarks := by
  have hNe : c.rest ≠ [] := by rw [hRest]; exact List.cons_ne_nil '#' xs
  obtain ⟨m, hMove⟩ := exists_first?_hash hRest hStart
  refine .of_move hNe hMove ?_
  rw [depthLimit_eq]
  exact clean_inRemarks _ _

theorem cleanOn_remarks (r : Remarks) :
    grammar.CleanOn atRoot (r.lineBreak.text ++ '#' :: r.text) inRemarks := by
  have hHash : lineRest ('#' :: r.text) = '#' :: lineRest r.text := lineRest_cons (by decide) nofun
  have hClean : grammar.Clean atRoot (.ofLine (String.ofList (lineRest ('#' :: r.text))))
      ((linesBehind ('#' :: r.text)).map String.ofList) inRemarks := by
    rw [hHash]
    exact clean_hash String.toList_ofList rfl
  intro c hRest
  cases hBreak : r.lineBreak with
  | lineFeed =>
    rw [hBreak] at hRest
    exact clean_of_lineEnd [] (List.cons_ne_nil _ _) enter_atRoot (by decide) hRest hClean
  | returnAndFeed =>
    rw [hBreak] at hRest
    exact clean_of_lineEnd ['\r'] (List.cons_ne_nil _ _) enter_atRoot (by decide) hRest hClean

end Highlight.Fsd
