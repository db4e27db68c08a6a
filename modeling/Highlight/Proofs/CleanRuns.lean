import Highlight.Proofs.LineByLine
import Highlight.Proofs.PatternMeaning
import Highlight.Proofs.Steps

/-! # Runs without a fallback

A run is clean when a rule matches at every step. Whether it is, and with which stack it ends,
depends only on the moves of the rules: where their patterns match and what they do to the stack.
Clean runs are followed here along the characters of a text, over the ends of its lines.
-/

namespace Highlight

open Text

theorem findSome?_filter {α β : Type} {p : α → Bool} {f : α → Option β} {xs : List α}
    (h : ∀ x ∈ xs, p x = false → f x = none) : (xs.filter p).findSome? f = xs.findSome? f := by
  induction xs with
  | nil => rfl
  | cons x xs ih =>
    obtain ⟨hFirst, hLater⟩ := List.forall_mem_cons.mp h
    cases hKept : p x with
    | true => rw [List.filter_cons_of_pos hKept, List.findSome?_cons, List.findSome?_cons, ih hLater]
    | false =>
      rw [List.filter_cons_of_neg (by simp [hKept]), List.findSome?_cons, hFirst hKept, ih hLater]

/-- What decides where the step of a rule ends and on which stack. -/
structure Move where
  lineStart : Bool
  pattern : Pattern
  effect : Effect
deriving DecidableEq

namespace Move

def tryAt (v : Move) (c : Cursor) : Option (Effect × Match) :=
  if v.lineStart && c.offset != 0 then none else (v.pattern.match? c).map (v.effect, ·)

def first? (moves : List Move) (c : Cursor) : Option (Effect × Match) :=
  moves.findSome? (·.tryAt c)

def starting (x : Char) (moves : List Move) : List Move :=
  moves.filter (·.pattern.mayStart x)

theorem tryAt_of_match? {v : Move} {c : Cursor} {m : Match} (hPlace : v.lineStart = false)
    (h : v.pattern.match? c = some m) : v.tryAt c = some (v.effect, m) := by
  simp [tryAt, hPlace, h]

theorem match?_of_tryAt {v : Move} {c : Cursor} {e : Effect} {m : Match}
    (h : v.tryAt c = some (e, m)) : v.effect = e ∧ v.pattern.match? c = some m := by
  unfold tryAt at h
  split at h
  · cases h
  · obtain ⟨m', hMatch, hEq⟩ := Option.map_eq_some_iff.mp h
    cases hEq
    exact ⟨rfl, hMatch⟩

theorem first?_starting {c : Cursor} {x : Char} {xs : List Char} (hRest : c.rest = x :: xs)
    (moves : List Move) : first? (starting x moves) c = first? moves c := by
  refine findSome?_filter fun v _ hStart => ?_
  simp [tryAt, Pattern.match?_eq_none_of_mayStart hRest hStart]

theorem first?_of_head? {c : Cursor} {x : Char} {xs : List Char} {moves : List Move} {v : Move}
    {r : Effect × Match} (hRest : c.rest = x :: xs) (hHead : (starting x moves).head? = some v)
    (hTry : v.tryAt c = some r) : first? moves c = some r := by
  obtain ⟨later, hStarting⟩ := List.head?_eq_some_iff.mp hHead
  rw [← first?_starting hRest, hStarting, first?, List.findSome?_cons, hTry]

theorem exists_first?_of_effect {c : Cursor} {moves : List Move} {v : Move} {e : Effect}
    (hEffect : ∀ v ∈ moves, v.effect = e) (hMem : v ∈ moves) (hTry : (v.tryAt c).isSome = true) :
    ∃ m, first? moves c = some (e, m) := by
  have hSome : (first? moves c).isSome = true := List.findSome?_isSome_iff.mpr ⟨v, hMem, hTry⟩
  obtain ⟨⟨e', m⟩, hFirst⟩ := Option.isSome_iff_exists.mp hSome
  obtain ⟨w, hw, hMatch⟩ := List.exists_of_findSome?_eq_some hFirst
  rw [← (match?_of_tryAt hMatch).1, hEffect w hw] at hFirst
  exact ⟨m, hFirst⟩

end Move

namespace Text

def lineRest : List Char → List Char
  | [] => []
  | '\n' :: _ => []
  | '\r' :: '\n' :: _ => []
  | x :: text => x :: lineRest text

def linesBehind : List Char → List (List Char)
  | [] => []
  | x :: text => if x = '\n' then splitLines [] text else linesBehind text

theorem lineRest_cons {x : Char} {text : List Char} (hFeed : x ≠ '\n')
    (hReturn : x = '\r' → text.head? ≠ some '\n') : lineRest (x :: text) = x :: lineRest text := by
  rw [lineRest]
  · exact hFeed
  · rintro text' rfl rfl
    exact hReturn rfl rfl

theorem lineRest_append {piece : List Char} (h : ∀ x ∈ piece, x ≠ '\r' ∧ x ≠ '\n')
    (text : List Char) : lineRest (piece ++ text) = piece ++ lineRest text := by
  induction piece with
  | nil => rfl
  | cons x piece ih =>
    obtain ⟨⟨hReturn, hFeed⟩, hPiece⟩ := List.forall_mem_cons.mp h
    rw [List.cons_append, lineRest_cons hFeed fun hEq => absurd hEq hReturn, ih hPiece,
      List.cons_append]

theorem linesBehind_append {piece : List Char} (h : '\n' ∉ piece) (text : List Char) :
    linesBehind (piece ++ text) = linesBehind text := by
  induction piece with
  | nil => rfl
  | cons x piece ih =>
    rw [List.mem_cons, not_or] at h
    rw [List.cons_append, linesBehind, if_neg (Ne.symm h.1), ih h.2]

theorem not_mem_lineRest (text : List Char) : '\n' ∉ lineRest text := by
  fun_induction lineRest text with
  | case1 => exact List.not_mem_nil
  | case2 => exact List.not_mem_nil
  | case3 => exact List.not_mem_nil
  | case4 x text hFeed _ ih =>
    rw [List.mem_cons, not_or]
    exact ⟨Ne.symm hFeed, ih⟩

/-- A line that is still open goes on with the rest of its text. A carriage return stays in it
unless a line feed follows. -/
theorem splitLines_append {current text : List Char} (h : current ≠ [] ∨ text ≠ [])
    (hReturn : current.head? = some '\r' → text.head? ≠ some '\n') :
    splitLines current text = (current.reverse ++ lineRest text) :: linesBehind text := by
  induction text generalizing current with
  | nil =>
    have hCurrent : current ≠ [] := h.resolve_right fun h => h rfl
    simp [splitLines, lineRest, linesBehind, hCurrent]
  | cons x text ih =>
    by_cases hFeed : x = '\n'
    · subst hFeed
      have hClose : closeLine current = current.reverse :=
        closeLine_eq_reverse fun hHead => hReturn hHead rfl
      rw [splitLines, if_pos rfl, hClose, lineRest, linesBehind, if_pos rfl, List.append_nil]
    · rw [splitLines, if_neg hFeed, linesBehind, if_neg hFeed]
      by_cases hEnd : x = '\r' ∧ text.head? = some '\n'
      · obtain ⟨rfl, hHead⟩ := hEnd
        obtain ⟨text, rfl⟩ := List.head?_eq_some_iff.mp hHead
        rw [splitLines, if_pos rfl, lineRest, linesBehind, if_pos rfl, closeLine, List.append_nil]
      · have hStays : x = '\r' → text.head? ≠ some '\n' := fun hx hHead => hEnd ⟨hx, hHead⟩
        rw [ih (.inl (List.cons_ne_nil x current)) fun hx => hStays (Option.some.inj hx),
          lineRest_cons hFeed hStays, List.reverse_cons, List.append_assoc, List.singleton_append]

theorem splitLines_eq {text : List Char} (h : text ≠ []) :
    splitLines [] text = lineRest text :: linesBehind text :=
  splitLines_append (.inr h) nofun

end Text

theorem getLast?_eq_endStack (start : StateStack) {ts : List TokenizedLine} (h : ts ≠ []) :
    ts.getLast?.map (·.stack) = some (endStack start ts) := by
  rw [endStack, List.getLast?_eq_some_getLast h]
  rfl

namespace Grammar

variable {g : Grammar} {stack final : StateStack} {c : Cursor} {lines : List String}

def movesAt (g : Grammar) (state : StateId) : List Move :=
  (g.rulesAt state).map fun (_, rule) => ⟨rule.lineStart, rule.pattern, rule.effect⟩

theorem first?_movesAt (g : Grammar) (state : StateId) (c : Cursor) :
    Move.first? (g.movesAt state) c =
      (g.firstMatch? state c).map fun (_, rule, m) => (rule.effect, m) := by
  rw [Move.first?, movesAt, List.findSome?_map, firstMatch?, List.map_findSome?]
  congr 1
  funext ⟨id, rule⟩
  simp only [Function.comp_apply, Move.tryAt]
  split
  · rfl
  · cases rule.pattern.match? c <;> rfl

/-- A rule matches at every step from the cursor to the end of its line and in the lines that
follow, and the stack is `final` at the end. -/
inductive Clean (g : Grammar) : StateStack → Cursor → List String → StateStack → Prop
  | done {stack : StateStack} {c : Cursor} (hRest : c.rest = []) : Clean g stack c [] stack
  | line {stack final : StateStack} {c : Cursor} {line : String} {lines : List String}
      (hRest : c.rest = []) (h : g.Clean (g.enter stack) (.ofLine line) lines final) :
      Clean g stack c (line :: lines) final
  | step {stack final : StateStack} {c : Cursor} {lines : List String} (hRest : c.rest ≠ [])
      (hStep : (g.step stack c).isFallback = false)
      (h : g.Clean (g.step stack c).stack (g.step stack c).cursor lines final) :
      Clean g stack c lines final

theorem exists_firstMatch?_of_move {e : Effect} {m : Match}
    (hMove : Move.first? (g.movesAt stack.top) c = some (e, m)) :
    ∃ id rule, rule.effect = e ∧ g.firstMatch? stack.top c = some (id, rule, m) := by
  rw [first?_movesAt] at hMove
  obtain ⟨⟨id, rule, m'⟩, hFirst, hEq⟩ := Option.map_eq_some_iff.mp hMove
  cases hEq
  exact ⟨id, rule, rfl, hFirst⟩

theorem stack_step_of_move {e : Effect} {m : Match}
    (hMove : Move.first? (g.movesAt stack.top) c = some (e, m)) :
    (g.step stack c).stack = stack.apply g.depthLimit e := by
  obtain ⟨id, rule, rfl, hFirst⟩ := exists_firstMatch?_of_move hMove
  simp only [step, hFirst]

theorem cursor_step_of_move {e : Effect} {m : Match}
    (hMove : Move.first? (g.movesAt stack.top) c = some (e, m))
    (hLength : m.stop.rest.length < c.rest.length) : (g.step stack c).cursor = m.stop := by
  obtain ⟨id, rule, _, hFirst⟩ := exists_firstMatch?_of_move hMove
  exact cursor_step_of_firstMatch? hFirst hLength

theorem Clean.of_move {e : Effect} {m : Match} (hRest : c.rest ≠ [])
    (hMove : Move.first? (g.movesAt stack.top) c = some (e, m))
    (h : g.Clean (stack.apply g.depthLimit e) (g.step stack c).cursor lines final) :
    g.Clean stack c lines final := by
  have hStep : (g.step stack c).isFallback = false := by
    obtain ⟨id, rule, _, hFirst⟩ := exists_firstMatch?_of_move hMove
    simp [Grammar.step, hFirst, Step.isFallback]
  rw [← stack_step_of_move hMove] at h
  exact .step hRest hStep h

theorem clean_iff_of_move {e : Effect} {m : Match}
    (hMove : Move.first? (g.movesAt stack.top) c = some (e, m))
    (hLength : m.stop.rest.length < c.rest.length) :
    g.Clean stack c lines final ↔ g.Clean (stack.apply g.depthLimit e) m.stop lines final := by
  have hRest : c.rest ≠ [] := by
    intro hNil
    simp [hNil] at hLength
  rw [← cursor_step_of_move hMove hLength]
  constructor
  · intro h
    cases h with
    | done hNil => exact absurd hNil hRest
    | line hNil => exact absurd hNil hRest
    | step _ _ h => rwa [stack_step_of_move hMove] at h
  · exact .of_move hRest hMove

/-- The steps of the open line of a clean run are all made by rules, and the run goes on in the next
line from the stack behind them. -/
theorem Clean.open_line {bound : Nat} (h : g.Clean stack c lines final)
    (hBound : c.rest.length ≤ bound) :
    (∀ s ∈ g.stepsFrom bound stack c, s.isFallback = false) ∧
      g.Clean (stackAfter stack (g.stepsFrom bound stack c)) ⟨none, 0, []⟩ lines final := by
  induction h generalizing bound with
  | done hRest =>
    rw [stepsFrom_of_rest_eq_nil bound hRest]
    exact ⟨fun _ hs => absurd hs List.not_mem_nil, .done rfl⟩
  | line hRest h =>
    rw [stepsFrom_of_rest_eq_nil bound hRest]
    exact ⟨fun _ hs => absurd hs List.not_mem_nil, .line rfl h⟩
  | @step stack final c lines hRest hStep h ih =>
    cases bound with
    | zero => exact absurd (List.length_eq_zero_iff.mp (Nat.le_zero.mp hBound)) hRest
    | succ bound =>
      have hLength := g.length_step_lt stack hRest
      have hBound' : (g.step stack c).cursor.rest.length ≤ bound := by omega
      obtain ⟨hSteps, hLater⟩ := ih hBound'
      rw [stepsFrom_succ bound hRest]
      rw [stackAfter_cons]
      exact ⟨List.forall_mem_cons.mpr ⟨hStep, hSteps⟩, hLater⟩

theorem Clean.whole_line {line : String} (h : g.Clean (g.enter stack) (.ofLine line) lines final) :
    (g.steps stack line).countP (·.isFallback) = 0 ∧
      g.Clean (g.tokenizeLine stack line).stack ⟨none, 0, []⟩ lines final := by
  obtain ⟨hSteps, hEnd⟩ := h.open_line (Nat.le_refl _)
  refine ⟨List.countP_eq_zero.mpr fun s hs => ?_, hEnd⟩
  rw [hSteps s hs]
  exact Bool.false_ne_true

theorem Clean.fallbacks_runLines {line : String}
    (h : g.Clean (g.enter stack) (.ofLine line) lines final) (n : Counters) :
    (g.runLines stack n (line :: lines)).counters.fallbacks = n.fallbacks := by
  induction lines generalizing stack line n with
  | nil => simp only [Grammar.runLines, h.whole_line.1, Nat.add_zero]
  | cons next lines ih =>
    obtain ⟨hCount, hEnd⟩ := h.whole_line
    cases hEnd with
    | line _ hNext =>
      rw [Grammar.runLines]
      exact (ih hNext _).trans (by simp only [hCount, Nat.add_zero])
    | step hRest => exact absurd rfl hRest

theorem Clean.endStack_tokenizeLines {line : String}
    (h : g.Clean (g.enter stack) (.ofLine line) lines final) :
    endStack stack (g.tokenizeLines stack (line :: lines)) = final := by
  rw [tokenizeLines, endStack_cons]
  induction lines generalizing stack line with
  | nil =>
    cases h.whole_line.2 with
    | done => rfl
    | step hRest => exact absurd rfl hRest
  | cons next lines ih =>
    cases h.whole_line.2 with
    | line _ hNext =>
      rw [tokenizeLines, endStack_cons]
      exact ih hNext
    | step hRest => exact absurd rfl hRest

/-- From every place where a line goes on with this text a clean run leads to `final`. -/
def CleanOn (g : Grammar) (stack : StateStack) (text : List Char) (final : StateStack) : Prop :=
  ∀ c : Cursor, c.rest = lineRest text →
    g.Clean stack c ((linesBehind text).map String.ofList) final

/-- Clean runs lead over the piece to what follows it in the line. -/
def Crosses (g : Grammar) (stack : StateStack) (piece after : List Char) (stack' : StateStack) : Prop :=
  ∀ (c : Cursor) (lines : List String) (final : StateStack), c.rest = piece ++ after →
    (∀ d : Cursor, d.rest = after → g.Clean stack' d lines final) → g.Clean stack c lines final

variable {stack' : StateStack} {text piece after : List Char}

theorem Crosses.of_move {e : Effect} (hPiece : piece ≠ [])
    (h : ∀ c : Cursor, c.rest = piece ++ after → ∃ m,
      Move.first? (g.movesAt stack.top) c = some (e, m) ∧ m.stop.rest = after) :
    g.Crosses stack piece after (stack.apply g.depthLimit e) := by
  intro c lines final hRest hAfter
  obtain ⟨m, hMove, hStop⟩ := h c hRest
  have hLength : m.stop.rest.length < c.rest.length := by
    have hPos := List.length_pos_iff.mpr hPiece
    rw [hStop, hRest, List.length_append]
    omega
  exact (clean_iff_of_move hMove hLength).mpr (hAfter m.stop hStop)

theorem CleanOn.nil (g : Grammar) (stack : StateStack) : g.CleanOn stack [] stack :=
  fun _ hRest => .done hRest

theorem CleanOn.append (h : g.CleanOn stack' text final) (hPiece : ∀ x ∈ piece, x ≠ '\r' ∧ x ≠ '\n')
    (hCrosses : g.Crosses stack piece (lineRest text) stack') :
    g.CleanOn stack (piece ++ text) final := by
  intro c hRest
  rw [lineRest_append hPiece] at hRest
  rw [linesBehind_append fun hMem => (hPiece _ hMem).2 rfl]
  exact hCrosses c _ final hRest h

theorem clean_of_lineEnd (line : List Char) (hText : text ≠ []) (hStack : g.enter stack = stack)
    (hLine : '\n' ∉ line) (hRest : c.rest = [])
    (h : g.Clean stack (.ofLine (String.ofList (lineRest text)))
      ((linesBehind text).map String.ofList) final) :
    g.Clean stack c ((linesBehind (line ++ '\n' :: text)).map String.ofList) final := by
  rw [linesBehind_append hLine, linesBehind, if_pos rfl, splitLines_eq hText, List.map_cons]
  refine .line hRest ?_
  rwa [hStack]

theorem CleanOn.of_lineEnd (line : List Char) (h : g.CleanOn stack text final)
    (hStack : g.enter stack = stack) (hLine : '\n' ∉ line) (hRest : c.rest = []) :
    g.Clean stack c ((linesBehind (line ++ '\n' :: text)).map String.ofList) final := by
  by_cases hText : text = []
  · subst hText
    rw [linesBehind_append hLine]
    cases h ⟨none, 0, []⟩ rfl with
    | done => exact .done hRest
    | step hNil => exact absurd rfl hNil
  · refine clean_of_lineEnd line hText hStack hLine hRest (h _ ?_)
    rw [Cursor.ofLine, String.toList_ofList]

theorem CleanOn.run (h : g.CleanOn g.initial text final) (hText : text ≠ [])
    (hInitial : g.enter g.initial = g.initial) :
    (g.run (String.ofList text)).counters.fallbacks = 0 ∧
      (g.run (String.ofList text)).lines.getLast?.map (·.stack) = some final := by
  have hLines : Text.lines (String.ofList text) =
      String.ofList (lineRest text) :: (linesBehind text).map String.ofList := by
    rw [Text.lines, String.toList_ofList, splitLines_eq hText, List.map_cons]
  have hClean : g.Clean (g.enter g.initial) (.ofLine (String.ofList (lineRest text)))
      ((linesBehind text).map String.ofList) final := by
    rw [hInitial]
    exact h _ (by rw [Cursor.ofLine, String.toList_ofList])
  rw [Grammar.run, hLines, lines_runLines]
  refine ⟨hClean.fallbacks_runLines {}, ?_⟩
  rw [getLast?_eq_endStack g.initial, hClean.endStack_tokenizeLines]
  exact List.cons_ne_nil _ _

end Grammar

end Highlight
