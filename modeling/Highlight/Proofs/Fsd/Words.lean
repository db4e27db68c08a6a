import Highlight.Proofs.GreedyMatching
import Highlight.Proofs.Fsd.Moves
import Highlight.Proofs.Fsd.Syntax

/-! # Words and marks of service definitions

Wherever the syntax puts a name, a word of an attribute or a mark, the grammar crosses it in one
step. A word has to be followed by something that cannot belong to it.
-/

namespace Highlight.Fsd

open Text Unicode Grammar

theorem lt_of_isAlphanum {x : Char} (h : x.isAlphanum = true) : x.toNat < 128 := by
  change (decide (x.val ≥ 'A'.val ∧ x.val ≤ 'Z'.val) ||
      decide (x.val ≥ 'a'.val) && decide (x.val ≤ 'z'.val) ||
      decide (x.val ≥ '0'.val) && decide (x.val ≤ '9'.val)) = true at h
  simp only [Bool.or_eq_true, Bool.and_eq_true, decide_eq_true_eq, UInt32.le_iff_toNat_le,
    ge_iff_le] at h
  change ((65 ≤ x.toNat ∧ x.toNat ≤ 90) ∨ (97 ≤ x.toNat ∧ x.toNat ≤ 122)) ∨
    (48 ≤ x.toNat ∧ x.toNat ≤ 57) at h
  omega

theorem lt_of_isAttributeChar {x : Char} (h : isAttributeChar x = true) : x.toNat < 128 := by
  simp only [isAttributeChar, Bool.or_eq_true, beq_iff_eq] at h
  rcases h with (((h | rfl) | rfl) | rfl) | rfl
  · exact lt_of_isAlphanum h
  all_goals decide

theorem lt_of_isAlpha {x : Char} (h : x.isAlpha = true) : x.toNat < 128 :=
  lt_of_isAlphanum (by rw [Char.isAlphanum, h, Bool.true_or])

theorem contains_letters {x : Char} (h : x.isAlpha = true) : letters.contains x = true := by
  obtain ⟨n, hn, rfl⟩ := exists_ofNat (lt_of_isAlpha h)
  revert h
  revert n
  decide

theorem contains_alphanumerics {x : Char} (h : x.isAlphanum = true) :
    alphanumerics.contains x = true ∧ isWord x = true := by
  obtain ⟨n, hn, rfl⟩ := exists_ofNat (lt_of_isAlphanum h)
  revert h
  revert n
  decide

theorem isAlphanum_of_contains {x : Char} (h : alphanumerics.contains x = true) :
    x.isAlphanum = true := by
  have hAscii : x.toNat < 128 := by
    simp only [alphanumerics, CharSet.contains_cons, CharSet.contains_nil, or_false] at h
    omega
  obtain ⟨n, hn, rfl⟩ := exists_ofNat hAscii
  revert h
  revert n
  decide

theorem contains_attributeChars {x : Char} (h : isAttributeChar x = true) :
    attributeChars.contains x = true := by
  obtain ⟨n, hn, rfl⟩ := exists_ofNat (lt_of_isAttributeChar h)
  revert h
  revert n
  decide

theorem mayStart_letter {x : Char} (h : x.isAlpha = true) :
    ∀ s ∈ naming, ∀ v ∈ moves s, v.pattern.mayStart x = v.pattern.mayStart 'a' := by
  obtain ⟨n, hn, rfl⟩ := exists_ofNat (lt_of_isAlpha h)
  revert h
  revert n
  decide

theorem starting_letter {x : Char} (h : x.isAlpha = true) :
    ∀ s ∈ naming, (Move.starting x (moves s)).head? = some wordMove ∨
      (Move.starting x (moves s)).head? = some identifierMove := by
  intro s hs
  have hSame : Move.starting x (moves s) = Move.starting 'a' (moves s) :=
    List.filter_congr fun v hv => mayStart_letter h s hs v hv
  rw [hSame]
  clear hSame
  revert s
  decide

theorem starting_attributeChar {x : Char} (h : isAttributeChar x = true) :
    ∀ s ∈ attributing,
      (Move.starting x (moves s)).head? = some ⟨false, oneOrMore attributeChars, .stay⟩ := by
  obtain ⟨n, hn, rfl⟩ := exists_ofNat (lt_of_isAttributeChar h)
  revert h
  revert n
  decide

def breaks : List Char :=
  [' ', '\t', '\r', '\n', '/', '"', '\x7b', '\x7d', '[', ']', '(', ')', '<', '>', ':', ',', ';']

def Stops (text : List Char) : Prop := ∀ x ∈ text.head?, x ∈ breaks

theorem not_contains_breaks : ∀ x ∈ breaks, alphanumerics.contains x = false ∧
    attributeChars.contains x = false ∧ isWord x = false := by
  have hAll : breaks.all (fun x =>
      !alphanumerics.contains x && !attributeChars.contains x && !isWord x) = true := by
    decide
  intro x hx
  simpa [and_assoc] using List.all_eq_true.mp hAll x hx

variable {stack : StateStack} {c : Cursor} {after : List Char}

theorem crosses_of_head? {x : Char} {piece : List Char} {v : Move} (hTop : stack.top ∈ formal)
    (hHead : (Move.starting x (moves stack.top)).head? = some v) (hPlace : v.lineStart = false)
    (h : ∀ c : Cursor, c.rest = x :: piece ++ after →
      ∃ m, v.pattern.match? c = some m ∧ m.stop.rest = after) :
    grammar.Crosses stack (x :: piece) after (stack.apply 100 v.effect) := by
  rw [← depthLimit_eq]
  refine .of_move (List.cons_ne_nil x piece) fun c hRest => ?_
  obtain ⟨m, hMatch, hStop⟩ := h c hRest
  refine ⟨m, ?_, hStop⟩
  rw [movesAt_eq hTop]
  exact Move.first?_of_head? hRest hHead (Move.tryAt_of_match? hPlace hMatch)

theorem exists_prefers_identifier (i : Identifier) {path : Point} (hRest : c.rest = i.chars ++ after)
    (hAfter : ∀ x ∈ after.head?, alphanumerics.contains x = false) :
    ∃ u, identifierPattern.Prefers path (.start c) u ∧ u.cursor = c.skip i.chars.length := by
  have hOthers : ∀ x ∈ i.others, alphanumerics.contains x = true := fun x hx =>
    (contains_alphanumerics (i.isAlphanum_of_mem x hx)).1
  have hFirst : (Pattern.set letters).Prefers (0 :: path) (.start c)
      ⟨c.advance, [], (Thread.start c).captures⟩ :=
    Pattern.prefers_set hRest (contains_letters i.first_isAlpha)
  have hBehind : c.advance.rest = i.others ++ after := by
    rw [Cursor.rest_advance, hRest]
    rfl
  obtain ⟨u, hMany, hCursor⟩ : ∃ u, (many alphanumerics).Prefers (1 :: path)
      ⟨c.advance, [], (Thread.start c).captures⟩ u ∧ u.cursor = c.advance.skip i.others.length :=
    Pattern.exists_prefers_times_append rfl hBehind hOthers hAfter (Nat.zero_le _)
  exact ⟨u, Pattern.prefers_seq hFirst hMany, hCursor⟩

theorem Identifier.isWord_of_mem (i : Identifier) : ∀ x ∈ i.chars, isWord x = true := by
  refine List.forall_mem_cons.mpr ⟨?_, fun x hx => ?_⟩
  · exact (contains_alphanumerics (by rw [Char.isAlphanum, i.first_isAlpha, Bool.true_or])).2
  · exact (contains_alphanumerics (i.isAlphanum_of_mem x hx)).2

/-- Behind an identifier a word ends unless it goes on with other characters. -/
theorem holds_edge (i : Identifier) (hRest : c.rest = i.chars ++ after)
    (hAfter : ∀ x ∈ after.head?, isWord x = false) :
    (Look.word .edge false).holds (c.skip i.chars.length) = true := by
  have hLast : i.others.length < i.chars.length := Nat.lt_succ_self _
  have hBefore : (c.skip i.chars.length).before.any isWord = true := by
    have hLength : i.others.length < c.rest.length := by
      rw [hRest, List.length_append]
      omega
    have hSkip : (c.skip i.chars.length).before = c.rest[i.others.length]? := Cursor.before_skip hLength
    rw [hSkip, hRest, List.getElem?_append_left hLast, List.getElem?_eq_getElem hLast]
    exact i.isWord_of_mem _ (List.getElem_mem hLast)
  have hNext : after.head?.any isWord = false := by
    rw [Option.any_eq_false]
    exact fun x hx => by simp [hAfter x hx]
  have hDrop : (c.skip i.chars.length).rest = after := by
    rw [Cursor.rest_skip, hRest]
    exact List.drop_left
  simp only [Look.holds, hDrop, Boundary.holds, Bool.false_eq_true, if_false, hBefore, hNext]
  rfl

theorem exists_match?_of_prefers {p : Pattern} {u : Thread} {piece : List Char}
    (h : p.Prefers [] (.start c) u) (hCursor : u.cursor = c.skip piece.length)
    (hRest : c.rest = piece ++ after) : ∃ m, p.match? c = some m ∧ m.stop.rest = after := by
  refine ⟨_, Pattern.match?_of_prefers h, ?_⟩
  rw [hCursor, Cursor.rest_skip, hRest]
  exact List.drop_left

theorem crosses_name (i : Identifier) (hTop : stack.top ∈ naming) (hStops : Stops after) :
    grammar.Crosses stack i.chars after stack := by
  have hFormal : stack.top ∈ formal :=
    mem_formal_of_mem_spaced (List.mem_append_left attributing hTop)
  have hAfter : ∀ x ∈ after.head?, alphanumerics.contains x = false := fun x hx =>
    (not_contains_breaks x (hStops x hx)).1
  have hEnd : ∀ x ∈ after.head?, isWord x = false := fun x hx =>
    (not_contains_breaks x (hStops x hx)).2.2
  rcases starting_letter i.first_isAlpha stack.top hTop with hHead | hHead
  -- the rule for whole words comes first where keywords count
  · refine crosses_of_head? hFormal hHead rfl fun c hRest => ?_
    obtain ⟨u, hPrefers, hCursor⟩ := exists_prefers_identifier i hRest hAfter
    have hEdge := holds_edge i hRest hEnd
    rw [← hCursor] at hEdge
    exact exists_match?_of_prefers (Pattern.prefers_seq hPrefers (Pattern.prefers_look hEdge)) hCursor
      hRest
  · refine crosses_of_head? hFormal hHead rfl fun c hRest => ?_
    obtain ⟨u, hPrefers, hCursor⟩ := exists_prefers_identifier i hRest hAfter
    exact exists_match?_of_prefers hPrefers hCursor hRest

theorem crosses_attributeWord (w : AttributeWord) (hTop : stack.top ∈ attributing)
    (hStops : Stops after) : grammar.Crosses stack w.chars after stack := by
  have hFormal : stack.top ∈ formal :=
    mem_formal_of_mem_spaced (List.mem_append_right naming hTop)
  have hAfter : ∀ x ∈ after.head?, attributeChars.contains x = false := fun x hx =>
    (not_contains_breaks x (hStops x hx)).2.1
  have hChars : ∀ x ∈ w.chars, attributeChars.contains x = true := fun x hx =>
    contains_attributeChars (w.isAttributeChar_of_mem x hx)
  have hLeast : 1 ≤ w.chars.length := List.length_pos_iff.mpr w.ne_nil
  obtain ⟨x, piece, hCons⟩ := List.exists_cons_of_ne_nil w.ne_nil
  have hHead := starting_attributeChar (w.isAttributeChar_of_mem x (by simp [hCons])) _ hTop
  rw [hCons] at hChars hLeast ⊢
  refine crosses_of_head? hFormal hHead rfl fun c hRest => ?_
  obtain ⟨u, hPrefers, hCursor⟩ : ∃ u, (oneOrMore attributeChars).Prefers [] (.start c) u ∧ _ :=
    Pattern.exists_prefers_times_append rfl hRest hChars hAfter hLeast
  exact exists_match?_of_prefers hPrefers hCursor hRest

def markEffect? (s : StateId) (m : Mark) : Option Effect :=
  match (Move.starting m.char (moves s)).head? with
  | some ⟨false, .set _, e⟩ => some e
  | _ => none

theorem crosses_mark {m : Mark} {e : Effect} (hTop : stack.top ∈ formal)
    (h : markEffect? stack.top m = some e) :
    grammar.Crosses stack [m.char] after (stack.apply 100 e) := by
  unfold markEffect? at h
  split at h
  · rename_i s e' hHead
    cases h
    have hMem := List.mem_of_mem_head? hHead
    have hSet : s.contains m.char = true := (List.mem_filter.mp hMem).2
    refine crosses_of_head? hTop hHead rfl fun c hRest => ?_
    refine ⟨_, Pattern.match?_set hRest hSet, ?_⟩
    rw [Cursor.rest_advance, hRest]
    rfl
  · cases h

end Highlight.Fsd
