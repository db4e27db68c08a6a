import Highlight.Proofs.Matching

/-! # The preferred end

A sequence goes on from the preferred end of its first part when its second part matches there, and
a greedy repetition of single characters without an upper bound takes as many as it can.
-/

namespace Highlight

open Text Unicode

namespace Text.Cursor

def skip (c : Cursor) : Nat → Cursor
  | 0 => c
  | n + 1 => c.advance.skip n

theorem advance_of_rest {c : Cursor} {x : Char} {xs : List Char} (h : c.rest = x :: xs) :
    c.advance = ⟨some x, c.offset + x.utf8Size, xs⟩ := by
  simp [advance, next?, h]

@[simp] theorem rest_advance (c : Cursor) : c.advance.rest = c.rest.tail := by
  cases h : c.rest with
  | nil => simp [advance, next?, h]
  | cons x xs => rw [advance_of_rest h, List.tail_cons]

theorem rest_advance_of_rest {c : Cursor} {x : Char} {xs : List Char} (h : c.rest = x :: xs) :
    c.advance.rest = xs := by
  rw [rest_advance, h, List.tail_cons]

@[simp] theorem rest_skip (c : Cursor) (n : Nat) : (c.skip n).rest = c.rest.drop n := by
  induction n generalizing c with
  | zero => rfl
  | succ n ih => rw [skip, ih, rest_advance, List.drop_tail]

theorem before_skip {c : Cursor} {n : Nat} (h : n < c.rest.length) :
    (c.skip (n + 1)).before = c.rest[n]? := by
  induction n generalizing c with
  | zero =>
    obtain ⟨x, xs, hx⟩ := List.exists_cons_of_length_pos h
    rw [skip, skip, advance_of_rest hx, hx]
    rfl
  | succ n ih =>
    rw [skip, ih]
    · rw [rest_advance, List.getElem?_tail]
    · rw [rest_advance, List.length_tail]
      omega

end Text.Cursor

@[simp] theorem distinct_nil : distinct [] = [] := rfl

@[simp] theorem distinct_singleton (t : Thread) : distinct [t] = [t] := by
  simp [distinct, distinctFrom, Marks.contains, Marks.none]

theorem head?_distinct (ts : List Thread) : (distinct ts).head? = ts.head? := by
  cases ts with
  | nil => rfl
  | cons t ts => simp [distinct, distinctFrom, Marks.contains, Marks.none]

namespace Thread

variable {t : Thread} {s : CharSet} {x : Char} {xs : List Char}

theorem consume?_of_mem (hRest : t.cursor.rest = x :: xs) (hSet : s.contains x = true) :
    t.consume? s = some ⟨t.cursor.advance, [], t.captures⟩ := by
  simp [consume?, Cursor.next?, hRest, hSet, Cursor.advance_of_rest hRest]

theorem consume?_of_not_mem (hRest : t.cursor.rest = x :: xs) (hSet : s.contains x = false) :
    t.consume? s = none := by
  simp [consume?, Cursor.next?, hRest, hSet]

theorem pass?_of_not_mem {p : Point} (h : p ∉ t.trail) :
    t.pass? p = some { t with trail := p :: t.trail } := by
  simp [pass?, h]

end Thread

namespace Repeat

theorem bind_pass?_consume? {t v : Thread} (s : CharSet) {path : Point} (copy : Nat) {k : Nat}
    (hCursor : v.cursor = t.cursor) (hCaptures : v.captures = t.captures)
    (hTrail : v.trail ⊆ [path.turn k]) :
    (v.pass? (path.entry copy)).bind (·.consume? s) = t.consume? s := by
  have hFree : path.entry copy ∉ v.trail := by
    intro hMem
    have hTurn := List.mem_singleton.mp (hTrail hMem)
    simp [Point.entry, Point.turn] at hTurn
  rw [Thread.pass?_of_not_mem hFree, Option.bind_some]
  simp only [Thread.consume?, hCursor, hCaptures]

/-- The last thread to leave a greedy repetition without an upper bound stands behind all characters
of the set. -/
theorem exists_run_eq {least : Nat} {s : CharSet} (path : Point) {rest : List Char} {k : Nat}
    {t : Thread} (left : List Thread) (hRest : t.cursor.rest = rest) (hTrail : t.trail = [])
    (hLeast : least ≤ k + (rest.takeWhile s.contains).length) :
    ∃ early u, Repeat.run ⟨least, none, true⟩ s path rest k t left = early ++ u :: left ∧
      u.cursor = t.cursor.skip (rest.takeWhile s.contains).length := by
  induction rest generalizing k t left with
  | nil =>
    have hTurn := Thread.pass?_of_not_mem (t := t) (p := path.turn k) (by simp [hTrail])
    have hk : ¬k < least := by simpa using hLeast
    rw [run]
    simp only [hk, if_false, reduceCtorEq, hTurn, if_true]
    exact ⟨[], _, rfl, rfl⟩
  | cons x xs ih =>
    have hTurn := Thread.pass?_of_not_mem (t := t) (p := path.turn k) (by simp [hTrail])
    have hEntered : t.trail ⊆ [path.turn k] := by simp [hTrail]
    have hTurned : path.turn k :: t.trail ⊆ [path.turn k] := by simp [hTrail]
    have hFirst := bind_pass?_consume? s (copyAt ⟨least, none, true⟩ true k) (t := t) rfl rfl hEntered
    have hLater := bind_pass?_consume? s (copyAt ⟨least, none, true⟩ true k) (t := t)
      (v := { t with trail := path.turn k :: t.trail }) rfl rfl hTurned
    rw [run]
    simp only [hFirst, hLater, hTurn, reduceCtorEq, if_true, if_false]
    cases hSet : s.contains x with
    | true =>
      rw [List.takeWhile_cons_of_pos hSet, List.length_cons] at hLeast
      obtain ⟨early, u, hRun, hCursor⟩ := ih
        (k := nextTurn ⟨least, none, true⟩ true k) (t := ⟨t.cursor.advance, [], t.captures⟩) left
        (by rw [Cursor.rest_advance_of_rest hRest]) rfl
        (by simp only [nextTurn, turns]; omega)
      rw [List.takeWhile_cons_of_pos hSet, Thread.consume?_of_mem hRest hSet]
      dsimp only
      rw [hRun]
      split
      · exact ⟨early, u, rfl, hCursor⟩
      · exact ⟨_ :: early, u, rfl, hCursor⟩
    | false =>
      rw [List.takeWhile_cons_of_neg (by simp [hSet])] at hLeast ⊢
      have hk : ¬k < least := by simpa using hLeast
      rw [Thread.consume?_of_not_mem hRest hSet, if_neg hk]
      exact ⟨[], _, rfl, rfl⟩

end Repeat

namespace Pattern

def Prefers (p : Pattern) (path : Point) (t u : Thread) : Prop :=
  (p.endsAt false path t).head? = some u

variable {p q : Pattern} {path : Point} {t u v : Thread} {s : CharSet}

theorem match?_of_prefers {c : Cursor} (h : p.Prefers [] (.start c) u) :
    p.match? c = some ⟨u.cursor, u.captures⟩ := by
  rw [match?, ends, h]
  rfl

theorem prefers_set {x : Char} {xs : List Char} (hRest : t.cursor.rest = x :: xs)
    (hSet : s.contains x = true) :
    (set s).Prefers path t ⟨t.cursor.advance, [], t.captures⟩ := by
  rw [Prefers, endsAt, Thread.consume?_of_mem hRest hSet]
  rfl

theorem prefers_look {l : Look} (h : l.holds t.cursor = true) : (look l).Prefers path t t := by
  rw [Prefers, endsAt, if_pos h]
  rfl

theorem prefers_seq (hp : p.Prefers (0 :: path) t u) (hq : q.Prefers (1 :: path) u v) :
    (seq p q).Prefers path t v := by
  obtain ⟨us, hus⟩ := List.head?_eq_some_iff.mp hp
  obtain ⟨vs, hvs⟩ := List.head?_eq_some_iff.mp hq
  rw [Prefers, endsAt, head?_distinct, hus, List.flatMap_cons, hvs]
  rfl

theorem exists_prefers_times {least : Nat} (hTrail : t.trail = [])
    (hLeast : least ≤ (t.cursor.rest.takeWhile s.contains).length) :
    ∃ u, (times ⟨least, none, true⟩ (set s)).Prefers path t u ∧
      u.cursor = t.cursor.skip (t.cursor.rest.takeWhile s.contains).length := by
  have hLeast' : least ≤ 0 + (t.cursor.rest.takeWhile s.contains).length := by omega
  obtain ⟨early, u, hRun, hCursor⟩ := Repeat.exists_run_eq path [] rfl hTrail hLeast'
  refine ⟨u, ?_, hCursor⟩
  rw [Prefers, endsAt, hRun, List.reverse_append]
  rfl

theorem match?_set {c : Cursor} {x : Char} {xs : List Char} (hRest : c.rest = x :: xs)
    (hSet : s.contains x = true) :
    (set s).match? c = some ⟨c.advance, (Thread.start c).captures⟩ :=
  match?_of_prefers (prefers_set hRest hSet)

theorem exists_match?_times {c : Cursor} {x : Char} {xs : List Char} (hRest : c.rest = x :: xs)
    (hSet : s.contains x = true) :
    ∃ m, (times ⟨1, none, true⟩ (set s)).match? c = some m ∧
      m.stop = c.advance.skip (xs.takeWhile s.contains).length := by
  have hTake : c.rest.takeWhile s.contains = x :: xs.takeWhile s.contains := by
    rw [hRest, List.takeWhile_cons_of_pos hSet]
  have hLeast : 1 ≤ (c.rest.takeWhile s.contains).length := by
    rw [hTake, List.length_cons]
    omega
  obtain ⟨u, hPrefers, hCursor⟩ := exists_prefers_times (t := .start c) rfl hLeast
  refine ⟨_, match?_of_prefers hPrefers, hCursor.trans ?_⟩
  exact congrArg (fun taken => c.skip taken.length) hTake

theorem exists_prefers_times_append {least : Nat} {piece after : List Char} (hTrail : t.trail = [])
    (hRest : t.cursor.rest = piece ++ after) (hPiece : ∀ x ∈ piece, s.contains x = true)
    (hAfter : ∀ x ∈ after.head?, s.contains x = false) (hLeast : least ≤ piece.length) :
    ∃ u, (times ⟨least, none, true⟩ (set s)).Prefers path t u ∧
      u.cursor = t.cursor.skip piece.length := by
  have hStop : after.takeWhile s.contains = [] := by
    cases after with
    | nil => rfl
    | cons x after => exact List.takeWhile_cons_of_neg (by simp [hAfter x rfl])
  have hTake : t.cursor.rest.takeWhile s.contains = piece := by
    rw [hRest, List.takeWhile_append_of_pos hPiece, hStop, List.append_nil]
  rw [← hTake] at hLeast ⊢
  exact exists_prefers_times hTrail hLeast

end Pattern

theorem Marks.contains_insert (m : Marks) (a b : Nat) :
    (m.insert a).contains b = (m.contains b || decide (a = b)) := by
  simp [insert, contains, Nat.one_shiftLeft, Nat.testBit_two_pow]

/-- A greedy repetition first goes on behind each end of the body, and then it is left. -/
theorem Walk.go_succ {path : Point} {body : Nat → Thread → List Thread} {bound : Nat} {t : Thread}
    {w : Walk} (hTrail : t.trail = []) (hSeen : w.seen.contains t.cursor.offset = false) :
    Walk.go ⟨0, none, true⟩ true path body (bound + 1) 0 t w =
      ((body 0 ⟨t.cursor, [path.entry 0, path.turn 0], t.captures⟩).foldl
        (fun w u => Walk.go ⟨0, none, true⟩ true path body bound 0 u w)
        { w with seen := w.seen.insert t.cursor.offset }).leave
      ⟨t.cursor, [path.entry 0, path.turn 0], t.captures⟩ := by
  have hPlace : t.cursor.offset * (Repeat.turns ⟨0, none, true⟩ true + 1) + 0 = t.cursor.offset := by
    simp [Repeat.turns]
  have hTurn := Thread.pass?_of_not_mem (t := t) (p := path.turn 0) (by simp [hTrail])
  have hEntry := Thread.pass?_of_not_mem (t := ⟨t.cursor, [path.turn 0], t.captures⟩)
    (p := path.entry 0) (by simp [Point.entry, Point.turn])
  have hCopy : Repeat.copyAt ⟨0, none, true⟩ true 0 = 0 := rfl
  have hNext : Repeat.nextTurn ⟨0, none, true⟩ true 0 = 0 := rfl
  rw [hTrail] at hTurn
  rw [Walk.go]
  simp only [hPlace, hSeen, hTurn, hCopy, hNext, hEntry, Nat.lt_irrefl, Bool.false_eq_true,
    reduceCtorEq, if_true, if_false]
  rfl

namespace Pattern

/-- From each of some places the pattern has just one way to go, which leads to another one of them,
or none at the end of the line. -/
def LeadsOn (p : Pattern) (Place : Cursor → Prop) : Prop :=
  ∀ path t, Place t.cursor → (∀ point ∈ t.trail, ¬ path <:+ point) →
    (t.cursor.rest = [] ∧ p.endsAt false path t = []) ∨
    ∃ u, p.endsAt false path t = [u] ∧ u.trail = [] ∧ Place u.cursor ∧
      t.cursor.offset < u.cursor.offset

variable {p : Pattern} {Place : Cursor → Prop} {t : Thread}

theorem LeadsOn.exists_left_go (h : p.LeadsOn Place) (path : Point) {bound : Nat} {w : Walk}
    (hPlace : Place t.cursor) (hTrail : t.trail = []) (hLeft : w.left = [])
    (hBound : t.cursor.rest.length < bound)
    (hSeen : ∀ n, t.cursor.offset ≤ n → w.seen.contains n = false) :
    ∃ u, (Walk.go ⟨0, none, true⟩ true path (fun copy u => p.endsAt false (path.body copy) u) bound 0
      t w).left.getLast? = some u ∧ u.cursor.rest = [] := by
  -- the walk leads forward only, so what it has visited never stops it
  induction bound generalizing t w with
  | zero => exact absurd hBound (Nat.not_lt_zero _)
  | succ bound ih =>
    have hFree : ∀ point ∈ [path.entry 0, path.turn 0], ¬ path.body 0 <:+ point := by
      intro point hPoint hSuffix
      simp only [List.mem_cons, List.not_mem_nil, or_false] at hPoint
      rcases hPoint with rfl | rfl
      · simpa [Point.body, Point.entry] using hSuffix.eq_of_length rfl
      · simpa [Point.body, Point.turn] using hSuffix.eq_of_length rfl
    rw [Walk.go_succ hTrail (hSeen _ (Nat.le_refl _)), Walk.leave, List.getLast?_cons]
    obtain ⟨hRest, hEnds⟩ | ⟨u, hEnds, hTrail', hPlace', hOffset⟩ :=
      h (path.body 0) ⟨t.cursor, [path.entry 0, path.turn 0], t.captures⟩ hPlace hFree
    · rw [hEnds, List.foldl_nil, hLeft]
      exact ⟨_, rfl, hRest⟩
    · have hMem : u ∈ p.endsAt false (path.body 0)
          ⟨t.cursor, [path.entry 0, path.turn 0], t.captures⟩ := by
        rw [hEnds]
        exact List.mem_cons_self
      have hOffset : t.cursor.offset < u.cursor.offset := hOffset
      have hLess : u.cursor.rest.length < t.cursor.rest.length :=
        (continues_of_mem_endsAt _ _ _ _ _ hMem).reaches.length_lt hOffset
      obtain ⟨v, hLast, hEnd⟩ := ih (w := { w with seen := w.seen.insert t.cursor.offset }) hPlace'
        hTrail' hLeft (by omega) fun n hn => by
          rw [Marks.contains_insert, hSeen n (by omega), Bool.false_or, decide_eq_false_iff_not]
          omega
      rw [hEnds, List.foldl_cons, List.foldl_nil, hLast]
      exact ⟨v, rfl, hEnd⟩

theorem LeadsOn.exists_prefers_times {i : Nat} {q : Pattern} (h : (group i q).LeadsOn Place)
    (hSolid : (group i q).isSolid = true) (path : Point) (hPlace : Place t.cursor)
    (hTrail : t.trail = []) :
    ∃ u, (times ⟨0, none, true⟩ (group i q)).Prefers path t u ∧ u.cursor.rest = [] := by
  have hBound : t.cursor.rest.length <
      Repeat.turns ⟨0, none, true⟩ true + t.cursor.rest.length + 2 := by omega
  obtain ⟨u, hLast, hEnd⟩ := h.exists_left_go path (w := ⟨.none, []⟩) hPlace hTrail rfl hBound
    fun n _ => by simp [Marks.contains, Marks.none]
  refine ⟨u, ?_, hEnd⟩
  rw [Prefers, endsAt, hSolid, head?_distinct, List.head?_reverse]
  · exact hLast
  · intro s hEq
    cases hEq

end Pattern

end Highlight
