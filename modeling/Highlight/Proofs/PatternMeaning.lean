import Highlight.Proofs.Matching

/-! # What patterns mean

`Pattern.Matches` says which stretches of a line a pattern describes, without any order of
preference and without trails. Every end that is found is the end of such a stretch, so a pattern
that describes nothing at a place does not match there. Often the next character shows this already.
-/

namespace Highlight

open Text Unicode

inductive Turns (R : Cursor → Cursor → Prop) : Nat → Cursor → Cursor → Prop
  | none (c : Cursor) : Turns R 0 c c
  | more {n : Nat} {c d e : Cursor} (h : Turns R n c d) (hTurn : R d e) : Turns R (n + 1) c e

theorem Turns.exists_first {R : Cursor → Cursor → Prop} {n : Nat} {c e : Cursor}
    (h : Turns R (n + 1) c e) : ∃ d, R c d := by
  generalize hm : n + 1 = m at h
  induction h generalizing n with
  | none => cases hm
  | @more m c d e h hTurn ih =>
    cases h with
    | none => exact ⟨e, hTurn⟩
    | more h hTurn => exact ih rfl

theorem Turns.keep {R : Cursor → Cursor → Prop} {P : Cursor → Prop} {n : Nat} {c d : Cursor}
    (h : Turns R n c d) (hc : P c) (hTurn : ∀ c d, P c → R c d → P d) : P d := by
  induction h with
  | none => exact hc
  | more _ hMore ih => exact hTurn _ _ (ih hc) hMore

structure Repeat.Allows (r : Repeat) (n : Nat) : Prop where
  least_le : r.least ≤ n
  le_most : ∀ m, r.most = some m → r.least ≤ m → n ≤ m

def Pattern.Matches : Pattern → Cursor → Cursor → Prop
  | empty, c, d => c = d
  | set s, c, d => ∃ x, c.next? = some (x, d) ∧ s.contains x = true
  | look l, c, d => c = d ∧ l.holds c = true
  | group _ p, c, d => p.Matches c d
  | times r p, c, d => ∃ n, r.Allows n ∧ Turns p.Matches n c d
  | seq p q, c, d => ∃ e, p.Matches c e ∧ q.Matches e d
  | alt p q, c, d => p.Matches c d ∨ q.Matches c d

namespace Repeat

/-- Turn `k` comes after `n` turns: turns are told apart up to the last one that has to be. -/
structure Counts (r : Repeat) (solid : Bool) (k n : Nat) : Prop where
  le : k ≤ n
  eq_of_most : ∀ m, r.most = some m → k = n
  eq_of_lt : k < r.turns solid → k = n
  le_most : ∀ m, r.most = some m → r.least ≤ m → n ≤ m

variable {r : Repeat} {solid : Bool} {k n : Nat}

theorem Counts.zero (r : Repeat) (solid : Bool) : r.Counts solid 0 0 :=
  ⟨Nat.le_refl 0, fun _ _ => rfl, fun _ => rfl, fun m _ _ => Nat.zero_le m⟩

theorem Counts.next (h : r.Counts solid k n) (hk : k < r.least ∨ r.most ≠ some k) :
    r.Counts solid (r.nextTurn solid k) (n + 1) := by
  cases hMost : r.most with
  | none =>
    have hLe := h.le
    have hEq := h.eq_of_lt
    refine ⟨?_, fun m hm => by simp [hMost] at hm, ?_, fun m hm => by simp [hMost] at hm⟩
    · simp only [nextTurn, hMost]
      omega
    · simp only [nextTurn, hMost]
      omega
  | some m =>
    have hEq := h.eq_of_most m hMost
    have hLe := h.le_most m hMost
    refine ⟨?_, ?_, ?_, ?_⟩
    · simp only [nextTurn, hMost]
      omega
    · simp only [nextTurn, hMost]
      omega
    · simp only [nextTurn, hMost]
      omega
    · intro m' hm' hLeast
      rw [hMost, Option.some.injEq] at hm'
      rw [hMost, ne_eq, Option.some.injEq] at hk
      have hLe := hLe (by omega)
      omega

theorem Counts.allows (h : r.Counts solid k n) (hk : r.least ≤ k) : r.Allows n :=
  ⟨Nat.le_trans hk h.le, h.le_most⟩

theorem keeps_turns {body : Nat → Thread → List Thread} {R : Cursor → Cursor → Prop}
    (hBody : ∀ copy t, ∀ u ∈ body copy t, R t.cursor u.cursor) (r : Repeat) (c : Cursor) :
    r.Keeps solid body (fun k u => ∃ n, r.Counts solid k n ∧ Turns R n c u.cursor)
      (fun u => ∃ n, r.Allows n ∧ Turns R n c u.cursor) where
  trail h _ := h
  leave := by
    rintro k t ⟨n, hCounts, hTurns⟩ hk
    exact ⟨n, hCounts.allows hk, hTurns⟩
  enter := by
    rintro k t ⟨n, hCounts, hTurns⟩ hk u hu
    exact ⟨n + 1, hCounts.next hk, hTurns.more (hBody _ _ u hu)⟩

end Repeat

theorem Thread.next?_of_consume? {t u : Thread} {s : CharSet} (h : t.consume? s = some u) :
    ∃ x, t.cursor.next? = some (x, u.cursor) ∧ s.contains x = true := by
  unfold consume? at h
  split at h
  · rename_i x c hNext
    split at h
    · rename_i hSet
      cases h
      exact ⟨x, hNext, hSet⟩
    · cases h
  · cases h

namespace Pattern

theorem composes_matches : Composes fun p t u => p.Matches t.cursor u.cursor where
  trail h := h
  empty _ := rfl
  set := Thread.next?_of_consume?
  look h := ⟨rfl, h⟩
  group _ h := h
  seq h h' := ⟨_, h, h'⟩
  left := .inl
  right := .inr
  times r _ solid _ t hBody := ⟨_, r.keeps_turns hBody t.cursor, ⟨0, .zero r solid, .none _⟩⟩

theorem matches_of_mem_endsAt (p : Pattern) (rest : Bool) (path : Point) (t : Thread) :
    ∀ u ∈ p.endsAt rest path t, p.Matches t.cursor u.cursor :=
  composes_matches.of_mem_endsAt p rest path t

theorem matches_of_match? {p : Pattern} {c : Cursor} {m : Match} (h : p.match? c = some m) :
    p.Matches c m.stop := by
  obtain ⟨t, hHead, rfl⟩ := Option.map_eq_some_iff.mp h
  exact p.matches_of_mem_endsAt false [] (.start c) t (List.mem_of_mem_head? hHead)

theorem rest_of_matches_set {s : CharSet} {c d : Cursor} (h : (set s).Matches c d) :
    ∃ x, c.rest = x :: d.rest ∧ s.contains x = true := by
  obtain ⟨x, hNext, hSet⟩ := h
  exact ⟨x, (Cursor.next?_eq_some_iff.mp hNext).1, hSet⟩

/-- Can a match begin with this character, as far as the front of the pattern tells? -/
def mayStart : Pattern → Char → Bool
  | empty, _ => true
  | set s, x => s.contains x
  | look _, _ => true
  | group _ p, x => p.mayStart x
  | times r p, x => r.least == 0 || p.mayStart x
  | seq p _, x => p.mayStart x
  | alt p q, x => p.mayStart x || q.mayStart x

theorem mayStart_of_matches {p : Pattern} {c d : Cursor} {x : Char} {xs : List Char}
    (hRest : c.rest = x :: xs) (h : p.Matches c d) : p.mayStart x = true := by
  induction p generalizing d with
  | empty => rfl
  | look l => rfl
  | set s =>
    obtain ⟨y, hCons, hSet⟩ := rest_of_matches_set h
    rw [hRest, List.cons.injEq] at hCons
    rw [mayStart, hCons.1, hSet]
  | group i p ih => exact ih h
  | times r p ih =>
    obtain ⟨n, hAllows, hTurns⟩ := h
    rw [mayStart, Bool.or_eq_true, beq_iff_eq]
    cases n with
    | zero => exact .inl (Nat.le_zero.mp hAllows.least_le)
    | succ n =>
      obtain ⟨e, hFirst⟩ := hTurns.exists_first
      exact .inr (ih hFirst)
  | seq p q ihp ihq =>
    obtain ⟨e, hp, _⟩ := h
    exact ihp hp
  | alt p q ihp ihq =>
    rw [mayStart, Bool.or_eq_true]
    exact h.imp ihp ihq

theorem match?_eq_none_of_mayStart {p : Pattern} {c : Cursor} {x : Char} {xs : List Char}
    (hRest : c.rest = x :: xs) (h : p.mayStart x = false) : p.match? c = none := by
  rw [Option.eq_none_iff_forall_ne_some]
  intro m hm
  have hStart := mayStart_of_matches hRest (matches_of_match? hm)
  rw [h] at hStart
  cases hStart

end Pattern

end Highlight
