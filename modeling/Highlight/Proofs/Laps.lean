import Mathlib.Data.List.Iterate
import Mathlib.Dynamics.PeriodicPts.Defs

/-! # Walks that go round

A walk on which equal places have equal successors follows a function. Once it has come back to some
place it goes round and round, so that from the first visit of its last place on it consists of
whole laps.
-/

namespace Highlight

variable {α : Type} {f : α → α} {a : α}

/-- Where the walk comes back to a place, it goes on as before. -/
def Steady (xs : List α) : Prop :=
  (xs.zip xs.tail).Pairwise fun p q => p.1 = q.1 → p.2 = q.2

/-- One or more laps round a lap without repetitions, and back to its start. -/
def RunsLaps (xs : List α) : Prop :=
  ∃ lap count a, lap.Nodup ∧ 0 < count ∧ lap.head? = some a ∧
    xs = (List.replicate count lap).flatten ++ [a]

theorem RunsLaps.ends_eq {xs : List α} (h : RunsLaps xs) :
    2 ≤ xs.length ∧ xs.head? = xs.getLast? := by
  obtain ⟨lap, count, a, -, hCount, hHead, rfl⟩ := h
  obtain ⟨rest, rfl⟩ := List.head?_eq_some_iff.mp hHead
  obtain ⟨count, rfl⟩ := Nat.exists_eq_add_of_lt hCount
  rw [Nat.zero_add, List.replicate_succ, List.flatten_cons, List.getLast?_concat]
  refine ⟨?_, rfl⟩
  simp only [List.length_append, List.length_cons, List.length_nil]
  omega

theorem RunsLaps.map {β : Type} {g : α → β} {xs : List α} (h : RunsLaps xs)
    (hg : ∀ a ∈ xs, ∀ b ∈ xs, g a = g b → a = b) : RunsLaps (xs.map g) := by
  obtain ⟨lap, count, a, hNodup, hCount, hHead, rfl⟩ := h
  have hMem : ∀ b ∈ lap, b ∈ (List.replicate count lap).flatten ++ [a] := fun b hb =>
    List.mem_append_left _ (List.mem_flatten.mpr
      ⟨lap, List.mem_replicate.mpr ⟨Nat.ne_of_gt hCount, rfl⟩, hb⟩)
  refine ⟨lap.map g, count, g a, ?_, hCount, by rw [List.head?_map, hHead]; rfl, ?_⟩
  · exact hNodup.map_on fun x hx y hy => hg x (hMem x hx) y (hMem y hy)
  · rw [List.map_append, List.map_flatten, List.map_replicate]
    rfl

theorem eq_iterate {rest : List α} (h : ∀ p ∈ (a :: rest).zip rest, f p.1 = p.2) :
    a :: rest = List.iterate f a (rest.length + 1) := by
  induction rest generalizing a with
  | nil => rfl
  | cons b rest ih =>
    rw [List.zip_cons_cons, List.forall_mem_cons] at h
    obtain ⟨hNext, hRest⟩ := h
    rw [List.length_cons, List.iterate, show f a = b from hNext, ← ih hRest]

theorem lookup_eq_some [DecidableEq α] {ps : List (α × α)} {b : α}
    (h : ps.Pairwise fun p q => p.1 = q.1 → p.2 = q.2) (hMem : (a, b) ∈ ps) :
    ps.lookup a = some b := by
  induction ps with
  | nil => exact absurd hMem List.not_mem_nil
  | cons p ps ih =>
    obtain ⟨hFirst, hPairs⟩ := List.pairwise_cons.mp h
    rw [List.lookup_cons]
    rcases List.mem_cons.mp hMem with rfl | hMem
    · rw [beq_self_eq_true]
    · split
      · rename_i hEq
        rw [hFirst (a, b) hMem (beq_iff_eq.mp hEq).symm]
      · exact ih hPairs hMem

theorem Steady.exists_iterate [DecidableEq α] {rest : List α} (h : Steady (a :: rest)) :
    ∃ f, a :: rest = List.iterate f a (rest.length + 1) := by
  refine ⟨fun x => (((a :: rest).zip rest).lookup x).getD x, eq_iterate fun p hp => ?_⟩
  have hLookup : ((a :: rest).zip rest).lookup p.1 = some p.2 := lookup_eq_some h hp
  rw [hLookup]
  rfl

theorem iterate_laps (f : α → α) (a : α) (count : Nat) :
    List.iterate f a (count * f.minimalPeriod a + 1) =
      (List.replicate count (List.iterate f a (f.minimalPeriod a))).flatten ++ [a] := by
  induction count with
  | zero => rw [Nat.zero_mul]; rfl
  | succ count ih =>
    rw [Nat.succ_mul, Nat.add_comm (count * _), Nat.add_assoc, List.iterate_add,
      Function.iterate_minimalPeriod, ih, List.replicate_succ, List.flatten_cons, List.append_assoc]

theorem nodup_iterate_minimalPeriod (f : α → α) (a : α) :
    (List.iterate f a (f.minimalPeriod a)).Nodup := by
  rw [← List.range_map_iterate, ← Cycle.nodup_coe_iff]
  exact Function.nodup_periodicOrbit

theorem runsLaps_iterate {n : Nat} (hn : 0 < n) (h : f^[n] a = a) :
    RunsLaps (List.iterate f a (n + 1)) := by
  have hPeriod : 0 < f.minimalPeriod a := Function.minimalPeriod_pos_of_mem_periodicPts ⟨n, hn, h⟩
  obtain ⟨count, rfl⟩ := Function.IsPeriodicPt.minimalPeriod_dvd h
  rw [Nat.mul_comm] at hn ⊢
  refine ⟨_, count, a, nodup_iterate_minimalPeriod f a, Nat.pos_of_mul_pos_right hn, ?_,
    iterate_laps f a count⟩
  obtain ⟨period, hEq⟩ := Nat.exists_eq_add_of_lt hPeriod
  rw [hEq]
  rfl

theorem iterate_succ_eq (f : α → α) (a : α) (n : Nat) :
    List.iterate f a (n + 1) = List.iterate f a n ++ [f^[n] a] :=
  List.iterate_add f a n 1

theorem runsLaps_drop_iterate [DecidableEq α] {n : Nat} (hTwice : ¬ (List.iterate f a n).Nodup) :
    RunsLaps ((List.iterate f a (n + 1)).drop ((List.iterate f a (n + 1)).idxOf (f^[n] a))) := by
  -- the last place has been visited before, as many steps earlier as the two visits are apart
  have hMem : f^[n] a ∈ List.iterate f a n := by
    rw [List.nodup_iff_getElem?_ne_getElem?] at hTwice
    push Not at hTwice
    obtain ⟨i, j, hij, hj, hSame⟩ := hTwice
    rw [List.length_iterate] at hj
    rw [List.getElem?_iterate _ _ _ _ (hij.trans hj), List.getElem?_iterate _ _ _ _ hj,
      Option.some.injEq] at hSame
    refine List.mem_iterate.mpr ⟨n - j + i, by omega, ?_⟩
    rw [Function.iterate_add_apply, hSame, ← Function.iterate_add_apply, Nat.sub_add_cancel hj.le]
  have hFirst : (List.iterate f a (n + 1)).idxOf (f^[n] a) = (List.iterate f a n).idxOf (f^[n] a) := by
    rw [iterate_succ_eq, List.idxOf_append_of_mem hMem]
  rw [hFirst]
  generalize hq : (List.iterate f a n).idxOf (f^[n] a) = q
  have hLt : q < (List.iterate f a n).length := hq ▸ List.idxOf_lt_length_of_mem hMem
  have hVisit : f^[q] a = f^[n] a := by
    have hGet := List.getElem_idxOf (List.idxOf_lt_length_of_mem hMem)
    simpa [hq] using hGet
  rw [List.length_iterate] at hLt
  obtain ⟨m, rfl⟩ := Nat.exists_eq_add_of_lt hLt
  have hBack : f^[m + 1] (f^[q] a) = f^[q] a := by
    rw [← Function.iterate_add_apply, hVisit]
    congr 1
    omega
  rw [show q + m + 1 + 1 = q + (m + 1 + 1) by omega, List.iterate_add,
    List.drop_left' (List.length_iterate f a q)]
  exact runsLaps_iterate (Nat.succ_pos m) hBack

/-- A walk that visits some place twice before it ends runs laps from the first visit of its last
place on. -/
theorem Steady.runsLaps [DecidableEq α] {xs : List α} {last : α} (h : Steady xs)
    (hLast : xs.getLast? = some last) (hTwice : ¬ xs.dropLast.Nodup) :
    RunsLaps (xs.drop (xs.idxOf last)) := by
  cases xs with
  | nil => cases hLast
  | cons a rest =>
    obtain ⟨f, hWalk⟩ := h.exists_iterate
    rw [hWalk, iterate_succ_eq, List.getLast?_concat, Option.some.injEq] at hLast
    rw [hWalk, iterate_succ_eq, List.dropLast_concat] at hTwice
    rw [hWalk, ← hLast]
    exact runsLaps_drop_iterate hTwice

end Highlight
