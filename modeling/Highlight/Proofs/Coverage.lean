import Mathlib.Data.List.Perm.Subperm
import Highlight.Tokens
import Highlight.Proofs.Steps

/-! # Spans cover the line

The spans of a step fill the stretch that the step passes, so the spans of a run fill the line: they
start at its start, go on without a gap, and none of them is empty.
-/

namespace Highlight

open Text

/-- The spans fill the stretch from `c` to `d`: the first one starts at `c`, their starts go up, and
each start is a place of the line before `d`. -/
structure Fills (c d : Cursor) (spans : List Span) : Prop where
  reaches : c.Reaches d
  first : spans.head?.map (·.start) = some c.offset
  increasing : spans.Pairwise (·.start < ·.start)
  inside : ∀ s ∈ spans, s.start < d.offset ∧ ∃ e, c.Reaches e ∧ e.offset = s.start

namespace Fills

variable {c d e : Cursor} {xs ys : List Span}

theorem singleton (h : c.Reaches d) (hLt : c.offset < d.offset) (tag : String)
    (polarity : Option Polarity) : Fills c d [⟨c.offset, tag, polarity⟩] where
  reaches := h
  first := rfl
  increasing := List.pairwise_singleton _ _
  inside s hs := by
    rw [List.mem_singleton.mp hs]
    exact ⟨hLt, c, .refl c, rfl⟩

theorem offset_le_start (h : Fills c d xs) : ∀ s ∈ xs, c.offset ≤ s.start := by
  intro s hs
  obtain ⟨_, e, hReaches, hStart⟩ := h.inside s hs
  exact hStart ▸ hReaches.offset_le

theorem append (hx : Fills c d xs) (hy : Fills d e ys) : Fills c e (xs ++ ys) where
  reaches := hx.reaches.trans hy.reaches
  first := by
    obtain ⟨s, hs, hStart⟩ := Option.map_eq_some_iff.mp hx.first
    simp [hs, hStart]
  increasing := by
    refine List.pairwise_append.mpr ⟨hx.increasing, hy.increasing, fun a ha b hb => ?_⟩
    exact Nat.lt_of_lt_of_le (hx.inside a ha).1 (hy.offset_le_start b hb)
  inside s hs := by
    rcases List.mem_append.mp hs with hs | hs
    · obtain ⟨hLt, hPlace⟩ := hx.inside s hs
      exact ⟨Nat.lt_of_lt_of_le hLt hy.reaches.offset_le, hPlace⟩
    · obtain ⟨hLt, f, hReaches, hStart⟩ := hy.inside s hs
      exact ⟨hLt, f, hx.reaches.trans hReaches, hStart⟩

end Fills

theorem Match.keptGroups_spec (m : Match) (index covered : Nat) (tags : List String) :
    (∀ x ∈ m.keptGroups index covered tags,
      (∃ i, m.capture? i = some x.1) ∧ x.1.start < x.1.stop ∧ covered ≤ x.1.start) ∧
    (m.keptGroups index covered tags).Pairwise fun x y => x.1.stop ≤ y.1.start := by
  induction tags generalizing index covered with
  | nil => exact ⟨fun _ hx => absurd hx List.not_mem_nil, .nil⟩
  | cons tag tags ih =>
    rw [keptGroups]
    split
    · exact ih (index + 1) covered
    · rename_i x hCapture
      split
      · rename_i hKept
        obtain ⟨hMem, hPairwise⟩ := ih (index + 1) x.stop
        refine ⟨fun y hy => ?_, List.pairwise_cons.mpr ⟨fun y hy => (hMem y hy).2.2, hPairwise⟩⟩
        rcases List.mem_cons.mp hy with rfl | hy
        · exact ⟨⟨index, hCapture⟩, hKept⟩
        · obtain ⟨hCaptured, hSolid, hLe⟩ := hMem y hy
          exact ⟨hCaptured, hSolid, by omega⟩
      · exact ih (index + 1) covered

theorem fills_groupSpans {c d : Cursor} {kept : List (Capture × String)} (h : c.Reaches d)
    (hKept : kept ≠ [])
    (hInside : ∀ x ∈ kept, x.1.Between c d ∧ x.1.start < x.1.stop)
    (hOrder : kept.Pairwise fun x y => x.1.stop ≤ y.1.start) :
    Fills c d (groupSpans c.offset kept) := by
  obtain ⟨⟨x, tag⟩, kept, rfl⟩ := List.exists_cons_of_ne_nil hKept
  obtain ⟨hFirst, hOrder⟩ := List.pairwise_cons.mp hOrder
  have hBounds : ∀ y ∈ (x, tag) :: kept, c.offset ≤ y.1.start ∧ y.1.start < d.offset := by
    intro y hy
    obtain ⟨⟨a, b, hca, hab, hbd, hStart, hStop⟩, hLt⟩ := hInside y hy
    have hca := hca.offset_le
    have hbd := hbd.offset_le
    omega
  have hx := hBounds (x, tag) List.mem_cons_self
  refine ⟨h, rfl, List.pairwise_cons.mpr ⟨fun s hs => ?_, ?_⟩, fun s hs => ?_⟩
  · obtain ⟨y, hy, rfl⟩ := List.mem_map.mp hs
    have hLe := hFirst y hy
    have hSolid := (hInside (x, tag) List.mem_cons_self).2
    dsimp only at hLe hSolid hx ⊢
    omega
  · rw [List.pairwise_map]
    refine hOrder.imp_of_mem fun {y z} hy _ hLe => ?_
    have hSolid := (hInside y (List.mem_cons_of_mem _ hy)).2
    dsimp only
    omega
  · rcases List.mem_cons.mp hs with rfl | hs
    · exact ⟨by dsimp only at hx ⊢; omega, c, .refl c, rfl⟩
    · obtain ⟨y, hy, rfl⟩ := List.mem_map.mp hs
      obtain ⟨⟨a, b, hca, _, _, hStart, _⟩, _⟩ := hInside y (List.mem_cons_of_mem _ hy)
      exact ⟨(hBounds y (List.mem_cons_of_mem _ hy)).2, a, hca, hStart.symm⟩

theorem Grammar.fills_capturedSpans (g : Grammar) (outcome : Outcome) {p : Pattern} {c : Cursor}
    {m : Match} (hMatch : p.match? c = some m) (hRest : c.rest ≠ []) :
    Fills c (if m.stop.offset - c.offset = 0 then c.advance else m.stop)
      (g.capturedSpans outcome c m) := by
  have hStop := Pattern.reaches_of_match? hMatch
  have hSingle := Fills.singleton (reaches_behind hStop) (offset_lt_behind hRest)
  cases outcome with
  | groups tags =>
    rw [capturedSpans]
    cases hSpans : groupSpans c.offset (m.keptGroups 1 c.offset tags) with
    | nil => exact hSingle _ _
    | cons s spans =>
      obtain ⟨hMem, hOrder⟩ := m.keptGroups_spec 1 c.offset tags
      have hKept : m.keptGroups 1 c.offset tags ≠ [] := by
        intro hNil
        rw [hNil] at hSpans
        cases hSpans
      have hFills := fills_groupSpans hStop hKept (fun x hx => by
        obtain ⟨⟨i, hCapture⟩, hSolid, _⟩ := hMem x hx
        exact ⟨Pattern.between_of_capture? hMatch hCapture, hSolid⟩) hOrder
      rw [hSpans] at hFills
      -- A kept group is not empty, so the match is not empty either.
      have hLt := (hFills.inside s List.mem_cons_self).1
      have hLe := hFills.offset_le_start s List.mem_cons_self
      rw [if_neg (by omega)]
      exact hFills
  | emit | cases | bracket => exact hSingle _ _

theorem Grammar.fills_spansOf (g : Grammar) (rule : Rule) {p : Pattern} {c : Cursor} {m : Match}
    (hMatch : p.match? c = some m) (hRest : c.rest ≠ []) :
    Fills c (if m.stop.offset - c.offset = 0 then c.advance else m.stop) (g.spansOf rule c m) := by
  by_cases hCaptures : rule.captures = true
  · rw [spansOf, if_pos hCaptures]
    exact g.fills_capturedSpans rule.outcome hMatch hRest
  · rw [spansOf, if_neg hCaptures]
    exact .singleton (reaches_behind (Pattern.reaches_of_match? hMatch)) (offset_lt_behind hRest)
      _ _

theorem Grammar.fills_step (g : Grammar) (stack : StateStack) {c : Cursor} (hRest : c.rest ≠ []) :
    Fills c (g.step stack c).cursor (g.step stack c).spans := by
  obtain ⟨_, rule, m, _, _, hMatch, hStep⟩ | ⟨_, hStep⟩ := g.step_cases stack c <;> rw [hStep]
  · exact g.fills_spansOf rule hMatch hRest
  · exact .singleton (.advance c) (Cursor.offset_lt_advance hRest) _ _

/-- The steps from a place on come to the end of the line, and their spans fill the stretch. -/
theorem Grammar.fills_stepsFrom (g : Grammar) (stack : StateStack) {bound : Nat} {c : Cursor}
    (hRest : c.rest ≠ []) (hBound : c.rest.length ≤ bound) :
    ∃ d : Cursor, d.rest = [] ∧ Fills c d ((g.stepsFrom bound stack c).flatMap (·.spans)) := by
  induction bound generalizing stack c with
  | zero => exact absurd (List.length_eq_zero_iff.mp (Nat.le_zero.mp hBound)) hRest
  | succ bound ih =>
    rw [stepsFrom_succ bound hRest, List.flatMap_cons]
    have hFirst := g.fills_step stack hRest
    by_cases hEnd : (g.step stack c).cursor.rest = []
    · rw [stepsFrom_of_rest_eq_nil _ hEnd, List.flatMap_nil, List.append_nil]
      exact ⟨_, hEnd, hFirst⟩
    · have hLength := g.length_step_lt stack hRest
      obtain ⟨d, hd, hFills⟩ := ih (g.step stack c).stack hEnd (by omega)
      exact ⟨d, hd, hFirst.append hFills⟩

theorem Grammar.tokenizeLine_empty (g : Grammar) (stack : StateStack) :
    (g.tokenizeLine stack "").spans = [⟨0, "", none⟩] := rfl

theorem Grammar.fills_tokenizeLine (g : Grammar) (stack : StateStack) {line : String}
    (hLine : line ≠ "") :
    ∃ d : Cursor, d.rest = [] ∧ Fills (.ofLine line) d (g.tokenizeLine stack line).spans := by
  have hRest : (Cursor.ofLine line).rest ≠ [] := fun hNil =>
    hLine (String.toList_eq_nil_iff.mp hNil)
  obtain ⟨d, hd, hFills⟩ := g.fills_stepsFrom (g.enter stack) hRest (Nat.le_refl _)
  have hSteps : (g.steps stack line).isEmpty = false := by
    rw [List.isEmpty_eq_false_iff]
    intro hNil
    have hFirst := hFills.first
    rw [show g.stepsFrom _ (g.enter stack) (.ofLine line) = [] from hNil] at hFirst
    cases hFirst
  refine ⟨d, hd, ?_⟩
  rw [tokenizeLine, TokenizedLine.ofSteps, hSteps]
  exact hFills

/-- Where spans start and stop: each one reaches to the next, and the last one to `stop`. -/
def extents (stop : Nat) : List Span → List (Nat × Nat)
  | [] => []
  | [s] => [(s.start, stop)]
  | s :: t :: spans => (s.start, t.start) :: extents stop (t :: spans)

section Extents

variable {stop : Nat} {spans : List Span}

theorem getElem?_extents (n : Nat) :
    (extents stop spans)[n]? =
      spans[n]?.map fun s => (s.start, (spans[n + 1]?.map (·.start)).getD stop) := by
  induction spans using extents.induct generalizing n with
  | case1 => simp [extents]
  | case2 s => cases n <;> simp [extents]
  | case3 s t spans ih =>
    cases n with
    | zero => simp [extents]
    | succ n => simpa [extents] using ih n

theorem exists_of_mem_extents {e : Nat × Nat} (h : e ∈ extents stop spans) :
    ∃ s ∈ spans, s.start = e.1 := by
  induction spans using extents.induct with
  | case1 => exact absurd h List.not_mem_nil
  | case2 s => exact ⟨s, List.mem_cons_self, by rw [List.mem_singleton.mp h]⟩
  | case3 s t spans ih =>
    rcases List.mem_cons.mp h with rfl | h
    · exact ⟨s, List.mem_cons_self, rfl⟩
    · obtain ⟨u, hu, hStart⟩ := ih h
      exact ⟨u, List.mem_cons_of_mem s hu, hStart⟩

theorem lt_of_mem_extents (hIncreasing : spans.Pairwise (·.start < ·.start))
    (hBelow : ∀ s ∈ spans, s.start < stop) :
    ∀ e ∈ extents stop spans, e.1 < e.2 ∧ e.2 ≤ stop := by
  induction spans using extents.induct with
  | case1 => exact fun _ h => absurd h List.not_mem_nil
  | case2 s =>
    intro e he
    rw [List.mem_singleton.mp he]
    exact ⟨hBelow s List.mem_cons_self, Nat.le_refl stop⟩
  | case3 s t spans ih =>
    obtain ⟨hFirst, hIncreasing⟩ := List.pairwise_cons.mp hIncreasing
    intro e he
    rcases List.mem_cons.mp he with rfl | he
    · exact ⟨hFirst t List.mem_cons_self, Nat.le_of_lt (hBelow t (by simp))⟩
    · exact ih hIncreasing (fun u hu => hBelow u (List.mem_cons_of_mem s hu)) e he

theorem existsUnique_extent (hIncreasing : spans.Pairwise (·.start < ·.start)) {first n : Nat}
    (hFirst : spans.head?.map (·.start) = some first) (hLe : first ≤ n) (hLt : n < stop) :
    ∃! e, e ∈ extents stop spans ∧ e.1 ≤ n ∧ n < e.2 := by
  induction spans using extents.induct generalizing first with
  | case1 => cases hFirst
  | case2 s =>
    have hStart : s.start = first := by simpa using hFirst
    refine ⟨(s.start, stop), ⟨List.mem_cons_self, by dsimp only; omega, hLt⟩, ?_⟩
    rintro e ⟨he, _⟩
    exact List.mem_singleton.mp he
  | case3 s t spans ih =>
    have hStart : s.start = first := by simpa using hFirst
    obtain ⟨hAbove, hIncreasing⟩ := List.pairwise_cons.mp hIncreasing
    -- The later extents start no earlier than `t`.
    have hLater : ∀ e ∈ extents stop (t :: spans), t.start ≤ e.1 := by
      intro e he
      obtain ⟨u, hu, hStart⟩ := exists_of_mem_extents he
      rcases List.mem_cons.mp hu with rfl | hu
      · exact Nat.le_of_eq hStart
      · exact hStart ▸ Nat.le_of_lt ((List.pairwise_cons.mp hIncreasing).1 u hu)
    rw [extents]
    by_cases hn : n < t.start
    · refine ⟨(s.start, t.start), ⟨List.mem_cons_self, by dsimp only; omega, hn⟩, ?_⟩
      rintro e ⟨he, hBounds⟩
      rcases List.mem_cons.mp he with rfl | he
      · rfl
      · have hLe := hLater e he
        omega
    · obtain ⟨e, ⟨he, hBounds⟩, hUnique⟩ := ih hIncreasing rfl (Nat.not_lt.mp hn)
      refine ⟨e, ⟨List.mem_cons_of_mem _ he, hBounds⟩, ?_⟩
      rintro f ⟨hf, hBounds⟩
      rcases List.mem_cons.mp hf with rfl | hf
      · exact absurd hBounds.2 hn
      · exact hUnique f ⟨hf, hBounds⟩

end Extents

theorem Fills.length_le {line : String} {d : Cursor} {spans : List Span}
    (h : Fills (.ofLine line) d spans) : spans.length ≤ line.length := by
  have hNodup : (spans.map (·.start)).Nodup :=
    List.pairwise_map.mpr (h.increasing.imp Nat.ne_of_lt)
  have hSubset : spans.map (·.start) ⊆ Cursor.charStarts 0 line.toList := by
    intro n hn
    obtain ⟨s, hs, rfl⟩ := List.mem_map.mp hn
    obtain ⟨hLt, e, hReaches, hStart⟩ := h.inside s hs
    rw [← hStart] at hLt ⊢
    exact hReaches.mem_charStarts (hReaches.rest_ne_nil h.reaches hLt)
  have hLength := (hNodup.subperm hSubset).length_le
  simpa [String.length_toList] using hLength

/-- The spans cover the line: they start at its start, each at a character of its own, and their
extents are not empty and hold every byte of the line once. An empty line has one span. -/
structure Covers (line : String) (spans : List Span) : Prop where
  first : spans.head?.map (·.start) = some 0
  increasing : spans.Pairwise (·.start < ·.start)
  boundary : ∀ s ∈ spans, String.Pos.Raw.IsValid line ⟨s.start⟩
  below : line ≠ "" → ∀ s ∈ spans, s.start < line.utf8ByteSize
  solid : line ≠ "" → ∀ e ∈ extents line.utf8ByteSize spans, e.1 < e.2 ∧ e.2 ≤ line.utf8ByteSize
  once : ∀ n < line.utf8ByteSize, ∃! e, e ∈ extents line.utf8ByteSize spans ∧ e.1 ≤ n ∧ n < e.2
  length_le : line ≠ "" → spans.length ≤ line.length
  empty : line = "" → spans = [⟨0, "", none⟩]

theorem Grammar.covers_tokenizeLine (g : Grammar) (stack : StateStack) (line : String) :
    Covers line (g.tokenizeLine stack line).spans := by
  by_cases hLine : line = ""
  · subst hLine
    rw [tokenizeLine_empty]
    constructor <;> simp
  · obtain ⟨d, hd, hFills⟩ := g.fills_tokenizeLine stack hLine
    have hSize : d.offset = line.utf8ByteSize := by
      have hSum := Cursor.offset_add_size_eq hFills.reaches
      simpa [hd] using hSum
    have hBelow : ∀ s ∈ (g.tokenizeLine stack line).spans, s.start < line.utf8ByteSize :=
      fun s hs => hSize ▸ (hFills.inside s hs).1
    exact {
      first := hFills.first
      increasing := hFills.increasing
      boundary := fun s hs => by
        obtain ⟨_, e, hReaches, hStart⟩ := hFills.inside s hs
        exact hStart ▸ Cursor.isValid_offset hReaches
      below := fun _ => hBelow
      solid := fun _ => lt_of_mem_extents hFills.increasing hBelow
      once := fun n hn => existsUnique_extent hFills.increasing hFills.first (Nat.zero_le n) hn
      length_le := fun _ => hFills.length_le
      empty := fun h => absurd h hLine }

end Highlight
