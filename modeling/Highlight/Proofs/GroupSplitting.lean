import Mathlib.Data.List.Induction
import Highlight.Proofs.Coverage
import Highlight.Proofs.WellFormed

/-! # Matches split by their groups

A rule with tags for its groups cuts a match into one span for each group that it keeps. The groups
are looked at in the order of their numbers, and one is kept if it took part in the match, is not
empty, and starts no earlier than the last kept one ends. Nothing is assumed of the captures but
that they lie in the match: they may be absent, empty, nested or out of order.
-/

namespace Highlight

open Text

namespace Match

/-- The match ends at its start `c` or further on, and what its groups captured lies inside. -/
structure Within (m : Match) (c : Cursor) : Prop where
  reaches : c.Reaches m.stop
  between : ∀ i x, m.capture? i = some x → x.Between c m.stop

theorem within_of_match? {p : Pattern} {c : Cursor} {m : Match} (h : p.match? c = some m) :
    m.Within c :=
  ⟨Pattern.reaches_of_match? h, fun _ _ hx => Pattern.between_of_capture? h hx⟩

/-- Where the last kept group ends, or the start of the match before any is kept. -/
def keptEnd (start : Nat) (kept : List (Capture × String)) : Nat :=
  match kept.getLast? with
  | some x => x.1.stop
  | none => start

/-- The groups that are kept when those with the given tags have been looked at, each with its tag.
The tags belong to the groups 1, 2, … in order. -/
inductive Keeps (m : Match) (start : Nat) : List String → List (Capture × String) → Prop
  | nil : Keeps m start [] []
  | keep {tags : List String} {kept : List (Capture × String)} {tag : String} {x : Capture}
      (h : Keeps m start tags kept) (hCapture : m.capture? (tags.length + 1) = some x)
      (hSolid : x.start < x.stop) (hBehind : keptEnd start kept ≤ x.start) :
      Keeps m start (tags ++ [tag]) (kept ++ [(x, tag)])
  | skip {tags : List String} {kept : List (Capture × String)} {tag : String}
      (h : Keeps m start tags kept)
      (hSkipped : ∀ x, m.capture? (tags.length + 1) = some x →
        ¬(x.start < x.stop ∧ keptEnd start kept ≤ x.start)) :
      Keeps m start (tags ++ [tag]) kept

theorem keptEnd_cons (start : Nat) (x : Capture × String) (kept : List (Capture × String)) :
    keptEnd start (x :: kept) = keptEnd x.1.stop kept := by
  cases kept with
  | nil => rfl
  | cons y kept => simp [keptEnd, List.getLast?_cons]

theorem keptGroups_append (m : Match) (index start : Nat) (tags more : List String) :
    m.keptGroups index start (tags ++ more) = m.keptGroups index start tags ++
      m.keptGroups (index + tags.length) (keptEnd start (m.keptGroups index start tags)) more := by
  induction tags generalizing index start with
  | nil => rfl
  | cons tag tags ih =>
    have hLength : index + 1 + tags.length = index + (tag :: tags).length := by
      rw [List.length_cons]
      omega
    rw [List.cons_append, keptGroups, keptGroups]
    cases m.capture? index with
    | none =>
      dsimp only
      rw [ih, hLength]
    | some x =>
      dsimp only
      split
      · rw [ih, hLength, keptEnd_cons, List.cons_append]
      · rw [ih, hLength]

section Concat

variable {m : Match} {start : Nat} {tags : List String} {tag : String}

theorem keptGroups_concat_of_keep {x : Capture} (hCapture : m.capture? (tags.length + 1) = some x)
    (hSolid : x.start < x.stop) (hBehind : keptEnd start (m.keptGroups 1 start tags) ≤ x.start) :
    m.keptGroups 1 start (tags ++ [tag]) = m.keptGroups 1 start tags ++ [(x, tag)] := by
  rw [keptGroups_append, Nat.add_comm, keptGroups, hCapture]
  dsimp only
  rw [if_pos ⟨hSolid, hBehind⟩]
  rfl

theorem keptGroups_concat_of_skip (h : ∀ x, m.capture? (tags.length + 1) = some x →
    ¬(x.start < x.stop ∧ keptEnd start (m.keptGroups 1 start tags) ≤ x.start)) :
    m.keptGroups 1 start (tags ++ [tag]) = m.keptGroups 1 start tags := by
  rw [keptGroups_append, Nat.add_comm, keptGroups]
  cases hCapture : m.capture? (tags.length + 1) with
  | none => exact List.append_nil _
  | some x =>
    dsimp only
    rw [if_neg (h x hCapture)]
    exact List.append_nil _

theorem keeps_iff {kept : List (Capture × String)} :
    m.Keeps start tags kept ↔ kept = m.keptGroups 1 start tags := by
  constructor
  · intro h
    induction h with
    | nil => rfl
    | keep _ hCapture hSolid hBehind ih =>
      subst ih
      exact (keptGroups_concat_of_keep hCapture hSolid hBehind).symm
    | skip _ hSkipped ih =>
      subst ih
      exact (keptGroups_concat_of_skip hSkipped).symm
  · rintro rfl
    induction tags using List.reverseRecOn with
    | nil => exact .nil
    | append_singleton tags tag ih =>
      by_cases hKept : ∃ x, m.capture? (tags.length + 1) = some x ∧ x.start < x.stop ∧
          keptEnd start (m.keptGroups 1 start tags) ≤ x.start
      · obtain ⟨x, hCapture, hSolid, hBehind⟩ := hKept
        rw [keptGroups_concat_of_keep hCapture hSolid hBehind]
        exact .keep ih hCapture hSolid hBehind
      · have hSkipped : ∀ x, m.capture? (tags.length + 1) = some x →
            ¬(x.start < x.stop ∧ keptEnd start (m.keptGroups 1 start tags) ≤ x.start) :=
          fun x hCapture h => hKept ⟨x, hCapture, h⟩
        rw [keptGroups_concat_of_skip hSkipped]
        exact .skip ih hSkipped

end Concat

end Match

theorem getElem?_groupSpans {start n : Nat} {kept : List (Capture × String)} {x : Capture}
    {tag : String} (h : kept[n]? = some (x, tag)) :
    (groupSpans start kept)[n]? = some ⟨if n = 0 then start else x.start, tag, none⟩ := by
  cases kept with
  | nil => simp at h
  | cons y kept =>
    cases n with
    | zero =>
      cases h
      rfl
    | succ n =>
      have hLater : kept[n]? = some (x, tag) := by simpa using h
      simp [groupSpans, hLater]

theorem length_groupSpans (start : Nat) (kept : List (Capture × String)) :
    (groupSpans start kept).length = kept.length := by
  cases kept <;> simp [groupSpans]

/-- The spans of a match that starts at `c`, cut at its kept groups. -/
structure Splits (g : Grammar) (tags : List String) (c : Cursor) (m : Match)
    (kept : List (Capture × String)) (spans : List Span) : Prop where
  length_eq : kept ≠ [] → spans.length = kept.length
  span_eq : ∀ (n : Nat) (x : Capture) (tag : String), kept[n]? = some (x, tag) →
    spans[n]? = some ⟨if n = 0 then c.offset else x.start, tag, none⟩
  increasing : spans.Pairwise (·.start < ·.start)
  solid : kept ≠ [] → c.offset < m.stop.offset
  below : c.offset < m.stop.offset → ∀ s ∈ spans, s.start < m.stop.offset
  contains : ∀ (n : Nat) (x : Capture) (tag : String), kept[n]? = some (x, tag) →
    ∃ e, (extents m.stop.offset spans)[n]? = some e ∧ e.1 ≤ x.start ∧ x.stop ≤ e.2
  nested : ∀ x y : Capture, x ∈ kept.map (·.1) → y ≠ x → x.start ≤ y.start → y.stop ≤ x.stop →
    y ∉ kept.map (·.1)
  none_kept : kept = [] → spans = [⟨c.offset, tags.headD g.defaultTag, none⟩]

section Splits

variable {g : Grammar} {tags : List String} {c : Cursor} {m : Match}
  {kept : List (Capture × String)}

theorem splits_nil (g : Grammar) (tags : List String) (c : Cursor) (m : Match) :
    Splits g tags c m [] [⟨c.offset, tags.headD g.defaultTag, none⟩] where
  length_eq h := absurd rfl h
  span_eq _ _ _ h := by simp at h
  increasing := List.pairwise_singleton _ _
  solid h := absurd rfl h
  below hLt s hs := by rwa [List.mem_singleton.mp hs]
  contains _ _ _ h := by simp at h
  nested _ _ h := absurd h List.not_mem_nil
  none_kept _ := rfl

theorem exists_extent_of_kept (hInside : ∀ x ∈ kept, x.1.Between c m.stop)
    (hOrder : kept.Pairwise fun x y => x.1.stop ≤ y.1.start) {n : Nat} {x : Capture} {tag : String}
    (hx : kept[n]? = some (x, tag)) :
    ∃ e, (extents m.stop.offset (groupSpans c.offset kept))[n]? = some e ∧ e.1 ≤ x.start ∧
      x.stop ≤ e.2 := by
  obtain ⟨a, b, hca, -, hbd, hStart, hStop⟩ := hInside _ (List.mem_of_getElem? hx)
  have hca := hca.offset_le
  have hbd := hbd.offset_le
  dsimp only at hStart hStop
  rw [getElem?_extents, getElem?_groupSpans hx]
  refine ⟨_, rfl, ?_, ?_⟩
  · dsimp only
    split <;> omega
  · cases hNext : kept[n + 1]? with
    | none =>
      have hEnd : (groupSpans c.offset kept)[n + 1]? = none := by
        rw [List.getElem?_eq_none_iff] at hNext ⊢
        rwa [length_groupSpans]
      simp only [hEnd, Option.map_none, Option.getD_none]
      omega
    | some next =>
      obtain ⟨y, tag'⟩ := next
      obtain ⟨hx, hxEq⟩ := List.getElem?_eq_some_iff.mp hx
      obtain ⟨hy, hyEq⟩ := List.getElem?_eq_some_iff.mp hNext
      have hLe := List.pairwise_iff_getElem.mp hOrder n (n + 1) hx hy (Nat.lt_succ_self n)
      rw [hxEq, hyEq] at hLe
      rw [getElem?_groupSpans hNext]
      simpa using hLe

theorem not_mem_of_nested (hSolid : ∀ x ∈ kept, x.1.start < x.1.stop)
    (hOrder : kept.Pairwise fun x y => x.1.stop ≤ y.1.start) {x y : Capture}
    (hx : x ∈ kept.map (·.1)) (hNe : y ≠ x) (hStart : x.start ≤ y.start) (hStop : y.stop ≤ x.stop) :
    y ∉ kept.map (·.1) := by
  intro hy
  obtain ⟨a, ha, rfl⟩ := List.mem_map.mp hx
  obtain ⟨b, hb, rfl⟩ := List.mem_map.mp hy
  have haSolid := hSolid a ha
  have hbSolid := hSolid b hb
  obtain ⟨i, hi, rfl⟩ := List.getElem_of_mem ha
  obtain ⟨j, hj, rfl⟩ := List.getElem_of_mem hb
  have hApart := List.pairwise_iff_getElem.mp hOrder
  rcases Nat.lt_trichotomy i j with hLt | rfl | hLt
  · have hLe := hApart i j hi hj hLt
    omega
  · exact hNe rfl
  · have hLe := hApart j i hj hi hLt
    omega

end Splits

theorem Match.Within.splits {m : Match} {c : Cursor} (h : m.Within c) (g : Grammar)
    (tags : List String) :
    Splits g tags c m (m.keptGroups 1 c.offset tags) (g.capturedSpans (.groups tags) c m) := by
  obtain ⟨hMem, hOrder⟩ := m.keptGroups_spec 1 c.offset tags
  generalize hEq : m.keptGroups 1 c.offset tags = kept at hMem hOrder
  rw [Grammar.capturedSpans, hEq]
  cases kept with
  | nil => exact splits_nil g tags c m
  | cons first rest =>
    have hInside : ∀ x ∈ first :: rest, x.1.Between c m.stop := by
      intro x hx
      obtain ⟨⟨i, hCapture⟩, -, -⟩ := hMem x hx
      exact h.between i x.1 hCapture
    have hSolid : ∀ x ∈ first :: rest, x.1.start < x.1.stop := fun x hx => (hMem x hx).2.1
    have hFills : Fills c m.stop (groupSpans c.offset (first :: rest)) :=
      fills_groupSpans h.reaches (List.cons_ne_nil _ _) (fun x hx => ⟨hInside x hx, hSolid x hx⟩)
        hOrder
    exact {
      length_eq := fun _ => length_groupSpans _ _
      span_eq := fun _ _ _ hx => getElem?_groupSpans hx
      increasing := hFills.increasing
      solid := fun _ => (hFills.inside _ List.mem_cons_self).1
      below := fun _ s hs => (hFills.inside s hs).1
      contains := fun _ _ _ hx => exists_extent_of_kept hInside hOrder hx
      nested := fun _ _ hx => not_mem_of_nested hSolid hOrder hx
      none_kept := fun hNil => absurd hNil (List.cons_ne_nil _ _) }

/-- A match of a rule with tags for its groups becomes one span for each kept group, and the cursor
moves behind the match, or by one character if the match is empty. Building flags all such rules, so
that their captures are looked at. -/
theorem Grammar.groups_split (g : Grammar) (tags : List String) (c : Cursor) :
    (∀ m : Match, m.Within c → ∃ kept, (∀ other, m.Keeps c.offset tags other ↔ other = kept) ∧
      Splits g tags c m kept (g.capturedSpans (.groups tags) c m)) ∧
    (∀ (p : Pattern) (m : Match), p.match? c = some m → m.Within c) ∧
    (∀ d depthLimit engine, build d depthLimit engine = .ok g →
      ∀ rule ∈ g.rules, rule.outcome = .groups tags → rule.captures = true) ∧
    ∀ stack id rule m, g.firstMatch? stack.top c = some (id, rule, m) →
      rule.outcome = .groups tags →
      (rule.captures = true → (g.step stack c).spans = g.capturedSpans (.groups tags) c m) ∧
        (c.offset < m.stop.offset → (g.step stack c).cursor = m.stop) ∧
        (m.stop.offset = c.offset → ∀ x rest, c.rest = x :: rest →
          (g.step stack c).cursor = ⟨some x, c.offset + x.utf8Size, rest⟩) := by
  refine ⟨fun m h => ⟨_, fun _ => Match.keeps_iff, h.splits g tags⟩,
    fun _ _ h => Match.within_of_match? h, fun d depthLimit engine h rule hRule hOutcome => ?_,
    fun stack id rule m hFirst hOutcome => ?_⟩
  · rw [captures_of_build h hRule, hOutcome, Outcome.isGroups]
  refine ⟨fun hCaptures => ?_, fun hLt => ?_, fun hEq x rest hRest => ?_⟩
  · simp only [step, hFirst, spansOf, if_pos hCaptures, hOutcome]
  · have hLength : m.stop.offset - c.offset ≠ 0 := by omega
    simp only [step, hFirst, if_neg hLength]
  · have hLength : m.stop.offset - c.offset = 0 := by omega
    simp only [step, hFirst, if_pos hLength, Cursor.advance, Cursor.next?, hRest]

/-- A repetition that leaves the third group where an earlier turn found it, before the second. -/
theorem Grammar.repeated_groups_split :
    let tags := ["b", "a", "c", "d"]
    let c := Cursor.ofLine "acbad"
    let pattern := (Pattern.parse? false "(?:(b)|(a(c)?)|(d))+".toList).getD .empty
    let g : Grammar := {
      name := "letters", rules := [⟨"", pattern, false, true, .groups tags, .stay⟩]
      states := [⟨"root", [0]⟩], index := [("root", 0)], root := 0, defaultTag := "invalid", ignoreCase := false
      brackets := [], depthLimit := 1 }
    ∃ id rule m kept, g.firstMatch? g.initial.top c = some (id, rule, m) ∧
      rule.outcome = .groups tags ∧ m.Within c ∧ m.Keeps c.offset tags kept ∧
      kept = [(⟨1, 2, 3⟩, "b"), (⟨2, 3, 4⟩, "a"), (⟨4, 4, 5⟩, "d")] ∧
      m.capture? 3 = some ⟨3, 1, 2⟩ ∧ Splits g tags c m kept (g.step g.initial c).spans ∧
      (g.step g.initial c).spans = [⟨0, "b", none⟩, ⟨3, "a", none⟩, ⟨4, "d", none⟩] ∧
      (g.step g.initial c).cursor = m.stop := by
  intro tags c pattern g
  have hRun : (g.firstMatch? g.initial.top c).map (fun x => (
      x.2.2.keptGroups 1 c.offset tags, x.2.2.capture? 3, x.2.2.stop.offset)) =
      some ([(⟨1, 2, 3⟩, "b"), (⟨2, 3, 4⟩, "a"), (⟨4, 4, 5⟩, "d")],
        some ⟨3, 1, 2⟩, 5) := by decide +kernel
  obtain ⟨⟨id, rule, m⟩, hFirst, hRun⟩ := Option.map_eq_some_iff.mp hRun
  obtain ⟨hKept, hThird, hStop⟩ := by simpa only [Prod.mk.injEq] using hRun
  obtain ⟨hSplit, hWithin, -, hStep⟩ := groups_split g tags c
  have hRule := List.mem_of_getElem? (getElem?_of_mem_rulesAt (of_firstMatch?_eq_some hFirst).1)
  obtain ⟨hOutcome, hCaptures⟩ : rule.outcome = .groups tags ∧ rule.captures = true := by
    rw [List.mem_singleton.mp hRule]
    exact ⟨rfl, rfl⟩
  have hm := hWithin rule.pattern m (of_firstMatch?_eq_some hFirst).2.2
  obtain ⟨kept, hUnique, hSplits⟩ := hSplit m hm
  obtain ⟨hSpans, hCursor, -⟩ := hStep g.initial id rule m hFirst hOutcome
  have hKeeps := (hUnique kept).mpr rfl
  have hEq := (Match.keeps_iff.mp hKeeps).trans hKept
  refine ⟨id, rule, m, kept, hFirst, hOutcome, hm, hKeeps, hEq, hThird,
    hSpans hCaptures ▸ hSplits, ?_, hCursor (by rw [hStop]; decide)⟩
  decide +kernel

end Highlight
