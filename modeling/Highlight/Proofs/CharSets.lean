import Highlight.Proofs.CaseMaps

/-! # Unions of sets and closure under case

The union of two sets merges their ranges by where they start and joins those that touch. With its
ranges in order a union has the members of both sets, and the closure of a set under case has all
characters that some member has the folding of.
-/

namespace Highlight.Unicode

namespace CharSet

def Has (rs : List (Nat × Nat)) (n : Nat) : Prop := ∃ r ∈ rs, r.1 ≤ n ∧ n ≤ r.2

def Ordered (rs : List (Nat × Nat)) : Prop := rs.Pairwise (·.1 ≤ ·.1)

variable {s t : CharSet} {r : Nat × Nat} {rs ss : List (Nat × Nat)} {n bound : Nat}

theorem hasCode_iff : s.hasCode n = true ↔ Has s.ranges n := by
  simp [hasCode, Has]

theorem has_cons : Has (r :: rs) n ↔ (r.1 ≤ n ∧ n ≤ r.2) ∨ Has rs n := by
  simp [Has]

theorem exists_start_of_mem_pushRange {x : Nat × Nat} (h : x ∈ pushRange r rs) :
    ∃ y ∈ r :: rs, y.1 = x.1 := by
  induction rs generalizing r with
  | nil => exact ⟨x, h, rfl⟩
  | cons s rs ih =>
    rw [pushRange] at h
    split at h
    · obtain ⟨y, hy, hStart⟩ := ih h
      rcases List.mem_cons.mp hy with rfl | hy
      · exact ⟨r, List.mem_cons_self, hStart⟩
      · exact ⟨y, List.mem_cons_of_mem _ (List.mem_cons_of_mem _ hy), hStart⟩
    · exact ⟨x, h, rfl⟩

/-- Joining with the next range changes no member, since no code point lies between the two. -/
theorem pushRange_spec (h : Ordered (r :: rs)) :
    Ordered (pushRange r rs) ∧ ∀ n, Has (pushRange r rs) n ↔ Has (r :: rs) n := by
  induction rs generalizing r with
  | nil => exact ⟨h, fun _ => .rfl⟩
  | cons s rs ih =>
    rw [pushRange]
    split
    · rename_i hTouch
      obtain ⟨hFirst, hRest⟩ := List.pairwise_cons.mp h
      obtain ⟨hStart, hLater⟩ := List.forall_mem_cons.mp hFirst
      obtain ⟨hOrdered, hHas⟩ := ih (r := (r.1, max r.2 s.2))
        (List.pairwise_cons.mpr ⟨hLater, (List.pairwise_cons.mp hRest).2⟩)
      refine ⟨hOrdered, fun n => ?_⟩
      rw [hHas, has_cons, has_cons, has_cons, ← or_assoc]
      refine or_congr_left ?_
      dsimp only
      omega
    · exact ⟨h, fun _ => .rfl⟩

theorem exists_start_of_mem_joinRanges {x : Nat × Nat} (h : x ∈ joinRanges rs) :
    ∃ y ∈ rs, y.1 = x.1 := by
  induction rs generalizing x with
  | nil => exact absurd h List.not_mem_nil
  | cons r rs ih =>
    obtain ⟨y, hy, hStart⟩ := exists_start_of_mem_pushRange h
    rcases List.mem_cons.mp hy with rfl | hy
    · exact ⟨y, List.mem_cons_self, hStart⟩
    · obtain ⟨z, hz, hStart'⟩ := ih hy
      exact ⟨z, List.mem_cons_of_mem _ hz, hStart'.trans hStart⟩

theorem joinRanges_spec (h : Ordered rs) :
    Ordered (joinRanges rs) ∧ ∀ n, Has (joinRanges rs) n ↔ Has rs n := by
  induction rs with
  | nil => exact ⟨h, fun _ => .rfl⟩
  | cons r rs ih =>
    obtain ⟨hFirst, hRest⟩ := List.pairwise_cons.mp h
    obtain ⟨hOrdered, hHas⟩ := ih hRest
    have hStarts : ∀ x ∈ joinRanges rs, r.1 ≤ x.1 := by
      intro x hx
      obtain ⟨y, hy, hStart⟩ := exists_start_of_mem_joinRanges hx
      exact hStart ▸ hFirst y hy
    obtain ⟨hOrdered', hHas'⟩ := pushRange_spec (List.pairwise_cons.mpr ⟨hStarts, hOrdered⟩)
    refine ⟨hOrdered', fun n => ?_⟩
    rw [joinRanges, List.foldr_cons]
    exact (hHas' n).trans (by rw [has_cons, has_cons, hHas])

theorem mem_mergeRanges {x : Nat × Nat} : x ∈ mergeRanges bound rs ss ↔ x ∈ rs ∨ x ∈ ss := by
  fun_induction mergeRanges bound rs ss with
  | case1 => exact List.mem_append
  | case2 | case3 => simp
  | case4 bound r rs s ss hLe ih => rw [List.mem_cons, ih, List.mem_cons (l := rs), or_assoc]
  | case5 bound r rs s ss hNot ih =>
    rw [List.mem_cons, ih, List.mem_cons (l := ss), or_left_comm]

theorem ordered_mergeRanges (hBound : rs.length + ss.length ≤ bound) (hrs : Ordered rs)
    (hss : Ordered ss) : Ordered (mergeRanges bound rs ss) := by
  fun_induction mergeRanges bound rs ss with
  | case1 rs ss =>
    have hrs : rs = [] := List.eq_nil_of_length_eq_zero (by omega)
    rwa [hrs, List.nil_append]
  | case2 => exact hss
  | case3 => exact hrs
  | case4 bound r rs s ss hLe ih =>
    obtain ⟨hr, hrs⟩ := List.pairwise_cons.mp hrs
    have hs := (List.pairwise_cons.mp hss).1
    refine List.pairwise_cons.mpr ⟨fun x hx => ?_, ih (by simp at hBound ⊢; omega) hrs hss⟩
    rcases mem_mergeRanges.mp hx with hx | hx
    · exact hr x hx
    · rcases List.mem_cons.mp hx with rfl | hx
      · exact hLe
      · exact Nat.le_trans hLe (hs x hx)
  | case5 bound r rs s ss hNot ih =>
    have hLe : s.1 ≤ r.1 := Nat.le_of_not_le hNot
    obtain ⟨hs, hss⟩ := List.pairwise_cons.mp hss
    have hr := (List.pairwise_cons.mp hrs).1
    refine List.pairwise_cons.mpr ⟨fun x hx => ?_, ih (by simp at hBound ⊢; omega) hrs hss⟩
    rcases mem_mergeRanges.mp hx with hx | hx
    · rcases List.mem_cons.mp hx with rfl | hx
      · exact hLe
      · exact Nat.le_trans hLe (hr x hx)
    · exact hs x hx

theorem union_spec (hs : Ordered s.ranges) (ht : Ordered t.ranges) :
    Ordered (s.union t).ranges ∧
      ∀ n, (s.union t).hasCode n = true ↔ s.hasCode n = true ∨ t.hasCode n = true := by
  simp only [hasCode_iff, union]
  split
  · rename_i hNil
    simp [hNil, ht, Has]
  · rename_i hNil _
    simp [hNil, hs, Has]
  · obtain ⟨hOrdered, hHas⟩ := joinRanges_spec
      (ordered_mergeRanges (Nat.le_refl _) hs ht)
    refine ⟨hOrdered, fun n => (hHas n).trans ?_⟩
    simp only [Has, mem_mergeRanges, or_and_right, exists_or]

theorem unions_spec {sets : List CharSet} (h : ∀ s ∈ sets, Ordered s.ranges) :
    Ordered (unions sets).ranges ∧
      ∀ n, (unions sets).hasCode n = true ↔ ∃ s ∈ sets, s.hasCode n = true := by
  induction sets with
  | nil => exact ⟨.nil, fun n => by simp [unions, empty, hasCode]⟩
  | cons s sets ih =>
    obtain ⟨hs, hSets⟩ := List.forall_mem_cons.mp h
    obtain ⟨hOrdered, hHas⟩ := ih hSets
    obtain ⟨hOrdered', hHas'⟩ := union_spec hs hOrdered
    refine ⟨hOrdered', fun n => (hHas' n).trans ?_⟩
    rw [hHas, List.exists_mem_cons_iff]

theorem ordered_range (a b : Nat) : Ordered (range a b).ranges := List.pairwise_singleton _ _

theorem hasCode_range {a b : Nat} : (range a b).hasCode n = true ↔ a ≤ n ∧ n ≤ b := by
  simp [range, hasCode]

end CharSet

theorem mem_foldPairs_iff {n z : Nat} :
    (n, z) ∈ foldPairs ↔ ∃ s ∈ foldMap, s.covers n = true ∧ z = s.send n := by
  simp only [foldPairs, List.mem_flatMap, Stretch.pairs, List.mem_map, List.mem_range,
    Prod.mk.injEq, Stretch.covers_iff, Stretch.send]
  refine exists_congr fun s => and_congr_right fun hs => ?_
  have hLe := foldMap_first_le s hs
  constructor
  · rintro ⟨i, hi, rfl, rfl⟩
    have hi : s.step * i ≤ s.last - s.first :=
      Nat.le_trans (Nat.mul_le_mul_left _ (Nat.le_of_lt_succ hi)) (Nat.mul_div_le _ _)
    rw [Nat.add_sub_cancel_left]
    exact ⟨⟨by omega, by omega, Nat.mul_mod_right _ _⟩, rfl⟩
  · rintro ⟨⟨hFirst, hLast, hStep⟩, rfl⟩
    have hMul : s.step * ((n - s.first) / s.step) = n - s.first :=
      Nat.mul_div_cancel' (Nat.dvd_of_mod_eq_zero hStep)
    refine ⟨(n - s.first) / s.step, Nat.lt_succ_of_le (Nat.div_le_div_right (by omega)), ?_, ?_⟩ <;>
      omega

theorem foldCode_cases (n : Nat) : mapCode foldMap n = n ∨ (n, mapCode foldMap n) ∈ foldPairs := by
  obtain ⟨s, hs, hCovers, hEq⟩ | ⟨-, hEq⟩ := mapCode_cases foldMap n
  · exact .inr (mem_foldPairs_iff.mpr ⟨s, hs, hCovers, hEq⟩)
  · exact .inl hEq

theorem foldCode_of_mem_foldPairs {p : Nat × Nat} (h : p ∈ foldPairs) :
    mapCode foldMap p.1 = p.2 ∧ mapCode foldMap p.2 = p.2 := by
  obtain ⟨s, hs, hCovers, hEq⟩ := mem_foldPairs_iff.mp h
  rw [hEq, mapCode_of_covers apart_foldMap hs hCovers, foldCode_send hs hCovers]
  exact ⟨rfl, rfl⟩

/-- The closure adds the pairs whose image is the image of a member or a member itself. -/
theorem CharSet.hasCode_foldClosure_iff_pairs {s : CharSet} (hs : Ordered s.ranges) {n : Nat} :
    s.foldClosure.hasCode n = true ↔ s.hasCode n = true ∨
      ∃ p ∈ foldPairs, (∃ q ∈ foldPairs, (s.hasCode q.1 = true ∨ s.hasCode q.2 = true) ∧
        q.2 = p.2) ∧ (n = p.1 ∨ n = p.2) := by
  have hPair (p : Nat × Nat) := union_spec (ordered_range p.1 p.1) (ordered_range p.2 p.2)
  have hMember (p : Nat × Nat) : ((range p.1 p.1).union (range p.2 p.2)).hasCode n = true ↔
      n = p.1 ∨ n = p.2 := by
    rw [(hPair p).2, hasCode_range, hasCode_range]
    omega
  rw [foldClosure, (unions_spec ?_).2, List.exists_mem_cons_iff]
  · refine or_congr_right ?_
    simp only [List.mem_map, List.mem_filter, List.contains_iff_mem, Bool.or_eq_true, and_assoc]
    constructor
    · rintro ⟨_, ⟨p, hp, hq, rfl⟩, hn⟩
      exact ⟨p, hp, hq, (hMember p).mp hn⟩
    · rintro ⟨p, hp, hq, hn⟩
      exact ⟨_, ⟨p, hp, hq, rfl⟩, (hMember p).mpr hn⟩
  · refine List.forall_mem_cons.mpr ⟨hs, fun t ht => ?_⟩
    obtain ⟨p, -, rfl⟩ := List.mem_map.mp ht
    exact (hPair p).1

theorem CharSet.hasCode_foldClosure {s : CharSet} (hs : Ordered s.ranges) {n : Nat} :
    s.foldClosure.hasCode n = true ↔
      ∃ m, s.hasCode m = true ∧ mapCode foldMap m = mapCode foldMap n := by
  rw [hasCode_foldClosure_iff_pairs hs]
  constructor
  · rintro (hn | ⟨p, hp, ⟨q, hq, hHas, hSame⟩, hn⟩)
    · exact ⟨n, hn, rfl⟩
    · obtain ⟨hFirst, hSecond⟩ := foldCode_of_mem_foldPairs hp
      obtain ⟨hFirst', hSecond'⟩ := foldCode_of_mem_foldPairs hq
      have hFold : mapCode foldMap n = p.2 := by
        rcases hn with rfl | rfl
        · exact hFirst
        · exact hSecond
      rcases hHas with hHas | hHas
      · exact ⟨q.1, hHas, by rw [hFirst', hFold, hSame]⟩
      · exact ⟨q.2, hHas, by rw [hSecond', hFold, hSame]⟩
  · rintro ⟨m, hm, hFold⟩
    rcases foldCode_cases n with hn | hn
    · rcases foldCode_cases m with hSelf | hPair
      · rw [← hn, ← hFold, hSelf]
        exact .inl hm
      · exact .inr ⟨_, hPair, ⟨_, hPair, .inl hm, rfl⟩, .inr (by rw [hFold, hn])⟩
    · rcases foldCode_cases m with hSelf | hPair
      · refine .inr ⟨_, hn, ⟨_, hn, .inr ?_, rfl⟩, .inl rfl⟩
        rwa [← hFold, hSelf]
      · exact .inr ⟨_, hn, ⟨_, hPair, .inl hm, hFold⟩, .inl rfl⟩

theorem CharSet.contains_foldClosure_single {x y : Char} :
    (CharSet.single x).foldClosure.contains y = true ↔ fold x = fold y := by
  rw [contains, hasCode_foldClosure (s := single x) (ordered_range _ _), ← Char.toNat_inj,
    toNat_fold, toNat_fold]
  simp only [single, hasCode_range]
  constructor
  · rintro ⟨m, hm, hFold⟩
    rwa [show x.toNat = m by omega]
  · exact fun h => ⟨x.toNat, by omega, h⟩

end Highlight.Unicode
