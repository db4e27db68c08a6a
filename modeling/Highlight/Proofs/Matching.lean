import Highlight.Pattern.Match
import Highlight.Proofs.Cursor

/-! # Matches lie in the line

Whatever the pattern, its matches end at the place from which they start or further on in the same
line, and what a group captured is a stretch of the match.
-/

namespace Highlight

open Text Unicode

def Capture.Between (c d : Cursor) (x : Capture) : Prop :=
  ∃ a b : Cursor, c.Reaches a ∧ a.Reaches b ∧ b.Reaches d ∧ x.start = a.offset ∧ x.stop = b.offset

theorem Capture.Between.mono {c c' d d' : Cursor} {x : Capture} (h : x.Between c d)
    (hc : c'.Reaches c) (hd : d.Reaches d') : x.Between c' d' := by
  obtain ⟨a, b, hca, hab, hbd, hStart, hStop⟩ := h
  exact ⟨a, b, hc.trans hca, hab, hbd.trans hd, hStart, hStop⟩

/-- `u` stands further on than `t`, and what it has captured since lies between the two. -/
structure Thread.Continues (t u : Thread) : Prop where
  reaches : t.cursor.Reaches u.cursor
  captures : ∀ x ∈ u.captures, x ∈ t.captures ∨ x.Between t.cursor u.cursor

namespace Thread.Continues

variable {t u v : Thread} {s : CharSet} {p : Point}

theorem refl (t : Thread) : t.Continues t := ⟨.refl _, fun _ hx => .inl hx⟩

theorem trans (h : t.Continues u) (h' : u.Continues v) : t.Continues v := by
  refine ⟨h.reaches.trans h'.reaches, fun x hx => ?_⟩
  rcases h'.captures x hx with hx | hx
  · exact (h.captures x hx).imp_right fun hx => hx.mono (.refl _) h'.reaches
  · exact .inr (hx.mono h.reaches (.refl _))

theorem consume (h : t.consume? s = some u) : t.Continues u := by
  unfold consume? at h
  split at h
  · split at h
    · rename_i hNext _
      cases h
      exact ⟨.of_next hNext, fun _ hx => .inl hx⟩
    · cases h
  · cases h

theorem capture (h : t.Continues u) (i : Nat) : t.Continues (u.capture i t.cursor.offset) := by
  refine ⟨h.reaches, fun x hx => ?_⟩
  rcases List.mem_cons.mp hx with rfl | hx
  · exact .inr ⟨t.cursor, u.cursor, .refl _, h.reaches, .refl _, rfl, rfl⟩
  · exact h.captures x (List.mem_filter.mp hx).1

end Thread.Continues

theorem mem_of_mem_distinctFrom {u : Thread} {ts : List Thread} {seen : Marks}
    (h : u ∈ distinctFrom seen ts) : u ∈ ts := by
  induction ts generalizing seen with
  | nil => exact h
  | cons t ts ih =>
    rw [distinctFrom] at h
    split at h
    · exact List.mem_cons_of_mem t (ih h)
    · rcases List.mem_cons.mp h with rfl | h
      · exact List.mem_cons_self
      · exact List.mem_cons_of_mem t (ih h)

theorem mem_of_mem_distinct {u : Thread} {ts : List Thread} (h : u ∈ distinct ts) : u ∈ ts :=
  mem_of_mem_distinctFrom h

theorem Thread.eq_of_pass? {t u : Thread} {p : Point} (h : t.pass? p = some u) :
    u = { t with trail := p :: t.trail } := by
  unfold pass? at h
  split at h
  · cases h
  · cases h
    rfl

/-- What the turns of a repetition keep: `At k` holds of the threads at turn `k`, and `Left` of
those that leave. The trail does not matter for it. -/
structure Repeat.Keeps (r : Repeat) (solid : Bool) (body : Nat → Thread → List Thread)
    (At : Nat → Thread → Prop) (Left : Thread → Prop) : Prop where
  trail : ∀ {k t}, At k t → ∀ trail, At k { t with trail := trail }
  leave : ∀ {k t}, At k t → r.least ≤ k → Left t
  enter : ∀ {k t}, At k t → k < r.least ∨ r.most ≠ some k →
    ∀ u ∈ body (r.copyAt solid k) t, At (r.nextTurn solid k) u

namespace Repeat.Keeps

variable {r : Repeat} {solid : Bool} {body : Nat → Thread → List Thread}
  {At : Nat → Thread → Prop} {Left : Thread → Prop}

/-- One turn, where `further` makes the turns behind it and `leave` collects the threads that
leave. -/
theorem turn (h : r.Keeps solid body At Left) {α : Type} {P : α → Prop} {k : Nat}
    {leave : α → Thread → α} {further : Thread → α → α}
    (hLeave : ∀ a t, P a → Left t → P (leave a t))
    (hFurther : ∀ t a, At k t → k < r.least ∨ r.most ≠ some k → P a → P (further t a))
    {path entry : Point} {t : Thread} {a : α} (hAt : At k t) (ha : P a) :
    P (if k < r.least then further t a
      else if r.most = some k then leave a t
      else
        match t.pass? (path.turn k) with
        | none => a
        | some t =>
          if r.greedy then leave (further t a) (t.forgo entry) else further t (leave a t)) := by
  split
  · rename_i hLt
    exact hFurther t a hAt (.inl hLt) ha
  · rename_i hLe
    have hLe : r.least ≤ k := Nat.not_lt.mp hLe
    split
    · exact hLeave a t ha (h.leave hAt hLe)
    · rename_i hMost
      split
      · exact ha
      · rename_i t' hPass
        cases Thread.eq_of_pass? hPass
        have hAt' := h.trail hAt (path.turn k :: t.trail)
        split
        · refine hLeave _ _ (hFurther _ _ hAt' (.inr hMost) ha) (h.leave ?_ hLe)
          exact h.trail hAt _
        · exact hFurther _ _ hAt' (.inr hMost) (hLeave a _ ha (h.leave hAt' hLe))

theorem forall_further {s : CharSet} (h : r.Keeps true (fun _ t => (t.consume? s).toList) At Left)
    {path : Point} {rest : List Char} {k : Nat}
    (hRest : ∀ t left, At (r.nextTurn true k) t → (∀ u ∈ left, Left u) →
      ∀ u ∈ r.run s path rest (r.nextTurn true k) t left, Left u)
    (t : Thread) (left : List Thread) (hAt : At k t) (hk : k < r.least ∨ r.most ≠ some k)
    (hLeft : ∀ u ∈ left, Left u) :
    ∀ u ∈ (match (t.pass? (path.entry (r.copyAt true k))).bind (·.consume? s) with
      | some u => r.run s path rest (r.nextTurn true k) u left
      | none => left), Left u := by
  split
  · rename_i v hNext
    obtain ⟨w, hPass, hConsume⟩ := Option.bind_eq_some_iff.mp hNext
    cases Thread.eq_of_pass? hPass
    exact hRest v left (h.enter (h.trail hAt _) hk v (Option.mem_toList.mpr hConsume)) hLeft
  · exact hLeft

theorem forall_run {s : CharSet} (h : r.Keeps true (fun _ t => (t.consume? s).toList) At Left)
    {path : Point} {rest : List Char} {k : Nat} {t : Thread} {left : List Thread} (hAt : At k t)
    (hLeft : ∀ u ∈ left, Left u) : ∀ u ∈ r.run s path rest k t left, Left u := by
  have hLeave : ∀ (left : List Thread) (t : Thread), (∀ u ∈ left, Left u) → Left t →
      ∀ u ∈ t :: left, Left u := fun left t hLeft ht => List.forall_mem_cons.mpr ⟨ht, hLeft⟩
  induction rest generalizing k t left with
  | nil =>
    rw [run]
    exact h.turn (P := fun left => ∀ u ∈ left, Left u) hLeave (fun _ _ _ _ hLeft => hLeft) hAt hLeft
  | cons x rest ih =>
    rw [run]
    exact h.turn (P := fun left => ∀ u ∈ left, Left u) hLeave
      (h.forall_further fun _ _ hAt hLeft => ih hAt hLeft) hAt hLeft

theorem forall_left_go (h : r.Keeps solid body At Left) {path : Point} {bound k : Nat} {t : Thread}
    {w : Walk} (hAt : At k t) (hLeft : ∀ u ∈ w.left, Left u) :
    ∀ u ∈ (Walk.go r solid path body bound k t w).left, Left u := by
  have hLeave : ∀ (w : Walk) (t : Thread), (∀ u ∈ w.left, Left u) → Left t →
      ∀ u ∈ (w.leave t).left, Left u := fun w t hLeft ht => List.forall_mem_cons.mpr ⟨ht, hLeft⟩
  induction bound generalizing k t w with
  | zero => exact hLeft
  | succ bound ih =>
    have hFurther : ∀ (t : Thread) (w : Walk), At k t → k < r.least ∨ r.most ≠ some k →
        (∀ u ∈ w.left, Left u) →
        ∀ u ∈ (match t.pass? (path.entry (r.copyAt solid k)) with
          | none => w
          | some t => (body (r.copyAt solid k) t).foldl
              (fun w u => Walk.go r solid path body bound (r.nextTurn solid k) u w) w).left,
          Left u := by
      intro t w hAt hk hLeft
      split
      · exact hLeft
      · rename_i t' hPass
        cases Thread.eq_of_pass? hPass
        -- The walk goes on behind each end of the body.
        exact List.foldlRecOn (motive := fun w : Walk => ∀ u ∈ w.left, Left u) _ _ hLeft
          fun w hw u hu => ih (h.enter (h.trail hAt _) hk u hu) hw
    rw [Walk.go]
    split
    · exact hLeft
    · exact h.turn (P := fun w : Walk => ∀ u ∈ w.left, Left u) hLeave hFurther hAt hLeft

end Repeat.Keeps

theorem Repeat.keeps_continues {r : Repeat} {solid : Bool} {body : Nat → Thread → List Thread}
    (hBody : ∀ copy t, ∀ u ∈ body copy t, t.Continues u) (t : Thread) :
    r.Keeps solid body (fun _ u => t.Continues u) t.Continues where
  trail h _ := ⟨h.reaches, h.captures⟩
  leave h _ := h
  enter h _ u hu := h.trans (hBody _ _ u hu)

/-- A relation between the threads in front of a pattern and behind it that follows from the parts
of the pattern. The trail in front does not matter for it. -/
structure Pattern.Composes (R : Pattern → Thread → Thread → Prop) : Prop where
  trail : ∀ {p t u trail}, R p { t with trail := trail } u → R p t u
  empty : ∀ t, R empty t t
  set : ∀ {s t u}, t.consume? s = some u → R (set s) t u
  look : ∀ {l t}, l.holds t.cursor = true → R (look l) t t
  group : ∀ {p t u} i, R p t u → R (group i p) t (u.capture i t.cursor.offset)
  seq : ∀ {p q t u v}, R p t u → R q u v → R (seq p q) t v
  left : ∀ {p q t u}, R p t u → R (alt p q) t u
  right : ∀ {p q t u}, R q t u → R (alt p q) t u
  times : ∀ (r : Repeat) (p : Pattern) (solid : Bool) (body : Nat → Thread → List Thread) (t : Thread),
    (∀ copy t, ∀ u ∈ body copy t, R p t u) →
    ∃ At : Nat → Thread → Prop, r.Keeps solid body At (R (times r p) t) ∧ At 0 t

theorem Pattern.Composes.of_mem_endsAt {R : Pattern → Thread → Thread → Prop} (h : Composes R)
    (p : Pattern) (rest : Bool) (path : Point) (t : Thread) : ∀ u ∈ p.endsAt rest path t, R p t u := by
  induction p, rest, path, t using Pattern.endsAt.induct with
  | case1 rest path t =>
    intro u hu
    rw [endsAt, List.mem_singleton] at hu
    exact hu ▸ h.empty t
  | case2 rest s path t =>
    intro u hu
    rw [endsAt, Option.mem_toList] at hu
    exact h.set hu
  | case3 rest l path t hLook =>
    intro u hu
    rw [endsAt, if_pos hLook, List.mem_singleton] at hu
    rw [hu]
    exact h.look hLook
  | case4 rest l path t hLook =>
    intro u hu
    rw [endsAt, if_neg hLook] at hu
    exact absurd hu List.not_mem_nil
  | case5 rest i p path t ih =>
    intro u hu
    rw [endsAt] at hu
    obtain ⟨v, hv, rfl⟩ := List.mem_map.mp hu
    exact h.group i (ih v hv)
  | case6 rest p q path t ihq ihp =>
    intro u hu
    rw [endsAt] at hu
    obtain ⟨v, hv, hu⟩ := List.mem_flatMap.mp (mem_of_mem_distinct hu)
    exact h.seq (ihp v hv) (ihq v u hu)
  | case7 p q rest path t hPass =>
    intro u hu
    rw [endsAt, hPass] at hu
    exact absurd hu List.not_mem_nil
  | case8 p q rest path t t' hPass ihp ihq =>
    intro u hu
    -- Passing the choice changes nothing but the trail.
    have hTrail : ∀ p, R p t' u → R p t u := by
      intro p hR
      split at hPass
      · cases hPass
        exact hR
      · rw [Thread.eq_of_pass? hPass] at hR
        exact h.trail hR
    rw [endsAt, hPass] at hu
    rcases List.mem_append.mp (mem_of_mem_distinct hu) with hu | hu
    · exact h.left (hTrail p (ihp u hu))
    · exact h.right (hTrail q (ihq u hu))
  | case9 rest r s path t =>
    intro u hu
    rw [endsAt, List.mem_reverse] at hu
    obtain ⟨At, hKeeps, hAt⟩ := h.times r (.set s) true (fun _ t => (t.consume? s).toList) t
      fun _ _ _ hu => h.set (Option.mem_toList.mp hu)
    exact hKeeps.forall_run hAt (fun _ hu => absurd hu List.not_mem_nil) u hu
  | case10 rest r p path t hNotSet ih =>
    intro u hu
    rw [endsAt.eq_8 _ _ _ _ _ hNotSet] at hu
    obtain ⟨At, hKeeps, hAt⟩ := h.times r p p.isSolid _ t ih
    have hLeft := List.mem_reverse.mp (mem_of_mem_distinct hu)
    exact hKeeps.forall_left_go hAt (fun _ hu => absurd hu List.not_mem_nil) u hLeft

theorem Pattern.composes_continues : Composes fun _ t u => t.Continues u where
  trail h := ⟨h.reaches, h.captures⟩
  empty := .refl
  set := .consume
  look _ := .refl _
  group i h := h.capture i
  seq := .trans
  left h := h
  right h := h
  times r _ _ _ t hBody := ⟨_, r.keeps_continues hBody t, .refl t⟩

theorem Pattern.continues_of_mem_endsAt (p : Pattern) (rest : Bool) (path : Point) (t : Thread) :
    ∀ u ∈ p.endsAt rest path t, t.Continues u :=
  composes_continues.of_mem_endsAt p rest path t

theorem Pattern.reaches_of_match? {p : Pattern} {c : Cursor} {m : Match} (h : p.match? c = some m) :
    c.Reaches m.stop := by
  obtain ⟨t, hHead, rfl⟩ := Option.map_eq_some_iff.mp h
  exact (continues_of_mem_endsAt p _ _ _ t (List.mem_of_mem_head? hHead)).reaches

theorem Pattern.between_of_capture? {p : Pattern} {c : Cursor} {m : Match} {x : Capture} {i : Nat}
    (h : p.match? c = some m) (hx : m.capture? i = some x) : x.Between c m.stop := by
  obtain ⟨t, hHead, rfl⟩ := Option.map_eq_some_iff.mp h
  have hContinues := continues_of_mem_endsAt p _ _ _ t (List.mem_of_mem_head? hHead)
  exact (hContinues.captures x (List.mem_of_find?_eq_some hx)).resolve_left List.not_mem_nil

end Highlight
