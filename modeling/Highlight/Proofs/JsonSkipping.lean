import Highlight.Proofs.JsonReading

/-! # Spellings are passed over

Passing over a value needs no room for its nesting: what encloses the value is a list of frames. The
reader that builds no value stops just behind every spelling whose numbers are integers.
-/

namespace Highlight.Json

theorem skipEscape_short {mark c : Char} (h : (mark, c) ∈ shortEscapes) (s : Rest) :
    skipEscape (mark :: s) = .ok s := by
  have hMark : "\"\\/bfnrt".toList.contains mark = true := by
    revert h
    simp only [shortEscapes, List.mem_cons, Prod.mk.injEq, List.not_mem_nil, or_false]
    rintro (⟨rfl, -⟩ | ⟨rfl, -⟩ | ⟨rfl, -⟩ | ⟨rfl, -⟩ | ⟨rfl, -⟩ | ⟨rfl, -⟩ | ⟨rfl, -⟩ | ⟨rfl, -⟩) <;>
      rfl
  rw [skipEscape, if_pos hMark]

theorem SpellsHex.skipEscape_append {n : Nat} {ds : List Char} (h : SpellsHex n ds) (s : Rest) :
    skipEscape ('u' :: (ds ++ s)) = .ok s := by
  have hMark : "\"\\/bfnrt".toList.contains 'u' = false := rfl
  rw [skipEscape, hMark, if_neg Bool.false_ne_true, if_pos rfl, h.hexEscape_append]
  rfl

theorem skipString_escape (bound : Nat) {e s : Rest} (h : skipEscape (e ++ s) = .ok s) :
    skipString (bound + 1) ('\\' :: (e ++ s)) = skipString bound s := by
  rw [skipString, if_neg (by decide), if_pos rfl, h]
  rfl

theorem SpellsChar.skipString_append {c : Char} {u : List Char} (h : SpellsChar c u) :
    ∃ n, n ≤ u.length ∧ ∀ bound s, skipString (bound + n) (u ++ s) = skipString bound s := by
  cases h with
  | plain hQuote hSlash hControl =>
    refine ⟨1, Nat.le_refl 1, fun bound s => ?_⟩
    rw [List.singleton_append, skipString, if_neg hQuote, if_neg hSlash,
      if_neg (Nat.not_lt.mpr hControl)]
  | short h =>
    refine ⟨1, Nat.le_add_left 1 1, fun bound s => ?_⟩
    exact skipString_escape bound (e := [_]) (skipEscape_short h s)
  | hex h =>
    refine ⟨1, Nat.le_add_left 1 _, fun bound s => ?_⟩
    exact skipString_escape bound (e := 'u' :: _) (h.skipEscape_append s)
  | @pair _ _ _ ds es _ _ _ hds hes =>
    refine ⟨2, ?_, fun bound s => ?_⟩
    · simp only [List.length_cons, List.length_append]
      omega
    · have hLead := skipString_escape (bound + 1) (e := 'u' :: ds)
        (hds.skipEscape_append ('\\' :: 'u' :: (es ++ s)))
      have hTrail := skipString_escape bound (e := 'u' :: es) (hes.skipEscape_append s)
      simp only [List.cons_append, List.append_assoc] at hLead hTrail ⊢
      rw [hLead, hTrail]

theorem SpellsChars.skipString_append {cs u : List Char} (h : SpellsChars cs u) {bound : Nat}
    (hBound : u.length < bound) (s : Rest) : skipString bound (u ++ '"' :: s) = .ok s := by
  induction h generalizing bound with
  | nil =>
    obtain ⟨bound, rfl⟩ := Nat.exists_eq_add_of_le' (Nat.one_le_of_lt hBound)
    rfl
  | cons h _ ih =>
    obtain ⟨n, hn, hSkip⟩ := h.skipString_append
    rw [List.length_append] at hBound
    obtain ⟨bound, rfl⟩ := Nat.exists_eq_add_of_le' (show n ≤ bound by omega)
    rw [List.append_assoc, hSkip, ih (by omega)]

theorem SpellsString.skipString_append {x : String} {t : List Char} (h : SpellsString x t) :
    ∃ u, t = '"' :: u ∧ ∀ s, skipString ((u ++ s).length + 1) (u ++ s) = .ok s := by
  obtain ⟨h⟩ := h
  refine ⟨_, rfl, fun s => ?_⟩
  rw [List.append_assoc, List.singleton_append]
  refine h.skipString_append ?_ s
  simp only [List.length_append]
  omega

theorem skipNumber_append (n : Nat) {s : Rest} (hs : Stops s) :
    skipNumber (Nat.toDigits 10 n ++ s) = .ok s := by
  have hRun := digitRun_append (fun _ => isDigit_of_mem_toDigits (n := n)) hs
  obtain ⟨c, cs, hDigits⟩ := List.exists_cons_of_ne_nil (Nat.toDigits_ne_nil (n := n) (b := 10))
  unfold skipNumber
  rw [hRun]
  split
  case h_1 h =>
    rw [hDigits] at h
    cases h
  case h_2 h =>
    rw [hDigits] at h
    obtain ⟨hFirst, hNext⟩ := List.cons.inj (Prod.mk.inj h).1
    obtain ⟨d, ds, rfl, -, -⟩ := List.map_eq_cons_iff.mp hNext
    exact absurd hFirst (digitValue_head_ne_zero hDigits)
  case h_3 h =>
    cases h
    cases hs '.' rfl
  case h_4 h =>
    cases h
    cases hs 'e' rfl
  case h_5 h =>
    cases h
    cases hs 'E' rfl
  case h_6 h =>
    cases h
    rfl

theorem skipKey_append {key : String} {v k mid : List Char} (hv : Blank v)
    (hKey : SpellsString key k) (hMid : SpellsColon mid) :
    ∃ w, Blank w ∧ ∀ s, skipKey (v ++ (k ++ (mid ++ s))) = .ok (w ++ s) := by
  obtain ⟨u, rfl, hString⟩ := hKey.skipString_append
  obtain ⟨w, hw, hColon⟩ := hMid.colon_append
  refine ⟨w, hw, fun s => ?_⟩
  rw [List.cons_append, skipKey, hv.dropBlanks_append rfl]
  exact except_bind_ok (hString _) (hColon s)

section Dispatch

variable {bound : Nat} {frames : List Frame} {w : List Char} {s t : Rest}

theorem skipWithin_blank (hw : Blank w) {c : Char} (hc : isBlank c = false) :
    skipWithin (bound + 1) frames (w ++ c :: s) = skipWithin (bound + 1) frames (c :: s) := by
  rw [skipWithin, skipWithin, hw.dropBlanks_append hc, dropBlanks_cons hc]

theorem skipWithin_null (hw : Blank w) :
    skipWithin (bound + 1) frames (w ++ ("null".toList ++ s)) = skipClose bound frames s := by
  change skipWithin (bound + 1) frames (w ++ 'n' :: ("ull".toList ++ s)) = _
  rw [skipWithin_blank hw rfl]
  exact except_bind_of_ok (ident_append "ull".toList s)

theorem skipWithin_bool (hw : Blank w) (b : Bool) :
    skipWithin (bound + 1) frames (w ++ ((toString b).toList ++ s)) = skipClose bound frames s := by
  cases b with
  | true =>
    change skipWithin (bound + 1) frames (w ++ 't' :: ("rue".toList ++ s)) = _
    rw [skipWithin_blank hw rfl]
    exact except_bind_of_ok (ident_append "rue".toList s)
  | false =>
    change skipWithin (bound + 1) frames (w ++ 'f' :: ("alse".toList ++ s)) = _
    rw [skipWithin_blank hw rfl]
    exact except_bind_of_ok (ident_append "alse".toList s)

theorem skipWithin_digit (hw : Blank w) {c : Char} (hc : isDigit c = true)
    (h : skipNumber (c :: s) = .ok t) :
    skipWithin (bound + 1) frames (w ++ c :: s) = skipClose bound frames t := by
  rw [skipWithin, hw.dropBlanks_append (not_isBlank_of_isDigit hc)]
  split
  case h_9 hEq =>
    cases hEq
    rw [if_pos hc]
    exact except_bind_of_ok h
  -- no digit is one of the other marks
  all_goals
    rename_i hEq
    cases hEq <;> cases hc

theorem skipWithin_minus (hw : Blank w) (h : skipNumber s = .ok t) :
    skipWithin (bound + 1) frames (w ++ '-' :: s) = skipClose bound frames t := by
  rw [skipWithin_blank hw rfl]
  exact except_bind_of_ok h

theorem skipWithin_string (hw : Blank w) (h : skipString (s.length + 1) s = .ok t) :
    skipWithin (bound + 1) frames (w ++ '"' :: s) = skipClose bound frames t := by
  rw [skipWithin_blank hw rfl]
  exact except_bind_of_ok h

theorem skipWithin_number (hw : Blank w) {depth : Nat} {n : Number} (hn : Fits depth (.num n))
    (hs : Stops s) :
    skipWithin (bound + 1) frames (w ++ (n.render ++ s)) = skipClose bound frames s := by
  cases hn with
  | @natural _ n =>
    have hNumber := skipNumber_append n hs
    obtain ⟨c, cs, hEq, hc⟩ := exists_toDigits_eq_cons n
    rw [hEq, List.cons_append] at hNumber
    rw [Number.render, hEq]
    exact skipWithin_digit hw hc hNumber
  | @negative _ n => exact skipWithin_minus hw (skipNumber_append n hs)

theorem skipWithin_list (hw : Blank w) {v : List Char} (hv : Blank v) {c : Char}
    (hc : isBlank c = false) :
    skipWithin (bound + 1) frames (w ++ '[' :: (v ++ c :: s)) =
      if c = ']' then skipClose bound frames s
      else skipWithin bound (.list :: frames) (c :: s) := by
  rw [skipWithin, hw.dropBlanks_append rfl]
  simp only [hv.dropBlanks_append hc]
  split
  · rename_i hEq
    cases hEq
  · rename_i hEq
    cases hEq
    rfl
  · rename_i hOther
    rw [if_neg]
    rintro rfl
    exact hOther s rfl

theorem skipWithin_empty_object (hw : Blank w) {v : List Char} (hv : Blank v) :
    skipWithin (bound + 1) frames (w ++ '\x7b' :: (v ++ '\x7d' :: s)) =
      skipClose bound frames s := by
  rw [skipWithin, hw.dropBlanks_append rfl]
  simp only [hv.dropBlanks_append (c := '\x7d') rfl]

theorem skipWithin_object (hw : Blank w) {v : List Char} (hv : Blank v)
    (h : skipKey ('"' :: s) = .ok t) :
    skipWithin (bound + 1) frames (w ++ '\x7b' :: (v ++ '"' :: s)) =
      skipWithin bound (.object :: frames) t := by
  rw [skipWithin, hw.dropBlanks_append rfl]
  simp only [hv.dropBlanks_append (c := '"') rfl]
  exact except_bind_of_ok h

end Dispatch

section Marks

variable {bound : Nat} {frames : List Frame} {w : List Char} {s t : Rest}

theorem skipClose_blank {frame : Frame} (hw : Blank w) {c : Char} (hc : isBlank c = false) :
    skipClose (bound + 1) (frame :: frames) (w ++ c :: s) =
      skipClose (bound + 1) (frame :: frames) (c :: s) := by
  cases frame with
  | list | object => rw [skipClose, skipClose, hw.dropBlanks_append hc, dropBlanks_cons hc]

theorem skipClose_list (hw : Blank w) :
    skipClose (bound + 1) (.list :: frames) (w ++ ']' :: s) = skipClose bound frames s := by
  rw [skipClose_blank hw rfl]
  rfl

theorem skipClose_object (hw : Blank w) :
    skipClose (bound + 1) (.object :: frames) (w ++ '\x7d' :: s) = skipClose bound frames s := by
  rw [skipClose_blank hw rfl]
  rfl

theorem skipClose_item (hw : Blank w) :
    skipClose (bound + 1) (.list :: frames) (w ++ ',' :: s) =
      skipWithin bound (.list :: frames) s := by
  rw [skipClose_blank hw rfl]
  rfl

theorem skipClose_member (hw : Blank w) (h : skipKey s = .ok t) :
    skipClose (bound + 1) (.object :: frames) (w ++ ',' :: s) =
      skipWithin bound (.object :: frames) t := by
  rw [skipClose_blank hw rfl]
  exact except_bind_of_ok h

end Marks

-- Each mark and each scalar takes one unit of the bound, so a value takes at most its length.
mutual

theorem Spells.skipWithin_append {depth : Nat} {t : List Char} :
    {j : Json} → Spells j t → Fits depth j → ∃ n, n ≤ t.length ∧
      ∀ bound frames w s, Blank w → Stops s →
        skipWithin (bound + n) frames (w ++ (t ++ s)) = skipClose bound frames s
  | .null, .null, _ => ⟨1, by decide, fun _ _ _ _ hw _ => skipWithin_null hw⟩
  | .bool _, .bool b, _ =>
    ⟨1, by cases b <;> decide, fun _ _ _ _ hw _ => skipWithin_bool hw b⟩
  | .num _, .number n, hFits =>
    ⟨1, (Spells.number n).length_pos, fun _ _ _ _ hw hs => skipWithin_number hw hFits hs⟩
  | .str _, .string h, _ => by
    obtain ⟨u, rfl, hString⟩ := h.skipString_append
    exact ⟨1, Nat.le_add_left 1 _, fun _ _ _ _ hw _ => skipWithin_string hw (hString _)⟩
  | .arr [], .list (.close hv), _ => by
    refine ⟨1, Nat.le_add_left 1 _, fun bound frames w s hw _ => ?_⟩
    rw [List.cons_append, List.append_assoc, List.singleton_append, skipWithin_list hw hv rfl,
      if_pos rfl]
  | .arr (x :: xs), .list (.item (.first hv) hx hxs), .list hFits => by
    have hFits := List.forall_mem_cons.mp hFits
    obtain ⟨n, hn, hValue⟩ := hx.skipWithin_append hFits.1
    obtain ⟨m, hm, hItems⟩ := hxs.skipClose_append hFits.2
    refine ⟨m + n + 1, ?_, fun bound frames w s hw _ => ?_⟩
    · simp only [List.length_cons, List.length_append]
      omega
    · have hFirst := hValue (bound + m) (.list :: frames) [] _ .nil (hxs.stops_append s)
      obtain ⟨c, u, rfl, hBlank, hc⟩ := hx.exists_eq_cons
      simp only [List.cons_append, List.append_assoc, List.nil_append, Nat.add_assoc] at hFirst ⊢
      rw [← Nat.add_assoc m, ← Nat.add_assoc bound, skipWithin_list hw hv hBlank,
        if_neg hc, hFirst, hItems]
  | .obj [], .object (.close hv), _ => by
    refine ⟨1, Nat.le_add_left 1 _, fun bound frames w s hw _ => ?_⟩
    rw [List.cons_append, List.append_assoc]
    exact skipWithin_empty_object hw hv
  | .obj ((key, x) :: ms), .object (.member (.first hv) hKey hMid hx hms), .object hFits => by
    have hFits := List.forall_mem_cons.mp hFits
    obtain ⟨n, hn, hValue⟩ := hx.skipWithin_append hFits.1
    obtain ⟨m, hm, hMembers⟩ := hms.skipClose_append hFits.2
    obtain ⟨v', hv', hRest⟩ := skipKey_append .nil hKey hMid
    obtain ⟨k, rfl, -⟩ := hKey.skipString_append
    refine ⟨m + n + 1, ?_, fun bound frames w s hw _ => ?_⟩
    · simp only [List.length_cons, List.length_append]
      omega
    · have hFirst := hValue (bound + m) (.object :: frames) v' _ hv' (hms.stops_append s)
      simp only [List.cons_append, List.append_assoc, List.nil_append, Nat.add_assoc]
        at hFirst hRest ⊢
      rw [← Nat.add_assoc m, ← Nat.add_assoc bound, skipWithin_object hw hv (hRest _), hFirst,
        hMembers]

theorem SpellsItems.skipClose_append {depth : Nat} {t : List Char} :
    {xs : List Json} → SpellsItems false xs t → (∀ x ∈ xs, Fits depth x) → ∃ n, n ≤ t.length ∧
      ∀ bound frames s, skipClose (bound + n) (.list :: frames) (t ++ s) = skipClose bound frames s
  | [], .close hw, _ => by
    refine ⟨1, by simp, fun bound frames s => ?_⟩
    rw [List.append_assoc]
    exact skipClose_list hw
  | x :: xs, .item (.comma hw hv) hx hxs, hFits => by
    have hFits := List.forall_mem_cons.mp hFits
    obtain ⟨n, hn, hValue⟩ := hx.skipWithin_append hFits.1
    obtain ⟨m, hm, hItems⟩ := hxs.skipClose_append hFits.2
    refine ⟨m + n + 1, ?_, fun bound frames s => ?_⟩
    · simp only [List.length_cons, List.length_append]
      omega
    · have hNext := hValue (bound + m) (.list :: frames) _ _ hv (hxs.stops_append s)
      simp only [List.cons_append, List.append_assoc, Nat.add_assoc] at hNext ⊢
      rw [← Nat.add_assoc m, ← Nat.add_assoc bound, skipClose_item hw, hNext, hItems]

theorem SpellsMembers.skipClose_append {depth : Nat} {t : List Char} :
    {ms : List (String × Json)} → SpellsMembers false ms t → (∀ m ∈ ms, Fits depth m.2) →
      ∃ n, n ≤ t.length ∧ ∀ bound frames s,
        skipClose (bound + n) (.object :: frames) (t ++ s) = skipClose bound frames s
  | [], .close hw, _ => by
    refine ⟨1, by simp, fun bound frames s => ?_⟩
    rw [List.append_assoc]
    exact skipClose_object hw
  | (key, x) :: ms, .member (.comma hw hv) hKey hMid hx hms, hFits => by
    have hFits := List.forall_mem_cons.mp hFits
    obtain ⟨n, hn, hValue⟩ := hx.skipWithin_append hFits.1
    obtain ⟨m, hm, hMembers⟩ := hms.skipClose_append hFits.2
    obtain ⟨v, hv', hRest⟩ := skipKey_append hv hKey hMid
    refine ⟨m + n + 1, ?_, fun bound frames s => ?_⟩
    · simp only [List.length_cons, List.length_append]
      omega
    · have hNext := hValue (bound + m) (.object :: frames) v _ hv' (hms.stops_append s)
      simp only [List.cons_append, List.append_assoc, Nat.add_assoc] at hNext ⊢
      rw [← Nat.add_assoc m, ← Nat.add_assoc bound, skipClose_member hw (hRest _), hNext, hMembers]

end

theorem Spells.skip_append {j : Json} {t : List Char} (h : Spells j t) {depth : Nat}
    (hFits : Fits depth j) {w : List Char} (hw : Blank w) {s : Rest} (hs : Stops s) :
    skip (w ++ (t ++ s)) = .ok s := by
  obtain ⟨n, hn, hSkip⟩ := h.skipWithin_append hFits
  have hBound : n < 2 * (w ++ (t ++ s)).length + 2 := by
    simp only [List.length_append]
    omega
  obtain ⟨bound, hEq⟩ := Nat.exists_eq_add_of_lt hBound
  rw [skip, show 2 * (w ++ (t ++ s)).length + 2 = bound + 1 + n by omega, hSkip _ _ _ _ hw hs]
  rfl

end Highlight.Json
