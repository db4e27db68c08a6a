import Highlight.Proofs.Failure
import Highlight.Proofs.Spelling

/-! # Spellings are read back

However a value is spelled, reading gives that value and leaves what follows. The nesting of the
value has to fit, and its numbers have to be integers of 64 bits, since others are rounded.
-/

namespace Highlight.Json

theorem Blank.dropBlanks_append {w : List Char} (h : Blank w) {c : Char} (hc : isBlank c = false)
    (s : Rest) : dropBlanks (w ++ c :: s) = c :: s := by
  rw [dropBlanks, List.dropWhile_append_of_pos h, List.dropWhile_cons_of_neg]
  rw [hc]
  exact Bool.false_ne_true

theorem dropBlanks_cons {c : Char} (hc : isBlank c = false) (s : Rest) :
    dropBlanks (c :: s) = c :: s :=
  Blank.nil.dropBlanks_append hc s

theorem hasBytes_of_le_length {n : Nat} {s : Rest} (h : n ≤ s.length) : hasBytes n s = true := by
  induction s generalizing n with
  | nil =>
    obtain rfl := Nat.le_zero.mp h
    rfl
  | cons c s ih =>
    cases n with
    | zero => rfl
    | succ n =>
      have hSize := Char.utf8Size_pos c
      rw [List.length_cons] at h
      exact ih (by omega)

theorem SpellsHex.hexEscape_append {n : Nat} {ds : List Char} (h : SpellsHex n ds) (s : Rest) :
    hexEscape (ds ++ s) = .ok (n, s) := by
  obtain ⟨ha, hb, hc, hd⟩ := h
  unfold hexEscape
  rw [if_pos (hasBytes_of_le_length (by simp))]
  simp only [List.cons_append, List.nil_append, ha, hb, hc, hd]

theorem not_surrogate (c : Char) : isTrailing c.toNat = false ∧ isLeading c.toNat = false := by
  have hValid : c.toNat < 0xD800 ∨ 0xDFFF < c.toNat ∧ c.toNat < 0x110000 := c.valid
  simp only [isTrailing, isLeading, Bool.and_eq_false_iff, decide_eq_false_iff_not]
  omega

theorem escaped_short {mark c : Char} (h : (mark, c) ∈ shortEscapes) (s : Rest) :
    escaped (mark :: s) = .ok (c, s) := by
  simp only [shortEscapes, List.mem_cons, Prod.mk.injEq, List.not_mem_nil, or_false] at h
  rcases h with ⟨rfl, rfl⟩ | ⟨rfl, rfl⟩ | ⟨rfl, rfl⟩ | ⟨rfl, rfl⟩ | ⟨rfl, rfl⟩ | ⟨rfl, rfl⟩ |
    ⟨rfl, rfl⟩ | ⟨rfl, rfl⟩ <;> rfl

theorem escaped_hex {c : Char} {ds : List Char} (h : SpellsHex c.toNat ds) (s : Rest) :
    escaped ('u' :: (ds ++ s)) = .ok (c, s) := by
  refine except_bind_ok (h.hexEscape_append s) ?_
  simp only [(not_surrogate c).1, (not_surrogate c).2, Char.ofNat_toNat]
  rfl

theorem escaped_pair {c : Char} {lead trail : Nat} {ds es : List Char}
    (hLead : isLeading lead = true) (hTrail : isTrailing trail = true)
    (hc : c.toNat = (lead - 0xD800) * 0x400 + (trail - 0xDC00) + 0x10000)
    (hds : SpellsHex lead ds) (hes : SpellsHex trail es) (s : Rest) :
    escaped ('u' :: (ds ++ '\\' :: 'u' :: (es ++ s))) = .ok (c, s) := by
  have hApart : isTrailing lead = false := by
    simp only [isLeading, Bool.and_eq_true, decide_eq_true_eq] at hLead
    simp only [isTrailing, Bool.and_eq_false_iff, decide_eq_false_iff_not]
    omega
  refine except_bind_ok (hds.hexEscape_append _) ?_
  simp only [hApart, hLead, if_true, Bool.false_eq_true, if_false]
  refine except_bind_ok (hes.hexEscape_append s) ?_
  simp only [hTrail, if_true, ← hc, Char.ofNat_toNat]

theorem SpellsChar.plain_or_escaped {c : Char} {u : List Char} (h : SpellsChar c u) :
    (u = [c] ∧ c ≠ '"' ∧ c ≠ '\\' ∧ 32 ≤ c.toNat) ∨
      ∃ e, u = '\\' :: e ∧ ∀ s, escaped (e ++ s) = .ok (c, s) := by
  cases h with
  | plain hQuote hSlash hControl => exact .inl ⟨rfl, hQuote, hSlash, hControl⟩
  | short h => exact .inr ⟨_, rfl, escaped_short h⟩
  | hex h => exact .inr ⟨_, rfl, escaped_hex h⟩
  | pair hLead hTrail hc hds hes =>
    refine .inr ⟨_, rfl, fun s => ?_⟩
    rw [List.cons_append, List.append_assoc]
    exact escaped_pair hLead hTrail hc hds hes s

theorem SpellsChar.stringChars_append {c : Char} {u : List Char} (h : SpellsChar c u) {bound : Nat}
    {s t : Rest} {cs : List Char} (hs : stringChars bound s = .ok (cs, t)) :
    stringChars (bound + 1) (u ++ s) = .ok (c :: cs, t) := by
  obtain ⟨rfl, hQuote, hSlash, hControl⟩ | ⟨e, rfl, hEscaped⟩ := h.plain_or_escaped
  · rw [List.singleton_append, stringChars, if_neg hQuote, if_neg hSlash,
      if_neg (Nat.not_lt.mpr hControl)]
    exact except_bind_ok hs rfl
  · rw [List.cons_append, stringChars, if_neg (by decide), if_pos rfl]
    refine except_bind_ok (hEscaped s) ?_
    exact except_bind_ok hs rfl

theorem SpellsChar.length_pos {c : Char} {u : List Char} (h : SpellsChar c u) : 0 < u.length := by
  cases h <;> exact Nat.succ_pos _

theorem SpellsChars.stringChars_append {cs u : List Char} (h : SpellsChars cs u) {bound : Nat}
    (hBound : u.length < bound) (s : Rest) : stringChars bound (u ++ '"' :: s) = .ok (cs, s) := by
  induction h generalizing bound with
  | nil =>
    obtain ⟨bound, rfl⟩ := Nat.exists_eq_add_of_lt hBound
    rfl
  | cons h _ ih =>
    have hPos := h.length_pos
    rw [List.length_append] at hBound
    obtain ⟨bound, rfl⟩ := Nat.exists_eq_add_of_lt (Nat.zero_lt_of_lt hBound)
    rw [List.append_assoc, Nat.zero_add]
    exact h.stringChars_append (ih (by omega))

theorem SpellsString.string_append {x : String} {t : List Char} (h : SpellsString x t) :
    ∃ u, t = '"' :: u ∧ ∀ s, string (u ++ s) = .ok (x, s) := by
  obtain ⟨h⟩ := h
  refine ⟨_, rfl, fun s => ?_⟩
  rw [List.append_assoc, List.singleton_append]
  refine except_bind_ok (h.stringChars_append ?_ s) ?_
  · simp only [List.length_append]
    omega
  · simp only [String.ofList_toList]

def extendsNumber (c : Char) : Bool :=
  isDigit c || c == '.' || c == 'e' || c == 'E'

def Stops (s : Rest) : Prop := ∀ c ∈ s.head?, extendsNumber c = false

theorem isDigit_of_mem_toDigits {n : Nat} {c : Char} (h : c ∈ Nat.toDigits 10 n) :
    isDigit c = true :=
  Nat.isDigit_of_mem_toDigits (by decide) (by decide) h

theorem eq_zero_of_toDigits {n : Nat} {cs : List Char} (h : Nat.toDigits 10 n = '0' :: cs) :
    n = 0 := by
  induction n using Nat.base_induction 10 (by decide) generalizing cs with
  | single n hn =>
    rw [Nat.toDigits_of_lt_base hn] at h
    have hDigit : ∀ n < 10, n.digitChar = '0' → n = 0 := by decide
    exact hDigit n hn (List.head_eq_of_cons_eq h)
  | digit n k hk hn ih =>
    rw [← Nat.toDigits_append_toDigits (by decide) hn hk] at h
    obtain ⟨c, ds, hDigits⟩ := List.exists_cons_of_ne_nil (Nat.toDigits_ne_nil (n := n) (b := 10))
    rw [hDigits, List.cons_append] at h
    rw [List.head_eq_of_cons_eq h] at hDigits
    exact absurd (ih hDigits) (Nat.ne_of_gt hn)

theorem digitRun_append {ds : List Char} (hDigits : ∀ c ∈ ds, isDigit c = true) {s : Rest}
    (hs : Stops s) : digitRun (ds ++ s) = (ds.map digitValue, s) := by
  rw [digitRun, List.takeWhile_append_of_pos hDigits, List.dropWhile_append_of_pos hDigits]
  cases s with
  | nil => simp
  | cons c s =>
    have hNot : ¬isDigit c = true := by
      intro hc
      have hStop := hs c rfl
      rw [extendsNumber, hc] at hStop
      cases hStop
    rw [List.takeWhile_cons_of_neg hNot, List.dropWhile_cons_of_neg hNot, List.append_nil]

theorem le_ofDigitChars (cs : List Char) (n : Nat) : n ≤ Nat.ofDigitChars 10 cs n := by
  induction cs generalizing n with
  | nil => exact Nat.le_refl n
  | cons c cs ih =>
    rw [Nat.ofDigitChars_cons]
    exact Nat.le_trans (by omega) (ih _)

theorem absorb_map_digitValue (cs : List Char) (n : Nat)
    (h : Nat.ofDigitChars 10 cs n < UInt64.size) :
    absorb n (cs.map digitValue) = (Nat.ofDigitChars 10 cs n, cs.length) := by
  induction cs generalizing n with
  | nil => rfl
  | cons c cs ih =>
    rw [Nat.ofDigitChars_cons] at h ⊢
    have hNext : n * 10 + digitValue c = 10 * n + (c.toNat - '0'.toNat) := by
      rw [Nat.mul_comm]
      rfl
    rw [List.map_cons, absorb, hNext, if_pos (Nat.lt_of_le_of_lt (le_ofDigitChars _ _) h), ih _ h]
    rfl

theorem eq_zero_char {c : Char} (hDigit : isDigit c = true) (hValue : digitValue c = 0) :
    c = '0' := by
  rw [isDigit, Bool.and_eq_true, decide_eq_true_eq, decide_eq_true_eq] at hDigit
  have hLe : 48 ≤ c.toNat := hDigit.1
  rw [digitValue] at hValue
  have hEq : c.toNat = 48 := by omega
  rw [← Char.ofNat_toNat c, hEq]

theorem digitValue_head_ne_zero {n : Nat} {c d : Char} {cs : List Char}
    (h : Nat.toDigits 10 n = c :: d :: cs) : digitValue c ≠ 0 := by
  intro hValue
  have hc : isDigit c = true :=
    isDigit_of_mem_toDigits (n := n) (by rw [h]; exact List.mem_cons_self)
  rw [eq_zero_char hc hValue] at h
  rw [eq_zero_of_toDigits h, Nat.toDigits_zero] at h
  cases h

theorem number_append {n : Nat} (hn : n < UInt64.size) (minus : Bool) {s : Rest} (hs : Stops s) :
    number minus (Nat.toDigits 10 n ++ s) = .ok (.ofInteger minus n, s) := by
  have hRun := digitRun_append (fun _ => isDigit_of_mem_toDigits (n := n)) hs
  have hAbsorb := absorb_map_digitValue (Nat.toDigits 10 n) 0
    (by rwa [Nat.ofDigitChars_ten_toDigits])
  rw [Nat.ofDigitChars_ten_toDigits] at hAbsorb
  obtain ⟨c, cs, hDigits⟩ := List.exists_cons_of_ne_nil (Nat.toDigits_ne_nil (n := n) (b := 10))
  unfold number
  rw [hRun]
  split
  case h_1 h | h_2 h =>
    rw [hDigits] at h
    cases h
  case h_3 h =>
    rw [hDigits] at h
    obtain ⟨hFirst, hNext⟩ := List.cons.inj (Prod.mk.inj h).1
    obtain ⟨d, ds, rfl, -, -⟩ := List.map_eq_cons_iff.mp hNext
    exact absurd hFirst (digitValue_head_ne_zero hDigits)
  case h_4 h =>
    cases h
    simp only [hAbsorb, List.length_map, Nat.sub_self]
    split
    case h_1 => cases hs '.' rfl
    case h_2 => cases hs 'e' rfl
    case h_3 => cases hs 'E' rfl
    case h_4 => rfl

theorem ident_append (cs : List Char) (s : Rest) : ident cs (cs ++ s) = .ok s := by
  induction cs with
  | nil => rfl
  | cons c cs ih => rw [List.cons_append, ident, if_pos rfl, ih]

theorem Blank.closeList_append {w : List Char} (h : Blank w) (s : Rest) :
    closeList (w ++ ']' :: s) = .ok s := by
  rw [closeList, h.dropBlanks_append rfl]
  rfl

theorem Blank.closeObject_append {w : List Char} (h : Blank w) (s : Rest) :
    closeObject (w ++ '\x7d' :: s) = .ok s := by
  rw [closeObject, h.dropBlanks_append rfl]
  rfl

theorem Blank.nextElement_append {w : List Char} (h : Blank w) (first : Bool) (s : Rest) :
    nextElement first (w ++ ']' :: s) = .ok none := by
  rw [nextElement, h.dropBlanks_append rfl]
  rfl

theorem Blank.nextKey_append {w : List Char} (h : Blank w) (first : Bool) (s : Rest) :
    nextKey first (w ++ '\x7d' :: s) = .ok none := by
  rw [nextKey, h.dropBlanks_append rfl]
  rfl

theorem Separates.nextElement_append {first : Bool} {sep : List Char} (h : Separates first sep)
    {c : Char} (hBlank : isBlank c = false) (hc : c ≠ ']') (s : Rest) :
    nextElement first (sep ++ c :: s) = .ok (some (c :: s)) := by
  cases h with
  | first hw =>
    rw [nextElement, hw.dropBlanks_append hBlank]
    split
    case h_1 h => cases h
    case h_2 h => exact absurd (List.head_eq_of_cons_eq h) hc
    case h_3 h =>
      cases h
      rfl
  | comma hw hv =>
    rw [List.append_assoc, List.cons_append, nextElement, hw.dropBlanks_append rfl]
    simp [hv.dropBlanks_append hBlank, hc]

theorem Separates.nextKey_append {first : Bool} {sep : List Char} (h : Separates first sep)
    (s : Rest) : nextKey first (sep ++ '"' :: s) = .ok (some s) := by
  cases h with
  | first hw =>
    rw [nextKey, hw.dropBlanks_append rfl]
    rfl
  | comma hw hv =>
    rw [List.append_assoc, List.cons_append, nextKey, hw.dropBlanks_append rfl]
    simp [hv.dropBlanks_append (c := '"') rfl]

theorem SpellsColon.colon_append {mid : List Char} (h : SpellsColon mid) :
    ∃ v, Blank v ∧ ∀ s, colon (mid ++ s) = .ok (v ++ s) := by
  obtain ⟨hw, hv⟩ := h
  refine ⟨_, hv, fun s => ?_⟩
  rw [List.append_assoc, List.cons_append, colon, hw.dropBlanks_append rfl]
  rfl

theorem exists_toDigits_eq_cons (n : Nat) :
    ∃ c cs, Nat.toDigits 10 n = c :: cs ∧ isDigit c = true := by
  obtain ⟨c, cs, h⟩ := List.exists_cons_of_ne_nil (Nat.toDigits_ne_nil (n := n) (b := 10))
  exact ⟨c, cs, h, isDigit_of_mem_toDigits (n := n) (by rw [h]; exact List.mem_cons_self)⟩

theorem eq_of_isBlank {c : Char} (h : isBlank c = true) :
    c = ' ' ∨ c = '\n' ∨ c = '\t' ∨ c = '\r' := by
  simpa [isBlank, or_assoc] using h

theorem not_isBlank_of_isDigit {c : Char} (h : isDigit c = true) : isBlank c = false := by
  refine Bool.eq_false_iff.mpr fun hBlank => ?_
  rcases eq_of_isBlank hBlank with rfl | rfl | rfl | rfl <;> cases h

theorem ne_bracket_of_isDigit {c : Char} (h : isDigit c = true) : c ≠ ']' := by
  rintro rfl
  cases h

theorem Spells.exists_eq_cons {j : Json} {t : List Char} (h : Spells j t) :
    ∃ c u, t = c :: u ∧ isBlank c = false ∧ c ≠ ']' := by
  have hDigits (n : Nat) (s : Rest) :
      ∃ c u, Nat.toDigits 10 n ++ s = c :: u ∧ isBlank c = false ∧ c ≠ ']' := by
    obtain ⟨c, cs, hEq, hc⟩ := exists_toDigits_eq_cons n
    rw [hEq]
    exact ⟨c, cs ++ s, rfl, not_isBlank_of_isDigit hc, ne_bracket_of_isDigit hc⟩
  cases h with
  | null => exact ⟨_, _, rfl, rfl, by decide⟩
  | bool b => cases b <;> exact ⟨_, _, rfl, rfl, by decide⟩
  | number n =>
    cases n with
    | natural n => simpa only [Number.render, List.append_nil] using hDigits n []
    | negative n => exact ⟨_, _, rfl, rfl, by decide⟩
    | real minus n k =>
      cases minus with
      | true => exact ⟨_, _, rfl, rfl, by decide⟩
      | false => exact hDigits n _
  | string h =>
    obtain ⟨h⟩ := h
    exact ⟨_, _, rfl, rfl, by decide⟩
  | list | object => exact ⟨_, _, rfl, rfl, by decide⟩

theorem Blank.stops_append {w : List Char} (h : Blank w) {s : Rest} (hs : Stops s) :
    Stops (w ++ s) := by
  cases w with
  | nil => exact hs
  | cons c w =>
    intro d hd
    cases hd
    rcases eq_of_isBlank (h c List.mem_cons_self) with rfl | rfl | rfl | rfl <;> rfl

theorem Separates.stops_append {sep : List Char} (h : Separates false sep) (s : Rest) :
    Stops (sep ++ s) := by
  cases h with
  | comma hw hv =>
    rw [List.append_assoc]
    exact hw.stops_append fun _ hd => by cases hd; rfl

theorem SpellsItems.stops_append {xs : List Json} {t : List Char} (h : SpellsItems false xs t)
    (s : Rest) : Stops (t ++ s) := by
  cases h with
  | close hw =>
    rw [List.append_assoc]
    exact hw.stops_append fun _ hd => by cases hd; rfl
  | item hSep =>
    rw [List.append_assoc]
    exact hSep.stops_append _

theorem SpellsMembers.stops_append {ms : List (String × Json)} {t : List Char}
    (h : SpellsMembers false ms t) (s : Rest) : Stops (t ++ s) := by
  cases h with
  | close hw =>
    rw [List.append_assoc]
    exact hw.stops_append fun _ hd => by cases hd; rfl
  | member hSep =>
    rw [List.append_assoc]
    exact hSep.stops_append _

/-- The value nests less than `depth` deep, and its numbers are integers of 64 bits. -/
inductive Fits : Nat → Json → Prop
  | null {depth : Nat} : Fits depth .null
  | bool {depth : Nat} {b : Bool} : Fits depth (.bool b)
  | natural {depth n : Nat} (hn : n < UInt64.size) : Fits depth (.num (.natural n))
  | negative {depth n : Nat} (hPos : 0 < n) (hn : n ≤ 0x8000000000000000) :
    Fits depth (.num (.negative n))
  | string {depth : Nat} {x : String} : Fits depth (.str x)
  | list {depth : Nat} {xs : List Json} (h : ∀ x ∈ xs, Fits (depth + 1) x) :
    Fits (depth + 2) (.arr xs)
  | object {depth : Nat} {ms : List (String × Json)} (h : ∀ m ∈ ms, Fits (depth + 1) m.2) :
    Fits (depth + 2) (.obj ms)

section Dispatch

variable {bound depth : Nat} {w : List Char} {s t : Rest}

theorem valueWithin_blank (hw : Blank w) {c : Char} (hc : isBlank c = false) :
    valueWithin (bound + 1) depth (w ++ c :: s) = valueWithin (bound + 1) depth (c :: s) := by
  rw [valueWithin, valueWithin, hw.dropBlanks_append hc, dropBlanks_cons hc]

theorem valueWithin_null (hw : Blank w) :
    valueWithin (bound + 1) depth (w ++ ("null".toList ++ s)) = .ok (.null, s) := by
  change valueWithin (bound + 1) depth (w ++ 'n' :: ("ull".toList ++ s)) = _
  rw [valueWithin_blank hw rfl]
  exact except_bind_ok (ident_append "ull".toList s) rfl

theorem valueWithin_bool (hw : Blank w) (b : Bool) :
    valueWithin (bound + 1) depth (w ++ ((toString b).toList ++ s)) = .ok (.bool b, s) := by
  cases b with
  | true =>
    change valueWithin (bound + 1) depth (w ++ 't' :: ("rue".toList ++ s)) = _
    rw [valueWithin_blank hw rfl]
    exact except_bind_ok (ident_append "rue".toList s) rfl
  | false =>
    change valueWithin (bound + 1) depth (w ++ 'f' :: ("alse".toList ++ s)) = _
    rw [valueWithin_blank hw rfl]
    exact except_bind_ok (ident_append "alse".toList s) rfl

theorem valueWithin_digit (hw : Blank w) {c : Char} (hc : isDigit c = true) {n : Number}
    (h : number false (c :: s) = .ok (n, t)) :
    valueWithin (bound + 1) depth (w ++ c :: s) = .ok (.num n, t) := by
  rw [valueWithin, hw.dropBlanks_append (not_isBlank_of_isDigit hc)]
  split
  case h_9 hEq =>
    cases hEq
    rw [if_pos hc]
    exact except_bind_ok h rfl
  -- no digit is one of the other marks
  all_goals
    rename_i hEq
    cases hEq <;> cases hc

theorem valueWithin_minus (hw : Blank w) {n : Number} (h : number true s = .ok (n, t)) :
    valueWithin (bound + 1) depth (w ++ '-' :: s) = .ok (.num n, t) := by
  rw [valueWithin_blank hw rfl]
  exact except_bind_ok h rfl

theorem valueWithin_string (hw : Blank w) {x : String} (h : string s = .ok (x, t)) :
    valueWithin (bound + 1) depth (w ++ '"' :: s) = .ok (.str x, t) := by
  rw [valueWithin_blank hw rfl]
  exact except_bind_ok h rfl

theorem valueWithin_list (hw : Blank w) {xs : List Json}
    (h : itemsWithin bound (depth + 1) true s = .ok (xs, t)) :
    valueWithin (bound + 1) (depth + 2) (w ++ '[' :: s) = .ok (.arr xs, t) := by
  rw [valueWithin_blank hw rfl]
  exact except_bind_ok h rfl

theorem valueWithin_object (hw : Blank w) {ms : List (String × Json)}
    (h : membersWithin bound (depth + 1) true s = .ok (ms, t)) :
    valueWithin (bound + 1) (depth + 2) (w ++ '\x7b' :: s) = .ok (.obj ms, t) := by
  rw [valueWithin_blank hw rfl]
  exact except_bind_ok h rfl

theorem valueWithin_number (hw : Blank w) {n : Number} (hn : Fits depth (.num n)) (hs : Stops s) :
    valueWithin (bound + 1) depth (w ++ (n.render ++ s)) = .ok (.num n, s) := by
  cases hn with
  | natural hn =>
    have hNumber := number_append hn false hs
    obtain ⟨c, cs, hEq, hc⟩ := exists_toDigits_eq_cons _
    rw [hEq, List.cons_append] at hNumber
    rw [Number.render, hEq]
    exact valueWithin_digit hw hc hNumber
  | negative hPos hn =>
    have hNumber := number_append (Nat.lt_of_le_of_lt hn (by decide)) true hs
    rw [Number.ofInteger, if_pos rfl, if_neg (by omega)] at hNumber
    exact valueWithin_minus hw hNumber

end Dispatch

theorem Spells.length_pos {j : Json} {t : List Char} (h : Spells j t) : 0 < t.length := by
  obtain ⟨_, _, rfl, -, -⟩ := h.exists_eq_cons
  exact Nat.succ_pos _

-- The reader uses its bound for how deep it goes and for how far it goes along a list, and both
-- together are less than two for each character.
mutual

theorem Spells.valueWithin_append (bound : Nat) {depth : Nat} {w t : List Char} {s : Rest} :
    {j : Json} → Spells j t → Fits depth j → 2 * t.length ≤ bound + 1 → Blank w → Stops s →
      valueWithin (bound + 1) depth (w ++ (t ++ s)) = .ok (j, s)
  | .null, .null, _, _, hw, _ => valueWithin_null hw
  | .bool _, .bool b, _, _, hw, _ => valueWithin_bool hw b
  | .num _, .number _, hFits, _, hw, hs => valueWithin_number hw hFits hs
  | .str _, .string h, _, _, hw, _ => by
    obtain ⟨u, rfl, hString⟩ := h.string_append
    exact valueWithin_string hw (hString s)
  | .arr xs, .list h, .list hFits, hBound, hw, _ => by
    rw [List.length_cons] at hBound
    exact valueWithin_list hw (h.itemsWithin_append _ hFits (by omega) s)
  | .obj ms, .object h, .object hFits, hBound, hw, _ => by
    rw [List.length_cons] at hBound
    exact valueWithin_object hw (h.membersWithin_append _ hFits (by omega) s)

theorem SpellsItems.itemsWithin_append (bound : Nat) {depth : Nat} {t : List Char}
    {first : Bool} :
    {xs : List Json} → SpellsItems first xs t → (∀ x ∈ xs, Fits depth x) → 2 * t.length < bound →
      (s : Rest) → itemsWithin bound depth first (t ++ s) = .ok (xs, s)
  | [], .close hw, _, hBound, s => by
    obtain ⟨bound, rfl⟩ := Nat.exists_eq_add_of_le' (Nat.one_le_of_lt hBound)
    rw [List.append_assoc]
    refine except_bind_ok (hw.nextElement_append first s) ?_
    exact except_bind_ok (hw.closeList_append s) rfl
  | x :: xs, .item hSep hx hxs, hFits, hBound, s => by
    have hPos := hx.length_pos
    rw [List.length_append, List.length_append] at hBound
    obtain ⟨bound, rfl⟩ := Nat.exists_eq_add_of_le' (show 2 ≤ bound by omega)
    have hFits := List.forall_mem_cons.mp hFits
    have hValue := hx.valueWithin_append bound hFits.1 (by omega) .nil (hxs.stops_append s)
    have hItems := hxs.itemsWithin_append (bound + 1) hFits.2 (by omega) s
    obtain ⟨c, u, rfl, hBlank, hc⟩ := hx.exists_eq_cons
    rw [List.append_assoc, List.append_assoc]
    refine except_bind_ok (hSep.nextElement_append hBlank hc _) ?_
    refine except_bind_ok hValue ?_
    exact except_bind_ok hItems rfl

theorem SpellsMembers.membersWithin_append (bound : Nat) {depth : Nat} {t : List Char}
    {first : Bool} :
    {ms : List (String × Json)} → SpellsMembers first ms t → (∀ m ∈ ms, Fits depth m.2) →
      2 * t.length < bound → (s : Rest) →
        membersWithin bound depth first (t ++ s) = .ok (ms, s)
  | [], .close hw, _, hBound, s => by
    obtain ⟨bound, rfl⟩ := Nat.exists_eq_add_of_le' (Nat.one_le_of_lt hBound)
    rw [List.append_assoc]
    refine except_bind_ok (hw.nextKey_append first s) ?_
    exact except_bind_ok (hw.closeObject_append s) rfl
  | (key, x) :: ms, .member hSep hKey hMid hx hms, hFits, hBound, s => by
    have hPos := hx.length_pos
    simp only [List.length_append] at hBound
    obtain ⟨bound, rfl⟩ := Nat.exists_eq_add_of_le' (show 2 ≤ bound by omega)
    have hFits := List.forall_mem_cons.mp hFits
    obtain ⟨v, hv, hColon⟩ := hMid.colon_append
    have hValue := hx.valueWithin_append bound hFits.1 (by omega) hv (hms.stops_append s)
    have hMembers := hms.membersWithin_append (bound + 1) hFits.2 (by omega) s
    obtain ⟨u, rfl, hString⟩ := hKey.string_append
    simp only [List.append_assoc]
    refine except_bind_ok (hSep.nextKey_append _) ?_
    refine except_bind_ok (hString _) ?_
    refine except_bind_ok (hColon _) ?_
    refine except_bind_ok hValue ?_
    exact except_bind_ok hMembers rfl

end

theorem Spells.value_append {j : Json} {t : List Char} (h : Spells j t) {depth : Nat}
    (hFits : Fits depth j) {w : List Char} (hw : Blank w) {s : Rest} (hs : Stops s) :
    value depth (w ++ (t ++ s)) = .ok (j, s) := by
  refine h.valueWithin_append _ hFits ?_ hw hs
  simp only [List.length_append]
  omega

end Highlight.Json
