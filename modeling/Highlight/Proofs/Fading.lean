import Mathlib.Data.List.TakeWhile
import Highlight.Text.Line

/-! # Texts without their color sequences

A color sequence is an escape character, a bracket, digits and an `m`. One text fades to another
when, wherever it stands, the other is left of it once the color sequences are left out. A text is
plain when it has no escape characters; it fades to itself.
-/

namespace Highlight

namespace Text

/-- The number of characters of the color sequence with which a text starts, if it starts with one:
an escape character, a bracket, digits and an `m`. -/
def colorLength? : List Char → Option Nat
  | '\x1b' :: '[' :: cs =>
    let digits := cs.takeWhile Char.isDigit
    if digits ≠ [] ∧ (cs.drop digits.length).head? = some 'm' then some (digits.length + 3)
    else none
  | _ => none

def uncoloredFrom : Nat → List Char → List Char
  | _, [] => []
  | skip + 1, _ :: cs => uncoloredFrom skip cs
  | 0, c :: cs =>
    match colorLength? (c :: cs) with
    | some n => uncoloredFrom (n - 1) cs
    | none => c :: uncoloredFrom 0 cs

def uncolored (s : String) : String :=
  String.ofList (uncoloredFrom 0 s.toList)

example : uncolored "\x1b[1m\x1b[36ma\x1b[0m\x1b[0mb\x1b[m\x1b[3" = "ab\x1b[m\x1b[3" := by decide

theorem colorLength?_eq_some_iff {cs : List Char} {n : Nat} :
    colorLength? cs = some n ↔ ∃ digits rest, digits ≠ [] ∧ (∀ c ∈ digits, c.isDigit = true) ∧
      cs = '\x1b' :: '[' :: (digits ++ 'm' :: rest) ∧ n = digits.length + 3 := by
  constructor
  · intro h
    rw [colorLength?.eq_def] at h
    split at h
    · rename_i cs
      dsimp only at h
      split at h
      · rename_i hSome
        obtain ⟨rest, hRest⟩ := List.head?_eq_some_iff.mp hSome.2
        refine ⟨cs.takeWhile Char.isDigit, rest, hSome.1, fun c hc => List.mem_takeWhile_imp hc, ?_,
          (Option.some.inj h).symm⟩
        rw [← hRest, List.prefix_iff_eq_append.mp (List.takeWhile_prefix Char.isDigit)]
      · cases h
    · cases h
  · rintro ⟨digits, rest, hSome, hDigits, rfl, rfl⟩
    have hTake : (digits ++ 'm' :: rest).takeWhile Char.isDigit = digits := by
      rw [List.takeWhile_append_of_pos hDigits, List.takeWhile_cons_of_neg (by decide),
        List.append_nil]
    simp [colorLength?, hTake, hSome]

theorem uncoloredFrom_length_append (cs rest : List Char) :
    uncoloredFrom cs.length (cs ++ rest) = uncoloredFrom 0 rest := by
  induction cs with
  | nil => rfl
  | cons c cs ih => exact ih

/-- Wherever `s` stands in a text, `t` is left of it when color sequences are left out. -/
def FadesTo (s t : String) : Prop :=
  ∀ rest, uncoloredFrom 0 (s.toList ++ rest) = t.toList ++ uncoloredFrom 0 rest

abbrev Plain (s : String) : Prop := '\x1b' ∉ s.toList

variable {s t u v : String}

theorem FadesTo.uncolored_eq (h : FadesTo s t) : uncolored s = t := by
  have hAlone := h []
  rw [List.append_nil, uncoloredFrom, List.append_nil] at hAlone
  rw [uncolored, hAlone, String.ofList_toList]

theorem FadesTo.append (h : FadesTo s t) (h' : FadesTo u v) : FadesTo (s ++ u) (t ++ v) := by
  intro rest
  rw [String.toList_append, List.append_assoc, h, h', String.toList_append, List.append_assoc]

theorem Plain.fades (h : Plain s) : FadesTo s s := by
  intro rest
  rw [Plain] at h
  generalize s.toList = cs at h ⊢
  induction cs with
  | nil => rfl
  | cons c cs ih =>
    rw [List.mem_cons, not_or] at h
    have hNone : colorLength? (c :: (cs ++ rest)) = none := by
      rw [Option.eq_none_iff_forall_ne_some]
      intro n hn
      obtain ⟨_, _, -, -, hEq, -⟩ := colorLength?_eq_some_iff.mp hn
      exact h.1 (List.cons.inj hEq).1.symm
    rw [List.cons_append, uncoloredFrom, hNone, List.cons_append, ← ih h.2]

theorem plain_of_forall (h : ∀ c ∈ s.toList, c ≠ '\x1b') : Plain s :=
  fun hMem => h _ hMem rfl

theorem ne_escape_of_isDigit {c : Char} (h : c.isDigit = true) : c ≠ '\x1b' := by
  rintro rfl
  exact absurd h (by decide)

theorem plain_toString (n : Nat) : Plain (toString n) := by
  refine plain_of_forall fun c hc => ?_
  have hDigit : c ∈ Nat.toDigits 10 n := by simpa using hc
  exact ne_escape_of_isDigit (Nat.isDigit_of_mem_toDigits (by decide) (by decide) hDigit)

theorem mem_of_mem_closeLine {current : List Char} {x : Char} (h : x ∈ closeLine current) :
    x ∈ current := by
  rw [closeLine.eq_def] at h
  split at h
  · exact List.mem_cons_of_mem _ (List.mem_reverse.mp h)
  · exact List.mem_reverse.mp h

theorem mem_of_mem_splitLines {current cs line : List Char} (h : line ∈ splitLines current cs)
    {x : Char} (hx : x ∈ line) : x ∈ current ∨ x ∈ cs := by
  induction cs generalizing current with
  | nil =>
    rw [splitLines] at h
    split at h
    · exact absurd h List.not_mem_nil
    · rw [List.mem_singleton.mp h] at hx
      exact .inl (List.mem_reverse.mp hx)
  | cons c cs ih =>
    rw [splitLines] at h
    split at h
    · rcases List.mem_cons.mp h with rfl | h
      · exact .inl (mem_of_mem_closeLine hx)
      · exact .inr (List.mem_cons_of_mem c ((ih h).resolve_left List.not_mem_nil))
    · rcases ih h with hOpen | hRest
      · rcases List.mem_cons.mp hOpen with rfl | hOpen
        · exact .inr List.mem_cons_self
        · exact .inl hOpen
      · exact .inr (List.mem_cons_of_mem c hRest)

theorem Plain.of_mem_lines {text line : String} (h : Plain text) (hLine : line ∈ lines text) :
    Plain line := by
  obtain ⟨cs, hcs, rfl⟩ := List.mem_map.mp hLine
  intro hMem
  rw [String.toList_ofList] at hMem
  exact h ((mem_of_mem_splitLines hcs hMem).resolve_left List.not_mem_nil)

theorem plain_append_iff : Plain (s ++ t) ↔ Plain s ∧ Plain t := by
  rw [Plain, String.toList_append, List.mem_append, not_or]

theorem plain_append (hs : Plain s) (ht : Plain t) : Plain (s ++ t) :=
  plain_append_iff.mpr ⟨hs, ht⟩

theorem plain_join {xs : List String} (h : ∀ x ∈ xs, Plain x) : Plain (String.join xs) := by
  induction xs with
  | nil => decide
  | cons x xs ih =>
    rw [String.join_cons]
    exact plain_append (h x List.mem_cons_self) (ih fun y hy => h y (List.mem_cons_of_mem x hy))

theorem plain_intercalate (hs : Plain s) {xs : List String} (h : ∀ x ∈ xs, Plain x) :
    Plain (s.intercalate xs) := by
  induction xs with
  | nil => exact List.not_mem_nil
  | cons x xs ih =>
    obtain ⟨hFirst, hRest⟩ := List.forall_mem_cons.mp h
    cases xs with
    | nil => simpa using hFirst
    | cons y xs =>
      rw [String.intercalate_cons_cons]
      exact plain_append (plain_append hFirst hs) (ih hRest)

end Text

end Highlight
