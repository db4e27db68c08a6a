import Mathlib.Logic.Relation
import Highlight.Text.Line

/-! # Later places of a line

One cursor reaches another if the second one is got from the first by passing characters. What can
be reached from the start of a line stands between two of its characters, and its distance in bytes
from the end is the size of what follows.
-/

namespace Highlight.Text.Cursor

def Reaches : Cursor → Cursor → Prop :=
  Relation.ReflTransGen fun c d => ∃ x, c.next? = some (x, d)

theorem next?_eq_some_iff {c d : Cursor} {x : Char} :
    c.next? = some (x, d) ↔ c.rest = x :: d.rest ∧ d = ⟨some x, c.offset + x.utf8Size, d.rest⟩ := by
  obtain ⟨before, offset, rest⟩ := c
  cases rest with
  | nil => simp [next?]
  | cons y ys =>
    simp only [next?, Option.some.injEq, Prod.mk.injEq, List.cons.injEq]
    constructor
    · rintro ⟨rfl, rfl⟩
      exact ⟨⟨rfl, rfl⟩, rfl⟩
    · rintro ⟨⟨rfl, rfl⟩, hd⟩
      exact ⟨rfl, hd.symm⟩

namespace Reaches

variable {c d e : Cursor} {x : Char}

@[refl] theorem refl (c : Cursor) : c.Reaches c := Relation.ReflTransGen.refl

theorem trans (h : c.Reaches d) (h' : d.Reaches e) : c.Reaches e :=
  Relation.ReflTransGen.trans h h'

theorem of_next (h : c.next? = some (x, d)) : c.Reaches d :=
  Relation.ReflTransGen.single ⟨x, h⟩

theorem advance (c : Cursor) : c.Reaches c.advance := by
  unfold Cursor.advance
  split
  · exact refl c
  · rename_i h
    exact of_next h

theorem exists_append (h : c.Reaches d) :
    ∃ mid, c.rest = mid ++ d.rest ∧ d.offset = c.offset + (String.ofList mid).utf8ByteSize := by
  induction h with
  | refl => exact ⟨[], rfl, by simp⟩
  | tail _ hNext ih =>
    obtain ⟨x, hNext⟩ := hNext
    obtain ⟨hRest, hd⟩ := next?_eq_some_iff.mp hNext
    obtain ⟨mid, hMid, hOffset⟩ := ih
    refine ⟨mid ++ [x], by rw [hMid, hRest, List.append_assoc]; rfl, ?_⟩
    rw [hd, hOffset, String.ofList_append, String.utf8ByteSize_append, Nat.add_assoc]
    simp

theorem offset_le (h : c.Reaches d) : c.offset ≤ d.offset := by
  obtain ⟨_, _, hOffset⟩ := h.exists_append
  omega

theorem offset_add_size (h : c.Reaches d) :
    d.offset + (String.ofList d.rest).utf8ByteSize =
      c.offset + (String.ofList c.rest).utf8ByteSize := by
  obtain ⟨mid, hRest, hOffset⟩ := h.exists_append
  rw [hRest, hOffset, String.ofList_append, String.utf8ByteSize_append, Nat.add_assoc]

theorem length_lt (h : c.Reaches d) (hOffset : c.offset < d.offset) :
    d.rest.length < c.rest.length := by
  obtain ⟨mid, hRest, hSize⟩ := h.exists_append
  cases mid with
  | nil =>
    rw [String.ofList_nil, String.utf8ByteSize_empty] at hSize
    omega
  | cons x mid =>
    rw [hRest, List.length_append, List.length_cons]
    omega

end Reaches

theorem utf8ByteSize_ofList_cons (c : Char) (cs : List Char) :
    (String.ofList (c :: cs)).utf8ByteSize = c.utf8Size + (String.ofList cs).utf8ByteSize := by
  rw [String.ofList_cons, String.utf8ByteSize_append, String.utf8ByteSize_singleton]

theorem utf8ByteSize_ofList_pos {cs : List Char} (h : cs ≠ []) :
    0 < (String.ofList cs).utf8ByteSize := by
  apply Nat.pos_of_ne_zero
  intro hZero
  have hEmpty := congrArg String.toList (String.utf8ByteSize_eq_zero_iff.mp hZero)
  exact h (by simpa using hEmpty)

theorem Reaches.offset_lt {c d : Cursor} (h : c.Reaches d) (hLength : d.rest.length < c.rest.length) :
    c.offset < d.offset := by
  obtain ⟨mid, hRest, hSize⟩ := h.exists_append
  have hMid : mid ≠ [] := by
    rintro rfl
    simp [hRest] at hLength
  have hPos := utf8ByteSize_ofList_pos hMid
  omega

theorem Reaches.rest_ne_nil {c d e : Cursor} (hd : c.Reaches d) (he : c.Reaches e)
    (h : d.offset < e.offset) : d.rest ≠ [] := by
  intro hNil
  have hSum := hd.offset_add_size.trans he.offset_add_size.symm
  rw [hNil, String.ofList_nil, String.utf8ByteSize_empty] at hSum
  omega

theorem offset_lt_advance {c : Cursor} (h : c.rest ≠ []) : c.offset < c.advance.offset := by
  obtain ⟨before, offset, rest⟩ := c
  cases rest with
  | nil => exact absurd rfl h
  | cons x xs =>
    have hSize := x.utf8Size_pos
    simp only [advance, next?]
    omega

section Line

variable {line : String} {c : Cursor}

theorem isValid_offset (h : (ofLine line).Reaches c) : String.Pos.Raw.IsValid line ⟨c.offset⟩ := by
  obtain ⟨mid, hLine, hOffset⟩ := h.exists_append
  rw [String.Pos.Raw.isValid_iff_exists_append]
  refine ⟨String.ofList mid, String.ofList c.rest, ?_, ?_⟩
  · rw [← String.ofList_append, ← hLine]
    simp [ofLine]
  · rw [String.Pos.Raw.ext_iff, hOffset]
    exact Nat.zero_add _

theorem offset_add_size_eq (h : (ofLine line).Reaches c) :
    c.offset + (String.ofList c.rest).utf8ByteSize = line.utf8ByteSize := by
  rw [h.offset_add_size]
  simp [ofLine]

theorem offset_lt_size (h : (ofLine line).Reaches c) (hRest : c.rest ≠ []) :
    c.offset < line.utf8ByteSize := by
  have hSum := offset_add_size_eq h
  have hPos := utf8ByteSize_ofList_pos hRest
  omega

end Line

def charStarts (n : Nat) : List Char → List Nat
  | [] => []
  | x :: xs => n :: charStarts (n + x.utf8Size) xs

@[simp] theorem length_charStarts (n : Nat) (cs : List Char) :
    (charStarts n cs).length = cs.length := by
  induction cs generalizing n with
  | nil => rfl
  | cons x xs ih => simp [charStarts, ih]

theorem Reaches.mem_charStarts {c d : Cursor} (h : c.Reaches d) (hRest : d.rest ≠ []) :
    d.offset ∈ charStarts c.offset c.rest := by
  induction h using Relation.ReflTransGen.head_induction_on with
  | refl =>
    obtain ⟨x, xs, hx⟩ := List.exists_cons_of_ne_nil hRest
    simp [hx, charStarts]
  | head hNext _ ih =>
    obtain ⟨x, hNext⟩ := hNext
    obtain ⟨hRest', hd⟩ := next?_eq_some_iff.mp hNext
    rw [hd] at ih
    rw [hRest', charStarts]
    exact List.mem_cons_of_mem _ ih

end Highlight.Text.Cursor
