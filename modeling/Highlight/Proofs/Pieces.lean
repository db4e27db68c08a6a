import Highlight.Proofs.Coverage
import Highlight.Report.Text

/-! # Pieces of a line

A report cuts a line where its spans start. The first span of a tokenized line starts where the line
starts, and the others follow in order, each at a place between two characters. So every piece
reaches to the next one, and the pieces put together are the line.
-/

namespace Highlight

namespace Text

section Characters

variable {n a b c : Nat} {cs : List Char}

theorem sliceFrom_append (n a b : Nat) (cs ds : List Char) :
    sliceFrom n a b (cs ++ ds) =
      sliceFrom n a b cs ++ sliceFrom (n + (String.ofList cs).utf8ByteSize) a b ds := by
  induction cs generalizing n with
  | nil => simp [sliceFrom]
  | cons x cs ih =>
    rw [List.cons_append, sliceFrom, sliceFrom, ih, Cursor.utf8ByteSize_ofList_cons, Nat.add_assoc]
    split <;> rfl

theorem sliceFrom_eq_nil (h : b ≤ n) : sliceFrom n a b cs = [] := by
  induction cs generalizing n with
  | nil => rfl
  | cons x cs ih =>
    rw [sliceFrom, if_neg (by omega)]
    exact ih (by omega)

theorem sliceFrom_eq_self (hStart : a ≤ n) (hStop : n + (String.ofList cs).utf8ByteSize ≤ b) :
    sliceFrom n a b cs = cs := by
  induction cs generalizing n with
  | nil => rfl
  | cons x cs ih =>
    have hSize := x.utf8Size_pos
    rw [Cursor.utf8ByteSize_ofList_cons] at hStop
    rw [sliceFrom, if_pos (by omega), ih (by omega) (by omega)]

theorem sliceFrom_append_sliceFrom (hab : a ≤ b) (hbc : b ≤ c) :
    sliceFrom n a b cs ++ sliceFrom n b c cs = sliceFrom n a c cs := by
  induction cs generalizing n with
  | nil => rfl
  | cons x cs ih =>
    rw [sliceFrom, sliceFrom, sliceFrom, ← ih]
    by_cases hBefore : n < b
    · have hSecond : ¬(b ≤ n ∧ n < c) := by omega
      rw [if_neg hSecond]
      by_cases hFirst : a ≤ n
      · rw [if_pos ⟨hFirst, hBefore⟩, if_pos (by omega), List.cons_append]
      · rw [if_neg (by omega), if_neg (by omega)]
    · -- The first slice has ended here, and its rest is empty.
      rw [if_neg (by omega), sliceFrom_eq_nil (by omega), List.nil_append, List.nil_append]
      by_cases hSecond : n < c
      · rw [if_pos (by omega), if_pos (by omega)]
      · rw [if_neg (by omega), if_neg (by omega)]

theorem mem_of_mem_sliceFrom {x : Char} (h : x ∈ sliceFrom n a b cs) : x ∈ cs := by
  induction cs generalizing n with
  | nil => exact h
  | cons y cs ih =>
    rw [sliceFrom] at h
    split at h
    · rcases List.mem_cons.mp h with rfl | h
      · exact List.mem_cons_self
      · exact List.mem_cons_of_mem y (ih h)
    · exact List.mem_cons_of_mem y (ih h)

end Characters

section Texts

variable {s : String} {a b c : Nat}

theorem slice_append_slice (s : String) (hab : a ≤ b) (hbc : b ≤ c) :
    slice s a b ++ slice s b c = slice s a c := by
  rw [slice, slice, ← String.ofList_append, sliceFrom_append_sliceFrom hab hbc, slice]

theorem slice_append_left (t u : String) : slice (t ++ u) 0 t.utf8ByteSize = t := by
  have hSize : 0 + (String.ofList t.toList).utf8ByteSize = t.utf8ByteSize := by simp
  rw [slice, String.toList_append, sliceFrom_append,
    sliceFrom_eq_self (Nat.le_refl 0) (Nat.le_of_eq hSize),
    sliceFrom_eq_nil (Nat.le_of_eq hSize.symm), List.append_nil, String.ofList_toList]

theorem slice_all (s : String) : slice s 0 s.utf8ByteSize = s := by
  simpa using slice_append_left s ""

theorem utf8ByteSize_slice (h : String.Pos.Raw.IsValid s ⟨a⟩) : (slice s 0 a).utf8ByteSize = a := by
  obtain ⟨t, u, rfl, hEnd⟩ := String.Pos.Raw.isValid_iff_exists_append.mp h
  obtain rfl : a = t.utf8ByteSize := congrArg String.Pos.Raw.byteIdx hEnd
  rw [slice_append_left]

theorem le_size_of_isValid (h : String.Pos.Raw.IsValid s ⟨a⟩) : a ≤ s.utf8ByteSize :=
  h.le_rawEndPos

/-- The piece is the part of the text from the byte `a` to the byte `b`, and both are places between
characters. -/
def Cuts (s : String) (a b : Nat) (piece : String) : Prop :=
  ∃ before after, s = before ++ piece ++ after ∧ before.utf8ByteSize = a ∧
    (before ++ piece).utf8ByteSize = b

theorem cuts_slice (hLe : a ≤ b) (ha : String.Pos.Raw.IsValid s ⟨a⟩)
    (hb : String.Pos.Raw.IsValid s ⟨b⟩) : Cuts s a b (slice s a b) := by
  have hStop := le_size_of_isValid hb
  have hFirst := slice_append_slice s (Nat.zero_le a) hLe
  refine ⟨slice s 0 a, slice s b s.utf8ByteSize, ?_, utf8ByteSize_slice ha, ?_⟩
  · rw [hFirst, slice_append_slice s (Nat.zero_le b) hStop, slice_all]
  · rw [hFirst, utf8ByteSize_slice hb]

end Texts

end Text

namespace Report

variable {line : String} {spans : List Span}

theorem getElem?_pieces (n : Nat) :
    (pieces line spans)[n]? = spans[n]?.map fun s =>
      (Text.slice line s.start ((spans[n + 1]?.map (·.start)).getD line.utf8ByteSize), s.tag) := by
  induction spans using extents.induct generalizing n with
  | case1 => simp [pieces]
  | case2 s => cases n <;> simp [pieces]
  | case3 s t spans ih =>
    cases n with
    | zero => simp [pieces]
    | succ n => simpa [pieces] using ih n

theorem length_pieces : (pieces line spans).length = spans.length := by
  induction spans using extents.induct with
  | case1 => rfl
  | case2 s => rfl
  | case3 s t spans ih => exact congrArg Nat.succ ih

theorem mem_of_mem_pieces {p : String × String} (h : p ∈ pieces line spans) :
    ∀ x ∈ p.1.toList, x ∈ line.toList := by
  obtain ⟨n, hn⟩ := List.getElem?_of_mem h
  rw [getElem?_pieces] at hn
  obtain ⟨s, -, rfl⟩ := Option.map_eq_some_iff.mp hn
  intro x hx
  rw [Text.slice, String.toList_ofList] at hx
  exact Text.mem_of_mem_sliceFrom hx

theorem join_pieces {s : Span} (hIncreasing : (s :: spans).Pairwise (·.start < ·.start))
    (hStop : ∀ t ∈ s :: spans, t.start ≤ line.utf8ByteSize) :
    String.join ((pieces line (s :: spans)).map Prod.fst) =
      Text.slice line s.start line.utf8ByteSize := by
  induction spans generalizing s with
  | nil => simp [pieces]
  | cons t spans ih =>
    obtain ⟨hFirst, hIncreasing⟩ := List.pairwise_cons.mp hIncreasing
    have hRest := (List.forall_mem_cons.mp hStop).2
    have hLe := Nat.le_of_lt (hFirst t List.mem_cons_self)
    rw [pieces, List.map_cons, String.join_cons, ih hIncreasing hRest,
      Text.slice_append_slice line hLe (hRest t List.mem_cons_self)]

theorem paintTag_false (tag text : String) : paintTag false tag text = text :=
  List.foldl_fixed' (fun _ => rfl) _

theorem renderLine_false (line : String) (spans : List Span) :
    renderLine false line spans = String.join ((pieces line spans).map Prod.fst) := by
  rw [renderLine]
  congr 2
  funext p
  exact paintTag_false p.2 p.1

/-- The spans cut the line into pieces with their tags. Nothing is lost between the pieces, and
without colors the report shows them as they are. -/
structure Renders (line : String) (spans : List Span) : Prop where
  length_eq : (pieces line spans).length = spans.length
  cuts : ∀ (n : Nat) (s : Span), spans[n]? = some s → ∃ piece,
    (pieces line spans)[n]? = some (piece, s.tag) ∧
      Text.Cuts line s.start ((spans[n + 1]?.map (·.start)).getD line.utf8ByteSize) piece
  join_eq : String.join ((pieces line spans).map Prod.fst) = line
  plain_eq : renderLine false line spans = line

/-- The spans start at places between characters of the line, the first one where the line starts,
and each one after those before it. -/
structure Ordered (line : String) (spans : List Span) : Prop where
  first : spans.head?.map (·.start) = some 0
  increasing : spans.Pairwise (·.start < ·.start)
  boundary : ∀ s ∈ spans, String.Pos.Raw.IsValid line ⟨s.start⟩

theorem Ordered.cuts (h : Ordered line spans) {n : Nat} {s : Span} (hs : spans[n]? = some s) :
    Text.Cuts line s.start ((spans[n + 1]?.map (·.start)).getD line.utf8ByteSize)
      (Text.slice line s.start ((spans[n + 1]?.map (·.start)).getD line.utf8ByteSize)) := by
  have hValid := h.boundary s (List.mem_of_getElem? hs)
  cases hNext : spans[n + 1]? with
  | none =>
    exact Text.cuts_slice (Text.le_size_of_isValid hValid) hValid String.Pos.Raw.isValid_rawEndPos
  | some t =>
    obtain ⟨hi, rfl⟩ := List.getElem?_eq_some_iff.mp hs
    obtain ⟨hj, rfl⟩ := List.getElem?_eq_some_iff.mp hNext
    have hLt := List.pairwise_iff_getElem.mp h.increasing n (n + 1) hi hj (Nat.lt_succ_self n)
    exact Text.cuts_slice (Nat.le_of_lt hLt) hValid (h.boundary _ (List.mem_of_getElem? hNext))

theorem Ordered.renders (h : Ordered line spans) : Renders line spans := by
  have hJoin : String.join ((pieces line spans).map Prod.fst) = line := by
    obtain ⟨s, hs, hStart⟩ := Option.map_eq_some_iff.mp h.first
    obtain ⟨rest, rfl⟩ := List.head?_eq_some_iff.mp hs
    rw [join_pieces h.increasing fun t ht => Text.le_size_of_isValid (h.boundary t ht), hStart,
      Text.slice_all]
  exact {
    length_eq := length_pieces
    cuts := fun n s hs => ⟨_, by rw [getElem?_pieces, hs, Option.map_some], h.cuts hs⟩
    join_eq := hJoin
    plain_eq := (renderLine_false line spans).trans hJoin }

end Report

theorem Grammar.ordered_tokenizeLine (g : Grammar) (stack : StateStack) (line : String) :
    Report.Ordered line (g.tokenizeLine stack line).spans := by
  by_cases hLine : line = ""
  · subst hLine
    rw [tokenizeLine_empty]
    constructor <;> simp
  · obtain ⟨_, _, hFills⟩ := g.fills_tokenizeLine stack hLine
    refine ⟨hFills.first, hFills.increasing, fun s hs => ?_⟩
    obtain ⟨_, _, hReaches, hStart⟩ := hFills.inside s hs
    exact hStart ▸ Text.Cursor.isValid_offset hReaches

end Highlight
