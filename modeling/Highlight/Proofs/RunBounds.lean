import Highlight.Proofs.Coverage
import Highlight.Proofs.StackSafety

/-! # A run is no larger than its text

Every step passes a character and pushes at most one state. So the lines, the spans, the fallbacks
and the greatest depth of a run are bounded by the bytes of the text, each line counted with one
byte more for its end.
-/

namespace Highlight

open Text

namespace Text

def lineBytes : List String → Nat
  | [] => 0
  | line :: lines => line.utf8ByteSize + 1 + lineBytes lines

theorem utf8ByteSize_ofList_reverse (cs : List Char) :
    (String.ofList cs.reverse).utf8ByteSize = (String.ofList cs).utf8ByteSize := by
  induction cs with
  | nil => rfl
  | cons c cs ih =>
    rw [List.reverse_cons, String.ofList_append, String.utf8ByteSize_append, ih,
      Cursor.utf8ByteSize_ofList_cons, Cursor.utf8ByteSize_ofList_cons, String.ofList_nil,
      String.utf8ByteSize_empty]
    omega

theorem length_le_utf8ByteSize (cs : List Char) :
    cs.length ≤ (String.ofList cs).utf8ByteSize := by
  induction cs with
  | nil => exact Nat.zero_le _
  | cons c cs ih =>
    have hPos := c.utf8Size_pos
    rw [List.length_cons, Cursor.utf8ByteSize_ofList_cons]
    omega

theorem utf8ByteSize_closeLine_le (current : List Char) :
    (String.ofList (closeLine current)).utf8ByteSize ≤ (String.ofList current).utf8ByteSize := by
  unfold closeLine
  split
  · rw [utf8ByteSize_ofList_reverse, Cursor.utf8ByteSize_ofList_cons]
    exact Nat.le_add_left _ _
  · rw [utf8ByteSize_ofList_reverse]

theorem lineBytes_splitLines_le (current cs : List Char) :
    lineBytes ((splitLines current cs).map String.ofList) ≤
      (String.ofList current).utf8ByteSize + (String.ofList cs).utf8ByteSize + 1 := by
  induction cs generalizing current with
  | nil =>
    rw [splitLines]
    split
    · exact Nat.zero_le _
    · rw [List.map_singleton, lineBytes, utf8ByteSize_ofList_reverse]
      exact Nat.le_of_eq (Nat.add_right_comm _ _ _)
  | cons c cs ih =>
    rw [splitLines, Cursor.utf8ByteSize_ofList_cons]
    split
    · have hClose := utf8ByteSize_closeLine_le current
      have hRest := ih []
      have hPos := c.utf8Size_pos
      rw [String.ofList_nil, String.utf8ByteSize_empty] at hRest
      rw [List.map_cons, lineBytes]
      omega
    · have hRest := ih (c :: current)
      rw [Cursor.utf8ByteSize_ofList_cons] at hRest
      omega

theorem lineBytes_lines_le (text : String) : lineBytes (lines text) ≤ text.utf8ByteSize + 1 := by
  have hLines := lineBytes_splitLines_le [] text.toList
  rwa [String.ofList_nil, String.utf8ByteSize_empty, Nat.zero_add, String.ofList_toList] at hLines

end Text

theorem StateStack.depth_apply_le_succ (s : StateStack) (limit : Nat) (e : Effect) :
    (s.apply limit e).depth ≤ s.depth + 1 := by
  cases e with
  | stay => exact Nat.le_succ _
  | push id =>
    rw [apply]
    split
    · exact Nat.le_succ _
    · exact Nat.le_refl _
  | pop =>
    simp only [apply, pop, depth, List.length_tail]
    omega
  | switch id =>
    obtain ⟨bottom, above⟩ := s
    cases above <;> exact Nat.le_succ _
  | popAll => exact Nat.le_add_left 1 _

namespace Grammar

variable (g : Grammar) (stack : StateStack) (line : String)

theorem depth_step_le_succ (c : Cursor) : (g.step stack c).stack.depth ≤ stack.depth + 1 := by
  obtain ⟨_, rule, _, _, _, _, hStep⟩ | ⟨_, hStep⟩ := g.step_cases stack c <;> rw [hStep]
  · exact stack.depth_apply_le_succ g.depthLimit rule.effect
  · exact Nat.le_succ _

theorem length_stepsFrom_le (bound : Nat) (c : Cursor) :
    (g.stepsFrom bound stack c).length ≤ bound := by
  induction bound generalizing stack c with
  | zero => exact Nat.le_refl 0
  | succ bound ih =>
    rw [stepsFrom]
    split
    · exact Nat.zero_le _
    · exact Nat.succ_le_succ (ih _ _)

theorem depth_le_of_mem_stepsFrom {bound : Nat} {c : Cursor} {s : Step}
    (hs : s ∈ g.stepsFrom bound stack c) : s.stack.depth ≤ stack.depth + bound := by
  induction bound generalizing stack c with
  | zero => exact absurd hs List.not_mem_nil
  | succ bound ih =>
    rw [stepsFrom] at hs
    split at hs
    · exact absurd hs List.not_mem_nil
    · have hFirst := g.depth_step_le_succ stack c
      rcases List.mem_cons.mp hs with rfl | hs
      · omega
      · have hRest := ih _ hs
        omega

theorem length_steps_le : (g.steps stack line).length ≤ line.utf8ByteSize := by
  have hRest := length_le_utf8ByteSize line.toList
  rw [String.ofList_toList] at hRest
  exact Nat.le_trans (g.length_stepsFrom_le _ _ _) hRest

theorem peakDepth_le_add : peakDepth (g.enter stack) (g.steps stack line) ≤
    (g.enter stack).depth + line.utf8ByteSize := by
  have hRest := length_le_utf8ByteSize line.toList
  rw [String.ofList_toList] at hRest
  refine peakDepth_le_iff.mpr ⟨Nat.le_add_right _ _, fun s hs => ?_⟩
  exact Nat.le_trans (g.depth_le_of_mem_stepsFrom _ hs) (Nat.add_le_add_left hRest _)

theorem depth_enter_le : (g.enter stack).depth ≤ stack.depth := by
  unfold enter
  split
  · exact Nat.le_refl _
  · exact stack.one_le_depth

theorem length_spans_le : (g.tokenizeLine stack line).spans.length ≤ line.utf8ByteSize + 1 := by
  by_cases hLine : line = ""
  · subst hLine
    exact Nat.le_refl 1
  · obtain ⟨d, -, hFills⟩ := g.fills_tokenizeLine stack hLine
    have hRest := length_le_utf8ByteSize line.toList
    rw [String.ofList_toList, String.length_toList] at hRest
    exact Nat.le_trans hFills.length_le (Nat.le_succ_of_le hRest)

theorem start_le_of_mem_spans {s : Span} (hs : s ∈ (g.tokenizeLine stack line).spans) :
    s.start ≤ line.utf8ByteSize := by
  by_cases hLine : line = ""
  · subst hLine
    rw [tokenizeLine_empty] at hs
    rw [List.mem_singleton.mp hs]
    exact Nat.zero_le _
  · obtain ⟨d, -, hFills⟩ := g.fills_tokenizeLine stack hLine
    have hEnd := Cursor.offset_add_size_eq hFills.reaches
    have hLt := (hFills.inside s hs).1
    omega

theorem start_le_of_mem_tokenizeLines {stack : StateStack} {lines : List String}
    {t : TokenizedLine} (ht : t ∈ g.tokenizeLines stack lines) {s : Span} (hs : s ∈ t.spans) :
    s.start ≤ lineBytes lines := by
  induction lines generalizing stack with
  | nil => exact absurd ht List.not_mem_nil
  | cons line lines ih =>
    rw [lineBytes]
    rcases List.mem_cons.mp ht with rfl | ht
    · have hLe := g.start_le_of_mem_spans stack line hs
      omega
    · have hLe := ih ht
      omega

end Grammar

structure Counters.Within (n : Counters) (bound : Nat) : Prop where
  lines_le : n.lines ≤ bound
  spans_le : n.spans ≤ bound
  fallbacks_le : n.fallbacks ≤ bound
  maxDepth_le : n.maxDepth ≤ bound

namespace Grammar

variable (g : Grammar)

theorem within_runLines {stack : StateStack} {n : Counters} {bound : Nat} (hn : n.Within bound)
    (hDepth : stack.depth ≤ bound) (lines : List String) :
    (g.runLines stack n lines).counters.Within (bound + lineBytes lines) := by
  induction lines generalizing stack n bound with
  | nil => exact hn
  | cons line lines ih =>
    obtain ⟨hLines, hSpans, hFallbacks, hMaxDepth⟩ := hn
    have hCount := g.length_spans_le stack line
    have hSteps := Nat.le_trans (List.countP_le_length (p := (·.isFallback)))
      (g.length_steps_le stack line)
    have hPeak := g.peakDepth_le_add stack line
    have hEnd := g.depth_tokenizeLine_le_peakDepth stack line
    have hEnter := g.depth_enter_le stack
    rw [lineBytes, ← Nat.add_assoc]
    refine ih ⟨?_, ?_, ?_, ?_⟩ ?_
    · exact Nat.add_le_add hLines (Nat.le_add_left 1 _)
    · exact Nat.add_le_add hSpans hCount
    · exact Nat.add_le_add hFallbacks (Nat.le_succ_of_le hSteps)
    · exact Nat.max_le.mpr ⟨by omega, by omega⟩
    · exact Nat.le_trans hEnd (by omega)

theorem within_run (text : String) :
    (g.run text).counters.Within (text.utf8ByteSize + 2) := by
  have hStart : ({} : Counters).Within 1 := by
    constructor <;> exact Nat.zero_le _
  have hDepth : g.initial.depth ≤ 1 := Nat.le_refl 1
  have hRun := g.within_runLines hStart hDepth (Text.lines text)
  have hBytes := lineBytes_lines_le text
  obtain ⟨hLines, hSpans, hFallbacks, hMaxDepth⟩ := hRun
  constructor <;> rw [run] <;> omega

end Grammar

end Highlight
