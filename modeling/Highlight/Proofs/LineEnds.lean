import Highlight.Fsd
import Highlight.Proofs.LineByLine

/-! # Line ends

A line ends with a line feed, with or without a carriage return in front of it, and the last line
may do without an end. Whichever way the lines of a text end, they are the same lines, so a text is
tokenized and counted in the same way whatever system it was written on.
-/

namespace Highlight

namespace Text

def returned (c : Char) : List Char :=
  if c = '\n' then ['\r', '\n'] else [c]

def withReturns (s : String) : String :=
  String.ofList (s.toList.flatMap returned)

def lineEnds : List String := ["\n", "\r\n"]

theorem splitLines_returned {current cs : List Char} (hOpen : current.head? ≠ some '\r')
    (hText : '\r' ∉ cs) : splitLines current (cs.flatMap returned) = splitLines current cs := by
  induction cs generalizing current with
  | nil => rfl
  | cons c cs ih =>
    rw [List.mem_cons, not_or] at hText
    obtain ⟨hFirst, hRest⟩ := hText
    rw [List.flatMap_cons]
    by_cases hFeed : c = '\n'
    · subst hFeed
      have hLine : splitLines current ('\r' :: '\n' :: cs.flatMap returned) =
          current.reverse :: splitLines [] (cs.flatMap returned) := rfl
      change splitLines current ('\r' :: '\n' :: cs.flatMap returned) = _
      rw [hLine, ih (by simp) hRest, splitLines, if_pos rfl, closeLine_eq_reverse hOpen]
    · have hOpen : (c :: current).head? ≠ some '\r' := by
        rw [List.head?_cons]
        exact fun hHead => hFirst (Option.some.inj hHead).symm
      rw [returned, if_neg hFeed, List.singleton_append, splitLines, if_neg hFeed, splitLines,
        if_neg hFeed, ih hOpen hRest]

/-- A line end behind the last character of an open line closes this line and opens no other one. -/
theorem splitLines_append_lineEnd {x : Char} (hFeed : x ≠ '\n') (hReturn : x ≠ '\r')
    {lineEnd : String} (hEnd : lineEnd ∈ lineEnds) (current cs : List Char) :
    splitLines current (cs ++ x :: lineEnd.toList) = splitLines current (cs ++ [x]) := by
  induction cs generalizing current with
  | nil =>
    have hOpen : (x :: current).head? ≠ some '\r' := by simpa using hReturn
    have hClose := closeLine_eq_reverse hOpen
    simp only [lineEnds, List.mem_cons, List.not_mem_nil, or_false] at hEnd
    obtain rfl | rfl := hEnd
    · simp [splitLines, hFeed, hClose]
    · simp [splitLines, hFeed, closeLine]
  | cons c cs ih =>
    rw [List.cons_append, List.cons_append, splitLines, splitLines, ih, ih]

theorem lines_withReturns {s : String} (h : '\r' ∉ s.toList) : lines (withReturns s) = lines s := by
  rw [lines, withReturns, String.toList_ofList, splitLines_returned (by simp) h, lines]

theorem lines_append_lineEnd {s : String} (hSome : s ≠ "")
    (hFeed : s.toList.getLast? ≠ some '\n') (hReturn : s.toList.getLast? ≠ some '\r')
    {lineEnd : String} (hEnd : lineEnd ∈ lineEnds) : lines (s ++ lineEnd) = lines s := by
  have hNe : s.toList ≠ [] := mt String.toList_eq_nil_iff.mp hSome
  obtain ⟨cs, x, hText⟩ : ∃ cs x, s.toList = cs ++ [x] :=
    ⟨_, _, (List.dropLast_concat_getLast hNe).symm⟩
  rw [hText, List.getLast?_concat, ne_eq, Option.some.injEq] at hFeed hReturn
  have hSplit := splitLines_append_lineEnd hFeed hReturn hEnd [] cs
  rw [lines, String.toList_append, hText, List.append_assoc, List.singleton_append, hSplit, lines,
    hText]

end Text

namespace Grammar

variable {g : Grammar} {t u : String}

/-- The texts are tokenized alike, at once or by a session, and the runs over them count the
same. -/
structure ReadsAlike (g : Grammar) (t u : String) : Prop where
  lines_eq : Text.lines t = Text.lines u
  tokenizeText_eq : g.tokenizeText t = g.tokenizeText u
  replaceText_eq : ∀ s : Session, s.grammar = g → s.replaceText t = s.replaceText u
  same_lines : ∀ s : Session, s.grammar = g → (s.replaceText t).1 = g.tokenizeText u
  run_eq : g.run t = g.run u

theorem ReadsAlike.of_lines (h : Text.lines t = Text.lines u) : g.ReadsAlike t u where
  lines_eq := h
  tokenizeText_eq := by rw [tokenizeText, h, tokenizeText]
  replaceText_eq s _ := by rw [Session.replaceText, h, Session.replaceText]
  same_lines s hs := by
    rw [Session.replaceText, Session.tokenizeLines_eq, h, ← hs]
    rfl
  run_eq := by rw [run, h, run]

/-- A text without carriage returns may get one in front of every line feed, and a text that stops
in the middle of a line may get a line end. -/
theorem line_ends_alike (g : Grammar) :
    (∀ text : String, '\r' ∉ text.toList → g.ReadsAlike (Text.withReturns text) text) ∧
      ∀ text : String, text ≠ "" → text.toList.getLast? ≠ some '\n' →
        text.toList.getLast? ≠ some '\r' →
        ∀ lineEnd ∈ Text.lineEnds, g.ReadsAlike (text ++ lineEnd) text :=
  ⟨fun _ h => .of_lines (Text.lines_withReturns h), fun _ hSome hFeed hReturn _ hEnd =>
    .of_lines (Text.lines_append_lineEnd hSome hFeed hReturn hEnd)⟩

theorem fsd_line_ends_alike :
    '\r' ∉ "service A\n\n\x7b data B\n".toList ∧
      Text.withReturns "service A\n\n\x7b data B\n" = "service A\r\n\r\n\x7b data B\r\n" ∧
      Fsd.grammar.ReadsAlike (Text.withReturns "service A\n\n\x7b data B\n")
        "service A\n\n\x7b data B\n" ∧
      "\nservice\r A" ≠ "" ∧ "\nservice\r A".toList.getLast? = some 'A' ∧
      "\r\n" ∈ Text.lineEnds ∧ Fsd.grammar.ReadsAlike ("\nservice\r A" ++ "\r\n") "\nservice\r A" :=
  have h := line_ends_alike Fsd.grammar
  ⟨by decide, by decide, h.1 _ (by decide), by decide, by decide, by decide,
    h.2 _ (by decide) (by decide) (by decide) _ (by decide)⟩

end Grammar

end Highlight
