import Highlight.Proofs.Fsd.Stacks
import Highlight.Proofs.Fsd.Words

/-! # Names and keywords

At a letter the states `root`, `service` and `typeName` take the longest name that stands there in
one step. The first two compare it with their keywords only where a word ends behind it. A word may
go on with an underscore or with a letter or digit of another script, and then the rule for whole
words does not match any part of the name either: the next rule takes it.
-/

namespace Highlight

open Text Unicode

theorem CaseTable.get?_ofList_const (words : List String) (tag text : String) :
    (ofList (words.map (·, tag))).get? text = if text ∈ words then some tag else none := by
  have hFold : ∀ t : CaseTable, ((words.map (·, tag)).foldl (fun t e => t.insert e.1 e.2) t).get? text =
      if text ∈ words then some tag else t.get? text := by
    induction words with
    | nil => simp
    | cons word words ih =>
      intro t
      rw [List.map_cons, List.foldl_cons, ih, get?_insert]
      by_cases hLater : text ∈ words
      · simp [hLater]
      · by_cases hFirst : text = word
        · simp [hFirst]
        · simp [hLater, hFirst]
  exact hFold empty

theorem utf8ByteSize_of_ascii {cs : List Char} (h : ∀ x ∈ cs, x.toNat < 128) :
    (String.ofList cs).utf8ByteSize = cs.length := by
  induction cs with
  | nil => rfl
  | cons x cs ih =>
    obtain ⟨hFirst, hOthers⟩ := List.forall_mem_cons.mp h
    have hSize : x.utf8Size = 1 := by
      rw [Char.utf8Size_eq_one_iff, UInt32.le_iff_toNat_le]
      exact Nat.le_of_lt_succ hFirst
    rw [Cursor.utf8ByteSize_ofList_cons, hSize, ih hOthers, List.length_cons, Nat.add_comm]

namespace Grammar

variable {g : Grammar} {stack : StateStack} {c : Cursor} {rule : Rule} {m : Match}

theorem movesAt_eq_map (g : Grammar) (id : StateId) :
    g.movesAt id = (g.rulesOf id).map fun rule => ⟨rule.lineStart, rule.pattern, rule.effect⟩ := by
  rw [movesAt, rulesOf, List.map_map]
  rfl

theorem step_of_found (hFound : (g.rulesOf stack.top).findSome? (·.tryAt c) = some (rule, m))
    (hLength : m.stop.rest.length < c.rest.length) :
    c.Reaches m.stop ∧ (g.step stack c).spans = g.spansOf rule c m ∧
      (g.step stack c).cursor = m.stop ∧ (g.step stack c).stack = stack.apply g.depthLimit rule.effect := by
  rw [← map_firstMatch?] at hFound
  obtain ⟨⟨id, _, _⟩, hFirst, hEq⟩ := Option.map_eq_some_iff.mp hFound
  cases hEq
  refine ⟨Pattern.reaches_of_match? (of_firstMatch?_eq_some hFirst).2.2, ?_,
    cursor_step_of_firstMatch? hFirst hLength, ?_⟩
  · simp only [step, hFirst]
  · simp only [step, hFirst]

end Grammar

namespace Fsd

open Grammar

structure LongestName (text : List Char) (i : Identifier) (after : List Char) : Prop where
  text_eq : text = i.chars ++ after
  longest : ∀ j : Identifier, j.chars <+: text → j.chars.length ≤ i.chars.length

theorem exists_longestName {x : Char} (h : x.isAlpha = true) (xs : List Char) :
    ∃ i after, LongestName (x :: xs) i after ∧ ∀ y ∈ after.head?, y.isAlphanum = false := by
  have hAll : (xs.takeWhile Char.isAlphanum).all Char.isAlphanum = true := List.all_takeWhile
  refine ⟨⟨x, xs.takeWhile Char.isAlphanum, h, hAll⟩, xs.dropWhile Char.isAlphanum,
    ⟨?_, fun j hj => ?_⟩, fun y hy => ?_⟩
  · exact congrArg (x :: ·) List.takeWhile_append_dropWhile.symm
  · obtain ⟨-, behind, rfl⟩ := List.cons_prefix_cons.mp hj
    simp only [Identifier.chars, List.takeWhile_append_of_pos j.isAlphanum_of_mem, List.length_cons,
      List.length_append]
    omega
  · have hHead := List.head?_dropWhile_not Char.isAlphanum xs
    rw [Option.mem_def.mp hy] at hHead
    simpa using hHead

def wordRule (words : List String) : Rule :=
  ⟨wholeWord, wordMove.pattern, false, false, keywordOr "type.identifier" words, .stay⟩

def nameRule (o : Outcome) : Rule := ⟨identifier, identifierPattern, false, false, o, .stay⟩

def nameRules : StateId → List Rule
  | At.root => [wordRule rootKeywords, nameRule (.emit "type.identifier")]
  | At.service => [wordRule serviceKeywords, nameRule (.emit "type.identifier")]
  | At.typeName => [nameRule (keywordOr "type.identifier" primitiveTypes)]
  | _ => []

def classifying : List StateId := [At.root, At.service, At.typeName]

theorem name_table :
    (∀ s ∈ classifying, (grammar.rulesOf s).filter (·.pattern.mayStart 'a') = nameRules s) ∧
      grammar.ignoreCase = false := by
  decide +kernel

theorem findSome?_nameRules {c : Cursor} {x : Char} {xs : List Char} (hRest : c.rest = x :: xs)
    (hLetter : x.isAlpha = true) {s : StateId} (hs : s ∈ classifying) :
    (grammar.rulesOf s).findSome? (·.tryAt c) = (nameRules s).findSome? (·.tryAt c) := by
  have hNaming : s ∈ naming := by
    revert s
    decide
  have hFormal : s ∈ formal := mem_formal_of_mem_spaced (List.mem_append_left attributing hNaming)
  have hStart : ∀ rule ∈ grammar.rulesOf s,
      rule.pattern.mayStart 'a' = false → rule.tryAt c = none := by
    intro rule hRule hNot
    have hMove : ⟨rule.lineStart, rule.pattern, rule.effect⟩ ∈ moves s := by
      rw [← movesAt_eq hFormal, movesAt_eq_map]
      exact List.mem_map_of_mem hRule
    rw [← mayStart_letter hLetter s hNaming _ hMove] at hNot
    simp [Rule.tryAt, Pattern.match?_eq_none_of_mayStart hRest hNot]
  rw [← name_table.1 s hs, findSome?_filter hStart]

variable {c : Cursor} {i : Identifier} {after : List Char} {words : List String} {o : Outcome}

def WordEnds (after : List Char) : Prop := ∀ x ∈ after.head?, isWord x = false

theorem not_contains_of_head? (h : ∀ x ∈ after.head?, x.isAlphanum = false) :
    ∀ x ∈ after.head?, alphanumerics.contains x = false := by
  intro x hx
  refine Bool.eq_false_iff.mpr fun hContains => ?_
  have hSame := isAlphanum_of_contains hContains
  rw [h x hx] at hSame
  cases hSame

theorem tryAt_nameRule (o : Outcome) (hRest : c.rest = i.chars ++ after)
    (hAfter : ∀ x ∈ after.head?, x.isAlphanum = false) :
    ∃ m, (nameRule o).tryAt c = some (nameRule o, m) ∧ m.stop.rest = after := by
  obtain ⟨u, hPrefers, hCursor⟩ :=
    exists_prefers_identifier i hRest (not_contains_of_head? hAfter)
  obtain ⟨m, hMatch, hStop⟩ := exists_match?_of_prefers hPrefers hCursor hRest
  have hPattern : (nameRule o).pattern.match? c = some m := hMatch
  refine ⟨m, ?_, hStop⟩
  rw [Rule.tryAt, hPattern]
  rfl

theorem tryAt_wordRule (words : List String) (hRest : c.rest = i.chars ++ after)
    (hAfter : ∀ x ∈ after.head?, x.isAlphanum = false) (hEnd : WordEnds after) :
    ∃ m, (wordRule words).tryAt c = some (wordRule words, m) ∧ m.stop.rest = after := by
  obtain ⟨u, hPrefers, hCursor⟩ :=
    exists_prefers_identifier i hRest (not_contains_of_head? hAfter)
  have hEdge := holds_edge i hRest hEnd
  rw [← hCursor] at hEdge
  obtain ⟨m, hMatch, hStop⟩ := exists_match?_of_prefers
    (Pattern.prefers_seq hPrefers (Pattern.prefers_look hEdge)) hCursor hRest
  have hPattern : (wordRule words).pattern.match? c = some m := hMatch
  refine ⟨m, ?_, hStop⟩
  rw [Rule.tryAt, hPattern]
  rfl

/-- The cursor stands behind some character of a name, in front of others of it or of what follows.
-/
structure InName (after : List Char) (d : Cursor) : Prop where
  before : d.before.any isWord = true
  rest : ∃ others, d.rest = others ++ after ∧ ∀ x ∈ others, x.isAlphanum = true

theorem InName.of_matches {d e : Cursor} {s : CharSet} (h : (Pattern.set s).Matches d e)
    (hWord : ∀ x, s.contains x = true → x.isAlphanum = true) {others : List Char}
    (hRest : d.rest = others ++ after) (hOthers : ∀ x ∈ others, x.isAlphanum = true)
    (hAfter : ∀ x ∈ after.head?, x.isAlphanum = false) : InName after e := by
  obtain ⟨x, hNext, hSet⟩ := h
  obtain ⟨hCons, hCursor⟩ := Cursor.next?_eq_some_iff.mp hNext
  have hChar := hWord x hSet
  refine ⟨?_, ?_⟩
  · rw [hCursor]
    simpa using (contains_alphanumerics hChar).2
  · rw [hRest] at hCons
    cases others with
    | nil =>
      -- what follows the name does not begin with a character of it
      rw [List.nil_append] at hCons
      have hNot := hAfter x (by rw [hCons]; rfl)
      rw [hChar] at hNot
      cases hNot
    | cons y others =>
      obtain ⟨-, hTail⟩ := List.cons.inj hCons
      exact ⟨others, hTail.symm, fun z hz => hOthers z (List.mem_cons_of_mem y hz)⟩

theorem inName_of_matches {e : Cursor} (hRest : c.rest = i.chars ++ after)
    (hAfter : ∀ x ∈ after.head?, x.isAlphanum = false) (h : identifierPattern.Matches c e) :
    InName after e := by
  obtain ⟨d, hFirst, n, -, hTurns⟩ := h
  have hLetters : ∀ x, letters.contains x = true → x.isAlphanum = true := by
    intro x hx
    refine isAlphanum_of_contains ?_
    simp only [letters, alphanumerics, CharSet.contains_cons, CharSet.contains_nil, or_false] at hx ⊢
    omega
  have hChars : ∀ x ∈ i.chars, x.isAlphanum = true := by
    refine List.forall_mem_cons.mpr ⟨?_, i.isAlphanum_of_mem⟩
    rw [Char.isAlphanum, i.first_isAlpha, Bool.true_or]
  refine hTurns.keep (.of_matches hFirst hLetters hRest hChars hAfter) ?_
  rintro d e ⟨-, others, hOthers, hAll⟩ hTurn
  exact .of_matches hTurn (fun _ => isAlphanum_of_contains) hOthers hAll hAfter

/-- If a word goes on behind the name, it does so behind each part of the name too. -/
theorem tryAt_wordRule_eq_none (words : List String) (hRest : c.rest = i.chars ++ after)
    (hAfter : ∀ x ∈ after.head?, x.isAlphanum = false) (hGoesOn : ¬ WordEnds after) :
    (wordRule words).tryAt c = none := by
  have hNone : (wordRule words).pattern.match? c = none := by
    rw [Option.eq_none_iff_forall_ne_some]
    intro m hMatch
    -- Wherever the name is left, a word character stands on each side.
    obtain ⟨e, hName, -, hEdge⟩ := Pattern.matches_of_match? hMatch
    obtain ⟨hBefore, others, hOthers, hAll⟩ := inName_of_matches hRest hAfter hName
    have hNext : e.rest.head?.any isWord = true := by
      rw [hOthers]
      cases others with
      | nil =>
        simp only [WordEnds, not_forall] at hGoesOn
        obtain ⟨x, hx, hWord⟩ := hGoesOn
        rw [List.nil_append, Option.mem_def.mp hx, Option.any_some]
        simpa using hWord
      | cons y others => exact (contains_alphanumerics (hAll y List.mem_cons_self)).2
    simp [Look.holds, Boundary.holds, hBefore, hNext] at hEdge
  rw [Rule.tryAt, hNone]
  rfl

def Keyword (name : String) (after : List Char) (state : String) : Prop :=
  (state = "root" ∧ name ∈ rootKeywords ∧ WordEnds after) ∨
  (state = "service" ∧ name ∈ serviceKeywords ∧ WordEnds after) ∨
  (state = "typeName" ∧ name ∈ primitiveTypes)

/-- The step passes the name with one span, which says whether it is a keyword. -/
structure TakesName (stack : StateStack) (c : Cursor) (state : String) (i : Identifier)
    (after : List Char) (s : Step) : Prop where
  spans_eq : ∃ tag, s.spans = [⟨c.offset, tag, none⟩] ∧
    (tag = "keyword" ↔ Keyword (String.ofList i.chars) after state) ∧
    (¬ Keyword (String.ofList i.chars) after state → tag = "type.identifier")
  rest_eq : s.cursor.rest = after
  offset_eq : s.cursor.offset = c.offset + i.chars.length
  stack_eq : s.stack = stack

theorem textTo_eq {d : Cursor} (hRest : c.rest = i.chars ++ after) (hStop : d.rest = after) :
    c.textTo d = String.ofList i.chars := by
  rw [Cursor.textTo, hRest, hStop, List.length_append, Nat.add_sub_cancel, List.take_left]

theorem wholeSpan_keywordOr {m : Match} (hRest : c.rest = i.chars ++ after)
    (hStop : m.stop.rest = after) (words : List String) :
    grammar.wholeSpan (keywordOr "type.identifier" words) c m =
      ⟨c.offset, if String.ofList i.chars ∈ words then "keyword" else "type.identifier", none⟩ := by
  simp only [wholeSpan, keywordOr, Outcome.ofCases, classify, Declaration.caseKey, name_table.2,
    Bool.false_eq_true, if_false, textTo_eq hRest hStop, CaseTable.get?_ofList_const]
  split <;> rfl

theorem takesName_of_found {stack : StateStack} {rule : Rule} {m : Match} {state tag : String}
    (hFound : (grammar.rulesOf stack.top).findSome? (·.tryAt c) = some (rule, m))
    (hRest : c.rest = i.chars ++ after) (hStop : m.stop.rest = after) (hEffect : rule.effect = .stay)
    (hGroups : rule.outcome.isGroups = false)
    (hSpan : grammar.wholeSpan rule.outcome c m = ⟨c.offset, tag, none⟩)
    (hTag : tag = "keyword" ∧ Keyword (String.ofList i.chars) after state ∨
      tag = "type.identifier" ∧ ¬ Keyword (String.ofList i.chars) after state) :
    TakesName stack c state i after (grammar.step stack c) := by
  have hLength : m.stop.rest.length < c.rest.length := by
    rw [hStop, hRest, List.length_append, Identifier.chars, List.length_cons]
    omega
  obtain ⟨hReaches, hStepSpans, hCursor, hStack⟩ := step_of_found hFound hLength
  rw [spansOf_eq_wholeSpan hGroups, hSpan] at hStepSpans
  refine ⟨⟨tag, hStepSpans, ?_⟩, ?_, ?_, ?_⟩
  · rcases hTag with ⟨rfl, hKeyword⟩ | ⟨rfl, hNot⟩
    · exact ⟨iff_of_true rfl hKeyword, fun hNot => absurd hKeyword hNot⟩
    · exact ⟨iff_of_false (by decide) hNot, fun _ => rfl⟩
  · rw [hCursor, hStop]
  · -- What the step passes is the name, with one byte for each of its characters.
    obtain ⟨mid, hMid, hOffset⟩ := hReaches.exists_append
    rw [hRest, hStop] at hMid
    have hAscii : ∀ x ∈ i.chars, x.toNat < 128 := by
      refine List.forall_mem_cons.mpr ⟨lt_of_isAlpha i.first_isAlpha, fun x hx => ?_⟩
      exact lt_of_isAlphanum (i.isAlphanum_of_mem x hx)
    rw [hCursor, hOffset, ← List.append_cancel_right hMid, utf8ByteSize_of_ascii hAscii]
  · rw [hStack, hEffect, StateStack.apply]

theorem takesName_of_wordRule {stack : StateStack} {state : String}
    (hRules : (grammar.rulesOf stack.top).findSome? (·.tryAt c) =
      [wordRule words, nameRule (.emit "type.identifier")].findSome? (·.tryAt c))
    (hRest : c.rest = i.chars ++ after) (hAfter : ∀ x ∈ after.head?, x.isAlphanum = false)
    (hKeyword : Keyword (String.ofList i.chars) after state ↔
      String.ofList i.chars ∈ words ∧ WordEnds after) :
    TakesName stack c state i after (grammar.step stack c) := by
  by_cases hEnd : WordEnds after
  · obtain ⟨m, hTry, hStop⟩ := tryAt_wordRule words hRest hAfter hEnd
    rw [List.findSome?_cons, hTry] at hRules
    refine takesName_of_found hRules hRest hStop rfl rfl (wholeSpan_keywordOr hRest hStop words) ?_
    rw [hKeyword]
    by_cases hName : String.ofList i.chars ∈ words
    · exact .inl ⟨if_pos hName, hName, hEnd⟩
    · exact .inr ⟨if_neg hName, fun h => hName h.1⟩
  · obtain ⟨m, hTry, hStop⟩ := tryAt_nameRule (.emit "type.identifier") hRest hAfter
    rw [List.findSome?_cons, tryAt_wordRule_eq_none words hRest hAfter hEnd, List.findSome?_cons,
      hTry] at hRules
    refine takesName_of_found hRules hRest hStop rfl rfl rfl (.inr ⟨rfl, fun h => ?_⟩)
    exact hEnd (hKeyword.mp h).2

theorem takesName_of_nameRule {stack : StateStack} {state : String}
    (hRules : (grammar.rulesOf stack.top).findSome? (·.tryAt c) =
      [nameRule (keywordOr "type.identifier" words)].findSome? (·.tryAt c))
    (hRest : c.rest = i.chars ++ after) (hAfter : ∀ x ∈ after.head?, x.isAlphanum = false)
    (hKeyword : Keyword (String.ofList i.chars) after state ↔ String.ofList i.chars ∈ words) :
    TakesName stack c state i after (grammar.step stack c) := by
  obtain ⟨m, hTry, hStop⟩ := tryAt_nameRule (keywordOr "type.identifier" words) hRest hAfter
  rw [List.findSome?_cons, hTry] at hRules
  refine takesName_of_found hRules hRest hStop rfl rfl (wholeSpan_keywordOr hRest hStop words) ?_
  rw [hKeyword]
  by_cases hName : String.ofList i.chars ∈ words
  · exact .inl ⟨if_pos hName, hName⟩
  · exact .inr ⟨if_neg hName, hName⟩

/-- At a letter a step takes the longest name, and tags it as a keyword exactly if it is one in the
state on top. -/
theorem names_classified {stack : StateStack} {c : Cursor} {x : Char} {xs : List Char}
    (hRest : c.rest = x :: xs) (hLetter : x.isAlpha = true) {state : String}
    (hState : state ∈ ["root", "service", "typeName"])
    (hTop : grammar.stateName? stack.top = some state) :
    ∃ i after, LongestName c.rest i after ∧
      TakesName stack c state i after (grammar.step stack c) := by
  obtain ⟨i, after, hLongest, hAfter⟩ := exists_longestName hLetter xs
  rw [← hRest] at hLongest
  refine ⟨i, after, hLongest, ?_⟩
  have hName := hLongest.text_eq
  have hRules : ∀ s ∈ classifying, stack.top = s →
      (grammar.rulesOf stack.top).findSome? (·.tryAt c) = (nameRules s).findSome? (·.tryAt c) := by
    rintro s hs rfl
    exact findSome?_nameRules hRest hLetter hs
  rw [stateName?_eq_some_iff] at hTop
  simp only [List.mem_cons, List.not_mem_nil, or_false] at hState
  rcases hState with rfl | rfl | rfl
  · have hRoot : stack.top = At.root := (Option.some.inj hTop).symm
    exact takesName_of_wordRule (hRules At.root (by decide) hRoot) hName hAfter (by simp [Keyword])
  · have hService : stack.top = At.service := (Option.some.inj hTop).symm
    exact takesName_of_wordRule (hRules At.service (by decide) hService) hName hAfter (by simp [Keyword])
  · have hType : stack.top = At.typeName := (Option.some.inj hTop).symm
    exact takesName_of_nameRule (hRules At.typeName (by decide) hType) hName hAfter (by simp [Keyword])

theorem service_name_classified :
    grammar.stateName? atRoot.top = some "root" ∧
      ∃ i after, LongestName "service_ A".toList i after ∧
        TakesName atRoot (.ofLine "service_ A") "root" i after
          (grammar.step atRoot (.ofLine "service_ A")) := by
  have hTop : grammar.stateName? atRoot.top = some "root" := stateName?_eq_some_iff.mpr (by decide)
  have hRest : (Cursor.ofLine "service_ A").rest = 's' :: "ervice_ A".toList := by decide
  exact ⟨hTop, names_classified hRest (by decide) (by decide) hTop⟩

end Fsd

end Highlight
