import Highlight.Fsd
import Highlight.Proofs.CleanRuns

/-! # The moves of the FSD grammar

The rules of each state as patterns and effects, once the declaration has been read and its includes
have been replaced.
-/

namespace Highlight

namespace Unicode.CharSet

theorem contains_nil {x : Char} : (CharSet.mk []).contains x = true ↔ False := by
  simp [contains, hasCode]

theorem contains_cons {x : Char} {r : Nat × Nat} {rs : List (Nat × Nat)} :
    (CharSet.mk (r :: rs)).contains x = true ↔
      r.1 ≤ x.toNat ∧ x.toNat ≤ r.2 ∨ (CharSet.mk rs).contains x = true := by
  simp [contains, hasCode]

theorem contains_single {x y : Char} : (single x).contains y = true ↔ y = x := by
  rw [← Char.toNat_inj]
  simp only [single, range, contains_cons, contains_nil, or_false]
  omega

end Unicode.CharSet

namespace Fsd

open Unicode CharSet

namespace At

@[match_pattern] abbrev root : StateId := 0
@[match_pattern] abbrev service : StateId := 1
@[match_pattern] abbrev member : StateId := 2
@[match_pattern] abbrev typeName : StateId := 3
@[match_pattern] abbrev attrName : StateId := 6
@[match_pattern] abbrev attrValue : StateId := 7
@[match_pattern] abbrev string : StateId := 8
@[match_pattern] abbrev markdown : StateId := 9

end At

def blanks : CharSet := ⟨[(9, 10), (13, 13), (32, 32)]⟩

def letters : CharSet := ⟨[(65, 90), (97, 122)]⟩

def alphanumerics : CharSet := ⟨[(48, 57), (65, 90), (97, 122)]⟩

def attributeChars : CharSet := ⟨[(43, 43), (45, 46), (48, 57), (65, 90), (95, 95), (97, 122)]⟩

def hexDigits : CharSet := ⟨[(48, 57), (65, 70), (97, 102)]⟩

def inLine : CharSet := ⟨[(0, 9), (11, 1114111)]⟩

def plainChars : CharSet := ⟨[(0, 33), (35, 91), (93, 1114111)]⟩

def escapes : CharSet :=
  ⟨[(34, 34), (39, 39), (92, 92), (98, 98), (102, 102), (110, 110), (114, 114), (116, 116)]⟩

def special : CharSet := ⟨[(33, 33), (40, 40), (42, 42), (91, 91), (95, 96)]⟩

def ordinary : CharSet := ⟨[(0, 32), (34, 39), (41, 41), (43, 90), (92, 94), (97, 1114111)]⟩

theorem toNat_le (x : Char) : x.toNat ≤ 1114111 := by
  have hValid : x.toNat < 0xD800 ∨ 0xDFFF < x.toNat ∧ x.toNat < 0x110000 := x.valid
  omega

theorem contains_inLine {x : Char} : inLine.contains x = true ↔ x ≠ '\n' := by
  have hLast := toNat_le x
  have hFeed : x = '\n' ↔ x.toNat = 10 := Char.toNat_inj.symm
  simp only [inLine, contains_cons, contains_nil, or_false, ne_eq, hFeed]
  omega

theorem contains_plainChars {x : Char} : plainChars.contains x = true ↔ x ≠ '"' ∧ x ≠ '\\' := by
  have hLast := toNat_le x
  have hQuote : x = '"' ↔ x.toNat = 34 := Char.toNat_inj.symm
  have hBackslash : x = '\\' ↔ x.toNat = 92 := Char.toNat_inj.symm
  simp only [plainChars, contains_cons, contains_nil, or_false, ne_eq, hQuote, hBackslash]
  omega

theorem contains_plainChars_of_hexDigits {x : Char} (h : hexDigits.contains x = true) :
    plainChars.contains x = true := by
  simp only [hexDigits, plainChars, contains_cons, contains_nil, or_false] at h ⊢
  omega

theorem contains_special_or_ordinary (x : Char) :
    special.contains x = true ∨ ordinary.contains x = true := by
  have hLast := toNat_le x
  simp only [special, ordinary, contains_cons, contains_nil, or_false]
  omega

theorem lt_of_contains_blanks {x : Char} (h : blanks.contains x = true) : x.toNat < 128 := by
  simp only [blanks, contains_cons, contains_nil, or_false] at h
  omega

/-- What is to be shown of such a character can be checked for each code point. -/
theorem exists_ofNat {x : Char} (h : x.toNat < 128) : ∃ n < 128, Char.ofNat n = x :=
  ⟨x.toNat, h, Char.ofNat_toNat x⟩

def char (x : Char) : Pattern := .set (.single x)

def many (s : CharSet) : Pattern := .times ⟨0, none, true⟩ (.set s)

def oneOrMore (s : CharSet) : Pattern := .times ⟨1, none, true⟩ (.set s)

def identifierPattern : Pattern := .seq (.set letters) (many alphanumerics)

def commentPattern : Pattern :=
  .seq (.seq (.seq (char '/') (char '/')) (many inLine)) (.look .textEnd)

def stringItem : Pattern := .alt (.set plainChars) (.seq (char '\\') (.set inLine))

def openQuotePattern : Pattern :=
  .seq (.seq (char '"') (.times ⟨0, none, true⟩ (.group 1 stringItem))) (.look .textEnd)

def escapePattern : Pattern :=
  .seq (char '\\') (.alt (.set escapes) (.seq (char 'u') (.times ⟨4, some 4, true⟩ (.set hexDigits))))

def layoutMoves : List Move :=
  [⟨false, oneOrMore blanks, .stay⟩, ⟨false, commentPattern, .stay⟩]

def wordMove : Move := ⟨false, .seq identifierPattern (.look (.word .edge false)), .stay⟩

def identifierMove : Move := ⟨false, identifierPattern, .stay⟩

def attributeMove : Move := ⟨false, char '[', .push At.attrName⟩

def moves : StateId → List Move
  | At.root =>
    [⟨true, .seq (.seq (char '#') (oneOrMore (.single '#'))) (many inLine), .push At.markdown⟩,
      ⟨true, .seq (char '#') (many inLine), .push At.markdown⟩] ++ layoutMoves ++
    [attributeMove, wordMove, identifierMove, ⟨false, char '\x7b', .push At.service⟩]
  | At.service => layoutMoves ++
    [attributeMove, ⟨false, char ':', .stay⟩, wordMove, identifierMove,
      ⟨false, char '\x7b', .push At.member⟩, ⟨false, char '\x7d', .pop⟩]
  | At.member => layoutMoves ++
    [attributeMove, ⟨false, char ',', .stay⟩, identifierMove, ⟨false, char ':', .push At.typeName⟩,
      ⟨false, char '\x7d', .pop⟩]
  | At.typeName => layoutMoves ++
    [identifierMove, ⟨false, .set (.ofString "<>[]"), .stay⟩, ⟨false, char ';', .pop⟩]
  | At.attrName => layoutMoves ++
    [⟨false, oneOrMore attributeChars, .stay⟩, ⟨false, .set (.ofString "(),"), .stay⟩,
      ⟨false, char ':', .push At.attrValue⟩, ⟨false, char ']', .pop⟩]
  | At.attrValue => layoutMoves ++
    [⟨false, oneOrMore attributeChars, .stay⟩, ⟨false, openQuotePattern, .stay⟩,
      ⟨false, char '"', .push At.string⟩, ⟨false, .set (.ofString "),"), .pop⟩]
  | At.string =>
    [⟨false, oneOrMore plainChars, .stay⟩, ⟨false, escapePattern, .stay⟩,
      ⟨false, .seq (char '\\') (.set inLine), .stay⟩, ⟨false, char '"', .pop⟩]
  | _ => []

def naming : List StateId := [At.root, At.service, At.member, At.typeName]

def attributing : List StateId := [At.attrName, At.attrValue]

def spaced : List StateId := naming ++ attributing

def formal : List StateId := At.string :: spaced

theorem mem_formal_of_mem_spaced {s : StateId} (h : s ∈ spaced) : s ∈ formal :=
  List.mem_cons_of_mem _ h

def atRoot : StateStack := ⟨At.root, []⟩

/-- All that is used of the grammar, read off in one evaluation of it. -/
theorem grammar_table :
    grammar.initial = atRoot ∧ grammar.depthLimit = 100 ∧
    grammar.stateNames = ["root", "service", "member", "typeName", "whitespace", "attribute",
      "attrName", "attrValue", "string", "markdown"] ∧
    (∀ s ∈ formal, grammar.movesAt s = moves s) ∧
    (∀ v ∈ grammar.movesAt At.markdown, v.effect = .stay) ∧
    ⟨false, oneOrMore ordinary, .stay⟩ ∈ grammar.movesAt At.markdown ∧
    ⟨false, .set special, .stay⟩ ∈ grammar.movesAt At.markdown := by
  decide +kernel

theorem initial_eq : grammar.initial = atRoot := grammar_table.1

theorem depthLimit_eq : grammar.depthLimit = 100 := grammar_table.2.1

theorem movesAt_eq {s : StateId} (h : s ∈ formal) : grammar.movesAt s = moves s :=
  grammar_table.2.2.2.1 s h

theorem length_states : grammar.states.length = 10 := by
  have hNames := congrArg List.length grammar_table.2.2.1
  rwa [Grammar.stateNames, List.length_map] at hNames

theorem accepts_iff {stack : StateStack} :
    grammar.accepts stack = true ↔ ∀ id ∈ stack.ids, id < 10 := by
  rw [Grammar.accepts, length_states, List.all_eq_true]
  simp only [decide_eq_true_eq]

theorem enter_atRoot : grammar.enter atRoot = atRoot :=
  if_pos (accepts_iff.mpr (by decide))

end Fsd

end Highlight
