import Highlight.Grammar.Build
import Highlight.Proofs.Decoding
import Highlight.Proofs.RecordReading

/-! # Every spelling of a declaration is read

Each part of a declaration is read from every spelling of every value that stands for it. The text
that is printed for a declaration is one of its spellings, so that it is read back.
-/

namespace Highlight.Declaration

open Json

def PairFields.only (b : BracketPair) (keys : List String) : PairFields where
  opening := known keys "open" b.opening
  closing := known keys "close" b.closing
  tag := known keys "token" b.tag

theorem gathers_pair (b : BracketPair) : Gathers pairMember b.fields (PairFields.only b) := by
  constructor
  · simp only [BracketPair.fields, List.forall_mem_cons]
    refine ⟨?opening, ?closing, ?tag, by simp⟩
    all_goals
      rintro keys hNew _ rfl
      exact takes_new (reads_text _) hNew (fun _ => rfl) fun _ => by simp [PairFields.only]
  · intro key hKey
    simp only [BracketPair.fields, List.forall_mem_cons] at hKey
    obtain ⟨hOpen, hClose, hToken, -⟩ := hKey
    refine ⟨fun keys => ?_, fun p => ?_⟩
    · simp [PairFields.only, hOpen.symm, hClose.symm, hToken.symm]
    · funext s
      unfold pairMember
      split <;> first | rfl | contradiction

theorem reads_pair {b : BracketPair} {j : Json} (h : b.WrittenAs j) : Reads readPair j b := by
  cases h with
  | list h =>
    obtain _ | ⟨⟨⟩, _ | ⟨⟨⟩, _ | ⟨⟨⟩, ⟨⟩⟩⟩⟩ := h
    exact reads_record_list (.bind (consumes_requiredElement (reads_text _))
      (.bind (consumes_requiredElement (reads_text _))
        (.bind (consumes_requiredElement (reads_text _)) .pure)))
  | object h =>
    have hKeys := mem_keys_or h
    simp only [BracketPair.fields, List.forall_mem_cons, or_false] at hKeys
    obtain ⟨hOpen, hClose, hToken, -⟩ := hKeys
    refine reads_record ((gathers_pair b).collects h) fun s r hMembers => ?_
    refine except_bind_ok hMembers ?_
    refine except_bind_ok (require_known hOpen _) ?_
    refine except_bind_ok (require_known hClose _) ?_
    exact except_bind_ok (require_known hToken _) rfl

theorem reads_entry {e : Entry} {j : Json} (h : e.WrittenAs j) : Reads readEntry j e := by
  intro w t s hw ht hs
  have hFits : Fits entryDepth j := h.fits.mono (by decide)
  refine except_bind_ok (lift_eq_ok (ht.value_append hFits hw hs)) ?_
  simp only [Entry.ofJson?_of_writtenAs h]

def StateFields.only (x : StateDeclaration) (keys : List String) : StateFields where
  name := known keys "name" x.name
  entries := known keys "rules" x.entries

theorem reads_entries {es : List Entry} {j : Json} (h : WritesList Entry.WrittenAs es j) :
    Reads (readList readEntry) j es :=
  reads_writesList (fun _ _ => reads_entry) h

theorem gathers_state (x : StateDeclaration) :
    Gathers stateMember x.fields (StateFields.only x) := by
  constructor
  · simp only [StateDeclaration.fields, List.forall_mem_cons]
    refine ⟨?name, ?entries, by simp⟩
    case name =>
      rintro keys hNew _ rfl
      exact takes_new (reads_text _) hNew (fun _ => rfl) fun _ => by simp [StateFields.only]
    case entries =>
      intro keys hNew j hj
      exact takes_new (reads_entries hj) hNew (fun _ => rfl) fun _ => by simp [StateFields.only]
  · intro key hKey
    simp only [StateDeclaration.fields, List.forall_mem_cons] at hKey
    obtain ⟨hName, hRules, -⟩ := hKey
    refine ⟨fun keys => ?_, fun p => ?_⟩
    · simp [StateFields.only, hName.symm, hRules.symm]
    · funext s
      unfold stateMember
      split <;> first | rfl | contradiction

theorem reads_state {x : StateDeclaration} {j : Json} (h : x.WrittenAs j) :
    Reads readState j x := by
  cases h with
  | list h =>
    obtain _ | ⟨⟨⟩, _ | ⟨hRules, ⟨⟩⟩⟩ := h
    exact reads_record_list (.bind (consumes_requiredElement (reads_text _))
      (.bind (consumes_requiredElement (reads_entries hRules)) .pure))
  | object h =>
    have hKeys := mem_keys_or h
    simp only [StateDeclaration.fields, List.forall_mem_cons, or_false] at hKeys
    obtain ⟨hName, hRules, -⟩ := hKeys
    refine reads_record ((gathers_state x).collects h) fun s r hMembers => ?_
    refine except_bind_ok hMembers ?_
    refine except_bind_ok (require_known hName _) ?_
    exact except_bind_ok (require_known hRules _) rfl

def Fields.only (d : Declaration) (keys : List String) : Fields where
  version := known keys "version" d.version
  name := known keys "name" d.name
  root := known keys "root" d.root
  defaultTag := known keys "defaultToken" d.defaultTag
  ignoreCase := known keys "ignoreCase" d.ignoreCase
  tagEnding := known keys "tokenPostfix" d.tagEnding
  brackets := known keys "brackets" d.brackets
  states := known keys "states" d.states

theorem reads_pairs {bs : List BracketPair} {j : Json} (h : WritesList BracketPair.WrittenAs bs j) :
    Reads (readList readPair) j bs :=
  reads_writesList (fun _ _ => reads_pair) h

theorem reads_states {xs : List StateDeclaration} {j : Json}
    (h : WritesList StateDeclaration.WrittenAs xs j) : Reads (readList readState) j xs :=
  reads_writesList (fun _ _ => reads_state) h

theorem gathers_declaration (d : Declaration) :
    Gathers declarationMember d.fields (Fields.only d) := by
  constructor
  · simp only [fields, List.forall_mem_cons]
    refine ⟨?version, ?name, ?root, ?defaultTag, ?ignoreCase, ?tagEnding, ?brackets, ?states,
      by simp⟩
    case version =>
      rintro keys hNew _ rfl
      exact takes_new (reads_version _) hNew (fun _ => rfl) fun _ => by simp [Fields.only]
    case name | root | defaultTag | tagEnding =>
      rintro keys hNew _ rfl
      exact takes_new (reads_text _) hNew (fun _ => rfl) fun _ => by simp [Fields.only]
    case ignoreCase =>
      rintro keys hNew _ rfl
      exact takes_new (reads_flag _) hNew (fun _ => rfl) fun _ => by simp [Fields.only]
    case brackets =>
      intro keys hNew j hj
      exact takes_new (reads_pairs hj) hNew (fun _ => rfl) fun _ => by simp [Fields.only]
    case states =>
      intro keys hNew j hj
      exact takes_new (reads_states hj) hNew (fun _ => rfl) fun _ => by simp [Fields.only]
  · intro key hKey
    simp only [fields, List.forall_mem_cons] at hKey
    obtain ⟨hVersion, hName, hRoot, hTag, hCase, hEnding, hBrackets, hStates, -⟩ := hKey
    refine ⟨fun keys => ?_, fun p => ?_⟩
    · simp [Fields.only, hVersion.symm, hName.symm, hRoot.symm, hTag.symm, hCase.symm,
        hEnding.symm, hBrackets.symm, hStates.symm]
    · funext s
      unfold declarationMember
      split <;> first | rfl | contradiction

theorem reads_declaration {d : Declaration} {j : Json} (h : d.WrittenAs j) :
    Reads readDeclaration j d := by
  cases h with
  | list h =>
    obtain _ | ⟨⟨⟩, _ | ⟨⟨⟩, _ | ⟨⟨⟩, _ | ⟨⟨⟩, _ | ⟨⟨⟩, _ | ⟨⟨⟩, _ | ⟨hBrackets, _ |
      ⟨hStates, ⟨⟩⟩⟩⟩⟩⟩⟩⟩⟩ := h
    exact reads_record_list (.bind (consumes_element (reads_version _))
      (.bind (consumes_requiredElement (reads_text _))
      (.bind (consumes_requiredElement (reads_text _))
      (.bind (consumes_requiredElement (reads_text _))
      (.bind (consumes_element (reads_flag _))
      (.bind (consumes_element (reads_text _))
      (.bind (consumes_element (reads_pairs hBrackets))
      (.bind (consumes_requiredElement (reads_states hStates)) .pure))))))))
  | object h =>
    have hKeys := mem_keys_or h
    simp only [fields, List.forall_mem_cons, or_false] at hKeys
    obtain ⟨hVersion, hName, hRoot, hTag, hCase, hEnding, hBrackets, hStates, -⟩ := hKeys
    refine reads_record ((gathers_declaration d).collects h) fun s r hMembers => ?_
    refine except_bind_ok hMembers ?_
    refine except_bind_ok (require_known hName _) ?_
    refine except_bind_ok (require_known hRoot _) ?_
    refine except_bind_ok (require_known hTag _) ?_
    refine except_bind_ok (require_known hStates _) ?_
    simp only [Fields.only, getD_known hVersion, getD_known hCase, getD_known hEnding,
      getD_known hBrackets]

theorem read_spelled {d : Declaration} {text : String} (h : d.SpelledBy text) :
    read text = .ok d := by
  obtain @⟨_, w, t, v, h, hw, ht, hv⟩ := h
  have hStops : Stops v := by
    rw [← List.append_nil v]
    exact hv.stops_append fun _ h => by cases h
  have hEnd : dropBlanks v = [] := List.dropWhile_eq_nil_iff.mpr hv
  have hRead : readDeclaration (String.ofList (w ++ (t ++ v))).toList = .ok (d, v) := by
    rw [String.toList_ofList]
    exact reads_declaration h hw ht hStops
  refine except_bind_ok hRead ?_
  simp only [hEnd]

theorem reads_every_spelling (d : Declaration) (text : String) (h : d.SpelledBy text) :
    Grammar.readDeclaration text = .ok d := by
  rw [Grammar.readDeclaration, read_spelled h]
  rfl

def circular : Declaration where
  name := "n"
  root := "s"
  defaultTag := ""
  states := [⟨"s", [.include "s"]⟩]

def circularEntry : Json :=
  .obj [("regex", .ofNat 0), ("include", .str "s")]

/-- The state is a list, the fields have an order of their own, and some are unknown. -/
def circularForm : Json :=
  .obj [("states", .arr [.arr [.str "s", .arr [circularEntry]]]), ("x", .arr [.null]),
    ("name", .str "n"), ("root", .str "s"), ("defaultToken", .str "")]

def circularText : String :=
  "\x7b \"states\":[[\"s\",[\x7b\"regex\":0,\"include\":\"s\"\x7d]]],\"x\":[null]," ++
    "\"name\":\"\\u006e\",\"root\":\"s\",\"defaultToken\" : \"\"\x7d\n"

theorem writtenAs_circularForm : circular.WrittenAs circularForm := by
  have hInclude : Entry.WrittenAs (.include "s") circularEntry := by
    refine .include ⟨by simp [Entry.includeFields], ?_⟩
    simp only [Entry.includeFields, List.forall_mem_cons]
    exact ⟨fun _ => ⟨List.not_mem_nil, .natural (by decide)⟩, by simp⟩
  have hStates : WritesList StateDeclaration.WrittenAs circular.states
      (.arr [.arr [.str "s", .arr [circularEntry]]]) :=
    .list (.cons (.list (.cons rfl (.cons (.list (.cons hInclude .nil)) .nil))) .nil)
  refine .object ⟨?_, ?_⟩
  · simp [fields, hStates]
    simp [circular]
  · have hUnknown : Fits 100 (.arr [.null]) := .list (List.forall_mem_singleton.mpr .null)
    simp [fields, hUnknown]

theorem spelledBy_circularText : circular.SpelledBy circularText := by
  have hEntry : Spells circularEntry _ :=
    .object (.member (.first .nil) (spellsString_quote _) (.mark .nil .nil) (.number _)
      (.member (.comma .nil .nil) (spellsString_quote _) (.mark .nil .nil)
        (.string (spellsString_quote _)) (.close .nil)))
  have hState : Spells (.arr [.str "s", .arr [circularEntry]]) _ :=
    .list (.item (.first .nil) (.string (spellsString_quote _)) (.item (.comma .nil .nil)
      (.list (.item (.first .nil) hEntry (.close .nil))) (.close .nil)))
  have hDigits : SpellsHex 'n'.toNat "006e".toList :=
    .digits (i := 0) (j := 0) (k := 6) (l := 14) rfl rfl rfl rfl
  have hName : SpellsString "n" _ := .quoted (.cons (.hex hDigits) .nil)
  have hText : Spells circularForm _ :=
    .object (.member (.first .space) (spellsString_quote _) (.mark .nil .nil)
      (.list (.item (.first .nil) hState (.close .nil)))
      (.member (.comma .nil .nil) (spellsString_quote _) (.mark .nil .nil)
        (.list (.item (.first .nil) .null (.close .nil)))
        (.member (.comma .nil .nil) (spellsString_quote _) (.mark .nil .nil) (.string hName)
          (.member (.comma .nil .nil) (spellsString_quote _) (.mark .nil .nil)
            (.string (spellsString_quote _))
            (.member (.comma .nil .nil) (spellsString_quote _) (.mark .space .space)
              (.string (spellsString_quote _)) (.close .nil))))))
  have hSpelled := SpelledBy.text writtenAs_circularForm .nil hText (blank_lineBreak 0)
  rwa [show String.ofList _ = circularText by decide] at hSpelled

theorem reads_circularText :
    circular.SpelledBy circularText ∧ Grammar.readDeclaration circularText = .ok circular :=
  ⟨spelledBy_circularText, reads_every_spelling circular circularText spelledBy_circularText⟩

theorem readDeclaration_print (d : Declaration) : Grammar.readDeclaration d.print = .ok d := by
  rw [Grammar.readDeclaration, read_spelled d.spelledBy_print]
  rfl

theorem print_round_trip :
    (∀ d : Declaration, Grammar.readDeclaration d.print = .ok d) ∧
      Function.Injective print ∧
        ∀ (text : String) (d : Declaration), Grammar.readDeclaration text = .ok d →
          ∃ e, Grammar.readDeclaration d.print = .ok e ∧ e.print = d.print := by
  refine ⟨readDeclaration_print, fun d e h => ?_, fun _ d _ => ?_⟩
  · have hRead := readDeclaration_print d
    rw [h, readDeclaration_print e] at hRead
    exact (Except.ok.inj hRead).symm
  · exact ⟨d, readDeclaration_print d, rfl⟩

end Highlight.Declaration
